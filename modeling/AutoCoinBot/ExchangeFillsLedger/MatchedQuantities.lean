/-
  ExchangeFillsLedger.MatchedQuantities — how much of an order the records of
  `build_exchange_fill_records` account for.

  `_match_fill` asks of one fill whether the order executed as much as the fill, and it asks every
  fill anew.
-/
import AutoCoinBot.ExchangeFillsLedger.MatchFills

namespace AutoCoinBot

open Library

/-! ## Records and fills of an order -/

/-- The records called `MATCHED_DB_ORDER` with an order's id. -/
def matchedRecords (records : List LedgerRow) (id : ℕ) : List LedgerRow :=
  records.filter (fun record =>
    record.matchStatus = .matchedDbOrder ∧ record.matchedDbOrderId = some id)

/-- No order accounts for more than it executed, but for the tolerance of its records. -/
def QuantitiesBounded (records : List LedgerRow) (dbOrders : List DbOrder) : Prop :=
  ∀ order ∈ dbOrders, matchedRecords records order.id ≠ [] →
    ((matchedRecords records order.id).map LedgerRow.quantity).sum
      ≤ (normalizeDbFill order).quantity
        + (matchedRecords records order.id).length * (1 / 10 ^ 8)

instance (records : List LedgerRow) (dbOrders : List DbOrder) :
    Decidable (QuantitiesBounded records dbOrders) := by
  unfold QuantitiesBounded; infer_instance

/-- The row that a fill fits: the first candidate with its market and its side that is of the
fill's size, or larger. -/
def fittingRow (dbFills : List DbFill) (fill : ExchangeFill) : Option DbFill :=
  (matchCandidates dbFills fill).find? (fun row => (candidateMatch fill row).isSome)

/-- The fills of a payload that fit a row of an id, without those whose key is repeated. -/
def fittingFills (exchangeName : String) (fills : List ExchangeFill) (dbFills : List DbFill)
    (id : ℕ) : List ExchangeFill :=
  fills.filter (fun fill =>
    (fills.map (ExchangeFill.canonicalFillKey exchangeName)).count
        (fill.canonicalFillKey exchangeName) ≤ 1
      ∧ (fittingRow dbFills fill).map DbFill.id = some id)

/-! ## One fill -/

theorem candidateMatch_quantity_le {fill : ExchangeFill} {row : DbFill}
    (h : (candidateMatch fill row).isSome = true) :
    fill.quantity ≤ row.quantity + 1 / 10 ^ 8 := by
  have hclose : |row.quantity - fill.quantity| ≤ 1 / 10 ^ 8 →
      fill.quantity ≤ row.quantity + 1 / 10 ^ 8 := by
    intro habs
    have hlow := (abs_le.mp habs).1
    linarith
  unfold candidateMatch at h
  dsimp only at h
  split_ifs at h with hother hexact hfee hpart
  · cases h
  · exact hclose hexact.1
  · exact hclose hfee.1
  · exact hpart.1.1
  · cases h

theorem matchFill_eq_fittingRow (dbFills : List DbFill) (fill : ExchangeFill) :
    (matchFill fill (matchCandidates dbFills fill)).1 = fittingRow dbFills fill := by
  unfold fittingRow
  generalize matchCandidates dbFills fill = candidates
  have hfind : candidates.findSome? (fun c => (candidateMatch fill c).map (fun text => (c, text)))
      = (candidates.find? (fun row => (candidateMatch fill row).isSome)).bind
          (fun c => (candidateMatch fill c).map (fun text => (c, text))) := by
    induction candidates with
    | nil => rfl
    | cons c candidates ih =>
      rw [List.findSome?_cons, List.find?_cons]
      cases hc : candidateMatch fill c with
      | some text => simp [hc]
      | none => simp [ih]
  unfold matchFill
  rw [hfind]
  cases hrow : candidates.find? (fun row => (candidateMatch fill row).isSome) with
  | none => cases candidates <;> rfl
  | some row =>
    have hsome : (candidateMatch fill row).isSome = true :=
      List.find?_some (p := fun row => (candidateMatch fill row).isSome) hrow
    obtain ⟨text, htext⟩ := Option.isSome_iff_exists.mp hsome
    simp [htext]

theorem fittingRow_some {dbFills : List DbFill} {fill : ExchangeFill} {row : DbFill}
    (h : fittingRow dbFills fill = some row) :
    row ∈ dbFills ∧ fill.quantity ≤ row.quantity + 1 / 10 ^ 8 := by
  have hfits : (candidateMatch fill row).isSome = true :=
    List.find?_some (p := fun row => (candidateMatch fill row).isSome) h
  refine ⟨?_, candidateMatch_quantity_le hfits⟩
  rcases List.mem_append.mp (List.mem_of_find?_eq_some h) with hmem | hmem
  · exact (List.mem_filter.mp hmem).1
  · exact (List.mem_filter.mp hmem).1

/-! ## The records of an order -/

section Records

variable (exchangeName : String) (fills : List ExchangeFill) (dbFills : List DbFill)
  (source : String)

theorem isReconciled_iff (fill : ExchangeFill) :
    IsReconciled exchangeName fills dbFills fill
      ↔ (fills.map (ExchangeFill.canonicalFillKey exchangeName)).count
            (fill.canonicalFillKey exchangeName) ≤ 1
        ∧ (fittingRow dbFills fill).isSome := by
  rw [← matchFill_eq_fittingRow]
  unfold IsReconciled matchStatus
  dsimp only
  split_ifs with hrepeated hfound hreal hgiven
  · exact iff_of_false (fun h => h) (fun h => absurd h.1 (not_le.mpr hrepeated))
  · exact iff_of_true rfl ⟨not_lt.mp hrepeated, hfound⟩
  · exact iff_of_false (fun h => h) (fun h => hfound h.2)
  · exact iff_of_false (fun h => h) (fun h => hfound h.2)
  · exact iff_of_false (fun h => h) (fun h => hfound h.2)

theorem matchedRecords_eq (id : ℕ) :
    matchedRecords (fills.map (recordOf exchangeName fills dbFills source)) id
      = (fittingFills exchangeName fills dbFills id).map
          (recordOf exchangeName fills dbFills source) := by
  unfold matchedRecords fittingFills
  rw [List.filter_map]
  congr 1
  refine List.filter_congr (fun fill _ => ?_)
  have hstatus : (recordOf exchangeName fills dbFills source fill).matchStatus = .matchedDbOrder
      ↔ _ := isReconciled_iff exchangeName fills dbFills fill
  have hid : (recordOf exchangeName fills dbFills source fill).matchedDbOrderId
      = (fittingRow dbFills fill).map DbFill.id := by
    rw [← matchFill_eq_fittingRow]
    rfl
  rw [Function.comp_apply, decide_eq_decide, hstatus, hid]
  constructor
  · rintro ⟨⟨hkey, -⟩, hrow⟩
    exact ⟨hkey, hrow⟩
  · rintro ⟨hkey, hrow⟩
    refine ⟨⟨hkey, ?_⟩, hrow⟩
    obtain ⟨row, hfound, -⟩ := Option.map_eq_some_iff.mp hrow
    rw [hfound]
    rfl

end Records

/-! ## What an order accounts for -/

theorem order_unique {dbOrders : List DbOrder} {order order' : DbOrder} (h : order ∈ dbOrders)
    (h' : order' ∈ dbOrders) (hid : order'.id = order.id)
    (honce : dbOrders.countP (fun o => o.id = order.id) ≤ 1) : order' = order := by
  rw [List.countP_eq_length_filter] at honce
  have hmem : order ∈ dbOrders.filter (fun o => o.id = order.id) :=
    List.mem_filter.mpr ⟨h, decide_eq_true rfl⟩
  have hmem' : order' ∈ dbOrders.filter (fun o => o.id = order.id) :=
    List.mem_filter.mpr ⟨h', decide_eq_true hid⟩
  have hpos := List.length_pos_of_mem hmem
  obtain ⟨only, honly⟩ := List.length_eq_one_iff.mp (Nat.le_antisymm honce hpos)
  rw [honly] at hmem hmem'
  exact (List.mem_singleton.mp hmem').trans (List.mem_singleton.mp hmem).symm

/-- An order that one fill cannot decide about: two fills or more fit it, or its id stands in
the list twice. -/
def Crowded (dbOrders : List DbOrder) (fitting : List ExchangeFill) (order : DbOrder) : Prop :=
  2 ≤ fitting.length ∨ 2 ≤ dbOrders.countP (fun o => o.id = order.id)

/-- **When no order accounts for more than it executed**: where more than one fill of the
payload fits an order, one by one, the fills come to no more than it executed. -/
theorem matched_quantity_bounded_iff (exchangeName : String)
    (exchangeOrders : List ExchangeOrder) (dbOrders : List DbOrder) (source : String)
    (periodStart : Option UtcTime) :
    QuantitiesBounded
        (buildExchangeFillRecords exchangeName exchangeOrders dbOrders source periodStart) dbOrders
      ↔ ∀ order ∈ dbOrders,
          let fitting := fittingFills exchangeName (periodFills exchangeOrders periodStart)
            (dbOrders.map normalizeDbFill) order.id
          fitting ≠ [] → Crowded dbOrders fitting order →
            (fitting.map ExchangeFill.quantity).sum
              ≤ (normalizeDbFill order).quantity + fitting.length * (1 / 10 ^ 8) := by
  rw [buildExchangeFillRecords_eq]
  unfold QuantitiesBounded
  refine forall₂_congr (fun order horder => ?_)
  dsimp only
  rw [matchedRecords_eq, List.length_map, List.map_map, ne_eq, List.map_eq_nil_iff]
  show (_ → (List.map ExchangeFill.quantity _).sum ≤ _) ↔ _
  refine forall_congr' (fun hsome => ⟨fun hbound _ => hbound, fun hcrowded => ?_⟩)
  by_cases hcrowd : Crowded dbOrders (fittingFills exchangeName
      (periodFills exchangeOrders periodStart) (dbOrders.map normalizeDbFill) order.id) order
  · exact hcrowded hcrowd
  · -- one fill, and the row it fits is the order's
    obtain ⟨hfew, honce⟩ := not_or.mp hcrowd
    have hpos := List.length_pos_of_ne_nil hsome
    obtain ⟨fill, hone⟩ := List.length_eq_one_iff.mp
      (Nat.le_antisymm (Nat.lt_succ_iff.mp (not_le.mp hfew)) hpos)
    have hfill : fill ∈ fittingFills exchangeName (periodFills exchangeOrders periodStart)
        (dbOrders.map normalizeDbFill) order.id := hone ▸ List.mem_singleton_self fill
    have hfits := of_decide_eq_true (List.mem_filter.mp hfill).2
    obtain ⟨row, hrow, hid⟩ := Option.map_eq_some_iff.mp hfits.2
    obtain ⟨hmem, hle⟩ := fittingRow_some hrow
    obtain ⟨order', horder', rfl⟩ := List.mem_map.mp hmem
    obtain rfl : order' = order :=
      order_unique horder horder' hid (Nat.lt_succ_iff.mp (not_le.mp honce))
    rw [hone]
    simpa using hle

/-- An order whose row was written when six of its ten units were executed. -/
def overfilledOrder : ExchangeOrder :=
  { twoTradeOrder with
    trades := some
      [{ uuid := some "trade-1", price := some 281, volume := some 6, funds := some 1686,
         createdAt := some 0 },
       { uuid := some "trade-2", price := some 281, volume := some 4, funds := some 1124,
         createdAt := some 1 }] }

def sixUnitRow : DbOrder :=
  { twoTradeRow with executedVolume := some 6, filledAmountKrw := some 1686 }

theorem six_unit_row_absorbs_ten :
    let records := buildExchangeFillRecords "bithumb" [overfilledOrder] [sixUnitRow] "exchange_api"
      none
    records.map LedgerRow.matchStatus = [.matchedDbOrder, .matchedDbOrder]
      ∧ ((matchedRecords records sixUnitRow.id).map LedgerRow.quantity).sum = 10
      ∧ (normalizeDbFill sixUnitRow).quantity = 6
      ∧ ¬ QuantitiesBounded records [sixUnitRow] := by
  decide +kernel

end AutoCoinBot
