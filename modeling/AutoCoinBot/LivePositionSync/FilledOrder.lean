/-
  LivePositionSync.FilledOrder — what the buy-fill sync reads off an
  order before it looks at positions.

  An order is named by its exchange uuid. All logs of that uuid are loaded, the
  best filled one is canonical, and price, volume, amount and fee come from the
  raw exchange order first and from the canonical log second.
-/
import AutoCoinBot.Database.LivePositions
import AutoCoinBot.Database.LiveOrderLogs

namespace AutoCoinBot

open Library

/-! ## The session and the order's uuid -/

/-- The `session` dict of a sync, with the percents its `config` may carry. -/
structure SyncSession where
  id : ℕ
  exchange : String
  market : String
  candidateStrategyId : ℕ
  currentOpenOrderUuid : Option String := none
  stopLossPercent : Option ℚ := none
  takeProfitPercent : Option ℚ := none

/-- `_order_uuid`: the first uuid that is not empty. -/
def syncOrderUuid (orderLog : Option LiveOrderLog) (rawOrder : RawOrder)
    (session : SyncSession) : String :=
  orText (toText (orderLog.bind LiveOrderLog.orderUuid))
    (orText (toText rawOrder.uuid)
      (orText (toText rawOrder.orderId)
        (orText (toText rawOrder.id) (toText session.currentOpenOrderUuid))))

/-! ## Figures of a fill -/

def filledPrice (orderLog : Option LiveOrderLog) (rawOrder : RawOrder) : ℚ :=
  orNum (toFloat rawOrder.price) (toFloat (orderLog.bind LiveOrderLog.price))

def filledVolume (orderLog : Option LiveOrderLog) (rawOrder : RawOrder) : ℚ :=
  orNum (toFloat rawOrder.executedVolume)
    (orNum (toFloat rawOrder.volume)
      (orNum (toFloat (orderLog.map LiveOrderLog.executedVolume))
        (toFloat (orderLog.bind LiveOrderLog.volume))))

def filledAmount (orderLog : Option LiveOrderLog) (rawOrder : RawOrder) (price volume : ℚ) : ℚ :=
  orNum (toFloat rawOrder.executedFunds)
    (orNum (toFloat rawOrder.filledAmountKrw)
      (orNum (toFloat (orderLog.map LiveOrderLog.filledAmountKrw)) (price * volume)))

def paidFee (orderLog : Option LiveOrderLog) (rawOrder : RawOrder) : ℚ :=
  orNum (toFloat rawOrder.paidFee) (toFloat (orderLog.map LiveOrderLog.paidFee))

def scalePreview (log : Option LiveOrderLog) : ScalePreview :=
  (log.map (fun l => l.orderPreviewPayload.scaleIn)).getD {}

/-! ## The canonical log -/

/-- The key `(filled volume, updated_at, id)` of `a` lies below that of `b`. -/
def LiveOrderLog.sortsBefore (a b : LiveOrderLog) : Prop :=
  filledVolume (some a) {} < filledVolume (some b) {}
    ∨ (filledVolume (some a) {} = filledVolume (some b) {}
      ∧ (a.updatedAt < b.updatedAt ∨ (a.updatedAt = b.updatedAt ∧ a.id < b.id)))

instance : DecidableRel LiveOrderLog.sortsBefore := fun a b =>
  inferInstanceAs (Decidable (filledVolume (some a) {} < filledVolume (some b) {}
    ∨ (filledVolume (some a) {} = filledVolume (some b) {}
      ∧ (a.updatedAt < b.updatedAt ∨ (a.updatedAt = b.updatedAt ∧ a.id < b.id)))))

/-- `_best` of a non-empty list: `max` keeps the first of equal keys. -/
def bestLog (log : LiveOrderLog) (logs : List LiveOrderLog) : LiveOrderLog :=
  logs.foldl (fun best l => if best.sortsBefore l then l else best) log

def canonicalLog (db : Database) (orderLog : Option LiveOrderLog) (orderUuid : String) :
    Option LiveOrderLog × List LiveOrderLog :=
  let logs := if orderUuid = "" then [] else loadLiveOrderLogsByUuid db orderUuid
  match logs with
  | [] => (orderLog, orderLog.toList)
  | first :: rest =>
    match logs.filter (fun l => l.orderPreviewPayload.scaleIn.scaleIn) with
    | scale :: scales => (some (bestLog scale scales), logs)
    | [] => (some (bestLog first rest), logs)

theorem bestLog_mem (log : LiveOrderLog) (logs : List LiveOrderLog) :
    bestLog log logs ∈ log :: logs := by
  induction logs generalizing log with
  | nil => simp [bestLog]
  | cons l ls ih =>
    unfold bestLog
    rw [List.foldl_cons]
    split
    · exact List.mem_cons_of_mem _ (ih l)
    · rcases List.mem_cons.mp (ih log) with h | h
      · exact List.mem_cons.mpr (.inl h)
      · exact List.mem_cons_of_mem _ (List.mem_cons_of_mem _ h)

theorem filledVolume_le_bestLog (log : LiveOrderLog) (logs : List LiveOrderLog) :
    ∀ l ∈ log :: logs, filledVolume (some l) {} ≤ filledVolume (some (bestLog log logs)) {} := by
  induction logs generalizing log with
  | nil => simp [bestLog]
  | cons l ls ih =>
    have hstep : bestLog log (l :: ls)
        = bestLog (if log.sortsBefore l then l else log) ls := by
      simp [bestLog, List.foldl_cons]
    rw [hstep]
    intro m hm
    have hhead := ih (if log.sortsBefore l then l else log) _ List.mem_cons_self
    by_cases hlt : log.sortsBefore l
    · rw [if_pos hlt] at hhead ⊢
      -- the new head beats the old one
      have hle : filledVolume (some log) {} ≤ filledVolume (some l) {} := by
        rcases hlt with h | h
        · exact le_of_lt h
        · exact le_of_eq h.1
      rcases List.mem_cons.mp hm with rfl | hm
      · exact le_trans hle hhead
      · exact ih l m hm
    · rw [if_neg hlt] at hhead ⊢
      rcases List.mem_cons.mp hm with rfl | hm
      · exact hhead
      · rcases List.mem_cons.mp hm with rfl | hm
        · have hle : filledVolume (some m) {} ≤ filledVolume (some log) {} := by
            unfold LiveOrderLog.sortsBefore at hlt
            push Not at hlt
            exact hlt.1
          exact le_trans hle hhead
        · exact ih log m (List.mem_cons_of_mem _ hm)

/-! ## The guards -/

/-- The reasons a sync gives for a `SKIPPED` result. -/
inductive SkipReason where
  | missingOrderUuid
  | notBuy
  | notEntry
  | emptyFill
  | ledgerPositionMissing
  | scaleTargetNotOpen

/-- What the sync works with once the guards have passed. -/
structure FilledOrder where
  orderUuid : String
  canonicalLog : Option LiveOrderLog
  logs : List LiveOrderLog
  price : ℚ
  volume : ℚ
  amount : ℚ
  fee : ℚ

/-- The lines of `sync_filled_entry_order_to_position` up to `EMPTY_FILL`. -/
def filledOrder (db : Database) (orderLog : Option LiveOrderLog) (rawOrder : RawOrder)
    (session : SyncSession) : Except SkipReason FilledOrder :=
  let orderUuid := syncOrderUuid orderLog rawOrder session
  if orderUuid = "" then .error .missingOrderUuid
  else
    let (canonical, logs) := canonicalLog db orderLog orderUuid
    if canonical.any (fun l => l.side != .buy) then .error .notBuy
    else if canonical.any (fun l => l.orderPurpose != .entry) then .error .notEntry
    else
      let price := filledPrice canonical rawOrder
      let volume := filledVolume canonical rawOrder
      let amount := filledAmount canonical rawOrder price volume
      let fee := paidFee canonical rawOrder
      if price ≤ 0 ∨ volume ≤ 0 ∨ amount ≤ 0 then .error .emptyFill
      else .ok ⟨orderUuid, canonical, logs, price, volume, amount, fee⟩

/-- **What a passed guard says about the order.** -/
theorem filledOrder_ok_spec {db : Database} {orderLog : Option LiveOrderLog}
    {rawOrder : RawOrder} {session : SyncSession} {f : FilledOrder}
    (h : filledOrder db orderLog rawOrder session = .ok f) :
    f.orderUuid = syncOrderUuid orderLog rawOrder session ∧ f.orderUuid ≠ ""
      ∧ (f.canonicalLog, f.logs) = canonicalLog db orderLog f.orderUuid
      ∧ f.volume = filledVolume f.canonicalLog rawOrder
      ∧ 0 < f.price ∧ 0 < f.volume ∧ 0 < f.amount := by
  unfold filledOrder at h
  simp only at h
  split_ifs at h with huuid hside hpurpose hempty
  push Not at hempty
  cases h
  exact ⟨rfl, huuid, rfl, rfl, hempty.1, hempty.2.1, hempty.2.2⟩

/-- **A BUY ENTRY with positive figures passes.** -/
theorem filledOrder_of_canonical {db : Database} {orderLog : Option LiveOrderLog}
    {rawOrder : RawOrder} {session : SyncSession} {uuid : String} {row : LiveOrderLog}
    (huuid : syncOrderUuid orderLog rawOrder session = uuid) (hne : uuid ≠ "")
    (hrow : (canonicalLog db orderLog uuid).1 = some row) (hside : row.side = .buy)
    (hpurpose : row.orderPurpose = .entry) (hprice : 0 < filledPrice (some row) rawOrder)
    (hvolume : 0 < filledVolume (some row) rawOrder)
    (hamount : 0 < filledAmount (some row) rawOrder (filledPrice (some row) rawOrder)
      (filledVolume (some row) rawOrder)) :
    ∃ f, filledOrder db orderLog rawOrder session = .ok f ∧ f.orderUuid = uuid
      ∧ f.canonicalLog = some row ∧ f.volume = filledVolume (some row) rawOrder := by
  have hpositive : ¬ (filledPrice (some row) rawOrder ≤ 0 ∨ filledVolume (some row) rawOrder ≤ 0
      ∨ filledAmount (some row) rawOrder (filledPrice (some row) rawOrder)
        (filledVolume (some row) rawOrder) ≤ 0) := by
    simp [not_le.mpr hprice, not_le.mpr hvolume, not_le.mpr hamount]
  refine ⟨⟨uuid, some row, (canonicalLog db orderLog uuid).2, filledPrice (some row) rawOrder,
    filledVolume (some row) rawOrder, filledAmount (some row) rawOrder
      (filledPrice (some row) rawOrder) (filledVolume (some row) rawOrder),
    paidFee (some row) rawOrder⟩, ?_, rfl, rfl, rfl⟩
  unfold filledOrder
  simp only [huuid, if_neg hne, hrow, Option.any_some, hside, hpurpose, bne_self_eq_false,
    Bool.false_eq_true, if_false, if_neg hpositive]

end AutoCoinBot
