/-
  ExchangeFillsLedger.MatchFills — `match_fills` (app/trading_reconciliation.py),
  beside the matching of `build_exchange_fill_records`.

  Both look a fill up by its order's uuid and its client id. The ledger asks every fill anew
  and is content with a part of a row. `match_fills` wants the whole quantity and the whole
  value of a row, and gives every row to one fill only.
-/
import AutoCoinBot.ExchangeFillsLedger.FillRecords
import AutoCoinBot.Library.Coupling
import AutoCoinBot.Library.GreedyMatch

namespace AutoCoinBot

open Library

/-! ## `match_fills` -/

/-- `_index_by`: what is found under a value, each row with its place. -/
def indexBy {α : Type} (field : α → String) (rows : List α) (value : String) : List (α × ℕ) :=
  rows.zipIdx.filter (fun row => field row.1 ≠ "" && field row.1 == value)

/-- The rows that `match_fills` may give to a fill. -/
def fillCandidates (dbFills : List DbFill) (fill : ExchangeFill) : List (DbFill × ℕ) :=
  indexBy DbFill.exchangeOrderUuid dbFills fill.exchangeOrderUuid
    ++ indexBy DbFill.clientOrderId dbFills fill.clientOrderId

/-- A row that tells the same fill: market, side, quantity and value. -/
def SameFill (row : DbFill) (fill : ExchangeFill) : Prop :=
  row.market = fill.market ∧ row.side = fill.side
    ∧ |row.quantity - fill.quantity| ≤ 1 / 10 ^ 8 ∧ |row.amountKrw - fill.amountKrw| ≤ 5

instance (row : DbFill) (fill : ExchangeFill) : Decidable (SameFill row fill) :=
  inferInstanceAs (Decidable (_ ∧ _ ∧ _ ∧ _))

def bestFillMatch (fill : ExchangeFill) (candidates : List (DbFill × ℕ)) (matched : List ℕ) :
    Option ℕ :=
  (candidates.find? (fun c => c.2 ∉ matched ∧ SameFill c.1 fill)).map Prod.snd

/-- `matched_db` and `matched_exchange`. -/
structure MatchState where
  matchedDb : List ℕ := []
  matchedExchange : List ℕ := []

def matchStep (dbFills : List DbFill) (s : MatchState) (fill : ExchangeFill × ℕ) : MatchState :=
  match bestFillMatch fill.1 (fillCandidates dbFills fill.1) s.matchedDb with
  | some index =>
    { matchedDb := index :: s.matchedDb, matchedExchange := fill.2 :: s.matchedExchange }
  | none => s

def matchedFills (dbFills : List DbFill) (exchangeFills : List ExchangeFill) : MatchState :=
  run (matchStep dbFills) {} exchangeFills.zipIdx

structure FillGroup (α : Type) where
  count : ℕ
  amountKrw : ℚ
  feeKrw : ℚ
  items : List α

def fillGroup {α : Type} (amount fee : α → ℚ) (fills : List α) : FillGroup α :=
  { count := fills.length
    amountKrw := (fills.map amount).sum
    feeKrw := (fills.map fee).sum
    items := fills.take 20 }

/-- An item of `fee_mismatches`. -/
structure FeeMismatch where
  exchangeOrderUuid : String
  dbFee : ℚ
  exchangeFee : ℚ
  feeDiff : ℚ

/-- `fee_mismatches`: the fee of a row against that of its order's first fill. The group's
amount and fee are both the sum of the differences. -/
def feeMismatches (dbFills : List DbFill) (exchangeFills : List ExchangeFill) :
    FillGroup FeeMismatch :=
  let items := dbFills.filterMap (fun row =>
    match indexBy ExchangeFill.exchangeOrderUuid exchangeFills row.exchangeOrderUuid with
    | [] => none
    | (fill, _) :: _ =>
      if 1 < |row.fee - fill.fee| then
        some { exchangeOrderUuid := row.exchangeOrderUuid, dbFee := row.fee,
               exchangeFee := fill.fee, feeDiff := row.fee - fill.fee }
      else none)
  fillGroup FeeMismatch.feeDiff FeeMismatch.feeDiff items

/-- What `match_fills` reports. -/
structure MatchReport where
  exchangeFillCount : ℕ
  dbFillCount : ℕ
  matchedFillCount : ℕ
  missingExchangeFillInDb : FillGroup ExchangeFill
  dbOnlyTrade : FillGroup DbFill
  feeMismatches : FillGroup FeeMismatch

/-- The rows at the places that are not among `matched`. -/
def unmatchedRows {α : Type} (matched : List ℕ) (rows : List α) : List α :=
  (rows.zipIdx.filter (fun row => row.2 ∉ matched)).map Prod.fst

def matchFills (dbFills : List DbFill) (exchangeFills : List ExchangeFill) : MatchReport :=
  let s := matchedFills dbFills exchangeFills
  { exchangeFillCount := exchangeFills.length
    dbFillCount := dbFills.length
    matchedFillCount := s.matchedExchange.length
    missingExchangeFillInDb :=
      fillGroup ExchangeFill.amountKrw ExchangeFill.fee
        (unmatchedRows s.matchedExchange exchangeFills)
    dbOnlyTrade := fillGroup DbFill.amountKrw DbFill.fee (unmatchedRows s.matchedDb dbFills)
    feeMismatches := feeMismatches dbFills exchangeFills }

/-- The rows that `build_equity_reconciliation` passes on. -/
def DbFill.hasReference (row : DbFill) : Bool :=
  row.market ≠ "" && (row.exchangeOrderUuid ≠ "" || row.clientOrderId ≠ "")

def periodFills (exchangeOrders : List ExchangeOrder) (periodStart : Option UtcTime) :
    List ExchangeFill :=
  match periodStart with
  | none => normalizeExchangeFills exchangeOrders
  | some start =>
    (normalizeExchangeFills exchangeOrders).filter
      (fun fill => start ≤ fill.executedAtUtc.getD start)

/-! ## What one fill takes -/

theorem places_ne {α : Type} (rows : List α) :
    rows.zipIdx.Pairwise (fun row row' => row.2 ≠ row'.2) := by
  have hplaces : (rows.zipIdx.map Prod.snd).Nodup := List.zipIdx_map_snd 0 rows ▸ List.nodup_range'
  exact List.pairwise_map.mp hplaces

/-- A row carries the fill's uuid or its client id. -/
def SharesReference (row : DbFill) (fill : ExchangeFill) : Prop :=
  (row.exchangeOrderUuid ≠ "" ∧ row.exchangeOrderUuid = fill.exchangeOrderUuid)
    ∨ (row.clientOrderId ≠ "" ∧ row.clientOrderId = fill.clientOrderId)

instance (row : DbFill) (fill : ExchangeFill) : Decidable (SharesReference row fill) :=
  inferInstanceAs (Decidable ((_ ∧ _) ∨ (_ ∧ _)))

/-- A row of the fill's order that tells the same fill and has not been given away. -/
def HasFreeRow (dbFills : List DbFill) (taken : List ℕ) (fill : ExchangeFill) : Prop :=
  ∃ row ∈ dbFills.zipIdx, row.2 ∉ taken ∧ SharesReference row.1 fill ∧ SameFill row.1 fill

instance (dbFills : List DbFill) (taken : List ℕ) (fill : ExchangeFill) :
    Decidable (HasFreeRow dbFills taken fill) :=
  inferInstanceAs (Decidable (∃ row ∈ dbFills.zipIdx, _))

theorem mem_indexBy {α : Type} {field : α → String} {rows : List α} {value : String}
    {row : α × ℕ} :
    row ∈ indexBy field rows value ↔ row ∈ rows.zipIdx ∧ field row.1 ≠ "" ∧ field row.1 = value := by
  simp [indexBy]

theorem mem_fillCandidates {dbFills : List DbFill} {fill : ExchangeFill} {row : DbFill × ℕ} :
    row ∈ fillCandidates dbFills fill
      ↔ row ∈ dbFills.zipIdx ∧ SharesReference row.1 fill := by
  unfold fillCandidates SharesReference
  rw [List.mem_append, mem_indexBy, mem_indexBy]
  exact and_or_left.symm

theorem bestFillMatch_isSome (dbFills : List DbFill) (taken : List ℕ) (fill : ExchangeFill) :
    (bestFillMatch fill (fillCandidates dbFills fill) taken).isSome = true
      ↔ HasFreeRow dbFills taken fill := by
  unfold bestFillMatch HasFreeRow
  rw [Option.isSome_map, List.find?_isSome]
  constructor
  · rintro ⟨row, hrow, hfree⟩
    obtain ⟨hmem, hshares⟩ := mem_fillCandidates.mp hrow
    obtain ⟨htaken, hsame⟩ := of_decide_eq_true hfree
    exact ⟨row, hmem, htaken, hshares, hsame⟩
  · rintro ⟨row, hmem, htaken, hshares, hsame⟩
    exact ⟨row, mem_fillCandidates.mpr ⟨hmem, hshares⟩, decide_eq_true ⟨htaken, hsame⟩⟩

theorem bestFillMatch_some {dbFills : List DbFill} {taken : List ℕ} {fill : ExchangeFill}
    {index : ℕ} (h : bestFillMatch fill (fillCandidates dbFills fill) taken = some index) :
    index ∉ taken
      ∧ ∃ row, (row, index) ∈ dbFills.zipIdx ∧ SharesReference row fill ∧ SameFill row fill := by
  obtain ⟨⟨row, place⟩, hfind, rfl⟩ := Option.map_eq_some_iff.mp h
  obtain ⟨hmem, hshares⟩ := mem_fillCandidates.mp (List.mem_of_find?_eq_some hfind)
  have hfree : place ∉ taken ∧ SameFill row fill := by simpa using List.find?_some hfind
  exact ⟨hfree.1, row, hmem, hshares, hfree.2⟩

theorem matchStep_cases (dbFills : List DbFill) (s : MatchState) (fill : ExchangeFill × ℕ) :
    (∃ row index, (row, index) ∈ dbFills.zipIdx ∧ SharesReference row fill.1
        ∧ SameFill row fill.1 ∧ HasFreeRow dbFills s.matchedDb fill.1
        ∧ matchStep dbFills s fill
            = { matchedDb := index :: s.matchedDb, matchedExchange := fill.2 :: s.matchedExchange })
      ∨ (¬ HasFreeRow dbFills s.matchedDb fill.1 ∧ matchStep dbFills s fill = s) := by
  have hsome := bestFillMatch_isSome dbFills s.matchedDb fill.1
  unfold matchStep
  cases hbest : bestFillMatch fill.1 (fillCandidates dbFills fill.1) s.matchedDb with
  | some index =>
    obtain ⟨-, row, hmem, hshares, hsame⟩ := bestFillMatch_some hbest
    rw [hbest] at hsome
    exact .inl ⟨row, index, hmem, hshares, hsame, hsome.mp rfl, rfl⟩
  | none =>
    rw [hbest] at hsome
    exact .inr ⟨fun hfree => Bool.noConfusion (hsome.mpr hfree), rfl⟩

theorem matchStep_frame (dbFills : List DbFill) (s : MatchState) (fill : ExchangeFill × ℕ) (k : ℕ)
    (hne : fill.2 ≠ k) :
    k ∈ (matchStep dbFills s fill).matchedExchange ↔ k ∈ s.matchedExchange := by
  obtain ⟨_, _, _, _, _, _, hstep⟩ | ⟨_, hstep⟩ := matchStep_cases dbFills s fill
  · rw [hstep]
    exact List.mem_cons.trans (or_iff_right hne.symm)
  · rw [hstep]

theorem matchStep_marks (dbFills : List DbFill) (s : MatchState) (fill : ExchangeFill × ℕ)
    (hnew : fill.2 ∉ s.matchedExchange) :
    fill.2 ∈ (matchStep dbFills s fill).matchedExchange
      ↔ HasFreeRow dbFills s.matchedDb fill.1 := by
  obtain ⟨_, _, _, _, _, hfree, hstep⟩ | ⟨hnone, hstep⟩ := matchStep_cases dbFills s fill
  · rw [hstep]
    exact iff_of_true List.mem_cons_self hfree
  · rw [hstep]
    exact iff_of_false hnew hnone

theorem matchState_nil {fills : List (ExchangeFill × ℕ)} :
    ∀ fill ∈ fills, fill.2 ∉ ({} : MatchState).matchedExchange :=
  fun _ _ => List.not_mem_nil

theorem matchedExchange_nodup (dbFills : List DbFill) (fills : List ExchangeFill) :
    (matchedFills dbFills fills).matchedExchange.Nodup := by
  let marked : MatchState → ℕ → Prop := fun s k => k ∈ s.matchedExchange
  have hnew : StepsOk (matchStep dbFills) (fun s fill => ¬ marked s fill.2) {} fills.zipIdx :=
    stepsOk_unmarked (matchStep_frame dbFills) (places_ne fills) matchState_nil
  refine run_invariant_of_stepsOk (P := fun s => s.matchedExchange.Nodup) ?_ List.nodup_nil hnew
  intro s fill hnodup hfill
  obtain ⟨_, _, _, _, _, _, hstep⟩ | ⟨_, hstep⟩ := matchStep_cases dbFills s fill
  · rw [hstep]
    exact List.nodup_cons.mpr ⟨hfill, hnodup⟩
  · rwa [hstep]

theorem matchedExchange_lt (dbFills : List DbFill) (fills : List ExchangeFill) :
    ∀ k ∈ (matchedFills dbFills fills).matchedExchange, k < fills.length := by
  have hplace : ∀ fill ∈ fills.zipIdx, fill.2 < fills.length := fun fill hfill =>
    (List.getElem?_eq_some_iff.mp (List.mem_zipIdx_iff_getElem?.mp hfill)).1
  refine run_invariant_of_mem
    (P := fun s : MatchState => ∀ k ∈ s.matchedExchange, k < fills.length) ?_
    (fun _ h => absurd h List.not_mem_nil) hplace
  intro s fill hfill hbound
  obtain ⟨_, _, _, _, _, _, hstep⟩ | ⟨_, hstep⟩ := matchStep_cases dbFills s fill
  · rw [hstep]
    exact List.forall_mem_cons.mpr ⟨hfill, hbound⟩
  · rwa [hstep]

theorem unmatchedRows_length {α : Type} {matched : List ℕ} {rows : List α}
    (hnodup : matched.Nodup) (hlt : ∀ k ∈ matched, k < rows.length) :
    matched.length + (unmatchedRows matched rows).length = rows.length := by
  -- the matched places, in the order of the rows
  have hperm : List.Perm ((List.range rows.length).filter (fun k => k ∈ matched)) matched := by
    refine (List.perm_ext_iff_of_nodup (List.nodup_range.filter _) hnodup).mpr (fun k => ?_)
    rw [List.mem_filter, List.mem_range, decide_eq_true_eq]
    exact and_iff_right_of_imp (hlt k)
  have hunmatched : (unmatchedRows matched rows).length
      = ((List.range rows.length).filter (fun k => !decide (k ∈ matched))).length := by
    rw [unmatchedRows, List.length_map, List.range_eq_range', ← List.zipIdx_map_snd 0 rows,
      List.filter_map, List.length_map]
    simp [Function.comp_def]
  have hsplit := List.length_eq_length_filter_add
    (l := List.range rows.length) (fun k => decide (k ∈ matched))
  rw [hperm.length_eq, ← hunmatched, List.length_range] at hsplit
  exact hsplit.symm

theorem matchFills_counts (dbFills : List DbFill) (fills : List ExchangeFill) :
    (matchFills dbFills fills).matchedFillCount
        + (matchFills dbFills fills).missingExchangeFillInDb.count
      = (matchFills dbFills fills).exchangeFillCount :=
  unmatchedRows_length (matchedExchange_nodup dbFills fills) (matchedExchange_lt dbFills fills)

/-! ## The two matchers -/

/-- `build_exchange_fill_records` calls the fill `MATCHED_DB_ORDER`. -/
def IsReconciled (exchangeName : String) (fills : List ExchangeFill) (dbFills : List DbFill)
    (fill : ExchangeFill) : Prop :=
  (matchStatus exchangeName fills dbFills fill).1 = .matchedDbOrder

instance (exchangeName : String) (fills : List ExchangeFill) (dbFills : List DbFill)
    (fill : ExchangeFill) : Decidable (IsReconciled exchangeName fills dbFills fill) :=
  inferInstanceAs (Decidable (_ = _))

/-- Every record that the ledger has matched belongs to a fill that `match_fills` has. -/
def MatchersAgree (records : List LedgerRow) (matched : MatchState) : Prop :=
  ∀ index record, records[index]? = some record → record.matchStatus = .matchedDbOrder →
    index ∈ matched.matchedExchange

theorem buildExchangeFillRecords_eq (exchangeName : String) (exchangeOrders : List ExchangeOrder)
    (dbOrders : List DbOrder) (source : String) (periodStart : Option UtcTime) :
    buildExchangeFillRecords exchangeName exchangeOrders dbOrders source periodStart
      = (periodFills exchangeOrders periodStart).map
          (recordOf exchangeName (periodFills exchangeOrders periodStart)
            (dbOrders.map normalizeDbFill) source) := by
  cases periodStart <;> rfl

theorem matchersAgree_iff_forall (exchangeName : String) (fills : List ExchangeFill)
    (ledgerDb : List DbFill) (source : String) (matched : MatchState) :
    MatchersAgree (fills.map (recordOf exchangeName fills ledgerDb source)) matched
      ↔ ∀ fill ∈ fills.zipIdx, IsReconciled exchangeName fills ledgerDb fill.1 →
          fill.2 ∈ matched.matchedExchange := by
  constructor
  · intro h fill hfill hreconciled
    have hat : fills[fill.2]? = some fill.1 := List.mem_zipIdx_iff_getElem?.mp hfill
    refine h fill.2 (recordOf exchangeName fills ledgerDb source fill.1) ?_ hreconciled
    rw [List.getElem?_map, hat]
    rfl
  · intro h index record hrecord hstatus
    rw [List.getElem?_map] at hrecord
    obtain ⟨fill, hat, rfl⟩ := Option.map_eq_some_iff.mp hrecord
    exact h (fill, index) (List.mem_zipIdx_iff_getElem?.mpr hat) hstatus

/-- In its turn, every fill that the ledger has matched finds a row of its order that tells the
same fill and that no earlier fill has taken. -/
def RowsSuffice (exchangeName : String) (fills : List ExchangeFill)
    (ledgerDb dbFills : List DbFill) : Prop :=
  StepsOk (matchStep dbFills)
    (fun s fill => IsReconciled exchangeName fills ledgerDb fill.1 →
      HasFreeRow dbFills s.matchedDb fill.1) {} fills.zipIdx

instance (exchangeName : String) (fills : List ExchangeFill) (ledgerDb dbFills : List DbFill) :
    Decidable (RowsSuffice exchangeName fills ledgerDb dbFills) :=
  inferInstanceAs (Decidable (StepsOk _ _ _ _))

theorem matchersAgree_iff_rowsSuffice (exchangeName : String) (fills : List ExchangeFill)
    (ledgerDb dbFills : List DbFill) (source : String) :
    MatchersAgree (fills.map (recordOf exchangeName fills ledgerDb source))
        (matchedFills dbFills fills)
      ↔ RowsSuffice exchangeName fills ledgerDb dbFills := by
  rw [matchersAgree_iff_forall]
  exact forall_marked_iff (fun fill => IsReconciled exchangeName fills ledgerDb fill.1)
    (matchStep_frame dbFills) (matchStep_marks dbFills) (places_ne fills) matchState_nil

/-- **When the two matchers agree**, on all the orders and on those that the equity
reconciliation keeps: exactly if the rows suffice. -/
theorem matchers_agree_iff (exchangeName : String) (exchangeOrders : List ExchangeOrder)
    (dbOrders : List DbOrder) (source : String) (periodStart : Option UtcTime) :
    let records :=
      buildExchangeFillRecords exchangeName exchangeOrders dbOrders source periodStart
    let fills := periodFills exchangeOrders periodStart
    let dbFills := dbOrders.map normalizeDbFill
    let kept := dbFills.filter DbFill.hasReference
    (MatchersAgree records (matchedFills dbFills fills)
        ↔ RowsSuffice exchangeName fills dbFills dbFills)
      ∧ (MatchersAgree records (matchedFills kept fills)
          ↔ RowsSuffice exchangeName fills dbFills kept) := by
  dsimp only
  rw [buildExchangeFillRecords_eq]
  exact ⟨matchersAgree_iff_rowsSuffice _ _ _ _ _, matchersAgree_iff_rowsSuffice _ _ _ _ _⟩

/-- An order filled in two trades, and its row. -/
def twoTradeOrder : ExchangeOrder :=
  { uuid := some "C0504000000407836246", clientOrderId := some "client-1", market := some "KRW-XLM",
    side := some "bid", price := some 281, executedVolume := some 10, executedFunds := some 2810,
    paidFee := some (1405 / 1000), createdAt := some 0
    trades := some
      [{ uuid := some "trade-1", price := some 281, volume := some 4, funds := some 1124,
         createdAt := some 0 },
       { uuid := some "trade-2", price := some 281, volume := some 6, funds := some 1686,
         createdAt := some 1 }] }

def twoTradeRow : DbOrder :=
  { id := 7, orderUuid := some "C0504000000407836246", clientOrderId := some "client-1",
    market := some "KRW-XLM", side := some "BUY", price := some 281, executedVolume := some 10,
    filledAmountKrw := some 2810, paidFee := some (1405 / 1000), strategyName := some "smart_autonomous",
    sessionId := some 3 }

theorem two_trades_reconciled_but_missing :
    (buildExchangeFillRecords "bithumb" [twoTradeOrder] [twoTradeRow] "exchange_api" none).map
        LedgerRow.matchStatus = [.matchedDbOrder, .matchedDbOrder]
      ∧ (matchFills [normalizeDbFill twoTradeRow] (periodFills [twoTradeOrder] none)
          ).missingExchangeFillInDb.count = 2
      ∧ ¬ MatchersAgree
          (buildExchangeFillRecords "bithumb" [twoTradeOrder] [twoTradeRow] "exchange_api" none)
          (matchedFills [normalizeDbFill twoTradeRow] (periodFills [twoTradeOrder] none)) := by
  refine ⟨by decide +kernel, by decide +kernel, ?_⟩
  rw [buildExchangeFillRecords_eq, matchersAgree_iff_rowsSuffice]
  decide +kernel

/-! ## Fills with a row of their own -/

/-- The row is of the fill's order and tells the same fill. -/
def TellsFill (row : DbFill) (fill : ExchangeFill) : Prop :=
  SharesReference row fill ∧ SameFill row fill

/-! ## The pairs of the loop -/

/-- The place that `_best_fill_match` picks for a fill. -/
def pickPlace (dbFills : List DbFill) (taken : List ℕ) (fill : ExchangeFill × ℕ) : Option ℕ :=
  bestFillMatch fill.1 (fillCandidates dbFills fill.1) taken

def PlaceTells (dbFills : List DbFill) (fill : ExchangeFill × ℕ) (place : ℕ) : Prop :=
  ∃ row, dbFills[place]? = some row ∧ TellsFill row fill.1

/-- The fills that found a row, each with the row's place. -/
def matchedPairs (dbFills : List DbFill) (exchangeFills : List ExchangeFill) :
    List ((ExchangeFill × ℕ) × ℕ) :=
  run (matchNext (pickPlace dbFills)) [] exchangeFills.zipIdx

theorem greedy_pickPlace (dbFills : List DbFill) :
    Greedy (pickPlace dbFills) (PlaceTells dbFills) := by
  constructor
  · intro taken fill place h
    obtain ⟨hfree, row, hmem, hshares, hsame⟩ := bestFillMatch_some h
    exact ⟨hfree, row, List.mem_zipIdx_iff_getElem?.mp hmem, hshares, hsame⟩
  · rintro taken fill place hnone ⟨row, hrow, hshares, hsame⟩
    by_contra hfree
    have hplace : (row, place) ∈ dbFills.zipIdx := List.mem_zipIdx_iff_getElem?.mpr hrow
    have hfound := (bestFillMatch_isSome dbFills taken fill.1).mpr
      ⟨(row, place), hplace, hfree, hshares, hsame⟩
    unfold pickPlace at hnone
    rw [hnone] at hfound
    exact Bool.noConfusion hfound

/-- The state of the loop, read off its pairs. -/
def MatchState.ofPairs (pairs : List ((ExchangeFill × ℕ) × ℕ)) : MatchState where
  matchedDb := pairs.map Prod.snd
  matchedExchange := pairs.map (fun p => p.1.2)

theorem matchStep_ofPairs (dbFills : List DbFill) (pairs : List ((ExchangeFill × ℕ) × ℕ))
    (fill : ExchangeFill × ℕ) :
    matchStep dbFills (.ofPairs pairs) fill
      = .ofPairs (matchNext (pickPlace dbFills) pairs fill) := by
  show (match pickPlace dbFills (pairs.map Prod.snd) fill with
    | some index => _
    | none => _) = _
  unfold matchNext
  cases pickPlace dbFills (pairs.map Prod.snd) fill <;> rfl

theorem matchedFills_eq_pairs (dbFills : List DbFill) (exchangeFills : List ExchangeFill) :
    matchedFills dbFills exchangeFills = .ofPairs (matchedPairs dbFills exchangeFills) := by
  have hrun : ∀ (fills : List (ExchangeFill × ℕ)) (pairs : List ((ExchangeFill × ℕ) × ℕ)),
      run (matchStep dbFills) (.ofPairs pairs) fills
        = .ofPairs (run (matchNext (pickPlace dbFills)) pairs fills) := by
    intro fills
    induction fills with
    | nil => intro pairs; rfl
    | cons fill fills ih =>
      intro pairs
      rw [run_cons, run_cons, matchStep_ofPairs, ih]
  exact hrun exchangeFills.zipIdx []

/-! ## The places -/

section Places

variable (dbFills : List DbFill) (exchangeFills : List ExchangeFill)

theorem placeTells_of_mem_matchedPairs :
    ∀ p ∈ matchedPairs dbFills exchangeFills, PlaceTells dbFills p.1 p.2 :=
  matched_fits (greedy_pickPlace dbFills) exchangeFills.zipIdx

theorem fill_of_mem_matchedPairs {p : (ExchangeFill × ℕ) × ℕ}
    (hp : p ∈ matchedPairs dbFills exchangeFills) : exchangeFills[p.1.2]? = some p.1.1 := by
  have hfills := matched_requests_sublist (pickPlace dbFills) exchangeFills.zipIdx
  have hmem : p.1 ∈ exchangeFills.zipIdx.reverse := hfills.subset (List.mem_map_of_mem hp)
  exact List.mem_zipIdx_iff_getElem?.mp (List.mem_reverse.mp hmem)

theorem matchedDb_nodup : (matchedFills dbFills exchangeFills).matchedDb.Nodup := by
  rw [matchedFills_eq_pairs]
  exact matched_resources_nodup (greedy_pickPlace dbFills) exchangeFills.zipIdx

theorem matchedDb_lt :
    ∀ k ∈ (matchedFills dbFills exchangeFills).matchedDb, k < dbFills.length := by
  rw [matchedFills_eq_pairs]
  intro k hk
  obtain ⟨p, hp, rfl⟩ := List.mem_map.mp hk
  obtain ⟨row, hrow, -⟩ := placeTells_of_mem_matchedPairs dbFills exchangeFills p hp
  exact (List.getElem?_eq_some_iff.mp hrow).1

end Places

/-! ## The matching -/

theorem mem_unmatchedRows {α : Type} {matched : List ℕ} {rows : List α} {row : α}
    (h : row ∈ unmatchedRows matched rows) : ∃ k, rows[k]? = some row ∧ k ∉ matched := by
  obtain ⟨⟨row', k⟩, hmem, rfl⟩ := List.mem_map.mp h
  obtain ⟨hplace, hfree⟩ := List.mem_filter.mp hmem
  exact ⟨k, List.mem_zipIdx_iff_getElem?.mp hplace, of_decide_eq_true hfree⟩

/-- **`match_fills` is a sound maximal matching**: its pairs are one to one and tell the same
fill, they and the rest make up the fills and the rows, and no fill that it reports missing
is told by a row that it reports in the database only. -/
theorem matchFills_sound_and_maximal (dbFills : List DbFill)
    (exchangeFills : List ExchangeFill) :
    let report := matchFills dbFills exchangeFills
    let matched := matchedFills dbFills exchangeFills
    let pairs := matchedPairs dbFills exchangeFills
    matched = .ofPairs pairs
      ∧ (pairs.map Prod.snd).Nodup ∧ (pairs.map (fun p => p.1.2)).Nodup
      ∧ report.matchedFillCount = pairs.length
      ∧ report.matchedFillCount + report.missingExchangeFillInDb.count = exchangeFills.length
      ∧ report.matchedFillCount + report.dbOnlyTrade.count = dbFills.length
      ∧ (∀ p ∈ pairs, exchangeFills[p.1.2]? = some p.1.1
          ∧ ∃ row, dbFills[p.2]? = some row ∧ TellsFill row p.1.1)
      ∧ ∀ fill ∈ unmatchedRows matched.matchedExchange exchangeFills,
          ∀ row ∈ unmatchedRows matched.matchedDb dbFills, ¬ TellsFill row fill := by
  have hpairs := matchedFills_eq_pairs dbFills exchangeFills
  have hdb := matchedDb_nodup dbFills exchangeFills
  have hexchange := matchedExchange_nodup dbFills exchangeFills
  have hcount : (matchFills dbFills exchangeFills).matchedFillCount
      = (matchedPairs dbFills exchangeFills).length := by
    show (matchedFills dbFills exchangeFills).matchedExchange.length = _
    rw [hpairs]
    exact List.length_map _
  refine ⟨hpairs, ?_, ?_, hcount, matchFills_counts dbFills exchangeFills, ?_, ?_, ?_⟩
  · rwa [hpairs] at hdb
  · rwa [hpairs] at hexchange
  · -- as many rows as fills are matched
    have hrows := unmatchedRows_length hdb (matchedDb_lt dbFills exchangeFills)
    have hsame : (matchedFills dbFills exchangeFills).matchedDb.length
        = (matchedPairs dbFills exchangeFills).length := by
      rw [hpairs]
      exact List.length_map _
    rw [hcount, ← hsame]
    exact hrows
  · intro p hp
    exact ⟨fill_of_mem_matchedPairs dbFills exchangeFills hp,
      placeTells_of_mem_matchedPairs dbFills exchangeFills p hp⟩
  · intro fill hfill row hrow htells
    rw [hpairs] at hfill hrow
    obtain ⟨k, hat, hmissing⟩ := mem_unmatchedRows hfill
    obtain ⟨place, hplace, hfree⟩ := mem_unmatchedRows hrow
    have hmem : (fill, k) ∈ exchangeFills.zipIdx := List.mem_zipIdx_iff_getElem?.mpr hat
    have hnone : (fill, k) ∉ (matchedPairs dbFills exchangeFills).map Prod.fst := by
      intro hin
      obtain ⟨p, hp, heq⟩ := List.mem_map.mp hin
      exact hmissing (List.mem_map.mpr ⟨p, hp, congrArg Prod.snd heq⟩)
    exact hfree (matched_maximal (greedy_pickPlace dbFills) hmem hnone place
      ⟨row, hplace, htells⟩)

end AutoCoinBot
