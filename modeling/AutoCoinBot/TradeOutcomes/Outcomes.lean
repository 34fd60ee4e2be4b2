/-
  TradeOutcomes.Outcomes — `trade_outcome_logs`, as app/trade_outcomes.py and the exit
  sync of app/live_recovery.py write it.

  An outcome belongs to an order and, through it, to a position. When a position is closed, its
  outcomes are given the profit it has realised and the return on the cost it then stands at.
-/
import AutoCoinBot.Library.Batch
import AutoCoinBot.LiveRecovery.ExitSync
import AutoCoinBot.LiveStrategyPilot.Sizing

namespace AutoCoinBot

open Library

/-! ## Outcomes -/

inductive OutcomeStatus where
  | pendingOutcome
  | pendingMarketData
  | pendingRealized
  | postFillComplete
  | realized
  deriving DecidableEq

/-- `trade_outcome_logs`, unique in `order_uuid`. -/
structure TradeOutcome where
  id : ℕ
  orderUuid : String
  positionId : Option ℕ := none
  exchange : String := "bithumb"
  market : String := ""
  side : OrderSide := .buy
  orderPurpose : OrderPurpose := .entry
  entryOrExitPrice : Option ℚ := none
  filledPrice : Option ℚ := none
  filledVolume : ℚ := 0
  filledAmountKrw : ℚ := 0
  feeKrw : ℚ := 0
  slippagePct : Option ℚ := none
  fillTimeSeconds : Option ℚ := none
  filledAt : Option UtcTime := none
  postFillReturn1m : Option ℚ := none
  postFillReturn3m : Option ℚ := none
  postFillReturn5m : Option ℚ := none
  postFillReturn15m : Option ℚ := none
  maxFavorableExcursionPct : Option ℚ := none
  maxAdverseExcursionPct : Option ℚ := none
  adverseSelectionPct : Option ℚ := none
  realizedPnlKrw : Option ℚ := none
  realizedReturnPct : Option ℚ := none
  holdingMinutes : Option ℚ := none
  outcomeStatus : OutcomeStatus := .pendingOutcome
  createdAt : UtcTime := 0
  updatedAt : UtcTime := 0
  deriving DecidableEq

instance : Row TradeOutcome := ⟨TradeOutcome.id⟩

/-- `_pct`. -/
def tradePct (delta base : ℚ) : ℚ := if base ≠ 0 then round6 (delta / base * 100) else 0

/-- `_filled_price`. -/
def filledPriceOf (log : LiveOrderLog) : ℚ :=
  if 0 < log.filledAmountKrw ∧ 0 < log.executedVolume then log.filledAmountKrw / log.executedVolume
  else toFloat log.price

/-- The row that `record_filled_order_outcome` inserts. -/
def filledOutcome (log : LiveOrderLog) (positionId : ℕ) (now : UtcTime) (id : ℕ) : TradeOutcome :=
  { id := id
    orderUuid := toText log.orderUuid
    positionId := some positionId
    exchange := log.exchange
    market := log.market
    side := log.side
    orderPurpose := log.orderPurpose
    entryOrExitPrice := log.price
    filledPrice := some (filledPriceOf log)
    filledVolume := log.executedVolume
    filledAmountKrw := log.filledAmountKrw
    feeKrw := log.paidFee
    slippagePct := (log.price.filter (· ≠ 0)).map (fun price =>
      tradePct (filledPriceOf log - price) price)
    fillTimeSeconds := some (max ((log.updatedAt - log.createdAt : ℤ) : ℚ) 0)
    filledAt := some log.updatedAt
    createdAt := now
    updatedAt := now }

/-- `ON CONFLICT(order_uuid) DO UPDATE`; what has been realised stays. -/
def TradeOutcome.recordAgain (old new : TradeOutcome) : TradeOutcome :=
  { old with
    positionId := new.positionId.or old.positionId
    exchange := new.exchange
    market := new.market
    side := new.side
    orderPurpose := new.orderPurpose
    entryOrExitPrice := new.entryOrExitPrice.or old.entryOrExitPrice
    filledPrice := new.filledPrice.or old.filledPrice
    filledVolume := if 0 < new.filledVolume then new.filledVolume else old.filledVolume
    filledAmountKrw := if 0 < new.filledAmountKrw then new.filledAmountKrw else old.filledAmountKrw
    feeKrw := if 0 < new.feeKrw then new.feeKrw else old.feeKrw
    slippagePct := new.slippagePct.or old.slippagePct
    fillTimeSeconds := new.fillTimeSeconds.or old.fillTimeSeconds
    filledAt := new.filledAt.or old.filledAt
    outcomeStatus :=
      if old.outcomeStatus = .realized ∨ old.outcomeStatus = .postFillComplete then
        old.outcomeStatus
      else new.outcomeStatus
    updatedAt := new.updatedAt }

/-- `record_filled_order_outcome`, for the order of a position. -/
def recordFilledOrderOutcome (outcomes : Table TradeOutcome) (log : LiveOrderLog) (positionId : ℕ)
    (now : UtcTime) : Table TradeOutcome :=
  if log.status.isFill = false then outcomes
  else if toText log.orderUuid = "" then outcomes
  else if log.executedVolume ≤ 0 ∨ filledPriceOf log ≤ 0 then outcomes
  else
    outcomes.upsert TradeOutcome.orderUuid (filledOutcome log positionId now) (fun _ => rfl)
      (fun old => old.recordAgain (filledOutcome log positionId now old.id)) (fun _ => rfl)

/-- `ORDER BY created_at DESC, id DESC`. -/
def TradeOutcome.newer (a b : TradeOutcome) : Prop :=
  b.createdAt < a.createdAt ∨ (b.createdAt = a.createdAt ∧ b.id ≤ a.id)

instance : DecidableRel TradeOutcome.newer := fun a b =>
  inferInstanceAs (Decidable (b.createdAt < a.createdAt ∨ (b.createdAt = a.createdAt ∧ b.id ≤ a.id)))

/-- `load_trade_outcome_logs` of a position, `limit` 500. -/
def loadTradeOutcomeLogs (outcomes : Table TradeOutcome) (positionId : ℕ) : List TradeOutcome :=
  ((outcomes.rows.filter (fun row => row.positionId == some positionId)).insertionSort
    TradeOutcome.newer).take 500

/-! ## What a closed position has returned -/

/-- `realized_return`: on the cost that the position stands at. -/
def LivePosition.realizedReturn (position : LivePosition) : Option ℚ :=
  if 0 < position.entryAmountKrw then some (tradePct position.realizedPnl position.entryAmountKrw)
  else none

def LivePosition.holdingMinutes (position : LivePosition) : ℚ :=
  max (((position.closedAt.getD position.updatedAt
    - position.openedAt.getD position.createdAt : ℤ)) : ℚ) 0 / 60

def TradeOutcome.realise (position : LivePosition) (now : UtcTime) (row : TradeOutcome) :
    TradeOutcome :=
  { row with
    realizedPnlKrw := some position.realizedPnl
    realizedReturnPct := position.realizedReturn
    holdingMinutes := some position.holdingMinutes
    outcomeStatus := .realized
    updatedAt := now }

def refreshRealizedOutcomesForPosition (db : Database) (outcomes : Table TradeOutcome)
    (positionId : ℕ) (now : UtcTime) : Table TradeOutcome :=
  match loadLivePosition db positionId with
  | none => outcomes
  | some position =>
    if position.status ≠ .closed then outcomes
    else
      (loadTradeOutcomeLogs outcomes positionId).foldl (fun outcomes outcome =>
        outcomes.modifyWhere (fun row => row.orderUuid == outcome.orderUuid)
          (TradeOutcome.realise position now) (fun _ => rfl)) outcomes

section Refresh

variable {db : Database} {outcomes : Table TradeOutcome} {positionId : ℕ} {now : UtcTime}
  {position : LivePosition}

theorem rows_refresh (h : loadLivePosition db positionId = some position)
    (hclosed : position.status = .closed) :
    (refreshRealizedOutcomesForPosition db outcomes positionId now).rows
      = outcomes.rows.map (fun row =>
          if ∃ outcome ∈ loadTradeOutcomeLogs outcomes positionId, row.orderUuid = outcome.orderUuid
          then row.realise position now else row) := by
  unfold refreshRealizedOutcomesForPosition
  rw [h]
  dsimp only
  rw [if_neg (not_not.mpr hclosed)]
  refine rows_foldl_ite (fun t : Table TradeOutcome => t.rows)
    (p := fun (outcome row : TradeOutcome) => row.orderUuid = outcome.orderUuid)
    (f := TradeOutcome.realise position now) ?_ (fun _ => rfl) _ _
  intro t outcome
  show t.rows.map _ = _
  simp only [beq_iff_eq]

theorem loadTradeOutcomeLogs_refresh (h : loadLivePosition db positionId = some position)
    (hclosed : position.status = .closed) (other : ℕ) :
    loadTradeOutcomeLogs (refreshRealizedOutcomesForPosition db outcomes positionId now) other
      = (loadTradeOutcomeLogs outcomes other).map (fun row =>
          if ∃ outcome ∈ loadTradeOutcomeLogs outcomes positionId, row.orderUuid = outcome.orderUuid
          then row.realise position now else row) := by
  unfold loadTradeOutcomeLogs
  rw [rows_refresh h hclosed, List.map_take]
  congr 1
  refine Table.insertionSort_filter_map TradeOutcome.newer ?_ ?_ _
  · intro row
    split <;> rfl
  · intro a b
    split <;> split <;> exact Iff.rfl

/-- **What the outcomes of a closed position show**: its profit, and its return. -/
theorem loadTradeOutcomeLogs_refresh_self (h : loadLivePosition db positionId = some position)
    (hclosed : position.status = .closed) :
    ∀ row ∈ loadTradeOutcomeLogs
        (refreshRealizedOutcomesForPosition db outcomes positionId now) positionId,
      row.realizedPnlKrw = some position.realizedPnl
        ∧ row.realizedReturnPct = position.realizedReturn := by
  intro row hrow
  rw [loadTradeOutcomeLogs_refresh h hclosed] at hrow
  obtain ⟨old, hold, rfl⟩ := List.mem_map.mp hrow
  rw [if_pos ⟨old, hold, rfl⟩]
  exact ⟨rfl, rfl⟩

theorem mem_loadTradeOutcomeLogs {row : TradeOutcome}
    (h : row ∈ loadTradeOutcomeLogs outcomes positionId) :
    row ∈ outcomes.rows ∧ row.positionId = some positionId := by
  have hsorted := (List.mem_insertionSort _).mp (List.mem_of_mem_take h)
  simpa using List.mem_filter.mp hsorted

/-- **The outcomes of another position** keep what they show. -/
theorem loadTradeOutcomeLogs_refresh_ne (hunique : outcomes.UniqueOn TradeOutcome.orderUuid)
    {other : ℕ} (hne : other ≠ positionId) :
    loadTradeOutcomeLogs (refreshRealizedOutcomesForPosition db outcomes positionId now) other
      = loadTradeOutcomeLogs outcomes other := by
  cases h : loadLivePosition db positionId with
  | none =>
    unfold refreshRealizedOutcomesForPosition
    rw [h]
  | some position =>
    by_cases hclosed : position.status = .closed
    · rw [loadTradeOutcomeLogs_refresh h hclosed]
      refine (List.map_congr_left (fun row hrow => ?_)).trans (List.map_id _)
      obtain ⟨hmem, hposition⟩ := mem_loadTradeOutcomeLogs hrow
      refine if_neg ?_
      rintro ⟨outcome, houtcome, huuid⟩
      -- one order has one outcome, and that belongs to one position
      obtain ⟨hmem', hposition'⟩ := mem_loadTradeOutcomeLogs houtcome
      rw [hunique.eq_of_key hmem hmem' huuid, hposition'] at hposition
      exact hne (Option.some.inj hposition).symm
    · unfold refreshRealizedOutcomesForPosition
      rw [h]
      dsimp only
      rw [if_pos hclosed]

theorem uniqueOn_refresh (hunique : outcomes.UniqueOn TradeOutcome.orderUuid) :
    (refreshRealizedOutcomesForPosition db outcomes positionId now).UniqueOn
      TradeOutcome.orderUuid := by
  unfold refreshRealizedOutcomesForPosition
  split
  · exact hunique
  · split
    · exact hunique
    · refine foldl_invariant (P := fun t : Table TradeOutcome => t.UniqueOn TradeOutcome.orderUuid)
        ?_ hunique
      intro t outcome _ ht
      exact ht.modifyWhere _ _ (fun _ => rfl)

theorem uniqueOn_record (hunique : outcomes.UniqueOn TradeOutcome.orderUuid) (log : LiveOrderLog) :
    (recordFilledOrderOutcome outcomes log positionId now).UniqueOn TradeOutcome.orderUuid := by
  unfold recordFilledOrderOutcome
  split_ifs
  · exact hunique
  · exact hunique
  · exact hunique
  · exact hunique.upsert _ _ _ (fun _ => rfl)

end Refresh

end AutoCoinBot
