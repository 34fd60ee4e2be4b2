/-
  ControlledAutoLive.PositionRun — a position loop of app/controlled_auto_live.py that
  the protected daemon starts, with its one run: the BUY, the position that is held, the SELL, and
  the report that the loop ends with.

  The orders stand on the exchange, which executes or cancels them while the run waits and after
  it has ended.
-/
import AutoCoinBot.ControlledAutoLive.PositionLoopReports
import AutoCoinBot.LiveRecovery.OrderOnExchange

namespace AutoCoinBot

/-! ## Orders on the exchange -/

def roundVolume (value : ℚ) : ℚ := if value ≤ 0 then 0 else ⌊value * 10 ^ 8⌋ / 10 ^ 8

theorem roundVolume_nonneg (value : ℚ) : 0 ≤ roundVolume value := by
  unfold roundVolume
  split_ifs with hvalue
  · exact le_rfl
  · have hfloor : 0 ≤ ⌊value * 10 ^ 8⌋ := Int.floor_nonneg.mpr (by linarith [not_le.mp hvalue])
    positivity

theorem le_roundVolume_add {value : ℚ} : value ≤ roundVolume value + 1 / 10 ^ 8 := by
  unfold roundVolume
  split_ifs with hvalue
  · linarith
  · have hfloor : value * 10 ^ 8 < ⌊value * 10 ^ 8⌋ + 1 := Int.lt_floor_add_one _
    rw [← add_div, le_div_iff₀ (by positivity)]
    exact hfloor.le

/-- A limit order, as it stands on the exchange. -/
structure LimitOrder where
  volume : ℚ
  executed : ℚ := 0
  canceled : Bool := false
  executed_nonneg : 0 ≤ executed
  executed_le : executed ≤ volume

namespace LimitOrder

/-- `broker.place_order`. -/
def place (volume : ℚ) (hvolume : 0 ≤ volume) : LimitOrder where
  volume := volume
  executed_nonneg := le_rfl
  executed_le := hvolume

def isOpen (order : LimitOrder) : Bool := !order.canceled && decide (order.executed < order.volume)

/-- `volume` more is executed, as far as there is as much left. -/
def execute (order : LimitOrder) (volume : ℚ) : LimitOrder :=
  { order with
    executed := min (order.executed + max volume 0) order.volume
    executed_nonneg :=
      le_min (add_nonneg order.executed_nonneg (le_max_right _ _))
        (order.executed_nonneg.trans order.executed_le)
    executed_le := min_le_right _ _ }

/-- `broker.cancel_order`. -/
def cancel (order : LimitOrder) : LimitOrder := { order with canceled := true }

def raw (order : LimitOrder) : RawOrder :=
  { state := some (if order.executed = order.volume then "done"
      else if order.canceled then "cancel" else "wait")
    volume := some order.volume
    executedVolume := some order.executed
    remainingVolume := some (order.volume - order.executed) }

def status (order : LimitOrder) : OrderStatus := (normalizeExchangeOrder order.raw).status

theorem rawState_of_rest {order : LimitOrder} (h : order.executed ≠ order.volume) :
    ["done", "filled", "completed"].contains order.raw.rawState = false := by
  cases hcanceled : order.canceled with
  | true =>
    have hstate : order.raw.rawState = "cancel".toLower := by
      simp [RawOrder.rawState, raw, h, hcanceled, orText]
    rw [hstate]
    decide +kernel
  | false =>
    have hstate : order.raw.rawState = "wait".toLower := by
      simp [RawOrder.rawState, raw, h, hcanceled, orText]
    rw [hstate]
    decide +kernel

theorem status_filled {order : LimitOrder} (h : order.status = .filled) :
    order.executed = order.volume := by
  by_contra hne
  have hrest : 0 < order.volume - order.executed :=
    sub_pos.mpr (lt_of_le_of_ne order.executed_le hne)
  have hstate := rawState_of_rest hne
  -- what is left is answered, so that a part reads as a part
  have hexecuted : toFloat order.raw.executedVolume = order.executed := rfl
  have hremaining : toFloat order.raw.remainingVolume = order.volume - order.executed := rfl
  simp only [status, normalizeExchangeOrder, hexecuted, hremaining, not_le.mpr hrest, hrest, hstate,
    false_and, and_false, if_false, and_true, or_true, or_self, Bool.false_eq_true, if_true] at h
  split_ifs at h

/-- What the exchange does with an open order. -/
inductive Change where
  | executes (volume : ℚ)
  | cancels

def change (order : LimitOrder) (c : Change) : LimitOrder :=
  if order.isOpen then
    match c with
    | .executes volume => order.execute volume
    | .cancels => order.cancel
  else order

theorem change_of_filled {order : LimitOrder} (h : order.executed = order.volume) (c : Change) :
    order.change c = order := by
  unfold change
  rw [if_neg]
  simp [isOpen, h]

@[simp] theorem change_volume (order : LimitOrder) (c : Change) :
    (order.change c).volume = order.volume := by
  unfold change
  split
  · cases c <;> rfl
  · rfl

end LimitOrder

/-! ## How a loop ends -/

/-- `PROTECTED_SESSION_LOSS_LIMIT_REACHED`. -/
def sessionLossLimitReached : String := "PROTECTED_SESSION_LOSS_LIMIT_REACHED"

def positionLoopFailReasons (figures : LoopFigures) (lossExceeded : Bool) (runtimeStatus : String) :
    List String :=
  (if figures.exchangeFillCount ≠ figures.ledgerFillCount then
      ["EXCHANGE_LEDGER_FILL_COUNT_MISMATCH"] else [])
    ++ (if figures.missingLedgerFillCount ≠ 0 then ["MISSING_LEDGER_FILL"] else [])
    ++ (if figures.duplicateFillCount ≠ 0 then ["DUPLICATE_FILL"] else [])
    ++ (if figures.duplicateClientOrderIdCount ≠ 0 then ["DUPLICATE_CLIENT_ORDER_ID_BLOCKED"] else [])
    ++ (if |figures.feeDiff| > feeToleranceKrw then ["FEE_DIFF_EXCEEDS_TOLERANCE"] else [])
    ++ (if figures.equityDiffAfter.any (fun diff => decide (|diff| > equityToleranceKrw)) then
        ["EQUITY_DIFF_EXCEEDS_TOLERANCE"] else [])
    ++ (if figures.currentEpochAccountingPendingCount ≠ 0 then
        ["CURRENT_EPOCH_ACCOUNTING_PENDING"] else [])
    ++ (if figures.currentEpochAccountingFailedCount ≠ 0 then
        ["CURRENT_EPOCH_ACCOUNTING_FAILED"] else [])
    ++ (if figures.openOrderCountAfter ≠ 0 then ["OPEN_ORDER_REMAINS_AFTER_RUN"] else [])
    ++ (if lossExceeded then [sessionLossLimitReached] else [])
    ++ (if runtimeStatus.toUpper ≠ "STOPPED" then ["RUNTIME_NOT_STOPPED"] else [])

/-- `_pass_fail` of a run, which does not count the duplicate order ids. -/
def passFail (figures : LoopFigures) (lossExceeded : Bool) (runtimeStatus : String) : List String :=
  (if figures.orderCount > 2 then ["CONTROLLED_AUTO_MAX_ORDERS_EXCEEDED"] else [])
    ++ positionLoopFailReasons { figures with duplicateClientOrderIdCount := 0 } lossExceeded
      runtimeStatus

/-- What a run reads after its orders. -/
structure EndReading where
  figures : LoopFigures := {}
  lossExceeded : Bool := false
  runtimeStatus : String := "STOPPED"

/-- What a run returns to its loop. -/
structure SubRun where
  status : LoopStatus
  passFailReasons : List String
  figures : LoopFigures := {}

/-- `_finalize_after_orders`; without a reason the checks decide. -/
def finalizeAfterOrders (status : LoopStatus) (reasons : List String) (orderCount : ℕ)
    (reading : EndReading) : SubRun :=
  let figures := { reading.figures with orderCount := orderCount }
  let failReasons := passFail figures reading.lossExceeded reading.runtimeStatus
  { status :=
      if reasons ≠ [] then status
      else if failReasons ≠ [] then .stopped
      else if 0 < orderCount then .passedPositionTrade
      else .passIdle
    passFailReasons := reasons ++ failReasons
    figures := figures }

def raisedRun (error : String) : SubRun :=
  { status := .failed
    passFailReasons := ["CONTROLLED_ENTRY_V3_POSITION_EXCEPTION:" ++ error] }

/-- What a loop reads after its run. -/
structure LoopReading where
  raises : Option String := none
  lossExceeded : Bool := false
  currentEpochAccountingPendingCount : ℕ := 0
  currentEpochAccountingFailedCount : ℕ := 0
  openOrderCountAfter : ℕ := 0
  lossExceededAfter : Bool := false
  runtimeStatus : String := "STOPPED"
  profitable : Bool := false

/-- What a loop ends with. -/
structure LoopOutcome where
  status : LoopStatus
  passFailReasons : List String
  figures : LoopFigures := { equityDiffAfter := some 0 }

/-- `_merge_position_loop_subrun`: a run that has traded, and no other. -/
def mergePositionLoopSubrun (sub : SubRun) : LoopFigures :=
  if sub.status = .passedPositionTrade then
    { sub.figures with tradeCount := 1, equityDiffAfter := some 0 }
  else { equityDiffAfter := some 0 }

def LoopStatus.text : LoopStatus → String
  | .starting => "STARTING"
  | .running => "RUNNING"
  | .passIdle => "PASS_IDLE"
  | .passedPositionTrade => "PASSED_POSITION_TRADE"
  | .passedTechnicalPosition => "PASSED_TECHNICAL_POSITION"
  | .passedProfitablePosition => "PASSED_PROFITABLE_POSITION"
  | .stopped => "STOPPED"
  | .failed => "FAILED"
  | .aborted => "ABORTED"

/-- `run_controlled_position_loop` after its run. -/
def afterRun (sub : SubRun) (reading : LoopReading) : LoopOutcome :=
  let merged := mergePositionLoopSubrun sub
  match reading.raises with
  | some error => ⟨.failed, ["CONTROLLED_POSITION_LOOP_EXCEPTION:" ++ error], merged⟩
  | none =>
    if reading.lossExceeded then ⟨.stopped, [sessionLossLimitReached], merged⟩
    else if sub.status = .passedPositionTrade ∨ sub.status = .passIdle then
      let figures :=
        { merged with
          currentEpochAccountingPendingCount := reading.currentEpochAccountingPendingCount
          currentEpochAccountingFailedCount := reading.currentEpochAccountingFailedCount
          openOrderCountAfter := reading.openOrderCountAfter }
      let reasons := positionLoopFailReasons figures reading.lossExceededAfter reading.runtimeStatus
      if reasons ≠ [] then ⟨.stopped, reasons, figures⟩
      else if figures.tradeCount = 0 then ⟨.passIdle, [], figures⟩
      else if reading.profitable then ⟨.passedProfitablePosition, [], figures⟩
      else ⟨.passedTechnicalPosition, [], figures⟩
    else
      ⟨.stopped,
        if sub.passFailReasons ≠ [] then sub.passFailReasons else [sub.status.text], merged⟩

def LoopOutcome.Stops (outcome : LoopOutcome) : Prop :=
  outcome.status.isAllowed = false ∧ ∃ reason ∈ outcome.passFailReasons, reason ≠ positionStopRequested

theorem append_ne {start text rest : String}
    (h : text.toList.take start.toList.length ≠ start.toList) : start ++ rest ≠ text := by
  intro heq
  apply h
  rw [← heq, String.toList_append, List.take_left]

theorem afterRun_stops {sub : SubRun}
    (hstatus : sub.status ≠ .passedPositionTrade ∧ sub.status ≠ .passIdle)
    (hreason : ∃ reason ∈ sub.passFailReasons, reason ≠ positionStopRequested)
    (reading : LoopReading) : (afterRun sub reading).Stops := by
  have hsome : sub.passFailReasons ≠ [] := by
    obtain ⟨reason, hmem, -⟩ := hreason
    exact List.ne_nil_of_mem hmem
  unfold afterRun
  cases hraises : reading.raises with
  | some error =>
    refine ⟨rfl, _, List.mem_singleton_self _, ?_⟩
    exact append_ne (by decide +kernel)
  | none =>
    simp only [hstatus, hsome, ne_eq, not_false_eq_true, if_true, or_self, if_false]
    split_ifs with hloss
    · exact ⟨rfl, _, List.mem_singleton_self _, by decide⟩
    · exact ⟨rfl, hreason⟩

theorem afterRun_finalize_stops {status : LoopStatus} {reason : String}
    (hstatus : status ≠ .passedPositionTrade ∧ status ≠ .passIdle)
    (hreason : reason ≠ positionStopRequested) (orderCount : ℕ) (reading : EndReading)
    (loop : LoopReading) :
    (afterRun (finalizeAfterOrders status [reason] orderCount reading) loop).Stops := by
  apply afterRun_stops
  · simpa [finalizeAfterOrders] using hstatus
  · exact ⟨reason, by simp [finalizeAfterOrders], hreason⟩

theorem afterRun_raised_stops (error : String) (loop : LoopReading) :
    (afterRun (raisedRun error) loop).Stops := by
  apply afterRun_stops
  · exact ⟨by simp [raisedRun], by simp [raisedRun]⟩
  · exact ⟨_, List.mem_singleton_self _, append_ne (by decide +kernel)⟩

/-! ## The run -/

/-- How far a run is. -/
inductive RunPhase where
  | scanning
  -- waits for its BUY
  | buying (buy : LimitOrder)
  | holding (buy : LimitOrder)
  -- waits for its SELL
  | selling (buy sell : LimitOrder)

/-- What comes of an order: its client id can be in use, and its placing can raise, with or
without the order on the exchange. -/
inductive OrderPlacement where
  | sent
  | duplicate
  | raises (error : String) (reached : Bool)
  deriving DecidableEq

/-- What a loop finds before its run has bought. -/
inductive ScanReading where
  -- the loop, or its run, is not let in
  | loopAborts (reasons : List String)
  | runAborts (reasons : List String)
  | lossLimitReached
  -- the stop is seen before the run begins, or by the run
  | loopBreaks
  | stops
  -- of `_open_order_blocker`
  | openOrder (blocker : String)
  | deadline
  | candidate (notional price : ℚ) (placement : OrderPlacement)
  | raises (error : String)

/-- What `_submit_and_wait_controlled` does while it waits. -/
inductive WaitReading where
  | polls
  -- after the timeout, or on a canceled order
  | givesUp (cancelAccepted : Bool)
  | raises (error : String)

/-- What ends the holding; the stop does, too. -/
inductive HoldReading where
  | exits (bestBid : ℚ) (placement : OrderPlacement)
  | raises (error : String)

/-- What a run finds next. -/
inductive RunReading where
  | scans (reading : ScanReading)
  | waits (reading : WaitReading)
  | holds (reading : HoldReading)

/-- A run goes on, or its loop ends. -/
inductive RunResult where
  | goesOn (phase : RunPhase)
  | ends (phase : RunPhase) (outcome : LoopOutcome)

section Steps

variable (openOrders stopRequested : Bool) (ending : EndReading) (loop : LoopReading)

/-- The loop after a run that ends for a reason. -/
def endRun (phase : RunPhase) (status : LoopStatus) (reason : String) (orderCount : ℕ) : RunResult :=
  .ends phase (afterRun (finalizeAfterOrders status [reason] orderCount ending) loop)

def buyVolume (notional price : ℚ) : ℚ := if 0 < price then roundVolume (notional / price) else 0

theorem buyVolume_nonneg (notional price : ℚ) : 0 ≤ buyVolume notional price := by
  unfold buyVolume
  split_ifs
  · exact roundVolume_nonneg _
  · exact le_rfl

def buyStep (notional price : ℚ) (placement : OrderPlacement) : RunResult :=
  let buy := LimitOrder.place (buyVolume notional price) (buyVolume_nonneg notional price)
  if buy.volume ≤ 0 then
    endRun ending loop .scanning .failed "CONTROLLED_ENTRY_V3_POSITION_VOLUME_INVALID" 0
  else
    match placement with
    | .sent => .goesOn (.buying buy)
    | .duplicate => endRun ending loop .scanning .stopped "DUPLICATE_CLIENT_ORDER_ID_BLOCKED" 0
    | .raises error reached =>
      .ends (if reached then .buying buy else .scanning) (afterRun (raisedRun error) loop)

def scanStep : ScanReading → RunResult
  | .loopAborts reasons => .ends .scanning { status := .aborted, passFailReasons := reasons }
  | .lossLimitReached =>
    .ends .scanning { status := .stopped, passFailReasons := [sessionLossLimitReached] }
  | .loopBreaks =>
    if stopRequested then
      .ends .scanning (afterRun { status := .passIdle, passFailReasons := [] } loop)
    else .goesOn .scanning
  | .runAborts reasons =>
    .ends .scanning (afterRun { status := .aborted, passFailReasons := reasons } loop)
  | .raises error => .ends .scanning (afterRun (raisedRun error) loop)
  | .deadline => .ends .scanning (afterRun (finalizeAfterOrders .passIdle [] 0 ending) loop)
  | .stops =>
    if stopRequested then endRun ending loop .scanning .stopped positionStopRequested 0
    else .goesOn .scanning
  | .openOrder blocker =>
    if stopRequested then endRun ending loop .scanning .stopped positionStopRequested 0
    else endRun ending loop .scanning .stopped blocker 0
  | .candidate notional price placement =>
    if stopRequested then endRun ending loop .scanning .stopped positionStopRequested 0
    else if openOrders then endRun ending loop .scanning .stopped "EXCHANGE_OPEN_ORDER_EXISTS" 0
    else buyStep ending loop notional price placement

/-- What came of the waiting. -/
inductive WaitResult where
  | waits
  | answered (order : LimitOrder) (filled : Bool)
  | raised (error : String)

/-- `_submit_and_wait_controlled`, once the order is placed. Where the cancel is refused, the last
answer counts, and that was no fill. -/
def waitStep (order : LimitOrder) : WaitReading → WaitResult
  | .polls => if order.status = .filled then .answered order true else .waits
  | .givesUp cancelAccepted =>
    if cancelAccepted then
      let order := order.change .cancels
      .answered order (decide (0 < order.executed ∧ order.status = .filled))
    else .answered order false
  | .raises error => .raised error

def sellStep (buy : LimitOrder) : HoldReading → RunResult
  | .raises error => .ends (.holding buy) (afterRun (raisedRun error) loop)
  | .exits bestBid placement =>
    let sell := LimitOrder.place (roundVolume buy.executed) (roundVolume_nonneg _)
    if bestBid ≤ 0 then
      endRun ending loop (.holding buy) .failed "CONTROLLED_ENTRY_V3_POSITION_EXIT_PRICE_INVALID" 1
    else
      match placement with
      | .sent => .goesOn (.selling buy sell)
      | .duplicate =>
        endRun ending loop (.holding buy) .stopped "DUPLICATE_CLIENT_ORDER_ID_BLOCKED" 1
      | .raises error reached =>
        .ends (if reached then .selling buy sell else .holding buy)
          (afterRun (raisedRun error) loop)

/-- `run_controlled_entry_v3_position_run`, one step; a reading of another phase is none. -/
def runStep : RunPhase → RunReading → RunResult
  | .scanning, .scans reading => scanStep openOrders stopRequested ending loop reading
  | .buying buy, .waits reading =>
    match waitStep buy reading with
    | .waits => .goesOn (.buying buy)
    | .answered buy true => .goesOn (.holding buy)
    | .answered buy false => endRun ending loop (.buying buy) .stopped "BUY_NOT_FILLED" 1
    | .raised error => .ends (.buying buy) (afterRun (raisedRun error) loop)
  | .holding buy, .holds reading => sellStep ending loop buy reading
  | .selling buy sell, .waits reading =>
    match waitStep sell reading with
    | .waits => .goesOn (.selling buy sell)
    | .answered sell true =>
      .ends (.selling buy sell)
        (afterRun (finalizeAfterOrders .passedPositionTrade [] 2 ending) loop)
    | .answered sell false => endRun ending loop (.selling buy sell) .stopped "SELL_NOT_FILLED" 2
    | .raised error => .ends (.selling buy sell) (afterRun (raisedRun error) loop)
  | phase, _ => .goesOn phase

def sendsBuy : RunPhase → RunReading → Bool
  | .scanning, .scans (.candidate notional price placement) =>
    !stopRequested && !openOrders && decide (0 < buyVolume notional price)
      && placement != .duplicate
  | _, _ => false

end Steps

/-! ## What a run holds -/

/-- The orders of a run. -/
structure PositionRun where
  runId : String
  buy : Option LimitOrder := none
  sell : Option LimitOrder := none

def RunPhase.trades (runId : String) : RunPhase → PositionRun
  | .scanning => { runId := runId }
  | .buying buy | .holding buy => { runId := runId, buy := some buy }
  | .selling buy sell => { runId := runId, buy := some buy, sell := some sell }

@[simp] theorem RunPhase.trades_runId (runId : String) (phase : RunPhase) :
    (phase.trades runId).runId = runId := by
  cases phase <;> rfl

namespace PositionRun

def bought (run : PositionRun) : ℚ := run.buy.elim 0 LimitOrder.executed

def sold (run : PositionRun) : ℚ := run.sell.elim 0 LimitOrder.executed

/-- What it bought is sold, up to the rounding of the volume. -/
def IsSold (run : PositionRun) : Prop := run.bought ≤ run.sold + 1 / 10 ^ 8

instance (run : PositionRun) : Decidable run.IsSold :=
  inferInstanceAs (Decidable (run.bought ≤ run.sold + 1 / 10 ^ 8))

/-- It bought nothing, or its SELL is executed in full over the whole of its BUY. -/
def Settled (run : PositionRun) : Prop :=
  run.buy = none ∨ ∃ buy sell, run.buy = some buy ∧ run.sell = some sell
    ∧ buy.executed = buy.volume ∧ sell.executed = sell.volume
    ∧ sell.volume = roundVolume buy.volume

theorem sold_nonneg (run : PositionRun) : 0 ≤ run.sold := by
  unfold sold
  cases run.sell with
  | none => exact le_rfl
  | some sell => exact sell.executed_nonneg

/-- **A settled run holds nothing.** -/
theorem Settled.isSold {run : PositionRun} (h : run.Settled) : run.IsSold := by
  unfold IsSold
  rcases h with hbuy | ⟨buy, sell, hbuy, hsell, hfull, hsold, hvolume⟩
  · have hbought : run.bought = 0 := by rw [bought, hbuy]; rfl
    rw [hbought]
    exact add_nonneg run.sold_nonneg (by positivity)
  · have hbought : run.bought = buy.volume := by rw [bought, hbuy, ← hfull]; rfl
    have hsoldVolume : run.sold = roundVolume buy.volume := by
      rw [sold, hsell, ← hvolume, ← hsold]; rfl
    rw [hbought, hsoldVolume]
    exact le_roundVolume_add

end PositionRun

/-- What is held is a BUY that is executed in full, and sold is the whole of it. -/
def RunPhase.Ok : RunPhase → Prop
  | .scanning | .buying _ => True
  | .holding buy => buy.executed = buy.volume
  | .selling buy sell => buy.executed = buy.volume ∧ sell.volume = roundVolume buy.volume

theorem waitStep_filled {order order' : LimitOrder} {reading : WaitReading}
    (h : waitStep order reading = .answered order' true) :
    order'.executed = order'.volume ∧ order'.volume = order.volume := by
  cases reading with
  | polls =>
    simp only [waitStep] at h
    split at h
    · rename_i hfilled
      cases h
      exact ⟨LimitOrder.status_filled hfilled, rfl⟩
    · cases h
  | givesUp cancelAccepted =>
    simp only [waitStep] at h
    split at h
    · injection h with horder hfilled
      subst horder
      exact ⟨LimitOrder.status_filled (of_decide_eq_true hfilled).2, LimitOrder.change_volume _ _⟩
    · cases h
  | raises error => cases h

/-- What holds after a step: a run goes on as it should, or has settled, or its loop stops. -/
def RunResult.Ok (runId : String) : RunResult → Prop
  | .goesOn phase => phase.Ok
  | .ends phase outcome => (phase.trades runId).Settled ∨ outcome.Stops

section StepsOk

variable {openOrders stopRequested : Bool} {ending : EndReading} {loop : LoopReading}
  {runId : String}

theorem scanning_settled : (RunPhase.scanning.trades runId).Settled := .inl rfl

theorem endRun_ok {status : LoopStatus} {reason : String}
    (hstatus : status ≠ .passedPositionTrade ∧ status ≠ .passIdle)
    (hreason : reason ≠ positionStopRequested) (phase : RunPhase) (orderCount : ℕ) :
    (endRun ending loop phase status reason orderCount).Ok runId :=
  .inr (afterRun_finalize_stops hstatus hreason orderCount ending loop)

theorem endRun_scanning_ok (status : LoopStatus) (reason : String) (orderCount : ℕ) :
    (endRun ending loop .scanning status reason orderCount).Ok runId :=
  .inl scanning_settled

theorem buyStep_ok (notional price : ℚ) (placement : OrderPlacement) :
    (buyStep ending loop notional price placement).Ok runId := by
  cases placement with
  | sent =>
    simp only [buyStep]
    split
    · exact endRun_scanning_ok _ _ _
    · trivial
  | duplicate =>
    simp only [buyStep]
    split <;> exact endRun_scanning_ok _ _ _
  | raises error reached =>
    simp only [buyStep]
    split
    · exact endRun_scanning_ok _ _ _
    · exact .inr (afterRun_raised_stops error loop)

theorem scanStep_ok (reading : ScanReading) :
    (scanStep openOrders stopRequested ending loop reading).Ok runId := by
  cases reading with
  | loopAborts reasons => exact .inl scanning_settled
  | runAborts reasons => exact .inl scanning_settled
  | lossLimitReached => exact .inl scanning_settled
  | raises error => exact .inl scanning_settled
  | deadline => exact .inl scanning_settled
  | loopBreaks =>
    simp only [scanStep]
    split
    · exact .inl scanning_settled
    · trivial
  | stops =>
    simp only [scanStep]
    split
    · exact endRun_scanning_ok _ _ _
    · trivial
  | openOrder blocker =>
    simp only [scanStep]
    split <;> exact endRun_scanning_ok _ _ _
  | candidate notional price placement =>
    simp only [scanStep]
    split
    · exact endRun_scanning_ok _ _ _
    · split
      · exact endRun_scanning_ok _ _ _
      · exact buyStep_ok notional price placement

theorem sellStep_ok {buy : LimitOrder} (hbuy : buy.executed = buy.volume) (reading : HoldReading) :
    (sellStep ending loop buy reading).Ok runId := by
  cases reading with
  | raises error => exact .inr (afterRun_raised_stops error loop)
  | exits bestBid placement =>
    simp only [sellStep]
    split
    · exact endRun_ok ⟨by decide, by decide⟩ (by decide) _ _
    · cases placement with
      | sent => exact ⟨hbuy, congrArg roundVolume hbuy⟩
      | duplicate => exact endRun_ok ⟨by decide, by decide⟩ (by decide) _ _
      | raises error reached => exact .inr (afterRun_raised_stops error loop)

/-- **What a run has bought is held until it is sold**, or its loop ends stopped. -/
theorem runStep_ok {phase : RunPhase} (hphase : phase.Ok) (reading : RunReading) :
    (runStep openOrders stopRequested ending loop phase reading).Ok runId := by
  cases phase with
  | scanning =>
    cases reading with
    | scans reading => exact scanStep_ok reading
    | waits reading => trivial
    | holds reading => trivial
  | buying buy =>
    cases reading with
    | scans reading => trivial
    | holds reading => trivial
    | waits reading =>
      simp only [runStep]
      split
      · trivial
      · rename_i buy' hanswer
        exact (waitStep_filled hanswer).1
      · exact endRun_ok ⟨by decide, by decide⟩ (by decide) _ _
      · rename_i error _
        exact .inr (afterRun_raised_stops error loop)
  | holding buy =>
    cases reading with
    | scans reading => exact hphase
    | waits reading => exact hphase
    | holds reading => exact sellStep_ok hphase reading
  | selling buy sell =>
    cases reading with
    | scans reading => exact hphase
    | holds reading => exact hphase
    | waits reading =>
      simp only [runStep]
      split
      · exact hphase
      · -- the whole of the SELL, and so of the BUY
        rename_i sell' hanswer
        obtain ⟨hfilled, hvolume⟩ := waitStep_filled hanswer
        exact .inl (.inr ⟨buy, sell', rfl, rfl, hphase.1, hfilled, hvolume.trans hphase.2⟩)
      · exact endRun_ok ⟨by decide, by decide⟩ (by decide) _ _
      · rename_i error _
        exact .inr (afterRun_raised_stops error loop)

end StepsOk

/-! ## What the exchange does meanwhile -/

/-- A change of one of the orders; only a `SELL` is on the other side. -/
def RunPhase.change (side : OrderSide) (c : LimitOrder.Change) : RunPhase → RunPhase
  | .scanning => .scanning
  | .buying buy => .buying (if side.isSell then buy else buy.change c)
  | .holding buy => .holding (if side.isSell then buy else buy.change c)
  | .selling buy sell =>
    .selling (if side.isSell then buy else buy.change c)
      (if side.isSell then sell.change c else sell)

def PositionRun.change (side : OrderSide) (c : LimitOrder.Change) (run : PositionRun) : PositionRun :=
  { run with
    buy := run.buy.map (fun buy => if side.isSell then buy else buy.change c)
    sell := run.sell.map (fun sell => if side.isSell then sell.change c else sell) }

theorem change_side_of_filled {order : LimitOrder} (h : order.executed = order.volume) (p : Bool)
    (c : LimitOrder.Change) : (if p then order else order.change c) = order := by
  split
  · rfl
  · exact LimitOrder.change_of_filled h c

theorem change_side_volume (order : LimitOrder) (p : Bool) (c : LimitOrder.Change) :
    (if p then order.change c else order).volume = order.volume := by
  split
  · exact LimitOrder.change_volume order c
  · rfl

theorem RunPhase.Ok.change {phase : RunPhase} (h : phase.Ok) (side : OrderSide)
    (c : LimitOrder.Change) : (phase.change side c).Ok := by
  cases phase with
  | scanning => trivial
  | buying buy => trivial
  | holding buy =>
    have hbuy : buy.executed = buy.volume := h
    simp only [RunPhase.change, RunPhase.Ok, change_side_of_filled hbuy]
    exact hbuy
  | selling buy sell =>
    obtain ⟨hbuy, hsell⟩ := h
    simp only [RunPhase.change, RunPhase.Ok, change_side_of_filled hbuy, change_side_volume]
    exact ⟨hbuy, hsell⟩

/-- **What is settled stays settled**, whatever the exchange does. -/
theorem PositionRun.Settled.change {run : PositionRun} (h : run.Settled) (side : OrderSide)
    (c : LimitOrder.Change) : (run.change side c).Settled := by
  rcases h with hbuy | ⟨buy, sell, hbuy, hsell, hfull, hsold, hvolume⟩
  · exact .inl (by simp [PositionRun.change, hbuy])
  · refine .inr ⟨buy, sell, ?_, ?_, hfull, hsold, hvolume⟩
    · simp [PositionRun.change, hbuy, change_side_of_filled hfull]
    · simp [PositionRun.change, hsell, LimitOrder.change_of_filled hsold]

end AutoCoinBot
