/-
  LiveExit.EvaluateExit — `evaluate_exit_order`.

  The guards are asked before the exchange is. What the exchange answers may change what is sold:
  the dust of one position is swept together with the other positions of its market, and a volume
  that the balance does not cover is cut.
-/
import AutoCoinBot.Database.SlotReconcile
import AutoCoinBot.LiveRecovery.FinishedOrders

namespace AutoCoinBot

open Library

/-! ## What is asked -/

/-- `LiveExitConfig`, as far as an exit order is evaluated by it. -/
structure LiveExitConfig where
  exitEnabled : Bool := false
  exitOrderType : OrderType := .limit
  marketOrderEnabled : Bool := false
  maxExitRetryCount : ℤ := 2
  requireManualConfirm : Bool := false
  feeRate : ℚ := 5 / 10000

/-- The settings an evaluation starts with. -/
structure ExitSettings where
  config : LiveExitConfig := {}
  liveConfig : LiveTradingConfig := {}

/-- The columns of `exit_candidates` that no caller of `update_exit_candidate` writes. -/
structure ExitTerms where
  exchange : String := "bithumb"
  market : String := "KRW-BTC"
  sessionId : ℕ := 1
  candidateStrategyId : ℕ := 1
  targetExitPrice : ℚ := 0
  volume : ℚ := 0
  expectedAmountKrw : ℚ := 0
  expectedFee : ℚ := 0
  expectedPnl : ℚ := 0
  candleTimeUtc : Option UtcTime := none

/-- `candidate`, as `load_exit_candidate` reads it. -/
structure LoadedExitCandidate where
  row : ExitCandidate
  terms : ExitTerms

/-- One call of `evaluate_exit_order`. -/
structure ExitQuery where
  candidate : Option LoadedExitCandidate
  position : Option LivePosition
  manualConfirmed : Bool
  isAutoExit : Bool
  requestId : String

/-- `status in {"OPEN", "EXIT_CANDIDATE", "EXIT_PENDING"}`. -/
def PositionStatus.maySell : PositionStatus → Bool
  | .opened | .exitCandidate | .exitPending => true
  | _ => false

/-! ## The guards -/

/-- What `evaluate_exit_order` asks before it awaits anything. -/
def exitBlock (settings : ExitSettings) (emergencyStopped : Bool) (db : Database) (q : ExitQuery) :
    Option String :=
  let config := settings.config
  match q.candidate, q.position with
  | none, _ => some "EXIT_CANDIDATE_NOT_FOUND"
  | some _, none => some "BLOCKED_POSITION_NOT_OPEN"
  | some candidate, some position =>
    if candidate.terms.exchange ≠ "bithumb" then some "BLOCKED_EXCHANGE_NOT_ALLOWED"
    else if candidate.terms.market ≠ position.market then some "BLOCKED_SELL_POSITION_NOT_FOUND"
    else if config.exitOrderType ≠ .limit then some "BLOCKED_MARKET_ORDER_DISABLED"
    else if config.marketOrderEnabled then some "BLOCKED_MARKET_ORDER_DISABLED"
    else if q.isAutoExit ∧ emergencyStopped then some "BLOCKED_EMERGENCY_STOP"
    else if q.isAutoExit ∧ ¬ config.exitEnabled then some "BLOCKED_EXIT_DISABLED"
    else if ¬ position.status.maySell then some "BLOCKED_POSITION_NOT_OPEN"
    -- of the orders on record, those logged under this position
    else if hasOpenExitOrder db position.id then some "BLOCKED_OPEN_EXIT_ORDER_EXISTS"
    else if config.maxExitRetryCount ≤ countExitRetries db candidate.row.id then
      some "BLOCKED_MAX_EXIT_RETRY"
    else if q.isAutoExit = false ∧ config.requireManualConfirm
        ∧ (q.manualConfirmed = false ∨ candidate.row.status ≠ .approved) then
      some "BLOCKED_MANUAL_CONFIRM_REQUIRED"
    else none

/-- **What passes the guards**: a candidate for a position of its market, on the one exchange. -/
theorem exitBlock_none {settings : ExitSettings} {emergencyStopped : Bool} {db : Database}
    {q : ExitQuery} (h : exitBlock settings emergencyStopped db q = none) :
    ∃ candidate position, q.candidate = some candidate ∧ q.position = some position
      ∧ candidate.terms.exchange = "bithumb" ∧ candidate.terms.market = position.market := by
  unfold exitBlock at h
  cases hcandidate : q.candidate with
  | none =>
    rw [hcandidate] at h
    cases h
  | some candidate =>
    cases hposition : q.position with
    | none =>
      rw [hcandidate, hposition] at h
      cases h
    | some position =>
      rw [hcandidate, hposition] at h
      dsimp only at h
      by_cases hexchange : candidate.terms.exchange = "bithumb"
      · by_cases hmarket : candidate.terms.market = position.market
        · exact ⟨candidate, position, rfl, rfl, hexchange, hmarket⟩
        · rw [if_neg (not_not_intro hexchange), if_pos hmarket] at h
          cases h
      · rw [if_pos hexchange] at h
        cases h

/-! ## What is sold -/

/-- `snapshot`, as far as an exit reads it; `positions` are read when it is begun. -/
structure ExitSnapshot where
  fresh : Bool := true
  balances : Option Balances := none
  positions : List LivePosition := []

/-- What an order would sell, and of which positions. -/
structure ExitDraft where
  volume : ℚ
  expectedAmountKrw : ℚ
  expectedFee : ℚ
  aggregateExitPositionIds : List ℕ := []

def ExitTerms.draft (terms : ExitTerms) : ExitDraft where
  volume := terms.volume
  expectedAmountKrw := terms.expectedAmountKrw
  expectedFee := terms.expectedFee

def sellableVolumeForPosition (balances : Option Balances) (position : LivePosition) : ℚ :=
  max (min position.entryVolume
    ((balances.map (fun b => availableBalance b (symbolOf position.market).toUpper)).getD 0)) 0

/-- `market.split("-", 1)[-1]`: what follows the first dash. -/
def afterFirstDash (market : String) : String :=
  if market.toList.contains '-' then
    String.ofList ((market.toList.dropWhile (fun c => c != '-')).drop 1)
  else market

def balanceAvailableFromSnapshot (balances : Option Balances) (symbol : String) : ℚ :=
  (balances.map (fun b => availableBalance b symbol)).getD 0

def sweptPositions (db : Database) (terms : ExitTerms) (snapshot : ExitSnapshot) :
    List LivePosition :=
  let exchange := orText terms.exchange "bithumb"
  (if snapshot.positions = [] then loadOpenLivePositions db exchange terms.market
    else snapshot.positions).filter (fun p =>
      orText p.exchange exchange == exchange && p.market == terms.market && p.status.isActive)

def aggregateSameMarketExitCandidate (settings : ExitSettings) (db : Database) (terms : ExitTerms)
    (position : LivePosition) (snapshot : ExitSnapshot) : ExitDraft :=
  let targetPrice := terms.targetExitPrice
  let minOrderKrw := settings.liveConfig.minOrderKrw
  let positions := sweptPositions db terms snapshot
  let currentAmount := sellableVolumeForPosition snapshot.balances position * targetPrice
  let hasDustPosition := positions.any (fun p =>
    decide (0 < p.entryVolume * targetPrice ∧ p.entryVolume * targetPrice < minOrderKrw))
  let aggregateVolume := min (positions.map LivePosition.entryVolume).sum
    (balanceAvailableFromSnapshot snapshot.balances (afterFirstDash terms.market))
  let aggregateAmount := aggregateVolume * targetPrice
  if targetPrice ≤ 0 ∨ positions.length ≤ 1 then terms.draft
  else if positions.any (fun p => p.id != position.id && hasOpenExitOrder db p.id) then terms.draft
  else if minOrderKrw ≤ currentAmount ∧ hasDustPosition = false then terms.draft
  else if aggregateVolume ≤ 0 ∨ aggregateAmount < minOrderKrw then terms.draft
  else
    { volume := aggregateVolume
      expectedAmountKrw := aggregateAmount
      expectedFee := aggregateAmount * settings.config.feeRate
      -- `sorted(…, key=lambda row: (str(row.get("opened_at") or ""), int(row["id"])))`
      aggregateExitPositionIds :=
        (positions.insertionSort LivePosition.openedBefore).map LivePosition.id }

/-- The draft once the balance is known, and why there is no order. -/
def draftWithin (settings : ExitSettings) (db : Database) (terms : ExitTerms)
    (position : LivePosition) (snapshot : ExitSnapshot) : ExitDraft × Option String :=
  let minOrderKrw := settings.liveConfig.minOrderKrw
  let draft := aggregateSameMarketExitCandidate settings db terms position snapshot
  let sellable :=
    if draft.aggregateExitPositionIds ≠ [] then
      orNum draft.volume (sellableVolumeForPosition snapshot.balances position)
    else sellableVolumeForPosition snapshot.balances position
  if snapshot.fresh = false then (terms.draft, some "BLOCKED_SNAPSHOT_STALE")
  else if sellable ≤ 0 then (draft, some "BLOCKED_SELL_BALANCE_ZERO")
  else if sellable + 1 / 10 ^ 12 < draft.volume then
    let adjustedAmount := sellable * terms.targetExitPrice
    if adjustedAmount < minOrderKrw then (draft, some "BLOCKED_SELL_VOLUME_BELOW_MIN")
    else ({ draft with volume := sellable, expectedAmountKrw := adjustedAmount }, none)
  else if draft.expectedAmountKrw < minOrderKrw then (draft, some "BLOCKED_SELL_VOLUME_BELOW_MIN")
  else (draft, none)

/-! ## The result -/

/-- What `evaluate_exit_order` returns. -/
structure ExitEvaluation where
  allowed : Bool
  riskResult : String
  blockedReason : String
  price : ℚ := 0
  volume : ℚ := 0
  amountKrw : ℚ := 0
  feeEstimate : ℚ := 0
  expectedPnl : ℚ := 0
  aggregateExitPositionIds : List ℕ := []

/-- Where an evaluation has come to when the risk manager is asked. -/
structure ExitFindings where
  draft : ExitDraft
  block : Option String := none
  -- `reason`, where it is the text of an exception
  exception : String := ""
  balances : Option Balances := none
  balanceMismatch : Option Bool := none

/-- What the risk manager is asked about an exit order. -/
def exitRiskRequest (q : ExitQuery) (candidate : LoadedExitCandidate) (f : ExitFindings) :
    RiskRequest where
  order :=
    { requestId := some q.requestId
      exchange := some candidate.terms.exchange
      market := some candidate.terms.market
      side := some .sell
      orderType := some .limit
      price := some candidate.terms.targetExitPrice
      volume := some f.draft.volume
      amountKrw := some f.draft.expectedAmountKrw }
  purpose := .exit
  baseResult :=
    { allowed := f.block.isNone
      riskResult := f.block.getD "ALLOWED"
      blockedReason := if f.block.isSome then orText f.exception (toText f.block) else "" }
  mode := if q.isAutoExit then .autoStrategyRunning else .liveManualOnly
  sessionId := some candidate.terms.sessionId
  candidateStrategyId := some candidate.terms.candidateStrategyId
  candleTimeUtc := candidate.terms.candleTimeUtc
  marketSnapshot := some { price := some candidate.terms.targetExitPrice }
  balances := f.balances
  balanceMismatch := f.balanceMismatch
  isAuto := q.isAutoExit

/-- The end of `evaluate_exit_order`. -/
def finishExitEvaluation (env : RiskEnvironment) (db : Database) (q : ExitQuery)
    (f : ExitFindings) : ExitEvaluation :=
  match q.candidate with
  | none =>
    { allowed := false
      riskResult := toText f.block
      blockedReason := orText f.exception (toText f.block) }
  | some candidate =>
    let result := checkOrderRisk env db (exitRiskRequest q candidate f)
    { allowed := result.allowed
      riskResult := result.riskResult
      blockedReason := result.blockedReason
      price := candidate.terms.targetExitPrice
      volume := f.draft.volume
      amountKrw := f.draft.expectedAmountKrw
      feeEstimate := f.draft.expectedFee
      expectedPnl := candidate.terms.expectedPnl
      aggregateExitPositionIds := f.draft.aggregateExitPositionIds }

section Allowed

variable {env : RiskEnvironment} {db : Database} {q : ExitQuery} {f : ExitFindings}

/-- **An exit order that is allowed has passed the risk manager**, and no guard stopped it. -/
theorem finishExitEvaluation_allowed (h : (finishExitEvaluation env db q f).allowed = true) :
    ∃ candidate, q.candidate = some candidate ∧ f.block = none
      ∧ (checkOrderRisk env db (exitRiskRequest q candidate f)).allowed = true := by
  unfold finishExitEvaluation at h
  cases hcandidate : q.candidate with
  | none =>
    rw [hcandidate] at h
    cases h
  | some candidate =>
    rw [hcandidate] at h
    refine ⟨candidate, rfl, ?_, h⟩
    have hbase := checkOrderRisk_allowed_iff.mp h
      ("base_check", baseCheck (exitRiskRequest q candidate f)) (by simp [orderChecks])
    unfold baseCheck at hbase
    by_contra hblock
    rw [if_neg (by simpa [exitRiskRequest] using hblock)] at hbase
    cases hbase

end Allowed

end AutoCoinBot
