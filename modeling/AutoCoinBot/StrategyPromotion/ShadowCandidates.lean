/-
  StrategyPromotion.ShadowCandidates — candidates that trade in the shadow.

  A candidate in the shadow is judged by its latest forward session: the kill switch may pause it,
  and a session that passes every gate makes it eligible to trade live.
-/
import AutoCoinBot.StrategyPromotion.Statuses

namespace AutoCoinBot

open Library

/-! ## The kill switch -/

/-- An order of a forward session. -/
structure LoadedForwardOrder where
  isSell : Bool := false
  realizedPnl : Option ℚ := none
  exitReason : String := ""
  riskResult : String := ""

/-- `StrategyKillSwitchConfig`, with the defaults of `from_env`. -/
structure StrategyKillSwitchConfig where
  enabled : Bool := true
  expectancyWindow : ℤ := 10
  maxConsecutiveLosses : ℤ := 3
  maxCancelRate : ℚ := 6 / 10
  maxAverageSlippagePct : ℚ := 5 / 10

/-- `summarize_execution_quality`, the figures the kill switch reads. -/
structure ExecutionSummary where
  orderCount : ℕ := 0
  cancelRate : ℚ := 0
  averageSlippagePct : ℚ := 0

/-- The blockers of the kill switch. -/
inductive KillSwitchBlocker where
  | expectancyNegative
  | consecutiveLosses
  | repeatedStopLoss
  | cancelRateHigh
  | slippageHigh
  | exitFailed
  | balanceMismatch

/-- `list(orders)[-window:]`. -/
def recentOrders (window : ℤ) (orders : List LoadedForwardOrder) : List LoadedForwardOrder :=
  if 0 < window then orders.drop (orders.length - window.toNat) else orders.drop (-window).toNat

/-- `sum(values) / len(values)`, zero for no values. -/
def averageOf (values : List ℚ) : ℚ := if values = [] then 0 else values.sum / values.length

/-- `_consecutive_losses`. -/
def strategyConsecutiveLosses (newestFirst : List LoadedForwardOrder) : ℕ :=
  (newestFirst.takeWhile (fun order => decide (toFloat order.realizedPnl < 0))).length

def stopLossStreak (newestFirst : List LoadedForwardOrder) : ℕ :=
  (newestFirst.takeWhile (fun order =>
    containsText "STOP_LOSS" (orText order.exitReason order.riskResult).toUpper)).length

/-- The blockers `evaluate_strategy_kill_switch` collects; the strategy is paused if there is
one. -/
def evaluateStrategyKillSwitch (config : StrategyKillSwitchConfig)
    (orders : List LoadedForwardOrder) (execution : ExecutionSummary)
    (balanceMismatchDetected exitFailed : Bool) : List KillSwitchBlocker :=
  if config.enabled = false then []
  else
    let recent := recentOrders config.expectancyWindow orders
    let expectancy := averageOf (recent.map (fun order => toFloat order.realizedPnl))
    (if config.expectancyWindow ≤ recent.length ∧ expectancy < 0 then [.expectancyNegative] else [])
      ++ (if config.maxConsecutiveLosses ≤ strategyConsecutiveLosses recent.reverse then
          [.consecutiveLosses]
        else [])
      ++ (if 2 ≤ stopLossStreak recent.reverse then [.repeatedStopLoss] else [])
      ++ (if 0 < execution.orderCount ∧ config.maxCancelRate < execution.cancelRate then
          [.cancelRateHigh]
        else [])
      ++ (if 0 < execution.orderCount
            ∧ config.maxAverageSlippagePct < execution.averageSlippagePct then [.slippageHigh]
        else [])
      ++ (if exitFailed then [.exitFailed] else [])
      ++ (if balanceMismatchDetected then [.balanceMismatch] else [])

/-! ## The gates -/

/-- A forward session; the figures of its `metrics` and `balance` come before its columns. -/
structure LoadedForwardSession where
  id : ℕ
  orders : List LoadedForwardOrder := []
  metricsTradeCount : ℚ := 0
  tradeCount : ℚ := 0
  balanceReturnPercent : ℚ := 0
  totalReturnPercent : ℚ := 0
  metricsMdd : ℚ := 0
  maxDrawdown : ℚ := 0
  metricsWinRate : ℚ := 0
  winRate : ℚ := 0
  metricsProfitFactor : ℚ := 0
  profitFactor : ℚ := 0
  averageTradePnl : ℚ := 0
  startedAt : Option UtcTime := none
  createdAt : Option UtcTime := none
  lastTickTimeUtc : Option UtcTime := none
  updatedAt : Option UtcTime := none
  stoppedAt : Option UtcTime := none

/-- `_config` of the promotion pipeline, the keys of the shadow gates. -/
structure PromotionConfig where
  enabled : Bool := true
  minForwardTrades : ℚ := 30
  minForwardRuntimeHours : ℚ := 168
  minForwardReturnPercent : ℚ := 1
  maxForwardMdd : ℚ := 8 / 100
  minForwardWinRate : ℚ := 42 / 100
  minProfitFactor : ℚ := 12 / 10
  minExpectancyAfterFee : ℚ := 0
  maxSingleTradeProfitShare : ℚ := 5 / 10
  killSwitch : StrategyKillSwitchConfig := {}

/-- The gates a session may fail. -/
inductive ForwardBlocker where
  | tradeCountTooLow
  | runtimeTooShort
  | returnTooLow
  | mddTooHigh
  | winRateTooLow
  | profitFactorTooLow
  | expectancyTooLow
  | singleTradeProfitShareTooHigh

def forwardRuntimeHours (session : LoadedForwardSession) (now : UtcTime) : ℚ :=
  match session.startedAt.or session.createdAt with
  | none => 0
  | some start =>
    let stop := ((session.lastTickTimeUtc.or session.updatedAt).or session.stoppedAt).getD now
    max (((stop - start : ℤ) : ℚ) / 3600) 0

def expectancyAfterFee (session : LoadedForwardSession) : ℚ :=
  let sells := session.orders.filter LoadedForwardOrder.isSell
  let pnlValues := sells.filterMap LoadedForwardOrder.realizedPnl
  if pnlValues = [] then session.averageTradePnl else averageOf pnlValues

def singleTradeProfitShare (session : LoadedForwardSession) : ℚ :=
  let profits := (session.orders.filter LoadedForwardOrder.isSell).map
    (fun order => max (toFloat order.realizedPnl) 0)
  if profits.sum ≤ 0 then 0 else (profits.max?).getD 0 / profits.sum

/-- The blockers of `_session_passes`; the session passes if there is none. -/
def sessionBlockers (config : PromotionConfig) (session : LoadedForwardSession) (now : UtcTime) :
    List ForwardBlocker :=
  (if orNum session.metricsTradeCount session.tradeCount < config.minForwardTrades then
      [.tradeCountTooLow]
    else [])
    ++ (if forwardRuntimeHours session now < config.minForwardRuntimeHours then [.runtimeTooShort]
      else [])
    ++ (if orNum session.balanceReturnPercent session.totalReturnPercent
          < config.minForwardReturnPercent then [.returnTooLow]
      else [])
    ++ (if config.maxForwardMdd < orNum session.metricsMdd session.maxDrawdown then [.mddTooHigh]
      else [])
    ++ (if orNum session.metricsWinRate session.winRate < config.minForwardWinRate then
        [.winRateTooLow]
      else [])
    ++ (if orNum session.metricsProfitFactor session.profitFactor < config.minProfitFactor then
        [.profitFactorTooLow]
      else [])
    ++ (if expectancyAfterFee session ≤ config.minExpectancyAfterFee then [.expectancyTooLow]
      else [])
    ++ (if config.maxSingleTradeProfitShare < singleTradeProfitShare session then
        [.singleTradeProfitShareTooHigh]
      else [])

/-! ## Promotion -/

/-- What a promotion run reads besides the candidates. -/
structure ShadowReading where
  updatedAt : ℕ → UtcTime := fun _ => 0
  latestForwardSession : ℕ → Option LoadedForwardSession := fun _ => none
  now : UtcTime := 0

section Promotion

variable (config : PromotionConfig) (reading : ShadowReading) (allowedExchange : String)

def promotePassed (db : Database) (candidate : CandidateStrategy) : Database :=
  let shadowed :=
    if candidate.status = .shadowRunning then
      promoteCandidateStrategy db allowedExchange candidate.id .shadowPassed
    else db
  -- the row is read back where it was promoted
  let current := (loadCandidateStrategy shadowed candidate.id).getD candidate
  if (if candidate.status = .shadowRunning then current else candidate).status = .shadowPassed then
    promoteCandidateStrategy shadowed allowedExchange candidate.id .liveEligible
  else shadowed

def promoteShadowCandidate (db : Database) (candidate : CandidateStrategy) : Database :=
  match reading.latestForwardSession candidate.id with
  | none => db
  | some session =>
    if (evaluateStrategyKillSwitch config.killSwitch session.orders {} false false).isEmpty
        = false then
      promoteCandidateStrategy db allowedExchange candidate.id .paused
    else if (sessionBlockers config session reading.now).isEmpty = false then db
    else promotePassed allowedExchange db candidate

def promoteShadowCandidates (db : Database) : Database :=
  if config.enabled = false then db
  else
    (loadCandidateStrategies db reading.updatedAt 100 [.shadowRunning, .shadowPassed]).foldl
      (promoteShadowCandidate config reading allowedExchange) db

end Promotion

/-! ## Whose status is written -/

theorem candidateStatus_promote_ne (db : Database) (allowedExchange : String) {candidateId k : ℕ}
    (toStatus : CandidateStatus) (hne : k ≠ candidateId) :
    candidateStatus (promoteCandidateStrategy db allowedExchange candidateId toStatus) k
      = candidateStatus db k := by
  rw [candidateStatus_promote]
  simp [hne]

theorem candidateStatus_promoteShadow_ne (config : PromotionConfig) (reading : ShadowReading)
    (allowedExchange : String) (db : Database) {candidate : CandidateStrategy} {k : ℕ}
    (hne : k ≠ candidate.id) :
    candidateStatus (promoteShadowCandidate config reading allowedExchange db candidate) k
      = candidateStatus db k := by
  have hpassed : candidateStatus (promotePassed allowedExchange db candidate) k
      = candidateStatus db k := by
    unfold promotePassed
    dsimp only
    by_cases hrunning : candidate.status = .shadowRunning
    · simp only [if_pos hrunning]
      split
      · rw [candidateStatus_promote_ne _ _ _ hne, candidateStatus_promote_ne _ _ _ hne]
      · exact candidateStatus_promote_ne _ _ _ hne
    · simp only [if_neg hrunning]
      split
      · exact candidateStatus_promote_ne _ _ _ hne
      · rfl
  unfold promoteShadowCandidate
  split
  · rfl
  · split
    · exact candidateStatus_promote_ne _ _ _ hne
    · split
      · rfl
      · exact hpassed

/-- **A candidate outside the shadow keeps its status.** -/
theorem candidateStatus_promoteShadow (config : PromotionConfig) (reading : ShadowReading)
    (allowedExchange : String) (db : Database) {k : ℕ}
    (hoff : ∀ status ∈ candidateStatus db k, status ≠ .shadowRunning ∧ status ≠ .shadowPassed) :
    candidateStatus (promoteShadowCandidates config reading allowedExchange db) k
      = candidateStatus db k := by
  unfold promoteShadowCandidates
  split
  · rfl
  · refine foldl_invariant (P := fun d => candidateStatus d k = candidateStatus db k) ?_ rfl
    intro d candidate hlisted hd
    obtain ⟨hload, hstatus⟩ := mem_loadCandidateStrategies hlisted
    have hne : k ≠ candidate.id := by
      rintro rfl
      have hmem := hoff candidate.status (candidateStatus_of_load hload)
      simp only [List.mem_cons, List.not_mem_nil, or_false] at hstatus
      exact hstatus.elim hmem.1 hmem.2
    rw [candidateStatus_promoteShadow_ne config reading allowedExchange d hne]
    exact hd

end AutoCoinBot
