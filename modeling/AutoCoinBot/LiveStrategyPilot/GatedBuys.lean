/-
  LiveStrategyPilot.GatedBuys — the entry gate of `_precheck_block_reason`, and the
  buys of a tick.

  The gate stands on the way of a session without a position.
-/
import AutoCoinBot.LiveStrategyPilot.EntryOrder
import AutoCoinBot.LiveStrategyPilot.ProcessSession

namespace AutoCoinBot

open Library

/-! ## Ticks -/

/-- One call of `_process_session`, with what it is answered. -/
structure SessionTick where
  settings : PilotSettings
  risk : RiskEnvironment
  syncEnv : SyncEnv
  exitTimeout : ExitTimeoutEnv
  db : Database
  orderLogs : OrderLogs
  session : LiveStrategySession
  -- `restart_block_reason(…)["allowed"]`
  restartAllowed : Bool := true
  -- what `get_balances` answers to the reconciliation
  recoveryBalances : Option Balances := none
  -- `latest`, and the signal of the strategy
  candle : Option PilotCandle := none
  strategySignal : Signal := .hold
  -- the recorded decision, and its intent
  decision : Option SmartSnapshot := none
  intent : Option OrderIntent := none
  smartReadings : SmartReadings := { balances := none }
  entryReadings : EntryReadings := { balances := none }
  requestHex : HexText
  nowText : String

/-- `_session_candidate` finds one; the smart engine has its own. -/
def LiveStrategySession.hasCandidate (session : LiveStrategySession) (db : Database) : Bool :=
  session.isSmartAutonomous || (loadCandidateStrategy db session.candidateStrategyId).isSome

namespace SessionTick

variable (t : SessionTick)

def config : LiveStrategyConfig := t.settings.config

def path : SessionPath := sessionPath t.config t.db t.session t.risk.emergencyStopped

def enteredDb : Database := enterSession t.config t.db t.session t.risk.emergencyStopped

/-- `signal`. -/
def signalFor (session : LiveStrategySession) : Signal :=
  if session.isSmartAutonomous then .hold else t.strategySignal

/-! ## `_precheck_block_reason` -/

def recovery (session : LiveStrategySession) : Database × Option String :=
  autoOrderRecoveryBlockReason t.syncEnv t.enteredDb "bithumb" (session.marketFor t.config)
    t.recoveryBalances

/-- The conditions of `_precheck_block_reason`. -/
def precheckConditions (session : LiveStrategySession) : List (Bool × String) :=
  let config := t.config
  let market := session.marketFor config
  let db := t.enteredDb
  let disabled := liveStrategyDisabledReason t.settings session market
  let recoveryBlock := (t.recovery session).2
  let cooling := session.lastOrderTimeUtc.any (fun time =>
    decide (secondsSince t.risk.now time < config.cooldownSeconds))
  [(t.risk.emergencyStopped, "BLOCKED_EMERGENCY_STOP"),
    (!t.settings.liveConfig.liveTradingEnabled, "BLOCKED_LIVE_DISABLED"),
    (!config.liveAutoTradingEnabled, "BLOCKED_AUTO_DISABLED"),
    (!(config.autoStrategyPilotEnabled || config.smartAutonomousTradingEnabled),
      "BLOCKED_AUTO_STRATEGY_DISABLED"),
    (config.allowedExchange != "bithumb" || session.exchange != "bithumb",
      "BLOCKED_EXCHANGE_NOT_ALLOWED"),
    (market != "KRW-BTC" && !marketIsLiveAllowed db "bithumb" market, "BLOCKED_MARKET_NOT_ALLOWED"),
    (disabled.isSome, toText disabled),
    (!t.risk.policy.autoTradingEnabled, "SMART_POLICY_AUTO_TRADING_DISABLED"),
    (t.settings.orderRequiresDiagnosticClear && !t.restartAllowed,
      "BLOCKED_DIAGNOSTIC_GATE_FAILED"),
    (config.allowedOrderType != .limit, "BLOCKED_ORDER_TYPE_NOT_ALLOWED"),
    (config.marketOrderEnabled, "BLOCKED_MARKET_ORDER_DISABLED"),
    (!t.settings.apiKeyLoaded, "BLOCKED_ORDER_CHANCE_FAILED"),
    (decide (0 < config.maxOrdersPerDay
        ∧ config.maxOrdersPerDay ≤ countLiveStrategyOrdersToday db "bithumb" market t.risk.now),
      "BLOCKED_MAX_ORDERS_PER_DAY"),
    (hasOpenLiveStrategyOrder db "bithumb" market, "BLOCKED_OPEN_ORDER_EXISTS"),
    (!session.isSmartAutonomous
        && hasOpenLivePositionForStrategy db "bithumb" market session.candidateStrategyId,
      "BLOCKED_OPEN_POSITION_EXISTS"),
    (recoveryBlock.isSome, toText recoveryBlock),
    (!t.settings.isSmartOrderMode && cooling, "BLOCKED_COOLDOWN")]

def precheckBlockReason (session : LiveStrategySession) : Option String :=
  ((t.precheckConditions session).find? Prod.fst).map Prod.snd

/-! ## The buys of a tick -/

/-- The call of `_submit_smart_intent_order` on a path. -/
def smartCall (session : LiveStrategySession) (db : Database) (candle : PilotCandle)
    (snapshot : SmartSnapshot) (intent : OrderIntent) : SmartCall :=
  { settings := t.settings
    readings := t.smartReadings
    risk := t.risk
    db := db
    orderLogs := t.orderLogs
    session := session
    candle := candle
    signal := t.signalFor session
    snapshot := snapshot
    intent := intent
    requestHex := t.requestHex
    nowText := t.nowText }

/-- `_submit_smart_intent_order` sends a buy. -/
def SmartBuys (session : LiveStrategySession) (db : Database) : Prop :=
  ∃ candle snapshot intent, t.candle = some candle ∧ t.decision = some snapshot
    ∧ t.intent = some intent ∧ (t.smartCall session db candle snapshot intent).Buys

/-- The call of `_submit_entry_order`. -/
def entryCall (session : LiveStrategySession) (db : Database) (candle : PilotCandle) : EntryCall :=
  { settings := t.settings
    readings := t.entryReadings
    risk := t.risk
    db := db
    orderLogs := t.orderLogs
    session := session
    candle := candle
    signal := t.signalFor session
    snapshot := t.decision
    requestHex := t.requestHex
    nowText := t.nowText }

/-- `_submit_entry_order` sends a buy, for a signal that is not on record. -/
def EntryBuys (session : LiveStrategySession) (db : Database) : Prop :=
  ∃ candle, t.candle = some candle ∧ t.signalFor session = .buy
    ∧ (t.entryCall session db candle).tick.alreadyOrdered t.orderLogs = some false
    ∧ (t.entryCall session db candle).Buys

/-- The database when `_process_open_position` looks for an order. -/
def positionDb (p : LivePosition) : Database :=
  manageExitOrderTimeout t.enteredDb p.id t.exitTimeout

/-- The database when a session without a position does. -/
def entryDb (session : LiveStrategySession) : Database :=
  updateLiveStrategySession (t.recovery session).1 session.id { status := some .running }

/-- `_process_session` leads to a buy. -/
def Buys : Prop :=
  match t.path with
  -- an open order is followed, an emergency cancels it
  | .emergency | .openOrder => False
  | .position session p | .adopted session p _ =>
    session.hasCandidate (t.positionDb p) = true ∧ t.settings.isSmartOrderMode = true
      ∧ t.SmartBuys session (t.positionDb p)
  | .entry session =>
    let db := t.entryDb session
    t.precheckBlockReason session = none ∧ session.hasCandidate db = true
      ∧ if t.settings.isSmartOrderMode then t.SmartBuys session db
        else session.isSmartAutonomous = false ∧ t.EntryBuys session db

/-! ## The gate -/

/-- What the gate asks of strategy, symbol, market, orders and balances. -/
structure PassesGate (session : LiveStrategySession) (db : Database) : Prop where
  enabled : liveStrategyDisabledReason t.settings session (session.marketFor t.config) = none
  market : session.marketFor t.config = "KRW-BTC"
    ∨ marketIsLiveAllowed db "bithumb" (session.marketFor t.config) = true
  resolved : hasUnresolvedLiveOrder db "bithumb" (session.marketFor t.config) = false
  balances : (reconcileBalances t.syncEnv db "bithumb" (session.marketFor t.config)
    t.recoveryBalances).2 = none
  underLimit : 0 < t.config.maxOrdersPerDay →
    (countLiveStrategyOrdersToday db "bithumb" (session.marketFor t.config) t.risk.now : ℤ)
      < t.config.maxOrdersPerDay

/-- The part of it that nothing asks again on the way of a position. -/
structure PassesUnasked (session : LiveStrategySession) (db : Database) : Prop where
  enabled : liveStrategyDisabledReason t.settings session (session.marketFor t.config) = none
  -- the order of a session without a market goes to `KRW-BTC`
  market : session.market = "" → session.marketFor t.config = "KRW-BTC"
    ∨ marketIsLiveAllowed db "bithumb" (session.marketFor t.config) = true
  resolved : t.risk.config.blockOnOpenOrder = false ∨ session.market = "" →
    hasUnresolvedLiveOrder db "bithumb" (session.marketFor t.config) = false
  balances : (reconcileBalances t.syncEnv db "bithumb" (session.marketFor t.config)
    t.recoveryBalances).2 = none
  underLimit : 0 < t.config.maxOrdersPerDay →
    (countLiveStrategyOrdersToday db "bithumb" (session.marketFor t.config) t.risk.now : ℤ)
      < t.config.maxOrdersPerDay

/-- The tick meets the conditions of the gate where it looks for an order. -/
def Gated : Prop :=
  match t.path with
  | .emergency | .openOrder => True
  | .position session p | .adopted session p _ => t.PassesGate session (t.positionDb p)
  | .entry session => t.PassesGate session t.enteredDb

/-- The session has no position, or meets what nothing asks again. -/
def EntersOrPasses : Prop :=
  match t.path with
  | .emergency | .openOrder | .entry _ => True
  | .position session p | .adopted session p _ => t.PassesUnasked session (t.positionDb p)

end SessionTick

section Gate

variable {t : SessionTick} {session : LiveStrategySession} {db : Database}

theorem precheckBlockReason_none (h : t.precheckBlockReason session = none) :
    t.PassesGate session t.enteredDb := by
  have hcondition : ∀ condition ∈ t.precheckConditions session, condition.1 = false :=
    firstFailing_eq_none_iff.mp h
  unfold SessionTick.precheckConditions at hcondition
  simp only [List.forall_mem_cons] at hcondition
  obtain ⟨-, -, -, -, -, hmarket, hdisabled, -, -, -, -, -, hlimit, -, -, hrecovery, -, -⟩ :=
    hcondition
  have hclear : (t.recovery session).2 = none := by
    simpa using hrecovery
  obtain ⟨hresolved, hbalances⟩ := autoOrderRecoveryBlockReason_eq_none_iff.mp hclear
  refine ⟨by simpa using hdisabled, ?_, hresolved, hbalances, ?_⟩
  · by_cases hbtc : session.marketFor t.config = "KRW-BTC"
    · exact .inl hbtc
    · right
      simpa [hbtc] using hmarket
  · intro hpositive
    have hnot := of_decide_eq_false hlimit
    exact lt_of_not_ge (fun hreached => hnot ⟨hpositive, hreached⟩)

/-! What the risk manager asks again. -/

variable {c : SmartCall}

theorem smartCall_checks (h : c.Buys) :
    ∀ check ∈ orderChecks c.risk c.db c.riskRequest, check.2 = none := by
  have hgate : (!c.promotion.promotionStatus.isReady, SmartStop.blocked "SMART_PROMOTION_BLOCKED")
      ∈ c.gates := List.mem_append_right _ (List.mem_cons_of_mem _ List.mem_cons_self)
  have hready : c.promotion.promotionStatus.isReady = true := by
    simpa using smartIntentOrder_ok_iff.mp h _ hgate
  obtain ⟨preview, hpreview, hallowed⟩ := evaluatePromotion_isReady_allowed _ _ hready
  rw [← Option.some.inj hpreview] at hallowed
  exact checkOrderRisk_allowed_iff.mp hallowed

theorem smartCall_exchangeText : c.riskRequest.order.exchangeText = "bithumb" := by
  show "bithumb".toLower = "bithumb"
  decide +kernel

theorem smartCall_marketText (hmarket : c.session.market ≠ "") :
    c.riskRequest.order.marketText = c.session.market := if_neg hmarket

theorem smartCall_market (h : c.Buys) (hmarket : c.session.market ≠ "") :
    c.session.market = "KRW-BTC" ∨ marketIsLiveAllowed c.db "bithumb" c.session.market = true := by
  have hcheck : exchangeCheck c.db c.riskRequest = none :=
    smartCall_checks h ("exchange_check", exchangeCheck c.db c.riskRequest) (by simp [orderChecks])
  unfold exchangeCheck at hcheck
  rw [if_neg (not_not_intro smartCall_exchangeText)] at hcheck
  have hallowed : marketLiveCandidateAllowed c.db c.riskRequest = true := by
    by_contra hno
    rw [if_pos (Bool.not_eq_true _ ▸ hno)] at hcheck
    cases hcheck
  unfold marketLiveCandidateAllowed at hallowed
  rw [smartCall_exchangeText, smartCall_marketText hmarket, Bool.or_eq_true, Bool.and_eq_true,
    beq_iff_eq] at hallowed
  exact hallowed.imp_right And.right

theorem smartCall_resolved (h : c.Buys) (hmarket : c.session.market ≠ "")
    (hblock : c.risk.config.blockOnOpenOrder = true) :
    hasUnresolvedLiveOrder c.db "bithumb" c.session.market = false := by
  have hresolved := resolved_of_allowed (checkOrderRisk_allowed_iff.mpr (smartCall_checks h)) hblock
  rwa [smartCall_exchangeText, smartCall_marketText hmarket] at hresolved

/-! The gate on the way of a position. -/

theorem passesGate_iff (h : t.SmartBuys session db) :
    t.PassesGate session db ↔ t.PassesUnasked session db := by
  obtain ⟨candle, snapshot, intent, -, -, -, hbuys⟩ := h
  have hnamed : session.market ≠ "" → session.marketFor t.config = session.market :=
    fun hne => if_neg hne
  constructor
  · rintro ⟨henabled, hmarket, hresolved, hbalances, hlimit⟩
    exact ⟨henabled, fun _ => hmarket, fun _ => hresolved, hbalances, hlimit⟩
  · rintro ⟨henabled, hmarket, hresolved, hbalances, hlimit⟩
    refine ⟨henabled, ?_, ?_, hbalances, hlimit⟩
    · by_cases hempty : session.market = ""
      · exact hmarket hempty
      · rw [hnamed hempty]
        exact smartCall_market hbuys hempty
    · by_cases hempty : session.market = ""
      · exact hresolved (.inr hempty)
      · by_cases hblock : t.risk.config.blockOnOpenOrder = true
        · rw [hnamed hempty]
          exact smartCall_resolved hbuys hempty hblock
        · exact hresolved (.inl (Bool.not_eq_true _ ▸ hblock))

/-- **When a tick that buys has met the conditions of the gate**: where its session has no
position, and else where it meets what nothing asks again. -/
theorem gated_iff (hbuys : t.Buys) : t.Gated ↔ t.EntersOrPasses := by
  unfold SessionTick.Gated SessionTick.EntersOrPasses
  unfold SessionTick.Buys at hbuys
  cases hpath : t.path with
  | emergency => exact Iff.rfl
  | openOrder => exact Iff.rfl
  | position session p =>
    rw [hpath] at hbuys
    exact passesGate_iff hbuys.2.2
  | adopted session p riskResult =>
    rw [hpath] at hbuys
    exact passesGate_iff hbuys.2.2
  | entry session =>
    rw [hpath] at hbuys
    exact iff_of_true (precheckBlockReason_none hbuys.1) trivial

end Gate

/-! ## A strategy that is blocked -/

/-- A session of a blocked strategy that holds a position at its entry price. -/
def exampleBlockedSession : LiveStrategySession :=
  { id := 1, market := "KRW-BTC", candidateStrategyId := 1, strategyName := "rsi"
    status := .running, autoEnabled := true, currentPositionId := some 1 }

def exampleHeldPosition : LivePosition :=
  { id := 1, sessionId := 1, market := "KRW-BTC", candidateStrategyId := 1, entryPrice := 1000000
    entryVolume := 1 / 50, entryAmountKrw := 20000 }

/-- Its tick: the engine is live, and asks for more of the position. -/
def exampleBlockedTick : SessionTick :=
  { settings := { liveConfig := { liveTradingEnabled := true }, smartEngineLiveMode := .live }
    risk := { policy := { autoTradingEnabled := true } }
    syncEnv := { now := 0 }
    exitTimeout := { now := 0 }
    db :=
      { livePositions := Table.empty.insert
          (fun k => { exampleHeldPosition with id := k }) (fun _ => rfl)
        liveStrategySessions := Table.empty.insert
          (fun k => { exampleBlockedSession with id := k }) (fun _ => rfl)
        candidateStrategies := Table.empty.insert
          (fun k => { id := k, market := "KRW-BTC", strategy := "rsi" }) (fun _ => rfl)
        orderReservations := Table.empty.insert
          (fun k => { id := k, market := "KRW-BTC", candidateStrategyId := 1 }) (fun _ => rfl) }
    orderLogs := {}
    session := exampleBlockedSession
    candle := some { tradePrice := 1000000, time := 0, timeText := "1970-01-01T00:00:00Z" }
    decision := some { marketRegime := .range, actionHint := .buyMore, riskScore := 30 }
    intent := some
      { decisionSnapshotId := 1
        exchange := "bithumb"
        market := "KRW-BTC"
        side := .bid
        actionHint := .buyMore
        currentValueKrw := 20000
        targetValueKrw := 50000
        deltaValueKrw := 30000
        targetQty := some (3 / 100)
        limitPrice := some 1000000
        status := .created
        blockers := []
        targetSource := .conservative
        policyPreview := {}
        promotionStatus := some .readyForLive
        promotionBlockers := []
        pilotOrderCapKrw := some 30000
        riskPreview := some { allowed := true, riskResult := "SMART_PREFLIGHT_RISK_DEFERRED" } }
    smartReadings :=
      { balances := some { byCurrency := [("KRW", { balance := some 300000 })] }
        capitalSnapshot := some
          { snapshotError := "", maxTotalExposureKrw := 500000, availableKrwBalance := some 300000
            cashReserveKrw := 0, dbOpenPositionValueKrw := 20000, pendingBuyReservedKrw := 0
            pendingExchangeBuyOrderKrw := 0, remainingExposureKrw := 480000
            availableBudgetKrw := 300000, balanceMismatchDetected := false
            openOrderMismatchDetected := false, positions := [], slots := [] }
        runtimeLockStatus := some "RUNNING"
        diagnosticsClear := true }
    requestHex := exampleRequestHex
    nowText := "1970-01-01T00:00:00Z" }

theorem exampleBlockedTick_path :
    exampleBlockedTick.path = .position exampleBlockedSession exampleHeldPosition := by
  decide +kernel

theorem exampleBlockedTick_buys : exampleBlockedTick.Buys := by
  unfold SessionTick.Buys
  rw [exampleBlockedTick_path]
  refine ⟨by decide +kernel, rfl, _, _, _, rfl, rfl, rfl, smartIntentOrder_ok_iff.mpr ?_⟩
  decide +kernel

theorem gated_exampleBlockedTick :
    exampleBlockedTick.Gated ↔ exampleBlockedTick.EntersOrPasses :=
  gated_iff exampleBlockedTick_buys

/-- **A buy of a blocked strategy**, on the way of its position. -/
theorem ungated_buy :
    exampleBlockedTick.Buys
      ∧ liveStrategyDisabledReason exampleBlockedTick.settings exampleBlockedSession "KRW-BTC"
        = some "BLOCKED_LIVE_STRATEGY_DISABLED"
      ∧ ¬ ∀ t : SessionTick, t.Buys → t.Gated := by
  have hdisabled : liveStrategyDisabledReason exampleBlockedTick.settings exampleBlockedSession
      "KRW-BTC" = some "BLOCKED_LIVE_STRATEGY_DISABLED" := by
    decide +kernel
  refine ⟨exampleBlockedTick_buys, hdisabled, fun hall => ?_⟩
  have hgated := hall exampleBlockedTick exampleBlockedTick_buys
  unfold SessionTick.Gated at hgated
  rw [exampleBlockedTick_path] at hgated
  have henabled : liveStrategyDisabledReason exampleBlockedTick.settings exampleBlockedSession
      "KRW-BTC" = none := hgated.enabled
  rw [hdisabled] at henabled
  cases henabled

end AutoCoinBot
