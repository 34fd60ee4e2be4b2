/-
  LiveStrategyPilot.Sessions — the sessions, settings and checks that the ticks of
  app/live_strategy_pilot.py share.
-/
import AutoCoinBot.CapitalAllocator.Snapshot
import AutoCoinBot.LiveStrategyPilot.PlacedOnce
import AutoCoinBot.LiveStrategyPilot.Sizing
import AutoCoinBot.SmartDecision.Promotion

namespace AutoCoinBot

open Library

/-! ## Settings -/

/-- `LiveStrategyConfig`; the defaults are those of `from_env`. -/
structure LiveStrategyConfig where
  liveAutoTradingEnabled : Bool := false
  autoStrategyPilotEnabled : Bool := false
  smartAutonomousTradingEnabled : Bool := false
  allowedExchange : String := "bithumb"
  allowedMarket : String := "KRW-BTC"
  allowedOrderType : OrderType := .limit
  maxOrderKrw : ℚ := 30000
  maxOrdersPerDay : ℤ := 3
  maxOpenPositionCount : ℤ := 5
  cooldownSeconds : ℤ := 1800
  coreOrderCooldownSeconds : ℤ := 1800
  entryPriceOffsetPercent : ℚ := 3 / 10
  coreEntryPriceOffsetPercent : ℚ := 3 / 10
  coreMarketableLimitEnabled : Bool := false
  coreMarketableLimitMaxSlippagePct : ℚ := 15 / 100
  coreMarketableLimitPriceBufferPct : ℚ := 2 / 100
  exitEnabled : Bool := false
  marketOrderEnabled : Bool := false

/-- The `AUTO_SCALE_IN_…` settings. -/
structure ScaleInSettings where
  enabled : Bool := true
  maxCountPerPosition : ℕ := 3
  minPositionPnlPercent : ℚ := 0
  maxPositionExposurePct : ℚ := 45
  minIntervalSeconds : ℤ := 900
  requireBuySignal : Bool := true
  blockTrendDown : Bool := true
  noAveragingDown : Bool := true

/-- The settings of the pilot. The blocked strategies and symbols are those of
`LIVE_BLOCKED_STRATEGIES` and `LIVE_BLOCKED_SYMBOLS`, in capitals. -/
structure PilotSettings where
  config : LiveStrategyConfig := {}
  liveConfig : LiveTradingConfig := {}
  apiKeyLoaded : Bool := false
  profitEngine : ProfitEngineConfig := {}
  dynamicSizing : DynamicSizingSettings := {}
  scaleIn : ScaleInSettings := {}
  smartEngineLiveMode : SmartEngineLiveMode := .shadow
  rehearsal : RehearsalRules := {}
  orderRequiresDiagnosticClear : Bool := true
  liveBlockedStrategies : List String := ["RSI"]
  liveBlockedSymbols : List String := ["WLD", "XLM", "RE"]

/-- `_is_smart_order_mode`; it does not look at the session. -/
def PilotSettings.isSmartOrderMode (settings : PilotSettings) : Bool :=
  isSmartLiveMode settings.smartEngineLiveMode

/-! ## Sessions -/

/-- `_is_smart_autonomous_session`. -/
def LiveStrategySession.isSmartAutonomous (session : LiveStrategySession) : Bool :=
  session.candidateStrategyId == 0 || session.strategyName.toLower == "smart_autonomous"

/-- `_session_market`. -/
def LiveStrategySession.marketFor (session : LiveStrategySession) (config : LiveStrategyConfig) : String :=
  orText session.market (orText config.allowedMarket "KRW-BTC")

def marketSymbol (market : String) : String := (symbolOf market).toUpper

/-- `_live_strategy_disabled_reason`, of a session and the market it trades in. -/
def liveStrategyDisabledReason (settings : PilotSettings) (session : LiveStrategySession)
    (market : String) : Option String :=
  let strategy := (stripText session.strategyName).toLower
  if strategy ≠ "" ∧ settings.liveBlockedStrategies.contains strategy.toUpper then
    some "BLOCKED_LIVE_STRATEGY_DISABLED"
  else if settings.liveBlockedSymbols.contains (marketSymbol market) then
    some "BLOCKED_LIVE_SYMBOL_DISABLED"
  else none

def secondsSince (now time : UtcTime) : ℤ := now - time

/-! ## Orders on record -/

/-- The statuses that `count_live_strategy_orders_today` counts. -/
def OrderStatus.countsToday : OrderStatus → Bool
  | .submitted | .waiting | .partiallyFilled | .filled | .canceled => true
  | _ => false

def strategyOrderEventRequest (requestId : String) : Bool :=
  ["-waiting-", "-canceled-", "-filled-", "-partial-", "-failed-"].any
    (fun pat => likeContains pat requestId)

def countLiveStrategyOrdersToday (db : Database) (exchange market : String) (now : UtcTime) : ℕ :=
  let (startUtc, endUtc) := kstDayBoundsUtc (kstDate now)
  (db.liveOrderLogs.select (fun r => r.exchange == exchange && r.market == market
    && r.sessionId.isSome && r.candidateStrategyId.isSome && r.status.countsToday
    && !strategyOrderEventRequest r.requestId
    && decide (startUtc ≤ r.createdAt) && decide (r.createdAt < endUtc))).length

def hasOpenLiveStrategyOrder (db : Database) (exchange market : String) : Bool :=
  db.liveOrderLogs.rows.any (fun r => r.exchange == exchange && r.market == market
    && r.sessionId.isSome && r.status.isUnresolved && !liveOrderEventRequestIdFilter r.requestId)

/-! ## `_entry_order_execution_preflight` -/

/-- `load_pending_order_reservation`; `created_at` grows with the ids. -/
def loadPendingOrderReservation (db : Database) (exchange market : String)
    (candidateStrategyId : ℕ) : Option OrderReservation :=
  ((db.orderReservations.select (fun r => r.exchange == exchange && r.market == market
    && r.candidateStrategyId == candidateStrategyId
    && [ReservationStatus.pending, .reserved].contains r.status)).insertionSort
      (fun a b => b.id ≤ a.id)).head?

/-- What an order is checked against right before it is placed. -/
structure PreflightReadings where
  autoTradingEnabled : Bool
  runtimeLockStatus : Option String
  diagnosticsClear : Bool
  now : UtcTime

/-- The reason of `_entry_order_execution_preflight`, unless the order may go out. -/
def entryOrderExecutionPreflight (settings : PilotSettings) (readings : PreflightReadings)
    (db : Database) (session : LiveStrategySession) (market : String) : Option String :=
  if session.status ≠ .running then some "BLOCKED_SESSION_NOT_RUNNING"
  else if readings.autoTradingEnabled = false then some "BLOCKED_DB_AUTO_TRADING_DISABLED"
  else if (toText readings.runtimeLockStatus).toUpper ≠ "RUNNING" then
    some "BLOCKED_RUNTIME_LOCK_NOT_RUNNING"
  else
    match loadPendingOrderReservation db (orText session.exchange "bithumb") market
        session.candidateStrategyId with
    | none => some "BLOCKED_RESERVATION_MISSING"
    | some reservation =>
      if reservation.effectiveExpiresAtUtc.any (fun expiry => expiry ≤ readings.now) then
        some "BLOCKED_EXPIRED_RESERVATION"
      else if settings.orderRequiresDiagnosticClear ∧ readings.diagnosticsClear = false then
        some "BLOCKED_DIAGNOSTIC_GATE_FAILED"
      else none

end AutoCoinBot
