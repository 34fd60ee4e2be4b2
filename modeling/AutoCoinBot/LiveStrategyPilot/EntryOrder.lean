/-
  LiveStrategyPilot.EntryOrder — `_submit_entry_order`, up to `broker.place_order`.

  As for a smart intent, each gate is a condition that ends the call; the first that holds does.
-/
import AutoCoinBot.LiveStrategyPilot.SmartIntentOrder

namespace AutoCoinBot

open Library

/-- What the exchange and the services answer to one call. -/
structure EntryReadings where
  -- `get_balances`, once `get_order_chance` has answered, too
  balances : Option Balances
  -- `build_capital_snapshot_async`, and whether `snapshot_is_fresh`
  capitalSnapshot : Option CapitalSnapshot := none
  capitalFresh : Bool := false
  -- `one_minute_liquidity_snapshot`
  liquidity : MarketSnapshot := { liquidityCheckRequired := true }
  runtimeLockStatus : Option String := none
  diagnosticsClear : Bool := false

/-- One call of `_submit_entry_order`. -/
structure EntryCall where
  settings : PilotSettings
  readings : EntryReadings
  risk : RiskEnvironment
  db : Database
  orderLogs : OrderLogs
  session : LiveStrategySession
  candle : PilotCandle
  signal : Signal
  snapshot : Option SmartSnapshot
  requestHex : HexText
  nowText : String

namespace EntryCall

variable (c : EntryCall)

/-! ## The amount -/

def market : String := orText c.session.market "KRW-BTC"

/-- The signal and the session, as the guards of the order rows see them. -/
def tick : SignalTick :=
  { path := .entry
    session :=
      { id := c.session.id
        candidateStrategyId := c.session.candidateStrategyId
        strategyName := some c.session.strategyName
        exchange := c.session.exchange
        market := c.market }
    candleTimeUtc := some c.candle.timeText
    signal := some c.signal.text
    requestHex := c.requestHex }

def price : ℚ :=
  SmartCall.roundKrwPrice
    (c.candle.tradePrice * (1 - c.settings.config.entryPriceOffsetPercent / 100))

def rangeRate : ℚ :=
  if 0 < c.candle.tradePrice then (c.candle.highPrice - c.candle.lowPrice) / c.candle.tradePrice
  else 0

def profitEnabled : Bool := c.settings.profitEngine.enabled

/-- `_profit_engine_market_regime`; the signals name none. -/
def marketRegime : MarketRegime := (c.snapshot.map SmartSnapshot.marketRegime).getD .unknown

/-- `_profit_engine_strategy_name`. -/
def profitStrategyName : String :=
  orText (stripText ((c.snapshot.map SmartSnapshot.selectedStrategyType).getD ""))
    (orText (stripText c.session.strategyName)
      (orText (stripText ((c.snapshot.map SmartSnapshot.selectedStrategyName).getD ""))
        (toText (allowedStrategyForRegime c.marketRegime))))

def profitGate : ProfitGate :=
  evaluateProfitEntryGate c.settings.profitEngine c.marketRegime c.profitStrategyName .buy
    c.settings.config.exitEnabled

def amountRequested : ℚ :=
  let sessionMax := orNum c.session.maxOrderKrw c.settings.config.maxOrderKrw
  if c.profitEnabled then sessionMax
  else min (min sessionMax c.settings.config.maxOrderKrw) c.settings.liveConfig.maxLiveOrderKrw

def snapshotBudget : ℚ :=
  (c.readings.capitalSnapshot.map CapitalSnapshot.availableBudgetKrw).getD 0

def availableKrw : ℚ :=
  (c.readings.capitalSnapshot.bind CapitalSnapshot.availableKrwBalance).getD c.snapshotBudget

def sizing : CappedOrder :=
  calculateAvailableBalanceCappedOrder c.amountRequested (some c.availableKrw)
    c.settings.liveConfig.minOrderKrw c.settings.liveConfig.feeRate
    c.settings.profitEngine.extraFeeBufferRate

/-- `amount`. -/
def amountKrw : ℚ :=
  if c.profitEnabled then c.sizing.actualOrderKrw else min c.amountRequested c.snapshotBudget

/-! ## The order -/

def order : LiveOrder :=
  { exchange := some "bithumb"
    market := some c.market
    side := some .buy
    orderType := some .limit
    ordType := some .limit
    price := some (some c.price)
    volume := some (some (if 0 < c.price then c.amountKrw / c.price else 0))
    amountKrw := some (some c.amountKrw)
    requestId := some c.tick.requestId
    clientOrderId := some (String.ofList (c.tick.requestId.toList.take 36)) }

def balances : Balances := c.readings.balances.getD {}

/-- `evaluate_live_order_risk`. -/
def liveRisk : LiveRiskResult :=
  evaluateLiveOrderRisk
    { order := c.order
      config := c.settings.liveConfig
      mode := .autoStrategyRunning
      balances := c.balances
      marketSnapshot := some
        { price := some c.candle.tradePrice
          rangeRate := some c.rangeRate
          volume := some c.candle.accTradeVolume }
      isAuto := true }

/-- `_profit_engine_base_risk`, after the cap of the pilot. -/
def baseRisk : BaseRisk :=
  let overCap := decide (c.settings.config.maxOrderKrw < c.amountKrw) && !c.profitEnabled
  let bypassed := c.profitEnabled
    && ["BLOCKED_MAX_ORDER_AMOUNT", "BLOCKED_MAX_POSITION_RATIO"].contains c.liveRisk.riskResult
  if overCap then
    { allowed := false, riskResult := "BLOCKED_MAX_ORDER_AMOUNT"
      blockedReason := "BLOCKED_MAX_ORDER_AMOUNT" }
  else if bypassed then { allowed := true, riskResult := "ALLOWED" }
  else
    { allowed := c.liveRisk.allowed, riskResult := c.liveRisk.riskResult
      blockedReason := c.liveRisk.blockedReason }

/-- What `check_order_risk` is asked. -/
def riskRequest : RiskRequest :=
  { order := c.order.riskOrder
    purpose := .entry
    baseResult := c.baseRisk
    mode := .autoStrategyRunning
    sessionId := some c.session.id
    candidateStrategyId := some c.session.candidateStrategyId
    candleTimeUtc := some c.candle.time
    marketSnapshot := some { c.readings.liquidity with
      price := some c.candle.tradePrice
      rangeRate := some c.rangeRate
      volume := some c.candle.accTradeVolume
      tradePriceVolume := some c.candle.accTradePrice
      complete := some true }
    balances := some c.balances
    isAuto := true
    profitEngineEntry := c.profitEnabled }

/-- `risk`. -/
def riskResult : RiskResult := checkOrderRisk c.risk c.db c.riskRequest

/-- `preflight_reason`, unless the order may go out. -/
def preflight : Option String :=
  entryOrderExecutionPreflight c.settings
    { autoTradingEnabled := c.risk.policy.autoTradingEnabled
      runtimeLockStatus := c.readings.runtimeLockStatus
      diagnosticsClear := c.readings.diagnosticsClear
      now := c.risk.now }
    c.db c.session c.market

/-- What stands in the way of the `PREVIEWED` row. -/
def rowError : Option InsertError :=
  match insertLiveOrderLog c.orderLogs (c.tick.logPayload .previewed) c.nowText with
  | .ok _ => none
  | .error e => some e

/-! ## The gates -/

def capitalGates : List (Bool × SmartStop) :=
  let capital := c.readings.capitalSnapshot
  [(c.readings.balances.isNone, .blocked "BLOCKED_ORDER_CHANCE_FAILED"),
    (capital.isNone || !c.readings.capitalFresh, .blocked "BLOCKED_SNAPSHOT_STALE"),
    (capital.any CapitalSnapshot.balanceMismatchDetected, .blocked "BLOCKED_BALANCE_MISMATCH"),
    (capital.any CapitalSnapshot.openOrderMismatchDetected,
      .blocked "BLOCKED_OPEN_ORDER_MISMATCH"),
    (c.profitEnabled && !c.profitGate.entryAllowed, .blocked (toText c.profitGate.blockCode)),
    (c.profitEnabled && !c.sizing.allowed, .blocked (toText c.sizing.blockCode)),
    (!c.profitEnabled && decide (c.snapshotBudget ≤ 0),
      .blocked (if (capital.bind CapitalSnapshot.availableKrwBalance).isNone then
          "BLOCKED_EXCHANGE_BALANCE_UNAVAILABLE"
        else "BLOCKED_INSUFFICIENT_KRW_BALANCE")),
    (!c.profitEnabled && decide (c.amountKrw < c.settings.liveConfig.minOrderKrw),
      .blocked "BLOCKED_CAPITAL_TOO_SMALL")]

def orderGates : List (Bool × SmartStop) :=
  [(!c.riskResult.allowed, .blocked c.riskResult.riskResult),
    (decide (availableBalance c.balances "KRW" < c.amountKrw + c.liveRisk.feeEstimate),
      .blocked "BLOCKED_INSUFFICIENT_BALANCE"),
    (c.preflight.isSome, .blocked (toText c.preflight)),
    (c.rowError.isSome, (c.rowError.map SmartCall.rowStop).getD .raised)]

def gates : List (Bool × SmartStop) := c.capitalGates ++ c.orderGates

end EntryCall

/-- `_submit_entry_order`: the order that goes to `broker.place_order`, or how the call ends
without one. -/
def entryOrder (c : EntryCall) : Except SmartStop LiveOrder := passGates c.gates c.order

/-- `_submit_entry_order` sends a buy. -/
def EntryCall.Buys (c : EntryCall) : Prop := ∃ order, entryOrder c = .ok order

end AutoCoinBot
