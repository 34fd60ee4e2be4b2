/-
  LiveStrategyPilot.SmartIntentOrder — `_submit_smart_intent_order`, up to
  `broker.place_order`.

  A buy passes one gate after the other: the amount, the cooldown, the candle, the broker, the
  sizing, the position it would add to, the risk checks, the promotion and the preflight. Each
  gate is a condition that ends the call; the first that holds does.
-/
import AutoCoinBot.LiveStrategyPilot.Sessions

namespace AutoCoinBot

open Library

/-! ## The call -/

/-- `_bithumb_orderbook_top`, as far as it is read. -/
structure OrderbookTop where
  bestAsk : Option ℚ := none

/-- The candle a tick works on; its time is there as a number and as a text. -/
structure PilotCandle where
  tradePrice : ℚ
  highPrice : ℚ := tradePrice
  lowPrice : ℚ := tradePrice
  accTradeVolume : ℚ := 0
  accTradePrice : ℚ := 0
  time : UtcTime
  timeText : String

/-- What the exchange and the services answer to one call. -/
structure SmartReadings where
  -- `get_balances`, once `get_order_chance` has answered, too
  balances : Option Balances
  orderbookTop : OrderbookTop := {}
  -- `build_capital_snapshot_async`, and whether `snapshot_is_fresh`
  capitalSnapshot : Option CapitalSnapshot := none
  capitalFresh : Bool := true
  shadowRecommendation : Option String := none
  runtimeLockStatus : Option String := none
  diagnosticsClear : Bool := false
  -- `accumulated_delta_krw` of the buys that have been put off
  accumulatedDeltaKrw : Option ℚ := none

/-- One call of `_submit_smart_intent_order`. -/
structure SmartCall where
  settings : PilotSettings
  readings : SmartReadings
  risk : RiskEnvironment
  db : Database
  orderLogs : OrderLogs
  session : LiveStrategySession
  candle : PilotCandle
  signal : Signal
  snapshot : SmartSnapshot
  intent : OrderIntent
  requestHex : HexText
  nowText : String

/-- How a call ends without a buy. -/
inductive SmartStop where
  -- `return False`
  | notHandled
  | blocked (blocker : String)
  -- `_submit_smart_intent_sell_order` takes over
  | sells
  | raised

/-- `str(signal["signal"])`. -/
def Signal.text : Signal → String
  | .buy => "BUY"
  | .sell => "SELL"
  | .hold => "HOLD"

namespace SmartCall

variable (c : SmartCall)

def market : String := orText c.session.market "KRW-BTC"

def minOrderKrw : ℚ := c.settings.liveConfig.minOrderKrw

/-- `str(session.get("exchange") or "bithumb")`. -/
def exchange : String := orText c.session.exchange "bithumb"

/-- The signal and the session, as the guards of the order rows see them. -/
def tick : SignalTick :=
  { path := .smartBuy
    session :=
      { id := c.session.id
        candidateStrategyId := c.session.candidateStrategyId
        strategyName := some c.session.strategyName
        exchange := c.session.exchange
        market := c.market }
    candleTimeUtc := some c.candle.timeText
    signal := some c.signal.text
    requestHex := c.requestHex }

/-! ## The amount -/

/-- The buy is put off until it is worth an order. -/
def accumulates : Bool :=
  decide (0 < |c.intent.deltaValueKrw| ∧ |c.intent.deltaValueKrw| < c.minOrderKrw)
    || c.intent.blockers.contains "SMART_MIN_REBALANCE_DELTA"

/-- `amount_requested`, after `_accumulate_rebalance_delta`. -/
def amountRequested : ℚ :=
  let amount := |c.intent.deltaValueKrw|
  let accumulated := toFloat c.readings.accumulatedDeltaKrw + amount
  if c.accumulates then (if accumulated < c.minOrderKrw then amount else accumulated) else amount

/-- `_smart_core_accumulation_bid`; the source of the snapshot is always given. -/
def coreAccumulationBid : Bool :=
  c.intent.side == .bid
    && (c.snapshot.finalTargetExposureSource == .core
      || c.snapshot.coreExposureApplied || c.intent.policyPreview.coreExposureApplied
      || decide (0 < c.snapshot.coreExposurePct
        ∧ c.snapshot.currentExposurePct < c.snapshot.coreExposurePct))

/-- `_smart_cooldown_preview` finds seconds left. -/
def coolingDown : Bool :=
  let cooldownSeconds :=
    if c.coreAccumulationBid then c.settings.config.coreOrderCooldownSeconds
    else c.settings.config.cooldownSeconds
  c.session.lastOrderTimeUtc.any (fun time =>
    decide (0 < max (cooldownSeconds - secondsSince c.risk.now time) 0))

/-- `_profit_engine_strategy_name`. -/
def profitStrategyName : String :=
  orText (stripText c.snapshot.selectedStrategyType)
    (orText (stripText c.session.strategyName)
      (orText (stripText c.snapshot.selectedStrategyName)
        (toText (allowedStrategyForRegime c.snapshot.marketRegime))))

def profitGate : ProfitGate :=
  evaluateProfitEntryGate c.settings.profitEngine c.snapshot.marketRegime c.profitStrategyName .buy
    c.settings.config.exitEnabled

def balances : Balances := c.readings.balances.getD {}

def availableKrw : ℚ := availableBalance c.balances "KRW"

def sizing : CappedOrder :=
  calculateAvailableBalanceCappedOrder c.amountRequested (some c.availableKrw) c.minOrderKrw
    c.settings.liveConfig.feeRate c.settings.profitEngine.extraFeeBufferRate

def remainingExposure : ℚ :=
  max (c.snapshot.maxTotalExposureKrw - c.snapshot.currentBotPositionValueKrw) 0

def hardCap : ℚ :=
  let maxTotal := c.snapshot.maxTotalExposureKrw
  let modeCap := if c.settings.smartEngineLiveMode = .limited then maxTotal * (1 / 5) else maxTotal
  min (min (min (min modeCap c.settings.config.maxOrderKrw) c.settings.liveConfig.maxLiveOrderKrw)
    c.remainingExposure) c.availableKrw

/-- `_smart_bid_cap_blocker`. -/
def bidCapBlocker : String :=
  if c.amountRequested ≤ 0 then "SMART_ORDER_AMOUNT_ZERO"
  else if c.amountRequested < c.minOrderKrw then "SMART_ORDER_AMOUNT_BELOW_MIN"
  else if c.availableKrw ≤ 0 ∨ c.availableKrw < c.minOrderKrw then "SMART_INSUFFICIENT_KRW_BALANCE"
  else if c.remainingExposure ≤ 0 then "SMART_MAX_TOTAL_EXPOSURE_REACHED"
  else if c.remainingExposure < c.minOrderKrw then "SMART_REMAINING_EXPOSURE_BELOW_MIN"
  else if c.hardCap ≤ 0 then "SMART_ORDER_CAP_ZERO"
  else "SMART_CAPPED_ORDER_BELOW_MIN"

/-- The amount within the caps, or why there is none. -/
def cappedAmount : Except String ℚ :=
  if c.settings.profitEngine.enabled then
    if c.sizing.allowed then .ok c.sizing.actualOrderKrw
    else
      let blocker := toText c.sizing.blockCode
      .error (if blocker = "ORDER_BELOW_MINIMUM" then "SMART_CAPPED_ORDER_BELOW_MIN" else blocker)
  else
    let amount := min c.amountRequested c.hardCap
    if amount ≤ 0 ∨ amount < c.minOrderKrw then .error c.bidCapBlocker else .ok amount

/-- `amount`, before the dynamic sizing. -/
def cappedAmountKrw : ℚ :=
  match c.cappedAmount with
  | .ok amount => amount
  | .error _ => 0

/-- `_apply_dynamic_sizing_preview`; `hard_cap_krw` is there without the profit engine,
`actual_order_krw` with it. -/
def dynamicSizing : DynamicSizing :=
  let amount := c.cappedAmountKrw
  let edge := c.intent.policyPreview.adaptiveEdge.getD {}
  let cap :=
    if c.settings.profitEngine.enabled then c.sizing.actualOrderKrw else max c.hardCap 0
  buildDynamicSizingPreview c.settings.dynamicSizing
    { originalAmountKrw := amount
      adaptiveEdge := edge
      feePct := c.settings.liveConfig.feeRate * 100
      adverseSelectionPct := c.intent.policyPreview.adaptiveEdge.bind
        AdaptiveEdge.avgAdverseSelectionPct
      maxAllowedAmountKrw := some (if cap ≤ 0 then amount else cap)
      minOrderKrw := c.minOrderKrw }

/-- `amount`. -/
def amountKrw : ℚ := c.dynamicSizing.appliedAmountKrw

/-! ## `_scale_in_preview` -/

/-- `position`. -/
def scalePosition : Option LivePosition :=
  loadOpenLivePositionForStrategy c.db c.exchange c.market c.session.candidateStrategyId

def positionPnlPercent (position : LivePosition) (currentPrice : ℚ) : ℚ :=
  if position.entryAmountKrw ≤ 0 ∨ position.entryVolume ≤ 0 then 0
  else
    (currentPrice * position.entryVolume - position.entryAmountKrw) / position.entryAmountKrw * 100

/-- `_smart_buy_signal_ok`. -/
def buySignalOk : Bool :=
  c.signal == .buy || [ActionHint.buyMore, .increaseExposure].contains c.intent.actionHint
    || (c.intent.side == .bid && c.intent.riskPreview.any RiskPreview.allowed)

def hardBlockers : List String :=
  (c.intent.blockers ++ c.snapshot.blockers ++ c.snapshot.aggressiveBuyBlockers).filter
    (fun b => b != "SMART_MIN_REBALANCE_DELTA")

/-- The conditions under which a position is not added to. -/
def scaleInConditions (position : LivePosition) : List (Bool × String) :=
  let settings := c.settings.scaleIn
  let price := c.candle.tradePrice
  let missing := "BLOCKED_SCALE_IN_RISK_PREVIEW_MISSING"
  let interval := position.lastScaleInAt.elim 0 (fun time =>
    max (settings.minIntervalSeconds - secondsSince c.risk.now time) 0)
  let maxPositionValue :=
    if 0 < c.snapshot.maxTotalExposureKrw then
      c.snapshot.maxTotalExposureKrw * settings.maxPositionExposurePct / 100
    else 0
  [(!settings.enabled, "BLOCKED_SCALE_IN_DISABLED"),
    (position.status != .opened, "BLOCKED_SCALE_IN_EDGE_BROKEN"),
    (settings.requireBuySignal && !c.buySignalOk, "BLOCKED_SCALE_IN_REQUIRE_BUY_SIGNAL"),
    (settings.blockTrendDown && c.snapshot.marketRegime == .trendDown,
      "BLOCKED_SCALE_IN_TREND_DOWN"),
    (settings.noAveragingDown
        && decide (positionPnlPercent position price < settings.minPositionPnlPercent),
      "BLOCKED_SCALE_IN_POSITION_LOSING"),
    (decide (settings.maxCountPerPosition ≤ position.scaleInCount), "BLOCKED_SCALE_IN_MAX_COUNT"),
    (decide (0 < interval), "BLOCKED_SCALE_IN_INTERVAL"),
    (decide (c.availableKrw < c.minOrderKrw), missing),
    (c.readings.capitalSnapshot.isNone, missing),
    (!c.readings.capitalFresh || c.readings.capitalSnapshot.any (fun s =>
        s.balanceMismatchDetected || s.openOrderMismatchDetected), missing),
    (c.readings.capitalSnapshot.any (fun s => decide (s.availableBudgetKrw < c.minOrderKrw)),
      missing),
    (decide (0 < maxPositionValue ∧ maxPositionValue < position.entryVolume * price + c.amountKrw),
      "BLOCKED_SCALE_IN_MAX_EXPOSURE"),
    (!c.hardBlockers.isEmpty,
      if c.hardBlockers.contains "SMART_RISK_PREVIEW_MISSING" then missing
      else "BLOCKED_SCALE_IN_EDGE_BROKEN")]

/-- `scale_preview["blocker"]`, if the position is not added to. -/
def scaleInBlocker : Option String :=
  c.scalePosition.bind (fun position =>
    ((c.scaleInConditions position).find? Prod.fst).map Prod.snd)

/-! ## The order -/

def roundKrwPrice (price : ℚ) : ℚ :=
  if 1000000 ≤ price then (⌊price / 1000⌋ * 1000 : ℤ)
  else if 100000 ≤ price then (⌊price / 100⌋ * 100 : ℤ)
  else if 10000 ≤ price then (⌊price / 10⌋ * 10 : ℤ)
  else (truncate price : ℤ)

def roundKrwPriceUp (price : ℚ) : ℚ :=
  let unit : ℤ :=
    if 1000000 ≤ price then 1000 else if 100000 ≤ price then 100
    else if 10000 ≤ price then 10 else 1
  if price ≤ 0 then 0 else ((truncate price + unit - 1) / unit * unit : ℤ)

/-- The price of `_smart_bid_price_policy`. -/
def bidPrice : ℚ :=
  let config := c.settings.config
  let current := c.candle.tradePrice
  let offset :=
    if c.coreAccumulationBid then config.coreEntryPriceOffsetPercent
    else config.entryPriceOffsetPercent
  let fallback := roundKrwPrice (current * (1 - offset / 100))
  let bestAsk := toFloat c.readings.orderbookTop.bestAsk
  let marketable :=
    max bestAsk (roundKrwPriceUp (bestAsk * (1 + config.coreMarketableLimitPriceBufferPct / 100)))
  let most := current * (1 + config.coreMarketableLimitMaxSlippagePct / 100)
  if c.coreAccumulationBid = false ∨ config.coreMarketableLimitEnabled = false ∨ bestAsk ≤ 0
      ∨ (0 < current ∧ most < marketable) then fallback
  else marketable

def order : LiveOrder :=
  { exchange := some "bithumb"
    market := some c.market
    side := some .buy
    orderType := some .limit
    ordType := some .limit
    price := some (some c.bidPrice)
    volume := some (some (if 0 < c.bidPrice then c.amountKrw / c.bidPrice else 0))
    amountKrw := some (some c.amountKrw)
    scaleIn := c.scalePosition.isSome
    requestId := some c.tick.requestId
    clientOrderId := some (String.ofList (c.tick.requestId.toList.take 36)) }

/-- `evaluate_live_order_risk`, and `_profit_engine_base_risk`. -/
def baseRisk : BaseRisk :=
  let risk := evaluateLiveOrderRisk
    { order := c.order
      config := c.settings.liveConfig
      mode := .autoStrategyRunning
      balances := c.balances
      marketSnapshot := some { price := some c.candle.tradePrice }
      isAuto := true }
  if c.settings.profitEngine.enabled
      ∧ ["BLOCKED_MAX_ORDER_AMOUNT", "BLOCKED_MAX_POSITION_RATIO"].contains risk.riskResult then
    { allowed := true, riskResult := "ALLOWED" }
  else
    { allowed := risk.allowed, riskResult := risk.riskResult, blockedReason := risk.blockedReason }

/-- What `check_order_risk` is asked. -/
def riskRequest : RiskRequest :=
  { order := c.order.riskOrder
    purpose := .entry
    baseResult := c.baseRisk
    mode := .autoStrategyRunning
    sessionId := some c.session.id
    candidateStrategyId :=
      if c.session.isSmartAutonomous then none else some c.session.candidateStrategyId
    candleTimeUtc := some c.candle.time
    marketSnapshot := some { price := some c.candle.tradePrice, complete := some true }
    balances := some c.balances
    isAuto := true
    profitEngineEntry := c.settings.profitEngine.enabled }

def riskPreview : RiskPreview :=
  let result := checkOrderRisk c.risk c.db c.riskRequest
  { allowed := result.allowed
    riskResult := result.riskResult
    blockCode := toText result.blockCode }

def promotion : Promotion :=
  evaluatePromotion
    { mode := c.settings.smartEngineLiveMode
      riskConfig := c.risk.config
      rules := c.settings.rehearsal
      now := c.risk.now }
    { intent := { c.intent with deltaValueKrw := c.amountKrw }
      snapshot := c.snapshot
      policy := c.risk.policy
      riskPreview := some c.riskPreview
      shadowRecommendation := c.readings.shadowRecommendation
      availableKrw := some c.availableKrw
      dailySmartOrderCount := countLiveStrategyOrdersToday c.db c.exchange c.market c.risk.now
      riskScore := some c.snapshot.riskScore }

/-- `preflight_reason`, unless the order may go out. -/
def preflight : Option String :=
  entryOrderExecutionPreflight c.settings
    { autoTradingEnabled := c.risk.policy.autoTradingEnabled
      runtimeLockStatus := c.readings.runtimeLockStatus
      diagnosticsClear := c.readings.diagnosticsClear
      now := c.risk.now }
    c.db c.session c.market

/-- What stands in the way of the `PREVIEWED` row. -/
def rowError : Option InsertError :=
  match insertLiveOrderLog c.orderLogs (c.tick.logPayload .previewed) c.nowText with
  | .ok _ => none
  | .error e => some e

/-- `str(exc)` of the `ValueError`s; what else is raised is not caught. -/
def rowStop : InsertError → SmartStop
  | .duplicateClientOrderId => .blocked "DUPLICATE_CLIENT_ORDER_ID"
  | .duplicateExchangeOrderUuid => .blocked "DUPLICATE_EXCHANGE_ORDER_UUID"
  | .duplicateIdempotencyKey => .blocked "DUPLICATE_IDEMPOTENCY_KEY"
  | .integrityError | .overflowError => .raised

/-! ## The gates -/

/-- The gates before the position is looked at. -/
def sizingGates : List (Bool × SmartStop) :=
  let isBid := c.intent.side == .bid
  let amount := c.amountRequested
  [(isBid && c.accumulates && decide (amount < c.minOrderKrw), .blocked "SMART_MIN_REBALANCE_DELTA"),
    (isBid && decide (0 < amount ∧ amount < c.minOrderKrw), .blocked "SMART_ORDER_AMOUNT_BELOW_MIN"),
    (c.coolingDown,
      .blocked (if c.coreAccumulationBid then "SMART_CORE_COOLDOWN" else "BLOCKED_COOLDOWN")),
    ((c.tick.alreadyOrdered c.orderLogs).isNone, .raised),
    (c.tick.alreadyOrdered c.orderLogs == some true, .blocked "SMART_DUPLICATE_CANDLE"),
    (c.intent.side == .ask, .sells),
    (c.intent.side == .none, .notHandled),
    (c.readings.balances.isNone, .blocked "SMART_ORDER_CHANCE_FAILED"),
    (c.settings.profitEngine.enabled && !c.profitGate.entryAllowed,
      .blocked (toText c.profitGate.blockCode)),
    (c.cappedAmount.toOption.isNone,
      .blocked (match c.cappedAmount with | .error blocker => blocker | .ok _ => "")),
    (!c.dynamicSizing.allowed,
      .blocked (orText (toText c.dynamicSizing.blocker) "SMART_DYNAMIC_SIZING_BLOCKED")),
    (decide (c.amountKrw ≤ 0 ∨ c.amountKrw < c.minOrderKrw),
      .blocked (if c.dynamicSizing.enabled then "SMART_DYNAMIC_SIZING_ADJUSTED_BELOW_MIN"
        else "SMART_CAPPED_ORDER_BELOW_MIN"))]

def scaleInGate : Bool × SmartStop :=
  (c.scaleInBlocker.isSome, .blocked (toText c.scaleInBlocker))

def orderGates : List (Bool × SmartStop) :=
  [(!c.promotion.promotionStatus.isReady, .blocked "SMART_PROMOTION_BLOCKED"),
    (c.preflight.isSome, .blocked (toText c.preflight)),
    (c.rowError.isSome, (c.rowError.map rowStop).getD .raised)]

def gates : List (Bool × SmartStop) := c.sizingGates ++ c.scaleInGate :: c.orderGates

end SmartCall

/-- An order that goes to `broker.place_order`, unless a gate ends the call. -/
def passGates (gates : List (Bool × SmartStop)) (order : LiveOrder) : Except SmartStop LiveOrder :=
  match gates.find? Prod.fst with
  | some (_, stop) => .error stop
  | none => .ok order

theorem passGates_ok_iff {gates : List (Bool × SmartStop)} {order : LiveOrder} :
    (∃ sent, passGates gates order = .ok sent) ↔ ∀ gate ∈ gates, gate.1 = false := by
  unfold passGates
  cases hfind : gates.find? Prod.fst with
  | none => exact iff_of_true ⟨order, rfl⟩ (find?_fst_eq_none_iff.mp hfind)
  | some gate =>
    refine iff_of_false (fun ⟨sent, hsent⟩ => by cases hsent) (fun hall => ?_)
    rw [find?_fst_eq_none_iff.mpr hall] at hfind
    cases hfind

/-- `_submit_smart_intent_order`: the order that goes to `broker.place_order`, or how the call
ends without one. -/
def smartIntentOrder (c : SmartCall) : Except SmartStop LiveOrder := passGates c.gates c.order

/-- `_submit_smart_intent_order` sends a buy. -/
def SmartCall.Buys (c : SmartCall) : Prop := ∃ order, smartIntentOrder c = .ok order

section Gates

variable {c : SmartCall}

/-- **An order is placed exactly if no gate ends the call.** -/
theorem smartIntentOrder_ok_iff : c.Buys ↔ ∀ gate ∈ c.gates, gate.1 = false := passGates_ok_iff

/-- **A position is not added to on an intent with blockers.** -/
theorem scaleInBlocker_isSome (hopen : c.scalePosition.isSome = true)
    (hblocked : c.hardBlockers ≠ []) : c.scaleInBlocker.isSome = true := by
  obtain ⟨position, hposition⟩ := Option.isSome_iff_exists.mp hopen
  unfold SmartCall.scaleInBlocker
  rw [hposition, Option.bind_some, Option.isSome_map, List.find?_isSome]
  -- the blockers are looked at last
  have hlast : (c.scaleInConditions position).getLast?
      = some (!c.hardBlockers.isEmpty,
          if c.hardBlockers.contains "SMART_RISK_PREVIEW_MISSING" then
            "BLOCKED_SCALE_IN_RISK_PREVIEW_MISSING"
          else "BLOCKED_SCALE_IN_EDGE_BROKEN") := rfl
  exact ⟨_, List.mem_of_getLast? hlast, by simpa using hblocked⟩

theorem scaleInBlocker_eq_none (hnone : c.scalePosition = none) : c.scaleInBlocker = none := by
  unfold SmartCall.scaleInBlocker
  rw [hnone]
  rfl

end Gates

end AutoCoinBot
