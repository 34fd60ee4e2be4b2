/-
  LiveStrategyPilot.SmartIntentSell — `_submit_smart_intent_sell_order`, up to
  `broker.place_order`.

  The position is looked up before the exchange is asked for its balances. Whether an order
  sells it already is not asked; of the orders on record the risk manager sees those that are
  unresolved.
-/
import AutoCoinBot.LiveStrategyPilot.OpenOrders
import AutoCoinBot.LiveStrategyPilot.SmartIntentOrder

namespace AutoCoinBot

open Library

/-! ## The call -/

/-- One call of `_submit_smart_intent_sell_order`. -/
structure SmartSellCall where
  settings : PilotSettings
  session : LiveStrategySession
  candle : PilotCandle
  signal : Signal
  snapshot : SmartSnapshot
  intent : OrderIntent
  requestHex : HexText

/-- What it reads once the exchange has answered. -/
structure SmartSellReadings where
  -- `get_balances`, once `get_order_chance` has answered, too
  balances : Option Balances
  risk : RiskEnvironment := {}
  shadowRecommendation : Option String := none
  -- the idempotency key of the order is claimed already
  keyClaimed : Bool := false

namespace SmartSellCall

variable (c : SmartSellCall)

/-- `str(session.get("exchange") or "bithumb")`. -/
def exchange : String := orText c.session.exchange "bithumb"

/-- `str(session.get("market") or "KRW-BTC")`. -/
def market : String := orText c.session.market "KRW-BTC"

def minOrderKrw : ℚ := c.settings.liveConfig.minOrderKrw

/-- The signal and the session, as the guards of the order rows see them. -/
def tick : SignalTick :=
  { path := .smartSell
    session :=
      { id := c.session.id
        candidateStrategyId := c.session.candidateStrategyId
        strategyName := some c.session.strategyName
        exchange := c.session.exchange
        market := c.market }
    candleTimeUtc := some c.candle.timeText
    signal := some c.signal.text
    requestHex := c.requestHex }

/-- `position`: that of the session, else any of the market. -/
def position (db : Database) : Option LivePosition :=
  (loadOpenLivePosition db c.session.id c.exchange c.market).or
    (loadOpenLivePositions db c.exchange c.market).head?

/-! ## The volume -/

def price : ℚ := SmartCall.roundKrwPrice c.candle.tradePrice

def requestedQty : ℚ :=
  let price := c.candle.tradePrice
  orNum |toFloat c.intent.targetQty| (if 0 < price then |c.intent.deltaValueKrw| / price else 0)

def sellableQty (balances : Balances) (position : LivePosition) : ℚ :=
  min (max position.entryVolume 0) (max (availableBalance balances (symbolOf c.market)) 0)

/-- `_smart_sell_volume_avoiding_dust`. -/
def volumeAvoidingDust (requestedQty currentQty price minOrderKrw : ℚ) : ℚ :=
  let volume := max (min requestedQty currentQty) 0
  let remainingValue := max (currentQty - volume) 0 * price
  if 0 < currentQty ∧ 0 < volume ∧ 0 < remainingValue ∧ remainingValue < minOrderKrw then currentQty
  else volume

def volume (balances : Balances) (position : LivePosition) : ℚ :=
  volumeAvoidingDust c.requestedQty (c.sellableQty balances position) c.price c.minOrderKrw

/-- `amount`. -/
def amountKrw (balances : Balances) (position : LivePosition) : ℚ :=
  c.volume balances position * c.price

/-! ## The order -/

def order (balances : Balances) (position : LivePosition) : LiveOrder :=
  { exchange := some "bithumb"
    market := some c.market
    side := some .sell
    orderType := some .limit
    ordType := some .limit
    price := some (some c.price)
    volume := some (some (c.volume balances position))
    amountKrw := some (some (c.amountKrw balances position))
    requestId := some c.tick.requestId
    clientOrderId := some (String.ofList (c.tick.requestId.toList.take 36)) }

/-- `evaluate_live_order_risk`. -/
def baseRisk (balances : Balances) (position : LivePosition) : BaseRisk :=
  let risk := evaluateLiveOrderRisk
    { order := c.order balances position
      config := c.settings.liveConfig
      mode := .autoStrategyRunning
      balances := balances
      marketSnapshot := some { price := some c.candle.tradePrice }
      isAuto := true }
  { allowed := risk.allowed, riskResult := risk.riskResult, blockedReason := risk.blockedReason }

/-- What `check_order_risk` is asked. -/
def riskRequest (balances : Balances) (position : LivePosition) : RiskRequest :=
  { order := (c.order balances position).riskOrder
    purpose := .exit
    baseResult := c.baseRisk balances position
    mode := .autoStrategyRunning
    sessionId := some c.session.id
    candidateStrategyId :=
      if c.session.isSmartAutonomous then none else some c.session.candidateStrategyId
    candleTimeUtc := some c.candle.time
    marketSnapshot := some { price := some c.candle.tradePrice, complete := some true }
    balances := some balances
    isAuto := true }

def riskPreview (r : SmartSellReadings) (db : Database) (balances : Balances)
    (position : LivePosition) : RiskPreview :=
  let result := checkOrderRisk r.risk db (c.riskRequest balances position)
  { allowed := result.allowed
    riskResult := result.riskResult
    blockCode := toText result.blockCode }

def promotion (r : SmartSellReadings) (db : Database) (balances : Balances)
    (position : LivePosition) : Promotion :=
  evaluatePromotion
    { mode := c.settings.smartEngineLiveMode
      riskConfig := r.risk.config
      rules := c.settings.rehearsal
      now := r.risk.now }
    { intent := { c.intent with
        deltaValueKrw := c.amountKrw balances position
        targetQty := some (c.volume balances position) }
      snapshot := c.snapshot
      policy := r.risk.policy
      riskPreview := some (c.riskPreview r db balances position)
      shadowRecommendation := r.shadowRecommendation
      dailySmartOrderCount := countLiveStrategyOrdersToday db c.exchange c.market r.risk.now
      riskScore := some c.snapshot.riskScore }

def orderRow (balances : Balances) (position : LivePosition) : LiveOrderLog :=
  { id := 0
    requestId := c.tick.requestId
    sessionId := some c.session.id
    candidateStrategyId := some c.session.candidateStrategyId
    exchange := "bithumb"
    market := c.market
    side := .sell
    price := some c.price
    volume := some (c.volume balances position)
    amountKrw := some (c.amountKrw balances position)
    riskResult := "ALLOWED"
    status := .previewed
    positionId := some position.id
    orderPurpose := .exit
    candleTimeUtc := some c.candle.time }

/-- The order's row, and the balances it is for, if nothing ends the call. -/
def quote (r : SmartSellReadings) (db : Database) (position : LivePosition) :
    Option LiveOrderLog :=
  match r.balances with
  -- `SMART_ORDER_CHANCE_FAILED`
  | none => none
  | some balances =>
    if c.sellableQty balances position * c.price < c.minOrderKrw then none
    else if ¬ (c.promotion r db balances position).promotionStatus.isReady then none
    -- `insert_live_order_log` raises
    else if r.keyClaimed then none
    else some (c.orderRow balances position)

end SmartSellCall

section Quote

variable {c : SmartSellCall} {r : SmartSellReadings} {db : Database} {position : LivePosition}
  {row : LiveOrderLog}

/-- **A smart sell has passed the risk manager.** -/
theorem smartSell_allowed (h : c.quote r db position = some row) :
    ∃ balances, row = c.orderRow balances position
      ∧ (checkOrderRisk r.risk db (c.riskRequest balances position)).allowed = true := by
  unfold SmartSellCall.quote at h
  cases hbalances : r.balances with
  | none =>
    rw [hbalances] at h
    cases h
  | some balances =>
    rw [hbalances] at h
    dsimp only at h
    split at h
    case isTrue => cases h
    case isFalse =>
      split at h
      case isTrue => cases h
      case isFalse hready =>
        split at h
        case isTrue => cases h
        case isFalse =>
          obtain ⟨preview, hpreview, hallowed⟩ :=
            evaluatePromotion_isReady_allowed _ _ (not_not.mp hready)
          rw [← Option.some.inj hpreview] at hallowed
          exact ⟨balances, (Option.some.inj h).symm, hallowed⟩

end Quote

end AutoCoinBot
