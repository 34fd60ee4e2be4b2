/-
  RiskManager.Checks — `check_order_risk`.

  Every check reads the request, the state of the market and the tables, and either
  blocks with a code or lets the order pass. All of them are made; the first that
  blocks gives the result its code and reason.
-/
import AutoCoinBot.Database.Candidates
import AutoCoinBot.RiskManager.State

namespace AutoCoinBot

open Library

/-! ## The request -/

/-- `order_type`, `ord_type`. -/
inductive OrderType where
  | limit
  | market
  | other
  deriving DecidableEq

/-- `mode`. -/
inductive RiskMode where
  | liveManualOnly
  | autoStrategyRunning
  | other
  deriving DecidableEq

/-- The keys of `order`. -/
structure RiskOrder where
  exchange : Option String := none
  market : Option String := none
  side : Option OrderSide := none
  orderType : Option OrderType := none
  ordType : Option OrderType := none
  price : Option ℚ := none
  volume : Option ℚ := none
  amountKrw : Option ℚ := none
  scaleIn : Bool := false
  requestId : Option String := none

/-- `str(order.get("exchange", "bithumb")).lower()`. -/
def RiskOrder.exchangeText (order : RiskOrder) : String := (order.exchange.getD "bithumb").toLower

/-- `str(order.get("market", "KRW-BTC"))`. -/
def RiskOrder.marketText (order : RiskOrder) : String := order.market.getD "KRW-BTC"

/-- `side in {"BUY", "BID"}`. -/
def RiskOrder.isBuy (order : RiskOrder) : Bool := order.side.any OrderSide.isBuy

/-- `amount`: the named amount, else price times volume. -/
def RiskOrder.amount (order : RiskOrder) : ℚ :=
  orNum (toFloat order.amountKrw) (toFloat order.price * toFloat order.volume)

/-- One currency of a balance reply. -/
structure BalanceItem where
  currency : String := ""
  balance : Option ℚ := none
  locked : Option ℚ := none
  deriving DecidableEq

/-- `balances`; the empty dict is the default. -/
structure Balances where
  balances : Option (List BalanceItem) := none
  byCurrency : List (String × BalanceItem) := []
  direct : List (String × BalanceItem) := []
  deriving DecidableEq

/-- The item `_balance_total` finds for a currency, given in capitals. -/
def Balances.find? (b : Balances) (target : String) : Option BalanceItem :=
  (((b.balances.getD []).find? (fun item => item.currency.toUpper == target)).or
    (b.byCurrency.lookup target)).or (b.byCurrency.lookup target.toLower)

def balanceTotal (balances : Option Balances) (currency : String) : ℚ :=
  ((balances.bind (fun b => b.find? currency.toUpper)).map
    (fun item => toFloat item.balance + toFloat item.locked)).getD 0

/-- `_available_balance_total`, which also looks for the currency as a key of the reply. -/
def availableBalanceTotal (balances : Option Balances) (currency : String) : ℚ :=
  let target := currency.toUpper
  ((balances.bind (fun b => ((b.find? target).or (b.direct.lookup target.toLower)).or
    (b.direct.lookup target))).map (fun item => toFloat item.balance)).getD 0

/-- `market_snapshot`; the two volumes count as given when their key is there.
`otherKeys` says that it has keys no check reads. -/
structure MarketSnapshot where
  price : Option ℚ := none
  tradePrice : Option ℚ := none
  rangeRate : Option ℚ := none
  liquidityCheckRequired : Bool := false
  current1mTradePriceVolume : Option (Option ℚ) := none
  recent5mAvgTradePriceVolume : Option (Option ℚ) := none
  recent5mVolumeCount : Option ℚ := none
  complete : Option Bool := none
  tradePriceVolume : Option ℚ := none
  volumeKrw : Option ℚ := none
  volume : Option ℚ := none
  otherKeys : Bool := false
  deriving DecidableEq

/-- `_float(price) or _float(trade_price)`. -/
def snapshotPrice (snapshot : Option MarketSnapshot) : ℚ :=
  orNum (toFloat (snapshot.bind MarketSnapshot.price))
    (toFloat (snapshot.bind MarketSnapshot.tradePrice))

/-- `base_result`; a missing text is the empty one. -/
structure BaseRisk where
  allowed : Bool := true
  riskLevel : String := ""
  blockCode : String := ""
  riskResult : String := ""
  blockReason : String := ""
  blockedReason : String := ""
  maxAllowedOrderKrw : Option ℚ := none

/-- The arguments of `check_order_risk` that its checks read. -/
structure RiskRequest where
  order : RiskOrder
  purpose : OrderPurpose
  baseResult : BaseRisk := {}
  mode : RiskMode := .liveManualOnly
  sessionId : Option ℕ := none
  candidateStrategyId : Option ℕ := none
  candleTimeUtc : Option UtcTime := none
  marketSnapshot : Option MarketSnapshot := none
  balances : Option Balances := none
  accountEquityKrw : Option ℚ := none
  balanceMismatch : Option Bool := none
  isAuto : Bool := false
  profitEngineEntry : Bool := false

/-- `purpose == "ENTRY" and side in {"BUY", "BID"}`. -/
def RiskRequest.isBuyEntry (q : RiskRequest) : Bool := q.purpose == .entry && q.order.isBuy

/-! ## What the checks look up -/

/-- `market.split("-")[-1] if "-" in market else "BTC"`. -/
def baseCurrency (market : String) : String :=
  if market.toList.contains '-' then
    String.ofList (market.toList.reverse.takeWhile (fun ch => ch != '-')).reverse
  else "BTC"

def estimateAccountEquityKrw (balances : Option Balances) (snapshot : Option MarketSnapshot)
    (market : String) : ℚ :=
  let price := snapshotPrice snapshot
  balanceTotal balances "KRW"
    + if 0 < price then balanceTotal balances (baseCurrency market) * price else 0

/-- `_current_bot_position_value_krw`: the open positions of one market. -/
def currentBotPositionValueKrw (db : Database) (exchange market : String)
    (snapshot : Option MarketSnapshot) : ℚ :=
  ((loadOpenLivePositions db exchange market).map (fun p =>
    p.entryVolume * orNum p.currentPrice (orNum (snapshotPrice snapshot) p.entryPrice))).sum

def cooldownRemainingSeconds (now : UtcTime) (last : Option UtcTime) (cooldownSeconds : ℤ) : ℤ :=
  match last with
  | none => 0
  | some last => max (cooldownSeconds - (now - last)) 0

def duplicateOrderExists (db : Database) (exchange market : String) (side : Option OrderSide)
    (requestId : String) (sessionId candidateStrategyId : Option ℕ)
    (candleTimeUtc : Option UtcTime) : Option String :=
  -- a preview may be ordered under its own id, once
  if requestId ≠ "" ∧ (getLiveOrderLog db requestId).any (fun r => r.status != .previewed) then
    some "BLOCKED_DUPLICATE_REQUEST"
  else
    match candleTimeUtc with
    | none => none
    | some candle =>
      if db.liveOrderLogs.rows.any (fun r => r.exchange == exchange && r.market == market
          && some r.side == side && r.requestId != requestId && r.candleTimeUtc == some candle
          && sessionId.all (fun id => r.sessionId == some id)
          && candidateStrategyId.all (fun id => r.candidateStrategyId == some id)
          && [OrderStatus.previewed, .submitted, .waiting, .partiallyFilled, .filled, .canceled,
              .failed].contains r.status) then
        some "BLOCKED_DUPLICATE_CANDLE"
      else none

/-- `int(x)` on a float: the part before the point. -/
def truncate (x : ℚ) : ℤ := if 0 ≤ x then ⌊x⌋ else ⌈x⌉

/-- The liquidity part of `market_condition_block`. -/
def liquidityBlock (s : MarketSnapshot) (config : RiskConfig) : Option String :=
  let current1m := toFloat (s.current1mTradePriceVolume.getD none)
  let avg5m := toFloat (s.recent5mAvgTradePriceVolume.getD none)
  let avgCount := truncate (toFloat s.recent5mVolumeCount)
  if 0 < config.minCurrent1mVolumeKrw ∧ current1m ≤ 0 then some "BLOCKED_VOLUME_DATA_UNAVAILABLE"
  else if 0 < config.minAvg5mVolumeKrw ∧ (avg5m ≤ 0 ∨ avgCount < 5) then
    some "BLOCKED_VOLUME_DATA_UNAVAILABLE"
  else if 0 < config.minCurrent1mVolumeKrw ∧ current1m < config.minCurrent1mVolumeKrw then
    some "BLOCKED_LOW_1M_VOLUME"
  else if 0 < config.minAvg5mVolumeKrw ∧ avg5m < config.minAvg5mVolumeKrw then
    some "BLOCKED_LOW_5M_AVG_VOLUME"
  else if config.requireCompletedCandle ∧ s.complete = some false then
    some "BLOCKED_INCOMPLETE_CANDLE"
  else none

def marketConditionBlock (snapshot : Option MarketSnapshot) (config : RiskConfig) :
    Option String :=
  match snapshot with
  | none => none
  | some s =>
    -- an empty snapshot is falsy, like a missing one
    if s = {} then none
    else if config.volatilityBlockPercent ≤ toFloat s.rangeRate * 100 then
      some "BLOCKED_VOLATILITY_FILTER"
    else if s.liquidityCheckRequired ∨ s.current1mTradePriceVolume.isSome
        ∨ s.recent5mAvgTradePriceVolume.isSome then liquidityBlock s config
    else
      let volumeKrw := orNum (toFloat s.tradePriceVolume) (toFloat s.volumeKrw)
      let volumeKrw := if volumeKrw ≤ 0 then toFloat s.price * toFloat s.volume else volumeKrw
      if volumeKrw < config.minVolumeKrw then some "BLOCKED_LOW_VOLUME"
      else if config.requireCompletedCandle ∧ s.complete = some false then
        some "BLOCKED_INCOMPLETE_CANDLE"
      else none

/-! ## The checks -/

/-- The code and the reason of a block. -/
structure RiskBlock where
  code : String
  reason : String

/-- `block(code)`: the code is its own reason. -/
def blockedBy (code : String) : Option RiskBlock := some ⟨code, code⟩

theorem ite_blockedBy_eq_none_iff {p : Prop} [Decidable p] {code : String} {o : Option RiskBlock} :
    (if p then blockedBy code else o) = none ↔ ¬ p ∧ o = none := by
  by_cases hp : p
  · simp [hp, blockedBy]
  · simp [hp]

/-- `block_code` of `_standard_result`. -/
def BaseRisk.standardCode (b : BaseRisk) : Option String :=
  if b.blockCode ≠ "" then some b.blockCode
  else if b.allowed then none
  else some (orText b.riskResult (orText b.blockedReason "BLOCKED"))

/-- `block_reason` of `_standard_result`. -/
def BaseRisk.standardReason (b : BaseRisk) : String :=
  if b.allowed then ""
  else orText b.blockReason (orText b.blockedReason (b.standardCode.getD ""))

section Checks

variable (env : RiskEnvironment) (db : Database) (q : RiskRequest)

/-- `state`. -/
def riskState : RiskState :=
  computeRiskState env db q.order.exchangeText q.order.marketText q.balanceMismatch
    (some (q.accountEquityKrw.getD
      (estimateAccountEquityKrw q.balances q.marketSnapshot q.order.marketText)))

def currentBotPositionValue : ℚ :=
  currentBotPositionValueKrw db q.order.exchangeText q.order.marketText q.marketSnapshot

def baseCheck : Option RiskBlock :=
  if q.baseResult.allowed then none
  else some ⟨q.baseResult.standardCode.getD "", q.baseResult.standardReason⟩

def modeCheck : Option RiskBlock :=
  if env.emergencyStopped then blockedBy "BLOCKED_EMERGENCY_STOP"
  else if q.mode = .other ∧ q.isAuto = false then blockedBy "BLOCKED_INVALID_MODE"
  else none

def marketLiveCandidateAllowed : Bool :=
  q.order.marketText == "KRW-BTC"
    || ((q.candidateStrategyId.bind (loadCandidateStrategy db)).any (fun c =>
          (c.status == .liveEligible || c.status == .liveActive) && c.market == q.order.marketText)
        && marketIsLiveAllowed db q.order.exchangeText q.order.marketText)

def exchangeCheck : Option RiskBlock :=
  if q.order.exchangeText ≠ "bithumb" then blockedBy "BLOCKED_EXCHANGE_NOT_ALLOWED"
  else if marketLiveCandidateAllowed db q = false then blockedBy "BLOCKED_MARKET_NOT_ALLOWED"
  else none

def orderTypeCheck : Option RiskBlock :=
  let orderType := q.order.orderType.getD (q.order.ordType.getD .limit)
  if orderType ≠ .limit ∧ q.order.ordType ≠ some .limit then
    blockedBy "BLOCKED_ORDER_TYPE_NOT_ALLOWED"
  else if orderType = .market then blockedBy "BLOCKED_MARKET_ORDER_DISABLED"
  else none

def amountCheck : Option RiskBlock :=
  -- entries of the profit engine are exempt
  if env.config.maxOrderKrw < q.order.amount ∧ ¬ (q.profitEngineEntry ∧ q.isBuyEntry) then
    blockedBy "BLOCKED_MAX_ORDER_AMOUNT"
  else none

def operationPolicyCheck : Option RiskBlock :=
  let limit := env.policy.maxTotalExposureKrw
  let lossLimit := env.policy.dailyLossLimitKrw
  let current := currentBotPositionValue db q
  let amount := q.order.amount
  if q.isBuyEntry ∧ q.isAuto then
    if env.policy.autoTradingEnabled = false then blockedBy "BLOCKED_POLICY_AUTO_TRADING_DISABLED"
    else if limit ≤ 0 then blockedBy "BLOCKED_POLICY_MAX_EXPOSURE_INVALID"
    else if limit ≤ current ∧ q.profitEngineEntry = false then
      blockedBy "BLOCKED_POLICY_MAX_TOTAL_EXPOSURE"
    else if limit < current + amount ∧ q.profitEngineEntry = false then
      blockedBy "BLOCKED_POLICY_MAX_TOTAL_EXPOSURE"
    -- without balances the cash is not compared
    else if q.balances.isSome ∧ availableBalanceTotal q.balances "KRW" < amount then
      blockedBy "BLOCKED_POLICY_KRW_BALANCE_INSUFFICIENT"
    else if 0 < lossLimit ∧ lossLimit ≤ dailyLossKrw (riskState env db q).dailyTotalPnl then
      blockedBy "BLOCKED_POLICY_DAILY_LOSS_LIMIT"
    else none
  else none

def positionCheck : Option RiskBlock :=
  let sameStrategyPositionOpen := q.candidateStrategyId.any (fun id =>
    hasOpenLivePositionForStrategy db q.order.exchangeText q.order.marketText id)
  if env.config.blockOnOpenPosition ∧ sameStrategyPositionOpen ∧ q.order.scaleIn = false then
    blockedBy "BLOCKED_OPEN_POSITION_EXISTS"
  else none

def maxOpenPositionsCheck : Option RiskBlock :=
  if countReached env.config.maxOpenPositions
        (loadOpenLivePositionsForExchange db q.order.exchangeText).length
      ∧ q.order.scaleIn = false then
    blockedBy "BLOCKED_MAX_OPEN_POSITIONS"
  else none

def symbolAllocationCheck : Option RiskBlock :=
  let limit := env.policy.maxTotalExposureKrw
  let symbolCap := if 0 < limit then limit * (env.config.maxPositionRatioPercent / 100) else 0
  let projected := currentBotPositionValue db q + q.order.amount
  if 0 < symbolCap ∧ symbolCap < projected ∧ q.profitEngineEntry = false then
    blockedBy "BLOCKED_MAX_SYMBOL_ALLOCATION"
  else none

def openOrderCheck : Option RiskBlock :=
  if env.config.blockOnOpenOrder ∧ 0 < (riskState env db q).openOrderCount then
    blockedBy "BLOCKED_OPEN_ORDER_EXISTS"
  else none

def partialFillCheck : Option RiskBlock :=
  if env.config.blockOnPartialFill ∧ (riskState env db q).partialFillDetected then
    blockedBy "BLOCKED_PARTIAL_FILL_UNSUPPORTED"
  else none

def balanceReconciliationCheck : Option RiskBlock :=
  if env.config.blockOnBalanceMismatch ∧ (riskState env db q).balanceMismatchDetected then
    blockedBy "BLOCKED_BALANCE_MISMATCH"
  else none

def dailyLimitCheck : Option RiskBlock :=
  let config := env.config
  let state := riskState env db q
  if countReached config.maxOrdersPerDay state.dailyOrderCount then
    blockedBy "BLOCKED_MAX_ORDERS_PER_DAY"
  else if q.purpose = .entry ∧ countReached config.maxEntryOrdersPerDay state.dailyEntryCount then
    blockedBy "BLOCKED_MAX_ENTRY_ORDERS_PER_DAY"
  else if q.purpose = .exit ∧ countReached config.maxExitOrdersPerDay state.dailyExitCount then
    blockedBy "BLOCKED_MAX_EXIT_ORDERS_PER_DAY"
  else if q.purpose = .entry ∧ dailyLossReached config state.dailyTotalPnl state.dailyLossPercent then
    blockedBy "BLOCKED_DAILY_LOSS_LIMIT"
  else none

def lossStreakCheck : Option RiskBlock :=
  if q.purpose = .entry ∧ countReached env.config.stopAfterConsecutiveLosses
      (riskState env db q).consecutiveLossCount then
    blockedBy "BLOCKED_CONSECUTIVE_LOSS_LIMIT"
  else none

def cooldownRemaining : ℤ :=
  cooldownRemainingSeconds env.now (riskState env db q).lastOrderTimeUtc
    env.config.minCooldownSeconds

def cooldownCheck : Option RiskBlock :=
  if 0 < cooldownRemaining env db q then
    some ⟨"BLOCKED_COOLDOWN", toString (cooldownRemaining env db q) ++ "s cooldown remaining."⟩
  else none

def lossCooldownRemaining : ℤ :=
  cooldownRemainingSeconds env.now (riskState env db q).lastLossTimeUtc
    env.config.lossCooldownSeconds

def lossCooldownCheck : Option RiskBlock :=
  if q.purpose = .entry ∧ 0 < lossCooldownRemaining env db q then
    some ⟨"BLOCKED_COOLDOWN_AFTER_LOSS",
      toString (lossCooldownRemaining env db q) ++ "s loss cooldown remaining."⟩
  else none

def duplicateCheck : Option RiskBlock :=
  (duplicateOrderExists db q.order.exchangeText q.order.marketText q.order.side
    (toText q.order.requestId) q.sessionId q.candidateStrategyId q.candleTimeUtc).bind blockedBy

def marketConditionCheck : Option RiskBlock :=
  (marketConditionBlock q.marketSnapshot env.config).bind blockedBy

/-- The checks of an order, under their names in `checks`, in the order they are made. -/
def orderChecks : List (String × Option RiskBlock) :=
  [("base_check", baseCheck q),
    ("mode_check", modeCheck env q),
    ("exchange_check", exchangeCheck db q),
    ("order_type_check", orderTypeCheck q),
    ("amount_check", amountCheck env q),
    ("operation_policy_check", operationPolicyCheck env db q)]
  ++ (if q.purpose = .entry then [("position_check", positionCheck env db q)] else [])
  ++ (if q.isBuyEntry then
      [("max_open_positions_check", maxOpenPositionsCheck env db q),
        ("symbol_allocation_check", symbolAllocationCheck env db q)]
    else [])
  ++ [("open_order_check", openOrderCheck env db q),
    ("partial_fill_check", partialFillCheck env db q),
    ("balance_reconciliation_check", balanceReconciliationCheck env db q),
    ("daily_limit_check", dailyLimitCheck env db q),
    ("loss_streak_check", lossStreakCheck env db q),
    ("cooldown_check", cooldownCheck env db q),
    ("loss_cooldown_check", lossCooldownCheck env db q),
    ("duplicate_check", duplicateCheck db q)]
  ++ (if q.purpose = .entry then [("market_condition_check", marketConditionCheck env q)] else [])

end Checks

/-! ## The result -/

structure PolicyCheckDetail where
  autoTradingEnabled : Bool
  maxTotalExposureKrw : ℚ
  dailyLossLimitPct : ℚ
  dailyLossLimitKrw : ℚ
  dailyLossKrw : ℚ
  currentBotPositionValueKrw : ℚ
  requestedOrderKrw : ℚ
  projectedBotPositionValueKrw : ℚ
  remainingExposureKrw : ℚ
  availableKrwBalance : Option ℚ
  maxAllowedEntryKrw : ℚ
  exposureOverageKrw : ℚ
  krwShortfallKrw : ℚ

/-- What `check_order_risk` returns. -/
structure RiskResult where
  allowed : Bool
  riskLevel : String
  blockCode : Option String
  blockReason : String
  riskResult : String
  blockedReason : String
  maxAllowedOrderKrw : ℚ
  cooldownRemainingSeconds : ℤ
  lossCooldownRemainingSeconds : ℤ
  checks : List (String × Option RiskBlock)
  operationPolicy : PolicyCheckDetail

section Result

variable (env : RiskEnvironment) (db : Database) (q : RiskRequest)

/-- `policy_check_detail`; empty balances count as none here. -/
def policyCheckDetail : PolicyCheckDetail :=
  let limit := env.policy.maxTotalExposureKrw
  let current := currentBotPositionValue db q
  let amount := q.order.amount
  let availableKrw := availableBalanceTotal q.balances "KRW"
  let remaining := if 0 < limit then max (limit - current) 0 else 0
  let given := q.balances.any (fun b => decide (b ≠ {}))
  { autoTradingEnabled := env.policy.autoTradingEnabled
    maxTotalExposureKrw := limit
    dailyLossLimitPct := env.policy.dailyLossLimitPct
    dailyLossLimitKrw := env.policy.dailyLossLimitKrw
    dailyLossKrw := dailyLossKrw (riskState env db q).dailyTotalPnl
    currentBotPositionValueKrw := current
    requestedOrderKrw := amount
    projectedBotPositionValueKrw := current + amount
    remainingExposureKrw := remaining
    availableKrwBalance := if given then some availableKrw else none
    maxAllowedEntryKrw := if given then min remaining availableKrw else remaining
    exposureOverageKrw := if 0 < limit then max (current + amount - limit) 0 else 0
    krwShortfallKrw := if q.balances.isSome then max (amount - availableKrw) 0 else 0 }

def firstBlock : Option RiskBlock := (orderChecks env db q).findSome? Prod.snd

/-- `result["risk_level"]`. -/
def resultRiskLevel : String :=
  let level := orText q.baseResult.riskLevel "LOW"
  if q.baseResult.allowed = false then orText q.baseResult.riskLevel "BLOCKED"
  else if (firstBlock env db q).isSome then "BLOCKED"
  else if level = "LOW" ∧ ((riskState env db q).status = .warning
      ∨ (riskState env db q).status = .manualReviewRequired) then "MEDIUM"
  else level

/-- `result["max_allowed_order_krw"]`. -/
def resultMaxAllowedOrderKrw : ℚ :=
  let given := q.baseResult.maxAllowedOrderKrw.getD env.config.maxOrderKrw
  if q.profitEngineEntry ∧ q.isBuyEntry then orNum given q.order.amount
  else
    let capped := min given env.config.maxOrderKrw
    if q.isBuyEntry then min capped (policyCheckDetail env db q).maxAllowedEntryKrw else capped

/-- `check_order_risk`, without the line it writes to `risk_logs`. -/
def checkOrderRisk : RiskResult :=
  let block := firstBlock env db q
  let code := (block.map RiskBlock.code).or q.baseResult.standardCode
  let reason := (block.map RiskBlock.reason).getD ""
  { allowed := block.isNone
    riskLevel := resultRiskLevel env db q
    blockCode := code
    blockReason := reason
    riskResult := if block.isNone then "ALLOWED" else code.getD ""
    blockedReason := reason
    maxAllowedOrderKrw := resultMaxAllowedOrderKrw env db q
    cooldownRemainingSeconds := cooldownRemaining env db q
    lossCooldownRemainingSeconds := lossCooldownRemaining env db q
    checks := orderChecks env db q
    operationPolicy := policyCheckDetail env db q }

end Result

/-! ## What an allowed order has passed -/

section Allowed

variable {env : RiskEnvironment} {db : Database} {q : RiskRequest}

/-- **An order is allowed exactly if no check blocks.** -/
theorem checkOrderRisk_allowed_iff :
    (checkOrderRisk env db q).allowed = true ↔ ∀ check ∈ orderChecks env db q, check.2 = none := by
  show (firstBlock env db q).isNone = true ↔ _
  unfold firstBlock
  rw [Option.isNone_iff_eq_none, List.findSome?_eq_none_iff]

/-- **No order of the market is unresolved** where an order is allowed and open orders block. -/
theorem resolved_of_allowed (hallowed : (checkOrderRisk env db q).allowed = true)
    (hblock : env.config.blockOnOpenOrder = true) :
    hasUnresolvedLiveOrder db q.order.exchangeText q.order.marketText = false := by
  have hcheck : openOrderCheck env db q = none := checkOrderRisk_allowed_iff.mp hallowed
    ("open_order_check", openOrderCheck env db q) (by simp [orderChecks])
  have hcount : (riskState env db q).openOrderCount
      = (loadReconcilableLiveOrderLogs db q.order.exchangeText q.order.marketText).length := rfl
  unfold openOrderCheck at hcheck
  have hnone : ¬ 0 < (riskState env db q).openOrderCount := by
    intro hopen
    rw [if_pos ⟨hblock, hopen⟩] at hcheck
    cases hcheck
  rw [hcount] at hnone
  unfold hasUnresolvedLiveOrder
  rw [List.eq_nil_of_length_eq_zero (Nat.eq_zero_of_not_pos hnone)]
  rfl

theorem operationPolicyCheck_mem :
    ("operation_policy_check", operationPolicyCheck env db q) ∈ orderChecks env db q := by
  simp [orderChecks]

theorem orderChecks_policy {check : String × Option RiskBlock} (h : check ∈ orderChecks env db q)
    (hname : check.1 = "operation_policy_check") : check.2 = operationPolicyCheck env db q := by
  have hnames : ("operation_policy_check", check.2) ∈ orderChecks env db q := by
    rw [← hname]
    exact h
  unfold orderChecks at hnames
  split_ifs at hnames <;> simpa using hnames

/-- **What the policy asks of an automatic entry** that is not a profit-engine one. -/
theorem operationPolicyCheck_eq_none_iff (hbuy : q.isBuyEntry = true) (hauto : q.isAuto = true)
    (hengine : q.profitEngineEntry = false) :
    operationPolicyCheck env db q = none
      ↔ env.policy.autoTradingEnabled = true
        ∧ currentBotPositionValue db q < env.policy.maxTotalExposureKrw
        ∧ currentBotPositionValue db q + q.order.amount ≤ env.policy.maxTotalExposureKrw
        ∧ ¬ (q.balances.isSome = true
          ∧ availableBalanceTotal q.balances "KRW" < q.order.amount)
        ∧ dailyLossKrw (riskState env db q).dailyTotalPnl < env.policy.dailyLossLimitKrw := by
  have hlimit := env.policy.maxTotalExposure_pos
  have hloss := env.policy.dailyLossLimitKrw_pos
  unfold operationPolicyCheck
  dsimp only
  rw [if_pos ⟨hbuy, hauto⟩]
  simp only [ite_blockedBy_eq_none_iff, hengine, and_true, not_le, not_lt]
  constructor
  · rintro ⟨hon, -, hroom, hfits, hbalance, hlost⟩
    exact ⟨by simpa using hon, hroom, hfits, hbalance, not_le.mp (fun h => hlost ⟨hloss, h⟩)⟩
  · rintro ⟨hon, hroom, hfits, hbalance, hlost⟩
    exact ⟨by simp [hon], hlimit, hroom, hfits, hbalance, fun h => absurd h.2 (not_le.mpr hlost)⟩

end Allowed

end AutoCoinBot
