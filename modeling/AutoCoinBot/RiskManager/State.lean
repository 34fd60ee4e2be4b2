/-
  RiskManager.State — `compute_risk_state`: what the risk manager knows of a
  market before it judges an order.

  The order counts are windowed by the KST day of the clock, from both ends. The
  profit and loss is a query of its own.
-/
import AutoCoinBot.Database.LiveOrderLogs
import AutoCoinBot.Database.LivePositions
import AutoCoinBot.Library.Aggregate

namespace AutoCoinBot

open Library

/-! ## The KST day -/

/-- `kst_date`, as a day number: KST is nine hours ahead of UTC. -/
def kstDate (now : UtcTime) : ℤ := (now + 9 * 3600) / 86400

def kstDayBoundsUtc (dateKst : ℤ) : UtcTime × UtcTime :=
  (dateKst * 86400 - 9 * 3600, (dateKst + 1) * 86400 - 9 * 3600)

/-! ## Configuration -/

/-- `RiskConfig`; the defaults are those of `from_env`. -/
structure RiskConfig where
  maxDailyLossPercent : ℚ := 20
  maxDailyLossKrw : ℚ := 10000
  accountEquityKrw : ℚ := 300000
  maxOrdersPerDay : ℤ := 3
  maxEntryOrdersPerDay : ℤ := 2
  maxExitOrdersPerDay : ℤ := 3
  maxOpenPositions : ℤ := 5
  stopAfterConsecutiveLosses : ℤ := 4
  consecutiveLossMinKrw : ℚ := 500
  minCooldownSeconds : ℤ := 1800
  lossCooldownSeconds : ℤ := 0
  blockOnBalanceMismatch : Bool := true
  blockOnPartialFill : Bool := true
  blockOnOpenOrder : Bool := true
  blockOnOpenPosition : Bool := true
  maxPositionRatioPercent : ℚ := 20
  maxOrderKrw : ℚ := 30000
  volatilityBlockPercent : ℚ := 2
  minVolumeKrw : ℚ := 0
  minCurrent1mVolumeKrw : ℚ := 30000000
  minAvg5mVolumeKrw : ℚ := 50000000
  requireCompletedCandle : Bool := true

/-- `risk_states.status`. -/
inductive RiskStatus where
  | ok
  | emergencyStopped
  | manualReviewRequired
  | blocked
  | warning
  deriving DecidableEq

/-- A row of `risk_states`. -/
structure RiskState where
  exchange : String
  market : String
  dateKst : ℤ
  status : RiskStatus
  dailyRealizedPnl : ℚ
  dailyUnrealizedPnl : ℚ
  dailyTotalPnl : ℚ
  dailyLossPercent : ℚ
  dailyLossBasisKrw : ℚ
  dailyOrderCount : ℕ
  dailyEntryCount : ℕ
  dailyExitCount : ℕ
  consecutiveLossCount : ℕ
  openOrderCount : ℕ
  openPositionCount : ℕ
  lastOrderTimeUtc : Option UtcTime
  lastLossTimeUtc : Option UtcTime
  emergencyStopEnabled : Bool
  balanceMismatchDetected : Bool
  partialFillDetected : Bool
  volatilityBlockEnabled : Bool
  lowVolumeBlockEnabled : Bool

/-- What the risk manager reads besides the trading tables: the configuration, the global
operation policy, the emergency switch, the clock and `load_latest_risk_state`. -/
structure RiskEnvironment where
  config : RiskConfig := {}
  policy : BotOperationPolicy := {}
  emergencyStopped : Bool := false
  now : UtcTime := 0
  latestRiskState : Option RiskState := none

/-! ## The queries -/

section Queries

variable (db : Database) (exchange market : String)

/-- The orders of a day, without the status events written beside them. -/
def dailyOrders (dayStart dayEnd : UtcTime) : List LiveOrderLog :=
  db.liveOrderLogs.select (fun r => r.exchange == exchange && r.market == market
    && [OrderStatus.submitted, .waiting, .partiallyFilled, .filled, .canceled, .failed].contains
        r.status
    && !liveOrderEventRequestIdFilter r.requestId
    && decide (dayStart ≤ r.createdAt) && decide (r.createdAt < dayEnd))

/-- The positions of the profit-and-loss query: it names the end of the day only. -/
def pnlPositions (dayEnd : UtcTime) : List LivePosition :=
  db.livePositions.select (fun p => p.exchange == exchange && p.market == market
    && decide (p.createdAt < dayEnd))

/-- `realized_pnl` of the profit-and-loss query. -/
def realizedPnl (dayEnd : UtcTime) : ℚ :=
  sumWhere (pnlPositions db exchange market dayEnd) (fun p => p.status == .closed)
    LivePosition.realizedPnl

/-- `unrealized_pnl` of the profit-and-loss query. -/
def unrealizedPnl (dayEnd : UtcTime) : ℚ :=
  sumWhere (pnlPositions db exchange market dayEnd) (fun p => p.status.isActive)
    LivePosition.unrealizedPnl

/-- `last_loss_time_utc` of the profit-and-loss query. -/
def lastLossTimeUtc (dayEnd : UtcTime) : Option UtcTime :=
  (((pnlPositions db exchange market dayEnd).filter (fun p => p.realizedPnl < 0)).filterMap
    LivePosition.closedAt).max?

/-- `partial`. -/
def hasPartialFill : Bool :=
  db.liveOrderLogs.rows.any (fun r => r.exchange == exchange && r.market == market
    && r.status == .partiallyFilled && !likeContains "-partial" r.requestId)

/-- `NULL` sorts before every time. -/
def nullsFirst : Option UtcTime → Option UtcTime → Prop
  | none, some _ => True
  | some s, some t => s < t
  | _, none => False

instance : DecidableRel nullsFirst := fun a b =>
  match a, b with
  | none, some _ => isTrue trivial
  | some s, some t => inferInstanceAs (Decidable (s < t))
  | none, none => isFalse id
  | some _, none => isFalse id

/-- `ORDER BY closed_at DESC, updated_at DESC, id DESC`. -/
def LivePosition.closedLater (p q : LivePosition) : Prop :=
  nullsFirst q.closedAt p.closedAt ∨ (q.closedAt = p.closedAt
    ∧ (q.updatedAt < p.updatedAt ∨ (q.updatedAt = p.updatedAt ∧ q.id ≤ p.id)))

instance : DecidableRel LivePosition.closedLater := fun p q =>
  inferInstanceAs (Decidable (nullsFirst q.closedAt p.closedAt ∨ (q.closedAt = p.closedAt
    ∧ (q.updatedAt < p.updatedAt ∨ (q.updatedAt = p.updatedAt ∧ q.id ≤ p.id)))))

/-- `consecutive_loss_count`: the losses since the last position that was none, among the
twenty closed last. -/
def consecutiveLossCount (minLossKrw : ℚ) : ℕ :=
  let threshold := |minLossKrw|
  let closed := (db.livePositions.select (fun p => p.exchange == exchange && p.market == market
    && p.status == .closed)).insertionSort LivePosition.closedLater
  ((closed.take 20).takeWhile (fun p =>
    decide (p.realizedPnl < 0 ∧ threshold ≤ 0 ∨ 0 < threshold ∧ p.realizedPnl ≤ -threshold))).length

end Queries

/-! ## The state -/

def dailyLossBasisKrw (accountEquityKrw : Option ℚ) (config : RiskConfig) : ℚ :=
  let equity := toFloat accountEquityKrw
  max (if equity ≤ 0 then config.accountEquityKrw else equity) 1

/-- `abs(min(total_pnl, 0.0))`. -/
def dailyLossKrw (totalPnl : ℚ) : ℚ := |min totalPnl 0|

/-- The daily loss reaches one of its limits. -/
def dailyLossReached (config : RiskConfig) (totalPnl lossPercent : ℚ) : Bool :=
  decide (config.maxDailyLossKrw ≤ dailyLossKrw totalPnl)
    || decide (config.maxDailyLossPercent ≤ lossPercent)

/-- A daily count reaches its limit; a limit that is not positive is off. -/
def countReached (limit : ℤ) (count : ℕ) : Bool := decide (0 < limit ∧ limit ≤ count)

/-- `compute_risk_state`. The state is also stored, where the next call finds its
balance-mismatch flag. -/
def computeRiskState (env : RiskEnvironment) (db : Database) (exchange market : String)
    (balanceMismatch : Option Bool) (accountEquityKrw : Option ℚ) : RiskState :=
  let config := env.config
  let date := kstDate env.now
  let (startUtc, endUtc) := kstDayBoundsUtc date
  let orders := dailyOrders db exchange market startUtc endUtc
  let dailyOrderCount := orders.length
  let dailyEntryCount := (orders.filter (fun r => r.orderPurpose == .entry)).length
  let dailyExitCount := (orders.filter (fun r => r.orderPurpose == .exit)).length
  let realized := realizedPnl db exchange market endUtc
  let unrealized := unrealizedPnl db exchange market endUtc
  let totalPnl := realized + unrealized
  let basis := dailyLossBasisKrw accountEquityKrw config
  let lossPercent := dailyLossKrw totalPnl / basis * 100
  let openOrderCount := (loadReconcilableLiveOrderLogs db exchange market).length
  let openPositionCount := (loadOpenLivePositions db exchange market).length
  let partialFill := hasPartialFill db exchange market
  -- a caller that did not compare the balances gets the flag of the last state
  let mismatch :=
    balanceMismatch.getD (env.latestRiskState.any RiskState.balanceMismatchDetected)
  let status :=
    if env.emergencyStopped then RiskStatus.emergencyStopped
    else if mismatch || partialFill then .manualReviewRequired
    else if countReached config.maxOrdersPerDay dailyOrderCount
        || countReached config.maxEntryOrdersPerDay dailyEntryCount
        || countReached config.maxExitOrdersPerDay dailyExitCount
        || dailyLossReached config totalPnl lossPercent then .blocked
    -- a warning blocks nothing by itself
    else if openOrderCount ≠ 0 ∨ openPositionCount ≠ 0 then .warning
    else .ok
  { exchange := exchange
    market := market
    dateKst := date
    status := status
    dailyRealizedPnl := realized
    dailyUnrealizedPnl := unrealized
    dailyTotalPnl := totalPnl
    dailyLossPercent := lossPercent
    dailyLossBasisKrw := basis
    dailyOrderCount := dailyOrderCount
    dailyEntryCount := dailyEntryCount
    dailyExitCount := dailyExitCount
    consecutiveLossCount := consecutiveLossCount db exchange market config.consecutiveLossMinKrw
    openOrderCount := openOrderCount
    openPositionCount := openPositionCount
    lastOrderTimeUtc := (orders.map LiveOrderLog.updatedAt).max?
    lastLossTimeUtc := lastLossTimeUtc db exchange market endUtc
    emergencyStopEnabled := env.emergencyStopped
    balanceMismatchDetected := mismatch
    partialFillDetected := partialFill
    volatilityBlockEnabled := decide (0 < config.volatilityBlockPercent)
    lowVolumeBlockEnabled := decide (0 < config.minVolumeKrw ∨ 0 < config.minCurrent1mVolumeKrw
      ∨ 0 < config.minAvg5mVolumeKrw) }

section State

variable (env : RiskEnvironment) (db : Database) (exchange market : String)
  (balanceMismatch : Option Bool) (accountEquityKrw : Option ℚ)

def RiskEnvironment.dayEnd (env : RiskEnvironment) : UtcTime := (kstDayBoundsUtc (kstDate env.now)).2

@[simp] theorem computeRiskState_realizedPnl :
    (computeRiskState env db exchange market balanceMismatch accountEquityKrw).dailyRealizedPnl
      = realizedPnl db exchange market env.dayEnd := rfl

@[simp] theorem computeRiskState_totalPnl :
    (computeRiskState env db exchange market balanceMismatch accountEquityKrw).dailyTotalPnl
      = realizedPnl db exchange market env.dayEnd + unrealizedPnl db exchange market env.dayEnd :=
  rfl

@[simp] theorem computeRiskState_lossPercent :
    (computeRiskState env db exchange market balanceMismatch accountEquityKrw).dailyLossPercent
      = dailyLossKrw (realizedPnl db exchange market env.dayEnd
            + unrealizedPnl db exchange market env.dayEnd)
          / dailyLossBasisKrw accountEquityKrw env.config * 100 := rfl

end State

end AutoCoinBot
