/-
  Database.Schema — the rows and tables of app/database.py.

  One structure per table, with the columns the modelled code reads or writes;
  a nullable column is an `Option`. Where a `CREATE TABLE` statement gives a
  default, it is the field's; the other defaults only shorten the writing of
  rows. `order_preview_payload` and `exchange_response_payload` hold JSON;
  their structures list the keys the code looks up.
-/
import AutoCoinBot.Library.Table
import AutoCoinBot.Database.Values

namespace AutoCoinBot

open Library

/-! ## JSON payloads -/

/-- One entry of an exchange order's `trades` list. -/
structure RawTrade where
  price : Option ℚ := none
  volume : Option ℚ := none
  deriving DecidableEq

/-- An order as the exchange returns it. The empty object is the default. -/
structure RawOrder where
  uuid : Option String := none
  orderId : Option String := none
  id : Option String := none
  state : Option String := none
  status : Option String := none
  volume : Option ℚ := none
  executedVolume : Option ℚ := none
  remainingVolume : Option ℚ := none
  price : Option ℚ := none
  paidAmount : Option ℚ := none
  executedFunds : Option ℚ := none
  filledAmountKrw : Option ℚ := none
  trades : Option (List RawTrade) := none
  paidFee : Option ℚ := none
  reservedFee : Option ℚ := none
  createdAt : Option UtcTime := none
  deriving DecidableEq

/-- `order_preview_payload["policy_preview"]["scale_in"]`. -/
structure ScalePreview where
  scaleIn : Bool := false
  positionId : Option ℕ := none
  deriving DecidableEq

/-- `order_preview_payload`. An aggregate id that `int` rejects is `none`. -/
structure OrderPreview where
  aggregateExitPositionIds : List (Option ℕ) := []
  scaleIn : ScalePreview := {}
  deriving DecidableEq

/-! ## Rows -/

/-- `live_positions`. -/
structure LivePosition where
  id : ℕ
  sessionId : ℕ := 0
  exchange : String := "bithumb"
  market : String := ""
  candidateStrategyId : ℕ := 0
  status : PositionStatus := .opened
  entryOrderUuid : Option String := none
  exitOrderUuid : Option String := none
  entryPrice : ℚ := 0
  entryVolume : ℚ := 0
  entryAmountKrw : ℚ := 0
  currentPrice : ℚ := 0
  unrealizedPnl : ℚ := 0
  realizedPnl : ℚ := 0
  stopLossPrice : ℚ := 0
  takeProfitPrice : ℚ := 0
  highestPriceSinceEntry : Option ℚ := none
  trailingStopPrice : Option ℚ := none
  trailingStopPct : Option ℚ := none
  lastTrailingUpdateAt : Option UtcTime := none
  scaleInCount : ℕ := 0
  lastScaleInAt : Option UtcTime := none
  openedAt : Option UtcTime := none
  closedAt : Option UtcTime := none
  createdAt : UtcTime := 0
  updatedAt : UtcTime := 0
  deriving DecidableEq

/-- `live_order_logs`. -/
structure LiveOrderLog where
  id : ℕ
  requestId : String
  sessionId : Option ℕ := none
  candidateStrategyId : Option ℕ := none
  exchange : String := "upbit"
  market : String := ""
  side : OrderSide := .buy
  price : Option ℚ := none
  volume : Option ℚ := none
  amountKrw : Option ℚ := none
  riskResult : String := ""
  orderPreviewPayload : OrderPreview := {}
  exchangeResponsePayload : RawOrder := {}
  status : OrderStatus := .previewed
  errorMessage : Option String := none
  orderUuid : Option String := none
  executedVolume : ℚ := 0
  remainingVolume : ℚ := 0
  filledAmountKrw : ℚ := 0
  paidFee : ℚ := 0
  positionId : Option ℕ := none
  exitCandidateId : Option ℕ := none
  orderPurpose : OrderPurpose := .entry
  actualPnl : Option ℚ := none
  candleTimeUtc : Option UtcTime := none
  createdAt : UtcTime := 0
  updatedAt : UtcTime := 0
  deriving DecidableEq

/-- `position_fill_events`, unique in `(order_uuid, fill_type)`. -/
structure PositionFillEvent where
  id : ℕ
  orderUuid : String
  positionId : ℕ
  fillType : FillType
  source : String := ""
  orderLogId : Option ℕ := none
  requestId : Option String := none
  appliedVolume : ℚ := 0
  appliedAmountKrw : ℚ := 0
  appliedFee : ℚ := 0
  appliedAt : UtcTime := 0
  createdAt : UtcTime := 0

/-- The columns of `UNIQUE(order_uuid, fill_type)`. -/
def PositionFillEvent.key (e : PositionFillEvent) : String × FillType := (e.orderUuid, e.fillType)

/-- `order_application_ledger`, unique in `order_uuid`. -/
structure OrderApplication where
  id : ℕ := 0
  orderUuid : String
  positionId : ℕ
  fillType : FillType
  appliedVolume : ℚ := 0
  appliedAmountKrw : ℚ := 0
  appliedFee : ℚ := 0
  lastExchangeExecutedVolume : ℚ := 0
  lastExchangeFilledAmountKrw : ℚ := 0
  lastExchangePaidFee : ℚ := 0
  source : String := ""
  orderLogId : Option ℕ := none
  requestId : Option String := none

/-- `live_strategy_sessions`. -/
structure LiveStrategySession where
  id : ℕ
  exchange : String := "bithumb"
  market : String := ""
  candidateStrategyId : ℕ := 0
  strategyName : String := ""
  status : SessionStatus := .ready
  autoEnabled : Bool := false
  maxOrderKrw : ℚ := 0
  currentOpenOrderUuid : Option String := none
  currentPositionId : Option ℕ := none
  lastOrderStatus : Option String := none
  lastOrderTimeUtc : Option UtcTime := none
  lastRiskResult : Option String := none
  stoppedAt : Option UtcTime := none
  createdAt : UtcTime := 0
  updatedAt : UtcTime := 0
  deriving DecidableEq

/-- `exit_candidates`. -/
structure ExitCandidate where
  id : ℕ
  positionId : ℕ := 0
  status : ExitCandidateStatus := .pending
  riskResult : String := ""
  deriving DecidableEq

/-- `position_slots`. -/
structure PositionSlot where
  id : ℕ
  slotNumber : ℕ
  status : SlotStatus := .empty
  exchange : String := "bithumb"
  market : Option String := none
  candidateStrategyId : Option ℕ := none
  livePositionId : Option ℕ := none
  liveStrategySessionId : Option ℕ := none
  entryOrderUuid : Option String := none
  exitOrderUuid : Option String := none
  allocatedKrw : ℚ := 0
  reservedKrw : ℚ := 0
  currentValueKrw : ℚ := 0
  unrealizedPnl : ℚ := 0
  realizedPnl : ℚ := 0
  entryReason : Option String := none
  openedAt : Option UtcTime := none
  closedAt : Option UtcTime := none
  updatedAt : UtcTime := 0
  deriving DecidableEq

/-- `order_reservations`. -/
structure OrderReservation where
  id : ℕ
  exchange : String := "bithumb"
  market : String := ""
  candidateStrategyId : ℕ := 0
  slotId : Option ℕ := none
  amountKrw : ℚ := 0
  status : ReservationStatus := .pending
  expiresAtUtc : Option UtcTime := none
  expiresAt : Option UtcTime := expiresAtUtc
  deriving DecidableEq

/-- `COALESCE(expires_at_utc, expires_at)`. -/
def OrderReservation.effectiveExpiresAtUtc (r : OrderReservation) : Option UtcTime :=
  r.expiresAtUtc.or r.expiresAt

/-- `candidate_strategies`. -/
structure CandidateStrategy where
  id : ℕ
  market : String := ""
  strategy : String := ""
  status : CandidateStatus := .discovered
  score : ℚ := 0
  backtestTotalReturn : ℚ := 0
  backtestMdd : ℚ := 0
  backtestTradeCount : ℚ := 0

/-- `market_universe`. -/
structure MarketUniverseItem where
  id : ℕ
  exchange : String := "upbit"
  market : String
  isEnabled : Bool := true
  isLiveAllowed : Bool := false

structure ActiveStrategySelection where
  id : ℕ
  candidateStrategyId : ℕ
  status : SelectionStatus := .liveActive
  selectedAt : UtcTime := 0

instance : Row LivePosition := ⟨LivePosition.id⟩
instance : Row LiveOrderLog := ⟨LiveOrderLog.id⟩
instance : Row PositionFillEvent := ⟨PositionFillEvent.id⟩
instance : Row OrderApplication := ⟨OrderApplication.id⟩
instance : Row LiveStrategySession := ⟨LiveStrategySession.id⟩
instance : Row ExitCandidate := ⟨ExitCandidate.id⟩
instance : Row PositionSlot := ⟨PositionSlot.id⟩
instance : Row OrderReservation := ⟨OrderReservation.id⟩
instance : Row CandidateStrategy := ⟨CandidateStrategy.id⟩
instance : Row MarketUniverseItem := ⟨MarketUniverseItem.id⟩
instance : Row ActiveStrategySelection := ⟨ActiveStrategySelection.id⟩

/-! ## The database -/

theorem noLogs_unique : (Table.empty : Table LiveOrderLog).UniqueOn LiveOrderLog.requestId :=
  List.nodup_nil

theorem noEvents_unique :
    (Table.empty : Table PositionFillEvent).UniqueOn PositionFillEvent.key :=
  List.nodup_nil

theorem noApplications_unique :
    (Table.empty : Table OrderApplication).UniqueOn OrderApplication.orderUuid :=
  List.nodup_nil

/-- The tables the modelled code works on, with the `UNIQUE` columns it relies on. -/
structure Database where
  livePositions : Table LivePosition := Table.empty
  liveOrderLogs : Table LiveOrderLog := Table.empty
  positionFillEvents : Table PositionFillEvent := Table.empty
  orderApplicationLedger : Table OrderApplication := Table.empty
  liveStrategySessions : Table LiveStrategySession := Table.empty
  exitCandidates : Table ExitCandidate := Table.empty
  positionSlots : Table PositionSlot := Table.empty
  orderReservations : Table OrderReservation := Table.empty
  candidateStrategies : Table CandidateStrategy := Table.empty
  marketUniverse : Table MarketUniverseItem := Table.empty
  activeStrategySelection : Table ActiveStrategySelection := Table.empty
  requestId_unique : liveOrderLogs.UniqueOn LiveOrderLog.requestId := by
    first | exact noLogs_unique | decide
  fillKey_unique : positionFillEvents.UniqueOn PositionFillEvent.key := by
    first | exact noEvents_unique | decide
  orderUuid_unique : orderApplicationLedger.UniqueOn OrderApplication.orderUuid := by
    first | exact noApplications_unique | decide

/-! ## The operation policy of a market -/

theorem defaultExposure_pos : (0 : ℚ) < 500000 := by norm_num

theorem defaultLossLimit_pos : (0 : ℚ) < 3 := by norm_num

theorem defaultLossLimit_le : (3 : ℚ) ≤ 100 := by norm_num

/-- `update_bot_operation_policy` refuses any other exposure or loss limit. -/
structure BotOperationPolicy where
  autoTradingEnabled : Bool := false
  maxTotalExposureKrw : ℚ := 500000
  dailyLossLimitPct : ℚ := 3
  maxTotalExposure_pos : 0 < maxTotalExposureKrw := by
    first | exact defaultExposure_pos | norm_num
  dailyLossLimitPct_pos : 0 < dailyLossLimitPct := by
    first | exact defaultLossLimit_pos | norm_num
  dailyLossLimitPct_le : dailyLossLimitPct ≤ 100 := by
    first | exact defaultLossLimit_le | norm_num

def BotOperationPolicy.dailyLossLimitKrw (policy : BotOperationPolicy) : ℚ :=
  policy.maxTotalExposureKrw * policy.dailyLossLimitPct / 100

theorem BotOperationPolicy.dailyLossLimitKrw_pos (policy : BotOperationPolicy) :
    0 < policy.dailyLossLimitKrw := by
  have htotal := policy.maxTotalExposure_pos
  have hpct := policy.dailyLossLimitPct_pos
  unfold BotOperationPolicy.dailyLossLimitKrw
  positivity

end AutoCoinBot
