/-
  TradingDiagnostics.EquityReconciliation — `build_equity_reconciliation`
  (app/trading_reconciliation.py).

  The reconciliation compares the equity the exchange shows with the one the books lead to, and the
  fills of the exchange with the rows.
-/
import AutoCoinBot.Database.InsertOrderLog
import AutoCoinBot.ExchangeFillsLedger.MatchFills
import AutoCoinBot.TradingDiagnostics.RiskDiagnostics

namespace AutoCoinBot

open Library

/-! ## Rows -/

/-- A row of `live_order_logs`, with the columns a report reads. -/
structure ReportOrder extends DiagnosticOrder where
  requestId : String := ""
  clientOrderId : Option String := none
  orderPurpose : Option OrderPurpose := none
  price : Option ℚ := none
  executedVolume : Option ℚ := none
  volume : Option ℚ := none
  filledAmountKrw : Option ℚ := none
  amountKrw : Option ℚ := none
  paidFee : Option ℚ := none
  orderExecutedAtUtc : Option String := none
  updatedAt : Option String := none

namespace ReportOrder

/-- The columns that `normalize_db_fill` reads. -/
def dbOrder (order : ReportOrder) : DbOrder :=
  { id := order.id
    orderUuid := order.orderUuid
    clientOrderId := order.clientOrderId
    market := some order.market
    side := some order.side.text
    price := order.price
    executedVolume := order.executedVolume
    volume := order.volume
    filledAmountKrw := order.filledAmountKrw
    amountKrw := order.amountKrw
    paidFee := order.paidFee
    sessionId := order.sessionId }

/-- `executed_at_utc` of `normalize_db_fill`. -/
def executedAtUtc (order : ReportOrder) : String :=
  orText (orText (toText order.orderExecutedAtUtc) (toText order.updatedAt))
    (toText order.createdAt)

def orderAmount (order : ReportOrder) : ℚ :=
  orNum (orNum (toFloat order.filledAmountKrw) (toFloat order.amountKrw))
    (toFloat order.price * orNum (toFloat order.executedVolume) (toFloat order.volume))

end ReportOrder

/-- A row of `live_positions`, with the columns a report reads. -/
structure ReportPosition where
  id : ℕ
  market : String
  status : PositionStatus := .opened
  entryOrderUuid : Option String := none
  entryAmountKrw : Option ℚ := none
  entryVolume : Option ℚ := none
  currentPrice : Option ℚ := none
  realizedPnl : Option ℚ := none
  unrealizedPnl : Option ℚ := none

/-! ## What several rows share -/

/-- What `_duplicate_field` returns, its items left out. -/
structure DuplicateField where
  count : ℕ
  amountKrw : ℚ
  syntheticUuidCount : ℕ

/-- The rows that `_duplicate_field` looks at. -/
def referencedRows (field : ReportOrder → Option String) (orders : List ReportOrder) :
    List ReportOrder :=
  orders.filter (fun row => textGiven (field row)
    && !containsText "-filled-" row.requestId && !containsText "-waiting-" row.requestId)

def duplicateValues (field : ReportOrder → Option String) (rows : List ReportOrder) :
    List (Option String) :=
  (rows.map field).dedup.filter (fun value => 1 < (rows.map field).count value)

/-- `_duplicate_field`: of every group, all rows but the first count. -/
def duplicateField (field : ReportOrder → Option String) (realExchangeUuidOnly : Bool)
    (orders : List ReportOrder) : DuplicateField :=
  let given := referencedRows field orders
  let isReal := fun row => isRealExchangeOrderUuid (toText (field row))
  let rows := if realExchangeUuidOnly then given.filter isReal else given
  let values := duplicateValues field rows
  { count := values.length
    amountKrw := (values.map (fun value =>
      (((rows.filter (fun row => field row = value)).drop 1).map ReportOrder.orderAmount).sum)).sum
    syntheticUuidCount :=
      if realExchangeUuidOnly then (given.filter (fun row => !isReal row)).length else 0 }

def duplicateExchangeOrderUuids (orders : List ReportOrder) : DuplicateField :=
  duplicateField (fun row => row.orderUuid) true orders

def duplicateClientOrderIds (orders : List ReportOrder) : DuplicateField :=
  duplicateField (fun row => row.clientOrderId) false orders

/-- The loop of `duplicate_position_accounting`, which passes on the uuids it has seen. -/
def duplicateAmounts (orders : List ReportOrder) : List String → List ReportPosition → List ℚ
  | _, [] => []
  | seen, position :: positions =>
    let uuid := toText position.entryOrderUuid
    if uuid = "" then duplicateAmounts orders seen positions
    else if uuid ∈ seen then
      orNum (toFloat position.entryAmountKrw)
          (((orders.filter (fun row => toText row.orderUuid = uuid)).map
            ReportOrder.orderAmount).sum)
        :: duplicateAmounts orders (uuid :: seen) positions
    else duplicateAmounts orders (uuid :: seen) positions

/-- `amount_krw` of `duplicate_position_accounting`. -/
def duplicatePositionAccounting (positions : List ReportPosition) (orders : List ReportOrder) : ℚ :=
  (duplicateAmounts orders [] positions).sum

/-! ## Valuation -/

def estimateExitFee (positions : List ReportPosition) (feeRate : ℚ) : ℚ :=
  ((positions.filter (fun position => position.status.isActive)).map (fun position =>
    max (toFloat position.currentPrice * toFloat position.entryVolume * feeRate) 0)).sum

/-- `amount_krw` of `valuation_price_diff`. -/
def valuationPriceDiff (positions : List ReportPosition) (prices : List (String × ℚ)) : ℚ :=
  ((positions.filter (fun position => position.status.isActive)).map (fun position =>
    let exchangePrice := (prices.lookup position.market).getD 0
    let dbPrice := toFloat position.currentPrice
    let volume := toFloat position.entryVolume
    let diff := (exchangePrice - dbPrice) * volume
    if exchangePrice ≤ 0 ∨ dbPrice ≤ 0 ∨ volume ≤ 0 then 0
    else if 1 / 1000000 < |diff| then diff else 0)).sum

/-! ## `build_equity_reconciliation` -/

/-- The arguments of `build_equity_reconciliation`. -/
structure ReconciliationRequest where
  initialEquity : ℚ
  currentEquityFromExchange : Option ℚ
  realizedPnlFromDb : ℚ
  unrealizedPnlFromPositions : ℚ
  totalFeeFromDb : ℚ
  dbOrders : List ReportOrder
  dbPositions : List ReportPosition
  exchangeOrders : Option (List ExchangeOrder) := none
  valuationPrices : List (String × ℚ) := []
  periodStartUtc : Option UtcTime := none
  deposits : ℚ := 0
  withdrawals : ℚ := 0
  feeRate : ℚ := 5 / 10000
  openOrderFeeAdjustment : ℚ := 0

/-- The figures of the reconciliation. -/
structure EquityReconciliation where
  expectedEquity : ℚ
  equityDiff : Option ℚ
  equityDiffRate : Option ℚ
  feeDiff : Option ℚ
  exchangeFillMatch : MatchReport
  duplicateExchangeUuidInDb : DuplicateField
  duplicateClientOrderIdInDb : DuplicateField
  unexplained : Option ℚ
  unexplainedRate : Option ℚ
  gateFailed : Bool

namespace ReconciliationRequest

variable (q : ReconciliationRequest)

/-- The rows behind `db_fills`. -/
def fillRows : List ReportOrder :=
  (q.dbOrders.filter (fun row => row.status = .filled)).filter
    (fun row => (normalizeDbFill row.dbOrder).hasReference)

def exchangeFills : List ExchangeFill := periodFills (q.exchangeOrders.getD []) q.periodStartUtc

def matchReport : MatchReport :=
  matchFills
    (if q.exchangeOrders.isSome then q.fillRows.map (fun row => normalizeDbFill row.dbOrder)
      else [])
    q.exchangeFills

def feeDiff : Option ℚ :=
  q.exchangeOrders.map (fun _ => q.totalFeeFromDb - (q.exchangeFills.map ExchangeFill.fee).sum)

def expectedEquity : ℚ :=
  q.initialEquity + q.deposits - q.withdrawals + q.realizedPnlFromDb
    + (q.unrealizedPnlFromPositions - estimateExitFee q.dbPositions q.feeRate)
    - q.openOrderFeeAdjustment

def timestampMismatchAmount : ℚ :=
  ((q.fillRows.filter (fun row => timestampIsNonUtc row.executedAtUtc)).map
    (fun row => (normalizeDbFill row.dbOrder).amountKrw)).sum

/-- `explained`, the sum of `breakdown_values`. -/
def explained : ℚ :=
  q.matchReport.missingExchangeFillInDb.amountKrw - q.matchReport.dbOnlyTrade.amountKrw
    - duplicatePositionAccounting q.dbPositions q.dbOrders
    - (duplicateExchangeOrderUuids q.dbOrders).amountKrw
    - (duplicateClientOrderIds q.dbOrders).amountKrw
    - toFloat q.feeDiff
    + valuationPriceDiff q.dbPositions q.valuationPrices
    - q.timestampMismatchAmount - q.openOrderFeeAdjustment

/-- `diff is not None and (abs(diff) > 100.0 or (rate or 0.0) > 0.001)`. -/
def exceeds (diff rate : Option ℚ) : Bool :=
  diff.any (fun diff => 100 < |diff| || 1 / 1000 < toFloat rate)

def buildEquityReconciliation : EquityReconciliation :=
  let rateOf := fun diff : ℚ => |diff| / max q.initialEquity 1
  let equityDiff := q.currentEquityFromExchange.map (fun equity => equity - q.expectedEquity)
  let unexplained := equityDiff.map (fun diff => diff - q.explained)
  let duplicateUuids := duplicateExchangeOrderUuids q.dbOrders
  let duplicateClientIds := duplicateClientOrderIds q.dbOrders
  let available := q.exchangeOrders.isSome
  { expectedEquity := q.expectedEquity
    equityDiff := equityDiff
    equityDiffRate := equityDiff.map rateOf
    feeDiff := q.feeDiff
    exchangeFillMatch := q.matchReport
    duplicateExchangeUuidInDb := duplicateUuids
    duplicateClientOrderIdInDb := duplicateClientIds
    unexplained := unexplained
    unexplainedRate := unexplained.map rateOf
    gateFailed := exceeds equityDiff (equityDiff.map rateOf)
      || exceeds unexplained (unexplained.map rateOf)
      || (available && 0 < q.matchReport.missingExchangeFillInDb.count)
      || (available && 0 < q.matchReport.dbOnlyTrade.count)
      || 0 < duplicateUuids.count
      || 0 < duplicateClientIds.count
      || q.feeDiff.any (fun diff => 100 < |diff|) }

/-! ## Without the exchange's side -/

/-- Neither an equity nor the exchange's orders. -/
structure Unavailable (q : ReconciliationRequest) : Prop where
  equity : q.currentEquityFromExchange = none
  orders : q.exchangeOrders = none

end ReconciliationRequest

theorem matchFills_nil :
    (matchFills [] []).missingExchangeFillInDb.count = 0
      ∧ (matchFills [] []).dbOnlyTrade.count = 0 := by
  constructor <;> rfl

namespace ReconciliationRequest

variable {q : ReconciliationRequest}

theorem matchReport_of_unavailable (h : q.Unavailable) : q.matchReport = matchFills [] [] := by
  unfold matchReport exchangeFills
  rw [h.orders]
  have hfills : periodFills ((none : Option (List ExchangeOrder)).getD []) q.periodStartUtc
      = [] := by
    unfold periodFills
    split <;> rfl
  rw [hfills]
  rfl

theorem feeDiff_of_unavailable (h : q.Unavailable) : q.feeDiff = none := by
  unfold feeDiff
  rw [h.orders]
  rfl

theorem gateFailed_of_unavailable (h : q.Unavailable) :
    q.buildEquityReconciliation.gateFailed
      = (decide (0 < (duplicateExchangeOrderUuids q.dbOrders).count)
        || decide (0 < (duplicateClientOrderIds q.dbOrders).count)) := by
  unfold buildEquityReconciliation
  simp only [h.equity, h.orders, feeDiff_of_unavailable h, Option.map_none, exceeds,
    Option.any_none, Option.isSome_none, Bool.false_and, Bool.false_or, Bool.or_false]

end ReconciliationRequest

end AutoCoinBot
