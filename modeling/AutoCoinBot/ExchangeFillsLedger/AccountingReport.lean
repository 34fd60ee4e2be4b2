/-
  ExchangeFillsLedger.AccountingReport — `build_exchange_fill_accounting_report`
  (app/exchange_fills_ledger.py), as far as the trace of missing fills.

  Every row of the ledger is classified by what the database knows of its order: an order row, a
  canonical filled row, a session, an event of a position, an outcome.
-/
import AutoCoinBot.ExchangeFillsLedger.GroupedPnl
import AutoCoinBot.Library.KeyedJoin

namespace AutoCoinBot

open Library

/-! ## What the database knows -/

/-- The columns of an order row that the report reads; `strategy` is a key that rows of
`live_order_logs` do not have. -/
structure AccountingOrder where
  id : ℕ
  orderUuid : Option String := none
  clientOrderId : Option String := none
  status : Option String := none
  strategyName : Option String := none
  strategy : Option String := none
  sessionId : Option ℕ := none
  market : Option String := none

/-- The columns of a session that the report reads. -/
structure ReportSession where
  id : ℕ
  market : Option String := none
  strategyName : Option String := none
  createdAt : Option UtcTime := none
  stoppedAt : Option UtcTime := none
  updatedAt : Option UtcTime := none

/-- A row of `position_fill_events` or of `trade_outcome_logs`. -/
structure AccountRow where
  id : ℕ
  orderUuid : Option String := none

/-- The arguments of the report beside the ledger. -/
structure ReportEvidence where
  canonicalDbOrders : List AccountingOrder
  allDbOrders : List AccountingOrder
  sessions : List ReportSession
  positionFillEvents : List AccountRow
  tradeOutcomeLogs : List AccountRow
  periodStartUtc : Option UtcTime := none
  periodEndUtc : Option UtcTime := none

/-- `_first(_rows_by(rows, field).get(value))`: the first row of a value; the empty text is no
value. -/
def firstBy {α : Type} (field : α → Option String) (rows : List α) (value : String) : Option α :=
  rows.find? (fun row => toText (field row) ≠ "" && toText (field row) == value)

/-- `a or b` on ids and on texts. -/
def orId (a b : Option ℕ) : Option ℕ := if idGiven a then a else b
def orGiven (a b : Option String) : Option String := if textGiven a then a else b

inductive FillOwnership where
  | botLiveConfirmed
  | botLiveSuspected
  | manualOrExternal
  | outOfReconciliationScope
  deriving DecidableEq

inductive AccountingStatus where
  | accountingOutOfScope
  | accountingLegacyMissingCanonicalLog
  | accountingSynced
  | accountingPartial
  | accountingPending

/-- An entry of `missing_reasons`. The time of a ledger row is written with its zone, so
`TIMESTAMP_MISMATCH` does not arise. -/
inductive MissingReason where
  | missingFilledEventRow
  | orderStatusUpdatedWithoutFillEvent
  | legacySchemaNoFillRow
  | brokerResponseNotLogged
  | sessionMismatch
  | strategyMetadataMissing
  | livePositionAccountingMissing
  | strategyPnlAccountingMissing
  | unknown
  deriving DecidableEq

/-! ## Classifying a row -/

section Classify

variable (e : ReportEvidence) (row : LedgerRow)

/-- The order rows of a fill: by its order's uuid, or by its client id. -/
def ReportEvidence.orderOf (orders : List AccountingOrder) : Option AccountingOrder :=
  (firstBy AccountingOrder.orderUuid orders (toText row.exchangeOrderUuid)).or
    (firstBy AccountingOrder.clientOrderId orders (toText row.clientOrderId))

/-- `canonical_match`: of the canonical rows that are filled. -/
def ReportEvidence.canonicalMatch : Option AccountingOrder :=
  ReportEvidence.orderOf row
    (e.canonicalDbOrders.filter (fun order => (toText order.status).toUpper = "FILLED"))

def ReportEvidence.dbOrderMatch : Option AccountingOrder := ReportEvidence.orderOf row e.allDbOrders

/-- `position_event` and `outcome`. -/
def ReportEvidence.positionEvent : Option AccountRow :=
  firstBy AccountRow.orderUuid e.positionFillEvents (toText row.exchangeOrderUuid)
def ReportEvidence.outcome : Option AccountRow :=
  firstBy AccountRow.orderUuid e.tradeOutcomeLogs (toText row.exchangeOrderUuid)

/-- `_matching_session`: the first session of the market that ran at the time of the fill. -/
def ReportEvidence.matchingSession : Option ReportSession :=
  match row.executedAtUtc with
  | none => none
  | some executed =>
    e.sessions.find? (fun session =>
      toText session.market == row.market
        && session.createdAt.all (fun start => decide (start ≤ executed))
        && (session.stoppedAt.or session.updatedAt).all (fun stop => decide (executed ≤ stop)))

def ReportEvidence.ownershipForFill : FillOwnership × String :=
  let executed := row.executedAtUtc
  let allowedMarkets := (e.allDbOrders.map (fun order => toText order.market)).filter (· ≠ "")
  if executed.any (fun t => e.periodStartUtc.any (fun start => decide (t < start))) then
    (.outOfReconciliationScope, "before reconciliation_start_at_utc")
  else if executed.any (fun t => e.periodEndUtc.any (fun stop => decide (stop < t))) then
    (.outOfReconciliationScope, "after reconciliation_end_at_utc")
  else
    match e.dbOrderMatch row with
    | some order =>
      if textGiven order.clientOrderId ∧ toText order.clientOrderId = toText row.clientOrderId then
        (.botLiveConfirmed, "matched by client_order_id")
      else (.botLiveConfirmed, "matched by exchange_order_uuid in DB order")
    | none =>
      if (e.matchingSession row).isSome then
        (.botLiveSuspected, "matched by live session time range and market")
      else if allowedMarkets ≠ [] ∧ row.market ∉ allowedMarkets then
        (.manualOrExternal, "symbol not traded by bot in reconciliation window")
      else (.manualOrExternal, "no DB evidence")

def ReportEvidence.accountingStatus : AccountingStatus :=
  let ownership := (e.ownershipForFill row).1
  if ownership = .manualOrExternal ∨ ownership = .outOfReconciliationScope then
    .accountingOutOfScope
  else if (e.canonicalMatch row).isNone then .accountingLegacyMissingCanonicalLog
  else if (e.positionEvent row).isSome ∧ (e.outcome row).isSome then .accountingSynced
  else if (e.positionEvent row).isSome ∨ (e.outcome row).isSome then .accountingPartial
  else .accountingPending

def ReportEvidence.missingReasons : List MissingReason :=
  let order := (e.canonicalMatch row).or (e.dbOrderMatch row)
  let reasons :=
    (if (e.canonicalMatch row).isNone then
      MissingReason.missingFilledEventRow ::
        match e.dbOrderMatch row with
        | some order =>
          let status := (toText order.status).toUpper
          if status ≠ "" ∧ status ≠ "FILLED" then [.orderStatusUpdatedWithoutFillEvent]
          else [.legacySchemaNoFillRow]
        | none => [.brokerResponseNotLogged]
    else [])
      ++ (if (e.matchingSession row).isNone ∧ idGiven row.matchedSessionId = false
            ∧ (e.dbOrderMatch row).isNone then [.sessionMismatch] else [])
      ++ (if textGiven (orGiven (order.bind AccountingOrder.strategyName) row.matchedStrategyName)
          then [] else [.strategyMetadataMissing])
      ++ (if (e.positionEvent row).isNone then [.livePositionAccountingMissing] else [])
      ++ (if (e.outcome row).isNone then [.strategyPnlAccountingMissing] else [])
  if reasons.isEmpty then [.unknown] else reasons

/-- A row of `classified`; the session and the strategy stand in the row itself. -/
structure ClassifiedFill where
  row : LedgerRow
  ownership : FillOwnership
  ownershipReason : String
  matchedAnyDbOrderId : Option ℕ
  matchedCanonicalLiveOrderLogId : Option ℕ
  matchedPositionFillEventId : Option ℕ
  matchedTradeOutcomeLogId : Option ℕ
  accountingStatus : AccountingStatus
  missingReasons : List MissingReason

def ReportEvidence.classify : ClassifiedFill :=
  let canonical := e.canonicalMatch row
  let order := e.dbOrderMatch row
  let session := e.matchingSession row
  { row :=
      { row with
        matchedSessionId :=
          orId row.matchedSessionId
            (orId (canonical.bind AccountingOrder.sessionId)
              (orId (order.bind AccountingOrder.sessionId) (session.map ReportSession.id)))
        matchedStrategyName :=
          orGiven row.matchedStrategyName
            (orGiven (canonical.bind AccountingOrder.strategyName)
              (orGiven (canonical.bind AccountingOrder.strategy)
                (orGiven (order.bind AccountingOrder.strategyName)
                  (orGiven (order.bind AccountingOrder.strategy)
                    (session.bind ReportSession.strategyName))))) }
    ownership := (e.ownershipForFill row).1
    ownershipReason := (e.ownershipForFill row).2
    matchedAnyDbOrderId := order.map AccountingOrder.id
    matchedCanonicalLiveOrderLogId := canonical.map AccountingOrder.id
    matchedPositionFillEventId := (e.positionEvent row).map AccountRow.id
    matchedTradeOutcomeLogId := (e.outcome row).map AccountRow.id
    accountingStatus := e.accountingStatus row
    missingReasons := e.missingReasons row }

end Classify

/-! ## The trace of missing fills -/

/-- An item of `missing_fill_trace`; what it copies of the row stands in `fill`. -/
structure MissingFill where
  fill : ClassifiedFill
  canonicalFilledLogExists : Bool
  livePositionAccountingExists : Bool
  strategyPnlAccountingExists : Bool
  missingReason : MissingReason
  missingReasons : List MissingReason
  estimatedPnlImpact : ℚ

/-- What `_missing_fill_trace` returns. -/
structure MissingFillTrace where
  items : List MissingFill
  count : ℕ
  reasonCounts : MissingReason → ℕ
  estimatedPnlImpact : ℚ

/-- The row lacks its canonical log, its event or its outcome. -/
def ClassifiedFill.isMissing (c : ClassifiedFill) : Bool :=
  !(c.matchedCanonicalLiveOrderLogId.isSome && c.matchedPositionFillEventId.isSome
    && c.matchedTradeOutcomeLogId.isSome)

/-- `realized_by_uuid`: a later trade of an order stands over an earlier one. -/
def realizedByUuid (trades : List RealizedTrade) : List (String × RealizedTrade) :=
  keyed (fun trade => toText trade.exchangeOrderUuid)
    (trades.filter (fun trade => textGiven trade.exchangeOrderUuid))

/-- `_float((realized_by_uuid.get(…) or {}).get("net_pnl_after_fee"))`. -/
def pnlByUuid (table : List (String × RealizedTrade)) (uuid : Option String) : ℚ :=
  toFloat ((lastOf table (toText uuid)).map RealizedTrade.netPnlAfterFee)

def missingFillTrace (botOwned : List ClassifiedFill) (table : List (String × RealizedTrade)) :
    MissingFillTrace :=
  let items := (botOwned.filter ClassifiedFill.isMissing).map (fun c =>
    { fill := c
      canonicalFilledLogExists := c.matchedCanonicalLiveOrderLogId.isSome
      livePositionAccountingExists := c.matchedPositionFillEventId.isSome
      strategyPnlAccountingExists := c.matchedTradeOutcomeLogId.isSome
      missingReason := c.missingReasons.headD .unknown
      missingReasons := c.missingReasons
      estimatedPnlImpact := pnlByUuid table c.row.exchangeOrderUuid : MissingFill })
  { items := items
    count := items.length
    reasonCounts := fun reason => (items.flatMap MissingFill.missingReasons).count reason
    estimatedPnlImpact := (items.map MissingFill.estimatedPnlImpact).sum }

/-! ## The report -/

/-- What the report says of the fills of the bot. -/
structure AccountingReport where
  classified : List ClassifiedFill
  botOwned : List ClassifiedFill
  ledgerPnlDetail : RealizedPnlReport
  ledgerStrategyPnl : List GroupPnl
  ledgerSymbolPnl : List GroupPnl
  ledgerSessionPnl : List GroupPnl
  missingFillTrace : MissingFillTrace

def buildExchangeFillAccountingReport (e : ReportEvidence) (ledgerRows : List LedgerRow)
    (valuationPrices : String → ℚ) : AccountingReport :=
  let classified := ledgerRows.map e.classify
  let botOwned := classified.filter (fun c =>
    c.ownership = .botLiveConfirmed ∨ c.ownership = .botLiveSuspected)
  let botRows := botOwned.map ClassifiedFill.row
  let botPnl := computeRealizedPnlFromLedger botRows valuationPrices ledgerFeeRate
  { classified := classified
    botOwned := botOwned
    ledgerPnlDetail := botPnl
    ledgerStrategyPnl := groupedPnl LedgerRow.strategyKey botRows valuationPrices
    ledgerSymbolPnl := groupedPnl LedgerRow.symbolKey botRows valuationPrices
    ledgerSessionPnl := groupedPnl LedgerRow.sessionKey botRows valuationPrices
    missingFillTrace := missingFillTrace botOwned (realizedByUuid botPnl.realizedTrades) }

/-! ## What a row is classified by -/

/-- The row lacks an account of its order: no filled canonical row has its uuid or its client
id, or no event or no outcome has its uuid. -/
def ReportEvidence.lacksAccount (e : ReportEvidence) (row : LedgerRow) : Bool :=
  !((e.canonicalMatch row).isSome && (e.positionEvent row).isSome && (e.outcome row).isSome)

section References

variable (e : ReportEvidence) (row : LedgerRow)

@[simp] theorem classify_exchangeOrderUuid :
    (e.classify row).row.exchangeOrderUuid = row.exchangeOrderUuid := rfl

@[simp] theorem classify_clientOrderId :
    (e.classify row).row.clientOrderId = row.clientOrderId := rfl

theorem lacksAccount_classify : e.lacksAccount (e.classify row).row = e.lacksAccount row := by
  unfold ReportEvidence.lacksAccount ReportEvidence.canonicalMatch ReportEvidence.orderOf
    ReportEvidence.positionEvent ReportEvidence.outcome
  rw [classify_exchangeOrderUuid, classify_clientOrderId]

/-- **What the trace lists** are the rows that lack an account. -/
theorem isMissing_classify : (e.classify row).isMissing = e.lacksAccount row := by
  unfold ClassifiedFill.isMissing ReportEvidence.classify ReportEvidence.lacksAccount
  simp only [Option.isSome_map]

end References

end AutoCoinBot
