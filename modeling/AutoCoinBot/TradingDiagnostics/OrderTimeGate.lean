/-
  TradingDiagnostics.OrderTimeGate — `restart_block_reason`, as the pilot asks it before
  a buy.

  The report passes the caller's reconciliation through its stages: the equity, the sanity of the
  total, the trust in it, the gate. Two checks of the gate know whether a reconciliation was
  requested. The others take what was not supplied for what failed.
-/
import AutoCoinBot.LiveStrategyPilot.GatedBuys
import AutoCoinBot.TradingDiagnostics.EquityReconciliation
import AutoCoinBot.TradingDiagnostics.RestartGate

namespace AutoCoinBot

/-! ## `_asset_reconciliation_report` -/

/-- `exchange_fill_accounting`; the figures of an absent `ledger_pnl_detail` are zero. -/
structure FillAccounting where
  ledgerPnlDetail : RealizedPnlReport :=
    computeRealizedPnlFromLedger [] (fun _ => 0) ledgerFeeRate
  ledgerStrategyPnl : List GroupPnl := []
  ledgerSymbolPnl : List GroupPnl := []
  ledgerSessionPnl : List GroupPnl := []
  /-- `exchange_net_realized_pnl_after_fee_bot_owned`. -/
  botOwnedNet : Option ℚ := none
  counts : AccountingCounts := {}

/-- The keys of `payload` that the stages read; a missing one is `none` or empty. -/
structure AssetPayload where
  deposits : Option ℚ := none
  withdrawals : Option ℚ := none
  initialEquity : Option ℚ := none
  currentCashKrw : Option ℚ := none
  currentCoinMarketValue : Option ℚ := none
  currentEquityFromExchange : Option ℚ := none
  snapshotUnrealizedPnl : Option ℚ := none
  exchangeOrders : Option (List ExchangeOrder) := none
  valuationPrices : List (String × ℚ) := []
  periodStartUtc : Option UtcTime := none
  openOrderFeeAdjustment : Option ℚ := none
  depositWithdrawalStatus : DepositStatus := .unavailable
  openingInventoryReport : Option OpeningInventory := none
  exchangeFillsLedgerSummary : LedgerSummaryCounts := {}
  exchangeFillAccounting : FillAccounting := {}

def AssetPayload.currentEquity (payload : AssetPayload) : Option ℚ :=
  let cash := toFloat payload.currentCashKrw
  let coins := toFloat payload.currentCoinMarketValue
  payload.currentEquityFromExchange.or
    (if cash ≠ 0 ∨ coins ≠ 0 then some (cash + coins) else none)

def totalPnlSanityCheck (initialEquity : ℚ) (currentEquity : Option ℚ) (deposits withdrawals : ℚ)
    (detail : RealizedPnlReport) : TotalPnlSanity :=
  let ledgerTotal := detail.totalPnlAfterEstimatedExitFee
  let equityBased := currentEquity.map (fun equity =>
    equity - initialEquity - deposits + withdrawals)
  let diff := equityBased.map (fun equityBased => ledgerTotal - equityBased)
  let diffRate := diff.map (fun diff => |diff| / max |initialEquity| 1)
  { equityBasedTotalPnl := equityBased
    ledgerTotalPnl := ledgerTotal
    diff := diff
    diffRate := diffRate
    passed := diff.any (fun diff => |diff| ≤ 100) || diffRate.any (fun rate => rate ≤ 1 / 1000) }

/-- `equity_bridge_diff_rate` of `_account_equity_bridge`. -/
def accountEquityBridge (initialEquity : ℚ) (currentEquity : Option ℚ) (deposits withdrawals : ℚ)
    (detail : RealizedPnlReport) : Option ℚ :=
  let expected := initialEquity + deposits - withdrawals + detail.netRealizedPnlAfterFee
    + detail.unrealizedPnlAfterEstimatedExitFee
  currentEquity.map (fun equity => |equity - expected| / max |initialEquity| 1)

def pnlTrustLevel (sanity : TotalPnlSanity) (opening : OpeningInventory) (status : DepositStatus)
    (allocation : AllocationCheck) : TrustLevel :=
  if !sanity.passed then .low
  else if !opening.openingSnapshotAvailable then .low
  else if status != .available then .low
  else if !allocation.confidenceHigh then .low
  else .high

/-- The arguments of `_asset_reconciliation_report` beside the payload. -/
structure AssetInputs where
  startingAssetKrw : ℚ
  realizedPnlFromDb : ℚ
  unrealizedPnlFromPositions : ℚ
  totalFee : ℚ
  orders : List ReportOrder
  positions : List ReportPosition
  liveFeeRate : ℚ

/-- The request that the report makes to the reconciliation. -/
def AssetInputs.request (inputs : AssetInputs) (payload : AssetPayload) : ReconciliationRequest :=
  { initialEquity := payload.initialEquity.getD inputs.startingAssetKrw
    currentEquityFromExchange := payload.currentEquity
    realizedPnlFromDb := inputs.realizedPnlFromDb
    unrealizedPnlFromPositions :=
      payload.snapshotUnrealizedPnl.getD inputs.unrealizedPnlFromPositions
    totalFeeFromDb := inputs.totalFee
    dbOrders := inputs.orders
    dbPositions := inputs.positions
    exchangeOrders := payload.exchangeOrders
    valuationPrices := payload.valuationPrices
    periodStartUtc := payload.periodStartUtc
    deposits := toFloat payload.deposits
    withdrawals := toFloat payload.withdrawals
    feeRate := inputs.liveFeeRate
    openOrderFeeAdjustment := toFloat payload.openOrderFeeAdjustment }

/-- `_asset_reconciliation_report`; the empty payload is none. -/
def assetReconciliationReport (inputs : AssetInputs) (supplied : Option AssetPayload) :
    AssetReport :=
  let payload := supplied.getD {}
  let requested := supplied.isSome
  let request := inputs.request payload
  let reconciliation := request.buildEquityReconciliation
  let accounting := payload.exchangeFillAccounting
  let detail := accounting.ledgerPnlDetail
  let sanity := totalPnlSanityCheck request.initialEquity payload.currentEquity request.deposits
    request.withdrawals detail
  let allocation := pnlAllocationCheck detail accounting.ledgerStrategyPnl
    accounting.ledgerSymbolPnl accounting.ledgerSessionPnl
  -- `_default_opening_inventory_report`, where none is supplied
  let opening := payload.openingInventoryReport.getD {}
  let trust := pnlTrustLevel sanity opening payload.depositWithdrawalStatus allocation
  let figures : ReconciliationFigures :=
    { gateFailed := reconciliation.gateFailed
      missingExchangeFillInDb := reconciliation.exchangeFillMatch.missingExchangeFillInDb.count
      dbOnlyTrade := reconciliation.exchangeFillMatch.dbOnlyTrade.count
      duplicateClientOrderIdInDb := reconciliation.duplicateClientOrderIdInDb.count
      feeDiff := reconciliation.feeDiff }
  { gateFailed := figures.gateFailed || !sanity.passed || decide (trust = .low)
    assetReconciliationRequested := requested
    depositWithdrawalStatus :=
      if requested then payload.depositWithdrawalStatus else .notRequested
    depositWithdrawalMismatchIsVerified :=
      if requested then payload.depositWithdrawalStatus == .available else true
    totalPnlSanity := sanity
    pnlTrustLevel := trust
    openingInventory := opening
    equityBridgeDiffRate := accountEquityBridge request.initialEquity payload.currentEquity
      request.deposits request.withdrawals detail
    allocation := allocation
    botOwnedRealizedPnlDiff := accounting.botOwnedNet.map (fun net =>
      net - inputs.realizedPnlFromDb)
    figures := figures
    accounting := accounting.counts
    ledgerSummary := payload.exchangeFillsLedgerSummary }

/-! ## `build_trading_diagnostics_report` -/

/-- The rows that the queries of a report give. -/
structure DiagnosticsDatabase where
  orders : List ReportOrder := []
  positions : List ReportPosition := []
  sessions : List DiagnosticSession := []
  reservations : List DiagnosticReservation := []
  duplicateOrderUuids : ℕ := 0
  duplicateFillEvents : ℕ := 0
  openPositions : List OpenPositionRow := []
  activeOrders : ℕ := 0

/-- The settings that a report reads. -/
structure DiagnosticsSettings where
  startAssetKrw : ℚ := 300000
  maxTradeCount : ℤ := 0
  feePressureWarningRate : ℚ := 2 / 1000
  liveFeeRate : ℚ := 5 / 10000
  limits : SafetyLimits := {}

def ReportOrder.isBuy (order : ReportOrder) : Bool :=
  order.side.isBuy || order.orderPurpose == some .entry

def ReportOrder.isSell (order : ReportOrder) : Bool :=
  order.side.isSell || order.orderPurpose == some .exit

namespace DiagnosticsDatabase

variable (db : DiagnosticsDatabase)

def filledOrders : List ReportOrder := db.orders.filter (fun row => row.status = .filled)

def realizedPnl : ℚ := (db.positions.map (fun row => toFloat row.realizedPnl)).sum

def unrealizedPnl : ℚ :=
  ((db.positions.filter (fun row => row.status.isActive)).map
    (fun row => toFloat row.unrealizedPnl)).sum

def feeTotal : ℚ := (db.filledOrders.map (fun row => toFloat row.paidFee)).sum

def summary (settings : DiagnosticsSettings) : DiagnosticsSummary :=
  { tradeCount := db.filledOrders.length
    totalBuyAmountKrw :=
      ((db.filledOrders.filter ReportOrder.isBuy).map ReportOrder.orderAmount).sum
    totalSellAmountKrw :=
      ((db.filledOrders.filter ReportOrder.isSell).map ReportOrder.orderAmount).sum
    totalFeeKrw := db.feeTotal
    totalPnlKrw := db.realizedPnl + db.unrealizedPnl
    startingAssetKrw := settings.startAssetKrw }

def history (settings : DiagnosticsSettings) : DiagnosticsHistory :=
  { orders := db.orders.map ReportOrder.toDiagnosticOrder
    sessions := db.sessions
    reservations := db.reservations
    duplicateOrderUuids := db.duplicateOrderUuids
    duplicateFillEvents := db.duplicateFillEvents
    openPositions := db.openPositions
    activeOrders := db.activeOrders
    summary := db.summary settings
    maxTradeCount := settings.maxTradeCount
    feePressureWarningRate := settings.feePressureWarningRate }

def assetInputs (settings : DiagnosticsSettings) : AssetInputs :=
  { startingAssetKrw := settings.startAssetKrw
    realizedPnlFromDb := db.realizedPnl
    unrealizedPnlFromPositions := db.unrealizedPnl
    totalFee := db.feeTotal
    orders := db.orders
    positions := db.positions
    liveFeeRate := settings.liveFeeRate }

/-- `restart_gate` of `build_trading_diagnostics_report`. -/
def reportGate (settings : DiagnosticsSettings) (supplied : Option AssetPayload) : RestartGate :=
  restartGate (riskDiagnostics (db.history settings)) settings.limits (db.summary settings)
    (assetReconciliationReport (db.assetInputs settings) supplied)

/-- `restart_block_reason`: the report is built without a reconciliation. -/
def restartBlockReason (settings : DiagnosticsSettings) : RestartGate :=
  db.reportGate settings none

/-- No detector finds anything in the rows, no limit is reached and the period lost nothing. -/
structure Clean (settings : DiagnosticsSettings) : Prop where
  detectors : ∀ check ∈ riskChecks (riskDiagnostics (db.history settings)) settings.limits
    (db.summary settings), check.count = 0
  uuids : (duplicateExchangeOrderUuids db.orders).count = 0
  clientIds : (duplicateClientOrderIds db.orders).count = 0
  pnl : 0 ≤ (db.summary settings).totalPnlKrw

end DiagnosticsDatabase

/-! ## Without a payload -/

/-- The reasons that stand for evidence nobody supplied. -/
def unsuppliedEvidence : List RestartReason :=
  [⟨.equityReconciliationDiff, 1⟩, ⟨.totalPnlSanityFailed, 1⟩, ⟨.pnlTrustLevelLow, 1⟩,
    ⟨.openingSnapshotUnavailable, 1⟩]

section Unrequested

variable (inputs : AssetInputs)

theorem assetReport_unrequested :
    let report := assetReconciliationReport inputs none
    report.totalPnlSanity.passed = false ∧ report.pnlTrustLevel = .low
      ∧ report.openingInventory.openingSnapshotAvailable = false ∧ report.gateFailed = true := by
  intro report
  have hsanity : report.totalPnlSanity.passed = false := rfl
  have htrust : report.pnlTrustLevel = .low := rfl
  refine ⟨hsanity, htrust, rfl, ?_⟩
  show (report.figures.gateFailed || !report.totalPnlSanity.passed
    || decide (report.pnlTrustLevel = .low)) = true
  rw [htrust]
  simp

theorem request_unavailable : (inputs.request {}).Unavailable := ⟨rfl, rfl⟩

theorem figures_unrequested :
    let figures := (assetReconciliationReport inputs none).figures
    figures.missingExchangeFillInDb = 0 ∧ figures.dbOnlyTrade = 0 ∧ figures.feeDiff = none
      ∧ figures.duplicateClientOrderIdInDb = (duplicateClientOrderIds inputs.orders).count := by
  have hmatch := ReconciliationRequest.matchReport_of_unavailable (request_unavailable inputs)
  refine ⟨?_, ?_, ReconciliationRequest.feeDiff_of_unavailable (request_unavailable inputs), rfl⟩
  · show (inputs.request {}).matchReport.missingExchangeFillInDb.count = 0
    rw [hmatch]
    exact matchFills_nil.1
  · show (inputs.request {}).matchReport.dbOnlyTrade.count = 0
    rw [hmatch]
    exact matchFills_nil.2

theorem allocation_unrequested :
    let allocation := (assetReconciliationReport inputs none).allocation
    allocation.unrealizedPnlDuplicateSuspected = false ∧ allocation.strategyAllocationDiff = 0
      ∧ allocation.symbolAllocationDiff = 0 ∧ allocation.sessionAllocationDiff = 0 := by
  show (allocationCheckOf [] (fun _ => 0)).unrealizedPnlDuplicateSuspected = false
    ∧ (allocationCheckOf [] (fun _ => 0)).strategyAllocationDiff = 0
    ∧ (allocationCheckOf [] (fun _ => 0)).symbolAllocationDiff = 0
    ∧ (allocationCheckOf [] (fun _ => 0)).sessionAllocationDiff = 0
  decide +kernel

theorem assetChecks_unrequested (h : (duplicateClientOrderIds inputs.orders).count = 0) :
    (assetChecks (assetReconciliationReport inputs none)).filter (fun check => check.count != 0)
      = unsuppliedEvidence := by
  obtain ⟨hsanity, htrust, hopening, hfailed⟩ := assetReport_unrequested inputs
  obtain ⟨hmissing, honly, hfee, hclient⟩ := figures_unrequested inputs
  obtain ⟨hduplicate, hstrategy, hsymbol, hsession⟩ := allocation_unrequested inputs
  have hrequested : (assetReconciliationReport inputs none).assetReconciliationRequested = false :=
    rfl
  have hbridge : (assetReconciliationReport inputs none).equityBridgeDiffRate = none := rfl
  have howned : (assetReconciliationReport inputs none).botOwnedRealizedPnlDiff = none := rfl
  have haccounting : (assetReconciliationReport inputs none).accounting = {} := rfl
  have hledger : (assetReconciliationReport inputs none).ledgerSummary = {} := rfl
  unfold assetChecks
  rw [hsanity, htrust, hopening, hfailed, hmissing, honly, hfee, hclient, h, hduplicate, hstrategy,
    hsymbol, hsession, hrequested, hbridge, howned, haccounting, hledger]
  simp only [Bool.false_and]
  decide +kernel

end Unrequested

/-! ## The gate -/

section Gate

variable (settings : DiagnosticsSettings) (db : DiagnosticsDatabase)

theorem reports_totalPnlSanityFailed :
    (db.restartBlockReason settings).reports .totalPnlSanityFailed := by
  refine reports_iff.mpr ⟨⟨.totalPnlSanityFailed, 1⟩, ?_, rfl, by decide⟩
  have hmem : ⟨.totalPnlSanityFailed, 1⟩
      ∈ assetChecks (assetReconciliationReport (db.assetInputs settings) none) := by
    unfold assetChecks
    rw [(assetReport_unrequested (db.assetInputs settings)).1]
    simp [flag]
  exact List.mem_append_left _ (List.mem_append_right _ hmem)

theorem restartBlockReason_allowed : (db.restartBlockReason settings).allowed = false := by
  have hreason := reports_totalPnlSanityFailed settings db
  match hlist : (db.restartBlockReason settings).reasons with
  | [] =>
    unfold RestartGate.reports at hreason
    rw [hlist] at hreason
    cases hreason
  | _ :: _ =>
    show ((db.restartBlockReason settings).reasons.length == 0) = false
    rw [hlist]
    rfl

variable {settings db}

theorem reconciliation_of_clean (hclean : db.Clean settings) :
    (assetReconciliationReport (db.assetInputs settings) none).figures.gateFailed = false := by
  have hfailed := ReconciliationRequest.gateFailed_of_unavailable
    (request_unavailable (db.assetInputs settings))
  refine hfailed.trans ?_
  show (decide (0 < (duplicateExchangeOrderUuids db.orders).count)
    || decide (0 < (duplicateClientOrderIds db.orders).count)) = false
  rw [hclean.uuids, hclean.clientIds]
  rfl

theorem reasons_of_clean (hclean : db.Clean settings) :
    (db.restartBlockReason settings).reasons = unsuppliedEvidence := by
  have hrisk : (riskChecks (riskDiagnostics (db.history settings)) settings.limits
      (db.summary settings)).filter (fun check => check.count != 0) = [] := by
    rw [List.filter_eq_nil_iff]
    intro check hcheck
    simp [hclean.detectors check hcheck]
  have hasset := assetChecks_unrequested (db.assetInputs settings) hclean.clientIds
  show List.filter _ (_ ++ _ ++ _) = _
  rw [List.filter_append, List.filter_append, hrisk, hasset]
  simp [flag, not_lt.mpr hclean.pnl]

end Gate

/-- **The gate never opens**: no database lets the order pass. Of a clean one the reconciliation
does not fail, and all that is reported is what the caller did not supply. -/
theorem order_time_gate_never_opens (settings : DiagnosticsSettings) (db : DiagnosticsDatabase) :
    (db.restartBlockReason settings).allowed = false
      ∧ (db.Clean settings →
          (assetReconciliationReport (db.assetInputs settings) none).figures.gateFailed = false
            ∧ (db.restartBlockReason settings).reasons = unsuppliedEvidence) := by
  refine ⟨restartBlockReason_allowed settings db, ?_⟩
  intro hclean
  exact ⟨reconciliation_of_clean hclean, reasons_of_clean hclean⟩

theorem clean_empty : DiagnosticsDatabase.Clean {} {} := by
  have hdetectors : (riskChecks (riskDiagnostics (DiagnosticsDatabase.history {} {})) {}
      (DiagnosticsDatabase.summary {} {})).all (fun check => check.count == 0) = true := by
    decide +kernel
  constructor
  · intro check hcheck
    simpa using List.all_eq_true.mp hdetectors check hcheck
  · decide +kernel
  · decide +kernel
  · decide +kernel

theorem empty_database_unsupplied :
    DiagnosticsDatabase.Clean {} {}
      ∧ (DiagnosticsDatabase.restartBlockReason {} {}).reasons = unsuppliedEvidence :=
  ⟨clean_empty, ((order_time_gate_never_opens {} {}).2 clean_empty).2⟩

theorem empty_database_refused :
    ¬ (DiagnosticsDatabase.Clean {} {} →
        (DiagnosticsDatabase.restartBlockReason {} {}).allowed = true) := by
  intro h
  have hclosed : (DiagnosticsDatabase.restartBlockReason {} {}).allowed = false := by
    decide +kernel
  rw [h clean_empty] at hclosed
  cases hclosed

/-- A reconciliation in which the figures agree opens the gate of the same database. -/
example : (DiagnosticsDatabase.reportGate {} {} (some
    { currentEquityFromExchange := some 300000
      depositWithdrawalStatus := .available
      openingInventoryReport := some { openingSnapshotAvailable := true } })).allowed = true := by
  decide +kernel

end AutoCoinBot
