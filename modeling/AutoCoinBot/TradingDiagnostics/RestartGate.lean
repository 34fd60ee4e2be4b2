/-
  TradingDiagnostics.RestartGate — `_restart_gate`.

  The gate lists a reason for every check that finds something, and is open when there is none.
-/
import AutoCoinBot.TradingDiagnostics.PnlAllocation
import AutoCoinBot.TradingDiagnostics.RiskDiagnostics

namespace AutoCoinBot

/-! ## What the gate reads -/

/-- `_safety_limits`, as far as the gate reads them. -/
structure SafetyLimits where
  dailyMaxLossKrw : ℚ := 10000
  dailyMaxLossRate : ℚ := 3 / 100

def SafetyLimits.dailyLossLimitReached (limits : SafetyLimits) (summary : DiagnosticsSummary) :
    Bool :=
  let lossAbs := |min summary.totalPnlKrw 0|
  let lossRate := lossAbs / max summary.startingAssetKrw 1
  decide (limits.dailyMaxLossKrw ≤ lossAbs) || decide (limits.dailyMaxLossRate ≤ lossRate)

/-- `HIGH` or `LOW`. -/
inductive TrustLevel where
  | high
  | low
  deriving DecidableEq

/-- `deposit_withdrawal_status`. -/
inductive DepositStatus where
  | available
  | unavailable
  | notRequested
  deriving DecidableEq

/-- `total_pnl_sanity_check`. -/
structure TotalPnlSanity where
  equityBasedTotalPnl : Option ℚ
  ledgerTotalPnl : ℚ
  diff : Option ℚ
  diffRate : Option ℚ
  passed : Bool

/-- `opening_inventory_report`, as far as it is read. -/
structure OpeningInventory where
  openingSnapshotAvailable : Bool := false

/-- The figures of `build_equity_reconciliation` that the gate reads. -/
structure ReconciliationFigures where
  gateFailed : Bool := false
  missingExchangeFillInDb : ℕ := 0
  dbOnlyTrade : ℕ := 0
  duplicateClientOrderIdInDb : ℕ := 0
  feeDiff : Option ℚ := none

/-- The counts of `exchange_fill_accounting` that the gate reads. -/
structure AccountingCounts where
  missingLivePositionAccountingFill : ℕ := 0
  missingStrategyPnlFill : ℕ := 0
  pending : ℕ := 0
  partiallyDone : ℕ := 0
  failed : ℕ := 0
  legacyMissingCanonicalLog : ℕ := 0

/-- The counts of `exchange_fills_ledger_summary` that the gate reads. -/
structure LedgerSummaryCounts where
  missingCanonicalLog : ℕ := 0
  duplicateExchangeUuid : ℕ := 0
  syntheticUuid : ℕ := 0

/-- The report of `_asset_reconciliation_report`, as far as the gate reads it. -/
structure AssetReport where
  gateFailed : Bool
  assetReconciliationRequested : Bool
  depositWithdrawalStatus : DepositStatus
  depositWithdrawalMismatchIsVerified : Bool
  totalPnlSanity : TotalPnlSanity
  pnlTrustLevel : TrustLevel
  openingInventory : OpeningInventory
  equityBridgeDiffRate : Option ℚ
  allocation : AllocationCheck
  botOwnedRealizedPnlDiff : Option ℚ
  figures : ReconciliationFigures
  accounting : AccountingCounts
  ledgerSummary : LedgerSummaryCounts

/-! ## `_restart_gate` -/

/-- `code`. -/
inductive RestartReasonCode where
  | duplicateOpenSymbol
  | duplicateSessionOrder
  | stoppedSessionTraded
  | expiredReservationExecuted
  | duplicateCandleExecution
  | incompleteCandleUsed
  | timestampFormatMismatch
  | duplicateOrderUuid
  | duplicateFillEvent
  | dailyLossLimitReached
  | maxTradeCountReached
  | feePressureWarning
  | equityReconciliationDiff
  | depositWithdrawalLedgerUnavailable
  | depositWithdrawalMismatchUnverified
  | totalPnlSanityFailed
  | pnlTrustLevelLow
  | openingSnapshotUnavailable
  | equityBridgeDiff
  | unrealizedPnlDuplicateSuspected
  | strategyPnlAllocationDiff
  | symbolPnlAllocationDiff
  | sessionPnlAllocationDiff
  | botOwnedRealizedPnlDiff
  | exchangeFillMissingInDb
  | dbTradeMissingInExchange
  | duplicateClientOrderId
  | feeReconciliationDiff
  | missingLivePositionAccountingFill
  | missingStrategyPnlFill
  | accountingPendingFill
  | accountingPartialFill
  | accountingFailedFill
  | accountingLegacyMissingCanonicalLog
  | missingCanonicalLiveOrderLog
  | duplicateRealExchangeUuid
  | syntheticUuidPresent
  | sevenDayPnlNegative
  deriving DecidableEq

/-- An entry of `reasons`. -/
structure RestartReason where
  code : RestartReasonCode
  count : ℕ
  deriving DecidableEq

def flag (condition : Bool) : ℕ := if condition then 1 else 0

/-- `abs(_float(value)) > limit`. -/
def beyond (value : Option ℚ) (limit : ℚ) : Bool := limit < |toFloat value|

/-- The checks on orders, sessions, reservations and limits, in their order. -/
def riskChecks (risk : RiskDiagnostics) (limits : SafetyLimits) (summary : DiagnosticsSummary) :
    List RestartReason :=
  [⟨.duplicateOpenSymbol, risk.duplicateOpenSymbols.length⟩,
    ⟨.duplicateSessionOrder, risk.duplicateSessionOrders.length⟩,
    ⟨.stoppedSessionTraded, risk.stoppedSessionTrades.length⟩,
    ⟨.expiredReservationExecuted, risk.expiredReservationExecutions.length⟩,
    ⟨.duplicateCandleExecution, risk.duplicateCandleExecutions.length⟩,
    ⟨.incompleteCandleUsed, risk.incompleteCandleUsage.length⟩,
    ⟨.timestampFormatMismatch, risk.timestampMismatches.length⟩,
    ⟨.duplicateOrderUuid, risk.duplicateOrderUuid⟩,
    ⟨.duplicateFillEvent, risk.duplicateFillEvents⟩,
    ⟨.dailyLossLimitReached, flag (limits.dailyLossLimitReached summary)⟩,
    ⟨.maxTradeCountReached, if risk.overtradeBreached then risk.overtradeTradeCount else 0⟩,
    ⟨.feePressureWarning, flag risk.feePressureWarning⟩]

/-- The checks on the asset reconciliation, in their order. -/
def assetChecks (asset : AssetReport) : List RestartReason :=
  [⟨.equityReconciliationDiff, flag asset.gateFailed⟩,
    ⟨.depositWithdrawalLedgerUnavailable, flag (asset.assetReconciliationRequested
      && asset.depositWithdrawalStatus != .available)⟩,
    ⟨.depositWithdrawalMismatchUnverified, flag (asset.assetReconciliationRequested
      && !asset.depositWithdrawalMismatchIsVerified)⟩,
    ⟨.totalPnlSanityFailed, flag (!asset.totalPnlSanity.passed)⟩,
    ⟨.pnlTrustLevelLow, flag (asset.pnlTrustLevel = .low)⟩,
    ⟨.openingSnapshotUnavailable, flag (!asset.openingInventory.openingSnapshotAvailable)⟩,
    ⟨.equityBridgeDiff, flag (beyond asset.equityBridgeDiffRate (1 / 1000))⟩,
    ⟨.unrealizedPnlDuplicateSuspected, flag asset.allocation.unrealizedPnlDuplicateSuspected⟩,
    ⟨.strategyPnlAllocationDiff, flag (beyond (some asset.allocation.strategyAllocationDiff) 100)⟩,
    ⟨.symbolPnlAllocationDiff, flag (beyond (some asset.allocation.symbolAllocationDiff) 100)⟩,
    ⟨.sessionPnlAllocationDiff, flag (beyond (some asset.allocation.sessionAllocationDiff) 100)⟩,
    ⟨.botOwnedRealizedPnlDiff, flag (beyond asset.botOwnedRealizedPnlDiff 100)⟩,
    ⟨.exchangeFillMissingInDb, asset.figures.missingExchangeFillInDb⟩,
    ⟨.dbTradeMissingInExchange, asset.figures.dbOnlyTrade⟩,
    ⟨.duplicateClientOrderId, asset.figures.duplicateClientOrderIdInDb⟩,
    ⟨.feeReconciliationDiff, flag (beyond asset.figures.feeDiff 100)⟩,
    ⟨.missingLivePositionAccountingFill, asset.accounting.missingLivePositionAccountingFill⟩,
    ⟨.missingStrategyPnlFill, asset.accounting.missingStrategyPnlFill⟩,
    ⟨.accountingPendingFill, asset.accounting.pending⟩,
    ⟨.accountingPartialFill, asset.accounting.partiallyDone⟩,
    ⟨.accountingFailedFill, asset.accounting.failed⟩,
    ⟨.accountingLegacyMissingCanonicalLog, asset.accounting.legacyMissingCanonicalLog⟩,
    ⟨.missingCanonicalLiveOrderLog, asset.ledgerSummary.missingCanonicalLog⟩,
    ⟨.duplicateRealExchangeUuid, asset.ledgerSummary.duplicateExchangeUuid⟩,
    ⟨.syntheticUuidPresent, asset.ledgerSummary.syntheticUuid⟩]

/-- What `_restart_gate` returns; `mode` follows from `allowed`. -/
structure RestartGate where
  allowed : Bool
  stopReason : Option RestartReasonCode
  reasons : List RestartReason

/-- `_restart_gate`: a check that finds nothing gives no reason. -/
def restartGate (risk : RiskDiagnostics) (limits : SafetyLimits) (summary : DiagnosticsSummary)
    (asset : AssetReport) : RestartGate :=
  let checks := riskChecks risk limits summary ++ assetChecks asset
    ++ [⟨.sevenDayPnlNegative, flag (summary.totalPnlKrw < 0)⟩]
  let reasons := checks.filter (fun check => check.count != 0)
  { allowed := reasons.length == 0
    stopReason := reasons.head?.map RestartReason.code
    reasons := reasons }

def RestartGate.reports (gate : RestartGate) (code : RestartReasonCode) : Prop :=
  code ∈ gate.reasons.map RestartReason.code

/-! ## The codes that are listed -/

section Reports

variable {risk : RiskDiagnostics} {limits : SafetyLimits} {summary : DiagnosticsSummary}
  {asset : AssetReport} {code : RestartReasonCode}

theorem reports_iff :
    (restartGate risk limits summary asset).reports code
      ↔ ∃ check ∈ riskChecks risk limits summary ++ assetChecks asset
          ++ [⟨.sevenDayPnlNegative, flag (summary.totalPnlKrw < 0)⟩],
          check.code = code ∧ check.count ≠ 0 := by
  show code ∈ (List.filter _ _).map RestartReason.code ↔ _
  simp only [List.mem_map, List.mem_filter, bne_iff_ne]
  constructor
  · rintro ⟨check, ⟨hmem, hcount⟩, hcode⟩
    exact ⟨check, hmem, hcode, hcount⟩
  · rintro ⟨check, hmem, hcode, hcount⟩
    exact ⟨check, ⟨hmem, hcount⟩, hcode⟩

theorem reports_duplicateSessionOrder_iff :
    (restartGate risk limits summary asset).reports .duplicateSessionOrder
      ↔ risk.duplicateSessionOrders ≠ [] := by
  rw [reports_iff]
  simp [riskChecks, assetChecks]

theorem reports_expiredReservationExecuted_iff :
    (restartGate risk limits summary asset).reports .expiredReservationExecuted
      ↔ risk.expiredReservationExecutions ≠ [] := by
  rw [reports_iff]
  simp [riskChecks, assetChecks]

end Reports

/-! ## The order detectors -/

/-- The exchange has given the order a uuid, or its row has a status of an order that was sent. -/
def DiagnosticOrder.reachedExchange (order : DiagnosticOrder) : Bool :=
  textGiven order.orderUuid || order.status.isUnresolved || order.status.isFill

/-- The reservation was made before the order, or at the same time. -/
def MadeBefore (r : DiagnosticReservation) (order : DiagnosticOrder) : Prop :=
  ∃ made ∈ readUtc r.createdAt, ∃ created ∈ readUtc order.createdAt, made.moment ≤ created.moment

/-- The latest reservation of the order's candidate that was made before the order. -/
structure PlacedUnder (reservations : List DiagnosticReservation) (order : DiagnosticOrder)
    (r : DiagnosticReservation) : Prop where
  mem : r ∈ reservations
  candidate : r.candidateStrategyId = order.candidateStrategyId.getD 0
  before : MadeBefore r order
  latest : ∀ r' ∈ reservations, r'.candidateStrategyId = order.candidateStrategyId.getD 0 →
    MadeBefore r' order → isAfter (readUtc r'.createdAt) (readUtc r.createdAt) = false

/-- Two orders that reached the exchange share session, market, side and candle. -/
def DuplicateOrders (h : DiagnosticsHistory) : Prop :=
  ∃ a b, [a, b].Sublist h.orders ∧ SharesSlot a b
    ∧ a.reachedExchange = true ∧ b.reachedExchange = true

/-- An order that reached the exchange came after the expiry of the reservation it was placed
under. -/
def ExpiredPlacement (h : DiagnosticsHistory) : Prop :=
  ∃ order ∈ h.orders, order.reachedExchange = true
    ∧ ∃ r, PlacedUnder h.reservations order r ∧ CreatedAfterExpiry order r

/-- The two codes are reported only for what they are named after. -/
structure OrderDetectorsExact (h : DiagnosticsHistory) (limits : SafetyLimits)
    (asset : AssetReport) : Prop where
  duplicate : (restartGate (riskDiagnostics h) limits h.summary asset).reports
    .duplicateSessionOrder → DuplicateOrders h
  expired : (restartGate (riskDiagnostics h) limits h.summary asset).reports
    .expiredReservationExecuted → ExpiredPlacement h

/-- Rows share a slot only where orders that reached the exchange do, and an execution follows the
expiry of some reservation of its candidate only where one follows that of its own. -/
structure DetectorsProvoked (h : DiagnosticsHistory) : Prop where
  duplicate : ∀ a b, [a, b].Sublist h.orders → SharesSlot a b → DuplicateOrders h
  expired : ∀ order ∈ h.orders, order.status.isExecution = true → ∀ r ∈ h.reservations,
    r.candidateStrategyId = order.candidateStrategyId.getD 0 → CreatedAfterExpiry order r →
      ExpiredPlacement h

/-- **The order detectors are exact just when nothing else provokes them**: neither the rows of
refused ticks nor the reservations an order was not placed under. -/
theorem order_detectors_exact_iff (h : DiagnosticsHistory) (limits : SafetyLimits)
    (asset : AssetReport) : OrderDetectorsExact h limits asset ↔ DetectorsProvoked h := by
  have hduplicate : (restartGate (riskDiagnostics h) limits h.summary asset).reports
        .duplicateSessionOrder ↔ ∃ a b, [a, b].Sublist h.orders ∧ SharesSlot a b :=
    reports_duplicateSessionOrder_iff.trans duplicateSessionOrders_ne_nil_iff
  have hexpired : (restartGate (riskDiagnostics h) limits h.summary asset).reports
        .expiredReservationExecuted
      ↔ ∃ order ∈ h.orders, order.status.isExecution = true ∧ ∃ r ∈ h.reservations,
          r.candidateStrategyId = order.candidateStrategyId.getD 0 ∧ CreatedAfterExpiry order r :=
    reports_expiredReservationExecuted_iff.trans expiredReservationExecutions_ne_nil_iff
  constructor
  · intro hexact
    constructor
    · intro a b hsub hslot
      exact hexact.duplicate (hduplicate.mpr ⟨a, b, hsub, hslot⟩)
    · intro order horder hexecution r hr hcandidate hafter
      exact hexact.expired
        (hexpired.mpr ⟨order, horder, hexecution, r, hr, hcandidate, hafter⟩)
  · intro hprovoked
    constructor
    · intro hreports
      obtain ⟨a, b, hsub, hslot⟩ := hduplicate.mp hreports
      exact hprovoked.duplicate a b hsub hslot
    · intro hreports
      obtain ⟨order, horder, hexecution, r, hr, hcandidate, hafter⟩ := hexpired.mp hreports
      exact hprovoked.expired order horder hexecution r hr hcandidate hafter

def refusedTicks : DiagnosticsHistory :=
  { orders :=
      [{ id := 1, sessionId := some 4, candidateStrategyId := some 12, market := "KRW-BTC"
         status := .blocked, createdAt := some "2026-06-25T00:02:05Z"
         candleTimeUtc := some "2026-06-25T00:01:00Z" },
       { id := 2, sessionId := some 4, candidateStrategyId := some 12, market := "KRW-BTC"
         status := .blocked, createdAt := some "2026-06-25T00:02:35Z"
         candleTimeUtc := some "2026-06-25T00:01:00Z" }] }

/-- A candidate whose first reservation was consumed, and an order under its second. -/
def reusedCandidate : DiagnosticsHistory :=
  { orders :=
      [{ id := 1, sessionId := some 4, candidateStrategyId := some 12, market := "KRW-BTC"
         status := .filled, orderUuid := some "C0101000003129835396"
         createdAt := some "2026-06-25T06:01:00Z", candleTimeUtc := some "2026-06-25T06:00:00Z" }]
    reservations :=
      [{ id := 1, candidateStrategyId := 12, status := .consumed
         createdAt := some "2026-06-25T00:00:00Z", expiresAt := some "2026-06-25T00:10:00Z" },
       { id := 2, candidateStrategyId := 12, status := .consumed
         createdAt := some "2026-06-25T06:00:30Z", expiresAt := some "2026-06-25T06:10:30Z" }] }

/-- A reconciliation in which nothing is found. -/
def cleanAssetReport : AssetReport :=
  { gateFailed := false
    assetReconciliationRequested := true
    depositWithdrawalStatus := .available
    depositWithdrawalMismatchIsVerified := true
    totalPnlSanity :=
      { equityBasedTotalPnl := some 0, ledgerTotalPnl := 0, diff := some 0, diffRate := some 0
        passed := true }
    pnlTrustLevel := .high
    openingInventory := { openingSnapshotAvailable := true }
    equityBridgeDiffRate := some 0
    allocation := allocationCheckOf [] (fun _ => 0)
    botOwnedRealizedPnlDiff := some 0
    figures := {}
    accounting := {}
    ledgerSummary := {} }

theorem not_duplicateOrders_refusedTicks : ¬ DuplicateOrders refusedTicks := by
  rintro ⟨a, b, hsub, -, hreached, -⟩
  have hnone : ∀ order ∈ refusedTicks.orders, order.reachedExchange = false := by decide
  rw [hnone a (hsub.subset (by simp))] at hreached
  cases hreached

theorem not_expiredPlacement_reusedCandidate : ¬ ExpiredPlacement reusedCandidate := by
  rintro ⟨order, horder, -, r, hplaced, hafter⟩
  have hlast : ∀ order ∈ reusedCandidate.orders, ∀ r ∈ reusedCandidate.reservations,
      CreatedAfterExpiry order r → r.id = 1 := by decide +kernel
  have hfirst := hlast order horder r hplaced.mem hafter
  -- the second reservation was made later, and still before the order
  have hlater : ∃ r' ∈ reusedCandidate.reservations, r'.candidateStrategyId
        = order.candidateStrategyId.getD 0 ∧ MadeBefore r' order
        ∧ isAfter (readUtc r'.createdAt) (readUtc r.createdAt) = true := by
    have hmem := hplaced.mem
    simp only [reusedCandidate, List.mem_cons, List.not_mem_nil, or_false] at horder hmem
    subst horder
    rcases hmem with rfl | rfl
    · refine ⟨_, List.mem_cons_of_mem _ List.mem_cons_self, rfl, ?_, by decide +kernel⟩
      exact ⟨⟨2026, 6, 25, 6, 0, 30⟩, by decide +kernel, ⟨2026, 6, 25, 6, 1, 0⟩, by decide +kernel,
        by decide⟩
    · cases hfirst
  obtain ⟨r', hmem, hcandidate, hbefore, hisAfter⟩ := hlater
  rw [hplaced.latest r' hmem hcandidate hbefore] at hisAfter
  cases hisAfter

theorem benign_histories_reported :
    ¬ OrderDetectorsExact refusedTicks {} cleanAssetReport
      ∧ (restartGate (riskDiagnostics refusedTicks) {} {} cleanAssetReport).reasons
          = [⟨.duplicateSessionOrder, 1⟩]
      ∧ ¬ OrderDetectorsExact reusedCandidate {} cleanAssetReport
      ∧ (restartGate (riskDiagnostics reusedCandidate) {} {} cleanAssetReport).reasons
          = [⟨.expiredReservationExecuted, 1⟩] := by
  have hticks : (restartGate (riskDiagnostics refusedTicks) {} {} cleanAssetReport).reasons
      = [⟨.duplicateSessionOrder, 1⟩] := by decide +kernel
  have hreused : (restartGate (riskDiagnostics reusedCandidate) {} {} cleanAssetReport).reasons
      = [⟨.expiredReservationExecuted, 1⟩] := by decide +kernel
  refine ⟨fun h => not_duplicateOrders_refusedTicks (h.duplicate ?_), hticks,
    fun h => not_expiredPlacement_reusedCandidate (h.expired ?_), hreused⟩
  · show RestartReasonCode.duplicateSessionOrder ∈ List.map _ _
    rw [show refusedTicks.summary = {} from rfl, hticks]
    exact List.mem_cons_self
  · show RestartReasonCode.expiredReservationExecuted ∈ List.map _ _
    rw [show reusedCandidate.summary = {} from rfl, hreused]
    exact List.mem_cons_self

end AutoCoinBot
