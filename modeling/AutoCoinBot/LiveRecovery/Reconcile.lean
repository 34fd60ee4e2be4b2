/-
  LiveRecovery.Reconcile — a reconciled exchange status applied to an
  order log and to the positions behind it, and the balances of the account.
-/
import AutoCoinBot.LiveBroker.OrderRisk
import AutoCoinBot.LiveRecovery.ExitSync

namespace AutoCoinBot

open Library

/-! ## Entry orders -/

def adoptPositionInRelevantSession (db : Database) (log : LiveOrderLog) (positionId : ℕ)
    (riskResult : String) : Database :=
  let updates : LiveStrategySessionUpdates :=
    { currentPositionId := some (some positionId)
      currentOpenOrderUuid := some none
      lastOrderStatus := some "FILLED"
      lastRiskResult := some riskResult }
  let db :=
    match truthyId log.sessionId with
    | none => db
    | some sessionId => updateLiveStrategySession db sessionId updates
  match loadLatestLiveStrategySession db with
  | none => db
  | some latest =>
    if latest.exchange = orText log.exchange "bithumb"
        ∧ latest.market = orText log.market "KRW-BTC"
        ∧ latest.candidateStrategyId = log.candidateStrategyId.getD 0 then
      updateLiveStrategySession db latest.id updates
    else db

def entryPriceFromLog (log : LiveOrderLog) : ℚ :=
  let price := toFloat log.price
  let amount := orNum log.filledAmountKrw (toFloat log.amountKrw)
  let volume := orNum log.executedVolume (toFloat log.volume)
  if price > 0 then price
  else if amount > 0 ∧ volume > 0 then amount / volume
  else 0

def filledAmountFromLog (log : LiveOrderLog) (entryPrice entryVolume : ℚ) : ℚ :=
  orNum log.filledAmountKrw (orNum (toFloat log.amountKrw) (entryPrice * entryVolume))

/-- The `result["fill_type"]` text the session is told about. -/
def FillType.positionSynced : FillType → String
  | .entry => "ENTRY_POSITION_SYNCED"
  | .scaleIn => "SCALE_IN_POSITION_SYNCED"

/-- The call of the fill sync `ensure_filled_entry_order_position` makes, if its
guards let it. A log without session or candidate makes the source raise before it
writes. -/
def ensuredSyncCall (log : LiveOrderLog) (source : String) : Option SyncCall :=
  let isScaleIn := log.orderPreviewPayload.scaleIn.scaleIn
  let orderUuid := orText (toText log.orderUuid) log.exchangeResponsePayload.orderUuid
  if log.status ≠ .filled then none
  else if log.side ≠ .buy ∨ log.orderPurpose ≠ .entry then none
  else if (truthyId log.positionId).isSome ∧ isScaleIn = false then none
  else if orderUuid = "" then none
  else
    match log.sessionId, log.candidateStrategyId with
    | some sessionId, some candidateStrategyId =>
      let session : SyncSession :=
        { id := sessionId
          exchange := orText log.exchange "bithumb"
          market := orText log.market "KRW-BTC"
          candidateStrategyId := candidateStrategyId
          currentOpenOrderUuid := some orderUuid }
      some ⟨some log, log.exchangeResponsePayload, source, session⟩
    | _, _ => none

/-- The row `ensure_filled_entry_order_position` creates where the sync skipped. -/
def recoveredPosition (env : SyncEnv) (log : LiveOrderLog) (session : SyncSession)
    (entryPrice entryVolume : ℚ) (id : ℕ) : LivePosition :=
  { id := id
    sessionId := session.id
    exchange := session.exchange
    market := session.market
    candidateStrategyId := session.candidateStrategyId
    status := .opened
    entryOrderUuid := session.currentOpenOrderUuid
    entryPrice := entryPrice
    entryVolume := entryVolume
    entryAmountKrw := filledAmountFromLog log entryPrice entryVolume
    currentPrice := entryPrice
    stopLossPrice := entryPrice * (1 - env.autoStopLossPercent / 100)
    takeProfitPrice := entryPrice * (1 + env.autoTakeProfitPercent / 100)
    openedAt := some log.updatedAt
    createdAt := env.now
    updatedAt := env.now }

/-- The rest of `ensure_filled_entry_order_position` where the sync named no position. -/
def recoverPosition (env : SyncEnv) (db : Database) (log : LiveOrderLog)
    (session : SyncSession) : Database :=
  let entryPrice := entryPriceFromLog log
  let entryVolume := orNum log.executedVolume (toFloat log.volume)
  if entryPrice ≤ 0 ∨ entryVolume ≤ 0 then db
  else
    let positionId := db.livePositions.nextId
    let created := createLivePosition db
      (recoveredPosition env log session entryPrice entryVolume) (fun _ => rfl)
    let attached := updateLiveOrderLog created log.requestId
      { positionId := some (some positionId) } env.now
    adoptPositionInRelevantSession attached log positionId "POSITION_OPEN_SYNCED"

def ensureFilledEntryOrderPosition (env : SyncEnv) (db : Database) (log : LiveOrderLog)
    (source : String) : Database :=
  match ensuredSyncCall log source with
  | none => db
  | some call =>
    let (synced, result) := syncFilledEntryOrderToPosition env db call
    match truthyId result.positionId with
    | some positionId =>
      adoptPositionInRelevantSession synced log positionId
        (result.fillType.getD .entry).positionSynced
    | none => recoverPosition env synced log call.session

/-! ## A reconciled status -/

def riskResultForStatus (status : OrderStatus) (fallback : String) : String :=
  match status with
  | .partiallyFilled => "PARTIAL_FILL_REQUIRES_RECOVERY"
  | .filled => "EXCHANGE_FILLED_SYNCED"
  | .canceled => "EXCHANGE_CANCELED_SYNCED"
  | .waiting => "ALLOWED"
  | _ => fallback

def isExitOrder (log : LiveOrderLog) : Bool := log.orderPurpose == .exit || log.side.isSell

/-- The updates `apply_reconciled_order_status` makes to the order log. -/
def reconciledUpdates (log : LiveOrderLog) (status : ReconciledOrderStatus) :
    LiveOrderLogUpdates :=
  { status := some status.status
    riskResult := some (riskResultForStatus status.status (orText log.riskResult "ALLOWED"))
    exchangeResponsePayload := some status.raw
    orderUuid := some
      (if status.raw.orderUuid = "" then log.orderUuid else some status.raw.orderUuid)
    executedVolume := some status.executedVolume
    remainingVolume := some status.remainingVolume
    filledAmountKrw := some status.filledAmountKrw
    paidFee := some status.paidFee
    errorMessage := some
      (if [OrderStatus.waiting, .filled, .canceled, .partiallyFilled].contains status.status
        then none else log.errorMessage) }

/-- The `updated` dict of `apply_reconciled_order_status`. -/
def reconciledLog (log : LiveOrderLog) (status : ReconciledOrderStatus) : ExitOrderLog :=
  { log with
    status := status.status
    previousExecutedVolume := some log.executedVolume
    previousFilledAmountKrw := some log.filledAmountKrw
    previousPaidFee := some log.paidFee
    orderUuid :=
      if status.raw.orderUuid = "" then log.orderUuid else some status.raw.orderUuid
    executedVolume := status.executedVolume
    remainingVolume := status.remainingVolume
    filledAmountKrw := status.filledAmountKrw
    paidFee := status.paidFee
    exchangeResponsePayload := status.raw }

def applyReconciledOrderStatus (env : SyncEnv) (db : Database) (log : LiveOrderLog)
    (status : ReconciledOrderStatus) (source : String) : Database :=
  let db := updateLiveOrderLog db log.requestId (reconciledUpdates log status) env.now
  let updated := reconciledLog log status
  if isExitOrder updated.toLiveOrderLog then syncExitOrderPosition db updated status env.now
  else if status.status = .filled then
    ensureFilledEntryOrderPosition env db updated.toLiveOrderLog (source ++ "_POSITION_SYNC")
  else db

section Exit

variable (env : SyncEnv) (db : Database) (log : LiveOrderLog) (status : ReconciledOrderStatus)
  (source : String)

theorem applyReconciledOrderStatus_exit (hexit : log.orderPurpose = .exit) :
    applyReconciledOrderStatus env db log status source
      = syncExitOrderPosition
          (updateLiveOrderLog db log.requestId (reconciledUpdates log status) env.now)
          (reconciledLog log status) status env.now := by
  have hpurpose : isExitOrder (reconciledLog log status).toLiveOrderLog = true := by
    simp [isExitOrder, reconciledLog, hexit]
  unfold applyReconciledOrderStatus
  simp only [hpurpose, if_true]

theorem exitFillDelta_reconciledLog :
    exitFillDelta (reconciledLog log status) status
      = ⟨max (status.executedVolume - log.executedVolume) 0,
          max (status.filledAmountKrw - log.filledAmountKrw) 0,
          max (status.paidFee - log.paidFee) 0⟩ := rfl

end Exit

/-! ## Filled entries without a position -/

/-- `ORDER BY updated_at ASC, id ASC`. -/
def LiveOrderLog.updatedBefore (a b : LiveOrderLog) : Prop :=
  a.updatedAt < b.updatedAt ∨ (a.updatedAt = b.updatedAt ∧ a.id ≤ b.id)

instance : DecidableRel LiveOrderLog.updatedBefore := fun a b =>
  inferInstanceAs (Decidable (a.updatedAt < b.updatedAt ∨ (a.updatedAt = b.updatedAt ∧ a.id ≤ b.id)))

def loadFilledEntryOrderLogsWithoutPosition (db : Database) (exchange market : String) :
    List LiveOrderLog :=
  (db.liveOrderLogs.select (fun r => r.exchange == exchange && r.market == market
    && r.side == .buy && r.orderPurpose == .entry && r.status == .filled
    && r.positionId.isNone && r.sessionId.isSome && r.candidateStrategyId.isSome
    && r.orderUuid.isSome && decide (0 < r.executedVolume)
    && !liveOrderEventRequestIdFilter r.requestId)).insertionSort LiveOrderLog.updatedBefore

def ensureFilledEntryOrderPositions (env : SyncEnv) (db : Database) (exchange market : String) :
    Database :=
  (loadFilledEntryOrderLogsWithoutPosition db exchange market).foldl
    (fun db log => ensureFilledEntryOrderPosition env db log "FILLED_ENTRY_POSITION_RECOVERY") db

/-! ## `reconcile_balances` -/

/-- `_market_symbol`. -/
def recoverySymbol (market : String) : String := (symbolOf market).toUpper

def balanceMismatchRelativeTolerance : ℚ := 1 / 100

def internalVolume (db : Database) (exchange market : String) : ℚ :=
  ((loadOpenLivePositions db exchange market).map LivePosition.entryVolume).sum

/-- `mismatch`. -/
def balanceMismatch (db : Database) (exchange market : String) (balances : Balances) : Bool :=
  let internal := internalVolume db exchange market
  let tolerance :=
    max balanceMismatchVolumeTolerance (|internal| * balanceMismatchRelativeTolerance)
  decide (tolerance < |balanceAmount balances (recoverySymbol market) - internal|)

/-- Why `reconcile_balances` is blocking. -/
inductive BalanceBlock where
  | failed
  | mismatch

/-- `reconcile_balances`; `balances` is what `get_balances` returns, if it does not raise. -/
def reconcileBalances (env : SyncEnv) (db : Database) (exchange market : String)
    (balances : Option Balances) : Database × Option BalanceBlock :=
  match balances with
  | none => (db, some .failed)
  | some balances =>
    let db := ensureFilledEntryOrderPositions env db exchange market
    (db, if balanceMismatch db exchange market balances then some .mismatch else none)

/-! ## `auto_order_recovery_block_reason` -/

def autoOrderRecoveryBlockReason (env : SyncEnv) (db : Database) (exchange market : String)
    (balances : Option Balances) : Database × Option String :=
  if hasUnresolvedLiveOrder db exchange market then (db, some "BLOCKED_UNRESOLVED_LIVE_ORDER")
  else
    let (db, block) := reconcileBalances env db exchange market balances
    (db, block.map (fun
      | .mismatch => "BLOCKED_BALANCE_MISMATCH"
      | .failed => "BLOCKED_BALANCE_RECONCILIATION_FAILED"))

/-- **Nothing is in the way of an automatic order** exactly if no order is unresolved and balances
reconcile. -/
theorem autoOrderRecoveryBlockReason_eq_none_iff {env : SyncEnv} {db : Database}
    {exchange market : String} {balances : Option Balances} :
    (autoOrderRecoveryBlockReason env db exchange market balances).2 = none
      ↔ hasUnresolvedLiveOrder db exchange market = false
        ∧ (reconcileBalances env db exchange market balances).2 = none := by
  unfold autoOrderRecoveryBlockReason
  cases hasUnresolvedLiveOrder db exchange market with
  | true => simp
  | false => simp

end AutoCoinBot
