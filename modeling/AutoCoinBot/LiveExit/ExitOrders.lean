/-
  LiveExit.ExitOrders — reconciling, canceling and timing out exit
  orders.

  What the broker answers is a parameter: `none` stands for a call that raised.
-/
import AutoCoinBot.LiveRecovery.Reconcile

namespace AutoCoinBot

open Library

/-! ## Reconciling -/

def candidateStatusForOrder : OrderStatus → ExitCandidateStatus
  | .filled => .completed
  | .canceled => .canceled
  | .partiallyFilled => .submitted
  | status => .order status

/-- `status.status` as the text it is. -/
def OrderStatus.text : OrderStatus → String
  | .previewed => "PREVIEWED"
  | .blocked => "BLOCKED"
  | .submitted => "SUBMITTED"
  | .waiting => "WAITING"
  | .partiallyFilled => "PARTIALLY_FILLED"
  | .filled => "FILLED"
  | .canceled => "CANCELED"
  | .failed => "FAILED"
  | .staleCanceled => "STALE_CANCELED"
  | .error => "ERROR"

/-- The exit order a request id names, if it has reached the exchange. -/
def submittedExitOrder (db : Database) (requestId : String) : Option LiveOrderLog :=
  (getLiveOrderLog db requestId).filter (fun log =>
    log.orderPurpose == .exit && toText log.orderUuid != "")

/-- The profit `reconcile_exit_order` notes: entry price times all executed volume. -/
def notedExitPnl (db : Database) (log : LiveOrderLog) (status : ReconciledOrderStatus) : ℚ :=
  let entryBasis :=
    match (truthyId log.positionId).bind (loadLivePosition db) with
    | some position => position.entryPrice * status.executedVolume
    | none => 0
  status.filledAmountKrw - entryBasis - status.paidFee

/-- The updates `reconcile_exit_order` makes to the order log. -/
def exitReconcileUpdates (log : LiveOrderLog) (status : ReconciledOrderStatus) (actualPnl : ℚ) :
    LiveOrderLogUpdates :=
  { status := some status.status
    exchangeResponsePayload := some status.raw
    executedVolume := some status.executedVolume
    remainingVolume := some status.remainingVolume
    filledAmountKrw := some status.filledAmountKrw
    paidFee := some status.paidFee
    actualPnl := some (if status.status = .filled then some actualPnl else log.actualPnl) }

/-- The exit candidate of a reconciled order takes the order's status. -/
def markExitCandidate (db : Database) (log : LiveOrderLog) (status : ReconciledOrderStatus) :
    Database :=
  match truthyId log.exitCandidateId with
  | some candidateId =>
    updateExitCandidate db candidateId (candidateStatusForOrder status.status)
      status.status.text
  | none => db

def reconcileExitOrder (db : Database) (requestId : String) (getOrder : Option RawOrder)
    (now : UtcTime) : Database :=
  match submittedExitOrder db requestId, getOrder with
  | some log, some raw =>
    let status := normalizeExchangeOrder raw
    let actualPnl := notedExitPnl db log status
    let db := updateLiveOrderLog db requestId (exitReconcileUpdates log status actualPnl) now
    -- `log` is the row as it was read, and nobody adds the previous figures to it
    syncExitOrderPosition (markExitCandidate db log status)
      { log with actualPnl := some actualPnl } status now
  | _, _ => db

/-! ## Canceling -/

/-- The exit candidate of a canceled order waits for a retry while it has one. -/
def retryExitCandidate (db : Database) (log : LiveOrderLog) (maxExitRetryCount : ℕ) : Database :=
  match truthyId log.exitCandidateId with
  | some candidateId =>
    if countExitRetries db candidateId < maxExitRetryCount then
      updateExitCandidate db candidateId .pending "RETRY_PENDING"
    else updateExitCandidate db candidateId .canceled "CANCELED"
  | none => db

/-- What a canceled order's position becomes. -/
def canceledExitUpdates (log : LiveOrderLog) : LivePositionUpdates :=
  { status := some (if (truthyId log.exitCandidateId).isSome then .exitCandidate else .opened)
    exitOrderUuid := some none }

def releaseExitPosition (db : Database) (log : LiveOrderLog) (now : UtcTime) : Database :=
  match truthyId log.positionId with
  | some positionId => updateLivePosition db positionId (canceledExitUpdates log) now
  | none => db

def releaseExitSession (db : Database) (log : LiveOrderLog) : Database :=
  match truthyId log.sessionId with
  | some sessionId =>
    updateLiveStrategySession db sessionId
      { currentOpenOrderUuid := some none
        lastOrderStatus := some "CANCELED"
        lastRiskResult := some "AUTO_CANCELED_STALE_EXIT_ORDER" }
  | none => db

/-- `cancel_exit_order`. A raised cancel leaves the database as it was. -/
def cancelExitOrder (db : Database) (requestId : String) (maxExitRetryCount : ℕ)
    (cancelOrder : Option RawOrder) (now : UtcTime) : Database :=
  match submittedExitOrder db requestId, cancelOrder with
  | some log, some response =>
    -- the order's figures stay: a fill before the cancel is not looked at
    let db := updateLiveOrderLog db requestId
      { status := some .canceled, exchangeResponsePayload := some response } now
    releaseExitSession
      (releaseExitPosition (retryExitCandidate db log maxExitRetryCount) log now) log
  | _, _ => db

/-! ## Timing out -/

def exitOrderTimeoutBasis (log : LiveOrderLog) : UtcTime :=
  log.exchangeResponsePayload.createdAt.getD log.createdAt

/-- The exit order of a position that `manage_exit_order_timeout` looks after. -/
def pendingExitOrder (db : Database) (positionId : ℕ) : Option LiveOrderLog :=
  (loadLiveOrderLogs db 300).find? (fun log =>
    log.orderPurpose == .exit && log.positionId == some positionId
      && [OrderStatus.submitted, .waiting].contains log.status)

/-- The settings and broker answers of `manage_exit_order_timeout`. -/
structure ExitTimeoutEnv where
  now : UtcTime
  cancelExitOrderAfterSeconds : ℤ := 45
  maxExitRetryCount : ℕ := 2
  getOrder : Option RawOrder := none
  cancelOrder : Option RawOrder := none

def manageExitOrderTimeout (db : Database) (positionId : ℕ) (env : ExitTimeoutEnv) : Database :=
  match pendingExitOrder db positionId with
  | none => db
  | some log =>
    -- the broker raised
    if env.getOrder.isNone ∧ (submittedExitOrder db log.requestId).isSome then db
    else
      let db := reconcileExitOrder db log.requestId env.getOrder env.now
      match getLiveOrderLog db log.requestId with
      | none => db
      | some refreshed =>
        if refreshed.status = .waiting
            ∧ env.now - exitOrderTimeoutBasis refreshed ≥ env.cancelExitOrderAfterSeconds then
          cancelExitOrder db refreshed.requestId env.maxExitRetryCount env.cancelOrder env.now
        else db

/-! ## What the exit path sees -/

section Reconcile

variable (db : Database) (log : LiveOrderLog) (status : ReconciledOrderStatus)

@[simp] theorem markExitCandidate_livePositions :
    (markExitCandidate db log status).livePositions = db.livePositions := by
  unfold markExitCandidate; split <;> rfl

@[simp] theorem markExitCandidate_liveOrderLogs :
    (markExitCandidate db log status).liveOrderLogs = db.liveOrderLogs := by
  unfold markExitCandidate; split <;> rfl

@[simp] theorem retryExitCandidate_livePositions (maxExitRetryCount : ℕ) :
    (retryExitCandidate db log maxExitRetryCount).livePositions = db.livePositions := by
  unfold retryExitCandidate
  split
  · split_ifs <;> rfl
  · rfl

@[simp] theorem retryExitCandidate_liveOrderLogs (maxExitRetryCount : ℕ) :
    (retryExitCandidate db log maxExitRetryCount).liveOrderLogs = db.liveOrderLogs := by
  unfold retryExitCandidate
  split
  · split_ifs <;> rfl
  · rfl

@[simp] theorem releaseExitPosition_liveOrderLogs (now : UtcTime) :
    (releaseExitPosition db log now).liveOrderLogs = db.liveOrderLogs := by
  unfold releaseExitPosition; split <;> rfl

@[simp] theorem releaseExitSession_livePositions :
    (releaseExitSession db log).livePositions = db.livePositions := by
  unfold releaseExitSession; split <;> rfl

@[simp] theorem releaseExitSession_liveOrderLogs :
    (releaseExitSession db log).liveOrderLogs = db.liveOrderLogs := by
  unfold releaseExitSession; split <;> rfl

/-- **The exit path hands over no previous figures.** -/
theorem exitFillDelta_noPrevious (actualPnl : Option ℚ) :
    exitFillDelta { log with actualPnl := actualPnl } status
      = ⟨max status.executedVolume 0, max status.filledAmountKrw 0, max status.paidFee 0⟩ := by
  simp [exitFillDelta]

variable {db log} {requestId : String}

theorem submittedExitOrder_of_row (hlog : getLiveOrderLog db requestId = some log)
    (hpurpose : log.orderPurpose = .exit) (huuid : toText log.orderUuid ≠ "") :
    submittedExitOrder db requestId = some log := by
  unfold submittedExitOrder
  rw [hlog]
  simp [Option.filter, hpurpose, huuid]

theorem reconcileExitOrder_eq (raw : RawOrder) (now : UtcTime)
    (h : submittedExitOrder db requestId = some log) :
    reconcileExitOrder db requestId (some raw) now
      = syncExitOrderPosition
          (markExitCandidate
            (updateLiveOrderLog db requestId
              (exitReconcileUpdates log (normalizeExchangeOrder raw)
                (notedExitPnl db log (normalizeExchangeOrder raw))) now)
            log (normalizeExchangeOrder raw))
          { log with actualPnl := some (notedExitPnl db log (normalizeExchangeOrder raw)) }
          (normalizeExchangeOrder raw) now := by
  unfold reconcileExitOrder
  rw [h]

end Reconcile

end AutoCoinBot
