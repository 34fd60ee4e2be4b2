/-
  LiveStrategyPilot.OpenOrders — what app/live_strategy_pilot.py does about the
  order it has open.

  Each operation is cut where it awaits the broker: the definitions take what the broker has
  answered, and what the operation read before.
-/
import AutoCoinBot.LiveStrategyPilot.SubmitOrders

namespace AutoCoinBot

open Library

/-! ## `_update_order_by_uuid` -/

def isStrategyOrderEventRequest (requestId : String) : Bool :=
  ["-submitted-", "-waiting-", "-partial", "-canceled-", "-filled-", "-failed-"].any
    (fun pat => containsText pat requestId)

/-- The order's row, if it is among the last 300. -/
def recentOrderLog (db : Database) (orderUuid : String) : Option LiveOrderLog :=
  (loadLiveOrderLogs db 300).find? (fun item =>
    item.orderUuid == some orderUuid && !isStrategyOrderEventRequest item.requestId)

/-- The keys `_update_order_by_uuid` passes. -/
def orderByUuidUpdates (orderUuid : String) (status : OrderStatus) (response : RawOrder) :
    LiveOrderLogUpdates :=
  let reconciled := normalizeExchangeOrder response
  { status := some status
    exchangeResponsePayload := some response
    orderUuid := some (some orderUuid)
    executedVolume := some reconciled.executedVolume
    remainingVolume := some reconciled.remainingVolume
    filledAmountKrw := some reconciled.filledAmountKrw
    paidFee := some reconciled.paidFee }

/-- `_update_order_by_uuid`: the figures are the response's, whatever it leaves out. -/
def updateOrderByUuid (db : Database) (orderUuid : String) (status : OrderStatus)
    (response : RawOrder) (now : UtcTime) : Database :=
  match recentOrderLog db orderUuid with
  | none => db
  | some orderLog =>
    updateLiveOrderLog db orderLog.requestId (orderByUuidUpdates orderUuid status response) now

/-! ## `_manage_open_order` -/

/-- The settings of the pilot, its clocks, and those of the exits. -/
structure PilotEnv extends SyncEnv where
  secondsSinceOrder : ℤ := 0
  cancelUnfilledAfterSeconds : ℤ := 60
  maxExitRetryCount : ℕ := 2

/-- Where `_manage_open_order` goes on to cancel the order. -/
inductive ManagedCancel where
  | remainder (status : RawOrder)
  | unfilled
  deriving DecidableEq

section Manage

variable (env : PilotEnv) (db : Database) (session : SyncSession)

/-- `str(session["current_open_order_uuid"])`. -/
def SyncSession.openOrderUuid (session : SyncSession) : String :=
  toText session.currentOpenOrderUuid

/-- The `except` around all of `_manage_open_order`. -/
def manageOpenOrderFailed : Database :=
  updateLiveStrategySession db session.id
    { status := some .paused
      autoEnabled := some false
      lastOrderStatus := some "RECONCILIATION_FAILED"
      lastRiskResult := some "BLOCKED_API_RESPONSE_ERROR" }

/-- A filled order: its row first, then its position. -/
def manageFilledOrder (status : RawOrder) : Database :=
  let db := updateOrderByUuid db session.openOrderUuid .filled status env.now
  let (db, result) := syncFilledEntryOrderToPosition env.toSyncEnv db
    (filledEntryCall db session status "OPEN_ORDER_MANAGEMENT")
  match truthyId result.positionId with
  | some positionId =>
    updateLiveStrategySession db session.id
      { status := some .running
        currentOpenOrderUuid := some none
        currentPositionId := some (some positionId)
        lastOrderStatus := some "FILLED"
        lastRiskResult := some "POSITION_OPEN" }
  -- `raise RuntimeError(…)`
  | none => manageOpenOrderFailed db session

/-- `_manage_open_order` from the answer to `get_order` on, up to its cancel. -/
def manageOpenOrder (getOrder : Except ApiError RawOrder) : Database × Option ManagedCancel :=
  match getOrder with
  | .error _ => (manageOpenOrderFailed db session, none)
  | .ok status =>
    let reconciled := normalizeExchangeOrder status
    if reconciled.status = .partiallyFilled then
      (updateOrderByUuid db session.openOrderUuid .partiallyFilled status env.now,
        some (.remainder status))
    else if reconciled.status = .filled ∨ ["done", "filled"].contains status.rawState
        ∨ (reconciled.executedVolume > 0 ∧ reconciled.remainingVolume ≤ 0) then
      (manageFilledOrder env db session status, none)
    else if env.secondsSinceOrder ≥ env.cancelUnfilledAfterSeconds then (db, some .unfilled)
    else
      (updateLiveStrategySession
          (updateOrderByUuid db session.openOrderUuid .waiting status env.now) session.id
          { status := some .running
            lastOrderStatus := some "WAITING"
            lastRiskResult := some "WAITING" }, none)

/-- The rest of `_manage_open_order` after the answer to `cancel_order`. -/
def manageCanceledOrder (cancel : ManagedCancel) (cancelOrder : Except ApiError RawOrder) :
    Database :=
  match cancel with
  | .remainder status =>
    -- the status is the one from before the cancel
    let db :=
      match cancelOrder with
      | .ok _ => updateOrderByUuid db session.openOrderUuid .partiallyFilled status env.now
      | .error _ => db
    updateLiveStrategySession db session.id
      { status := some .paused
        autoEnabled := some false
        lastOrderStatus := some "PARTIALLY_FILLED"
        lastRiskResult := some "BLOCKED_PARTIAL_FILL_REQUIRES_RECOVERY" }
  | .unfilled =>
    match cancelOrder with
    | .error _ =>
      updateLiveStrategySession db session.id
        { status := some .paused
          autoEnabled := some false
          lastOrderStatus := some "CANCEL_FAILED"
          lastRiskResult := some "ORDER_CANCEL_FAILED" }
    | .ok response =>
      updateLiveStrategySession
        (updateOrderByUuid db session.openOrderUuid .canceled response env.now) session.id
        { status := some .running
          autoEnabled := some true
          currentOpenOrderUuid := some none
          lastOrderStatus := some "CANCELED"
          lastRiskResult := some "AUTO_CANCELED_UNFILLED" }

/-! ## Emergencies, and cancels by hand -/

def loadOpenLivePosition (sessionId : ℕ) (exchange market : String) : Option LivePosition :=
  (selectActivePositions db (fun r =>
    r.exchange == exchange && r.market == market && r.sessionId == sessionId)).head?

/-- `_handle_emergency`, once the broker has answered. -/
def handleEmergency (cancelOrder : Except ApiError RawOrder) : Database :=
  let db :=
    match cancelOrder with
    | .ok response => updateOrderByUuid db session.openOrderUuid .canceled response env.now
    | .error _ => updateOrderByUuid db session.openOrderUuid .failed {} env.now
  let db :=
    match loadOpenLivePosition db session.id session.exchange session.market with
    | some position =>
      updateLivePosition db position.id { status := some .manualReviewRequired } env.now
    | none => db
  updateLiveStrategySession db session.id
    { status := some .emergencyStopped
      autoEnabled := some false
      currentOpenOrderUuid := some none
      lastRiskResult := some "BLOCKED_EMERGENCY_STOP"
      lastOrderStatus := some "BLOCKED"
      stoppedAt := some env.now }

/-- `cancel_live_strategy_open_order`, once the broker has answered. -/
def cancelLiveStrategyOpenOrder (cancelOrder : Except ApiError RawOrder) : Database :=
  match cancelOrder with
  | .ok response =>
    updateLiveStrategySession
      (updateOrderByUuid db session.openOrderUuid .canceled response env.now) session.id
      { status := some .stopped
        autoEnabled := some false
        currentOpenOrderUuid := some none
        lastOrderStatus := some "CANCELED"
        stoppedAt := some env.now }
  | .error _ =>
    updateLiveStrategySession db session.id
      { status := some .error, lastOrderStatus := some "FAILED" }

end Manage

/-! ## Exit orders -/

/-- `cancel_exit_order`, once the broker has answered; `log` was read before. -/
def cancelExitOrderAnswered (env : PilotEnv) (db : Database) (log : LiveOrderLog)
    (cancelOrder : Except ApiError RawOrder) : Database :=
  match cancelOrder with
  | .error _ => db
  | .ok response =>
    let db := updateLiveOrderLog db log.requestId
      { status := some .canceled, exchangeResponsePayload := some response } env.now
    releaseExitSession (releaseExitPosition (retryExitCandidate db log env.maxExitRetryCount) log
      env.now) log

end AutoCoinBot
