/-
  LiveStrategyPilot.SubmitOrders — the order submitters of app/live_strategy_pilot.py,
  from `broker.place_order` on.

  Each has written the order's row as `PREVIEWED`, places the order, and makes the rest of its
  calls inside the same `try`. How every call ends is a parameter.
-/
import AutoCoinBot.LiveExit.ExitOrders
import AutoCoinBot.LiveRecovery.OrderCalls

namespace AutoCoinBot

open Library

/-! ## Submissions -/

/-- An order whose row has been written and that has not been placed. -/
structure PreviewedOrder where
  db : Database
  log : LiveOrderLog
  stored : getLiveOrderLog db log.requestId = some log
  previewed : log.status = .previewed
  unsent : log.orderUuid = none

/-- `place_order`: a response, or an exception. -/
abbrev Placed := Except ApiError RawOrder

/-- `try: response = await broker.place_order(order) …`, as the calls after it and the handler's. -/
def submit (order : PreviewedOrder) (placed : Placed) (calls : RawOrder → List OrderCall)
    (handler : ApiError → List OrderCall) (now : UtcTime) : Database :=
  let onDatabase := List.map (OrderCall.onDatabase order.log.requestId now)
  match placed with
  | .ok response =>
    (tryCalls (onDatabase (calls response)) (fun exc => onDatabase (handler exc)) order.db).2
  | .error exc => (runCalls (onDatabase (handler exc)) order.db).2

def submittedUpdates (response : RawOrder) : LiveOrderLogUpdates :=
  { status := some .submitted
    riskResult := some "ALLOWED"
    orderUuid := some (some response.orderUuid)
    exchangeResponsePayload := some response }

/-- What the row is told when the exchange did not answer in time. -/
def unknownUpdates (errorMessage : String) : LiveOrderLogUpdates :=
  { status := some .submitted
    riskResult := some "ORDER_STATUS_UNKNOWN_TIMEOUT"
    errorMessage := some (some errorMessage) }

/-- What the row is told of any other exception. -/
def failedUpdates (riskResult : String) (exc : ApiError) : LiveOrderLogUpdates :=
  { status := some .failed
    riskResult := some riskResult
    errorMessage := some (some exc.message) }

/-! ## Writes elsewhere -/

/-- `update_live_strategy_session`; `orders_created_today` and `last_order_time_utc` are not in
the model. -/
def sessionEffect (sessionId : ℕ) (updates : LiveStrategySessionUpdates) : SideEffect :=
  .ofTable (fun db => updateLiveStrategySession db sessionId updates) (fun _ => rfl)

/-- `update_live_position`. -/
def positionEffect (positionId : ℕ) (updates : LivePositionUpdates) (now : UtcTime) : SideEffect :=
  .ofTable (fun db => updateLivePosition db positionId updates now) (fun _ => rfl)

/-- `update_exit_candidate`. -/
def candidateEffect (candidateId : ℕ) (status : ExitCandidateStatus) (riskResult : String) :
    SideEffect :=
  .ofTable (fun db => updateExitCandidate db candidateId status riskResult) (fun _ => rfl)

/-- `update_order_reservation_status(…, status="ORDER_SUBMITTED")`. -/
def reservationSubmittedEffect (candidateStrategyId : ℕ) (market : String) : SideEffect :=
  .ofTable (fun db => updateOrderReservationStatus db candidateStrategyId market .orderSubmitted
    [.pending, .reserved]) (fun _ => rfl)

/-- `previous_statuses=["ORDER_SUBMITTED", "PENDING", "RESERVED"]`. -/
def settledFrom : List ReservationStatus := [.orderSubmitted, .pending, .reserved]

/-- `update_order_reservation_status` once the order has ended. -/
def reservationSettledEffect (candidateStrategyId : ℕ) (market : String)
    (status : ReservationStatus) : SideEffect :=
  .ofTable (fun db => updateOrderReservationStatus db candidateStrategyId market status settledFrom)
    (fun _ => rfl)

def getLiveOrderLogByUuid (db : Database) (orderUuid : String) : Option LiveOrderLog :=
  ((db.liveOrderLogs.select (fun r =>
      r.orderUuid == some orderUuid && !liveOrderEventRequestIdFilter r.requestId)).insertionSort
    (fun a b => b.updatedAt < a.updatedAt ∨ (b.updatedAt = a.updatedAt ∧ b.id ≤ a.id))).head?

/-- The fill sync that `_sync_filled_entry_position` calls; it raises by itself if the sync
names no position. -/
def filledEntryCall (db : Database) (session : SyncSession) (orderStatus : RawOrder)
    (source : String) : SyncCall :=
  let entryOrderUuid := orText orderStatus.orderUuid (toText session.currentOpenOrderUuid)
  { orderLog := if entryOrderUuid = "" then none else getLiveOrderLogByUuid db entryOrderUuid
    rawOrder := orderStatus
    source := source
    session := session }

/-- `_sync_filled_entry_position` as a call. -/
def filledEntryEffect (env : SyncEnv) (session : SyncSession) (orderStatus : RawOrder)
    (source : String) : SideEffect where
  effect := fun db =>
    (syncFilledEntryOrderToPosition env db (filledEntryCall db session orderStatus source)).1
  partly := fun writes db =>
    syncCrashedAfter env db (filledEntryCall db session orderStatus source) writes
  effect_shows := fun hv => shows_applyWrites env.now _ hv
  partly_shows := fun _ hv => shows_applyWrites env.now _ hv

/-! ## `_submit_smart_intent_order` -/

/-- How the calls of `_submit_smart_intent_order` end, and whether there is an intent and an
accumulator. -/
structure SmartOutcomes where
  placeOrder : Placed
  updateLiveOrderLog : Ending ApiError := .returns
  recordExecutionQuality : Ending ApiError := .returns
  hasIntent : Bool := false
  updateOrderIntent : Ending ApiError := .returns
  hasAccumulator : Bool := false
  markAccumulator : Ending ApiError := .returns
  updateLiveStrategySession : Ending ApiError := .returns
  -- in the handler
  updateFailedLog : Ending ApiError := .returns
  updateFailedIntent : Ending ApiError := .returns
  updateFailedSession : Ending ApiError := .returns

/-- The calls after `place_order`. -/
def smartIntentCalls (o : SmartOutcomes) (sessionId : ℕ) (response : RawOrder) : List OrderCall :=
  [.updateLiveOrderLog o.updateLiveOrderLog (submittedUpdates response),
    .other o.recordExecutionQuality .elsewhere]
  ++ (if o.hasIntent then [.other o.updateOrderIntent .elsewhere] else [])
  ++ (if o.hasAccumulator then [.other o.markAccumulator .elsewhere] else [])
  ++ [.other o.updateLiveStrategySession (sessionEffect sessionId
        { status := some .running
          currentOpenOrderUuid := some (some response.orderUuid)
          lastOrderStatus := some "SUBMITTED"
          lastRiskResult := some "ALLOWED" })]

def smartHandler (o : SmartOutcomes) (sessionId : ℕ) (exc : ApiError) : List OrderCall :=
  [.updateLiveOrderLog o.updateFailedLog (failedUpdates "SMART_SUBMIT_FAILED" exc)]
  ++ (if o.hasIntent then [.other o.updateFailedIntent .elsewhere] else [])
  ++ [.other o.updateFailedSession (sessionEffect sessionId
        { lastRiskResult := some "SMART_SUBMIT_FAILED", lastOrderStatus := some "FAILED" })]

def submitSmartIntentOrder (order : PreviewedOrder) (o : SmartOutcomes) (sessionId : ℕ)
    (now : UtcTime) : Database :=
  submit order o.placeOrder (smartIntentCalls o sessionId) (smartHandler o sessionId) now

/-! ## `_submit_smart_intent_sell_order` -/

/-- The sell submitter also marks the position, and records no execution quality. -/
structure SmartSellOutcomes extends SmartOutcomes where
  updateLivePosition : Ending ApiError := .returns

/-- The calls after `place_order`. -/
def smartIntentSellCalls (o : SmartSellOutcomes) (sessionId positionId : ℕ) (now : UtcTime)
    (response : RawOrder) : List OrderCall :=
  [.updateLiveOrderLog o.updateLiveOrderLog (submittedUpdates response)]
  ++ (if o.hasIntent then [.other o.updateOrderIntent .elsewhere] else [])
  ++ (if o.hasAccumulator then [.other o.markAccumulator .elsewhere] else [])
  ++ [.other o.updateLivePosition (positionEffect positionId
        { status := some .closing, exitOrderUuid := some (some response.orderUuid) } now),
      .other o.updateLiveStrategySession (sessionEffect sessionId
        { lastOrderStatus := some "SUBMITTED", lastRiskResult := some "SMART_SELL_SUBMITTED" })]

def submitSmartIntentSellOrder (order : PreviewedOrder) (o : SmartSellOutcomes)
    (sessionId positionId : ℕ) (now : UtcTime) : Database :=
  submit order o.placeOrder (smartIntentSellCalls o sessionId positionId now)
    (smartHandler o.toSmartOutcomes sessionId) now

/-! ## `_submit_entry_order` -/

/-- How the calls of `_submit_entry_order` end. Asked for the order, the exchange answers for
it. -/
structure EntryOutcomes where
  placeOrder : Placed
  updateReservation : Ending ApiError := .returns
  updateLiveOrderLog : Ending ApiError := .returns
  recordExecutionQuality : Ending ApiError := .returns
  updateLiveStrategySession : Ending ApiError := .returns
  getLiveOrderLog : Ending ApiError := .returns
  recheck : RecheckOutcomes
  syncFilledEntry : Ending ApiError := .returns
  updateFilledReservation : Ending ApiError := .returns
  updateRecheckedSession : Ending ApiError := .returns
  -- in the handler
  updateUnknownLog : Ending ApiError := .returns
  updateFailedLog : Ending ApiError := .returns
  updateFailedReservation : Ending ApiError := .returns
  updateFailedSession : Ending ApiError := .returns
  logRecoveryEvent : Ending ApiError := .returns
  answers : ∀ response raw, placeOrder = .ok response → recheck.getOrder = .ok raw →
    raw.orderUuid = "" ∨ raw.orderUuid = response.orderUuid

section Entry

variable (order : PreviewedOrder) (o : EntryOutcomes) (session : SyncSession) (market : String)
  (env : SyncEnv)

/-- The calls after `place_order`, up to the status recheck. -/
def entryCallsBefore (response : RawOrder) : List OrderCall :=
  [.other o.updateReservation (reservationSubmittedEffect session.candidateStrategyId market),
    .updateLiveOrderLog o.updateLiveOrderLog (submittedUpdates response),
    .other o.recordExecutionQuality .elsewhere,
    .other o.updateLiveStrategySession (sessionEffect session.id
      { status := some .running
        currentOpenOrderUuid := some (some response.orderUuid)
        lastOrderStatus := some "SUBMITTED"
        lastRiskResult := some "ALLOWED" }),
    .other o.getLiveOrderLog .elsewhere]

/-- `if reconciled: …`, with the position that the sync names. -/
def entryCallsRechecked (reconciled : ReconciledOrderStatus) (positionId : Option ℕ) :
    List OrderCall :=
  (if reconciled.status = .filled then
    [.other o.syncFilledEntry
        (filledEntryEffect env session reconciled.raw "POST_SUBMIT_STATUS_RECHECK"),
      .other o.updateFilledReservation
        (reservationSettledEffect session.candidateStrategyId market .filled)]
  else [])
  ++ [.other o.updateRecheckedSession (sessionEffect session.id
        (if reconciled.status = .filled then
          { status := some .running
            autoEnabled := some true
            currentOpenOrderUuid := some none
            currentPositionId := some positionId
            lastOrderStatus := some reconciled.status.text
            lastRiskResult := some "POSITION_OPEN_SYNCED" }
        else if reconciled.status = .partiallyFilled then
          { status := some .paused
            autoEnabled := some false
            lastOrderStatus := some reconciled.status.text
            lastRiskResult := some "BLOCKED_PARTIAL_FILL_REQUIRES_RECOVERY" }
        else { lastOrderStatus := some reconciled.status.text }))]

/-- What the calls leave if they all return; what is read then decides which calls follow. -/
def afterCalls (calls : List OrderCall) (now : UtcTime) : Database :=
  (runCalls (calls.map (OrderCall.onDatabase order.log.requestId now)) order.db).2

def entryCallsRecheck (response : RawOrder) : List OrderCall :=
  let before := entryCallsBefore o session market response
  match getLiveOrderLog (afterCalls order before env.now) order.log.requestId with
  | none => []
  | some latest =>
    if response.orderUuid = "" then []
    else
      let (calls, reconciled) :=
        reconcileOrderLogCalls env o.recheck latest "POST_SUBMIT_STATUS_RECHECK"
      match reconciled with
      | none => calls
      | some reconciled =>
        let db := afterCalls order (before ++ calls) env.now
        let synced := (syncFilledEntryOrderToPosition env db
          (filledEntryCall db session reconciled.raw "POST_SUBMIT_STATUS_RECHECK")).2
        calls ++ entryCallsRechecked o session market env reconciled synced.positionId

/-- The calls after `place_order`. -/
def entryCalls (response : RawOrder) : List OrderCall :=
  entryCallsBefore o session market response ++ entryCallsRecheck order o session market env response

def entryHandler (exc : ApiError) : List OrderCall :=
  if isTimeoutException exc then
    [.updateLiveOrderLog o.updateUnknownLog
        (unknownUpdates "Exchange request timed out; order status must be reconciled before any retry."),
      .other o.updateFailedReservation
        (reservationSubmittedEffect session.candidateStrategyId market),
      .other o.updateFailedSession (sessionEffect session.id
        { status := some .paused
          autoEnabled := some false
          lastOrderStatus := some "ORDER_STATUS_UNKNOWN_TIMEOUT"
          lastRiskResult := some "ORDER_STATUS_UNKNOWN_TIMEOUT" }),
      .other o.logRecoveryEvent .elsewhere]
  else
    [.updateLiveOrderLog o.updateFailedLog (failedUpdates "BLOCKED_API_RESPONSE_ERROR" exc),
      .other o.updateFailedReservation
        (reservationSettledEffect session.candidateStrategyId market .failed),
      .other o.updateFailedSession (sessionEffect session.id
        { status := some .error
          lastOrderStatus := some "FAILED"
          lastRiskResult := some "BLOCKED_API_RESPONSE_ERROR" })]

def submitEntryOrder : Database :=
  submit order o.placeOrder (entryCalls order o session market env)
    (entryHandler o session market) env.now

end Entry

end AutoCoinBot
