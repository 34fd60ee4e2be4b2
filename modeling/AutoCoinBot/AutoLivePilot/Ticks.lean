/-
  AutoLivePilot.Ticks — the ticks of app/auto_live_pilot.py.

  Every call may raise, and is answered for by the handler around it.

  `_has_recent_status_event` calls `load_live_order_logs`, a name that its module does not have:
  where the row of an order is found, `_insert_order_status_event` raises.
-/
import AutoCoinBot.LiveStrategyPilot.OpenOrders
import AutoCoinBot.LiveStrategyPilot.UnforgottenOrders
import AutoCoinBot.LiveStrategyPilot.EntryOrder

namespace AutoCoinBot

open Library

/-! ## Sessions and orders -/

/-- `AutoLivePilotConfig`; the defaults are those of `from_env`. -/
structure AutoLivePilotConfig where
  liveAutoTradingEnabled : Bool := false
  autoPilotEnabled : Bool := false
  allowedExchange : String := "bithumb"
  allowedMarket : String := "KRW-BTC"
  minOrderKrw : ℚ := 10000
  maxOrderKrw : ℚ := 30000
  maxOrdersPerDay : ℤ := 1
  orderType : OrderType := .limit
  buyPriceOffsetPercent : ℚ := 3
  cancelAfterSeconds : ℤ := 60
  cooldownSeconds : ℤ := 1800

/-- A row of `auto_live_pilot_sessions`. -/
structure AutoLiveSession where
  id : ℕ
  exchange : String := "bithumb"
  market : String := "KRW-BTC"
  status : SessionStatus := .ready
  orderAmountKrw : ℚ := 10000
  lastOrderUuid : Option String := none
  lastOrderTimeUtc : Option UtcTime := none

instance : Row AutoLiveSession := ⟨AutoLiveSession.id⟩

/-- The keys of an update of a session. -/
structure AutoLiveSessionUpdates where
  status : Option SessionStatus := none
  lastOrderUuid : Option String := none
  lastOrderTimeUtc : Option UtcTime := none

def AutoLiveSession.merge (session : AutoLiveSession) (u : AutoLiveSessionUpdates) :
    AutoLiveSession :=
  { session with
    status := u.status.getD session.status
    lastOrderUuid := u.lastOrderUuid.or session.lastOrderUuid
    lastOrderTimeUtc := u.lastOrderTimeUtc.or session.lastOrderTimeUtc }

/-- An order of the pilot that the exchange has taken, or may have. -/
structure HeldOrder where
  requestId : String
  finished : Bool := false
  deriving DecidableEq

/-- The database, the tick that is going on, and the orders at the exchange. -/
structure AutoPilotWorld where
  db : Database
  sessions : Table AutoLiveSession := Table.empty
  /-- The requests whose rows have a `strategy_name`. -/
  strategyNames : List String := []
  /-- The sessions that the tick has read and not come to yet. -/
  pending : List AutoLiveSession := []
  held : List HeldOrder := []
  /-- A buy order was sent while another one was not finished. -/
  doubled : Bool := false

namespace AutoPilotWorld

variable (w : AutoPilotWorld)

/-- `update_auto_live_pilot_session`. -/
def updateSession (sessionId : ℕ) (u : AutoLiveSessionUpdates) : AutoPilotWorld :=
  { w with sessions := w.sessions.modify sessionId (fun s => s.merge u) (fun _ => rfl) }

/-- `load_running_auto_live_pilot_sessions`. -/
def runningSessions : List AutoLiveSession :=
  w.sessions.select (fun s => [SessionStatus.ready, .running].contains s.status)

/-- `load_latest_auto_live_pilot_session`. -/
def latestSession : Option AutoLiveSession := w.sessions.rows.getLast?

/-- The status events that two of the guards leave out. -/
def isAutoOrderEvent (requestId : String) : Bool :=
  ["-submitted", "-waiting-", "-canceled-", "-filled-", "-failed-"].any
    (fun pat => likeContains pat requestId)

def hasOpenAutoLiveOrder (exchange market : String) : Bool :=
  w.db.liveOrderLogs.rows.any (fun r => r.exchange == exchange && r.market == market
    && w.strategyNames.contains r.requestId && r.status.isUnresolved
    && !liveOrderEventRequestIdFilter r.requestId)

def countAutoLiveOrdersToday (exchange market : String) (now : UtcTime) : ℕ :=
  let (startUtc, endUtc) := kstDayBoundsUtc (kstDate now)
  (w.db.liveOrderLogs.select (fun r => r.exchange == exchange && r.market == market
    && w.strategyNames.contains r.requestId
    && [OrderStatus.submitted, .waiting, .canceled, .filled].contains r.status
    && !isAutoOrderEvent r.requestId
    && decide (startUtc ≤ r.createdAt) && decide (r.createdAt < endUtc))).length

def hasLiveOrderForCandle (exchange market : String) (candleTimeUtc : UtcTime) : Bool :=
  w.db.liveOrderLogs.rows.any (fun r => r.exchange == exchange && r.market == market
    && r.candleTimeUtc == some candleTimeUtc && w.strategyNames.contains r.requestId
    && [OrderStatus.submitted, .waiting, .partiallyFilled, .canceled, .filled,
      .failed].contains r.status
    && !isAutoOrderEvent r.requestId)

/-- `create_auto_live_pilot_session`, which stops the sessions there are. -/
def createSession (exchange market : String) (orderAmountKrw : ℚ) : AutoPilotWorld :=
  { w with
    sessions := (w.sessions.modifyWhere
        (fun s => [SessionStatus.ready, .running].contains s.status)
        (fun s => { s with status := .stopped }) (fun _ => rfl)).insert
      (fun id => { id := id, exchange := exchange, market := market
                   orderAmountKrw := orderAmountKrw })
      (fun _ => rfl) }

/-- An order of the pilot is not finished at the exchange. -/
def orderOpen : Bool := w.held.any (fun o => !o.finished)

def finish (requestIds : List String) : AutoPilotWorld :=
  { w with held := w.held.map (fun o =>
      { o with finished := o.finished || requestIds.contains o.requestId }) }

end AutoPilotWorld

/-! ## A session's turn, and how its calls end -/

/-- How the calls of a turn end. -/
structure AutoPilotOutcomes where
  precheck : Ending ApiError := .returns
  insertBlockedLog : Ending ApiError := .returns
  updateBlockedSession : Ending ApiError := .returns
  loadCandles : Ending ApiError := .returns
  updateSignal : Ending ApiError := .returns
  getOrderChance : Ending ApiError := .returns
  checkOrderRisk : Ending ApiError := .returns
  insertPreview : Ending ApiError := .returns
  updateSubmitted : Ending ApiError := .returns
  getLiveOrderLog : Ending ApiError := .returns
  updateSubmittedSession : Ending ApiError := .returns
  updateUnknown : Ending ApiError := .returns
  updateFailed : Ending ApiError := .returns
  updateHandledSession : Ending ApiError := .returns
  logRecoveryEvent : Ending ApiError := .returns
  updateByUuid : Ending ApiError := .returns
  updateManagedSession : Ending ApiError := .returns
  updateErrorSession : Ending ApiError := .returns
  insertErrorLog : Ending ApiError := .returns

/-- A turn: what is configured, what is read, what is answered, and how the calls end. -/
structure AutoPilotTurn where
  config : AutoLivePilotConfig
  liveConfig : LiveTradingConfig
  apiKeyLoaded : Bool := true
  emergencyStopped : Bool := false
  env : SyncEnv
  recoveryBalances : Option Balances
  candidateFound : Bool := true
  candle : Option PilotCandle
  signal : Signal
  /-- `get_order_chance` gives something. -/
  chance : Bool := true
  riskAllowed : Bool := true
  riskResult : String := "ALLOWED"
  feeEstimate : ℚ := 0
  availableKrw : ℚ
  requestHex : HexText
  blockedHex : HexText
  errorHex : HexText
  placeOrder : Placed
  getOrder : Except ApiError RawOrder
  cancelOrder : Except ApiError RawOrder
  recheck : RecheckOutcomes
  outcomes : AutoPilotOutcomes := {}
  /-- The orders that the exchange finishes meanwhile. -/
  finishes : List String := []

namespace AutoPilotTurn

variable (i : AutoPilotTurn) (session : AutoLiveSession)

/-- `f"auto-{uuid.uuid4().hex[:24]}"`. -/
def requestId : String := String.ofList ("auto-".toList ++ i.requestHex.chars)

/-- `f"auto-blocked-{uuid.uuid4().hex[:20]}"`. -/
def blockedRequestId (hex : HexText) : String :=
  String.ofList ("auto-blocked-".toList ++ hex.chars)

/-- A call that writes nothing the model has. -/
def reads (outcome : Ending ApiError) : Call AutoPilotWorld ApiError :=
  { outcome := outcome, effect := id, partly := fun _ => id }

/-- `update_auto_live_pilot_session` as a call. -/
def updatesSession (outcome : Ending ApiError) (u : AutoLiveSessionUpdates) :
    Call AutoPilotWorld ApiError :=
  { outcome := outcome, effect := fun w => w.updateSession session.id u }

def onOrder (requestId : String) (c : OrderCall) : Call AutoPilotWorld ApiError :=
  let call := c.onDatabase requestId i.env.now
  { outcome := c.outcome
    effect := fun w => { w with db := call.effect w.db }
    partly := fun writes w => { w with db := call.partly writes w.db } }

/-- `sqlite3.IntegrityError`, where the request has a row already. -/
def integrityError : ApiError := { message := "UNIQUE constraint failed" }

/-- `insert_live_order_log`, in one transaction. -/
def insertLog (outcome : Ending ApiError) (log : LiveOrderLog) :
    Statement AutoPilotWorld ApiError := fun w =>
  match insertOrderRow w.db log i.env.now with
  | none => (some (outcome.exc?.getD integrityError), w)
  | some db =>
    let inserted := { w with db := db, strategyNames := log.requestId :: w.strategyNames }
    match outcome with
    | .returns => (none, inserted)
    | .raises exc writes => (some exc, if writes = 0 then w else inserted)

/-! ## `_precheck_block_reason` -/

/-- The conditions before the recovery is asked. -/
def precheckConditions (w : AutoPilotWorld) : List (Bool × String) :=
  [(i.emergencyStopped, "BLOCKED_EMERGENCY_STOP"),
    (!i.liveConfig.liveTradingEnabled, "BLOCKED_LIVE_DISABLED"),
    (!i.config.liveAutoTradingEnabled || !i.config.autoPilotEnabled, "BLOCKED_AUTO_DISABLED"),
    (i.config.allowedExchange != "bithumb" || session.exchange != "bithumb",
      "BLOCKED_EXCHANGE_NOT_ALLOWED"),
    (i.config.allowedMarket != "KRW-BTC" || session.market != "KRW-BTC",
      "BLOCKED_MARKET_NOT_ALLOWED"),
    (i.config.orderType != .limit, "BLOCKED_ORDER_TYPE_NOT_ALLOWED"),
    (!i.apiKeyLoaded, "BLOCKED_ORDER_CHANCE_FAILED"),
    (decide (0 < i.config.maxOrdersPerDay
        ∧ i.config.maxOrdersPerDay ≤ w.countAutoLiveOrdersToday "bithumb" "KRW-BTC" i.env.now),
      "BLOCKED_DAILY_ORDER_COUNT"),
    (w.hasOpenAutoLiveOrder "bithumb" "KRW-BTC", "BLOCKED_OPEN_ORDER_EXISTS")]

/-- `recovery_block`. -/
def recovery (w : AutoPilotWorld) : Database × Option String :=
  autoOrderRecoveryBlockReason i.env w.db "bithumb" "KRW-BTC" i.recoveryBalances

/-- `last_order_time and _seconds_since(last_order_time) < config.cooldown_seconds`. -/
def cooling : Bool :=
  session.lastOrderTimeUtc.any (fun time =>
    decide (secondsSince i.env.now time < i.config.cooldownSeconds))

/-- `_precheck_block_reason`, and what the recovery has written. -/
def precheckBlockReason (w : AutoPilotWorld) : Option String × AutoPilotWorld :=
  match (i.precheckConditions session w).find? Prod.fst with
  | some (_, reason) => (some reason, w)
  | none =>
    ((i.recovery w).2.or (if i.cooling session then some "BLOCKED_COOLDOWN" else none),
      { w with db := (i.recovery w).1 })

/-! ## Up to the order -/

/-- What ends a turn before its order: an exception, or `return`. -/
inductive Stop where
  | raised (exc : ApiError)
  | returned

def onWay (a : Statement AutoPilotWorld ApiError) : Statement AutoPilotWorld Stop :=
  a.catching (fun exc => .raise (.raised exc))

/-- The row of `_insert_blocked_log` without an order. -/
def blockedLog (hex : HexText) (riskResult message : String) (candle : Option PilotCandle) :
    LiveOrderLog :=
  { id := 0
    requestId := blockedRequestId hex
    exchange := session.exchange
    market := session.market
    price := some 0
    volume := some 0
    amountKrw := some session.orderAmountKrw
    riskResult := riskResult
    status := .blocked
    errorMessage := some message
    candleTimeUtc := candle.map PilotCandle.time }

/-- A blocked turn: its row, the session's status, and `return`. -/
def blocked (log : LiveOrderLog) (status : SessionStatus) : Statement AutoPilotWorld Stop :=
  (onWay ((i.insertLog i.outcomes.insertBlockedLog log).andThen
    (Statement.calls [updatesSession session i.outcomes.updateBlockedSession
      { status := some status }]))).andThen (.raise .returned)

def roundPrice (price : ℚ) : ℚ := ⌊price / 1000⌋ * 1000

/-- `price`, `amount` and `volume` of the order. -/
def orderPrice (candle : PilotCandle) : ℚ :=
  roundPrice (candle.tradePrice * (1 - i.config.buyPriceOffsetPercent / 100))

def orderAmount : ℚ :=
  let minOrderKrw := max i.config.minOrderKrw i.liveConfig.minOrderKrw
  min (max session.orderAmountKrw minOrderKrw) (max i.config.maxOrderKrw minOrderKrw)

def orderLog (candle : PilotCandle) (status : OrderStatus) (riskResult : String)
    (message : Option String) : LiveOrderLog :=
  let price := i.orderPrice candle
  { id := 0
    requestId := i.requestId
    exchange := "bithumb"
    market := "KRW-BTC"
    price := some price
    volume := some (if 0 < price then i.orderAmount session / price else 0)
    amountKrw := some (i.orderAmount session)
    riskResult := riskResult
    status := status
    errorMessage := message
    candleTimeUtc := some candle.time }

/-- `_submit_pilot_order`, up to the order. -/
def previewOrder (candle : PilotCandle) : Statement AutoPilotWorld Stop :=
  (onWay (Statement.calls [reads i.outcomes.getOrderChance])).andThen <|
    if !i.chance then
      i.blocked session (blockedLog session i.blockedHex "BLOCKED_ORDER_CHANCE_FAILED"
        "Order chance failed." (some candle)) .stopped
    else
      (onWay (Statement.calls [reads i.outcomes.checkOrderRisk])).andThen <|
        if !i.riskAllowed then
          i.blocked session (i.orderLog session candle .blocked i.riskResult
            (some i.riskResult)) .stopped
        else if i.availableKrw < i.orderAmount session + i.feeEstimate then
          i.blocked session (i.orderLog session candle .blocked "BLOCKED_INSUFFICIENT_BALANCE"
            (some "Insufficient KRW balance.")) .stopped
        else
          onWay (i.insertLog i.outcomes.insertPreview
            (i.orderLog session candle .previewed "ALLOWED" none))

/-- `_process_session` after its precheck, up to the order. -/
def followSignal : Statement AutoPilotWorld Stop :=
  if !i.candidateFound then
    i.blocked session (blockedLog session i.blockedHex "BLOCKED_DUPLICATE_SIGNAL"
      "Candidate strategy not found." none) .error
  else
    (onWay (Statement.calls [reads i.outcomes.loadCandles])).andThen <|
      match i.candle with
      | none => .raise .returned
      | some candle =>
        (onWay (Statement.calls [updatesSession session i.outcomes.updateSignal
          { status := some .running }])).andThen fun w =>
            if i.signal ≠ .buy then (some .returned, w)
            else if w.hasLiveOrderForCandle i.config.allowedExchange i.config.allowedMarket
                candle.time then
              i.blocked session (blockedLog session i.blockedHex "BLOCKED_DUPLICATE_CANDLE"
                "Duplicate candle." (some candle)) .running w
            else i.previewOrder session candle w

/-- A turn of a session without an order, up to the order. -/
def untilOrder : Statement AutoPilotWorld Stop := fun w =>
  let precheck : Call AutoPilotWorld ApiError :=
    { outcome := i.outcomes.precheck, effect := fun w => (i.precheckBlockReason session w).2 }
  let rest := match (i.precheckBlockReason session w).1 with
    | some reason =>
      i.blocked session (blockedLog session i.blockedHex reason reason none) .running
    | none => i.followSignal session
  (onWay (Statement.calls [precheck])).andThen rest w

/-! ## The order -/

/-- `NameError`, which `_has_recent_status_event` raises. -/
def nameError : ApiError := { message := "name 'load_live_order_logs' is not defined" }

def insertOrderStatusEvent (requestId : String) : Statement AutoPilotWorld ApiError :=
  (Statement.calls [reads i.outcomes.getLiveOrderLog]).andThen fun w =>
    match getLiveOrderLog w.db requestId with
    | none => (none, w)
    | some _ => (some nameError, w)

def recheckedUpdates (status : OrderStatus) : AutoLiveSessionUpdates :=
  match status with
  | .filled => { status := some .stopped }
  | .partiallyFilled => { status := some .livePaused }
  | _ => {}

def recheckOrder (response : RawOrder) : Statement AutoPilotWorld ApiError := fun w =>
  match getLiveOrderLog w.db i.requestId with
  | none => (none, w)
  | some latest =>
    if response.orderUuid = "" then (none, w)
    else
      let (calls, reconciled) :=
        reconcileOrderLogCalls i.env i.recheck latest "POST_SUBMIT_STATUS_RECHECK"
      ((Statement.calls (calls.map (i.onOrder i.requestId))).andThen
        (match reconciled with
        | none => .skip
        | some reconciled =>
          Statement.calls [updatesSession session i.outcomes.updateHandledSession
            (recheckedUpdates reconciled.status)])) w

/-- What follows `place_order` in the `try` of `_submit_pilot_order`. -/
def recordOrder (response : RawOrder) : Statement AutoPilotWorld ApiError :=
  (Statement.calls [i.onOrder i.requestId
    (.updateLiveOrderLog i.outcomes.updateSubmitted (submittedUpdates response))]).andThen <|
  (i.insertOrderStatusEvent i.requestId).andThen <|
  (Statement.calls [updatesSession session i.outcomes.updateSubmittedSession
    { status := some .running, lastOrderUuid := some response.orderUuid
      lastOrderTimeUtc := some i.env.now }]).andThen <|
  i.recheckOrder session response

def handleSubmitError (exc : ApiError) : Statement AutoPilotWorld ApiError :=
  if isTimeoutException exc then
    Statement.calls
      [i.onOrder i.requestId (.updateLiveOrderLog i.outcomes.updateUnknown (unknownUpdates
          "Exchange request timed out; order status must be reconciled before any retry.")),
        updatesSession session i.outcomes.updateHandledSession
          { status := some .livePaused, lastOrderTimeUtc := some i.env.now },
        reads i.outcomes.logRecoveryEvent]
  else
    Statement.calls
      [i.onOrder i.requestId (.updateLiveOrderLog i.outcomes.updateFailed
          (failedUpdates "BLOCKED_API_RESPONSE_ERROR" exc)),
        updatesSession session i.outcomes.updateHandledSession { status := some .error }]

def sends (w : AutoPilotWorld) : AutoPilotWorld :=
  { w with
    held := match i.placeOrder with
      | .ok _ => w.held ++ [{ requestId := i.requestId }]
      | .error exc =>
        if isTimeoutException exc then w.held ++ [{ requestId := i.requestId }] else w.held
    doubled := w.doubled || w.orderOpen }

/-- `_submit_pilot_order` from `place_order` on. -/
def submitPilotOrder : Statement AutoPilotWorld ApiError := fun w =>
  match i.placeOrder with
  | .ok response =>
    ((i.recordOrder session response).catching (i.handleSubmitError session)) (i.sends w)
  | .error exc => i.handleSubmitError session exc (i.sends w)

/-! ## `_manage_open_order` -/

def isAutoOrderEventRequest (requestId : String) : Bool :=
  ["-submitted-", "-waiting-", "-canceled-", "-filled-", "-failed-"].any
    (fun pat => containsText pat requestId)

def canonicalOrderLogByUuid (db : Database) (orderUuid : String) : Option LiveOrderLog :=
  (loadLiveOrderLogs db 300).find? (fun item =>
    item.orderUuid == some orderUuid && !isAutoOrderEventRequest item.requestId)

/-- The row that `_update_order_by_uuid` writes. -/
def orderLogByUuid (w : AutoPilotWorld) (orderUuid : String) : Option LiveOrderLog :=
  if w.latestSession.any (fun s => s.lastOrderUuid == some orderUuid) then
    let logs := loadLiveOrderLogs w.db 200
    (logs.find? (fun item =>
        item.orderUuid == some orderUuid && !isAutoOrderEventRequest item.requestId)).or
      (logs.find? (fun item => item.orderUuid == some orderUuid))
  else none

def updateOrderByUuid (orderUuid : String) (status : OrderStatus) (response : RawOrder) :
    Statement AutoPilotWorld ApiError := fun w =>
  match orderLogByUuid w orderUuid with
  | none => (none, w)
  | some log =>
    ((Statement.calls [i.onOrder log.requestId (.updateLiveOrderLog i.outcomes.updateByUuid
      (orderByUuidUpdates orderUuid status response))]).andThen
      (i.insertOrderStatusEvent log.requestId)) w

/-- `cancel_order`, and what is written once it returns. -/
def cancelOpenOrder (written : RawOrder → Statement AutoPilotWorld ApiError) :
    Statement AutoPilotWorld ApiError :=
  match i.cancelOrder with
  | .error exc => .raise exc
  | .ok response => written response

def followStatus (orderUuid : String) (status : RawOrder) : Statement AutoPilotWorld ApiError :=
  let managed := fun sessionStatus : SessionStatus =>
    Statement.calls [updatesSession session i.outcomes.updateManagedSession
      { status := some sessionStatus }]
  match (normalizeExchangeOrder status).status with
  | .filled | .canceled => managed .stopped
  | .partiallyFilled =>
    let canceled := i.cancelOpenOrder (fun _ =>
      i.updateOrderByUuid orderUuid .partiallyFilled status)
    (canceled.catching (fun _ => Statement.calls [reads i.outcomes.logRecoveryEvent])).andThen
      (managed .livePaused)
  | _ =>
    if i.config.cancelAfterSeconds
        ≤ secondsSince i.env.now (session.lastOrderTimeUtc.getD i.env.now) then
      (i.cancelOpenOrder (i.updateOrderByUuid orderUuid .canceled)).andThen (managed .stopped)
    else
      (i.updateOrderByUuid orderUuid .waiting status).andThen (managed .running)

def manageOpenOrder (orderUuid : String) : Statement AutoPilotWorld ApiError :=
  let managed : Statement AutoPilotWorld ApiError := match i.getOrder with
    | .error exc => .raise exc
    | .ok status => fun w =>
      let applied : Statement AutoPilotWorld ApiError :=
        match canonicalOrderLogByUuid w.db orderUuid with
        | none => .skip
        | some log =>
          Statement.calls ((applyReconciledCalls i.env i.recheck log
            (normalizeExchangeOrder status) "ORDER_STATUS_RECONCILIATION").map
            (i.onOrder log.requestId))
      (applied.andThen (i.followStatus session orderUuid status)) w
  managed.catching (fun _ => Statement.calls
    [reads i.outcomes.logRecoveryEvent,
      updatesSession session i.outcomes.updateManagedSession { status := some .livePaused }])

/-! ## Ticks -/

def processSession : Statement AutoPilotWorld ApiError := fun w =>
  if textGiven session.lastOrderUuid then
    i.manageOpenOrder session (toText session.lastOrderUuid) w
  else
    match i.untilOrder session w with
    | (some (.raised exc), w) => (some exc, w)
    | (some .returned, w) => (none, w)
    | (none, w) => i.submitPilotOrder session w

/-- The body of the loop of `process_auto_live_pilot_sessions`. -/
def run : Statement AutoPilotWorld ApiError :=
  (i.processSession session).catching (fun exc =>
    (Statement.calls [updatesSession session i.outcomes.updateErrorSession
      { status := some .error }]).andThen
      (i.insertLog i.outcomes.insertErrorLog
        (blockedLog session i.errorHex "BLOCKED_API_RESPONSE_ERROR" exc.message none)))

end AutoPilotTurn

/-- What happens next. -/
inductive AutoPilotEvent where
  /-- The session that `start_auto_live_pilot` creates. -/
  | starts (exchange market : String) (orderAmountKrw : ℚ)
  /-- `stop_auto_live_pilot`. -/
  | stops
  /-- `run_auto_live_pilot_tick`, unless a tick is going on. -/
  | tick
  /-- The next session of the tick has its turn. -/
  | turn (inputs : AutoPilotTurn)
  /-- The exchange finishes an order. -/
  | finishes (requestId : String)

def AutoPilotWorld.step (w : AutoPilotWorld) : AutoPilotEvent → AutoPilotWorld
  | .starts exchange market orderAmountKrw => w.createSession exchange market orderAmountKrw
  | .stops => w.latestSession.elim w (fun s => w.updateSession s.id { status := some .stopped })
  | .tick => if w.pending.isEmpty then { w with pending := w.runningSessions } else w
  | .finishes requestId => w.finish [requestId]
  | .turn i =>
    match w.pending with
    | [] => w
    | session :: pending =>
      let (exc, after) := i.run session { w with pending := pending }
      AutoPilotWorld.finish
        { after with pending := if exc.isSome then [] else after.pending } i.finishes

end AutoCoinBot
