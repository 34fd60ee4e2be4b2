/-
  LiveStrategyPilot.TrackedOrders — one order, while the exchange and the bot both act
  on it.

  Six operations write the row of an order. Each waits for the broker at least once, and until
  the answer comes the exchange goes on with the order and the other operations with its row.
-/
import AutoCoinBot.Library.Await
import AutoCoinBot.LiveRecovery.BookedFills
import AutoCoinBot.LiveStrategyPilot.OpenOrders

namespace AutoCoinBot

open Library

/-! ## The order and its operations -/

/-- An order that has just been placed: the row that stands for it, and nothing booked yet. -/
structure TrackedOrder where
  db : Database
  log : LiveOrderLog
  uuid : String
  stored : getLiveOrderLog db log.requestId = some log
  has_uuid : log.orderUuid = some uuid
  uuid_ne : uuid ≠ ""
  own_uuid : ∀ r ∈ db.liveOrderLogs.rows, r.orderUuid = some uuid → r.requestId = log.requestId
  not_final : log.status.isFinal = false
  ordered_pos : 0 < toFloat log.volume
  unfilled : log.executedVolume = 0
  unbooked : entryBooked db uuid = false
  shown : VolumesShown db

namespace TrackedOrder

variable (t : TrackedOrder)

def requestId : String := t.log.requestId

def ordered : ℚ := toFloat t.log.volume

def isExit : Bool := isExitOrder t.log

/-- The volume that has gone into the positions, or out of them for a sale. -/
def booked (db : Database) : ℚ :=
  if t.isExit then heldVolume t.db - heldVolume db else heldVolume db - heldVolume t.db

/-- The volume the bot has on record: what the row of a sale shows, and all or nothing of a buy
order. -/
def recorded (db : Database) : ℚ :=
  if t.isExit then (getLiveOrderLog db t.requestId).elim 0 LiveOrderLog.executedVolume
  else if entryBooked db t.uuid then t.ordered else 0

end TrackedOrder

/-- The database, and the order on the exchange. -/
structure OrderWorld (ordered : ℚ) where
  db : Database
  order : OrderOnExchange ordered

/-- The operations. -/
inductive OrderOperation where
  | manageOpenOrder (session : SyncSession)
  | handleEmergency (session : SyncSession)
  | cancelLiveStrategyOpenOrder (session : SyncSession)
  | cancelExitOrder
  | reconcileOrderLog (source : String)
  -- `sync_open_orders`, which calls `apply_reconciled_order_status`
  | syncOpenOrders (source : String)

/-- An operation that waits for the broker, and what it has read so far. -/
inductive OrderTask where
  | manageOpenOrder (session : SyncSession)
  | manageCanceledOrder (session : SyncSession) (cancel : ManagedCancel)
  | handleEmergency (session : SyncSession)
  | cancelLiveStrategyOpenOrder (session : SyncSession)
  | cancelExitOrder (log : LiveOrderLog)
  | reconcileOrderLog (log : LiveOrderLog) (source : String)
  | syncOpenOrders (log : LiveOrderLog) (source : String)

/-- The broker's answer, and the environment it is worked on in. -/
structure BrokerReply where
  answer : Except ApiError RawOrder
  env : PilotEnv

namespace TrackedOrder

variable (t : TrackedOrder)

/-- Where an operation gets to before it waits. -/
def begin (w : OrderWorld t.ordered) : OrderOperation → Option OrderTask
  | .manageOpenOrder session => some (.manageOpenOrder session)
  | .handleEmergency session => some (.handleEmergency session)
  | .cancelLiveStrategyOpenOrder session => some (.cancelLiveStrategyOpenOrder session)
  | .cancelExitOrder => (submittedExitOrder w.db t.requestId).map .cancelExitOrder
  | .reconcileOrderLog source =>
    (getLiveOrderLog w.db t.requestId).map (fun log => .reconcileOrderLog log source)
  | .syncOpenOrders source =>
    (getLiveOrderLog w.db t.requestId).map (fun log => .syncOpenOrders log source)

end TrackedOrder

def OrderTask.resume (reply : BrokerReply) (db : Database) : OrderTask → Database × Option OrderTask
  | .manageOpenOrder session =>
    let (db, cancel) := AutoCoinBot.manageOpenOrder reply.env db session reply.answer
    (db, cancel.map (.manageCanceledOrder session))
  | .manageCanceledOrder session cancel =>
    (AutoCoinBot.manageCanceledOrder reply.env db session cancel reply.answer, none)
  | .handleEmergency session =>
    (AutoCoinBot.handleEmergency reply.env db session reply.answer, none)
  | .cancelLiveStrategyOpenOrder session =>
    (AutoCoinBot.cancelLiveStrategyOpenOrder reply.env db session reply.answer, none)
  | .cancelExitOrder log => (cancelExitOrderAnswered reply.env db log reply.answer, none)
  | .reconcileOrderLog log source =>
    (AutoCoinBot.reconcileOrderLog reply.env.toSyncEnv db log reply.answer source, none)
  | .syncOpenOrders log source =>
    match reply.answer with
    | .error _ => (db, none)
    | .ok raw =>
      (applyReconciledOrderStatus reply.env.toSyncEnv db log (normalizeExchangeOrder raw) source,
        none)

namespace TrackedOrder

variable (t : TrackedOrder)

def operations :
    Awaiting (OrderWorld t.ordered) OrderTask ExchangeMove OrderOperation BrokerReply where
  move w event := { w with order := w.order.move event }
  begin := t.begin
  resume task reply w :=
    let (db, next) := task.resume reply w.db
    ({ w with db := db }, next)

def start : Waiting (OrderWorld t.ordered) OrderTask :=
  { world := { db := t.db, order := .placed t.ordered_pos } }

/-! ## What can happen -/

/-- The pilot's sessions have entry orders open. -/
def Concerns : OrderOperation → Prop
  | .manageOpenOrder session | .handleEmergency session | .cancelLiveStrategyOpenOrder session =>
    t.isExit = false ∧ session.openOrderUuid = t.uuid
  | _ => True

/-- An order that is asked for is answered as it was at some time. -/
def Truthful (w : OrderWorld t.ordered) : OrderTask → BrokerReply → Prop
  | .manageOpenOrder _, reply | .reconcileOrderLog _ _, reply | .syncOpenOrders _ _, reply =>
    ∀ raw, reply.answer = .ok raw →
      ∃ past : OrderOnExchange t.ordered, past.Before w.order ∧ Answers t.uuid raw past
  | _, _ => True

/-! ## When an operation may finish the order -/

/-- The order has ended, and nothing is missing from the record. -/
def Complete (w : OrderWorld t.ordered) : Prop :=
  w.order.phase ≠ .waiting ∧ w.order.executed ≤ t.recorded w.db

/-- A status that `apply_reconciled_order_status` is given: the rows hold what it sells, and let
in what it buys. -/
def Fits (w : OrderWorld t.ordered) (env : SyncEnv) (log : LiveOrderLog)
    (status : ReconciledOrderStatus) (source : String) : Prop :=
  if t.isExit then
    let fill := max (status.executedVolume - log.executedVolume) 0
    (status.status.isFill = true → 0 < fill → exitRowsHold w.db log fill)
      ∧ (status.status = .canceled → exitRowsOpen w.db log)
  else
    status.status = .filled →
      entryBooked w.db t.uuid = true
        ∨ ensureAccepts (updateLiveOrderLog w.db log.requestId (reconciledUpdates log status) env.now)
          (reconciledLog log status).toLiveOrderLog (source ++ "_POSITION_SYNC") = true

/-- A filled order that `_manage_open_order` has read, and whose row it finds. -/
def FitsManaged (w : OrderWorld t.ordered) (env : PilotEnv) (session : SyncSession)
    (status : RawOrder) : Prop :=
  let db := updateOrderByUuid w.db t.uuid .filled status env.now
  (normalizeExchangeOrder status).status = .filled → (recentOrderLog w.db t.uuid).isSome →
    entryBooked w.db t.uuid = true
      ∨ syncAccepts db (filledEntryCall db session status "OPEN_ORDER_MANAGEMENT") = true

/-- **The replies that may be acted on.** -/
def Acceptable (w : OrderWorld t.ordered) : OrderTask → BrokerReply → Prop
  | .manageOpenOrder session, ⟨.ok status, env⟩ => t.FitsManaged w env session status
  | .manageCanceledOrder _ .unfilled, ⟨.ok _, _⟩ | .handleEmergency _, _
  | .cancelLiveStrategyOpenOrder _, ⟨.ok _, _⟩ =>
    (recentOrderLog w.db t.uuid).isSome → t.Complete w
  | .cancelExitOrder log, ⟨.ok _, _⟩ =>
    t.Complete w ∧ ∀ positionId, truthyId log.positionId = some positionId →
      shownBeyondHeld w.db positionId = 0
  | .reconcileOrderLog _ _, ⟨.error exc, _⟩ => isOrderNotFoundError exc = true → t.Complete w
  | .reconcileOrderLog log source, ⟨.ok raw, env⟩ | .syncOpenOrders log source, ⟨.ok raw, env⟩ =>
    t.Fits w env.toSyncEnv log (normalizeExchangeOrder raw) source
  | _, _ => True

/-- **No row is final before its fills are in.** -/
def FillsIn (w : OrderWorld t.ordered) : Prop :=
  ∀ row, getLiveOrderLog w.db t.requestId = some row → row.status.isFinal = true →
    w.order.phase ≠ .waiting ∧ w.order.executed ≤ t.booked w.db

end TrackedOrder

end AutoCoinBot
