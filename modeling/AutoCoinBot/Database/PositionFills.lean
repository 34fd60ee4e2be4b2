/-
  Database.PositionFills — fill events and the application ledger.

  `position_fill_events` is unique in `(order_uuid, fill_type)` and ignores a
  second insert; `order_application_ledger` is unique in `order_uuid` and takes
  a second insert as an update that keeps the stored fill type.
-/
import AutoCoinBot.Database.Schema

namespace AutoCoinBot

open Library

/-! ## Fill events -/

/-- `WHERE order_uuid = ? AND fill_type = ?`. -/
def PositionFillEvent.hasKey (e : PositionFillEvent) (orderUuid : String) (fillType : FillType) :
    Bool :=
  e.key = (orderUuid, fillType)

def loadPositionFillEvent (db : Database) (orderUuid : String) (fillType : FillType) :
    Option PositionFillEvent :=
  db.positionFillEvents.rows.find? (fun e => e.hasKey orderUuid fillType)

/-- `ORDER BY created_at ASC, id ASC`. -/
def PositionFillEvent.older (d e : PositionFillEvent) : Prop :=
  d.createdAt < e.createdAt ∨ (d.createdAt = e.createdAt ∧ d.id ≤ e.id)

instance : DecidableRel PositionFillEvent.older := fun d e =>
  inferInstanceAs (Decidable (d.createdAt < e.createdAt ∨ (d.createdAt = e.createdAt ∧ d.id ≤ e.id)))

def loadPositionFillEventsByOrderUuid (db : Database) (orderUuid : String) :
    List PositionFillEvent :=
  (db.positionFillEvents.select (fun e => e.orderUuid == orderUuid)).insertionSort
    PositionFillEvent.older

/-- The keys the callers of `update_position_fill_event` pass. -/
structure PositionFillEventUpdates where
  source : String
  appliedVolume : ℚ
  appliedAmountKrw : ℚ
  appliedFee : ℚ

/-- The row after `UPDATE position_fill_events SET …`. -/
def PositionFillEvent.merge (e : PositionFillEvent) (u : PositionFillEventUpdates) :
    PositionFillEvent :=
  { e with
    source := u.source
    appliedVolume := u.appliedVolume
    appliedAmountKrw := u.appliedAmountKrw
    appliedFee := u.appliedFee }

def updatePositionFillEvent (db : Database) (eventId : ℕ) (u : PositionFillEventUpdates) :
    Database :=
  { db with
    positionFillEvents :=
      db.positionFillEvents.modify eventId (fun e => e.merge u) (fun _ => rfl)
    fillKey_unique := db.fillKey_unique.modifyWhere _ (f := fun e => e.merge u) (fun _ => rfl)
      (fun _ => rfl) }

/-- `insert_position_fill_event`: `INSERT OR IGNORE`, and whether a row was added. -/
def insertPositionFillEvent (db : Database) (event : ℕ → PositionFillEvent)
    (hid : ∀ k, (event k).id = k) : Database × Bool :=
  let new := event db.positionFillEvents.nextId
  ({ db with
      positionFillEvents := db.positionFillEvents.insertOrIgnore PositionFillEvent.key event hid
      fillKey_unique := db.fillKey_unique.insertOrIgnore event hid },
    (loadPositionFillEvent db new.orderUuid new.fillType).isNone)

/-! ## The application ledger -/

def loadOrderApplicationLedger (db : Database) (orderUuid : String) : Option OrderApplication :=
  db.orderApplicationLedger.rows.find? (fun l => l.orderUuid = orderUuid)

/-- The inserted values: a zero `last_exchange_…` falls back to `applied_…`. -/
def OrderApplication.excluded (event : OrderApplication) (id : ℕ) : OrderApplication :=
  { event with
    id := id
    lastExchangeExecutedVolume := orNum event.lastExchangeExecutedVolume event.appliedVolume
    lastExchangeFilledAmountKrw :=
      orNum event.lastExchangeFilledAmountKrw event.appliedAmountKrw
    lastExchangePaidFee := orNum event.lastExchangePaidFee event.appliedFee }

/-- `ON CONFLICT(order_uuid) DO UPDATE`: the stored key and fill type stay. -/
def OrderApplication.onConflict (old new : OrderApplication) : OrderApplication :=
  { new with
    id := old.id
    orderUuid := old.orderUuid
    fillType := old.fillType
    orderLogId := new.orderLogId.or old.orderLogId
    requestId := new.requestId.or old.requestId }

def upsertOrderApplicationLedger (db : Database) (event : OrderApplication) : Database :=
  { db with
    orderApplicationLedger := db.orderApplicationLedger.upsert OrderApplication.orderUuid
      (fun k => event.excluded k) (fun _ => rfl)
      (fun l => l.onConflict (event.excluded l.id)) (fun _ => rfl)
    orderUuid_unique := db.orderUuid_unique.upsert (fun k => event.excluded k) (fun _ => rfl)
      (f := fun l => l.onConflict (event.excluded l.id)) (fun _ => rfl) (fun _ => rfl) }

/-! ## What the writes do -/

section Fills

variable (db : Database)

theorem loadPositionFillEvent_key {uuid : String} {ft : FillType} {e : PositionFillEvent}
    (h : loadPositionFillEvent db uuid ft = some e) : e.orderUuid = uuid ∧ e.fillType = ft := by
  have hkey : e.hasKey uuid ft = true := by simpa using List.find?_some h
  simpa [PositionFillEvent.hasKey, PositionFillEvent.key] using hkey

theorem loadPositionFillEvent_insert (event : ℕ → PositionFillEvent)
    (hid : ∀ k, (event k).id = k) (uuid : String) (ft : FillType) :
    loadPositionFillEvent (insertPositionFillEvent db event hid).1 uuid ft
      = (loadPositionFillEvent db uuid ft).or
          (if (event db.positionFillEvents.nextId).key = (uuid, ft)
            then some (event db.positionFillEvents.nextId) else none) :=
  Table.find?_insertOrIgnore db.positionFillEvents PositionFillEvent.key event hid (uuid, ft)

theorem loadPositionFillEvent_update (eventId : ℕ) (u : PositionFillEventUpdates)
    (uuid : String) (ft : FillType) :
    loadPositionFillEvent (updatePositionFillEvent db eventId u) uuid ft
      = (loadPositionFillEvent db uuid ft).map
          (fun e => if e.id = eventId then e.merge u else e) := by
  have h := Table.find?_modifyWhere db.positionFillEvents (fun e => e.id == eventId)
    (fun e => e.merge u) (fun _ => rfl) (fun e => e.hasKey uuid ft) (fun _ => rfl)
  refine h.trans ?_
  simp [loadPositionFillEvent]

/-- **A ledger write and the row of an order.** -/
theorem loadOrderApplicationLedger_upsert (event : OrderApplication) (uuid : String) :
    loadOrderApplicationLedger (upsertOrderApplicationLedger db event) uuid
      = if event.orderUuid = uuid then
          some ((loadOrderApplicationLedger db uuid).elim
            (event.excluded db.orderApplicationLedger.nextId)
            (fun l => l.onConflict (event.excluded l.id)))
        else loadOrderApplicationLedger db uuid :=
  Table.find?_upsert db.orderApplicationLedger OrderApplication.orderUuid
    (fun k => event.excluded k) (fun _ => rfl) (fun l => l.onConflict (event.excluded l.id))
    (fun _ => rfl) (fun _ => rfl) uuid

end Fills

end AutoCoinBot
