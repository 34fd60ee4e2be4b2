/-
  Database.SlotReconcile — the slot table brought in line with reservations and
  positions, as every read of the slots does first.

  Three `UPDATE` statements clear what is past: reservations that have expired, reserved
  slots without a reservation, and slots whose position is not active. A loop then writes
  every active position into the slot that carries it, or the first empty one.
-/
import AutoCoinBot.Database.PositionSlots
import AutoCoinBot.Library.Batch

namespace AutoCoinBot

open Library

/-! ## The statements -/

/-- `ensure_position_slots`; at least one slot is asked for. -/
def ensurePositionSlots (db : Database) (maxSlots : ℕ) (exchange : String) (now : UtcTime) :
    Database :=
  (List.range' 1 (max 1 maxSlots)).foldl
    (fun d number =>
      let slots := d.positionSlots.insertOrIgnore PositionSlot.slotNumber
        (fun k => { id := k, slotNumber := number, exchange := exchange, updatedAt := now })
        (fun _ => rfl)
      { d with positionSlots := slots })
    db

/-- `COALESCE(expires_at_utc, expires_at) <= now_utc`. -/
def OrderReservation.isPast (r : OrderReservation) (now : UtcTime) : Bool :=
  r.effectiveExpiresAtUtc.any (fun expiry => expiry ≤ now)

/-- The reservations of the exchange that have expired are closed. -/
def expireReservations (db : Database) (exchange : String) (now : UtcTime) : Database :=
  let rows := db.orderReservations.modifyWhere
    (fun r => r.exchange == exchange && (r.status == .pending || r.status.isActive)
      && r.isPast now)
    (fun r => { r with status := .expired }) (fun _ => rfl)
  { db with orderReservations := rows }

/-- The slot row both clearing statements leave. -/
def PositionSlot.cleared (slot : PositionSlot) (now : UtcTime) : PositionSlot :=
  { slot with
    status := .empty
    market := none
    candidateStrategyId := none
    livePositionId := none
    liveStrategySessionId := none
    entryOrderUuid := none
    exitOrderUuid := none
    allocatedKrw := 0
    reservedKrw := 0
    currentValueKrw := 0
    unrealizedPnl := 0
    realizedPnl := 0
    entryReason := none
    openedAt := none
    closedAt := some now
    updatedAt := now }

/-- A reserved slot of the exchange to which no reservation is left. -/
def slotUnreserved (db : Database) (exchange : String) (now : UtcTime) (slot : PositionSlot) :
    Bool :=
  slot.exchange == exchange && slot.status == .reserved
    && !db.orderReservations.rows.any (fun r =>
      r.slotId == some slot.id && r.status.isActive && !r.isPast now)

def activeOn (db : Database) (exchange : String) (positionId : ℕ) : Bool :=
  (loadLivePosition db positionId).any (fun p => p.exchange == exchange && p.status.isActive)

/-- A slot, of any exchange, that waits for no entry and carries no position that is active
on this one. -/
def slotInactive (db : Database) (exchange : String) (slot : PositionSlot) : Bool :=
  !(slot.status == .reserved || slot.status == .entering)
    && (slot.livePositionId.isSome || slot.status != .empty)
    && slot.livePositionId.all (fun id => !activeOn db exchange id)

def clearPositionSlots (db : Database) (exchange : String) (now : UtcTime) : Database :=
  let expired := expireReservations db exchange now
  -- reads the reservations the first statement left
  let reserved := expired.positionSlots.modifyWhere (slotUnreserved expired exchange now)
    (fun s => s.cleared now) (fun _ => rfl)
  -- reads the slots the second statement left
  let active := reserved.modifyWhere (slotInactive expired exchange)
    (fun s => s.cleared now) (fun _ => rfl)
  { expired with positionSlots := active }

/-- `ORDER BY opened_at ASC, id ASC`; a missing time comes first. -/
def LivePosition.openedBefore (p q : LivePosition) : Prop :=
  match p.openedAt, q.openedAt with
  | none, none => p.id ≤ q.id
  | none, some _ => True
  | some _, none => False
  | some s, some t => s < t ∨ (s = t ∧ p.id ≤ q.id)

instance : DecidableRel LivePosition.openedBefore := fun p q => by
  unfold LivePosition.openedBefore
  split <;> infer_instance

def positionsToPlace (db : Database) (exchange : String) : List LivePosition :=
  (db.livePositions.select (fun p => p.exchange == exchange && p.status.isActive)).insertionSort
    LivePosition.openedBefore

def firstEmptySlot (db : Database) (maxSlots : ℕ) : Option PositionSlot :=
  (loadPositionSlotRows db maxSlots).find? (fun s => s.status == .empty)

/-- The slot that carries the position, else the first empty one. -/
def slotToPlace (db : Database) (maxSlots positionId : ℕ) : Option PositionSlot :=
  (db.positionSlots.rows.find? (fun s => s.livePositionId == some positionId)).or
    (firstEmptySlot db maxSlots)

def PositionSlot.carry (slot : PositionSlot) (p : LivePosition) (now : UtcTime) : PositionSlot :=
  let currentValue := p.currentPrice * p.entryVolume
  { slot with
    status := .held p.status
    exchange := p.exchange
    market := some p.market
    candidateStrategyId := some p.candidateStrategyId
    livePositionId := some p.id
    liveStrategySessionId := some p.sessionId
    entryOrderUuid := p.entryOrderUuid
    exitOrderUuid := p.exitOrderUuid
    allocatedKrw := orNum p.entryAmountKrw currentValue
    reservedKrw := 0
    currentValueKrw := currentValue
    unrealizedPnl := p.unrealizedPnl
    realizedPnl := p.realizedPnl
    openedAt := p.openedAt
    closedAt := none
    updatedAt := now }

def placePosition (maxSlots : ℕ) (now : UtcTime) (db : Database) (p : LivePosition) : Database :=
  match slotToPlace db maxSlots p.id with
  | none => db
  | some slot =>
    -- the whole row is overwritten, whatever the slot stood for
    let slots := db.positionSlots.modify slot.id (fun s => s.carry p now) (fun _ => rfl)
    { db with positionSlots := slots }

def placePositions (db : Database) (maxSlots : ℕ) (exchange : String) (now : UtcTime) :
    Database :=
  (positionsToPlace db exchange).foldl (placePosition maxSlots now) db

/-- `reconcile_position_slots`, and `load_position_slots`, which is the same call. -/
def reconcilePositionSlots (db : Database) (maxSlots : ℕ) (exchange : String) (now : UtcTime) :
    Database :=
  let ensured := ensurePositionSlots db maxSlots exchange now
  placePositions (clearPositionSlots ensured exchange now) maxSlots exchange now

/-! ## What they do to a row -/

section Rows

variable (db : Database) (maxSlots : ℕ) (exchange : String) (now : UtcTime)

theorem slot_ensurePositionSlots {k : ℕ} {slot : PositionSlot}
    (h : db.positionSlots.get? k = some slot) :
    (ensurePositionSlots db maxSlots exchange now).positionSlots.get? k = some slot := by
  unfold ensurePositionSlots
  refine foldl_invariant (P := fun d : Database => d.positionSlots.get? k = some slot) ?_ h
  intro d number _ hd
  exact Table.get?_insertOrIgnore_of_some hd _ _

@[simp] theorem ensurePositionSlots_orderReservations :
    (ensurePositionSlots db maxSlots exchange now).orderReservations = db.orderReservations := by
  unfold ensurePositionSlots
  refine foldl_frame Database.orderReservations (fun d number => ?_) _ db
  rfl

@[simp] theorem ensurePositionSlots_livePositions :
    (ensurePositionSlots db maxSlots exchange now).livePositions = db.livePositions := by
  unfold ensurePositionSlots
  refine foldl_frame Database.livePositions (fun d number => ?_) _ db
  rfl

/-- **The reservations after the three statements.** -/
theorem reservation_clearPositionSlots (k : ℕ) :
    (clearPositionSlots db exchange now).orderReservations.get? k
      = (db.orderReservations.get? k).map (fun r =>
          if r.exchange = exchange ∧ (r.status = .pending ∨ r.status.isActive = true)
              ∧ r.isPast now = true then
            { r with status := .expired }
          else r) := by
  have hmodify := Table.get?_modifyWhere db.orderReservations
    (fun r => r.exchange == exchange && (r.status == .pending || r.status.isActive)
      && r.isPast now)
    (fun r => { r with status := .expired }) (fun _ => rfl) k
  refine hmodify.trans ?_
  congr 1
  funext r
  refine if_congr ?_ rfl rfl
  simp only [Bool.and_eq_true, Bool.or_eq_true, beq_iff_eq, and_assoc]

theorem slotUnreserved_expireReservations (slot : PositionSlot) :
    slotUnreserved (expireReservations db exchange now) exchange now slot
      = slotUnreserved db exchange now slot := by
  unfold slotUnreserved
  congr 2
  show (db.orderReservations.rows.map _).any _ = _
  rw [List.any_map]
  congr 1
  funext r
  show (_ : Bool) = _
  simp only [Function.comp]
  split
  · rename_i hpast
    have hclosed : r.isPast now = true := (Bool.and_eq_true_iff.mp hpast).2
    rw [hclosed]
    simp [ReservationStatus.isActive]
  · rfl

/-- **The slots after the three statements.** -/
theorem slot_clearPositionSlots (k : ℕ) :
    (clearPositionSlots db exchange now).positionSlots.get? k
      = (db.positionSlots.get? k).map (fun s =>
          if slotUnreserved db exchange now s = true ∨ slotInactive db exchange s = true then
            s.cleared now
          else s) := by
  have hreserved := Table.get?_modifyWhere db.positionSlots
    (slotUnreserved (expireReservations db exchange now) exchange now)
    (fun s => s.cleared now) (fun _ => rfl) k
  have hactive := Table.get?_modifyWhere
    (db.positionSlots.modifyWhere (slotUnreserved (expireReservations db exchange now) exchange now)
      (fun s => s.cleared now) (fun _ => rfl))
    (slotInactive db exchange) (fun s => s.cleared now) (fun _ => rfl) k
  refine hactive.trans ?_
  rw [hreserved, Option.map_map]
  congr 1
  funext s
  simp only [Function.comp, slotUnreserved_expireReservations]
  -- clearing twice is clearing once, so the order of the two does not matter
  by_cases hfree : slotUnreserved db exchange now s = true
  · have hcleared : slotUnreserved db exchange now s = true ∨ slotInactive db exchange s = true :=
      .inl hfree
    rw [if_pos hfree, if_pos hcleared]
    split <;> rfl
  · rw [if_neg hfree]
    refine if_congr ?_ rfl rfl
    simp [hfree]

end Rows

end AutoCoinBot
