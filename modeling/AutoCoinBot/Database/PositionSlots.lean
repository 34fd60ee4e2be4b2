/-
  Database.PositionSlots — slots, order reservations and the entry
  lifecycle that ties them to a position.
-/
import AutoCoinBot.Database.LivePositions

namespace AutoCoinBot

open Library

/-! ## Slots -/

/-- `status IN ('OPEN', 'RESERVED', 'ENTERING', 'CLOSING', 'EXIT_PENDING', 'EXIT_CANDIDATE',
'MANUAL_REVIEW_REQUIRED')`. -/
def SlotStatus.isActive : SlotStatus → Bool
  | .empty => false
  | .reserved | .entering => true
  | .held status => status.isActive

/-- `position_slots` rows numbered up to `max_slots`, by slot number. -/
def loadPositionSlotRows (db : Database) (maxSlots : ℕ) : List PositionSlot :=
  (db.positionSlots.select (fun s => s.slotNumber ≤ maxSlots)).insertionSort
    (fun s t => s.slotNumber ≤ t.slotNumber)

/-- `reserve_position_slot`. -/
def PositionSlot.reserve (slot : PositionSlot) (exchange market : String)
    (candidateStrategyId liveStrategySessionId : ℕ) (amountKrw : ℚ) (reason : String)
    (now : UtcTime) : PositionSlot :=
  { slot with
    status := .reserved
    exchange := exchange
    market := some market
    candidateStrategyId := some candidateStrategyId
    liveStrategySessionId := some liveStrategySessionId
    allocatedKrw := amountKrw
    reservedKrw := amountKrw
    entryReason := some reason
    openedAt := some now
    closedAt := none
    updatedAt := now }

def reservePositionSlot (db : Database) (slotId : ℕ) (exchange market : String)
    (candidateStrategyId liveStrategySessionId : ℕ) (amountKrw : ℚ) (reason : String)
    (now : UtcTime) : Database :=
  let slots := db.positionSlots.modify slotId
    (fun s => s.reserve exchange market candidateStrategyId liveStrategySessionId
      amountKrw reason now)
    (fun _ => rfl)
  { db with positionSlots := slots }

/-! ## Reservations -/

/-- `status IN ('RESERVED', 'ORDER_SUBMITTED')`. -/
def ReservationStatus.isActive : ReservationStatus → Bool
  | .reserved | .orderSubmitted => true
  | _ => false

def ReservationStatus.text : ReservationStatus → String
  | .pending => "PENDING"
  | .reserved => "RESERVED"
  | .orderSubmitted => "ORDER_SUBMITTED"
  | .consumed => "CONSUMED"
  | .expired => "EXPIRED"
  | .replaced => "REPLACED"
  | .released => "RELEASED"
  | .filled => "FILLED"
  | .canceled => "CANCELED"
  | .failed => "FAILED"

def createOrderReservation (db : Database) (reservation : ℕ → OrderReservation)
    (hid : ∀ k, (reservation k).id = k) : Database :=
  { db with orderReservations := db.orderReservations.insert reservation hid }

/-- `update_order_reservation_status`, for the calls that name a candidate and a
market. -/
def updateOrderReservationStatus (db : Database) (candidateStrategyId : ℕ) (market : String)
    (status : ReservationStatus) (previousStatuses : List ReservationStatus) : Database :=
  let rows := db.orderReservations.modifyWhere
    (fun r => previousStatuses.contains r.status
      && r.candidateStrategyId == candidateStrategyId && r.market == market)
    (fun r => { r with status := status }) (fun _ => rfl)
  { db with orderReservations := rows }

/-! ## The entry lifecycle -/

/-- `CASE status WHEN 'RESERVED' THEN 0 WHEN 'ENTERING' THEN 1 ELSE 2 END`. -/
def SlotStatus.entryRank : SlotStatus → ℕ
  | .reserved => 0
  | .entering => 1
  | _ => 2

/-- `status IN ('RESERVED', 'ENTERING', 'OPEN')`. -/
def SlotStatus.isEntry : SlotStatus → Bool
  | .reserved | .entering | .held .opened => true
  | _ => false

/-- `ORDER BY CASE status …, updated_at DESC, id DESC`. -/
def PositionSlot.entryBefore (s t : PositionSlot) : Prop :=
  s.status.entryRank < t.status.entryRank ∨ (s.status.entryRank = t.status.entryRank
    ∧ (t.updatedAt < s.updatedAt ∨ (t.updatedAt = s.updatedAt ∧ t.id ≤ s.id)))

instance : DecidableRel PositionSlot.entryBefore := fun s t =>
  inferInstanceAs (Decidable (s.status.entryRank < t.status.entryRank
    ∨ (s.status.entryRank = t.status.entryRank
      ∧ (t.updatedAt < s.updatedAt ∨ (t.updatedAt = s.updatedAt ∧ t.id ≤ s.id)))))

/-- The slot `finalize_entry_lifecycle_for_position` works on: the session's own
entry slot, else a free or own slot of the candidate, else the slot that
already carries the position. -/
def entrySlotForPosition (db : Database) (exchange market : String)
    (candidateId sessionId positionId : ℕ) : Option PositionSlot :=
  let entrySlots := (db.positionSlots.select (fun s =>
    s.exchange == exchange && s.market == some market
      && s.candidateStrategyId == some candidateId && s.status.isEntry)).insertionSort
    PositionSlot.entryBefore
  let own :=
    if sessionId = 0 then none
    else entrySlots.find? (fun s => s.liveStrategySessionId == some sessionId)
  let free := entrySlots.find? (fun s =>
    s.livePositionId == none || s.livePositionId == some positionId)
  let carrying := db.positionSlots.rows.find? (fun s => s.livePositionId == some positionId)
  (own.or free).or carrying

/-- The slot row after `UPDATE position_slots SET …` for a finalized entry. -/
def PositionSlot.occupy (slot : PositionSlot) (p : LivePosition) (exchange : String)
    (entryAmount currentValue : ℚ) (reason : String) (now : UtcTime) : PositionSlot :=
  { slot with
    status := .held p.status
    exchange := exchange
    market := some p.market
    candidateStrategyId := some p.candidateStrategyId
    livePositionId := some p.id
    liveStrategySessionId := if p.sessionId = 0 then none else some p.sessionId
    entryOrderUuid := p.entryOrderUuid
    exitOrderUuid := p.exitOrderUuid
    allocatedKrw := entryAmount
    reservedKrw := 0
    currentValueKrw := currentValue
    unrealizedPnl := p.unrealizedPnl
    realizedPnl := p.realizedPnl
    entryReason := slot.entryReason.or (some reason)
    openedAt := slot.openedAt.or (some (p.openedAt.getD now))
    closedAt := none
    updatedAt := now }

/-- `finalize_entry_lifecycle_for_position` with its default arguments; the
`next_entry_queue` update at its end is left out. -/
def finalizeEntryLifecycleForPosition (db : Database) (positionId : ℕ) (now : UtcTime) :
    Database :=
  match loadLivePosition db positionId with
  | none => db
  | some p =>
    if p.status.isActive = false then db
    else
      let exchange := orText p.exchange "bithumb"
      let currentPrice := orNum p.currentPrice p.entryPrice
      let entryAmount := orNum p.entryAmountKrw (currentPrice * p.entryVolume)
      let slot := entrySlotForPosition db exchange p.market p.candidateStrategyId
        p.sessionId positionId
      let slots :=
        match slot with
        | none => db.positionSlots
        | some s =>
          db.positionSlots.modify s.id
            (fun row => row.occupy p exchange entryAmount (currentPrice * p.entryVolume)
              "ENTRY_FILL_LIFECYCLE_FINALIZED" now)
            (fun _ => rfl)
      let reservations := db.orderReservations.modifyWhere
        (fun r => r.exchange == exchange && r.market == p.market
          && r.candidateStrategyId == p.candidateStrategyId
          && [ReservationStatus.reserved, .orderSubmitted].contains r.status
          && (slot.isNone || r.slotId == none || r.slotId == slot.map PositionSlot.id))
        (fun r => { r with status := .consumed }) (fun _ => rfl)
      { db with positionSlots := slots, orderReservations := reservations }

def PositionSlot.finalized (slot : PositionSlot) (p : LivePosition) (now : UtcTime) :
    PositionSlot :=
  let currentPrice := orNum p.currentPrice p.entryPrice
  slot.occupy p (orText p.exchange "bithumb") (orNum p.entryAmountKrw (currentPrice * p.entryVolume))
    (currentPrice * p.entryVolume) "ENTRY_FILL_LIFECYCLE_FINALIZED" now

/-- The slot a finalized entry is written into. -/
def finalizedSlot (db : Database) (positionId : ℕ) : Option PositionSlot :=
  ((loadLivePosition db positionId).filter (fun p => p.status.isActive)).bind (fun p =>
    entrySlotForPosition db (orText p.exchange "bithumb") p.market p.candidateStrategyId
      p.sessionId positionId)

/-! ## What a finalized entry does to a row -/

section Finalize

variable {db : Database} {positionId : ℕ}

theorem entrySlotForPosition_mem {exchange market : String} {candidateId sessionId : ℕ}
    {slot : PositionSlot}
    (h : entrySlotForPosition db exchange market candidateId sessionId positionId = some slot) :
    slot ∈ db.positionSlots.rows := by
  unfold entrySlotForPosition at h
  dsimp only at h
  rcases Option.or_eq_some_iff.mp h with hentry | ⟨-, hcarries⟩
  · have hlisted : ∀ p q, ((db.positionSlots.select p).insertionSort
        PositionSlot.entryBefore).find? q = some slot → slot ∈ db.positionSlots.rows := by
      intro p q hfound
      have hsorted := List.mem_of_find?_eq_some hfound
      exact (Table.mem_select.mp ((List.mem_insertionSort _).mp hsorted)).1
    rcases Option.or_eq_some_iff.mp hentry with hown | ⟨-, hfree⟩
    · split at hown
      · cases hown
      · exact hlisted _ _ hown
    · exact hlisted _ _ hfree
  · exact List.mem_of_find?_eq_some hcarries

theorem finalizedSlot_get? {slot : PositionSlot} (h : finalizedSlot db positionId = some slot) :
    db.positionSlots.get? slot.id = some slot := by
  obtain ⟨p, -, hslot⟩ := Option.bind_eq_some_iff.mp h
  exact Table.get?_of_mem (entrySlotForPosition_mem hslot)

theorem finalizedSlot_of_active {p : LivePosition} (hload : loadLivePosition db positionId = some p)
    (hactive : p.status.isActive = true) :
    finalizedSlot db positionId = entrySlotForPosition db (orText p.exchange "bithumb") p.market
      p.candidateStrategyId p.sessionId positionId := by
  unfold finalizedSlot
  rw [hload, Option.filter_some, if_pos hactive, Option.bind_some]

/-- **The slots after a finalized entry**: the position is written into its slot, if it has
one. -/
theorem positionSlots_finalize (db : Database) (positionId : ℕ) (now : UtcTime) :
    (finalizedSlot db positionId = none
        ∧ (finalizeEntryLifecycleForPosition db positionId now).positionSlots = db.positionSlots)
      ∨ ∃ slot p, finalizedSlot db positionId = some slot
          ∧ loadLivePosition db positionId = some p
          ∧ (finalizeEntryLifecycleForPosition db positionId now).positionSlots
            = db.positionSlots.modify slot.id (fun s => s.finalized p now) (fun _ => rfl) := by
  cases hload : loadLivePosition db positionId with
  | none =>
    refine .inl ⟨?_, ?_⟩
    · unfold finalizedSlot
      rw [hload]
      rfl
    · unfold finalizeEntryLifecycleForPosition
      rw [hload]
  | some p =>
    by_cases hactive : p.status.isActive = true
    · rw [finalizedSlot_of_active hload hactive]
      unfold finalizeEntryLifecycleForPosition
      rw [hload]
      simp only [hactive, Bool.true_eq_false, if_false]
      cases entrySlotForPosition db (orText p.exchange "bithumb") p.market
          p.candidateStrategyId p.sessionId positionId with
      | none => exact .inl ⟨rfl, rfl⟩
      | some slot => exact .inr ⟨slot, p, rfl, rfl, rfl⟩
    · have hoff : p.status.isActive = false := Bool.eq_false_iff.mpr hactive
      refine .inl ⟨?_, ?_⟩
      · unfold finalizedSlot
        rw [hload, Option.filter_some, if_neg hactive]
        rfl
      · unfold finalizeEntryLifecycleForPosition
        rw [hload]
        simp only [hoff, if_true]

theorem reservation_finalize (db : Database) (positionId : ℕ) (now : UtcTime) :
    ∃ p : OrderReservation → Bool, ∀ k,
      (finalizeEntryLifecycleForPosition db positionId now).orderReservations.get? k
        = (db.orderReservations.get? k).map
            (fun r => if p r then { r with status := .consumed } else r) := by
  unfold finalizeEntryLifecycleForPosition
  split
  · exact ⟨fun _ => false, fun k => by simp⟩
  · split
    · exact ⟨fun _ => false, fun k => by simp⟩
    · exact ⟨_, fun k => Table.get?_modifyWhere db.orderReservations _
        (fun r => { r with status := .consumed }) (fun _ => rfl) k⟩

end Finalize

section Frames

variable (db : Database) (positionId : ℕ) (now : UtcTime)

theorem finalizeEntryLifecycleForPosition_frame : ∃ slots reservations,
    finalizeEntryLifecycleForPosition db positionId now
      = { db with positionSlots := slots, orderReservations := reservations } := by
  unfold finalizeEntryLifecycleForPosition
  split
  · exact ⟨db.positionSlots, db.orderReservations, rfl⟩
  · split
    -- the position is not active any more
    · exact ⟨db.positionSlots, db.orderReservations, rfl⟩
    · exact ⟨_, _, rfl⟩

@[simp] theorem finalizeEntryLifecycleForPosition_candidateStrategies :
    (finalizeEntryLifecycleForPosition db positionId now).candidateStrategies
      = db.candidateStrategies := by
  obtain ⟨slots, reservations, h⟩ := finalizeEntryLifecycleForPosition_frame db positionId now
  rw [h]

@[simp] theorem finalizeEntryLifecycleForPosition_livePositions :
    (finalizeEntryLifecycleForPosition db positionId now).livePositions
      = db.livePositions := by
  obtain ⟨slots, reservations, h⟩ := finalizeEntryLifecycleForPosition_frame db positionId now
  rw [h]

@[simp] theorem finalizeEntryLifecycleForPosition_liveOrderLogs :
    (finalizeEntryLifecycleForPosition db positionId now).liveOrderLogs
      = db.liveOrderLogs := by
  obtain ⟨slots, reservations, h⟩ := finalizeEntryLifecycleForPosition_frame db positionId now
  rw [h]

@[simp] theorem finalizeEntryLifecycleForPosition_positionFillEvents :
    (finalizeEntryLifecycleForPosition db positionId now).positionFillEvents
      = db.positionFillEvents := by
  obtain ⟨slots, reservations, h⟩ := finalizeEntryLifecycleForPosition_frame db positionId now
  rw [h]

@[simp] theorem finalizeEntryLifecycleForPosition_orderApplicationLedger :
    (finalizeEntryLifecycleForPosition db positionId now).orderApplicationLedger
      = db.orderApplicationLedger := by
  obtain ⟨slots, reservations, h⟩ := finalizeEntryLifecycleForPosition_frame db positionId now
  rw [h]

@[simp] theorem finalizeEntryLifecycleForPosition_liveStrategySessions :
    (finalizeEntryLifecycleForPosition db positionId now).liveStrategySessions
      = db.liveStrategySessions := by
  obtain ⟨slots, reservations, h⟩ := finalizeEntryLifecycleForPosition_frame db positionId now
  rw [h]

end Frames

end AutoCoinBot
