/-
  LiveStateReconciler.InFlight — whether a slot is freed while its entry order
  may be at the exchange.

  Four paths free slots.
-/
import AutoCoinBot.Database.SlotReconcile
import AutoCoinBot.LiveStateReconciler.Releases

namespace AutoCoinBot

open Library

/-! ## The paths -/

/-- The functions that free slots; the last one is run by every `load_position_slots`. -/
inductive ReconcilePath where
  | expiredReservations
  | mismatchedSlots
  | blockedEntries
  | positionSlots (maxSlots : ℕ) (exchange : String)

/-- The state in which a path has freed what it frees; `reconcile_position_slots` goes on
from there to write positions into slots. -/
def ReconcilePath.free (settings : ReconcilerSettings) (db : Database) : ReconcilePath → Database
  | .expiredReservations => reconcileExpiredOrderReservations settings db
  | .mismatchedSlots => reconcileMismatchedPositionSlotSessions settings db
  | .blockedEntries => reconcileReservedEntryBlockedSlots settings db
  | .positionSlots maxSlots exchange =>
    clearPositionSlots (ensurePositionSlots db maxSlots exchange settings.now) exchange
      settings.now

/-- The slot is reserved under an entry order, or its session has an open order. -/
def EntryInFlight (db : Database) (slot : PositionSlot) : Prop :=
  (slot.status = .reserved ∧ textGiven slot.entryOrderUuid = true)
    ∨ ∃ s, slotSession db slot = some s ∧ textGiven s.currentOpenOrderUuid = true

/-- A reservation of the slot whose order has been sent. -/
def SubmittedFor (db : Database) (slot : PositionSlot) (r : OrderReservation) : Prop :=
  r ∈ db.orderReservations.rows ∧ r.slotId = some slot.id ∧ r.status = .orderSubmitted

/-- No slot whose entry may be in flight is set to `EMPTY`, and no reservation of its sent
order to `EXPIRED`. -/
def SparesInFlight (before after : Database) : Prop :=
  ∀ slot ∈ before.positionSlots.rows, EntryInFlight before slot →
    (slot.status ≠ .empty → ∀ slot', after.positionSlots.get? slot.id = some slot' →
      slot'.status ≠ .empty)
    ∧ ∀ r, SubmittedFor before slot r → ∀ r', after.orderReservations.get? r.id = some r' →
        r'.status ≠ .expired

/-- A reservation without a slot that has expired, for the candidate and the market of
another. -/
def ExpiresWith (db : Database) (now : UtcTime) (r : OrderReservation) : Prop :=
  ∃ q ∈ db.orderReservations.rows, q.status.isActive = true ∧ q.isExpired now = true
    ∧ idGiven q.slotId = false ∧ q.candidateStrategyId = r.candidateStrategyId
    ∧ q.market = r.market

/-- What a path asks of a slot in flight, to spare it. -/
def ReconcilePath.Overlooks (settings : ReconcilerSettings) (db : Database)
    (slot : PositionSlot) : ReconcilePath → Prop
  | .expiredReservations => ∃ r, SubmittedFor db slot r ∧ ExpiresWith db settings.now r
  | .mismatchedSlots =>
    slot.isFree = true ∧ ∃ s, slotSession db slot = some s ∧ slot.differsFrom s = true
  | .blockedEntries => False
  | .positionSlots _ exchange =>
    slotUnreserved db exchange settings.now slot = true
      ∨ (slot.status ≠ .empty ∧ slotInactive db exchange slot = true)
      ∨ ∃ r, SubmittedFor db slot r ∧ r.exchange = exchange ∧ r.isPast settings.now = true

section Paths

variable (settings : ReconcilerSettings) {db : Database} {slot : PositionSlot}

/-! ## The repairs with a probe -/

theorem not_inFlight_of_isFree (hfree : slot.isFree = true)
    (hidle : (slotSession db slot).all LiveStrategySession.isIdle = true) :
    ¬ EntryInFlight db slot := by
  rintro (⟨-, huuid⟩ | ⟨s, hsession, huuid⟩)
  · rw [(PositionSlot.isFree_iff.mp hfree).2.2] at huuid
    cases huuid
  · rw [hsession] at hidle
    have hno : s.isIdle = true := hidle
    unfold LiveStrategySession.isIdle at hno
    rw [huuid] at hno
    cases hno

theorem session_order_of_isFree (hflight : EntryInFlight db slot) (hfree : slot.isFree = true) :
    ∃ s, slotSession db slot = some s ∧ textGiven s.currentOpenOrderUuid = true := by
  rcases hflight with ⟨-, huuid⟩ | hsession
  · rw [(PositionSlot.isFree_iff.mp hfree).2.2] at huuid
    cases huuid
  · exact hsession

theorem SubmittedFor.not_expired {r : OrderReservation} (h : SubmittedFor db slot r) :
    r.status ≠ .expired := by
  rw [h.2.2]
  decide

theorem sparesInFlight_of_kept {after : Database}
    (hslots : ∀ slot ∈ db.positionSlots.rows, EntryInFlight db slot → slot.status ≠ .empty →
      after.positionSlots.get? slot.id = some slot)
    (hreservations : ∀ slot ∈ db.positionSlots.rows, EntryInFlight db slot →
      ∀ r, SubmittedFor db slot r → after.orderReservations.get? r.id = some r) :
    SparesInFlight db after := by
  intro slot hslot hflight
  constructor
  · intro hheld slot' hafter
    rw [hslots slot hslot hflight hheld] at hafter
    rw [← Option.some.inj hafter]
    exact hheld
  · intro r hr r' hafter
    rw [hreservations slot hslot hflight r hr] at hafter
    rw [← Option.some.inj hafter]
    exact hr.not_expired

theorem expiredRelease_slotId_ne (hslot : slot ∈ db.positionSlots.rows)
    (hflight : EntryInFlight db slot) {r : OrderReservation} (hr : ReleasesExpired settings db r) :
    (expiredRelease db r).slotId ≠ some slot.id := by
  intro hid
  have hslotId : r.slotId = some slot.id := by
    unfold expiredRelease at hid
    dsimp only at hid
    split at hid
    · exact hid
    · cases hid
  have hget : reservationSlot db r = some slot := by
    unfold reservationSlot
    rw [hslotId]
    exact Table.get?_of_mem hslot
  have hsafe := hr.2.2.2
  unfold reservationSafe at hsafe
  rw [hget] at hsafe
  obtain ⟨hfree, hidle⟩ := Bool.and_eq_true_iff.mp hsafe
  exact not_inFlight_of_isFree hfree hidle hflight

theorem reservationSafe_of_no_slot {q : OrderReservation} (hno : idGiven q.slotId = false) :
    reservationSafe db q = true := by
  have hslot : reservationSlot db q = none := by
    unfold reservationSlot
    cases hid : q.slotId with
    | none => rfl
    | some k =>
      rw [hid] at hno
      cases hget : db.positionSlots.get? k with
      | none => exact hget
      | some s =>
        rw [idGiven_some (Table.get?_pos hget)] at hno
        cases hno
  unfold reservationSafe
  rw [hslot]
  rfl

/-- **Expired reservations**: the slots in flight stay; the reservation of a sent order
expires with one that has no slot. -/
theorem expired_spares_iff :
    SparesInFlight db (reconcileExpiredOrderReservations settings db)
      ↔ ∀ slot ∈ db.positionSlots.rows, EntryInFlight db slot →
          ¬ ReconcilePath.expiredReservations.Overlooks settings db slot := by
  constructor
  -- a release without a slot closes by candidate and market, and meets `r`
  · rintro hspares slot hslot hflight ⟨r, hr, q, hq, hactive, hexpired, hno, hcandidate, hmarket⟩
    have hrow : db.orderReservations.get? r.id = some r := Table.get?_of_mem hr.1
    have hrel : expiredRelease db q ∈ expiredReleases settings db :=
      (mem_expiredReleases settings db _).mpr
        ⟨q, ⟨hq, hactive, hexpired, reservationSafe_of_no_slot hno⟩, rfl⟩
    have hcloses : (expiredRelease db q).closes r = true := by
      rw [closes_expiredRelease, hno]
      exact ⟨hcandidate, hmarket⟩
    have hspec := reservation_releaseAll settings db r.id expiredReservationReason .expired
      (expiredReleases settings db)
    rw [hrow, Option.map_some, if_pos ⟨_, hrel, hcloses⟩] at hspec
    refine (hspares slot hslot hflight).2 r hr _ hspec ?_
    unfold OrderReservation.closedAs
    rw [hr.2.2]
    rfl
  · intro h
    refine sparesInFlight_of_kept ?_ ?_
    · intro slot hslot hflight _
      have hnot : ¬ ∃ rel ∈ expiredReleases settings db, rel.slotId = some slot.id := by
        rintro ⟨rel, hrel, hid⟩
        obtain ⟨r, hr, heq⟩ := (mem_expiredReleases settings db rel).mp hrel
        rw [← heq] at hid
        exact expiredRelease_slotId_ne settings hslot hflight hr hid
      have hrow : db.positionSlots.get? slot.id = some slot := Table.get?_of_mem hslot
      unfold reconcileExpiredOrderReservations
      rw [slot_releaseAll, hrow, Option.map_some, if_neg hnot]
    · intro slot hslot hflight r hr
      have hnot : ¬ ∃ rel ∈ expiredReleases settings db, rel.closes r = true := by
        rintro ⟨rel, hrel, hcloses⟩
        obtain ⟨q, hq, heq⟩ := (mem_expiredReleases settings db rel).mp hrel
        rw [← heq] at hcloses
        obtain ⟨hcandidate, hwhere⟩ := (closes_expiredRelease db q r).mp hcloses
        by_cases hgiven : idGiven q.slotId = true
        · -- a release with a slot closes that slot's reservations
          rw [if_pos hgiven, hr.2.1] at hwhere
          have hrelSlot : (expiredRelease db q).slotId = q.slotId := if_pos hgiven
          exact expiredRelease_slotId_ne settings hslot hflight hq (hrelSlot.trans hwhere.symm)
        · rw [if_neg hgiven] at hwhere
          exact h slot hslot hflight
            ⟨r, hr, q, hq.1, hq.2.1, hq.2.2.1, Bool.eq_false_iff.mpr hgiven, hcandidate, hwhere⟩
      have hrow : db.orderReservations.get? r.id = some r := Table.get?_of_mem hr.1
      unfold reconcileExpiredOrderReservations
      rw [reservation_releaseAll, hrow, Option.map_some, if_neg hnot]

/-- **Mismatched slots**: a free slot of a session with an open order is emptied if it
differs from it. -/
theorem mismatched_spares_iff :
    SparesInFlight db (reconcileMismatchedPositionSlotSessions settings db)
      ↔ ∀ slot ∈ db.positionSlots.rows, EntryInFlight db slot →
          ¬ ReconcilePath.mismatchedSlots.Overlooks settings db slot := by
  constructor
  · rintro hspares slot hslot hflight ⟨hfree, s, hsession, hdiffers⟩
    have hnames : slot.liveStrategySessionId.isSome = true := by
      obtain ⟨id, hid, -⟩ := Option.bind_eq_some_iff.mp hsession
      rw [hid]
      rfl
    have hitem : slot ∈ findMismatchedPositionSlotSessions db := by
      refine (mem_findMismatched_iff db).mpr ⟨hslot, hfree, hnames, ?_⟩
      rw [hsession]
      exact hdiffers
    have hspec := slot_reconcileMismatched settings db slot.id
    have hrow : db.positionSlots.get? slot.id = some slot := Table.get?_of_mem hslot
    rw [hrow, Option.map_some, if_pos ⟨slot, hitem, rfl⟩] at hspec
    -- the slot was RESERVED, so being EMPTY is a change
    refine (hspares slot hslot hflight).1 ?_ _ hspec rfl
    rw [(PositionSlot.isFree_iff.mp hfree).1]
    decide
  · intro h
    have hnot : ∀ slot ∈ db.positionSlots.rows, EntryInFlight db slot →
        ∀ item ∈ findMismatchedPositionSlotSessions db, slot.id ≠ item.id := by
      intro slot hslot hflight item hitem hid
      obtain ⟨hmem, hfree, -, hdiffers⟩ := (mem_findMismatched_iff db).mp hitem
      have heq : slot = item := Table.eq_of_rowId_eq hslot hmem hid
      subst heq
      obtain ⟨s, hsession, -⟩ := session_order_of_isFree hflight hfree
      rw [hsession] at hdiffers
      exact h slot hslot hflight ⟨hfree, s, hsession, hdiffers⟩
    refine sparesInFlight_of_kept ?_ ?_
    · intro slot hslot hflight _
      have hunlisted : ¬ ∃ item ∈ findMismatchedPositionSlotSessions db, slot.id = item.id :=
        fun ⟨item, hitem, hid⟩ => hnot slot hslot hflight item hitem hid
      have hrow : db.positionSlots.get? slot.id = some slot := Table.get?_of_mem hslot
      rw [slot_reconcileMismatched, hrow, Option.map_some, if_neg hunlisted]
    · intro slot hslot hflight r hr
      have hunlisted :
          ¬ ∃ item ∈ findMismatchedPositionSlotSessions db, r.slotId = some item.id := by
        rintro ⟨item, hitem, hid⟩
        rw [hr.2.1] at hid
        exact hnot slot hslot hflight item hitem (Option.some.inj hid)
      have hrow : db.orderReservations.get? r.id = some r := Table.get?_of_mem hr.1
      rw [reservation_reconcileMismatched, hrow, Option.map_some, if_neg hunlisted]

/-- **Blocked entries**: nothing in flight is touched, and what is closed is released, not
expired. -/
theorem blocked_spares : SparesInFlight db (reconcileReservedEntryBlockedSlots settings db) := by
  intro slot hslot hflight
  constructor
  · intro hheld slot' hafter
    have hspec := slot_releaseAll settings db slot.id reservedEntryBlockReason .released
      (blockedReleases settings db)
    have hrow : db.positionSlots.get? slot.id = some slot := Table.get?_of_mem hslot
    have hnot : ¬ ∃ rel ∈ blockedReleases settings db, rel.slotId = some slot.id := by
      rintro ⟨rel, hrel, hid⟩
      obtain ⟨blocked, ⟨-, hmem, hfree, -, -, hidle⟩, heq⟩ :=
        (mem_blockedReleases settings db rel).mp hrel
      rw [← heq] at hid
      have hsame : blocked = slot := Table.eq_of_rowId_eq hmem hslot (Option.some.inj hid)
      subst hsame
      exact not_inFlight_of_isFree hfree hidle hflight
    rw [hrow, Option.map_some, if_neg hnot] at hspec
    have heq : slot = slot' := Option.some.inj (hspec.symm.trans hafter)
    rw [← heq]
    exact hheld
  · intro r hr r' hafter
    have hspec := reservation_releaseAll settings db r.id reservedEntryBlockReason .released
      (blockedReleases settings db)
    have hrow : db.orderReservations.get? r.id = some r := Table.get?_of_mem hr.1
    rw [hrow, Option.map_some] at hspec
    have heq := Option.some.inj (hspec.symm.trans hafter)
    rw [← heq]
    have hactive : r.status.isActive = true := by
      rw [hr.2.2]
      rfl
    -- closed or not, it does not become EXPIRED
    have hreleased : r.closedAs .released = { r with status := .released } := if_pos hactive
    intro hexpired
    by_cases hcloses : ∃ rel ∈ blockedReleases settings db, rel.closes r = true
    · rw [if_pos hcloses, hreleased] at hexpired
      cases hexpired
    · rw [if_neg hcloses, hr.2.2] at hexpired
      cases hexpired

/-! ## The bulk update -/

theorem slotUnreserved_ensure (maxSlots : ℕ) (exchange other : String) (now : UtcTime) :
    slotUnreserved (ensurePositionSlots db maxSlots exchange now) other now slot
      = slotUnreserved db other now slot := by
  unfold slotUnreserved
  rw [ensurePositionSlots_orderReservations]

theorem slotInactive_ensure (maxSlots : ℕ) (exchange other : String) (now : UtcTime) :
    slotInactive (ensurePositionSlots db maxSlots exchange now) other slot
      = slotInactive db other slot := by
  unfold slotInactive activeOn loadLivePosition
  rw [ensurePositionSlots_livePositions]

theorem slot_free_positionSlots (maxSlots : ℕ) (exchange : String)
    (hslot : slot ∈ db.positionSlots.rows) :
    (ReconcilePath.free settings db (.positionSlots maxSlots exchange)).positionSlots.get? slot.id
      = some (if slotUnreserved db exchange settings.now slot = true
          ∨ slotInactive db exchange slot = true then slot.cleared settings.now else slot) := by
  have hrow : db.positionSlots.get? slot.id = some slot := Table.get?_of_mem hslot
  show (clearPositionSlots _ _ _).positionSlots.get? slot.id = _
  rw [slot_clearPositionSlots, slot_ensurePositionSlots db maxSlots exchange settings.now hrow,
    Option.map_some, slotUnreserved_ensure, slotInactive_ensure]

theorem positionSlots_spares_iff (maxSlots : ℕ) (exchange : String) :
    SparesInFlight db (ReconcilePath.free settings db (.positionSlots maxSlots exchange))
      ↔ ∀ slot ∈ db.positionSlots.rows, EntryInFlight db slot →
          ¬ (ReconcilePath.positionSlots maxSlots exchange).Overlooks settings db slot := by
  have hreservations : ∀ r ∈ db.orderReservations.rows,
      (ReconcilePath.free settings db (.positionSlots maxSlots exchange)).orderReservations.get? r.id
        = some (if r.exchange = exchange ∧ (r.status = .pending ∨ r.status.isActive = true)
            ∧ r.isPast settings.now = true then { r with status := .expired } else r) := by
    intro r hr
    have hrow : db.orderReservations.get? r.id = some r := Table.get?_of_mem hr
    show (clearPositionSlots _ _ _).orderReservations.get? r.id = _
    rw [reservation_clearPositionSlots, ensurePositionSlots_orderReservations, hrow]
    rfl
  constructor
  · rintro hspares slot hslot hflight (hunreserved | ⟨hheld, hinactive⟩ | ⟨r, hr, hexchange, hpast⟩)
    · have hspec := slot_free_positionSlots settings maxSlots exchange hslot
      rw [if_pos (.inl hunreserved)] at hspec
      refine (hspares slot hslot hflight).1 ?_ _ hspec rfl
      -- an EMPTY slot is none that the second statement means
      intro hempty
      unfold slotUnreserved at hunreserved
      rw [hempty] at hunreserved
      simp at hunreserved
    · have hspec := slot_free_positionSlots settings maxSlots exchange hslot
      rw [if_pos (.inr hinactive)] at hspec
      exact (hspares slot hslot hflight).1 hheld _ hspec rfl
    · have hspec := hreservations r hr.1
      have hactive : r.status.isActive = true := by
        rw [hr.2.2]
        rfl
      rw [if_pos ⟨hexchange, .inr hactive, hpast⟩] at hspec
      exact (hspares slot hslot hflight).2 r hr _ hspec rfl
  · intro h
    refine sparesInFlight_of_kept ?_ ?_
    · intro slot hslot hflight hheld
      have hkept : ¬ (slotUnreserved db exchange settings.now slot = true
          ∨ slotInactive db exchange slot = true) := by
        rintro (hunreserved | hinactive)
        · exact h slot hslot hflight (.inl hunreserved)
        · exact h slot hslot hflight (.inr (.inl ⟨hheld, hinactive⟩))
      rw [slot_free_positionSlots settings maxSlots exchange hslot, if_neg hkept]
    · intro slot hslot hflight r hr
      have hkept : ¬ (r.exchange = exchange ∧ (r.status = .pending ∨ r.status.isActive = true)
          ∧ r.isPast settings.now = true) :=
        fun ⟨hexchange, _, hpast⟩ => h slot hslot hflight (.inr (.inr ⟨r, hr, hexchange, hpast⟩))
      rw [hreservations r hr.1, if_neg hkept]

/-! ## All four -/

/-- **When a path frees no slot whose entry may be in flight**: exactly if it overlooks no
such slot. -/
theorem inFlight_spared_iff (path : ReconcilePath) :
    SparesInFlight db (path.free settings db)
      ↔ ∀ slot ∈ db.positionSlots.rows, EntryInFlight db slot →
          ¬ path.Overlooks settings db slot := by
  cases path with
  | expiredReservations => exact expired_spares_iff settings
  | mismatchedSlots => exact mismatched_spares_iff settings
  | blockedEntries =>
    constructor
    · intro _ slot _ _ hfalse
      exact hfalse
    · intro _
      exact blocked_spares settings
  | positionSlots maxSlots exchange => exact positionSlots_spares_iff settings maxSlots exchange

end Paths

/-- Slot 1 is reserved for session 1, whose entry order is open; the reservation of the order
is past its time. -/
def exampleInFlightDb : Database :=
  { liveStrategySessions := Table.empty.insert
      (fun k =>
        { id := k, market := "KRW-BTC", candidateStrategyId := 1, status := .running
          autoEnabled := true, currentOpenOrderUuid := some "C0101000000001" }) Eq.refl
    positionSlots := Table.empty.insert
      (fun k =>
        { id := k, slotNumber := 1, status := .reserved, market := some "KRW-BTC"
          candidateStrategyId := some 1, liveStrategySessionId := some 1 }) Eq.refl
    orderReservations := Table.empty.insert
      (fun k =>
        { id := k, market := "KRW-BTC", candidateStrategyId := 1, slotId := some 1
          status := .orderSubmitted, expiresAtUtc := some 900 }) Eq.refl }

theorem inFlight_slot_freed :
    ¬ SparesInFlight exampleInFlightDb
        (reconcilePositionSlots exampleInFlightDb 5 "bithumb" 1000) := by
  intro h
  have hflight : EntryInFlight exampleInFlightDb
      { id := 1, slotNumber := 1, status := .reserved, market := some "KRW-BTC"
        candidateStrategyId := some 1, liveStrategySessionId := some 1 } :=
    .inr ⟨{ id := 1, market := "KRW-BTC", candidateStrategyId := 1, status := .running
            autoEnabled := true, currentOpenOrderUuid := some "C0101000000001" },
      by decide +kernel, by decide +kernel⟩
  have hspared := (h _ (by decide +kernel) hflight).1 (by decide)
  exact hspared
    { id := 1, slotNumber := 1, closedAt := some 1000, updatedAt := 1000 } (by decide +kernel) rfl

end AutoCoinBot
