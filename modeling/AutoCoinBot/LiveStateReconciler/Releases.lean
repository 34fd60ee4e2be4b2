/-
  LiveStateReconciler.Releases — whose slots a release takes.

  A reservation is tied to its slot by the slot's id, and the slot may have passed to another
  candidate since.
-/
import AutoCoinBot.LiveStateReconciler.Repairs

namespace AutoCoinBot

open Library

/-! ## Slots that are taken -/

/-- The slot is set to `EMPTY`, or its session is stopped. -/
def SlotTaken (before after : Database) (slot : PositionSlot) : Prop :=
  (slot.status ≠ .empty ∧ ∃ slot', after.positionSlots.get? slot.id = some slot'
      ∧ slot'.status = .empty)
    ∨ ∃ s s', slotSession before slot = some s ∧ s.status ≠ .stopped
        ∧ after.liveStrategySessions.get? s.id = some s' ∧ s'.status = .stopped

/-- A reservation of the slot that is active and has not expired. -/
def OrderReservation.holds (r : OrderReservation) (slotId : ℕ) (now : UtcTime) : Prop :=
  r.slotId = some slotId ∧ r.status.isActive = true ∧ r.isExpired now = false

/-- What a release takes, as the state before it has it: the slot it names, and every slot
of the idle session it names. -/
def SlotRelease.Takes (rel : SlotRelease) (db : Database) (slot : PositionSlot) : Prop :=
  (slot.status ≠ .empty ∧ rel.slotId = some slot.id)
    ∨ ∃ s, slotSession db slot = some s ∧ s.status ≠ .stopped ∧ rel.sessionId = some s.id
        ∧ s.isIdle = true

section Releases

variable (settings : ReconcilerSettings) (db : Database) (reason : String)
variable (status : ReservationStatus) (rels : List SlotRelease)

/-- A call takes slots of its own candidates only: every release that would take a slot is
of the slot's candidate, and no active reservation that has not expired is left to a slot
that is taken. -/
def TakesOwnSlots (after : Database) : Prop :=
  ∀ slot ∈ db.positionSlots.rows, SlotTaken db after slot →
    (∀ rel ∈ rels, SlotTaken db (releaseReservedSlot settings reason status db rel) slot →
      slot.candidateStrategyId = some rel.candidateId)
    ∧ ∀ r ∈ after.orderReservations.rows, ¬ r.holds slot.id settings.now

/-- A slot that a release takes has the candidate of that release, and every reservation
that holds it is closed by one of the releases. -/
def NamesOwnSlots (now : UtcTime) : Prop :=
  ∀ slot ∈ db.positionSlots.rows, ∀ rel ∈ rels, rel.Takes db slot →
    slot.candidateStrategyId = some rel.candidateId
      ∧ ∀ r ∈ db.orderReservations.rows, r.holds slot.id now →
          ∃ rel' ∈ rels, rel'.closes r = true

/-! ## What a batch of releases takes -/

variable {db rels} {slot : PositionSlot}

theorem slotSession_get? {s : LiveStrategySession} (h : slotSession db slot = some s) :
    db.liveStrategySessions.get? s.id = some s := by
  obtain ⟨id, -, hload⟩ := Option.bind_eq_some_iff.mp h
  have hrow : db.liveStrategySessions.get? id = some s := hload
  have hkey : s.id = id := Table.get?_some_rowId hrow
  rw [hkey]
  exact hrow

theorem slotTaken_releaseAll (hslot : slot ∈ db.positionSlots.rows) :
    SlotTaken db (releaseAll settings db reason status rels) slot
      ↔ ∃ rel ∈ rels, rel.Takes db slot := by
  have hrow : db.positionSlots.get? slot.id = some slot := Table.get?_of_mem hslot
  have hspec := slot_releaseAll settings db slot.id reason status rels
  rw [hrow] at hspec
  constructor
  · rintro (⟨hheld, slot', hafter, hempty⟩ | ⟨s, s', hsession, hruns, hafter, hstopped⟩)
    · by_cases hnamed : ∃ rel ∈ rels, rel.slotId = some slot.id
      · obtain ⟨rel, hrel, hid⟩ := hnamed
        exact ⟨rel, hrel, .inl ⟨hheld, hid⟩⟩
      · -- a slot that no release names keeps its row
        rw [hspec, Option.map_some, if_neg hnamed] at hafter
        rw [← Option.some.inj hafter] at hempty
        exact absurd hempty hheld
    · have hsessionSpec := session_releaseAll settings db s.id reason status rels
      rw [slotSession_get? hsession, hafter] at hsessionSpec
      by_cases hnamed : ∃ rel ∈ rels, rel.sessionId = some s.id ∧ s.isIdle = true
      · obtain ⟨rel, hrel, hid, hidle⟩ := hnamed
        exact ⟨rel, hrel, .inr ⟨s, hsession, hruns, hid, hidle⟩⟩
      -- the session of the slot is stopped by no other write of the batch
      · rw [Option.map_some, if_neg hnamed] at hsessionSpec
        rw [Option.some.inj hsessionSpec] at hstopped
        exact absurd hstopped hruns
  · rintro ⟨rel, hrel, ⟨hheld, hid⟩ | ⟨s, hsession, hruns, hid, hidle⟩⟩
    -- a later release of the batch leaves the slot empty
    · refine .inl ⟨hheld, slot.released reason settings.now, ?_, rfl⟩
      rw [hspec, Option.map_some, if_pos ⟨rel, hrel, hid⟩]
    · refine .inr ⟨s, s.merge (stopSessionUpdates reason status.text settings.now), hsession,
        hruns, ?_, rfl⟩
      rw [session_releaseAll, slotSession_get? hsession, Option.map_some,
        if_pos ⟨rel, hrel, hid, hidle⟩]

theorem slotTaken_releaseReservedSlot (hslot : slot ∈ db.positionSlots.rows) (rel : SlotRelease) :
    SlotTaken db (releaseReservedSlot settings reason status db rel) slot ↔ rel.Takes db slot := by
  have hbatch : SlotTaken db (releaseAll settings db reason status [rel]) slot
      ↔ ∃ rel' ∈ [rel], rel'.Takes db slot :=
    slotTaken_releaseAll settings reason status hslot
  refine hbatch.trans ?_
  constructor
  · rintro ⟨rel', hrel', htakes⟩
    rw [List.mem_singleton.mp hrel'] at htakes
    exact htakes
  · intro htakes
    exact ⟨rel, List.mem_singleton_self rel, htakes⟩

theorem not_holds_closedAs (hinactive : status.isActive = false) (r : OrderReservation)
    (slotId : ℕ) (now : UtcTime) : ¬ (r.closedAs status).holds slotId now := by
  rintro ⟨-, hactive, -⟩
  unfold OrderReservation.closedAs at hactive
  by_cases hwas : r.status.isActive = true
  · rw [if_pos hwas, hinactive] at hactive
    cases hactive
  · rw [if_neg hwas] at hactive
    exact hwas hactive

/-- **The reservations left to a slot** after a batch: every one that held it is closed by
some release. -/
theorem no_reservation_left_iff (hinactive : status.isActive = false) (slotId : ℕ) :
    (∀ r ∈ (releaseAll settings db reason status rels).orderReservations.rows,
        ¬ r.holds slotId settings.now)
      ↔ ∀ r ∈ db.orderReservations.rows, r.holds slotId settings.now →
          ∃ rel ∈ rels, rel.closes r = true := by
  constructor
  · intro hnone r hr hholds
    -- a reservation that no release closes is still there, and holds
    by_contra hopen
    have hspec := reservation_releaseAll settings db r.id reason status rels
    have hrow : db.orderReservations.get? r.id = some r := Table.get?_of_mem hr
    rw [hrow, Option.map_some, if_neg hopen] at hspec
    exact hnone r (Table.get?_some_mem hspec) hholds
  · intro hcloses r' hr' hholds
    have hafter : (releaseAll settings db reason status rels).orderReservations.get? r'.id
        = some r' := Table.get?_of_mem hr'
    rw [reservation_releaseAll] at hafter
    obtain ⟨r, hrow, heq⟩ := Option.map_eq_some_iff.mp hafter
    by_cases hclosed : ∃ rel ∈ rels, rel.closes r = true
    · rw [if_pos hclosed] at heq
      rw [← heq] at hholds
      exact not_holds_closedAs status hinactive r slotId settings.now hholds
    · rw [if_neg hclosed] at heq
      subst heq
      exact hclosed (hcloses r (Table.get?_some_mem hrow) hholds)

/-- **A batch takes slots of its own candidates only** exactly if the slots it names are
its own. -/
theorem takesOwnSlots_releaseAll_iff (hinactive : status.isActive = false) :
    TakesOwnSlots settings db reason status rels (releaseAll settings db reason status rels)
      ↔ NamesOwnSlots db rels settings.now := by
  constructor
  · intro hown slot hslot rel hrel htakes
    have htaken := (slotTaken_releaseAll settings reason status hslot).mpr ⟨rel, hrel, htakes⟩
    obtain ⟨hcandidate, hleft⟩ := hown slot hslot htaken
    refine ⟨hcandidate rel hrel ?_, ?_⟩
    · exact (slotTaken_releaseReservedSlot settings reason status hslot rel).mpr htakes
    · exact (no_reservation_left_iff settings reason status hinactive slot.id).mp hleft
  · intro hnames slot hslot htaken
    constructor
    · intro rel hrel hone
      have htakes := (slotTaken_releaseReservedSlot settings reason status hslot rel).mp hone
      exact (hnames slot hslot rel hrel htakes).1
    · obtain ⟨rel, hrel, htakes⟩ := (slotTaken_releaseAll settings reason status hslot).mp htaken
      refine (no_reservation_left_iff settings reason status hinactive slot.id).mpr ?_
      exact (hnames slot hslot rel hrel htakes).2

/-! ## The two repairs that release slots -/

variable (db)

/-- A reservation that `reconcile_expired_order_reservations` releases. -/
def ReleasesExpired (r : OrderReservation) : Prop :=
  r ∈ db.orderReservations.rows ∧ r.status.isActive = true ∧ r.isExpired settings.now = true
    ∧ reservationSafe db r = true

/-- A slot that `reconcile_reserved_entry_blocked_slots` releases. -/
def ReleasesBlocked (slot : PositionSlot) : Prop :=
  settings.releaseEnabled = true ∧ slot ∈ db.positionSlots.rows ∧ slot.isFree = true
    ∧ slot.candidateStrategyId.isSome = true ∧ blockedRepeatedly db settings slot = true
    ∧ (slotSession db slot).all LiveStrategySession.isIdle = true

theorem mem_findExpiredOrderReservations_iff {r : OrderReservation} :
    r ∈ findExpiredOrderReservations db settings.now ↔ ReleasesExpired settings db r := by
  unfold findExpiredOrderReservations ReleasesExpired
  rw [List.mem_filter, List.mem_insertionSort, Table.mem_select, Bool.and_eq_true]
  constructor
  · rintro ⟨⟨hrow, hactive, hexpired⟩, hsafe⟩
    exact ⟨hrow, hactive, hexpired, hsafe⟩
  · rintro ⟨hrow, hactive, hexpired, hsafe⟩
    exact ⟨⟨hrow, hactive, hexpired⟩, hsafe⟩

theorem mem_expiredReleases (rel : SlotRelease) :
    rel ∈ expiredReleases settings db
      ↔ ∃ r, ReleasesExpired settings db r ∧ expiredRelease db r = rel := by
  unfold expiredReleases
  rw [List.mem_map]
  exact exists_congr (fun r => and_congr (mem_findExpiredOrderReservations_iff settings db) Iff.rfl)

theorem mem_blockedReleases (rel : SlotRelease) :
    rel ∈ blockedReleases settings db
      ↔ ∃ slot, ReleasesBlocked settings db slot ∧ blockedRelease slot = rel := by
  unfold blockedReleases
  by_cases henabled : settings.releaseEnabled = true
  · rw [if_pos henabled, List.mem_map]
    refine exists_congr (fun slot => and_congr ?_ Iff.rfl)
    unfold findReservedEntryBlockedSlots slotsByNumber ReleasesBlocked
    rw [List.mem_filter, List.mem_insertionSort, Table.mem_select]
    simp only [Bool.and_eq_true]
    constructor
    · rintro ⟨⟨hslot, -, hcandidate⟩, ⟨hblocked, hfree⟩, hidle⟩
      exact ⟨henabled, hslot, hfree, hcandidate, hblocked, hidle⟩
    -- the probe asks for RESERVED before it looks at the rest
    · rintro ⟨-, hslot, hfree, hcandidate, hblocked, hidle⟩
      have hreserved : (slot.status == .reserved) = true :=
        beq_iff_eq.mpr (PositionSlot.isFree_iff.mp hfree).1
      exact ⟨⟨hslot, hreserved, hcandidate⟩, ⟨hblocked, hfree⟩, hidle⟩
  · rw [if_neg henabled]
    constructor
    · intro hmem
      cases hmem
    · rintro ⟨slot, ⟨hon, -⟩, -⟩
      exact absurd hon henabled

theorem closes_expiredRelease (q r : OrderReservation) :
    (expiredRelease db q).closes r = true
      ↔ q.candidateStrategyId = r.candidateStrategyId
        ∧ if idGiven q.slotId then r.slotId = q.slotId else q.market = r.market := by
  unfold SlotRelease.closes
  rw [Bool.and_eq_true, beq_iff_eq, eq_comm]
  refine and_congr Iff.rfl ?_
  by_cases hgiven : idGiven q.slotId = true
  · have hslotId : (expiredRelease db q).slotId = q.slotId := if_pos hgiven
    rw [hslotId, if_pos hgiven, if_pos hgiven, beq_iff_eq]
  · have hslotId : (expiredRelease db q).slotId = none := if_neg hgiven
    rw [hslotId, if_neg hgiven]
    show (r.market == q.market) = true ↔ _
    rw [beq_iff_eq, eq_comm]

theorem namesOwnSlots_iff_of_mem {ι : Type*} {P : ι → Prop} {f : ι → SlotRelease}
    (hmem : ∀ rel, rel ∈ rels ↔ ∃ x, P x ∧ f x = rel) (now : UtcTime) :
    NamesOwnSlots db rels now
      ↔ ∀ slot ∈ db.positionSlots.rows, ∀ x, P x → (f x).Takes db slot →
          slot.candidateStrategyId = some (f x).candidateId
            ∧ ∀ q ∈ db.orderReservations.rows, q.holds slot.id now →
                ∃ x', P x' ∧ (f x').closes q = true := by
  have hcloses : ∀ q : OrderReservation,
      (∃ rel ∈ rels, rel.closes q = true) ↔ ∃ x, P x ∧ (f x).closes q = true := by
    intro q
    constructor
    · rintro ⟨rel, hrel, hclosed⟩
      obtain ⟨x, hx, heq⟩ := (hmem rel).mp hrel
      rw [← heq] at hclosed
      exact ⟨x, hx, hclosed⟩
    · rintro ⟨x, hx, hclosed⟩
      exact ⟨f x, (hmem (f x)).mpr ⟨x, hx, rfl⟩, hclosed⟩
  unfold NamesOwnSlots
  simp only [hcloses]
  refine forall₂_congr (fun slot _ => ?_)
  constructor
  · intro h x hx
    exact h (f x) ((hmem (f x)).mpr ⟨x, hx, rfl⟩)
  · intro h rel hrel
    obtain ⟨x, hx, heq⟩ := (hmem rel).mp hrel
    rw [← heq]
    exact h x hx

/-- **When releases take slots of their own candidates only**: exactly if every slot taken
for an expired reservation, or with a blocked slot, has that one's candidate, and every
reservation that holds such a slot is closed by one of the releases. -/
theorem releases_takeOwnSlots_iff :
    (TakesOwnSlots settings db expiredReservationReason .expired (expiredReleases settings db)
        (reconcileExpiredOrderReservations settings db)
      ↔ ∀ slot ∈ db.positionSlots.rows, ∀ r, ReleasesExpired settings db r →
          (expiredRelease db r).Takes db slot →
            slot.candidateStrategyId = some r.candidateStrategyId
              ∧ ∀ q ∈ db.orderReservations.rows, q.holds slot.id settings.now →
                  ∃ r', ReleasesExpired settings db r' ∧ (expiredRelease db r').closes q = true)
    ∧ (TakesOwnSlots settings db reservedEntryBlockReason .released (blockedReleases settings db)
        (reconcileReservedEntryBlockedSlots settings db)
      ↔ ∀ slot ∈ db.positionSlots.rows, ∀ blocked, ReleasesBlocked settings db blocked →
          (blockedRelease blocked).Takes db slot →
            slot.candidateStrategyId = blocked.candidateStrategyId
              ∧ ∀ q ∈ db.orderReservations.rows, q.holds slot.id settings.now →
                  ∃ blocked', ReleasesBlocked settings db blocked'
                    ∧ (blockedRelease blocked').closes q = true) := by
  constructor
  · refine (takesOwnSlots_releaseAll_iff settings _ .expired rfl).trans ?_
    exact namesOwnSlots_iff_of_mem db (mem_expiredReleases settings db) settings.now
  · refine (takesOwnSlots_releaseAll_iff settings _ .released rfl).trans ?_
    refine (namesOwnSlots_iff_of_mem db (mem_blockedReleases settings db) settings.now).trans ?_
    refine forall₄_congr (fun slot _ blocked hblocked => ?_)
    -- the slot that is released has a candidate
    obtain ⟨candidateId, hcandidate⟩ := Option.isSome_iff_exists.mp hblocked.2.2.2.1
    have hid : some (blockedRelease blocked).candidateId = blocked.candidateStrategyId := by
      unfold blockedRelease
      rw [hcandidate]
      rfl
    rw [hid]

end Releases

/-- Slot 1 is reserved for candidate 2, whose reservation holds; the reservation candidate 1
had made for the slot is past its time. -/
def exampleReusedSlotDb : Database :=
  { positionSlots := Table.empty.insert
      (fun k =>
        { id := k, slotNumber := 1, status := .reserved, market := some "KRW-BTC"
          candidateStrategyId := some 2 })
      (fun _ => rfl)
    orderReservations := (Table.empty.insert
      (fun k =>
        { id := k, market := "KRW-BTC", candidateStrategyId := 1, slotId := some 1
          status := .orderSubmitted, expiresAtUtc := some 900 })
      (fun _ => rfl)).insert
      (fun k =>
        { id := k, market := "KRW-BTC", candidateStrategyId := 2, slotId := some 1
          status := .reserved, expiresAtUtc := some 1800 })
      (fun _ => rfl) }

theorem reused_slot_taken :
    ¬ TakesOwnSlots { now := 1000 } exampleReusedSlotDb expiredReservationReason .expired
      (expiredReleases { now := 1000 } exampleReusedSlotDb)
      (reconcileExpiredOrderReservations { now := 1000 } exampleReusedSlotDb) := by
  intro hown
  have htaken : SlotTaken exampleReusedSlotDb
      (reconcileExpiredOrderReservations { now := 1000 } exampleReusedSlotDb)
      { id := 1, slotNumber := 1, status := .reserved, market := some "KRW-BTC"
        candidateStrategyId := some 2 } :=
    .inl ⟨by decide, { id := 1, slotNumber := 1, entryReason := some expiredReservationReason
                       updatedAt := 1000 }, by decide +kernel, rfl⟩
  have hleft := (hown _ (by decide +kernel) htaken).2
  exact hleft
    { id := 2, market := "KRW-BTC", candidateStrategyId := 2, slotId := some 1
      status := .reserved, expiresAtUtc := some 1800 }
    (by decide +kernel) ⟨rfl, rfl, by decide⟩

end AutoCoinBot
