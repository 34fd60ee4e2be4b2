/-
  LiveStateReconciler.Exposure — whether a pass stops a session that still owns
  exposure on the exchange.

  Five repairs stop sessions. All but one look at the session first; the repair of mismatched slots
  stops the session a slot names whatever it holds.
-/
import AutoCoinBot.LiveStateReconciler.Outcomes

namespace AutoCoinBot

open Library

/-! ## Exposure -/

section Exposure

variable (settings : ReconcilerSettings) (db : Database)

/-- The session points to an active position of its own. -/
def pointsToOwn (s : LiveStrategySession) : Bool :=
  s.currentPositionId.any (fun id => (loadLivePosition db id).any (fun p =>
    p.status.isActive && p.sessionId == s.id))

/-- The session has an open order, or an active position of its own. -/
def ownsExposure (s : LiveStrategySession) : Bool :=
  textGiven s.currentOpenOrderUuid || pointsToOwn db s

/-- A pass leaves every exposed session that runs unstopped. -/
def SparesExposed : Prop :=
  ∀ s ∈ db.liveStrategySessions.rows, ownsExposure db s = true → s.status ≠ .stopped →
    ∃ s', loadLiveStrategySession (reconcileLiveState settings db) s.id = some s'
      ∧ s'.status ≠ .stopped

/-- A free slot names the session and differs from it in market or candidate. -/
def NamedByMismatchedSlot (s : LiveStrategySession) : Prop :=
  ∃ slot ∈ db.positionSlots.rows, slot.liveStrategySessionId = some s.id
    ∧ slot.isFree = true ∧ slot.differsFrom s = true

/-- The session waits or runs, its position is not active and nothing replaces it, and its
order uuid is made of blanks. -/
def StaleWithBlankOrder (s : LiveStrategySession) : Prop :=
  isStale db s = true ∧ replacementOpenPosition db s = none
    ∧ blankText s.currentOpenOrderUuid = true

/-! ## What keeps a session -/

variable {db} {s : LiveStrategySession} {k : ℕ}

theorem pointsToOwn_iff : pointsToOwn db s = true ↔ ∃ id p, s.currentPositionId = some id
    ∧ loadLivePosition db id = some p ∧ p.status.isActive = true ∧ p.sessionId = s.id := by
  unfold pointsToOwn
  rw [Option.any_eq_true]
  constructor
  · rintro ⟨id, hid, hposition⟩
    obtain ⟨p, hp, howner⟩ := (Option.any_eq_true _ _).mp hposition
    obtain ⟨hactive, hsession⟩ := Bool.and_eq_true_iff.mp howner
    exact ⟨id, p, hid, hp, hactive, beq_iff_eq.mp hsession⟩
  · rintro ⟨id, p, hid, hp, hactive, hsession⟩
    refine ⟨id, hid, (Option.any_eq_true _ _).mpr ⟨p, hp, ?_⟩⟩
    rw [hactive, hsession, beq_self_eq_true, Bool.and_self]

theorem not_isIdle_of_ownsExposure (h : ownsExposure db s = true) : s.isIdle = false := by
  unfold LiveStrategySession.isIdle
  rcases Bool.or_eq_true_iff.mp h with huuid | howns
  · rw [huuid]
    rfl
  · obtain ⟨id, p, hid, hp, -, -⟩ := pointsToOwn_iff.mp howns
    have hgiven : idGiven s.currentPositionId = true := by
      rw [hid]
      exact idGiven_some (Table.get?_pos hp)
    rw [hgiven]
    simp

theorem not_isStale_of_pointsToOwn (h : pointsToOwn db s = true) : isStale db s = false := by
  obtain ⟨id, p, hid, hp, hactive, -⟩ := pointsToOwn_iff.mp h
  have hpoints : pointsToActive db s = true := by
    unfold pointsToActive
    rw [hid]
    show (loadLivePosition db id).any _ = true
    rw [hp]
    exact hactive
  unfold isStale
  rw [hpoints]
  simp

theorem not_pointsToForeign_of_pointsToOwn (h : pointsToOwn db s = true) :
    pointsToForeign db s = false := by
  obtain ⟨id, p, hid, hp, -, hsession⟩ := pointsToOwn_iff.mp h
  unfold pointsToForeign
  rw [hid]
  show (loadLivePosition db id).any _ = false
  rw [hp]
  show (p.status.isActive && s.id != p.sessionId) = false
  rw [hsession]
  simp

/-- **The stale repair keeps an exposed session** unless its order uuid is blank: it may
move the position pointer of one with an open order. -/
theorem exposed_reconcileStale (hrow : db.liveStrategySessions.get? k = some s)
    (h : ownsExposure db s = true) (hblank : ¬ StaleWithBlankOrder db s) :
    ∃ s', (reconcileStaleLiveStrategySessions settings db).liveStrategySessions.get? k = some s'
      ∧ ownsExposure (reconcileStaleLiveStrategySessions settings db) s' = true
      ∧ s'.status = s.status ∧ s'.id = s.id ∧ s'.market = s.market
      ∧ s'.candidateStrategyId = s.candidateStrategyId := by
  have hspec := session_reconcileStale settings db k
  rw [hrow] at hspec
  have hpositions : ∀ x, ownsExposure (reconcileStaleLiveStrategySessions settings db) x
      = ownsExposure db x := by
    intro x
    unfold ownsExposure pointsToOwn loadLivePosition
    rw [reconcileStale_livePositions]
  by_cases hstale : isStale db s = true
  · -- the pointer is stale, so the exposure is the open order
    have huuid : textGiven s.currentOpenOrderUuid = true := by
      rcases Bool.or_eq_true_iff.mp h with huuid | howns
      · exact huuid
      · rw [not_isStale_of_pointsToOwn howns] at hstale
        cases hstale
    have hkeeps : stopsStale db s = false := by
      rw [Bool.eq_false_iff]
      intro hstops
      obtain ⟨hnone, hspace⟩ := Bool.and_eq_true_iff.mp hstops
      exact hblank ⟨hstale, Option.isNone_iff_eq_none.mp hnone, hspace⟩
    refine ⟨s.merge (staleUpdates settings db s), ?_, ?_, ?_, rfl, rfl, rfl⟩
    · rw [hspec]
      show some (if isStale db s = true then _ else s) = _
      rw [if_pos hstale]
    · rw [hpositions]
      unfold ownsExposure staleUpdates
      rw [hkeeps]
      exact Bool.or_eq_true_iff.mpr (.inl huuid)
    · unfold staleUpdates
      rw [hkeeps]
      rfl
  · refine ⟨s, ?_, (hpositions s).trans h, rfl, rfl, rfl, rfl⟩
    rw [hspec]
    show some (if isStale db s = true then _ else s) = _
    rw [if_neg hstale]

theorem mem_findMismatched_of_named (hrow : db.liveStrategySessions.get? k = some s)
    {slot : PositionSlot} (hslot : slot ∈ db.positionSlots.rows)
    (hnames : slot.liveStrategySessionId = some k) (hfree : slot.isFree = true)
    (hdiffers : slot.differsFrom s = true) :
    slot ∈ findMismatchedPositionSlotSessions db := by
  have hsession : slotSession db slot = some s := by
    unfold slotSession
    rw [hnames]
    exact hrow
  refine (mem_findMismatched_iff db).mpr ⟨hslot, hfree, ?_, ?_⟩
  · rw [hnames]
    rfl
  · rw [hsession]
    exact hdiffers

theorem named_of_mem_findMismatched (hrow : db.liveStrategySessions.get? k = some s)
    {slot : PositionSlot} (hmem : slot ∈ findMismatchedPositionSlotSessions db)
    (hnames : slot.liveStrategySessionId = some k) :
    slot ∈ db.positionSlots.rows ∧ slot.isFree = true ∧ slot.differsFrom s = true := by
  obtain ⟨hslot, hfree, -, hdiffers⟩ := (mem_findMismatched_iff db).mp hmem
  have hsession : slotSession db slot = some s := by
    unfold slotSession
    rw [hnames]
    exact hrow
  rw [hsession] at hdiffers
  exact ⟨hslot, hfree, hdiffers⟩

theorem exposed_reconcileMismatched (hrow : db.liveStrategySessions.get? k = some s)
    (hnamed : ¬ NamedByMismatchedSlot db s) :
    (reconcileMismatchedPositionSlotSessions settings db).liveStrategySessions.get? k = some s := by
  have hkey : s.id = k := Table.get?_some_rowId hrow
  rw [session_reconcileMismatched, hrow]
  refine congrArg some (if_neg ?_)
  rintro ⟨item, hitem, hnames⟩
  obtain ⟨hslot, hfree, hdiffers⟩ := named_of_mem_findMismatched hrow hitem hnames
  exact hnamed ⟨item, hslot, by rw [hnames, hkey], hfree, hdiffers⟩

theorem ownsExposure_congr {d : Database} (h : d.livePositions = db.livePositions) :
    ownsExposure d s = ownsExposure db s := by
  unfold ownsExposure pointsToOwn loadLivePosition
  rw [h]

/-- The row is stored under the key, and exposed. -/
def StoresExposed (d : Database) (k : ℕ) (s : LiveStrategySession) : Prop :=
  d.liveStrategySessions.get? k = some s ∧ ownsExposure d s = true

theorem StoresExposed.of_row {d : Database} (h : StoresExposed db k s)
    (hpositions : d.livePositions = db.livePositions)
    (hrow : d.liveStrategySessions.get? k = some s) : StoresExposed d k s :=
  ⟨hrow, (ownsExposure_congr hpositions).trans h.2⟩

theorem StoresExposed.releaseAll (h : StoresExposed db k s) (reason : String)
    (status : ReservationStatus) (rels : List SlotRelease) :
    StoresExposed (AutoCoinBot.releaseAll settings db reason status rels) k s := by
  refine h.of_row (releaseAll_livePositions settings db reason status rels) ?_
  rw [session_releaseAll, h.1]
  refine congrArg some (if_neg ?_)
  rintro ⟨rel, -, -, hidle⟩
  rw [not_isIdle_of_ownsExposure h.2] at hidle
  cases hidle

theorem StoresExposed.reconcilePointer (h : StoresExposed db k s) :
    StoresExposed (reconcileReservedSlotSessionPointer settings db) k s := by
  refine h.of_row (reconcileReservedSlotSessionPointer_livePositions settings db) ?_
  rw [session_reconcileReservedSlotSessionPointer, h.1]
  refine congrArg some (if_neg ?_)
  rintro ⟨item, -, -, hidle⟩
  rw [not_isIdle_of_ownsExposure h.2, Bool.and_false] at hidle
  cases hidle

theorem StoresExposed.reconcileEntryFill (h : StoresExposed db k s) :
    StoresExposed (reconcileEntryFillLifecycles settings db) k s := by
  refine h.of_row (reconcileEntryFill_livePositions settings db) ?_
  rw [reconcileEntryFill_liveStrategySessions]
  exact h.1

theorem StoresExposed.reconcileDuplicate (h : StoresExposed db k s) :
    StoresExposed (reconcileDuplicatePositionSessions settings db) k s := by
  refine h.of_row (reconcileDuplicate_livePositions settings db) ?_
  rw [session_reconcileDuplicate, h.1]
  refine congrArg some (if_neg ?_)
  rintro ⟨item, hitem, hkey⟩
  obtain ⟨hmem, hlisted⟩ := Table.mem_select.mp hitem
  have hid : s.id = k := Table.get?_some_rowId h.1
  have heq : item = s :=
    Table.eq_of_rowId_eq hmem (Table.get?_some_mem h.1) (hkey.symm.trans hid.symm)
  subst heq
  simp only [Bool.and_eq_true, Bool.not_eq_true'] at hlisted
  -- an open order fails the guard of the probe, an own position its join
  rcases Bool.or_eq_true_iff.mp h.2 with huuid | howns
  · rw [huuid] at hlisted
    cases hlisted.2
  · rw [not_pointsToForeign_of_pointsToOwn howns] at hlisted
    cases hlisted.1.2

/-- **An exposed session survives a pass** unless the stale repair finds a blank order or a
differing free slot names it. -/
theorem session_survives (hrow : db.liveStrategySessions.get? k = some s)
    (h : ownsExposure db s = true) (hblank : ¬ StaleWithBlankOrder db s)
    (hnamed : ¬ NamedByMismatchedSlot db s) :
    ∃ s', (reconcileLiveState settings db).liveStrategySessions.get? k = some s'
      ∧ s'.status = s.status := by
  obtain ⟨s', hstaleRow, hstaleExposed, hstatus, hid, hmarket, hcandidate⟩ :=
    exposed_reconcileStale settings hrow h hblank
  -- from here on the row stays as the stale repair left it
  refine ⟨s', ?_, hstatus⟩
  have hstale : StoresExposed (reconcileStaleLiveStrategySessions settings db) k s' :=
    ⟨hstaleRow, hstaleExposed⟩
  unfold reconcileLiveState
  set stale := reconcileStaleLiveStrategySessions settings db with hstaleDef
  set orphan := reconcileOrphanLiveActiveCandidates settings stale with horphanDef
  have horphan : StoresExposed orphan k s' := by
    refine hstale.of_row (reconcileOrphan_livePositions settings stale) ?_
    rw [horphanDef, reconcileOrphan_liveStrategySessions]
    exact hstaleRow
  -- the first two repairs touch no slot, and no market or candidate of a session
  have hnotNamed : ¬ NamedByMismatchedSlot orphan s' := by
    rintro ⟨slot, hslot, hnames, hfree, hdiffers⟩
    have hslots : orphan.positionSlots = db.positionSlots := by
      rw [horphanDef, hstaleDef]
      simp
    rw [hslots] at hslot
    refine hnamed ⟨slot, hslot, by rw [hnames, hid], hfree, ?_⟩
    unfold PositionSlot.differsFrom at hdiffers ⊢
    rw [← hmarket, ← hcandidate]
    exact hdiffers
  have hmismatched : StoresExposed (reconcileMismatchedPositionSlotSessions settings orphan) k s' :=
    horphan.of_row (reconcileMismatched_livePositions settings orphan)
      (exposed_reconcileMismatched settings horphan.1 hnotNamed)
  -- the five repairs that are left look at the session before they stop it
  have hexpired := hmismatched.releaseAll settings expiredReservationReason .expired
    (expiredReleases settings (reconcileMismatchedPositionSlotSessions settings orphan))
  have hduplicate := ((hexpired.reconcilePointer settings).reconcileEntryFill
    settings).reconcileDuplicate settings
  exact (hduplicate.releaseAll settings _ _ _).1

/-! ## What stops a session -/

/-- A session that is stopped before is stopped after. -/
def KeepsStopped (before after : Database) : Prop :=
  ∀ k s, before.liveStrategySessions.get? k = some s → s.status = .stopped →
    ∃ s', after.liveStrategySessions.get? k = some s' ∧ s'.status = .stopped

theorem KeepsStopped.trans {d₁ d₂ d₃ : Database} (h₁ : KeepsStopped d₁ d₂)
    (h₂ : KeepsStopped d₂ d₃) : KeepsStopped d₁ d₃ := by
  intro k s hrow hstopped
  obtain ⟨s₂, hrow₂, hstopped₂⟩ := h₁ k s hrow hstopped
  exact h₂ k s₂ hrow₂ hstopped₂

theorem Outcome.keepsStopped {R : PositionSlot → PositionSlot → Prop} {before after : Database}
    (h : Outcome R before after) : KeepsStopped before after := by
  intro k s hrow hstopped
  obtain ⟨s', hrow', heq | ⟨hstopped', -⟩⟩ := h.sessions.get? hrow
  · exact ⟨s', hrow', by rw [heq]; exact hstopped⟩
  · exact ⟨s', hrow', hstopped'⟩

variable (db)

theorem keepsStopped_afterMismatched :
    KeepsStopped (reconcileMismatchedPositionSlotSessions settings
        (reconcileOrphanLiveActiveCandidates settings
          (reconcileStaleLiveStrategySessions settings db)))
      (reconcileLiveState settings db) := by
  unfold reconcileLiveState
  dsimp only
  set mismatched := reconcileMismatchedPositionSlotSessions settings
    (reconcileOrphanLiveActiveCandidates settings
      (reconcileStaleLiveStrategySessions settings db)) with hmismatchedDef
  set expired := reconcileExpiredOrderReservations settings mismatched with hexpiredDef
  set pointer := reconcileReservedSlotSessionPointer settings expired with hpointerDef
  have hexpired : KeepsStopped mismatched expired :=
    (outcome_reconcileExpired settings mismatched).keepsStopped
  have hpointer : KeepsStopped expired pointer :=
    (outcome_reconcilePointer settings expired).keepsStopped
  exact (hexpired.trans hpointer).trans (outcome_afterPointer settings pointer).keepsStopped

variable {db}

theorem columns_reconcileStale (hrow : db.liveStrategySessions.get? k = some s) :
    ∃ s', (reconcileStaleLiveStrategySessions settings db).liveStrategySessions.get? k = some s'
      ∧ s'.market = s.market ∧ s'.candidateStrategyId = s.candidateStrategyId := by
  have hspec := session_reconcileStale settings db k
  rw [hrow] at hspec
  by_cases hstale : isStale db s = true
  · refine ⟨s.merge (staleUpdates settings db s), ?_, rfl, rfl⟩
    rw [hspec]
    exact congrArg some (if_pos hstale)
  · refine ⟨s, ?_, rfl, rfl⟩
    rw [hspec]
    exact congrArg some (if_neg hstale)

theorem stopped_of_staleWithBlankOrder (hrow : db.liveStrategySessions.get? k = some s)
    (hblank : StaleWithBlankOrder db s) :
    ∃ s', (reconcileLiveState settings db).liveStrategySessions.get? k = some s'
      ∧ s'.status = .stopped := by
  obtain ⟨hstale, hnone, hspace⟩ := hblank
  have hstops : stopsStale db s = true := by
    unfold stopsStale
    rw [hnone, hspace]
    rfl
  have hspec := session_reconcileStale settings db k
  rw [hrow] at hspec
  have hstaleRow : (reconcileStaleLiveStrategySessions settings db).liveStrategySessions.get? k
      = some (s.merge (staleUpdates settings db s)) := by
    rw [hspec]
    exact congrArg some (if_pos hstale)
  -- the update of a session that is stopped, not only moved
  have hstopped : (s.merge (staleUpdates settings db s)).status = .stopped := by
    unfold staleUpdates
    rw [hstops]
    rfl
  have hmismatched := (outcome_reconcileMismatched settings (reconcileOrphanLiveActiveCandidates
    settings (reconcileStaleLiveStrategySessions settings db))).keepsStopped
  refine (hmismatched.trans (keepsStopped_afterMismatched settings db)) k _ ?_ hstopped
  rw [reconcileOrphan_liveStrategySessions]
  exact hstaleRow

theorem stopped_of_namedByMismatchedSlot (hrow : db.liveStrategySessions.get? k = some s)
    (hnamed : NamedByMismatchedSlot db s) :
    ∃ s', (reconcileLiveState settings db).liveStrategySessions.get? k = some s'
      ∧ s'.status = .stopped := by
  obtain ⟨slot, hslot, hnames, hfree, hdiffers⟩ := hnamed
  have hkey : s.id = k := Table.get?_some_rowId hrow
  obtain ⟨s', hstale, hmarket, hcandidate⟩ := columns_reconcileStale settings hrow
  set orphan := reconcileOrphanLiveActiveCandidates settings
    (reconcileStaleLiveStrategySessions settings db) with horphanDef
  have horphan : orphan.liveStrategySessions.get? k = some s' := by
    rw [horphanDef, reconcileOrphan_liveStrategySessions]
    exact hstale
  have hslots : orphan.positionSlots = db.positionSlots := by
    rw [horphanDef]
    simp
  have hdiffers' : slot.differsFrom s' = true := by
    unfold PositionSlot.differsFrom at hdiffers ⊢
    rw [hmarket, hcandidate]
    exact hdiffers
  -- the slot is still listed when the third repair looks
  have hitem : slot ∈ findMismatchedPositionSlotSessions orphan := by
    refine mem_findMismatched_of_named horphan ?_ (by rw [hnames, hkey]) hfree hdiffers'
    rw [hslots]
    exact hslot
  have hspec := session_reconcileMismatched settings orphan k
  rw [horphan] at hspec
  refine keepsStopped_afterMismatched settings db k
    (s'.merge (stopSessionUpdates mismatchedSlotReason "REPLACED" settings.now)) ?_ rfl
  rw [← horphanDef, hspec]
  exact congrArg some (if_pos ⟨slot, hitem, by rw [hnames, hkey]⟩)

/-! ## When a pass spares what is exposed -/

variable (db)

/-- **When a pass stops no exposed session**: exactly if no exposed session that runs is
named by a free slot of another market or candidate, and none has a stale position pointer
without a replacement together with an order uuid made of blanks. -/
theorem reconcileLiveState_sparesExposed_iff :
    SparesExposed settings db
      ↔ ∀ s ∈ db.liveStrategySessions.rows, ownsExposure db s = true → s.status ≠ .stopped →
          ¬ NamedByMismatchedSlot db s ∧ ¬ StaleWithBlankOrder db s := by
  constructor
  · intro hspares s hs hexposed hruns
    obtain ⟨s', hrow', hruns'⟩ := hspares s hs hexposed hruns
    have hrow : db.liveStrategySessions.get? s.id = some s := Table.get?_of_mem hs
    constructor
    · intro hnamed
      obtain ⟨t, ht, hstopped⟩ := stopped_of_namedByMismatchedSlot settings hrow hnamed
      rw [Option.some.inj (hrow'.symm.trans ht)] at hruns'
      exact hruns' hstopped
    · intro hblank
      obtain ⟨t, ht, hstopped⟩ := stopped_of_staleWithBlankOrder settings hrow hblank
      rw [Option.some.inj (hrow'.symm.trans ht)] at hruns'
      exact hruns' hstopped
  · intro h s hs hexposed hruns
    have hrow : db.liveStrategySessions.get? s.id = some s := Table.get?_of_mem hs
    obtain ⟨hnamed, hblank⟩ := h s hs hexposed hruns
    obtain ⟨s', hrow', hstatus⟩ :=
      session_survives settings hrow hexposed hblank hnamed
    exact ⟨s', hrow', by rw [hstatus]; exact hruns⟩

end Exposure

/-- Session 1 runs candidate 1 on BTC and has an order at the exchange; slot 1 is reserved
for candidate 2 on ETH and still names session 1. -/
def exampleExposedDb : Database :=
  { liveStrategySessions := Table.empty.insert
      (fun k =>
        { id := k, market := "KRW-BTC", candidateStrategyId := 1, status := .running
          autoEnabled := true, currentOpenOrderUuid := some "C0101000000001" })
      (fun _ => rfl)
    positionSlots := Table.empty.insert
      (fun k =>
        { id := k, slotNumber := 1, status := .reserved, market := some "KRW-ETH"
          candidateStrategyId := some 2, liveStrategySessionId := some 1 })
      (fun _ => rfl) }

theorem exposed_session_stopped : ¬ SparesExposed {} exampleExposedDb := by
  intro h
  obtain ⟨s', hrow, hruns⟩ := h
    { id := 1, market := "KRW-BTC", candidateStrategyId := 1, status := .running
      autoEnabled := true, currentOpenOrderUuid := some "C0101000000001" }
    (by decide +kernel) (by decide +kernel) (by decide +kernel)
  have hstopped : (loadLiveStrategySession (reconcileLiveState {} exampleExposedDb) 1).all
      (fun s => s.status == .stopped) = true := by decide +kernel
  have hrow' : loadLiveStrategySession (reconcileLiveState {} exampleExposedDb) 1 = some s' := hrow
  rw [hrow'] at hstopped
  exact hruns (beq_iff_eq.mp hstopped)

end AutoCoinBot
