/-
  LiveStateReconciler.Sweeps — what a repair looks for is gone after it, and the
  repairs that follow bring none of it back.
-/
import AutoCoinBot.LiveStateReconciler.EntryGaps
import AutoCoinBot.LiveStateReconciler.Outcomes
import AutoCoinBot.LiveStateReconciler.Releases

namespace AutoCoinBot

open Library

section Sweeps

variable (settings : ReconcilerSettings) {db d d' : Database}
variable {R : PositionSlot → PositionSlot → Prop}

/-! ## Sessions -/

theorem select_sessions_eq_nil {Q : Database → LiveStrategySession → Bool}
    (hQ : ∀ s, d'.livePositions = d.livePositions → Q d' s = Q d s)
    (hstopped : ∀ s : LiveStrategySession, s.status = .stopped → Q d' s = false)
    (h : Outcome R d d') (hnone : d.liveStrategySessions.select (Q d) = []) :
    d'.liveStrategySessions.select (Q d') = [] := by
  rw [Table.select_eq_nil_iff] at hnone ⊢
  intro s' hs'
  obtain ⟨s, hs, heq | ⟨hstatus, -, -⟩⟩ := h.sessions.get?_of_get? (Table.get?_of_mem hs')
  · rw [heq, hQ s h.livePositions]
    exact hnone s (Table.get?_some_mem hs)
  · exact hstopped s' hstatus

theorem findStale_outcome (h : Outcome R d d') (hnone : findStaleLiveStrategySessions d = []) :
    findStaleLiveStrategySessions d' = [] := by
  refine select_sessions_eq_nil (Q := isStale) ?_ ?_ h hnone
  · intro s hpositions
    unfold isStale pointsToActive loadLivePosition
    rw [hpositions]
  · intro s hstatus
    unfold isStale
    rw [hstatus]
    rfl

theorem findDuplicate_outcome (h : Outcome R d d') (hnone : findDuplicatePositionSessions d = []) :
    findDuplicatePositionSessions d' = [] := by
  refine select_sessions_eq_nil (Q := fun d s => s.status.isPointing && pointsToForeign d s
    && !textGiven s.currentOpenOrderUuid) ?_ ?_ h hnone
  · intro s hpositions
    unfold pointsToForeign loadLivePosition
    rw [hpositions]
  · intro s hstatus
    rw [hstatus]
    rfl

theorem replacementOpenPosition_active {s : LiveStrategySession} {p : LivePosition}
    (h : replacementOpenPosition db s = some p) :
    loadLivePosition db p.id = some p ∧ p.status.isActive = true := by
  have hlisted : ∀ q : LivePosition → Bool, ((db.livePositions.select (fun p =>
      p.exchange == orText s.exchange "bithumb" && p.market == s.market && p.status.isActive
        && q p)).insertionSort LivePosition.latestUpdated).head? = some p →
      loadLivePosition db p.id = some p ∧ p.status.isActive = true := by
    intro q hhead
    have hmem := (List.mem_insertionSort _).mp (List.mem_of_head? hhead)
    obtain ⟨hrow, hcolumns⟩ := Table.mem_select.mp hmem
    simp only [Bool.and_eq_true] at hcolumns
    exact ⟨Table.get?_of_mem hrow, hcolumns.1.2⟩
  unfold replacementOpenPosition at h
  dsimp only at h
  rcases Option.or_eq_some_iff.mp h with hown | ⟨-, hcandidate⟩
  · exact hlisted _ hown
  · exact hlisted _ hcandidate

/-- **No pointer is stale** after its repair: it leads to a replacement, or nowhere. -/
theorem findStale_reconcileStale :
    findStaleLiveStrategySessions (reconcileStaleLiveStrategySessions settings db) = [] := by
  unfold findStaleLiveStrategySessions
  rw [Table.select_eq_nil_iff]
  intro s' hs'
  have hafter : (reconcileStaleLiveStrategySessions settings db).liveStrategySessions.get? s'.id
      = some s' := Table.get?_of_mem hs'
  have hstaleEq : ∀ s, isStale (reconcileStaleLiveStrategySessions settings db) s
      = isStale db s := by
    intro s
    unfold isStale pointsToActive loadLivePosition
    rw [reconcileStale_livePositions]
  rw [hstaleEq]
  rw [session_reconcileStale] at hafter
  obtain ⟨s, hrow, heq⟩ := Option.map_eq_some_iff.mp hafter
  by_cases hstale : isStale db s = true
  · rw [if_pos hstale] at heq
    -- stopped or not, the pointer is the replacement's
    have hpointer : s'.currentPositionId = (replacementOpenPosition db s).map LivePosition.id := by
      rw [← heq]
      unfold LiveStrategySession.merge staleUpdates
      dsimp only
      split <;> rfl
    -- a replacement is active; no pointer at all is not stale
    unfold isStale pointsToActive
    rw [hpointer]
    cases hreplacement : replacementOpenPosition db s with
    | none => simp
    | some p =>
      obtain ⟨hload, hactive⟩ := replacementOpenPosition_active hreplacement
      simp [hload, hactive]
  · rw [if_neg hstale] at heq
    rw [← heq]
    exact Bool.eq_false_iff.mpr hstale

/-- **No session points to the position of another** without an order after its repair. -/
theorem findDuplicate_reconcileDuplicate :
    findDuplicatePositionSessions (reconcileDuplicatePositionSessions settings db) = [] := by
  have hlist := session_reconcileDuplicate settings db
  unfold findDuplicatePositionSessions at hlist ⊢
  rw [Table.select_eq_nil_iff]
  intro s' hs'
  have hafter : (reconcileDuplicatePositionSessions settings db).liveStrategySessions.get? s'.id
      = some s' := Table.get?_of_mem hs'
  rw [hlist] at hafter
  obtain ⟨s, hrow, heq⟩ := Option.map_eq_some_iff.mp hafter
  split at heq
  -- a listed session has lost its pointer; another was no duplicate before
  · rw [← heq]
    rfl
  · rename_i hunlisted
    rw [heq] at hrow
    rw [Bool.eq_false_iff]
    intro hlisted
    have hforeign : pointsToForeign (reconcileDuplicatePositionSessions settings db) s'
        = pointsToForeign db s' := by
      unfold pointsToForeign loadLivePosition
      rw [reconcileDuplicate_livePositions]
    rw [hforeign] at hlisted
    exact hunlisted ⟨s', Table.mem_select.mpr ⟨Table.get?_some_mem hrow, hlisted⟩, rfl⟩

/-! ## Slots -/

theorem slotSession_outcome (h : Outcome R d d') {slot : PositionSlot} {s : LiveStrategySession}
    (hs : slotSession d slot = some s) :
    ∃ s', slotSession d' slot = some s' ∧ slot.differsFrom s' = slot.differsFrom s := by
  obtain ⟨id, hid, hload⟩ := Option.bind_eq_some_iff.mp hs
  obtain ⟨s', hs', hstops⟩ := h.sessions.get? hload
  refine ⟨s', ?_, ?_⟩
  · unfold slotSession
    rw [hid]
    exact hs'
  · unfold PositionSlot.differsFrom
    rcases hstops with heq | ⟨-, hmarket, hcandidate⟩
    · rw [heq]
    · rw [hmarket, hcandidate]

theorem findMismatched_eq_nil (h : Outcome R d d')
    (hslots : ∀ slot ∈ d'.positionSlots.rows, slot.isFree = true →
      (slot ∈ d.positionSlots.rows ∧ slot ∉ findMismatchedPositionSlotSessions d)
        ∨ ∃ s, slotSession d' slot = some s ∧ slot.differsFrom s = false) :
    findMismatchedPositionSlotSessions d' = [] := by
  rw [List.eq_nil_iff_forall_not_mem]
  intro slot hlisted
  obtain ⟨hrow, hfree, hnames, hdiffers⟩ := (mem_findMismatched_iff d').mp hlisted
  rcases hslots slot hrow hfree with ⟨hbefore, hunlisted⟩ | ⟨s, hs, hsame⟩
  · refine hunlisted ((mem_findMismatched_iff d).mpr ⟨hbefore, hfree, hnames, ?_⟩)
    -- a session that is there stays there, so a missing one is missing still
    cases hsession : slotSession d slot with
    | none => rfl
    | some s =>
      obtain ⟨s', hs', heq⟩ := slotSession_outcome h hsession
      rw [hs'] at hdiffers
      show slot.differsFrom s = true
      rw [← heq]
      exact hdiffers
  · rw [hs] at hdiffers
    have hdiffers' : slot.differsFrom s = true := hdiffers
    rw [hsame] at hdiffers'
    cases hdiffers'

theorem mem_slots_of_free (h : Outcome PositionSlot.Settles d d') {slot : PositionSlot}
    (hslot : slot ∈ d'.positionSlots.rows) (hfree : slot.isFree = true) :
    slot ∈ d.positionSlots.rows := by
  obtain ⟨s, hs, heq | ⟨hstatus, -⟩⟩ := h.slots.get?_of_get? (Table.get?_of_mem hslot)
  · rw [← heq] at hs
    exact Table.get?_some_mem hs
  · exact absurd (PositionSlot.isFree_iff.mp hfree).1 hstatus

theorem findMismatched_outcome (h : Outcome PositionSlot.Settles d d')
    (hnone : findMismatchedPositionSlotSessions d = []) :
    findMismatchedPositionSlotSessions d' = [] := by
  refine findMismatched_eq_nil h (fun slot hslot hfree => .inl ⟨mem_slots_of_free h hslot hfree, ?_⟩)
  rw [hnone]
  exact List.not_mem_nil

/-- **No mismatched slot** that is free is left by its repair. -/
theorem findMismatched_reconcileMismatched :
    findMismatchedPositionSlotSessions (reconcileMismatchedPositionSlotSessions settings db)
      = [] := by
  refine findMismatched_eq_nil (outcome_reconcileMismatched settings db)
    (fun slot hslot hfree => .inl ?_)
  have hafter : (reconcileMismatchedPositionSlotSessions settings db).positionSlots.get? slot.id
      = some slot := Table.get?_of_mem hslot
  rw [slot_reconcileMismatched] at hafter
  obtain ⟨before, hbefore, heq⟩ := Option.map_eq_some_iff.mp hafter
  split at heq
  · rw [← heq] at hfree
    have hstatus := (PositionSlot.isFree_iff.mp hfree).1
    cases hstatus
  · rename_i hunlisted
    rw [heq] at hbefore
    refine ⟨Table.get?_some_mem hbefore, fun hlisted => hunlisted ⟨slot, hlisted, rfl⟩⟩

/-- The items of the pointer repair: a free slot of a candidate whose session does not run for
it, and the session that replaces it. -/
theorem mem_findReservedSlotSessionPointerMismatches
    {item : PositionSlot × LiveStrategySession} :
    item ∈ findReservedSlotSessionPointerMismatches db
      ↔ item.1 ∈ db.positionSlots.rows ∧ item.1.isFree = true
        ∧ item.1.candidateStrategyId.isSome = true ∧ currentSessionOk db item.1 = false
        ∧ replacementSession db item.1 = some item.2 := by
  unfold findReservedSlotSessionPointerMismatches slotsByNumber
  rw [List.mem_filterMap]
  constructor
  · rintro ⟨slot, hslot, hitem⟩
    obtain ⟨hrow, hcolumns⟩ := Table.mem_select.mp ((List.mem_insertionSort _).mp hslot)
    rw [Bool.and_eq_true] at hcolumns
    split at hitem
    · rename_i hwork
      obtain ⟨s, hs, heq⟩ := Option.map_eq_some_iff.mp hitem
      rw [← heq]
      exact ⟨hrow, hwork.2, hcolumns.2, hwork.1, hs⟩
    · cases hitem
  · rintro ⟨hrow, hfree, hcandidate, hok, hreplacement⟩
    have hreserved : (item.1.status == .reserved) = true :=
      beq_iff_eq.mpr (PositionSlot.isFree_iff.mp hfree).1
    refine ⟨item.1, (List.mem_insertionSort _).mpr (Table.mem_select.mpr ⟨hrow, ?_⟩), ?_⟩
    · rw [hreserved, hcandidate]
      rfl
    · rw [if_pos ⟨hok, hfree⟩, hreplacement]
      rfl

/-- **A slot after the pointer repair** names the session that replaces its own. -/
theorem slot_reconcilePointer {item : PositionSlot × LiveStrategySession}
    (h : item ∈ findReservedSlotSessionPointerMismatches db) :
    (reconcileReservedSlotSessionPointer settings db).positionSlots.get? item.1.id
      = some (item.1.repointed item.2.id settings.now) := by
  obtain ⟨hrow, -, -, -, hreplacement⟩ := mem_findReservedSlotSessionPointerMismatches.mp h
  have hget : db.positionSlots.get? item.1.id = some item.1 := Table.get?_of_mem hrow
  -- a slot is listed with one session
  have hunique : ∀ x ∈ findReservedSlotSessionPointerMismatches db, item.1.id = x.1.id →
      x = item := by
    intro x hx hid
    obtain ⟨hxrow, -, -, -, hxreplacement⟩ := mem_findReservedSlotSessionPointerMismatches.mp hx
    have hslot : item.1 = x.1 := Table.eq_of_rowId_eq hrow hxrow hid
    rw [← hslot, hreplacement] at hxreplacement
    exact Prod.ext hslot.symm (Option.some.inj hxreplacement).symm
  unfold reconcileReservedSlotSessionPointer
  rw [get?_foldl Database.positionSlots
    (fun d x => slot_repointReservedSlot settings d item.1.id x), hget, Option.map_some]
  have hfold := foldl_ite_unique
    (fun x : PositionSlot × LiveStrategySession => item.1.id = x.1.id)
    (fun x s => s.repointed x.2.id settings.now) hunique (fun _ => rfl) item.1
  rw [hfold, if_pos ⟨item, h, rfl⟩]

theorem slot_reconcilePointer_of_not {k : ℕ}
    (h : ¬ ∃ item ∈ findReservedSlotSessionPointerMismatches db, k = item.1.id) :
    (reconcileReservedSlotSessionPointer settings db).positionSlots.get? k
      = db.positionSlots.get? k := by
  unfold reconcileReservedSlotSessionPointer
  refine foldl_invariant (P := fun d : Database => d.positionSlots.get? k
    = db.positionSlots.get? k) ?_ rfl
  intro d item hitem hd
  have hne : k ≠ item.1.id := fun hk => h ⟨item, hitem, hk⟩
  rw [slot_repointReservedSlot, hd]
  simp only [hne, if_false, Option.map_id']

theorem activeSessionForReservedSlot_spec {slot : PositionSlot} {s : LiveStrategySession}
    (h : activeSessionForReservedSlot db slot = some s) :
    db.liveStrategySessions.get? s.id = some s ∧ s.status.isActive = true
      ∧ slot.differsFrom s = false := by
  unfold activeSessionForReservedSlot at h
  have hmem := (List.mem_insertionSort _).mp (List.mem_of_head? h)
  obtain ⟨hrow, hcolumns⟩ := Table.mem_select.mp hmem
  simp only [Bool.and_eq_true, beq_iff_eq] at hcolumns
  obtain ⟨⟨⟨⟨⟨⟨-, hmarket⟩, hcandidate⟩, hactive⟩, -⟩, -⟩, -⟩ := hcolumns
  refine ⟨Table.get?_of_mem hrow, hactive, ?_⟩
  unfold PositionSlot.differsFrom
  rw [hmarket, hcandidate]
  simp

theorem replacementSession_spec {slot : PositionSlot} {s : LiveStrategySession}
    (h : replacementSession db slot = some s) :
    activeSessionForReservedSlot db slot = some s ∧ slot.liveStrategySessionId ≠ some s.id := by
  unfold replacementSession at h
  obtain ⟨hfound, hother⟩ := Option.filter_eq_some_iff.mp h
  refine ⟨hfound, ?_⟩
  intro hsame
  rw [hsame] at hother
  simp at hother

theorem findMismatched_reconcilePointer (hnone : findMismatchedPositionSlotSessions db = []) :
    findMismatchedPositionSlotSessions (reconcileReservedSlotSessionPointer settings db) = [] := by
  refine findMismatched_eq_nil (outcome_reconcilePointer settings db) (fun slot hslot _ => ?_)
  have hafter : (reconcileReservedSlotSessionPointer settings db).positionSlots.get? slot.id
      = some slot := Table.get?_of_mem hslot
  by_cases hlisted : ∃ item ∈ findReservedSlotSessionPointerMismatches db, slot.id = item.1.id
  · obtain ⟨item, hitem, hid⟩ := hlisted
    obtain ⟨-, -, -, -, hreplacement⟩ := mem_findReservedSlotSessionPointerMismatches.mp hitem
    obtain ⟨hrow, -, hdiffers⟩ :=
      activeSessionForReservedSlot_spec (replacementSession_spec hreplacement).1
    rw [hid, slot_reconcilePointer settings hitem] at hafter
    have heq := Option.some.inj hafter
    have hsession : slotSession db slot = some item.2 := by
      rw [← heq]
      exact hrow
    -- the new session may be stopped in the same pass, but keeps its columns
    obtain ⟨s', hs', hsame⟩ :=
      slotSession_outcome (outcome_reconcilePointer settings db) hsession
    refine .inr ⟨s', hs', hsame.trans ?_⟩
    rw [← heq]
    exact hdiffers
  · rw [slot_reconcilePointer_of_not settings hlisted] at hafter
    refine .inl ⟨Table.get?_some_mem hafter, ?_⟩
    rw [hnone]
    exact List.not_mem_nil

theorem findEntryFillLifecycleGaps_outcome (h : Outcome PositionSlot.Settles d d')
    (hnone : findEntryFillLifecycleGaps d = []) : findEntryFillLifecycleGaps d' = [] := by
  rw [findEntryFillLifecycleGaps_eq_nil_iff] at hnone ⊢
  intro slot hslot p hp
  rw [h.livePositions] at hp
  obtain ⟨s, hs, heq | ⟨hreserved, hentering⟩⟩ := h.slots.get?_of_get? (Table.get?_of_mem hslot)
  · rw [heq]
    exact hnone s (Table.get?_some_mem hs) p hp
  · rw [Bool.eq_false_iff]
    intro hwaits
    rcases (waitsFor_iff.mp hwaits).1 with hstatus | hstatus
    · exact hreserved hstatus
    · exact hentering hstatus

/-! ## Blocked entries -/

theorem all_isIdle_of_map {g : ℕ → LiveStrategySession → LiveStrategySession}
    (h : ∀ k, d'.liveStrategySessions.get? k = (d.liveStrategySessions.get? k).map (g k))
    (hg : ∀ k s, (g k s).isIdle = s.isIdle) (slot : PositionSlot) :
    (slotSession d' slot).all LiveStrategySession.isIdle
      = (slotSession d slot).all LiveStrategySession.isIdle := by
  unfold slotSession loadLiveStrategySession
  cases slot.liveStrategySessionId with
  | none => rfl
  | some k =>
    rw [Option.bind_some, Option.bind_some, h k]
    cases d.liveStrategySessions.get? k with
    | none => rfl
    | some s => exact hg k s

theorem all_isIdle_releaseAll (reason : String) (status : ReservationStatus)
    (rels : List SlotRelease) (slot : PositionSlot) :
    (slotSession (releaseAll settings db reason status rels) slot).all LiveStrategySession.isIdle
      = (slotSession db slot).all LiveStrategySession.isIdle := by
  refine all_isIdle_of_map (fun k => session_releaseAll settings db k reason status rels)
    (fun k s => ?_) slot
  split <;> rfl

/-- **No blocked slot** is left by its repair. -/
theorem blockedReleases_reconcileBlocked :
    blockedReleases settings (reconcileReservedEntryBlockedSlots settings db) = [] := by
  rw [List.eq_nil_iff_forall_not_mem]
  intro rel hrel
  obtain ⟨slot, ⟨henabled, hslot, hfree, hcandidate, hblocked, hidle⟩, -⟩ :=
    (mem_blockedReleases settings _ rel).mp hrel
  have hafter : (reconcileReservedEntryBlockedSlots settings db).positionSlots.get? slot.id
      = some slot := Table.get?_of_mem hslot
  unfold reconcileReservedEntryBlockedSlots at hafter hblocked hidle
  rw [slot_releaseAll] at hafter
  obtain ⟨before, hbefore, heq⟩ := Option.map_eq_some_iff.mp hafter
  split at heq
  · rw [← heq] at hfree
    have hstatus := (PositionSlot.isFree_iff.mp hfree).1
    cases hstatus
  · rename_i hunnamed
    rw [heq] at hbefore
    -- the slot was blocked before, and so it was named
    have hlogs : (releaseAll settings db reservedEntryBlockReason .released
        (blockedReleases settings db)).liveOrderLogs = db.liveOrderLogs :=
      releaseAll_liveOrderLogs settings db _ _ _
    unfold blockedRepeatedly blockerResults at hblocked
    rw [hlogs] at hblocked
    rw [all_isIdle_releaseAll] at hidle
    have hwas : ReleasesBlocked settings db slot :=
      ⟨henabled, Table.get?_some_mem hbefore, hfree, hcandidate, hblocked, hidle⟩
    exact hunnamed ⟨blockedRelease slot, (mem_blockedReleases settings db _).mpr ⟨slot, hwas, rfl⟩,
      rfl⟩

end Sweeps

end AutoCoinBot
