/-
  LiveStateReconciler.Fixpoint — what a second pass finds to do.

  Five repairs find nothing in a second pass: what they look for is gone after their turn in the
  first, and no later repair brings it back.
-/
import AutoCoinBot.LiveStateReconciler.Sweeps

namespace AutoCoinBot

open Library

/-! ## Work that is left -/

/-- The status and the pointers of a session. -/
def LiveStrategySession.pointers (s : LiveStrategySession) :
    SessionStatus × Option String × Option ℕ :=
  (s.status, s.currentOpenOrderUuid, s.currentPositionId)

/-- No session status or pointer, no slot, no reservation status and no candidate status
differs. -/
structure Unchanged (before after : Database) : Prop where
  sessions : ∀ k, (after.liveStrategySessions.get? k).map LiveStrategySession.pointers
    = (before.liveStrategySessions.get? k).map LiveStrategySession.pointers
  slots : ∀ k, after.positionSlots.get? k = before.positionSlots.get? k
  reservations : ∀ k, (after.orderReservations.get? k).map OrderReservation.status
    = (before.orderReservations.get? k).map OrderReservation.status
  candidates : ∀ k, (after.candidateStrategies.get? k).map CandidateStrategy.status
    = (before.candidateStrategies.get? k).map CandidateStrategy.status

/-- What a pass may leave to the next one is not there: no orphaned candidate, no expired
reservation that is safe to release, no reserved slot whose session is safe to replace. -/
structure LeavesNothing (settings : ReconcilerSettings) (db : Database) : Prop where
  orphans : ∀ c ∈ db.candidateStrategies.rows, c.status = .liveActive →
    (candidateLinks db c.id settings.now).isOrphan = false
  expired : findExpiredOrderReservations db settings.now = []
  pointers : findReservedSlotSessionPointerMismatches db = []

/-- What a pass leaves nothing of. -/
structure Swept (settings : ReconcilerSettings) (db : Database) : Prop where
  stale : findStaleLiveStrategySessions db = []
  mismatched : findMismatchedPositionSlotSessions db = []
  gaps : findEntryFillLifecycleGaps db = []
  duplicates : findDuplicatePositionSessions db = []
  blocked : blockedReleases settings db = []

section Passes

variable (settings : ReconcilerSettings) {db : Database}

/-! ## What no pass leaves -/

/-- **What no pass leaves**: each of the five is swept by its repair and not brought back. -/
theorem swept_reconcileLiveState (hnamed : PositionsNamed db) :
    Swept settings (reconcileLiveState settings db) := by
  unfold reconcileLiveState
  set stale := reconcileStaleLiveStrategySessions settings db with hstaleDef
  set orphan := reconcileOrphanLiveActiveCandidates settings stale with horphanDef
  set mismatched := reconcileMismatchedPositionSlotSessions settings orphan with hmismatchedDef
  set expired := reconcileExpiredOrderReservations settings mismatched with hexpiredDef
  set pointer := reconcileReservedSlotSessionPointer settings expired with hpointerDef
  set entry := reconcileEntryFillLifecycles settings pointer with hentryDef
  set duplicate := reconcileDuplicatePositionSessions settings entry with hduplicateDef
  have horphan := outcome_reconcileOrphan settings stale
  have hmismatched := outcome_reconcileMismatched settings orphan
  have hexpired := outcome_reconcileExpired settings mismatched
  have hpointer := outcome_reconcilePointer settings expired
  have hduplicate := outcome_reconcileDuplicate settings entry
  have hblocked := outcome_reconcileBlocked settings duplicate
  have hrest := outcome_afterPointer settings pointer
  have hnamedPointer : PositionsNamed pointer := by
    unfold PositionsNamed
    rw [hpointer.livePositions, hexpired.livePositions, hmismatched.livePositions,
      horphan.livePositions, reconcileStale_livePositions]
    exact hnamed
  constructor
  -- swept first, then kept by the seven repairs that follow
  · have hpasses : findStaleLiveStrategySessions expired = [] :=
      findStale_outcome hexpired (findStale_outcome hmismatched (findStale_outcome horphan
        (findStale_reconcileStale settings)))
    exact findStale_outcome hrest (findStale_outcome hpointer hpasses)
  -- the pointer repair gives a slot a session of its own, so none is mismatched
  · have hpasses : findMismatchedPositionSlotSessions pointer = [] :=
      findMismatched_reconcilePointer settings (findMismatched_outcome hexpired
        (findMismatched_reconcileMismatched settings))
    exact findMismatched_outcome hrest hpasses
  · exact findEntryFillLifecycleGaps_outcome (hduplicate.trans hblocked)
      (findEntryFillLifecycleGaps_reconcileEntryFill settings hnamedPointer)
  · exact findDuplicate_outcome hblocked (findDuplicate_reconcileDuplicate settings)
  · exact blockedReleases_reconcileBlocked settings

/-! ## A state without work -/

theorem reconcileStale_of_nil (h : findStaleLiveStrategySessions db = []) :
    reconcileStaleLiveStrategySessions settings db = db := by
  unfold reconcileStaleLiveStrategySessions
  rw [h]
  rfl

theorem reconcileOrphan_of_none (h : ∀ c ∈ db.candidateStrategies.rows, c.status = .liveActive →
    (candidateLinks db c.id settings.now).isOrphan = false) :
    reconcileOrphanLiveActiveCandidates settings db = db := by
  unfold reconcileOrphanLiveActiveCandidates
  refine foldl_invariant (P := fun d => d = db) ?_ rfl
  intro d c hc hd
  obtain ⟨hrow, hactive⟩ := Table.mem_select.mp hc
  rw [hd, h c hrow (beq_iff_eq.mp hactive)]
  rfl

theorem reconcileMismatched_of_nil (h : findMismatchedPositionSlotSessions db = []) :
    reconcileMismatchedPositionSlotSessions settings db = db := by
  unfold reconcileMismatchedPositionSlotSessions
  rw [h]
  rfl

theorem reconcileExpired_of_nil (h : findExpiredOrderReservations db settings.now = []) :
    reconcileExpiredOrderReservations settings db = db := by
  unfold reconcileExpiredOrderReservations expiredReleases
  rw [h]
  rfl

theorem reconcilePointer_of_nil (h : findReservedSlotSessionPointerMismatches db = []) :
    reconcileReservedSlotSessionPointer settings db = db := by
  unfold reconcileReservedSlotSessionPointer
  rw [h]
  rfl

theorem reconcileEntryFill_of_nil (h : findEntryFillLifecycleGaps db = []) :
    reconcileEntryFillLifecycles settings db = db := by
  unfold reconcileEntryFillLifecycles
  rw [h]
  rfl

theorem reconcileDuplicate_of_nil (h : findDuplicatePositionSessions db = []) :
    reconcileDuplicatePositionSessions settings db = db := by
  unfold reconcileDuplicatePositionSessions
  rw [h]
  rfl

theorem reconcileBlocked_of_nil (h : blockedReleases settings db = []) :
    reconcileReservedEntryBlockedSlots settings db = db := by
  unfold reconcileReservedEntryBlockedSlots
  rw [h]
  rfl

theorem reconcileLiveState_of_settled (hswept : Swept settings db)
    (hexpired : findExpiredOrderReservations db settings.now = [])
    (hpointers : findReservedSlotSessionPointerMismatches db = []) :
    reconcileLiveState settings db = reconcileOrphanLiveActiveCandidates settings db := by
  unfold reconcileLiveState
  dsimp only
  rw [reconcileStale_of_nil settings hswept.stale]
  obtain ⟨candidates, markets, h⟩ := reconcileOrphan_frame settings db
  rw [h]
  -- the other probes read no candidate
  set demoted : Database :=
    { db with candidateStrategies := candidates, marketUniverse := markets }
  have hmismatched : findMismatchedPositionSlotSessions demoted = [] := hswept.mismatched
  have hexpiredAfter : findExpiredOrderReservations demoted settings.now = [] := hexpired
  have hpointersAfter : findReservedSlotSessionPointerMismatches demoted = [] := hpointers
  have hgaps : findEntryFillLifecycleGaps demoted = [] := hswept.gaps
  have hduplicates : findDuplicatePositionSessions demoted = [] := hswept.duplicates
  have hblocked : blockedReleases settings demoted = [] := hswept.blocked
  rw [reconcileMismatched_of_nil settings hmismatched,
    reconcileExpired_of_nil settings hexpiredAfter,
    reconcilePointer_of_nil settings hpointersAfter,
    reconcileEntryFill_of_nil settings hgaps,
    reconcileDuplicate_of_nil settings hduplicates,
    reconcileBlocked_of_nil settings hblocked]

/-- **A state without work is a fixpoint.** -/
theorem reconcileLiveState_of_swept (hswept : Swept settings db)
    (hnothing : LeavesNothing settings db) : reconcileLiveState settings db = db := by
  rw [reconcileLiveState_of_settled settings hswept hnothing.expired hnothing.pointers,
    reconcileOrphan_of_none settings hnothing.orphans]

/-! ## Work shows -/

theorem candidateLinks_promote (d : Database) (allowedExchange : String) (candidateId : ℕ)
    (status : CandidateStatus) (k : ℕ) (now : UtcTime) :
    candidateLinks (promoteCandidateStrategy d allowedExchange candidateId status) k now
      = candidateLinks d k now := by
  unfold candidateLinks
  simp

/-- **An orphaned candidate is demoted**, wherever it stands in the list. -/
theorem candidate_reconcileOrphan {c : CandidateStrategy} (hc : c ∈ db.candidateStrategies.rows)
    (hactive : c.status = .liveActive)
    (horphan : (candidateLinks db c.id settings.now).isOrphan = true) :
    ∃ c', (reconcileOrphanLiveActiveCandidates settings db).candidateStrategies.get? c.id = some c'
      ∧ c'.status = .liveEligible := by
  have hlisted : c ∈ db.candidateStrategies.select (fun c => c.status == .liveActive) :=
    Table.mem_select.mpr ⟨hc, beq_iff_eq.mpr hactive⟩
  unfold reconcileOrphanLiveActiveCandidates
  obtain ⟨before, after, hsplit⟩ := List.append_of_mem hlisted
  rw [hsplit, List.foldl_append, List.foldl_cons]
  set step := fun (d : Database) (c : CandidateStrategy) =>
    if (candidateLinks d c.id settings.now).isOrphan then
      promoteCandidateStrategy d settings.allowedExchange c.id .liveEligible
    else d with hstep
  have hdemotes : ∀ d c, Rewrites CandidateStrategy.Demotes d.candidateStrategies
      (step d c).candidateStrategies := by
    intro d c
    rw [hstep]
    dsimp only
    split
    · exact candidates_promote d _ c.id
    · exact Rewrites.refl CandidateStrategy.Demotes.refl _
  have hlinks : candidateLinks (before.foldl step db) c.id settings.now
      = candidateLinks db c.id settings.now := by
    refine foldl_frame (fun d => candidateLinks d c.id settings.now) (fun d x => ?_) before db
    rw [hstep]
    dsimp only
    split
    · exact candidateLinks_promote d _ x.id _ c.id settings.now
    · rfl
  -- the candidate is still there when its turn comes, and is demoted for good
  have hget : db.candidateStrategies.get? c.id = some c := Table.get?_of_mem hc
  have hbefore := rewrites_foldl CandidateStrategy.Demotes.refl
    (fun _ _ _ => CandidateStrategy.Demotes.trans) Database.candidateStrategies
    (fun d x (_ : x ∈ before) => hdemotes d x) db
  obtain ⟨c₁, hc₁, -⟩ := hbefore.get? hget
  have hturn : (step (before.foldl step db) c).candidateStrategies.get? c.id
      = some { c₁ with status := .liveEligible } := by
    rw [hstep]
    dsimp only
    rw [if_pos (by rw [← hstep, hlinks]; exact horphan)]
    have hpromoted := loadCandidateStrategy_promote (before.foldl step db)
      settings.allowedExchange c.id .liveEligible c.id
    unfold loadCandidateStrategy at hpromoted
    rw [hc₁, Option.map_some, if_pos rfl] at hpromoted
    exact hpromoted
  have hafter := rewrites_foldl CandidateStrategy.Demotes.refl
    (fun _ _ _ => CandidateStrategy.Demotes.trans) Database.candidateStrategies
    (fun d x (_ : x ∈ after) => hdemotes d x) (step (before.foldl step db) c)
  obtain ⟨c₂, hc₂, heq | hdemoted⟩ := hafter.get? hturn
  · exact ⟨c₂, hc₂, by rw [heq]⟩
  · exact ⟨c₂, hc₂, hdemoted⟩

/-- **An expired reservation that is listed is closed.** -/
theorem reservation_reconcileExpired {r : OrderReservation}
    (hr : r ∈ findExpiredOrderReservations db settings.now) :
    ∃ r', (reconcileExpiredOrderReservations settings db).orderReservations.get? r.id = some r'
      ∧ r'.status.isActive = false := by
  have hrel : expiredRelease db r ∈ expiredReleases settings db := List.mem_map_of_mem hr
  obtain ⟨hrow, hwasActive, -, -⟩ := (mem_findExpiredOrderReservations_iff settings db).mp hr
  have hcloses : (expiredRelease db r).closes r = true := by
    rw [closes_expiredRelease]
    exact ⟨rfl, by split <;> rfl⟩
  have hget : db.orderReservations.get? r.id = some r := Table.get?_of_mem hrow
  refine ⟨r.closedAs .expired, ?_, ?_⟩
  · unfold reconcileExpiredOrderReservations
    rw [reservation_releaseAll, hget, Option.map_some, if_pos ⟨_, hrel, hcloses⟩]
  · unfold OrderReservation.closedAs
    rw [if_pos hwasActive]
    rfl

theorem orphans_of_unchanged (hswept : Swept settings db)
    (h : Unchanged db (reconcileLiveState settings db)) :
    ∀ c ∈ db.candidateStrategies.rows, c.status = .liveActive →
      (candidateLinks db c.id settings.now).isOrphan = false := by
  intro c hc hactive
  rw [Bool.eq_false_iff]
  intro horphan
  obtain ⟨c', hc', hdemoted⟩ := candidate_reconcileOrphan settings hc hactive horphan
  -- the demotion stays: later repairs only demote
  have hrest : Rewrites CandidateStrategy.Demotes
      (reconcileOrphanLiveActiveCandidates settings db).candidateStrategies
      (reconcileLiveState settings db).candidateStrategies := by
    unfold reconcileLiveState
    dsimp only
    rw [reconcileStale_of_nil settings hswept.stale]
    have htrans := fun c d e : CandidateStrategy => @CandidateStrategy.Demotes.trans c d e
    exact (((outcome_reconcileMismatched settings _).trans
      (outcome_reconcileExpired settings _)).candidates.trans htrans
      (outcome_reconcilePointer settings _).candidates).trans htrans
      (outcome_afterPointer settings _).candidates
  obtain ⟨c'', hc'', heq⟩ := hrest.get? hc'
  have hstatus : c''.status = .liveEligible := by
    rcases heq with heq | heq
    · rw [heq]
      exact hdemoted
    · exact heq
  have hsame := h.candidates c.id
  have hget : db.candidateStrategies.get? c.id = some c := Table.get?_of_mem hc
  rw [hc'', hget, Option.map_some, Option.map_some, hstatus, hactive] at hsame
  cases hsame

theorem expired_of_unchanged (hswept : Swept settings db)
    (h : Unchanged db (reconcileLiveState settings db))
    (horphan : reconcileOrphanLiveActiveCandidates settings db = db) :
    findExpiredOrderReservations db settings.now = [] := by
  rw [List.eq_nil_iff_forall_not_mem]
  intro r hr
  obtain ⟨hrow, hactive, -, -⟩ := (mem_findExpiredOrderReservations_iff settings db).mp hr
  obtain ⟨r', hr', hclosed⟩ := reservation_reconcileExpired settings hr
  -- no later repair opens it again
  have hrest : Rewrites OrderReservation.Closes
      (reconcileExpiredOrderReservations settings db).orderReservations
      (reconcileLiveState settings db).orderReservations := by
    unfold reconcileLiveState
    dsimp only
    rw [reconcileStale_of_nil settings hswept.stale, horphan,
      reconcileMismatched_of_nil settings hswept.mismatched]
    have htrans := fun r q u : OrderReservation => @OrderReservation.Closes.trans r q u
    exact (outcome_reconcilePointer settings _).reservations.trans htrans
      (outcome_afterPointer settings _).reservations
  obtain ⟨r'', hr'', heq⟩ := hrest.get? hr'
  have hstatus : r''.status.isActive = false := by
    rcases heq with heq | heq
    · rw [heq]
      exact hclosed
    · exact heq
  have hsame := h.reservations r.id
  have hget : db.orderReservations.get? r.id = some r := Table.get?_of_mem hrow
  rw [hr'', hget, Option.map_some, Option.map_some] at hsame
  rw [Option.some.inj hsame, hactive] at hstatus
  cases hstatus

theorem pointers_of_unchanged (hswept : Swept settings db)
    (h : Unchanged db (reconcileLiveState settings db))
    (horphan : reconcileOrphanLiveActiveCandidates settings db = db)
    (hexpired : reconcileExpiredOrderReservations settings db = db) :
    findReservedSlotSessionPointerMismatches db = [] := by
  rw [List.eq_nil_iff_forall_not_mem]
  intro item hitem
  obtain ⟨hrow, hfree, -, -, hreplacement⟩ :=
    mem_findReservedSlotSessionPointerMismatches.mp hitem
  have hother := (replacementSession_spec hreplacement).2
  -- the last three repairs leave the new pointer, or a slot that waits no longer
  have hrest : Outcome PositionSlot.Settles (reconcileReservedSlotSessionPointer settings db)
      (reconcileLiveState settings db) := by
    unfold reconcileLiveState
    dsimp only
    rw [reconcileStale_of_nil settings hswept.stale, horphan,
      reconcileMismatched_of_nil settings hswept.mismatched, hexpired]
    exact outcome_afterPointer settings _
  obtain ⟨slot', hslot', heq⟩ := hrest.slots.get? (slot_reconcilePointer settings hitem)
  have hget : db.positionSlots.get? item.1.id = some item.1 := Table.get?_of_mem hrow
  rw [h.slots item.1.id, hget] at hslot'
  have hsame : item.1 = slot' := Option.some.inj hslot'
  rcases heq with heq | ⟨hstatus, -⟩
  · rw [heq] at hsame
    exact hother (congrArg PositionSlot.liveStrategySessionId hsame)
  · rw [← hsame] at hstatus
    exact hstatus (PositionSlot.isFree_iff.mp hfree).1

theorem leavesNothing_of_unchanged (hswept : Swept settings db)
    (h : Unchanged db (reconcileLiveState settings db)) : LeavesNothing settings db := by
  have horphans := orphans_of_unchanged settings hswept h
  have horphan := reconcileOrphan_of_none settings horphans
  have hexpired := expired_of_unchanged settings hswept h horphan
  have hexpiredPass := reconcileExpired_of_nil settings hexpired
  exact ⟨horphans, hexpired, pointers_of_unchanged settings hswept h horphan hexpiredPass⟩

/-! ## One pass or more -/

/-- **When one pass is enough**: a second one changes nothing exactly if the first leaves no
orphaned candidate, no expired reservation that is safe to release and no reserved slot
whose session is safe to replace. -/
theorem second_pass_unchanged_iff (hnamed : PositionsNamed db) :
    Unchanged (reconcileLiveState settings db)
        (reconcileLiveState settings (reconcileLiveState settings db))
      ↔ LeavesNothing settings (reconcileLiveState settings db) := by
  have hswept := swept_reconcileLiveState settings hnamed
  constructor
  · exact leavesNothing_of_unchanged settings hswept
  · intro hnothing
    rw [reconcileLiveState_of_swept settings hswept hnothing]
    exact ⟨fun _ => rfl, fun _ => rfl, fun _ => rfl, fun _ => rfl⟩

end Passes

/-- Session 2 of candidate 1 still points to position 1, which session 1 of candidate 2 owns;
no other link ties candidate 1 to the execution. -/
def exampleDuplicateDb : Database :=
  { livePositions := Table.empty.insert
      (fun k => { id := k, sessionId := 1, market := "KRW-BTC", candidateStrategyId := 2 })
      (fun _ => rfl)
    liveStrategySessions := (Table.empty.insert
      (fun k =>
        { id := k, market := "KRW-BTC", candidateStrategyId := 2, status := .running
          autoEnabled := true, currentPositionId := some 1 })
      (fun _ => rfl)).insert
      (fun k =>
        { id := k, market := "KRW-BTC", candidateStrategyId := 1, status := .running
          autoEnabled := true, currentPositionId := some 1 })
      (fun _ => rfl)
    candidateStrategies := (Table.empty.insert
      (fun k => { id := k, market := "KRW-BTC", status := .liveActive }) (fun _ => rfl)).insert
      (fun k => { id := k, market := "KRW-BTC", status := .liveActive }) (fun _ => rfl) }

theorem second_pass_demotes :
    ¬ Unchanged (reconcileLiveState {} exampleDuplicateDb)
        (reconcileLiveState {} (reconcileLiveState {} exampleDuplicateDb)) := by
  intro h
  have hstatus := h.candidates 1
  revert hstatus
  decide +kernel

end AutoCoinBot
