/-
  LiveStateReconciler.Outcomes — what a repair can make of a row.

  The repairs after the first only settle: a session is stopped or left alone, a slot waits for its
  entry no longer or is left alone, a reservation is closed, a candidate is demoted.
-/
import AutoCoinBot.LiveStateReconciler.Repairs

namespace AutoCoinBot

open Library

/-! ## Rows -/

def LiveStrategySession.Stops (s s' : LiveStrategySession) : Prop :=
  s' = s ∨ (s'.status = .stopped ∧ s'.market = s.market
    ∧ s'.candidateStrategyId = s.candidateStrategyId)

/-- A slot is left alone, or waits for no entry. -/
def PositionSlot.Settles (s s' : PositionSlot) : Prop :=
  s' = s ∨ (s'.status ≠ .reserved ∧ s'.status ≠ .entering)

/-- A slot is left alone, or names another session. -/
def PositionSlot.Repoints (now : UtcTime) (s s' : PositionSlot) : Prop :=
  s' = s ∨ ∃ sessionId, s' = s.repointed sessionId now

/-- A reservation is left alone, or not active. -/
def OrderReservation.Closes (r r' : OrderReservation) : Prop := r' = r ∨ r'.status.isActive = false

/-- A candidate is left alone, or only eligible. -/
def CandidateStrategy.Demotes (c c' : CandidateStrategy) : Prop := c' = c ∨ c'.status = .liveEligible

theorem LiveStrategySession.Stops.refl (s : LiveStrategySession) : s.Stops s := .inl rfl
theorem PositionSlot.Settles.refl (s : PositionSlot) : s.Settles s := .inl rfl
theorem PositionSlot.Repoints.refl (now : UtcTime) (s : PositionSlot) : s.Repoints now s := .inl rfl
theorem OrderReservation.Closes.refl (r : OrderReservation) : r.Closes r := .inl rfl
theorem CandidateStrategy.Demotes.refl (c : CandidateStrategy) : c.Demotes c := .inl rfl

theorem LiveStrategySession.Stops.trans {s t u : LiveStrategySession} (h : s.Stops t)
    (h' : t.Stops u) : s.Stops u := by
  refine eq_or_trans (S := fun s s' : LiveStrategySession => s'.status = .stopped ∧ s'.market = s.market
    ∧ s'.candidateStrategyId = s.candidateStrategyId) (fun s t u hfirst hsecond => ?_) h h'
  obtain ⟨-, hmarket, hcandidate⟩ := hfirst
  obtain ⟨hstatus, hmarket', hcandidate'⟩ := hsecond
  exact ⟨hstatus, hmarket'.trans hmarket, hcandidate'.trans hcandidate⟩

theorem PositionSlot.Settles.trans {s t u : PositionSlot} (h : s.Settles t) (h' : t.Settles u) :
    s.Settles u :=
  eq_or_trans (S := fun _ s' : PositionSlot => s'.status ≠ .reserved ∧ s'.status ≠ .entering)
    (fun _ _ _ _ hsettled => hsettled) h h'

theorem PositionSlot.Repoints.trans {now : UtcTime} {s t u : PositionSlot} (h : s.Repoints now t)
    (h' : t.Repoints now u) : s.Repoints now u := by
  refine eq_or_trans (S := fun s s' : PositionSlot => ∃ sessionId, s' = s.repointed sessionId now)
    (fun s t u hfirst hsecond => ?_) h h'
  obtain ⟨first, hfirst⟩ := hfirst
  obtain ⟨second, hsecond⟩ := hsecond
  rw [hfirst] at hsecond
  exact ⟨second, hsecond⟩

theorem OrderReservation.Closes.trans {r q u : OrderReservation} (h : r.Closes q)
    (h' : q.Closes u) : r.Closes u :=
  eq_or_trans (S := fun _ r' : OrderReservation => r'.status.isActive = false)
    (fun _ _ _ _ hclosed => hclosed) h h'

theorem CandidateStrategy.Demotes.trans {c d e : CandidateStrategy} (h : c.Demotes d)
    (h' : d.Demotes e) : c.Demotes e :=
  eq_or_trans (S := fun _ c' : CandidateStrategy => c'.status = .liveEligible)
    (fun _ _ _ _ hdemoted => hdemoted) h h'

theorem PositionSlot.settles_of_empty (s : PositionSlot) {s' : PositionSlot}
    (h : s'.status = .empty) : s.Settles s' := by
  refine .inr ⟨?_, ?_⟩ <;> rw [h] <;> decide

theorem LiveStrategySession.stops_merge {u : LiveStrategySessionUpdates}
    (hu : u.status = some .stopped) (s : LiveStrategySession) : s.Stops (s.merge u) := by
  refine .inr ⟨?_, rfl, rfl⟩
  show u.status.getD s.status = .stopped
  rw [hu]
  rfl

theorem OrderReservation.closes_closedAs {status : ReservationStatus}
    (hinactive : status.isActive = false) (r : OrderReservation) : r.Closes (r.closedAs status) := by
  unfold OrderReservation.closedAs
  split
  · exact .inr hinactive
  · exact .inl rfl

/-! ## Repairs -/

/-- What a repair leaves: the positions and the order logs, and every other row as far as its
relation says. -/
structure Outcome (R : PositionSlot → PositionSlot → Prop) (before after : Database) : Prop where
  livePositions : after.livePositions = before.livePositions
  liveOrderLogs : after.liveOrderLogs = before.liveOrderLogs
  sessions : Rewrites LiveStrategySession.Stops before.liveStrategySessions
    after.liveStrategySessions
  slots : Rewrites R before.positionSlots after.positionSlots
  reservations : Rewrites OrderReservation.Closes before.orderReservations after.orderReservations
  candidates : Rewrites CandidateStrategy.Demotes before.candidateStrategies
    after.candidateStrategies

/-- **Repairs one after the other.** -/
theorem Outcome.trans {d₁ d₂ d₃ : Database} (h : Outcome PositionSlot.Settles d₁ d₂)
    (h' : Outcome PositionSlot.Settles d₂ d₃) : Outcome PositionSlot.Settles d₁ d₃ where
  livePositions := h'.livePositions.trans h.livePositions
  liveOrderLogs := h'.liveOrderLogs.trans h.liveOrderLogs
  sessions := h.sessions.trans (fun _ _ _ => LiveStrategySession.Stops.trans) h'.sessions
  slots := h.slots.trans (fun _ _ _ => PositionSlot.Settles.trans) h'.slots
  reservations := h.reservations.trans (fun _ _ _ => OrderReservation.Closes.trans) h'.reservations
  candidates := h.candidates.trans (fun _ _ _ => CandidateStrategy.Demotes.trans) h'.candidates

section Repairs

variable (settings : ReconcilerSettings) (db : Database)

theorem candidates_promote (allowedExchange : String) (candidateId : ℕ) :
    Rewrites CandidateStrategy.Demotes db.candidateStrategies
      (promoteCandidateStrategy db allowedExchange candidateId .liveEligible).candidateStrategies :=
  rewrites_of_ite CandidateStrategy.Demotes.refl (p := fun k _ => k = candidateId)
    (f := fun c : CandidateStrategy => { c with status := .liveEligible })
    (fun k => loadCandidateStrategy_promote db allowedExchange candidateId .liveEligible k)
    (fun _ => .inr rfl)

theorem candidates_demoteCandidate {d : Database}
    (h : d.candidateStrategies = db.candidateStrategies) (candidateId : ℕ) :
    Rewrites CandidateStrategy.Demotes db.candidateStrategies
      (demoteCandidate settings d candidateId).candidateStrategies := by
  rw [← h]
  unfold demoteCandidate
  split
  · exact Rewrites.refl CandidateStrategy.Demotes.refl _
  · exact candidates_promote d _ candidateId

/-- **Orphans** are demoted. -/
theorem outcome_reconcileOrphan :
    Outcome PositionSlot.Settles db (reconcileOrphanLiveActiveCandidates settings db) where
  livePositions := reconcileOrphan_livePositions settings db
  liveOrderLogs := by
    obtain ⟨candidates, markets, h⟩ := reconcileOrphan_frame settings db
    rw [h]
  sessions := rewrites_of_eq LiveStrategySession.Stops.refl (reconcileOrphan_liveStrategySessions settings db)
  slots := rewrites_of_eq PositionSlot.Settles.refl (reconcileOrphan_positionSlots settings db)
  reservations := by
    refine rewrites_of_eq OrderReservation.Closes.refl ?_
    obtain ⟨candidates, markets, h⟩ := reconcileOrphan_frame settings db
    rw [h]
  candidates := by
    unfold reconcileOrphanLiveActiveCandidates
    refine rewrites_foldl CandidateStrategy.Demotes.refl
      (fun _ _ _ => CandidateStrategy.Demotes.trans) Database.candidateStrategies (fun d c _ => ?_) db
    split
    · exact candidates_promote d _ c.id
    · exact Rewrites.refl CandidateStrategy.Demotes.refl _

/-- **Mismatched slots** are emptied. -/
theorem outcome_reconcileMismatched :
    Outcome PositionSlot.Settles db (reconcileMismatchedPositionSlotSessions settings db) where
  livePositions := reconcileMismatched_livePositions settings db
  liveOrderLogs := by
    unfold reconcileMismatchedPositionSlotSessions
    refine foldl_frame Database.liveOrderLogs (fun d item => ?_) _ db
    unfold releaseMismatchedSlot
    dsimp only
    rw [demoteCandidate_liveOrderLogs]
    split <;> rfl
  sessions := rewrites_of_ite LiveStrategySession.Stops.refl
    (fun k => session_reconcileMismatched settings db k)
    (LiveStrategySession.stops_merge rfl)
  slots := rewrites_of_ite PositionSlot.Settles.refl (fun k => slot_reconcileMismatched settings db k)
    (fun s => s.settles_of_empty rfl)
  reservations := rewrites_of_ite OrderReservation.Closes.refl
    (fun k => reservation_reconcileMismatched settings db k)
    (OrderReservation.closes_closedAs rfl)
  candidates := by
    unfold reconcileMismatchedPositionSlotSessions
    refine rewrites_foldl CandidateStrategy.Demotes.refl
      (fun _ _ _ => CandidateStrategy.Demotes.trans) Database.candidateStrategies (fun d item _ => ?_) db
    unfold releaseMismatchedSlot
    dsimp only
    refine candidates_demoteCandidate settings d ?_ _
    split <;> rfl

theorem outcome_releaseAll (reason : String) {status : ReservationStatus}
    (hinactive : status.isActive = false) (rels : List SlotRelease) :
    Outcome PositionSlot.Settles db (releaseAll settings db reason status rels) where
  livePositions := releaseAll_livePositions settings db reason status rels
  liveOrderLogs := releaseAll_liveOrderLogs settings db reason status rels
  sessions := rewrites_of_ite LiveStrategySession.Stops.refl
    (fun k => session_releaseAll settings db k reason status rels)
    (LiveStrategySession.stops_merge rfl)
  slots := rewrites_of_ite PositionSlot.Settles.refl
    (fun k => slot_releaseAll settings db k reason status rels)
    (fun s => s.settles_of_empty rfl)
  reservations := rewrites_of_ite OrderReservation.Closes.refl
    (fun k => reservation_releaseAll settings db k reason status rels)
    (OrderReservation.closes_closedAs hinactive)
  candidates := by
    unfold releaseAll
    refine rewrites_foldl CandidateStrategy.Demotes.refl
      (fun _ _ _ => CandidateStrategy.Demotes.trans) Database.candidateStrategies (fun d rel _ => ?_) db
    unfold releaseReservedSlot
    dsimp only
    refine candidates_demoteCandidate settings d ?_ _
    rw [stopSessionIf_candidateStrategies]

theorem outcome_reconcileExpired :
    Outcome PositionSlot.Settles db (reconcileExpiredOrderReservations settings db) :=
  outcome_releaseAll settings db expiredReservationReason rfl (expiredReleases settings db)

theorem outcome_reconcileBlocked :
    Outcome PositionSlot.Settles db (reconcileReservedEntryBlockedSlots settings db) :=
  outcome_releaseAll settings db reservedEntryBlockReason rfl (blockedReleases settings db)

/-- **Session pointers**: slots get another session. -/
theorem outcome_reconcilePointer :
    Outcome (PositionSlot.Repoints settings.now) db
      (reconcileReservedSlotSessionPointer settings db) where
  livePositions := reconcileReservedSlotSessionPointer_livePositions settings db
  liveOrderLogs := by
    unfold reconcileReservedSlotSessionPointer
    refine foldl_frame Database.liveOrderLogs (fun d item => ?_) _ db
    unfold repointReservedSlot
    dsimp only
    rw [stopSessionIf_liveOrderLogs]
  sessions := rewrites_of_ite LiveStrategySession.Stops.refl
    (fun k => session_reconcileReservedSlotSessionPointer settings db k)
    (LiveStrategySession.stops_merge rfl)
  slots := by
    unfold reconcileReservedSlotSessionPointer
    refine rewrites_foldl (PositionSlot.Repoints.refl settings.now)
      (fun _ _ _ => PositionSlot.Repoints.trans) Database.positionSlots (fun d item _ => ?_) db
    -- the slot still waits, so this repair is no `Settles`
    exact rewrites_of_ite (PositionSlot.Repoints.refl settings.now)
      (fun k => slot_repointReservedSlot settings d k item) (fun _ => .inr ⟨item.2.id, rfl⟩)
  reservations := by
    refine rewrites_of_eq OrderReservation.Closes.refl ?_
    unfold reconcileReservedSlotSessionPointer
    exact foldl_frame Database.orderReservations (fun d item => by simp) _ db
  candidates := by
    refine rewrites_of_eq CandidateStrategy.Demotes.refl ?_
    unfold reconcileReservedSlotSessionPointer
    refine foldl_frame Database.candidateStrategies (fun d item => ?_) _ db
    unfold repointReservedSlot
    dsimp only
    rw [stopSessionIf_candidateStrategies]

/-- **Entries** are written into their slots. -/
theorem outcome_reconcileEntryFill :
    Outcome PositionSlot.Settles db (reconcileEntryFillLifecycles settings db) where
  livePositions := reconcileEntryFill_livePositions settings db
  liveOrderLogs := by
    unfold reconcileEntryFillLifecycles
    exact foldl_frame Database.liveOrderLogs (fun d p => by simp) _ db
  sessions := rewrites_of_eq LiveStrategySession.Stops.refl
    (reconcileEntryFill_liveStrategySessions settings db)
  slots := by
    unfold reconcileEntryFillLifecycles
    refine rewrites_foldl PositionSlot.Settles.refl (fun _ _ _ => PositionSlot.Settles.trans)
      Database.positionSlots (fun d p _ => ?_) db
    -- no slot is found, or one is held by the position from now on
    rcases positionSlots_finalize d p.id settings.now with ⟨-, hslots⟩ | ⟨target, q, -, -, hslots⟩
    · exact rewrites_of_eq PositionSlot.Settles.refl hslots
    · rw [hslots]
      exact rewrites_of_ite PositionSlot.Settles.refl (p := fun k _ => k = target.id)
        (fun k => Table.get?_modify d.positionSlots k target.id
          (fun s => s.finalized q settings.now) (fun _ => rfl))
        (fun _ => .inr ⟨by rintro ⟨⟩, by rintro ⟨⟩⟩)
  reservations := by
    unfold reconcileEntryFillLifecycles
    refine rewrites_foldl OrderReservation.Closes.refl
      (fun _ _ _ => OrderReservation.Closes.trans) Database.orderReservations (fun d p _ => ?_) db
    obtain ⟨consumed, hspec⟩ := reservation_finalize d p.id settings.now
    exact rewrites_of_ite OrderReservation.Closes.refl hspec (fun _ => .inr rfl)
  candidates := by
    refine rewrites_of_eq CandidateStrategy.Demotes.refl ?_
    unfold reconcileEntryFillLifecycles
    exact foldl_frame Database.candidateStrategies (fun d p => by simp) _ db

/-- **Duplicates** are stopped. -/
theorem outcome_reconcileDuplicate :
    Outcome PositionSlot.Settles db (reconcileDuplicatePositionSessions settings db) where
  livePositions := reconcileDuplicate_livePositions settings db
  liveOrderLogs := by
    unfold reconcileDuplicatePositionSessions
    refine foldl_frame Database.liveOrderLogs (fun d s => ?_) _ db
    rfl
  sessions := rewrites_of_ite LiveStrategySession.Stops.refl
    (fun k => session_reconcileDuplicate settings db k)
    (LiveStrategySession.stops_merge rfl)
  slots := by
    refine rewrites_of_eq PositionSlot.Settles.refl ?_
    unfold reconcileDuplicatePositionSessions
    refine foldl_frame Database.positionSlots (fun d s => ?_) _ db
    rfl
  reservations := by
    refine rewrites_of_eq OrderReservation.Closes.refl ?_
    unfold reconcileDuplicatePositionSessions
    refine foldl_frame Database.orderReservations (fun d s => ?_) _ db
    rfl
  candidates := by
    refine rewrites_of_eq CandidateStrategy.Demotes.refl ?_
    unfold reconcileDuplicatePositionSessions
    refine foldl_frame Database.candidateStrategies (fun d s => ?_) _ db
    rfl

theorem outcome_afterPointer :
    Outcome PositionSlot.Settles db (reconcileReservedEntryBlockedSlots settings
      (reconcileDuplicatePositionSessions settings (reconcileEntryFillLifecycles settings db))) :=
  ((outcome_reconcileEntryFill settings db).trans (outcome_reconcileDuplicate settings _)).trans
    (outcome_reconcileBlocked settings _)

end Repairs

end AutoCoinBot
