/-
  StrategyPromotion.Statuses — which candidates a run takes up, and who writes their
  status.

  Candidates are loaded by status and score. The ranking orders them by the opportunity their
  markets offer; it adds no candidate.

  Every sweep that releases a slot or a reservation sends the candidate it names back to
  `LIVE_ELIGIBLE`.
-/
import AutoCoinBot.CapitalAllocator.Allocate
import AutoCoinBot.Library.Halts
import AutoCoinBot.LiveStateReconciler.Repairs

namespace AutoCoinBot

open Library

/-! ## Loading -/

/-- `ORDER BY score DESC, updated_at DESC, id DESC`. -/
def CandidateStrategy.listedBefore (updatedAt : ℕ → UtcTime) (a b : CandidateStrategy) : Prop :=
  b.score < a.score ∨ (b.score = a.score
    ∧ (updatedAt b.id < updatedAt a.id ∨ (updatedAt b.id = updatedAt a.id ∧ b.id ≤ a.id)))

instance (updatedAt : ℕ → UtcTime) : DecidableRel (CandidateStrategy.listedBefore updatedAt) :=
  fun a b => inferInstanceAs (Decidable (b.score < a.score ∨ (b.score = a.score
    ∧ (updatedAt b.id < updatedAt a.id ∨ (updatedAt b.id = updatedAt a.id ∧ b.id ≤ a.id)))))

/-- `load_candidate_strategies`; `updatedAt` is the column of that name. -/
def loadCandidateStrategies (db : Database) (updatedAt : ℕ → UtcTime) (limit : ℕ)
    (statuses : List CandidateStatus) : List CandidateStrategy :=
  ((db.candidateStrategies.select (fun c => statuses.contains c.status)).insertionSort
    (CandidateStrategy.listedBefore updatedAt)).take limit

/-- `LIVE_CANDIDATE_STATUSES`, sorted. -/
def liveCandidateStatuses : List CandidateStatus := [.liveActive, .liveEligible]

def loadLiveEligibleCandidateStrategies (db : Database) (updatedAt : ℕ → UtcTime) (limit : ℕ) :
    List CandidateStrategy :=
  loadCandidateStrategies db updatedAt limit liveCandidateStatuses

/-- **A loaded candidate** is a row with an asked-for status. -/
theorem mem_loadCandidateStrategies {db : Database} {updatedAt : ℕ → UtcTime} {limit : ℕ}
    {statuses : List CandidateStatus} {c : CandidateStrategy}
    (h : c ∈ loadCandidateStrategies db updatedAt limit statuses) :
    loadCandidateStrategy db c.id = some c ∧ c.status ∈ statuses := by
  have hlisted := (List.mem_insertionSort _).mp (List.mem_of_mem_take h)
  obtain ⟨hrow, hstatus⟩ := Table.mem_select.mp hlisted
  exact ⟨Table.get?_of_mem hrow, by simpa using hstatus⟩

/-! ## Ranking -/

/-- What `enrich_candidate_opportunity` says of a candidate. -/
structure Opportunity where
  eligibleForAllocation : Bool := false
  marketOpportunityScore : ℚ := 0

/-- The sort key of `rank_live_candidates`, in descending order. -/
def ranksBefore (a b : Opportunity × CandidateStrategy) : Prop :=
  b.1.eligibleForAllocation < a.1.eligibleForAllocation
    ∨ (b.1.eligibleForAllocation = a.1.eligibleForAllocation
      ∧ (b.1.marketOpportunityScore < a.1.marketOpportunityScore
        ∨ (b.1.marketOpportunityScore = a.1.marketOpportunityScore
          ∧ (b.2.score < a.2.score ∨ (b.2.score = a.2.score ∧ a.2.id ≤ b.2.id)))))

instance : DecidableRel ranksBefore := fun a b =>
  inferInstanceAs (Decidable (b.1.eligibleForAllocation < a.1.eligibleForAllocation
    ∨ (b.1.eligibleForAllocation = a.1.eligibleForAllocation
      ∧ (b.1.marketOpportunityScore < a.1.marketOpportunityScore
        ∨ (b.1.marketOpportunityScore = a.1.marketOpportunityScore
          ∧ (b.2.score < a.2.score ∨ (b.2.score = a.2.score ∧ a.2.id ≤ b.2.id)))))))

def rankLiveCandidates (opportunity : CandidateStrategy → Opportunity) (limit : ℕ)
    (candidates : List CandidateStrategy) : List RankedCandidate :=
  let ranked := (candidates.map (fun c => (opportunity c, c))).insertionSort ranksBefore
  (if limit = 0 then ranked else ranked.take (max limit 1)).map (fun item =>
    { item.2 with marketOpportunityScore := some item.1.marketOpportunityScore })

/-- **A ranked candidate** is one of those given. -/
theorem mem_rankLiveCandidates {opportunity : CandidateStrategy → Opportunity} {limit : ℕ}
    {candidates : List CandidateStrategy} {c : RankedCandidate}
    (h : c ∈ rankLiveCandidates opportunity limit candidates) :
    c.toCandidateStrategy ∈ candidates := by
  obtain ⟨item, hitem, rfl⟩ := List.mem_map.mp h
  have hranked :
      item ∈ (candidates.map (fun c => (opportunity c, c))).insertionSort ranksBefore := by
    split at hitem
    · exact hitem
    · exact List.mem_of_mem_take hitem
  obtain ⟨d, hd, rfl⟩ := List.mem_map.mp ((List.mem_insertionSort _).mp hranked)
  exact hd

/-! ## Statuses -/

def candidateStatus (db : Database) (candidateId : ℕ) : Option CandidateStatus :=
  (loadCandidateStrategy db candidateId).map CandidateStrategy.status

/-- A status of `LIVE_CANDIDATE_STATUSES`. -/
def CandidateStatus.IsLive (status : CandidateStatus) : Prop := status ∈ liveCandidateStatuses

/-- `PAUSED` or `REJECTED`. -/
def CandidateStatus.IsHalted (status : CandidateStatus) : Prop :=
  status = .paused ∨ status = .rejected

instance : DecidablePred CandidateStatus.IsLive :=
  fun status => inferInstanceAs (Decidable (status ∈ liveCandidateStatuses))

instance : DecidablePred CandidateStatus.IsHalted :=
  fun status => inferInstanceAs (Decidable (status = .paused ∨ status = .rejected))

theorem CandidateStatus.not_isLive_of_isHalted (status : CandidateStatus) (h : status.IsHalted) :
    ¬ status.IsLive := by
  revert h
  cases status <;> decide

theorem CandidateStatus.liveEligible_isLive : CandidateStatus.IsLive .liveEligible := by decide

theorem CandidateStatus.liveActive_isLive : CandidateStatus.IsLive .liveActive := by decide

def IsHalted (db : Database) (candidateId : ℕ) : Prop :=
  Halted CandidateStatus.IsHalted (candidateStatus db) candidateId

instance (db : Database) (candidateId : ℕ) : Decidable (IsHalted db candidateId) :=
  inferInstanceAs (Decidable (Halted CandidateStatus.IsHalted (candidateStatus db) candidateId))

/-- A write gives a live status to the named candidates. -/
def MakesLive (names : ℕ → Prop) (before after : Database) : Prop :=
  Marks CandidateStatus.IsLive names (candidateStatus before) (candidateStatus after)

theorem candidateStatus_congr {db db' : Database}
    (h : db'.candidateStrategies = db.candidateStrategies) :
    candidateStatus db' = candidateStatus db := by
  funext k
  show (db'.candidateStrategies.get? k).map _ = (db.candidateStrategies.get? k).map _
  rw [h]

theorem makesLive_of_eq {db db' : Database} (h : db'.candidateStrategies = db.candidateStrategies) :
    MakesLive (fun _ => False) db db' :=
  marks_of_eq (candidateStatus_congr h)

theorem candidateStatus_promote (db : Database) (allowedExchange : String) (candidateId k : ℕ)
    (toStatus : CandidateStatus) :
    candidateStatus (promoteCandidateStrategy db allowedExchange candidateId toStatus) k
      = (candidateStatus db k).map
          (fun status => if k = candidateId then toStatus else status) := by
  unfold candidateStatus
  rw [loadCandidateStrategy_promote, Option.map_map, Option.map_map]
  refine congrFun (congrArg Option.map ?_) _
  funext c
  show (if k = candidateId then { c with status := toStatus } else c).status = _
  split <;> rfl

/-- **A promotion to a live status.** -/
theorem marks_promote (db : Database) (allowedExchange : String) (candidateId : ℕ)
    {toStatus : CandidateStatus} (hlive : toStatus.IsLive) :
    MakesLive (fun k => k = candidateId) db
      (promoteCandidateStrategy db allowedExchange candidateId toStatus) := by
  intro k
  rw [candidateStatus_promote]
  constructor
  · intro hk
    cases candidateStatus db k with
    | none => exact .none
    | some status =>
      rw [Option.map_some, if_pos hk]
      exact .some hlive
  · intro hk
    simp [hk]

theorem candidateStatus_of_load {db : Database} {k : ℕ} {c : CandidateStrategy}
    (h : loadCandidateStrategy db k = some c) : candidateStatus db k = some c.status := by
  unfold candidateStatus
  rw [h]
  rfl

/-! ## The sweeps -/

/-- The sweeps of `live_state_reconciler`. -/
inductive Reconciler where
  | staleLiveStrategySessions
  | orphanLiveActiveCandidates
  | mismatchedPositionSlotSessions
  | expiredOrderReservations
  | reservedSlotSessionPointer
  | entryFillLifecycles
  | duplicatePositionSessions
  | reservedEntryBlockedSlots

def Reconciler.reconcile (settings : ReconcilerSettings) (db : Database) : Reconciler → Database
  | staleLiveStrategySessions => reconcileStaleLiveStrategySessions settings db
  | orphanLiveActiveCandidates => reconcileOrphanLiveActiveCandidates settings db
  | mismatchedPositionSlotSessions => reconcileMismatchedPositionSlotSessions settings db
  | expiredOrderReservations => reconcileExpiredOrderReservations settings db
  | reservedSlotSessionPointer => reconcileReservedSlotSessionPointer settings db
  | entryFillLifecycles => reconcileEntryFillLifecycles settings db
  | duplicatePositionSessions => reconcileDuplicatePositionSessions settings db
  | reservedEntryBlockedSlots => reconcileReservedEntryBlockedSlots settings db

/-- The sweeps of `reconcile_live_state`, in order. -/
def Reconciler.all : List Reconciler :=
  [staleLiveStrategySessions, orphanLiveActiveCandidates, mismatchedPositionSlotSessions,
    expiredOrderReservations, reservedSlotSessionPointer, entryFillLifecycles,
    duplicatePositionSessions, reservedEntryBlockedSlots]

theorem reconcileLiveState_eq_run (settings : ReconcilerSettings) (db : Database) :
    reconcileLiveState settings db = run (Reconciler.reconcile settings) db Reconciler.all := rfl

/-- The candidates a sweep sends back to `LIVE_ELIGIBLE` whatever their status is. -/
def Reconciler.sentBack (settings : ReconcilerSettings) (db : Database) : Reconciler → List ℕ
  | mismatchedPositionSlotSessions =>
    (findMismatchedPositionSlotSessions db).map (fun slot => slot.candidateStrategyId.getD 0)
  | expiredOrderReservations =>
    (findExpiredOrderReservations db settings.now).map OrderReservation.candidateStrategyId
  | reservedEntryBlockedSlots =>
    if settings.releaseEnabled then
      (findReservedEntryBlockedSlots db settings).map
        (fun slot => slot.candidateStrategyId.getD 0)
    else []
  | _ => []

section Sweeps

variable (settings : ReconcilerSettings) (db : Database)

theorem marks_demoteCandidate {d : Database} (h : d.candidateStrategies = db.candidateStrategies)
    (candidateId : ℕ) :
    MakesLive (fun k => k = candidateId) db (demoteCandidate settings d candidateId) := by
  unfold MakesLive
  rw [← candidateStatus_congr h]
  unfold demoteCandidate
  split
  case isFalse => exact marks_promote d _ candidateId CandidateStatus.liveEligible_isLive
  case isTrue hzero =>
    intro k
    refine ⟨fun hk => ?_, fun _ => rfl⟩
    -- no row has the id zero
    have hnone : candidateStatus d k = none := by
      unfold candidateStatus
      cases hload : loadCandidateStrategy d k with
      | none => rfl
      | some c =>
        have hpos := Table.get?_pos hload
        omega
    rw [hnone]
    exact .none

theorem marks_releaseAll (reason : String) (status : ReservationStatus) (rels : List SlotRelease) :
    MakesLive (fun k => k ∈ rels.map SlotRelease.candidateId) db
      (releaseAll settings db reason status rels) := by
  have hitem : ∀ (d : Database) (rel : SlotRelease), MakesLive (fun k => k = rel.candidateId) d
      (releaseReservedSlot settings reason status d rel) := by
    intro d rel
    unfold releaseReservedSlot
    dsimp only
    refine marks_demoteCandidate settings d ?_ rel.candidateId
    rw [stopSessionIf_candidateStrategies]
  exact (marks_foldl hitem rels db).congr (fun k => by simp [eq_comm])

theorem marks_reconcileMismatched :
    MakesLive (fun k => k ∈ (findMismatchedPositionSlotSessions db).map
      (fun slot => slot.candidateStrategyId.getD 0)) db
      (reconcileMismatchedPositionSlotSessions settings db) := by
  have hitem : ∀ (d : Database) (slot : PositionSlot),
      MakesLive (fun k => k = slot.candidateStrategyId.getD 0) d
        (releaseMismatchedSlot settings d slot) := by
    intro d slot
    unfold releaseMismatchedSlot
    dsimp only
    refine marks_demoteCandidate settings d ?_ _
    split <;> rfl
  exact (marks_foldl hitem (findMismatchedPositionSlotSessions db) db).congr
    (fun k => by simp [eq_comm])

theorem marks_reconcileOrphan :
    MakesLive (fun k => candidateStatus db k = some .liveActive) db
      (reconcileOrphanLiveActiveCandidates settings db) := by
  unfold reconcileOrphanLiveActiveCandidates
  -- kept through the loop: the others keep their status, and these have a live one
  refine foldl_invariant (P := fun d =>
    MakesLive (fun k => candidateStatus db k = some .liveActive) db d) ?_ ?_
  · intro d c hc hd
    split
    case isFalse => exact hd
    case isTrue =>
      obtain ⟨hrow, hactive⟩ := Table.mem_select.mp hc
      have hload : loadCandidateStrategy db c.id = some c := Table.get?_of_mem hrow
      have hstatus : candidateStatus db c.id = some .liveActive := by
        rw [candidateStatus_of_load hload]
        exact congrArg some (by simpa using hactive)
      refine (hd.trans (marks_promote d settings.allowedExchange c.id
        CandidateStatus.liveEligible_isLive)).congr ?_
      intro k
      refine ⟨fun h => h.elim id (fun hk => ?_), .inl⟩
      rw [hk]
      exact hstatus
  · intro k
    refine ⟨fun hk => ?_, fun _ => rfl⟩
    rw [hk]
    exact .some (by decide)

/-- **Whose status a sweep writes**: those it sends back, and orphans. -/
theorem marks_reconciler (r : Reconciler) :
    MakesLive (fun k => k ∈ r.sentBack settings db
        ∨ (r = .orphanLiveActiveCandidates ∧ candidateStatus db k = some .liveActive)) db
      (r.reconcile settings db) := by
  cases r with
  | staleLiveStrategySessions =>
    refine (makesLive_of_eq ?_).congr (fun k => by simp [Reconciler.sentBack])
    show (reconcileStaleLiveStrategySessions settings db).candidateStrategies = _
    unfold reconcileStaleLiveStrategySessions
    refine foldl_frame Database.candidateStrategies (fun d s => ?_) _ db
    rfl
  | orphanLiveActiveCandidates =>
    exact (marks_reconcileOrphan settings db).congr (fun k => by simp [Reconciler.sentBack])
  | mismatchedPositionSlotSessions =>
    refine (marks_reconcileMismatched settings db).congr (fun k => ?_)
    rw [or_iff_left (by simp)]
    exact Iff.rfl
  | expiredOrderReservations =>
    refine Marks.congr (marks_releaseAll settings db expiredReservationReason .expired
      (expiredReleases settings db)) (fun k => ?_)
    rw [or_iff_left (by simp)]
    unfold expiredReleases
    rw [List.map_map]
    exact Iff.rfl
  | reservedSlotSessionPointer =>
    refine (makesLive_of_eq ?_).congr (fun k => by simp [Reconciler.sentBack])
    show (reconcileReservedSlotSessionPointer settings db).candidateStrategies = _
    unfold reconcileReservedSlotSessionPointer
    refine foldl_frame Database.candidateStrategies (fun d item => ?_) _ db
    unfold repointReservedSlot
    dsimp only
    rw [stopSessionIf_candidateStrategies]
  | entryFillLifecycles =>
    refine (makesLive_of_eq ?_).congr (fun k => by simp [Reconciler.sentBack])
    show (reconcileEntryFillLifecycles settings db).candidateStrategies = _
    unfold reconcileEntryFillLifecycles
    exact foldl_frame Database.candidateStrategies (fun d p => by simp) _ db
  | duplicatePositionSessions =>
    refine (makesLive_of_eq ?_).congr (fun k => by simp [Reconciler.sentBack])
    show (reconcileDuplicatePositionSessions settings db).candidateStrategies = _
    unfold reconcileDuplicatePositionSessions
    refine foldl_frame Database.candidateStrategies (fun d s => ?_) _ db
    rfl
  | reservedEntryBlockedSlots =>
    refine Marks.congr (marks_releaseAll settings db reservedEntryBlockReason .released
      (blockedReleases settings db)) (fun k => ?_)
    rw [or_iff_left (by simp)]
    unfold blockedReleases
    show k ∈ List.map _ (if settings.releaseEnabled then _ else _)
      ↔ k ∈ if settings.releaseEnabled then _ else _
    by_cases henabled : settings.releaseEnabled
    · rw [if_pos henabled, if_pos henabled, List.map_map]
      exact Iff.rfl
    · rw [if_neg henabled, if_neg henabled]
      exact Iff.rfl

theorem names_reconciler_iff (r : Reconciler) {k : ℕ} (hk : IsHalted db k) :
    (k ∈ r.sentBack settings db
        ∨ (r = .orphanLiveActiveCandidates ∧ candidateStatus db k = some .liveActive))
      ↔ k ∈ r.sentBack settings db := by
  refine or_iff_left ?_
  rintro ⟨-, hactive⟩
  obtain ⟨status, hstatus, hhalted⟩ := hk
  rw [hactive] at hstatus
  obtain rfl : CandidateStatus.liveActive = status := Option.some.inj hstatus
  exact CandidateStatus.not_isLive_of_isHalted _ hhalted CandidateStatus.liveActive_isLive

/-- **When a sweep leaves the halted candidates alone**: it sends none of them back. -/
theorem spares_reconciler_iff (r : Reconciler) :
    Spares CandidateStatus.IsHalted CandidateStatus.IsLive (candidateStatus db)
        (candidateStatus (r.reconcile settings db))
      ↔ ∀ k ∈ r.sentBack settings db, ¬ IsHalted db k := by
  rw [spares_iff CandidateStatus.not_isLive_of_isHalted (marks_reconciler settings db r)]
  constructor
  · intro h k hk hhalted
    exact h k hhalted (.inl hk)
  · intro h k hhalted hnamed
    exact h k ((names_reconciler_iff settings db r hhalted).mp hnamed) hhalted

/-- No sweep of a reconciliation sends a halted candidate back. -/
def RepairsLeaveHalted : Prop :=
  StepsOk (Reconciler.reconcile settings)
    (fun d r => ∀ k ∈ r.sentBack settings d, ¬ IsHalted d k) db Reconciler.all

/-- **When a reconciliation leaves the halted candidates alone**: every sweep does. -/
theorem spares_reconcileLiveState_iff :
    Spares CandidateStatus.IsHalted CandidateStatus.IsLive (candidateStatus db)
        (candidateStatus (reconcileLiveState settings db))
      ↔ RepairsLeaveHalted settings db := by
  unfold RepairsLeaveHalted
  rw [reconcileLiveState_eq_run]
  refine Iff.trans (spares_run_iff CandidateStatus.not_isLive_of_isHalted (w := candidateStatus)
    (marks_reconciler settings) db Reconciler.all) (stepsOk_congr (fun d r => ?_) db Reconciler.all)
  rw [← spares_reconciler_iff, spares_iff CandidateStatus.not_isLive_of_isHalted
    (marks_reconciler settings d r)]

theorem marks_reconcileLiveState : ∃ names, MakesLive names db (reconcileLiveState settings db) :=
  ⟨_, run_marks (w := candidateStatus) (marks_reconciler settings) db Reconciler.all⟩

end Sweeps

end AutoCoinBot
