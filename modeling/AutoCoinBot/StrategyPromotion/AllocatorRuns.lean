/-
  StrategyPromotion.AllocatorRuns — whole runs of the capital allocator.

  A run repairs the live state, reconciles the slots, takes a snapshot and goes through the ranked
  candidates that are eligible.
-/
import AutoCoinBot.Database.SlotReconcile
import AutoCoinBot.StrategyPromotion.Statuses

namespace AutoCoinBot

open Library

/-! ## The run -/

/-- What a run of the allocator is given and reads besides the trading tables. -/
structure AllocatorInputs where
  acquired : Bool := true
  enabled : Bool := true
  emergencyStopped : Bool := false
  exchange : String := "bithumb"
  reason : String := "SCHEDULED"
  maxSlots : ℕ := 5
  config : AllocatorConfig := {}
  policy : BotOperationPolicy := {}
  settings : ReconcilerSettings := {}
  snapshotConfig : SnapshotConfig := {}
  reading : ExchangeReading := { availableKrw := none }
  updatedAt : ℕ → UtcTime := fun _ => 0
  opportunity : CandidateStrategy → Opportunity := fun _ => {}

/-- `candidates`: those that are eligible, by opportunity and then by score. -/
def AllocatorInputs.candidates (inputs : AllocatorInputs) (db : Database) : List RankedCandidate :=
  let eligible := (loadLiveEligibleCandidateStrategies db inputs.updatedAt 100).filter
    (fun c => c.status == .liveEligible)
  (rankLiveCandidates inputs.opportunity 100 eligible).insertionSort
    (fun a b => allocationScore b inputs.config ≤ allocationScore a inputs.config)

def AllocatorInputs.allocatorRun (inputs : AllocatorInputs) (snapshot : CapitalSnapshot) :
    AllocatorRun where
  exchange := inputs.exchange
  allowedExchange := inputs.settings.allowedExchange
  reason := inputs.reason
  now := inputs.settings.now
  config := inputs.config
  policy := inputs.policy
  snapshot := snapshot

section Run

variable (inputs : AllocatorInputs) (db : Database)

def slottedForRun : Database :=
  let slotted := reconcilePositionSlots (reconcileLiveState inputs.settings db) inputs.maxSlots
    inputs.exchange inputs.settings.now
  -- the snapshot reconciles them once more, for as many slots as it is configured for
  reconcilePositionSlots slotted inputs.snapshotConfig.maxSlots inputs.exchange inputs.settings.now

def snapshotForRun : CapitalSnapshot × Database :=
  let slotted := slottedForRun inputs db
  let snapshot := buildCapitalSnapshot slotted inputs.exchange inputs.snapshotConfig inputs.policy
    inputs.reading inputs.settings.now
  if snapshot.slots.isEmpty then
    let again := reconcilePositionSlots slotted inputs.maxSlots inputs.exchange inputs.settings.now
    ({ snapshot with slots := loadPositionSlotRows again inputs.maxSlots }, again)
  else (snapshot, slotted)

def runCapitalAllocatorOnce : Database :=
  if inputs.acquired = false ∨ inputs.enabled = false ∨ inputs.emergencyStopped = true then db
  else
    let taken := snapshotForRun inputs db
    (allocateCandidates (inputs.allocatorRun taken.1) taken.2 (inputs.candidates taken.2)).db

end Run

/-! ## The candidates stay -/

section Frames

variable (db : Database) (maxSlots : ℕ) (exchange : String) (now : UtcTime)

@[simp] theorem reconcilePositionSlots_candidateStrategies :
    (reconcilePositionSlots db maxSlots exchange now).candidateStrategies
      = db.candidateStrategies := by
  have hensured : (ensurePositionSlots db maxSlots exchange now).candidateStrategies
      = db.candidateStrategies := by
    unfold ensurePositionSlots
    refine foldl_frame Database.candidateStrategies (fun d number => ?_) _ db
    rfl
  have hplaced : ∀ d : Database, (placePositions d maxSlots exchange now).candidateStrategies
      = d.candidateStrategies := by
    intro d
    unfold placePositions
    refine foldl_frame Database.candidateStrategies (fun d' p => ?_) _ d
    unfold placePosition
    split <;> rfl
  show (placePositions (clearPositionSlots (ensurePositionSlots db maxSlots exchange now) exchange
    now) maxSlots exchange now).candidateStrategies = _
  rw [hplaced]
  exact hensured

@[simp] theorem snapshotForRun_candidateStrategies (inputs : AllocatorInputs) :
    (snapshotForRun inputs db).2.candidateStrategies
      = (reconcileLiveState inputs.settings db).candidateStrategies := by
  unfold snapshotForRun
  dsimp only
  split
  · simp [slottedForRun]
  · simp [slottedForRun]

end Frames

/-! ## Whose status is written -/

section Rounds

variable (run : AllocatorRun) (st : AllocatorState) (c : RankedCandidate)

/-- The candidate that a round of the loop replaces. -/
def replacedInRound : Option ℕ :=
  if Accepts run st c then
    (replacementSlot run st c).map (fun slot => slot.candidateStrategyId.getD 0)
  else none

theorem marks_placeCandidate (db : Database) (slotId : ℕ) (approved : ℚ) :
    MakesLive (fun k => k = c.id) db (placeCandidate run db c slotId approved) := by
  have hafter : ∀ d : Database, d.candidateStrategies = db.candidateStrategies →
      MakesLive (fun k => k = c.id) db
        (promoteCandidateStrategy d run.allowedExchange c.id .liveActive) := by
    intro d hd
    unfold MakesLive
    rw [← candidateStatus_congr hd]
    exact marks_promote d run.allowedExchange c.id CandidateStatus.liveActive_isLive
  -- the session, the reservation and the slot come first
  exact hafter _ rfl

theorem marks_releaseReplaced (db : Database) (slot : PositionSlot) (market : String) :
    MakesLive (fun k => k = slot.candidateStrategyId.getD 0) db
      (releaseReplaced run db slot market) := by
  have hcandidate : MakesLive (fun k => k = slot.candidateStrategyId.getD 0) db
      (releaseCandidate run db slot market) := by
    have hdemoted := marks_demoteCandidate { allowedExchange := run.allowedExchange } db
      (d := updateOrderReservationStatus db (slot.candidateStrategyId.getD 0) market .replaced
        [.reserved]) rfl (slot.candidateStrategyId.getD 0)
    unfold releaseCandidate
    dsimp only
    unfold demoteCandidate at hdemoted
    by_cases hzero : slot.candidateStrategyId.getD 0 = 0
    · rw [if_pos hzero] at hdemoted ⊢
      exact hdemoted
    · rw [if_neg hzero] at hdemoted ⊢
      exact hdemoted
  unfold releaseReplaced
  dsimp only
  split <;> exact hcandidate

theorem marks_allocateCandidate :
    MakesLive (fun k => replacedInRound run st c = some k ∨ (Accepts run st c ∧ k = c.id)) st.db
      (allocateCandidate run st c).db := by
  unfold replacedInRound
  rcases allocateCandidate_cases run st c with ⟨hnot, blocked, hround⟩
    | ⟨haccepts, slot, hslot, hround⟩ | ⟨haccepts, hslot, slot, rest, -, hround⟩
  · rw [hround, if_neg hnot]
    exact (makesLive_of_eq rfl).congr (fun k => by simp [hnot])
  · rw [hround, if_pos haccepts, hslot]
    refine ((marks_releaseReplaced run st.db slot c.market).trans
      (marks_placeCandidate run c _ slot.id _)).congr (fun k => ?_)
    simp [haccepts, eq_comm]
  · rw [hround, if_pos haccepts, hslot]
    refine (marks_placeCandidate run c st.db slot.id _).congr (fun k => ?_)
    simp [haccepts]

end Rounds

theorem AllocatorInputs.candidates_eligible {inputs : AllocatorInputs} {db : Database}
    {c : RankedCandidate} (h : c ∈ inputs.candidates db) :
    candidateStatus db c.id = some .liveEligible := by
  have hranked := mem_rankLiveCandidates ((List.mem_insertionSort _).mp h)
  obtain ⟨hloaded, hstatus⟩ := List.mem_filter.mp hranked
  rw [candidateStatus_of_load (mem_loadCandidateStrategies hloaded).1]
  exact congrArg some (by simpa using hstatus)

theorem spares_allocateCandidates_iff (run : AllocatorRun) (db : Database)
    (candidates : List RankedCandidate)
    (hlive : ∀ c ∈ candidates, candidateStatus db c.id = some .liveEligible) :
    Spares CandidateStatus.IsHalted CandidateStatus.IsLive (candidateStatus db)
        (candidateStatus (allocateCandidates run db candidates).db)
      ↔ StepsOk (allocateCandidate run)
          (fun st c => ∀ k ∈ replacedInRound run st c, ¬ IsHalted st.db k) (run.start db)
          candidates := by
  have hspares := spares_run_iff CandidateStatus.not_isLive_of_isHalted
    (w := fun st => candidateStatus st.db) (marks_allocateCandidate run) (run.start db) candidates
  refine Iff.trans hspares (stepsOk_congr_of_mem
    -- the candidates of the loop stay live
    (P := fun st => ∀ c ∈ candidates, Halted CandidateStatus.IsLive (candidateStatus st.db) c.id)
    ?_ ?_ ?_)
  · intro st c hc hst c' hc'
    exact (marks_allocateCandidate run st c).good_kept (hst c' hc')
  · intro st c hc hst
    constructor
    · intro hspared k hk hhalted
      exact hspared k hhalted (.inl hk)
    · rintro hspared k hhalted (hk | ⟨-, rfl⟩)
      · exact hspared k hk hhalted
      · -- the candidate that is placed is live
        obtain ⟨status, hstatus, hbad⟩ := hhalted
        obtain ⟨status', hstatus', hgood⟩ := hst c hc
        rw [Option.mem_unique hstatus hstatus'] at hbad
        exact CandidateStatus.not_isLive_of_isHalted status' hbad hgood
  · intro c hc
    exact ⟨.liveEligible, hlive c hc, by decide⟩

theorem marks_loop (inputs : AllocatorInputs) (db : Database) : ∃ names,
    MakesLive names (reconcileLiveState inputs.settings db)
      (allocateCandidates (inputs.allocatorRun (snapshotForRun inputs db).1)
        (snapshotForRun inputs db).2 (inputs.candidates (snapshotForRun inputs db).2)).db := by
  have hsame := candidateStatus_congr (snapshotForRun_candidateStrategies db inputs)
  have hloop := run_marks (w := fun st : AllocatorState => candidateStatus st.db)
    (marks_allocateCandidate (inputs.allocatorRun (snapshotForRun inputs db).1))
    ((inputs.allocatorRun (snapshotForRun inputs db).1).start (snapshotForRun inputs db).2)
    (inputs.candidates (snapshotForRun inputs db).2)
  change Marks _ _ (candidateStatus (snapshotForRun inputs db).2) _ at hloop
  rw [hsame] at hloop
  exact ⟨_, hloop⟩

theorem marks_runCapitalAllocatorOnce (inputs : AllocatorInputs) (db : Database) :
    ∃ names, MakesLive names db (runCapitalAllocatorOnce inputs db) := by
  unfold runCapitalAllocatorOnce
  split
  case isTrue => exact ⟨_, makesLive_of_eq rfl⟩
  case isFalse =>
    obtain ⟨repaired, hrepaired⟩ := marks_reconcileLiveState inputs.settings db
    obtain ⟨placed, hplaced⟩ := marks_loop inputs db
    exact ⟨_, hrepaired.trans hplaced⟩

/-- No round of the loop of a run replaces a halted candidate. -/
def LoopLeavesHalted (inputs : AllocatorInputs) (db : Database) : Prop :=
  StepsOk (allocateCandidate (inputs.allocatorRun (snapshotForRun inputs db).1))
    (fun st c => ∀ k ∈ replacedInRound (inputs.allocatorRun (snapshotForRun inputs db).1) st c,
      ¬ IsHalted st.db k)
    ((inputs.allocatorRun (snapshotForRun inputs db).1).start (snapshotForRun inputs db).2)
    (inputs.candidates (snapshotForRun inputs db).2)

/-- **When a run leaves the halted candidates alone**: it is skipped, or no sweep of the
reconciliation sends one back and no round of the loop replaces one. -/
theorem spares_runCapitalAllocatorOnce_iff (inputs : AllocatorInputs) (db : Database) :
    Spares CandidateStatus.IsHalted CandidateStatus.IsLive (candidateStatus db)
        (candidateStatus (runCapitalAllocatorOnce inputs db))
      ↔ (inputs.acquired = false ∨ inputs.enabled = false ∨ inputs.emergencyStopped = true)
        ∨ (RepairsLeaveHalted inputs.settings db ∧ LoopLeavesHalted inputs db) := by
  unfold runCapitalAllocatorOnce
  split
  case isTrue hskipped =>
    refine iff_of_true ?_ (.inl hskipped)
    exact (spares_iff CandidateStatus.not_isLive_of_isHalted (marks_of_eq rfl)).mpr (fun k _ h => h)
  case isFalse hruns =>
    rw [or_iff_right hruns]
    obtain ⟨repaired, hrepaired⟩ := marks_reconcileLiveState inputs.settings db
    obtain ⟨placed, hplaced⟩ := marks_loop inputs db
    refine Iff.trans (spares_trans CandidateStatus.not_isLive_of_isHalted hrepaired hplaced) ?_
    refine and_congr (spares_reconcileLiveState_iff inputs.settings db) ?_
    rw [← candidateStatus_congr (snapshotForRun_candidateStrategies db inputs)]
    exact spares_allocateCandidates_iff _ _ _
      (fun c hc => AllocatorInputs.candidates_eligible hc)

end AutoCoinBot
