/-
  CapitalAllocator.Budget — what one allocator run commits.

  A new entry draws on the budget left; a replacement is sized from the snapshot, so it may commit
  more than the budget and the reservation it frees together.
-/
import AutoCoinBot.CapitalAllocator.Allocate

namespace AutoCoinBot

open Library

/-! ## Committed amounts -/

def AllocatorState.newEntryKrw (st : AllocatorState) : ℚ :=
  ((st.accepted.filter (fun a => a.replacedSlot.isNone)).map AcceptedEntry.approvedOrderKrw).sum

/-- The approved amounts of the replacements. -/
def AllocatorState.replacementKrw (st : AllocatorState) : ℚ :=
  ((st.accepted.filter (fun a => a.replacedSlot.isSome)).map AcceptedEntry.approvedOrderKrw).sum

def AllocatorState.freedKrw (st : AllocatorState) : ℚ :=
  ((st.accepted.filterMap AcceptedEntry.replacedSlot).map PositionSlot.reservedKrw).sum

def AllocatorState.committedKrw (st : AllocatorState) : ℚ :=
  st.newEntryKrw + st.replacementKrw - st.freedKrw

/-- The commitment is within the exposure and the cash of the snapshot. -/
def WithinLimits (run : AllocatorRun) (st : AllocatorState) : Prop :=
  st.committedKrw ≤ run.snapshot.remainingExposureKrw
    ∧ st.committedKrw ≤ run.snapshot.cashAfterReserve

/-- **A replacement overdraws** if it is accepted with an order larger than the budget
left and the reservation it frees. -/
def Overdraws (run : AllocatorRun) (st : AllocatorState) (c : RankedCandidate) : Prop :=
  Accepts run st c ∧ ∃ slot ∈ replacementSlot run st c,
    st.availableBudget + slot.reservedKrw < approvedOrder run st c

instance (run : AllocatorRun) (st : AllocatorState) (c : RankedCandidate) :
    Decidable (Overdraws run st c) :=
  inferInstanceAs (Decidable (Accepts run st c ∧ ∃ slot ∈ replacementSlot run st c,
    st.availableBudget + slot.reservedKrw < approvedOrder run st c))

section Committed

variable {run : AllocatorRun} {st : AllocatorState} {c : RankedCandidate}

theorem committedKrw_acceptReplacement (slot : PositionSlot) :
    (acceptReplacement run st c slot).committedKrw
      = st.committedKrw + (approvedOrder run st c - slot.reservedKrw) := by
  unfold AllocatorState.committedKrw AllocatorState.newEntryKrw AllocatorState.replacementKrw
    AllocatorState.freedKrw acceptReplacement
  simp only [List.filter_append, List.filterMap_append, List.map_append, List.sum_append,
    List.filter_cons, List.filter_nil, List.filterMap_cons, List.filterMap_nil, Option.isNone_some,
    Option.isSome_some, Bool.false_eq_true, if_false, if_true, List.map_cons, List.map_nil,
    List.sum_cons, List.sum_nil]
  ring

theorem committedKrw_acceptNewEntry (slot : PositionSlot) (rest : List PositionSlot) :
    (acceptNewEntry run st c slot rest).committedKrw
      = st.committedKrw + approvedOrder run st c := by
  unfold AllocatorState.committedKrw AllocatorState.newEntryKrw AllocatorState.replacementKrw
    AllocatorState.freedKrw acceptNewEntry
  simp only [List.filter_append, List.filterMap_append, List.map_append, List.sum_append,
    List.filter_cons, List.filter_nil, List.filterMap_cons, List.filterMap_nil, Option.isNone_none,
    Option.isSome_none, Bool.false_eq_true, if_false, if_true, List.map_cons, List.map_nil,
    List.sum_cons, List.sum_nil]
  ring

/-! ## One candidate -/

/-- The budget left and the amount committed add up to the first budget. -/
structure Balanced (budget : ℚ) (st : AllocatorState) : Prop where
  total : st.availableBudget + st.committedKrw = budget
  nonneg : 0 ≤ st.availableBudget

/-- **One candidate** keeps the balance and the commitment within the budget, unless it
overdraws; then it breaks the budget. -/
theorem committed_step {budget : ℚ} (h : Balanced budget st) :
    (¬ Overdraws run st c → Balanced budget (allocateCandidate run st c))
      ∧ ((allocateCandidate run st c).committedKrw ≤ budget ↔ ¬ Overdraws run st c) := by
  have htotal := h.total
  have hnonneg := h.nonneg
  rcases allocateCandidate_cases run st c with
    ⟨hrefused, blocked, hstep⟩ | ⟨haccepts, slot, hslot, hstep⟩ | ⟨haccepts, hnew, slot, rest, hempty, hstep⟩
  · -- the candidate is left out
    have hcalm : ¬ Overdraws run st c := fun hover => hrefused hover.1
    rw [hstep]
    refine ⟨fun _ => ⟨htotal, hnonneg⟩, iff_of_true ?_ hcalm⟩
    show st.committedKrw ≤ budget
    linarith
  · -- a replacement
    have hover : Overdraws run st c
        ↔ st.availableBudget + slot.reservedKrw < approvedOrder run st c := by
      unfold Overdraws
      rw [hslot]
      simp only [Option.mem_some_iff, exists_eq_left', and_iff_right haccepts]
    rw [hover, hstep, committedKrw_acceptReplacement]
    refine ⟨fun hcalm => ?_, ⟨fun hle hlt => ?_, fun hcalm => ?_⟩⟩
    · have hleft : 0 ≤ st.availableBudget + slot.reservedKrw - approvedOrder run st c :=
        sub_nonneg.mpr (not_lt.mp hcalm)
      have hbudget : (acceptReplacement run st c slot).availableBudget
          = st.availableBudget + slot.reservedKrw - approvedOrder run st c := max_eq_left hleft
      refine ⟨?_, by rw [hbudget]; exact hleft⟩
      rw [hbudget, committedKrw_acceptReplacement]
      linarith
    · linarith
    · linarith [not_lt.mp hcalm]
  · -- a new entry draws on the budget only
    have hle : approvedOrder run st c ≤ st.availableBudget := by
      have hbound := (approvedOrder_bounds haccepts.2.2).2.2
      unfold budgetForCandidate at hbound
      rwa [hnew] at hbound
    have hcalm : ¬ Overdraws run st c := by
      rintro ⟨-, slot', hslot', -⟩
      rw [hnew] at hslot'
      cases hslot'
    have hbudget : (acceptNewEntry run st c slot rest).availableBudget
        = st.availableBudget - approvedOrder run st c := max_eq_left (sub_nonneg.mpr hle)
    rw [hstep]
    refine ⟨fun _ => ⟨?_, ?_⟩, iff_of_true ?_ hcalm⟩
    · rw [hbudget, committedKrw_acceptNewEntry]
      linarith
    · rw [hbudget]
      linarith
    · rw [committedKrw_acceptNewEntry]
      linarith

/-- The accepted orders lie within their bounds, and there are not too many. -/
structure OrdersBounded (run : AllocatorRun) (st : AllocatorState) : Prop where
  amount : ∀ a ∈ st.accepted, run.config.minOrderKrw ≤ a.approvedOrderKrw
    ∧ a.approvedOrderKrw ≤ min run.config.maxOrderKrw run.maxSingle
  count : st.accepted.length ≤ run.config.maxNewEntriesPerRun

theorem OrdersBounded.snoc (h : OrdersBounded run st) (haccepts : Accepts run st c)
    {st' : AllocatorState} {a : AcceptedEntry} (haccepted : st'.accepted = st.accepted ++ [a])
    (ha : a.approvedOrderKrw = approvedOrder run st c) : OrdersBounded run st' := by
  obtain ⟨hmin, hmax, -⟩ := approvedOrder_bounds haccepts.2.2
  refine ⟨fun b hb => ?_, ?_⟩
  · rw [haccepted, List.mem_append, List.mem_singleton] at hb
    rcases hb with hb | rfl
    · exact h.amount b hb
    · rw [ha]; exact ⟨hmin, hmax⟩
  · rw [haccepted, List.length_append]
    exact haccepts.1

theorem ordersBounded_step (h : OrdersBounded run st) :
    OrdersBounded run (allocateCandidate run st c) := by
  rcases allocateCandidate_cases run st c with
    ⟨-, blocked, hstep⟩ | ⟨haccepts, slot, -, hstep⟩ | ⟨haccepts, -, slot, rest, -, hstep⟩
  · rw [hstep]; exact ⟨h.amount, h.count⟩
  · rw [hstep]; exact h.snoc haccepts rfl rfl
  · rw [hstep]; exact h.snoc haccepts rfl rfl

end Committed

/-! ## Whole runs -/

/-- **The limits of a run.** After every candidate the commitment is within the snapshot's
exposure and cash exactly when no replacement of the run overdraws; in any case the
approved orders are within their bounds and not too many. -/
theorem allocation_within_limits_iff (run : AllocatorRun) (db : Database)
    (snapshotDb : Database) (config : SnapshotConfig) (reading : ExchangeReading)
    (hsnapshot : run.snapshot = buildCapitalSnapshot snapshotDb run.exchange config run.policy
      reading run.now) (candidates : List RankedCandidate) :
    ((∀ n, WithinLimits run (allocateCandidates run db (candidates.take n)))
        ↔ StepsOk (allocateCandidate run) (fun st c => ¬ Overdraws run st c) (run.start db)
            candidates)
      ∧ (∀ a ∈ (allocateCandidates run db candidates).accepted,
          run.config.minOrderKrw ≤ a.approvedOrderKrw
            ∧ a.approvedOrderKrw ≤ min run.config.maxOrderKrw run.maxSingle)
      ∧ (allocateCandidates run db candidates).accepted.length
          ≤ run.config.maxNewEntriesPerRun := by
  have hbudget : run.snapshot.availableBudgetKrw
      = min run.snapshot.remainingExposureKrw run.snapshot.cashAfterReserve := by
    rw [hsnapshot]
    exact buildCapitalSnapshot_availableBudget snapshotDb run.exchange config run.policy reading
      run.now
  have hnonneg : 0 ≤ run.snapshot.availableBudgetKrw := by
    rw [hsnapshot]
    exact buildCapitalSnapshot_budget_nonneg snapshotDb run.exchange config run.policy reading
      run.now
  -- the budget is the smaller of the two limits, so one bound stands for both
  have hwithin : ∀ st, WithinLimits run st
      ↔ st.committedKrw ≤ run.snapshot.availableBudgetKrw := by
    intro st
    rw [hbudget, le_min_iff]
    rfl
  have hstart : Balanced run.snapshot.availableBudgetKrw (run.start db) :=
    ⟨by simp [AllocatorRun.start, AllocatorState.committedKrw, AllocatorState.newEntryKrw,
      AllocatorState.replacementKrw, AllocatorState.freedKrw], hnonneg⟩
  have hbounded : OrdersBounded run (allocateCandidates run db candidates) :=
    run_invariant (fun _ _ h => ordersBounded_step h)
      ⟨fun a ha => absurd ha List.not_mem_nil, Nat.zero_le _⟩ candidates
  refine ⟨?_, hbounded.amount, hbounded.count⟩
  -- a step keeps the balance if and only if it does not overdraw
  refine forall_prefix_observed_iff (P := Balanced run.snapshot.availableBudgetKrw)
    (fun st h => (hwithin st).mpr ?_) (fun st c h => (committed_step h).1)
    (fun st c h => (hwithin _).trans (committed_step h).2) hstart candidates
  linarith [h.total, h.nonneg]

/-! ## Two candidates, in either order -/

/-- One empty slot and one reserved for a weaker XRP candidate; a BTC position of 65,000
KRW. -/
def exampleSlotDb : Database :=
  { livePositions := Table.empty.insert
      (fun k =>
        { id := k, market := "KRW-BTC", status := .opened, entryPrice := 65000, entryVolume := 1
          entryAmountKrw := 65000 })
      (fun _ => rfl)
    positionSlots := (Table.empty.insert (fun k => { id := k, slotNumber := 1 }) (fun _ => rfl)).insert
      (fun k =>
        { id := k, slotNumber := 2, status := .reserved, market := some "KRW-XRP"
          candidateStrategyId := some 1, reservedKrw := 5000 })
      (fun _ => rfl)
    orderReservations := Table.empty.insert
      (fun k =>
        { id := k, market := "KRW-XRP", candidateStrategyId := 1, slotId := some 2
          amountKrw := 5000, status := .reserved })
      (fun _ => rfl)
    candidateStrategies := Table.empty.insert
      (fun k =>
        { id := k, market := "KRW-XRP", strategy := "breakout", status := .liveActive
          score := 50 })
      (fun _ => rfl)
    marketUniverse := (Table.empty.insert
      (fun k => { id := k, exchange := "bithumb", market := "KRW-ETH", isLiveAllowed := true })
      (fun _ => rfl)).insert
      (fun k => { id := k, exchange := "bithumb", market := "KRW-XRP", isLiveAllowed := true })
      (fun _ => rfl) }

def exampleCandidate (id : ℕ) (market : String) : RankedCandidate :=
  { id := id, market := market, strategy := "breakout", status := .liveEligible, score := 150 }

def exampleAllocatorRun : AllocatorRun where
  exchange := "bithumb"
  allowedExchange := "bithumb"
  reason := "SCHEDULED"
  now := 0
  config := {}
  policy := { autoTradingEnabled := true, maxTotalExposureKrw := 100000 }
  snapshot := buildCapitalSnapshot exampleSlotDb "bithumb" {}
    { autoTradingEnabled := true, maxTotalExposureKrw := 100000 } { availableKrw := some 100000 } 0

theorem allocation_within_limits_iff_example :
    WithinLimits exampleAllocatorRun (allocateCandidates exampleAllocatorRun exampleSlotDb
      [exampleCandidate 3 "KRW-XRP", exampleCandidate 2 "KRW-ETH"]) :=
  (allocation_within_limits_iff exampleAllocatorRun exampleSlotDb exampleSlotDb {}
    { availableKrw := some 100000 } rfl
    [exampleCandidate 3 "KRW-XRP", exampleCandidate 2 "KRW-ETH"]).1.mpr (by decide +kernel) 2

/-- **An entry and a replacement.** The entry takes the whole budget; the replacement is
sized from the snapshot again. -/
theorem allocation_exceeds_limits :
    exampleAllocatorRun.snapshot.snapshotError = ""
      ∧ exampleAllocatorRun.snapshot.remainingExposureKrw = 30000
      ∧ (allocateCandidates exampleAllocatorRun exampleSlotDb
          [exampleCandidate 2 "KRW-ETH", exampleCandidate 3 "KRW-XRP"]).committedKrw = 55000 := by
  refine ⟨by decide +kernel, by decide +kernel, by decide +kernel⟩

end AutoCoinBot
