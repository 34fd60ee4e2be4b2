/-
  CapitalAllocator.Allocate — the loop of `run_capital_allocator_once`.

  The loop carries the slots as loaded, the empty ones among them, the markets taken and the budget
  left; only a replacement refreshes the loaded slots.

  The run, decision and queue tables are write-only for the loop and left out.
-/
import AutoCoinBot.CapitalAllocator.Snapshot
import AutoCoinBot.Database.Candidates
import AutoCoinBot.Database.LiveOrderLogs
import AutoCoinBot.Library.Run

namespace AutoCoinBot

open Library

/-! ## Configuration and scores -/

/-- `allocator_config`, the keys the loop reads. -/
structure AllocatorConfig where
  maxNewEntriesPerRun : ℕ := 2
  singlePositionMaxExposurePct : ℚ := 45
  minExpectedEdgePct : ℚ := 45 / 100
  feeRate : ℚ := 5 / 10000
  slippageRate : ℚ := 5 / 10000
  edgeSafetyMarginPct : ℚ := 15 / 100
  maxOrderKrw : ℚ := 30000
  minOrderKrw : ℚ := 5000
  reservationTtlMinutes : ℕ := 30
  sameMarketReplaceMinScoreDelta : ℚ := 10

/-- A candidate row with the score `rank_live_candidates` adds to it. -/
structure RankedCandidate extends CandidateStrategy where
  marketOpportunityScore : Option ℚ := none

def expectedEdgePct (c : RankedCandidate) : ℚ :=
  if c.backtestTotalReturn ≠ 0 then c.backtestTotalReturn * 100 else max (c.score / 100) 0

def requiredEdgePct (config : AllocatorConfig) : ℚ :=
  max config.minExpectedEdgePct
    (config.feeRate * 2 * 100 + config.slippageRate * 2 * 100 + config.edgeSafetyMarginPct)

def allocationScore (c : RankedCandidate) (config : AllocatorConfig) : ℚ :=
  let mdd := c.backtestMdd * 100
  let tradeCount := min c.backtestTradeCount 50
  let edgeBonus := max (expectedEdgePct c - requiredEdgePct config) 0 * (3 / 2)
  let mddPenalty := max (mdd - 10) 0 * (6 / 5)
  let tradeBonus := tradeCount * (1 / 5)
  let opportunityAdjustment := c.marketOpportunityScore.elim 0 (fun s => (s - 50) * (1 / 2))
  max 0 (c.score + edgeBonus + tradeBonus + opportunityAdjustment - mddPenalty)

/-! ## The run and its state -/

/-- What a run has read before its loop. -/
structure AllocatorRun where
  exchange : String
  allowedExchange : String
  reason : String
  now : UtcTime
  config : AllocatorConfig
  policy : BotOperationPolicy
  snapshot : CapitalSnapshot

def AllocatorRun.maxTotal (run : AllocatorRun) : ℚ :=
  orNum run.snapshot.maxTotalExposureKrw run.policy.maxTotalExposureKrw

def AllocatorRun.maxSingle (run : AllocatorRun) : ℚ :=
  run.maxTotal * run.config.singlePositionMaxExposurePct / 100

/-- An entry of `accepted`; a replacement carries the slot row it found. -/
structure AcceptedEntry where
  candidate : RankedCandidate
  slotId : ℕ
  sessionId : ℕ
  reservationId : ℕ
  approvedOrderKrw : ℚ
  replacedSlot : Option PositionSlot := none

/-- Why a candidate is not placed. -/
inductive BlockReason where
  | policyAutoTradingDisabled
  | blockedDuplicateMarketPosition
  | sameMarketCandidateAlreadyReserved
  | sameMarketReplaceScoreDeltaTooSmall
  | noSameMarketReservedSlot
  | noEmptySlot
  | unresolvedOpenOrder
  | marketNotLiveAllowed
  | blockedExpectedEdgeBelowCost
  | blockedSnapshotFailed
  | blockedBalanceMismatch
  | blockedOpenOrderMismatch
  | blockedExchangeBalanceUnavailable
  | blockedInsufficientKrwBalance
  | blockedRemainingExposureTooSmall
  | blockedCapitalTooSmall

/-- The variables of the loop; `accepted_count` is the length of `accepted`. -/
structure AllocatorState where
  db : Database
  slots : List PositionSlot
  emptySlots : List PositionSlot
  openMarkets : List String
  availableBudget : ℚ
  accepted : List AcceptedEntry := []
  blocked : List (RankedCandidate × BlockReason) := []

/-- The state before the first candidate. An empty list of positions is loaded anew. -/
def AllocatorRun.start (run : AllocatorRun) (db : Database) : AllocatorState :=
  let openPositions :=
    if run.snapshot.positions.isEmpty then loadOpenLivePositionsForExchange db run.exchange
    else run.snapshot.positions
  { db := db
    slots := run.snapshot.slots
    emptySlots := run.snapshot.slots.filter (fun s => s.status == .empty)
    openMarkets := openPositions.map LivePosition.market
    availableBudget := run.snapshot.availableBudgetKrw }

/-! ## Why a candidate is blocked -/

/-- `str(slot.get("market") or "")`. -/
def PositionSlot.marketText (s : PositionSlot) : String := toText s.market

/-- `existing` of `_same_market_reserved_slot`: the candidate that holds a slot. -/
def slotCandidate (db : Database) (slot : PositionSlot) : Option CandidateStrategy :=
  if slot.candidateStrategyId.getD 0 = 0 then none
  else loadCandidateStrategy db (slot.candidateStrategyId.getD 0)

def sameMarketReservedSlot (db : Database) (c : RankedCandidate) (slots : List PositionSlot)
    (config : AllocatorConfig) : Except BlockReason PositionSlot :=
  match slots.find? (fun s => s.marketText == c.market) with
  | none => .error .noSameMarketReservedSlot
  | some slot =>
    if slot.status ≠ .reserved ∨ slot.livePositionId.getD 0 ≠ 0 then
      .error .blockedDuplicateMarketPosition
    else if slot.candidateStrategyId.getD 0 = c.id then
      .error .sameMarketCandidateAlreadyReserved
    else if (slotCandidate db slot).any
        (fun e => c.score - e.score < config.sameMarketReplaceMinScoreDelta) then
      .error .sameMarketReplaceScoreDeltaTooSmall
    else .ok slot

def candidateBlockReason (db : Database) (c : RankedCandidate) (exchange : String)
    (openMarkets : List String) (config : AllocatorConfig) : Option BlockReason :=
  if c.market ∈ openMarkets then some .blockedDuplicateMarketPosition
  -- the rows once more: `open_markets` is as old as the snapshot
  else if (loadOpenLivePositions db exchange c.market).isEmpty = false then
    some .blockedDuplicateMarketPosition
  else if hasUnresolvedLiveOrder db exchange c.market
      || hasUnresolvedLiveOrderForExchange db exchange then some .unresolvedOpenOrder
  else if marketIsLiveAllowed db exchange c.market = false then some .marketNotLiveAllowed
  else if expectedEdgePct c < requiredEdgePct config then some .blockedExpectedEdgeBelowCost
  else none

section Candidate

variable (run : AllocatorRun) (st : AllocatorState) (c : RankedCandidate)

def replacementSlot : Option PositionSlot :=
  (sameMarketReservedSlot st.db c st.slots run.config).toOption

def desiredOrder : ℚ :=
  min run.maxSingle
    (max run.config.minOrderKrw (run.maxSingle * min (allocationScore c run.config) 100 / 100))

/-- `budget_for_candidate`: a replacement is sized from the snapshot's own figures, a new
entry from the budget left. -/
def budgetForCandidate : ℚ :=
  match replacementSlot run st c with
  | some slot =>
    min (max (run.snapshot.remainingExposureKrw + slot.reservedKrw) 0)
      run.snapshot.cashAfterReserve
  | none => st.availableBudget

def approvedOrder : ℚ :=
  min (min (min (budgetForCandidate run st c) (desiredOrder run c)) run.maxSingle)
    run.config.maxOrderKrw

/-- The reason of an order that is too small. -/
def smallOrderReason : BlockReason :=
  match run.snapshot.availableKrwBalance with
  | none => .blockedExchangeBalanceUnavailable
  | some balance =>
    if balance < run.config.minOrderKrw then .blockedInsufficientKrwBalance
    else if run.snapshot.remainingExposureKrw
        + ((replacementSlot run st c).map PositionSlot.reservedKrw).getD 0
        < run.config.minOrderKrw then .blockedRemainingExposureTooSmall
    else .blockedCapitalTooSmall

/-- The reasons found before the order is sized. -/
def marketBlockReason : Option BlockReason :=
  match sameMarketReservedSlot st.db c st.slots run.config with
  | .error .noSameMarketReservedSlot =>
    if st.emptySlots.isEmpty then some .noEmptySlot
    else candidateBlockReason st.db c run.exchange st.openMarkets run.config
  | .error reason => some reason
  | .ok _ => candidateBlockReason st.db c run.exchange st.openMarkets run.config

/-- `block_reason`: the first reason that applies. -/
def blockReason : Option BlockReason :=
  (marketBlockReason run st c).or <|
    -- these three are the same for every candidate of the run
    if run.snapshot.snapshotError ≠ "" then some .blockedSnapshotFailed
    else if run.snapshot.balanceMismatchDetected then some .blockedBalanceMismatch
    else if run.snapshot.openOrderMismatchDetected then some .blockedOpenOrderMismatch
    else if approvedOrder run st c < run.config.minOrderKrw then
      some (smallOrderReason run st c)
    else none

end Candidate

/-! ## Placing a candidate -/

def createAllocatorSession (run : AllocatorRun) (db : Database) (c : RankedCandidate)
    (approved : ℚ) : Database :=
  createLiveStrategySession db
    (fun k =>
      { id := k, exchange := run.exchange, market := c.market, candidateStrategyId := c.id
        status := .ready, autoEnabled := true, maxOrderKrw := approved, createdAt := run.now })
    (fun _ => rfl) run.now

/-- The session, the reservation, the slot and the candidate's status: the writes shared
by a new entry and a replacement. -/
def placeCandidate (run : AllocatorRun) (db : Database) (c : RankedCandidate) (slotId : ℕ)
    (approved : ℚ) : Database :=
  let sessionId := db.liveStrategySessions.nextId
  let db := createAllocatorSession run db c approved
  let db := createOrderReservation db
    (fun k =>
      { id := k, exchange := run.exchange, market := c.market, candidateStrategyId := c.id
        slotId := some slotId, amountKrw := approved, status := .reserved
        expiresAtUtc := some (run.now + run.config.reservationTtlMinutes * 60) })
    (fun _ => rfl)
  let db := reservePositionSlot db slotId run.exchange c.market c.id sessionId approved run.reason
    run.now
  promoteCandidateStrategy db run.allowedExchange c.id .liveActive

/-- The old candidate gives up its reservation and its live status. -/
def releaseCandidate (run : AllocatorRun) (db : Database) (slot : PositionSlot) (market : String) :
    Database :=
  let oldCandidateId := slot.candidateStrategyId.getD 0
  if oldCandidateId = 0 then db
  else
    promoteCandidateStrategy
      -- a reservation whose order was submitted stays as it is
      (updateOrderReservationStatus db oldCandidateId market .replaced [.reserved])
      run.allowedExchange oldCandidateId .liveEligible

/-- The first writes of `_replace_reserved_slot_candidate`: the old candidate is released
and its session stopped. -/
def releaseReplaced (run : AllocatorRun) (db : Database) (slot : PositionSlot) (market : String) :
    Database :=
  let oldSessionId := slot.liveStrategySessionId.getD 0
  if oldSessionId = 0 then releaseCandidate run db slot market
  else
    updateLiveStrategySession (releaseCandidate run db slot market) oldSessionId
      { status := some .stopped
        autoEnabled := some false
        lastRiskResult := some "REPLACED_BEFORE_ENTRY"
        lastOrderStatus := some "REPLACED"
        stoppedAt := some run.now }

def acceptReplacement (run : AllocatorRun) (st : AllocatorState) (c : RankedCandidate)
    (slot : PositionSlot) : AllocatorState :=
  let approved := approvedOrder run st c
  let released := releaseReplaced run st.db slot c.market
  let db := placeCandidate run released c slot.id approved
  -- the row is read back; it is there, because rows are never deleted
  let updated := (db.positionSlots.get? slot.id).getD slot
  { db := db
    slots := st.slots.map (fun s => if s.id = updated.id then updated else s)
    -- a replacement takes no empty slot, and gives back what the old candidate had reserved
    emptySlots := st.emptySlots
    openMarkets := st.openMarkets ++ [c.market]
    availableBudget := max (st.availableBudget + slot.reservedKrw - approved) 0
    accepted := st.accepted ++
      [{ candidate := c, slotId := slot.id, sessionId := released.liveStrategySessions.nextId
         reservationId := released.orderReservations.nextId, approvedOrderKrw := approved
         replacedSlot := some slot }]
    blocked := st.blocked }

/-- An accepted new entry in the first empty slot. -/
def acceptNewEntry (run : AllocatorRun) (st : AllocatorState) (c : RankedCandidate)
    (slot : PositionSlot) (rest : List PositionSlot) : AllocatorState :=
  let approved := approvedOrder run st c
  { db := placeCandidate run st.db c slot.id approved
    slots := st.slots
    emptySlots := rest
    openMarkets := st.openMarkets ++ [c.market]
    availableBudget := max (st.availableBudget - approved) 0
    accepted := st.accepted ++
      [{ candidate := c, slotId := slot.id, sessionId := st.db.liveStrategySessions.nextId
         reservationId := st.db.orderReservations.nextId, approvedOrderKrw := approved }]
    blocked := st.blocked }

def AllocatorState.block (st : AllocatorState) (c : RankedCandidate) (reason : BlockReason) :
    AllocatorState :=
  { st with blocked := st.blocked ++ [(c, reason)] }

/-- One round of the loop. A full run breaks, which leaves the state to the end. -/
def allocateCandidate (run : AllocatorRun) (st : AllocatorState) (c : RankedCandidate) :
    AllocatorState :=
  if run.config.maxNewEntriesPerRun ≤ st.accepted.length then st
  else if run.policy.autoTradingEnabled = false then st.block c .policyAutoTradingDisabled
  else
    match blockReason run st c with
    | some reason => st.block c reason
    | none =>
      match replacementSlot run st c with
      | some slot => acceptReplacement run st c slot
      | none =>
        match st.emptySlots with
        | slot :: rest => acceptNewEntry run st c slot rest
        | [] => st  -- excluded by `NO_EMPTY_SLOT`

def allocateCandidates (run : AllocatorRun) (db : Database) (candidates : List RankedCandidate) :
    AllocatorState :=
  Library.run (allocateCandidate run) (run.start db) candidates

/-! ## What a round does -/

section Rounds

variable {run : AllocatorRun} {st : AllocatorState} {c : RankedCandidate}

def Accepts (run : AllocatorRun) (st : AllocatorState) (c : RankedCandidate) : Prop :=
  st.accepted.length < run.config.maxNewEntriesPerRun ∧ run.policy.autoTradingEnabled = true
    ∧ blockReason run st c = none

instance : Decidable (Accepts run st c) :=
  inferInstanceAs (Decidable (st.accepted.length < run.config.maxNewEntriesPerRun
    ∧ run.policy.autoTradingEnabled = true ∧ blockReason run st c = none))

theorem blockReason_eq_none (h : blockReason run st c = none) :
    marketBlockReason run st c = none ∧ run.snapshot.snapshotError = ""
      ∧ run.config.minOrderKrw ≤ approvedOrder run st c := by
  unfold blockReason at h
  obtain ⟨hmarket, hrest⟩ := Option.or_eq_none_iff.mp h
  split_ifs at hrest with herror hbalance horders hsmall
  exact ⟨hmarket, not_not.mp herror, not_lt.mp hsmall⟩

/-- **The bounds of an unblocked order.** -/
theorem approvedOrder_bounds (h : blockReason run st c = none) :
    run.config.minOrderKrw ≤ approvedOrder run st c
      ∧ approvedOrder run st c ≤ min run.config.maxOrderKrw run.maxSingle
      ∧ approvedOrder run st c ≤ budgetForCandidate run st c := by
  refine ⟨(blockReason_eq_none h).2.2, le_min (min_le_right _ _) ?_, ?_⟩
  · exact (min_le_left _ _).trans (min_le_right _ _)
  · exact ((min_le_left _ _).trans (min_le_left _ _)).trans (min_le_left _ _)

theorem replacementSlot_some {slot : PositionSlot} (h : replacementSlot run st c = some slot) :
    st.slots.find? (fun s => s.marketText == c.market) = some slot ∧ slot.status = .reserved
      ∧ slot.candidateStrategyId.getD 0 ≠ c.id := by
  unfold replacementSlot sameMarketReservedSlot at h
  cases hfind : st.slots.find? (fun s => s.marketText == c.market) with
  | none => rw [hfind] at h; cases h
  | some s =>
    rw [hfind] at h
    dsimp only at h
    split_ifs at h with hstatus hsame hscore
    · cases h
    · cases h
    · cases h
    -- reserved, without a position, for another candidate
    · obtain rfl : s = slot := Option.some.inj h
      push Not at hstatus
      exact ⟨rfl, hstatus.1, hsame⟩

theorem not_mem_openMarkets (h : marketBlockReason run st c = none) : c.market ∉ st.openMarkets := by
  have hcheck : candidateBlockReason st.db c run.exchange st.openMarkets run.config = none := by
    unfold marketBlockReason at h
    split at h
    · split_ifs at h
      exact h
    · cases h
    · exact h
  unfold candidateBlockReason at hcheck
  split_ifs at hcheck
  assumption

theorem newEntry_of_unblocked (h : marketBlockReason run st c = none)
    (hnew : replacementSlot run st c = none) :
    (∀ s ∈ st.slots, s.marketText ≠ c.market) ∧ ∃ slot rest, st.emptySlots = slot :: rest := by
  unfold replacementSlot at hnew
  cases hsame : sameMarketReservedSlot st.db c st.slots run.config with
  | ok slot => rw [hsame] at hnew; cases hnew
  | error reason =>
    unfold marketBlockReason at h
    rw [hsame] at h
    have hreason : reason = .noSameMarketReservedSlot := by
      cases reason <;> simp_all
    subst hreason
    have hfind : st.slots.find? (fun s => s.marketText == c.market) = none := by
      unfold sameMarketReservedSlot at hsame
      split at hsame
      · assumption
      · split_ifs at hsame <;> cases hsame
    refine ⟨fun s hs => by simpa using List.find?_eq_none.mp hfind s hs, ?_⟩
    refine List.exists_cons_of_ne_nil (fun hempty => ?_)
    rw [hempty] at h
    cases h

/-- **What one candidate does**: it is left out, replaces a slot's candidate, or takes the
first empty slot. -/
theorem allocateCandidate_cases (run : AllocatorRun) (st : AllocatorState) (c : RankedCandidate) :
    (¬ Accepts run st c ∧ ∃ blocked, allocateCandidate run st c = { st with blocked := blocked })
      ∨ (Accepts run st c ∧ ∃ slot, replacementSlot run st c = some slot
          ∧ allocateCandidate run st c = acceptReplacement run st c slot)
      ∨ (Accepts run st c ∧ replacementSlot run st c = none
          ∧ ∃ slot rest, st.emptySlots = slot :: rest
            ∧ allocateCandidate run st c = acceptNewEntry run st c slot rest) := by
  unfold allocateCandidate
  by_cases hfull : run.config.maxNewEntriesPerRun ≤ st.accepted.length
  -- a run that is full leaves the candidate out without a reason
  · rw [if_pos hfull]
    exact .inl ⟨fun h => absurd h.1 (not_lt.mpr hfull), st.blocked, rfl⟩
  · rw [if_neg hfull]
    by_cases hpolicy : run.policy.autoTradingEnabled = false
    · rw [if_pos hpolicy]
      exact .inl ⟨fun h => absurd (hpolicy.symm.trans h.2.1) Bool.false_ne_true, _, rfl⟩
    · rw [if_neg hpolicy]
      cases hblock : blockReason run st c with
      | some reason =>
        exact .inl ⟨fun h => absurd (hblock.symm.trans h.2.2) (Option.some_ne_none _), _, rfl⟩
      | none =>
        have haccepts : Accepts run st c := ⟨not_le.mp hfull, by simpa using hpolicy, hblock⟩
        cases hslot : replacementSlot run st c with
        | some slot => exact .inr (.inl ⟨haccepts, slot, rfl, rfl⟩)
        | none =>
          obtain ⟨-, slot, rest, hempty⟩ := newEntry_of_unblocked
            (blockReason_eq_none hblock).1 hslot
          refine .inr (.inr ⟨haccepts, rfl, slot, rest, hempty, ?_⟩)
          dsimp only
          rw [hempty]

end Rounds

end AutoCoinBot
