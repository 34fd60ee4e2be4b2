/-
  StrategyPromotion.AutoStrategySelector — the selector of the active strategy.

  The best of the live candidates becomes the active selection unless something blocks the switch.
-/
import AutoCoinBot.LiveStrategyPilot.ProcessSession
import AutoCoinBot.StrategyPromotion.Statuses

namespace AutoCoinBot

open Library

/-! ## The evaluation -/

/-- The environment limits of `auto_strategy_selector`. -/
structure SelectorLimits where
  minScoreDelta : ℚ := 10
  switchCooldownMinutes : ℤ := 60
  maxSwitchesPerDay : ℤ := 0
  maxOpenPositions : ℤ := 5

/-- Why no switch is made. -/
inductive SelectorBlocker where
  | noLiveEligibleCandidate
  | policyAutoTradingDisabled
  | emergencyStopActive
  | marketNotAutoSelectable
  | marketNotLiveAllowed
  | riskStateBlocked
  | unresolvedOpenOrder
  | openPositionLimit
  | duplicateMarketPosition
  | switchCooldownActive
  | scoreDeltaTooSmall
  | dailySwitchLimit

/-- What an evaluation reads besides the trading tables. -/
structure SelectorReading where
  updatedAt : ℕ → UtcTime := fun _ => 0
  opportunity : CandidateStrategy → Opportunity := fun _ => {}
  autoSelectable : String → Bool := fun _ => true
  risk : RiskEnvironment := {}
  dailySwitchCount : ℕ := 0

def hasUnresolvedEntryLiveOrderForExchange (db : Database) (exchange : String) : Bool :=
  db.liveOrderLogs.rows.any (fun r =>
    r.exchange == exchange && r.orderPurpose == .entry && r.status.isUnresolved
      && !liveOrderEventRequestIdFilter r.requestId)

section Evaluation

variable (limits : SelectorLimits) (reading : SelectorReading) (db : Database) (exchange : String)

def rankedCandidates : List RankedCandidate :=
  rankLiveCandidates reading.opportunity 100
    (loadLiveEligibleCandidateStrategies db reading.updatedAt 100)

/-- `best`. -/
def bestCandidate : Option RankedCandidate := (rankedCandidates reading db).head?

/-- `active_candidate`: the selected candidate, if it is still ranked. -/
def activeCandidate (active : ActiveStrategySelection) : Option RankedCandidate :=
  (rankedCandidates reading db).find? (fun item => item.id == active.candidateStrategyId)

/-- What the positions of the exchange and of the market block. -/
def positionBlockers (maxOpenPositions : ℤ) (market : String) : List SelectorBlocker :=
  if maxOpenPositions ≤ (loadOpenLivePositionsForExchange db exchange).length then
    [.openPositionLimit]
  else if (loadOpenLivePositions db exchange market).isEmpty then []
  else [.duplicateMarketPosition]

/-- What the market of the best candidate blocks. -/
def marketBlockers (best : RankedCandidate) : List SelectorBlocker :=
  let riskState := computeRiskState reading.risk db exchange best.market none none
  (if reading.autoSelectable best.market then [] else [.marketNotAutoSelectable])
    ++ (if marketIsLiveAllowed db exchange best.market then [] else [.marketNotLiveAllowed])
    ++ (if riskState.status = .blocked ∨ riskState.status = .emergencyStopped then
        [.riskStateBlocked]
      else [])
    ++ (if 0 < riskState.openOrderCount ∨ hasUnresolvedLiveOrder db exchange best.market
          ∨ hasUnresolvedEntryLiveOrderForExchange db exchange then [.unresolvedOpenOrder]
      else [])
    ++ positionBlockers db exchange limits.maxOpenPositions best.market

/-- What a switch away from the active selection blocks. -/
def switchBlockers (active : ActiveStrategySelection) (best : RankedCandidate) :
    List SelectorBlocker :=
  if active.candidateStrategyId = best.id then []
  else
    (if reading.risk.now < active.selectedAt + limits.switchCooldownMinutes * 60 then
      [.switchCooldownActive]
    else [])
      -- a selection whose candidate is not ranked any more is left at any score
      ++ (match activeCandidate reading db active with
        | some current =>
          if best.score - current.score < limits.minScoreDelta then [.scoreDeltaTooSmall] else []
        | none => [])

/-- `blockers`. -/
def selectorBlockers : List SelectorBlocker :=
  let best := bestCandidate reading db
  (if (loadLiveEligibleCandidateStrategies db reading.updatedAt 100).isEmpty then
      [.noLiveEligibleCandidate]
    else [])
    ++ (if reading.risk.policy.autoTradingEnabled then [] else [.policyAutoTradingDisabled])
    ++ (if reading.risk.emergencyStopped then [.emergencyStopActive] else [])
    ++ best.elim [] (marketBlockers limits reading db exchange)
    ++ (match loadActiveStrategySelection db, best with
      | some active, some best => switchBlockers limits reading db active best
      | _, _ => [])
    ++ (if 0 < limits.maxSwitchesPerDay ∧ limits.maxSwitchesPerDay ≤ reading.dailySwitchCount then
        [.dailySwitchLimit]
      else [])

def canApply : Bool :=
  (bestCandidate reading db).isSome && (selectorBlockers limits reading db exchange).isEmpty

end Evaluation

/-! ## The switch -/

def saveActiveStrategySelection (db : Database) (candidate : RankedCandidate) (now : UtcTime) :
    Database :=
  let replaced := db.activeStrategySelection.modifyWhere (fun a => a.status == .liveActive)
    (fun a => { a with status := .replaced }) (fun _ => rfl)
  { db with
    activeStrategySelection := replaced.insert
      (fun k => { id := k, candidateStrategyId := candidate.id, selectedAt := now })
      (fun _ => rfl) }

/-- `replaced_id`, where it differs from the best candidate's. -/
def replacedId (db : Database) (best : RankedCandidate) : Option ℕ :=
  ((loadActiveStrategySelection db).map ActiveStrategySelection.candidateStrategyId).filter
    (fun i => i != 0 && i != best.id)

/-- The writes of a switch to the best candidate. -/
def applySelection (db : Database) (allowedExchange : String) (best : RankedCandidate)
    (now : UtcTime) : Database :=
  let released :=
    match replacedId db best with
    | none => db
    | some i => promoteCandidateStrategy db allowedExchange i .liveEligible
  let selected := promoteCandidateStrategy released allowedExchange best.id .liveActive
  saveActiveStrategySelection selected best now

/-- `evaluate_auto_strategy_selector`; `apply` is the flag of that name. -/
def evaluateAutoStrategySelector (limits : SelectorLimits) (reading : SelectorReading)
    (db : Database) (exchange allowedExchange : String) (apply : Bool) : Database :=
  match bestCandidate reading db with
  | none => db
  | some best =>
    if apply && canApply limits reading db exchange then
      applySelection db allowedExchange best reading.risk.now
    else db

/-! ## The selector of the promotion pipeline -/

/-- What `apply_selector_if_allowed` adds to the blockers of the evaluation. -/
def pipelineBlockers (maxOpenPositions : ℤ) (reading : SelectorReading) (db : Database)
    (exchange : String) : List SelectorBlocker :=
  (if reading.risk.policy.autoTradingEnabled then [] else [.policyAutoTradingDisabled])
    ++ (if reading.risk.emergencyStopped then [.emergencyStopActive] else [])
    ++ (bestCandidate reading db).elim [] (fun best =>
      let riskState := computeRiskState reading.risk db exchange best.market none none
      (if marketIsLiveAllowed db exchange best.market then [] else [.marketNotLiveAllowed])
        ++ (if riskState.status = .blocked ∨ riskState.status = .emergencyStopped then
            [.riskStateBlocked]
          else [])
        -- exits count too, unlike in the evaluation
        ++ (if hasUnresolvedLiveOrder db exchange best.market
              ∨ hasUnresolvedLiveOrderForExchange db exchange then [.unresolvedOpenOrder]
          else [])
        ++ positionBlockers db exchange maxOpenPositions best.market)

/-- `apply_selector_if_allowed`: the evaluation is made twice, `again` is what the second one
reads. -/
def applySelectorIfAllowed (enabled : Bool) (limits : SelectorLimits)
    (reading again : SelectorReading) (db : Database) (exchange allowedExchange : String) :
    Database :=
  if enabled = false then db
  else if (pipelineBlockers limits.maxOpenPositions reading db exchange
      ++ selectorBlockers limits reading db exchange).isEmpty then
    evaluateAutoStrategySelector limits again db exchange allowedExchange true
  else db

/-! ## Whose status is written -/

section Statuses

variable (limits : SelectorLimits) (reading : SelectorReading) (db : Database)
  (exchange allowedExchange : String)

theorem bestCandidate_isLive {best : RankedCandidate} (h : bestCandidate reading db = some best) :
    ∃ status ∈ candidateStatus db best.id, status.IsLive := by
  have hranked := mem_rankLiveCandidates (List.mem_of_mem_head? h)
  obtain ⟨hload, hstatus⟩ := mem_loadCandidateStrategies hranked
  exact ⟨best.status, candidateStatus_of_load hload, hstatus⟩

theorem bestCandidate_not_halted {best : RankedCandidate}
    (h : bestCandidate reading db = some best) : ¬ IsHalted db best.id := by
  rintro ⟨status, hstatus, hhalted⟩
  obtain ⟨status', hstatus', hlive⟩ := bestCandidate_isLive reading db h
  rw [Option.mem_unique hstatus hstatus'] at hhalted
  exact CandidateStatus.not_isLive_of_isHalted status' hhalted hlive

/-- The candidate that an evaluation replaces. -/
def replacedByEvaluation (apply : Bool) : Option ℕ :=
  if apply && canApply limits reading db exchange then
    (bestCandidate reading db).bind (replacedId db)
  else none

theorem marks_applySelection (best : RankedCandidate) (now : UtcTime) :
    MakesLive (fun k => replacedId db best = some k ∨ k = best.id) db
      (applySelection db allowedExchange best now) := by
  have hbest : ∀ d : Database, MakesLive (fun k => k = best.id) d
      (saveActiveStrategySelection
        (promoteCandidateStrategy d allowedExchange best.id .liveActive) best now) :=
    fun d => marks_promote d allowedExchange best.id (by decide)
  unfold applySelection
  cases hreplaced : replacedId db best with
  | none =>
    refine (hbest db).congr (fun k => ?_)
    simp
  | some i =>
    refine ((marks_promote db allowedExchange i (by decide)).trans (hbest _)).congr (fun k => ?_)
    simp [eq_comm]

/-- **Whose status an evaluation writes.** -/
theorem marks_evaluate (apply : Bool) : ∃ names,
    MakesLive names db
        (evaluateAutoStrategySelector limits reading db exchange allowedExchange apply)
      ∧ ∀ k, IsHalted db k
        → (names k ↔ replacedByEvaluation limits reading db exchange apply = some k) := by
  unfold evaluateAutoStrategySelector replacedByEvaluation
  cases hbest : bestCandidate reading db with
  | none => exact ⟨_, makesLive_of_eq rfl, fun k _ => by simp⟩
  | some best =>
    dsimp only
    by_cases happly : (apply && canApply limits reading db exchange) = true
    · rw [if_pos happly, if_pos happly]
      refine ⟨_, marks_applySelection db allowedExchange best reading.risk.now, fun k hk => ?_⟩
      have hother : k ≠ best.id := by
        rintro rfl
        exact bestCandidate_not_halted reading db hbest hk
      exact or_iff_left hother
    · rw [if_neg happly, if_neg happly]
      exact ⟨_, makesLive_of_eq rfl, fun k _ => by simp⟩

/-- The candidate that the selector of the pipeline replaces. -/
def replacedIfAllowed (enabled : Bool) (again : SelectorReading) : Option ℕ :=
  if enabled = true ∧ (pipelineBlockers limits.maxOpenPositions reading db exchange
      ++ selectorBlockers limits reading db exchange).isEmpty = true then
    replacedByEvaluation limits again db exchange true
  else none

/-- **Whose status the selector of the pipeline writes.** -/
theorem marks_applySelectorIfAllowed (enabled : Bool) (again : SelectorReading) : ∃ names,
    MakesLive names db
        (applySelectorIfAllowed enabled limits reading again db exchange allowedExchange)
      ∧ ∀ k, IsHalted db k
        → (names k ↔ replacedIfAllowed limits reading db exchange enabled again = some k) := by
  unfold applySelectorIfAllowed replacedIfAllowed
  cases enabled with
  | false => exact ⟨_, makesLive_of_eq rfl, fun k _ => by simp⟩
  | true =>
    rw [if_neg (by decide)]
    split
    case isTrue hfree =>
      rw [if_pos ⟨rfl, hfree⟩]
      exact marks_evaluate limits again db exchange allowedExchange true
    case isFalse hblocked =>
      rw [if_neg (fun h => hblocked h.2)]
      exact ⟨_, makesLive_of_eq rfl, fun k _ => by simp⟩

end Statuses

end AutoCoinBot
