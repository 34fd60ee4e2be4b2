/-
  StrategyPromotion.HaltedCandidates — a candidate that is paused or rejected.

  An operator or the kill switch takes a candidate out of live trading. The sweeps, the allocator
  and the selector send the candidate of a slot, a reservation or a selection back to
  `LIVE_ELIGIBLE` without a look at its status, so that one that was paused meanwhile trades again.
-/
import AutoCoinBot.StrategyPromotion.AllocatorRuns
import AutoCoinBot.StrategyPromotion.AutoStrategySelector
import AutoCoinBot.StrategyPromotion.ShadowCandidates

namespace AutoCoinBot

open Library

/-! ## Operators -/

theorem rowId_status (status : CandidateStatus) (c : CandidateStrategy) :
    Row.rowId { c with status := status } = Row.rowId c := rfl

def setCandidateStrategyStatus (db : Database) (candidateId : ℕ) (status : CandidateStatus) :
    Database :=
  let rows := db.candidateStrategies.modify candidateId (fun c => { c with status := status })
    (rowId_status status)
  { db with candidateStrategies := rows }

theorem candidateStatus_setCandidateStrategyStatus_ne (db : Database) (candidateId k : ℕ)
    (status : CandidateStatus) (hne : k ≠ candidateId) :
    candidateStatus (setCandidateStrategyStatus db candidateId status) k
      = candidateStatus db k := by
  show ((db.candidateStrategies.modify candidateId (fun c => { c with status := status })
    (fun _ => rfl)).get? k).map _ = (db.candidateStrategies.get? k).map _
  rw [Table.get?_modify_ne _ _ _ hne]

def rejectCandidateStrategy (db : Database) (allowedExchange : String) (candidateId : ℕ) :
    Database :=
  promoteCandidateStrategy db allowedExchange candidateId .rejected

/-- What the candidate endpoints write once they have accepted a request. -/
inductive OperatorAction where
  | setStatus (candidateId : ℕ) (status : CandidateStatus)
  | promote (candidateId : ℕ) (toStatus : CandidateStatus)
  | reject (candidateId : ℕ)

def OperatorAction.candidateId : OperatorAction → ℕ
  | setStatus candidateId _ => candidateId
  | promote candidateId _ => candidateId
  | reject candidateId => candidateId

def OperatorAction.perform (allowedExchange : String) (db : Database) : OperatorAction → Database
  | setStatus candidateId status => setCandidateStrategyStatus db candidateId status
  | promote candidateId toStatus => promoteCandidateStrategy db allowedExchange candidateId toStatus
  | reject candidateId => rejectCandidateStrategy db allowedExchange candidateId

theorem candidateStatus_perform (allowedExchange : String) (db : Database) (action : OperatorAction)
    {k : ℕ} (hother : action.candidateId ≠ k) :
    candidateStatus (action.perform allowedExchange db) k = candidateStatus db k := by
  cases action with
  | setStatus candidateId status =>
    exact candidateStatus_setCandidateStrategyStatus_ne db candidateId k status hother.symm
  | promote candidateId toStatus =>
    exact candidateStatus_promote_ne db allowedExchange toStatus hother.symm
  | reject candidateId => exact candidateStatus_promote_ne db allowedExchange _ hother.symm

/-! ## Automatic runs -/

/-- The runs that write the status of a candidate by themselves. -/
inductive AutomaticRun where
  | selector (limits : SelectorLimits) (reading : SelectorReading)
      (exchange allowedExchange : String) (apply : Bool)
  | selectorIfAllowed (enabled : Bool) (limits : SelectorLimits) (reading again : SelectorReading)
      (exchange allowedExchange : String)
  | promoteShadow (config : PromotionConfig) (reading : ShadowReading) (allowedExchange : String)
  | allocator (inputs : AllocatorInputs)
  | reconciler (settings : ReconcilerSettings) (sweep : Reconciler)
  | liveStateReconciler (settings : ReconcilerSettings)

def AutomaticRun.perform (db : Database) : AutomaticRun → Database
  | selector limits reading exchange allowedExchange apply =>
    evaluateAutoStrategySelector limits reading db exchange allowedExchange apply
  | selectorIfAllowed enabled limits reading again exchange allowedExchange =>
    applySelectorIfAllowed enabled limits reading again db exchange allowedExchange
  | promoteShadow config reading allowedExchange =>
    promoteShadowCandidates config reading allowedExchange db
  | allocator inputs => runCapitalAllocatorOnce inputs db
  | reconciler settings sweep => sweep.reconcile settings db
  | liveStateReconciler settings => reconcileLiveState settings db

/-- The run finds no halted candidate where it looks for one to send back: in the selection it
replaces, in the slots and reservations it releases, in the slots it gives to another. -/
def AutomaticRun.LeavesHalted (db : Database) : AutomaticRun → Prop
  | selector limits reading exchange _ apply =>
    ∀ k ∈ replacedByEvaluation limits reading db exchange apply, ¬ IsHalted db k
  | selectorIfAllowed enabled limits reading again exchange _ =>
    ∀ k ∈ replacedIfAllowed limits reading db exchange enabled again, ¬ IsHalted db k
  | promoteShadow _ _ _ => True
  | allocator inputs =>
    (inputs.acquired = false ∨ inputs.enabled = false ∨ inputs.emergencyStopped = true)
      ∨ (RepairsLeaveHalted inputs.settings db ∧ LoopLeavesHalted inputs db)
  | reconciler settings sweep => ∀ k ∈ sweep.sentBack settings db, ¬ IsHalted db k
  | liveStateReconciler settings => RepairsLeaveHalted settings db

theorem halted_off_shadow {db : Database} {k : ℕ} (h : IsHalted db k) :
    ∀ status ∈ candidateStatus db k, status ≠ .shadowRunning ∧ status ≠ .shadowPassed := by
  obtain ⟨status, hstatus, hhalted⟩ := h
  intro status' hstatus'
  rw [Option.mem_unique hstatus' hstatus]
  revert hhalted
  cases status <;> decide

theorem halted_or_live (db : Database) (r : AutomaticRun) {k : ℕ} (hk : IsHalted db k) :
    IsHalted (r.perform db) k
      ∨ Halted CandidateStatus.IsLive (candidateStatus (r.perform db)) k := by
  cases r with
  | selector limits reading exchange allowedExchange apply =>
    obtain ⟨names, hmarks, -⟩ := marks_evaluate limits reading db exchange allowedExchange apply
    exact hmarks.halted_or_good hk
  | selectorIfAllowed enabled limits reading again exchange allowedExchange =>
    obtain ⟨names, hmarks, -⟩ :=
      marks_applySelectorIfAllowed limits reading db exchange allowedExchange enabled again
    exact hmarks.halted_or_good hk
  | promoteShadow config reading allowedExchange =>
    obtain ⟨status, hstatus, hhalted⟩ := hk
    refine .inl ⟨status, ?_, hhalted⟩
    show candidateStatus (promoteShadowCandidates config reading allowedExchange db) k = _
    rw [candidateStatus_promoteShadow config reading allowedExchange db
      (halted_off_shadow ⟨status, hstatus, hhalted⟩)]
    exact hstatus
  | allocator inputs =>
    obtain ⟨names, hmarks⟩ := marks_runCapitalAllocatorOnce inputs db
    exact hmarks.halted_or_good hk
  | reconciler settings sweep => exact (marks_reconciler settings db sweep).halted_or_good hk
  | liveStateReconciler settings =>
    obtain ⟨names, hmarks⟩ := marks_reconcileLiveState settings db
    exact hmarks.halted_or_good hk

theorem spares_of_marks {db db' : Database} {names : ℕ → Prop} {replaced : Option ℕ}
    (hmarks : MakesLive names db db')
    (hnames : ∀ k, IsHalted db k → (names k ↔ replaced = some k)) :
    Spares CandidateStatus.IsHalted CandidateStatus.IsLive (candidateStatus db)
        (candidateStatus db')
      ↔ ∀ k ∈ replaced, ¬ IsHalted db k := by
  rw [spares_iff CandidateStatus.not_isLive_of_isHalted hmarks]
  constructor
  · intro h k hk hhalted
    exact h k hhalted ((hnames k hhalted).mpr hk)
  · intro h k hhalted hnamed
    exact h k ((hnames k hhalted).mp hnamed) hhalted

theorem leavesHalted_iff (db : Database) (r : AutomaticRun) :
    Spares CandidateStatus.IsHalted CandidateStatus.IsLive (candidateStatus db)
        (candidateStatus (r.perform db))
      ↔ r.LeavesHalted db := by
  cases r with
  | selector limits reading exchange allowedExchange apply =>
    obtain ⟨names, hmarks, hnames⟩ :=
      marks_evaluate limits reading db exchange allowedExchange apply
    exact spares_of_marks hmarks hnames
  | selectorIfAllowed enabled limits reading again exchange allowedExchange =>
    obtain ⟨names, hmarks, hnames⟩ :=
      marks_applySelectorIfAllowed limits reading db exchange allowedExchange enabled again
    exact spares_of_marks hmarks hnames
  | promoteShadow config reading allowedExchange =>
    refine iff_of_true ?_ trivial
    rintro k hk ⟨status, hstatus, hlive⟩
    have hkept := candidateStatus_promoteShadow config reading allowedExchange db
      (halted_off_shadow hk)
    obtain ⟨status', hstatus', hhalted⟩ := hk
    rw [Option.mem_def] at hstatus hstatus'
    have hsame : status = status' :=
      Option.some.inj (hstatus.symm.trans (hkept.trans hstatus'))
    rw [hsame] at hlive
    exact CandidateStatus.not_isLive_of_isHalted status' hhalted hlive
  | allocator inputs => exact spares_runCapitalAllocatorOnce_iff inputs db
  | reconciler settings sweep => exact spares_reconciler_iff settings db sweep
  | liveStateReconciler settings => exact spares_reconcileLiveState_iff settings db

/-! ## Histories -/

/-- What happens to the candidates; `elsewhere` is the rest of the program, which writes anything
but them. -/
inductive CandidateEvent where
  | automatic (r : AutomaticRun)
  | operator (allowedExchange : String) (action : OperatorAction)
  | elsewhere (after : Database)

def CandidateEvent.deliver (db : Database) : CandidateEvent → Database
  | automatic r => r.perform db
  | operator allowedExchange action => action.perform allowedExchange db
  | elsewhere after => { after with candidateStrategies := db.candidateStrategies }

/-- The event is an operator's action on the candidate. -/
def CandidateEvent.ActsOn : CandidateEvent → ℕ → Prop
  | operator _ action, k => action.candidateId = k
  | _, _ => False

/-- An automatic run finds no halted candidate to send back. -/
def CandidateEvent.LeavesHalted (db : Database) : CandidateEvent → Prop
  | automatic r => r.LeavesHalted db
  | _ => True

/-- A candidate that is paused or rejected at some point of the history is not live at a later one,
unless an operator has acted on it in between. -/
def HaltedStaysHalted (db : Database) (history : List CandidateEvent) : Prop :=
  StaysHalted CandidateEvent.deliver candidateStatus CandidateStatus.IsHalted CandidateStatus.IsLive
    CandidateEvent.ActsOn db history

theorem halted_deliver (db : Database) (e : CandidateEvent) (k : ℕ) (hk : IsHalted db k)
    (hother : ¬ e.ActsOn k) :
    IsHalted (e.deliver db) k
      ∨ Halted CandidateStatus.IsLive (candidateStatus (e.deliver db)) k := by
  cases e with
  | automatic r => exact halted_or_live db r hk
  | operator allowedExchange action =>
    obtain ⟨status, hstatus, hhalted⟩ := hk
    refine .inl ⟨status, ?_, hhalted⟩
    show candidateStatus (action.perform allowedExchange db) k = _
    rw [candidateStatus_perform allowedExchange db action hother]
    exact hstatus
  | elsewhere after => exact .inl hk

/-- **When no history brings a halted candidate back**: no automatic run of it finds one in the
selection, slot or reservation that it releases. -/
theorem haltedStaysHalted_iff (db : Database) (history : List CandidateEvent) :
    HaltedStaysHalted db history
      ↔ StepsOk CandidateEvent.deliver CandidateEvent.LeavesHalted db history := by
  refine Iff.trans
    (staysHalted_iff CandidateStatus.not_isLive_of_isHalted halted_deliver db history)
    (stepsOk_congr (fun d e => ?_) db history)
  cases e with
  | automatic r =>
    rw [show CandidateEvent.LeavesHalted d (.automatic r) = r.LeavesHalted d from rfl,
      ← leavesHalted_iff]
    constructor
    · intro h k hk
      exact h k hk id
    · intro h k hk _
      exact h k hk
  | operator allowedExchange action =>
    refine iff_of_true (fun k hk hother hlive => ?_) trivial
    obtain ⟨status, hstatus, hgood⟩ := hlive
    obtain ⟨status', hstatus', hhalted⟩ := hk
    have hkept : candidateStatus (action.perform allowedExchange d) k = candidateStatus d k :=
      candidateStatus_perform allowedExchange d action hother
    have hsame : status = status' :=
      Option.some.inj (hstatus.symm.trans (hkept.trans hstatus'))
    rw [hsame] at hgood
    exact CandidateStatus.not_isLive_of_isHalted status' hhalted hgood
  | elsewhere after =>
    refine iff_of_true (fun k hk _ hlive => ?_) trivial
    obtain ⟨status, hstatus, hgood⟩ := hlive
    obtain ⟨status', hstatus', hhalted⟩ := hk
    have hsame : status = status' := Option.some.inj (hstatus.symm.trans hstatus')
    rw [hsame] at hgood
    exact CandidateStatus.not_isLive_of_isHalted status' hhalted hgood

/-- Two candidates: the first is selected, the second is eligible. -/
def exampleSelectedDb : Database :=
  { candidateStrategies :=
      (Table.empty.insert (fun k =>
        { id := k, market := "KRW-ETH", strategy := "ma_cross", status := .liveActive })
        (fun _ => rfl)).insert (fun k =>
        { id := k, market := "KRW-BTC", strategy := "ma_cross", status := .liveEligible
          score := 20 })
        (fun _ => rfl)
    activeStrategySelection := Table.empty.insert
      (fun k => { id := k, candidateStrategyId := 1 }) (fun _ => rfl) }

/-- The operator pauses the selected candidate, and the selector switches to the other. -/
def examplePausedHistory : List CandidateEvent :=
  [.operator "bithumb" (.setStatus 1 .paused),
    .automatic (.selector {} { risk := { policy := { autoTradingEnabled := true }, now := 7200 } }
      "bithumb" "bithumb" true)]

/-- **The active strategy is paused, and the next switch revives it.** -/
theorem pausedSelection_revived : ¬ HaltedStaysHalted exampleSelectedDb examplePausedHistory := by
  intro h
  have hhalted : IsHalted (run CandidateEvent.deliver exampleSelectedDb
      (examplePausedHistory.take 1)) 1 := by decide +kernel
  refine h (examplePausedHistory.take 1) (examplePausedHistory.drop 1) [] 1 rfl hhalted ?_ ?_
  · intro e he
    rw [List.mem_singleton.mp he]
    exact id
  · show Halted CandidateStatus.IsLive (candidateStatus
      (run CandidateEvent.deliver exampleSelectedDb examplePausedHistory)) 1
    decide +kernel

end AutoCoinBot
