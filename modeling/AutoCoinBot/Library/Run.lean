/-
  Library.Run — deterministic runs of a state machine.

  A run delivers a list of events to a step function. `StepsOk ok s es` says
  that every event of the run meets a condition in the state it arrives in;
  the condition may look at the state, so it can say "the faulty branch is not
  taken here".
-/
import Mathlib

namespace AutoCoinBot.Library

/-! ## Runs -/

section Machines

variable {σ ε : Type*}

/-- The state reached from `s` by delivering the events in order. -/
def run (step : σ → ε → σ) (s : σ) (es : List ε) : σ := es.foldl step s

/-- Every event meets `ok` in the state it is delivered in. -/
def StepsOk (step : σ → ε → σ) (ok : σ → ε → Prop) : σ → List ε → Prop
  | _, [] => True
  | s, e :: es => ok s e ∧ StepsOk step ok (step s e) es

/-- A decidable condition can be checked along a run. -/
instance StepsOk.decidable (step : σ → ε → σ) (ok : σ → ε → Prop)
    [∀ s e, Decidable (ok s e)] : (s : σ) → (es : List ε) → Decidable (StepsOk step ok s es)
  | _, [] => isTrue trivial
  | s, e :: es =>
    have := StepsOk.decidable step ok (step s e) es
    inferInstanceAs (Decidable (ok s e ∧ StepsOk step ok (step s e) es))

section Runs

variable {step : σ → ε → σ} {ok : σ → ε → Prop} {P : σ → Prop}

@[simp] theorem run_nil (s : σ) : run step s [] = s := rfl

@[simp] theorem run_cons (s : σ) (e : ε) (es : List ε) :
    run step s (e :: es) = run step (step s e) es := rfl

theorem run_append (s : σ) (es es' : List ε) :
    run step s (es ++ es') = run step (run step s es) es' := List.foldl_append

@[simp] theorem stepsOk_nil (s : σ) : StepsOk step ok s [] := trivial

@[simp] theorem stepsOk_cons (s : σ) (e : ε) (es : List ε) :
    StepsOk step ok s (e :: es) ↔ ok s e ∧ StepsOk step ok (step s e) es := Iff.rfl

theorem stepsOk_append (s : σ) (es es' : List ε) :
    StepsOk step ok s (es ++ es')
      ↔ StepsOk step ok s es ∧ StepsOk step ok (run step s es) es' := by
  induction es generalizing s with
  | nil => simp
  | cons e es ih =>
    simp only [List.cons_append, stepsOk_cons, run_cons, ih]
    exact (and_assoc).symm

/-- What holds of every event in every state holds along a run. -/
theorem stepsOk_of_forall (h : ∀ s e, ok s e) (s : σ) (es : List ε) : StepsOk step ok s es := by
  induction es generalizing s with
  | nil => trivial
  | cons e es ih => exact ⟨h s e, ih (step s e)⟩

/-- Two conditions along a run are their conjunction along it. -/
theorem stepsOk_and {ok' : σ → ε → Prop} (s : σ) (es : List ε) :
    StepsOk step (fun s e => ok s e ∧ ok' s e) s es
      ↔ StepsOk step ok s es ∧ StepsOk step ok' s es := by
  induction es generalizing s with
  | nil => simp
  | cons e es ih =>
    simp only [stepsOk_cons, ih]
    exact and_and_and_comm

theorem stepsOk_congr {ok' : σ → ε → Prop} (h : ∀ s e, ok s e ↔ ok' s e) (s : σ) (es : List ε) :
    StepsOk step ok s es ↔ StepsOk step ok' s es := by
  have hok : ok = ok' := by
    funext s e
    exact propext (h s e)
  rw [hok]

/-- Two conditions that agree in the states of an invariant, which the steps that meet the first
keep, agree along a run. -/
theorem stepsOk_congr_of_kept {ok' : σ → ε → Prop} (hstep : ∀ s e, P s → ok s e → P (step s e))
    (h : ∀ s e, P s → (ok s e ↔ ok' s e)) {s : σ} (h0 : P s) (es : List ε) :
    StepsOk step ok s es ↔ StepsOk step ok' s es := by
  induction es generalizing s with
  | nil => exact Iff.rfl
  | cons e es ih =>
    constructor
    · rintro ⟨hok, hoks⟩
      exact ⟨(h s e h0).mp hok, (ih (hstep s e h0 hok)).mp hoks⟩
    · rintro ⟨hok', hoks⟩
      have hok : ok s e := (h s e h0).mpr hok'
      exact ⟨hok, (ih (hstep s e h0 hok)).mpr hoks⟩

/-- Two conditions that agree in the states of an invariant agree along a run. -/
theorem stepsOk_congr_of_invariant {ok' : σ → ε → Prop} (hstep : ∀ s e, P s → P (step s e))
    (h : ∀ s e, P s → (ok s e ↔ ok' s e)) {s : σ} (h0 : P s) (es : List ε) :
    StepsOk step ok s es ↔ StepsOk step ok' s es :=
  stepsOk_congr_of_kept (fun s e hs _ => hstep s e hs) h h0 es

/-- Two conditions that agree on the events of a run, in the states of an invariant, agree along
it. -/
theorem stepsOk_congr_of_mem {ok' : σ → ε → Prop} {es : List ε}
    (hstep : ∀ s, ∀ e ∈ es, P s → P (step s e)) (h : ∀ s, ∀ e ∈ es, P s → (ok s e ↔ ok' s e)) {s : σ}
    (h0 : P s) : StepsOk step ok s es ↔ StepsOk step ok' s es := by
  induction es generalizing s with
  | nil => exact Iff.rfl
  | cons e es ih =>
    have hrest : P (step s e) := hstep s e List.mem_cons_self h0
    rw [stepsOk_cons, stepsOk_cons, h s e List.mem_cons_self h0]
    refine and_congr_right (fun _ => ih ?_ ?_ hrest)
    · intro s' e' he' hs'
      exact hstep s' e' (List.mem_cons_of_mem _ he') hs'
    · intro s' e' he' hs'
      exact h s' e' (List.mem_cons_of_mem _ he') hs'

/-- A condition that implies another one in the states of an invariant, which the steps that meet
the first keep, implies it along a run. -/
theorem StepsOk.imp_of_kept {ok' : σ → ε → Prop} (hstep : ∀ s e, P s → ok s e → P (step s e))
    (h : ∀ s e, P s → ok s e → ok' s e) {s : σ} (h0 : P s) {es : List ε}
    (hes : StepsOk step ok s es) : StepsOk step ok' s es := by
  induction es generalizing s with
  | nil => trivial
  | cons e es ih =>
    obtain ⟨hok, hoks⟩ := hes
    have hhead : P (step s e) := hstep s e h0 hok
    exact ⟨h s e h0 hok, ih hhead hoks⟩

theorem StepsOk.take {s : σ} {es : List ε} (h : StepsOk step ok s es) (n : ℕ) :
    StepsOk step ok s (es.take n) := by
  rw [← List.take_append_drop n es, stepsOk_append] at h
  exact h.1

/-- **What every step preserves, a whole run preserves.** -/
theorem run_invariant (hstep : ∀ s e, P s → P (step s e)) {s : σ} (h0 : P s)
    (es : List ε) : P (run step s es) := by
  induction es generalizing s with
  | nil => exact h0
  | cons e es ih => exact ih (hstep s e h0)

/-- What every step on an admitted event preserves, a run of admitted events preserves. -/
theorem run_invariant_of_mem {admitted : ε → Prop} (hstep : ∀ s e, admitted e → P s → P (step s e))
    {s : σ} (h0 : P s) {es : List ε} (hes : ∀ e ∈ es, admitted e) : P (run step s es) := by
  induction es generalizing s with
  | nil => exact h0
  | cons e es ih =>
    have hhead : P (step s e) := hstep s e (hes e List.mem_cons_self) h0
    exact ih hhead (fun e' he' => hes e' (List.mem_cons_of_mem _ he'))

/-- **What the admitted steps preserve**, a run of admitted steps preserves. -/
theorem run_invariant_of_stepsOk (hstep : ∀ s e, P s → ok s e → P (step s e)) {s : σ} (h0 : P s)
    {es : List ε} (hes : StepsOk step ok s es) : P (run step s es) := by
  induction es generalizing s with
  | nil => exact h0
  | cons e es ih => exact ih (hstep s e h0 hes.1) hes.2

/-- **A property lost exactly by the steps that are not admitted**, seen from states that
satisfy an invariant of the admitted steps. -/
theorem forall_prefix_observed_iff {Q : σ → Prop} (hobserve : ∀ s, P s → Q s)
    (hinv : ∀ s e, P s → ok s e → P (step s e)) (hstep : ∀ s e, P s → (Q (step s e) ↔ ok s e))
    {s : σ} (h0 : P s) (es : List ε) :
    (∀ n, Q (run step s (es.take n))) ↔ StepsOk step ok s es := by
  induction es generalizing s with
  | nil => simp [hobserve s h0]
  | cons e es ih =>
    constructor
    · intro h
      have hok : ok s e := (hstep s e h0).mp (h 1)
      exact ⟨hok, (ih (hinv s e h0 hok)).mp (fun n => h (n + 1))⟩
    · rintro ⟨hok, hoks⟩ n
      cases n with
      | zero => exact hobserve s h0
      | succ n => exact (ih (hinv s e h0 hok)).mpr hoks n

/-- **A property kept exactly by the admitted steps** holds in every state of
the run exactly when every step is admitted. -/
theorem forall_prefix_iff (hstep : ∀ s e, P s → (P (step s e) ↔ ok s e)) {s : σ}
    (h0 : P s) (es : List ε) :
    (∀ n, P (run step s (es.take n))) ↔ StepsOk step ok s es :=
  forall_prefix_observed_iff (fun _ h => h) (fun s e h hok => (hstep s e h).mpr hok) hstep h0 es

end Runs

/-- **Two runs over the same events**: what one step of each keeps between them. -/
theorem run_coupled {τ : Type*} {step : σ → ε → σ} {step' : τ → ε → τ} {R : σ → τ → Prop}
    {admitted : ε → Prop} (hstep : ∀ s t e, admitted e → R s t → R (step s e) (step' t e))
    {s : σ} {t : τ} (h0 : R s t) {es : List ε} (hes : ∀ e ∈ es, admitted e) :
    R (run step s es) (run step' t es) := by
  induction es generalizing s t with
  | nil => exact h0
  | cons e es ih =>
    have hhead : R (step s e) (step' t e) := hstep s t e (hes e List.mem_cons_self) h0
    exact ih hhead (fun e' he' => hes e' (List.mem_cons_of_mem _ he'))

/-! What a run shows. -/

section Outputs

variable {ω : Type*} (step : σ → ε → σ) (out : σ → ε → List ω)

/-- What the events of a run show, each in the state it is delivered in. -/
def outputs : σ → List ε → List ω
  | _, [] => []
  | s, e :: es => out s e ++ outputs (step s e) es

theorem outputs_append (s : σ) (es es' : List ε) :
    outputs step out s (es ++ es')
      = outputs step out s es ++ outputs step out (run step s es) es' := by
  induction es generalizing s with
  | nil => rfl
  | cons e es ih =>
    rw [List.cons_append, outputs, outputs, ih, run_cons, List.append_assoc]

/-- A prefix of a run shows a prefix. -/
theorem outputs_take_prefix (s : σ) (es : List ε) (n : ℕ) :
    outputs step out s (es.take n) <+: outputs step out s es := by
  conv_rhs => rw [← List.take_append_drop n es, outputs_append]
  exact List.prefix_append _ _

variable {step out} {P : σ → List ω → Prop}

/-- **A relation between state and outputs** that a step keeps as long as the outputs
are admitted. -/
theorem run_outputs_invariant (admitted : List ω → Prop)
    (hinit : ∀ l l', admitted (l ++ l') → admitted l)
    (hstep : ∀ s shown e, P s shown → admitted (shown ++ out s e) →
      P (step s e) (shown ++ out s e)) {s : σ} (h0 : P s []) {es : List ε}
    (hes : admitted (outputs step out s es)) : P (run step s es) (outputs step out s es) := by
  induction es using List.reverseRecOn with
  | nil => exact h0
  | append_singleton es e ih =>
    have hlast : outputs step out s (es ++ [e])
        = outputs step out s es ++ out (run step s es) e := by
      rw [outputs_append]
      exact congrArg _ (List.append_nil _)
    rw [hlast] at hes ⊢
    rw [run_append]
    exact hstep _ _ _ (ih (hinit _ _ hes)) hes

end Outputs

end Machines

/-! ## Measures that no step lowers -/

section Measures

variable {σ ε M : Type*} [PartialOrder M] {step : σ → ε → σ} {P : σ → Prop} (measure : σ → M)

/-- **A run does not lower the measure.** -/
theorem le_measure_run (hkeep : ∀ s e, P s → P (step s e))
    (hle : ∀ s e, P s → measure s ≤ measure (step s e)) {s : σ} (h0 : P s) (es : List ε) :
    measure s ≤ measure (run step s es) := by
  induction es generalizing s with
  | nil => exact le_refl _
  | cons e es ih => exact (hle s e h0).trans (ih (hkeep s e h0))

/-- **When a run leaves the measure as it was**: every step does. -/
theorem measure_run_eq_iff (hkeep : ∀ s e, P s → P (step s e))
    (hle : ∀ s e, P s → measure s ≤ measure (step s e)) {s : σ} (h0 : P s) (es : List ε) :
    measure (run step s es) = measure s
      ↔ StepsOk step (fun s e => measure (step s e) = measure s) s es := by
  induction es generalizing s with
  | nil => exact iff_of_true rfl trivial
  | cons e es ih =>
    have hhead := hle s e h0
    have htail := le_measure_run measure hkeep hle (hkeep s e h0) es
    rw [run_cons, stepsOk_cons, ← ih (hkeep s e h0)]
    constructor
    · intro h
      -- between the two ends there is no room
      have hfirst : measure (step s e) = measure s := le_antisymm (htail.trans h.le) hhead
      exact ⟨hfirst, h.trans hfirst.symm⟩
    · rintro ⟨hfirst, hrest⟩
      exact hrest.trans hfirst

/-- **When a measure rises through a run**: no step of it lowers the measure. -/
theorem monotone_take_iff (s : σ) (es : List ε) :
    Monotone (fun n => measure (run step s (es.take n)))
      ↔ StepsOk step (fun s e => measure s ≤ measure (step s e)) s es := by
  induction es generalizing s with
  | nil => simp [monotone_const]
  | cons e es ih =>
    rw [stepsOk_cons, ← ih (step s e)]
    constructor
    · intro h
      exact ⟨h (Nat.zero_le 1), fun a b hab => h (Nat.succ_le_succ hab)⟩
    · rintro ⟨hhead, htail⟩
      refine monotone_nat_of_le_succ (fun n => ?_)
      cases n with
      | zero => exact hhead
      | succ n => exact htail (Nat.le_succ n)

end Measures

end AutoCoinBot.Library
