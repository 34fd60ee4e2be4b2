/-
  Library.Coupling — two machines that read the same events.

  `R` couples the states of two step functions and `ok` says which events keep them coupled.
  An event that is not `ok` leaves a mark under its own key that differs, and no later event
  touches the marks of another key: so two runs end with the same marks exactly if every
  event on the way was `ok`.
-/
import AutoCoinBot.Library.Run

namespace AutoCoinBot.Library

variable {σ τ ε κ ω : Type*} {step : σ → ε → σ} {step' : τ → ε → τ} {R : σ → τ → Prop}
  {fresh ok : τ → ε → Prop}

/-- **Coupled all the way.** -/
theorem run_coupled_of_stepsOk
    (hstep : ∀ s t e, R s t → fresh t e → ok t e → R (step s e) (step' t e)) {s : σ} {t : τ}
    (h0 : R s t) {es : List ε} (hfresh : StepsOk step' fresh t es) (hok : StepsOk step' ok t es) :
    R (run step s es) (run step' t es) := by
  induction es generalizing s t with
  | nil => exact h0
  | cons e es ih => exact ih (hstep s t e h0 hfresh.1 hok.1) hfresh.2 hok.2

/-- The marks of a key that no event of a run has stay as they are. -/
theorem marks_run {mark : σ → κ → ω} {key : ε → κ}
    (hframe : ∀ s e k, key e ≠ k → mark (step s e) k = mark s k) {k : κ} {es : List ε}
    (hes : ∀ e ∈ es, key e ≠ k) (s : σ) : mark (run step s es) k = mark s k := by
  induction es generalizing s with
  | nil => rfl
  | cons e es ih =>
    rw [run_cons, ih (fun e' he' => hes e' (List.mem_cons_of_mem e he')),
      hframe s e k (hes e List.mem_cons_self)]

/-- Events of different keys arrive unmarked. -/
theorem stepsOk_unmarked {marked : σ → κ → Prop} {key : ε → κ}
    (hframe : ∀ s e k, key e ≠ k → (marked (step s e) k ↔ marked s k)) {es : List ε}
    (hkeys : es.Pairwise (fun e e' => key e ≠ key e')) {s : σ}
    (h0 : ∀ e ∈ es, ¬ marked s (key e)) :
    StepsOk step (fun s e => ¬ marked s (key e)) s es := by
  induction es generalizing s with
  | nil => trivial
  | cons e es ih =>
    obtain ⟨hhead, htail⟩ := List.pairwise_cons.mp hkeys
    refine ⟨h0 e List.mem_cons_self, ih htail (fun e' he' => ?_)⟩
    rw [hframe s e _ (hhead e' he')]
    exact h0 e' (List.mem_cons_of_mem e he')

/-- **Marked where good.** Of the events that carry a label, all end up marked exactly if each
of them was good in its turn. -/
theorem forall_marked_iff {marked : σ → κ → Prop} {key : ε → κ} {good : σ → ε → Prop}
    (labelled : ε → Prop) (hframe : ∀ s e k, key e ≠ k → (marked (step s e) k ↔ marked s k))
    (hstep : ∀ s e, ¬ marked s (key e) → (marked (step s e) (key e) ↔ good s e))
    {es : List ε} (hkeys : es.Pairwise (fun e e' => key e ≠ key e')) {s : σ}
    (h0 : ∀ e ∈ es, ¬ marked s (key e)) :
    (∀ e ∈ es, labelled e → marked (run step s es) (key e))
      ↔ StepsOk step (fun s e => labelled e → good s e) s es := by
  induction es generalizing s with
  | nil => simp
  | cons e es ih =>
    obtain ⟨hhead, htail⟩ := List.pairwise_cons.mp hkeys
    -- the mark of the first event is decided when it arrives
    have hfirst : marked (run step (step s e) es) (key e) ↔ good s e := by
      have hlater : ∀ e' ∈ es, key e' ≠ key e := fun e' he' => (hhead e' he').symm
      rw [marks_run (fun s e k hne => propext (hframe s e k hne)) hlater]
      exact hstep s e (h0 e List.mem_cons_self)
    have hunmarked : ∀ e' ∈ es, ¬ marked (step s e) (key e') := by
      intro e' he'
      rw [hframe s e _ (hhead e' he')]
      exact h0 e' (List.mem_cons_of_mem e he')
    rw [List.forall_mem_cons, run_cons, stepsOk_cons, hfirst, ih htail hunmarked]

/-- **The first event that is not `ok` shows.** -/
theorem stepsOk_of_marks_eq (mark : σ → κ → ω) (mark' : τ → κ → ω) {key : ε → κ}
    (hstep : ∀ s t e, R s t → fresh t e → ok t e → R (step s e) (step' t e))
    (hsplit : ∀ s t e, R s t → fresh t e → ¬ ok t e →
      mark (step s e) (key e) ≠ mark' (step' t e) (key e))
    (hframe : ∀ s e k, key e ≠ k → mark (step s e) k = mark s k)
    (hframe' : ∀ t e k, key e ≠ k → mark' (step' t e) k = mark' t k)
    {s : σ} {t : τ} (h0 : R s t) {es : List ε} (hkeys : es.Pairwise (fun e e' => key e ≠ key e'))
    (hfresh : StepsOk step' fresh t es)
    (hmarks : ∀ k, mark (run step s es) k = mark' (run step' t es) k) :
    StepsOk step' ok t es := by
  induction es generalizing s t with
  | nil => trivial
  | cons e es ih =>
    obtain ⟨hhead, htail⟩ := List.pairwise_cons.mp hkeys
    by_cases hok : ok t e
    · exact ⟨hok, ih (hstep s t e h0 hfresh.1 hok) htail hfresh.2 hmarks⟩
    · -- the rest of the run keeps the two different marks
      have hlater : ∀ e' ∈ es, key e' ≠ key e := fun e' he' => (hhead e' he').symm
      have hsame := hmarks (key e)
      rw [run_cons, run_cons, marks_run hframe hlater, marks_run hframe' hlater] at hsame
      exact absurd hsame (hsplit s t e h0 hfresh.1 hok)

/-- **Events in order stay ahead** of a machine whose clock shows the last one. -/
theorem stepsOk_ahead {κ : Type*} [LinearOrder κ] (clock : τ → Option κ) (key : ε → κ)
    (hclock : ∀ t e, (∀ k, clock t = some k → k < key e) → clock (step' t e) = some (key e))
    {es : List ε}
    (hsorted : es.Pairwise (fun e e' => key e < key e')) {t : τ}
    (h0 : ∀ e ∈ es, ∀ k, clock t = some k → k < key e) :
    StepsOk step' (fun t e => ∀ k, clock t = some k → k < key e) t es := by
  induction es generalizing t with
  | nil => trivial
  | cons e es ih =>
    obtain ⟨hhead, htail⟩ := List.pairwise_cons.mp hsorted
    have hahead := h0 e List.mem_cons_self
    refine ⟨hahead, ih htail ?_⟩
    intro e' he' k hk
    rw [hclock t e hahead] at hk
    rw [← Option.some.inj hk]
    exact hhead e' he'

/-! ## Machines that keep a book. -/

section Books

variable {α δ ρ : Type*}

/-- A machine shows an account and a book. At every event it makes a choice, which determines
the account after it and the entries it adds. -/
def KeepsBook (step : σ → ε → σ) (shown : σ → α × List ρ) (choice : σ → ε → δ)
    (next : α → ε → δ → α) (entries : α → ε → δ → List ρ) : Prop :=
  ∀ s e, shown (step s e)
    = (next (shown s).1 e (choice s e), (shown s).2 ++ entries (shown s).1 e (choice s e))

variable {shown : σ → α × List ρ} {shown' : τ → α × List ρ} {choice : σ → ε → δ}
  {choice' : τ → ε → δ} {next : α → ε → δ → α} {entries : α → ε → δ → List ρ}

/-- The entries of a book under a key. -/
def entriesAt [DecidableEq κ] (stamp : ρ → κ) (book : List ρ) (k : κ) : ℕ :=
  book.countP (fun r => stamp r = k)

theorem entriesAt_append_self [DecidableEq κ] {stamp : ρ → κ} {k : κ} {own : List ρ}
    (hown : ∀ r ∈ own, stamp r = k) (book : List ρ) :
    entriesAt stamp (book ++ own) k = entriesAt stamp book k + own.length := by
  have hall : own.countP (fun r => stamp r = k) = own.length :=
    List.countP_eq_length.mpr (fun r hr => decide_eq_true (hown r hr))
  unfold entriesAt
  rw [List.countP_append, hall]

theorem entriesAt_append_other [DecidableEq κ] {stamp : ρ → κ} {k k' : κ} (hne : k' ≠ k)
    {own : List ρ} (hown : ∀ r ∈ own, stamp r = k') (book : List ρ) :
    entriesAt stamp (book ++ own) k = entriesAt stamp book k := by
  have hnone : own.countP (fun r => stamp r = k) = 0 := by
    refine List.countP_eq_zero.mpr (fun r hr => ?_)
    rw [decide_eq_true_eq, hown r hr]
    exact hne
  unfold entriesAt
  rw [List.countP_append, hnone, Nat.add_zero]

/-- The same choice shows the same. -/
theorem shown_step_eq (hbook : KeepsBook step shown choice next entries)
    (hbook' : KeepsBook step' shown' choice' next entries) {s : σ} {t : τ} {e : ε}
    (hsame : shown s = shown' t) (hchoice : choice s e = choice' t e) :
    shown (step s e) = shown' (step' t e) := by
  rw [hbook s e, hbook' t e, hchoice, hsame]

/-- What two machines show stays the same as long as they choose alike. -/
theorem shown_run_eq_of_stepsOk (hbook : KeepsBook step shown choice next entries)
    (hbook' : KeepsBook step' shown' choice' next entries)
    (hrest : ∀ s t e, R s t → shown s = shown' t → fresh t e → ok t e → R (step s e) (step' t e))
    (hok : ∀ s t e, R s t → shown s = shown' t → fresh t e → ok t e → choice s e = choice' t e)
    {s : σ} {t : τ} (h0 : R s t) (hsame0 : shown s = shown' t) {es : List ε}
    (hfresh : StepsOk step' fresh t es) (hoks : StepsOk step' ok t es) :
    R (run step s es) (run step' t es) ∧ shown (run step s es) = shown' (run step' t es) := by
  have hkeep : ∀ s t e, (R s t ∧ shown s = shown' t) → fresh t e → ok t e →
      R (step s e) (step' t e) ∧ shown (step s e) = shown' (step' t e) := by
    rintro s t e ⟨hR, hsame⟩ hfresh hgood
    exact ⟨hrest s t e hR hsame hfresh hgood,
      shown_step_eq hbook hbook' hsame (hok s t e hR hsame hfresh hgood)⟩
  exact run_coupled_of_stepsOk hkeep ⟨h0, hsame0⟩ hfresh hoks

/-- **Books with as many entries under every key** come from machines that chose alike at every
event, where different choices add a different number of entries. -/
theorem stepsOk_of_entriesAt_eq [DecidableEq κ] (stamp : ρ → κ) {key : ε → κ}
    (hbook : KeepsBook step shown choice next entries)
    (hbook' : KeepsBook step' shown' choice' next entries)
    (hrest : ∀ s t e, R s t → shown s = shown' t → fresh t e → ok t e → R (step s e) (step' t e))
    (hok : ∀ s t e, R s t → shown s = shown' t → fresh t e → (ok t e ↔ choice s e = choice' t e))
    (hentries : ∀ a e d, ∀ r ∈ entries a e d, stamp r = key e)
    (hsplit : ∀ s t e, R s t → shown s = shown' t → fresh t e → choice s e ≠ choice' t e →
      (entries (shown s).1 e (choice s e)).length ≠ (entries (shown s).1 e (choice' t e)).length)
    {s : σ} {t : τ} (h0 : R s t) (hsame0 : shown s = shown' t) {es : List ε}
    (hkeys : es.Pairwise (fun e e' => key e ≠ key e')) (hfresh : StepsOk step' fresh t es)
    (hmarks : ∀ k, entriesAt stamp (shown (run step s es)).2 k
      = entriesAt stamp (shown' (run step' t es)).2 k) : StepsOk step' ok t es := by
  have hkeep : ∀ s t e, (R s t ∧ shown s = shown' t) → fresh t e → ok t e →
      R (step s e) (step' t e) ∧ shown (step s e) = shown' (step' t e) := by
    rintro s t e ⟨hR, hsame⟩ hfresh hgood
    exact ⟨hrest s t e hR hsame hfresh hgood,
      shown_step_eq hbook hbook' hsame ((hok s t e hR hsame hfresh).mp hgood)⟩
  refine stepsOk_of_marks_eq (fun s k => entriesAt stamp (shown s).2 k)
    (fun t k => entriesAt stamp (shown' t).2 k) hkeep ?_ ?_ ?_ ⟨h0, hsame0⟩ hkeys hfresh hmarks
  · rintro s t e ⟨hR, hsame⟩ hfresh hno heq
    have hchoices : choice s e ≠ choice' t e := fun h => hno ((hok s t e hR hsame hfresh).mpr h)
    simp only [hbook s e, hbook' t e, ← hsame] at heq
    rw [entriesAt_append_self (hentries _ _ _), entriesAt_append_self (hentries _ _ _)] at heq
    exact hsplit s t e hR hsame hfresh hchoices (Nat.add_left_cancel heq)
  · intro s e k hne
    simp only [hbook s e]
    exact entriesAt_append_other hne (hentries _ _ _) _
  · intro t e k hne
    simp only [hbook' t e]
    exact entriesAt_append_other hne (hentries _ _ _) _

/-- **When two books end up the same**: exactly if the two machines choose alike at every
event. -/
theorem shown_run_eq_iff [DecidableEq κ] (stamp : ρ → κ) {key : ε → κ}
    (hbook : KeepsBook step shown choice next entries)
    (hbook' : KeepsBook step' shown' choice' next entries)
    (hrest : ∀ s t e, R s t → shown s = shown' t → fresh t e → ok t e → R (step s e) (step' t e))
    (hok : ∀ s t e, R s t → shown s = shown' t → fresh t e → (ok t e ↔ choice s e = choice' t e))
    (hentries : ∀ a e d, ∀ r ∈ entries a e d, stamp r = key e)
    (hsplit : ∀ s t e, R s t → shown s = shown' t → fresh t e → choice s e ≠ choice' t e →
      (entries (shown s).1 e (choice s e)).length ≠ (entries (shown s).1 e (choice' t e)).length)
    {s : σ} {t : τ} (h0 : R s t) (hsame0 : shown s = shown' t) {es : List ε}
    (hkeys : es.Pairwise (fun e e' => key e ≠ key e')) (hfresh : StepsOk step' fresh t es) :
    shown (run step s es) = shown' (run step' t es) ↔ StepsOk step' ok t es := by
  constructor
  · intro hsame
    refine stepsOk_of_entriesAt_eq stamp hbook hbook' hrest hok hentries hsplit h0 hsame0 hkeys
      hfresh (fun k => ?_)
    rw [hsame]
  · intro hoks
    exact (shown_run_eq_of_stepsOk hbook hbook' hrest
      (fun s t e hR hsame hfresh => (hok s t e hR hsame hfresh).mp) h0 hsame0 hfresh hoks).2

end Books

end AutoCoinBot.Library
