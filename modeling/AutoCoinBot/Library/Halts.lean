/-
  Library.Halts — keys that are halted, and stay halted.

  A state gives every key a mark. Of two disjoint kinds of marks, the bad ones halt a key; only
  an event that acts on the key may give it a good one again.
-/
import AutoCoinBot.Library.Run

namespace AutoCoinBot.Library

variable {κ μ σ ε : Type*}

/-! ## Writes of good marks -/

section Marks

variable {good bad : μ → Prop} {names names' : κ → Prop} {v v' v'' : κ → Option μ}

/-- The named keys get a good mark, if they have one at all; the others keep theirs. -/
def Marks (good : μ → Prop) (names : κ → Prop) (v v' : κ → Option μ) : Prop :=
  ∀ k, (names k → Option.Rel (fun _ m' => good m') (v k) (v' k)) ∧ (¬ names k → v' k = v k)

/-- The mark of a key that is named twice is the second one. -/
theorem marked_again {a b c : Option μ} (h : Option.Rel (fun _ m' => good m') a b)
    (h' : Option.Rel (fun _ m' => good m') b c) : Option.Rel (fun _ m' => good m') a c := by
  cases h with
  | none =>
    cases h' with
    | none => exact .none
  | some _ =>
    cases h' with
    | some hgood => exact .some hgood

theorem marks_of_eq (h : v' = v) : Marks good (fun _ => False) v v' := by
  intro k
  rw [h]
  exact ⟨fun hnamed => hnamed.elim, fun _ => rfl⟩

theorem Marks.congr (h : Marks good names v v') (hnames : ∀ k, names k ↔ names' k) :
    Marks good names' v v' := by
  have heq : names = names' := by
    funext k
    exact propext (hnames k)
  rw [← heq]
  exact h

/-- **One write after the other** names what either does. -/
theorem Marks.trans (h : Marks good names v v') (h' : Marks good names' v' v'') :
    Marks good (fun k => names k ∨ names' k) v v'' := by
  intro k
  obtain ⟨hfirst, hkept⟩ := h k
  obtain ⟨hsecond, hkept'⟩ := h' k
  refine ⟨fun hnamed => ?_, fun hnone => ?_⟩
  · by_cases hlast : names' k
    · have hrel := hsecond hlast
      by_cases hboth : names k
      · -- named twice: the second mark stays
        exact marked_again (hfirst hboth) hrel
      · rw [hkept hboth] at hrel
        exact hrel
    · rw [hkept' hlast]
      exact hfirst (hnamed.resolve_right hlast)
  · rw [hkept' (fun hlast => hnone (.inr hlast)), hkept (fun hboth => hnone (.inl hboth))]

/-- **A run of writes.** -/
theorem run_marks {step : σ → ε → σ} {w : σ → κ → Option μ} {names : σ → ε → κ → Prop}
    (h : ∀ s e, Marks good (names s e) (w s) (w (step s e))) (s : σ) (es : List ε) :
    Marks good (fun k => ∃ before e after, es = before ++ e :: after
      ∧ names (run step s before) e k) (w s) (w (run step s es)) := by
  induction es generalizing s with
  | nil => exact (marks_of_eq rfl).congr (fun k => by simp)
  | cons e es ih =>
    rw [run_cons]
    refine ((h s e).trans (ih (step s e))).congr (fun k => ?_)
    constructor
    · rintro (hhead | ⟨before, x, after, hes, hnamed⟩)
      · exact ⟨[], e, es, rfl, hhead⟩
      · exact ⟨e :: before, x, after, by rw [hes]; rfl, hnamed⟩
    · rintro ⟨before, x, after, hes, hnamed⟩
      cases before with
      | nil =>
        obtain ⟨rfl, rfl⟩ := List.cons.inj hes
        exact .inl hnamed
      | cons y before =>
        obtain ⟨rfl, rfl⟩ := List.cons.inj hes
        exact .inr ⟨before, x, after, rfl, hnamed⟩

/-- **A batch of writes**, each of which names the same keys in every state. -/
theorem marks_foldl {step : σ → ε → σ} {w : σ → κ → Option μ} {names : ε → κ → Prop}
    (h : ∀ s e, Marks good (names e) (w s) (w (step s e))) (es : List ε) (s : σ) :
    Marks good (fun k => ∃ e ∈ es, names e k) (w s) (w (es.foldl step s)) := by
  refine (run_marks h s es).congr (fun k => ?_)
  constructor
  · rintro ⟨before, e, after, rfl, hnamed⟩
    exact ⟨e, by simp, hnamed⟩
  · rintro ⟨e, he, hnamed⟩
    obtain ⟨before, after, rfl⟩ := List.append_of_mem he
    exact ⟨before, e, after, rfl, hnamed⟩

/-! ## Halted keys that are spared -/

/-- The key has a bad mark. -/
def Halted (bad : μ → Prop) (v : κ → Option μ) (k : κ) : Prop := ∃ m ∈ v k, bad m

instance [DecidablePred bad] (k : κ) : Decidable (Halted bad v k) :=
  inferInstanceAs (Decidable (∃ m ∈ v k, bad m))

/-- No halted key gets a good mark. -/
def Spares (bad good : μ → Prop) (v v' : κ → Option μ) : Prop :=
  ∀ k, Halted bad v k → ¬ Halted good v' k

/-- A named key that has a mark gets a good one. -/
theorem Marks.named_good (h : Marks good names v v') {k : κ} {m : μ} (hname : names k)
    (hm : v k = some m) : Halted good v' k := by
  have hrel := (h k).1 hname
  rw [hm] at hrel
  cases hv' : v' k with
  | none =>
    rw [hv'] at hrel
    cases hrel
  | some m' =>
    rw [hv'] at hrel
    cases hrel with
    | some hgood => exact ⟨m', hv', hgood⟩

/-- A good mark stays good. -/
theorem Marks.good_kept (h : Marks good names v v') {k : κ} (hk : Halted good v k) :
    Halted good v' k := by
  obtain ⟨m, hm, hgood⟩ := hk
  by_cases hname : names k
  · exact h.named_good hname hm
  · refine ⟨m, ?_, hgood⟩
    rw [Option.mem_def, (h k).2 hname]
    exact hm

/-- A halted key stays halted, or gets a good mark. -/
theorem Marks.halted_or_good (h : Marks good names v v') {k : κ} (hk : Halted bad v k) :
    Halted bad v' k ∨ Halted good v' k := by
  obtain ⟨m, hm, hbad⟩ := hk
  by_cases hname : names k
  · exact .inr (h.named_good hname hm)
  · refine .inl ⟨m, ?_, hbad⟩
    rw [Option.mem_def, (h k).2 hname]
    exact hm

variable (hdisjoint : ∀ m, bad m → ¬ good m)
include hdisjoint

/-- **A write spares the halted keys** exactly if it names none. -/
theorem spares_iff (h : Marks good names v v') :
    Spares bad good v v' ↔ ∀ k, Halted bad v k → ¬ names k := by
  refine forall_congr' (fun k => forall_congr' (fun hhalted => not_congr ?_))
  obtain ⟨m, hm, hbad⟩ := hhalted
  obtain ⟨hnamed, hkept⟩ := h k
  rw [Option.mem_def] at hm
  constructor
  · rintro ⟨m', hm', hgood⟩
    by_contra hother
    rw [Option.mem_def, hkept hother, hm] at hm'
    exact hdisjoint m hbad (Option.some.inj hm' ▸ hgood)
  · intro hname
    exact h.named_good hname hm

/-- What a write leaves halted was halted before, and is not named. -/
theorem Marks.halted_before (h : Marks good names v v') {k : κ} (hhalted : Halted bad v' k) :
    ¬ names k ∧ Halted bad v k := by
  obtain ⟨m', hm', hbad⟩ := hhalted
  obtain ⟨hnamed, hkept⟩ := h k
  rw [Option.mem_def] at hm'
  have hother : ¬ names k := by
    intro hname
    have hrel := hnamed hname
    rw [hm'] at hrel
    cases hv : v k with
    | none =>
      rw [hv] at hrel
      cases hrel
    | some m =>
      rw [hv] at hrel
      cases hrel with
      | some hgood => exact hdisjoint m' hbad hgood
  refine ⟨hother, m', ?_, hbad⟩
  rw [Option.mem_def, ← hkept hother]
  exact hm'

/-- **Two writes spare the halted keys** exactly if each does. -/
theorem spares_trans (h : Marks good names v v') (h' : Marks good names' v' v'') :
    Spares bad good v v'' ↔ Spares bad good v v' ∧ Spares bad good v' v'' := by
  rw [spares_iff hdisjoint (h.trans h'), spares_iff hdisjoint h, spares_iff hdisjoint h']
  constructor
  · intro hall
    refine ⟨fun k hk hname => hall k hk (.inl hname), fun k hk hname => ?_⟩
    exact hall k (h.halted_before hdisjoint hk).2 (.inr hname)
  · rintro ⟨hfirst, hsecond⟩ k hk hname
    have hother : ¬ names k := hfirst k hk
    have hk' : Halted bad v' k := by
      obtain ⟨m, hm, hbad⟩ := hk
      exact ⟨m, by rw [Option.mem_def, (h k).2 hother]; exact hm, hbad⟩
    exact hsecond k hk' (hname.resolve_left hother)

/-- **A run of writes spares the halted keys** exactly if every step does. -/
theorem spares_run_iff {step : σ → ε → σ} {w : σ → κ → Option μ} {names : σ → ε → κ → Prop}
    (h : ∀ s e, Marks good (names s e) (w s) (w (step s e))) (s : σ) (es : List ε) :
    Spares bad good (w s) (w (run step s es))
      ↔ StepsOk step (fun s e => ∀ k, Halted bad (w s) k → ¬ names s e k) s es := by
  induction es generalizing s with
  | nil =>
    have hself : Spares bad good (w s) (w (run step s [])) :=
      (spares_iff hdisjoint (marks_of_eq rfl)).mpr (fun k _ hname => hname)
    exact iff_of_true hself trivial
  | cons e es ih =>
    rw [run_cons, spares_trans hdisjoint (h s e) (run_marks h (step s e) es), stepsOk_cons,
      spares_iff hdisjoint (h s e), ih]

end Marks

/-! ## Runs of any events -/

section Runs

variable (step : σ → ε → σ) (view : σ → κ → Option μ) (bad good : μ → Prop) (acts : ε → κ → Prop)

/-- The event does not give a key that is halted a good mark, unless it acts on it. -/
def SparesHalted (s : σ) (e : ε) : Prop :=
  ∀ k, Halted bad (view s) k → ¬ acts e k → ¬ Halted good (view (step s e)) k

/-- A key that is halted at some point of the run has no good mark at a later one, unless an event
has acted on it in between. -/
def StaysHalted (s : σ) (es : List ε) : Prop :=
  ∀ before between rest k, es = before ++ between ++ rest →
    Halted bad (view (run step s before)) k → (∀ e ∈ between, ¬ acts e k) →
    ¬ Halted good (view (run step s (before ++ between))) k

variable {step view bad good acts}

/-- What events that spare a key and do not act on it keep. -/
theorem halted_run (hkeep : ∀ s e k, Halted bad (view s) k → ¬ acts e k →
      Halted bad (view (step s e)) k ∨ Halted good (view (step s e)) k)
    {s : σ} {k : κ} {es : List ε} (hother : ∀ e ∈ es, ¬ acts e k)
    (hspared : StepsOk step (SparesHalted step view bad good acts) s es)
    (hk : Halted bad (view s) k) : Halted bad (view (run step s es)) k := by
  induction es generalizing s with
  | nil => exact hk
  | cons e es ih =>
    have hthis : ¬ acts e k := hother e List.mem_cons_self
    have hnext : Halted bad (view (step s e)) k :=
      (hkeep s e k hk hthis).resolve_right (hspared.1 k hk hthis)
    exact ih (fun e' he' => hother e' (List.mem_cons_of_mem _ he')) hspared.2 hnext

/-- **No halted key comes alive by itself** exactly if every step spares the halted ones. -/
theorem staysHalted_iff (hdisjoint : ∀ m, bad m → ¬ good m)
    (hkeep : ∀ s e k, Halted bad (view s) k → ¬ acts e k →
      Halted bad (view (step s e)) k ∨ Halted good (view (step s e)) k) (s : σ) (es : List ε) :
    StaysHalted step view bad good acts s es
      ↔ StepsOk step (SparesHalted step view bad good acts) s es := by
  constructor
  · intro h
    induction es generalizing s with
    | nil => exact stepsOk_nil s
    | cons e es ih =>
      constructor
      · -- the event alone
        intro k hk hother
        exact h [] [e] es k rfl hk (by simpa using hother)
      · refine ih (step s e) ?_
        intro before between rest k hes hk hother
        exact h (e :: before) between rest k (by rw [hes]; rfl) hk hother
  · intro hspared before between rest k hes hk hother
    rw [hes, stepsOk_append, stepsOk_append] at hspared
    have hstays := halted_run hkeep hother hspared.1.2 hk
    rw [run_append]
    rintro ⟨m, hm, hgood⟩
    obtain ⟨m', hm', hbad⟩ := hstays
    rw [Option.mem_unique hm hm'] at hgood
    exact hdisjoint m' hbad hgood

end Runs

end AutoCoinBot.Library
