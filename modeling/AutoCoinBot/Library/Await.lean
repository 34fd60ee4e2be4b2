/-
  Library.Await — operations that wait for replies, in one changing world.

  An operation runs up to its next call and leaves a task; when the reply comes it runs on.
  Between the two the world may move by itself, and other operations may begin and run on.

  An operation that waits may hold tokens. A token is issued only while it is free, to the
  operation that asks; it is spent by the one that holds it, and is lost with an operation that
  never runs on.
-/
import AutoCoinBot.Library.Run

namespace AutoCoinBot.Library

/-! ## Waiting -/

section Tasks

variable {σ τ ε κ ρ : Type*}

/-- A world with operations in it: its own moves, how an operation begins, and how it runs on. -/
structure Awaiting (σ τ ε κ ρ : Type*) where
  move : σ → ε → σ
  begin : σ → κ → Option τ
  resume : τ → ρ → σ → σ × Option τ

/-- What happens next. -/
inductive Happening (ε κ ρ : Type*) where
  | moves (event : ε)
  | begins (operation : κ)
  | replies (task : ℕ) (reply : ρ)

/-- The world, and the tasks that wait. -/
structure Waiting (σ τ : Type*) where
  world : σ
  tasks : List τ := []

namespace Awaiting

variable (m : Awaiting σ τ ε κ ρ)

/-- One step; a reply nobody waits for is dropped. -/
def step (s : Waiting σ τ) : Happening ε κ ρ → Waiting σ τ
  | .moves event => { s with world := m.move s.world event }
  | .begins operation => { s with tasks := s.tasks ++ (m.begin s.world operation).toList }
  | .replies i reply =>
    match s.tasks[i]? with
    | none => s
    | some task =>
      let (world, next) := m.resume task reply s.world
      { world := world, tasks := s.tasks.eraseIdx i ++ next.toList }

theorem step_replies_none {s : Waiting σ τ} {i : ℕ} (reply : ρ) (h : s.tasks[i]? = none) :
    m.step s (.replies i reply) = s := by
  simp only [step, h]

theorem step_replies_some {s : Waiting σ τ} {i : ℕ} (reply : ρ) {task : τ}
    (h : s.tasks[i]? = some task) :
    m.step s (.replies i reply)
      = { world := (m.resume task reply s.world).1
          tasks := s.tasks.eraseIdx i ++ (m.resume task reply s.world).2.toList } := by
  simp only [step, h]

/-- A condition on replies, as one on steps. -/
def Replies (ok : σ → τ → ρ → Prop) (s : Waiting σ τ) : Happening ε κ ρ → Prop
  | .replies i reply => ∀ task, s.tasks[i]? = some task → ok s.world task reply
  | _ => True

instance {ok : σ → τ → ρ → Prop} [∀ w task reply, Decidable (ok w task reply)]
    (s : Waiting σ τ) : (e : Happening ε κ ρ) → Decidable (Replies ok s e)
  | .replies i reply =>
    inferInstanceAs (Decidable (∀ task ∈ s.tasks[i]?, ok s.world task reply))
  | .moves _ => isTrue trivial
  | .begins _ => isTrue trivial

/-- A condition on beginnings, as one on steps. -/
def Begins (ok : κ → Prop) (_ : Waiting σ τ) : Happening ε κ ρ → Prop
  | .begins operation => ok operation
  | _ => True

/-- **What the moves keep between them**: a property of the world, and one of each task in it
that no move of another spoils. -/
structure Keeps (ok : σ → τ → ρ → Prop) (admitted : κ → Prop) (P : σ → Prop)
    (R : σ → τ → Prop) : Prop where
  move : ∀ s event, P s → P (m.move s event) ∧ ∀ task, R s task → R (m.move s event) task
  begin : ∀ s operation task, P s → admitted operation → m.begin s operation = some task →
    R s task
  resume : ∀ s task reply, P s → R s task → ok s task reply →
    P (m.resume task reply s).1
      ∧ (∀ other, R s other → R (m.resume task reply s).1 other)
      ∧ ∀ next, (m.resume task reply s).2 = some next → R (m.resume task reply s).1 next

variable {m} {ok : σ → τ → ρ → Prop} {admitted : κ → Prop} {P : σ → Prop} {R : σ → τ → Prop}

/-- One step keeps world and tasks. -/
theorem Keeps.step (h : m.Keeps ok admitted P R) {s : Waiting σ τ} {e : Happening ε κ ρ}
    (hs : P s.world ∧ ∀ task ∈ s.tasks, R s.world task)
    (hadmitted : Begins admitted s e) (hok : Replies ok s e) :
    P (m.step s e).world ∧ ∀ task ∈ (m.step s e).tasks, R (m.step s e).world task := by
  obtain ⟨hP, hR⟩ := hs
  cases e with
  | moves event =>
    obtain ⟨hP', hR'⟩ := h.move s.world event hP
    exact ⟨hP', fun task htask => hR' task (hR task htask)⟩
  | begins operation =>
    refine ⟨hP, fun task htask => ?_⟩
    rcases List.mem_append.mp htask with hold | hnew
    · exact hR task hold
    · exact h.begin s.world operation task hP hadmitted (Option.mem_toList.mp hnew)
  | replies i reply =>
    cases htask : s.tasks[i]? with
    | none =>
      rw [m.step_replies_none reply htask]
      exact ⟨hP, hR⟩
    | some task =>
      have hmem : task ∈ s.tasks := List.mem_of_getElem? htask
      obtain ⟨hP', hothers, hnext⟩ :=
        h.resume s.world task reply hP (hR task hmem) (hok task htask)
      rw [m.step_replies_some reply htask]
      refine ⟨hP', fun other hother => ?_⟩
      rcases List.mem_append.mp hother with hold | hnew
      · exact hothers other (hR other (List.mem_of_mem_eraseIdx hold))
      · exact hnext other (Option.mem_toList.mp hnew)

/-- **A run keeps world and tasks.** -/
theorem Keeps.run (h : m.Keeps ok admitted P R) {s : Waiting σ τ} {es : List (Happening ε κ ρ)}
    (hs : P s.world ∧ ∀ task ∈ s.tasks, R s.world task)
    (hes : StepsOk m.step (fun s e => Begins admitted s e ∧ Replies ok s e) s es) :
    P (run m.step s es).world ∧ ∀ task ∈ (run m.step s es).tasks, R (run m.step s es).world task :=
  run_invariant_of_stepsOk
    (P := fun s => P s.world ∧ ∀ task ∈ s.tasks, R s.world task)
    (fun _ _ hs hok => h.step hs hok.1 hok.2) hs hes

end Awaiting

end Tasks

/-! ## Tokens that are issued once and spent once -/

section Tokens

variable {σ τ ε κ ρ α : Type*}

/-- Which tokens a task holds, which the world has issued, and which it has seen spent. -/
structure TokenView (σ τ α : Type*) where
  held : τ → List α
  issued : σ → α → Prop
  spent : σ → List α

namespace TokenView

variable (v : TokenView σ τ α)

/-- The tokens that are out. -/
def out (s : Waiting σ τ) : List α := v.spent s.world ++ s.tasks.flatMap v.held

/-- None is out twice, and all were issued. -/
def Sound (s : Waiting σ τ) : Prop := (v.out s).Nodup ∧ ∀ a ∈ v.out s, v.issued s.world a

end TokenView

/-- **Moves that keep tokens one-shot.** Only an operation that runs on is issued tokens, and
only such as were free. -/
structure OneShot (m : Awaiting σ τ ε κ ρ) (v : TokenView σ τ α) : Prop where
  move : ∀ s event, v.spent (m.move s event) = v.spent s
    ∧ ∀ a, v.issued s a → v.issued (m.move s event) a
  begin : ∀ s operation task, m.begin s operation = some task → v.held task = []
  resume : ∀ s task reply, (∀ a, v.issued s a → v.issued (m.resume task reply s).1 a)
    ∧ ∃ fresh : List α, fresh.Nodup ∧ (∀ a ∈ fresh, ¬ v.issued s a)
      ∧ (∀ a ∈ fresh, v.issued (m.resume task reply s).1 a)
      ∧ (v.spent (m.resume task reply s).1
          ++ (m.resume task reply s).2.toList.flatMap v.held).Subperm
        (v.spent s ++ v.held task ++ fresh)

namespace OneShot

variable {m : Awaiting σ τ ε κ ρ} {v : TokenView σ τ α}

/-- A task taken out of the list, and the others. -/
theorem flatMap_held_perm {tasks : List τ} {i : ℕ} {task : τ} (h : tasks[i]? = some task) :
    (tasks.flatMap v.held).Perm (v.held task ++ (tasks.eraseIdx i).flatMap v.held) := by
  obtain ⟨hi, hget⟩ := List.getElem?_eq_some_iff.mp h
  have hperm := (List.getElem_cons_eraseIdx_perm hi).symm
  rw [hget] at hperm
  exact hperm.flatMap_right v.held

/-- One step keeps the tokens sound. -/
theorem step (h : OneShot m v) {s : Waiting σ τ} (hs : v.Sound s) (e : Happening ε κ ρ) :
    v.Sound (m.step s e) := by
  obtain ⟨hnodup, hissued⟩ := hs
  cases e with
  | moves event =>
    obtain ⟨hspent, hmono⟩ := h.move s.world event
    have hout : v.out (m.step s (.moves event)) = v.out s := by
      show v.spent (m.move s.world event) ++ s.tasks.flatMap v.held
        = v.spent s.world ++ s.tasks.flatMap v.held
      rw [hspent]
    refine ⟨hout ▸ hnodup, fun a ha => hmono a (hissued a ?_)⟩
    rw [← hout]
    exact ha
  | begins operation =>
    have hout : v.out (m.step s (.begins operation)) = v.out s := by
      show v.spent s.world ++ (s.tasks ++ (m.begin s.world operation).toList).flatMap v.held
        = v.spent s.world ++ s.tasks.flatMap v.held
      rw [List.flatMap_append]
      cases hbegin : m.begin s.world operation with
      | none => rw [Option.toList_none, List.flatMap_nil, List.append_nil]
      | some task =>
        rw [Option.toList_some, List.flatMap_singleton, h.begin s.world operation task hbegin,
          List.append_nil]
    refine ⟨hout ▸ hnodup, fun a ha => hissued a ?_⟩
    rw [← hout]
    exact ha
  | replies i reply =>
    cases htask : s.tasks[i]? with
    | none =>
      rw [m.step_replies_none reply htask]
      exact ⟨hnodup, hissued⟩
    | some task =>
      obtain ⟨hmono, fresh, hfresh, hfree, hnew, hsub⟩ := h.resume s.world task reply
      have hbefore : (v.out s).Perm
          (v.spent s.world ++ (v.held task ++ (s.tasks.eraseIdx i).flatMap v.held)) :=
        (flatMap_held_perm htask).append_left _
      -- what is out afterwards was out before or is fresh
      have hafter : (v.out (m.step s (.replies i reply))).Subperm (v.out s ++ fresh) := by
        rw [m.step_replies_some reply htask]
        unfold TokenView.out
        dsimp only
        rw [List.flatMap_append]
        have hothers := (List.subperm_append_right ((s.tasks.eraseIdx i).flatMap v.held)).mpr hsub
        have hleft : ∀ a b c : List α, (a ++ (b ++ c)).Perm (a ++ c ++ b) := by
          intro a b c
          rw [List.append_assoc]
          exact List.perm_append_comm.append_left a
        have hright : ∀ a b c d : List α, (a ++ b ++ c ++ d).Perm (a ++ (b ++ d) ++ c) := by
          intro a b c d
          rw [List.append_assoc, List.append_assoc, List.append_assoc, List.append_assoc]
          exact (List.perm_append_comm.append_left b).append_left a
        exact ((hleft _ _ _).subperm.trans hothers).trans
          ((hright _ _ _ _).trans (hbefore.symm.append_right fresh)).subperm
      have hboth : (v.out s ++ fresh).Nodup :=
        List.nodup_append'.mpr ⟨hnodup, hfresh,
          fun a hout hin => hfree a hin (hissued a hout)⟩
      refine ⟨?_, fun a ha => ?_⟩
      · obtain ⟨l, hperm, hsublist⟩ := hafter
        exact hperm.nodup_iff.mp (hsublist.nodup hboth)
      · have hworld : (m.step s (.replies i reply)).world
            = (m.resume task reply s.world).1 := by
          rw [m.step_replies_some reply htask]
        rw [hworld]
        rcases List.mem_append.mp (hafter.subset ha) with hold | hin
        · exact hmono a (hissued a hold)
        · exact hnew a hin

/-- **No run spends a token twice.** -/
theorem nodup_spent (h : OneShot m v) {s : Waiting σ τ} (hs : v.Sound s)
    (es : List (Happening ε κ ρ)) : (v.spent (run m.step s es).world).Nodup := by
  have hsound : v.Sound (run m.step s es) :=
    run_invariant (P := v.Sound) (fun s e hs => h.step hs e) hs es
  exact (List.nodup_append'.mp hsound.1).1

end OneShot

end Tokens

end AutoCoinBot.Library
