/-
  Library.Calls — statements that call out, and what is left when one raises.

  A call returns after its effect, or raises after a part of it. A block makes its calls in
  order up to the first that raises, and hands that exception to its handler. A statement in
  general leads from a state to another one, and may raise on the way; a triple says what holds
  after it where something held before it: at its end, and where it raises.
-/
import Mathlib

namespace AutoCoinBot.Library

section Calling

variable {σ τ ε : Type*}

/-- How a call ends: it returns, or raises after some of its writes. -/
inductive Ending (ε : Type*) where
  | returns
  | raises (exc : ε) (writes : ℕ)

/-- What it raises. -/
def Ending.exc? : Ending ε → Option ε
  | .returns => none
  | .raises exc _ => some exc

/-- It returned, or raised after a write. -/
def Ending.Wrote : Ending ε → Prop
  | .returns => True
  | .raises _ writes => writes ≠ 0

instance : DecidablePred (Ending.Wrote (ε := ε))
  | .returns => isTrue trivial
  | .raises _ writes => inferInstanceAs (Decidable (writes ≠ 0))

/-- A call, how it ends, and what it does; a call of one write leaves all of it or nothing. -/
structure Call (σ ε : Type*) where
  outcome : Ending ε
  effect : σ → σ
  partly : ℕ → σ → σ := fun writes s => if writes = 0 then s else effect s

/-- The state after a call. -/
def Call.after (c : Call σ ε) (s : σ) : σ :=
  match c.outcome with
  | .returns => c.effect s
  | .raises _ writes => c.partly writes s

/-- Calls in order, up to the first that raises. -/
def runCalls : List (Call σ ε) → σ → Option ε × σ
  | [], s => (none, s)
  | c :: cs, s =>
    match c.outcome.exc? with
    | none => runCalls cs (c.after s)
    | some exc => (some exc, c.after s)

/-- `try: … except Exception as exc: …` -/
def tryCalls (body : List (Call σ ε)) (handler : ε → List (Call σ ε)) (s : σ) : Option ε × σ :=
  match runCalls body s with
  | (none, t) => (none, t)
  | (some exc, t) => runCalls (handler exc) t

/-- What the first raising call raises. -/
def firstRaised (cs : List (Call σ ε)) : Option ε := cs.findSome? (fun c => c.outcome.exc?)

/-! ## Blocks -/

section Blocks

variable (c : Call σ ε) (cs cs' : List (Call σ ε)) (s : σ)

@[simp] theorem runCalls_nil : runCalls ([] : List (Call σ ε)) s = (none, s) := rfl

theorem runCalls_cons_returns {c : Call σ ε} (h : c.outcome.exc? = none) :
    runCalls (c :: cs) s = runCalls cs (c.after s) := by
  rw [runCalls, h]

theorem runCalls_cons_raises {c : Call σ ε} {exc : ε} (h : c.outcome.exc? = some exc) :
    runCalls (c :: cs) s = (some exc, c.after s) := by
  rw [runCalls, h]

@[simp] theorem firstRaised_nil : firstRaised ([] : List (Call σ ε)) = none := rfl

theorem firstRaised_cons_returns {c : Call σ ε} (h : c.outcome.exc? = none) :
    firstRaised (c :: cs) = firstRaised cs := by
  unfold firstRaised
  rw [List.findSome?_cons, h]

theorem firstRaised_cons_raises {c : Call σ ε} {exc : ε} (h : c.outcome.exc? = some exc) :
    firstRaised (c :: cs) = some exc := by
  unfold firstRaised
  rw [List.findSome?_cons, h]

/-- **A block raises what its first raising call raises.** -/
theorem runCalls_fst : (runCalls cs s).1 = firstRaised cs := by
  induction cs generalizing s with
  | nil => rfl
  | cons c cs ih =>
    cases h : c.outcome.exc? with
    | none => rw [runCalls_cons_returns cs s h, firstRaised_cons_returns cs h, ih]
    | some exc => rw [runCalls_cons_raises cs s h, firstRaised_cons_raises cs h]

/-- The second part of a block is reached if nothing in the first raises. -/
theorem runCalls_append :
    runCalls (cs ++ cs') s
      = if (firstRaised cs).isSome then runCalls cs s else runCalls cs' (runCalls cs s).2 := by
  induction cs generalizing s with
  | nil => rfl
  | cons c cs ih =>
    rw [List.cons_append]
    cases h : c.outcome.exc? with
    | none =>
      rw [runCalls_cons_returns _ s h, runCalls_cons_returns cs s h,
        firstRaised_cons_returns cs h, ih]
    | some exc =>
      rw [runCalls_cons_raises _ s h, runCalls_cons_raises cs s h,
        firstRaised_cons_raises cs h]
      rfl

end Blocks

/-! ## What calls keep -/

/-- A call keeps a property, however it ends. -/
def Call.Keeps (P : σ → Prop) (c : Call σ ε) : Prop :=
  (∀ s, P s → P (c.effect s)) ∧ ∀ writes s, P s → P (c.partly writes s)

theorem Call.Keeps.after {P : σ → Prop} {c : Call σ ε} (h : c.Keeps P) {s : σ} (hs : P s) :
    P (c.after s) := by
  unfold Call.after
  split
  · exact h.1 s hs
  · exact h.2 _ s hs

/-- **What every call keeps, a block keeps.** -/
theorem runCalls_keeps {P : σ → Prop} {cs : List (Call σ ε)} (h : ∀ c ∈ cs, c.Keeps P) {s : σ}
    (hs : P s) : P (runCalls cs s).2 := by
  induction cs generalizing s with
  | nil => exact hs
  | cons c cs ih =>
    obtain ⟨hc, hcs⟩ := List.forall_mem_cons.mp h
    cases hexc : c.outcome.exc? with
    | none =>
      rw [runCalls_cons_returns cs s hexc]
      exact ih hcs (hc.after hs)
    | some exc =>
      rw [runCalls_cons_raises cs s hexc]
      exact hc.after hs

/-! ## Calls that act alike -/

/-- Two calls end alike and act alike on connected states. -/
structure Call.Simulates (R : τ → σ → Prop) (a : Call τ ε) (c : Call σ ε) : Prop where
  outcome : a.outcome = c.outcome
  effect : ∀ t s, R t s → R (a.effect t) (c.effect s)
  partly : ∀ writes t s, R t s → R (a.partly writes t) (c.partly writes s)

section Simulation

variable {R : τ → σ → Prop} {a : Call τ ε} {c : Call σ ε}

/-- Calls of one write act alike if their effects do. -/
theorem Call.simulates_of_effect {outcome : Ending ε} {f : τ → τ} {g : σ → σ}
    (h : ∀ t s, R t s → R (f t) (g s)) :
    Call.Simulates R { outcome := outcome, effect := f } { outcome := outcome, effect := g } where
  outcome := rfl
  effect := h
  partly := by
    intro writes t s hR
    dsimp only
    split_ifs
    · exact hR
    · exact h t s hR

theorem Call.Simulates.after (h : Call.Simulates R a c) {t : τ} {s : σ} (hR : R t s) :
    R (a.after t) (c.after s) := by
  unfold Call.after
  rw [h.outcome]
  split
  · exact h.effect t s hR
  · exact h.partly _ t s hR

/-- **Blocks of calls that act alike**, end alike in connected states. -/
theorem runCalls_simulates {as : List (Call τ ε)} {cs : List (Call σ ε)}
    (h : List.Forall₂ (Call.Simulates R) as cs) {t : τ} {s : σ} (hR : R t s) :
    (runCalls as t).1 = (runCalls cs s).1 ∧ R (runCalls as t).2 (runCalls cs s).2 := by
  induction h generalizing t s with
  | nil => exact ⟨rfl, hR⟩
  | @cons a c as cs hcall _ ih =>
    have hafter : R (a.after t) (c.after s) := hcall.after hR
    cases hexc : c.outcome.exc? with
    | none =>
      have hexc' : a.outcome.exc? = none := by rw [hcall.outcome, hexc]
      rw [runCalls_cons_returns as t hexc', runCalls_cons_returns cs s hexc]
      exact ih hafter
    | some exc =>
      have hexc' : a.outcome.exc? = some exc := by rw [hcall.outcome, hexc]
      rw [runCalls_cons_raises as t hexc', runCalls_cons_raises cs s hexc]
      exact ⟨rfl, hafter⟩

/-- **And so do blocks with handlers.** -/
theorem tryCalls_simulates {as : List (Call τ ε)} {cs : List (Call σ ε)}
    {handler : ε → List (Call τ ε)} {handler' : ε → List (Call σ ε)}
    (hbody : List.Forall₂ (Call.Simulates R) as cs)
    (hhandler : ∀ exc, List.Forall₂ (Call.Simulates R) (handler exc) (handler' exc)) {t : τ} {s : σ}
    (hR : R t s) :
    (tryCalls as handler t).1 = (tryCalls cs handler' s).1
      ∧ R (tryCalls as handler t).2 (tryCalls cs handler' s).2 := by
  obtain ⟨hexc, hR'⟩ := runCalls_simulates hbody hR
  unfold tryCalls
  cases ha : runCalls as t with
  | mk exc t' =>
    cases hc : runCalls cs s with
    | mk exc' s' =>
      rw [ha, hc] at hexc hR'
      subst hexc
      cases exc with
      | none => exact ⟨rfl, hR'⟩
      | some exc => exact runCalls_simulates (hhandler exc) hR'

end Simulation

end Calling

/-! ## Statements, and what holds after them -/

section Triples

variable {σ ε ε' : Type*}

/-- A statement: what it raises, and the state it leaves. -/
abbrev Statement (σ ε : Type*) := σ → Option ε × σ

namespace Statement

/-- `pass` -/
def skip : Statement σ ε := fun s => (none, s)

/-- `raise exc` -/
def raise (exc : ε) : Statement σ ε := fun s => (some exc, s)

/-- Calls in order. -/
def calls (cs : List (Call σ ε)) : Statement σ ε := runCalls cs

/-- `a; b` -/
def andThen (a b : Statement σ ε) : Statement σ ε := fun s =>
  match a s with
  | (none, t) => b t
  | (some exc, t) => (some exc, t)

/-- `try: a except …: handler` -/
def catching (a : Statement σ ε) (handler : ε → Statement σ ε') : Statement σ ε' := fun s =>
  match a s with
  | (none, t) => (none, t)
  | (some exc, t) => handler exc t

section Sequences

variable {a b : Statement σ ε} {handler : ε → Statement σ ε'} {s t : σ} {exc : ε}

theorem calls_singleton (c : Call σ ε) (s : σ) : calls [c] s = (c.outcome.exc?, c.after s) := by
  unfold calls runCalls
  cases c.outcome.exc? with
  | none => rfl
  | some exc => rfl

theorem andThen_returns (h : a s = (none, t)) : a.andThen b s = b t := by
  unfold andThen
  rw [h]

theorem andThen_raises (h : a s = (some exc, t)) : a.andThen b s = (some exc, t) := by
  unfold andThen
  rw [h]

theorem catching_raises (h : a s = (some exc, t)) : a.catching handler s = handler exc t := by
  unfold catching
  rw [h]

end Sequences

end Statement

/-- An end with `Q`, or an exception `exc` with `E exc`. -/
def Ends (Q : σ → Prop) (E : ε → σ → Prop) : Option ε × σ → Prop
  | (none, t) => Q t
  | (some exc, t) => E exc t

/-- Where `P` holds, `a` ends with `Q`, or raises an exception `exc` with `E exc`. -/
def Triple (P : σ → Prop) (a : Statement σ ε) (Q : σ → Prop) (E : ε → σ → Prop) : Prop :=
  ∀ s, P s → Ends Q E (a s)

section Rules

variable {P P' Q Q' R : σ → Prop} {E E' : ε → σ → Prop} {F : ε' → σ → Prop}
  {a b : Statement σ ε} {handler : ε → Statement σ ε'}

theorem Ends.weaken {r : Option ε × σ} (h : Ends Q E r) (hpost : ∀ s, Q s → Q' s)
    (hexc : ∀ exc s, E exc s → E' exc s) : Ends Q' E' r := by
  obtain ⟨exc, t⟩ := r
  cases exc with
  | none => exact hpost t h
  | some exc => exact hexc exc t h

theorem Triple.weaken (h : Triple P a Q E) (hpre : ∀ s, P' s → P s) (hpost : ∀ s, Q s → Q' s)
    (hexc : ∀ exc s, E exc s → E' exc s) : Triple P' a Q' E' :=
  fun s hs => (h s (hpre s hs)).weaken hpost hexc

theorem triple_raise {exc : ε} (h : ∀ s, P s → E exc s) :
    Triple P (Statement.raise exc) Q E := fun s hs => h s hs

/-- **The rule of a sequence.** -/
theorem Triple.andThen (ha : Triple P a Q E) (hb : Triple Q b R E) :
    Triple P (a.andThen b) R E := by
  intro s hs
  have hmiddle : Ends Q E (a s) := ha s hs
  unfold Statement.andThen
  match a s, hmiddle with
  | (none, t), hmiddle => exact hb t hmiddle
  | (some exc, t), hmiddle => exact hmiddle

/-- **The rule of a handler.** -/
theorem Triple.catching (ha : Triple P a Q E)
    (hhandler : ∀ exc, Triple (E exc) (handler exc) Q F) :
    Triple P (a.catching handler) Q F := by
  intro s hs
  have hbody : Ends Q E (a s) := ha s hs
  unfold Statement.catching
  match a s, hbody with
  | (none, t), hbody => exact hbody
  | (some exc, t), hbody => exact hhandler exc t hbody

/-- **The rule of calls** that keep an assertion. -/
theorem triple_calls {cs : List (Call σ ε)} (h : ∀ c ∈ cs, c.Keeps P) :
    Triple P (Statement.calls cs) P (fun _ => P) := by
  intro s hs
  unfold Statement.calls
  have hafter : P (runCalls cs s).2 := runCalls_keeps h hs
  match runCalls cs s, hafter with
  | (none, t), hafter => exact hafter
  | (some exc, t), hafter => exact hafter

end Rules

end Triples

end AutoCoinBot.Library
