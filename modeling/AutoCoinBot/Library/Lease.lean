/-
  Library.Lease — one record, leased to one owner at a time.

  The store keeps the lease that is in force; every owner remembers the lease it was
  granted last. A grant overwrites the record without looking at it: whether that is
  safe is a condition on the state it happens in, `Unheld`.
-/
import AutoCoinBot.Library.Run

namespace AutoCoinBot.Library

/-- A lease: whose it is, and until when. -/
structure Lease (ι τ : Type*) where
  owner : ι
  expires : τ

/-- The clock, the lease in force, and what every owner was granted last. -/
structure LeaseState (ι τ : Type*) where
  clock : τ
  record : Option (Lease ι τ)
  granted : ι → Option τ

/-- What happens to a leased record. -/
inductive LeaseEvent (ι τ : Type*) where
  | grant (i : ι) (expires : τ)
  | refuse (i : ι)
  | release (i : ι)
  | advance (t : τ)

namespace LeaseState

variable {ι τ : Type*} [LinearOrder τ]

/-- An owner holds the record while its last grant is in force. -/
def Holds (s : LeaseState ι τ) (i : ι) : Prop := ∃ e, s.granted i = some e ∧ s.clock < e

/-- At most one owner holds the record. -/
def Exclusive (s : LeaseState ι τ) : Prop := ∀ i j, s.Holds i → s.Holds j → i = j

/-- A grant that overwrites nobody else's lease. -/
def Unheld (s : LeaseState ι τ) : LeaseEvent ι τ → Prop
  | .grant i _ => ∀ l ∈ s.record, l.owner = i
  | _ => True

/-- Every lease that an owner remembers and that is in force is the recorded one. -/
def Remembered (s : LeaseState ι τ) : Prop :=
  ∀ i e, s.granted i = some e → s.clock < e → s.record = some ⟨i, e⟩

/-- What is recorded names one owner. -/
theorem Remembered.exclusive {s : LeaseState ι τ} (h : s.Remembered) : s.Exclusive := by
  intro i j hi hj
  obtain ⟨e, he, hlive⟩ := hi
  obtain ⟨e', he', hlive'⟩ := hj
  have hrecord : some (⟨i, e⟩ : Lease ι τ) = some ⟨j, e'⟩ :=
    (h i e he hlive).symm.trans (h j e' he' hlive')
  injection hrecord with hlease
  injection hlease

/-- Where nobody was granted anything, nothing has to be recorded. -/
theorem remembered_of_granted_none {s : LeaseState ι τ} (h : ∀ i, s.granted i = none) :
    s.Remembered := by
  intro i e he
  rw [h i] at he
  cases he

variable [DecidableEq ι]

/-- One event. A lease that has run out is not in force and leaves the record. -/
def step (s : LeaseState ι τ) : LeaseEvent ι τ → LeaseState ι τ
  | .grant i expires =>
    { s with
      record := if s.clock < expires then some ⟨i, expires⟩ else none
      granted := Function.update s.granted i (some expires) }
  | .refuse i => { s with granted := Function.update s.granted i none }
  | .release i =>
    { s with
      record := s.record.filter (fun l => l.owner ≠ i)
      granted := Function.update s.granted i none }
  | .advance t =>
    { s with
      clock := max s.clock t
      record := s.record.filter (fun l => max s.clock t < l.expires) }

/-- **A grant of a record nobody else holds** keeps the remembered leases recorded. -/
theorem remembered_step {s : LeaseState ι τ} (h : s.Remembered) {ev : LeaseEvent ι τ}
    (hev : s.Unheld ev) : (s.step ev).Remembered := by
  intro i e he hlive
  cases ev with
  | grant j expires =>
    by_cases hij : i = j
    · subst hij
      have hgranted : (s.step (.grant i expires)).granted i = some expires :=
        Function.update_self _ _ _
      have hexpires : some expires = some e := hgranted.symm.trans he
      injection hexpires with hexpires
      subst hexpires
      exact if_pos hlive
    · -- the lease of `i` was recorded before, so it is the one that was overwritten
      have hold : s.granted i = some e := (Function.update_of_ne hij _ _).symm.trans he
      have hrecorded := h i e hold hlive
      exact absurd (hev ⟨i, e⟩ hrecorded) hij
  | refuse j =>
    by_cases hij : i = j
    · subst hij
      rw [show (s.step (.refuse i)).granted i = none from Function.update_self _ _ _] at he
      cases he
    · exact h i e ((Function.update_of_ne hij _ _).symm.trans he) hlive
  | release j =>
    by_cases hij : i = j
    · subst hij
      rw [show (s.step (.release i)).granted i = none from Function.update_self _ _ _] at he
      cases he
    · have hrecorded := h i e ((Function.update_of_ne hij _ _).symm.trans he) hlive
      show s.record.filter (fun l => l.owner ≠ j) = some ⟨i, e⟩
      rw [hrecorded]
      exact Option.filter_some_pos (by simpa using hij)
  | advance t =>
    have hlive : max s.clock t < e := hlive
    have hrecorded := h i e he (lt_of_le_of_lt (le_max_left _ _) hlive)
    show s.record.filter (fun l => max s.clock t < l.expires) = some ⟨i, e⟩
    rw [hrecorded]
    exact Option.filter_some_pos (decide_eq_true hlive)

/-- **A run of grants that overwrite nobody's lease** keeps the remembered leases
recorded. -/
theorem remembered_run {s : LeaseState ι τ} (h : s.Remembered) {es : List (LeaseEvent ι τ)}
    (hes : StepsOk step Unheld s es) : (run step s es).Remembered := by
  have hkeep : ∀ (s : LeaseState ι τ) ev, s.Remembered → s.Unheld ev → (s.step ev).Remembered :=
    fun s ev hs hev => remembered_step hs hev
  exact run_invariant_of_stepsOk hkeep h hes

end LeaseState

end AutoCoinBot.Library
