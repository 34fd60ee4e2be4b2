/-
  Library.Gate — ordered checks that report the first one to fail.

  Every check carries its code. What is reported says that the checks before it passed; it says
  nothing of the checks behind it.
-/
import Mathlib

namespace AutoCoinBot.Library

variable {α : Type*}

/-- The code of the first check that fails. -/
def firstFailing (checks : List (Bool × α)) : Option α := (checks.find? Prod.fst).map Prod.snd

theorem find?_fst_eq_none_iff {checks : List (Bool × α)} :
    checks.find? Prod.fst = none ↔ ∀ check ∈ checks, check.1 = false := by
  rw [List.find?_eq_none]
  simp only [Bool.not_eq_true]

theorem firstFailing_eq_none_iff {checks : List (Bool × α)} :
    firstFailing checks = none ↔ ∀ check ∈ checks, check.1 = false :=
  Option.map_eq_none_iff.trans find?_fst_eq_none_iff

/-- A chain of checks reports nothing exactly if its first check passes and so does the rest. -/
theorem ite_some_eq_none_iff {p : Prop} [Decidable p] {code : α} {rest : Option α} :
    (if p then some code else rest) = none ↔ ¬ p ∧ rest = none := by
  by_cases hp : p <;> simp [hp]

theorem firstFailing_append (before after : List (Bool × α)) :
    firstFailing (before ++ after) = (firstFailing before).or (firstFailing after) := by
  unfold firstFailing
  rw [List.find?_append]
  cases before.find? Prod.fst <;> rfl

theorem firstFailing_cons (fails : Bool) (code : α) (after : List (Bool × α)) :
    firstFailing ((fails, code) :: after) = if fails then some code else firstFailing after := by
  cases fails <;> rfl

/-- What is reported is a code of the checks. -/
theorem firstFailing_mem {checks : List (Bool × α)} {code : α}
    (h : firstFailing checks = some code) : code ∈ checks.map Prod.snd := by
  obtain ⟨check, hfind, rfl⟩ := Option.map_eq_some_iff.mp h
  exact List.mem_map_of_mem (List.mem_of_find?_eq_some hfind)

/-- **A code is reported exactly if its check fails and the checks before it pass.** -/
theorem firstFailing_eq_some_iff {before after : List (Bool × α)} {fails : Bool} {code : α}
    (hbefore : code ∉ before.map Prod.snd) (hafter : code ∉ after.map Prod.snd) :
    firstFailing (before ++ (fails, code) :: after) = some code
      ↔ firstFailing before = none ∧ fails = true := by
  rw [firstFailing_append, firstFailing_cons]
  cases hfirst : firstFailing before with
  | some other =>
    have hne : other ≠ code := fun h => hbefore (h ▸ firstFailing_mem hfirst)
    simp [hne]
  | none =>
    cases fails with
    | true => simp
    | false =>
      have hnot : firstFailing after ≠ some code := fun h => hafter (firstFailing_mem h)
      simp [hnot]

end AutoCoinBot.Library
