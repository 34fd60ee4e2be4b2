/-
  Library.Redirects — pointers that a list of rules redirects, one rule after the
  other.

  A rule takes some pointers and sets them to its target; what it sets stands before the rules
  that come after it, and may be taken again. A pointer rests if no rule takes it elsewhere.
-/
import Mathlib

namespace AutoCoinBot.Library

/-- What is pointed at something the rule takes is pointed at its target. -/
structure Redirect (α : Type*) where
  takes : α → Bool
  target : α

namespace Redirect

variable {α : Type*} {rules rules' : List (Redirect α)} {x : α}

/-- A pointer under one rule. -/
def apply (rule : Redirect α) (x : α) : α := if rule.takes x then rule.target else x

/-- A pointer under the rules, one after the other. -/
def follow (rules : List (Redirect α)) (x : α) : α := rules.foldl (fun x rule => rule.apply x) x

/-- No rule takes the pointer elsewhere. -/
def Rests (rules : List (Redirect α)) (x : α) : Prop :=
  ∀ rule ∈ rules, rule.takes x = true → rule.target = x

theorem apply_of_takes {rule : Redirect α} (h : rule.takes x = true) : rule.apply x = rule.target :=
  if_pos h

theorem apply_of_not_takes {rule : Redirect α} (h : rule.takes x = false) : rule.apply x = x := by
  unfold apply
  rw [h]
  rfl

@[simp] theorem follow_nil : follow [] x = x := rfl

@[simp] theorem follow_cons (rule : Redirect α) : follow (rule :: rules) x
    = follow rules (rule.apply x) := rfl

theorem follow_append : follow (rules ++ rules') x = follow rules' (follow rules x) :=
  List.foldl_append

/-- **A pointer that rests stays.** -/
theorem follow_of_rests (h : Rests rules x) : follow rules x = x := by
  induction rules with
  | nil => rfl
  | cons rule rules ih =>
    have htail : Rests rules x := fun other hother => h other (List.mem_cons_of_mem rule hother)
    have hhead : rule.apply x = x := by
      cases htakes : rule.takes x with
      | false => exact apply_of_not_takes htakes
      | true =>
        rw [apply_of_takes htakes]
        exact h rule List.mem_cons_self htakes
    rw [follow_cons, hhead]
    exact ih htail

/-- A pointer that is led nowhere else was taken by no rule before it moved: it rests, or it comes
back. Where every target rests, it rests. -/
theorem rests_follow (h : ∀ rule ∈ rules, Rests rules rule.target) : Rests rules (follow rules x) := by
  -- induction on the rules still to come; those before them no longer take the pointer
  suffices hrun : ∀ done todo : List (Redirect α), done ++ todo = rules → ∀ y,
      (∀ rule ∈ done, rule.takes y = true → rule.target = y) → Rests rules (follow todo y) by
    exact hrun [] rules rfl x (fun rule hrule => by cases hrule)
  intro done todo
  induction todo generalizing done with
  | nil =>
    intro hsplit y hdone
    rw [List.append_nil] at hsplit
    rw [← hsplit]
    exact hdone
  | cons rule todo ih =>
    intro hsplit y hdone
    have hmem : rule ∈ rules := by
      rw [← hsplit]
      exact List.mem_append_right done List.mem_cons_self
    have hsplit' : (done ++ [rule]) ++ todo = rules := by
      rw [List.append_assoc]
      exact hsplit
    rw [follow_cons]
    cases htakes : rule.takes y with
    | true =>
      rw [apply_of_takes htakes]
      refine ih (done ++ [rule]) hsplit' rule.target ?_
      intro other hother
      refine h rule hmem other ?_
      rw [← hsplit']
      exact List.mem_append_left todo hother
    | false =>
      rw [apply_of_not_takes htakes]
      refine ih (done ++ [rule]) hsplit' y ?_
      intro other hother hother_takes
      rcases List.mem_append.mp hother with hold | hnew
      · exact hdone other hold hother_takes
      · rw [List.mem_singleton.mp hnew, htakes] at hother_takes
        cases hother_takes

/-- **Rules whose targets rest** lead every pointer to its place at once: following them again, in
any order, changes nothing. -/
theorem follow_follow_of_rests (h : ∀ rule ∈ rules, Rests rules rule.target)
    (hsub : ∀ rule ∈ rules', rule ∈ rules) : follow rules' (follow rules x) = follow rules x :=
  follow_of_rests (fun rule hrule => rests_follow h rule (hsub rule hrule))

end Redirect

end AutoCoinBot.Library
