/-
  Library.Padding — lists with elements inserted, and lists whose elements are read
  together with the next one.

  `Padded p xs ys` says that `ys` is `xs` with elements of `p` put in anywhere. What does not
  count the padding is not changed by it; a stretch of the padded list is a stretch of the list,
  padded, but not always the same stretch.

  A loop that looks one element ahead reads pairs; the last pair has no next element.
-/
import Mathlib

namespace AutoCoinBot.Library

/-! ## Padding -/

section Padding

variable {α : Type*} {p : α → Prop}

/-- `ys` is `xs` with elements of `p` inserted. -/
inductive Padded (p : α → Prop) : List α → List α → Prop
  | nil : Padded p [] []
  | keep (x : α) {xs ys : List α} : Padded p xs ys → Padded p (x :: xs) (x :: ys)
  | pad {x : α} {xs ys : List α} : p x → Padded p xs ys → Padded p xs (x :: ys)

namespace Padded

theorem refl (xs : List α) : Padded p xs xs := by
  induction xs with
  | nil => exact nil
  | cons x xs ih => exact keep x ih

theorem append {xs ys xs' ys' : List α} (h : Padded p xs ys) (h' : Padded p xs' ys') :
    Padded p (xs ++ xs') (ys ++ ys') := by
  induction h with
  | nil => exact h'
  | keep x _ ih => exact keep x ih
  | pad hx _ ih => exact pad hx ih

theorem replicate {x : α} (hx : p x) (n : ℕ) : Padded p [] (List.replicate n x) := by
  induction n with
  | zero => exact nil
  | succ n ih => exact pad hx ih

theorem append_replicate {x : α} (hx : p x) (xs : List α) (n : ℕ) :
    Padded p xs (xs ++ List.replicate n x) := by
  have hboth := append (refl xs) (replicate hx n)
  rwa [List.append_nil] at hboth

theorem replicate_append {x : α} (hx : p x) (n : ℕ) (xs : List α) :
    Padded p xs (List.replicate n x ++ xs) := append (replicate hx n) (refl xs)

theorem length_le {xs ys : List α} (h : Padded p xs ys) : xs.length ≤ ys.length := by
  induction h with
  | nil => exact Nat.le_refl _
  | keep x _ ih => exact Nat.succ_le_succ ih
  | pad _ _ ih => exact Nat.le_succ_of_le ih

theorem reverse {xs ys : List α} (h : Padded p xs ys) : Padded p xs.reverse ys.reverse := by
  induction h with
  | nil => exact nil
  | keep x _ ih =>
    rw [List.reverse_cons, List.reverse_cons]
    exact append ih (refl [x])
  | pad hx _ ih =>
    rw [List.reverse_cons]
    have hlast := append ih (pad hx nil)
    rwa [List.append_nil] at hlast

/-- **The end of a padded list** is an end of the list, padded; no more of it is gone. -/
theorem drop {xs ys : List α} (h : Padded p xs ys) (n : ℕ) :
    ∃ i, i ≤ n ∧ i ≤ xs.length ∧ Padded p (xs.drop i) (ys.drop n) := by
  induction h generalizing n with
  | nil => exact ⟨0, Nat.zero_le n, Nat.le_refl 0, by simpa using nil⟩
  | keep x h ih =>
    cases n with
    | zero => exact ⟨0, Nat.le_refl 0, Nat.zero_le _, keep x h⟩
    | succ n =>
      obtain ⟨i, hn, hlength, hdrop⟩ := ih n
      exact ⟨i + 1, Nat.succ_le_succ hn, Nat.succ_le_succ hlength, hdrop⟩
  | pad hx h ih =>
    cases n with
    | zero => exact ⟨0, Nat.le_refl 0, Nat.zero_le _, pad hx h⟩
    | succ n =>
      obtain ⟨i, hn, hlength, hdrop⟩ := ih n
      exact ⟨i, Nat.le_succ_of_le hn, hlength, hdrop⟩

/-- **Padding that counts nothing** leaves a sum alone. -/
theorem sum_map_eq {M : Type*} [AddMonoid M] {f : α → M} (hf : ∀ x, p x → f x = 0)
    {xs ys : List α} (h : Padded p xs ys) : (ys.map f).sum = (xs.map f).sum := by
  induction h with
  | nil => rfl
  | keep x _ ih => rw [List.map_cons, List.map_cons, List.sum_cons, List.sum_cons, ih]
  | pad hx _ ih => rw [List.map_cons, List.sum_cons, hf _ hx, zero_add, ih]

/-- **Padding that ends a streak** makes none longer. -/
theorem length_takeWhile_le {q : α → Bool} (hq : ∀ x, p x → q x = false) {xs ys : List α}
    (h : Padded p xs ys) : (ys.takeWhile q).length ≤ (xs.takeWhile q).length := by
  induction h with
  | nil => exact Nat.le_refl _
  | keep x _ ih =>
    rw [List.takeWhile_cons, List.takeWhile_cons]
    cases q x with
    | true => exact Nat.succ_le_succ ih
    | false => exact Nat.le_refl _
  | pad hx _ _ =>
    rw [List.takeWhile_cons, hq _ hx]
    exact Nat.zero_le _

end Padded

/-- A streak of the start of a list is no longer than that of the list. -/
theorem length_takeWhile_prefix_le {q : α → Bool} {xs ys : List α} (h : xs <+: ys) :
    (xs.takeWhile q).length ≤ (ys.takeWhile q).length := by
  obtain ⟨rest, rfl⟩ := h
  induction xs with
  | nil => exact Nat.zero_le _
  | cons x xs ih =>
    rw [List.cons_append, List.takeWhile_cons, List.takeWhile_cons]
    cases q x with
    | true => exact Nat.succ_le_succ ih
    | false => exact Nat.le_refl _

end Padding

/-! ## The next element -/

section Lookahead

variable {α : Type*}

/-- Every element with the one after it. -/
def withNext : List α → List (α × Option α)
  | [] => []
  | x :: xs => (x, xs.head?) :: withNext xs

@[simp] theorem map_fst_withNext (xs : List α) : (withNext xs).map Prod.fst = xs := by
  induction xs with
  | nil => rfl
  | cons x xs ih => rw [withNext, List.map_cons, ih]

@[simp] theorem length_withNext (xs : List α) : (withNext xs).length = xs.length := by
  rw [← List.length_map Prod.fst, map_fst_withNext]

/-- The pair of an element that stands in the list. -/
theorem withNext_eq_append {xs ys : List α} {x : α} :
    withNext (xs ++ x :: ys) = (withNext (xs ++ [x])).take xs.length ++ withNext (x :: ys) := by
  induction xs with
  | nil => rfl
  | cons z xs ih =>
    rw [List.cons_append, List.cons_append, withNext, withNext, List.length_cons,
      List.take_succ_cons, List.cons_append, ih]
    cases xs <;> rfl

/-- A pair reads an element of the list, and a next one from its tail. -/
theorem mem_withNext {xs : List α} {item : α × Option α} (h : item ∈ withNext xs) :
    item.1 ∈ xs ∧ ∀ y, item.2 = some y → y ∈ xs.tail := by
  induction xs with
  | nil => cases h
  | cons x xs ih =>
    rcases List.mem_cons.mp h with heq | htail
    · rw [heq]
      exact ⟨List.mem_cons_self, fun y hy => List.mem_of_head? hy⟩
    · obtain ⟨hmem, hnext⟩ := ih htail
      exact ⟨List.mem_cons_of_mem x hmem, fun y hy => List.mem_of_mem_tail (hnext y hy)⟩

end Lookahead

end AutoCoinBot.Library
