/-
  Library.Averages — figures that summarize a list of numbers, and what more numbers
  do to them.

  A mean, a share of successes and a smallest number are zero when there is nothing to summarize.
-/
import Mathlib

namespace AutoCoinBot.Library

variable {K : Type*} [Field K] [LinearOrder K] [IsStrictOrderedRing K]

/-! ## Means -/

/-- The mean of some numbers. -/
def mean (l : List K) : K := if l.isEmpty then 0 else l.sum / l.length

/-- The later numbers have the mean of the earlier ones, if there are any later ones. -/
def MeanAlike (early late : List K) : Prop :=
  late = [] ∨ (early ≠ [] ∧ late.sum * early.length = early.sum * late.length)

omit [LinearOrder K] [IsStrictOrderedRing K] in
theorem mean_of_ne_nil {l : List K} (h : l ≠ []) : mean l = l.sum / l.length := by
  unfold mean
  rw [if_neg (fun hempty => h (List.isEmpty_iff.mp hempty))]

/-- **When later numbers leave a mean as it was**, where numbers that cancel out are none. -/
theorem mean_append_iff {early late : List K} (hlate : late.sum = 0 → late = []) :
    mean (early ++ late) = mean early ↔ MeanAlike early late := by
  unfold MeanAlike
  by_cases hnone : late = []
  · simp [hnone]
  have hpos : (0 : K) < late.length := by
    have hlength := List.length_pos_of_ne_nil hnone
    exact_mod_cast hlength
  have happend : early ++ late ≠ [] := List.append_ne_nil_of_right_ne_nil _ hnone
  rw [mean_of_ne_nil happend, or_iff_right hnone]
  by_cases hearly : early = []
  · -- the first numbers have a mean of their own
    rw [hearly, List.nil_append]
    refine iff_of_false (fun h => ?_) (fun h => h.1 rfl)
    have hzero : late.sum / late.length = 0 := h
    exact hnone (hlate ((div_eq_zero_iff.mp hzero).resolve_right hpos.ne'))
  · have hpos' : (0 : K) < early.length := by
      have hlength := List.length_pos_of_ne_nil hearly
      exact_mod_cast hlength
    rw [mean_of_ne_nil hearly, List.sum_append, List.length_append, Nat.cast_add,
      div_eq_div_iff (add_pos hpos' hpos).ne' hpos'.ne']
    constructor
    · intro h
      exact ⟨hearly, by linarith⟩
    · rintro ⟨-, h⟩
      linarith

/-! ## Shares -/

/-- The share of successes. -/
def share (successes failures : ℕ) : K :=
  if successes + failures = 0 then 0 else (successes : K) / (successes + failures : ℕ)

/-- **When later outcomes leave a share as it was**, where a first success comes early. -/
theorem share_add_iff {w l w' l' : ℕ} (hfirst : w' = 0 ∨ w ≠ 0) :
    (share (w + w') (l + l') : K) = share w l ↔ w * l' = w' * l := by
  unfold share
  by_cases hnone : w + l = 0
  · obtain ⟨rfl, rfl⟩ := Nat.add_eq_zero_iff.mp hnone
    obtain rfl : w' = 0 := hfirst.resolve_right (fun h => h rfl)
    simp
  · have hpos : (0 : K) < (w + l : ℕ) := by exact_mod_cast Nat.pos_of_ne_zero hnone
    have hall : w + w' + (l + l') ≠ 0 := by omega
    have hpos' : (0 : K) < (w + w' + (l + l') : ℕ) := by exact_mod_cast Nat.pos_of_ne_zero hall
    rw [if_neg hnone, if_neg hall, div_eq_div_iff hpos'.ne' hpos.ne']
    constructor
    · intro h
      have hnat : (w + w') * (w + l) = w * (w + w' + (l + l')) := by exact_mod_cast h
      nlinarith
    · intro h
      have hnat : (w + w') * (w + l) = w * (w + w' + (l + l')) := by nlinarith
      exact_mod_cast hnat

/-! ## Smallest numbers -/

/-- The smallest of some numbers. -/
def smallest (l : List K) : K := l.min?.getD 0

/-- No later number goes below the earlier ones. -/
def StaysAbove (early late : List K) : Prop := ∀ x ∈ late, ∃ y ∈ early, y ≤ x

omit [IsStrictOrderedRing K] in
theorem smallest_eq_iff {l : List K} (hl : l ≠ []) {x : K} :
    smallest l = x ↔ x ∈ l ∧ ∀ y ∈ l, x ≤ y := by
  unfold smallest
  cases hmin : l.min? with
  | none => exact absurd (List.min?_eq_none_iff.mp hmin) hl
  | some m =>
    obtain ⟨hmem, hle⟩ := List.min?_eq_some_iff.mp hmin
    rw [Option.getD_some]
    constructor
    · rintro rfl
      exact ⟨hmem, hle⟩
    · rintro ⟨hmem', hle'⟩
      exact le_antisymm (hle x hmem') (hle' m hmem)

omit [IsStrictOrderedRing K] in
/-- **When later negative numbers leave the smallest one as it was.** -/
theorem smallest_append_iff {early late : List K} (hneg : ∀ x ∈ late, x < 0) :
    smallest (early ++ late) = smallest early ↔ StaysAbove early late := by
  by_cases hearly : early = []
  · subst hearly
    rw [List.nil_append]
    cases late with
    | nil => simp [StaysAbove]
    | cons x late =>
      refine iff_of_false (fun h => ?_) (fun h => ?_)
      · obtain ⟨hmem, -⟩ := (smallest_eq_iff (List.cons_ne_nil x late)).mp h
        exact lt_irrefl (0 : K) (hneg _ hmem)
      · obtain ⟨y, hy, -⟩ := h x List.mem_cons_self
        exact absurd hy List.not_mem_nil
  · obtain ⟨hmem, hle⟩ := (smallest_eq_iff hearly).mp rfl
    rw [smallest_eq_iff (List.append_ne_nil_of_left_ne_nil hearly late)]
    constructor
    · rintro ⟨-, h⟩ x hx
      exact ⟨smallest early, hmem, h x (List.mem_append_right _ hx)⟩
    · intro h
      refine ⟨List.mem_append_left _ hmem, fun x hx => ?_⟩
      rcases List.mem_append.mp hx with hx | hx
      · exact hle x hx
      · obtain ⟨y, hy, hyx⟩ := h x hx
        exact (hle y hy).trans hyx

end AutoCoinBot.Library
