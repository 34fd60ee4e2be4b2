/-
  Library.Rounding — rounding to a grid.

  A value is rounded to the nearest of the points `n / scale`, halves to the even one, or down
  to a multiple of a unit. Where the unit grows with the value, the bands fit together if each
  starts at a point that its own rounding leaves alone.
-/
import Mathlib

namespace AutoCoinBot.Library

open Set

/-! ## The nearest point -/

section Nearest

variable {α : Type*} [Field α] [LinearOrder α] [FloorRing α]

/-- The nearest integer; halves go to the even neighbour. -/
def nearestEven (x : α) : ℤ :=
  let below := ⌊x⌋
  let rest := x - below
  if rest < 1 / 2 ∨ (rest = 1 / 2 ∧ below % 2 = 0) then below else below + 1

/-- The nearest of the points `n / scale`. -/
def nearestAt (scale x : α) : α := nearestEven (x * scale) / scale

theorem nearestEven_mem (x : α) : nearestEven x = ⌊x⌋ ∨ nearestEven x = ⌊x⌋ + 1 := by
  unfold nearestEven
  dsimp only
  split
  · exact .inl rfl
  · exact .inr rfl

variable [IsStrictOrderedRing α]

@[simp] theorem nearestEven_intCast (n : ℤ) : nearestEven (n : α) = n := by
  unfold nearestEven
  dsimp only
  rw [Int.floor_intCast, sub_self, if_pos (.inl (by norm_num))]

/-- Rounding to the nearest integer keeps the order. -/
theorem nearestEven_mono : Monotone (nearestEven : α → ℤ) := by
  intro x y hxy
  rcases (Int.floor_le_floor hxy).lt_or_eq with hlt | heq
  · -- the next integer above the one is at most the one below the other
    rcases nearestEven_mem x with hx | hx <;> rcases nearestEven_mem y with hy | hy <;> omega
  · have hrest : x - ⌊y⌋ ≤ y - ⌊y⌋ := sub_le_sub_right hxy _
    unfold nearestEven
    dsimp only
    rw [heq]
    by_cases hdown : y - ⌊y⌋ < 1 / 2 ∨ (y - ⌊y⌋ = 1 / 2 ∧ ⌊y⌋ % 2 = 0)
    · have hdown' : x - ⌊y⌋ < 1 / 2 ∨ (x - ⌊y⌋ = 1 / 2 ∧ ⌊y⌋ % 2 = 0) := by
        rcases hdown with hless | ⟨hhalf, heven⟩
        · exact .inl (hrest.trans_lt hless)
        · rcases (hrest.trans hhalf.le).lt_or_eq with hless | hsame
          · exact .inl hless
          · exact .inr ⟨hsame, heven⟩
      rw [if_pos hdown, if_pos hdown']
    · rw [if_neg hdown]
      split <;> omega

theorem nearestAt_mono {scale : α} (hscale : 0 < scale) : Monotone (nearestAt scale) := by
  intro x y hxy
  refine div_le_div_of_nonneg_right (Int.cast_le.mpr (nearestEven_mono ?_)) hscale.le
  exact mul_le_mul_of_nonneg_right hxy hscale.le

/-- A whole number that is a point of the grid stays where it is. -/
theorem nearestAt_intCast {scale : ℤ} (hscale : 0 < scale) (n : ℤ) :
    nearestAt (scale : α) n = n := by
  have hne : (scale : α) ≠ 0 := Int.cast_ne_zero.mpr hscale.ne'
  unfold nearestAt
  rw [← Int.cast_mul, nearestEven_intCast, Int.cast_mul, mul_div_cancel_right₀ _ hne]

/-- What is rounded is a point, and stays where it is. -/
theorem nearestAt_nearestAt {scale : α} (hscale : 0 < scale) (x : α) :
    nearestAt scale (nearestAt scale x) = nearestAt scale x := by
  unfold nearestAt
  rw [div_mul_cancel₀ _ hscale.ne', nearestEven_intCast]

/-- A value that lies between two whole numbers is rounded between them. -/
theorem nearestAt_mem_Icc {scale : ℤ} (hscale : 0 < scale) {x : α} {m n : ℤ}
    (hx : x ∈ Icc (m : α) n) : nearestAt (scale : α) x ∈ Icc (m : α) n := by
  have hmono : Monotone (nearestAt (scale : α)) := nearestAt_mono (Int.cast_pos.mpr hscale)
  constructor
  · calc (m : α) = nearestAt (scale : α) m := (nearestAt_intCast hscale m).symm
      _ ≤ nearestAt (scale : α) x := hmono hx.1
  · calc nearestAt (scale : α) x ≤ nearestAt (scale : α) n := hmono hx.2
      _ = n := nearestAt_intCast hscale n

end Nearest

/-! ## Rounding down -/

/-- `f` rounds the values of `s` down: it keeps their order, and what it has rounded it leaves
alone. -/
structure RoundsDown {α : Type*} [Preorder α] (s : Set α) (f : α → α) : Prop where
  mapsTo : MapsTo f s s
  le : ∀ x ∈ s, f x ≤ x
  mono : MonotoneOn f s
  fixed : ∀ x ∈ s, f (f x) = f x

theorem RoundsDown.congr {α : Type*} [Preorder α] {s : Set α} {f g : α → α} (hf : RoundsDown s f)
    (hfg : ∀ x ∈ s, g x = f x) : RoundsDown s g where
  mapsTo := fun x hx => (hfg x hx).symm ▸ hf.mapsTo hx
  le := fun x hx => (hfg x hx).trans_le (hf.le x hx)
  mono := by
    intro x hx y hy hxy
    rw [hfg x hx, hfg y hy]
    exact hf.mono hx hy hxy
  fixed := by
    intro x hx
    rw [hfg x hx, hfg (f x) (hf.mapsTo hx)]
    exact hf.fixed x hx

/-- **Bands fit together**: from `b` on another rounding may be used, if it leaves `b` alone. -/
theorem RoundsDown.bands {α : Type*} [LinearOrder α] {s : Set α} {f g : α → α} {b : α}
    (hg : RoundsDown s g) (hf : RoundsDown s f) (hbs : b ∈ s) (hb : g b = b) :
    RoundsDown s (fun x => if b ≤ x then g x else f x) where
  mapsTo := by
    intro x hx
    show (if b ≤ x then g x else f x) ∈ s
    split
    · exact hg.mapsTo hx
    · exact hf.mapsTo hx
  le := by
    intro x hx
    show (if b ≤ x then g x else f x) ≤ x
    split
    · exact hg.le x hx
    · exact hf.le x hx
  mono := by
    intro x hx y hy hxy
    show (if b ≤ x then g x else f x) ≤ if b ≤ y then g y else f y
    by_cases hbx : b ≤ x
    · rw [if_pos hbx, if_pos (hbx.trans hxy)]
      exact hg.mono hx hy hxy
    · rw [if_neg hbx]
      by_cases hby : b ≤ y
      · rw [if_pos hby]
        -- the border stands between the two
        calc f x ≤ x := hf.le x hx
          _ ≤ b := (not_le.mp hbx).le
          _ = g b := hb.symm
          _ ≤ g y := hg.mono hbs hy hby
      · rw [if_neg hby]
        exact hf.mono hx hy hxy
  fixed := by
    intro x hx
    by_cases hbx : b ≤ x
    · have hbg : b ≤ g x := hb.symm.le.trans (hg.mono hbs hx hbx)
      rw [if_pos hbx, if_pos hbg]
      exact hg.fixed x hx
    · have hbf : ¬ b ≤ f x := fun h => hbx (h.trans (hf.le x hx))
      rw [if_neg hbx, if_neg hbf]
      exact hf.fixed x hx

section Multiples

variable {α : Type*} [Field α] [LinearOrder α] [IsStrictOrderedRing α] [FloorRing α]

/-- The largest multiple of the unit that is not above. -/
def floorTo (unit x : α) : α := ⌊x / unit⌋ * unit

/-- Multiples of the unit stay where they are. -/
theorem floorTo_mul {unit : α} (hunit : 0 < unit) (n : ℤ) : floorTo unit (n * unit) = n * unit := by
  unfold floorTo
  rw [mul_div_cancel_right₀ _ hunit.ne', Int.floor_intCast]

/-- **Rounding down to multiples of a unit.** -/
theorem floorTo_roundsDown {unit : α} (hunit : 0 < unit) : RoundsDown (Ici 0) (floorTo unit) where
  mapsTo := by
    intro x hx
    have hfloor : (0 : ℤ) ≤ ⌊x / unit⌋ := Int.floor_nonneg.mpr (div_nonneg hx hunit.le)
    exact mul_nonneg (Int.cast_nonneg hfloor) hunit.le
  le := fun x _ => (le_div_iff₀ hunit).mp (Int.floor_le (x / unit))
  mono := by
    intro x _ y _ hxy
    have hquotient : x / unit ≤ y / unit := div_le_div_of_nonneg_right hxy hunit.le
    exact mul_le_mul_of_nonneg_right (Int.cast_le.mpr (Int.floor_le_floor hquotient)) hunit.le
  fixed := fun x _ => floorTo_mul hunit ⌊x / unit⌋

/-- What lies below one unit is rounded down to nothing, and nothing else is. -/
theorem floorTo_pos_iff {unit x : α} (hunit : 0 < unit) : 0 < floorTo unit x ↔ unit ≤ x := by
  have hfloor : (0 : α) < ⌊x / unit⌋ ↔ (1 : ℤ) ≤ ⌊x / unit⌋ := by
    rw [Int.cast_pos]
    exact Iff.rfl
  unfold floorTo
  rw [mul_pos_iff_of_pos_right hunit, hfloor, Int.le_floor, Int.cast_one, one_le_div hunit]

end Multiples

end AutoCoinBot.Library
