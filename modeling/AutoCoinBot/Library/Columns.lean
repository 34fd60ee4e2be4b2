/-
  Library.Columns — column operators, and how far each row of them looks back.

  An operator makes a column of another one, row by row. If a row reads nothing but its own row
  and the `m` before it, then what is appended changes no row that is there, and what is cut off
  at the front changes none but the first `m`.
-/
import Mathlib

namespace AutoCoinBot.Library

variable {α β γ δ : Type*}

/-! ## Operators -/

/-- A column whose rows are computed each by its number. -/
def rowwise (g : List α → ℕ → β) (xs : List α) : List β := (List.range xs.length).map (g xs)

/-- `xs.shift(k)` -/
def shift (k : ℕ) (pad : α) (xs : List α) : List α :=
  (List.replicate k pad ++ xs).take xs.length

/-- `xs.rolling(w)`, where `f` makes of each full window what stands in its last row. -/
def rolling (w : ℕ) (pad : β) (f : List α → β) : List α → List β :=
  rowwise (fun xs t => if w = 0 ∨ t + 1 < w then pad else f ((xs.drop (t + 1 - w)).take w))

/-- A row of a shifted column. -/
theorem getElem?_shift (k : ℕ) (pad : α) {xs : List α} {t : ℕ} (ht : t < xs.length) :
    (shift k pad xs)[t]? = if t < k then some pad else xs[t - k]? := by
  unfold shift
  rw [List.getElem?_take_of_lt ht, List.getElem?_append, List.length_replicate]
  split_ifs with hpad
  · rw [List.getElem?_replicate, if_pos hpad]
  · rfl

/-- A row of a column of windows. -/
theorem getElem?_rolling (w : ℕ) (pad : β) (f : List α → β) {xs : List α} {t : ℕ}
    (ht : t < xs.length) :
    (rolling w pad f xs)[t]?
      = some (if w = 0 ∨ t + 1 < w then pad else f ((xs.drop (t + 1 - w)).take w)) := by
  unfold rolling rowwise
  rw [List.getElem?_map, List.getElem?_range ht, Option.map_some]

/-- Each row reads its own row and the `m` before it. -/
structure LooksBack (m : ℕ) (op : List α → List β) : Prop where
  length : ∀ xs, (op xs).length = xs.length
  take : ∀ xs n, op (xs.take n) = (op xs).take n
  drop : ∀ xs k, (op (xs.drop k)).drop m = (op xs).drop (k + m)

/-! ## How far operators look back -/

section Operators

variable {m n : ℕ} {op : List α → List β} {op' : List α → List γ}

/-- **An operator by rows** looks back as far as its rows do. -/
theorem looksBack_rowwise {g : List α → ℕ → β}
    (htake : ∀ xs n t, t < n → t < xs.length → g (xs.take n) t = g xs t)
    (hdrop : ∀ xs k t, m ≤ t → k + t < xs.length → g (xs.drop k) t = g xs (k + t)) :
    LooksBack m (rowwise g) where
  length := by
    intro xs
    unfold rowwise
    rw [List.length_map, List.length_range]
  take := by
    intro xs n
    unfold rowwise
    rw [← List.map_take, List.length_take, List.take_range]
    refine List.map_congr_left (fun t ht => ?_)
    obtain ⟨hn, hlength⟩ := Nat.lt_min.mp (List.mem_range.mp ht)
    exact htake xs n t hn hlength
  drop := by
    intro xs k
    refine List.ext_getElem? (fun t => ?_)
    unfold rowwise
    rw [List.getElem?_drop, List.getElem?_drop, List.getElem?_map, List.getElem?_map]
    by_cases hlength : k + m + t < xs.length
    · rw [List.getElem?_range (by rw [List.length_drop]; omega), List.getElem?_range hlength,
        Option.map_some, Option.map_some, hdrop xs k (m + t) (Nat.le_add_right m t) (by omega),
        Nat.add_assoc]
    · rw [List.getElem?_eq_none (by rw [List.length_range, List.length_drop]; omega),
        List.getElem?_eq_none (by rw [List.length_range]; omega)]
      rfl

theorem looksBack_shift (k : ℕ) (pad : α) : LooksBack k (shift k pad) where
  length := by
    intro xs
    unfold shift
    rw [List.length_take, List.length_append, min_eq_left (Nat.le_add_left _ _)]
  take := by
    intro xs n
    unfold shift
    rw [List.take_take, List.length_take, List.take_append, List.take_append, List.take_take]
    congr 2
    omega
  drop := by
    intro xs j
    have hlength : (List.replicate k pad).length = k := List.length_replicate
    have hpad : (List.replicate k pad).drop (j + k) = [] :=
      List.drop_eq_nil_of_le (by rw [hlength]; exact Nat.le_add_left k j)
    unfold shift
    rw [List.drop_take, List.drop_take, List.drop_left' hlength, List.drop_append, hlength, hpad,
      List.nil_append, Nat.add_sub_cancel, List.length_drop, Nat.sub_sub]

theorem looksBack_rolling (w : ℕ) (pad : β) (f : List α → β) :
    LooksBack (w - 1) (rolling w pad f) := by
  refine looksBack_rowwise ?_ ?_
  · intro xs n t hn hlength
    split_ifs
    · rfl
    · rw [List.drop_take, List.take_take, min_eq_left (by omega)]
  · intro xs k t hw hlength
    by_cases hempty : w = 0
    · rw [if_pos (.inl hempty), if_pos (.inl hempty)]
    · rw [if_neg (by omega), if_neg (by omega), List.drop_drop]
      congr 3
      omega

theorem looksBack_id : LooksBack 0 (fun xs : List α => xs) where
  length := fun _ => rfl
  take := fun _ _ => rfl
  drop := fun xs k => by rw [List.drop_zero, Nat.add_zero]

/-- What looks back that far looks back no farther than this. -/
theorem LooksBack.mono (h : LooksBack m op) (hmn : m ≤ n) : LooksBack n op where
  length := h.length
  take := h.take
  drop := by
    intro xs k
    rw [← Nat.sub_add_cancel hmn, Nat.add_comm (n - m) m, ← List.drop_drop, h.drop, List.drop_drop]
    congr 1
    omega

theorem LooksBack.map (h : LooksBack m op) (f : β → γ) : LooksBack m (fun xs => (op xs).map f) where
  length := fun xs => by rw [List.length_map, h.length]
  take := fun xs n => by rw [h.take, List.map_take]
  drop := fun xs k => by rw [← List.map_drop, h.drop, List.map_drop]

/-- **Columns side by side.** -/
theorem LooksBack.zipWith (h : LooksBack m op) (h' : LooksBack m op') (f : β → γ → δ) :
    LooksBack m (fun xs => List.zipWith f (op xs) (op' xs)) where
  length := fun xs => by rw [List.length_zipWith, h.length, h'.length, Nat.min_self]
  take := fun xs n => by rw [h.take, h'.take, List.take_zipWith]
  drop := fun xs k => by rw [List.drop_zipWith, h.drop, h'.drop, List.drop_zipWith]

/-- **An operator on what another one made.** -/
theorem LooksBack.comp {op' : List β → List γ} (h' : LooksBack n op') (h : LooksBack m op) :
    LooksBack (m + n) (fun xs => op' (op xs)) where
  length := fun xs => by rw [h'.length, h.length]
  take := fun xs j => by rw [h.take, h'.take]
  drop := by
    intro xs k
    rw [← h'.drop, h.drop, h'.drop, Nat.add_assoc]

end Operators

/-! ## Longer and shorter columns -/

section Parts

variable {m : ℕ} {op : List α → List β}

/-- **What is appended changes no earlier row.** -/
theorem LooksBack.take_append (h : LooksBack m op) (xs ys : List α) :
    (op (xs ++ ys)).take xs.length = op xs := by
  rw [← h.take, List.take_left]

/-- **What is cut off at the front does not change the last row**, if enough is left. -/
theorem LooksBack.getLast?_drop (h : LooksBack m op) {xs : List α} {k : ℕ}
    (hlong : k + m < xs.length) : (op (xs.drop k)).getLast? = (op xs).getLast? := by
  have hcut : ∀ {zs : List β} {j : ℕ}, j < zs.length → (zs.drop j).getLast? = zs.getLast? := by
    intro zs j hj
    rw [List.getLast?_drop, if_neg (by omega)]
  rw [← hcut (j := m) (by rw [h.length, List.length_drop]; omega), h.drop,
    hcut (by rw [h.length]; exact hlong)]

end Parts

end AutoCoinBot.Library
