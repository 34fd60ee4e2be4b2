/-
  Library.Aggregate — sums over the rows of a table and what they see.

  A `SUM(CASE WHEN p THEN v ELSE 0 END)` splits along any condition. Two tables that
  agree on the rows meeting the condition differ in the sum exactly as they differ in
  the other rows: the rows the condition leaves out are seen as far as their values
  do not cancel.
-/
import Mathlib

namespace AutoCoinBot.Library

variable {ρ M : Type*}

/-! ## Sums -/

section Sums

variable [AddCommMonoid M]

/-- `SUM(CASE WHEN p THEN v ELSE 0 END)`. -/
def sumWhere (rows : List ρ) (p : ρ → Bool) (v : ρ → M) : M :=
  (rows.map (fun r => if p r then v r else 0)).sum

@[simp] theorem sumWhere_nil (p : ρ → Bool) (v : ρ → M) : sumWhere [] p v = 0 := rfl

@[simp] theorem sumWhere_cons (r : ρ) (rows : List ρ) (p : ρ → Bool) (v : ρ → M) :
    sumWhere (r :: rows) p v = (if p r then v r else 0) + sumWhere rows p v := rfl

theorem sumWhere_append (rows rows' : List ρ) (p : ρ → Bool) (v : ρ → M) :
    sumWhere (rows ++ rows') p v = sumWhere rows p v + sumWhere rows' p v := by
  unfold sumWhere
  rw [List.map_append, List.sum_append]

/-- The order of the rows does not matter. -/
theorem sumWhere_perm {rows rows' : List ρ} (h : rows.Perm rows') (p : ρ → Bool) (v : ρ → M) :
    sumWhere rows p v = sumWhere rows' p v := (h.map _).sum_eq

/-- Filtering first is adding the condition. -/
theorem sumWhere_filter (rows : List ρ) (p q : ρ → Bool) (v : ρ → M) :
    sumWhere (rows.filter q) p v = sumWhere rows (fun r => q r && p r) v := by
  induction rows with
  | nil => rfl
  | cons r rows ih =>
    by_cases hq : q r = true
    · simp [hq, ih]
    · simp [hq, ih]

/-- `SUM` over the rows that were filtered. -/
theorem sum_filter_map (rows : List ρ) (p : ρ → Bool) (v : ρ → M) :
    ((rows.filter p).map v).sum = sumWhere rows p v := by
  have h := sumWhere_filter rows (fun _ => true) p v
  simpa [sumWhere] using h

/-- `COUNT` is a sum of ones. -/
theorem sumWhere_one (rows : List ρ) (p : ρ → Bool) :
    sumWhere rows p (fun _ => 1) = rows.countP p := by
  induction rows with
  | nil => rfl
  | cons r rows ih =>
    rw [sumWhere_cons, List.countP_cons, ih, Nat.add_comm]

/-- **A sum splits along a condition.** -/
theorem sumWhere_split (rows : List ρ) (p q : ρ → Bool) (v : ρ → M) :
    sumWhere rows p v
      = sumWhere (rows.filter q) p v + sumWhere (rows.filter (fun r => !q r)) p v := by
  rw [← sumWhere_append]
  exact sumWhere_perm (List.filter_append_perm q rows).symm p v

end Sums

/-! ## Two tables -/

/-- Two tables that agree inside a condition agree there after any selection. -/
theorem perm_filter_select {rows rows' : List ρ} {q : ρ → Bool}
    (h : (rows.filter q).Perm (rows'.filter q)) (p : ρ → Bool) :
    ((rows.filter p).filter q).Perm ((rows'.filter p).filter q) := by
  rw [List.filter_comm, List.filter_comm (l := rows')]
  exact h.filter p

/-- **What a sum sees of the rows outside a condition.** -/
theorem sumWhere_agree_iff [AddCommGroup M] {rows rows' : List ρ} {q : ρ → Bool}
    (h : (rows.filter q).Perm (rows'.filter q)) (p : ρ → Bool) (v : ρ → M) :
    sumWhere rows p v = sumWhere rows' p v
      ↔ sumWhere (rows.filter (fun r => !q r)) p v
          = sumWhere (rows'.filter (fun r => !q r)) p v := by
  rw [sumWhere_split rows p q v, sumWhere_split rows' p q v, sumWhere_perm h p v]
  exact add_right_inj _

/-! ## Sums over distinct keys -/

/-- **A sum over distinct keys after one of them got a new value.** -/
theorem sum_map_update {κ : Type*} [DecidableEq κ] [AddCommGroup M] {keys : List κ}
    (hnodup : keys.Nodup) {k : κ} (hk : k ∈ keys) (f : κ → ρ) (x : ρ) (g : ρ → M) :
    (keys.map (fun j => g (Function.update f k x j))).sum
      = (keys.map (fun j => g (f j))).sum + (g x - g (f k)) := by
  induction keys with
  | nil => cases hk
  | cons j keys ih =>
    obtain ⟨hnot, htail⟩ := List.nodup_cons.mp hnodup
    simp only [List.map_cons, List.sum_cons]
    by_cases hj : j = k
    · -- the key stands here and nowhere else
      subst hj
      have hrest : keys.map (fun i => g (Function.update f j x i))
          = keys.map (fun i => g (f i)) := by
        refine List.map_congr_left (fun i hi => ?_)
        rw [Function.update_of_ne (fun h : i = j => hnot (h ▸ hi))]
      rw [hrest, Function.update_self]
      abel
    · have hk' : k ∈ keys := (List.mem_cons.mp hk).resolve_left (Ne.symm hj)
      rw [ih htail hk', Function.update_of_ne hj]
      abel

/-- **A sum over rows after the row of one key was rewritten.** -/
theorem sum_rewrite_key {κ : Type*} [DecidableEq κ] [AddCommGroup M] {key : ρ → κ} {rows : List ρ}
    (hnodup : (rows.map key).Nodup) (k : κ) (f : ρ → ρ) (g : ρ → M) :
    ((rows.map (fun r => if key r == k then f r else r)).map g).sum
      = (rows.map g).sum
        + (rows.find? (fun r => key r == k)).elim 0 (fun r => g (f r) - g r) := by
  induction rows with
  | nil => simp
  | cons r rows ih =>
    obtain ⟨hnot, htail⟩ := List.nodup_cons.mp hnodup
    by_cases hr : key r = k
    · -- the key stands here and nowhere else
      have hrest : rows.map (fun q => if key q == k then f q else q) = rows := by
        refine (List.map_congr_left fun q hq => ?_).trans (List.map_id _)
        have hq' : key q ≠ k := fun h => hnot (hr.trans h.symm ▸ List.mem_map_of_mem hq)
        rw [if_neg (by simpa using hq')]
        rfl
      simp only [List.map_cons, List.sum_cons, List.find?_cons, hr, beq_self_eq_true, if_true,
        hrest, Option.elim_some]
      abel
    · simp only [List.map_cons, List.sum_cons, List.find?_cons, beq_eq_false_iff_ne.mpr hr,
        Bool.false_eq_true, if_false, ih htail]
      abel

end AutoCoinBot.Library
