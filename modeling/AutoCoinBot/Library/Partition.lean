/-
  Library.Partition — rows in groups, each group on its own.

  Rows are grouped by a key. Sorting commutes with taking a group, a fold that touches one
  group at a time gives each group what the group's own rows give it, and figures that are
  sums over the rows add up over the groups.
-/
import AutoCoinBot.Library.Run

namespace AutoCoinBot.Library

/-! ## Sorting -/

section Sorting

variable {α : Type*} {r : α → α → Prop} [DecidableRel r]

/-- Inserting into a sorted list, seen through a filter. -/
theorem filter_orderedInsert (htrans : ∀ x y z, r x y → r y z → r x z) (p : α → Bool) {x : α}
    {l : List α} (hsorted : l.Pairwise r) :
    (l.orderedInsert r x).filter p
      = if p x then (l.filter p).orderedInsert r x else l.filter p := by
  induction l with
  | nil => cases hp : p x <;> simp [hp]
  | cons y l ih =>
    obtain ⟨hhead, htail⟩ := List.pairwise_cons.mp hsorted
    rw [List.orderedInsert]
    by_cases hxy : r x y
    · rw [if_pos hxy]
      by_cases hp : p x
      · rw [List.filter_cons_of_pos hp, if_pos hp]
        -- whatever the filter leaves comes after `y`, so `x` is inserted at the front
        cases hrest : (y :: l).filter p with
        | nil => rfl
        | cons z zs =>
          have hz : z ∈ y :: l := List.mem_of_mem_filter (hrest ▸ List.mem_cons_self)
          have hxz : r x z := by
            rcases List.mem_cons.mp hz with rfl | hmem
            · exact hxy
            · exact htrans x y z hxy (hhead z hmem)
          rw [List.orderedInsert, if_pos hxz]
      · rw [List.filter_cons_of_neg hp, if_neg hp]
    · rw [if_neg hxy]
      by_cases hy : p y
      · rw [List.filter_cons_of_pos hy, List.filter_cons_of_pos hy, ih htail]
        split
        · rw [List.orderedInsert, if_neg hxy]
        · rfl
      · rw [List.filter_cons_of_neg hy, List.filter_cons_of_neg hy, ih htail]

/-- **A group of the sorted rows is the sorted group.** -/
theorem filter_insertionSort (htrans : ∀ x y z, r x y → r y z → r x z) (htotal : ∀ x y, r x y ∨ r y x)
    (p : α → Bool) (l : List α) :
    (l.insertionSort r).filter p = (l.filter p).insertionSort r := by
  have : IsTrans α r := ⟨htrans⟩
  have : Std.Total r := ⟨htotal⟩
  induction l with
  | nil => rfl
  | cons x l ih =>
    rw [List.insertionSort_cons, filter_orderedInsert htrans p (List.pairwise_insertionSort r l), ih]
    by_cases hp : p x
    · rw [if_pos hp, List.filter_cons_of_pos hp, List.insertionSort_cons]
    · rw [if_neg hp, List.filter_cons_of_neg hp]

end Sorting

/-! ## Folding -/

/-- **A run, and the run over some of the events**: what both kinds of events keep between the
two states holds at the end. -/
theorem run_filter_coupled {σ τ ε : Type*} {step : σ → ε → σ} {step' : τ → ε → τ}
    {R : σ → τ → Prop} {p : ε → Bool}
    (hin : ∀ s t e, p e = true → R s t → R (step s e) (step' t e))
    (hout : ∀ s t e, p e = false → R s t → R (step s e) t) {s : σ} {t : τ} (h0 : R s t)
    (es : List ε) : R (run step s es) (run step' t (es.filter p)) := by
  induction es generalizing s t with
  | nil => exact h0
  | cons e es ih =>
    cases hp : p e with
    | true =>
      rw [List.filter_cons_of_pos hp, run_cons, run_cons]
      exact ih (hin s t e hp h0)
    | false =>
      rw [List.filter_cons_of_neg (by simp [hp]), run_cons]
      exact ih (hout s t e hp h0)

/-! ## Sums -/

section Sums

variable {α κ M : Type*} [DecidableEq κ] [AddCommMonoid M]

/-- One element counts in its own group. -/
theorem sum_map_ite_key {keys : List κ} (hnodup : keys.Nodup) {k : κ} (hk : k ∈ keys) (x : M) :
    (keys.map (fun j => if k = j then x else 0)).sum = x := by
  induction keys with
  | nil => cases hk
  | cons j keys ih =>
    obtain ⟨hnot, htail⟩ := List.nodup_cons.mp hnodup
    rw [List.map_cons, List.sum_cons]
    by_cases hj : k = j
    · have hrest : keys.map (fun i => if k = i then x else 0) = keys.map (fun _ => 0) :=
        List.map_congr_left (fun i hi => if_neg (fun h : k = i => hnot (hj ▸ h.symm ▸ hi)))
      rw [if_pos hj, hrest, List.sum_map_zero, add_zero]
    · rw [if_neg hj, zero_add, ih htail ((List.mem_cons.mp hk).resolve_left hj)]

/-- **A sum over the rows, group by group.** -/
theorem sum_map_groups {keys : List κ} (hnodup : keys.Nodup) (key : α → κ) {l : List α}
    (hcover : ∀ x ∈ l, key x ∈ keys) (g : α → M) :
    (keys.map (fun k => ((l.filter (fun x => key x = k)).map g).sum)).sum = (l.map g).sum := by
  induction l with
  | nil => simp
  | cons x l ih =>
    have hsplit : ∀ k, (((x :: l).filter (fun y => key y = k)).map g).sum
        = (if key x = k then g x else 0) + ((l.filter (fun y => key y = k)).map g).sum := by
      intro k
      by_cases hk : key x = k
      · rw [List.filter_cons_of_pos (by simp [hk]), if_pos hk]
        rfl
      · rw [List.filter_cons_of_neg (by simp [hk]), if_neg hk, zero_add]
    have hhead := hcover x List.mem_cons_self
    have htail := ih (fun y hy => hcover y (List.mem_cons_of_mem x hy))
    rw [List.map_congr_left (fun k _ => hsplit k), List.sum_map_add, sum_map_ite_key hnodup hhead,
      htail]
    rfl

end Sums

end AutoCoinBot.Library
