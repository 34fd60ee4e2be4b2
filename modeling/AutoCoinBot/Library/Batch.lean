/-
  Library.Batch — a list of items worked off against a state.

  A batch folds a step over its items. What no step touches stays; where every step
  rewrites the row under a key in a way that depends on the item and that row only, the
  batch does too, whatever else its steps read and write.

  Two tables are related if they store rows under the same keys, and the row of the one is
  related to the row of the other. A relation that says what an operation can make of a
  row says it of a batch and of a chain of operations too.
-/
import AutoCoinBot.Library.Table

namespace AutoCoinBot.Library

/-! ## Batches -/

section Folds

variable {δ α β γ : Type*}

/-- What no step changes, the batch does not. -/
theorem foldl_frame (view : δ → γ) {step : δ → α → δ} (h : ∀ d x, view (step d x) = view d)
    (xs : List α) (d : δ) : view (xs.foldl step d) = view d := by
  induction xs generalizing d with
  | nil => rfl
  | cons x xs ih => exact (ih (step d x)).trans (h d x)

/-- What every step on one of the items keeps, the batch keeps. -/
theorem foldl_invariant {P : δ → Prop} {step : δ → α → δ} {xs : List α}
    (h : ∀ d, ∀ x ∈ xs, P d → P (step d x)) {d : δ} (hd : P d) : P (xs.foldl step d) := by
  induction xs generalizing d with
  | nil => exact hd
  | cons x xs ih =>
    have hhead : P (step d x) := h d x List.mem_cons_self hd
    exact ih (fun d' x' hx' => h d' x' (List.mem_cons_of_mem x hx')) hhead

/-- What a step brings about, and no step undoes, holds after a batch if an item brings it. -/
theorem foldl_iff_or {Q : δ → Prop} {p : α → Prop} {step : δ → α → δ}
    (h : ∀ d x, Q (step d x) ↔ Q d ∨ p x) (xs : List α) (d : δ) :
    Q (xs.foldl step d) ↔ Q d ∨ ∃ x ∈ xs, p x := by
  induction xs generalizing d with
  | nil => simp
  | cons x xs ih =>
    rw [List.foldl_cons, ih (step d x), h d x, or_assoc]
    refine or_congr_right ?_
    simp

/-- **A row after a batch** is the row before, rewritten item by item. -/
theorem get?_foldl {ρ : Type*} [Row ρ] (view : δ → Table ρ) {step : δ → α → δ} {k : ℕ}
    {g : α → ρ → ρ} (h : ∀ d x, (view (step d x)).get? k = ((view d).get? k).map (g x))
    (xs : List α) (d : δ) :
    (view (xs.foldl step d)).get? k
      = ((view d).get? k).map (fun r => xs.foldl (fun r x => g x r) r) := by
  induction xs generalizing d with
  | nil => exact Option.map_id'.symm
  | cons x xs ih =>
    rw [List.foldl_cons, ih (step d x), h d x, Option.map_map]
    rfl

/-- **A rewriting that can be repeated** happens once, if any item asks for it. -/
theorem foldl_ite_idem (p : α → β → Prop) [∀ x r, Decidable (p x r)] (f : β → β)
    (hf : ∀ r, f (f r) = f r) (xs : List α) (r : β) :
    xs.foldl (fun r x => if p x r then f r else r) r = if ∃ x ∈ xs, p x r then f r else r := by
  induction xs generalizing r with
  | nil => simp
  | cons x xs ih =>
    rw [List.foldl_cons]
    by_cases hx : p x r
    · have hsome : ∃ y ∈ x :: xs, p y r := ⟨x, List.mem_cons_self, hx⟩
      rw [if_pos hx, if_pos hsome, ih (f r)]
      split
      · exact hf r
      · rfl
    · rw [if_neg hx, ih r]
      refine if_congr ?_ rfl rfl
      constructor
      · rintro ⟨y, hy, hpy⟩
        exact ⟨y, List.mem_cons_of_mem x hy, hpy⟩
      · rintro ⟨y, hy, hpy⟩
        rcases List.mem_cons.mp hy with heq | hmem
        · subst heq
          exact absurd hpy hx
        · exact ⟨y, hmem, hpy⟩

/-- **A row after a batch that rewrites the rows it means**, in a way that can be repeated. -/
theorem get?_foldl_ite {ρ : Type*} [Row ρ] (view : δ → Table ρ) {step : δ → α → δ} {k : ℕ}
    {p : α → ρ → Prop} [∀ x r, Decidable (p x r)] {f : ρ → ρ}
    (h : ∀ d x, (view (step d x)).get? k
      = ((view d).get? k).map (fun r => if p x r then f r else r))
    (hf : ∀ r, f (f r) = f r) (xs : List α) (d : δ) :
    (view (xs.foldl step d)).get? k
      = ((view d).get? k).map (fun r => if ∃ x ∈ xs, p x r then f r else r) := by
  rw [get?_foldl view h]
  congr 1
  funext r
  exact foldl_ite_idem p f hf xs r

/-- **All rows after a batch** that keeps what its steps rely on, each rewritten item by item. -/
theorem rows_foldl_of (view : δ → List β) {P : δ → Prop} {step : δ → α → δ} {g : α → β → β}
    {xs : List α} (hkeep : ∀ d, ∀ x ∈ xs, P d → P (step d x))
    (h : ∀ d, ∀ x ∈ xs, P d → view (step d x) = (view d).map (g x)) {d : δ} (hd : P d) :
    view (xs.foldl step d) = (view d).map (fun r => xs.foldl (fun r x => g x r) r) := by
  induction xs generalizing d with
  | nil => exact (List.map_id' (view d)).symm
  | cons x xs ih =>
    have hhead : x ∈ x :: xs := List.mem_cons_self
    rw [List.foldl_cons, ih (fun d' y hy => hkeep d' y (List.mem_cons_of_mem x hy))
      (fun d' y hy => h d' y (List.mem_cons_of_mem x hy)) (hkeep d x hhead hd), h d x hhead hd,
      List.map_map]
    rfl

/-- … whose steps rely on nothing. -/
theorem rows_foldl (view : δ → List β) {step : δ → α → δ} {g : α → β → β}
    (h : ∀ d x, view (step d x) = (view d).map (g x)) (xs : List α) (d : δ) :
    view (xs.foldl step d) = (view d).map (fun r => xs.foldl (fun r x => g x r) r) :=
  rows_foldl_of view (P := fun _ => True) (fun _ _ _ _ => trivial) (fun d x _ _ => h d x) trivial

/-- **All rows after a batch that rewrites the rows it means**, in a way that can be repeated. -/
theorem rows_foldl_ite (view : δ → List β) {step : δ → α → δ} {p : α → β → Prop}
    [∀ x r, Decidable (p x r)] {f : β → β}
    (h : ∀ d x, view (step d x) = (view d).map (fun r => if p x r then f r else r))
    (hf : ∀ r, f (f r) = f r) (xs : List α) (d : δ) :
    view (xs.foldl step d)
      = (view d).map (fun r => if ∃ x ∈ xs, p x r then f r else r) := by
  rw [rows_foldl view h]
  refine List.map_congr_left ?_
  intro r _
  exact foldl_ite_idem p f hf xs r

/-- **Items that ask for one rewriting** rewrite once, if any asks. -/
theorem foldl_ite_same (p : α → Prop) [DecidablePred p] {f : α → β → β} {f₀ : β → β} {xs : List α}
    (hsame : ∀ x ∈ xs, p x → f x = f₀) (hf : ∀ r, f₀ (f₀ r) = f₀ r) (r : β) :
    xs.foldl (fun r x => if p x then f x r else r) r = if ∃ x ∈ xs, p x then f₀ r else r := by
  have hfold : xs.foldl (fun r x => if p x then f x r else r) r
      = xs.foldl (fun r x => if p x then f₀ r else r) r := by
    refine List.foldl_ext _ _ _ (fun r x hx => ?_)
    by_cases hpx : p x
    · rw [if_pos hpx, if_pos hpx, hsame x hx hpx]
    · rw [if_neg hpx, if_neg hpx]
  rw [hfold]
  exact foldl_ite_idem (fun x _ => p x) f₀ hf xs r

/-- **The one item that asks for it** rewrites, however often it comes up. -/
theorem foldl_ite_unique (p : α → Prop) [DecidablePred p] (f : α → β → β) {xs : List α} {x₀ : α}
    (huniq : ∀ x ∈ xs, p x → x = x₀) (hf : ∀ r, f x₀ (f x₀ r) = f x₀ r) (r : β) :
    xs.foldl (fun r x => if p x then f x r else r) r = if ∃ x ∈ xs, p x then f x₀ r else r :=
  foldl_ite_same p (fun x hx hpx => congrArg f (huniq x hx hpx)) hf r

/-- A test of what no item rewrites can be made of the row that the batch began with. -/
theorem foldl_ite_key {κ : Type*} (key : β → κ) (p : α → κ → Prop) [∀ x k, Decidable (p x k)]
    {f : α → β → β} (hkey : ∀ x r, key (f x r) = key r) (xs : List α) {r : β} {k : κ}
    (hr : key r = k) :
    xs.foldl (fun r x => if p x (key r) then f x r else r) r
      = xs.foldl (fun r x => if p x k then f x r else r) r := by
  induction xs generalizing r with
  | nil => rfl
  | cons x xs ih =>
    rw [List.foldl_cons, List.foldl_cons, hr]
    split
    · exact ih ((hkey x r).trans hr)
    · exact ih hr

/-! Batches that work a measure off. -/

/-- **A measure that no item raises and every hit lowers** ends below what the hits take
away, as long as the batch keeps what the steps rely on. -/
theorem foldl_countdown {P : δ → Prop} {step : δ → α → δ} {μ : δ → ℕ} {hit : α → Bool}
    {xs : List α} (hkeep : ∀ d, ∀ x ∈ xs, P d → P (step d x))
    (hle : ∀ d, ∀ x ∈ xs, P d → μ (step d x) ≤ μ d)
    (hlt : ∀ d, ∀ x ∈ xs, P d → hit x = true → 0 < μ d → μ (step d x) < μ d) {d : δ} (hd : P d) :
    μ (xs.foldl step d) ≤ μ d - xs.countP hit := by
  induction xs generalizing d with
  | nil => simp
  | cons x xs ih =>
    have hx : x ∈ x :: xs := List.mem_cons_self
    have htail := ih (fun d' x' hx' => hkeep d' x' (List.mem_cons_of_mem x hx'))
      (fun d' x' hx' => hle d' x' (List.mem_cons_of_mem x hx'))
      (fun d' x' hx' => hlt d' x' (List.mem_cons_of_mem x hx')) (hkeep d x hx hd)
    have hstep := hle d x hx hd
    rw [List.foldl_cons, List.countP_cons]
    by_cases hhit : hit x = true
    · have hdrop := hlt d x hx hd hhit
      rw [if_pos hhit]
      omega
    · rw [if_neg hhit]
      omega

/-- A list of batches has a hit for every item that brings one. -/
theorem countP_le_countP_flatMap (p : α → Bool) (hit : β → Bool) (f : α → List β) (xs : List α)
    (h : ∀ x ∈ xs, p x = true → 0 < (f x).countP hit) : xs.countP p ≤ (xs.flatMap f).countP hit := by
  induction xs with
  | nil => simp
  | cons x xs ih =>
    have htail := ih (fun x' hx' => h x' (List.mem_cons_of_mem x hx'))
    rw [List.flatMap_cons, List.countP_append, List.countP_cons]
    by_cases hx : p x = true
    · have hhead := h x List.mem_cons_self hx
      rw [if_pos hx]
      omega
    · rw [if_neg hx]
      omega

/-- Rewriting the items of a list, none of which is counted that was not, and one of which no
longer is. -/
theorem countP_map_lt {p : α → Bool} {f : α → α} {xs : List α}
    (hle : ∀ x ∈ xs, p (f x) = true → p x = true) {a : α} (ha : a ∈ xs) (hwas : p a = true)
    (hnot : p (f a) = false) : (xs.map f).countP p < xs.countP p := by
  induction xs with
  | nil => cases ha
  | cons x xs ih =>
    rw [List.map_cons, List.countP_cons, List.countP_cons]
    have htail : (xs.map f).countP p ≤ xs.countP p := by
      rw [List.countP_map]
      exact List.countP_mono_left (fun y hy => hle y (List.mem_cons_of_mem x hy))
    rcases List.mem_cons.mp ha with heq | hmem
    · subst heq
      rw [if_pos hwas, if_neg (by rw [hnot]; decide)]
      omega
    · have hless := ih (fun y hy => hle y (List.mem_cons_of_mem x hy)) hmem
      by_cases hfx : p (f x) = true
      · rw [if_pos hfx, if_pos (hle x List.mem_cons_self hfx)]
        omega
      · rw [if_neg hfx]
        omega

end Folds

/-! ## Tables that differ in what their rows were rewritten to -/

section Rewritten

variable {ρ α δ : Type*}

/-- Left alone or changed, and again: what two changes say is to follow for the two. -/
theorem eq_or_trans {S : ρ → ρ → Prop} (hS : ∀ r s u, S r s → S s u → S r u) {r s u : ρ}
    (h : s = r ∨ S r s) (h' : u = s ∨ S s u) : u = r ∨ S r u := by
  rcases h' with heq | hsecond
  · rw [heq]
    exact h
  · rcases h with heq | hfirst
    · rw [← heq]
      exact .inr hsecond
    · exact .inr (hS r s u hfirst hsecond)

variable [Row ρ]

/-- Under every key both tables store nothing, or rows that are related. -/
def Rewrites (R : ρ → ρ → Prop) (t t' : Table ρ) : Prop :=
  ∀ k, Option.Rel R (t.get? k) (t'.get? k)

variable {R : ρ → ρ → Prop} {t t' t'' : Table ρ}

theorem Rewrites.refl (hR : ∀ r, R r r) (t : Table ρ) : Rewrites R t t := by
  intro k
  cases t.get? k with
  | none => exact .none
  | some r => exact .some (hR r)

theorem rewrites_of_eq (hR : ∀ r, R r r) (h : t' = t) : Rewrites R t t' := by
  rw [h]
  exact Rewrites.refl hR t

/-- **A chain of rewritings.** -/
theorem Rewrites.trans (hR : ∀ r s u, R r s → R s u → R r u) (h : Rewrites R t t')
    (h' : Rewrites R t' t'') : Rewrites R t t'' := by
  intro k
  have hfirst := h k
  have hsecond := h' k
  -- no table gains or loses a key on the way
  cases hr : t.get? k with
  | none =>
    rw [hr] at hfirst
    cases hs : t'.get? k with
    | none =>
      rw [hs] at hsecond
      exact hsecond
    | some s =>
      rw [hs] at hfirst
      cases hfirst
  | some r =>
    rw [hr] at hfirst
    cases hs : t'.get? k with
    | none =>
      rw [hs] at hfirst
      cases hfirst
    | some s =>
      rw [hs] at hfirst hsecond
      cases hu : t''.get? k with
      | none =>
        rw [hu] at hsecond
        cases hsecond
      | some u =>
        rw [hu] at hsecond
        cases hfirst with
        | some hrs =>
          cases hsecond with
          | some hsu => exact .some (hR r s u hrs hsu)

/-- An operation that rewrites every row by a function. -/
theorem rewrites_of_map {g : ℕ → ρ → ρ} (h : ∀ k, t'.get? k = (t.get? k).map (g k))
    (hg : ∀ k r, R r (g k r)) : Rewrites R t t' := by
  intro k
  rw [h k]
  cases t.get? k with
  | none => exact .none
  | some r => exact .some (hg k r)

/-- … and one that rewrites the rows that meet a condition. -/
theorem rewrites_of_ite (hR : ∀ r, R r r) {p : ℕ → ρ → Prop} [∀ k r, Decidable (p k r)]
    {f : ρ → ρ} (h : ∀ k, t'.get? k = (t.get? k).map (fun r => if p k r then f r else r))
    (hf : ∀ r, R r (f r)) : Rewrites R t t' := by
  refine rewrites_of_map h (fun k r => ?_)
  split
  · exact hf r
  · exact hR r

/-- **A batch of rewritings.** -/
theorem rewrites_foldl (hrefl : ∀ r, R r r) (htrans : ∀ r s u, R r s → R s u → R r u)
    (view : δ → Table ρ) {step : δ → α → δ} {xs : List α}
    (h : ∀ d, ∀ x ∈ xs, Rewrites R (view d) (view (step d x))) (d : δ) :
    Rewrites R (view d) (view (xs.foldl step d)) := by
  refine foldl_invariant (P := fun d' => Rewrites R (view d) (view d')) ?_
    (Rewrites.refl hrefl (view d))
  intro d' x hx hd'
  exact hd'.trans htrans (h d' x hx)

/-- The row after. -/
theorem Rewrites.get? (h : Rewrites R t t') {k : ℕ} {r : ρ} (hr : t.get? k = some r) :
    ∃ r', t'.get? k = some r' ∧ R r r' := by
  have hk := h k
  rw [hr] at hk
  cases hs : t'.get? k with
  | none =>
    rw [hs] at hk
    cases hk
  | some s =>
    rw [hs] at hk
    cases hk with
    | some hrs => exact ⟨s, rfl, hrs⟩

/-- The row before. -/
theorem Rewrites.get?_of_get? (h : Rewrites R t t') {k : ℕ} {r' : ρ} (hr' : t'.get? k = some r') :
    ∃ r, t.get? k = some r ∧ R r r' := by
  have hk := h k
  rw [hr'] at hk
  cases hs : t.get? k with
  | none =>
    rw [hs] at hk
    cases hk
  | some s =>
    rw [hs] at hk
    cases hk with
    | some hsr => exact ⟨s, rfl, hsr⟩

end Rewritten

end AutoCoinBot.Library
