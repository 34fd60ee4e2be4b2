/-
  Library.Book — a book with one record per key.

  Reports arrive in any order and any number. The first report of a key is
  recorded; a later one replaces the record only if it supersedes it. The total
  of a figure over a set of keys then changes by the difference of the replaced
  records, so every report is counted once.
-/
import Mathlib

namespace AutoCoinBot.Library

variable {κ ρ : Type*} [DecidableEq κ]

/-! ## Books and totals -/

/-- At most one record per key. -/
abbrev Book (κ ρ : Type*) := κ → Option ρ

section Records

variable (supersedes : ρ → ρ → Prop) [DecidableRel supersedes]

/-- The record of a key after one more report. -/
def kept (old : Option ρ) (new : ρ) : ρ :=
  match old with
  | none => new
  | some r => if supersedes new r then new else r

/-- The book after one more report. -/
def Book.record (book : Book κ ρ) (report : κ × ρ) : Book κ ρ :=
  Function.update book report.1 (some (kept supersedes (book report.1) report.2))

/-- The book of a list of reports. -/
def bookOf (reports : List (κ × ρ)) : Book κ ρ :=
  reports.foldl (Book.record supersedes) (fun _ => none)

end Records

/-- The total of a figure over a set of keys. -/
def Book.total {M : Type*} [AddCommMonoid M] (book : Book κ ρ) (keys : Finset κ) (g : ρ → M) : M :=
  ∑ k ∈ keys, (book k).elim 0 g

section Reports

variable {supersedes : ρ → ρ → Prop} [DecidableRel supersedes] {reports : List (κ × ρ)} {k : κ}
  {r : ρ}

@[simp] theorem bookOf_nil : bookOf supersedes ([] : List (κ × ρ)) k = none := rfl

theorem bookOf_append_singleton (report : κ × ρ) :
    bookOf supersedes (reports ++ [report]) = (bookOf supersedes reports).record supersedes report :=
  List.foldl_append

theorem Book.record_self (book : Book κ ρ) (new : ρ) :
    book.record supersedes (k, new) k = some (kept supersedes (book k) new) :=
  Function.update_self ..

theorem Book.record_of_ne (book : Book κ ρ) {j : κ} (new : ρ) (h : j ≠ k) :
    book.record supersedes (k, new) j = book j :=
  Function.update_of_ne h ..

/-- **What one report does to a total.** -/
theorem Book.total_record {M : Type*} [AddCommGroup M] (book : Book κ ρ) {keys : Finset κ}
    (hk : k ∈ keys) (new : ρ) (g : ρ → M) :
    (book.record supersedes (k, new)).total keys g
      = book.total keys g + (g (kept supersedes (book k) new) - (book k).elim 0 g) := by
  have hrest : ∑ j ∈ keys.erase k, (book.record supersedes (k, new) j).elim 0 g
      = ∑ j ∈ keys.erase k, (book j).elim 0 g := by
    refine Finset.sum_congr rfl (fun j hj => ?_)
    rw [book.record_of_ne new (Finset.ne_of_mem_erase hj)]
  unfold Book.total
  rw [← Finset.add_sum_erase keys _ hk, hrest, book.record_self,
    ← Finset.add_sum_erase keys (fun j => (book j).elim 0 g) hk]
  show g (kept supersedes (book k) new) + _ = _
  abel

/-! ## Which report is recorded -/

/-- The record of a key after one more report: the report, or the old record. -/
theorem bookOf_append_cases {report : κ × ρ}
    (h : bookOf supersedes (reports ++ [report]) k = some r) :
    (report = (k, r) ∧ ∀ old, bookOf supersedes reports k = some old → supersedes r old)
      ∨ (bookOf supersedes reports k = some r ∧ (report.1 = k → ¬ supersedes report.2 r)) := by
  obtain ⟨key, new⟩ := report
  rw [bookOf_append_singleton] at h
  by_cases hk : k = key
  · subst hk
    rw [Book.record_self] at h
    unfold kept at h
    split at h
    · rename_i hnone
      obtain rfl : new = r := Option.some.inj h
      exact .inl ⟨rfl, fun old hold => by rw [hnone] at hold; cases hold⟩
    · rename_i old hold
      split_ifs at h with hnew
      · obtain rfl : new = r := Option.some.inj h
        refine .inl ⟨rfl, fun old' hold' => ?_⟩
        rwa [← Option.some.inj (hold.symm.trans hold')]
      · obtain rfl : old = r := Option.some.inj h
        exact .inr ⟨hold, fun _ => hnew⟩
  · rw [Book.record_of_ne _ _ hk] at h
    exact .inr ⟨h, fun hkey => absurd hkey.symm hk⟩

/-- The record of a key is one of its reports. -/
theorem bookOf_mem (h : bookOf supersedes reports k = some r) : (k, r) ∈ reports := by
  induction reports using List.reverseRecOn with
  | nil => cases h
  | append_singleton reports report ih =>
    rcases bookOf_append_cases h with ⟨rfl, -⟩ | ⟨hold, -⟩
    · exact List.mem_append_right _ List.mem_cons_self
    · exact List.mem_append_left _ (ih hold)

/-- A key has no record exactly when it has no report. -/
theorem bookOf_eq_none_iff : bookOf supersedes reports k = none ↔ ∀ r, (k, r) ∉ reports := by
  induction reports using List.reverseRecOn with
  | nil => simp
  | append_singleton reports report ih =>
    obtain ⟨key, new⟩ := report
    rw [bookOf_append_singleton]
    by_cases hk : k = key
    · subst hk
      rw [Book.record_self]
      refine iff_of_false (Option.some_ne_none _) (fun h => h new ?_)
      exact List.mem_append_right _ List.mem_cons_self
    · rw [Book.record_of_ne _ _ hk, ih]
      refine forall_congr' fun r => not_congr ?_
      rw [List.mem_append, List.mem_singleton, or_iff_left]
      exact fun h => hk (Prod.mk.inj h).1

/-- **No report of a key supersedes its record.** -/
theorem bookOf_not_superseded (hirrefl : ∀ a, ¬ supersedes a a)
    (htrans : ∀ a b c, supersedes a b → supersedes b c → supersedes a c)
    (h : bookOf supersedes reports k = some r) {x : ρ} (hx : (k, x) ∈ reports) :
    ¬ supersedes x r := by
  induction reports using List.reverseRecOn generalizing r with
  | nil => cases h
  | append_singleton reports report ih =>
    rcases bookOf_append_cases h with ⟨rfl, hnew⟩ | ⟨hold, hkeep⟩ <;>
      rcases List.mem_append.mp hx with hx | hx
    · -- an earlier report cannot supersede the new one and not its predecessor
      cases hbook : bookOf supersedes reports k with
      | none => exact absurd hx (bookOf_eq_none_iff.mp hbook x)
      | some old => exact fun hxr => ih hbook hx (htrans _ _ _ hxr (hnew old hbook))
    · obtain rfl : x = r := (Prod.mk.inj (List.mem_singleton.mp hx)).2
      exact hirrefl x
    · exact ih hold hx
    · rw [List.mem_singleton] at hx
      rw [← hx] at hkeep
      exact hkeep rfl

/-- **The record shows the largest figure**, if later reports of a key show no smaller
one and no other one without superseding. -/
theorem le_bookOf {M : Type*} [Preorder M] {g : ρ → M}
    (hmono : reports.Pairwise (fun x y => x.1 = y.1 → g x.2 ≤ g y.2))
    (hvisible : reports.Pairwise (fun x y => x.1 = y.1 → g y.2 = g x.2 ∨ supersedes y.2 x.2))
    (h : bookOf supersedes reports k = some r) {x : ρ} (hx : (k, x) ∈ reports) : g x ≤ g r := by
  induction reports using List.reverseRecOn generalizing r with
  | nil => cases h
  | append_singleton reports report ih =>
    obtain ⟨hmono', -, hmonoLast⟩ := List.pairwise_append.mp hmono
    obtain ⟨hvisible', -, hvisibleLast⟩ := List.pairwise_append.mp hvisible
    rcases bookOf_append_cases h with ⟨rfl, -⟩ | ⟨hold, hkeep⟩ <;>
      rcases List.mem_append.mp hx with hx | hx
    · exact hmonoLast _ hx _ List.mem_cons_self rfl
    · rw [(Prod.mk.inj (List.mem_singleton.mp hx)).2]
    · exact ih hmono' hvisible' hold hx
    · -- the last report was not recorded, so it shows the recorded figure
      rw [List.mem_singleton] at hx
      subst hx
      have hlast := hvisibleLast _ (bookOf_mem hold) _ List.mem_cons_self rfl
      exact (hlast.resolve_right (hkeep rfl)).le

end Reports

end AutoCoinBot.Library
