/-
  Library.Paging — reading a long history backwards, page by page.

  A source answers with the newest rows before a cursor, a page of them at most. A reader asks
  again with the oldest key it was given, until it has as many rows as it wants or a page is not
  full.
-/
import AutoCoinBot.Library.Table

namespace AutoCoinBot.Library

variable {α κ : Type*} [LinearOrder κ] {key : α → κ}

/-! ## Sorted rows -/

/-- A row is among the first `n` when fewer than `n` are before it. -/
theorem mem_take_of_sorted {rows : List α}
    (hsorted : rows.Pairwise (fun a b => key b < key a)) {n : ℕ} {b : α} :
    b ∈ rows.take n ↔ b ∈ rows ∧ rows.countP (fun a => key b < key a) < n := by
  classical
  have hfind : (rows.take n).find? (fun a => decide (a = b)) = some b
      ↔ b ∈ rows ∧ decide (b = b) = true
        ∧ (∀ a ∈ rows, decide (a = b) = true → key a ≤ key b)
        ∧ rows.countP (fun a => key b < key a) < n := Table.find?_take_of_sorted hsorted
  constructor
  · intro hmem
    have hsome : ((rows.take n).find? (fun a => decide (a = b))).isSome :=
      List.find?_isSome.mpr ⟨b, hmem, decide_eq_true rfl⟩
    obtain ⟨found, hfound⟩ := Option.isSome_iff_exists.mp hsome
    have hsame : found = b := by simpa using List.find?_some hfound
    rw [hsame] at hfound
    obtain ⟨hrow, -, -, hcount⟩ := hfind.mp hfound
    exact ⟨hrow, hcount⟩
  · intro hfew
    refine List.mem_of_find?_eq_some (hfind.mpr ⟨hfew.1, decide_eq_true rfl, ?_, hfew.2⟩)
    intro a _ ha
    rw [of_decide_eq_true ha]

/-- **What is behind a page** is what is older than its oldest row. -/
theorem drop_eq_filter_of_sorted {rows : List α}
    (hsorted : rows.Pairwise (fun a b => key b < key a)) {n : ℕ} {x : α} (hx : x ∈ rows.take n)
    (holdest : ∀ a ∈ rows.take n, key x ≤ key a) :
    rows.drop n = rows.filter (fun a => decide (key a < key x)) := by
  have hsplit := List.take_append_drop n rows
  rw [← hsplit, List.pairwise_append] at hsorted
  obtain ⟨-, -, hcross⟩ := hsorted
  have hfront : (rows.take n).filter (fun a => decide (key a < key x)) = [] := by
    refine List.filter_eq_nil_iff.mpr ?_
    intro a ha
    simpa using holdest a ha
  have hback : (rows.drop n).filter (fun a => decide (key a < key x)) = rows.drop n := by
    refine List.filter_eq_self.mpr ?_
    intro a ha
    exact decide_eq_true (hcross x hx a ha)
  calc rows.drop n
      = (rows.take n).filter (fun a => decide (key a < key x))
          ++ (rows.drop n).filter (fun a => decide (key a < key x)) := by
        rw [hfront, hback, List.nil_append]
    _ = (rows.take n ++ rows.drop n).filter (fun a => decide (key a < key x)) :=
        (List.filter_append _ _).symm
    _ = rows.filter (fun a => decide (key a < key x)) := by rw [hsplit]

/-! ## A source and its reader -/

/-- The rows before a cursor; all of them without one. -/
def olderThan (key : α → κ) (rows : List α) : Option κ → List α
  | none => rows
  | some cursor => rows.filter (fun a => decide (key a < cursor))

/-- The newest `count` rows before a cursor, of rows that are sorted from the newest on. -/
def newest (key : α → κ) (rows : List α) (cursor : Option κ) (count : ℕ) : List α :=
  (olderThan key rows cursor).take count

/-- Reads `remaining` rows in pages of `size`; `next` is the cursor behind a page. -/
def pages (page : Option κ → ℕ → List α) (next : List α → Option κ) (size remaining : ℕ)
    (cursor : Option κ) : List α :=
  if _h : remaining = 0 then []
  else
    let batch := page cursor (min remaining size)
    if _hbatch : batch = [] then []
    else if batch.length < min remaining size then batch
    else batch ++ pages page next size (remaining - batch.length) (next batch)
termination_by remaining
decreasing_by
  have hpos : 0 < (page cursor (min remaining size)).length := List.length_pos_iff.mpr _hbatch
  omega

variable {rows : List α} {page : Option κ → ℕ → List α} {next : List α → Option κ}

/-- A page holds the newest rows, in any order. -/
def AnswersNewest (key : α → κ) (rows : List α) (page : Option κ → ℕ → List α) : Prop :=
  ∀ cursor count, (page cursor count).Perm (newest key rows cursor count)

/-- The cursor behind a page is the key of its oldest row. -/
def FollowsOldest (key : α → κ) (next : List α → Option κ) : Prop :=
  ∀ batch, batch ≠ [] → ∃ x ∈ batch, next batch = some (key x) ∧ ∀ a ∈ batch, key x ≤ key a

theorem olderThan_sublist (cursor : Option κ) : (olderThan key rows cursor).Sublist rows := by
  cases cursor with
  | none => exact List.Sublist.refl rows
  | some cursor => exact List.filter_sublist

/-- Rows older than a row that is itself before the cursor. -/
theorem olderThan_some_of_mem {cursor : Option κ} {x : α} (hx : x ∈ olderThan key rows cursor) :
    (olderThan key rows cursor).filter (fun a => decide (key a < key x))
      = olderThan key rows (some (key x)) := by
  cases cursor with
  | none => rfl
  | some cursor =>
    have hbefore : key x < cursor := of_decide_eq_true (List.mem_filter.mp hx).2
    unfold olderThan
    rw [List.filter_filter]
    refine List.filter_congr ?_
    intro a _
    by_cases ha : key a < key x
    · simp [ha, ha.trans hbefore]
    · simp [ha]

/-- **The pages together** are the newest rows that were wanted. -/
theorem pages_perm (hsorted : rows.Pairwise (fun a b => key b < key a))
    (hpage : AnswersNewest key rows page) (hnext : FollowsOldest key next) {size : ℕ}
    (hsize : 0 < size) (remaining : ℕ) (cursor : Option κ) :
    (pages page next size remaining cursor).Perm (newest key rows cursor remaining) := by
  induction remaining using Nat.strong_induction_on generalizing cursor with
  | _ remaining ih =>
    have hbatch := hpage cursor (min remaining size)
    have hlength := hbatch.length_eq
    rw [pages]
    by_cases hzero : remaining = 0
    · rw [dif_pos hzero, hzero]
      exact List.Perm.refl _
    rw [dif_neg hzero]
    dsimp only
    have hcount : (newest key rows cursor (min remaining size)).length
        = min (min remaining size) (olderThan key rows cursor).length := List.length_take
    -- a page that is not full is the last one
    have hall : (page cursor (min remaining size)).length < min remaining size →
        newest key rows cursor remaining = newest key rows cursor (min remaining size) := by
      intro hshort
      unfold newest
      rw [List.take_of_length_le (by omega), List.take_of_length_le (by omega)]
    by_cases hempty : page cursor (min remaining size) = []
    · rw [dif_pos hempty, hall (by rw [hempty, List.length_nil]; omega)]
      rw [hempty] at hbatch
      exact hbatch
    rw [dif_neg hempty]
    by_cases hshort : (page cursor (min remaining size)).length < min remaining size
    · rw [if_pos hshort, hall hshort]
      exact hbatch
    · rw [if_neg hshort]
      obtain ⟨x, hx, hnextx, holdest⟩ := hnext _ hempty
      have hfull : (page cursor (min remaining size)).length = min remaining size := by omega
      have hrest := ih (remaining - min remaining size) (by omega) (some (key x))
      rw [hnextx, hfull]
      have hxnew := hbatch.mem_iff.mp hx
      have holder := drop_eq_filter_of_sorted (hsorted.sublist (olderThan_sublist cursor)) hxnew
        (fun a ha => holdest a (hbatch.mem_iff.mpr ha))
      rw [olderThan_some_of_mem (List.mem_of_mem_take hxnew)] at holder
      have hsplit : newest key rows cursor remaining
          = newest key rows cursor (min remaining size)
            ++ newest key rows (some (key x)) (remaining - min remaining size) := by
        unfold newest
        rw [← holder, ← List.take_add, Nat.add_sub_cancel' (Nat.min_le_left remaining size)]
      rw [hsplit]
      exact hbatch.append hrest

/-- **A row is among the newest** before a cursor when few of those before it are newer. -/
theorem mem_newest_iff (hsorted : rows.Pairwise (fun a b => key b < key a)) {cursor : κ}
    {count : ℕ} {b : α} :
    b ∈ newest key rows (some cursor) count
      ↔ b ∈ rows ∧ key b < cursor
        ∧ rows.countP (fun a => key b < key a ∧ key a < cursor) < count := by
  unfold newest
  rw [mem_take_of_sorted (hsorted.sublist (olderThan_sublist _))]
  unfold olderThan
  rw [List.mem_filter, decide_eq_true_iff, List.countP_filter, and_assoc]
  simp only [Bool.decide_and]

/-! ## Comparing with what was wanted -/

/-- **What was read is what was wanted**, both in order of their keys, when each has the other's
entries and none was read twice. -/
theorem map_eq_map_iff_of_sorted {β δ : Type*} {read : List α} {wanted : List β} {v : α → κ × δ}
    {w : β → κ × δ} (hread : read.Pairwise (fun a b => (v a).1 ≤ (v b).1)) (hnodup : read.Nodup)
    (hwanted : wanted.Pairwise (fun a b => (w a).1 < (w b).1)) :
    read.map v = wanted.map w
      ↔ (∀ b ∈ wanted, ∃ a ∈ read, v a = w b) ∧ (∀ a ∈ read, ∃ b ∈ wanted, w b = v a)
        ∧ ∀ a ∈ read, ∀ b ∈ read, (v a).1 = (v b).1 → a = b := by
  have hascending : (wanted.map w).Pairwise (fun p q => p.1 < q.1) := List.pairwise_map.mpr hwanted
  constructor
  · intro heq
    refine ⟨?_, ?_, ?_⟩
    · intro b hb
      have hmem : w b ∈ read.map v := by
        rw [heq]
        exact List.mem_map_of_mem hb
      exact List.mem_map.mp hmem
    · intro a ha
      have hmem : v a ∈ wanted.map w := by
        rw [← heq]
        exact List.mem_map_of_mem ha
      exact List.mem_map.mp hmem
    · rw [← heq, List.pairwise_map] at hascending
      have hkeys : (read.map (fun a => (v a).1)).Nodup :=
        List.pairwise_map.mpr (hascending.imp (fun h => ne_of_lt h))
      intro a ha b hb hab
      exact List.inj_on_of_nodup_map hkeys ha hb hab
  · intro h
    obtain ⟨hcomplete, hsound, honce⟩ := h
    have hstrict : (read.map v).Pairwise (fun p q => p.1 < q.1) := by
      refine List.pairwise_map.mpr ((hread.and hnodup).imp_of_mem ?_)
      intro a b ha hb hboth
      exact lt_of_le_of_ne hboth.1 (fun hab => hboth.2 (honce a ha b hb hab))
    have hne : ∀ {l : List (κ × δ)}, l.Pairwise (fun p q => p.1 < q.1) → l.Nodup :=
      fun hl => hl.imp (fun hlt heq => absurd (congrArg Prod.fst heq) (ne_of_lt hlt))
    have hperm : (read.map v).Perm (wanted.map w) := by
      refine (List.perm_ext_iff_of_nodup (hne hstrict) (hne hascending)).mpr ?_
      intro p
      constructor
      · intro hp
        obtain ⟨a, ha, rfl⟩ := List.mem_map.mp hp
        obtain ⟨b, hb, hba⟩ := hsound a ha
        exact List.mem_map.mpr ⟨b, hb, hba⟩
      · intro hp
        obtain ⟨b, hb, rfl⟩ := List.mem_map.mp hp
        obtain ⟨a, ha, hab⟩ := hcomplete b hb
        exact List.mem_map.mpr ⟨a, ha, hab⟩
    refine hperm.eq_of_pairwise ?_ hstrict hascending
    intro p q _ _ hpq hqp
    exact absurd hpq (lt_asymm hqp)

end AutoCoinBot.Library
