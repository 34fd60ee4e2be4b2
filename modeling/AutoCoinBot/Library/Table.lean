/-
  Library.Table — a relational table with an AUTOINCREMENT key.

  Rows are kept in insertion order together with the next key to hand out.
  Keys start at one, each stored key lies below the counter, and no key is
  stored twice; these facts travel with every table as fields. A table that
  breaks one cannot be built, so an inserted row never shadows an old one, a
  key names at most one row and no row has the key zero.
-/
import Mathlib

namespace AutoCoinBot.Library

/-- A row type with an integer primary key. -/
class Row (ρ : Type*) where
  rowId : ρ → ℕ

/-- A table of rows with distinct positive keys, all below the key counter. -/
structure Table (ρ : Type*) [Row ρ] where
  rows : List ρ
  nextId : ℕ
  nextId_pos : 0 < nextId
  rowId_pos : ∀ r ∈ rows, 0 < Row.rowId r
  rowId_lt : ∀ r ∈ rows, Row.rowId r < nextId
  nodup : (rows.map Row.rowId).Nodup

namespace Table

variable {ρ : Type*} [Row ρ]

/-! ## Operations -/

/-- The table without rows; keys are handed out from `1`. -/
def empty : Table ρ := ⟨[], 1, Nat.one_pos, by simp, by simp, by simp⟩

/-- `SELECT * … WHERE id = k`. -/
def get? (t : Table ρ) (k : ℕ) : Option ρ :=
  t.rows.find? (fun r => Row.rowId r == k)

/-- `SELECT * … WHERE p`, in insertion order. -/
def select (t : Table ρ) (p : ρ → Bool) : List ρ := t.rows.filter p

/-- `UPDATE … WHERE p`: `f` rewrites the matching rows and keeps their keys. -/
def modifyWhere (t : Table ρ) (p : ρ → Bool) (f : ρ → ρ)
    (hf : ∀ r, Row.rowId (f r) = Row.rowId r) : Table ρ where
  rows := t.rows.map (fun r => if p r then f r else r)
  nextId := t.nextId
  nextId_pos := t.nextId_pos
  rowId_pos := by
    intro r hr
    obtain ⟨r', hr', rfl⟩ := List.mem_map.mp hr
    split
    · rw [hf]; exact t.rowId_pos r' hr'
    · exact t.rowId_pos r' hr'
  rowId_lt := by
    intro r hr
    obtain ⟨r', hr', rfl⟩ := List.mem_map.mp hr
    split
    · rw [hf]; exact t.rowId_lt r' hr'
    · exact t.rowId_lt r' hr'
  nodup := by
    have hkeys : (t.rows.map (fun r => if p r then f r else r)).map Row.rowId
        = t.rows.map Row.rowId := by
      rw [List.map_map]
      refine List.map_congr_left (fun r _ => ?_)
      show Row.rowId (if p r then f r else r) = Row.rowId r
      split
      · exact hf r
      · rfl
    rw [hkeys]; exact t.nodup

/-- `UPDATE … WHERE id = k`. -/
def modify (t : Table ρ) (k : ℕ) (f : ρ → ρ)
    (hf : ∀ r, Row.rowId (f r) = Row.rowId r) : Table ρ :=
  t.modifyWhere (fun r => Row.rowId r == k) f hf

/-- `INSERT`: the new row receives the next key. -/
def insert (t : Table ρ) (mk : ℕ → ρ) (hmk : ∀ k, Row.rowId (mk k) = k) : Table ρ where
  rows := t.rows ++ [mk t.nextId]
  nextId := t.nextId + 1
  nextId_pos := Nat.succ_pos _
  rowId_pos := by
    intro r hr
    rcases List.mem_append.mp hr with h | h
    · exact t.rowId_pos r h
    · rw [List.mem_singleton.mp h, hmk]; exact t.nextId_pos
  rowId_lt := by
    intro r hr
    rcases List.mem_append.mp hr with h | h
    · exact Nat.lt_succ_of_lt (t.rowId_lt r h)
    · rw [List.mem_singleton.mp h, hmk]; exact Nat.lt_succ_self _
  nodup := by
    rw [List.map_append, List.nodup_append]
    refine ⟨t.nodup, by simp, ?_⟩
    intro a ha b hb hab
    obtain ⟨r, hr, rfl⟩ := List.mem_map.mp ha
    simp only [List.map_cons, List.map_nil, List.mem_singleton, hmk] at hb
    exact absurd (hab.trans hb) (Nat.ne_of_lt (t.rowId_lt r hr))

/-! ## Lookup -/

theorem get?_some_mem {t : Table ρ} {k : ℕ} {r : ρ} (h : t.get? k = some r) :
    r ∈ t.rows := List.mem_of_find?_eq_some h

theorem get?_some_rowId {t : Table ρ} {k : ℕ} {r : ρ} (h : t.get? k = some r) :
    Row.rowId r = k := by
  have := List.find?_some h
  simpa using this

theorem get?_of_mem {t : Table ρ} {r : ρ} (h : r ∈ t.rows) :
    t.get? (Row.rowId r) = some r := by
  cases hg : t.get? (Row.rowId r) with
  | none =>
    have hno := List.find?_eq_none.mp hg r h
    simp at hno
  | some r' =>
    have hmem := get?_some_mem hg
    have hkey := get?_some_rowId hg
    rw [List.inj_on_of_nodup_map t.nodup hmem h hkey]

/-- Rows of one key are one row. -/
theorem eq_of_rowId_eq {t : Table ρ} {r r' : ρ} (h : r ∈ t.rows) (h' : r' ∈ t.rows)
    (hkey : Row.rowId r = Row.rowId r') : r = r' :=
  List.inj_on_of_nodup_map t.nodup h h' hkey

/-- A row is stored exactly when its own key finds it. -/
theorem mem_rows_iff {t : Table ρ} {r : ρ} :
    r ∈ t.rows ↔ t.get? (Row.rowId r) = some r :=
  ⟨get?_of_mem, get?_some_mem⟩

theorem get?_lt_nextId {t : Table ρ} {k : ℕ} {r : ρ} (h : t.get? k = some r) :
    k < t.nextId := by
  rw [← get?_some_rowId h]; exact t.rowId_lt r (get?_some_mem h)

theorem get?_pos {t : Table ρ} {k : ℕ} {r : ρ} (h : t.get? k = some r) : 0 < k := by
  rw [← get?_some_rowId h]; exact t.rowId_pos r (get?_some_mem h)

theorem mem_select {t : Table ρ} {p : ρ → Bool} {r : ρ} :
    r ∈ t.select p ↔ r ∈ t.rows ∧ p r = true := List.mem_filter

theorem select_eq_nil_iff {t : Table ρ} {p : ρ → Bool} :
    t.select p = [] ↔ ∀ r ∈ t.rows, p r = false := by
  unfold select
  rw [List.filter_eq_nil_iff]
  exact forall₂_congr (fun r _ => Bool.eq_false_iff.symm)

/-! ## Updates -/

/-- The row under `k` after an update is the old row, rewritten if it matched. -/
theorem get?_modifyWhere (t : Table ρ) (p : ρ → Bool) (f : ρ → ρ)
    (hf : ∀ r, Row.rowId (f r) = Row.rowId r) (k : ℕ) :
    (t.modifyWhere p f hf).get? k
      = (t.get? k).map (fun r => if p r then f r else r) := by
  unfold get? modifyWhere
  rw [List.find?_map]
  congr 2
  funext r
  show (Row.rowId (if p r then f r else r) == k) = (Row.rowId r == k)
  split
  · rw [hf]
  · rfl

@[simp] theorem get?_modify_self (t : Table ρ) (k : ℕ) (f : ρ → ρ)
    (hf : ∀ r, Row.rowId (f r) = Row.rowId r) :
    (t.modify k f hf).get? k = (t.get? k).map f := by
  unfold modify
  rw [get?_modifyWhere]
  cases hg : t.get? k with
  | none => rfl
  | some r => simp [get?_some_rowId hg]

theorem get?_modify_ne (t : Table ρ) {j k : ℕ} (f : ρ → ρ)
    (hf : ∀ r, Row.rowId (f r) = Row.rowId r) (hjk : j ≠ k) :
    (t.modify k f hf).get? j = t.get? j := by
  unfold modify
  rw [get?_modifyWhere]
  cases hg : t.get? j with
  | none => rfl
  | some r => simp [get?_some_rowId hg, hjk]

theorem get?_modify (t : Table ρ) (j k : ℕ) (f : ρ → ρ)
    (hf : ∀ r, Row.rowId (f r) = Row.rowId r) :
    (t.modify k f hf).get? j = (t.get? j).map (fun r => if j = k then f r else r) := by
  by_cases hjk : j = k
  · subst hjk; simp
  · rw [get?_modify_ne t f hf hjk]; simp [hjk]

/-- A search by a column the update leaves alone finds the rewritten row. -/
theorem find?_modifyWhere (t : Table ρ) (p : ρ → Bool) (f : ρ → ρ)
    (hf : ∀ r, Row.rowId (f r) = Row.rowId r) (q : ρ → Bool)
    (hq : ∀ r, q (f r) = q r) :
    (t.modifyWhere p f hf).rows.find? q
      = (t.rows.find? q).map (fun r => if p r then f r else r) := by
  unfold modifyWhere
  rw [List.find?_map]
  congr 2
  funext r
  show q (if p r then f r else r) = q r
  split
  · exact hq r
  · rfl

/-! ## Insertion -/

@[simp] theorem rows_insert (t : Table ρ) (mk : ℕ → ρ)
    (hmk : ∀ k, Row.rowId (mk k) = k) :
    (t.insert mk hmk).rows = t.rows ++ [mk t.nextId] := rfl

@[simp] theorem get?_insert_self (t : Table ρ) (mk : ℕ → ρ)
    (hmk : ∀ k, Row.rowId (mk k) = k) :
    (t.insert mk hmk).get? t.nextId = some (mk t.nextId) := by
  have hnew : mk t.nextId ∈ (t.insert mk hmk).rows := by simp
  have := get?_of_mem hnew
  rwa [hmk] at this

theorem get?_insert_of_ne (t : Table ρ) (mk : ℕ → ρ)
    (hmk : ∀ k, Row.rowId (mk k) = k) {k : ℕ} (hk : k ≠ t.nextId) :
    (t.insert mk hmk).get? k = t.get? k := by
  unfold get?
  rw [rows_insert, List.find?_append]
  have hlast : List.find? (fun r => Row.rowId r == k) [mk t.nextId] = none := by
    simp [hmk, Ne.symm hk]
  rw [hlast, Option.or_none]

/-- A search by any column reaches the new row only when no old row matches. -/
theorem find?_insert (t : Table ρ) (mk : ℕ → ρ) (hmk : ∀ k, Row.rowId (mk k) = k)
    (q : ρ → Bool) :
    (t.insert mk hmk).rows.find? q
      = (t.rows.find? q).or (if q (mk t.nextId) then some (mk t.nextId) else none) := by
  rw [rows_insert, List.find?_append, List.find?_singleton]

/-! ## Unique columns -/

section Unique

variable {κ : Type*} {t : Table ρ} {key : ρ → κ}

/-- `UNIQUE(key)`. -/
def UniqueOn (t : Table ρ) (key : ρ → κ) : Prop := (t.rows.map key).Nodup

instance [DecidableEq κ] (t : Table ρ) (key : ρ → κ) : Decidable (t.UniqueOn key) :=
  inferInstanceAs (Decidable (t.rows.map key).Nodup)

/-- Rows that agree in a unique column are one row. -/
theorem UniqueOn.eq_of_key (h : t.UniqueOn key) {r r' : ρ} (hr : r ∈ t.rows)
    (hr' : r' ∈ t.rows) (hkey : key r = key r') : r = r' :=
  List.inj_on_of_nodup_map h hr hr' hkey

theorem UniqueOn.modifyWhere (h : t.UniqueOn key) (p : ρ → Bool) {f : ρ → ρ}
    (hf : ∀ r, Row.rowId (f r) = Row.rowId r) (hkey : ∀ r, key (f r) = key r) :
    (t.modifyWhere p f hf).UniqueOn key := by
  have hkeys : (t.modifyWhere p f hf).rows.map key = t.rows.map key := by
    show (t.rows.map (fun r => if p r then f r else r)).map key = _
    rw [List.map_map]
    refine List.map_congr_left (fun r _ => ?_)
    show key (if p r then f r else r) = key r
    split
    · exact hkey r
    · rfl
  unfold UniqueOn
  rw [hkeys]
  exact h

theorem UniqueOn.insert (h : t.UniqueOn key) (mk : ℕ → ρ) (hmk : ∀ k, Row.rowId (mk k) = k)
    (hnew : ∀ r ∈ t.rows, key r ≠ key (mk t.nextId)) : (t.insert mk hmk).UniqueOn key := by
  unfold UniqueOn
  rw [rows_insert, List.map_append, List.nodup_append]
  refine ⟨h, by simp, ?_⟩
  intro a ha b hb hab
  obtain ⟨r, hr, rfl⟩ := List.mem_map.mp ha
  simp only [List.map_cons, List.map_nil, List.mem_singleton] at hb
  exact hnew r hr (hab.trans hb)

variable [DecidableEq κ]

/-- `INSERT OR IGNORE` into a table with a unique column. -/
def insertOrIgnore (t : Table ρ) (key : ρ → κ) (mk : ℕ → ρ) (hmk : ∀ k, Row.rowId (mk k) = k) :
    Table ρ :=
  if t.rows.any (fun r => key r = key (mk t.nextId)) then t else t.insert mk hmk

/-- `INSERT … ON CONFLICT(key) DO UPDATE`: `f` rewrites the row that is there. -/
def upsert (t : Table ρ) (key : ρ → κ) (mk : ℕ → ρ) (hmk : ∀ k, Row.rowId (mk k) = k)
    (f : ρ → ρ) (hf : ∀ r, Row.rowId (f r) = Row.rowId r) : Table ρ :=
  if t.rows.any (fun r => key r = key (mk t.nextId)) then
    t.modifyWhere (fun r => key r = key (mk t.nextId)) f hf
  else t.insert mk hmk

theorem UniqueOn.insertOrIgnore (h : t.UniqueOn key) (mk : ℕ → ρ)
    (hmk : ∀ k, Row.rowId (mk k) = k) : (t.insertOrIgnore key mk hmk).UniqueOn key := by
  unfold Table.insertOrIgnore
  split
  · exact h
  · rename_i hnone
    refine h.insert mk hmk (fun r hr hkey => hnone ?_)
    exact List.any_eq_true.mpr ⟨r, hr, by simpa using hkey⟩

/-- The stored rows stay. -/
theorem get?_insertOrIgnore_of_some {k : ℕ} {r : ρ} (h : t.get? k = some r) (mk : ℕ → ρ)
    (hmk : ∀ k, Row.rowId (mk k) = k) : (t.insertOrIgnore key mk hmk).get? k = some r := by
  unfold Table.insertOrIgnore
  split
  · exact h
  · rw [get?_insert_of_ne t mk hmk (Nat.ne_of_lt (get?_lt_nextId h))]
    exact h

theorem UniqueOn.upsert (h : t.UniqueOn key) (mk : ℕ → ρ) (hmk : ∀ k, Row.rowId (mk k) = k)
    {f : ρ → ρ} (hf : ∀ r, Row.rowId (f r) = Row.rowId r) (hkey : ∀ r, key (f r) = key r) :
    (t.upsert key mk hmk f hf).UniqueOn key := by
  unfold Table.upsert
  split
  · exact h.modifyWhere _ hf hkey
  · rename_i hnone
    refine h.insert mk hmk (fun r hr hk => hnone ?_)
    exact List.any_eq_true.mpr ⟨r, hr, by simpa using hk⟩

/-- A search by the unique column reaches the new row only when no old row matches. -/
theorem find?_insertOrIgnore (t : Table ρ) (key : ρ → κ) (mk : ℕ → ρ)
    (hmk : ∀ k, Row.rowId (mk k) = k) (x : κ) :
    (t.insertOrIgnore key mk hmk).rows.find? (fun r => key r = x)
      = (t.rows.find? (fun r => key r = x)).or
          (if key (mk t.nextId) = x then some (mk t.nextId) else none) := by
  unfold insertOrIgnore
  split
  · rename_i hany
    by_cases hx : key (mk t.nextId) = x
    · -- the ignored row has a rival under its key
      rw [hx] at hany
      obtain ⟨r, hr⟩ := Option.isSome_iff_exists.mp (List.find?_isSome.mpr
        (List.any_eq_true.mp hany))
      rw [hr, Option.some_or]
    · rw [if_neg hx, Option.or_none]
  · rw [find?_insert]
    simp

/-- What is found by the unique column is what was found, or the new row. -/
theorem isSome_find?_insertOrIgnore (t : Table ρ) (key : ρ → κ) (mk : ℕ → ρ)
    (hmk : ∀ k, Row.rowId (mk k) = k) (x : κ) :
    ((t.insertOrIgnore key mk hmk).rows.find? (fun r => key r = x)).isSome = true
      ↔ (t.rows.find? (fun r => key r = x)).isSome = true ∨ key (mk t.nextId) = x := by
  rw [find?_insertOrIgnore, Option.isSome_or, Bool.or_eq_true]
  refine or_congr_right ?_
  split
  · rename_i hnew
    exact iff_of_true rfl hnew
  · rename_i hnew
    exact iff_of_false Bool.false_ne_true hnew

/-- Where the unique column has a row, none is added. -/
theorem insertOrIgnore_of_isSome (t : Table ρ) (key : ρ → κ) (mk : ℕ → ρ)
    (hmk : ∀ k, Row.rowId (mk k) = k)
    (h : (t.rows.find? (fun r => key r = key (mk t.nextId))).isSome = true) :
    t.insertOrIgnore key mk hmk = t :=
  if_pos (List.any_eq_true.mpr (List.find?_isSome.mp h))

/-- A search by the unique column after an upsert. -/
theorem find?_upsert (t : Table ρ) (key : ρ → κ) (mk : ℕ → ρ) (hmk : ∀ k, Row.rowId (mk k) = k)
    (f : ρ → ρ) (hf : ∀ r, Row.rowId (f r) = Row.rowId r) (hkey : ∀ r, key (f r) = key r) (x : κ) :
    (t.upsert key mk hmk f hf).rows.find? (fun r => key r = x)
      = if key (mk t.nextId) = x then
          some ((t.rows.find? (fun r => key r = x)).elim (mk t.nextId) f)
        else t.rows.find? (fun r => key r = x) := by
  unfold upsert
  split
  · rename_i hany
    rw [find?_modifyWhere t _ f hf _ (fun r => by rw [hkey])]
    by_cases hx : key (mk t.nextId) = x
    · rw [hx] at hany ⊢
      obtain ⟨r, hr⟩ := Option.isSome_iff_exists.mp (List.find?_isSome.mpr
        (List.any_eq_true.mp hany))
      have hrx : key r = x := by simpa using List.find?_some hr
      simp [hr, hrx]
    · rw [if_neg hx]
      cases hr : t.rows.find? (fun r => key r = x) with
      | none => rfl
      | some r =>
        have hrx : key r = x := by simpa using List.find?_some hr
        simp [hrx, Ne.symm hx]
  · rename_i hnone
    rw [find?_insert]
    by_cases hx : key (mk t.nextId) = x
    · rw [hx] at hnone
      have hold : t.rows.find? (fun r => key r = x) = none := by
        rw [List.find?_eq_none]
        exact fun r hr hrx => hnone (List.any_eq_true.mpr ⟨r, hr, hrx⟩)
      simp [hold, hx]
    · simp [hx]

end Unique

/-! ## Ordered selections -/

/-- `SELECT … WHERE q ORDER BY … LIMIT 1`: the row that is found stands before every other
match. -/
theorem find?_insertionSort {α : Type*} (R : α → α → Prop) [DecidableRel R] [Std.Total R]
    [IsTrans α R] {rows : List α} {q : α → Bool} {a b : α}
    (hb : (rows.insertionSort R).find? q = some b) (ha : a ∈ rows) (hq : q a = true) :
    b = a ∨ R b a := by
  have hsorted := List.pairwise_insertionSort R rows
  have hmem : a ∈ rows.insertionSort R := (List.mem_insertionSort R).mpr ha
  generalize rows.insertionSort R = sorted at hb hsorted hmem
  induction sorted with
  | nil => cases hmem
  | cons x sorted ih =>
    obtain ⟨hhead, htail⟩ := List.pairwise_cons.mp hsorted
    by_cases hx : q x = true
    · rw [List.find?_cons_of_pos hx] at hb
      rw [← Option.some.inj hb]
      rcases List.mem_cons.mp hmem with heq | hrest
      · exact .inl heq.symm
      · exact .inr (hhead a hrest)
    · rw [List.find?_cons_of_neg hx] at hb
      rcases List.mem_cons.mp hmem with heq | hrest
      · rw [heq] at hq
        exact absurd hq hx
      · exact ih hb htail hrest

/-- `SELECT … ORDER BY key DESC LIMIT n`, and the first row of it that `q` accepts: the largest
such row, if fewer than `n` rows are larger. -/
theorem find?_take_of_sorted {α κ : Type*} [LinearOrder κ] {key : α → κ} {rows : List α}
    (hsorted : rows.Pairwise (fun a b => key b < key a)) {q : α → Bool} {n : ℕ} {b : α} :
    (rows.take n).find? q = some b
      ↔ b ∈ rows ∧ q b = true ∧ (∀ a ∈ rows, q a = true → key a ≤ key b)
        ∧ rows.countP (fun a => key b < key a) < n := by
  induction rows generalizing n with
  | nil => simp
  | cons x rows ih =>
    obtain ⟨hhead, htail⟩ := List.pairwise_cons.mp hsorted
    cases n with
    | zero => simp
    | succ n =>
      rw [List.take_succ_cons]
      by_cases hx : q x = true
      · rw [List.find?_cons_of_pos hx, Option.some_inj]
        constructor
        · rintro rfl
          -- the first row is larger than all behind it
          have hle : ∀ a ∈ x :: rows, key a ≤ key x := by
            intro a ha
            rcases List.mem_cons.mp ha with rfl | hrest
            · exact le_rfl
            · exact (hhead a hrest).le
          have hnone : (x :: rows).countP (fun a => key x < key a) = 0 :=
            List.countP_eq_zero.mpr (fun a ha => by simpa using hle a ha)
          exact ⟨List.mem_cons_self, hx, fun a ha _ => hle a ha, by omega⟩
        · rintro ⟨hmem, -, hlargest, -⟩
          rcases List.mem_cons.mp hmem with heq | hrest
          · exact heq.symm
          · exact absurd (hlargest x List.mem_cons_self hx) (not_le.mpr (hhead b hrest))
      · rw [List.find?_cons_of_neg hx, ih htail]
        constructor
        · rintro ⟨hmem, hb, hlargest, hcount⟩
          refine ⟨List.mem_cons_of_mem x hmem, hb, ?_, ?_⟩
          · intro a ha hq
            rcases List.mem_cons.mp ha with rfl | hrest
            · exact absurd hq hx
            · exact hlargest a hrest hq
          · rw [List.countP_cons_of_pos (by simpa using hhead b hmem)]
            omega
        · rintro ⟨hmem, hb, hlargest, hcount⟩
          have hrest : b ∈ rows := by
            rcases List.mem_cons.mp hmem with rfl | hrest
            · exact absurd hb hx
            · exact hrest
          rw [List.countP_cons_of_pos (by simpa using hhead b hrest)] at hcount
          exact ⟨hrest, hb, fun a ha => hlargest a (List.mem_cons_of_mem x ha), by omega⟩

/-- Rows that are rewritten, and neither selected nor ordered by what is written. -/
theorem insertionSort_filter_map {α : Type*} (R : α → α → Prop) [DecidableRel R] {g : α → α}
    {q : α → Bool} (hq : ∀ r, q (g r) = q r) (hR : ∀ a b, R (g a) (g b) ↔ R a b)
    (rows : List α) :
    ((rows.map g).filter q).insertionSort R = ((rows.filter q).insertionSort R).map g := by
  have hfilter : (rows.map g).filter q = (rows.filter q).map g := by
    rw [List.filter_map]
    congr 1
    exact List.filter_congr (fun r _ => hq r)
  rw [hfilter]
  refine (List.map_insertionSort R R g (rows.filter q) ?_).symm
  intro a _ b _
  exact (hR a b).symm

end Table

end AutoCoinBot.Library
