/-
  Library.Occupancy — a nullable column that names what a row is taken by.

  A row carries a value or nothing. That no two rows carry one value is kept by whatever
  only clears the column or leaves it alone; writing a value into a row keeps it exactly if
  no other row carries that value already.
-/
import AutoCoinBot.Library.Table

namespace AutoCoinBot.Library.Table

variable {ρ κ : Type*} [Row ρ]

/-- The row under `k` carries `x`. -/
def Carries (t : Table ρ) (key : ρ → Option κ) (k : ℕ) (x : κ) : Prop :=
  ∃ r, t.get? k = some r ∧ key r = some x

/-- No two rows carry one value. -/
def CarriedOnce (t : Table ρ) (key : ρ → Option κ) : Prop :=
  ∀ j k x, t.Carries key j x → t.Carries key k x → j = k

variable {t t' : Table ρ} {key : ρ → Option κ}

theorem carriedOnce_of_rows_eq_nil (h : t.rows = []) : t.CarriedOnce key := by
  rintro j k x ⟨r, hr, -⟩ -
  have hmem : r ∈ t.rows := get?_some_mem hr
  rw [h] at hmem
  cases hmem

/-- **Fewer carriers** keep a value carried once. -/
theorem CarriedOnce.of_carries (h : t.CarriedOnce key)
    (hsub : ∀ k x, t'.Carries key k x → t.Carries key k x) : t'.CarriedOnce key :=
  fun j k x hj hk => h j k x (hsub j x hj) (hsub k x hk)

/-- An update that clears the column or leaves it alone brings no carrier. -/
theorem carries_modifyWhere (p : ρ → Bool) (f : ρ → ρ)
    (hf : ∀ r, Row.rowId (f r) = Row.rowId r) (hkey : ∀ r, key (f r) = none ∨ key (f r) = key r)
    {k : ℕ} {x : κ} (h : (t.modifyWhere p f hf).Carries key k x) : t.Carries key k x := by
  obtain ⟨r', hr', hx⟩ := h
  rw [get?_modifyWhere] at hr'
  obtain ⟨r, hr, heq⟩ := Option.map_eq_some_iff.mp hr'
  refine ⟨r, hr, ?_⟩
  by_cases hp : p r = true
  · rw [if_pos hp] at heq
    rw [← heq] at hx
    rcases hkey r with hnone | hsame
    · rw [hnone] at hx
      cases hx
    · rw [← hsame]
      exact hx
  · rw [if_neg hp] at heq
    rw [heq]
    exact hx

/-- A row that carries nothing brings no carrier. -/
theorem carries_insert {mk : ℕ → ρ} {hmk : ∀ k, Row.rowId (mk k) = k}
    (hnone : key (mk t.nextId) = none) {k : ℕ} {x : κ} (h : (t.insert mk hmk).Carries key k x) :
    t.Carries key k x := by
  obtain ⟨r, hr, hx⟩ := h
  by_cases hk : k = t.nextId
  · subst hk
    rw [get?_insert_self] at hr
    rw [← Option.some.inj hr, hnone] at hx
    cases hx
  · rw [get?_insert_of_ne t mk hmk hk] at hr
    exact ⟨r, hr, hx⟩

theorem carries_insertOrIgnore (key : ρ → Option κ) {ν : Type*} [DecidableEq ν] {column : ρ → ν}
    {mk : ℕ → ρ} {hmk : ∀ k, Row.rowId (mk k) = k} (hnone : key (mk t.nextId) = none) {k : ℕ} {x : κ}
    (h : (t.insertOrIgnore column mk hmk).Carries key k x) : t.Carries key k x := by
  unfold insertOrIgnore at h
  split at h
  · exact h
  · exact carries_insert hnone h

/-- Who carries what after the row under `j` is rewritten. -/
theorem carries_modify_row_iff (key : ρ → Option κ) {j : ℕ} {r : ρ} (hrow : t.get? j = some r)
    (f : ρ → ρ) (hf : ∀ r, Row.rowId (f r) = Row.rowId r) (k : ℕ) (x : κ) :
    (t.modify j f hf).Carries key k x ↔ if k = j then key (f r) = some x else t.Carries key k x := by
  by_cases hk : k = j
  · subst hk
    rw [if_pos rfl]
    constructor
    · rintro ⟨r', hr', hx⟩
      rw [get?_modify_self, hrow] at hr'
      rw [← Option.some.inj hr'] at hx
      exact hx
    · intro hx
      refine ⟨f r, ?_, hx⟩
      rw [get?_modify_self, hrow]
      rfl
  · rw [if_neg hk]
    unfold Carries
    rw [get?_modify_ne t f hf hk]

/-- Who carries what after a value is written into the row under `j`. -/
theorem carries_modify_iff (key : ρ → Option κ) {j : ℕ} {r : ρ} (hrow : t.get? j = some r)
    (f : ρ → ρ) (hf : ∀ r, Row.rowId (f r) = Row.rowId r) {y : κ} (hkey : ∀ r, key (f r) = some y) (k : ℕ)
    (x : κ) :
    (t.modify j f hf).Carries key k x ↔ if k = j then x = y else t.Carries key k x := by
  rw [carries_modify_row_iff key hrow f hf k x, hkey, Option.some_inj, @eq_comm _ y x]

/-- What the row under `k` carries anew, once `f` has rewritten it, no row carries yet. -/
def TakesFree (t : Table ρ) (key : ρ → Option κ) (k : ℕ) (f : ρ → ρ) : Prop :=
  ∀ r, t.get? k = some r → ∀ y, key (f r) = some y → key r ≠ some y → ∀ j, ¬ t.Carries key j y

/-- Who carries what in a table that sees the row under `k` rewritten by `f`. -/
theorem carries_rewritten_iff (key : ρ → Option κ) {k : ℕ} {f : ρ → ρ}
    (hget : ∀ i, t'.get? i = (t.get? i).map (fun r => if i = k then f r else r)) (i : ℕ) (x : κ) :
    t'.Carries key i x
      ↔ if i = k then ∃ r, t.get? k = some r ∧ key (f r) = some x else t.Carries key i x := by
  unfold Carries
  rw [hget]
  by_cases hi : i = k
  · subst hi
    simp only [↓reduceIte, Option.map_eq_some_iff, exists_exists_and_eq_and]
  · simp only [if_neg hi, Option.map_id']

/-- **Rewriting a row** keeps values carried once exactly if what it takes is free. -/
theorem carriedOnce_iff_takesFree (h : t.CarriedOnce key) {k : ℕ} {f : ρ → ρ}
    (hget : ∀ i, t'.get? i = (t.get? i).map (fun r => if i = k then f r else r)) :
    t'.CarriedOnce key ↔ t.TakesFree key k f := by
  have hcarries := carries_rewritten_iff key hget
  -- what the rewritten row carries, another row carries only if the row was not its carrier
  have hother : t.TakesFree key k f → ∀ r, t.get? k = some r → ∀ x, key (f r) = some x →
      ∀ j, j ≠ k → ¬ t.Carries key j x := by
    intro hfree r hr x hx j hj hcarried
    by_cases hold : key r = some x
    · exact hj (h j k x hcarried ⟨r, hr, hold⟩)
    · exact hfree r hr x hx hold j hcarried
  constructor
  · intro honce r hr y hy hnew j hj
    have hself : t'.Carries key k y := by
      rw [hcarries, if_pos rfl]
      exact ⟨r, hr, hy⟩
    by_cases hjk : j = k
    · subst hjk
      obtain ⟨r', hr', hcarried⟩ := hj
      rw [hr, Option.some_inj] at hr'
      rw [← hr'] at hcarried
      exact hnew hcarried
    · have hj' : t'.Carries key j y := by
        rw [hcarries, if_neg hjk]
        exact hj
      exact hjk (honce j k y hj' hself)
  · intro hfree i j x hi hj
    rw [hcarries] at hi hj
    by_cases hik : i = k
    · rw [if_pos hik] at hi
      obtain ⟨r, hr, hx⟩ := hi
      by_contra hne
      have hjk : j ≠ k := fun hjk => hne (hik.trans hjk.symm)
      rw [if_neg hjk] at hj
      exact hother hfree r hr x hx j hjk hj
    · rw [if_neg hik] at hi
      by_cases hjk : j = k
      · rw [if_pos hjk] at hj
        obtain ⟨r, hr, hx⟩ := hj
        exact absurd hi (hother hfree r hr x hx i hik)
      · rw [if_neg hjk] at hj
        exact h i j x hi hj

/-- **Rewriting a row** keeps values carried once exactly if no other row carries the value it has
then. -/
theorem carriedOnce_modify_row_iff (h : t.CarriedOnce key) {j : ℕ} {r : ρ} (hrow : t.get? j = some r)
    (f : ρ → ρ) (hf : ∀ r, Row.rowId (f r) = Row.rowId r) :
    (t.modify j f hf).CarriedOnce key
      ↔ ∀ y, key (f r) = some y → ∀ k, t.Carries key k y → k = j := by
  rw [carriedOnce_iff_takesFree h (fun i => get?_modify t i j f hf)]
  constructor
  · intro hfree y hy k hk
    by_cases hold : key r = some y
    · -- the row carried it before
      exact h k j y hk ⟨r, hrow, hold⟩
    · exact absurd hk (hfree r hrow y hy hold k)
  · intro honly r' hr' y hy hnew k hk
    obtain rfl : r = r' := Option.some.inj (hrow.symm.trans hr')
    obtain rfl := honly y hy k hk
    obtain ⟨r'', hr'', hcarried⟩ := hk
    rw [hrow, Option.some_inj] at hr''
    rw [← hr''] at hcarried
    exact hnew hcarried

/-- **Writing a value into a row** keeps values carried once exactly if no other row
carries it. -/
theorem carriedOnce_modify_iff (h : t.CarriedOnce key) {j : ℕ} {r : ρ} (hrow : t.get? j = some r)
    (f : ρ → ρ) (hf : ∀ r, Row.rowId (f r) = Row.rowId r) {y : κ}
    (hkey : ∀ r, key (f r) = some y) :
    (t.modify j f hf).CarriedOnce key ↔ ∀ k, t.Carries key k y → k = j := by
  rw [carriedOnce_modify_row_iff h hrow f hf]
  constructor
  · intro honly
    exact honly y (hkey r)
  · intro honly x hx
    rw [hkey, Option.some_inj] at hx
    rw [← hx]
    exact honly

/-- **A new row** keeps values carried once exactly if no row carries its value yet. -/
theorem carriedOnce_insert_iff (h : t.CarriedOnce key) (mk : ℕ → ρ)
    (hmk : ∀ k, Row.rowId (mk k) = k) :
    (t.insert mk hmk).CarriedOnce key
      ↔ ∀ y, key (mk t.nextId) = some y → ∀ j, ¬ t.Carries key j y := by
  have hself : ∀ y, (t.insert mk hmk).Carries key t.nextId y ↔ key (mk t.nextId) = some y := by
    intro y
    unfold Carries
    rw [get?_insert_self]
    simp only [Option.some_inj, exists_eq_left']
  have hother : ∀ j, j ≠ t.nextId → ∀ y, (t.insert mk hmk).Carries key j y ↔ t.Carries key j y := by
    intro j hj y
    unfold Carries
    rw [get?_insert_of_ne t mk hmk hj]
  have hne : ∀ j y, t.Carries key j y → j ≠ t.nextId := by
    rintro j y ⟨r, hr, -⟩
    exact Nat.ne_of_lt (get?_lt_nextId hr)
  constructor
  · intro honce y hy j hj
    have hjn : j ≠ t.nextId := hne j y hj
    exact hjn (honce j t.nextId y ((hother j hjn y).mpr hj) ((hself y).mpr hy))
  · intro hfree i j x hi hj
    by_cases hin : i = t.nextId
    · by_cases hjn : j = t.nextId
      · rw [hin, hjn]
      · rw [hin, hself] at hi
        exact absurd ((hother j hjn x).mp hj) (hfree x hi j)
    · rw [hother i hin] at hi
      by_cases hjn : j = t.nextId
      · rw [hjn, hself] at hj
        exact absurd hi (hfree x hj i)
      · exact h i j x hi ((hother j hjn x).mp hj)

/-- What the rows of a table carry. -/
theorem carriedOnce_iff_nodup : t.CarriedOnce key ↔ (t.rows.filterMap key).Nodup := by
  have hids : t.rows.Pairwise (fun r r' => Row.rowId r ≠ Row.rowId r') := List.pairwise_map.mp t.nodup
  unfold List.Nodup
  rw [List.pairwise_filterMap]
  constructor
  · intro honce
    refine (List.Pairwise.and_mem.mp hids).imp ?_
    rintro r r' ⟨hr, hr', hne⟩ x hx x' hx' rfl
    exact hne (honce _ _ x ⟨r, get?_of_mem hr, hx⟩ ⟨r', get?_of_mem hr', hx'⟩)
  · rintro hpairs j k x ⟨r, hr, hx⟩ ⟨r', hr', hx'⟩
    by_contra hne
    have hrows : r ≠ r' := by
      rintro rfl
      exact hne ((get?_some_rowId hr).symm.trans (get?_some_rowId hr'))
    have hsymm : Std.Symm (fun a a' : ρ => ∀ b, key a = some b → ∀ b', key a' = some b' → b ≠ b') :=
      ⟨fun a a' h b hb b' hb' heq => h b' hb' b hb heq.symm⟩
    exact hpairs.forall (get?_some_mem hr) (get?_some_mem hr') hrows x hx x hx' rfl

end AutoCoinBot.Library.Table
