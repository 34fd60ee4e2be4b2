/-
  Library.Upsert — batches of keyed records written by upserts.

  A batch writes each record under its key: it rewrites the row that is there or adds one. A row is
  then either a record of the batch or an old row whose key the batch does not have.
-/
import AutoCoinBot.Library.Aggregate
import AutoCoinBot.Library.Table

namespace AutoCoinBot.Library

section Upserts

variable {ρ κ : Type*} [Row ρ]

/-! ## One upsert -/

namespace Table

variable [DecidableEq κ] {t : Table ρ} {key : ρ → κ} {mk : ℕ → ρ} {hmk : ∀ k, Row.rowId (mk k) = k} {f : ρ → ρ}
  {hf : ∀ r, Row.rowId (f r) = Row.rowId r}

/-- A row after an upsert: an old row of another key, the new row, or the row that was
rewritten. -/
theorem mem_rows_upsert {r : ρ} (h : r ∈ (t.upsert key mk hmk f hf).rows) :
    (r ∈ t.rows ∧ key r ≠ key (mk t.nextId)) ∨ r = mk t.nextId
      ∨ ∃ old ∈ t.rows, key old = key (mk t.nextId) ∧ r = f old := by
  unfold upsert at h
  split at h
  · obtain ⟨old, hold, rfl⟩ := List.mem_map.mp h
    by_cases hkey : key old = key (mk t.nextId)
    · exact .inr (.inr ⟨old, hold, hkey, by simp [hkey]⟩)
    · exact .inl ⟨by simpa [hkey] using hold, by simp [hkey]⟩
  · rename_i hnone
    rw [rows_insert] at h
    rcases List.mem_append.mp h with h | h
    · refine .inl ⟨h, fun hkey => hnone ?_⟩
      exact List.any_eq_true.mpr ⟨r, h, by simpa using hkey⟩
    · exact .inr (.inl (List.mem_singleton.mp h))

/-- The key of an upsert has a row, and no key loses its own. -/
theorem exists_key_upsert (hkey : ∀ r, key (f r) = key r) {x : κ}
    (h : x = key (mk t.nextId) ∨ ∃ r ∈ t.rows, key r = x) :
    ∃ r ∈ (t.upsert key mk hmk f hf).rows, key r = x := by
  unfold upsert
  split
  · rename_i hany
    have hold : ∃ r ∈ t.rows, key r = x := by
      rcases h with rfl | h
      · obtain ⟨r, hr, hrx⟩ := List.any_eq_true.mp hany
        exact ⟨r, hr, by simpa using hrx⟩
      · exact h
    obtain ⟨r, hr, hrx⟩ := hold
    refine ⟨_, List.mem_map.mpr ⟨r, hr, rfl⟩, ?_⟩
    split
    · rw [hkey, hrx]
    · exact hrx
  · rw [rows_insert]
    rcases h with rfl | ⟨r, hr, hrx⟩
    · exact ⟨_, List.mem_append_right _ List.mem_cons_self, rfl⟩
    · exact ⟨r, List.mem_append_left _ hr, hrx⟩

end Table

/-! ## A batch -/

section Batch

variable {ε : Type*} (write : Table ρ → ε → Table ρ) (key : ρ → κ) (recordKey : ε → κ)

/-- Every row after writing a record is an old row of another key, or `shows` the record. -/
def WritesRecord (shows : ε → ρ → Prop) : Prop :=
  ∀ t e, ∀ r ∈ (write t e).rows, (r ∈ t.rows ∧ key r ≠ recordKey e) ∨ shows e r

/-- Writing a record leaves every key and the record's own with a row. -/
def KeepsKeys : Prop :=
  ∀ t e x, (x = recordKey e ∨ ∃ r ∈ t.rows, key r = x) → ∃ r ∈ (write t e).rows, key r = x

variable {write key recordKey} {shows : ε → ρ → Prop}

/-- **The rows after a batch**: old rows of keys the batch does not have, and rows that
show a record of the batch. -/
theorem mem_rows_batch (hwrite : WritesRecord write key recordKey shows) {t : Table ρ}
    {batch : List ε} {r : ρ} (h : r ∈ (batch.foldl write t).rows) :
    (r ∈ t.rows ∧ ∀ e ∈ batch, key r ≠ recordKey e) ∨ ∃ e ∈ batch, shows e r := by
  induction batch generalizing t with
  | nil => exact .inl ⟨h, by simp⟩
  | cons e batch ih =>
    rcases ih h with ⟨hmem, hother⟩ | ⟨e', he', hshows⟩
    · rcases hwrite t e r hmem with ⟨hold, hne⟩ | hshows
      · refine .inl ⟨hold, fun e' he' => ?_⟩
        rcases List.mem_cons.mp he' with rfl | he'
        · exact hne
        · exact hother e' he'
      · exact .inr ⟨e, List.mem_cons_self, hshows⟩
    · exact .inr ⟨e', List.mem_cons_of_mem _ he', hshows⟩

/-- Every old key and every key of the batch has a row after it. -/
theorem exists_key_batch (hkeys : KeepsKeys write key recordKey) {t : Table ρ} {batch : List ε}
    {x : κ} (h : (∃ e ∈ batch, recordKey e = x) ∨ ∃ r ∈ t.rows, key r = x) :
    ∃ r ∈ (batch.foldl write t).rows, key r = x := by
  induction batch generalizing t with
  | nil =>
    rcases h with ⟨e, he, -⟩ | h
    · cases he
    · exact h
  | cons e batch ih =>
    refine ih ?_
    rcases h with ⟨e', he', hkey⟩ | hold
    · rcases List.mem_cons.mp he' with rfl | he'
      · exact .inr (hkeys t _ x (.inl hkey.symm))
      · exact .inl ⟨e', he', hkey⟩
    · exact .inr (hkeys t e x (.inr hold))

end Batch

/-! ## Totals -/

/-- **Same keys, same figures, same total.** -/
theorem sum_eq_of_keys {α β M : Type*} [AddCommMonoid M] {l : List α} {l' : List β} {k : α → κ}
    {k' : β → κ} {g : α → M} {g' : β → M} (hl : (l.map k).Nodup) (hl' : (l'.map k').Nodup)
    (hfound : ∀ a ∈ l, ∃ b ∈ l', k' b = k a ∧ g' b = g a)
    (hcovered : ∀ b ∈ l', ∃ a ∈ l, k a = k' b) : (l.map g).sum = (l'.map g').sum := by
  have hpairs : (l.map (fun a => (k a, g a))).Perm (l'.map (fun b => (k' b, g' b))) := by
    have hnodup : (l.map (fun a => (k a, g a))).Nodup := by
      refine List.Nodup.of_map Prod.fst ?_
      rwa [List.map_map]
    have hnodup' : (l'.map (fun b => (k' b, g' b))).Nodup := by
      refine List.Nodup.of_map Prod.fst ?_
      rwa [List.map_map]
    refine (List.perm_ext_iff_of_nodup hnodup hnodup').mpr (fun p => ?_)
    constructor
    · intro hp
      obtain ⟨a, ha, rfl⟩ := List.mem_map.mp hp
      obtain ⟨b, hb, hkey, hfig⟩ := hfound a ha
      exact List.mem_map.mpr ⟨b, hb, by rw [hkey, hfig]⟩
    · intro hp
      obtain ⟨b, hb, rfl⟩ := List.mem_map.mp hp
      obtain ⟨a, ha, hkey⟩ := hcovered b hb
      obtain ⟨b', hb', hkey', hfig'⟩ := hfound a ha
      -- the keys are distinct, so the two entries are one
      have hb : b = b' := List.inj_on_of_nodup_map hl' hb hb' (hkey.symm.trans hkey'.symm)
      exact List.mem_map.mpr ⟨a, ha, by rw [hkey, ← hfig', hb]⟩
  have hsum := (hpairs.map Prod.snd).sum_eq
  rwa [List.map_map, List.map_map] at hsum

end Upserts

/-! ## The last record of every key -/

section LastPerKey

variable {ε κ : Type*} [DecidableEq κ] {k : ε → κ}

/-- The last record of every key, in the order of the batch. -/
def lastPerKey (k : ε → κ) (es : List ε) : List ε := es.pwFilter (fun a b => k a ≠ k b)

@[simp] theorem lastPerKey_nil : lastPerKey k [] = [] := rfl

theorem nodup_lastPerKey (k : ε → κ) (es : List ε) : ((lastPerKey k es).map k).Nodup :=
  List.pairwise_map.mpr (List.pairwise_pwFilter es)

theorem mem_of_mem_lastPerKey {es : List ε} {e : ε} (h : e ∈ lastPerKey k es) : e ∈ es :=
  List.pwFilter_subset es h

/-- The first record is the last of its key if no other one has it. -/
theorem lastPerKey_cons (a : ε) (es : List ε) :
    lastPerKey k (a :: es)
      = if ∀ b ∈ es, k a ≠ k b then a :: lastPerKey k es else lastPerKey k es := by
  have hforall : (∀ b ∈ lastPerKey k es, k a ≠ k b) ↔ ∀ b ∈ es, k a ≠ k b :=
    List.forall_mem_pwFilter (fun {x y z} hxz => by
      by_cases hxy : k x = k y
      · exact .inr (fun hyz => hxz (hxy.trans hyz))
      · exact .inl hxy) a es
  split_ifs with h
  · exact List.pwFilter_cons_of_pos (hforall.mpr h)
  · exact List.pwFilter_cons_of_neg (fun h' => h (hforall.mp h'))

/-- One record more takes the place of those with its key. -/
theorem lastPerKey_append (es : List ε) (e : ε) :
    lastPerKey k (es ++ [e]) = (lastPerKey k es).filter (fun e' => k e' ≠ k e) ++ [e] := by
  induction es with
  | nil => rfl
  | cons a es ih =>
    rw [List.cons_append, lastPerKey_cons, lastPerKey_cons, ih]
    by_cases hlater : ∀ b ∈ es, k a ≠ k b
    · rw [if_pos hlater, List.filter_cons]
      by_cases hsame : k a = k e
      · have hnot : ¬ ∀ b ∈ es ++ [e], k a ≠ k b :=
          fun h => h e (List.mem_append_right _ List.mem_cons_self) hsame
        rw [if_neg hnot, if_neg (by simpa using hsame)]
      · have hall : ∀ b ∈ es ++ [e], k a ≠ k b := by
          intro b hb
          rcases List.mem_append.mp hb with hb | hb
          · exact hlater b hb
          · rw [List.mem_singleton.mp hb]
            exact hsame
        rw [if_pos hall, if_pos (by simpa using hsame)]
        rfl
    · have hnot : ¬ ∀ b ∈ es ++ [e], k a ≠ k b :=
        fun h => hlater (fun b hb => h b (List.mem_append_left _ hb))
      rw [if_neg hlater, if_neg hnot]

/-- What is made of the last records are the last of what is made of all. -/
theorem map_lastPerKey {δ : Type*} {j : δ → κ} {f : ε → δ} (h : ∀ e, j (f e) = k e)
    (es : List ε) : (lastPerKey k es).map f = lastPerKey j (es.map f) := by
  induction es with
  | nil => rfl
  | cons a es ih =>
    have hiff : (∀ b ∈ es, k a ≠ k b) ↔ ∀ b ∈ es.map f, j (f a) ≠ j b := by
      rw [List.forall_mem_map]
      exact forall₂_congr (fun b _ => by rw [h, h])
    rw [List.map_cons, lastPerKey_cons, lastPerKey_cons, ← ih]
    by_cases hlast : ∀ b ∈ es, k a ≠ k b
    · rw [if_pos hlast, if_pos (hiff.mp hlast), List.map_cons]
    · rw [if_neg hlast, if_neg (fun h' => hlast (hiff.mpr h'))]

theorem mem_lastPerKey_append {es : List ε} {e e' : ε} :
    e' ∈ lastPerKey k (es ++ [e]) ↔ (e' ∈ lastPerKey k es ∧ k e' ≠ k e) ∨ e' = e := by
  rw [lastPerKey_append]
  simp

end LastPerKey

/-! ## The rows after a batch -/

section Batch

variable {ρ κ ε M : Type*} [Row ρ] [DecidableEq κ] {write : Table ρ → ε → Table ρ} {key : ρ → κ}
  {recordKey : ε → κ} {shows : ε → ρ → Prop} {t : Table ρ} {batch : List ε}

/-- **The rows after a batch**: old rows of keys the batch does not have, and rows that show the
last record of their key. -/
theorem mem_rows_batch_last (hwrite : WritesRecord write key recordKey shows)
    (hshows : ∀ e r, shows e r → key r = recordKey e) {r : ρ}
    (h : r ∈ (batch.foldl write t).rows) :
    (r ∈ t.rows ∧ ∀ e ∈ batch, key r ≠ recordKey e) ∨ ∃ e ∈ lastPerKey recordKey batch, shows e r := by
  induction batch using List.reverseRecOn generalizing r with
  | nil => exact .inl ⟨h, by simp⟩
  | append_singleton batch last ih =>
    rw [List.foldl_append] at h
    rcases hwrite _ last r h with ⟨hold, hne⟩ | hlast
    · rcases ih hold with ⟨hmem, hother⟩ | ⟨e, he, hshow⟩
      · refine .inl ⟨hmem, fun e he => ?_⟩
        rcases List.mem_append.mp he with he | he
        · exact hother e he
        · rw [List.mem_singleton.mp he]
          exact hne
      · refine .inr ⟨e, mem_lastPerKey_append.mpr (.inl ⟨he, ?_⟩), hshow⟩
        rw [← hshows e r hshow]
        exact hne
    · exact .inr ⟨last, mem_lastPerKey_append.mpr (.inr rfl), hlast⟩

/-- The rows after a batch, with `row e` for the record `e`. -/
def rowsAfter (key : ρ → κ) (recordKey : ε → κ) (row : ε → ρ) (t : Table ρ) (batch : List ε) :
    List ρ :=
  t.rows.filter (fun r => decide (∀ e ∈ batch, key r ≠ recordKey e))
    ++ (lastPerKey recordKey batch).map row

/-- **A total over the rows after a batch**, of a figure that the rows of one record share. -/
theorem sumWhere_rows_batch [AddCommMonoid M] (hwrite : WritesRecord write key recordKey shows)
    (hkeys : KeepsKeys write key recordKey) (hshows : ∀ e r, shows e r → key r = recordKey e)
    (hbefore : t.UniqueOn key) (hafter : (batch.foldl write t).UniqueOn key) {row : ε → ρ}
    (hrow : ∀ e, key (row e) = recordKey e) {p : ρ → Bool} {g : ρ → M}
    (hfigure : ∀ e r, shows e r →
      (if p (row e) then g (row e) else 0) = if p r then g r else 0) :
    sumWhere (batch.foldl write t).rows p g = sumWhere (rowsAfter key recordKey row t batch) p g := by
  have hkept : ((t.rows.filter
      (fun r => decide (∀ e ∈ batch, key r ≠ recordKey e))).map key).Nodup :=
    (List.filter_sublist.map _).nodup hbefore
  have hlast : ((lastPerKey recordKey batch).map row).map key
      = (lastPerKey recordKey batch).map recordKey := by
    rw [List.map_map]
    exact List.map_congr_left (fun e _ => hrow e)
  have hrows : ((rowsAfter key recordKey row t batch).map key).Nodup := by
    -- no record has the key of a row that is left alone
    unfold rowsAfter
    rw [List.map_append, hlast]
    refine List.Nodup.append hkept (nodup_lastPerKey recordKey batch) ?_
    intro x hx hx'
    obtain ⟨r, hr, rfl⟩ := List.mem_map.mp hx
    obtain ⟨e, he, hkey⟩ := List.mem_map.mp hx'
    have hother := of_decide_eq_true (List.mem_filter.mp hr).2
    exact hother e (mem_of_mem_lastPerKey he) hkey.symm
  -- the two lists have one row of every key, with the same figure
  refine sum_eq_of_keys hafter hrows ?_ ?_
  · intro r hr
    rcases mem_rows_batch_last hwrite hshows hr with ⟨hold, hother⟩ | ⟨e, he, hshow⟩
    · refine ⟨r, List.mem_append_left _ ?_, rfl, rfl⟩
      exact List.mem_filter.mpr ⟨hold, decide_eq_true hother⟩
    · refine ⟨row e, List.mem_append_right _ (List.mem_map_of_mem he), ?_, hfigure e r hshow⟩
      rw [hrow, hshows e r hshow]
  · intro r hr
    rcases List.mem_append.mp hr with hr | hr
    · exact exists_key_batch hkeys (.inr ⟨r, (List.mem_filter.mp hr).1, rfl⟩)
    · obtain ⟨e, he, rfl⟩ := List.mem_map.mp hr
      rw [hrow]
      exact exists_key_batch hkeys (.inl ⟨e, mem_of_mem_lastPerKey he, rfl⟩)

end Batch

end AutoCoinBot.Library
