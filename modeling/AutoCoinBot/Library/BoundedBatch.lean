/-
  Library.BoundedBatch — rounds that serve the first few of what is pending.

  Each round takes the `n` least pending items and works on them. An item whose work can be done is
  then no longer pending; one whose work cannot be done stays, and stands before the others again.
-/
import AutoCoinBot.Library.Batch
import AutoCoinBot.Library.Paging

namespace AutoCoinBot.Library

variable {ρ κ τ : Type*} [LinearOrder κ] (key : ρ → κ) (pending : ρ → Bool)

/-! ## Rounds -/

/-- Among the `n` least pending items. -/
def Served (n : ℕ) (rows : List ρ) (r : ρ) : Prop :=
  pending r = true ∧ rows.countP (fun a => pending a && decide (key a < key r)) < n

instance (n : ℕ) (rows : List ρ) : DecidablePred (Served key pending n rows) := fun r => by
  unfold Served
  infer_instance

/-- One round. -/
def serveRound (process : ρ → ρ) (n : ℕ) (rows : List ρ) : List ρ :=
  rows.map (fun r => if Served key pending n rows r then process r else r)

/-- The items after `m` rounds, the `k`th at `times k`. -/
def serveRounds (process : τ → ρ → ρ) (n : ℕ) (times : ℕ → τ) (rows : List ρ) : ℕ → List ρ
  | 0 => rows
  | m + 1 => serveRound key pending (process (times m)) n (serveRounds process n times rows m)

variable {key pending}

/-- **Which items a round takes**, of items in order. -/
theorem mem_take_pending_iff {rows sorted : List ρ} (hperm : sorted.Perm (rows.filter pending))
    (hsorted : sorted.Pairwise (fun a b => key a < key b)) {n : ℕ} {r : ρ} (hr : r ∈ rows) :
    r ∈ sorted.take n ↔ Served key pending n rows r := by
  have hdual : sorted.Pairwise (fun a b => OrderDual.toDual (key b) < OrderDual.toDual (key a)) :=
    hsorted
  rw [mem_take_of_sorted hdual, hperm.mem_iff, hperm.countP_eq, List.mem_filter,
    List.countP_filter]
  unfold Served
  simp only [hr, true_and, OrderDual.toDual_lt_toDual, Bool.and_comm]

/-! ## What rounds keep -/

/-- What the work does to an item that satisfies `inv`: it keeps the item's place and whether it can
be done; up to the place `last`, an item stays pending only if it cannot be done. -/
structure Serves (key : ρ → κ) (pending : ρ → Bool) (process : τ → ρ → ρ) (doable : ρ → Bool)
    (inv : ρ → Prop) (last : κ) : Prop where
  key_eq : ∀ t r, key (process t r) = key r
  inv_keep : ∀ t r, inv r → inv (process t r)
  doable_eq : ∀ t r, doable (process t r) = doable r
  pending_eq : ∀ t r, inv r → key r ≤ last → pending r = true → pending (process t r) = !doable r

section Rounds

variable {process : τ → ρ → ρ} {doable : ρ → Bool} {inv : ρ → Prop} {last : κ} {n : ℕ}
  {rows : List ρ}

/-- The items before a place that wait in vain. -/
def stuckBefore (key : ρ → κ) (pending doable : ρ → Bool) (last : κ) (rows : List ρ) : ℕ :=
  rows.countP (fun a => pending a && !doable a && decide (key a < last))

/-- The items up to a place whose work can be done. -/
def openUpTo (key : ρ → κ) (pending doable : ρ → Bool) (last : κ) (rows : List ρ) : ℕ :=
  rows.countP (fun a => pending a && doable a && decide (key a ≤ last))

theorem inv_serveRound (h : Serves key pending process doable inv last) (t : τ)
    (hinv : ∀ r ∈ rows, inv r) : ∀ r ∈ serveRound key pending (process t) n rows, inv r := by
  intro r hr
  obtain ⟨old, hold, rfl⟩ := List.mem_map.mp hr
  split
  · exact h.inv_keep t old (hinv old hold)
  · exact hinv old hold

theorem keys_serveRound (h : Serves key pending process doable inv last) (t : τ) :
    (serveRound key pending (process t) n rows).map key = rows.map key := by
  unfold serveRound
  rw [List.map_map]
  refine List.map_congr_left ?_
  intro r _
  simp only [Function.comp_apply]
  split
  · exact h.key_eq t r
  · rfl

/-- **What waits in vain** goes on waiting. -/
theorem stuckBefore_serveRound (h : Serves key pending process doable inv last) (t : τ)
    (hinv : ∀ r ∈ rows, inv r) :
    stuckBefore key pending doable last (serveRound key pending (process t) n rows)
      = stuckBefore key pending doable last rows := by
  unfold stuckBefore serveRound
  rw [List.countP_map]
  refine List.countP_congr ?_
  intro r hr
  simp only [Function.comp_apply]
  split
  · next hserved =>
      rw [h.key_eq, h.doable_eq]
      by_cases hbefore : key r < last
      · rw [h.pending_eq t r (hinv r hr) hbefore.le hserved.1, hserved.1]
        cases doable r <;> simp
      · simp [hbefore]
  · exact Iff.rfl

/-- **A round does the first** of the items that can be done, if fewer than `n` stand before it in
vain. -/
theorem openUpTo_serveRound_lt (h : Serves key pending process doable inv last) (t : τ)
    (hinv : ∀ r ∈ rows, inv r) (hfew : stuckBefore key pending doable last rows < n)
    (hopen : 0 < openUpTo key pending doable last rows) :
    openUpTo key pending doable last (serveRound key pending (process t) n rows)
      < openUpTo key pending doable last rows := by
  unfold openUpTo at hopen
  rw [List.countP_eq_length_filter] at hopen
  -- the least item that can be done
  obtain ⟨first, hfirst⟩ : ∃ first, ((rows.filter (fun a =>
      pending a && doable a && decide (key a ≤ last))).argmin key) = some first := by
    cases hmin : (rows.filter (fun a =>
        pending a && doable a && decide (key a ≤ last))).argmin key with
    | none =>
      rw [List.argmin_eq_none] at hmin
      rw [hmin] at hopen
      exact absurd hopen (lt_irrefl 0)
    | some first => exact ⟨first, rfl⟩
  have hleast : ∀ a ∈ rows, pending a = true → doable a = true → key a < key first →
      last < key a := by
    intro a ha hpending hdoable hlt
    by_contra hnot
    have hmem : a ∈ rows.filter (fun a => pending a && doable a && decide (key a ≤ last)) := by
      rw [List.mem_filter]
      exact ⟨ha, by simp [hpending, hdoable, not_lt.mp hnot]⟩
    exact absurd (List.le_of_mem_argmin hmem hfirst) (not_le.mpr hlt)
  obtain ⟨hrow, haccepted⟩ := List.mem_filter.mp (List.argmin_mem hfirst)
  simp only [Bool.and_eq_true, decide_eq_true_eq] at haccepted
  obtain ⟨⟨hpending, hdoable⟩, hle⟩ := haccepted
  have hserved : Served key pending n rows first := by
    refine ⟨hpending, lt_of_le_of_lt (List.countP_mono_left ?_) hfew⟩
    intro a ha hbefore
    simp only [Bool.and_eq_true, decide_eq_true_eq] at hbefore
    have hstuck : doable a = false := by
      by_contra hnot
      have hlate := hleast a ha hbefore.1 (by simpa using hnot) hbefore.2
      exact absurd (hbefore.2.trans_le hle) (not_lt.mpr hlate.le)
    simp [hbefore.1, hstuck, hbefore.2.trans_le hle]
  unfold openUpTo serveRound
  refine countP_map_lt ?_ hrow ?_ ?_
  · intro a ha
    split
    · next hserved' =>
        rw [h.key_eq, h.doable_eq]
        intro hstill
        simp only [Bool.and_eq_true, decide_eq_true_eq] at hstill
        rw [h.pending_eq t a (hinv a ha) hstill.2 hserved'.1] at hstill
        simp [hstill.1.2] at hstill
    · exact fun hstill => hstill
  · simp [hpending, hdoable, hle]
  · rw [if_pos hserved, h.key_eq, h.doable_eq, h.pending_eq t first (hinv first hrow) hle hpending]
    simp [hdoable]

/-! ## What rounds reach -/

variable {times : ℕ → τ}

theorem inv_serveRounds (h : Serves key pending process doable inv last)
    (hinv : ∀ r ∈ rows, inv r) (m : ℕ) :
    ∀ r ∈ serveRounds key pending process n times rows m, inv r := by
  induction m with
  | zero => exact hinv
  | succ m ih => exact inv_serveRound h (times m) ih

theorem keys_serveRounds (h : Serves key pending process doable inv last) (m : ℕ) :
    (serveRounds key pending process n times rows m).map key = rows.map key := by
  induction m with
  | zero => rfl
  | succ m ih => exact (keys_serveRound h (times m)).trans ih

theorem stuckBefore_serveRounds (h : Serves key pending process doable inv last)
    (hinv : ∀ r ∈ rows, inv r) (m : ℕ) :
    stuckBefore key pending doable last (serveRounds key pending process n times rows m)
      = stuckBefore key pending doable last rows := by
  induction m with
  | zero => rfl
  | succ m ih =>
    exact (stuckBefore_serveRound h (times m) (inv_serveRounds h hinv m)).trans ih

/-- **`n` items that cannot be done keep those behind them waiting.** -/
theorem blocked_serveRounds (h : Serves key pending process doable inv last)
    (hinv : ∀ r ∈ rows, inv r) (hstuck : n ≤ stuckBefore key pending doable last rows) {r : ρ}
    (hr : r ∈ rows) (hkey : key r = last) (m : ℕ) :
    r ∈ serveRounds key pending process n times rows m := by
  induction m with
  | zero => exact hr
  | succ m ih =>
    refine List.mem_map.mpr ⟨r, ih, if_neg ?_⟩
    intro hserved
    refine absurd hserved.2 (not_lt.mpr (hstuck.trans ?_))
    rw [← stuckBefore_serveRounds h hinv m, hkey]
    unfold stuckBefore
    refine List.countP_mono_left ?_
    intro a _ ha
    simp only [Bool.and_eq_true, decide_eq_true_eq] at ha ⊢
    exact ⟨ha.1.1, ha.2⟩

/-- Rounds do all that can be done up to a place. -/
theorem exists_openUpTo_eq_zero (h : Serves key pending process doable inv last)
    (hinv : ∀ r ∈ rows, inv r) (hfew : stuckBefore key pending doable last rows < n) :
    ∃ m, openUpTo key pending doable last (serveRounds key pending process n times rows m) = 0 := by
  by_contra hnever
  have hopen : ∀ m, 0 < openUpTo key pending doable last
      (serveRounds key pending process n times rows m) := by
    intro m
    by_contra hzero
    exact hnever ⟨m, Nat.eq_zero_of_not_pos hzero⟩
  have hdescend : ∀ m, openUpTo key pending doable last
      (serveRounds key pending process n times rows m) + m
        ≤ openUpTo key pending doable last rows := by
    intro m
    induction m with
    | zero => exact Nat.le_refl _
    | succ m ih =>
      have hstuck : stuckBefore key pending doable last
          (serveRounds key pending process n times rows m)
            = stuckBefore key pending doable last rows := stuckBefore_serveRounds h hinv m
      have hless := openUpTo_serveRound_lt h (times m) (inv_serveRounds h hinv m)
        (by rw [hstuck]; exact hfew) (hopen m)
      unfold serveRounds
      omega
  have hlast := hdescend (openUpTo key pending doable last rows)
  have hpos := hopen (openUpTo key pending doable last rows)
  omega

theorem doable_serveRounds (h : Serves key pending process doable inv last)
    (hdoable : ∀ a ∈ rows, key a = last → doable a = true) (m : ℕ) :
    ∀ a ∈ serveRounds key pending process n times rows m, key a = last → doable a = true := by
  induction m with
  | zero => exact hdoable
  | succ m ih =>
    intro a ha hkey
    obtain ⟨old, hold, rfl⟩ := List.mem_map.mp ha
    split at hkey
    · next hserved =>
        rw [if_pos hserved, h.doable_eq]
        rw [h.key_eq] at hkey
        exact ih old hold hkey
    · next hserved =>
        rw [if_neg hserved]
        exact ih old hold hkey

/-- An item that cannot be done stays pending. -/
theorem pending_serveRounds (h : Serves key pending process doable inv last)
    (hinv : ∀ r ∈ rows, inv r)
    (hstuck : ∀ a ∈ rows, key a = last → pending a = true ∧ doable a = false) (m : ℕ) :
    ∀ a ∈ serveRounds key pending process n times rows m, key a = last →
      pending a = true ∧ doable a = false := by
  induction m with
  | zero => exact hstuck
  | succ m ih =>
    intro a ha hkey
    obtain ⟨old, hold, rfl⟩ := List.mem_map.mp ha
    split at hkey
    · next hserved =>
        rw [if_pos hserved]
        rw [h.key_eq] at hkey
        have hold' := ih old hold hkey
        rw [h.doable_eq, h.pending_eq (times m) old (inv_serveRounds h hinv m old hold) hkey.le
          hold'.1, hold'.2]
        exact ⟨rfl, rfl⟩
    · next hserved =>
        rw [if_neg hserved]
        exact ih old hold hkey

/-- **An item is done** after some rounds just if it can be, and fewer than `n` that cannot stand
before it. -/
theorem done_serveRounds_iff (h : Serves key pending process doable inv last)
    (hinv : ∀ r ∈ rows, inv r) {r : ρ} (hr : r ∈ rows) (hkey : key r = last)
    (hpending : pending r = true) (honly : ∀ a ∈ rows, key a = last → a = r) :
    (∃ m, ∀ a ∈ serveRounds key pending process n times rows m, key a = last → pending a = false)
      ↔ doable r = true ∧ stuckBefore key pending doable last rows < n := by
  constructor
  · intro hdone
    obtain ⟨m, hm⟩ := hdone
    refine ⟨?_, ?_⟩
    · by_contra hnot
      have hstuck : ∀ a ∈ rows, key a = last → pending a = true ∧ doable a = false := by
        intro a ha hkey'
        rw [honly a ha hkey']
        exact ⟨hpending, by simpa using hnot⟩
      have hplace : last ∈ (serveRounds key pending process n times rows m).map key := by
        rw [keys_serveRounds h m, ← hkey]
        exact List.mem_map_of_mem hr
      obtain ⟨a, ha, hkey'⟩ := List.mem_map.mp hplace
      have hstill := (pending_serveRounds h hinv hstuck m a ha hkey').1
      rw [hm a ha hkey'] at hstill
      cases hstill
    · by_contra hmany
      have hnot := hm r (blocked_serveRounds h hinv (not_lt.mp hmany) hr hkey m) hkey
      rw [hpending] at hnot
      cases hnot
  · intro hcan
    have hdoable : ∀ a ∈ rows, key a = last → doable a = true := by
      intro a ha hkey'
      rw [honly a ha hkey']
      exact hcan.1
    obtain ⟨m, hm⟩ : ∃ m, openUpTo key pending doable last
        (serveRounds key pending process n times rows m) = 0 :=
      exists_openUpTo_eq_zero h hinv hcan.2
    refine ⟨m, ?_⟩
    intro a ha hkey'
    have hnone := List.countP_eq_zero.mp hm a ha
    rw [doable_serveRounds h hdoable m a ha hkey', hkey'] at hnone
    simpa using hnone

end Rounds

end AutoCoinBot.Library
