/-
  Library.Drawdown — how far a curve falls from the highest it has been.

  `falls` measures every point of a curve from the peak before it. `staleFalls` measures the
  points of a batch from the peak before the batch, so what a point of the batch reaches is not
  seen by the later ones.
-/
import AutoCoinBot.Library.Run

namespace AutoCoinBot.Library

variable {K : Type*} [Field K] [LinearOrder K]

/-! ## Peaks and falls -/

/-- The highest of some values and one more. -/
def peakWith (values : List K) (x : K) : K := values.foldl max x

/-- The fall from a peak, as a share of it; a peak that is not above zero has no share. -/
def fall (peak x : K) : K := if 0 < peak then (x - peak) / peak else 0

omit [Field K] in
theorem peakWith_le_iff {values : List K} {x y : K} :
    peakWith values x ≤ y ↔ x ≤ y ∧ ∀ z ∈ values, z ≤ y := by
  induction values generalizing x with
  | nil => simp [peakWith]
  | cons z values ih =>
    show peakWith values (max x z) ≤ y ↔ _
    rw [ih, max_le_iff, List.forall_mem_cons, and_assoc]

omit [Field K] in
theorem le_peakWith (values : List K) (x : K) : x ≤ peakWith values x :=
  (peakWith_le_iff.mp (le_refl _)).1

omit [Field K] in
theorem le_peakWith_of_mem {values : List K} {x z : K} (h : z ∈ values) :
    z ≤ peakWith values x :=
  (peakWith_le_iff.mp (le_refl _)).2 z h

omit [Field K] in
/-- More values do not lower a peak. -/
theorem peakWith_le_append (values more : List K) (x : K) :
    peakWith values x ≤ peakWith (values ++ more) x :=
  peakWith_le_iff.mpr
    ⟨le_peakWith _ _, fun _ hz => le_peakWith_of_mem (List.mem_append_left _ hz)⟩

section Ordered

variable [IsStrictOrderedRing K]

/-- **When two peaks tell the same fall**: they are the same, or the higher one is not above
zero, or everything is lost from both. -/
theorem fall_eq_iff {p q x : K} (hx : x ≤ p) (hpq : p ≤ q) :
    fall p x = fall q x ↔ q = p ∨ q ≤ 0 ∨ (x = 0 ∧ 0 < p) := by
  unfold fall
  by_cases hp : 0 < p
  · have hq : 0 < q := hp.trans_le hpq
    rw [if_pos hp, if_pos hq, div_eq_div_iff hp.ne' hq.ne', or_iff_right (not_le.mpr hq),
      and_iff_left hp]
    constructor
    · intro h
      have hprod : x * (q - p) = 0 := by linarith
      rcases mul_eq_zero.mp hprod with hzero | hsame
      · exact .inr hzero
      · exact .inl (sub_eq_zero.mp hsame)
    · rintro (rfl | rfl)
      · rfl
      · ring
  · by_cases hq : 0 < q
    · rw [if_neg hp, if_pos hq]
      refine iff_of_false (fun h => ?_) ?_
      · -- the value lies under the peak, so the fall from it is real
        have hzero : x - q = 0 := ((div_eq_zero_iff.mp h.symm).resolve_right hq.ne')
        exact hp (hq.trans_le (by linarith))
      · rintro (h | h | h)
        · exact hp (h ▸ hq)
        · exact absurd h (not_le.mpr hq)
        · exact hp h.2
    · rw [if_neg hp, if_neg hq]
      exact iff_of_true rfl (.inr (.inl (not_lt.mp hq)))

/-! ## Curves -/

/-- The falls of the points of a curve that comes after some values. -/
def fallsAfter : List K → List K → List K
  | _, [] => []
  | before, x :: xs => fall (peakWith before x) x :: fallsAfter (before ++ [x]) xs

/-- The falls of the points of a curve. -/
def falls (curve : List K) : List K := fallsAfter [] curve

/-- The falls of a batch, all measured from what came before the batch. -/
def staleFalls (before xs : List K) : List K := xs.map (fun x => fall (peakWith before x) x)

/-- The deepest of some falls, as a magnitude. -/
def deepest (fs : List K) : K := fs.foldl (fun m f => max m |f|) 0

omit [IsStrictOrderedRing K] in
theorem fallsAfter_append (before xs ys : List K) :
    fallsAfter before (xs ++ ys) = fallsAfter before xs ++ fallsAfter (before ++ xs) ys := by
  induction xs generalizing before with
  | nil => simp [fallsAfter]
  | cons x xs ih =>
    rw [List.cons_append, fallsAfter, fallsAfter, ih, List.cons_append, List.append_assoc]
    rfl

omit [IsStrictOrderedRing K] in
theorem falls_append (curve xs : List K) :
    falls (curve ++ xs) = falls curve ++ fallsAfter curve xs := fallsAfter_append [] curve xs

omit [IsStrictOrderedRing K] in
theorem deepest_append (fs gs : List K) : deepest (fs ++ gs) = max (deepest fs) (deepest gs) := by
  have hacc : ∀ (gs : List K) (m : K), 0 ≤ m →
      gs.foldl (fun m f => max m |f|) m = max m (deepest gs) := by
    intro gs
    induction gs with
    | nil => intro m hm; exact (max_eq_left hm).symm
    | cons g gs ih =>
      intro m hm
      show gs.foldl _ (max m |g|) = max m (gs.foldl _ (max 0 |g|))
      rw [ih _ (hm.trans (le_max_left _ _)), ih _ (le_max_left _ _), ← max_assoc,
        ← max_assoc, max_eq_left hm]
  have hnonneg : 0 ≤ deepest fs := by
    have hfs := hacc fs 0 (le_refl _)
    exact le_max_left (0 : K) (deepest fs) |>.trans hfs.symm.le
  unfold deepest at *
  rw [List.foldl_append]
  exact hacc gs _ hnonneg

omit [IsStrictOrderedRing K] in
theorem deepest_le_iff {fs : List K} {m : K} :
    deepest fs ≤ m ↔ 0 ≤ m ∧ ∀ f ∈ fs, |f| ≤ m := by
  induction fs using List.reverseRecOn with
  | nil => simp [deepest]
  | append_singleton fs f ih =>
    have hlast : deepest [f] ≤ m ↔ 0 ≤ m ∧ |f| ≤ m := max_le_iff
    rw [deepest_append, max_le_iff, ih, hlast, List.forall_mem_append, List.forall_mem_singleton]
    tauto

omit [IsStrictOrderedRing K] in
theorem le_deepest {fs : List K} {f : K} (h : f ∈ fs) : |f| ≤ deepest fs :=
  (deepest_le_iff.mp (le_refl _)).2 f h

/-! ## Batches -/

/-- An earlier point of the batch stood higher than all that a point is measured from, and the
fall shows it. -/
def PeakMissed (before earlier : List K) (x : K) : Prop :=
  ∃ z ∈ earlier, peakWith before x < z ∧ 0 < z ∧ ¬ (x = 0 ∧ 0 < peakWith before x)

/-- No point of a batch misses a peak of the batch. -/
def PeaksSeen (before : List K) : List K → List K → Prop
  | _, [] => True
  | earlier, x :: xs => ¬ PeakMissed before earlier x ∧ PeaksSeen before (earlier ++ [x]) xs

/-- One point is measured as it should be exactly if it misses no peak. -/
theorem fall_stale_eq_iff (before earlier : List K) (x : K) :
    fall (peakWith before x) x = fall (peakWith (before ++ earlier) x) x
      ↔ ¬ PeakMissed before earlier x := by
  rw [fall_eq_iff (le_peakWith before x) (peakWith_le_append before earlier x)]
  constructor
  · rintro hsame ⟨z, hz, hhigher, hpos, hshows⟩
    have hreached : z ≤ peakWith (before ++ earlier) x :=
      le_peakWith_of_mem (List.mem_append_right _ hz)
    rcases hsame with heq | hlow | hlost
    · exact absurd (hreached.trans heq.le) (not_le.mpr hhigher)
    · exact absurd (hreached.trans hlow) (not_le.mpr hpos)
    · exact hshows hlost
  · intro hseen
    by_cases hlost : x = 0 ∧ 0 < peakWith before x
    · exact .inr (.inr hlost)
    · have hbound : ∀ z ∈ earlier, z ≤ max (peakWith before x) 0 := by
        intro z hz
        by_contra hover
        obtain ⟨hhigher, hpos⟩ := max_lt_iff.mp (not_le.mp hover)
        exact hseen ⟨z, hz, hhigher, hpos, hlost⟩
      have hpeak : peakWith (before ++ earlier) x ≤ max (peakWith before x) 0 := by
        refine peakWith_le_iff.mpr ⟨(le_peakWith before x).trans (le_max_left _ _), ?_⟩
        intro z hz
        rcases List.mem_append.mp hz with hz | hz
        · exact (le_peakWith_of_mem hz).trans (le_max_left _ _)
        · exact hbound z hz
      rcases le_total (peakWith before x) 0 with hnone | hsome
      · exact .inr (.inl (hpeak.trans (max_eq_right hnone).le))
      · exact .inl (le_antisymm (hpeak.trans (max_eq_left hsome).le)
          (peakWith_le_append before earlier x))

/-- **When a batch is measured as its points one by one.** -/
theorem staleFalls_eq_iff (before earlier xs : List K) :
    staleFalls before xs = fallsAfter (before ++ earlier) xs ↔ PeaksSeen before earlier xs := by
  induction xs generalizing earlier with
  | nil => exact iff_of_true rfl trivial
  | cons x xs ih =>
    have hrest := ih (earlier ++ [x])
    rw [← List.append_assoc] at hrest
    unfold staleFalls at hrest ⊢
    rw [List.map_cons, fallsAfter, List.cons.injEq, fall_stale_eq_iff, hrest]
    exact Iff.rfl

/-- A maximum that takes in the last fall of a batch takes in all of them. -/
def LastDeepest (m : K) (fs : List K) : Prop :=
  ∀ last ∈ fs.getLast?, ∀ f ∈ fs, |f| ≤ max m |last|

omit [IsStrictOrderedRing K] in
/-- **When the last fall of a batch is enough** for the maximum of the curve. -/
theorem maxFall_append_eq_iff {before fs : List K} {last : K} (hlast : fs.getLast? = some last) :
    max (deepest before) |last| = deepest (before ++ fs) ↔ LastDeepest (deepest before) fs := by
  have hmem : last ∈ fs := List.mem_of_getLast? hlast
  have hnonneg : 0 ≤ deepest before := (deepest_le_iff.mp (le_refl _)).1
  rw [deepest_append]
  unfold LastDeepest
  rw [hlast]
  constructor
  · intro h last' hlast' f hf
    obtain rfl := Option.mem_some_iff.mp hlast'
    exact (le_deepest hf).trans ((le_max_right _ _).trans h.ge)
  · intro h
    have hall := h last rfl
    refine le_antisymm (max_le_max (le_refl _) (le_deepest hmem)) (max_le (le_max_left _ _) ?_)
    exact deepest_le_iff.mpr ⟨hnonneg.trans (le_max_left _ _), hall⟩

end Ordered

end AutoCoinBot.Library
