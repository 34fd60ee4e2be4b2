/-
  Strategies.RsiSignals — where `rsi_strategy` of app/strategies.py emits a signal.

  The index of a window is 100 * G / (G + L) for its mean gain G and its mean loss L.
-/
import AutoCoinBot.Strategies.ApplyStrategy

namespace AutoCoinBot

open Library

/-! ## The index of a window -/

/-- What each close differs by from the one before. -/
def differences (close : List ℚ) : List ℚ := List.zipWith (· - ·) close.tail close

/-- The `n` differences before the end of row `t`. -/
def windowDifferences (n : ℕ) (close : List ℚ) (t : ℕ) : List ℚ :=
  ((differences close).drop (t - n)).take n

def meanGain (n : ℕ) (close : List ℚ) (t : ℕ) : ℚ :=
  mean ((windowDifferences n close t).map (fun d => max d 0))

def meanLoss (n : ℕ) (close : List ℚ) (t : ℕ) : ℚ :=
  mean ((windowDifferences n close t).map (fun d => max (-d) 0))

/-- The index of row `t`, where there are `n` differences and one of them is not zero. -/
def strengthIndex (n : ℕ) (close : List ℚ) (t : ℕ) : Option ℚ :=
  if n ≤ t ∧ 0 < meanGain n close t + meanLoss n close t then
    some (100 * meanGain n close t / (meanGain n close t + meanLoss n close t))
  else none

/-- The index of row `t` that `rsi_strategy` sees: where there is no loss, there is none. -/
def seenIndex (n : ℕ) (close : List ℚ) (t : ℕ) : Option ℚ :=
  if meanLoss n close t = 0 then none else strengthIndex n close t

/-- The index is so in the row before and so in this one. -/
def Crosses (prior now : ℚ → Prop) (index : ℕ → Option ℚ) (t : ℕ) : Prop :=
  1 ≤ t ∧ ∃ a ∈ index (t - 1), ∃ b ∈ index t, prior a ∧ now b

/-- The index comes from at most the level and is above it now. -/
def CrossesAbove (level : ℚ) : (ℕ → Option ℚ) → ℕ → Prop := Crosses (· ≤ level) (level < ·)

/-- The index comes from at least the level and is below it now. -/
def CrossesBelow (level : ℚ) : (ℕ → Option ℚ) → ℕ → Prop := Crosses (level ≤ ·) (· < level)

theorem mean_nonneg {qs : List ℚ} (h : ∀ q ∈ qs, 0 ≤ q) : 0 ≤ mean qs := by
  unfold mean
  have hsum : 0 ≤ qs.sum := List.sum_nonneg h
  positivity

theorem meanGain_nonneg (n : ℕ) (close : List ℚ) (t : ℕ) : 0 ≤ meanGain n close t := by
  apply mean_nonneg
  intro q hq
  obtain ⟨d, -, rfl⟩ := List.mem_map.mp hq
  exact le_max_right d 0

theorem meanLoss_nonneg (n : ℕ) (close : List ℚ) (t : ℕ) : 0 ≤ meanLoss n close t := by
  apply mean_nonneg
  intro q hq
  obtain ⟨d, -, rfl⟩ := List.mem_map.mp hq
  exact le_max_right (-d) 0

theorem strengthIndex_mem {n : ℕ} {close : List ℚ} {t : ℕ} {q : ℚ}
    (h : strengthIndex n close t = some q) : 0 ≤ q ∧ q ≤ 100 := by
  unfold strengthIndex at h
  split at h
  case isTrue hdefined =>
    have hgain := meanGain_nonneg n close t
    have hloss := meanLoss_nonneg n close t
    have hpos := hdefined.2
    rw [← Option.some.inj h]
    constructor
    · positivity
    · rw [div_le_iff₀ hpos]
      linarith
  case isFalse => cases h

/-! ## The columns of `rsi_strategy` -/

theorem finite_map_num (qs : List ℚ) : Number.finite (qs.map Number.num) = some qs := by
  induction qs with
  | nil => rfl
  | cons q qs ih =>
    rw [List.map_cons, Number.finite, ih]
    rfl

theorem diff_map_num (q : ℚ) (qs : List ℚ) :
    diff ((q :: qs).map Number.num) = .nan :: (differences (q :: qs)).map Number.num := by
  have hrows : ∀ (before : ℚ) (rest : List ℚ),
      List.zipWith (· - ·) (rest.map Number.num)
          (((before :: rest).map Number.num).take rest.length)
        = (List.zipWith (· - ·) rest (before :: rest)).map Number.num := by
    intro before rest
    induction rest generalizing before with
    | nil => rfl
    | cons next rest ih =>
      have hhead : Number.num next - Number.num before = .num (next - before) := by
        rw [sub_eq_add_neg]
        rfl
      exact congrArg₂ List.cons hhead (ih next)
  unfold diff shifted shift differences
  rw [List.length_map, List.length_cons, List.tail_cons, ← hrows q qs]
  rfl

theorem clipLower_num (d : ℚ) : (Number.num d).clipLower = .num (max d 0) := by
  unfold Number.clipLower Number.lt Number.le Number.isNan
  by_cases h : 0 ≤ d
  · simp [h]
  · simp [h, le_of_not_ge h]

theorem neg_clipUpper_num (d : ℚ) : -(Number.num d).clipUpper = .num (max (-d) 0) := by
  unfold Number.clipUpper Number.lt Number.le Number.isNan
  by_cases h : d ≤ 0
  · have hneg : 0 ≤ -d := neg_nonneg.mpr h
    simp only [h, decide_true, Bool.not_true, Bool.and_false, Bool.false_eq_true, if_false,
      max_eq_left hneg]
    rfl
  · have hneg : -d ≤ 0 := neg_nonpos.mpr (le_of_not_ge h)
    simp only [h, decide_false, Bool.not_false, Bool.and_true, if_true, max_eq_right hneg]
    show Number.num (-0) = Number.num 0
    rw [neg_zero]

theorem rollingMean_row {n : ℕ} (hn : 0 < n) (qs : List ℚ) {t : ℕ} (ht : t ≤ qs.length) :
    (rollingMean n (.nan :: qs.map Number.num))[t]?
      = some (if n ≤ t then .num (mean ((qs.drop (t - n)).take n)) else .nan) := by
  have hrow : t < (Number.nan :: qs.map Number.num).length := by
    rw [List.length_cons, List.length_map]
    exact Nat.lt_succ_of_le ht
  unfold rollingMean
  rw [getElem?_rolling n _ _ hrow]
  by_cases hfull : n ≤ t
  · have hstart : t + 1 - n = (t - n) + 1 := by omega
    rw [if_neg (by omega), if_pos hfull, hstart, List.drop_succ_cons, ← List.map_drop,
      ← List.map_take]
    unfold onWindow
    rw [finite_map_num]
    rfl
  · rw [if_neg hfull]
    by_cases hshort : t + 1 < n
    · rw [if_pos (.inr hshort)]
    · -- the window starts in the first row, where there is no change
      have hstart : t + 1 - n = 0 := by omega
      obtain ⟨k, rfl⟩ : ∃ k, n = k + 1 := ⟨n - 1, by omega⟩
      rw [if_neg (by omega), hstart, List.drop_zero, List.take_succ_cons]
      rfl

theorem index_of_means {gain loss : ℚ} (hgain : 0 ≤ gain) (hloss : 0 ≤ loss) :
    Number.num 100 - Number.num 100 / (Number.num 1 + Number.num gain
        / (Number.num loss).replaceZero)
      = if loss = 0 then .nan else .num (100 * gain / (gain + loss)) := by
  by_cases hzero : loss = 0
  · rw [if_pos hzero, hzero]
    rfl
  · have hpos : 0 < loss := lt_of_le_of_ne hloss (Ne.symm hzero)
    have hone : (1 : ℚ) + gain / loss ≠ 0 := by positivity
    have hkept : (Number.num loss).replaceZero = .num loss := by
      unfold Number.replaceZero
      rw [if_neg (fun h => hzero (Number.num.inj h))]
    have hratio : Number.num gain / Number.num loss = .num (gain / loss) := by
      show (if loss = 0 then _ else Number.num (gain / loss)) = _
      rw [if_neg hzero]
    have hshare : Number.num 100 / Number.num (1 + gain / loss)
        = .num (100 / (1 + gain / loss)) := by
      show (if 1 + gain / loss = 0 then _ else Number.num (100 / (1 + gain / loss))) = _
      rw [if_neg hone]
    have hvalue : 100 + -(100 / (1 + gain / loss)) = 100 * gain / (gain + loss) := by
      have hsum : loss + gain ≠ 0 := by linarith
      field_simp
      ring
    rw [if_neg hzero, hkept, hratio]
    show Number.num 100 - Number.num 100 / Number.num (1 + gain / loss) = _
    rw [hshare]
    show Number.num (100 + -(100 / (1 + gain / loss))) = _
    rw [hvalue]

theorem map_diff {f : Number → Number} {g : ℚ → ℚ} (hnan : f .nan = .nan)
    (hnum : ∀ d, f (.num d) = .num (g d)) (q : ℚ) (qs : List ℚ) :
    (diff ((q :: qs).map Number.num)).map f
      = .nan :: ((differences (q :: qs)).map g).map Number.num := by
  rw [diff_map_num, List.map_cons, List.map_map, List.map_map, hnan]
  exact congrArg (_ :: ·) (List.map_congr_left (fun d _ => hnum d))

theorem length_differences (q : ℚ) (qs : List ℚ) :
    (differences (q :: qs)).length = qs.length := by
  unfold differences
  rw [List.length_zipWith, List.tail_cons, List.length_cons]
  omega

theorem relativeStrengthIndex_row {n : ℕ} (hn : 0 < n) (close : List ℚ) {t : ℕ}
    (ht : t < close.length) :
    (relativeStrengthIndex n (close.map Number.num))[t]?
      = some ((seenIndex n close t).elim .nan .num) := by
  cases close with
  | nil => cases ht
  | cons q qs =>
    have hrow : ∀ g : ℚ → ℚ, t ≤ ((differences (q :: qs)).map g).length := by
      intro g
      rw [List.length_map, length_differences]
      exact Nat.le_of_lt_succ ht
    have hgain := rollingMean_row hn _ (hrow (fun d => max d 0))
    have hloss := rollingMean_row hn _ (hrow (fun d => max (-d) 0))
    unfold relativeStrengthIndex
    dsimp only
    rw [map_diff (f := Number.clipLower) rfl clipLower_num,
      map_diff (f := fun d => -d.clipUpper) rfl neg_clipUpper_num, List.getElem?_zipWith, hgain,
      hloss]
    unfold seenIndex strengthIndex
    by_cases hfull : n ≤ t
    · have hgain0 := meanGain_nonneg n (q :: qs) t
      have hloss0 := meanLoss_nonneg n (q :: qs) t
      rw [if_pos hfull, if_pos hfull, ← List.map_drop, ← List.map_take, ← List.map_drop,
        ← List.map_take]
      show some (Number.num 100 - Number.num 100 / (Number.num 1
          + Number.num (meanGain n (q :: qs) t)
            / (Number.num (meanLoss n (q :: qs) t)).replaceZero)) = _
      rw [index_of_means hgain0 hloss0]
      by_cases hzero : meanLoss n (q :: qs) t = 0
      · rw [if_pos hzero, if_pos hzero]
        rfl
      · have hpos : 0 < meanLoss n (q :: qs) t := lt_of_le_of_ne hloss0 (Ne.symm hzero)
        have hsum : 0 < meanGain n (q :: qs) t + meanLoss n (q :: qs) t := by linarith
        rw [if_neg hzero, if_neg hzero, if_pos ⟨hfull, hsum⟩]
        rfl
    · have hnone : ¬ (n ≤ t ∧ 0 < meanGain n (q :: qs) t + meanLoss n (q :: qs) t) :=
        fun h => hfull h.1
      rw [if_neg hfull, if_neg hfull, if_neg hnone, ite_self]
      rfl

/-! ## The signals -/

def closes (df : List Candle) : List ℚ := df.map Candle.close

/-- `out["rsi"]` of `rsi_strategy` -/
def rsiColumn (n : ℕ) (df : List Candle) : Series :=
  relativeStrengthIndex n (column Candle.close df)

theorem rsiColumn_row {n : ℕ} (hn : 0 < n) (df : List Candle) {t : ℕ} (ht : t < df.length) :
    (rsiColumn n df)[t]? = some ((seenIndex n (closes df) t).elim .nan .num) := by
  have hcolumn : column Candle.close df = (closes df).map Number.num := by
    unfold column closes
    rw [List.map_map]
    rfl
  unfold rsiColumn
  rw [hcolumn]
  apply relativeStrengthIndex_row hn
  unfold closes
  rw [List.length_map]
  exact ht

def priorIndex (n : ℕ) (close : List ℚ) (t : ℕ) : Option ℚ :=
  if t < 1 then none else seenIndex n close (t - 1)

theorem prevRsi_row {n : ℕ} (hn : 0 < n) (df : List Candle) {t : ℕ} (ht : t < df.length) :
    (shifted 1 (rsiColumn n df))[t]? = some ((priorIndex n (closes df) t).elim .nan .num) := by
  have hlength : (rsiColumn n df).length = df.length :=
    (looksBack_relativeStrengthIndex (looksBack_column Candle.close) n).length df
  unfold shifted priorIndex
  rw [getElem?_shift 1 _ (by rw [hlength]; exact ht)]
  by_cases hfirst : t < 1
  · rw [if_pos hfirst, if_pos hfirst]
    rfl
  · rw [if_neg hfirst, if_neg hfirst]
    exact rsiColumn_row hn df (by omega)

theorem crosses_iff {prior now : ℚ → Prop} {f g : Number → Bool} (hf : f .nan = false)
    (hg : g .nan = false) (hprior : ∀ q, f (.num q) = true ↔ prior q)
    (hnow : ∀ q, g (.num q) = true ↔ now q) (n : ℕ) (close : List ℚ) (t : ℕ) :
    Crosses prior now (seenIndex n close) t
      ↔ (f ((priorIndex n close t).elim .nan .num)
        && g ((seenIndex n close t).elim .nan .num)) = true := by
  have hdefined : ∀ {h : Number → Bool} {p : ℚ → Prop}, h .nan = false →
      (∀ q, h (.num q) = true ↔ p q) → ∀ index : Option ℚ,
      h (index.elim .nan .num) = true ↔ ∃ q ∈ index, p q := by
    intro h p hnan hnum index
    cases index with
    | none =>
      show h .nan = true ↔ _
      simp [hnan]
    | some q =>
      show h (.num q) = true ↔ _
      simp [hnum]
  rw [Bool.and_eq_true, hdefined hf hprior, hdefined hg hnow]
  unfold Crosses priorIndex
  by_cases hfirst : t < 1
  · rw [if_pos hfirst]
    constructor
    · intro h
      omega
    · intro h
      obtain ⟨⟨a, ha, -⟩, -⟩ := h
      cases ha
  · rw [if_neg hfirst]
    constructor
    · intro h
      obtain ⟨-, a, ha, b, hb, hpriora, hnowb⟩ := h
      exact ⟨⟨a, ha, hpriora⟩, b, hb, hnowb⟩
    · intro h
      obtain ⟨⟨a, ha, hpriora⟩, b, hb, hnowb⟩ := h
      exact ⟨Nat.le_of_not_lt hfirst, a, ha, b, hb, hpriora, hnowb⟩

theorem not_crossesAbove_and_below {low high : ℚ} {index : ℕ → Option ℚ} {t : ℕ}
    (habove : CrossesAbove high index t) (hbelow : CrossesBelow low index t) : False := by
  obtain ⟨-, a, ha, b, hb, hfrom, hto⟩ := habove
  obtain ⟨-, a', ha', b', hb', hfrom', hto'⟩ := hbelow
  have hsame : a = a' := Option.mem_unique ha ha'
  have hsame' : b = b' := Option.mem_unique hb hb'
  subst hsame
  subst hsame'
  linarith

theorem getElem?_both {xs ys : Series} {f g : Number → Bool} {t : ℕ} {x y : Number}
    (hx : xs[t]? = some x) (hy : ys[t]? = some y) :
    (both (xs.map f) (ys.map g))[t]? = some (f x && g y) := by
  unfold both
  rw [List.getElem?_zipWith, List.getElem?_map, List.getElem?_map, hx, hy]
  rfl

theorem signal_mark_mark {df : List Candle} {t : ℕ} (ht : t < df.length) {buy sell : List Bool}
    {buyHit sellHit : Bool} (hbuy : buy[t]? = some buyHit) (hsell : sell[t]? = some sellHit)
    (buyReason sellReason : String) :
    ((mark .sell sellReason sell (mark .buy buyReason buy (holdFrame df)))[t]?).map
        FrameRow.signal
      = some (if sellHit then .sell else if buyHit then .buy else .hold) := by
  unfold mark holdFrame
  rw [List.getElem?_zipWith, hsell, List.getElem?_zipWith, hbuy, List.getElem?_map,
    List.getElem?_eq_getElem ht]
  rfl

theorem signal_written {sell buy : Bool} (hapart : ¬ (sell = true ∧ buy = true)) :
    (some (if sell then Signal.sell else if buy then .buy else .hold) = some .sell ↔ sell = true)
      ∧ (some (if sell then Signal.sell else if buy then .buy else .hold) = some .buy
        ↔ buy = true) := by
  cases sell with
  | true =>
    cases buy with
    | true => exact absurd ⟨rfl, rfl⟩ hapart
    | false => decide
  | false =>
    cases buy with
    | true => decide
    | false => decide

theorem signal_rsiStrategy {n : ℕ} (hn : 0 < n) (oversold overbought : ℚ) (df : List Candle)
    {t : ℕ} (ht : t < df.length) :
    (((rsiStrategy n oversold overbought df)[t]?).map FrameRow.signal = some .sell
        ↔ CrossesAbove overbought (seenIndex n (closes df)) t)
      ∧ (((rsiStrategy n oversold overbought df)[t]?).map FrameRow.signal = some .buy
        ↔ CrossesBelow oversold (seenIndex n (closes df)) t) := by
  have hprior := prevRsi_row hn df ht
  have hrow := rsiColumn_row hn df ht
  have habove : CrossesAbove overbought (seenIndex n (closes df)) t ↔ _ :=
    crosses_iff (f := fun x => x.le (.num overbought)) (g := fun x => (Number.num overbought).lt x)
      rfl rfl (by intro q; simp [Number.le]) (by intro q; simp [Number.lt, Number.le, Number.isNan])
      n (closes df) t
  have hbelow : CrossesBelow oversold (seenIndex n (closes df)) t ↔ _ :=
    crosses_iff (f := fun x => (Number.num oversold).le x) (g := fun x => x.lt (.num oversold))
      rfl rfl (by intro q; simp [Number.le]) (by intro q; simp [Number.lt, Number.le, Number.isNan])
      n (closes df) t
  have hapart : ¬ (CrossesAbove overbought (seenIndex n (closes df)) t
      ∧ CrossesBelow oversold (seenIndex n (closes df)) t) :=
    fun h => not_crossesAbove_and_below h.1 h.2
  have hsignal := signal_mark_mark ht
    (getElem?_both (f := fun x => (Number.num oversold).le x) (g := fun x => x.lt (.num oversold))
      hprior hrow)
    (getElem?_both (f := fun x => x.le (.num overbought))
      (g := fun x => (Number.num overbought).lt x) hprior hrow)
    "rsi_oversold_cross" "rsi_overbought_cross"
  rw [habove, hbelow] at hapart ⊢
  unfold rsiStrategy atLeast AutoCoinBot.below upTo above
  unfold rsiColumn at hsignal
  dsimp only
  rw [hsignal]
  exact signal_written hapart

/-! ## Where index and signals are right -/

/-- `rsi_strategy` computes the index where there is one, a percentage, and its signals are the
crossings of the index. -/
structure RsiExact (n : ℕ) (oversold overbought : ℚ) (df : List Candle) : Prop where
  index : ∀ t < df.length, n ≤ t → 0 < meanGain n (closes df) t + meanLoss n (closes df) t →
    (rsiColumn n df)[t]? = some (.num (100 * meanGain n (closes df) t
      / (meanGain n (closes df) t + meanLoss n (closes df) t)))
  percentage : ∀ (t : ℕ) (x : Number), (rsiColumn n df)[t]? = some x →
    x = Number.nan ∨ ∃ q, x = Number.num q ∧ 0 ≤ q ∧ q ≤ 100
  sell : ∀ t < df.length,
    ((rsiStrategy n oversold overbought df)[t]?).map FrameRow.signal = some .sell
      ↔ CrossesAbove overbought (strengthIndex n (closes df)) t
  buy : ∀ t < df.length,
    ((rsiStrategy n oversold overbought df)[t]?).map FrameRow.signal = some .buy
      ↔ CrossesBelow oversold (strengthIndex n (closes df)) t

/-- The window of row `t` has gains and no loss. -/
def GainsAlone (n : ℕ) (close : List ℚ) (t : ℕ) : Prop :=
  n ≤ t ∧ meanLoss n close t = 0 ∧ 0 < meanGain n close t

instance (n : ℕ) (close : List ℚ) (t : ℕ) : Decidable (GainsAlone n close t) :=
  inferInstanceAs (Decidable (_ ∧ _ ∧ _))

theorem strengthIndex_of_seenIndex {n : ℕ} {close : List ℚ} {t : ℕ} {q : ℚ}
    (h : seenIndex n close t = some q) : strengthIndex n close t = some q := by
  unfold seenIndex at h
  split at h
  case isTrue => cases h
  case isFalse => exact h

theorem seenIndex_eq {n : ℕ} {close : List ℚ} {t : ℕ} (h : ¬ GainsAlone n close t) :
    seenIndex n close t = strengthIndex n close t := by
  unfold seenIndex strengthIndex
  by_cases hzero : meanLoss n close t = 0
  · have hnone : ¬ (n ≤ t ∧ 0 < meanGain n close t + meanLoss n close t) := by
      intro hdefined
      rw [hzero, add_zero] at hdefined
      exact h ⟨hdefined.1, hzero, hdefined.2⟩
    rw [if_pos hzero, if_neg hnone]
  · rw [if_neg hzero]

theorem seenIndex_eq_none {n : ℕ} {close : List ℚ} {t : ℕ} (h : meanLoss n close t = 0) :
    seenIndex n close t = none := by
  unfold seenIndex
  rw [if_pos h]

theorem crosses_congr {prior now : ℚ → Prop} {index index' : ℕ → Option ℚ} {t : ℕ}
    (h : ∀ s ≤ t, index s = index' s) :
    Crosses prior now index t ↔ Crosses prior now index' t := by
  unfold Crosses
  rw [h t (Nat.le_refl t), h (t - 1) (Nat.sub_le t 1)]

/-- **Index and signals are right just if no window has gains alone.** -/
theorem rsiExact_iff {n : ℕ} (hn : 0 < n) (oversold overbought : ℚ) (df : List Candle) :
    RsiExact n oversold overbought df ↔ ∀ t < df.length, ¬ GainsAlone n (closes df) t := by
  constructor
  · intro h t ht hgains
    obtain ⟨hfull, hzero, hpos⟩ := hgains
    have hsum : 0 < meanGain n (closes df) t + meanLoss n (closes df) t := by
      rw [hzero, add_zero]
      exact hpos
    have hindex := h.index t ht hfull hsum
    rw [rsiColumn_row hn df ht, seenIndex_eq_none hzero] at hindex
    cases hindex
  · intro h
    have hsame : ∀ t < df.length, ∀ s ≤ t,
        seenIndex n (closes df) s = strengthIndex n (closes df) s :=
      fun t ht s hs => seenIndex_eq (h s (lt_of_le_of_lt hs ht))
    refine ⟨?_, ?_, ?_, ?_⟩
    · intro t ht hfull hsum
      rw [rsiColumn_row hn df ht, hsame t ht t (Nat.le_refl t)]
      unfold strengthIndex
      rw [if_pos ⟨hfull, hsum⟩]
      rfl
    · intro t x hx
      have ht : t < df.length := by
        have hrow : t < (rsiColumn n df).length := (List.getElem?_eq_some_iff.mp hx).1
        rw [show (rsiColumn n df).length = df.length from
          (looksBack_relativeStrengthIndex (looksBack_column Candle.close) n).length df] at hrow
        exact hrow
      rw [rsiColumn_row hn df ht] at hx
      cases hseen : seenIndex n (closes df) t with
      | none =>
        rw [hseen] at hx
        exact .inl (Option.some.inj hx).symm
      | some q =>
        rw [hseen] at hx
        exact .inr ⟨q, (Option.some.inj hx).symm,
          strengthIndex_mem (strengthIndex_of_seenIndex hseen)⟩
    · intro t ht
      rw [(signal_rsiStrategy hn oversold overbought df ht).1]
      exact crosses_congr (hsame t ht)
    · intro t ht
      rw [(signal_rsiStrategy hn oversold overbought df ht).2]
      exact crosses_congr (hsame t ht)

def closeCandle (time : UtcTime) (close : ℚ) : Candle :=
  { time := time, openPrice := close, high := close, low := close, close := close, volume := 1 }

theorem rsiExact_zigzag :
    RsiExact 2 30 70 [closeCandle 0 100, closeCandle 60 102, closeCandle 120 99,
      closeCandle 180 103] :=
  (rsiExact_iff (by decide) 30 70 _).mpr (by decide +kernel)

/-- **A rise without a loss is not sold**: the index goes from 200 / 3 to 100 in the last row. -/
theorem rise_not_sold :
    CrossesAbove 70 (strengthIndex 2 [100, 99, 101, 102]) 3
      ∧ ((rsiStrategy 2 30 70 [closeCandle 0 100, closeCandle 60 99, closeCandle 120 101,
          closeCandle 180 102])[3]?).map FrameRow.signal = some .hold
      ∧ ¬ RsiExact 2 30 70 [closeCandle 0 100, closeCandle 60 99, closeCandle 120 101,
          closeCandle 180 102] := by
  have hcross : CrossesAbove 70 (strengthIndex 2 [100, 99, 101, 102]) 3 := by
    refine ⟨by decide, 200 / 3, ?_, 100, ?_, by norm_num, by norm_num⟩
    · decide +kernel
    · decide +kernel
  have hhold : ((rsiStrategy 2 30 70 [closeCandle 0 100, closeCandle 60 99, closeCandle 120 101,
      closeCandle 180 102])[3]?).map FrameRow.signal = some .hold := by decide +kernel
  refine ⟨hcross, hhold, ?_⟩
  intro h
  have hsell := (h.sell 3 (by decide)).mpr hcross
  rw [hhold] at hsell
  cases hsell

end AutoCoinBot
