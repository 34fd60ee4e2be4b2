/-
  StrategyPromotion.KillSwitchWindows — what app/strategy_kill_switch.py counts.

  The switch reads the last rows of a forward session, whatever they are.
-/
import AutoCoinBot.Library.Padding
import AutoCoinBot.StrategyPromotion.ShadowCandidates

namespace AutoCoinBot

open Library

/-! ## Realised trades -/

/-- A `BUY` of a forward session. -/
def forwardBuy : LoadedForwardOrder := { riskResult := "PASS" }

/-- The `SELL` rows that have realised something. -/
def realisedSells (orders : List LoadedForwardOrder) : List LoadedForwardOrder :=
  orders.filter (fun order => order.isSell && order.realizedPnl.isSome)

def pnlSum (orders : List LoadedForwardOrder) : ℚ :=
  (orders.map (fun order => toFloat order.realizedPnl)).sum

namespace StrategyKillSwitchConfig

variable (config : StrategyKillSwitchConfig) (orders : List LoadedForwardOrder)

/-- The last `max_consecutive_losses` realised sells are all losses. -/
def LossesInARow : Prop :=
  config.maxConsecutiveLosses ≤ strategyConsecutiveLosses (realisedSells orders).reverse

/-- The mean of the last window of realised sells is negative. -/
def NegativeMean : Prop :=
  let recent := recentOrders config.expectancyWindow (realisedSells orders)
  config.expectancyWindow ≤ recent.length
    ∧ averageOf (recent.map (fun order => toFloat order.realizedPnl)) < 0

/-- The promotion pipeline pauses the candidate. -/
def Paused : Prop := evaluateStrategyKillSwitch config orders {} false false ≠ []

instance : Decidable (config.LossesInARow orders) := inferInstanceAs (Decidable (_ ≤ _))

instance : Decidable (config.Paused orders) := inferInstanceAs (Decidable (_ ≠ _))

/-- The switch counts realised trades. -/
structure CountsRealised : Prop where
  pauses : config.LossesInARow orders ∨ config.NegativeMean orders → config.Paused orders
  buys : ∀ orders', Padded (· = forwardBuy) orders orders' →
    (config.Paused orders' ↔ config.Paused orders)

/-! ## When a candidate is paused -/

variable {config orders}

theorem averageOf_neg_iff (values : List ℚ) : averageOf values < 0 ↔ values.sum < 0 := by
  unfold averageOf
  split
  · next h => rw [h, List.sum_nil]
  · next h =>
      have hlength : (0 : ℚ) < values.length := by
        exact_mod_cast List.length_pos_iff.mpr h
      rw [div_lt_iff₀ hlength, zero_mul]

theorem paused_iff (henabled : config.enabled = true) :
    config.Paused orders
      ↔ (config.expectancyWindow ≤ (recentOrders config.expectancyWindow orders).length
          ∧ pnlSum (recentOrders config.expectancyWindow orders) < 0)
        ∨ config.maxConsecutiveLosses
          ≤ strategyConsecutiveLosses (recentOrders config.expectancyWindow orders).reverse
        ∨ 2 ≤ stopLossStreak (recentOrders config.expectancyWindow orders).reverse := by
  unfold Paused evaluateStrategyKillSwitch pnlSum
  rw [henabled, if_neg (by decide), ← averageOf_neg_iff]
  dsimp only
  simp only [lt_self_iff_false, false_and, if_false, List.append_nil, Bool.false_eq_true, ne_eq,
    List.append_eq_nil_iff, ite_eq_right_iff, List.cons_ne_nil, imp_false]
  tauto

theorem paused_of_limit (henabled : config.enabled = true)
    (hlimit : config.maxConsecutiveLosses ≤ 0) : config.Paused orders :=
  (paused_iff henabled).mpr (.inr (.inl (hlimit.trans (Int.natCast_nonneg _))))

/-! ## What the window can hold -/

/-- The first row that the window can start at. -/
def firstStart (window : ℤ) (orders : List LoadedForwardOrder) : ℕ :=
  if 0 < window then orders.length - window.toNat else 0

/-- The window can start at the row, once `BUY` rows are inserted. -/
def Reaches (window : ℤ) (orders : List LoadedForwardOrder) (i : ℕ) : Prop :=
  firstStart window orders ≤ i ∧ i ≤ if 0 < window then orders.length else (-window).toNat

theorem pnlSum_padded {xs ys : List LoadedForwardOrder} (h : Padded (· = forwardBuy) xs ys) :
    pnlSum ys = pnlSum xs :=
  h.sum_map_eq (fun order horder => by rw [horder]; rfl)

theorem losses_padded {xs ys : List LoadedForwardOrder} (h : Padded (· = forwardBuy) xs ys) :
    strategyConsecutiveLosses ys.reverse ≤ strategyConsecutiveLosses xs.reverse :=
  h.reverse.length_takeWhile_le (fun order horder => by rw [horder]; decide)

theorem stopLosses_padded {xs ys : List LoadedForwardOrder} (h : Padded (· = forwardBuy) xs ys) :
    stopLossStreak ys.reverse ≤ stopLossStreak xs.reverse :=
  h.reverse.length_takeWhile_le (fun order horder => by rw [horder]; decide +kernel)

theorem padded_append_buys (orders : List LoadedForwardOrder) (n : ℕ) :
    Padded (· = forwardBuy) orders (orders ++ List.replicate n forwardBuy) :=
  Padded.append_replicate (p := (· = forwardBuy)) rfl orders n

theorem padded_buys_append (orders : List LoadedForwardOrder) (n : ℕ) :
    Padded (· = forwardBuy) orders (List.replicate n forwardBuy ++ orders) :=
  Padded.replicate_append (p := (· = forwardBuy)) rfl n orders

theorem reaches_of_padded (window : ℤ) {orders' : List LoadedForwardOrder}
    (h : Padded (· = forwardBuy) orders orders') :
    ∃ i, Reaches window orders i
      ∧ Padded (· = forwardBuy) (orders.drop i) (recentOrders window orders') := by
  unfold Reaches firstStart recentOrders
  by_cases hwindow : 0 < window
  · simp only [if_pos hwindow]
    obtain ⟨i, hi, hlength, hdrop⟩ := h.drop (orders'.length - window.toNat)
    -- the window has no room for more rows
    have hroom := hdrop.length_le
    rw [List.length_drop, List.length_drop] at hroom
    exact ⟨i, ⟨by omega, hlength⟩, hdrop⟩
  · simp only [if_neg hwindow]
    obtain ⟨i, hi, -, hdrop⟩ := h.drop (-window).toNat
    exact ⟨i, ⟨Nat.zero_le i, hi⟩, hdrop⟩

theorem padded_of_reaches {window : ℤ} {i : ℕ} (h : Reaches window orders i) :
    ∃ orders', Padded (· = forwardBuy) orders orders'
      ∧ window ≤ (recentOrders window orders').length
      ∧ pnlSum (recentOrders window orders') = pnlSum (orders.drop i) := by
  unfold Reaches firstStart at h
  by_cases hwindow : 0 < window
  · simp only [if_pos hwindow] at h
    let missing := window.toNat - (orders.length - i)
    refine ⟨orders ++ List.replicate missing forwardBuy, padded_append_buys orders missing, ?_⟩
    have hrecent : recentOrders window (orders ++ List.replicate missing forwardBuy)
        = orders.drop i ++ List.replicate missing forwardBuy := by
      have hstart : (orders ++ List.replicate missing forwardBuy).length - window.toNat = i := by
        rw [List.length_append, List.length_replicate]
        omega
      unfold recentOrders
      rw [if_pos hwindow, hstart, List.drop_append_of_le_length h.2]
    rw [hrecent]
    refine ⟨?_, pnlSum_padded (padded_append_buys _ _)⟩
    rw [List.length_append, List.length_replicate, List.length_drop]
    omega
  · simp only [if_neg hwindow] at h
    let missing := (-window).toNat - i
    refine ⟨List.replicate missing forwardBuy ++ orders,
      padded_buys_append orders missing, by omega, ?_⟩
    unfold recentOrders
    rw [if_neg hwindow, List.drop_append, List.length_replicate]
    have hnone : (List.replicate missing forwardBuy).drop (-window).toNat = [] := by
      rw [List.drop_eq_nil_iff, List.length_replicate]
      omega
    rw [hnone, List.nil_append]
    congr 2
    omega

theorem drop_reverse_prefix {i j : ℕ} (h : i ≤ j) (orders : List LoadedForwardOrder) :
    (orders.drop j).reverse <+: (orders.drop i).reverse := by
  rw [List.reverse_prefix]
  have hdrop : (orders.drop i).drop (j - i) = orders.drop j := by
    rw [List.drop_drop]
    congr 1
    omega
  rw [← hdrop]
  exact List.drop_suffix _ _

/-! ## Counting realised trades -/

/-- Nothing that the window can come to hold calls for a pause, nor do the realised trades. -/
structure Quiet (config : StrategyKillSwitchConfig) (orders : List LoadedForwardOrder) : Prop where
  sums : ∀ i, Reaches config.expectancyWindow orders i → 0 ≤ pnlSum (orders.drop i)
  losses : strategyConsecutiveLosses (orders.drop (firstStart config.expectancyWindow orders)).reverse
    < config.maxConsecutiveLosses
  stopLosses : stopLossStreak (orders.drop (firstStart config.expectancyWindow orders)).reverse < 2
  noLosses : ¬ config.LossesInARow orders
  noMean : ¬ config.NegativeMean orders

theorem Quiet.not_paused {orders' : List LoadedForwardOrder} (h : config.Quiet orders)
    (henabled : config.enabled = true) (hpadded : Padded (· = forwardBuy) orders orders') :
    ¬ config.Paused orders' := by
  obtain ⟨i, hreaches, hwindow⟩ := reaches_of_padded config.expectancyWindow hpadded
  have hprefix := drop_reverse_prefix hreaches.1 orders
  rw [paused_iff henabled]
  rintro (⟨-, hsum⟩ | hlosses | hstops)
  · rw [pnlSum_padded hwindow] at hsum
    exact absurd hsum (not_lt.mpr (h.sums i hreaches))
  · have hstreak := (losses_padded hwindow).trans (length_takeWhile_prefix_le hprefix)
    have hmost := h.losses
    unfold strategyConsecutiveLosses at hlosses hmost hstreak
    omega
  · have hstreak := (stopLosses_padded hwindow).trans (length_takeWhile_prefix_le hprefix)
    have hmost := h.stopLosses
    unfold stopLossStreak at hstops hmost hstreak
    omega

theorem paused_of_sums {orders' : List LoadedForwardOrder} (henabled : config.enabled = true)
    (hsums : ∀ i, Reaches config.expectancyWindow orders i → pnlSum (orders.drop i) < 0)
    (hpadded : Padded (· = forwardBuy) orders orders') : config.Paused orders' := by
  obtain ⟨i, hreaches, hwindow⟩ := reaches_of_padded config.expectancyWindow hpadded
  have hnonpos : ¬ 0 < config.expectancyWindow := by
    intro hpositive
    -- a window that holds `BUY` rows alone loses nothing
    have hlast : Reaches config.expectancyWindow orders orders.length := by
      unfold Reaches firstStart
      simp only [if_pos hpositive]
      exact ⟨Nat.sub_le _ _, le_rfl⟩
    have hnone := hsums orders.length hlast
    rw [List.drop_length] at hnone
    exact absurd hnone (by decide)
  refine (paused_iff henabled).mpr (.inl ⟨by omega, ?_⟩)
  rw [pnlSum_padded hwindow]
  exact hsums i hreaches

theorem streaks_of_buys_last (orders : List LoadedForwardOrder) {n : ℕ} (hn : 0 < n) :
    strategyConsecutiveLosses (orders ++ List.replicate n forwardBuy).reverse = 0
      ∧ stopLossStreak (orders ++ List.replicate n forwardBuy).reverse = 0 := by
  obtain ⟨m, rfl⟩ := Nat.exists_eq_succ_of_ne_zero hn.ne'
  rw [List.reverse_append, List.reverse_replicate, List.replicate_succ, List.cons_append]
  constructor
  · rfl
  · have hno : containsText "STOP_LOSS"
        (orText forwardBuy.exitReason forwardBuy.riskResult).toUpper = false := by decide +kernel
    unfold stopLossStreak
    rw [List.takeWhile_cons, hno]
    rfl

theorem paused_iff_of_buys_last (henabled : config.enabled = true)
    (hlimit : 0 < config.maxConsecutiveLosses) {orders' rows : List LoadedForwardOrder} {n : ℕ}
    (hn : 0 < n)
    (hrecent : recentOrders config.expectancyWindow orders' = rows ++ List.replicate n forwardBuy)
    (hfull : config.expectancyWindow ≤ (rows ++ List.replicate n forwardBuy).length) :
    config.Paused orders' ↔ pnlSum rows < 0 := by
  have hstreaks := streaks_of_buys_last rows hn
  rw [paused_iff henabled, hrecent, hstreaks.1, hstreaks.2, and_iff_right hfull,
    pnlSum_padded (padded_append_buys rows n)]
  constructor
  · rintro (hsum | hlosses | hstops)
    · exact hsum
    · omega
    · omega
  · exact .inl

theorem exists_not_paused (henabled : config.enabled = true)
    (hlimit : 0 < config.maxConsecutiveLosses) (hwindow : 0 < config.expectancyWindow)
    (orders : List LoadedForwardOrder) :
    ∃ orders', Padded (· = forwardBuy) orders orders' ∧ ¬ config.Paused orders' := by
  let count := config.expectancyWindow.toNat
  have hrecent : recentOrders config.expectancyWindow (orders ++ List.replicate count forwardBuy)
      = [] ++ List.replicate count forwardBuy := by
    unfold recentOrders
    rw [if_pos hwindow, List.length_append, List.length_replicate, Nat.add_sub_cancel,
      List.drop_left, List.nil_append]
  have hpaused := paused_iff_of_buys_last henabled hlimit (by omega) hrecent
    (by rw [List.nil_append, List.length_replicate]; omega)
  exact ⟨_, padded_append_buys orders count, fun h => absurd (hpaused.mp h) (by decide)⟩

/-- Without a window, `BUY` rows can end every streak and let the rows that are read start anywhere
in the slice that is left out. -/
theorem exists_paused_iff (henabled : config.enabled = true)
    (hlimit : 0 < config.maxConsecutiveLosses) (hwindow : ¬ 0 < config.expectancyWindow) {i : ℕ}
    (hreaches : Reaches config.expectancyWindow orders i) :
    ∃ orders', Padded (· = forwardBuy) orders orders'
      ∧ (config.Paused orders' ↔ pnlSum (orders.drop i) < 0) := by
  have hle : i ≤ (-config.expectancyWindow).toNat := by
    have hlast := hreaches.2
    rwa [if_neg hwindow] at hlast
  let missing := (-config.expectancyWindow).toNat - i
  let orders' := List.replicate missing forwardBuy ++ (orders ++ List.replicate (i + 1) forwardBuy)
  have hpadded : Padded (· = forwardBuy) orders orders' :=
    Padded.append (Padded.replicate (p := (· = forwardBuy)) rfl missing)
      (padded_append_buys orders (i + 1))
  have hrecent : recentOrders config.expectancyWindow orders'
      = orders.drop i ++ List.replicate (i + 1 - (i - orders.length)) forwardBuy := by
    have hstart : (-config.expectancyWindow).toNat
        = (List.replicate missing forwardBuy).length + i := by
      rw [List.length_replicate]
      omega
    unfold recentOrders
    rw [if_neg hwindow, hstart, List.drop_length_add_append, List.drop_append, List.drop_replicate]
  exact ⟨orders', hpadded,
    paused_iff_of_buys_last henabled hlimit (by omega) hrecent (by omega)⟩

theorem quiet_of_never_paused (henabled : config.enabled = true)
    (h : config.CountsRealised orders) (hnot : ¬ config.Paused orders) : config.Quiet orders := by
  have hnever : ∀ orders', Padded (· = forwardBuy) orders orders' → ¬ config.Paused orders' :=
    fun orders' hpadded hpaused => hnot ((h.buys orders' hpadded).mp hpaused)
  -- the widest window is reached by `BUY` rows in front, or by none
  have hwidest : ∃ orders', Padded (· = forwardBuy) orders orders'
      ∧ recentOrders config.expectancyWindow orders'
        = orders.drop (firstStart config.expectancyWindow orders) := by
    by_cases hwindow : 0 < config.expectancyWindow
    · refine ⟨orders, Padded.refl orders, ?_⟩
      unfold recentOrders firstStart
      rw [if_pos hwindow, if_pos hwindow]
    · refine ⟨_, padded_buys_append orders (-config.expectancyWindow).toNat, ?_⟩
      unfold recentOrders firstStart
      rw [if_neg hwindow, if_neg hwindow, List.drop_left' (List.length_replicate), List.drop_zero]
  obtain ⟨orders', hpadded, hrecent⟩ := hwidest
  have hquiet := hnever orders' hpadded
  rw [paused_iff henabled, hrecent, not_or, not_or, not_le, not_le] at hquiet
  refine ⟨?_, hquiet.2.1, hquiet.2.2, fun hlosses => hnot (h.pauses (.inl hlosses)),
    fun hmean => hnot (h.pauses (.inr hmean))⟩
  intro i hreaches
  obtain ⟨orders'', hpadded', hfull, hsum⟩ := padded_of_reaches hreaches
  by_contra hneg
  refine hnever orders'' hpadded' ((paused_iff henabled).mpr (.inl ⟨hfull, ?_⟩))
  rw [hsum]
  exact not_le.mp hneg

theorem countsRealised_iff_of_disabled (hdisabled : config.enabled = false) :
    config.CountsRealised orders ↔ ¬ config.LossesInARow orders ∧ ¬ config.NegativeMean orders := by
  have hnever : ∀ orders', ¬ config.Paused orders' := by
    intro orders' hpaused
    exact hpaused (if_pos hdisabled)
  constructor
  · intro h
    exact ⟨fun hlosses => hnever orders (h.pauses (.inl hlosses)),
      fun hmean => hnever orders (h.pauses (.inr hmean))⟩
  · rintro ⟨hlosses, hmean⟩
    exact ⟨fun h => h.elim (absurd · hlosses) (absurd · hmean),
      fun orders' _ => iff_of_false (hnever orders') (hnever orders)⟩

theorem countsRealised_iff_of_enabled (henabled : config.enabled = true) :
    config.CountsRealised orders
      ↔ config.maxConsecutiveLosses ≤ 0
        ∨ (∀ i, Reaches config.expectancyWindow orders i → pnlSum (orders.drop i) < 0)
        ∨ config.Quiet orders := by
  constructor
  · intro h
    by_cases hlimit : config.maxConsecutiveLosses ≤ 0
    · exact .inl hlimit
    by_cases hpaused : config.Paused orders
    · refine .inr (.inl (fun i hreaches => ?_))
      by_cases hwindow : 0 < config.expectancyWindow
      · obtain ⟨orders', hpadded, hnot⟩ :=
          exists_not_paused henabled (not_le.mp hlimit) hwindow orders
        exact absurd ((h.buys orders' hpadded).mpr hpaused) hnot
      · obtain ⟨orders', hpadded, hsum⟩ :=
          exists_paused_iff henabled (not_le.mp hlimit) hwindow hreaches
        exact hsum.mp ((h.buys orders' hpadded).mpr hpaused)
    · exact .inr (.inr (quiet_of_never_paused henabled h hpaused))
  · rintro (hlimit | hsums | hquiet)
    · exact ⟨fun _ => paused_of_limit henabled hlimit, fun orders' _ =>
        iff_of_true (paused_of_limit henabled hlimit) (paused_of_limit henabled hlimit)⟩
    · exact ⟨fun _ => paused_of_sums henabled hsums (Padded.refl orders), fun orders' hpadded =>
        iff_of_true (paused_of_sums henabled hsums hpadded)
          (paused_of_sums henabled hsums (Padded.refl orders))⟩
    · exact ⟨fun h => h.elim (absurd · hquiet.noLosses) (absurd · hquiet.noMean),
        fun orders' hpadded => iff_of_false (hquiet.not_paused henabled hpadded)
          (hquiet.not_paused henabled (Padded.refl orders))⟩

end StrategyKillSwitchConfig

open StrategyKillSwitchConfig

/-- **The kill switch counts realised trades** exactly if it pauses everything, or the rows it can
read, once `BUY` rows are inserted, all call for a pause by their sum or none of them calls for one,
nor do the realised trades. -/
theorem kill_switch_counts_realised_iff (config : StrategyKillSwitchConfig)
    (orders : List LoadedForwardOrder) :
    config.CountsRealised orders
      ↔ (config.enabled = false ∧ ¬ config.LossesInARow orders ∧ ¬ config.NegativeMean orders)
        ∨ (config.enabled = true ∧ (config.maxConsecutiveLosses ≤ 0
          ∨ (∀ i, Reaches config.expectancyWindow orders i → pnlSum (orders.drop i) < 0)
          ∨ config.Quiet orders)) := by
  cases henabled : config.enabled with
  | false =>
    simp only [Bool.false_eq_true, false_and, or_false, true_and]
    exact countsRealised_iff_of_disabled henabled
  | true =>
    simp only [Bool.true_eq_false, false_and, false_or, true_and]
    exact countsRealised_iff_of_enabled henabled

/-- A `SELL` that has lost 100 KRW. -/
def losingSell : LoadedForwardOrder :=
  { isSell := true, realizedPnl := some (-100), riskResult := "PASS" }

theorem losses_not_counted :
    StrategyKillSwitchConfig.LossesInARow {}
        [forwardBuy, losingSell, forwardBuy, losingSell, forwardBuy, losingSell]
      ∧ ¬ StrategyKillSwitchConfig.Paused {}
        [forwardBuy, losingSell, forwardBuy, losingSell, forwardBuy, losingSell]
      ∧ StrategyKillSwitchConfig.Paused {}
        ([forwardBuy, losingSell, forwardBuy, losingSell, forwardBuy, losingSell]
          ++ List.replicate 4 forwardBuy) := by
  decide +kernel

end AutoCoinBot
