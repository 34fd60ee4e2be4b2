/-
  LiveStrategyPilot.SizingBands — the bands of app/dynamic_sizing.py.

  The net edge falls into one of five bands, and each band has a multiplier of its own.
-/
import AutoCoinBot.LiveStrategyPilot.Sizing

namespace AutoCoinBot

open Library

/-! ## The bands -/

section Bands

variable {settings : DynamicSizingSettings}

def DynamicSizingSettings.bandMultiplier (settings : DynamicSizingSettings) (net : ℚ) : ℚ :=
  if net ≤ 0 then settings.lowest
  else if net < 1 / 4 then max settings.lowest (3 / 4)
  else if net < 3 / 4 then 1
  else if net < 3 / 2 then min settings.highest (6 / 5)
  else settings.highest

theorem multiplier_eq_band {q : DynamicSizingRequest} (henabled : settings.enabled = true)
    (hconfidence : q.confidenceOk settings = true) :
    q.multiplier settings = settings.bandMultiplier q.netEdgePct :=
  if_pos ⟨henabled, hconfidence⟩

theorem lowest_le_highest (settings : DynamicSizingSettings) : settings.lowest ≤ settings.highest :=
  le_max_right _ _

/-- The bounds of the settings lie around one. -/
structure DynamicSizingSettings.Straddles (settings : DynamicSizingSettings) : Prop where
  lowest : settings.lowest ≤ 1
  highest : 1 ≤ settings.highest

theorem bandMultiplier_mem (h : settings.Straddles) (net : ℚ) :
    settings.bandMultiplier net ∈ Set.Icc settings.lowest settings.highest := by
  have hbounds := lowest_le_highest settings
  have hone := h.highest
  unfold DynamicSizingSettings.bandMultiplier
  split
  · exact ⟨le_rfl, hbounds⟩
  · split
    · exact ⟨le_max_left _ _, max_le hbounds (by linarith)⟩
    · split
      · exact ⟨h.lowest, h.highest⟩
      · split
        · exact ⟨le_min hbounds (h.lowest.trans (by norm_num)), min_le_left _ _⟩
        · exact ⟨hbounds, le_rfl⟩

theorem bandMultiplier_mono (h : settings.Straddles) : Monotone settings.bandMultiplier := by
  intro net net' hnet
  have hmember := bandMultiplier_mem h net'
  have hmember' := bandMultiplier_mem h net
  by_cases hnegative : net ≤ 0
  · exact (if_pos hnegative).trans_le hmember.1
  by_cases hhigh : 3 / 2 ≤ net'
  · have htop : settings.bandMultiplier net' = settings.highest := by
      unfold DynamicSizingSettings.bandMultiplier
      rw [if_neg (by linarith), if_neg (by linarith), if_neg (by linarith), if_neg (by linarith)]
    exact hmember'.2.trans htop.symm.le
  -- between the outer bands the levels are 3/4, 1 and 6/5
  have hlevel : max settings.lowest (3 / 4) ≤ 1 := max_le h.lowest (by norm_num)
  have hlevel' : 1 ≤ min settings.highest (6 / 5) := le_min h.highest (by norm_num)
  unfold DynamicSizingSettings.bandMultiplier
  rw [if_neg hnegative, if_neg (show ¬ net' ≤ 0 by linarith),
    if_pos (show net < 3 / 2 by linarith), if_pos (show net' < 3 / 2 by linarith)]
  by_cases hlow : net < 1 / 4
  · rw [if_pos hlow]
    split
    · exact le_rfl
    · split
      · exact hlevel
      · exact hlevel.trans hlevel'
  · rw [if_neg hlow, if_neg (show ¬ net' < 1 / 4 by linarith)]
    by_cases hmoderate : net' < 3 / 4
    · rw [if_pos hmoderate, if_pos (show net < 3 / 4 by linarith)]
    · rw [if_neg hmoderate]
      split
      · exact hlevel'
      · exact le_rfl

end Bands

/-! ## Costs -/

def DynamicSizingRequest.slippagePct (q : DynamicSizingRequest) : ℚ :=
  toFloat (q.estimatedSlippagePct.or q.adaptiveEdge.avgSlippagePct)

def DynamicSizingRequest.adversePct (q : DynamicSizingRequest) : ℚ :=
  toFloat (q.adverseSelectionPct.or q.adaptiveEdge.avgAdverseSelectionPct)

/-- The second request expects the same edge, at costs that are not lower. -/
structure DynamicSizingRequest.Costlier (q q' : DynamicSizingRequest) : Prop where
  expected : q'.adaptiveEdge.expected = q.adaptiveEdge.expected
  fee : q.feePct ≤ q'.feePct
  slippage : q.slippagePct ≤ q'.slippagePct
  adverse : q.adversePct ≤ q'.adversePct
  penalty : q.recentFailurePenaltyPct ≤ q'.recentFailurePenaltyPct

theorem DynamicSizingRequest.Costlier.netEdgePct {q q' : DynamicSizingRequest} (h : q.Costlier q') :
    q'.netEdgePct ≤ q.netEdgePct := by
  show q'.adaptiveEdge.expected - max q'.feePct 0 - max q'.slippagePct 0 - max q'.adversePct 0
      - max q'.recentFailurePenaltyPct 0
    ≤ q.adaptiveEdge.expected - max q.feePct 0 - max q.slippagePct 0 - max q.adversePct 0
      - max q.recentFailurePenaltyPct 0
  have hfee := max_le_max_right 0 h.fee
  have hslippage := max_le_max_right 0 h.slippage
  have hadverse := max_le_max_right 0 h.adverse
  have hpenalty := max_le_max_right 0 h.penalty
  rw [h.expected]
  linarith

/-- Sizing that keeps to its bounds and follows the net edge. -/
structure DynamicSizingSettings.Respected (settings : DynamicSizingSettings) : Prop where
  bounded : ∀ q : DynamicSizingRequest, q.confidenceOk settings = true →
    q.multiplier settings ∈ Set.Icc settings.lowest settings.highest
  monotone : ∀ q q' : DynamicSizingRequest, q.confidenceOk settings = true →
    q'.confidenceOk settings = true → q.netEdgePct ≤ q'.netEdgePct →
    q.multiplier settings ≤ q'.multiplier settings
  costs : ∀ q q' : DynamicSizingRequest, q.confidenceOk settings = true →
    q'.confidenceOk settings = true → q.Costlier q' →
    q'.multiplier settings ≤ q.multiplier settings

/-- A request with enough confidence, without costs. -/
def freeRequest (settings : DynamicSizingSettings) (edge : ℚ) : DynamicSizingRequest where
  originalAmountKrw := 10000
  adaptiveEdge :=
    { expectedEdgePct := some edge, edgeConfidence := some settings.minConfidence }
  feePct := 0

theorem freeRequest_netEdgePct (settings : DynamicSizingSettings) (edge : ℚ) :
    (freeRequest settings edge).netEdgePct = edge := by
  show edge - max 0 0 - max (toFloat none) 0 - max (toFloat none) 0 - max 0 0 = edge
  simp

/-- **When the multiplier keeps to its bounds and follows the net edge.** -/
theorem respected_iff {settings : DynamicSizingSettings} (henabled : settings.enabled = true) :
    settings.Respected ↔ settings.Straddles := by
  constructor
  · intro h
    -- a moderate edge is multiplied by one, whatever the bounds are
    have hconfidence : (freeRequest settings (1 / 2)).confidenceOk settings = true :=
      decide_eq_true (le_refl settings.minConfidence)
    have hmember := h.bounded _ hconfidence
    have hone : settings.bandMultiplier (1 / 2) = 1 := by
      unfold DynamicSizingSettings.bandMultiplier
      norm_num
    rw [multiplier_eq_band henabled hconfidence, freeRequest_netEdgePct, hone] at hmember
    exact ⟨hmember.1, hmember.2⟩
  · intro h
    have hmono : ∀ q q' : DynamicSizingRequest, q.confidenceOk settings = true →
        q'.confidenceOk settings = true → q.netEdgePct ≤ q'.netEdgePct →
        q.multiplier settings ≤ q'.multiplier settings := by
      intro q q' hq hq' hnet
      rw [multiplier_eq_band henabled hq, multiplier_eq_band henabled hq']
      exact bandMultiplier_mono h hnet
    refine ⟨fun q hq => ?_, hmono, fun q q' hq hq' hcosts => hmono q' q hq' hq hcosts.netEdgePct⟩
    rw [multiplier_eq_band henabled hq]
    exact bandMultiplier_mem h _

/-! ## The applied amount -/

section Applied

variable {settings : DynamicSizingSettings} {q : DynamicSizingRequest} {most : ℚ}

theorem round6_zero : round6 0 = 0 := by
  rw [round6_eq]
  exact_mod_cast nearestAt_intCast (by norm_num) 0

theorem round6_max_zero_le_iff (x : ℚ) : round6 (max x 0) ≤ most ↔ 0 ≤ most ∧ round6 x ≤ most := by
  rw [round6_mono.map_max, round6_zero, max_le_iff]
  exact and_comm

theorem appliedAmountKrw_eq (hmode : settings.mode ≠ .shadow)
    (hallowed : (buildDynamicSizingPreview settings q).allowed = true) :
    (buildDynamicSizingPreview settings q).appliedAmountKrw
      = round6 (max (if settings.enabled then q.adjustedAmount settings
          else q.originalAmountKrw) 0) := by
  have hblocker : q.blocker settings = none := Option.isNone_iff_eq_none.mp hallowed
  show round6 (max (if settings.enabled ∧ settings.mode ≠ .shadow ∧ q.blocker settings = none
    then q.adjustedAmount settings else q.originalAmountKrw) 0) = _
  simp only [hmode, hblocker, ne_eq, not_false_eq_true, and_true]

/-- **When an applied amount keeps to what is allowed**: a limit below zero is not applied, and one
that is rounded up is passed. -/
theorem appliedAmount_le_iff (hmost : q.maxAllowedAmountKrw = some most)
    (hmode : settings.mode ≠ .shadow)
    (hallowed : (buildDynamicSizingPreview settings q).allowed = true) :
    (buildDynamicSizingPreview settings q).appliedAmountKrw ≤ most
      ↔ 0 ≤ most ∧ (settings.enabled = true ∧ round6 most ≤ most
        ∨ round6 (q.originalAmountKrw * q.factor settings) ≤ most) := by
  rw [appliedAmountKrw_eq hmode hallowed, round6_max_zero_le_iff]
  refine and_congr_right (fun hnonneg => ?_)
  by_cases henabled : settings.enabled = true
  · have hfactor : q.factor settings = q.multiplier settings := if_pos ⟨henabled, hmode⟩
    have hadjusted : q.adjustedAmount settings
        = min (max (q.originalAmountKrw * q.multiplier settings) 0) most := by
      unfold DynamicSizingRequest.adjustedAmount
      rw [hmost]
      dsimp only
      rw [if_pos hnonneg]
    rw [if_pos henabled, hadjusted, round6_mono.map_min, min_le_iff, round6_max_zero_le_iff,
      and_iff_right hnonneg, hfactor, and_iff_right henabled]
    exact or_comm
  · have hfactor : q.factor settings = 1 := if_neg (fun h => henabled h.1)
    rw [if_neg henabled, hfactor, mul_one, or_iff_right (fun h => henabled h.1)]

end Applied

/-! ## Bounded and monotone -/

/-- **Dynamic sizing is bounded and monotone** exactly if its bounds lie around one; an amount it
applies keeps to a limit that is not negative and not rounded up. -/
theorem dynamic_sizing_bounded_iff (settings : DynamicSizingSettings) :
    (settings.enabled = true → (settings.Respected ↔ settings.lowest ≤ 1 ∧ 1 ≤ settings.highest))
      ∧ ∀ (q : DynamicSizingRequest) (most : ℚ), q.maxAllowedAmountKrw = some most →
        settings.mode ≠ .shadow → (buildDynamicSizingPreview settings q).allowed = true →
        ((buildDynamicSizingPreview settings q).appliedAmountKrw ≤ most
          ↔ 0 ≤ most ∧ (settings.enabled = true ∧ round6 most ≤ most
            ∨ round6 (q.originalAmountKrw * q.factor settings) ≤ most)) := by
  refine ⟨fun henabled => ?_, fun q most hmost hmode hallowed =>
    appliedAmount_le_iff hmost hmode hallowed⟩
  rw [respected_iff henabled]
  exact ⟨fun h => ⟨h.lowest, h.highest⟩, fun h => ⟨h.1, h.2⟩⟩

/-- Sizing that is applied, between two bounds. -/
def appliedSizing (minMultiplier maxMultiplier : ℚ) : DynamicSizingSettings where
  enabled := true
  mode := .apply
  minMultiplier := minMultiplier
  maxMultiplier := maxMultiplier

theorem dynamic_sizing_bounded_example : (appliedSizing (1 / 2) (3 / 2)).Respected :=
  ((dynamic_sizing_bounded_iff (appliedSizing (1 / 2) (3 / 2))).1 rfl).mpr (by decide +kernel)

/-- With a maximum of 0.6 a low edge is multiplied by 0.75 and a moderate one by 1, more than a
high one; a limit of 10 000.0000006 KRW is passed by its rounding. -/
theorem maximum_passed :
    (appliedSizing (1 / 2) (6 / 10)).highest = 6 / 10
      ∧ (freeRequest (appliedSizing (1 / 2) (6 / 10)) (1 / 10)).multiplier
        (appliedSizing (1 / 2) (6 / 10)) = 3 / 4
      ∧ (freeRequest (appliedSizing (1 / 2) (6 / 10)) (1 / 2)).multiplier
        (appliedSizing (1 / 2) (6 / 10)) = 1
      ∧ (freeRequest (appliedSizing (1 / 2) (6 / 10)) 2).multiplier
        (appliedSizing (1 / 2) (6 / 10)) = 6 / 10
      ∧ (freeRequest (appliedSizing (1 / 2) (6 / 10)) (1 / 2)).confidenceOk
        (appliedSizing (1 / 2) (6 / 10)) = true
      ∧ (buildDynamicSizingPreview (appliedSizing (1 / 2) (3 / 2))
          { freeRequest (appliedSizing (1 / 2) (3 / 2)) 2 with
            maxAllowedAmountKrw := some (10000 + 6 / 10000000) }).appliedAmountKrw
        = 10000 + 1 / 1000000
      ∧ (buildDynamicSizingPreview (appliedSizing (1 / 2) (3 / 2))
          { freeRequest (appliedSizing (1 / 2) (3 / 2)) 2 with
            maxAllowedAmountKrw := some (10000 + 6 / 10000000) }).allowed = true := by
  decide +kernel

end AutoCoinBot
