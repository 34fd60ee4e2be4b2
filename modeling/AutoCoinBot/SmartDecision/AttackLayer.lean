/-
  SmartDecision.AttackLayer — `apply_aggressive_target_layer` of app/smart_attack.py.

  The layers raise or lower one target, one after the other: the aggressive target, no averaging
  down, the risk, the regime, the floor of the core exposure, and last the trailing stop or the
  partial take-profit.
-/
import AutoCoinBot.SmartDecision.OrderIntent
import AutoCoinBot.SmartDecision.TargetExposure

namespace AutoCoinBot

open Library

/-! ## Settings and inputs -/

/-- The settings of the layer; the trailing stop of a regime is `none` where the default is
used. -/
structure AttackSettings where
  coreExposureEnabled : Bool := false
  minCoreExposurePct : ℚ := 30
  trendDownCoreExposurePct : ℚ := 15
  overheatedCoreExposurePct : ℚ := 30
  panicCoreExposurePct : ℚ := 0
  panicCanBreakCore : Bool := true
  noAveragingDown : Bool := true
  aggressiveMaxExposureBreakout : ℚ := 85
  aggressiveMaxExposureTrendUp : ℚ := 75
  aggressiveMaxExposureRange : ℚ := 45
  attackScoreEntry : ℚ := 65
  attackScoreMax : ℚ := 80
  pyramidMinPnlPct : ℚ := 3 / 10
  partialTakeProfit1Pct : ℚ := 8 / 10
  partialTakeProfit2Pct : ℚ := 15 / 10
  trailingStopPctDefault : ℚ := 7 / 10
  trailingStopPctBreakout : Option ℚ := none
  trailingStopPctTrendUp : Option ℚ := none
  trailingStopPctRange : Option ℚ := none
  trailingStopPctOverheated : Option ℚ := none
  minRebalanceDeltaPct : ℚ := 5

/-- `attack_result`, the keys that are read. -/
structure AttackResult where
  attackMode : String := "OFF"
  attackScore : ℚ := 0
  blockers : List String := []
  aggressiveBuyBlockers : List String := []
  aggressiveWarnings : List String := []

/-- The arguments of `apply_aggressive_target_layer`. -/
structure LayerRequest where
  marketRegime : String
  conservativeTargetExposurePct : ℚ
  attackResult : AttackResult := {}
  currentExposurePct : ℚ
  currentPositionPnlPct : ℚ := 0
  currentPrice : ℚ := 0
  highestPriceSinceEntry : Option ℚ := none
  riskBlockers : List String := []

/-- `a or b` on lists. -/
def orList (a b : List String) : List String := if a = [] then b else a

/-- `critical` of `_core_override_blocked`. -/
def criticalBlockers : List String :=
  ["SMART_RISK_SCORE_HIGH", "SMART_DAILY_LOSS_LIMIT_REACHED", "EMERGENCY_STOPPED", "BLOCKED",
    "SMART_POLICY_AUTO_TRADING_DISABLED", "SMART_EXCHANGE_NOTICE_RISK_BLOCK"]

def coreOverrideBlocked (riskBlockers : List String) : Bool :=
  riskBlockers.any criticalBlockers.contains

/-- `{"BREAKOUT", "TREND_UP", "RANGE"}`. -/
def rewardedRegimes : List String := ["BREAKOUT", "TREND_UP", "RANGE"]

def coreExposurePct (settings : AttackSettings) (regime : String) : ℚ :=
  if regime = "PANIC" then settings.panicCoreExposurePct
  else if regime = "TREND_DOWN" then settings.trendDownCoreExposurePct
  else if regime = "OVERHEATED" then settings.overheatedCoreExposurePct
  else settings.minCoreExposurePct

def aggressiveTarget (settings : AttackSettings) (regime mode : String) : ℚ :=
  if regime = "BREAKOUT" then
    if mode = "MAX_AGGRESSIVE" then settings.aggressiveMaxExposureBreakout
    else if mode = "AGGRESSIVE" then 70 else 0
  else if regime = "TREND_UP" then
    if mode = "MAX_AGGRESSIVE" then settings.aggressiveMaxExposureTrendUp
    else if mode = "AGGRESSIVE" then 60 else 0
  else if regime = "RANGE" then
    if mode = "AGGRESSIVE" ∨ mode = "MAX_AGGRESSIVE" then settings.aggressiveMaxExposureRange
    else 0
  else if regime = "TREND_DOWN" then 10
  else 0

def aggressiveAllowed (regime mode : String) (blockers : List String) : Bool :=
  blockers.isEmpty && rewardedRegimes.contains regime
    && ["AGGRESSIVE", "MAX_AGGRESSIVE"].contains mode

/-- `_trailing_stop_pct`, of the layer. -/
def layerTrailingStopPct (settings : AttackSettings) (regime : String) : ℚ :=
  let named :=
    if regime = "BREAKOUT" then settings.trailingStopPctBreakout
    else if regime = "TREND_UP" then settings.trailingStopPctTrendUp
    else if regime = "RANGE" then settings.trailingStopPctRange
    else if regime = "OVERHEATED" then settings.trailingStopPctOverheated
    else none
  named.getD settings.trailingStopPctDefault

/-- `_action_hint`. -/
def layerActionHint (settings : AttackSettings) (current target : ℚ) (source : TargetSource) :
    ActionHint :=
  let delta := target - current
  if source = .partialTakeProfit then .takeProfitPartial
  else if source = .trailingHold then .trailingHold
  else if source = .trailingExit then (if target ≤ 0 then .exit else .reduce)
  else if |delta| < settings.minRebalanceDeltaPct then
    (if 0 < current then .holdPosition else .wait)
  else if target ≤ 0 ∧ 0 < current then .exit
  else if 0 < delta then .buyMore else .reduce

/-! ## The layers -/

/-- What the layers pass on. -/
structure LayeredTarget where
  finalTarget : ℚ
  source : TargetSource
  noAveragingDown : Bool := false
  coreExposureApplied : Bool := false
  buyBlocked : Bool := false
  partialTakeProfitPct : ℚ := 0

namespace LayerRequest

section Layers

variable (settings : AttackSettings) (q : LayerRequest)

def regime : String := (orText q.marketRegime "UNKNOWN").toUpper

/-- `core_exposure_pct`. -/
def coreExposure : ℚ := if settings.coreExposureEnabled then coreExposurePct settings q.regime else 0

/-- `core_enabled and not core_override_blocked and core_exposure_pct > 0`. -/
def coreActive : Bool :=
  settings.coreExposureEnabled && !coreOverrideBlocked q.riskBlockers
    && decide (0 < q.coreExposure settings)

def coreAccumulationAllowed : Bool := q.coreActive settings && rewardedRegimes.contains q.regime

/-- `aggressive_buy_blockers`, before a layer adds to them. -/
def aggressiveBuyBlockers : List String :=
  (orList q.attackResult.aggressiveBuyBlockers q.attackResult.blockers).eraseDups

def attacked : LayeredTarget :=
  let conservative := q.conservativeTargetExposurePct
  if aggressiveAllowed q.regime q.attackResult.attackMode
      (q.riskBlockers ++ q.aggressiveBuyBlockers) then
    let final := max conservative (aggressiveTarget settings q.regime q.attackResult.attackMode)
    { finalTarget := final
      source := if conservative < final then .aggressive else .conservative }
  else { finalTarget := conservative, source := .conservative }

/-- `allowed_accumulation_target`. -/
def allowedAccumulation : ℚ :=
  if q.coreAccumulationAllowed settings then max q.currentExposurePct (q.coreExposure settings)
  else q.currentExposurePct

/-- Whether a losing position must not be added to. -/
def Losing : Prop :=
  settings.noAveragingDown = true ∧ 0 < q.currentExposurePct ∧ q.currentPositionPnlPct < 0

instance : Decidable (q.Losing settings) :=
  inferInstanceAs (Decidable (settings.noAveragingDown = true ∧ 0 < q.currentExposurePct
    ∧ q.currentPositionPnlPct < 0))

def notAveragedDown (s : LayeredTarget) : LayeredTarget :=
  let allowed := q.allowedAccumulation settings
  if q.Losing settings ∧ q.currentExposurePct < s.finalTarget then
    if allowed < s.finalTarget then
      if allowed ≤ q.currentExposurePct then
        { s with finalTarget := allowed, source := .riskReduced, noAveragingDown := true
                 buyBlocked := true }
      else if q.coreAccumulationAllowed settings ∧ allowed ≤ q.coreExposure settings then
        { s with finalTarget := allowed, source := .core, noAveragingDown := true
                 coreExposureApplied := true }
      else { s with finalTarget := allowed, noAveragingDown := true }
    else { s with noAveragingDown := true }
  else s

def riskReduced (s : LayeredTarget) : LayeredTarget :=
  if q.riskBlockers ≠ [] ∧ q.currentExposurePct < s.finalTarget then
    { s with finalTarget := q.currentExposurePct, source := .riskReduced }
  else s

def regimeReduced (s : LayeredTarget) : LayeredTarget :=
  if q.regime = "PANIC" then { s with finalTarget := 0, source := .riskReduced }
  else if q.regime = "TREND_DOWN" then
    let reduced :=
      min s.finalTarget (if settings.coreExposureEnabled then q.coreExposure settings else 10)
    { s with
      finalTarget := reduced
      source :=
        if settings.coreExposureEnabled then .coreReduced
        else if reduced < q.conservativeTargetExposurePct then .riskReduced
        else s.source }
  else if q.regime = "OVERHEATED" ∧ q.currentExposurePct < s.finalTarget then
    { s with finalTarget := q.currentExposurePct, source := .riskReduced }
  else s

def floored (s : LayeredTarget) : LayeredTarget :=
  let core := q.coreExposure settings
  if q.coreActive settings ∧ q.regime ≠ "PANIC" ∧ q.regime ≠ "TREND_DOWN" ∧ s.finalTarget < core
      -- an overheated market is left at the floor, not raised to it
      ∧ (q.regime = "OVERHEATED" → core ≤ q.currentExposurePct) then
    { s with finalTarget := core, source := .core, coreExposureApplied := true }
  else s

def highest : ℚ := max (toFloat q.highestPriceSinceEntry) q.currentPrice

def trailingStopPrice : ℚ :=
  if 0 < q.highest then q.highest * (1 - layerTrailingStopPct settings q.regime / 100) else 0

/-- `trailing_stop_price > 0 and current_price <= trailing_stop_price`. -/
def TrailingTouched : Prop :=
  0 < q.trailingStopPrice settings ∧ q.currentPrice ≤ q.trailingStopPrice settings

instance : Decidable (q.TrailingTouched settings) :=
  inferInstanceAs (Decidable (0 < q.trailingStopPrice settings
    ∧ q.currentPrice ≤ q.trailingStopPrice settings))

def trailed (s : LayeredTarget) : LayeredTarget :=
  let current := q.currentExposurePct
  let core := q.coreExposure settings
  if q.coreAccumulationAllowed settings then
    if current ≤ core then
      if ["BREAKOUT", "TREND_UP"].contains q.regime ∧ current < s.finalTarget then s
      else { s with finalTarget := current, source := .riskReduced, coreExposureApplied := false }
    else { s with finalTarget := min s.finalTarget core, source := .trailingExit }
  else if q.coreActive settings ∧ q.regime = "TREND_DOWN" then
    { s with finalTarget := min s.finalTarget core, source := .trailingExit }
  else { s with finalTarget := min s.finalTarget (max (current * (5 / 10)) 0)
                source := .trailingExit }

def StrongBreakoutHold : Prop :=
  q.regime = "BREAKOUT" ∧ settings.attackScoreMax ≤ q.attackResult.attackScore
    ∧ 25 / 10 ≤ q.currentPositionPnlPct

instance : Decidable (q.StrongBreakoutHold settings) :=
  inferInstanceAs (Decidable (q.regime = "BREAKOUT"
    ∧ settings.attackScoreMax ≤ q.attackResult.attackScore ∧ 25 / 10 ≤ q.currentPositionPnlPct))

def profitTaken (s : LayeredTarget) : LayeredTarget :=
  let current := q.currentExposurePct
  let pnl := q.currentPositionPnlPct
  if current ≤ 0 then s
  else if q.StrongBreakoutHold settings then
    { s with finalTarget := current, source := .trailingHold }
  else if settings.partialTakeProfit2Pct ≤ pnl then
    { s with finalTarget := min s.finalTarget (current * (7 / 10)), source := .partialTakeProfit
             partialTakeProfitPct := 30 }
  else if settings.partialTakeProfit1Pct ≤ pnl then
    { s with finalTarget := min s.finalTarget (current * (8 / 10)), source := .partialTakeProfit
             partialTakeProfitPct := 20 }
  else if 25 / 10 ≤ pnl then { s with source := .trailingExit }
  else s

def exited (s : LayeredTarget) : LayeredTarget :=
  if 0 < q.currentExposurePct ∧ q.regime = "PANIC" then
    { s with finalTarget := 0, source := .trailingExit }
  else if 0 < q.currentExposurePct ∧ q.TrailingTouched settings then q.trailed settings s
  else q.profitTaken settings s

def capped : LayeredTarget :=
  q.regimeReduced settings (q.riskReduced (q.notAveragedDown settings (q.attacked settings)))

def layered : LayeredTarget := q.exited settings (q.floored settings (q.capped settings))

def pyramidingAllowed (noAveragingDown : Bool) : Bool :=
  decide (0 < q.currentExposurePct ∧ settings.pyramidMinPnlPct ≤ q.currentPositionPnlPct
    ∧ settings.attackScoreEntry ≤ q.attackResult.attackScore) && !noAveragingDown
    && rewardedRegimes.contains q.regime

end Layers

end LayerRequest

/-! ## The result -/

/-- What `apply_aggressive_target_layer` returns, without the reasons it shows. -/
structure LayerResult where
  targetExposurePct : ℚ
  aggressiveTargetExposurePct : ℚ
  conservativeTargetExposurePct : ℚ
  finalTargetExposureSource : TargetSource
  actionHint : ActionHint
  blockers : List String
  aggressiveBuyBlockers : List String
  aggressiveWarnings : List String
  highestPriceSinceEntry : Option ℚ
  trailingStopPrice : Option ℚ
  trailingStopPct : ℚ
  partialTakeProfitTriggered : Bool
  partialTakeProfitPct : ℚ
  pyramidingAllowed : Bool
  noAveragingDownBlocked : Bool
  coreExposurePct : ℚ
  coreExposureApplied : Bool
  coreExposureBrokenByPanic : Bool

/-- `round(max(min(x, 100.0), 0.0), 4)`. -/
def percentage (x : ℚ) : ℚ := round4 (max (min x 100) 0)

/-- `round(x, 8) if x else None`. -/
def roundedPrice (x : ℚ) : Option ℚ :=
  if x = 0 then none else some (nearestAt ((100000000 : ℤ) : ℚ) x)

/-- `SMART_AGGRESSIVE_NO_AVERAGING_DOWN`. -/
def noAveragingDownCode : String := "SMART_AGGRESSIVE_NO_AVERAGING_DOWN"

def applyAggressiveTargetLayer (settings : AttackSettings) (q : LayerRequest) : LayerResult :=
  let s := q.layered settings
  let target := percentage s.finalTarget
  let buyBlockers := q.aggressiveBuyBlockers
  let added := if s.buyBlocked then [noAveragingDownCode] else []
  { targetExposurePct := target
    aggressiveTargetExposurePct :=
      percentage (aggressiveTarget settings q.regime q.attackResult.attackMode)
    conservativeTargetExposurePct := percentage q.conservativeTargetExposurePct
    finalTargetExposureSource := s.source
    actionHint := layerActionHint settings q.currentExposurePct target s.source
    blockers := (q.riskBlockers ++ buyBlockers ++ added).eraseDups
    aggressiveBuyBlockers := (buyBlockers ++ added).eraseDups
    aggressiveWarnings :=
      (orList q.attackResult.aggressiveWarnings buyBlockers
        ++ if s.noAveragingDown then [noAveragingDownCode] else []).eraseDups
    highestPriceSinceEntry := roundedPrice q.highest
    trailingStopPrice := roundedPrice (q.trailingStopPrice settings)
    trailingStopPct := layerTrailingStopPct settings q.regime
    partialTakeProfitTriggered := decide (s.partialTakeProfitPct ≠ 0)
    partialTakeProfitPct := s.partialTakeProfitPct
    pyramidingAllowed := q.pyramidingAllowed settings s.noAveragingDown
    noAveragingDownBlocked := s.noAveragingDown
    coreExposurePct := percentage (q.coreExposure settings)
    coreExposureApplied := s.coreExposureApplied
    coreExposureBrokenByPanic :=
      q.regime == "PANIC" && settings.coreExposureEnabled && settings.panicCanBreakCore }

theorem percentage_mem (x : ℚ) : percentage x ∈ Set.Icc (0 : ℚ) 100 := round4_clamped_mem x

theorem percentage_le_round4 {x y : ℚ} (hxy : x ≤ y) (hy : 0 ≤ y) : percentage x ≤ round4 y :=
  round4_mono (max_le ((min_le_left _ _).trans hxy) hy)

theorem percentage_of_mem {x : ℚ} (hx : x ∈ Set.Icc (0 : ℚ) 100) : percentage x = round4 x := by
  unfold percentage
  rw [min_eq_left hx.2, max_eq_left hx.1]

@[simp] theorem percentage_zero : percentage 0 = 0 := by
  rw [percentage_of_mem ⟨le_rfl, by norm_num⟩]
  exact round4_intCast 0

/-! ## What a layer raises the target to -/

namespace LayerRequest

variable {settings : AttackSettings} {q : LayerRequest} {s : LayeredTarget} {bound : ℚ}

/-- What counts of the core exposure: nothing where it must not be accumulated. -/
def countedCore (settings : AttackSettings) (q : LayerRequest) : ℚ :=
  if q.coreAccumulationAllowed settings then q.coreExposure settings else 0

theorem allowedAccumulation_eq (h : 0 < q.currentExposurePct) :
    q.allowedAccumulation settings = max q.currentExposurePct (q.countedCore settings) := by
  unfold allowedAccumulation countedCore
  split
  · rfl
  · exact (max_eq_left h.le).symm

theorem notAveragedDown_le (h : q.Losing settings) :
    (q.notAveragedDown settings s).finalTarget
      ≤ max q.currentExposurePct (q.countedCore settings) := by
  have hallowed : q.allowedAccumulation settings
      = max q.currentExposurePct (q.countedCore settings) := allowedAccumulation_eq h.2.1
  unfold notAveragedDown
  dsimp only
  by_cases hraises : q.currentExposurePct < s.finalTarget
  · rw [if_pos ⟨h, hraises⟩, ← hallowed]
    split
    · split
      · exact le_rfl
      · split <;> exact le_rfl
    · exact not_lt.mp ‹_›
  · rw [if_neg (fun hboth => hraises hboth.2)]
    exact (not_lt.mp hraises).trans (le_max_left _ _)

theorem riskReduced_le (h : s.finalTarget ≤ bound) (hbound : q.currentExposurePct ≤ bound) :
    (q.riskReduced s).finalTarget ≤ bound := by
  unfold riskReduced
  split
  · exact hbound
  · exact h

theorem riskReduced_le_current (h : q.riskBlockers ≠ []) :
    (q.riskReduced s).finalTarget ≤ q.currentExposurePct := by
  unfold riskReduced
  split
  case isTrue => exact le_rfl
  case isFalse hno => exact not_lt.mp (fun hraises => hno ⟨h, hraises⟩)

theorem regimeReduced_le (h : s.finalTarget ≤ bound) (hbound : q.currentExposurePct ≤ bound)
    (hcurrent : 0 ≤ q.currentExposurePct) : (q.regimeReduced settings s).finalTarget ≤ bound := by
  unfold regimeReduced
  split
  · exact hcurrent.trans hbound
  · split
    · exact (min_le_left _ _).trans h
    · split
      · exact hbound
      · exact h

theorem floored_le (h : s.finalTarget ≤ bound)
    (hcore : q.coreActive settings = true → q.regime ≠ "PANIC" → q.regime ≠ "TREND_DOWN" →
      (q.regime = "OVERHEATED" → q.coreExposure settings ≤ q.currentExposurePct) →
      q.coreExposure settings ≤ bound) :
    (q.floored settings s).finalTarget ≤ bound := by
  unfold floored
  dsimp only
  split
  case isTrue hfloor => exact hcore hfloor.1 hfloor.2.1 hfloor.2.2.1 hfloor.2.2.2.2
  case isFalse => exact h

theorem half_le (h : 0 ≤ q.currentExposurePct) :
    max (q.currentExposurePct * (5 / 10)) 0 ≤ q.currentExposurePct :=
  max_le (by linarith) h

theorem trailed_le (h : s.finalTarget ≤ bound) (hbound : q.currentExposurePct ≤ bound) :
    (q.trailed settings s).finalTarget ≤ bound := by
  unfold trailed
  dsimp only
  split
  · split
    · split
      · exact h
      · exact hbound
    · exact (min_le_left _ _).trans h
  · split <;> exact (min_le_left _ _).trans h

theorem profitTaken_le (h : s.finalTarget ≤ bound) (hbound : q.currentExposurePct ≤ bound) :
    (q.profitTaken settings s).finalTarget ≤ bound := by
  unfold profitTaken
  dsimp only
  split
  · exact h
  · split
    · exact hbound
    · split
      · exact (min_le_left _ _).trans h
      · split
        · exact (min_le_left _ _).trans h
        · split <;> exact h

theorem exited_le (h : s.finalTarget ≤ bound) (hbound : q.currentExposurePct ≤ bound)
    (hcurrent : 0 ≤ q.currentExposurePct) : (q.exited settings s).finalTarget ≤ bound := by
  unfold exited
  split
  · exact hcurrent.trans hbound
  · split
    · exact trailed_le h hbound
    · exact profitTaken_le h hbound

/-! ## The bounds -/

theorem layered_of_panic (h : q.regime = "PANIC") : (q.layered settings).finalTarget = 0 := by
  have hcapped : (q.capped settings).finalTarget = 0 := by
    unfold capped regimeReduced
    rw [if_pos h]
  have hfloored : (q.floored settings (q.capped settings)).finalTarget = 0 := by
    unfold floored
    dsimp only
    rw [if_neg (fun hfloor => hfloor.2.1 h), hcapped]
  unfold layered exited
  by_cases hcurrent : 0 < q.currentExposurePct
  · rw [if_pos ⟨hcurrent, h⟩]
  · rw [if_neg (fun hboth => hcurrent hboth.1), if_neg (fun hboth => hcurrent hboth.1)]
    unfold profitTaken
    dsimp only
    rw [if_pos (not_lt.mp hcurrent), hfloored]

theorem layered_of_override (hcurrent : 0 ≤ q.currentExposurePct)
    (h : coreOverrideBlocked q.riskBlockers = true) :
    (q.layered settings).finalTarget ≤ q.currentExposurePct := by
  have hblockers : q.riskBlockers ≠ [] := by
    intro hnil
    rw [hnil] at h
    cases h
  have hinactive : q.coreActive settings = false := by simp [coreActive, h]
  have hcapped : (q.capped settings).finalTarget ≤ q.currentExposurePct :=
    regimeReduced_le (riskReduced_le_current hblockers) le_rfl hcurrent
  refine exited_le (floored_le hcapped ?_) le_rfl hcurrent
  intro hactive
  rw [hinactive] at hactive
  cases hactive

/-- The floor stands in a regime in which the core exposure is not accumulated. -/
def UnrewardedFloor (settings : AttackSettings) (q : LayerRequest) : Prop :=
  q.coreActive settings = true
    ∧ q.regime ∉ ["PANIC", "TREND_DOWN", "OVERHEATED", "BREAKOUT", "TREND_UP", "RANGE"]

/-- Neither the trailing stop nor the profit lowers what the floor has raised. -/
def LeftAlone (settings : AttackSettings) (q : LayerRequest) : Prop :=
  ¬ q.TrailingTouched settings ∧ q.currentPositionPnlPct < settings.partialTakeProfit1Pct
    ∧ q.currentPositionPnlPct < settings.partialTakeProfit2Pct

theorem capped_of_losing (h : q.Losing settings) :
    (q.capped settings).finalTarget ≤ max q.currentExposurePct (q.countedCore settings) :=
  regimeReduced_le (riskReduced_le (notAveragedDown_le h) (le_max_left _ _)) (le_max_left _ _)
    h.2.1.le

theorem layered_of_rewarded (h : q.Losing settings) (hfloor : ¬ q.UnrewardedFloor settings) :
    (q.layered settings).finalTarget ≤ max q.currentExposurePct (q.countedCore settings) := by
  refine exited_le (floored_le (capped_of_losing h) ?_) (le_max_left _ _) h.2.1.le
  intro hactive hpanic hdown hoverheated
  by_cases hrewarded : rewardedRegimes.contains q.regime = true
  · have hcounted : q.countedCore settings = q.coreExposure settings :=
      if_pos (by simpa [coreAccumulationAllowed, hactive] using hrewarded)
    exact hcounted.symm.le.trans (le_max_right _ _)
  · -- of the other regimes, an overheated market is left where the floor is
    have hregime : q.regime = "OVERHEATED" := by
      by_contra hother
      refine hfloor ⟨hactive, ?_⟩
      simp only [rewardedRegimes, List.contains_eq_mem, decide_eq_true_eq] at hrewarded
      simp only [List.mem_cons, List.not_mem_nil, or_false, not_or] at hrewarded ⊢
      exact ⟨hpanic, hdown, hother, hrewarded⟩
    exact (hoverheated hregime).trans (le_max_left _ _)

theorem unrewarded_spec (h : q.UnrewardedFloor settings) :
    q.coreAccumulationAllowed settings = false ∧ q.regime ≠ "PANIC" ∧ q.regime ≠ "TREND_DOWN"
      ∧ q.regime ≠ "OVERHEATED" ∧ q.regime ≠ "BREAKOUT" := by
  obtain ⟨-, hregime⟩ := h
  simp only [List.mem_cons, List.not_mem_nil, or_false, not_or] at hregime
  obtain ⟨hpanic, hdown, hoverheated, hbreakout, hup, hrange⟩ := hregime
  refine ⟨?_, hpanic, hdown, hoverheated, hbreakout⟩
  simp [coreAccumulationAllowed, rewardedRegimes, hbreakout, hup, hrange]

theorem exited_of_touched (h : q.Losing settings) (hfloor : q.UnrewardedFloor settings)
    (htouched : ¬ q.LeftAlone settings) :
    (q.exited settings s).finalTarget ≤ q.currentExposurePct := by
  obtain ⟨haccumulates, hpanic, hdown, -, hbreakout⟩ := unrewarded_spec hfloor
  have hcurrent := h.2.1
  unfold exited
  rw [if_neg (fun hboth => hpanic hboth.2)]
  by_cases htrailing : q.TrailingTouched settings
  · rw [if_pos ⟨hcurrent, htrailing⟩]
    unfold trailed
    dsimp only
    rw [if_neg (by simp [haccumulates]), if_neg (fun hboth => hdown hboth.2)]
    exact (min_le_right _ _).trans (half_le hcurrent.le)
  · rw [if_neg (fun hboth => htrailing hboth.2)]
    unfold profitTaken
    dsimp only
    rw [if_neg (not_le.mpr hcurrent), if_neg (fun hold => hbreakout hold.1)]
    split
    · exact (min_le_right _ _).trans (by linarith)
    · split
      · exact (min_le_right _ _).trans (by linarith)
      · exact absurd ⟨htrailing, not_le.mp ‹_›, not_le.mp ‹_›⟩ htouched

theorem layered_of_leftAlone (h : q.Losing settings) (hfloor : q.UnrewardedFloor settings)
    (halone : q.LeftAlone settings) (hbelow : q.currentExposurePct < q.coreExposure settings) :
    (q.layered settings).finalTarget = q.coreExposure settings := by
  obtain ⟨haccumulates, hpanic, hdown, hoverheated, hbreakout⟩ := unrewarded_spec hfloor
  have hcurrent := h.2.1
  have hcounted : q.countedCore settings = 0 := if_neg (by simp [haccumulates])
  have hcapped : (q.capped settings).finalTarget < q.coreExposure settings := by
    refine (capped_of_losing h).trans_lt ?_
    rw [hcounted, max_eq_left hcurrent.le]
    exact hbelow
  have hfloored : (q.floored settings (q.capped settings)).finalTarget
      = q.coreExposure settings := by
    unfold floored
    dsimp only
    rw [if_pos ⟨hfloor.1, hpanic, hdown, hcapped, fun heq => absurd heq hoverheated⟩]
  unfold layered exited
  rw [if_neg (fun hboth => hpanic hboth.2), if_neg (fun hboth => halone.1 hboth.2)]
  unfold profitTaken
  dsimp only
  rw [if_neg (not_le.mpr hcurrent), if_neg (fun hold => hbreakout hold.1),
    if_neg (not_le.mpr halone.2.2), if_neg (not_le.mpr halone.2.1)]
  split <;> exact hfloored

theorem losing_le_iff (hmem : q.currentExposurePct ∈ Set.Icc (0 : ℚ) 100)
    (h : q.Losing settings) :
    percentage (q.layered settings).finalTarget
        ≤ round4 (max q.currentExposurePct (q.countedCore settings))
      ↔ ¬ (q.UnrewardedFloor settings ∧ q.LeftAlone settings
        ∧ round4 q.currentExposurePct < percentage (q.coreExposure settings)) := by
  have hnonneg : 0 ≤ max q.currentExposurePct (q.countedCore settings) :=
    hmem.1.trans (le_max_left _ _)
  by_cases hfloor : q.UnrewardedFloor settings
  · have hcounted : q.countedCore settings = 0 := if_neg (by simp [(unrewarded_spec hfloor).1])
    rw [hcounted, max_eq_left hmem.1]
    by_cases halone : q.LeftAlone settings
    · by_cases hbelow : q.currentExposurePct < q.coreExposure settings
      · rw [layered_of_leftAlone h hfloor halone hbelow]
        simp [hfloor, halone]
      · -- a floor below the current exposure raises nothing
        have hcapped := capped_of_losing h
        rw [hcounted, max_eq_left hmem.1] at hcapped
        have hlayered : (q.layered settings).finalTarget ≤ q.currentExposurePct :=
          exited_le (floored_le hcapped (fun _ _ _ _ => not_lt.mp hbelow)) le_rfl hmem.1
        refine iff_of_true (percentage_le_round4 hlayered hmem.1) ?_
        rintro ⟨-, -, hless⟩
        exact absurd hless (not_lt.mpr (percentage_le_round4 (not_lt.mp hbelow) hmem.1))
    · refine iff_of_true (percentage_le_round4 (exited_of_touched h hfloor halone) hmem.1) ?_
      exact fun hall => halone hall.2.1
  · refine iff_of_true (percentage_le_round4 (layered_of_rewarded h hfloor) hnonneg) ?_
    exact fun hall => hfloor hall.1

end LayerRequest

/-- **Risk overrides every exposure layer**, unless the floor of the core exposure stands above a
losing position in a regime in which it is not accumulated. -/
theorem layers_respected_iff (settings : AttackSettings) (q : LayerRequest)
    (h : q.currentExposurePct ∈ Set.Icc (0 : ℚ) 100) :
    ((applyAggressiveTargetLayer settings q).targetExposurePct ∈ Set.Icc (0 : ℚ) 100
        ∧ (q.regime = "PANIC" → (applyAggressiveTargetLayer settings q).targetExposurePct = 0)
        ∧ (coreOverrideBlocked q.riskBlockers = true →
          (applyAggressiveTargetLayer settings q).targetExposurePct
            ≤ round4 q.currentExposurePct)
        ∧ (settings.noAveragingDown = true → 0 < q.currentExposurePct →
          q.currentPositionPnlPct < 0 →
          (applyAggressiveTargetLayer settings q).targetExposurePct
            ≤ round4 (max q.currentExposurePct (q.countedCore settings))))
      ↔ ¬ (q.Losing settings ∧ q.UnrewardedFloor settings ∧ q.LeftAlone settings
        ∧ round4 q.currentExposurePct < percentage (q.coreExposure settings)) := by
  show (percentage (q.layered settings).finalTarget ∈ _
    ∧ (_ → percentage (q.layered settings).finalTarget = 0)
    ∧ (_ → percentage (q.layered settings).finalTarget ≤ _)
    ∧ (_ → _ → _ → percentage (q.layered settings).finalTarget ≤ _)) ↔ _
  rw [and_iff_right (percentage_mem _)]
  rw [and_iff_right (fun hpanic => by rw [LayerRequest.layered_of_panic hpanic, percentage_zero])]
  rw [and_iff_right (fun hblocked =>
    percentage_le_round4 (LayerRequest.layered_of_override h.1 hblocked) h.1)]
  constructor
  · rintro hkept ⟨hlosing, hrest⟩
    exact (LayerRequest.losing_le_iff h hlosing).mp (hkept hlosing.1 hlosing.2.1 hlosing.2.2) hrest
  · intro hno haveraging hcurrent hpnl
    have hlosing : q.Losing settings := ⟨haveraging, hcurrent, hpnl⟩
    exact (LayerRequest.losing_le_iff h hlosing).mpr (fun hrest => hno ⟨hlosing, hrest⟩)

/-- A losing position of 10 %, with what the target is for a regime and its blockers. -/
def losingPosition (marketRegime : String) (riskBlockers : List String) : LayerRequest :=
  { marketRegime := marketRegime
    conservativeTargetExposurePct := 0
    currentExposurePct := 10
    currentPositionPnlPct := -1
    currentPrice := 100
    highestPriceSinceEntry := some 100
    riskBlockers := riskBlockers }

theorem layers_respected_example :
    (applyAggressiveTargetLayer { coreExposureEnabled := true }
        (losingPosition "TREND_DOWN" [])).targetExposurePct ∈ Set.Icc (0 : ℚ) 100
      ∧ ((losingPosition "TREND_DOWN" []).regime = "PANIC" →
        (applyAggressiveTargetLayer { coreExposureEnabled := true }
          (losingPosition "TREND_DOWN" [])).targetExposurePct = 0)
      ∧ (coreOverrideBlocked (losingPosition "TREND_DOWN" []).riskBlockers = true →
        (applyAggressiveTargetLayer { coreExposureEnabled := true }
          (losingPosition "TREND_DOWN" [])).targetExposurePct
            ≤ round4 (losingPosition "TREND_DOWN" []).currentExposurePct)
      ∧ (true = true → 0 < (losingPosition "TREND_DOWN" []).currentExposurePct →
        (losingPosition "TREND_DOWN" []).currentPositionPnlPct < 0 →
        (applyAggressiveTargetLayer { coreExposureEnabled := true }
          (losingPosition "TREND_DOWN" [])).targetExposurePct
            ≤ round4 (max (losingPosition "TREND_DOWN" []).currentExposurePct
              ((losingPosition "TREND_DOWN" []).countedCore { coreExposureEnabled := true }))) :=
  (layers_respected_iff { coreExposureEnabled := true } (losingPosition "TREND_DOWN" [])
    (by norm_num [losingPosition])).mpr (fun hraised => by
      have hregime : (losingPosition "TREND_DOWN" []).regime = "TREND_DOWN" := by decide +kernel
      exact (LayerRequest.unrewarded_spec hraised.2.1).2.2.1 hregime)

/-- Without enough data the regime is unknown, and the losing position of 10 % is to be raised to
the core exposure of 30 %, which is not accumulated there. -/
theorem losing_position_raised :
    (losingPosition "UNKNOWN" ["SMART_MARKET_REGIME_UNKNOWN"]).currentExposurePct
        ∈ Set.Icc (0 : ℚ) 100
      ∧ (losingPosition "UNKNOWN" ["SMART_MARKET_REGIME_UNKNOWN"]).Losing
        { coreExposureEnabled := true }
      ∧ (losingPosition "UNKNOWN" ["SMART_MARKET_REGIME_UNKNOWN"]).countedCore
        { coreExposureEnabled := true } = 0
      ∧ (applyAggressiveTargetLayer { coreExposureEnabled := true }
        (losingPosition "UNKNOWN" ["SMART_MARKET_REGIME_UNKNOWN"])).targetExposurePct = 30
      ∧ round4 (max (losingPosition "UNKNOWN" ["SMART_MARKET_REGIME_UNKNOWN"]).currentExposurePct
        0) = 10 := by
  decide +kernel

end AutoCoinBot
