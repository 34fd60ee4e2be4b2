/-
  SmartDecision.TargetExposure — `calculate_target_exposure` of
  app/smart_target_exposure.py.

  The target is scored from the market regime, the signals, the risk and the external factors.
  A decision with blockers is capped at the current exposure; what is capped is then clamped and
  rounded.
-/
import AutoCoinBot.Backtest.RunBacktest

namespace AutoCoinBot

open Library

/-! ## What the target is scored from -/

/-- An entry of `internal_signals`; what is no number is `none`. -/
structure InternalSignal where
  score : Option ℚ := none
  confidence : Option ℚ := none

/-- `round(x, 2)`. -/
def round2 (x : ℚ) : ℚ := nearestAt ((100 : ℤ) : ℚ) x

def aggregateSignalScore (signals : List InternalSignal) : ℚ :=
  let confidence := fun (s : InternalSignal) => max (toFloat s.confidence) 0
  let weighted := (signals.map (fun s => toFloat s.score * confidence s)).sum
  let totalWeight := (signals.map confidence).sum
  if 0 < totalWeight then round2 (weighted / totalWeight) else 0

/-- An entry of `providers`. -/
structure ExternalProvider where
  value : Option ℚ := none
  stale : Bool := false

def providerValue (provider : Option ExternalProvider) : Option ℚ :=
  (provider.filter (fun p => !p.stale)).bind ExternalProvider.value

/-- `external_factors`, as far as the target depends on it. -/
structure ExternalFactors where
  newsSentimentScore : Option ExternalProvider := none
  btcUsdMomentum : Option ExternalProvider := none
  kimchiPremium : Option ExternalProvider := none
  fearGreedScore : Option ExternalProvider := none
  hardBlockers : List String := []

/-- `SMART_EXCHANGE_NOTICE_RISK_BLOCK`. -/
def exchangeNoticeRiskBlock : String := "SMART_EXCHANGE_NOTICE_RISK_BLOCK"

/-- Whether the exchange has a notice that blocks. -/
def ExternalFactors.noticeBlocks (factors : ExternalFactors) : Bool :=
  factors.hardBlockers.contains exchangeNoticeRiskBlock

def newsAdjustment (sentiment : ℚ) : ℚ :=
  if sentiment ≤ -60 then -6 else if sentiment ≤ -30 then -3 else if 50 ≤ sentiment then 1 else 0

def momentumAdjustment (momentum : ℚ) : ℚ := max (min (momentum * (6 / 10)) 3) (-5)

def premiumAdjustment (premium : ℚ) : ℚ :=
  if 5 ≤ premium then -4 else if 3 ≤ premium then -2 else if premium ≤ -2 then 1 else 0

def fearGreedAdjustment (index : ℚ) : ℚ :=
  if 80 ≤ index then -6 else if 70 ≤ index then -3 else if index ≤ 20 then -1 else 0

/-- `_external_factor_adjustment`: the adjustment and the blockers. -/
def externalFactorAdjustment (externalFactors : Option ExternalFactors) : ℚ × List String :=
  let factors := externalFactors.getD {}
  let adjustment :=
    (if factors.noticeBlocks then -15 else 0)
      + ((providerValue factors.newsSentimentScore).map newsAdjustment).getD 0
      + ((providerValue factors.btcUsdMomentum).map momentumAdjustment).getD 0
      + ((providerValue factors.kimchiPremium).map premiumAdjustment).getD 0
      + ((providerValue factors.fearGreedScore).map fearGreedAdjustment).getD 0
  (round4 (max (min adjustment 5) (-15)),
    if factors.noticeBlocks then [exchangeNoticeRiskBlock] else [])

def baseExposure (regime : String) : ℚ :=
  ([("BREAKOUT", 45), ("TREND_UP", 35), ("RANGE", 18), ("TREND_DOWN", 8), ("OVERHEATED", 5),
    ("PANIC", 0), ("UNKNOWN", 0)].lookup regime.toUpper).getD 10

/-! ## The target -/

/-- The arguments of `calculate_target_exposure`, with the keys it reads of `risk_state` and
`policy`. -/
structure TargetRequest where
  currentExposurePct : ℚ
  riskScore : ℚ := 0
  marketRegime : String
  internalSignals : List InternalSignal := []
  riskStatus : String := ""
  dailyTotalPnl : Option ℚ := none
  autoTradingEnabled : Bool := true
  dailyLossLimitPct : Option ℚ := none
  maxTotalExposureKrw : ℚ
  currentPositionValueKrw : ℚ := 0
  externalFactors : Option ExternalFactors := none

/-- What `calculate_target_exposure` returns, without the reasons it shows. -/
structure TargetExposure where
  targetExposurePct : ℚ
  aggregateSignalScore : ℚ
  externalFactorAdjustmentPct : ℚ
  blockers : List String

theorem round4_clamped_mem (x : ℚ) : round4 (max (min x 100) 0) ∈ Set.Icc (0 : ℚ) 100 := by
  have hclamped : max (min x 100) 0 ∈ Set.Icc ((0 : ℤ) : ℚ) ((100 : ℤ) : ℚ) := by
    push_cast
    exact ⟨le_max_right _ _, max_le (min_le_right _ _) (by norm_num)⟩
  have hrounded := round4_mem_Icc hclamped
  push_cast at hrounded
  exact hrounded

namespace TargetRequest

variable (q : TargetRequest)

/-- `target`, before it is capped. -/
def scored : ℚ :=
  baseExposure q.marketRegime + aggregateSignalScore q.internalSignals * (35 / 100)
    - max (q.riskScore - 45) 0 * (45 / 100)
    + (externalFactorAdjustment q.externalFactors).1

def dailyLossLimitKrw : ℚ := q.maxTotalExposureKrw * q.dailyLossLimitPct.getD 3 / 100

def dailyLossKrw : ℚ := |min (toFloat q.dailyTotalPnl) 0|

/-- `risk_state.get("status") in {"EMERGENCY_STOPPED", "BLOCKED"}`. -/
def riskStops : Bool := ["EMERGENCY_STOPPED", "BLOCKED"].contains q.riskStatus

/-- The blockers, in the order in which they are found. -/
def targetBlockers : List String :=
  (externalFactorAdjustment q.externalFactors).2
    ++ (if q.autoTradingEnabled then [] else ["SMART_POLICY_AUTO_TRADING_DISABLED"])
    ++ (if q.maxTotalExposureKrw ≤ q.currentPositionValueKrw then
        ["SMART_MAX_TOTAL_EXPOSURE_REACHED"]
      else [])
    ++ (if q.riskStops then [q.riskStatus] else [])
    ++ (if 80 ≤ q.riskScore then ["SMART_RISK_SCORE_HIGH"] else [])
    ++ (if q.marketRegime = "UNKNOWN" then ["SMART_MARKET_REGIME_UNKNOWN"] else [])
    ++ (if 0 < q.dailyLossLimitKrw ∧ q.dailyLossLimitKrw ≤ q.dailyLossKrw then
        ["SMART_DAILY_LOSS_LIMIT_REACHED"]
      else [])

/-- `target`, capped by the blockers and left alone in no panic. -/
def capped : ℚ :=
  if q.marketRegime = "PANIC" then 0
  else if q.targetBlockers ≠ [] then min q.scored q.currentExposurePct
  else q.scored

def calculateTargetExposure : TargetExposure where
  targetExposurePct := round4 (max (min q.capped 100) 0)
  aggregateSignalScore := AutoCoinBot.aggregateSignalScore q.internalSignals
  externalFactorAdjustmentPct := (externalFactorAdjustment q.externalFactors).1
  blockers := q.targetBlockers.eraseDups

/-! ## When nothing blocks -/

/-- Nothing in the inputs blocks the decision. -/
structure Unblocked : Prop where
  noNotice : ∀ factors ∈ q.externalFactors, factors.noticeBlocks = false
  autoTrading : q.autoTradingEnabled = true
  exposure : q.currentPositionValueKrw < q.maxTotalExposureKrw
  riskState : q.riskStops = false
  riskScore : q.riskScore < 80
  regime : q.marketRegime ≠ "UNKNOWN"
  dailyLoss : 0 < q.dailyLossLimitKrw → q.dailyLossKrw < q.dailyLossLimitKrw

variable {q}

theorem noticeBlockers_eq_nil_iff (factors : Option ExternalFactors) :
    (externalFactorAdjustment factors).2 = [] ↔ ∀ f ∈ factors, f.noticeBlocks = false := by
  cases factors with
  | none => exact iff_of_true rfl (fun f hf => by cases hf)
  | some f => simp [externalFactorAdjustment]

theorem targetBlockers_eq_nil_iff : q.targetBlockers = [] ↔ q.Unblocked := by
  unfold targetBlockers
  simp only [List.append_eq_nil_iff, ite_eq_left_iff, ite_eq_right_iff, noticeBlockers_eq_nil_iff,
    List.cons_ne_nil, imp_false, Bool.not_eq_true, not_le, not_and]
  constructor
  · rintro ⟨⟨⟨⟨⟨⟨hnotice, hauto⟩, hexposure⟩, hstate⟩, hscore⟩, hregime⟩, hloss⟩
    exact ⟨hnotice, by simpa using hauto, hexposure, hstate, hscore, hregime, hloss⟩
  · rintro ⟨hnotice, hauto, hexposure, hstate, hscore, hregime, hloss⟩
    exact ⟨⟨⟨⟨⟨⟨hnotice, by simpa using hauto⟩, hexposure⟩, hstate⟩, hscore⟩, hregime⟩, hloss⟩

theorem blockers_eq_nil_iff : q.calculateTargetExposure.blockers = [] ↔ q.Unblocked := by
  rw [← targetBlockers_eq_nil_iff]
  show q.targetBlockers.eraseDups = [] ↔ _
  cases q.targetBlockers with
  | nil => exact iff_of_true rfl rfl
  | cons blocker rest => simp [List.eraseDups_cons]

/-! ## The bounds -/

theorem target_within_bounds (q : TargetRequest) :
    q.calculateTargetExposure.targetExposurePct ∈ Set.Icc (0 : ℚ) 100
      ∧ (q.marketRegime = "PANIC" → q.calculateTargetExposure.targetExposurePct = 0) := by
  refine ⟨round4_clamped_mem q.capped, fun hpanic => ?_⟩
  have hcapped : q.capped = 0 := if_pos hpanic
  show round4 (max (min q.capped 100) 0) = 0
  rw [hcapped, min_eq_left (by norm_num), max_self]
  exact round4_intCast 0

theorem round4_clamped_le_iff {x current : ℚ} (hx : x ≤ 100) (hcurrent : 0 ≤ current) :
    round4 (max (min x 100) 0) ≤ current ↔ round4 x ≤ current := by
  have hzero : round4 0 = 0 := round4_intCast 0
  rw [min_eq_left hx, round4_mono.map_max, hzero, max_le_iff]
  exact and_iff_left hcurrent

theorem target_le_current_iff (h : q.currentExposurePct ∈ Set.Icc (0 : ℚ) 100)
    (hblocked : ¬ q.Unblocked) (hpanic : q.marketRegime ≠ "PANIC") :
    q.calculateTargetExposure.targetExposurePct ≤ q.currentExposurePct
      ↔ round4 q.currentExposurePct ≤ q.currentExposurePct
        ∨ round4 q.scored ≤ q.currentExposurePct := by
  have hcapped : q.capped = min q.scored q.currentExposurePct := by
    unfold capped
    rw [if_neg hpanic, if_pos (fun hnil => hblocked (targetBlockers_eq_nil_iff.mp hnil))]
  show round4 (max (min q.capped 100) 0) ≤ _ ↔ _
  rw [hcapped, round4_clamped_le_iff ((min_le_right _ _).trans h.2) h.1, round4_mono.map_min,
    min_le_iff]
  exact or_comm

/-- **Blockers cap the target exposure**, unless the current exposure and the score are both
rounded up beyond it. -/
theorem blocked_target_capped_iff (q : TargetRequest)
    (h : q.currentExposurePct ∈ Set.Icc (0 : ℚ) 100) :
    (q.calculateTargetExposure.targetExposurePct ∈ Set.Icc (0 : ℚ) 100
        ∧ (q.marketRegime = "PANIC" → q.calculateTargetExposure.targetExposurePct = 0)
        ∧ (q.calculateTargetExposure.blockers ≠ [] →
          q.calculateTargetExposure.targetExposurePct ≤ q.currentExposurePct))
      ↔ q.Unblocked ∨ q.marketRegime = "PANIC"
        ∨ round4 q.currentExposurePct ≤ q.currentExposurePct
        ∨ round4 q.scored ≤ q.currentExposurePct := by
  obtain ⟨hbounds, hzero⟩ := q.target_within_bounds
  rw [Ne, blockers_eq_nil_iff, and_iff_right hbounds, and_iff_right hzero]
  by_cases hblocked : q.Unblocked
  · exact iff_of_true (fun hno => absurd hblocked hno) (.inl hblocked)
  by_cases hpanic : q.marketRegime = "PANIC"
  · refine iff_of_true (fun _ => ?_) (.inr (.inl hpanic))
    rw [hzero hpanic]
    exact h.1
  · rw [forall_prop_of_true hblocked, target_le_current_iff h hblocked hpanic,
      or_iff_right hblocked, or_iff_right hpanic]

/-- A breakout, while automatic trading is switched off. -/
def switchedOffBreakout (currentExposurePct : ℚ) : TargetRequest :=
  { currentExposurePct := currentExposurePct
    marketRegime := "BREAKOUT"
    autoTradingEnabled := false
    maxTotalExposureKrw := 500000
    currentPositionValueKrw := currentExposurePct * 5000 }

theorem blocked_target_capped_example :
    (switchedOffBreakout 20).calculateTargetExposure.targetExposurePct ∈ Set.Icc (0 : ℚ) 100
      ∧ ((switchedOffBreakout 20).marketRegime = "PANIC" →
        (switchedOffBreakout 20).calculateTargetExposure.targetExposurePct = 0)
      ∧ ((switchedOffBreakout 20).calculateTargetExposure.blockers ≠ [] →
        (switchedOffBreakout 20).calculateTargetExposure.targetExposurePct
          ≤ (switchedOffBreakout 20).currentExposurePct) :=
  (blocked_target_capped_iff (switchedOffBreakout 20) (by norm_num [switchedOffBreakout])).mpr
    (.inr (.inr (.inl (round4_intCast 20).le)))

theorem rounded_above_current :
    (switchedOffBreakout (3333336 / 100000)).currentExposurePct ∈ Set.Icc (0 : ℚ) 100
      ∧ (switchedOffBreakout (3333336 / 100000)).calculateTargetExposure.blockers
        = ["SMART_POLICY_AUTO_TRADING_DISABLED"]
      ∧ (switchedOffBreakout (3333336 / 100000)).calculateTargetExposure.targetExposurePct
        = 333334 / 10000
      ∧ (switchedOffBreakout (3333336 / 100000)).currentExposurePct < 333334 / 10000 := by
  decide +kernel

end TargetRequest
end AutoCoinBot
