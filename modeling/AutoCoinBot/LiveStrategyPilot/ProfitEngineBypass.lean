/-
  LiveStrategyPilot.ProfitEngineBypass — `_profit_engine_base_risk` of
  app/live_strategy_pilot.py.

  The live gate reports the first check that fails. The profit engine passes over two of its
  codes, the cap on the amount and the cap on the ratio, and asks no check behind them again.
-/
import AutoCoinBot.LiveStrategyPilot.EntryOrder

namespace AutoCoinBot

open Library

/-! ## The bypass -/

/-- What `_profit_engine_base_risk` returns: the risk, and the code it passed over. -/
structure ProfitEngineRisk extends LiveRiskResult where
  profitEngineBypassedBaseRisk : Option String := none

def profitEngineBaseRisk (risk : LiveRiskResult) (enabled : Bool) : ProfitEngineRisk :=
  if enabled = false then { risk with }
  else if risk.riskResult ∉ ["BLOCKED_MAX_ORDER_AMOUNT", "BLOCKED_MAX_POSITION_RATIO"] then
    { risk with }
  else
    { risk with
      allowed := true
      riskResult := "ALLOWED"
      blockedReason := ""
      profitEngineBypassedBaseRisk := some risk.riskResult }

/-- The keys that `check_order_risk` reads. -/
def LiveRiskResult.base (risk : LiveRiskResult) : BaseRisk :=
  { allowed := risk.allowed, riskResult := risk.riskResult, blockedReason := risk.blockedReason }

/-! ## The checks around the two caps -/

namespace LiveRiskRequest

variable (q : LiveRiskRequest)

def openChecks : List (Bool × String) :=
  [(q.mode == .emergencyStopped, "BLOCKED_EMERGENCY_STOP"),
    (!q.config.liveTradingEnabled, "BLOCKED_LIVE_DISABLED"),
    (q.mode != .liveManualOnly && !(q.mode == .autoStrategyRunning && q.isAuto),
      "BLOCKED_LIVE_LOCKED"),
    (q.requestExists || q.recentDuplicate, "BLOCKED_DUPLICATE_ORDER"),
    (q.isSell && decide (availableBalance q.balances q.asset < q.volume),
      "BLOCKED_INSUFFICIENT_POSITION")]

def fundedChecks : List (Bool × String) :=
  [(decide (q.amountKrw < q.config.minOrderKrw), "BLOCKED_MIN_ORDER_AMOUNT"),
    (q.isBuy && decide (q.krwAvailable < q.amountKrw + q.feeEstimate),
      "BLOCKED_INSUFFICIENT_BALANCE")]

def calmChecks : List (Bool × String) :=
  [(q.snapshot.any (fun s => decide (q.config.volatilityBlockRate ≤ toFloat s.rangeRate)),
      "BLOCKED_VOLATILITY_FILTER"),
    (q.snapshot.any (fun s => decide (0 < q.config.minVolume)
      && decide (toFloat s.volume < q.config.minVolume)), "BLOCKED_LOW_VOLUME")]

/-- The mode, the live flag, no duplicate, and a sale of what is held. -/
structure Open : Prop where
  notStopped : q.mode ≠ .emergencyStopped
  live : q.config.liveTradingEnabled = true
  unlocked : q.mode = .liveManualOnly ∨ q.mode = .autoStrategyRunning ∧ q.isAuto = true
  notExists : q.requestExists = false
  notDuplicate : q.recentDuplicate = false
  held : q.isSell = true → q.volume ≤ availableBalance q.balances q.asset

/-- The minimum amount, and the KRW for the amount and its fee. -/
structure Funded : Prop where
  minimum : q.config.minOrderKrw ≤ q.amountKrw
  covered : q.isBuy = true → q.amountKrw + q.feeEstimate ≤ q.krwAvailable

/-- The volatility filter and the volume filter. -/
structure Calm : Prop where
  volatility : ∀ s, q.snapshot = some s → toFloat s.rangeRate < q.config.volatilityBlockRate
  volume : ∀ s, q.snapshot = some s → 0 < q.config.minVolume →
    q.config.minVolume ≤ toFloat s.volume

def OverAmount : Prop := q.config.maxLiveOrderKrw < q.amountKrw

def OverRatio : Prop := q.isBuy = true ∧ q.config.maxPositionRatio < q.positionRatioAfter

variable {q}

theorem blocks_eq : q.blocks = q.openChecks
    ++ (decide (q.config.maxLiveOrderKrw < q.amountKrw), "BLOCKED_MAX_ORDER_AMOUNT")
      :: (q.fundedChecks
        ++ (q.isBuy && decide (q.config.maxPositionRatio < q.positionRatioAfter),
            "BLOCKED_MAX_POSITION_RATIO") :: q.calmChecks) := rfl

theorem openChecks_pass_iff : firstFailing q.openChecks = none ↔ q.Open := by
  rw [firstFailing_eq_none_iff]
  simp only [openChecks, List.forall_mem_cons, List.not_mem_nil, false_implies, implies_true,
    and_true, beq_eq_false_iff_ne, Bool.not_eq_false', Bool.or_eq_false_iff, bne, Bool.and_eq_false_iff,
    Bool.and_eq_true, beq_iff_eq, decide_eq_false_iff_not, not_lt]
  constructor
  · rintro ⟨hstopped, hlive, hunlocked, ⟨hexists, hduplicate⟩, hheld⟩
    exact ⟨hstopped, hlive, hunlocked, hexists, hduplicate,
      fun hsell => hheld.resolve_left (by simp [hsell])⟩
  · intro h
    refine ⟨h.notStopped, h.live, h.unlocked, ⟨h.notExists, h.notDuplicate⟩, ?_⟩
    cases hsell : q.isSell with
    | false => exact .inl rfl
    | true => exact .inr (h.held hsell)

theorem fundedChecks_pass_iff : firstFailing q.fundedChecks = none ↔ q.Funded := by
  rw [firstFailing_eq_none_iff]
  simp only [fundedChecks, List.forall_mem_cons, List.not_mem_nil, false_implies, implies_true,
    and_true, Bool.and_eq_false_iff, decide_eq_false_iff_not, not_lt]
  constructor
  · rintro ⟨hminimum, hcovered⟩
    exact ⟨hminimum, fun hbuy => hcovered.resolve_left (by simp [hbuy])⟩
  · intro h
    refine ⟨h.minimum, ?_⟩
    cases hbuy : q.isBuy with
    | false => exact .inl rfl
    | true => exact .inr (h.covered hbuy)

/-! ## What is waived -/

theorem riskResult_eq_iff {code : String} (hcode : code ≠ "ALLOWED") :
    (evaluateLiveOrderRisk q).riskResult = code ↔ firstFailing q.blocks = some code := by
  show (firstFailing q.blocks).getD "ALLOWED" = code ↔ _
  cases firstFailing q.blocks with
  | none => simp [hcode.symm]
  | some other => simp

theorem max_order_amount_iff :
    (evaluateLiveOrderRisk q).riskResult = "BLOCKED_MAX_ORDER_AMOUNT"
      ↔ q.Open ∧ q.OverAmount := by
  rw [riskResult_eq_iff (by decide), blocks_eq,
    firstFailing_eq_some_iff (by simp [openChecks]) (by simp [fundedChecks, calmChecks]),
    openChecks_pass_iff, decide_eq_true_iff]
  rfl

theorem max_position_ratio_iff :
    (evaluateLiveOrderRisk q).riskResult = "BLOCKED_MAX_POSITION_RATIO"
      ↔ q.Open ∧ ¬ q.OverAmount ∧ q.Funded ∧ q.OverRatio := by
  rw [riskResult_eq_iff (by decide), blocks_eq, ← List.singleton_append, ← List.append_assoc,
    ← List.append_assoc,
    firstFailing_eq_some_iff (by simp [openChecks, fundedChecks]) (by simp [calmChecks]),
    firstFailing_append, firstFailing_append, Option.or_eq_none_iff, Option.or_eq_none_iff,
    openChecks_pass_iff, fundedChecks_pass_iff, firstFailing_eq_none_iff]
  simp [OverAmount, OverRatio, and_assoc]

/-- The bypass turns a blocked order into an allowed one. -/
def Bypassed (q : LiveRiskRequest) (enabled : Bool) : Prop :=
  (evaluateLiveOrderRisk q).allowed = false
    ∧ (profitEngineBaseRisk (evaluateLiveOrderRisk q) enabled).allowed = true

instance (enabled : Bool) : Decidable (q.Bypassed enabled) := inferInstanceAs (Decidable (_ ∧ _))

theorem blocked_of_riskResult {code : String} (hcode : code ≠ "ALLOWED")
    (h : (evaluateLiveOrderRisk q).riskResult = code) : (evaluateLiveOrderRisk q).allowed = false := by
  rw [riskResult_eq_iff hcode] at h
  show (firstFailing q.blocks).isNone = false
  rw [h]
  rfl

/-- **Which blocked orders the bypass allows**: those over the amount, and those over the ratio
that the checks before it let pass. -/
theorem bypassed_iff {enabled : Bool} :
    q.Bypassed enabled ↔ enabled = true ∧ q.Open
      ∧ (q.OverAmount ∨ ¬ q.OverAmount ∧ q.Funded ∧ q.OverRatio) := by
  have hcodes : (evaluateLiveOrderRisk q).riskResult
        ∈ ["BLOCKED_MAX_ORDER_AMOUNT", "BLOCKED_MAX_POSITION_RATIO"]
      ↔ q.Open ∧ (q.OverAmount ∨ ¬ q.OverAmount ∧ q.Funded ∧ q.OverRatio) := by
    rw [List.mem_pair, max_order_amount_iff, max_position_ratio_iff, and_or_left]
  rw [← hcodes]
  unfold Bypassed profitEngineBaseRisk
  constructor
  · rintro ⟨hblocked, hallowed⟩
    split at hallowed
    · simp [hblocked] at hallowed
    · next henabled =>
        split at hallowed
        · simp [hblocked] at hallowed
        · next hcap => exact ⟨Bool.eq_true_of_not_eq_false henabled, not_not.mp hcap⟩
  · rintro ⟨rfl, hcap⟩
    rw [if_neg (by decide), if_neg (not_not.mpr hcap)]
    refine ⟨?_, rfl⟩
    rcases List.mem_pair.mp hcap with h | h
    · exact blocked_of_riskResult (by decide) h
    · exact blocked_of_riskResult (by decide) h

end LiveRiskRequest

/-- **The bypass waives the two caps and nothing else** exactly if the checks hidden behind the cap
that is reported pass: an order over the amount is funded in a calm market, and one over the ratio
alone is in a calm market. -/
theorem bypass_waives_caps_iff (q : LiveRiskRequest) (enabled : Bool) :
    (q.Bypassed enabled → q.Open ∧ q.Funded ∧ q.Calm)
      ↔ (enabled = true → q.Open →
          (q.OverAmount → q.Funded ∧ q.Calm)
            ∧ (¬ q.OverAmount → q.Funded → q.OverRatio → q.Calm)) := by
  rw [LiveRiskRequest.bypassed_iff]
  by_cases hover : q.OverAmount
  · simp only [hover, not_true_eq_false, false_and, or_false, and_true, false_implies, true_implies]
    tauto
  · simp only [hover, not_false_eq_true, true_and, false_or, false_implies, true_implies]
    tauto

/-- A buy of 100 000 KRW in a market that moves by 1.5 %, under a filter of 1 % and a cap of
30 000 KRW. -/
def restlessBuy : LiveRiskRequest where
  order := limitBuy 100000000 (1 / 1000)
  config := { liveTradingEnabled := true, maxPositionRatio := 1, volatilityBlockRate := 1 / 100 }
  mode := .autoStrategyRunning
  balances := { byCurrency := [("KRW", { currency := "KRW", balance := some 200000 })] }
  marketSnapshot := some
    { price := some 100000000, rangeRate := some (15 / 1000), volume := some 1 }
  isAuto := true

/-- The cap hides the filter: the bypass allows the buy, and `check_order_risk`, whose own filter
is wider, lets it pass. With the cap raised the filter blocks it, bypass or not. -/
theorem filter_waived :
    restlessBuy.Bypassed true
      ∧ ¬ restlessBuy.Calm
      ∧ (checkOrderRisk { policy := { autoTradingEnabled := true } } {}
          { limitBuyRequest 100000000 (1 / 1000) true with
            baseResult := (profitEngineBaseRisk (evaluateLiveOrderRisk restlessBuy) true).base
            marketSnapshot := some
              { price := some 100000000, rangeRate := some (15 / 1000), volume := some 1
                complete := some true } }).allowed = true
      ∧ (profitEngineBaseRisk
          (evaluateLiveOrderRisk
            { restlessBuy with config := { restlessBuy.config with maxLiveOrderKrw := 100000 } })
          true).riskResult = "BLOCKED_VOLATILITY_FILTER" := by
  refine ⟨by decide +kernel, fun h => ?_, by decide +kernel, by decide +kernel⟩
  have hquiet := h.volatility { price := some 100000000, rangeRate := some (15 / 1000)
                                volume := some 1 } (by decide +kernel)
  exact absurd hquiet (by decide +kernel)

end AutoCoinBot
