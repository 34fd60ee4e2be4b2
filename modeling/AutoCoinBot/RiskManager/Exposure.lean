/-
  RiskManager.Exposure — what the exposure guard of an automatic entry
  bounds.

  The guard compares the policy's limit with the open positions of the order's own
  market. The limit is one for the whole bot: what other markets hold is left out of
  the comparison.
-/
import AutoCoinBot.RiskManager.Checks

namespace AutoCoinBot

open Library

/-! ## Values -/

/-- The value of all open positions of an exchange, at their current prices. -/
def totalBotPositionValueKrw (db : Database) (exchange : String) : ℚ :=
  ((loadOpenLivePositionsForExchange db exchange).map (fun p => p.entryVolume * p.currentPrice)).sum

def uncountedValueKrw (db : Database) (q : RiskRequest) : ℚ :=
  totalBotPositionValueKrw db q.order.exchangeText - currentBotPositionValue db q

/-! ## Automatic entries -/

/-- Everything `check_order_risk` asks of an automatic entry besides its exposure. -/
def PassesOtherChecks (env : RiskEnvironment) (db : Database) (q : RiskRequest) : Prop :=
  (∀ check ∈ orderChecks env db q, check.1 ≠ "operation_policy_check" → check.2 = none)
    ∧ env.policy.autoTradingEnabled = true
    ∧ ¬ (q.balances.isSome = true ∧ availableBalanceTotal q.balances "KRW" < q.order.amount)
    ∧ dailyLossKrw (riskState env db q).dailyTotalPnl < env.policy.dailyLossLimitKrw

instance (env : RiskEnvironment) (db : Database) (q : RiskRequest) :
    Decidable (PassesOtherChecks env db q) := by
  unfold PassesOtherChecks
  infer_instance

/-- The room the positions of the order's own market leave. -/
def exposureRoomKrw (env : RiskEnvironment) (db : Database) (q : RiskRequest) : ℚ :=
  env.policy.maxTotalExposureKrw - currentBotPositionValue db q

section AutoEntry

variable {env : RiskEnvironment} {db : Database} {q : RiskRequest}

theorem autoEntry_allowed_iff (hbuy : q.isBuyEntry = true) (hauto : q.isAuto = true)
    (hengine : q.profitEngineEntry = false) :
    (checkOrderRisk env db q).allowed = true
      ↔ PassesOtherChecks env db q ∧ 0 < exposureRoomKrw env db q
        ∧ q.order.amount ≤ exposureRoomKrw env db q := by
  have hpolicy : operationPolicyCheck env db q = none ↔ _ :=
    operationPolicyCheck_eq_none_iff hbuy hauto hengine
  have hroom : 0 < exposureRoomKrw env db q
      ↔ currentBotPositionValue db q < env.policy.maxTotalExposureKrw := sub_pos
  have hfits : q.order.amount ≤ exposureRoomKrw env db q
      ↔ currentBotPositionValue db q + q.order.amount ≤ env.policy.maxTotalExposureKrw :=
    le_sub_iff_add_le'
  rw [checkOrderRisk_allowed_iff, hroom, hfits]
  constructor
  · intro hall
    obtain ⟨hon, hless, hle, hbalance, hloss⟩ := hpolicy.mp (hall _ operationPolicyCheck_mem)
    exact ⟨⟨fun check hcheck _ => hall check hcheck, hon, hbalance, hloss⟩, hless, hle⟩
  · rintro ⟨⟨hothers, hon, hbalance, hloss⟩, hless, hle⟩ check hcheck
    by_cases hname : check.1 = "operation_policy_check"
    · -- the policy check is the only one under its name
      rw [orderChecks_policy hcheck hname]
      exact hpolicy.mpr ⟨hon, hless, hle, hbalance, hloss⟩
    · exact hothers check hcheck hname

end AutoEntry

/-! ## Two markets -/

def exampleEthDb : Database :=
  { livePositions := Table.empty.insert
      (fun k =>
        { id := k, market := "KRW-ETH", status := .opened, entryPrice := 90000, entryVolume := 1
          entryAmountKrw := 90000, currentPrice := 90000 })
      (fun _ => rfl) }

/-- Automatic trading with a total limit of 100,000 KRW. -/
theorem exampleExposure_pos : (0 : ℚ) < 100000 := by norm_num

def exampleRiskEnvironment : RiskEnvironment :=
  { policy :=
      { autoTradingEnabled := true, maxTotalExposureKrw := 100000
        maxTotalExposure_pos := exampleExposure_pos } }

def exampleBtcEntry (amount : ℚ) : RiskRequest :=
  { order := { side := some .buy, amountKrw := some amount }
    purpose := .entry
    isAuto := true }

end AutoCoinBot
