/-
  LiveStrategyPilot.BlockedIntents — what becomes of a buy intent that was stored as
  `BLOCKED`.

  The blockers of an intent are read in two places: a dust blocker lets the amount accumulate, and a
  position that is open is not added to.
-/
import AutoCoinBot.LiveStrategyPilot.SmartIntentOrder

namespace AutoCoinBot

open Library

/-! ## Blocked intents -/

/-- The blockers of dust and of a capped order. -/
def softBlockers : List String :=
  ["SMART_MIN_REBALANCE_DELTA", "SMART_ORDER_DELTA_CAPPED_BY_MAX_TOTAL_EXPOSURE"]

def OrderIntent.HardBlocked (intent : OrderIntent) : Prop :=
  intent.side = .bid ∧ ∃ b ∈ intent.blockers, b ∉ softBlockers

/-- The call is made for the intent of a recorded decision. -/
structure SmartCall.Submits (c : SmartCall) (d : ShadowDecision) : Prop where
  snapshot : c.snapshot = d.snapshot
  intent : d.orderIntent = some c.intent

/-- The gates besides that of an open position. -/
def SmartCall.otherGates (c : SmartCall) : List (Bool × SmartStop) := c.sizingGates ++ c.orderGates

section Blocked

variable {c : SmartCall} {d : ShadowDecision}

theorem hardBlockers_ne_nil (hblocked : c.intent.HardBlocked) : c.hardBlockers ≠ [] := by
  obtain ⟨-, b, hb, hhard⟩ := hblocked
  have hne : b ≠ "SMART_MIN_REBALANCE_DELTA" := by
    rintro rfl
    exact hhard (by decide)
  have hmem : b ∈ c.hardBlockers := List.mem_filter.mpr
    ⟨List.mem_append_left _ (List.mem_append_left _ hb), bne_iff_ne.mpr hne⟩
  exact List.ne_nil_of_mem hmem

theorem buys_iff_of_none (hnone : c.scalePosition = none) :
    c.Buys ↔ ∀ gate ∈ c.otherGates, gate.1 = false := by
  rw [smartIntentOrder_ok_iff]
  unfold SmartCall.gates SmartCall.otherGates SmartCall.scaleInGate
  rw [scaleInBlocker_eq_none hnone]
  simp only [List.forall_mem_append, List.forall_mem_cons, Option.isSome_none, true_and]

/-- **When a blocked intent is not bought**: where there is a position it would add to, or where
some gate refuses that does not ask what blocks it. -/
theorem blockedIntent_notBought_iff (_ : c.Submits d) (hblocked : c.intent.HardBlocked) :
    ¬ c.Buys ↔ c.scalePosition.isSome = true ∨ ∃ gate ∈ c.otherGates, gate.1 = true := by
  cases hposition : c.scalePosition with
  | none =>
    rw [buys_iff_of_none hposition]
    simp only [Option.isSome_none, Bool.false_eq_true, false_or, not_forall, exists_prop,
      Bool.not_eq_false]
  | some position =>
    have hopen : c.scalePosition.isSome = true := by
      rw [hposition]
      rfl
    refine iff_of_true (fun hbuys => ?_) (.inl rfl)
    -- the gate of the position ends the call
    have hpasses := smartIntentOrder_ok_iff.mp hbuys c.scaleInGate
      (List.mem_append_right _ List.mem_cons_self)
    have hrefuses : c.scaleInGate.1 = true :=
      scaleInBlocker_isSome hopen (hardBlockers_ne_nil hblocked)
    rw [hrefuses] at hpasses
    cases hpasses

end Blocked

/-! ## A falling market -/

/-- A decision in a falling market: the conservative target of ten percent is kept, and aggressive
buying is blocked. -/
def exampleDecision : ShadowDecision :=
  { snapshotId := 1
    snapshot :=
      { marketRegime := .trendDown
        targetExposurePct := 10
        actionHint := .buyMore
        riskScore := 30
        blockers := ["SMART_AGGRESSIVE_TREND_DOWN_BLOCKED"]
        aggressiveBuyBlockers := ["SMART_AGGRESSIVE_TREND_DOWN_BLOCKED"] }
    currentPrice := 1000000
    promotion := { mode := .live }
    policy := { autoTradingEnabled := true } }

def exampleIntent : OrderIntent :=
  { decisionSnapshotId := 1
    exchange := "bithumb"
    market := "KRW-BTC"
    side := .bid
    actionHint := .buyMore
    currentValueKrw := 0
    targetValueKrw := 50000
    deltaValueKrw := 50000
    targetQty := some (1 / 20)
    limitPrice := some 1000000
    status := .blocked
    blockers := ["SMART_AGGRESSIVE_TREND_DOWN_BLOCKED"]
    targetSource := .conservative
    policyPreview := {}
    promotionStatus := some .blocked
    promotionBlockers := ["SMART_PILOT_ORDER_CAP_EXCEEDED"]
    pilotOrderCapKrw := some 30000
    riskPreview := some { allowed := true, riskResult := "SMART_PREFLIGHT_RISK_DEFERRED" } }

/-- Its call, by a running session with a reservation. -/
def exampleSmartCall : SmartCall :=
  { settings :=
      { liveConfig := { liveTradingEnabled := true }, smartEngineLiveMode := .live }
    readings :=
      { balances := some { byCurrency := [("KRW", { balance := some 300000 })] }
        runtimeLockStatus := some "RUNNING"
        diagnosticsClear := true }
    risk := { policy := { autoTradingEnabled := true } }
    db :=
      { orderReservations := Table.empty.insert
          (fun k => { id := k, market := "KRW-BTC", candidateStrategyId := 7 }) (fun _ => rfl) }
    orderLogs := {}
    session :=
      { id := 1, market := "KRW-BTC", candidateStrategyId := 7, status := .running
        autoEnabled := true, strategyName := "ma_cross" }
    candle := { tradePrice := 1000000, time := 0, timeText := "1970-01-01T00:00:00Z" }
    signal := .hold
    snapshot := exampleDecision.snapshot
    intent := exampleIntent
    requestHex := exampleRequestHex
    nowText := "1970-01-01T00:00:00Z" }

theorem exampleSmartCall_submits : exampleSmartCall.Submits exampleDecision :=
  ⟨rfl, by decide +kernel⟩

theorem exampleSmartCall_hardBlocked : exampleSmartCall.intent.HardBlocked :=
  ⟨rfl, "SMART_AGGRESSIVE_TREND_DOWN_BLOCKED", List.mem_singleton_self _, by decide⟩

theorem blockedIntent_exampleSmartCall :
    ¬ exampleSmartCall.Buys
      ↔ exampleSmartCall.scalePosition.isSome = true
        ∨ ∃ gate ∈ exampleSmartCall.otherGates, gate.1 = true :=
  blockedIntent_notBought_iff exampleSmartCall_submits exampleSmartCall_hardBlocked

/-- **A blocked intent that is bought.** -/
theorem blockedIntent_bought :
    exampleSmartCall.Submits exampleDecision ∧ exampleSmartCall.intent.HardBlocked
      ∧ exampleSmartCall.intent.status = .blocked
      ∧ ¬ ∀ (c : SmartCall) (d : ShadowDecision), c.Submits d → c.intent.HardBlocked → ¬ c.Buys := by
  refine ⟨exampleSmartCall_submits, exampleSmartCall_hardBlocked, rfl, fun hall => ?_⟩
  refine hall exampleSmartCall exampleDecision exampleSmartCall_submits
    exampleSmartCall_hardBlocked (smartIntentOrder_ok_iff.mpr ?_)
  decide +kernel

end AutoCoinBot
