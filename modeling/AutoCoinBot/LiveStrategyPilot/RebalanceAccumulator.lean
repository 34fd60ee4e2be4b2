/-
  LiveStrategyPilot.RebalanceAccumulator — deltas that are put off until they are worth
  an order.

  A delta states the whole distance to the target, and is computed anew every tick; the accumulator
  adds the deltas of the ticks up.

  The requested amount of a buy is cut to what can be spent, and then multiplied by the dynamic
  sizing, which the profit engine never lets enlarge it.
-/
import AutoCoinBot.LiveStrategyPilot.BlockedIntents

namespace AutoCoinBot

open Library

namespace SmartCall

variable (c : SmartCall)

/-! ## What bounds an amount -/

/-- `max_affordable`: the balance pays the fees as well. -/
def affordableKrw : ℚ :=
  max c.availableKrw 0
    / (1 + max (c.settings.liveConfig.feeRate + c.settings.profitEngine.extraFeeBufferRate) 0)

def spendableKrw : ℚ := if c.settings.profitEngine.enabled then c.affordableKrw else c.hardCap

/-- The arguments `_apply_dynamic_sizing_preview` passes on. -/
def sizingRequest : DynamicSizingRequest :=
  let amount := c.cappedAmountKrw
  let cap :=
    if c.settings.profitEngine.enabled then c.sizing.actualOrderKrw else max c.hardCap 0
  { originalAmountKrw := amount
    adaptiveEdge := c.intent.policyPreview.adaptiveEdge.getD {}
    feePct := c.settings.liveConfig.feeRate * 100
    adverseSelectionPct := c.intent.policyPreview.adaptiveEdge.bind
      AdaptiveEdge.avgAdverseSelectionPct
    maxAllowedAmountKrw := some (if cap ≤ 0 then amount else cap)
    minOrderKrw := c.minOrderKrw }

theorem dynamicSizing_eq :
    c.dynamicSizing = buildDynamicSizingPreview c.settings.dynamicSizing c.sizingRequest := rfl

/-- What the dynamic sizing multiplies by; it depends on the edge of the intent, not on the
amount. -/
def sizingFactor : ℚ := c.sizingRequest.factor c.settings.dynamicSizing

theorem sizingFactor_pos : 0 < c.sizingFactor :=
  c.sizingRequest.factor_pos c.settings.dynamicSizing

/-- What the requested amount is multiplied by in the end. -/
def requestFactor : ℚ :=
  if c.settings.profitEngine.enabled then min c.sizingFactor 1 else c.sizingFactor

/-! ## A call that buys -/

variable {c}

/-- What the gates have left of a call that buys. -/
structure Sized (c : SmartCall) : Prop where
  side : c.intent.side = .bid
  accumulated : c.accumulates = true → c.minOrderKrw ≤ c.amountRequested
  capped : ∃ amount, c.cappedAmount = .ok amount
  allowed : c.dynamicSizing.allowed = true
  positive : 0 < c.amountKrw

theorem buys_spec (h : c.Buys) : c.Sized := by
  have hgates := smartIntentOrder_ok_iff.mp h
  unfold gates sizingGates at hgates
  simp only [List.forall_mem_append, List.forall_mem_cons] at hgates
  obtain ⟨⟨hdust, -, -, -, -, hask, hnone, -, -, hcapped, hallowed, hamount, -⟩, -⟩ := hgates
  have hside : c.intent.side = .bid := by
    cases hside : c.intent.side with
    | bid => rfl
    | ask => simp [hside] at hask
    | none => simp [hside] at hnone
  refine ⟨hside, fun hacc => ?_, ?_, by simpa using hallowed, ?_⟩
  · simpa [hside, hacc] using hdust
  · cases hamount' : c.cappedAmount with
    | ok amount => exact ⟨amount, rfl⟩
    | error blocker =>
      rw [hamount'] at hcapped
      cases hcapped
  · have hboth := of_decide_eq_false hamount
    push Not at hboth
    exact hboth.1

theorem cappedAmountKrw_of_sized (h : c.Sized) :
    c.cappedAmountKrw = min c.amountRequested c.spendableKrw ∧ 0 < c.cappedAmountKrw
      ∧ (c.settings.profitEngine.enabled = true → c.sizing.actualOrderKrw = c.cappedAmountKrw) := by
  obtain ⟨amount, hamount⟩ := h.capped
  have hcapped : c.cappedAmountKrw = amount := by
    unfold cappedAmountKrw
    rw [hamount]
  unfold cappedAmount at hamount
  rw [hcapped]
  by_cases hprofit : c.settings.profitEngine.enabled = true
  · rw [if_pos hprofit] at hamount
    split at hamount
    case isFalse => cases hamount
    case isTrue hallowed =>
      obtain rfl := Except.ok.inj hamount
      obtain ⟨hrequested, havailable, -, hactual, -⟩ :=
        calculateAvailableBalanceCappedOrder_actual hallowed
      have hsame : c.sizing.actualOrderKrw = min c.amountRequested c.spendableKrw := by
        unfold spendableKrw affordableKrw
        rw [if_pos hprofit, max_eq_left havailable.le]
        exact hactual
      have hrate : 0 < 1 + max (c.settings.liveConfig.feeRate
          + c.settings.profitEngine.extraFeeBufferRate) 0 := by positivity
      refine ⟨hsame, ?_, fun _ => rfl⟩
      rw [show c.sizing.actualOrderKrw = _ from hactual]
      exact lt_min hrequested (div_pos havailable hrate)
  · rw [if_neg hprofit] at hamount
    dsimp only at hamount
    split at hamount
    case isTrue => cases hamount
    case isFalse hmin =>
      obtain rfl := Except.ok.inj hamount
      push Not at hmin
      refine ⟨?_, hmin.1, fun h => absurd h hprofit⟩
      unfold spendableKrw
      rw [if_neg hprofit]

theorem amountKrw_of_sized (h : c.Sized) :
    c.amountKrw = round6 (min (c.amountRequested * c.requestFactor)
      (c.spendableKrw * min c.sizingFactor 1)) := by
  obtain ⟨hcapped, hpos, hactual⟩ := cappedAmountKrw_of_sized h
  have hfactor := c.sizingFactor_pos
  have hspend : 0 < c.spendableKrw := (hcapped ▸ hpos).trans_le (min_le_right _ _)
  unfold amountKrw
  rw [dynamicSizing_eq]
  by_cases hprofit : c.settings.profitEngine.enabled = true
  · -- the profit engine allows no more than the capped amount
    have hmost : c.sizingRequest.maxAllowedAmountKrw = some c.cappedAmountKrw := by
      unfold sizingRequest
      dsimp only
      rw [if_pos hprofit, hactual hprofit, ite_self]
    rw [buildDynamicSizingPreview_allowed _ _ hmost hpos le_rfl h.allowed]
    refine congrArg round6 ?_
    have hgain : c.requestFactor = min c.sizingFactor 1 := if_pos hprofit
    calc min (c.cappedAmountKrw * c.sizingFactor) c.cappedAmountKrw
        = c.cappedAmountKrw * min c.sizingFactor 1 := by
          rw [mul_min_of_nonneg _ _ hpos.le, mul_one]
      _ = min (c.amountRequested * c.requestFactor) (c.spendableKrw * min c.sizingFactor 1) := by
          rw [hcapped, hgain, min_mul_of_nonneg _ _ (lt_min hfactor one_pos).le]
  · have hspendable : c.spendableKrw = c.hardCap := if_neg hprofit
    rw [hspendable] at hspend
    have hmost : c.sizingRequest.maxAllowedAmountKrw = some c.hardCap := by
      unfold sizingRequest
      dsimp only
      rw [if_neg hprofit, max_eq_left hspend.le, if_neg (not_le.mpr hspend)]
    have hle : c.cappedAmountKrw ≤ c.hardCap := by
      rw [hcapped, hspendable]
      exact min_le_right _ _
    rw [buildDynamicSizingPreview_allowed _ _ hmost hpos hle h.allowed]
    refine congrArg round6 ?_
    have hgain : c.requestFactor = c.sizingFactor := if_neg hprofit
    calc min (c.cappedAmountKrw * c.sizingFactor) c.hardCap
        = min (min (c.amountRequested * c.sizingFactor) (c.hardCap * c.sizingFactor)) c.hardCap := by
          rw [hcapped, hspendable, min_mul_of_nonneg _ _ hfactor.le]
      _ = min (c.amountRequested * c.requestFactor) (c.spendableKrw * min c.sizingFactor 1) := by
          rw [min_assoc, hgain, hspendable, mul_min_of_nonneg _ _ hspend.le, mul_one]

end SmartCall

/-! ## The table -/

/-- `rebalance_delta_accumulators.status`. -/
inductive AccumulatorStatus where
  | accumulating
  | promoted
  | discarded
  | stale
  | discardedDust
  deriving DecidableEq

/-- What an accumulator is kept for. -/
structure AccumulatorKey where
  sessionId : ℕ
  candidateStrategyId : ℕ
  exchange : String
  market : String
  side : IntentSide
  deriving DecidableEq

/-- A row of `rebalance_delta_accumulators`; amounts are added up by their absolute values. -/
structure RebalanceDeltaAccumulator where
  id : ℕ
  key : AccumulatorKey
  accumulatedDeltaKrw : ℚ := 0
  status : AccumulatorStatus := .accumulating
  updatedAt : UtcTime := 0
  accumulated_nonneg : 0 ≤ accumulatedDeltaKrw := by decide

instance : Row RebalanceDeltaAccumulator := ⟨RebalanceDeltaAccumulator.id⟩

/-- `ORDER BY updated_at DESC, id DESC`. -/
def RebalanceDeltaAccumulator.newer (a b : RebalanceDeltaAccumulator) : Prop :=
  b.updatedAt < a.updatedAt ∨ (b.updatedAt = a.updatedAt ∧ b.id ≤ a.id)

instance : DecidableRel RebalanceDeltaAccumulator.newer := fun a b =>
  inferInstanceAs (Decidable (b.updatedAt < a.updatedAt ∨ (b.updatedAt = a.updatedAt ∧ b.id ≤ a.id)))

def activeAccumulator (t : Table RebalanceDeltaAccumulator) (key : AccumulatorKey) :
    Option RebalanceDeltaAccumulator :=
  ((t.select (fun r => r.key == key && r.status == .accumulating)).insertionSort
    RebalanceDeltaAccumulator.newer).head?

/-- The sum, within `max_accumulated_krw`. -/
def cappedAccumulated (maxAccumulatedKrw : Option ℚ) (sum : ℚ) : ℚ :=
  maxAccumulatedKrw.elim sum (fun most => min sum (max most 0))

theorem cappedAccumulated_nonneg (maxAccumulatedKrw : Option ℚ) {sum : ℚ} (h : 0 ≤ sum) :
    0 ≤ cappedAccumulated maxAccumulatedKrw sum := by
  cases maxAccumulatedKrw with
  | none => exact h
  | some most => exact le_min h (le_max_right _ _)

/-- `upsert_rebalance_delta_accumulator`: the table, and the id of the row. -/
def upsertRebalanceDeltaAccumulator (t : Table RebalanceDeltaAccumulator) (key : AccumulatorKey)
    (deltaKrw : ℚ) (maxAccumulatedKrw : Option ℚ) (now : UtcTime) :
    Table RebalanceDeltaAccumulator × ℕ :=
  match activeAccumulator t key with
  | some row =>
    let sum := cappedAccumulated maxAccumulatedKrw (row.accumulatedDeltaKrw + |deltaKrw|)
    (t.modify row.id
      (fun r => { r with
        accumulatedDeltaKrw := sum
        updatedAt := now
        accumulated_nonneg := cappedAccumulated_nonneg _
          (add_nonneg row.accumulated_nonneg (abs_nonneg deltaKrw)) })
      (fun _ => rfl), row.id)
  | none =>
    (t.insert
      (fun k =>
        { id := k, key := key
          accumulatedDeltaKrw := cappedAccumulated maxAccumulatedKrw |deltaKrw|
          updatedAt := now
          accumulated_nonneg := cappedAccumulated_nonneg _ (abs_nonneg deltaKrw) })
      (fun _ => rfl), t.nextId)

def markRebalanceDeltaAccumulator (t : Table RebalanceDeltaAccumulator) (accumulatorId : ℕ)
    (status : AccumulatorStatus) (now : UtcTime) : Table RebalanceDeltaAccumulator :=
  t.modify accumulatorId (fun r => { r with status := status, updatedAt := now }) (fun _ => rfl)

def markRebalanceDeltaAccumulators (t : Table RebalanceDeltaAccumulator) (key : AccumulatorKey)
    (status : AccumulatorStatus) (now : UtcTime) : Table RebalanceDeltaAccumulator :=
  t.modifyWhere (fun r => r.key == key && r.status == .accumulating)
    (fun r => { r with status := status, updatedAt := now }) (fun _ => rfl)

/-! ## Histories -/

def SmartCall.accumulatorKey (c : SmartCall) : AccumulatorKey where
  sessionId := c.session.id
  candidateStrategyId := c.session.candidateStrategyId
  exchange := c.exchange
  market := c.market
  side := c.intent.side

/-- `accumulated`: what is carried over, and the delta of the intent. -/
def SmartCall.accumulatedKrw (c : SmartCall) : ℚ :=
  toFloat c.readings.accumulatedDeltaKrw + |c.intent.deltaValueKrw|

/-- A tick with an intent to buy; `answered` says whether `broker.place_order` returns, if it is
called. -/
structure BuyTick where
  call : SmartCall
  answered : Bool := true

/-- The call, with what its accumulator carries over. -/
def BuyTick.callIn (t : Table RebalanceDeltaAccumulator) (tick : BuyTick) : SmartCall :=
  { tick.call with
    readings := { tick.call.readings with
      accumulatedDeltaKrw := (activeAccumulator t tick.call.accumulatorKey).map
        RebalanceDeltaAccumulator.accumulatedDeltaKrw } }

/-- What happens to the accumulators: ticks that would buy, and those that would sell. -/
inductive AccumulatorEvent where
  | buyTick (tick : BuyTick)
  | sellPutOff (key : AccumulatorKey) (deltaKrw : ℚ) (sellableValueKrw : ℚ) (now : UtcTime)
  | sellsMarked (key : AccumulatorKey) (status : AccumulatorStatus) (now : UtcTime)

def BuyTick.deliver (t : Table RebalanceDeltaAccumulator) (tick : BuyTick) :
    Table RebalanceDeltaAccumulator :=
  let c := tick.callIn t
  if c.intent.side = .bid ∧ c.accumulates = true then
    let added :=
      upsertRebalanceDeltaAccumulator t c.accumulatorKey c.intent.deltaValueKrw none c.risk.now
    match smartIntentOrder c with
    | .ok _ =>
      -- an order that raises leaves the amount where it is
      if tick.answered then markRebalanceDeltaAccumulator added.1 added.2 .promoted c.risk.now
      else added.1
    | .error _ => added.1
  else t

def AccumulatorEvent.deliver (t : Table RebalanceDeltaAccumulator) :
    AccumulatorEvent → Table RebalanceDeltaAccumulator
  | buyTick tick => tick.deliver t
  | sellPutOff key deltaKrw sellableValueKrw now =>
    (upsertRebalanceDeltaAccumulator t { key with side := .ask } deltaKrw (some sellableValueKrw)
      now).1
  | sellsMarked key status now => markRebalanceDeltaAccumulators t { key with side := .ask } status now

/-! ## Buys that are bounded -/

/-- A buy that is sent for an accumulator is smaller than the minimum and the latest delta
together, and ends less than the minimum above the target that this delta states. -/
def BuyTick.Bounded (t : Table RebalanceDeltaAccumulator) (tick : BuyTick) : Prop :=
  let c := tick.callIn t
  c.Buys → c.accumulates = true →
    c.amountKrw < c.minOrderKrw + |c.intent.deltaValueKrw|
      ∧ (0 ≤ c.intent.deltaValueKrw → c.intent.currentValueKrw + c.amountKrw
          < c.intent.currentValueKrw + c.intent.deltaValueKrw + c.minOrderKrw)

/-- What has been accumulated, or what can be spent, is small enough where a buy is sent. -/
def BuyTick.Small (t : Table RebalanceDeltaAccumulator) (tick : BuyTick) : Prop :=
  let c := tick.callIn t
  c.Buys → c.accumulates = true →
    round6 (c.accumulatedKrw * c.requestFactor) < c.minOrderKrw + |c.intent.deltaValueKrw|
      ∨ round6 (c.spendableKrw * min c.sizingFactor 1)
          < c.minOrderKrw + |c.intent.deltaValueKrw|

def AccumulatorEvent.Bounded (t : Table RebalanceDeltaAccumulator) : AccumulatorEvent → Prop
  | buyTick tick => tick.Bounded t
  | _ => True

def AccumulatorEvent.Small (t : Table RebalanceDeltaAccumulator) : AccumulatorEvent → Prop
  | buyTick tick => tick.Small t
  | _ => True

section Bounds

variable {t : Table RebalanceDeltaAccumulator} {tick : BuyTick}

theorem carried_nonneg : 0 ≤ toFloat (tick.callIn t).readings.accumulatedDeltaKrw := by
  show 0 ≤ (((activeAccumulator t tick.call.accumulatorKey).map
    RebalanceDeltaAccumulator.accumulatedDeltaKrw).getD 0)
  cases activeAccumulator t tick.call.accumulatorKey with
  | none => exact le_rfl
  | some row => exact row.accumulated_nonneg

theorem amountRequested_of_sized (hsized : (tick.callIn t).Sized)
    (hacc : (tick.callIn t).accumulates = true) :
    (tick.callIn t).amountRequested = (tick.callIn t).accumulatedKrw := by
  have hmin := hsized.accumulated hacc
  have hcarried := @carried_nonneg t tick
  have hsplit : (tick.callIn t).amountRequested
      = if (tick.callIn t).accumulatedKrw < (tick.callIn t).minOrderKrw then
          |(tick.callIn t).intent.deltaValueKrw|
        else (tick.callIn t).accumulatedKrw := by
    unfold SmartCall.amountRequested
    rw [if_pos hacc]
    rfl
  by_cases hbelow : (tick.callIn t).accumulatedKrw < (tick.callIn t).minOrderKrw
  · -- the delta alone is no larger than the sum, which is too small
    rw [hsplit, if_pos hbelow] at hmin
    unfold SmartCall.accumulatedKrw at hbelow
    linarith
  · rw [hsplit, if_neg hbelow]

theorem bounded_iff : tick.Bounded t ↔ tick.Small t := by
  refine forall_congr' (fun hbuys => forall_congr' (fun hacc => ?_))
  have hsized := SmartCall.buys_spec hbuys
  rw [SmartCall.amountKrw_of_sized hsized, amountRequested_of_sized hsized hacc,
    round6_mono.map_min, min_lt_iff]
  constructor
  · rintro ⟨hsmall, -⟩
    exact hsmall
  · intro hsmall
    refine ⟨hsmall, fun hdelta => ?_⟩
    rw [← min_lt_iff, abs_of_nonneg hdelta] at hsmall
    linarith

end Bounds

/-- **When every accumulated buy of a history is bounded.** -/
theorem accumulatedBuys_bounded_iff (t : Table RebalanceDeltaAccumulator)
    (history : List AccumulatorEvent) :
    StepsOk AccumulatorEvent.deliver AccumulatorEvent.Bounded t history
      ↔ StepsOk AccumulatorEvent.deliver AccumulatorEvent.Small t history := by
  refine stepsOk_congr (fun t e => ?_) t history
  cases e with
  | buyTick tick => exact bounded_iff
  | sellPutOff key deltaKrw sellableValueKrw now => exact Iff.rfl
  | sellsMarked key status now => exact Iff.rfl

/-- The call of a tick at `now`: the exposure is 4000 KRW short of its target, and the last order
was sent at 0. -/
def exampleShortCall (now : UtcTime) : SmartCall :=
  { exampleSmartCall with
    risk := { exampleSmartCall.risk with now := now }
    session := { exampleSmartCall.session with lastOrderTimeUtc := some 0 }
    intent := { exampleIntent with
      targetValueKrw := 4000
      deltaValueKrw := 4000
      blockers := [] } }

/-- Three ticks on one target: the first is too small for an order, the second comes within the
cooldown, and the third sends what all of them have added up. -/
def exampleBlockedHistory : List AccumulatorEvent :=
  [600, 1200, 2400].map (fun now => .buyTick { call := exampleShortCall now })

/-- **A history of blocked ticks, and the buy that follows.** -/
theorem blockedTicks_overshoot :
    ¬ StepsOk AccumulatorEvent.deliver AccumulatorEvent.Bounded Table.empty
      exampleBlockedHistory := by
  rintro ⟨-, -, hthird, -⟩
  refine absurd (hthird (smartIntentOrder_ok_iff.mpr ?_) ?_).1 ?_
  · decide +kernel
  · decide +kernel
  · decide +kernel

end AutoCoinBot
