/-
  LiveStrategyPilot.Sizing — the amount of an automatic buy: the entry gate of
  app/profit_engine.py, the cap of app/order_sizing.py and the multiplier of
  app/dynamic_sizing.py.
-/
import AutoCoinBot.SmartDecision.OrderIntent

namespace AutoCoinBot

open Library

/-! ## `evaluate_profit_entry_gate` -/

structure ProfitEngineConfig where
  enabled : Bool := false
  requireAutoExit : Bool := true
  blockEntryWhenExitDisabled : Bool := true
  extraFeeBufferRate : ℚ := 2 / 10000

def MarketRegime.text : MarketRegime → String
  | .panic => "PANIC"
  | .trendDown => "TREND_DOWN"
  | .overheated => "OVERHEATED"
  | .unknown => "UNKNOWN"
  | .range => "RANGE"
  | .trendUp => "TREND_UP"
  | .breakout => "BREAKOUT"

def blockedEntryRegimes : List MarketRegime := [.panic, .trendDown, .overheated, .unknown]

def allowedStrategiesByRegime : MarketRegime → List String
  | .range => ["range_reversion"]
  | .trendUp | .breakout => ["trend_pullback", "volume_breakout"]
  | _ => []

def allowedStrategyForRegime : MarketRegime → Option String
  | .range => some "range_reversion"
  | .trendUp => some "trend_pullback"
  | .breakout => some "volume_breakout"
  | _ => none

/-- `text.strip()`. -/
def stripText (text : String) : String :=
  String.ofList ((text.toList.dropWhile isSpace).reverse.dropWhile isSpace).reverse

/-- `aliases`. -/
def profitStrategyAliases : List (String × String) :=
  [("smart_autonomous", ""), ("smart_autonomous_engine", ""), ("ma_cross", ""), ("rsi", ""),
    ("volatility_breakout", "volume_breakout"), ("breakout", "volume_breakout"),
    ("pullback", "trend_pullback"), ("range", "range_reversion")]

def normalizeProfitStrategyName (value : String) : String :=
  let strategy := (stripText value).toLower
  let compact := strategy.map (fun c => if c = '-' ∨ c = ' ' then '_' else c)
  let known := ["volume_breakout", "trend_pullback", "range_reversion"].find?
    (fun name => containsText name compact)
  ((profitStrategyAliases.lookup strategy).or (profitStrategyAliases.lookup compact)).getD
    (known.getD strategy)

/-- `entry_allowed` and `block_code`. -/
structure ProfitGate where
  entryAllowed : Bool := true
  blockCode : Option String := none

def evaluateProfitEntryGate (config : ProfitEngineConfig) (marketRegime : MarketRegime)
    (strategyName : String) (side : OrderSide) (autoExitEnabled : Bool) : ProfitGate :=
  let normalized := normalizeProfitStrategyName strategyName
  let strategy :=
    if normalized = "" then allowedStrategyForRegime marketRegime else some normalized
  let allowed := allowedStrategiesByRegime marketRegime
  if config.enabled = false ∨ side.isBuy = false then {}
  else if config.requireAutoExit ∧ config.blockEntryWhenExitDisabled ∧ autoExitEnabled = false then
    { entryAllowed := false, blockCode := some "BLOCKED_AUTO_EXIT_DISABLED" }
  else if blockedEntryRegimes.contains marketRegime then
    { entryAllowed := false, blockCode := some ("PROFIT_ENGINE_BLOCKED_" ++ marketRegime.text) }
  else if allowed ≠ [] ∧ strategy.all (fun name => !allowed.contains name) then
    { entryAllowed := false, blockCode := some "PROFIT_ENGINE_STRATEGY_NOT_ALLOWED" }
  else {}

/-! ## `calculate_available_balance_capped_order` -/

/-- What `calculate_available_balance_capped_order` returns. -/
structure CappedOrder where
  requestedOrderKrw : ℚ
  feeBufferRate : ℚ
  allowed : Bool
  blockCode : Option String := none
  maxAffordableKrw : Option ℚ := none
  actualOrderKrw : ℚ := 0
  capApplied : Bool := false

def calculateAvailableBalanceCappedOrder (requestedOrderKrw : ℚ) (availableKrw : Option ℚ)
    (minOrderKrw feeRate extraFeeBufferRate : ℚ) : CappedOrder :=
  let requested := max requestedOrderKrw 0
  let minimum := max minOrderKrw 0
  let feeBufferRate := max (feeRate + extraFeeBufferRate) 0
  let refused (code : String) : CappedOrder :=
    { requestedOrderKrw := requested, feeBufferRate := feeBufferRate
      allowed := false, blockCode := some code }
  if requested ≤ 0 then refused "ORDER_AMOUNT_ZERO"
  else
    match availableKrw.map (fun available => max available 0) with
    | none => refused "BALANCE_UNAVAILABLE"
    | some available =>
      if available ≤ 0 then refused "INSUFFICIENT_BALANCE"
      else
        let maxAffordable := available / (1 + feeBufferRate)
        let actual := min requested maxAffordable
        let capApplied := decide (actual + 1 / 10 ^ 9 < requested)
        if actual < minimum then
          { refused "ORDER_BELOW_MINIMUM" with
            maxAffordableKrw := some maxAffordable, capApplied := capApplied }
        else
          { requestedOrderKrw := requested
            feeBufferRate := feeBufferRate
            allowed := true
            maxAffordableKrw := some maxAffordable
            actualOrderKrw := actual
            capApplied := capApplied }

/-- **The amount of an order that is allowed.** -/
theorem calculateAvailableBalanceCappedOrder_actual {requested available minOrder fee extra : ℚ}
    (h : (calculateAvailableBalanceCappedOrder requested (some available) minOrder fee extra).allowed
      = true) :
    0 < requested ∧ 0 < available
      ∧ (calculateAvailableBalanceCappedOrder requested (some available) minOrder fee
          extra).feeBufferRate = max (fee + extra) 0
      ∧ (calculateAvailableBalanceCappedOrder requested (some available) minOrder fee
          extra).actualOrderKrw = min requested (available / (1 + max (fee + extra) 0))
      ∧ max minOrder 0 ≤ min requested (available / (1 + max (fee + extra) 0)) := by
  unfold calculateAvailableBalanceCappedOrder at h ⊢
  dsimp only [Option.map_some] at h ⊢
  by_cases hzero : max requested 0 ≤ 0
  · rw [if_pos hzero] at h
    cases h
  rw [if_neg hzero] at h ⊢
  by_cases hempty : max available 0 ≤ 0
  · rw [if_pos hempty] at h
    cases h
  rw [if_neg hempty] at h ⊢
  by_cases hbelow : min (max requested 0) (max available 0 / (1 + max (fee + extra) 0))
      < max minOrder 0
  · rw [if_pos hbelow] at h
    cases h
  rw [if_neg hbelow]
  have hrequested : 0 < requested := by simpa using not_le.mp hzero
  have havailable : 0 < available := by simpa using not_le.mp hempty
  have hamount : min (max requested 0) (max available 0 / (1 + max (fee + extra) 0))
      = min requested (available / (1 + max (fee + extra) 0)) := by
    rw [max_eq_left hrequested.le, max_eq_left havailable.le]
  refine ⟨hrequested, havailable, rfl, hamount, ?_⟩
  rw [← hamount]
  exact not_lt.mp hbelow

/-! ## `build_dynamic_sizing_preview` -/

/-- `SMART_DYNAMIC_SIZING_MODE`. -/
inductive DynamicSizingMode where
  | shadow
  | apply
  | block
  deriving DecidableEq

/-- The `SMART_DYNAMIC_SIZING_…` settings. -/
structure DynamicSizingSettings where
  enabled : Bool := false
  mode : DynamicSizingMode := .shadow
  minMultiplier : ℚ := 1 / 2
  maxMultiplier : ℚ := 3 / 2
  minConfidence : ℚ := 30
  requirePositiveNetEdge : Bool := true

/-- `min_multiplier`, which is positive. -/
def DynamicSizingSettings.lowest (s : DynamicSizingSettings) : ℚ :=
  if s.minMultiplier ≤ 0 then 1 / 2 else s.minMultiplier

/-- `max_multiplier`. -/
def DynamicSizingSettings.highest (s : DynamicSizingSettings) : ℚ := max s.maxMultiplier s.lowest

/-- `_expected_edge_pct`. -/
def AdaptiveEdge.expected (edge : AdaptiveEdge) : ℚ :=
  edge.expectedEdgePct.getD
    (toFloat edge.adaptiveEdgeScore * (45 / 100) + toFloat edge.avgPostFillReturn5m * (25 / 100)
      + toFloat edge.avgPostFillReturn15m * (20 / 100)
      + toFloat edge.avgRealizedReturnPct * (10 / 100))

/-- `round(x, 6)`. -/
def round6 (x : ℚ) : ℚ :=
  let scaled := x * 1000000
  let below := ⌊scaled⌋
  let rest := scaled - below
  -- halves go to the even neighbour
  (if rest < 1 / 2 ∨ (rest = 1 / 2 ∧ below % 2 = 0) then below else below + 1 : ℤ) / 1000000

theorem round6_eq : round6 = nearestAt ((1000000 : ℤ) : ℚ) := by
  funext x
  unfold round6 nearestAt nearestEven
  norm_num

theorem round6_mono : Monotone round6 := by
  rw [round6_eq]
  exact nearestAt_mono (by norm_num)

@[simp] theorem round6_round6 (x : ℚ) : round6 (round6 x) = round6 x := by
  rw [round6_eq]
  exact nearestAt_nearestAt (by norm_num) x

/-- The arguments of `build_dynamic_sizing_preview`. -/
structure DynamicSizingRequest where
  originalAmountKrw : ℚ
  adaptiveEdge : AdaptiveEdge := {}
  feePct : ℚ
  estimatedSlippagePct : Option ℚ := none
  adverseSelectionPct : Option ℚ := none
  maxAllowedAmountKrw : Option ℚ := none
  minOrderKrw : ℚ := 0
  recentFailurePenaltyPct : ℚ := 0

/-- What is read of `build_dynamic_sizing_preview`. -/
structure DynamicSizing where
  enabled : Bool
  netEdgePct : ℚ
  sizingMultiplier : ℚ
  adjustedAmountKrw : ℚ
  appliedAmountKrw : ℚ
  dustHold : Bool
  allowed : Bool
  blocker : Option String

section Dynamic

variable (settings : DynamicSizingSettings) (q : DynamicSizingRequest)

def DynamicSizingRequest.netEdgePct : ℚ :=
  let slippage := toFloat (q.estimatedSlippagePct.or q.adaptiveEdge.avgSlippagePct)
  let adverse := toFloat (q.adverseSelectionPct.or q.adaptiveEdge.avgAdverseSelectionPct)
  q.adaptiveEdge.expected - max q.feePct 0 - max slippage 0 - max adverse 0
    - max q.recentFailurePenaltyPct 0

def DynamicSizingRequest.confidenceOk : Bool :=
  decide (settings.minConfidence ≤ toFloat q.adaptiveEdge.edgeConfidence)

def DynamicSizingRequest.multiplier : ℚ :=
  let net := q.netEdgePct
  if settings.enabled ∧ q.confidenceOk settings then
    if net ≤ 0 then settings.lowest
    else if net < 1 / 4 then max settings.lowest (3 / 4)
    else if net < 3 / 4 then 1
    else if net < 3 / 2 then min settings.highest (6 / 5)
    else settings.highest
  else 1

def DynamicSizingRequest.adjustedAmount : ℚ :=
  let adjusted := max (q.originalAmountKrw * q.multiplier settings) 0
  match q.maxAllowedAmountKrw with
  | none => adjusted
  | some most => if 0 ≤ most then min adjusted most else adjusted

/-- `blocker`; there is one exactly if the order is not allowed. -/
def DynamicSizingRequest.blocker : Option String :=
  if settings.enabled ∧ settings.mode = .block then
    if q.confidenceOk settings ∧ settings.requirePositiveNetEdge ∧ q.netEdgePct ≤ 0 then
      some "SMART_DYNAMIC_SIZING_NET_EDGE_NON_POSITIVE"
    else if 0 < q.adjustedAmount settings ∧ q.adjustedAmount settings < q.minOrderKrw then
      some "SMART_DYNAMIC_SIZING_ADJUSTED_BELOW_MIN"
    else none
  else none

def buildDynamicSizingPreview : DynamicSizing :=
  let adjusted := q.adjustedAmount settings
  let blocker := q.blocker settings
  let applied :=
    if settings.enabled ∧ settings.mode ≠ .shadow ∧ blocker = none then adjusted
    else q.originalAmountKrw
  { enabled := settings.enabled
    netEdgePct := round6 q.netEdgePct
    sizingMultiplier := round6 (q.multiplier settings)
    adjustedAmountKrw := round6 adjusted
    appliedAmountKrw := round6 (max applied 0)
    dustHold := decide (0 < adjusted ∧ adjusted < q.minOrderKrw)
    allowed := blocker.isNone
    blocker := blocker }

theorem DynamicSizingSettings.lowest_pos : 0 < settings.lowest := by
  unfold DynamicSizingSettings.lowest
  split
  · norm_num
  · exact not_le.mp ‹_›

theorem DynamicSizingRequest.multiplier_pos : 0 < q.multiplier settings := by
  have hlowest := settings.lowest_pos
  have hhighest : 0 < settings.highest := hlowest.trans_le (le_max_right _ _)
  unfold DynamicSizingRequest.multiplier
  dsimp only
  split
  · split
    · exact hlowest
    · split
      · exact hlowest.trans_le (le_max_left _ _)
      · split
        · norm_num
        · split
          · exact lt_min hhighest (by norm_num)
          · exact hhighest
  · norm_num

/-- What the sizing multiplies an amount by; in the shadow it only watches. -/
def DynamicSizingRequest.factor : ℚ :=
  if settings.enabled ∧ settings.mode ≠ .shadow then q.multiplier settings else 1

theorem DynamicSizingRequest.factor_pos : 0 < q.factor settings := by
  unfold DynamicSizingRequest.factor
  split
  · exact q.multiplier_pos settings
  · norm_num

/-- **The amount of an order that is allowed**: multiplied, and within what is allowed. -/
theorem buildDynamicSizingPreview_allowed {most : ℚ} (hmost : q.maxAllowedAmountKrw = some most)
    (hpos : 0 < q.originalAmountKrw) (hle : q.originalAmountKrw ≤ most)
    (hallowed : (buildDynamicSizingPreview settings q).allowed = true) :
    (buildDynamicSizingPreview settings q).appliedAmountKrw
      = round6 (min (q.originalAmountKrw * q.factor settings) most) := by
  have hblocker : q.blocker settings = none := Option.isNone_iff_eq_none.mp hallowed
  have hmost_pos : 0 < most := hpos.trans_le hle
  have hadjusted : q.adjustedAmount settings
      = min (q.originalAmountKrw * q.multiplier settings) most := by
    unfold DynamicSizingRequest.adjustedAmount
    rw [hmost]
    dsimp only
    rw [if_pos hmost_pos.le, max_eq_left (mul_pos hpos (q.multiplier_pos settings)).le]
  have hnonneg : 0 ≤ min (q.originalAmountKrw * q.factor settings) most :=
    le_min (mul_pos hpos (q.factor_pos settings)).le hmost_pos.le
  show round6 (max (if settings.enabled ∧ settings.mode ≠ .shadow ∧ q.blocker settings = none
    then q.adjustedAmount settings else q.originalAmountKrw) 0) = _
  refine congrArg round6 (Eq.trans (congrArg (max · 0) ?_) (max_eq_left hnonneg))
  unfold DynamicSizingRequest.factor
  by_cases happlies : settings.enabled ∧ settings.mode ≠ .shadow
  · rw [if_pos ⟨happlies.1, happlies.2, hblocker⟩, if_pos happlies, hadjusted]
  · rw [if_neg (fun h => happlies ⟨h.1, h.2.1⟩), if_neg happlies, mul_one, min_eq_left hle]

end Dynamic

end AutoCoinBot
