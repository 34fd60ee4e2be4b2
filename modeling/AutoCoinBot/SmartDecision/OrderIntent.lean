/-
  SmartDecision.OrderIntent — the order intent of app/smart_decision.py.

  A decision snapshot names the exposure the bot should have; the intent is the order that would
  bring it there, with the blockers of the snapshot that concern its side.
-/
import AutoCoinBot.Backtest.RunBacktest

namespace AutoCoinBot

/-! ## Decision snapshots -/

inductive MarketRegime where
  | panic
  | trendDown
  | overheated
  | unknown
  | range
  | trendUp
  | breakout
  deriving DecidableEq

inductive ActionHint where
  | wait
  | holdPosition
  | buyMore
  | increaseExposure
  | reduce
  | exit
  | takeProfitPartial
  | trailingHold
  deriving DecidableEq

/-- `final_target_exposure_source`. -/
inductive TargetSource where
  | conservative
  | aggressive
  | riskReduced
  | core
  | coreReduced
  | trailingExit
  | trailingHold
  | partialTakeProfit
  deriving DecidableEq

/-- A decision snapshot. `record_shadow_decision` gives `aggressive_blockers` the value of
`aggressive_buy_blockers`. -/
structure SmartSnapshot where
  exchange : String := "bithumb"
  market : String := "KRW-BTC"
  selectedStrategyName : String := ""
  selectedStrategyType : String := ""
  legacySignal : Signal := .hold
  marketRegime : MarketRegime := .unknown
  currentBotPositionQty : ℚ := 0
  currentBotPositionValueKrw : ℚ := 0
  currentExposurePct : ℚ := 0
  targetExposurePct : ℚ := 0
  actionHint : ActionHint := .wait
  riskScore : ℚ := 0
  blockers : List String := []
  maxTotalExposureKrw : ℚ := 500000
  finalTargetExposureSource : TargetSource := .conservative
  aggressiveBuyBlockers : List String := []
  coreExposurePct : ℚ := 0
  coreExposureApplied : Bool := false

/-! ## Intents -/

/-- `side` of an intent. -/
inductive IntentSide where
  | bid
  | ask
  | none
  deriving DecidableEq

/-- `order_intents.status`. -/
inductive IntentStatus where
  | created
  | blocked
  deriving DecidableEq

inductive PromotionStatus where
  | shadowOnly
  | readyForLimited
  | readyForLive
  | blocked
  deriving DecidableEq

/-- `adaptive_edge`; a key that is missing or no number is `none`. -/
structure AdaptiveEdge where
  adaptiveEdgeScore : Option ℚ := none
  edgeConfidence : Option ℚ := none
  expectedEdgePct : Option ℚ := none
  avgPostFillReturn5m : Option ℚ := none
  avgPostFillReturn15m : Option ℚ := none
  avgRealizedReturnPct : Option ℚ := none
  avgSlippagePct : Option ℚ := none
  avgAdverseSelectionPct : Option ℚ := none
  deriving DecidableEq

/-- `policy_preview` of an intent: the keys that are read back. -/
structure PolicyPreview where
  adaptiveEdge : Option AdaptiveEdge := none
  targetSource : Option TargetSource := none
  coreExposurePct : Option ℚ := none
  coreExposureApplied : Bool := false
  deriving DecidableEq

structure RiskPreview where
  allowed : Bool
  riskResult : String := ""
  blockCode : String := ""
  deriving DecidableEq

/-- An order intent. -/
structure OrderIntent where
  decisionSnapshotId : ℕ
  exchange : String
  market : String
  side : IntentSide
  actionHint : ActionHint
  currentValueKrw : ℚ
  targetValueKrw : ℚ
  deltaValueKrw : ℚ
  targetQty : Option ℚ
  limitPrice : Option ℚ
  status : IntentStatus
  blockers : List String
  targetSource : TargetSource
  policyPreview : PolicyPreview
  -- written by the promotion
  promotionStatus : Option PromotionStatus := none
  promotionBlockers : List String := []
  pilotOrderCapKrw : Option ℚ := none
  riskPreview : Option RiskPreview := none
  deriving DecidableEq

/-- `SMART_MIN_REBALANCE_DELTA_KRW`, `SMART_MIN_REBALANCE_DELTA_PCT`. -/
structure RebalanceSettings where
  minDeltaKrw : ℚ := 10000
  minDeltaPct : ℚ := 5

section Intent

variable (settings : RebalanceSettings) (snapshotId : ℕ) (snapshot : SmartSnapshot)
  (maxTotalExposureKrw currentValue currentPrice : ℚ) (blockers : List String)

/-- The blockers before the order is capped; those of aggressive buying concern buys only. -/
def intentBlockers (side : IntentSide) (delta : ℚ) : List String :=
  blockers.filter (fun b => side == .bid || !snapshot.aggressiveBuyBlockers.contains b)
    ++ (if |delta| < settings.minDeltaKrw
          ∨ |snapshot.targetExposurePct - snapshot.currentExposurePct| < settings.minDeltaPct then
        ["SMART_MIN_REBALANCE_DELTA"] else [])
    ++ (if side = .bid ∧ maxTotalExposureKrw ≤ currentValue then
        ["SMART_MAX_TOTAL_EXPOSURE_REACHED"] else [])

/-- Side, change and blockers of the order, capped to the total exposure. -/
def cappedIntent (delta : ℚ) : IntentSide × ℚ × List String :=
  let side : IntentSide := if 0 < delta then .bid else if delta < 0 then .ask else .none
  let kept := intentBlockers settings snapshot maxTotalExposureKrw currentValue blockers side delta
  if side = .bid ∧ maxTotalExposureKrw < currentValue + |delta| then
    let cappedDelta := max 0 (maxTotalExposureKrw - currentValue)
    if cappedDelta ≤ 0 then (.none, 0, kept ++ ["SMART_MAX_TOTAL_EXPOSURE_REACHED"])
    else (.bid, cappedDelta, kept ++ ["SMART_ORDER_DELTA_CAPPED_BY_MAX_TOTAL_EXPOSURE"])
  else (side, delta, kept)

def orderIntent : Option OrderIntent :=
  let targetValue := maxTotalExposureKrw * snapshot.targetExposurePct / 100
  let delta := targetValue - currentValue
  let small := |delta| < settings.minDeltaKrw
    ∨ |snapshot.targetExposurePct - snapshot.currentExposurePct| < settings.minDeltaPct
  let action : ActionHint :=
    if small then (if 0 < currentValue then .holdPosition else .wait) else snapshot.actionHint
  let (side, delta, blockers) :=
    cappedIntent settings snapshot maxTotalExposureKrw currentValue blockers delta
  if side = .none ∧ blockers = [] then none
  else
    some
      { decisionSnapshotId := snapshotId
        exchange := snapshot.exchange
        market := snapshot.market
        side := side
        actionHint := action
        currentValueKrw := currentValue
        targetValueKrw := targetValue
        deltaValueKrw := delta
        targetQty := if 0 < currentPrice ∧ side ≠ .none then some (|delta| / currentPrice) else none
        limitPrice := if 0 < currentPrice then some currentPrice else none
        status := if blockers = [] then .created else .blocked
        blockers := blockers
        targetSource := snapshot.finalTargetExposureSource
        policyPreview :=
          { targetSource := some snapshot.finalTargetExposureSource
            coreExposurePct := some snapshot.coreExposurePct
            coreExposureApplied := snapshot.coreExposureApplied } }

end Intent

end AutoCoinBot
