/-
  SmartDecision.Promotion — `evaluate_promotion` of app/smart_promotion.py, and the
  intents that app/smart_decision.py records.

  A promotion looks at the amount of an intent, its side and the figures around it.
-/
import AutoCoinBot.RiskManager.State
import AutoCoinBot.SmartDecision.OrderIntent

namespace AutoCoinBot

/-! ## Settings -/

inductive SmartEngineLiveMode where
  | shadow
  | limited
  | live
  | autonomousLive
  deriving DecidableEq

def isSmartLiveMode : SmartEngineLiveMode → Bool
  | .shadow => false
  | .limited | .live | .autonomousLive => true

/-- The `rules` of a rehearsal. -/
structure RehearsalRules where
  maxDailyOrders : ℤ := 1
  minOrderKrw : ℚ := 10000
  maxRiskScore : ℚ := 60
  allowedStartHourKst : ℤ := 9
  allowedEndHourKst : ℤ := 23

/-- What a promotion reads besides its arguments. -/
structure PromotionEnv where
  mode : SmartEngineLiveMode := .shadow
  riskConfig : RiskConfig := {}
  rules : RehearsalRules := {}
  now : UtcTime := 0

/-- The arguments of `evaluate_promotion`. -/
structure PromotionRequest where
  intent : OrderIntent
  snapshot : SmartSnapshot
  policy : BotOperationPolicy
  riskPreview : Option RiskPreview := none
  shadowRecommendation : Option String := none
  availableKrw : Option ℚ := none
  dailySmartOrderCount : ℕ := 0
  riskScore : Option ℚ := none

/-- What `evaluate_promotion` returns; its `policy_preview` has none of the keys that are read
back. -/
structure Promotion where
  promotionStatus : PromotionStatus
  promotionBlockers : List String
  pilotOrderCapKrw : ℚ
  policyPreview : PolicyPreview := {}
  riskPreview : RiskPreview

/-! ## Rehearsals -/

/-- `kst_now.hour`. -/
def kstHour (now : UtcTime) : ℤ := (now + 9 * 3600) % 86400 / 3600

def withinHourWindow (hour start stop : ℤ) : Bool :=
  let start := max (min start 23) 0
  let stop := max (min stop 23) 0
  if start ≤ stop then decide (start ≤ hour ∧ hour < stop) else decide (start ≤ hour ∨ hour < stop)

/-- The names of the conditions that hold, in their order. -/
def blockersOf (conditions : List (Bool × String)) : List String :=
  (conditions.filter Prod.fst).map Prod.snd

theorem blockersOf_eq_nil_iff {conditions : List (Bool × String)} :
    blockersOf conditions = [] ↔ ∀ c ∈ conditions, c.1 = false := by
  unfold blockersOf
  rw [List.map_eq_nil_iff, List.filter_eq_nil_iff]
  simp only [Bool.not_eq_true]

/-- The blockers of `_evaluate_rehearsal`. -/
def rehearsalBlockers (rules : RehearsalRules) (requestedOrderKrw riskScore : ℚ)
    (dailySmartOrderCount : ℕ) (now : UtcTime) : List String :=
  blockersOf
    [(countReached rules.maxDailyOrders dailySmartOrderCount, "SMART_REHEARSAL_DAILY_ORDER_LIMIT"),
      (decide (0 < requestedOrderKrw ∧ requestedOrderKrw < rules.minOrderKrw),
        "SMART_REHEARSAL_ORDER_TOO_SMALL"),
      (decide (rules.maxRiskScore < riskScore), "SMART_REHEARSAL_RISK_SCORE_TOO_HIGH"),
      (!withinHourWindow (kstHour now) rules.allowedStartHourKst rules.allowedEndHourKst,
        "SMART_REHEARSAL_TIME_WINDOW_CLOSED")]

/-! ## `evaluate_promotion` -/

section Promotion

variable (env : PromotionEnv) (q : PromotionRequest)

def PromotionRequest.requested : ℚ := |q.intent.deltaValueKrw|

def PromotionRequest.requestedQty : ℚ := |toFloat q.intent.targetQty|

def PromotionRequest.pilotCap : ℚ :=
  let maxTotal := q.policy.maxTotalExposureKrw
  let currentValue := q.snapshot.currentBotPositionValueKrw
  let modeCap := if env.mode = .limited then maxTotal * (1 / 5) else maxTotal
  let candidates := [modeCap, env.riskConfig.maxOrderKrw, max (maxTotal - currentValue) 0]
  if q.intent.side = .bid then max (((candidates.filter (fun v => 0 ≤ v)).min?).getD 0) 0
  else currentValue

/-- `str(risk_preview.get("risk_result") or risk_preview.get("block_code") or …)`. -/
def RiskPreview.blocker (preview : RiskPreview) : String :=
  orText preview.riskResult (orText preview.blockCode "SMART_RISK_PREVIEW_BLOCKED")

/-- The blockers of a promotion, with those of the rehearsal of a limited buy. -/
def PromotionRequest.blockers : List String :=
  let isBuy := q.intent.side == .bid
  let isSell := q.intent.side == .ask
  let isLimited := env.mode == .limited
  let currentQty := q.snapshot.currentBotPositionQty
  blockersOf
    [(!isSmartLiveMode env.mode, "SMART_LIVE_MODE_SHADOW"),
      (!q.policy.autoTradingEnabled, "SMART_POLICY_AUTO_TRADING_DISABLED"),
      (!isBuy && !isSell, "SMART_LIMITED_SIDE_UNSUPPORTED"),
      (isLimited && q.shadowRecommendation != some "READY_FOR_LIMITED_PILOT_REVIEW",
        "SMART_SHADOW_REPORT_NOT_READY"),
      (q.riskPreview.isNone, "SMART_RISK_PREVIEW_MISSING"),
      (q.riskPreview.any (fun preview => !preview.allowed),
        (q.riskPreview.map RiskPreview.blocker).getD ""),
      (decide (q.requested ≤ 0), "SMART_ORDER_AMOUNT_ZERO"),
      (isBuy && decide (q.pilotCap env < q.requested), "SMART_PILOT_ORDER_CAP_EXCEEDED"),
      (isBuy && q.availableKrw.any (fun available => decide (max available 0 < q.requested)),
        "SMART_INSUFFICIENT_KRW_BALANCE"),
      (isSell && decide (currentQty ≤ 0), "SMART_SELL_POSITION_MISSING"),
      (isSell && decide (currentQty + 1 / 10 ^ 12 < q.requestedQty),
        "SMART_SELL_QTY_EXCEEDS_POSITION")]
  ++ (if isBuy ∧ isLimited then
      rehearsalBlockers env.rules q.requested (q.riskScore.getD q.snapshot.riskScore)
        q.dailySmartOrderCount env.now
    else [])

def readyStatus : SmartEngineLiveMode → PromotionStatus
  | .limited => .readyForLimited
  | .live | .autonomousLive => .readyForLive
  | .shadow => .shadowOnly

def evaluatePromotion : Promotion :=
  let blockers := q.blockers env
  { promotionStatus :=
      if isSmartLiveMode env.mode ∧ blockers = [] then readyStatus env.mode
      else if isSmartLiveMode env.mode = false then .shadowOnly
      else .blocked
    -- `list(dict.fromkeys(blockers))`
    promotionBlockers := blockers.eraseDups
    pilotOrderCapKrw := q.pilotCap env
    riskPreview :=
      q.riskPreview.getD { allowed := false, riskResult := "SMART_RISK_PREVIEW_MISSING" } }

/-- `promotion_status in {"READY_FOR_LIMITED", "READY_FOR_LIVE"}`. -/
def PromotionStatus.isReady : PromotionStatus → Bool
  | .readyForLimited | .readyForLive => true
  | .shadowOnly | .blocked => false

theorem evaluatePromotion_isReady_iff :
    (evaluatePromotion env q).promotionStatus.isReady = true
      ↔ isSmartLiveMode env.mode = true ∧ q.blockers env = [] := by
  unfold evaluatePromotion
  dsimp only
  by_cases hlive : isSmartLiveMode env.mode = true
  · by_cases hnone : q.blockers env = []
    · rw [if_pos ⟨hlive, hnone⟩]
      refine iff_of_true ?_ ⟨hlive, hnone⟩
      cases hmode : env.mode with
      | shadow => rw [hmode] at hlive; cases hlive
      | limited => rfl
      | live => rfl
      | autonomousLive => rfl
    · rw [if_neg (fun h => hnone h.2), if_neg (by rw [hlive]; decide)]
      exact iff_of_false (by decide) (fun h => hnone h.2)
  · rw [if_neg (fun h => hlive h.1), if_pos (Bool.not_eq_true _ ▸ hlive)]
    exact iff_of_false (by decide) (fun h => hlive h.1)

theorem evaluatePromotion_isReady_allowed
    (h : (evaluatePromotion env q).promotionStatus.isReady = true) :
    ∃ preview, q.riskPreview = some preview ∧ preview.allowed = true := by
  obtain ⟨-, hnone⟩ := (evaluatePromotion_isReady_iff env q).mp h
  unfold PromotionRequest.blockers at hnone
  obtain ⟨hchecks, -⟩ := List.append_eq_nil_iff.mp hnone
  rw [blockersOf_eq_nil_iff] at hchecks
  simp only [List.forall_mem_cons] at hchecks
  obtain ⟨-, -, -, -, hgiven, hallowed, -⟩ := hchecks
  cases hpreview : q.riskPreview with
  | none =>
    rw [hpreview] at hgiven
    cases hgiven
  | some preview =>
    rw [hpreview] at hallowed
    exact ⟨preview, rfl, by simpa using hallowed⟩

end Promotion

/-! ## `record_shadow_decision` -/

/-- `attach_adaptive_edge_preview`. -/
def OrderIntent.attachAdaptiveEdge (intent : OrderIntent) (edge : AdaptiveEdge) : OrderIntent :=
  { intent with policyPreview := { intent.policyPreview with adaptiveEdge := some edge } }

/-- `intent.update(promotion)`: the promotion's preview takes the place of the intent's, the
status and the blockers stay. -/
def OrderIntent.update (intent : OrderIntent) (promotion : Promotion) : OrderIntent :=
  { intent with
    promotionStatus := some promotion.promotionStatus
    promotionBlockers := promotion.promotionBlockers
    pilotOrderCapKrw := some promotion.pilotOrderCapKrw
    policyPreview := promotion.policyPreview
    riskPreview := some promotion.riskPreview }

/-- What `record_shadow_decision` works with once it has its snapshot. -/
structure ShadowDecision where
  snapshotId : ℕ
  snapshot : SmartSnapshot
  currentPrice : ℚ
  rebalance : RebalanceSettings := {}
  promotion : PromotionEnv := {}
  policy : BotOperationPolicy := {}
  adaptiveEdge : AdaptiveEdge := {}
  shadowRecommendation : Option String := none

/-- The intent of `record_shadow_decision`, as it is handed on with the snapshot. -/
def ShadowDecision.orderIntent (d : ShadowDecision) : Option OrderIntent :=
  (AutoCoinBot.orderIntent d.rebalance d.snapshotId d.snapshot d.snapshot.maxTotalExposureKrw
      d.snapshot.currentBotPositionValueKrw d.currentPrice d.snapshot.blockers).map (fun intent =>
    let intent := intent.attachAdaptiveEdge d.adaptiveEdge
    intent.update (evaluatePromotion d.promotion
      { intent := intent
        snapshot := d.snapshot
        policy := d.policy
        riskPreview := some { allowed := true, riskResult := "SMART_PREFLIGHT_RISK_DEFERRED" }
        shadowRecommendation := d.shadowRecommendation
        riskScore := some d.snapshot.riskScore }))

end AutoCoinBot
