/-
  LiveBroker.OrderRisk — `evaluate_live_order_risk`, and what the brokers send.

  Two gates judge an order, `evaluate_live_order_risk` here and `check_order_risk` in the risk
  manager. Both bound the amount of the order; the exchange receives its price and its volume.
-/
import AutoCoinBot.Library.Gate
import AutoCoinBot.RiskManager.Checks

namespace AutoCoinBot

open Library

/-! ## The order -/

/-- The keys of `order` that the gates and the brokers read. A price, a volume or an
amount that is there keeps what `float` reads of it. -/
structure LiveOrder where
  exchange : Option String := none
  market : Option String := none
  side : Option OrderSide := none
  orderType : Option OrderType := none
  ordType : Option OrderType := none
  price : Option (Option ℚ) := none
  volume : Option (Option ℚ) := none
  amountKrw : Option (Option ℚ) := none
  scaleIn : Bool := false
  requestId : Option String := none
  clientOrderId : Option String := none

/-- The order as `check_order_risk` reads it. -/
def LiveOrder.riskOrder (order : LiveOrder) : RiskOrder :=
  { exchange := order.exchange
    market := order.market
    side := order.side
    orderType := order.orderType
    ordType := order.ordType
    price := order.price.join
    volume := order.volume.join
    amountKrw := order.amountKrw.join
    scaleIn := order.scaleIn
    requestId := order.requestId }

/-- The amount the order names; zero if it names none. -/
def LiveOrder.namedAmount (order : LiveOrder) : ℚ := toFloat order.amountKrw.join

def LiveOrder.notional (order : LiveOrder) : ℚ :=
  toFloat order.price.join * toFloat order.volume.join

/-! ## `evaluate_live_order_risk` -/

/-- `LiveTradingConfig`, as far as the gate reads it; the defaults are those of
`for_exchange`. -/
structure LiveTradingConfig where
  liveTradingEnabled : Bool := false
  maxLiveOrderKrw : ℚ := 30000
  minOrderKrw : ℚ := 5000
  maxPositionRatio : ℚ := 1 / 2
  feeRate : ℚ := 5 / 10000
  volatilityBlockRate : ℚ := 3 / 100
  minVolume : ℚ := 0

/-- `mode`. -/
inductive LiveMode where
  | paper
  | liveLocked
  | liveManualOnly
  | autoStrategyRunning
  | emergencyStopped
  deriving DecidableEq

/-- The arguments of `evaluate_live_order_risk`. -/
structure LiveRiskRequest where
  order : LiveOrder
  config : LiveTradingConfig := {}
  mode : LiveMode := .liveManualOnly
  balances : Balances := {}
  requestExists : Bool := false
  recentDuplicate : Bool := false
  marketSnapshot : Option MarketSnapshot := none
  isAuto : Bool := false

def balanceAmount (balances : Balances) (currency : String) : ℚ :=
  ((balances.byCurrency.lookup currency).map
    (fun item => toFloat item.balance + toFloat item.locked)).getD 0

def availableBalance (balances : Balances) (currency : String) : ℚ :=
  ((balances.byCurrency.lookup currency).map (fun item => toFloat item.balance)).getD 0

section Gate

variable (q : LiveRiskRequest)

/-- `market_snapshot`; an empty one counts as none. -/
def LiveRiskRequest.snapshot : Option MarketSnapshot :=
  q.marketSnapshot.filter (fun s => s ≠ {})

def LiveRiskRequest.market : String := q.order.market.getD "KRW-BTC"

/-- `side == "BUY"`. -/
def LiveRiskRequest.isBuy : Bool := q.order.side == some .buy

/-- `side == "SELL"`. -/
def LiveRiskRequest.isSell : Bool := q.order.side == some .sell

/-- `price`: that of the order, else that of the market. -/
def LiveRiskRequest.price : ℚ :=
  orNum (toFloat q.order.price.join) (toFloat (q.snapshot.bind MarketSnapshot.price))

/-- `amount_krw`, filled in for an order that names none. -/
def LiveRiskRequest.amountKrw : ℚ :=
  let amountKrw := toFloat q.order.amountKrw.join
  let volume := toFloat q.order.volume.join
  -- a positive amount is kept as it is, whatever price and volume say
  if (q.isBuy ∨ q.isSell) ∧ amountKrw ≤ 0 ∧ 0 < q.price ∧ 0 < volume then q.price * volume
  else amountKrw

/-- `volume`, filled in for a buy that names none. -/
def LiveRiskRequest.volume : ℚ :=
  let volume := toFloat q.order.volume.join
  if q.isBuy ∧ volume ≤ 0 ∧ 0 < q.price ∧ 0 < q.amountKrw then q.amountKrw / q.price else volume

def LiveRiskRequest.feeEstimate : ℚ := q.amountKrw * q.config.feeRate

def LiveRiskRequest.krwAvailable : ℚ := availableBalance q.balances "KRW"

/-- `asset`; `_market_asset` keeps the case. -/
def LiveRiskRequest.asset : String := symbolOf q.market

def LiveRiskRequest.positionRatioAfter : ℚ :=
  let assetTotal := balanceAmount q.balances q.asset
  let equity := balanceAmount q.balances "KRW" + assetTotal * q.price
  let post := (assetTotal + if q.isBuy then q.volume else -q.volume) * q.price
  if 0 < equity then post / equity else 0

/-- The checks of the gate, in the order they are made: the first that holds blocks. -/
def LiveRiskRequest.blocks : List (Bool × String) :=
  let config := q.config
  [(q.mode == .emergencyStopped, "BLOCKED_EMERGENCY_STOP"),
    (!config.liveTradingEnabled, "BLOCKED_LIVE_DISABLED"),
    (q.mode != .liveManualOnly && !(q.mode == .autoStrategyRunning && q.isAuto),
      "BLOCKED_LIVE_LOCKED"),
    (q.requestExists || q.recentDuplicate, "BLOCKED_DUPLICATE_ORDER"),
    (q.isSell && decide (availableBalance q.balances q.asset < q.volume),
      "BLOCKED_INSUFFICIENT_POSITION"),
    (decide (config.maxLiveOrderKrw < q.amountKrw), "BLOCKED_MAX_ORDER_AMOUNT"),
    (decide (q.amountKrw < config.minOrderKrw), "BLOCKED_MIN_ORDER_AMOUNT"),
    (q.isBuy && decide (q.krwAvailable < q.amountKrw + q.feeEstimate),
      "BLOCKED_INSUFFICIENT_BALANCE"),
    (q.isBuy && decide (config.maxPositionRatio < q.positionRatioAfter),
      "BLOCKED_MAX_POSITION_RATIO"),
    (q.snapshot.any (fun s => decide (config.volatilityBlockRate ≤ toFloat s.rangeRate)),
      "BLOCKED_VOLATILITY_FILTER"),
    (q.snapshot.any (fun s => decide (0 < config.minVolume)
      && decide (toFloat s.volume < config.minVolume)), "BLOCKED_LOW_VOLUME")]

/-- What `evaluate_live_order_risk` returns. -/
structure LiveRiskResult where
  allowed : Bool
  riskResult : String
  blockedReason : String
  market : String
  side : Option OrderSide
  orderType : OrderType
  price : ℚ
  amountKrw : ℚ
  volume : ℚ
  feeEstimate : ℚ
  estimatedPostKrwBalance : ℚ
  estimatedPostAssetBalance : ℚ
  positionRatioAfter : ℚ
  maxLiveOrderKrw : ℚ
  minOrderKrw : ℚ

def evaluateLiveOrderRisk : LiveRiskResult :=
  let block := (q.blocks.find? Prod.fst).map Prod.snd
  let allowed := block.isNone
  let assetAvailable := availableBalance q.balances q.asset
  { allowed := allowed
    riskResult := block.getD "ALLOWED"
    blockedReason := block.getD ""
    market := q.market
    side := q.order.side
    orderType := q.order.orderType.getD .limit
    price := q.price
    amountKrw := q.amountKrw
    volume := q.volume
    feeEstimate := q.feeEstimate
    estimatedPostKrwBalance :=
      if allowed ∧ q.isBuy then max (q.krwAvailable - q.amountKrw - q.feeEstimate) 0
      else if allowed ∧ q.isSell then q.krwAvailable + max (q.amountKrw - q.feeEstimate) 0
      else q.krwAvailable
    estimatedPostAssetBalance :=
      if allowed ∧ q.isBuy then assetAvailable + q.volume
      else if allowed ∧ q.isSell then max (assetAvailable - q.volume) 0
      else assetAvailable
    positionRatioAfter := q.positionRatioAfter
    maxLiveOrderKrw := q.config.maxLiveOrderKrw
    minOrderKrw := q.config.minOrderKrw }

end Gate

/-! ## The payloads -/

/-- Why no payload is sent: a key that is not there, or `LiveBrokerError`. -/
inductive PayloadError where
  | keyError (key : String)
  | liveBrokerError (message : String)
  deriving DecidableEq

/-- What a broker posts to `/v1/orders`. A price or a volume that is there carries the
number its text reads as. -/
structure OrderPayload where
  market : String
  side : OrderSide
  ordType : String
  price : Option (Option ℚ) := none
  volume : Option (Option ℚ) := none
  identifier : Option String := none
  clientOrderId : Option String := none
  deriving DecidableEq

/-- `order[key]`. -/
def requireKey {α : Type} (key : String) (x : Option α) : Except PayloadError α :=
  match x with
  | none => .error (.keyError key)
  | some value => .ok value

def toUpbitOrderPayload (order : LiveOrder) : Except PayloadError OrderPayload := do
  let market ← requireKey "market" order.market
  let identifier ← requireKey "request_id" order.requestId
  let side : OrderSide := if order.side = some .buy then .bid else .ask
  match order.orderType.getD .limit with
  | .limit => do
      let price ← requireKey "price" order.price
      let volume ← requireKey "volume" order.volume
      -- amount_krw is not sent with a limit order
      return { market, side, ordType := "limit", price := some price, volume := some volume
               identifier := some identifier }
  | .market =>
    if order.side = some .buy then do
      let amountKrw ← requireKey "amount_krw" order.amountKrw
      return { market, side, ordType := "price", price := some amountKrw
               identifier := some identifier }
    else if order.side = some .sell then do
      let volume ← requireKey "volume" order.volume
      return { market, side, ordType := "market", volume := some volume
               identifier := some identifier }
    else throw (.liveBrokerError "지원하지 않는 주문 타입입니다.")
  | .other => throw (.liveBrokerError "지원하지 않는 주문 타입입니다.")

/-- The payload `BithumbBroker.place_order` posts. -/
def bithumbOrderPayload (order : LiveOrder) : Except PayloadError OrderPayload := do
  let side : OrderSide :=
    if order.side = some .bid ∨ order.side = some .buy then .bid else .ask
  -- "limit" in either of the two fields will do
  let limit := (order.ordType.or order.orderType) = some .limit ∨ order.orderType = some .limit
  let market ← requireKey "market" order.market
  let volume ← requireKey "volume" order.volume
  let price ← requireKey "price" order.price
  let clientOrderId := orText (toText order.clientOrderId) (toText order.requestId)
  if limit then
    return { market, side, ordType := "limit", price := some price, volume := some volume
             clientOrderId :=
               if clientOrderId = "" then none else some (clientOrderId.take 36).toString }
  else throw (.liveBrokerError "Bithumb live orders only allow limit bid/ask orders.")

/-- Price times volume, where the payload carries both as numbers. -/
def OrderPayload.notional (payload : OrderPayload) : Option ℚ :=
  payload.price.join.bind (fun price => payload.volume.join.map (fun volume => price * volume))

/-- A broker posts the payload for the order. -/
def LiveOrder.Sends (order : LiveOrder) (payload : OrderPayload) : Prop :=
  toUpbitOrderPayload order = .ok payload ∨ bithumbOrderPayload order = .ok payload

theorem requireKey_eq_ok {α : Type} {key : String} {x : Option α} {value : α}
    (h : requireKey key x = .ok value) : x = some value := by
  cases x with
  | none => cases h
  | some y =>
    injection h with h
    rw [h]

theorem payload_bind_eq_ok {α β : Type} {x : Except PayloadError α}
    {f : α → Except PayloadError β} {b : β} (h : x >>= f = .ok b) :
    ∃ a, x = .ok a ∧ f a = .ok b := by
  cases x with
  | error e => cases h
  | ok a => exact ⟨a, rfl, h⟩

theorem LiveOrder.Sends.notional {order : LiveOrder} {payload : OrderPayload} {n : ℚ}
    (h : order.Sends payload) (hn : payload.notional = some n) : n = order.notional := by
  -- a limit payload copies both figures
  have hcopied : payload.price = order.price → payload.volume = order.volume →
      n = order.notional := by
    intro hprice hvolume
    unfold OrderPayload.notional at hn
    rw [hprice, hvolume] at hn
    unfold LiveOrder.notional
    cases hp : order.price.join with
    | none => rw [hp] at hn; cases hn
    | some price =>
      cases hv : order.volume.join with
      | none => rw [hp, hv] at hn; cases hn
      | some volume =>
        rw [hp, hv] at hn
        injection hn with hn
        exact hn.symm
  rcases h with h | h
  · unfold toUpbitOrderPayload at h
    obtain ⟨market, -, h⟩ := payload_bind_eq_ok h
    obtain ⟨identifier, -, h⟩ := payload_bind_eq_ok h
    cases htype : order.orderType.getD .limit with
    | limit =>
      rw [htype] at h
      obtain ⟨price, hprice, h⟩ := payload_bind_eq_ok h
      obtain ⟨volume, hvolume, h⟩ := payload_bind_eq_ok h
      injection h with h
      subst h
      exact hcopied (requireKey_eq_ok hprice).symm (requireKey_eq_ok hvolume).symm
    | market =>
      -- a market payload has a price or a volume, not both
      rw [htype] at h
      dsimp only at h
      split at h
      · obtain ⟨amountKrw, -, h⟩ := payload_bind_eq_ok h
        injection h with h
        subst h
        unfold OrderPayload.notional at hn
        cases amountKrw <;> cases hn
      · split at h
        · obtain ⟨volume, -, h⟩ := payload_bind_eq_ok h
          injection h with h
          subst h
          cases hn
        · cases h
    | other =>
      rw [htype] at h
      cases h
  · unfold bithumbOrderPayload at h
    obtain ⟨market, -, h⟩ := payload_bind_eq_ok h
    obtain ⟨volume, hvolume, h⟩ := payload_bind_eq_ok h
    obtain ⟨price, hprice, h⟩ := payload_bind_eq_ok h
    dsimp only at h
    split at h
    · injection h with h
      subst h
      exact hcopied (requireKey_eq_ok hprice).symm (requireKey_eq_ok hvolume).symm
    · cases h

/-! ## What an allowed order has passed -/

/-- The amount the order names, if it names one, covers price times volume. -/
def LiveOrder.AmountCovers (order : LiveOrder) : Prop :=
  order.namedAmount ≠ 0 → order.notional ≤ order.namedAmount

/-- The minimum is positive, or the order is a plain one: a buy or a sell without negative
figures. -/
def LiveRiskRequest.Plain (q : LiveRiskRequest) : Prop :=
  0 < q.config.minOrderKrw
    ∨ ((q.isBuy ∨ q.isSell) ∧ 0 ≤ toFloat q.order.price.join ∧ 0 ≤ toFloat q.order.volume.join)

theorem evaluateLiveOrderRisk_allowed_iff {q : LiveRiskRequest} :
    (evaluateLiveOrderRisk q).allowed = true ↔ ∀ check ∈ q.blocks, check.1 = false := by
  show (firstFailing q.blocks).isNone = true ↔ _
  rw [Option.isNone_iff_eq_none, firstFailing_eq_none_iff]

/-- **What the live gate asks of an allowed order**: its amount lies between the bounds,
and a buy is covered with its fee. -/
theorem evaluateLiveOrderRisk_allowed {q : LiveRiskRequest}
    (h : (evaluateLiveOrderRisk q).allowed = true) :
    q.amountKrw ≤ q.config.maxLiveOrderKrw ∧ q.config.minOrderKrw ≤ q.amountKrw
      ∧ (q.isBuy = true → q.amountKrw * (1 + q.config.feeRate) ≤ q.krwAvailable) := by
  rw [evaluateLiveOrderRisk_allowed_iff] at h
  have hmax := h (decide (q.config.maxLiveOrderKrw < q.amountKrw), "BLOCKED_MAX_ORDER_AMOUNT")
    (by simp [LiveRiskRequest.blocks])
  have hmin := h (decide (q.amountKrw < q.config.minOrderKrw), "BLOCKED_MIN_ORDER_AMOUNT")
    (by simp [LiveRiskRequest.blocks])
  have hbalance := h (q.isBuy && decide (q.krwAvailable < q.amountKrw + q.feeEstimate),
    "BLOCKED_INSUFFICIENT_BALANCE") (by simp [LiveRiskRequest.blocks])
  refine ⟨not_lt.mp (of_decide_eq_false hmax), not_lt.mp (of_decide_eq_false hmin), ?_⟩
  intro hbuy
  have hcovered : decide (q.krwAvailable < q.amountKrw + q.feeEstimate) = false := by
    simpa [hbuy] using hbalance
  have hle := not_lt.mp (of_decide_eq_false hcovered)
  have hfee : q.feeEstimate = q.amountKrw * q.config.feeRate := rfl
  rw [hfee] at hle
  linarith

/-- **What the amount covers**: if a named amount covers price times volume, the amount
the gate judges does. -/
theorem amountKrw_ge_notional {q : LiveRiskRequest} (hcovers : q.order.AmountCovers)
    (hplain : q.Plain) (hmin : q.config.minOrderKrw ≤ q.amountKrw) :
    q.order.notional ≤ q.amountKrw := by
  have hprice : toFloat q.order.price.join ≠ 0 → q.price = toFloat q.order.price.join :=
    fun h => orNum_of_ne _ h
  have hamount : q.amountKrw
      = if (q.isBuy ∨ q.isSell) ∧ q.order.namedAmount ≤ 0 ∧ 0 < q.price
          ∧ 0 < toFloat q.order.volume.join then q.price * toFloat q.order.volume.join
        else q.order.namedAmount := rfl
  have hnotional : q.order.notional = toFloat q.order.price.join * toFloat q.order.volume.join := rfl
  by_cases hnamed : q.order.namedAmount = 0
  · by_cases hzero : toFloat q.order.price.join = 0
    · -- without a price of its own the order sends nothing
      have hnone : q.order.notional = 0 := by rw [hnotional, hzero, zero_mul]
      rw [hnone, hamount]
      split
      · next hfilled => exact le_of_lt (mul_pos hfilled.2.2.1 hfilled.2.2.2)
      · exact le_of_eq hnamed.symm
    · rw [hamount, hprice hzero]
      split
      · exact le_of_eq hnotional
      · next hfilled =>
          -- nothing was filled in, so the amount is zero
          have hzeroAmount : q.amountKrw = 0 := by
            rw [hamount, hprice hzero, if_neg hfilled, hnamed]
          rw [hnamed, hnotional]
          rcases hplain with hpos | ⟨hside, hp, hv⟩
          · rw [hzeroAmount] at hmin
            exact absurd hpos (not_lt.mpr hmin)
          · have hpPos : 0 < toFloat q.order.price.join := lt_of_le_of_ne hp (Ne.symm hzero)
            have hvZero : toFloat q.order.volume.join = 0 := by
              by_contra hne
              exact hfilled ⟨hside, le_of_eq hnamed, hpPos, lt_of_le_of_ne hv (Ne.symm hne)⟩
            rw [hvZero, mul_zero]
  · have hle := hcovers hnamed
    rw [hamount]
    split
    · next hfilled =>
        have hpos := mul_pos hfilled.2.2.1 hfilled.2.2.2
        exact le_trans hle (le_trans hfilled.2.1 (le_of_lt hpos))
    · exact hle

theorem checkOrderRisk_amount_le {env : RiskEnvironment} {db : Database} {q : RiskRequest}
    (hengine : ¬ (q.profitEngineEntry = true ∧ q.isBuyEntry = true))
    (h : (checkOrderRisk env db q).allowed = true) : q.order.amount ≤ env.config.maxOrderKrw := by
  have hpassed : amountCheck env q = none :=
    checkOrderRisk_allowed_iff.mp h ("amount_check", amountCheck env q) (by simp [orderChecks])
  by_contra hover
  unfold amountCheck at hpassed
  rw [if_pos ⟨not_le.mp hover, hengine⟩] at hpassed
  cases hpassed

/-- **What the gates approve is what the exchange receives**, for an order whose named
amount covers price times volume: the live gate bounds the payload by its maximum and by
the available KRW, and `check_order_risk` by its own maximum, except for an entry of the
profit engine. -/
theorem approved_order_bounds_payload {order : LiveOrder} (hcovers : order.AmountCovers)
    {payload : OrderPayload} (hsends : order.Sends payload) {n : ℚ}
    (hn : payload.notional = some n) :
    (∀ q : LiveRiskRequest, q.order = order → q.Plain →
        (evaluateLiveOrderRisk q).allowed = true →
          n ≤ q.config.maxLiveOrderKrw
          ∧ (q.isBuy = true → -1 ≤ q.config.feeRate →
              n * (1 + q.config.feeRate) ≤ q.krwAvailable))
      ∧ ∀ env db (q : RiskRequest), q.order = order.riskOrder →
          ¬ (q.profitEngineEntry = true ∧ q.isBuyEntry = true) →
          (checkOrderRisk env db q).allowed = true → n ≤ env.config.maxOrderKrw := by
  -- both encoders send the order's own price and volume
  have hnotional : n = order.notional := hsends.notional hn
  constructor
  · intro q horder hplain hallowed
    subst horder
    obtain ⟨hmax, hmin, hbuy⟩ := evaluateLiveOrderRisk_allowed hallowed
    have hle : n ≤ q.amountKrw := by
      rw [hnotional]
      exact amountKrw_ge_notional hcovers hplain hmin
    refine ⟨le_trans hle hmax, ?_⟩
    intro hside hfee
    calc n * (1 + q.config.feeRate) ≤ q.amountKrw * (1 + q.config.feeRate) :=
          mul_le_mul_of_nonneg_right hle (by linarith)
      _ ≤ q.krwAvailable := hbuy hside
  · intro env db q horder hengine hallowed
    have hle := checkOrderRisk_amount_le hengine hallowed
    have hamount : q.order.amount = orNum order.namedAmount order.notional := by
      rw [horder]
      rfl
    rw [hamount] at hle
    -- without a named amount the gate bounds price times volume itself
    by_cases hnamed : order.namedAmount = 0
    · rw [hnamed, orNum_zero] at hle
      exact le_of_eq_of_le hnotional hle
    · rw [orNum_of_ne _ hnamed] at hle
      exact le_of_eq_of_le hnotional (le_trans (hcovers hnamed) hle)

/-! ## Two orders -/

def limitBuy (price volume : ℚ) : LiveOrder :=
  { exchange := some "bithumb", market := some "KRW-BTC", side := some .buy
    orderType := some .limit, ordType := some .limit, price := some (some price)
    volume := some (some volume), requestId := some "strategy-0a1b" }

def limitBuyPayload (price volume : ℚ) : OrderPayload :=
  { market := "KRW-BTC", side := .bid, ordType := "limit", price := some (some price)
    volume := some (some volume), clientOrderId := some "strategy-0a1b" }

def limitBuyRequest (price volume : ℚ) (profitEngineEntry : Bool) : RiskRequest :=
  { order := (limitBuy price volume).riskOrder, purpose := .entry, mode := .autoStrategyRunning
    balances := some { byCurrency := [("KRW", { currency := "KRW", balance := some 200000 })] }
    isAuto := true, profitEngineEntry := profitEngineEntry }

theorem approved_order_bounds_payload_example :
    ((10000 : ℚ) ≤ 30000 ∧ (10000 : ℚ) * (1 + 5 / 10000) ≤ 200000) ∧ (10000 : ℚ) ≤ 30000 := by
  have hcovers : (limitBuy 100000000 (1 / 10000)).AmountCovers := fun h => absurd rfl h
  have hsends : (limitBuy 100000000 (1 / 10000)).Sends (limitBuyPayload 100000000 (1 / 10000)) :=
    .inr (by decide +kernel)
  have hn : (limitBuyPayload 100000000 (1 / 10000)).notional = some 10000 := by decide +kernel
  have hboth := approved_order_bounds_payload hcovers hsends hn
  constructor
  · have hlive := hboth.1
      { order := limitBuy 100000000 (1 / 10000), config := { liveTradingEnabled := true }
        balances := { byCurrency := [("KRW", { balance := some 200000 })] } } rfl
      (.inl (by decide +kernel)) (by decide +kernel)
    exact ⟨hlive.1, hlive.2 (by decide +kernel) (by decide +kernel)⟩
  · exact hboth.2 { policy := { autoTradingEnabled := true } } {}
      (limitBuyRequest 100000000 (1 / 10000) false) rfl (by decide +kernel) (by decide +kernel)

theorem profit_engine_entry_over_max_order :
    (checkOrderRisk { policy := { autoTradingEnabled := true } } {}
        (limitBuyRequest 100000000 (1 / 1000) true)).allowed = true
      ∧ bithumbOrderPayload (limitBuy 100000000 (1 / 1000))
        = .ok (limitBuyPayload 100000000 (1 / 1000))
      ∧ (limitBuyPayload 100000000 (1 / 1000)).notional = some 100000
      ∧ ({} : RiskConfig).maxOrderKrw < 100000 := by
  decide +kernel

end AutoCoinBot
