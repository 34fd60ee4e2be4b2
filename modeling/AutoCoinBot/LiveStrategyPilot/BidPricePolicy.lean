/-
  LiveStrategyPilot.BidPricePolicy — the prices of smart orders: `_round_krw_price`,
  `_round_krw_price_up` and `_smart_bid_price_policy` of app/live_strategy_pilot.py.

  Prices come in steps of 1, 10, 100 and 1000 KRW, band by band; `_round_krw_price_up` drops the
  fraction of the price before it rounds up.
-/
import AutoCoinBot.LiveStrategyPilot.SmartIntentOrder

namespace AutoCoinBot

open Library

/-! ## Rounding down -/

namespace SmartCall

/-- The bands of `_round_krw_price`, for prices that are not negative. -/
def krwBands (price : ℚ) : ℚ :=
  if 1000000 ≤ price then floorTo 1000 price
  else if 100000 ≤ price then floorTo 100 price
  else if 10000 ≤ price then floorTo 10 price
  else floorTo 1 price

theorem krwBands_roundsDown : RoundsDown (Set.Ici (0 : ℚ)) krwBands := by
  have hone : RoundsDown (Set.Ici (0 : ℚ)) (floorTo 1) := floorTo_roundsDown (by norm_num)
  have hten : RoundsDown (Set.Ici (0 : ℚ)) (floorTo 10) := floorTo_roundsDown (by norm_num)
  have hhundred : RoundsDown (Set.Ici (0 : ℚ)) (floorTo 100) := floorTo_roundsDown (by norm_num)
  have hthousand : RoundsDown (Set.Ici (0 : ℚ)) (floorTo 1000) := floorTo_roundsDown (by norm_num)
  -- each band starts at a multiple of its own step
  have htenStart : floorTo (10 : ℚ) 10000 = 10000 := by
    have h := floorTo_mul (show (0 : ℚ) < 10 by norm_num) 1000
    norm_num at h
    exact h
  have hhundredStart : floorTo (100 : ℚ) 100000 = 100000 := by
    have h := floorTo_mul (show (0 : ℚ) < 100 by norm_num) 1000
    norm_num at h
    exact h
  have hthousandStart : floorTo (1000 : ℚ) 1000000 = 1000000 := by
    have h := floorTo_mul (show (0 : ℚ) < 1000 by norm_num) 1000
    norm_num at h
    exact h
  exact hthousand.bands (hhundred.bands (hten.bands hone (by norm_num) htenStart) (by norm_num)
    hhundredStart) (by norm_num) hthousandStart

theorem truncate_of_nonneg {x : ℚ} (hx : 0 ≤ x) : truncate x = ⌊x⌋ := if_pos hx

theorem roundKrwPrice_eq_krwBands {price : ℚ} (h : 0 ≤ price) :
    roundKrwPrice price = krwBands price := by
  unfold roundKrwPrice krwBands floorTo
  rw [truncate_of_nonneg h, div_one]
  push_cast
  rw [mul_one]

/-- **Rounding down**: no price is raised, the order is kept across the bands, and a rounded price
stays as it is. -/
theorem roundKrwPrice_roundsDown : RoundsDown (Set.Ici (0 : ℚ)) roundKrwPrice :=
  krwBands_roundsDown.congr (fun _ hprice => roundKrwPrice_eq_krwBands hprice)

/-- **A price below one KRW is rounded to nothing.** -/
theorem roundKrwPrice_pos_iff {price : ℚ} (h : 0 ≤ price) :
    0 < roundKrwPrice price ↔ 1 ≤ price := by
  rw [roundKrwPrice_eq_krwBands h]
  unfold krwBands
  split
  · rw [floorTo_pos_iff (by norm_num)]
    constructor <;> intro <;> linarith
  · split
    · rw [floorTo_pos_iff (by norm_num)]
      constructor <;> intro <;> linarith
    · split
      · rw [floorTo_pos_iff (by norm_num)]
        constructor <;> intro <;> linarith
      · exact floorTo_pos_iff one_pos

theorem roundKrwPrice_le_iff (price : ℚ) :
    roundKrwPrice price ≤ price ↔ 0 ≤ price ∨ (⌈price⌉ : ℚ) = price := by
  by_cases h : 0 ≤ price
  · exact iff_of_true (roundKrwPrice_roundsDown.le price h) (.inl h)
  · have hround : roundKrwPrice price = ⌈price⌉ := by
      have hneg := not_le.mp h
      unfold roundKrwPrice truncate
      rw [if_neg (by linarith), if_neg (by linarith), if_neg (by linarith), if_neg h]
    rw [hround, or_iff_right h]
    exact ⟨fun hle => le_antisymm hle (Int.le_ceil price), fun heq => heq.le⟩

/-! ## Rounding up -/

/-- `unit` of `_round_krw_price_up`. -/
def krwUnit (price : ℚ) : ℤ :=
  if 1000000 ≤ price then 1000 else if 100000 ≤ price then 100
  else if 10000 ≤ price then 10 else 1

theorem krwUnit_pos (price : ℚ) : 0 < krwUnit price := by
  unfold krwUnit
  split_ifs <;> norm_num

theorem roundKrwPriceUp_eq {price : ℚ} (h : 0 < price) :
    roundKrwPriceUp price
      = ((⌊price⌋ + krwUnit price - 1) / krwUnit price * krwUnit price : ℤ) := by
  unfold roundKrwPriceUp
  dsimp only
  rw [if_neg (not_le.mpr h), truncate_of_nonneg h.le]
  rfl

theorem nextMultiple_spec {unit : ℤ} (hunit : 0 < unit) (n : ℤ) :
    n ≤ (n + unit - 1) / unit * unit ∧ (n < (n + unit - 1) / unit * unit ↔ ¬ unit ∣ n) := by
  have hdivision := Int.mul_ediv_add_emod (n + unit - 1) unit
  have hrest := Int.emod_nonneg (n + unit - 1) hunit.ne'
  have hless := Int.emod_lt_of_pos (n + unit - 1) hunit
  have hcomm := mul_comm unit ((n + unit - 1) / unit)
  refine ⟨by omega, ?_⟩
  constructor
  · rintro hlt ⟨k, rfl⟩
    -- the multiple itself is the next one
    have hk : (unit * k + unit - 1) / unit = k := by
      rw [show unit * k + unit - 1 = unit - 1 + unit * k by ring,
        Int.add_mul_ediv_left _ _ hunit.ne', Int.ediv_eq_zero_of_lt (by omega) (by omega), zero_add]
    rw [hk, mul_comm k unit] at hlt
    exact lt_irrefl _ hlt
  · intro hno
    refine lt_of_le_of_ne (by omega) (fun heq => hno ⟨(n + unit - 1) / unit, ?_⟩)
    rw [← hcomm] at heq
    exact heq

/-- **When rounding up does not end below the price**: the whole part is no multiple of the step,
or the price has no fraction. -/
theorem le_roundKrwPriceUp_iff {price : ℚ} (h : 0 < price) :
    price ≤ roundKrwPriceUp price ↔ (krwUnit price ∣ ⌊price⌋ → (⌊price⌋ : ℚ) = price) := by
  obtain ⟨hle, hlt⟩ := nextMultiple_spec (krwUnit_pos price) ⌊price⌋
  rw [roundKrwPriceUp_eq h]
  by_cases hdvd : krwUnit price ∣ ⌊price⌋
  · -- the next multiple is the whole part
    have heq : (⌊price⌋ + krwUnit price - 1) / krwUnit price * krwUnit price = ⌊price⌋ :=
      (hle.antisymm (not_lt.mp (fun hless => hlt.mp hless hdvd))).symm
    rw [heq, forall_prop_of_true hdvd]
    exact ⟨fun hprice => (Int.floor_le price).antisymm hprice, fun hfloor => hfloor.symm.le⟩
  · refine iff_of_true ?_ (fun hno => absurd hno hdvd)
    have hnext : ⌊price⌋ + 1 ≤ (⌊price⌋ + krwUnit price - 1) / krwUnit price * krwUnit price :=
      hlt.mpr hdvd
    calc price ≤ ((⌊price⌋ + 1 : ℤ) : ℚ) := by
          push_cast
          exact (Int.lt_floor_add_one price).le
      _ ≤ _ := Int.cast_le.mpr hnext

end SmartCall

/-! ## The policy -/

inductive PricePolicy where
  | defaultPassiveLimit
  | coreAccumulationLimit
  | coreMarketableLimitFallbackOffset
  | coreMarketableLimit
  deriving DecidableEq

/-- `marketable_limit_fallback_reason`. -/
inductive MarketableFallback where
  | marketableLimitDisabled
  | orderbookUnavailable
  | bestAskInvalid
  | bestAskTooFarFromCurrent

/-- The preview of a price, without the settings and the quotes it repeats. -/
structure BidPricePreview where
  pricePolicy : PricePolicy
  currentPrice : ℚ
  orderPrice : ℚ
  entryOffsetPercent : ℚ
  priceGapKrw : ℚ
  priceGapPct : Option ℚ
  marketableLimitEnabled : Bool := false
  marketableLimitFallbackReason : Option MarketableFallback := none

def smartBidPricePreview (currentPrice orderPrice entryOffsetPercent : ℚ)
    (coreAccumulation : Bool) : BidPricePreview :=
  let gap := currentPrice - orderPrice
  { pricePolicy := if coreAccumulation then .coreAccumulationLimit else .defaultPassiveLimit
    currentPrice := currentPrice
    orderPrice := orderPrice
    entryOffsetPercent := entryOffsetPercent
    priceGapKrw := gap
    priceGapPct := if 0 < currentPrice then some (gap / currentPrice * 100) else none }

/-- The arguments of `_smart_bid_price_policy`. -/
structure BidPriceRequest where
  currentPrice : ℚ
  config : LiveStrategyConfig := {}
  coreAccumulation : Bool := false
  bestAsk : Option ℚ := none

namespace BidPriceRequest

variable (q : BidPriceRequest)

def fallbackOffset : ℚ :=
  if q.coreAccumulation then q.config.coreEntryPriceOffsetPercent
  else q.config.entryPriceOffsetPercent

def offsetPrice : ℚ := q.currentPrice * (1 - q.fallbackOffset / 100)

/-- `best_ask`. -/
def ask : ℚ := toFloat q.bestAsk

/-- What the marketable price is rounded from. -/
def bufferedAsk : ℚ := q.ask * (1 + q.config.coreMarketableLimitPriceBufferPct / 100)

def marketablePrice : ℚ := max q.ask (SmartCall.roundKrwPriceUp q.bufferedAsk)

def maxPrice : ℚ := q.currentPrice * (1 + q.config.coreMarketableLimitMaxSlippagePct / 100)

/-- `_smart_bid_price_policy`: the price and its preview. -/
def smartBidPricePolicy : ℚ × BidPricePreview :=
  let fallbackPrice := SmartCall.roundKrwPrice q.offsetPrice
  let fallback :=
    smartBidPricePreview q.currentPrice fallbackPrice q.fallbackOffset q.coreAccumulation
  let refused := fun (reason : MarketableFallback) =>
    (fallbackPrice,
      { fallback with
        pricePolicy := .coreMarketableLimitFallbackOffset
        marketableLimitEnabled := true
        marketableLimitFallbackReason := some reason })
  if q.coreAccumulation = false then (fallbackPrice, fallback)
  else if q.config.coreMarketableLimitEnabled = false then
    (fallbackPrice, { fallback with marketableLimitFallbackReason := some .marketableLimitDisabled })
  else if q.ask ≤ 0 then
    refused (if q.bestAsk.isNone then .orderbookUnavailable else .bestAskInvalid)
  else if 0 < q.currentPrice ∧ q.maxPrice < q.marketablePrice then
    refused .bestAskTooFarFromCurrent
  else
    (q.marketablePrice,
      { smartBidPricePreview q.currentPrice q.marketablePrice 0 q.coreAccumulation with
        pricePolicy := .coreMarketableLimit
        marketableLimitEnabled := true })

/-- When the policy takes the marketable price. -/
def TakesMarketable : Prop :=
  q.coreAccumulation = true ∧ q.config.coreMarketableLimitEnabled = true ∧ 0 < q.ask
    ∧ (0 < q.currentPrice → q.marketablePrice ≤ q.maxPrice)

variable {q}

theorem smartBidPricePolicy_of_takes (h : q.TakesMarketable) :
    q.smartBidPricePolicy.2.pricePolicy = .coreMarketableLimit
      ∧ q.smartBidPricePolicy.1 = q.marketablePrice := by
  obtain ⟨hcore, henabled, hask, hprice⟩ := h
  unfold smartBidPricePolicy
  dsimp only
  rw [if_neg (by simp [hcore]), if_neg (by simp [henabled]), if_neg (not_le.mpr hask),
    if_neg (fun hfar => absurd (hprice hfar.1) (not_le.mpr hfar.2))]
  exact ⟨rfl, rfl⟩

theorem smartBidPricePolicy_of_not_takes (h : ¬ q.TakesMarketable) :
    q.smartBidPricePolicy.2.pricePolicy ≠ .coreMarketableLimit
      ∧ q.smartBidPricePolicy.1 = SmartCall.roundKrwPrice q.offsetPrice := by
  unfold smartBidPricePolicy
  dsimp only
  split
  case isTrue hcore => exact ⟨by simp [smartBidPricePreview, hcore], rfl⟩
  case isFalse hcore =>
    split
    case isTrue => exact ⟨by simp [smartBidPricePreview, hcore], rfl⟩
    case isFalse henabled =>
      split
      case isTrue => exact ⟨by simp, rfl⟩
      case isFalse hask =>
        split
        case isTrue => exact ⟨by simp, rfl⟩
        case isFalse hnear =>
          refine absurd ⟨by simpa using hcore, by simpa using henabled, not_le.mp hask, ?_⟩ h
          exact fun hcurrent => not_lt.mp (fun hfar => hnear ⟨hcurrent, hfar⟩)

theorem pricePolicy_eq_marketable_iff :
    q.smartBidPricePolicy.2.pricePolicy = .coreMarketableLimit ↔ q.TakesMarketable := by
  by_cases h : q.TakesMarketable
  · exact iff_of_true (smartBidPricePolicy_of_takes h).1 h
  · exact iff_of_false (smartBidPricePolicy_of_not_takes h).1 h

end BidPriceRequest

/-! ## The bounds -/

namespace BidPriceRequest

variable {q : BidPriceRequest}

/-- A marketable price pays the buffer, and not more than the slippage; any other waits below the
current price. -/
def PriceBounded (q : BidPriceRequest) : Prop :=
  (q.smartBidPricePolicy.2.pricePolicy = .coreMarketableLimit →
      q.bufferedAsk ≤ q.smartBidPricePolicy.1 ∧ q.smartBidPricePolicy.1 ≤ q.maxPrice)
    ∧ (q.smartBidPricePolicy.2.pricePolicy ≠ .coreMarketableLimit →
      q.smartBidPricePolicy.1 ≤ q.offsetPrice)

/-- The buffer survives the rounding: there is none, or the whole part of the price with it is no
multiple of the step, or that price has no fraction. -/
def BufferKept (q : BidPriceRequest) : Prop :=
  q.config.coreMarketableLimitPriceBufferPct = 0
    ∨ (SmartCall.krwUnit q.bufferedAsk ∣ ⌊q.bufferedAsk⌋ → (⌊q.bufferedAsk⌋ : ℚ) = q.bufferedAsk)

theorem bufferedAsk_le_ask_iff (hask : 0 < q.ask)
    (hbuffer : 0 ≤ q.config.coreMarketableLimitPriceBufferPct) :
    q.bufferedAsk ≤ q.ask ↔ q.config.coreMarketableLimitPriceBufferPct = 0 := by
  unfold bufferedAsk
  rw [mul_le_iff_le_one_right hask]
  constructor
  · intro h
    linarith
  · intro h
    rw [h]
    norm_num

theorem bufferedAsk_le_iff (hask : 0 < q.ask)
    (hbuffer : 0 ≤ q.config.coreMarketableLimitPriceBufferPct) :
    q.bufferedAsk ≤ q.marketablePrice ↔ q.BufferKept := by
  have hpos : 0 < q.bufferedAsk := mul_pos hask (by positivity)
  unfold marketablePrice BufferKept
  rw [le_max_iff, bufferedAsk_le_ask_iff hask hbuffer, SmartCall.le_roundKrwPriceUp_iff hpos]

theorem marketable_le_most (h : q.TakesMarketable)
    (hslippage : 0 ≤ q.config.coreMarketableLimitMaxSlippagePct) :
    q.marketablePrice ≤ q.maxPrice ↔ 0 < q.currentPrice := by
  refine ⟨fun hle => ?_, h.2.2.2⟩
  by_contra hcurrent
  have hmost : q.maxPrice ≤ 0 :=
    mul_nonpos_of_nonpos_of_nonneg (not_lt.mp hcurrent) (by positivity)
  have hpos : 0 < q.marketablePrice := h.2.2.1.trans_le (le_max_left _ _)
  exact absurd (hle.trans hmost) (not_le.mpr hpos)

end BidPriceRequest

/-- **Marketable-limit prices respect both bounds** where the buffer survives the rounding. What
is rounded up lies below the price if the whole part of the price is a multiple of the step. -/
theorem bid_price_bounds_iff (q : BidPriceRequest)
    (hbuffer : 0 ≤ q.config.coreMarketableLimitPriceBufferPct)
    (hslippage : 0 ≤ q.config.coreMarketableLimitMaxSlippagePct) :
    (q.PriceBounded
        ↔ (q.TakesMarketable → q.BufferKept ∧ 0 < q.currentPrice)
          ∧ (¬ q.TakesMarketable → 0 ≤ q.offsetPrice ∨ (⌈q.offsetPrice⌉ : ℚ) = q.offsetPrice))
      ∧ ∀ price : ℚ, 0 < price →
        (price ≤ SmartCall.roundKrwPriceUp price
          ↔ (SmartCall.krwUnit price ∣ ⌊price⌋ → (⌊price⌋ : ℚ) = price)) := by
  refine ⟨?_, fun price hprice => SmartCall.le_roundKrwPriceUp_iff hprice⟩
  unfold BidPriceRequest.PriceBounded
  rw [Ne, BidPriceRequest.pricePolicy_eq_marketable_iff]
  refine and_congr (forall_congr' fun htakes => ?_) (forall_congr' fun hno => ?_)
  · rw [(BidPriceRequest.smartBidPricePolicy_of_takes htakes).2,
      BidPriceRequest.bufferedAsk_le_iff htakes.2.2.1 hbuffer,
      BidPriceRequest.marketable_le_most htakes hslippage]
  · rw [(BidPriceRequest.smartBidPricePolicy_of_not_takes hno).2,
      SmartCall.roundKrwPrice_le_iff]

/-- A coin that is bought at the best ask, both at one price. -/
def coreBuyAt (price : ℚ) : BidPriceRequest :=
  { currentPrice := price
    config := { coreMarketableLimitEnabled := true }
    coreAccumulation := true
    bestAsk := some price }

theorem bid_price_bounds_example : (coreBuyAt 5000).PriceBounded :=
  ((bid_price_bounds_iff (coreBuyAt 5000) (by decide +kernel) (by decide +kernel)).1).mpr
    ⟨fun _ => ⟨.inr (fun _ => by decide +kernel), by decide +kernel⟩,
      fun _ => .inl (by decide +kernel)⟩

theorem buffer_lost :
    (coreBuyAt 100).smartBidPricePolicy.2.pricePolicy = .coreMarketableLimit
      ∧ (coreBuyAt 100).smartBidPricePolicy.1 = 100
      ∧ (coreBuyAt 100).bufferedAsk = 10002 / 100
      ∧ SmartCall.roundKrwPriceUp (1 / 2) = 0 := by
  decide +kernel

end AutoCoinBot
