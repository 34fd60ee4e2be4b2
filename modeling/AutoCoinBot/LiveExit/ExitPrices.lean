/-
  LiveExit.ExitPrices — the price a new exit candidate is given.

  The price lies below the current one by the offset and is rounded down to a step.
-/
import AutoCoinBot.LiveExit.CandidateCalls
import AutoCoinBot.LiveStrategyPilot.BidPricePolicy

namespace AutoCoinBot

open Library

/-! ## A new candidate -/

/-- A call of `create_exit_candidate_for_position` that creates one. -/
structure CandidateRequest.Creates (request : CandidateRequest) (w : SellWorld) : Prop where
  status : [PositionStatus.closed, .closing, .error, .manualReviewRequired].contains
    request.position.status = false
  noneActive : (loadActiveExitCandidate w.db request.position.id).isSome = false

/-- The terms of the candidate that the call stores. -/
def CandidateRequest.stored (request : CandidateRequest) (w : SellWorld) (now : UtcTime) :
    ExitTerms :=
  (createExitCandidateForPosition w request now).exitTerms w.db.exitCandidates.nextId

theorem createExitCandidateForPosition_terms {request : CandidateRequest} {w : SellWorld}
    {now : UtcTime} (h : request.Creates w) : request.stored w now = request.terms := by
  unfold CandidateRequest.stored createExitCandidateForPosition
  dsimp only
  rw [if_neg (by simp only [h.status]; decide), if_neg (by simp only [h.noneActive]; decide)]
  exact Function.update_self _ _ _

def CandidateRequest.offsetPrice (request : CandidateRequest) : ℚ :=
  request.currentPrice * (1 - request.settings.exitPriceOffsetPercent / 100)

def CandidateRequest.atPrice (request : CandidateRequest) (currentPrice : ℚ) : CandidateRequest :=
  { request with currentPrice := currentPrice }

theorem expectedAmountKrw_eq (request : CandidateRequest) :
    request.terms.expectedAmountKrw
      = request.terms.targetExitPrice * request.position.entryVolume := rfl

/-! ## An exit at no price -/

theorem draftWithin_of_zero {terms : ExitTerms} (hprice : terms.targetExitPrice = 0)
    (hamount : terms.expectedAmountKrw = 0) (settings : ExitSettings)
    (hmin : 0 < settings.liveConfig.minOrderKrw) (db : Database) (position : LivePosition)
    (snapshot : ExitSnapshot) :
    (draftWithin settings db terms position snapshot).2 ≠ none := by
  have hdraft : aggregateSameMarketExitCandidate settings db terms position snapshot
      = terms.draft := by
    unfold aggregateSameMarketExitCandidate
    dsimp only
    rw [if_pos (.inl hprice.le)]
  have halone : terms.draft.aggregateExitPositionIds = [] := rfl
  unfold draftWithin
  dsimp only
  rw [hdraft, hprice, mul_zero, if_neg (not_not_intro halone)]
  split
  · simp
  · split
    · simp
    · split
      · simp
      · have hbelow : terms.draft.expectedAmountKrw < settings.liveConfig.minOrderKrw :=
          hamount.trans_lt hmin
        rw [if_pos hbelow]
        simp

/-! ## When rounding keeps the exit -/

/-- The exit that a candidate is stored with: its price is positive, not above the offset, a step
of its own, no lower than at a lower price of the coin, and what it sells is worth something. -/
structure CandidateRequest.ExitKept (request : CandidateRequest) (w : SellWorld) (now : UtcTime) :
    Prop where
  positive : 0 < (request.stored w now).targetExitPrice
  belowOffset : (request.stored w now).targetExitPrice ≤ request.offsetPrice
  fixed : SmartCall.roundKrwPrice (request.stored w now).targetExitPrice
    = (request.stored w now).targetExitPrice
  monotone : ∀ price, request.currentPrice ≤ price →
    (request.stored w now).targetExitPrice ≤ ((request.atPrice price).stored w now).targetExitPrice
  worth : 0 < request.position.entryVolume → 0 < (request.stored w now).expectedAmountKrw

section Kept

variable {request : CandidateRequest} {w : SellWorld}

theorem offset_factor_pos (hoffset : request.settings.exitPriceOffsetPercent ∈ Set.Ico (0 : ℚ) 100) :
    0 < 1 - request.settings.exitPriceOffsetPercent / 100 := by
  have hless := hoffset.2
  linarith

theorem offsetPrice_nonneg (hprice : 0 < request.currentPrice)
    (hoffset : request.settings.exitPriceOffsetPercent ∈ Set.Ico (0 : ℚ) 100) :
    0 ≤ request.offsetPrice :=
  (mul_pos hprice (offset_factor_pos hoffset)).le

theorem targetExitPrice_pos_iff (hprice : 0 < request.currentPrice)
    (hoffset : request.settings.exitPriceOffsetPercent ∈ Set.Ico (0 : ℚ) 100) :
    0 < request.terms.targetExitPrice ↔ 1 ≤ request.offsetPrice :=
  SmartCall.roundKrwPrice_pos_iff (offsetPrice_nonneg hprice hoffset)

theorem exitKept_of_one_le (now : UtcTime) (hcreates : request.Creates w)
    (hprice : 0 < request.currentPrice)
    (hoffset : request.settings.exitPriceOffsetPercent ∈ Set.Ico (0 : ℚ) 100)
    (hone : 1 ≤ request.offsetPrice) : request.ExitKept w now := by
  have hnonneg := offsetPrice_nonneg hprice hoffset
  have hrounds := SmartCall.roundKrwPrice_roundsDown
  have hpositive := (targetExitPrice_pos_iff hprice hoffset).mpr hone
  have hstored : request.stored w now = request.terms :=
    createExitCandidateForPosition_terms hcreates
  refine ⟨?_, ?_, ?_, ?_, ?_⟩
  · rw [hstored]
    exact hpositive
  · rw [hstored]
    exact hrounds.le _ hnonneg
  · rw [hstored]
    exact hrounds.fixed _ hnonneg
  · intro price hhigher
    have hcreatesAt : (request.atPrice price).Creates w := ⟨hcreates.status, hcreates.noneActive⟩
    rw [hstored, createExitCandidateForPosition_terms hcreatesAt]
    have hoffsets : request.offsetPrice ≤ (request.atPrice price).offsetPrice :=
      mul_le_mul_of_nonneg_right hhigher (offset_factor_pos hoffset).le
    exact hrounds.mono hnonneg (hnonneg.trans hoffsets) hoffsets
  · intro hvolume
    rw [hstored, expectedAmountKrw_eq]
    exact mul_pos hpositive hvolume

theorem draftWithin_of_below_one (now : UtcTime) (hcreates : request.Creates w)
    (hprice : 0 < request.currentPrice)
    (hoffset : request.settings.exitPriceOffsetPercent ∈ Set.Ico (0 : ℚ) 100)
    (hbelow : request.offsetPrice < 1) (settings : ExitSettings) (db : Database)
    (position : LivePosition) (snapshot : ExitSnapshot)
    (hmin : 0 < settings.liveConfig.minOrderKrw) :
    (draftWithin settings db (request.stored w now) position snapshot).2 ≠ none := by
  have hnot : ¬ 0 < request.terms.targetExitPrice :=
    fun hpos => absurd ((targetExitPrice_pos_iff hprice hoffset).mp hpos) (not_le.mpr hbelow)
  have hzero : request.terms.targetExitPrice = 0 :=
    le_antisymm (not_lt.mp hnot)
      (SmartCall.roundKrwPrice_roundsDown.mapsTo (offsetPrice_nonneg hprice hoffset))
  have hamount : request.terms.expectedAmountKrw = 0 := by
    rw [expectedAmountKrw_eq, hzero, zero_mul]
  rw [createExitCandidateForPosition_terms hcreates]
  exact draftWithin_of_zero hzero hamount settings hmin db position snapshot

/-- **Exit price rounding keeps the exit** exactly from one KRW on; an exit below is stored at no
price, and no evaluation lets it pass. -/
theorem exit_price_kept_iff (request : CandidateRequest) (w : SellWorld) (now : UtcTime)
    (hcreates : request.Creates w) (hprice : 0 < request.currentPrice)
    (hoffset : request.settings.exitPriceOffsetPercent ∈ Set.Ico (0 : ℚ) 100) :
    (request.ExitKept w now ↔ 1 ≤ request.offsetPrice)
      ∧ (request.offsetPrice < 1 →
        ∀ (settings : ExitSettings) (db : Database) (position : LivePosition)
          (snapshot : ExitSnapshot), 0 < settings.liveConfig.minOrderKrw →
          (draftWithin settings db (request.stored w now) position snapshot).2 ≠ none) := by
  refine ⟨⟨fun hkept => ?_, exitKept_of_one_le now hcreates hprice hoffset⟩,
    fun hbelow settings db position snapshot hmin =>
      draftWithin_of_below_one now hcreates hprice hoffset hbelow settings db position snapshot hmin⟩
  have htarget := hkept.positive
  rw [createExitCandidateForPosition_terms hcreates] at htarget
  exact (targetExitPrice_pos_iff hprice hoffset).mp htarget

end Kept

/-- A million coins to be sold at a price, with an offset of 0.2 %. -/
def sellMillion (currentPrice : ℚ) : CandidateRequest where
  position := { id := 1, sessionId := 1, market := "KRW-COIN", entryVolume := 1000000 }
  reason := "STOP_LOSS"
  currentPrice := currentPrice

def millionHeld : SellWorld where
  db :=
    { livePositions := Table.empty.insert (fun id => { (sellMillion 1).position with id := id })
        (fun _ => rfl) }

theorem exit_price_kept_example : (sellMillion 100).ExitKept millionHeld 0 :=
  ((exit_price_kept_iff (sellMillion 100) millionHeld 0 ⟨by decide, by decide⟩ (by decide +kernel)
    (by decide +kernel)).1).mpr (by decide +kernel)

theorem exit_at_no_price :
    (sellMillion (1 / 2)).position.entryVolume * (sellMillion (1 / 2)).currentPrice = 500000
      ∧ ((sellMillion (1 / 2)).stored millionHeld 0).targetExitPrice = 0
      ∧ ((sellMillion (1 / 2)).stored millionHeld 0).expectedAmountKrw = 0
      ∧ (draftWithin {} {} ((sellMillion (1 / 2)).stored millionHeld 0)
          (sellMillion (1 / 2)).position
          { balances := some { byCurrency := [("COIN", { balance := some 1000000 })] } }).2
        = some "BLOCKED_SELL_VOLUME_BELOW_MIN" := by
  decide +kernel

end AutoCoinBot
