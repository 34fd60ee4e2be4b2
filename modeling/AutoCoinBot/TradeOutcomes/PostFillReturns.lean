/-
  TradeOutcomes.PostFillReturns — what the market did after a fill, as
  app/trade_outcomes.py records it.

  An outcome has a return for each of four horizons after its fill. A refresh computes those whose
  horizon has passed from the first candle after it, as texts of candle times go; recording the
  order again may change the fill and leaves the returns.
-/
import AutoCoinBot.Database.CandleRows
import AutoCoinBot.Library.BoundedBatch
import AutoCoinBot.TradeOutcomes.Outcomes

namespace AutoCoinBot

open Library

/-! ## Horizons -/

/-- `POST_FILL_HORIZONS_MINUTES` -/
inductive Horizon where
  | m1
  | m3
  | m5
  | m15
  deriving DecidableEq

def Horizon.minutes : Horizon → ℤ
  | .m1 => 1
  | .m3 => 3
  | .m5 => 5
  | .m15 => 15

def postFillHorizons : List Horizon := [.m1, .m3, .m5, .m15]

theorem mem_postFillHorizons (h : Horizon) : h ∈ postFillHorizons := by
  cases h <;> decide

instance {p : Horizon → Prop} [DecidablePred p] : Decidable (∀ h, p h) :=
  decidable_of_iff (∀ h ∈ postFillHorizons, p h)
    ⟨fun hall h => hall h (mem_postFillHorizons h), fun hall h _ => hall h⟩

namespace TradeOutcome

/-- `post_fill_return_1m` to `post_fill_return_15m` -/
def postFillReturn (row : TradeOutcome) : Horizon → Option ℚ
  | .m1 => row.postFillReturn1m
  | .m3 => row.postFillReturn3m
  | .m5 => row.postFillReturn5m
  | .m15 => row.postFillReturn15m

def Complete (row : TradeOutcome) : Prop := ∀ h, (row.postFillReturn h).isSome

instance (row : TradeOutcome) : Decidable row.Complete := by
  unfold Complete
  infer_instance

/-- `outcome.get("filled_at") or outcome.get("created_at")` -/
def filledBasis (row : TradeOutcome) : UtcTime := row.filledAt.getD row.createdAt

/-- `filled_at + timedelta(minutes=minutes)` -/
def horizonAt (row : TradeOutcome) (h : Horizon) : UtcTime := row.filledBasis + 60 * h.minutes

/-- `str(outcome.get("market") or "KRW-BTC")` -/
def candleMarket (row : TradeOutcome) : String := if row.market = "" then "KRW-BTC" else row.market

end TradeOutcome

/-! ## `_post_fill_metrics` -/

/-- The price of the first candle from a horizon on; 0 is none. -/
def horizonPrice (candles : CandleTable) (row : TradeOutcome) (h : Horizon) : Option ℚ :=
  ((firstCandleAtOrAfter candles row.candleMarket 1 ⟨row.horizonAt h, true⟩).map
    (fun r => r.data.tradePrice)).filter (· ≠ 0)

def horizonReturn (candles : CandleTable) (row : TradeOutcome) (h : Horizon) : Option ℚ :=
  (horizonPrice candles row h).map (fun price =>
    tradePct (price - toFloat row.filledPrice) (toFloat row.filledPrice))

/-- What `_post_fill_metrics` updates; a horizon that has not passed is no key of it. -/
structure PostFillMetrics where
  returns : Horizon → Option (Option ℚ)
  maxFavorableExcursionPct : Option ℚ
  maxAdverseExcursionPct : Option ℚ
  adverseSelectionPct : Option ℚ
  outcomeStatus : OutcomeStatus

/-- `_excursion_metrics`: favourable and adverse. -/
def excursionMetrics (candles : CandleTable) (row : TradeOutcome) (nowUtc : UtcTime) :
    Option ℚ × Option ℚ :=
  let endAt := min (row.filledBasis + 60 * 15) nowUtc
  let prices := ((loadCandlesBetween candles row.candleMarket 1 ⟨row.filledBasis, true⟩
    ⟨endAt, true⟩).map (fun r => r.data.tradePrice)).filter (fun price => decide (0 < price))
  if prices = [] then (none, none)
  else
    let raw := prices.map (fun price =>
      tradePct (price - toFloat row.filledPrice) (toFloat row.filledPrice))
    let up := raw.max?.getD 0
    let down := (raw.map (fun value => -value)).max?.getD 0
    let favorable := if row.side = .sell then down else up
    let adverse := if row.side = .sell then up else down
    (some (round6 (max favorable 0)), some (round6 (max adverse 0)))

def postFillMetrics (candles : CandleTable) (row : TradeOutcome) (nowUtc : UtcTime) :
    Option PostFillMetrics :=
  if toFloat row.filledPrice ≤ 0 then none
  else
    let returns : Horizon → Option (Option ℚ) := fun h =>
      if nowUtc < row.horizonAt h then none else some (horizonReturn candles row h)
    let known := postFillHorizons.countP (fun h => (returns h).join.isSome)
    let excursion := excursionMetrics candles row nowUtc
    some
      { returns := returns
        maxFavorableExcursionPct := excursion.1
        maxAdverseExcursionPct := excursion.2
        adverseSelectionPct := excursion.2
        outcomeStatus :=
          if known < postFillHorizons.length then .pendingMarketData
          else if row.orderPurpose ≠ .exit then .pendingRealized
          else .postFillComplete }

/-- `update_trade_outcome_log`, of metrics that were computed or not -/
def TradeOutcome.applyMetrics (metrics : Option PostFillMetrics) (clock : UtcTime)
    (row : TradeOutcome) : TradeOutcome :=
  match metrics with
  | none => { row with outcomeStatus := .pendingMarketData, updatedAt := clock }
  | some m =>
    { row with
      postFillReturn1m := (m.returns .m1).getD row.postFillReturn1m
      postFillReturn3m := (m.returns .m3).getD row.postFillReturn3m
      postFillReturn5m := (m.returns .m5).getD row.postFillReturn5m
      postFillReturn15m := (m.returns .m15).getD row.postFillReturn15m
      maxFavorableExcursionPct := m.maxFavorableExcursionPct
      maxAdverseExcursionPct := m.maxAdverseExcursionPct
      adverseSelectionPct := m.adverseSelectionPct
      outcomeStatus := m.outcomeStatus
      updatedAt := clock }

/-! ## `refresh_trade_outcome_post_fill_returns` -/

/-- The condition of `load_trade_outcomes_needing_post_fill_updates` -/
def needsPostFill (row : TradeOutcome) : Bool :=
  decide (0 < toFloat row.filledPrice) && decide (¬ row.Complete)
    && [OutcomeStatus.pendingOutcome, .pendingMarketData, .pendingRealized].contains
      row.outcomeStatus

/-- The place in `ORDER BY filled_at ASC, id ASC` -/
def TradeOutcome.fillPlace (row : TradeOutcome) : WithBot UtcTime ×ₗ ℕ :=
  toLex ((row.filledAt : WithBot UtcTime), row.id)

def TradeOutcome.filledBefore (a b : TradeOutcome) : Prop := a.fillPlace ≤ b.fillPlace

instance : DecidableRel TradeOutcome.filledBefore := fun a b =>
  inferInstanceAs (Decidable (a.fillPlace ≤ b.fillPlace))

def loadTradeOutcomesNeedingPostFillUpdates (outcomes : Table TradeOutcome) (limit : ℤ) :
    List TradeOutcome :=
  ((outcomes.rows.filter needsPostFill).insertionSort TradeOutcome.filledBefore).take
    (max limit 1).toNat

/-- The outcomes that a refresh loads: that of an order, or the first that need it. -/
def outcomesToRefresh (outcomes : Table TradeOutcome) (orderUuid : Option String) (limit : ℤ) :
    List TradeOutcome :=
  if toText orderUuid = "" then loadTradeOutcomesNeedingPostFillUpdates outcomes limit
  else (outcomes.rows.find? (fun row => row.orderUuid == toText orderUuid)).toList

structure PostFillReport where
  processed : ℕ
  updated : ℕ
  pending : ℕ

/-- An outcome of which data is missing counts as pending. -/
def isPendingRefresh (candles : CandleTable) (nowUtc : UtcTime) (row : TradeOutcome) : Bool :=
  (postFillMetrics candles row nowUtc).all (fun m => m.outcomeStatus == .pendingMarketData)

/-- `refresh_trade_outcome_post_fill_returns` at `nowUtc`, while the clock shows `clock` -/
def refreshPostFill (candles : CandleTable) (outcomes : Table TradeOutcome)
    (orderUuid : Option String) (nowUtc : UtcTime) (limit : ℤ) (clock : UtcTime) :
    Table TradeOutcome × PostFillReport :=
  let loaded := outcomesToRefresh outcomes orderUuid limit
  (loaded.foldl (fun outcomes outcome =>
      outcomes.modifyWhere (fun row => row.orderUuid == outcome.orderUuid)
        (TradeOutcome.applyMetrics (postFillMetrics candles outcome nowUtc) clock)
        (by intro row; unfold TradeOutcome.applyMetrics; split <;> rfl)) outcomes,
    { processed := loaded.length
      updated := loaded.countP (fun row => !isPendingRefresh candles nowUtc row)
      pending := loaded.countP (isPendingRefresh candles nowUtc) })

def refreshRow (candles : CandleTable) (nowUtc clock : UtcTime) (row : TradeOutcome) :
    TradeOutcome :=
  row.applyMetrics (postFillMetrics candles row nowUtc) clock

/-! ## `record_filled_order_outcome`, of any order -/

/-- The row of an order; the position is the one given, or else the order's. -/
def recordedOutcome (log : LiveOrderLog) (positionId : Option ℕ) (now : UtcTime) (id : ℕ) :
    TradeOutcome :=
  { filledOutcome log 0 now id with positionId := (positionId.filter (· ≠ 0)).or log.positionId }

def isRecordable (log : LiveOrderLog) : Bool :=
  log.status.isFill && toText log.orderUuid != ""
    && !decide (log.executedVolume ≤ 0 ∨ filledPriceOf log ≤ 0)

/-- `record_filled_order_outcome` -/
def recordFilledOrder (outcomes : Table TradeOutcome) (log : LiveOrderLog) (positionId : Option ℕ)
    (now : UtcTime) : Table TradeOutcome :=
  if isRecordable log = false then outcomes
  else
    outcomes.upsert TradeOutcome.orderUuid (recordedOutcome log positionId now) (fun _ => rfl)
      (fun old => old.recordAgain (recordedOutcome log positionId now old.id)) (fun _ => rfl)

/-! ## What a refresh makes of the outcomes -/

section Refresh

variable {candles : CandleTable} {outcomes : Table TradeOutcome} {nowUtc clock : UtcTime}
  {limit : ℤ} {orderUuid : Option String} {row : TradeOutcome}

theorem orderUuid_applyMetrics (metrics : Option PostFillMetrics) (clock : UtcTime)
    (row : TradeOutcome) : (row.applyMetrics metrics clock).orderUuid = row.orderUuid := by
  unfold TradeOutcome.applyMetrics
  split <;> rfl

theorem applyMetrics_applyMetrics (metrics : Option PostFillMetrics) (clock : UtcTime)
    (row : TradeOutcome) :
    (row.applyMetrics metrics clock).applyMetrics metrics clock = row.applyMetrics metrics clock := by
  unfold TradeOutcome.applyMetrics
  cases metrics with
  | none => rfl
  | some m =>
    dsimp only
    cases m.returns .m1 <;> cases m.returns .m3 <;> cases m.returns .m5 <;>
      cases m.returns .m15 <;> rfl

theorem refreshRow_frame (candles : CandleTable) (nowUtc clock : UtcTime) (row : TradeOutcome) :
    (refreshRow candles nowUtc clock row).id = row.id
      ∧ (refreshRow candles nowUtc clock row).orderUuid = row.orderUuid
      ∧ (refreshRow candles nowUtc clock row).market = row.market
      ∧ (refreshRow candles nowUtc clock row).filledPrice = row.filledPrice
      ∧ (refreshRow candles nowUtc clock row).filledAt = row.filledAt
      ∧ (refreshRow candles nowUtc clock row).createdAt = row.createdAt := by
  unfold refreshRow TradeOutcome.applyMetrics
  split <;> exact ⟨rfl, rfl, rfl, rfl, rfl, rfl⟩

theorem postFillReturn_refreshRow (hprice : 0 < toFloat row.filledPrice) (h : Horizon) :
    (refreshRow candles nowUtc clock row).postFillReturn h
      = if nowUtc < row.horizonAt h then row.postFillReturn h else horizonReturn candles row h := by
  unfold refreshRow postFillMetrics
  rw [if_neg (not_le.mpr hprice)]
  cases h <;>
    · unfold TradeOutcome.applyMetrics TradeOutcome.postFillReturn
      dsimp only
      split_ifs <;> rfl

theorem mem_outcomesToRefresh (h : row ∈ outcomesToRefresh outcomes orderUuid limit) :
    row ∈ outcomes.rows := by
  unfold outcomesToRefresh at h
  split at h
  · have hsorted := (List.mem_insertionSort _).mp (List.mem_of_mem_take h)
    exact (List.mem_filter.mp hsorted).1
  · rw [Option.mem_toList] at h
    exact List.mem_of_find?_eq_some h

theorem rows_refreshPostFill (hunique : outcomes.UniqueOn TradeOutcome.orderUuid) :
    (refreshPostFill candles outcomes orderUuid nowUtc limit clock).1.rows
      = outcomes.rows.map (fun row =>
          if row ∈ outcomesToRefresh outcomes orderUuid limit then
            refreshRow candles nowUtc clock row
          else row) := by
  unfold refreshPostFill
  dsimp only
  rw [rows_foldl (fun t : Table TradeOutcome => t.rows)
    (g := fun (outcome row : TradeOutcome) =>
      if row.orderUuid = outcome.orderUuid then
        row.applyMetrics (postFillMetrics candles outcome nowUtc) clock
      else row)]
  · refine List.map_congr_left ?_
    intro row hrow
    -- the one loaded outcome of the order is the row itself
    have hsame : ∀ x ∈ outcomesToRefresh outcomes orderUuid limit,
        row.orderUuid = x.orderUuid → x = row :=
      fun x hx huuid => (hunique.eq_of_key hrow (mem_outcomesToRefresh hx) huuid).symm
    rw [foldl_ite_key TradeOutcome.orderUuid
      (fun (outcome : TradeOutcome) uuid => uuid = outcome.orderUuid)
      (fun outcome => orderUuid_applyMetrics _ clock) _ rfl]
    refine (foldl_ite_unique (fun outcome : TradeOutcome => row.orderUuid = outcome.orderUuid)
      (fun outcome => TradeOutcome.applyMetrics (postFillMetrics candles outcome nowUtc) clock)
      hsame (applyMetrics_applyMetrics _ clock) row).trans ?_
    refine if_congr ?_ rfl rfl
    constructor
    · intro h
      obtain ⟨x, hx, huuid⟩ := h
      rw [← hsame x hx huuid]
      exact hx
    · intro h
      exact ⟨row, h, rfl⟩
  · intro t outcome
    show t.rows.map _ = _
    simp only [beq_iff_eq]

end Refresh

/-! ## Runs -/

/-- What happens to the outcomes. -/
inductive OutcomeCall where
  | record (log : LiveOrderLog) (positionId : Option ℕ) (now : UtcTime)
  | refresh (orderUuid : Option String) (nowUtc : UtcTime) (limit : ℤ) (clock : UtcTime)

def outcomeStep (candles : CandleTable) (outcomes : Table TradeOutcome) :
    OutcomeCall → Table TradeOutcome
  | .record log positionId now => recordFilledOrder outcomes log positionId now
  | .refresh orderUuid nowUtc limit clock =>
    (refreshPostFill candles outcomes orderUuid nowUtc limit clock).1

def outcomesAfter (candles : CandleTable) (calls : List OutcomeCall) : Table TradeOutcome :=
  run (outcomeStep candles) Table.empty calls

/-- An outcome of a fill: it has a price and a time, and it is final only with every return. -/
structure TradeOutcome.Recorded (row : TradeOutcome) : Prop where
  price : 0 < toFloat row.filledPrice
  filledAt : row.filledAt.isSome
  status : row.outcomeStatus ≠ .realized
  final : row.outcomeStatus = .postFillComplete → row.Complete

/-- What every call keeps. -/
structure OutcomesRecorded (outcomes : Table TradeOutcome) : Prop where
  unique : outcomes.UniqueOn TradeOutcome.orderUuid
  recorded : ∀ row ∈ outcomes.rows, row.Recorded

section Steps

variable {candles : CandleTable} {outcomes : Table TradeOutcome} {nowUtc clock now : UtcTime}
  {row old : TradeOutcome} {log : LiveOrderLog} {positionId : Option ℕ}

theorem price_of_recordable (h : isRecordable log = true) : 0 < filledPriceOf log := by
  unfold isRecordable at h
  rw [Bool.and_eq_true, Bool.not_eq_true', decide_eq_false_iff_not, not_or] at h
  exact not_le.mp h.2.2

theorem mem_recordFilledOrder (h : row ∈ (recordFilledOrder outcomes log positionId now).rows) :
    row ∈ outcomes.rows ∧ (isRecordable log = true → row.orderUuid ≠ toText log.orderUuid)
      ∨ isRecordable log = true
        ∧ ((∃ id, row = recordedOutcome log positionId now id)
          ∨ ∃ old ∈ outcomes.rows, old.orderUuid = toText log.orderUuid
            ∧ row = old.recordAgain (recordedOutcome log positionId now old.id)) := by
  unfold recordFilledOrder at h
  by_cases hrecord : isRecordable log = true
  · rw [if_neg (by rw [hrecord]; decide)] at h
    rcases Table.mem_rows_upsert h with hold | hnew | hagain
    · exact .inl ⟨hold.1, fun _ => hold.2⟩
    · exact .inr ⟨hrecord, .inl ⟨_, hnew⟩⟩
    · exact .inr ⟨hrecord, .inr hagain⟩
  · rw [if_pos (by simpa using hrecord)] at h
    exact .inl ⟨h, fun hyes => absurd hyes hrecord⟩

theorem recorded_recordedOutcome (h : isRecordable log = true) (id : ℕ) :
    (recordedOutcome log positionId now id).Recorded := by
  refine ⟨price_of_recordable h, rfl, ?_, ?_⟩
  · intro hstatus
    cases hstatus
  · intro hstatus
    cases hstatus

theorem TradeOutcome.Recorded.recordAgain (hold : old.Recorded) (h : isRecordable log = true)
    (id : ℕ) : (old.recordAgain (recordedOutcome log positionId now id)).Recorded := by
  refine ⟨price_of_recordable h, rfl, ?_, ?_⟩
  · unfold TradeOutcome.recordAgain
    dsimp only
    split
    · exact hold.status
    · intro hstatus
      cases hstatus
  · intro hstatus
    unfold TradeOutcome.recordAgain at hstatus
    dsimp only at hstatus
    split at hstatus
    · intro h
      have hcomplete := hold.final hstatus h
      cases h <;> exact hcomplete
    · cases hstatus

theorem complete_of_final (hprice : 0 < toFloat row.filledPrice)
    (hfinal : (refreshRow candles nowUtc clock row).outcomeStatus = .postFillComplete) :
    ∀ h, row.horizonAt h ≤ nowUtc ∧ (horizonReturn candles row h).isSome := by
  unfold refreshRow postFillMetrics at hfinal
  rw [if_neg (not_le.mpr hprice)] at hfinal
  unfold TradeOutcome.applyMetrics at hfinal
  dsimp only at hfinal
  split at hfinal
  · cases hfinal
  · next hall =>
      have hevery := List.countP_eq_length.mp (le_antisymm List.countP_le_length (not_lt.mp hall))
      intro h
      have hknown := hevery h (mem_postFillHorizons h)
      by_cases hlater : nowUtc < row.horizonAt h
      · rw [if_pos hlater] at hknown
        cases hknown
      · rw [if_neg hlater] at hknown
        exact ⟨not_lt.mp hlater, hknown⟩

theorem status_refreshRow (hprice : 0 < toFloat row.filledPrice) :
    (refreshRow candles nowUtc clock row).outcomeStatus ≠ .realized := by
  unfold refreshRow postFillMetrics
  rw [if_neg (not_le.mpr hprice)]
  unfold TradeOutcome.applyMetrics
  dsimp only
  split_ifs <;> decide

theorem TradeOutcome.Recorded.refreshRow (h : row.Recorded) :
    (refreshRow candles nowUtc clock row).Recorded := by
  obtain ⟨-, -, -, hprice, hfilled, -⟩ := refreshRow_frame candles nowUtc clock row
  refine ⟨?_, ?_, status_refreshRow h.price, ?_⟩
  · rw [hprice]
    exact h.price
  · rw [hfilled]
    exact h.filledAt
  · intro hfinal horizon
    obtain ⟨hpassed, hsome⟩ := complete_of_final h.price hfinal horizon
    rw [postFillReturn_refreshRow h.price, if_neg (not_lt.mpr hpassed)]
    exact hsome

theorem outcomesRecorded_step (h : OutcomesRecorded outcomes) (call : OutcomeCall) :
    OutcomesRecorded (outcomeStep candles outcomes call) := by
  cases call with
  | record log positionId now =>
    refine ⟨?_, ?_⟩
    · show (recordFilledOrder outcomes log positionId now).UniqueOn TradeOutcome.orderUuid
      unfold recordFilledOrder
      split
      · exact h.unique
      · exact h.unique.upsert _ _ _ (fun _ => rfl)
    · intro row hrow
      rcases mem_recordFilledOrder hrow with hold | ⟨hrecord, hnew | hagain⟩
      · exact h.recorded row hold.1
      · obtain ⟨id, rfl⟩ := hnew
        exact recorded_recordedOutcome hrecord id
      · obtain ⟨old, hold, -, rfl⟩ := hagain
        exact (h.recorded old hold).recordAgain hrecord old.id
  | refresh orderUuid nowUtc limit clock =>
    have hrows : (refreshPostFill candles outcomes orderUuid nowUtc limit clock).1.rows
        = outcomes.rows.map (fun row =>
          if row ∈ outcomesToRefresh outcomes orderUuid limit then
            refreshRow candles nowUtc clock row
          else row) := rows_refreshPostFill h.unique
    refine ⟨?_, ?_⟩
    · show ((refreshPostFill candles outcomes orderUuid nowUtc limit clock).1.rows.map
        TradeOutcome.orderUuid).Nodup
      rw [hrows, List.map_map]
      have hsame : (outcomes.rows.map (TradeOutcome.orderUuid ∘ fun row =>
          if row ∈ outcomesToRefresh outcomes orderUuid limit then
            refreshRow candles nowUtc clock row
          else row)) = outcomes.rows.map TradeOutcome.orderUuid := by
        refine List.map_congr_left ?_
        intro row _
        simp only [Function.comp_apply]
        split
        · exact (refreshRow_frame candles nowUtc clock row).2.1
        · rfl
      rw [hsame]
      exact h.unique
    · intro row hrow
      have hrow' : row ∈ (refreshPostFill candles outcomes orderUuid nowUtc limit clock).1.rows :=
        hrow
      rw [hrows] at hrow'
      obtain ⟨old, hold, rfl⟩ := List.mem_map.mp hrow'
      split
      · exact (h.recorded old hold).refreshRow
      · exact h.recorded old hold

theorem outcomesRecorded_empty : OutcomesRecorded Table.empty :=
  ⟨List.nodup_nil, fun _ hrow => absurd hrow List.not_mem_nil⟩

theorem outcomesRecorded_after (candles : CandleTable) (calls : List OutcomeCall) :
    OutcomesRecorded (outcomesAfter candles calls) := by
  have hstep : ∀ outcomes call, OutcomesRecorded outcomes →
      OutcomesRecorded (outcomeStep candles outcomes call) :=
    fun _ call h => outcomesRecorded_step h call
  exact run_invariant hstep outcomesRecorded_empty calls

end Steps

/-! ## Returns that are about the fill -/

/-- The first candle of an outcome's market from a horizon on, by the times that they denote. -/
structure FirstFrom (candles : CandleTable) (row : TradeOutcome) (h : Horizon) (c : CandleRow) :
    Prop where
  stored : c ∈ candles.table.rows
  market : c.market = row.candleMarket
  unit : c.unit = 1
  after : row.horizonAt h ≤ c.time.seconds
  first : ∀ d ∈ candles.table.rows, d.market = row.candleMarket → d.unit = 1 →
    row.horizonAt h ≤ d.time.seconds → c.time.seconds ≤ d.time.seconds

/-- A return to the first candle from the horizon on, of the fill that is stored. -/
def ReturnRight (candles : CandleTable) (row : TradeOutcome) (h : Horizon) (value : ℚ) : Prop :=
  ∃ c, FirstFrom candles row h c
    ∧ value = tradePct (c.data.tradePrice - toFloat row.filledPrice) (toFloat row.filledPrice)

def ReturnsRight (candles : CandleTable) (row : TradeOutcome) : Prop :=
  ∀ h value, row.postFillReturn h = some value → ReturnRight candles row h value

/-- A candle at the horizon itself is there with a `Z`, if without a zone. -/
def HorizonSpelled (candles : CandleTable) (row : TradeOutcome) (h : Horizon) : Prop :=
  ∀ c ∈ candles.table.rows, c.market = row.candleMarket → c.unit = 1 →
    c.time = ⟨row.horizonAt h, false⟩ →
    ∃ d ∈ candles.table.rows, d.market = row.candleMarket ∧ d.unit = 1
      ∧ d.time = ⟨row.horizonAt h, true⟩

/-- When a call keeps the returns about the fill: an order is recorded again with the fill that its
outcome has, or before it has a return; and no candle at a horizon is without a zone alone. -/
def KeepsReturns (candles : CandleTable) (outcomes : Table TradeOutcome) : OutcomeCall → Prop
  | .record log _ _ =>
    isRecordable log = true → ∀ row ∈ outcomes.rows, row.orderUuid = toText log.orderUuid →
      (∀ h, row.postFillReturn h = none)
        ∨ row.filledPrice = some (filledPriceOf log) ∧ row.filledAt = some log.updatedAt
          ∧ row.market = log.market
  | .refresh orderUuid nowUtc limit _ =>
    ∀ row ∈ outcomesToRefresh outcomes orderUuid limit, ∀ h, row.horizonAt h ≤ nowUtc →
      HorizonSpelled candles row h

section Right

variable {candles : CandleTable} {outcomes : Table TradeOutcome} {nowUtc clock : UtcTime}
  {row row' : TradeOutcome}

theorem horizonReturn_right {h : Horizon} {value : ℚ} (hspelled : HorizonSpelled candles row h)
    (hvalue : horizonReturn candles row h = some value) : ReturnRight candles row h value := by
  obtain ⟨price, hprice, rfl⟩ := Option.map_eq_some_iff.mp hvalue
  obtain ⟨c, hc, rfl⟩ := Option.map_eq_some_iff.mp (Option.filter_eq_some_iff.mp hprice).1
  obtain ⟨⟨hstored, hmarket, hunit, hplace⟩, hfirst⟩ := firstCandleAtOrAfter_spec hc
  have hafter : row.horizonAt h ≤ c.time.seconds := by
    rcases SpelledTime.place_le_iff.mp hplace with hlater | hsame
    · exact hlater.le
    · exact hsame.1.le
  refine ⟨c, ⟨hstored, hmarket, hunit, hafter, ?_⟩, rfl⟩
  intro d hd hdmarket hdunit hdafter
  -- a candle at the horizon without a zone is not looked at; its `Z` spelling is
  have hlooked : ∃ e ∈ candles.table.rows, e.market = row.candleMarket ∧ e.unit = 1
      ∧ (⟨row.horizonAt h, true⟩ : SpelledTime).place ≤ e.time.place
      ∧ e.time.seconds ≤ d.time.seconds := by
    by_cases hz : (⟨row.horizonAt h, true⟩ : SpelledTime).place ≤ d.time.place
    · exact ⟨d, hd, hdmarket, hdunit, hz, le_refl _⟩
    · rw [SpelledTime.place_le_iff, not_or, not_and] at hz
      have hsame : d.time.seconds = row.horizonAt h := le_antisymm (not_lt.mp hz.1) hdafter
      have hplain : d.time.zoned = false := by
        cases hzoned : d.time.zoned with
        | false => rfl
        | true => exact absurd hzoned.ge (hz.2 hsame.symm)
      obtain ⟨e, he, hemarket, heunit, htime⟩ := hspelled d hd hdmarket hdunit (by
        rw [← hsame, ← hplain])
      refine ⟨e, he, hemarket, heunit, by rw [htime], ?_⟩
      rw [htime]
      exact hdafter
  obtain ⟨e, he, hemarket, heunit, heplace, hle⟩ := hlooked
  have hce := hfirst e he hemarket heunit heplace
  rcases SpelledTime.place_le_iff.mp hce with hearlier | hsame
  · exact hearlier.le.trans hle
  · exact hsame.1.le.trans hle

theorem returnsRight_congr (hmarket : row'.market = row.market)
    (hprice : row'.filledPrice = row.filledPrice) (hbasis : row'.filledBasis = row.filledBasis)
    (h : Horizon) (value : ℚ) :
    ReturnRight candles row' h value ↔ ReturnRight candles row h value := by
  have hcandle : row'.candleMarket = row.candleMarket := by
    unfold TradeOutcome.candleMarket
    rw [hmarket]
  have hat : row'.horizonAt h = row.horizonAt h := by
    unfold TradeOutcome.horizonAt
    rw [hbasis]
  have hfirst : ∀ c, FirstFrom candles row' h c ↔ FirstFrom candles row h c := by
    intro c
    constructor
    · intro hc
      exact ⟨hc.stored, hcandle ▸ hc.market, hc.unit, hat ▸ hc.after,
        fun d hd hdm hdu hda => hc.first d hd (hcandle ▸ hdm) hdu (hat ▸ hda)⟩
    · intro hc
      exact ⟨hc.stored, hcandle ▸ hc.market, hc.unit, hat ▸ hc.after,
        fun d hd hdm hdu hda => hc.first d hd (hcandle ▸ hdm) hdu (hat ▸ hda)⟩
  unfold ReturnRight
  rw [hprice]
  exact exists_congr (fun c => and_congr_left (fun _ => hfirst c))

theorem returnsRight_refreshRow (hrecorded : row.Recorded) (hright : ReturnsRight candles row)
    (hspelled : ∀ h, row.horizonAt h ≤ nowUtc → HorizonSpelled candles row h) :
    ReturnsRight candles (refreshRow candles nowUtc clock row) := by
  obtain ⟨-, -, hmarket, hprice, hfilled, hcreated⟩ := refreshRow_frame candles nowUtc clock row
  have hbasis : (refreshRow candles nowUtc clock row).filledBasis = row.filledBasis := by
    unfold TradeOutcome.filledBasis
    rw [hfilled, hcreated]
  intro h value hvalue
  rw [returnsRight_congr hmarket hprice hbasis]
  rw [postFillReturn_refreshRow hrecorded.price] at hvalue
  by_cases hlater : nowUtc < row.horizonAt h
  · rw [if_pos hlater] at hvalue
    exact hright h value hvalue
  · rw [if_neg hlater] at hvalue
    exact horizonReturn_right (hspelled h (not_lt.mp hlater)) hvalue

theorem postFillReturn_recordAgain (old new : TradeOutcome) (h : Horizon) :
    (old.recordAgain new).postFillReturn h = old.postFillReturn h := by
  cases h <;> rfl

theorem returnsRight_step (hrecorded : OutcomesRecorded outcomes)
    (hright : ∀ row ∈ outcomes.rows, ReturnsRight candles row) {call : OutcomeCall}
    (hkeeps : KeepsReturns candles outcomes call) :
    ∀ row ∈ (outcomeStep candles outcomes call).rows, ReturnsRight candles row := by
  intro row hrow
  cases call with
  | record log positionId now =>
    rcases mem_recordFilledOrder hrow with hold | ⟨hrecord, hnew | hagain⟩
    · exact hright row hold.1
    · obtain ⟨id, rfl⟩ := hnew
      intro h value hvalue
      cases h <;> cases hvalue
    · obtain ⟨old, hold, huuid, rfl⟩ := hagain
      intro h value hvalue
      rw [postFillReturn_recordAgain] at hvalue
      rcases hkeeps hrecord old hold huuid with hnone | hsame
      · rw [hnone h] at hvalue
        cases hvalue
      · obtain ⟨hprice, hfilled, hmarket⟩ := hsame
        refine (returnsRight_congr hmarket.symm hprice.symm ?_ h value).mpr
          (hright old hold h value hvalue)
        unfold TradeOutcome.filledBasis
        rw [hfilled]
        rfl
  | refresh orderUuid nowUtc limit clock =>
    have hrow' : row ∈ (refreshPostFill candles outcomes orderUuid nowUtc limit clock).1.rows :=
      hrow
    rw [rows_refreshPostFill hrecorded.unique] at hrow'
    obtain ⟨old, hold, rfl⟩ := List.mem_map.mp hrow'
    split
    · next hloaded =>
        exact returnsRight_refreshRow (hrecorded.recorded old hold) (hright old hold)
          (hkeeps old hloaded)
    · exact hright old hold

theorem returnsRight_run {calls : List OutcomeCall}
    (h : StepsOk (outcomeStep candles) (KeepsReturns candles) Table.empty calls) :
    ∀ row ∈ (outcomesAfter candles calls).rows, ReturnsRight candles row := by
  have hstep : ∀ outcomes call,
      (OutcomesRecorded outcomes ∧ ∀ row ∈ outcomes.rows, ReturnsRight candles row) →
      KeepsReturns candles outcomes call →
      OutcomesRecorded (outcomeStep candles outcomes call)
        ∧ ∀ row ∈ (outcomeStep candles outcomes call).rows, ReturnsRight candles row := by
    intro outcomes call hinv hkeeps
    exact ⟨outcomesRecorded_step hinv.1 call, returnsRight_step hinv.1 hinv.2 hkeeps⟩
  have hempty : OutcomesRecorded Table.empty
      ∧ ∀ row ∈ (Table.empty : Table TradeOutcome).rows, ReturnsRight candles row :=
    ⟨outcomesRecorded_empty, fun _ hrow => absurd hrow List.not_mem_nil⟩
  exact (run_invariant_of_stepsOk hstep hempty h).2

end Right

/-! ## Outcomes that are completed -/

/-- The outcomes after `m` refreshes of the first `limit`, the `k`th at `times k`: what is asked for
as now, and what the clock shows. -/
def outcomesRefreshed (candles : CandleTable) (outcomes : Table TradeOutcome) (limit : ℤ)
    (times : ℕ → UtcTime × UtcTime) : ℕ → Table TradeOutcome
  | 0 => outcomes
  | m + 1 =>
    (refreshPostFill candles (outcomesRefreshed candles outcomes limit times m) none (times m).1
      limit (times m).2).1

def isPriced (candles : CandleTable) (row : TradeOutcome) : Bool :=
  decide (∀ h, (horizonPrice candles row h).isSome)

/-- The outcomes that wait before another one, and for a candle that is not there. -/
def stuckOutcomes (candles : CandleTable) (outcomes : Table TradeOutcome) (row : TradeOutcome) : ℕ :=
  outcomes.rows.countP (fun a =>
    needsPostFill a && !isPriced candles a && decide (a.fillPlace < row.fillPlace))

section Completion

variable {candles : CandleTable} {outcomes : Table TradeOutcome} {nowUtc clock : UtcTime}
  {limit : ℤ} {row : TradeOutcome} {times : ℕ → UtcTime × UtcTime}

theorem TradeOutcome.Recorded.needsPostFill_iff (h : row.Recorded) :
    needsPostFill row = true ↔ ¬ row.Complete := by
  unfold needsPostFill
  rw [Bool.and_eq_true, Bool.and_eq_true, decide_eq_true_iff, decide_eq_true_iff]
  constructor
  · intro hneeds
    exact hneeds.1.2
  · intro hnot
    refine ⟨⟨h.price, hnot⟩, ?_⟩
    cases hstatus : row.outcomeStatus with
    | pendingOutcome => rfl
    | pendingMarketData => rfl
    | pendingRealized => rfl
    | postFillComplete => exact absurd (h.final hstatus) hnot
    | realized => exact absurd hstatus h.status

theorem place_injOn_fill {a b : TradeOutcome} (ha : a ∈ outcomes.rows) (hb : b ∈ outcomes.rows)
    (h : a.fillPlace = b.fillPlace) : a = b :=
  Table.eq_of_rowId_eq ha hb (congrArg (fun p => (ofLex p).2) h)

theorem rows_refresh_batch (hunique : outcomes.UniqueOn TradeOutcome.orderUuid) :
    (refreshPostFill candles outcomes none nowUtc limit clock).1.rows
      = serveRound TradeOutcome.fillPlace needsPostFill (refreshRow candles nowUtc clock)
          (max limit 1).toNat outcomes.rows := by
  have hperm := List.perm_insertionSort TradeOutcome.filledBefore
    (outcomes.rows.filter needsPostFill)
  have htotal : Std.Total TradeOutcome.filledBefore :=
    ⟨fun a b => le_total a.fillPlace b.fillPlace⟩
  have htrans : IsTrans TradeOutcome TradeOutcome.filledBefore :=
    ⟨fun _ _ _ hab hbc => le_trans hab hbc⟩
  have hsorted : ((outcomes.rows.filter needsPostFill).insertionSort
      TradeOutcome.filledBefore).Pairwise (fun a b => a.fillPlace < b.fillPlace) := by
    have hle := List.pairwise_insertionSort TradeOutcome.filledBefore
      (outcomes.rows.filter needsPostFill)
    have hnodup := hperm.nodup_iff.mpr ((List.Nodup.of_map _ outcomes.nodup).filter _)
    refine (hle.and hnodup).imp_of_mem ?_
    intro a b ha hb hboth
    have ha' := (List.mem_filter.mp ((List.mem_insertionSort _).mp ha)).1
    have hb' := (List.mem_filter.mp ((List.mem_insertionSort _).mp hb)).1
    exact lt_of_le_of_ne hboth.1 (fun h => hboth.2 (place_injOn_fill ha' hb' h))
  rw [rows_refreshPostFill hunique]
  unfold serveRound
  refine List.map_congr_left ?_
  intro row hrow
  refine if_congr ?_ rfl rfl
  have hloaded : outcomesToRefresh outcomes none limit
      = loadTradeOutcomesNeedingPostFillUpdates outcomes limit := rfl
  rw [hloaded]
  exact mem_take_pending_iff hperm hsorted hrow

theorem rows_outcomesRefreshed (h : OutcomesRecorded outcomes) (m : ℕ) :
    OutcomesRecorded (outcomesRefreshed candles outcomes limit times m)
      ∧ (outcomesRefreshed candles outcomes limit times m).rows
        = serveRounds TradeOutcome.fillPlace needsPostFill
            (fun k => refreshRow candles (times k).1 (times k).2) (max limit 1).toNat (fun k => k)
            outcomes.rows m := by
  induction m with
  | zero => exact ⟨h, rfl⟩
  | succ m ih =>
    refine ⟨outcomesRecorded_step ih.1 (.refresh none (times m).1 limit (times m).2), ?_⟩
    unfold outcomesRefreshed serveRounds
    rw [rows_refresh_batch ih.1.unique, ih.2]

theorem horizonPrice_refreshRow (candles : CandleTable) (nowUtc clock : UtcTime)
    (row : TradeOutcome) (h : Horizon) :
    horizonPrice candles (refreshRow candles nowUtc clock row) h = horizonPrice candles row h := by
  obtain ⟨-, -, hmarket, -, hfilled, hcreated⟩ := refreshRow_frame candles nowUtc clock row
  unfold horizonPrice TradeOutcome.candleMarket TradeOutcome.horizonAt TradeOutcome.filledBasis
  rw [hmarket, hfilled, hcreated]

theorem complete_refreshRow_iff (h : row.Recorded) (hpassed : ∀ h, row.horizonAt h ≤ nowUtc) :
    (refreshRow candles nowUtc clock row).Complete ↔ isPriced candles row = true := by
  unfold TradeOutcome.Complete isPriced
  rw [decide_eq_true_iff]
  refine forall_congr' (fun horizon => ?_)
  rw [postFillReturn_refreshRow h.price, if_neg (not_lt.mpr (hpassed horizon))]
  unfold horizonReturn
  rw [Option.isSome_map]

theorem horizonAt_le_of_fillPlace {a : TradeOutcome} (ha : a.Recorded) (hrow : row.Recorded)
    (hle : a.fillPlace ≤ row.fillPlace) (h : Horizon) : a.horizonAt h ≤ row.horizonAt h := by
  obtain ⟨filled, hfilled⟩ := Option.isSome_iff_exists.mp ha.filledAt
  obtain ⟨filled', hfilled'⟩ := Option.isSome_iff_exists.mp hrow.filledAt
  have htimes : (filled : WithBot UtcTime) ≤ (filled' : WithBot UtcTime) := by
    have hfst := Prod.Lex.monotone_fst a.fillPlace row.fillPlace hle
    unfold TradeOutcome.fillPlace at hfst
    rw [hfilled, hfilled'] at hfst
    exact hfst
  have hbasis : a.filledBasis ≤ row.filledBasis := by
    unfold TradeOutcome.filledBasis
    rw [hfilled, hfilled']
    exact WithBot.coe_le_coe.mp htimes
  exact Int.add_le_add_right hbasis _

theorem serves_refresh (hrow : row.Recorded) (hpassed : ∀ k h, row.horizonAt h ≤ (times k).1) :
    Serves TradeOutcome.fillPlace needsPostFill
      (fun k => refreshRow candles (times k).1 (times k).2) (isPriced candles)
      TradeOutcome.Recorded row.fillPlace := by
  refine ⟨?_, ?_, ?_, ?_⟩
  · intro k r
    obtain ⟨hid, -, -, -, hfilled, -⟩ := refreshRow_frame candles (times k).1 (times k).2 r
    unfold TradeOutcome.fillPlace
    rw [hid, hfilled]
  · intro k r h
    exact h.refreshRow
  · intro k r
    unfold isPriced
    simp only [horizonPrice_refreshRow]
  · intro k r h hle _
    have hpassed' : ∀ horizon, r.horizonAt horizon ≤ (times k).1 :=
      fun horizon => (horizonAt_le_of_fillPlace h hrow hle horizon).trans (hpassed k horizon)
    have hrefreshed : (refreshRow candles (times k).1 (times k).2 r).Recorded := h.refreshRow
    have hneeds := hrefreshed.needsPostFill_iff
    rw [complete_refreshRow_iff h hpassed'] at hneeds
    rw [Bool.eq_iff_iff, hneeds, Bool.not_eq_true', Bool.not_eq_true]

theorem completed_iff (h : OutcomesRecorded outcomes) (hrow : row ∈ outcomes.rows)
    (hopen : ¬ row.Complete) (hpassed : ∀ k h, row.horizonAt h ≤ (times k).1) :
    (∃ m, ∀ a ∈ (outcomesRefreshed candles outcomes limit times m).rows, a.id = row.id →
        a.Complete)
      ↔ isPriced candles row = true
        ∧ stuckOutcomes candles outcomes row < (max limit 1).toNat := by
  have hrecorded := h.recorded row hrow
  have hserves : Serves TradeOutcome.fillPlace needsPostFill
      (fun k => refreshRow candles (times k).1 (times k).2) (isPriced candles)
      TradeOutcome.Recorded row.fillPlace := serves_refresh hrecorded hpassed
  have hdone : (∃ m, ∀ a ∈ serveRounds TradeOutcome.fillPlace needsPostFill
      (fun k => refreshRow candles (times k).1 (times k).2) (max limit 1).toNat (fun k => k)
      outcomes.rows m, a.fillPlace = row.fillPlace → needsPostFill a = false)
      ↔ isPriced candles row = true
        ∧ stuckOutcomes candles outcomes row < (max limit 1).toNat :=
    done_serveRounds_iff hserves h.recorded hrow rfl (hrecorded.needsPostFill_iff.mpr hopen)
      (fun a ha hplace => place_injOn_fill ha hrow hplace)
  have hstep : ∀ m, (∀ a ∈ (outcomesRefreshed candles outcomes limit times m).rows,
      a.id = row.id → a.Complete)
      ↔ ∀ a ∈ serveRounds TradeOutcome.fillPlace needsPostFill
          (fun k => refreshRow candles (times k).1 (times k).2) (max limit 1).toNat (fun k => k)
          outcomes.rows m, a.fillPlace = row.fillPlace → needsPostFill a = false := by
    intro m
    obtain ⟨hkept, hrows⟩ := @rows_outcomesRefreshed candles outcomes limit times h m
    have hplaces : (serveRounds TradeOutcome.fillPlace needsPostFill
        (fun k => refreshRow candles (times k).1 (times k).2) (max limit 1).toNat (fun k => k)
        outcomes.rows m).map TradeOutcome.fillPlace = outcomes.rows.map TradeOutcome.fillPlace :=
      keys_serveRounds hserves m
    have hplace : ∀ a ∈ (outcomesRefreshed candles outcomes limit times m).rows,
        a.id = row.id ↔ a.fillPlace = row.fillPlace := by
      intro a ha
      constructor
      · intro hid
        rw [hrows] at ha
        have hmem : a.fillPlace ∈ outcomes.rows.map TradeOutcome.fillPlace := by
          rw [← hplaces]
          exact List.mem_map_of_mem ha
        obtain ⟨old, hold, hsame⟩ := List.mem_map.mp hmem
        have hidOld : old.id = row.id := (congrArg (fun p => (ofLex p).2) hsame).trans hid
        rw [← hsame, Table.eq_of_rowId_eq hold hrow hidOld]
      · intro hsame
        exact congrArg (fun p => (ofLex p).2) hsame
    rw [← hrows]
    refine forall₂_congr (fun a ha => ?_)
    rw [hplace a ha, ← Bool.not_eq_true, (hkept.recorded a ha).needsPostFill_iff, not_not]
  rw [exists_congr hstep, hdone]

end Completion

/-- **Post-fill returns of whole runs.** Over any candles, the returns are about the fill that is
stored in every run of calls that keep them so; and an outcome that lacks a return, its horizons
passed, is completed by refreshes of the first `limit` just if a candle is found for each of its
horizons and fewer than `limit` outcomes wait before it for candles that are not there. -/
theorem postFillReturns_iff (candles : CandleTable) (calls : List OutcomeCall) :
    (StepsOk (outcomeStep candles) (KeepsReturns candles) Table.empty calls →
        ∀ row ∈ (outcomesAfter candles calls).rows, ReturnsRight candles row)
      ∧ ∀ row ∈ (outcomesAfter candles calls).rows, ¬ row.Complete →
        ∀ limit (times : ℕ → UtcTime × UtcTime), (∀ k h, row.horizonAt h ≤ (times k).1) →
        ((∃ m, ∀ a ∈ (outcomesRefreshed candles (outcomesAfter candles calls) limit times m).rows,
            a.id = row.id → a.Complete)
          ↔ isPriced candles row = true
            ∧ stuckOutcomes candles (outcomesAfter candles calls) row < (max limit 1).toNat) := by
  refine ⟨returnsRight_run, ?_⟩
  intro row hrow hopen limit times hpassed
  exact completed_iff (outcomesRecorded_after candles calls) hrow hopen hpassed

/-! ## A fill that is followed, and fills that are not -/

/-- A filled order of `amount` KRW for one coin. -/
def fillLog (orderUuid market : String) (amount : ℚ) (filledAt : UtcTime) : LiveOrderLog :=
  { id := 0, requestId := orderUuid, exchange := "bithumb", market := market, side := .buy
    status := .filled, orderUuid := some orderUuid, executedVolume := 1, filledAmountKrw := amount
    updatedAt := filledAt }

def fillCandles : CandleTable :=
  insertCandles ([(60, 101), (180, 102), (300, 103), (900, 104)].map (fun c : UtcTime × ℚ =>
    { market := "KRW-BTC", unit := 1, time := ⟨c.1, true⟩, data := { tradePrice := c.2 } }))
    emptyCandles

theorem fillCandles_spelled (row : TradeOutcome) (h : Horizon) :
    HorizonSpelled fillCandles row h := by
  have hzoned : ∀ c ∈ fillCandles.table.rows, c.time.zoned = true := by decide +kernel
  intro c hc _ _ htime
  have hplain := hzoned c hc
  rw [htime] at hplain
  cases hplain

theorem postFillReturns_followed :
    (∀ row ∈ (outcomesAfter fillCandles [.record (fillLog "fill-1" "KRW-BTC" 100 0) none 0,
        .refresh none 900 200 900]).rows, ReturnsRight fillCandles row)
      ∧ ∃ m, ∀ a ∈ (outcomesRefreshed fillCandles (outcomesAfter fillCandles
        [.record (fillLog "fill-1" "KRW-BTC" 100 0) none 0]) 200 (fun _ => (900, 900)) m).rows,
          a.id = 1 → a.Complete := by
  refine ⟨?_, ?_⟩
  · refine (postFillReturns_iff fillCandles _).1 ⟨?_, ?_, trivial⟩
    · intro _ row hrow
      exact absurd hrow List.not_mem_nil
    · intro row _ h _
      exact fillCandles_spelled row h
  · refine ((postFillReturns_iff fillCandles _).2
      (recordedOutcome (fillLog "fill-1" "KRW-BTC" 100 0) none 0 1) (by decide +kernel)
      (by decide +kernel) 200 (fun _ => (900, 900)) ?_).mpr ⟨by decide +kernel, by decide +kernel⟩
    intro _ h
    cases h <;> decide

/-- A fill of a market without candles, and one behind it. -/
def starvedOutcomes : Table TradeOutcome :=
  outcomesAfter fillCandles [.record (fillLog "fill-1" "KRW-ETH" 100 0) none 0,
    .record (fillLog "fill-2" "KRW-BTC" 100 0) none 0]

def starvedFill : TradeOutcome := recordedOutcome (fillLog "fill-2" "KRW-BTC" 100 0) none 0 2

/-- **A fill that is recorded again keeps the returns of the first fill**, and an outcome behind one
without candles is never completed. -/
theorem returns_stale_and_starved :
    (∃ row ∈ (outcomesAfter fillCandles [.record (fillLog "fill-1" "KRW-BTC" 100 0) none 0,
        .refresh none 900 200 900, .record (fillLog "fill-1" "KRW-BTC" 110 30) none 900,
        .refresh none 2000 200 2000]).rows, ¬ ReturnsRight fillCandles row)
      ∧ starvedFill ∈ starvedOutcomes.rows ∧ isPriced fillCandles starvedFill = true
      ∧ ∀ m, ∃ a ∈ (outcomesRefreshed fillCandles starvedOutcomes 1
          (fun _ => (2000, 2000)) m).rows, a.id = starvedFill.id ∧ ¬ a.Complete := by
  have hstored : starvedFill ∈ starvedOutcomes.rows := by decide +kernel
  refine ⟨?_, hstored, by decide +kernel, ?_⟩
  · obtain ⟨row, hrow, hreturn, hprice, hcandles⟩ : ∃ row ∈ (outcomesAfter fillCandles
        [.record (fillLog "fill-1" "KRW-BTC" 100 0) none 0, .refresh none 900 200 900,
          .record (fillLog "fill-1" "KRW-BTC" 110 30) none 900, .refresh none 2000 200 2000]).rows,
        row.postFillReturn .m1 = some 1 ∧ toFloat row.filledPrice = 110
          ∧ ∀ c ∈ fillCandles.table.rows, tradePct (c.data.tradePrice - 110) 110 ≠ 1 := by
      decide +kernel
    refine ⟨row, hrow, ?_⟩
    intro hright
    obtain ⟨c, hfirst, hvalue⟩ := hright .m1 1 hreturn
    rw [hprice] at hvalue
    exact hcandles c hfirst.stored hvalue.symm
  · have hnever : ¬ ∃ m, ∀ a ∈ (outcomesRefreshed fillCandles starvedOutcomes 1
        (fun _ => (2000, 2000)) m).rows, a.id = starvedFill.id → a.Complete := by
      have hrecorded : OutcomesRecorded starvedOutcomes := outcomesRecorded_after fillCandles _
      have hpassed : ∀ h, starvedFill.horizonAt h ≤ 2000 := by decide
      have hcompleted := @completed_iff fillCandles starvedOutcomes 1 starvedFill
        (fun _ => (2000, 2000)) hrecorded hstored (by decide +kernel) (fun _ => hpassed)
      rw [hcompleted]
      decide +kernel
    intro m
    by_contra hnone
    refine hnever ⟨m, ?_⟩
    intro a ha hid
    by_contra hopen
    exact hnone ⟨a, ha, hid, hopen⟩

end AutoCoinBot
