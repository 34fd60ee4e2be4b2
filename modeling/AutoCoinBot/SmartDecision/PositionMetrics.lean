/-
  SmartDecision.PositionMetrics — `_current_bot_position_metrics` of
  app/smart_decision.py, and the trailing stop that it shares with app/live_exit.py.

  Both modules write the highest price and the stop below it. One keeps the percentage of the row,
  the other takes it from the market regime of the call and leaves it on the row.
-/
import AutoCoinBot.LiveExit.CandidateCalls

namespace AutoCoinBot

open Library

/-! ## The metrics of the open positions -/

/-- The settings of the trailing stop; what the environment lacks is `none`. -/
structure TrailingSettings where
  smartTrailingStopPct : Option ℚ := none
  autoTrailingStopPercent : ℚ := 7 / 10

def trailingStopPct (settings : TrailingSettings) (regime : MarketRegime) : ℚ :=
  let default : ℚ := match regime with
    | .breakout => 9 / 10
    | .trendUp => 7 / 10
    | .range => 5 / 10
    | .overheated => 4 / 10
    | .panic | .trendDown | .unknown => 7 / 10
  settings.smartTrailingStopPct.getD default

/-- What the loop works out for a position. -/
structure MeasuredPosition where
  currentPrice : ℚ
  unrealizedPnl : ℚ
  highest : ℚ
  trailingStop : ℚ

def LivePosition.measured (position : LivePosition) (price trailingPct : ℚ) : MeasuredPosition :=
  let currentPrice := if 0 < price then price else position.currentPrice
  let highest := max (max (max (toFloat position.highestPriceSinceEntry) position.entryPrice)
    currentPrice) price
  { currentPrice := currentPrice
    unrealizedPnl :=
      if 0 < position.entryPrice then (currentPrice - position.entryPrice) * position.entryVolume
      else 0
    highest := highest
    trailingStop := if 0 < highest then highest * (1 - trailingPct / 100) else 0 }

def LivePosition.withMeasured (row : LivePosition) (measured : MeasuredPosition)
    (trailingPct : ℚ) (now : UtcTime) : LivePosition :=
  { row with
    currentPrice := measured.currentPrice
    unrealizedPnl := measured.unrealizedPnl
    highestPriceSinceEntry := some measured.highest
    trailingStopPrice := some measured.trailingStop
    trailingStopPct := some trailingPct
    lastTrailingUpdateAt := some now
    updatedAt := now }

theorem LivePosition.rowId_withMeasured (row : LivePosition) (measured : MeasuredPosition)
    (trailingPct : ℚ) (now : UtcTime) :
    Row.rowId (row.withMeasured measured trailingPct now) = Row.rowId row := rfl

/-- The `update_live_position` of the loop. -/
def writeMeasured (db : Database) (position : LivePosition) (price trailingPct : ℚ)
    (now : UtcTime) : Database :=
  let measured := position.measured price trailingPct
  { db with
    livePositions := db.livePositions.modify position.id
      (fun row => row.withMeasured measured trailingPct now)
      (fun row => row.rowId_withMeasured measured trailingPct now) }

/-- What `_current_bot_position_metrics` returns. -/
structure BotPositionMetrics where
  qty : ℚ
  value : ℚ
  pnlPct : ℚ
  highestPriceSinceEntry : Option ℚ
  trailingStopPrice : Option ℚ

def currentBotPositionMetrics (settings : TrailingSettings) (db : Database)
    (exchange market : String) (price : ℚ) (marketRegime : MarketRegime) (now : UtcTime) :
    Database × BotPositionMetrics :=
  let trailingPct := trailingStopPct settings marketRegime
  let positions := loadOpenLivePositions db exchange market
  let measured := positions.map (fun position => position.measured price trailingPct)
  let value := (positions.map (fun position =>
    position.entryVolume * (position.measured price trailingPct).currentPrice)).sum
  let cost := (positions.map LivePosition.entryAmountKrw).sum
  (positions.foldl (fun db position =>
      if position.id ≠ 0 then writeMeasured db position price trailingPct now else db) db,
    { qty := (positions.map LivePosition.entryVolume).sum
      value := value
      pnlPct := if 0 < cost then (value - cost) / cost * 100 else 0
      highestPriceSinceEntry := ((measured.map MeasuredPosition.highest).filter (· ≠ 0)).max?
      trailingStopPrice := ((measured.map MeasuredPosition.trailingStop).filter (· ≠ 0)).max? })

/-! ## The calls, and what one of them writes -/

/-- A call that writes the trailing stop. -/
inductive MetricsCall where
  -- `update_live_position_metrics`, of the position as it is stored
  | update (positionId : ℕ) (currentPrice : ℚ) (status : Option PositionStatus) (now : UtcTime)
  -- `_current_bot_position_metrics`
  | current (exchange market : String) (price : ℚ) (marketRegime : MarketRegime) (now : UtcTime)

namespace MetricsCall

def price : MetricsCall → ℚ
  | .update _ currentPrice _ _ => currentPrice
  | .current _ _ price _ _ => price

variable (settings : TrailingSettings) (call : MetricsCall) (position : LivePosition)

def touches : Bool :=
  match call with
  | .update positionId _ _ _ => positionId == position.id
  | .current exchange market _ _ _ =>
    position.status.isActive && position.exchange == exchange && position.market == market

/-- The percentage of the call: that of the row, or that of the regime. -/
def trailingPct : ℚ :=
  match call with
  | .update _ _ _ _ => orNum (toFloat position.trailingStopPct) settings.autoTrailingStopPercent
  | .current _ _ _ marketRegime _ => trailingStopPct settings marketRegime

/-- The highest price, once the price of the call counts. -/
def highest : ℚ :=
  max (max (toFloat position.highestPriceSinceEntry) position.entryPrice) call.price

/-- The share of the highest price at which the stop stands; `update_live_position_metrics` has no
stop for a percentage that is not positive. -/
def share : ℚ :=
  match call with
  | .update _ _ _ _ =>
    if 0 < call.trailingPct settings position then 1 - call.trailingPct settings position / 100
    else 0
  | .current _ _ _ _ _ => 1 - call.trailingPct settings position / 100

def write : LivePosition :=
  match call with
  | .update _ currentPrice status now =>
    { position with
      currentPrice := currentPrice
      unrealizedPnl := (currentPrice - position.entryPrice) * position.entryVolume
      highestPriceSinceEntry := some (call.highest position)
      trailingStopPrice := some
        (if 0 < call.highest position ∧ 0 < call.trailingPct settings position then
          call.highest position * (1 - call.trailingPct settings position / 100) else 0)
      trailingStopPct := some (call.trailingPct settings position)
      lastTrailingUpdateAt := some now
      status := status.getD position.status
      updatedAt := now }
  | .current _ _ price marketRegime now =>
    let pct := trailingStopPct settings marketRegime
    position.withMeasured (position.measured price pct) pct now

end MetricsCall

def metricsStep (settings : TrailingSettings) (db : Database) : MetricsCall → Database
  | .update positionId currentPrice status now =>
    match loadLivePosition db positionId with
    | none => db
    | some position =>
      updateLivePositionMetrics db position currentPrice status
        settings.autoTrailingStopPercent now
  | .current exchange market price marketRegime now =>
    (currentBotPositionMetrics settings db exchange market price marketRegime now).1

section Step

variable {settings : TrailingSettings} {db : Database} {id : ℕ} {call : MetricsCall}
  {position : LivePosition}

theorem get?_writeMeasured (db : Database) (p : LivePosition) (price trailingPct : ℚ)
    (now : UtcTime) (id : ℕ) :
    ((if p.id ≠ 0 then writeMeasured db p price trailingPct now else db).livePositions).get? id
      = (db.livePositions.get? id).map (fun row =>
          if p.id ≠ 0 ∧ id = p.id then
            row.withMeasured (p.measured price trailingPct) trailingPct now
          else row) := by
  by_cases hzero : p.id ≠ 0
  · rw [if_pos hzero]
    unfold writeMeasured
    dsimp only
    rw [Table.get?_modify]
    simp only [hzero, not_false_eq_true, ne_eq, true_and]
  · rw [if_neg hzero]
    simp [hzero]

theorem loaded_iff {exchange market : String} {price : ℚ} {marketRegime : MarketRegime}
    {now : UtcTime} (h : loadLivePosition db id = some position) :
    (∃ p ∈ loadOpenLivePositions db exchange market, p.id ≠ 0 ∧ id = p.id)
      ↔ (MetricsCall.current exchange market price marketRegime now).touches position = true := by
  have hid : position.id = id := loadLivePosition_id _ _ h
  have hloaded : position ∈ loadOpenLivePositions db exchange market
      ↔ (MetricsCall.current exchange market price marketRegime now).touches position = true := by
    unfold loadOpenLivePositions
    rw [mem_selectActivePositions, hid]
    simp [h, MetricsCall.touches, and_assoc]
  rw [← hloaded]
  constructor
  · rintro ⟨p, hp, -, hkey⟩
    have hp' := (mem_selectActivePositions.mp hp).1
    rw [← hkey, h] at hp'
    exact Option.some.inj hp' ▸ hp
  · intro hp
    exact ⟨position, hp, hid.symm ▸ Nat.pos_iff_ne_zero.mp (Table.get?_pos h), hid.symm⟩

theorem get?_currentBotPositionMetrics {exchange market : String} {price : ℚ}
    {marketRegime : MarketRegime} {now : UtcTime} (h : loadLivePosition db id = some position) :
    loadLivePosition
        (currentBotPositionMetrics settings db exchange market price marketRegime now).1 id
      = some (if (MetricsCall.current exchange market price marketRegime now).touches position then
          (MetricsCall.current exchange market price marketRegime now).write settings position
        else position) := by
  let pct := trailingStopPct settings marketRegime
  have huniq : ∀ p ∈ loadOpenLivePositions db exchange market, p.id ≠ 0 ∧ id = p.id →
      p = position := by
    intro p hp hkey
    have hp' := (mem_selectActivePositions.mp hp).1
    rw [← hkey.2, h] at hp'
    exact (Option.some.inj hp').symm
  have hbatch := get?_foldl Database.livePositions
    (fun d p => get?_writeMeasured d p price pct now id) (loadOpenLivePositions db exchange market) db
  have hrow : db.livePositions.get? id = some position := h
  have honce := foldl_ite_unique (fun p : LivePosition => p.id ≠ 0 ∧ id = p.id)
    (fun p row => row.withMeasured (p.measured price pct) pct now) huniq (fun _ => rfl) position
  rw [hrow, Option.map_some, honce] at hbatch
  exact hbatch.trans (congrArg some (if_congr (loaded_iff h) rfl rfl))

theorem get?_step (h : loadLivePosition db id = some position) :
    loadLivePosition (metricsStep settings db call) id
      = some (if call.touches position then call.write settings position else position) := by
  have hid : position.id = id := loadLivePosition_id _ _ h
  cases call with
  | current exchange market price marketRegime now => exact get?_currentBotPositionMetrics h
  | update positionId currentPrice status now =>
    have htouches : (MetricsCall.update positionId currentPrice status now).touches position
        = decide (positionId = id) := by
      show (positionId == position.id) = _
      rw [hid]
      rfl
    rw [htouches]
    unfold metricsStep
    dsimp only
    by_cases hkey : positionId = id
    · subst hkey
      rw [h, if_pos (decide_eq_true rfl)]
      unfold updateLivePositionMetrics loadLivePosition
      dsimp only
      rw [hid, Table.get?_modify_self, show db.livePositions.get? positionId = some position from h]
      rfl
    · rw [if_neg (by simpa using hkey)]
      cases hother : loadLivePosition db positionId with
      | none => exact h
      | some other =>
        have hid' : other.id = positionId := loadLivePosition_id _ _ hother
        unfold updateLivePositionMetrics loadLivePosition
        dsimp only
        rw [hid', Table.get?_modify_ne _ _ _ (Ne.symm hkey)]
        exact h

theorem write_highest (hprice : 0 < call.price) :
    (call.write settings position).highestPriceSinceEntry = some (call.highest position) := by
  cases call with
  | update positionId currentPrice status now => rfl
  | current exchange market price marketRegime now =>
    have hcurrent : (if 0 < price then price else position.currentPrice) = price := if_pos hprice
    show some (max (max _ (if 0 < price then price else position.currentPrice)) price) = _
    rw [hcurrent, max_eq_left (le_max_right _ price)]
    rfl

theorem highest_pos (hprice : 0 < call.price) : 0 < call.highest position :=
  hprice.trans_le (le_max_right _ _)

theorem write_stop (hprice : 0 < call.price) :
    (call.write settings position).trailingStopPrice
      = some (call.highest position * call.share settings position) := by
  have hpos : 0 < call.highest position := highest_pos hprice
  cases call with
  | update positionId currentPrice status now =>
    unfold MetricsCall.write MetricsCall.share
    dsimp only
    by_cases hpct : 0 < (MetricsCall.update positionId currentPrice status now).trailingPct settings
        position
    · rw [if_pos ⟨hpos, hpct⟩, if_pos hpct]
    · rw [if_neg (fun h => hpct h.2), if_neg hpct, mul_zero]
  | current exchange market price marketRegime now =>
    have hhighest : ((MetricsCall.current exchange market price marketRegime now).write settings
        position).highestPriceSinceEntry = some _ := write_highest hprice
    have hmeasured : (position.measured price (trailingStopPct settings marketRegime)).highest
        = (MetricsCall.current exchange market price marketRegime now).highest position :=
      Option.some.inj hhighest
    show some (if 0 < (position.measured price (trailingStopPct settings marketRegime)).highest then
      (position.measured price (trailingStopPct settings marketRegime)).highest * _ else 0) = _
    rw [hmeasured, if_pos hpos]
    rfl

end Step

/-! ## Runs -/

def storedHighest (id : ℕ) (db : Database) : ℚ :=
  (loadLivePosition db id).elim 0 (fun position => toFloat position.highestPriceSinceEntry)

def storedStop (id : ℕ) (db : Database) : ℚ :=
  (loadLivePosition db id).elim 0 (fun position => toFloat position.trailingStopPrice)

/-- A call that writes the position leaves the stop no lower than it was: the highest price has
risen by what a wider percentage takes. -/
def MetricsCall.KeepsStop (settings : TrailingSettings) (id : ℕ) (db : Database)
    (call : MetricsCall) : Prop :=
  ∀ position ∈ loadLivePosition db id, call.touches position = true →
    toFloat position.trailingStopPrice ≤ call.highest position * call.share settings position

instance (settings : TrailingSettings) (id : ℕ) (db : Database) (call : MetricsCall) :
    Decidable (call.KeepsStop settings id db) :=
  inferInstanceAs (Decidable (∀ position ∈ loadLivePosition db id, _ → _))

section Runs

variable {settings : TrailingSettings} {db : Database} {id : ℕ} {call : MetricsCall}
  {calls : List MetricsCall} {position : LivePosition}

theorem storedHighest_step (hprice : 0 < call.price) (h : loadLivePosition db id = some position) :
    storedHighest id (metricsStep settings db call)
      = if call.touches position then call.highest position
        else toFloat position.highestPriceSinceEntry := by
  unfold storedHighest
  rw [get?_step h]
  cases call.touches position with
  | true => exact congrArg toFloat (write_highest hprice)
  | false => rfl

theorem storedStop_step (hprice : 0 < call.price) (h : loadLivePosition db id = some position) :
    storedStop id (metricsStep settings db call)
      = if call.touches position then call.highest position * call.share settings position
        else toFloat position.trailingStopPrice := by
  unfold storedStop
  rw [get?_step h]
  cases call.touches position with
  | true => exact congrArg toFloat (write_stop hprice)
  | false => rfl

theorem isSome_step (call : MetricsCall) (h : (loadLivePosition db id).isSome = true) :
    (loadLivePosition (metricsStep settings db call) id).isSome = true := by
  obtain ⟨position, hrow⟩ := Option.isSome_iff_exists.mp h
  rw [get?_step hrow]
  rfl

theorem storedHighest_le_step (hprice : 0 < call.price)
    (h : loadLivePosition db id = some position) :
    storedHighest id db ≤ storedHighest id (metricsStep settings db call) := by
  rw [storedHighest_step hprice h]
  unfold storedHighest
  rw [h]
  split
  · exact (le_max_left _ _).trans (le_max_left _ _)
  · exact le_rfl

theorem storedStop_le_step_iff (hprice : 0 < call.price)
    (h : loadLivePosition db id = some position) :
    storedStop id db ≤ storedStop id (metricsStep settings db call)
      ↔ call.KeepsStop settings id db := by
  have hkeeps : call.KeepsStop settings id db
      ↔ (call.touches position = true →
          toFloat position.trailingStopPrice
            ≤ call.highest position * call.share settings position) := by
    constructor
    · intro hcall
      exact hcall position h
    · intro hcall other hother
      exact Option.some.inj (h.symm.trans hother) ▸ hcall
  rw [hkeeps, storedStop_step hprice h]
  unfold storedStop
  rw [h]
  cases call.touches position with
  | true => simp
  | false => simp

theorem share_le_one (hsmart : ∀ pct, settings.smartTrailingStopPct = some pct → 0 ≤ pct) :
    call.share settings position ≤ 1 := by
  cases call with
  | update positionId currentPrice status now =>
    unfold MetricsCall.share
    dsimp only
    split
    · linarith
    · exact zero_le_one
  | current exchange market price marketRegime now =>
    have hpct : 0 ≤ trailingStopPct settings marketRegime := by
      unfold trailingStopPct
      cases hset : settings.smartTrailingStopPct with
      | some pct => exact hsmart pct hset
      | none => cases marketRegime <;> norm_num
    show 1 - trailingStopPct settings marketRegime / 100 ≤ 1
    linarith

theorem stop_le_highest_step
    (hsmart : ∀ pct, settings.smartTrailingStopPct = some pct → 0 ≤ pct) (hprice : 0 < call.price)
    (h : loadLivePosition db id = some position) (hstop : storedStop id db ≤ storedHighest id db) :
    storedStop id (metricsStep settings db call)
      ≤ storedHighest id (metricsStep settings db call) := by
  rw [storedStop_step hprice h, storedHighest_step hprice h]
  split
  · exact mul_le_of_le_one_right (highest_pos hprice).le (share_le_one hsmart)
  · unfold storedStop storedHighest at hstop
    rwa [h] at hstop

theorem storedHighest_rises (h : (loadLivePosition db id).isSome = true)
    (hprices : ∀ call ∈ calls, 0 < call.price) :
    Monotone (fun n => storedHighest id (run (metricsStep settings) db (calls.take n))) := by
  rw [monotone_take_iff]
  have hall : StepsOk (metricsStep settings) (fun _ _ => True) db calls :=
    stepsOk_of_forall (fun _ _ => trivial) db calls
  have hstays : ∀ db, ∀ call ∈ calls, (loadLivePosition db id).isSome = true →
      (loadLivePosition (metricsStep settings db call) id).isSome = true :=
    fun db call _ hrow => isSome_step call hrow
  refine (stepsOk_congr_of_mem hstays ?_ h).mp hall
  intro db call hcall hrow
  obtain ⟨position, hposition⟩ := Option.isSome_iff_exists.mp hrow
  exact iff_of_true trivial (storedHighest_le_step (hprices call hcall) hposition)

theorem stop_le_highest_run
    (hsmart : ∀ pct, settings.smartTrailingStopPct = some pct → 0 ≤ pct)
    (h : (loadLivePosition db id).isSome = true) (hstop : storedStop id db ≤ storedHighest id db)
    (hprices : ∀ call ∈ calls, 0 < call.price) :
    storedStop id (run (metricsStep settings) db calls)
      ≤ storedHighest id (run (metricsStep settings) db calls) := by
  have hkept : ∀ db (call : MetricsCall), 0 < call.price →
      (loadLivePosition db id).isSome = true ∧ storedStop id db ≤ storedHighest id db →
      (loadLivePosition (metricsStep settings db call) id).isSome = true
        ∧ storedStop id (metricsStep settings db call)
          ≤ storedHighest id (metricsStep settings db call) := by
    rintro db call hprice ⟨hrow, hle⟩
    obtain ⟨position, hposition⟩ := Option.isSome_iff_exists.mp hrow
    exact ⟨isSome_step call hrow, stop_le_highest_step hsmart hprice hposition hle⟩
  exact (run_invariant_of_mem hkept ⟨h, hstop⟩ hprices).2

theorem storedStop_rises_iff (h : (loadLivePosition db id).isSome = true)
    (hprices : ∀ call ∈ calls, 0 < call.price) :
    Monotone (fun n => storedStop id (run (metricsStep settings) db (calls.take n)))
      ↔ StepsOk (metricsStep settings) (MetricsCall.KeepsStop settings id) db calls := by
  rw [monotone_take_iff]
  have hstays : ∀ db, ∀ call ∈ calls, (loadLivePosition db id).isSome = true →
      (loadLivePosition (metricsStep settings db call) id).isSome = true :=
    fun db call _ hrow => isSome_step call hrow
  refine stepsOk_congr_of_mem hstays ?_ h
  intro db call hcall hrow
  obtain ⟨position, hposition⟩ := Option.isSome_iff_exists.mp hrow
  exact storedStop_le_step_iff (hprices call hcall) hposition

/-- **When the trailing stop never moves down.** The highest price never does; the stop stays below
it unless a negative percentage is set; and it moves down exactly at a call whose percentage is
wider than the rise of the highest price allows. -/
theorem trailing_stop_rises_iff (h : (loadLivePosition db id).isSome = true)
    (hprices : ∀ call ∈ calls, 0 < call.price) :
    Monotone (fun n => storedHighest id (run (metricsStep settings) db (calls.take n)))
      ∧ ((∀ pct, settings.smartTrailingStopPct = some pct → 0 ≤ pct) →
          storedStop id db ≤ storedHighest id db →
          ∀ n, storedStop id (run (metricsStep settings) db (calls.take n))
            ≤ storedHighest id (run (metricsStep settings) db (calls.take n)))
      ∧ (Monotone (fun n => storedStop id (run (metricsStep settings) db (calls.take n)))
          ↔ StepsOk (metricsStep settings) (MetricsCall.KeepsStop settings id) db calls) := by
  refine ⟨storedHighest_rises h hprices, ?_, storedStop_rises_iff h hprices⟩
  intro hsmart hstop n
  exact stop_le_highest_run hsmart h hstop (fun call hcall => hprices call (List.mem_of_mem_take hcall))

/-! ## One percentage -/

variable {pct : ℚ}

end Runs

/-! ## Two regimes -/

/-- A position bought at 100, with a stop 0.7 % below. -/
def trailedPosition : Database :=
  createLivePosition {}
    (fun id =>
      { id := id, market := "KRW-BTC", entryPrice := 100, entryVolume := 1, entryAmountKrw := 100
        currentPrice := 100, highestPriceSinceEntry := some 100
        trailingStopPrice := some (993 / 10), trailingStopPct := some (7 / 10) }) (fun _ => rfl)

theorem trailing_stop_rises_example :
    Monotone (fun n => storedStop 1 (run (metricsStep {}) trailedPosition
      ([.update 1 110 none 60, .current "bithumb" "KRW-BTC" 120 .breakout 120,
        .update 1 115 none 180].take n))) :=
  ((trailing_stop_rises_iff (by decide +kernel) (by decide +kernel)).2.2).mpr (by decide +kernel)

/-- At one price a breakout lowers the stop of an overheated market from 99.6 to 99.1; a percentage
of -1 puts it above the highest price. -/
theorem stop_moves_down :
    storedStop 1 (run (metricsStep {}) trailedPosition
        [.current "bithumb" "KRW-BTC" 100 .overheated 60]) = 996 / 10
      ∧ storedStop 1 (run (metricsStep {}) trailedPosition
          [.current "bithumb" "KRW-BTC" 100 .overheated 60,
            .current "bithumb" "KRW-BTC" 100 .breakout 120]) = 991 / 10
      ∧ storedStop 1 (run (metricsStep { smartTrailingStopPct := some (-1) }) trailedPosition
          [.current "bithumb" "KRW-BTC" 100 .range 60]) = 101
      ∧ storedHighest 1 (run (metricsStep { smartTrailingStopPct := some (-1) }) trailedPosition
          [.current "bithumb" "KRW-BTC" 100 .range 60]) = 100 := by
  decide +kernel

end AutoCoinBot
