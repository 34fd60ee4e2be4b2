/-
  PaperTrading.ForwardDrawdown — the drawdowns of a forward session.

  `_persist_state` measures a point from the highest point of the session as it was loaded, and
  writes the larger of the loaded maximum and the fall of this one point.
-/
import AutoCoinBot.PaperTrading.ForwardPaperBroker
import AutoCoinBot.Library.Drawdown

namespace AutoCoinBot

open Library

/-! ## Sessions and ticks -/

/-- `create_forward_session_from_candidate`. -/
def createForwardSession (job : ForwardJob) (initialBalanceKrw currentPrice : ℚ)
    (lastProcessedCandleTimeUtc : Option UtcTime) : ForwardStore where
  session :=
    { job := job
      initialBalanceKrw := initialBalanceKrw
      account := PaperAccount.start initialBalanceKrw
      currentPrice := currentPrice
      unrealizedPnl := 0
      totalEquity := initialBalanceKrw
      totalReturnPercent := 0
      maxDrawdown := 0
      tally := { tradeCount := 0 }
      winRate := 0
      profitFactor := 0
      lastProcessedCandleTimeUtc := lastProcessedCandleTimeUtc }
  orders := []
  equityPoints := []

/-- A call of `process_forward_session`: the clock that stamps the orders, the time, and the
candles that are loaded. -/
structure ForwardCall where
  clock : FrameRow → UtcTime
  now : UtcTime
  candles : Frame

def ForwardStore.process (db : ForwardStore) (call : ForwardCall) : ForwardStore :=
  processForwardSession call.clock call.now db call.candles.rows

def ForwardStore.curve (db : ForwardStore) : List ℚ :=
  (loadForwardSession db).equityPoints.map ForwardEquityPoint.equity

def ForwardStore.drawdowns (db : ForwardStore) : List ℚ :=
  (loadForwardSession db).equityPoints.map ForwardEquityPoint.drawdown

/-- Every point shows its fall from the running peak, and the session the deepest of them. -/
structure ForwardStore.CurveShown (db : ForwardStore) : Prop where
  points : db.drawdowns = falls db.curve
  maximum : db.session.maxDrawdown = deepest (falls db.curve)

/-- The equities at which a broker marks its candles. -/
def ForwardPaperBroker.equities : ForwardPaperBroker → List FrameRow → List ℚ
  | _, [] => []
  | b, row :: rows => (b.after row).account.equity row.close :: (b.after row).equities rows

/-- The candles that are new to a session, and the equities a call marks them at. -/
def ForwardStore.newCandles (db : ForwardStore) (call : ForwardCall) : List FrameRow :=
  call.candles.rows.filter (db.session.isNew call.now)
def ForwardStore.newEquities (db : ForwardStore) (call : ForwardCall) : List ℚ :=
  (ForwardPaperBroker.ofSession (loadForwardSession db)).equities (db.newCandles call)

/-- The loaded peak and the last candle of a call tell all of it: no candle misses a peak of an
earlier candle of the call, and none falls deeper than the last one, or than the curve so far. -/
def ForwardStore.LoadedPeakSuffices (db : ForwardStore) (call : ForwardCall) : Prop :=
  PeaksSeen db.curve [] (db.newEquities call)
    ∧ LastDeepest (deepest (falls db.curve)) (staleFalls db.curve (db.newEquities call))

/-! ## Points in order -/

/-- The points are in the order of their candles, and all of them are processed. -/
structure ForwardStore.InOrder (db : ForwardStore) : Prop where
  sorted : db.equityPoints.Pairwise (fun p q => p.candleTimeUtc < q.candleTimeUtc)
  processed : ∀ p ∈ db.equityPoints, ∃ last,
    db.session.lastProcessedCandleTimeUtc = some last ∧ p.candleTimeUtc ≤ last

section InOrder

variable {db : ForwardStore}

theorem load_of_inOrder (h : db.InOrder) :
    (loadForwardSession db).equityPoints = db.equityPoints :=
  List.Pairwise.insertionSort_eq (h.sorted.imp (fun hlt => le_of_lt hlt))

theorem curve_of_inOrder (h : db.InOrder) :
    db.curve = db.equityPoints.map ForwardEquityPoint.equity := by
  unfold ForwardStore.curve
  rw [load_of_inOrder h]

theorem drawdowns_of_inOrder (h : db.InOrder) :
    db.drawdowns = db.equityPoints.map ForwardEquityPoint.drawdown := by
  unfold ForwardStore.drawdowns
  rw [load_of_inOrder h]

theorem putPoint_of_inOrder (h : db.InOrder) {point : ForwardEquityPoint}
    (hlater : ∀ last, db.session.lastProcessedCandleTimeUtc = some last →
      last < point.candleTimeUtc) :
    (db.putPoint point).equityPoints = db.equityPoints ++ [point] := by
  have hother : ∀ p ∈ db.equityPoints, p.candleTimeUtc < point.candleTimeUtc := by
    intro p hp
    obtain ⟨last, hlast, hle⟩ := h.processed p hp
    exact lt_of_le_of_lt hle (hlater last hlast)
  unfold ForwardStore.putPoint
  dsimp only
  rw [List.filter_eq_self.mpr (fun p hp => decide_eq_true (ne_of_lt (hother p hp)))]

end InOrder

/-! ## A call -/

/-- The broker of a call, with the rows it writes to. -/
abbrev ForwardMark := ForwardPaperBroker × ForwardStore

def ForwardMark.apply (clock : FrameRow → UtcTime) (state : ForwardMark) (row : FrameRow) :
    ForwardMark :=
  state.1.applyCandle state.2 row (clock row)

section Call

variable {clock : FrameRow → UtcTime} {b : ForwardPaperBroker} {db : ForwardStore}
  {row : FrameRow} {rows : List FrameRow}

/-- **What a candle leaves**: a point at the end, measured from the loaded points, and a maximum
of the loaded one and the fall of this candle. -/
theorem forwardMark_apply (h : db.InOrder)
    (hlater : ∀ last, db.session.lastProcessedCandleTimeUtc = some last → last < row.time) :
    let next := (ForwardMark.apply clock (b, db) row)
    let equity := (b.after row).account.equity row.close
    next.1 = b.after row
      ∧ next.2.equityPoints.map ForwardEquityPoint.equity
        = db.equityPoints.map ForwardEquityPoint.equity ++ [equity]
      ∧ next.2.equityPoints.map ForwardEquityPoint.drawdown
        = db.equityPoints.map ForwardEquityPoint.drawdown ++ [b.drawdown equity]
      ∧ next.2.session.maxDrawdown
        = max b.session.session.maxDrawdown |b.drawdown equity|
      ∧ next.2.session.lastProcessedCandleTimeUtc = some row.time
      ∧ next.2.InOrder := by
  have hput : (db.putPoint ((b.after row).point row)).equityPoints
      = db.equityPoints ++ [(b.after row).point row] := putPoint_of_inOrder h hlater
  have hpoints : (ForwardMark.apply clock (b, db) row).2.equityPoints
      = db.equityPoints ++ [(b.after row).point row] := by
    unfold ForwardMark.apply
    rw [forward_applyCandle_eq]
    exact hput
  have hsession : (ForwardMark.apply clock (b, db) row).2.session.lastProcessedCandleTimeUtc
      = some row.time := by
    unfold ForwardMark.apply
    rw [forward_applyCandle_eq]
    rfl
  dsimp only
  refine ⟨?_, ?_, ?_, ?_, hsession, ?_, ?_⟩
  · unfold ForwardMark.apply
    rw [forward_applyCandle_eq]
  · rw [hpoints, List.map_append]
    rfl
  · rw [hpoints, List.map_append]
    rfl
  · unfold ForwardMark.apply
    rw [forward_applyCandle_eq]
    rfl
  · rw [hpoints]
    refine List.pairwise_append.mpr ⟨h.sorted, List.pairwise_singleton _ _, fun p hp q hq => ?_⟩
    obtain ⟨last, hlast, hle⟩ := h.processed p hp
    rw [List.mem_singleton.mp hq]
    exact lt_of_le_of_lt hle (hlater last hlast)
  · rw [hpoints, hsession]
    intro p hp
    refine ⟨row.time, rfl, ?_⟩
    rcases List.mem_append.mp hp with hp | hp
    · obtain ⟨last, hlast, hle⟩ := h.processed p hp
      exact hle.trans (hlater last hlast).le
    · rw [List.mem_singleton.mp hp]
      exact le_refl _

theorem forwardMark_run (h : db.InOrder) (hsorted : rows.Pairwise (fun r s => r.time < s.time))
    (hlater : ∀ row ∈ rows, ∀ last, db.session.lastProcessedCandleTimeUtc = some last →
      last < row.time) :
    let final := (run (ForwardMark.apply clock) (b, db) rows).2
    final.equityPoints.map ForwardEquityPoint.equity
        = db.equityPoints.map ForwardEquityPoint.equity ++ b.equities rows
      ∧ final.equityPoints.map ForwardEquityPoint.drawdown
        = db.equityPoints.map ForwardEquityPoint.drawdown
          ++ (b.equities rows).map b.drawdown
      ∧ (∀ last ∈ ((b.equities rows).map b.drawdown).getLast?,
          final.session.maxDrawdown = max b.session.session.maxDrawdown |last|)
      ∧ final.InOrder := by
  induction rows generalizing b db with
  | nil => exact ⟨by simp [ForwardPaperBroker.equities], by simp [ForwardPaperBroker.equities],
      by simp [ForwardPaperBroker.equities], h⟩
  | cons row rows ih =>
    obtain ⟨hhead, htail⟩ := List.pairwise_cons.mp hsorted
    obtain ⟨hbroker, hequity, hdrawdown, hmaximum, hlast, horder⟩ :=
      @forwardMark_apply clock b db row h (hlater row List.mem_cons_self)
    have hnext : ∀ row' ∈ rows, ∀ last,
        (ForwardMark.apply clock (b, db) row).2.session.lastProcessedCandleTimeUtc = some last →
        last < row'.time := by
      intro row' hrow' last hlast'
      rw [hlast] at hlast'
      rw [← Option.some.inj hlast']
      exact hhead row' hrow'
    obtain ⟨hequities, hdrawdowns, hmax, hfinal⟩ := ih (b := b.after row) horder htail hnext
    have hstate : ForwardMark.apply clock (b, db) row
        = (b.after row, (ForwardMark.apply clock (b, db) row).2) := Prod.ext hbroker rfl
    -- the broker keeps the session it was made from
    have hsame : (b.after row).drawdown = b.drawdown := rfl
    dsimp only
    rw [run_cons, hstate]
    refine ⟨?_, ?_, ?_, hfinal⟩
    · rw [hequities, hequity, List.append_assoc]
      rfl
    · rw [hdrawdowns, hdrawdown, hsame, List.append_assoc]
      rfl
    · intro last hin
      rcases rows with _ | ⟨row', rows⟩
      · obtain rfl : b.drawdown ((b.after row).account.equity row.close) = last := by
          simpa [ForwardPaperBroker.equities] using hin
        exact hmaximum
      · refine hmax last ?_
        rw [hsame]
        simpa [ForwardPaperBroker.equities, List.getLast?_cons_cons] using hin

end Call

section Process

variable {db : ForwardStore} {call : ForwardCall}

theorem equities_eq_nil_iff (b : ForwardPaperBroker) (rows : List FrameRow) :
    b.equities rows = [] ↔ rows = [] := by
  cases rows <;> simp [ForwardPaperBroker.equities]

theorem processForwardSession_curve (h : db.InOrder) (call : ForwardCall) :
    (db.process call).InOrder
      ∧ (db.process call).curve = db.curve ++ db.newEquities call
      ∧ (db.process call).drawdowns
        = db.drawdowns ++ staleFalls db.curve (db.newEquities call)
      ∧ (db.newEquities call = [] → (db.process call).session.maxDrawdown = db.session.maxDrawdown)
      ∧ ∀ last ∈ (staleFalls db.curve (db.newEquities call)).getLast?,
          (db.process call).session.maxDrawdown = max db.session.maxDrawdown |last| := by
  have hprocess : db.process call
      = if (db.newCandles call).isEmpty then { db with session := (loadForwardSession db).noNewCandle }
        else (run (ForwardMark.apply call.clock)
          (ForwardPaperBroker.ofSession (loadForwardSession db), db) (db.newCandles call)).2 := rfl
  by_cases hempty : db.newCandles call = []
  · have hnone : db.newEquities call = [] := (equities_eq_nil_iff _ _).mpr hempty
    have hsame : db.process call = { db with session := (loadForwardSession db).noNewCandle } := by
      rw [hprocess, if_pos (List.isEmpty_iff.mpr hempty)]
    have horder : (db.process call).InOrder := by
      rw [hsame]
      exact ⟨h.sorted, h.processed⟩
    rw [hnone, hsame]
    refine ⟨hsame ▸ horder, ?_, ?_, fun _ => rfl, ?_⟩
    · rw [List.append_nil]
      rfl
    · show _ = _ ++ []
      rw [List.append_nil]
      rfl
    · intro last hlast
      cases hlast
  · have hsome : db.process call = (run (ForwardMark.apply call.clock)
        (ForwardPaperBroker.ofSession (loadForwardSession db), db) (db.newCandles call)).2 := by
      rw [hprocess, if_neg (fun hnil => hempty (List.isEmpty_iff.mp hnil))]
    have hsorted : (db.newCandles call).Pairwise (fun r s => r.time < s.time) :=
      call.candles.sorted.filter _
    have hlater : ∀ row ∈ db.newCandles call, ∀ last,
        db.session.lastProcessedCandleTimeUtc = some last → last < row.time := by
      intro row hrow last hlast
      have hnew := (List.mem_filter.mp hrow).2
      unfold ForwardSession.isNew at hnew
      rw [hlast] at hnew
      simpa using (Bool.and_eq_true_iff.mp hnew).2
    obtain ⟨hcurve, hdrawdowns, hmaximum, horder⟩ :=
      @forwardMark_run call.clock (ForwardPaperBroker.ofSession (loadForwardSession db)) db _ h
        hsorted hlater
    rw [← hsome] at hcurve hdrawdowns hmaximum horder
    refine ⟨horder, ?_, ?_, fun hnil => absurd ((equities_eq_nil_iff _ _).mp hnil) hempty,
      fun last hlast => hmaximum last hlast⟩
    · rw [curve_of_inOrder horder, curve_of_inOrder h, hcurve]
      rfl
    · rw [drawdowns_of_inOrder horder, drawdowns_of_inOrder h, hdrawdowns]
      rfl

theorem curveShown_tick_iff (h : db.InOrder) (hshown : db.CurveShown) (call : ForwardCall) :
    (db.process call).CurveShown ↔ db.LoadedPeakSuffices call := by
  obtain ⟨-, hcurve, hdrawdowns, hsame, hmaximum⟩ := processForwardSession_curve h call
  have hpoints : (db.process call).drawdowns = falls (db.process call).curve
      ↔ PeaksSeen db.curve [] (db.newEquities call) := by
    have hstale := staleFalls_eq_iff db.curve [] (db.newEquities call)
    rw [List.append_nil] at hstale
    rw [hdrawdowns, hcurve, falls_append, hshown.points, List.append_cancel_left_eq, hstale]
  unfold ForwardStore.LoadedPeakSuffices
  rw [← hpoints]
  have hdeepest : (db.process call).drawdowns = falls (db.process call).curve →
      ((db.process call).session.maxDrawdown = deepest (falls (db.process call).curve)
        ↔ LastDeepest (deepest (falls db.curve))
            (staleFalls db.curve (db.newEquities call))) := by
    intro hfalls
    rw [← hfalls, hdrawdowns, hshown.points]
    cases hlast : (staleFalls db.curve (db.newEquities call)).getLast? with
    | none =>
      have hnil : staleFalls db.curve (db.newEquities call) = [] :=
        List.getLast?_eq_none_iff.mp hlast
      have hnone : db.newEquities call = [] := List.map_eq_nil_iff.mp hnil
      rw [hsame hnone, hnil, List.append_nil, hshown.maximum]
      exact iff_of_true rfl (fun _ h => nomatch h)
    | some last =>
      rw [hmaximum last hlast, hshown.maximum]
      exact maxFall_append_eq_iff hlast
  constructor
  · intro hafter
    exact ⟨hafter.points, (hdeepest hafter.points).mp hafter.maximum⟩
  · rintro ⟨hfalls, hlast⟩
    exact ⟨hfalls, (hdeepest hfalls).mpr hlast⟩

end Process

/-! ## A session -/

theorem inOrder_create (job : ForwardJob) (initialBalanceKrw currentPrice : ℚ)
    (lastProcessed : Option UtcTime) :
    (createForwardSession job initialBalanceKrw currentPrice lastProcessed).InOrder :=
  ⟨List.Pairwise.nil, fun _ hp => absurd hp List.not_mem_nil⟩

def flatCandle (time : UtcTime) (price : ℚ) (signal : Signal) : FrameRow :=
  { time := time, openPrice := price, high := price, low := price, close := price
    signal := signal }

/-- Bought at 100, up to 200 and down to 150, all in one call. -/
def riseAndFall : ForwardCall where
  clock := fun _ => 600
  now := 600
  candles :=
    { rows := [flatCandle 60 100 .buy, flatCandle 120 200 .hold, flatCandle 180 150 .hold]
      sorted := by decide }

def wholeBalanceJob : ForwardJob where
  candidateStrategyId := 1
  market := "KRW-BTC"
  unit := 1
  strategy := "sma_cross"
  risk :=
    { maxOrderAmount := some 1000000, maxPositionRatio := some 1, feeRate := some 0
      slippageRate := some 0 }

end AutoCoinBot
