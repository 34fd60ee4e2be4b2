/-
  Strategies.ApplyStrategy — app/strategies.py and app/profit_strategies.py.

  A strategy marks rows of a frame with BUY or SELL; where both masks are true, the one that is
  written last stands.
-/
import AutoCoinBot.Strategies.Indicators

namespace AutoCoinBot

open Library

/-! ## Masks -/

/-- `a < b`, row by row. -/
def lessThan : Series → Series → List Bool := List.zipWith Number.lt

/-- `a <= b`, row by row. -/
def atMost : Series → Series → List Bool := List.zipWith Number.le

/-- `a & b` -/
def both : List Bool → List Bool → List Bool := List.zipWith (· && ·)

/-- `a | b` -/
def either : List Bool → List Bool → List Bool := List.zipWith (· || ·)

/-- `a < q` -/
def below (q : ℚ) (a : Series) : List Bool := a.map (fun x => x.lt (.num q))

/-- `a <= q` -/
def upTo (q : ℚ) (a : Series) : List Bool := a.map (fun x => x.le (.num q))

/-- `a > q` -/
def above (q : ℚ) (a : Series) : List Bool := a.map (fun x => (Number.num q).lt x)

/-- `a >= q` -/
def atLeast (q : ℚ) (a : Series) : List Bool := a.map (fun x => (Number.num q).le x)

/-- `a * q` -/
def times (q : ℚ) (a : Series) : Series := a.map (fun x => x * .num q)

/-- `out["signal"] = "HOLD"`, `out["reason"] = ""` -/
def holdFrame (df : List Candle) : List FrameRow :=
  df.map (fun c =>
    { time := c.time, openPrice := c.openPrice, high := c.high, low := c.low, close := c.close
      volume := c.volume })

/-- `out.loc[mask, ["signal", "reason"]] = [signal, reason]` -/
def mark (signal : Signal) (reason : String) (mask : List Bool) (out : List FrameRow) :
    List FrameRow :=
  List.zipWith (fun hit r =>
    { r with
      signal := if hit then signal else r.signal
      reason := if hit then reason else r.reason }) mask out

/-! ## app/strategies.py -/

def movingAverageCross (shortWindow longWindow : ℕ) (df : List Candle) : List FrameRow :=
  let close := column Candle.close df
  let shortMa := rollingMean shortWindow close
  let longMa := rollingMean longWindow close
  let prevShort := shifted 1 shortMa
  let prevLong := shifted 1 longMa
  let buy := both (atMost prevShort prevLong) (lessThan longMa shortMa)
  let sell := both (atMost prevLong prevShort) (lessThan shortMa longMa)
  mark .sell "short_ma_cross_down" sell (mark .buy "short_ma_cross_up" buy (holdFrame df))

def rsiStrategy (period : ℕ) (oversold overbought : ℚ) (df : List Candle) : List FrameRow :=
  let rsi := relativeStrengthIndex period (column Candle.close df)
  let prevRsi := shifted 1 rsi
  let buy := both (atLeast oversold prevRsi) (below oversold rsi)
  let sell := both (upTo overbought prevRsi) (above overbought rsi)
  mark .sell "rsi_overbought_cross" sell (mark .buy "rsi_oversold_cross" buy (holdFrame df))

def volatilityBreakout (k : ℚ) (exitWindow : ℕ) (df : List Candle) : List FrameRow :=
  let prevRange := (List.zipWith (· - ·) (shifted 1 (column Candle.high df))
    (shifted 1 (column Candle.low df))).map Number.clipLower
  let target := List.zipWith (· + ·) (column Candle.openPrice df) (times k prevRange)
  let exitMa := rollingMean exitWindow (column Candle.close df)
  let buy := atMost target (column Candle.high df)
  let sell := lessThan (column Candle.close df) exitMa
  mark .sell "close_below_exit_ma" sell (mark .buy "breakout_target_hit" buy (holdFrame df))

/-! ## app/profit_strategies.py -/

/-- The columns of `_with_indicators`. -/
structure Indicators where
  ma20 : Series
  ma60 : Series
  ma20Slope : Series
  rsi14 : Series
  volumeMa20 : Series

def withIndicators (df : List Candle) : Indicators :=
  let close := column Candle.close df
  { ma20 := rollingMean 20 close
    ma60 := rollingMean 60 close
    ma20Slope := times 100 (pctChange 3 (rollingMean 20 close))
    rsi14 := relativeStrengthIndex 14 close
    volumeMa20 := rollingMean 20 (column Candle.volume df) }

/-- `(out["close"] / out["close"].shift(k) - 1) * 100` -/
def recentReturn (k : ℕ) (close : Series) : Series :=
  times 100 (List.zipWith (fun a b => a / b - .num 1) close (shifted k close))

def trendPullback (rsiLow rsiHigh : ℚ) (df : List Candle) : List FrameRow :=
  let out := withIndicators df
  let close := column Candle.close df
  let rsiRebound := both (below rsiLow (shifted 1 out.rsi14))
    (both (atLeast rsiLow out.rsi14) (upTo rsiHigh out.rsi14))
  let trendOk := both (lessThan out.ma60 out.ma20) (above 0 out.ma20Slope)
  let pullbackOk := both (lessThan out.ma60 close) (atMost close (times (101 / 100) out.ma20))
  let volumeOk := atMost out.volumeMa20 (column Candle.volume df)
  let buy := both (both (both trendOk pullbackOk) rsiRebound) volumeOk
  let sell := both (lessThan close out.ma20) (above 65 out.rsi14)
  mark .sell "trend_pullback_exit" sell (mark .buy "trend_pullback_rebound" buy (holdFrame df))

def volumeBreakout (volumeMultiplier maxRecentReturnPct : ℚ) (df : List Candle) :
    List FrameRow :=
  let out := withIndicators df
  let close := column Candle.close df
  let high20 := rollingMax 20 (shifted 1 (column Candle.high df))
  let upperWick := times 100 (List.zipWith (· / ·)
    (column (fun c => c.high - max c.openPrice c.close) df) (close.map Number.replaceZero))
  let breakout := lessThan high20 close
  let volumeOk := atMost (times volumeMultiplier out.volumeMa20) (column Candle.volume df)
  let trendOk := atLeast 0 out.ma20Slope
  let notOverheated := below maxRecentReturnPct (recentReturn 3 close)
  let wickOk := below (3 / 2) upperWick
  let buy := both (both (both (both breakout volumeOk) trendOk) notOverheated) wickOk
  let sell := lessThan close out.ma20
  mark .sell "volume_breakout_exit" sell
    (mark .buy "volume_breakout_confirmed" buy (holdFrame df))

def rangeReversion (rsiThreshold : ℚ) (df : List Candle) : List FrameRow :=
  let out := withIndicators df
  let close := column Candle.close df
  let band := lowerBand 20 close
  let slopeFlat := below (3 / 100) (out.ma20Slope.map Number.abs)
  let reentry := both
    (List.zipWith belowBand (shifted 1 close) (shift 1 none band))
    (List.zipWith notBelowBand close band)
  let rsiOk := both (upTo rsiThreshold (shifted 1 out.rsi14))
    (lessThan (shifted 1 out.rsi14) out.rsi14)
  let volumeOk := atMost (times (1 / 2) out.volumeMa20) (column Candle.volume df)
  let buy := both (both (both slopeFlat reentry) rsiOk) volumeOk
  let sell := either (atMost out.ma20 close) (atLeast 55 out.rsi14)
  mark .sell "range_reversion_exit" sell (mark .buy "range_reversion_reentry" buy (holdFrame df))

def panicBlocker (df : List Candle) : List FrameRow :=
  let close := column Candle.close df
  let range := List.zipWith (· - ·) (rollingMax 12 (column Candle.high df))
    (rollingMin 12 (column Candle.low df))
  let volatility := times 100 (List.zipWith (· / ·) range (close.map Number.replaceZero))
  let panic := both (upTo (-2) (recentReturn 12 close)) (atLeast 2 volatility)
  mark .sell "panic_blocker_risk_off" panic (holdFrame df)

/-! ## `apply_strategy` -/

inductive StrategyName where
  | maCross
  | rsi
  | volatilityBreakout
  | trendPullback
  | volumeBreakout
  | rangeReversion
  | panicBlocker

def StrategyName.ofText (text : String) : Option StrategyName :=
  [("ma_cross", maCross), ("rsi", rsi), ("volatility_breakout", volatilityBreakout),
    ("trend_pullback", trendPullback), ("volume_breakout", volumeBreakout),
    ("range_reversion", rangeReversion), ("panic_blocker", panicBlocker)].lookup text

/-- `settings`, as `int` and `float` read them. -/
structure StrategySettings where
  shortWindow : Option ℤ := none
  longWindow : Option ℤ := none
  rsiPeriod : Option ℤ := none
  period : Option ℤ := none
  buyThreshold : Option ℚ := none
  oversold : Option ℚ := none
  sellThreshold : Option ℚ := none
  overbought : Option ℚ := none
  k : Option ℚ := none
  exitRule : Option ℤ := none
  exitWindow : Option ℤ := none
  rsiLow : Option ℚ := none
  rsiHigh : Option ℚ := none
  volumeMultiplier : Option ℚ := none
  maxRecentReturnPct : Option ℚ := none
  rsiThreshold : Option ℚ := none

/-- What is raised on the way to a signal. -/
inductive StrategyError where
  -- `window must be an integer 0 or greater`
  | negativeWindow
  -- an unsupported strategy
  | unknownStrategy
  -- no row to read
  | noRow
  deriving DecidableEq

/-- The window of `rolling`. -/
def rollingWindow (window : ℤ) : Except StrategyError ℕ :=
  if window < 0 then .error .negativeWindow else .ok window.toNat

namespace StrategySettings

variable (settings : StrategySettings)

def shortWindowOrDefault : ℤ := settings.shortWindow.getD 5
def longWindowOrDefault : ℤ := settings.longWindow.getD 20
def rsiPeriodOrDefault : ℤ := settings.rsiPeriod.getD (settings.period.getD 14)
def exitWindowOrDefault : ℤ := settings.exitRule.getD (settings.exitWindow.getD 10)

end StrategySettings

/-- What `apply_strategy` does to a frame. -/
def strategyRows (settings : StrategySettings) :
    StrategyName → Except StrategyError (List Candle → List FrameRow)
  | .maCross =>
    match rollingWindow settings.shortWindowOrDefault,
      rollingWindow settings.longWindowOrDefault with
    | .ok short, .ok long => .ok (movingAverageCross short long)
    | _, _ => .error .negativeWindow
  | .rsi =>
    match rollingWindow settings.rsiPeriodOrDefault with
    | .ok period => .ok (rsiStrategy period
        (settings.buyThreshold.getD (settings.oversold.getD 30))
        (settings.sellThreshold.getD (settings.overbought.getD 70)))
    | .error exc => .error exc
  | .volatilityBreakout =>
    match rollingWindow settings.exitWindowOrDefault with
    | .ok exitWindow => .ok (volatilityBreakout (settings.k.getD (1 / 2)) exitWindow)
    | .error exc => .error exc
  | .trendPullback => .ok (trendPullback (settings.rsiLow.getD 35) (settings.rsiHigh.getD 45))
  | .volumeBreakout => .ok (volumeBreakout (settings.volumeMultiplier.getD (9 / 5))
      (settings.maxRecentReturnPct.getD 5))
  | .rangeReversion => .ok (rangeReversion (settings.rsiThreshold.getD 30))
  | .panicBlocker => .ok panicBlocker

def applyStrategy (strategy : String) (df : List Candle) (settings : StrategySettings) :
    Except StrategyError (List FrameRow) :=
  match StrategyName.ofText strategy with
  | none => .error .unknownStrategy
  | some name => (strategyRows settings name).map (fun rows => rows df)

/-! ## How far strategies look back -/

/-- The rows before its own that a row of the strategy reads. -/
def StrategyName.rowsBefore (settings : StrategySettings) : StrategyName → ℕ
  | .maCross => max (settings.shortWindowOrDefault.toNat - 1)
      (settings.longWindowOrDefault.toNat - 1) + 1
  | .rsi => settings.rsiPeriodOrDefault.toNat - 1 + 2
  | .volatilityBreakout => max (settings.exitWindowOrDefault.toNat - 1) 1
  | .trendPullback => 59
  | .volumeBreakout => 22
  | .rangeReversion => 22
  | .panicBlocker => 12

section LooksBack

variable {m : ℕ} {settings : StrategySettings}

theorem looksBack_holdFrame : LooksBack m holdFrame :=
  (looksBack_id.map _).mono (Nat.zero_le m)

/-- The rows of a frame, marked as far as their candles and the `m` before them say. -/
structure MarksRows (m : ℕ) (rows : List Candle → List FrameRow) : Prop where
  looksBack : LooksBack m rows
  times : ∀ df, (rows df).map FrameRow.time = df.map Candle.time

theorem marksRows_holdFrame : MarksRows m holdFrame where
  looksBack := looksBack_holdFrame
  times := by
    intro df
    unfold holdFrame
    rw [List.map_map]
    rfl

theorem map_time_mark (signal : Signal) (reason : String) {mask : List Bool}
    {out : List FrameRow} (hlength : mask.length = out.length) :
    (mark signal reason mask out).map FrameRow.time = out.map FrameRow.time := by
  unfold mark
  induction mask generalizing out with
  | nil =>
    cases out with
    | nil => rfl
    | cons r out => cases hlength
  | cons hit mask ih =>
    cases out with
    | nil => cases hlength
    | cons r out =>
      rw [List.zipWith_cons_cons, List.map_cons, List.map_cons, ih (Nat.succ.inj hlength)]

/-- **A mask on marked rows.** -/
theorem MarksRows.mark {rows : List Candle → List FrameRow} (h : MarksRows m rows)
    {mask : List Candle → List Bool} (hmask : LooksBack m mask) (signal : Signal)
    (reason : String) : MarksRows m (fun df => mark signal reason (mask df) (rows df)) where
  looksBack := hmask.zipWith h.looksBack _
  times := by
    intro df
    have hlength : (mask df).length = (rows df).length := by
      rw [hmask.length, h.looksBack.length]
    rw [map_time_mark signal reason hlength, h.times]

theorem marksRows_both {buy sell : List Candle → List Bool} (hbuy : LooksBack m buy)
    (hsell : LooksBack m sell) (buyReason sellReason : String) :
    MarksRows m (fun df => AutoCoinBot.mark .sell sellReason (sell df)
      (AutoCoinBot.mark .buy buyReason (buy df) (holdFrame df))) :=
  (marksRows_holdFrame.mark hbuy .buy buyReason).mark hsell .sell sellReason

theorem looksBack_candles (f : Candle → ℚ) : LooksBack m (column f) :=
  (looksBack_column f).mono (Nat.zero_le m)

theorem marksRows_movingAverageCross (short long : ℕ) :
    MarksRows (max (short - 1) (long - 1) + 1) (movingAverageCross short long) := by
  have hma : ∀ w, w = short ∨ w = long →
      LooksBack (max (short - 1) (long - 1))
        (fun df => rollingMean w (column Candle.close df)) := by
    intro w hw
    refine (looksBack_rollingMean (looksBack_column _) w).mono ?_
    rcases hw with rfl | rfl
    · omega
    · omega
  have hshort := hma short (.inl rfl)
  have hlong := hma long (.inr rfl)
  have hprevShort := looksBack_shifted hshort 1
  have hprevLong := looksBack_shifted hlong 1
  have hshort' := hshort.mono (Nat.le_succ _)
  have hlong' := hlong.mono (Nat.le_succ _)
  exact marksRows_both
    ((hprevShort.zipWith hprevLong _).zipWith (hlong'.zipWith hshort' _) _)
    ((hprevLong.zipWith hprevShort _).zipWith (hshort'.zipWith hlong' _) _) _ _

theorem marksRows_rsiStrategy (period : ℕ) (oversold overbought : ℚ) :
    MarksRows (period - 1 + 2) (rsiStrategy period oversold overbought) := by
  have hrsi : LooksBack (period - 1 + 1)
      (fun df => relativeStrengthIndex period (column Candle.close df)) :=
    (looksBack_relativeStrengthIndex (looksBack_column _) period).mono (by omega)
  have hprev := looksBack_shifted hrsi 1
  have hrsi' := hrsi.mono (Nat.le_succ _)
  exact marksRows_both ((hprev.map _).zipWith (hrsi'.map _) _)
    ((hprev.map _).zipWith (hrsi'.map _) _) _ _

theorem marksRows_volatilityBreakout (k : ℚ) (exitWindow : ℕ) :
    MarksRows (max (exitWindow - 1) 1) (volatilityBreakout k exitWindow) := by
  have hshifted : ∀ f, LooksBack (max (exitWindow - 1) 1) (fun df => shifted 1 (column f df)) :=
    fun f => (looksBack_shifted (looksBack_column f) 1).mono (by omega)
  have htarget := (looksBack_candles Candle.openPrice).zipWith
    ((((hshifted Candle.high).zipWith (hshifted Candle.low) (· - ·)).map Number.clipLower).map
      (fun x => x * Number.num k)) (· + ·)
  have hexit := (looksBack_rollingMean (looksBack_column Candle.close) exitWindow).mono
    (n := max (exitWindow - 1) 1) (by omega)
  exact marksRows_both (htarget.zipWith (looksBack_candles Candle.high) _)
    ((looksBack_candles Candle.close).zipWith hexit _) _ _

/-! The columns of `_with_indicators`. -/

theorem looksBack_ma20 : LooksBack 19 (fun df => (withIndicators df).ma20) :=
  looksBack_rollingMean (looksBack_column _) 20

theorem looksBack_ma60 : LooksBack 59 (fun df => (withIndicators df).ma60) :=
  looksBack_rollingMean (looksBack_column _) 60

theorem looksBack_ma20Slope : LooksBack 22 (fun df => (withIndicators df).ma20Slope) :=
  (looksBack_pctChange looksBack_ma20 3).map _

theorem looksBack_rsi14 : LooksBack 14 (fun df => (withIndicators df).rsi14) :=
  looksBack_relativeStrengthIndex (looksBack_column _) 14

theorem looksBack_volumeMa20 : LooksBack 19 (fun df => (withIndicators df).volumeMa20) :=
  looksBack_rollingMean (looksBack_column _) 20

theorem looksBack_recentReturn (k : ℕ) :
    LooksBack k (fun df => recentReturn k (column Candle.close df)) := by
  have hprev : LooksBack k (fun df => shifted k (column Candle.close df)) :=
    (looksBack_shifted (looksBack_column _) k).mono (by omega)
  exact ((looksBack_candles _).zipWith hprev _).map _

theorem marksRows_trendPullback (rsiLow rsiHigh : ℚ) :
    MarksRows 59 (trendPullback rsiLow rsiHigh) := by
  have hclose : LooksBack 59 (column Candle.close) := looksBack_candles _
  have hvolume : LooksBack 59 (column Candle.volume) := looksBack_candles _
  have hma20 := looksBack_ma20.mono (n := 59) (by decide)
  have hslope := looksBack_ma20Slope.mono (n := 59) (by decide)
  have hrsi := looksBack_rsi14.mono (n := 59) (by decide)
  have hprevRsi := (looksBack_shifted looksBack_rsi14 1).mono (n := 59) (by decide)
  have hvolumeMa20 := looksBack_volumeMa20.mono (n := 59) (by decide)
  have hrebound := (hprevRsi.map (fun x => x.lt (.num rsiLow))).zipWith
    ((hrsi.map (fun x => (Number.num rsiLow).le x)).zipWith
      (hrsi.map (fun x => x.le (.num rsiHigh))) (· && ·)) (· && ·)
  have htrend := (looksBack_ma60.zipWith hma20 Number.lt).zipWith
    (hslope.map (fun x => (Number.num 0).lt x)) (· && ·)
  have hpullback := (looksBack_ma60.zipWith hclose Number.lt).zipWith
    (hclose.zipWith (hma20.map (fun x => x * .num (101 / 100))) Number.le) (· && ·)
  exact marksRows_both (((htrend.zipWith hpullback _).zipWith hrebound _).zipWith
      (hvolumeMa20.zipWith hvolume _) _)
    ((hclose.zipWith hma20 _).zipWith (hrsi.map _) _) _ _

theorem marksRows_volumeBreakout (volumeMultiplier maxRecentReturnPct : ℚ) :
    MarksRows 22 (volumeBreakout volumeMultiplier maxRecentReturnPct) := by
  have hclose : LooksBack 22 (column Candle.close) := looksBack_candles _
  have hvolume : LooksBack 22 (column Candle.volume) := looksBack_candles _
  have hhigh20 : LooksBack 22
      (fun df => rollingMax 20 (shifted 1 (column Candle.high df))) :=
    ((looksBack_rolling 20 _ _).comp (looksBack_shifted (looksBack_column _) 1)).mono (by decide)
  have hma20 := looksBack_ma20.mono (n := 22) (by decide)
  have hvolumeMa20 := looksBack_volumeMa20.mono (n := 22) (by decide)
  have hreturn := (looksBack_recentReturn 3).mono (n := 22) (by decide)
  have hwick := ((looksBack_candles (m := 22) (fun c => c.high - max c.openPrice c.close)).zipWith
    (hclose.map Number.replaceZero) (· / ·)).map (fun x => x * Number.num 100)
  have hbreakout := hhigh20.zipWith hclose Number.lt
  have hvolumeOk := (hvolumeMa20.map (fun x => x * .num volumeMultiplier)).zipWith hvolume Number.le
  have htrend := looksBack_ma20Slope.map (fun x => (Number.num 0).le x)
  exact marksRows_both ((((hbreakout.zipWith hvolumeOk _).zipWith htrend _).zipWith
      (hreturn.map _) _).zipWith (hwick.map _) _)
    (hclose.zipWith hma20 _) _ _

theorem marksRows_rangeReversion (rsiThreshold : ℚ) :
    MarksRows 22 (rangeReversion rsiThreshold) := by
  have hclose : LooksBack 22 (column Candle.close) := looksBack_candles _
  have hvolume : LooksBack 22 (column Candle.volume) := looksBack_candles _
  have hprevClose := (looksBack_shifted (looksBack_column Candle.close) 1).mono
    (n := 22) (by decide)
  have hband : LooksBack 19 (fun df => lowerBand 20 (column Candle.close df)) :=
    ((looksBack_rolling 20 _ _).comp (looksBack_column _)).mono (by decide)
  have hprevBand := ((looksBack_shift 1 none).comp hband).mono (n := 22) (by decide)
  have hma20 := looksBack_ma20.mono (n := 22) (by decide)
  have hrsi := looksBack_rsi14.mono (n := 22) (by decide)
  have hprevRsi := (looksBack_shifted looksBack_rsi14 1).mono (n := 22) (by decide)
  have hvolumeMa20 := looksBack_volumeMa20.mono (n := 22) (by decide)
  have hflat := (looksBack_ma20Slope.map Number.abs).map (fun x => x.lt (.num (3 / 100)))
  have hreentry := (hprevClose.zipWith hprevBand belowBand).zipWith
    (hclose.zipWith (hband.mono (n := 22) (by decide)) notBelowBand) (· && ·)
  have hrsiOk := (hprevRsi.map (fun x => x.le (.num rsiThreshold))).zipWith
    (hprevRsi.zipWith hrsi Number.lt) (· && ·)
  have hvolumeOk := (hvolumeMa20.map (fun x => x * .num (1 / 2))).zipWith hvolume Number.le
  exact marksRows_both (((hflat.zipWith hreentry _).zipWith hrsiOk _).zipWith hvolumeOk _)
    ((hma20.zipWith hclose _).zipWith (hrsi.map _) _) _ _

theorem marksRows_panicBlocker : MarksRows 12 panicBlocker := by
  have hclose : LooksBack 12 (column Candle.close) := looksBack_candles _
  have hmax : LooksBack 12 (fun df => rollingMax 12 (column Candle.high df)) :=
    ((looksBack_rolling 12 _ _).comp (looksBack_column _)).mono (by decide)
  have hmin : LooksBack 12 (fun df => rollingMin 12 (column Candle.low df)) :=
    ((looksBack_rolling 12 _ _).comp (looksBack_column _)).mono (by decide)
  have hvolatility := ((hmax.zipWith hmin (· - ·)).zipWith (hclose.map Number.replaceZero)
    (· / ·)).map (fun x => x * Number.num 100)
  exact marksRows_holdFrame.mark
    (((looksBack_recentReturn 12).map _).zipWith (hvolatility.map _) _) _ _

theorem rollingWindow_eq_ok {window : ℤ} {w : ℕ} (h : rollingWindow window = .ok w) :
    w = window.toNat := by
  unfold rollingWindow at h
  split at h
  · cases h
  · exact (Except.ok.inj h).symm

theorem marksRows_strategyRows {name : StrategyName} {rows : List Candle → List FrameRow}
    (h : strategyRows settings name = .ok rows) : MarksRows (name.rowsBefore settings) rows := by
  cases name with
  | maCross =>
    unfold strategyRows at h
    dsimp only at h
    split at h
    case h_1 short long hshort hlong =>
      rw [← Except.ok.inj h, rollingWindow_eq_ok hshort, rollingWindow_eq_ok hlong]
      exact marksRows_movingAverageCross _ _
    case h_2 => cases h
  | rsi =>
    unfold strategyRows at h
    dsimp only at h
    split at h
    case h_1 period hperiod =>
      rw [← Except.ok.inj h, rollingWindow_eq_ok hperiod]
      exact marksRows_rsiStrategy _ _ _
    case h_2 => cases h
  | volatilityBreakout =>
    unfold strategyRows at h
    dsimp only at h
    split at h
    case h_1 exitWindow hexit =>
      rw [← Except.ok.inj h, rollingWindow_eq_ok hexit]
      exact marksRows_volatilityBreakout _ _
    case h_2 => cases h
  | trendPullback =>
    rw [← Except.ok.inj h]
    exact marksRows_trendPullback _ _
  | volumeBreakout =>
    rw [← Except.ok.inj h]
    exact marksRows_volumeBreakout _ _
  | rangeReversion =>
    rw [← Except.ok.inj h]
    exact marksRows_rangeReversion _
  | panicBlocker =>
    rw [← Except.ok.inj h]
    exact marksRows_panicBlocker

/-- The rows before its own that a row of `apply_strategy` reads. -/
def rowsBefore (strategy : String) (settings : StrategySettings) : ℕ :=
  (StrategyName.ofText strategy).elim 0 (fun name => name.rowsBefore settings)

/-- **`apply_strategy` raises whatever the frame, or marks the rows of any.** -/
theorem applyStrategy_cases (strategy : String) (settings : StrategySettings) :
    (∃ exc, ∀ df, applyStrategy strategy df settings = .error exc)
      ∨ ∃ rows, MarksRows (rowsBefore strategy settings) rows
          ∧ ∀ df, applyStrategy strategy df settings = .ok (rows df) := by
  unfold applyStrategy rowsBefore
  cases StrategyName.ofText strategy with
  | none => exact .inl ⟨.unknownStrategy, fun _ => rfl⟩
  | some name =>
    cases hrows : strategyRows settings name with
    | error exc =>
      refine .inl ⟨exc, fun _ => ?_⟩
      dsimp only
      rw [hrows]
      rfl
    | ok rows =>
      refine .inr ⟨rows, marksRows_strategyRows hrows, fun _ => ?_⟩
      dsimp only
      rw [hrows]
      rfl

end LooksBack

end AutoCoinBot
