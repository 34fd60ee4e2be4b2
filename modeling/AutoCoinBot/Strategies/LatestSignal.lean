/-
  Strategies.LatestSignal — the signal a live session follows, and the one that a
  backtest gives for the same candle.

  A live session loads the newest 300 candles, and reads the signal off the last row of those up to
  the newest that is closed. A backtest reads it off the whole history.
-/
import AutoCoinBot.Strategies.ApplyStrategy

namespace AutoCoinBot

open Library

/-! ## Signals -/

/-- The candles of a market and a unit. -/
structure CandleHistory where
  candles : List Candle
  sorted : candles.Pairwise (fun a b => a.time < b.time)

def loadCandles (history : CandleHistory) (limit : ℕ) : List Candle :=
  (history.candles.reverse.take limit).reverse

def candlesToFrame (candles : List Candle) : List Candle :=
  candles.insertionSort (fun a b => a.time ≤ b.time)

/-- `_is_completed_candle`; `now` is taken to the minute. -/
def isCompletedCandle (now : UtcTime) (unit : ℕ) (candle : Candle) : Bool :=
  decide (candle.time + unit * 60 ≤ now - now % 60)

def latestCompletedCandle (now : UtcTime) (unit : ℕ) (candles : List Candle) : Option Candle :=
  (candles.filter (isCompletedCandle now unit)).getLast?

/-- What `_latest_signal` returns. -/
structure LatestSignal where
  signal : Signal
  reason : String
  price : ℚ
  deriving DecidableEq

def FrameRow.latestSignal (row : FrameRow) : LatestSignal := ⟨row.signal, row.reason, row.close⟩

/-- The signal of the row that is read, if there is one. -/
def signalOf (rows : Except StrategyError (List FrameRow))
    (read : List FrameRow → Option FrameRow) : Except StrategyError LatestSignal :=
  match rows with
  | .error exc => .error exc
  | .ok rows => (read rows).elim (.error .noRow) (fun row => .ok row.latestSignal)

/-- `context` -/
def contextUntil (candles : List Candle) (candleTime : UtcTime) : List Candle :=
  candles.filter (fun candle => decide (candle.time ≤ candleTime))

def latestSignal (strategy : String) (settings : StrategySettings) (candles : List Candle)
    (candleTime : UtcTime) : Except StrategyError LatestSignal :=
  signalOf (applyStrategy strategy (candlesToFrame (contextUntil candles candleTime)) settings)
    List.getLast?

/-- The signal that `apply_strategy` gives for a candle of a history. -/
def backtestSignal (strategy : String) (settings : StrategySettings) (history : CandleHistory)
    (candleTime : UtcTime) : Except StrategyError LatestSignal :=
  signalOf (applyStrategy strategy (candlesToFrame history.candles) settings)
    (fun rows => rows.find? (fun row => row.time == candleTime))

/-! ## Later candles -/

section Agreement

variable {strategy : String} {settings : StrategySettings}

theorem candlesToFrame_eq {candles : List Candle}
    (hsorted : candles.Pairwise (fun a b => a.time < b.time)) : candlesToFrame candles = candles :=
  List.Pairwise.insertionSort_eq (hsorted.imp (fun h => h.le))

theorem applyStrategy_append (earlier later : List Candle) :
    (applyStrategy strategy (earlier ++ later) settings).map (fun rows => rows.take earlier.length)
      = applyStrategy strategy earlier settings := by
  rcases applyStrategy_cases strategy settings with ⟨exc, hraises⟩ | ⟨rows, hrows, heq⟩
  · rw [hraises, hraises]
    rfl
  · rw [heq, heq]
    show Except.ok ((rows (earlier ++ later)).take earlier.length) = _
    rw [hrows.looksBack.take_append]

/-! ## The newest candles -/

theorem loadCandles_eq (history : CandleHistory) (limit : ℕ) :
    loadCandles history limit = history.candles.drop (history.candles.length - limit) := by
  unfold loadCandles
  rw [List.take_reverse, List.reverse_reverse]

theorem contextUntil_append {before after : List Candle} {candle : Candle}
    (hsorted : (before ++ candle :: after).Pairwise (fun a b => a.time < b.time)) :
    contextUntil (before ++ candle :: after) candle.time = before ++ [candle] := by
  obtain ⟨-, htail, hbefore⟩ := List.pairwise_append.mp hsorted
  unfold contextUntil
  rw [List.filter_append, List.filter_cons, if_pos (decide_eq_true (le_refl _)),
    List.filter_eq_self.mpr, List.filter_eq_nil_iff.mpr]
  · intro c hc
    have hlater : candle.time < c.time := (List.pairwise_cons.mp htail).1 c hc
    rw [decide_eq_true_iff]
    exact hlater.not_ge
  · intro c hc
    exact decide_eq_true (hbefore c hc candle List.mem_cons_self).le

theorem find?_time {rows : List FrameRow} (hnodup : (rows.map FrameRow.time).Nodup)
    {row : FrameRow} (hrow : row ∈ rows) : rows.find? (fun r => r.time == row.time) = some row := by
  cases hfound : rows.find? (fun r => r.time == row.time) with
  | none =>
    have hnone := List.find?_eq_none.mp hfound row hrow
    exact absurd (beq_self_eq_true row.time) hnone
  | some r =>
    have htime : r.time = row.time := by
      have hsome := List.find?_some hfound
      exact beq_iff_eq.mp hsome
    rw [List.inj_on_of_nodup_map hnodup (List.mem_of_find?_eq_some hfound) hrow htime]

/-- The candles that were loaded reach as far back as the strategy looks, or are all there are. -/
def ReachesBack (strategy : String) (settings : StrategySettings) (history : CandleHistory)
    (candleTime : UtcTime) : Prop :=
  rowsBefore strategy settings < (contextUntil (loadCandles history 300) candleTime).length
    ∨ history.candles.length ≤ 300

instance (history : CandleHistory) (candleTime : UtcTime) :
    Decidable (ReachesBack strategy settings history candleTime) :=
  inferInstanceAs (Decidable (_ ∨ _))

theorem MarksRows.lastRow_eq {m : ℕ} {rows : List Candle → List FrameRow} (h : MarksRows m rows)
    {upTo after : List Candle} {latest : Candle} {k : ℕ}
    (hsorted : (upTo ++ after).Pairwise (fun a b => a.time < b.time))
    (hlatest : upTo.getLast? = some latest) (hback : k + m < upTo.length ∨ k = 0) :
    (rows (upTo.drop k)).getLast?
      = (rows (upTo ++ after)).find? (fun row => row.time == latest.time) := by
  have hcut : (rows (upTo.drop k)).getLast? = (rows upTo).getLast? := by
    rcases hback with hlong | rfl
    · exact h.looksBack.getLast?_drop hlong
    · rw [List.drop_zero]
  have htime : (rows upTo).getLast?.map FrameRow.time = some latest.time := by
    rw [← List.getLast?_map, h.times, List.getLast?_map, hlatest]
    rfl
  obtain ⟨row, hrow, hrow_time⟩ := Option.map_eq_some_iff.mp htime
  have hmem : row ∈ rows (upTo ++ after) := by
    refine List.mem_of_mem_take (i := upTo.length) ?_
    rw [h.looksBack.take_append]
    exact List.mem_of_getLast? hrow
  have hnodup : ((rows (upTo ++ after)).map FrameRow.time).Nodup := by
    rw [h.times]
    exact List.pairwise_map.mpr (hsorted.imp (fun hlt => hlt.ne))
  rw [hcut, hrow, ← hrow_time, find?_time hnodup hmem]

theorem context_loadCandles {history : CandleHistory} {latest : Candle}
    (hlatest : latest ∈ loadCandles history 300) :
    ∃ upTo after, history.candles = upTo ++ after ∧ upTo.getLast? = some latest
      ∧ contextUntil (loadCandles history 300) latest.time
        = upTo.drop (history.candles.length - 300) := by
  obtain ⟨k, hk⟩ : ∃ k, history.candles.length - 300 = k := ⟨_, rfl⟩
  rw [loadCandles_eq, hk] at hlatest ⊢
  obtain ⟨before, after, hsplit⟩ := List.append_of_mem hlatest
  have htake : (history.candles.take k).length = k := by
    rw [List.length_take, min_eq_left (by omega)]
  refine ⟨history.candles.take k ++ (before ++ [latest]), after, ?_, ?_, ?_⟩
  · rw [List.append_assoc, List.append_assoc, List.singleton_append, ← hsplit,
      List.take_append_drop]
  · rw [← List.append_assoc, List.getLast?_concat]
  · have hsorted : (before ++ latest :: after).Pairwise (fun a b => a.time < b.time) := by
      rw [← hsplit]
      exact history.sorted.drop
    rw [hsplit, contextUntil_append hsorted, List.drop_left' htake]

theorem latestSignal_eq_backtestSignal {history : CandleHistory} {latest : Candle}
    (hlatest : latest ∈ loadCandles history 300)
    (hback : ReachesBack strategy settings history latest.time) :
    latestSignal strategy settings (loadCandles history 300) latest.time
      = backtestSignal strategy settings history latest.time := by
  unfold latestSignal backtestSignal signalOf
  rcases applyStrategy_cases strategy settings with ⟨exc, hraises⟩ | ⟨rows, hrows, heq⟩
  · rw [hraises, hraises]
  · obtain ⟨upTo, after, hcandles, hlast, hcontext⟩ := context_loadCandles hlatest
    have hsorted := history.sorted
    rw [hcandles] at hsorted
    have hcontext_sorted : (upTo.drop (history.candles.length - 300)).Pairwise
        (fun a b => a.time < b.time) := ((List.pairwise_append.mp hsorted).1).drop
    have hlong : history.candles.length - 300 + rowsBefore strategy settings < upTo.length
        ∨ history.candles.length - 300 = 0 := by
      unfold ReachesBack at hback
      rw [hcontext, List.length_drop] at hback
      omega
    rw [heq, heq, hcontext, candlesToFrame_eq hcontext_sorted, candlesToFrame_eq history.sorted]
    dsimp only
    rw [hrows.lastRow_eq hsorted hlast hlong, ← hcandles]

/-! ## Live and backtest signals -/

/-- **Live and backtest signals agree**: later candles change no earlier row, and the newest
closed candle has the signal in the history that a session reads off the newest 300 candles, if
these reach as far back as the strategy looks. -/
theorem live_and_backtest_signals_agree (strategy : String) (settings : StrategySettings)
    (history : CandleHistory) :
    (∀ later : List Candle, (history.candles ++ later).Pairwise (fun a b => a.time < b.time) →
      (applyStrategy strategy (candlesToFrame (history.candles ++ later)) settings).map
          (fun rows => rows.take history.candles.length)
        = applyStrategy strategy (candlesToFrame history.candles) settings)
    ∧ ∀ now unit latest,
        latestCompletedCandle now unit (loadCandles history 300) = some latest →
        ReachesBack strategy settings history latest.time →
        latestSignal strategy settings (loadCandles history 300) latest.time
          = backtestSignal strategy settings history latest.time := by
  refine ⟨fun later hsorted => ?_, fun now unit latest hlatest hback => ?_⟩
  · rw [candlesToFrame_eq hsorted, candlesToFrame_eq history.sorted]
    exact applyStrategy_append history.candles later
  · have hmem : latest ∈ loadCandles history 300 :=
      List.mem_of_mem_filter (List.mem_of_getLast? hlatest)
    exact latestSignal_eq_backtestSignal hmem hback

end Agreement

/-! A price that stays the same for long, and falls in the last candle. -/

def exampleFallingCandle (minute : ℕ) : Candle where
  time := minute * 60
  openPrice := 100
  high := if minute < 301 then 100 else 99
  low := if minute < 301 then 100 else 90
  close := if minute < 301 then 100 else 90
  volume := 1

def exampleFallingHistory (minutes : ℕ) : CandleHistory where
  candles := (List.range minutes).map exampleFallingCandle
  sorted := by
    refine List.pairwise_map.mpr (List.pairwise_lt_range.imp (fun {a b} hlt => ?_))
    show (a : ℤ) * 60 < b * 60
    omega

theorem exit_window_of_300_agrees :
    let settings : StrategySettings := { exitWindow := some 300 }
    let history := exampleFallingHistory 302
    (applyStrategy "volatility_breakout"
          (candlesToFrame (history.candles ++ [exampleFallingCandle 302])) settings).map
        (fun rows => rows.take history.candles.length)
      = applyStrategy "volatility_breakout" (candlesToFrame history.candles) settings
    ∧ latestSignal "volatility_breakout" settings (loadCandles history 300) (301 * 60)
      = backtestSignal "volatility_breakout" settings history (301 * 60) := by
  intro settings history
  have h := live_and_backtest_signals_agree "volatility_breakout" settings history
  have hnext : (exampleFallingHistory 303).candles
      = history.candles ++ [exampleFallingCandle 302] := by
    show (List.range (302 + 1)).map exampleFallingCandle = _
    rw [List.range_succ, List.map_append]
    rfl
  have hsorted := (exampleFallingHistory 303).sorted
  rw [hnext] at hsorted
  exact ⟨h.1 [exampleFallingCandle 302] hsorted,
    h.2 (302 * 60) 1 (exampleFallingCandle 301) (by decide +kernel) (by decide +kernel)⟩

/-- **A longer exit window is ignored by a live session**: the backtest sells, the session holds. -/
theorem long_exit_window_ignored :
    let settings : StrategySettings := { exitWindow := some 301 }
    let history := exampleFallingHistory 302
    latestCompletedCandle (302 * 60) 1 (loadCandles history 300) = some (exampleFallingCandle 301)
      ∧ latestSignal "volatility_breakout" settings (loadCandles history 300) (301 * 60)
        = .ok ⟨.hold, "", 90⟩
      ∧ backtestSignal "volatility_breakout" settings history (301 * 60)
        = .ok ⟨.sell, "close_below_exit_ma", 90⟩
      ∧ latestSignal "volatility_breakout" settings (loadCandles history 300) (301 * 60)
        ≠ backtestSignal "volatility_breakout" settings history (301 * 60) := by
  intro settings history
  have hlive : latestSignal "volatility_breakout" settings (loadCandles history 300) (301 * 60)
      = .ok ⟨.hold, "", 90⟩ := by decide +kernel
  have hbacktest : backtestSignal "volatility_breakout" settings history (301 * 60)
      = .ok ⟨.sell, "close_below_exit_ma", 90⟩ := by decide +kernel
  refine ⟨by decide +kernel, hlive, hbacktest, ?_⟩
  rw [hlive, hbacktest]
  decide

end AutoCoinBot
