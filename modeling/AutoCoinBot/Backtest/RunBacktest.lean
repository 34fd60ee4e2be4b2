/-
  Backtest.RunBacktest — `run_backtest` of app/backtest.py.

  The simulators read a frame: what `apply_strategy` returns for a candle list, the candles by
  time, each with the signal a strategy gives for it.

  The loop takes one row after the other together with the row that follows it: a signal of
  the one is executed at the open of the other, and then the account is marked at the close
  of the first.
-/
import AutoCoinBot.Database.Values
import AutoCoinBot.Library.Padding
import AutoCoinBot.Library.Rounding
import AutoCoinBot.Library.Run

namespace AutoCoinBot

open Library

/-! ## Frames -/

/-- `str(row.signal)`; a text that is neither BUY nor SELL holds. -/
inductive Signal where
  | buy
  | sell
  | hold
  deriving DecidableEq

/-- A candle with the signal a strategy gives for it. -/
structure FrameRow where
  time : UtcTime
  openPrice : ℚ := 0
  high : ℚ := 0
  low : ℚ := 0
  close : ℚ := 0
  volume : ℚ := 0
  signal : Signal := .hold
  reason : String := ""

/-- A frame: `candles_to_frame` sorts by time, and the candles of a market and a unit are
unique in it. -/
structure Frame where
  rows : List FrameRow
  sorted : rows.Pairwise (fun r s => r.time < s.time)

/-! ## Settings -/

/-- The `risk` argument; a key that is not there is `none`. -/
structure BacktestRisk where
  initialCash : Option ℚ := none
  initialBalanceKrw : Option ℚ := none
  positionSize : Option ℚ := none
  feeRate : Option ℚ := none
  slippageRate : Option ℚ := none

/-- The settings of a run, as they are kept in range. -/
structure BacktestSettings where
  initialCash : ℚ
  positionSize : ℚ
  feeRate : ℚ
  slippageRate : ℚ
  positionSize_nonneg : 0 ≤ positionSize
  positionSize_le_one : positionSize ≤ 1
  feeRate_nonneg : 0 ≤ feeRate
  slippageRate_nonneg : 0 ≤ slippageRate

def BacktestRisk.settings (risk : BacktestRisk) : BacktestSettings where
  initialCash := (risk.initialCash.or risk.initialBalanceKrw).getD 10000000
  positionSize := min (max (risk.positionSize.getD 1) 0) 1
  feeRate := max (risk.feeRate.getD (5 / 10000)) 0
  slippageRate := max (risk.slippageRate.getD 0) 0
  positionSize_nonneg := le_min (le_max_right _ _) zero_le_one
  positionSize_le_one := min_le_right _ _
  feeRate_nonneg := le_max_right _ _
  slippageRate_nonneg := le_max_right _ _

/-! ## The account -/

structure BacktestSignal where
  time : UtcTime
  signal : Signal
  price : ℚ
  reason : String

structure BacktestOrder where
  time : UtcTime
  market : String
  strategy : String
  side : OrderSide
  price : ℚ
  quantity : ℚ
  volume : ℚ
  amountKrw : ℚ
  fee : ℚ
  pnl : Option ℚ
  realizedPnl : Option ℚ
  reason : String
  signalTime : UtcTime

structure EquityPoint where
  time : UtcTime
  equity : ℚ
  cashKrw : ℚ
  btcQuantity : ℚ
  price : ℚ
  drawdown : ℚ
  deriving DecidableEq

/-- The variables of the loop. -/
structure BacktestState where
  cash : ℚ
  quantity : ℚ := 0
  entryPrice : ℚ := 0
  entryTime : Option UtcTime := none
  entryCost : ℚ := 0
  realizedPnlTotal : ℚ := 0
  signals : List BacktestSignal := []
  orders : List BacktestOrder := []
  closedReturns : List ℚ := []
  closedPnls : List ℚ := []
  holdingMinutes : List ℚ := []
  equityCurve : List EquityPoint := []
  peak : ℚ

/-- `_holding_minutes`. -/
def holdingMinutesBetween (start stop : UtcTime) : ℚ := max (((stop - start : ℤ) : ℚ) / 60) 0

/-- What a run is about, apart from its rows. -/
structure BacktestJob where
  strategy : String
  market : String := "KRW-BTC"
  settings : BacktestSettings

section Step

variable (job : BacktestJob)

def BacktestJob.spend (budget : ℚ) : ℚ := max (budget - budget * job.settings.feeRate) 0

/-- The price a buy is executed at, and the price a sell is. -/
def BacktestJob.buyPrice (next : FrameRow) : ℚ := next.openPrice * (1 + job.settings.slippageRate)
def BacktestJob.sellPrice (next : FrameRow) : ℚ := next.openPrice * (1 - job.settings.slippageRate)

def BacktestJob.buyQuantity (cash : ℚ) (next : FrameRow) : ℚ :=
  if 0 < job.buyPrice next then
    job.spend (cash * job.settings.positionSize) / job.buyPrice next
  else 0

/-- `net` of a sell. -/
def BacktestJob.sellNet (quantity : ℚ) (next : FrameRow) : ℚ :=
  let gross := quantity * job.sellPrice next
  max (gross - gross * job.settings.feeRate) 0

def BacktestState.bought (s : BacktestState) (row next : FrameRow) : BacktestState :=
  let budget := s.cash * job.settings.positionSize
  let buyQuantity := job.buyQuantity s.cash next
  { s with
    cash := max (s.cash - budget) 0
    quantity := buyQuantity
    entryPrice := job.buyPrice next
    entryTime := some next.time
    entryCost := budget
    orders := s.orders ++
      [{ time := next.time, market := job.market, strategy := job.strategy, side := .buy
         price := job.buyPrice next, quantity := buyQuantity, volume := buyQuantity
         amountKrw := budget, fee := budget * job.settings.feeRate, pnl := none
         realizedPnl := none, reason := row.reason, signalTime := row.time }] }

def BacktestState.sold (s : BacktestState) (row next : FrameRow) : BacktestState :=
  let gross := s.quantity * job.sellPrice next
  let net := job.sellNet s.quantity next
  let pnl := net - s.entryCost
  { s with
    cash := s.cash + net
    realizedPnlTotal := s.realizedPnlTotal + pnl
    closedPnls := s.closedPnls ++ [pnl]
    closedReturns := if 0 < s.entryCost then s.closedReturns ++ [pnl / s.entryCost] else s.closedReturns
    holdingMinutes :=
      match s.entryTime with
      | none => s.holdingMinutes
      | some start => s.holdingMinutes ++ [holdingMinutesBetween start next.time]
    orders := s.orders ++
      [{ time := next.time, market := job.market, strategy := job.strategy, side := .sell
         price := job.sellPrice next, quantity := s.quantity, volume := s.quantity
         amountKrw := gross, fee := gross * job.settings.feeRate, pnl := some pnl
         realizedPnl := some pnl, reason := row.reason, signalTime := row.time }]
    quantity := 0
    entryPrice := 0
    entryTime := none
    entryCost := 0 }

/-- The trade of a row: its signal, at the open of the next one. -/
def BacktestState.trade (s : BacktestState) (row : FrameRow) : Option FrameRow → BacktestState
  -- the signal of the last row is not executed
  | none => s
  | some next =>
    if row.signal = .buy ∧ s.quantity = 0 ∧ 0 < s.cash then
      let budget := s.cash * job.settings.positionSize
      if budget ≤ s.cash ∧ 0 < job.buyQuantity s.cash next then s.bought job row next else s
    else if row.signal = .sell ∧ 0 < s.quantity then s.sold job row next
    else s

def BacktestState.note (s : BacktestState) (row : FrameRow) : BacktestState :=
  if row.signal = .buy ∨ row.signal = .sell then
    { s with
      signals := s.signals ++
        [{ time := row.time, signal := row.signal, price := row.close, reason := row.reason }] }
  else s

def BacktestState.equityAt (s : BacktestState) (row : FrameRow) : ℚ := s.cash + s.quantity * row.close

def BacktestState.point (s : BacktestState) (row : FrameRow) : EquityPoint :=
  let equity := s.equityAt row
  let peak := max s.peak equity
  { time := row.time
    equity := equity
    cashKrw := s.cash
    btcQuantity := s.quantity
    price := row.close
    drawdown := if peak ≠ 0 then (equity - peak) / peak else 0 }

/-- The account is marked at the close of the row. -/
def BacktestState.mark (s : BacktestState) (row : FrameRow) : BacktestState :=
  { s with
    peak := max s.peak (s.equityAt row)
    equityCurve := s.equityCurve ++ [s.point row] }

def BacktestState.traded (s : BacktestState) (item : FrameRow × Option FrameRow) : BacktestState :=
  (s.note item.1).trade job item.1 item.2

def backtestRow (s : BacktestState) (item : FrameRow × Option FrameRow) : BacktestState :=
  (s.traded job item).mark item.1

def BacktestJob.start : BacktestState :=
  { cash := job.settings.initialCash, peak := job.settings.initialCash }

/-! ## Metrics -/

/-- `round(x, 4)`. -/
def round4 (x : ℚ) : ℚ :=
  let scaled := x * 10000
  let below := ⌊scaled⌋
  let rest := scaled - below
  -- halves go to the even neighbour
  (if rest < 1 / 2 ∨ (rest = 1 / 2 ∧ below % 2 = 0) then below else below + 1 : ℤ) / 10000

theorem round4_eq : round4 = nearestAt ((10000 : ℤ) : ℚ) := by
  funext x
  unfold round4 nearestAt nearestEven
  norm_num

theorem round4_mono : Monotone round4 := by
  rw [round4_eq]
  exact nearestAt_mono (by norm_num)

theorem round4_mem_Icc {x : ℚ} {m n : ℤ} (hx : x ∈ Set.Icc (m : ℚ) n) :
    round4 x ∈ Set.Icc (m : ℚ) n := by
  rw [round4_eq]
  exact nearestAt_mem_Icc (by norm_num) hx

theorem round4_intCast (n : ℤ) : round4 n = n := by
  rw [round4_eq]
  exact nearestAt_intCast (by norm_num) n

/-- `np.mean`, or zero. -/
def meanOr0 (xs : List ℚ) : ℚ := if xs.isEmpty then 0 else xs.sum / xs.length

/-- `metrics`; `math.inf` is the top. -/
structure BacktestMetrics where
  totalReturn : ℚ
  mdd : ℚ
  winRate : ℚ
  tradeCount : ℕ
  averageProfit : ℚ
  averageLoss : ℚ
  profitFactor : WithTop ℚ
  profitLossRatio : WithTop ℚ
  averageHoldingTimeMinutes : ℚ
  lastSignal : Signal
  finalEquity : ℚ
  realizedPnl : ℚ
  score : ℚ

/-- `_score`. -/
def backtestScore (metrics : BacktestMetrics) : ℚ :=
  let tradePenalty : ℚ :=
    if metrics.tradeCount = 0 then 25 else if metrics.tradeCount < 3 then 8 else 0
  round4 (metrics.totalReturn * 100 - metrics.mdd * 60 + metrics.winRate * 20
    + (min metrics.profitFactor 5).untopD 5 * 4 - tradePenalty)

/-- The metrics of the account after the last row. -/
def BacktestState.metrics (s : BacktestState) : BacktestMetrics :=
  let initialCash := job.settings.initialCash
  let finalEquity := (s.equityCurve.getLast?.map EquityPoint.equity).getD 0
  let drawdowns := s.equityCurve.map EquityPoint.drawdown
  let wins := s.closedPnls.filter (fun pnl => 0 < pnl)
  let losses := s.closedPnls.filter (fun pnl => pnl ≤ 0)
  let grossProfit := wins.sum
  let grossLoss := |losses.sum|
  let avgProfit := meanOr0 wins
  let avgLoss := meanOr0 losses
  let metrics : BacktestMetrics :=
    { totalReturn := if 0 < initialCash then (finalEquity - initialCash) / initialCash else 0
      mdd := |drawdowns.min?.getD 0|
      winRate := if s.closedPnls.isEmpty then 0 else (wins.length : ℚ) / s.closedPnls.length
      tradeCount := s.orders.length
      averageProfit := avgProfit
      averageLoss := avgLoss
      profitFactor :=
        if 0 < grossLoss then ((grossProfit / grossLoss : ℚ) : WithTop ℚ)
        else if 0 < grossProfit then ⊤ else 0
      profitLossRatio :=
        if avgLoss ≠ 0 then ((|avgProfit / avgLoss| : ℚ) : WithTop ℚ)
        else if 0 < avgProfit then ⊤ else 0
      averageHoldingTimeMinutes := meanOr0 s.holdingMinutes
      lastSignal := (s.signals.getLast?.map BacktestSignal.signal).getD .hold
      finalEquity := finalEquity
      realizedPnl := s.realizedPnlTotal
      score := 0 }
  { metrics with score := backtestScore metrics }

/-- What `run_backtest` returns, without the frame. -/
structure BacktestResult where
  strategy : String
  risk : BacktestSettings
  metrics : BacktestMetrics
  signals : List BacktestSignal
  orders : List BacktestOrder
  equityCurve : List EquityPoint

def BacktestState.result (s : BacktestState) : BacktestResult :=
  { strategy := job.strategy
    risk := job.settings
    metrics := s.metrics job
    signals := s.signals
    orders := s.orders
    equityCurve := s.equityCurve }

end Step

/-! ## The run -/

def fewCandlesError : String := "백테스트에는 최소 30개 이상의 캔들이 필요합니다."

def BacktestJob.final (job : BacktestJob) (rows : List FrameRow) : BacktestState :=
  run (backtestRow job) job.start (withNext rows)

/-- `run_backtest`, from the frame on. -/
def runBacktest (rows : List FrameRow) (strategy : String) (risk : BacktestRisk)
    (market : String) : Except String BacktestResult :=
  if rows.length < 30 then .error fewCandlesError
  else
    let job : BacktestJob := { strategy := strategy, market := market, settings := risk.settings }
    .ok ((job.final rows).result job)

theorem runBacktest_eq_ok {rows : List FrameRow} (hlong : 30 ≤ rows.length) (strategy : String)
    (risk : BacktestRisk) (market : String) :
    let job : BacktestJob := { strategy := strategy, market := market, settings := risk.settings }
    runBacktest rows strategy risk market = .ok ((job.final rows).result job) :=
  if_neg (Nat.not_lt.mpr hlong)

/-! ## Trades -/

section Trades

variable (job : BacktestJob) (s : BacktestState) (row next : FrameRow)

def BacktestState.Buys : Prop :=
  row.signal = .buy ∧ s.quantity = 0 ∧ 0 < s.cash ∧ 0 < job.buyQuantity s.cash next

def BacktestState.Sells : Prop := row.signal = .sell ∧ 0 < s.quantity

theorem budget_le_cash {cash : ℚ} (hcash : 0 ≤ cash) : cash * job.settings.positionSize ≤ cash :=
  mul_le_of_le_one_right hcash job.settings.positionSize_le_one

theorem trade_of_buys (h : s.Buys job row next) :
    s.trade job row (some next) = s.bought job row next := by
  obtain ⟨hsignal, hflat, hcash, hquantity⟩ := h
  unfold BacktestState.trade
  dsimp only
  rw [if_pos ⟨hsignal, hflat, hcash⟩, if_pos ⟨budget_le_cash job hcash.le, hquantity⟩]

theorem trade_of_sells (h : s.Sells row) : s.trade job row (some next) = s.sold job row next := by
  obtain ⟨hsignal, hquantity⟩ := h
  unfold BacktestState.trade
  dsimp only
  rw [if_neg (fun hbuy => hquantity.ne' hbuy.2.1), if_pos ⟨hsignal, hquantity⟩]

theorem trade_of_idle (hbuys : ¬ s.Buys job row next) (hsells : ¬ s.Sells row) :
    s.trade job row (some next) = s := by
  unfold BacktestState.trade
  dsimp only
  split
  · rename_i hbuy
    exact if_neg (fun h => hbuys ⟨hbuy.1, hbuy.2.1, hbuy.2.2, h.2⟩)
  · exact if_neg hsells

/-- **What a row can do to the account.** -/
theorem trade_cases : s.trade job row (some next) = s
    ∨ (s.Buys job row next ∧ s.trade job row (some next) = s.bought job row next)
    ∨ (s.Sells row ∧ s.trade job row (some next) = s.sold job row next) := by
  by_cases hbuys : s.Buys job row next
  · exact .inr (.inl ⟨hbuys, trade_of_buys job s row next hbuys⟩)
  · by_cases hsells : s.Sells row
    · exact .inr (.inr ⟨hsells, trade_of_sells job s row next hsells⟩)
    · exact .inl (trade_of_idle job s row next hbuys hsells)

theorem equityCurve_traded (item : FrameRow × Option FrameRow) :
    (s.traded job item).equityCurve = s.equityCurve := by
  have hnote : (s.note item.1).equityCurve = s.equityCurve := by
    unfold BacktestState.note
    split <;> rfl
  unfold BacktestState.traded
  rw [← hnote]
  cases item.2 with
  | none => rfl
  | some next =>
    rcases trade_cases job (s.note item.1) item.1 next with heq | ⟨-, heq⟩ | ⟨-, heq⟩ <;>
      rw [heq] <;> rfl

/-- **A round adds one point** to the curve. -/
theorem equityCurve_row (item : FrameRow × Option FrameRow) :
    (backtestRow job s item).equityCurve
      = s.equityCurve ++ [(s.traded job item).point item.1] := by
  rw [← equityCurve_traded job s item]
  rfl

end Trades

end AutoCoinBot
