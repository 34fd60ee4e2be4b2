/-
  PaperTrading.RunPaperTrading — `run_paper_trading` of app/paper_trading.py.

  The batch simulator runs over a whole frame. It remembers the sells as a counter and the
  days as the equity before the first candle of each.
-/
import AutoCoinBot.PaperTrading.PaperBroker

namespace AutoCoinBot

open Library

/-! ## The records -/

structure PaperTradingOrder where
  time : UtcTime
  market : String
  side : OrderSide
  strategy : String
  signalPrice : ℚ
  executionPrice : ℚ
  quantity : ℚ
  fee : ℚ
  realizedPnl : Option ℚ
  reason : String

structure PaperTradingSignal where
  time : UtcTime
  signal : Signal
  price : ℚ
  reason : String

/-- A blocked signal; only buys are blocked. -/
structure BlockedSignal where
  time : UtcTime
  signal : Signal
  price : ℚ
  reason : BuyBlock

structure PaperTradingPoint where
  time : UtcTime
  equity : ℚ
  cashKrw : ℚ
  btcQuantity : ℚ
  price : ℚ
  unrealizedPnl : ℚ

/-- The variables of the loop; `dayStartEquity` is a dictionary by day. -/
structure PaperTradingState where
  account : PaperAccount
  consecutiveLosses : ℕ := 0
  dayStartEquity : List (ℤ × ℚ) := []
  orders : List PaperTradingOrder := []
  blockedSignals : List BlockedSignal := []
  signals : List PaperTradingSignal := []
  equityCurve : List PaperTradingPoint := []

/-- A stored order, as this simulator writes it. -/
def PaperOrder.withoutAmount (o : PaperOrder) : PaperTradingOrder where
  time := o.orderTime
  market := o.market
  side := o.side
  strategy := o.strategy
  signalPrice := o.signalPrice
  executionPrice := o.executionPrice
  quantity := o.quantity
  fee := o.fee
  realizedPnl := o.realizedPnl
  reason := o.reason

/-! ## The loop -/

section Row

variable (job : PaperJob) (s : PaperTradingState) (row : FrameRow)

/-- `day_start_equity.setdefault`. -/
def PaperTradingState.withDay : PaperTradingState :=
  if (s.dayStartEquity.lookup (kstDateKey row.time)).isSome then s
  else
    { s with
      dayStartEquity :=
        s.dayStartEquity ++ [(kstDateKey row.time, s.account.equity row.close)] }

/-- `day_start_equity[date_key]`, after the default is set. -/
def PaperTradingState.dayStart : ℚ :=
  (s.dayStartEquity.lookup (kstDateKey row.time)).getD (s.account.equity row.close)

/-- `block_reason`. -/
def PaperTradingState.block : Option BuyBlock :=
  s.account.buyBlock job.settings row (s.dayStart row) s.consecutiveLosses

def PaperTradingState.note : PaperTradingState :=
  if row.signal = .buy ∨ row.signal = .sell then
    { s with
      signals := s.signals ++
        [{ time := row.time, signal := row.signal, price := row.close, reason := row.reason }] }
  else s

/-- A buy that is blocked, and one that is not. -/
def PaperTradingState.buy : PaperTradingState :=
  match s.block job row with
  | some reason =>
    { s with
      blockedSignals := s.blockedSignals ++
        [{ time := row.time, signal := row.signal, price := row.close, reason := reason }] }
  | none =>
    { s with
      account := s.account.bought job.settings row.close
      orders := s.orders ++ [(job.buyOrder s.account row).withoutAmount] }

def PaperTradingState.sell : PaperTradingState :=
  if 0 < s.account.positionVolume then
    { s with
      account := s.account.sold job.settings row.close
      consecutiveLosses :=
        if s.account.sellPnl job.settings row.close < 0 then s.consecutiveLosses + 1 else 0
      orders := s.orders ++ [(job.sellOrder s.account row).withoutAmount] }
  else s

def PaperTradingState.trade : PaperTradingState :=
  match row.signal with
  | .buy => s.buy job row
  | .sell => s.sell job row
  | .hold => s

def PaperAccount.tradingPoint (a : PaperAccount) (row : FrameRow) : PaperTradingPoint where
  time := row.time
  equity := a.equity row.close
  cashKrw := a.cash
  btcQuantity := a.positionVolume
  price := row.close
  unrealizedPnl := a.unrealizedPnl row.close

/-- The account is marked at the close of the row. -/
def PaperTradingState.mark : PaperTradingState :=
  { s with equityCurve := s.equityCurve ++ [s.account.tradingPoint row] }

def paperTradingRow : PaperTradingState := (((s.withDay row).note row).trade job row).mark row

end Row

def PaperJob.start (job : PaperJob) : PaperTradingState :=
  { account := PaperAccount.start job.risk.startCash }

/-! ## The result -/

/-- `mdd`: the deepest fall from the peak before it. A peak of zero has no rate. -/
def maxDrawdown : ℚ → ℚ → List ℚ → Option ℚ
  | _, deepest, [] => some |deepest|
  | peak, deepest, equity :: rest =>
    let peak := max peak equity
    if peak = 0 then none else maxDrawdown peak (min deepest ((equity - peak) / peak)) rest

/-- What `run_paper_trading` returns of a run, without its settings, its times and its candles. -/
structure PaperTradingResult where
  initialCash : ℚ
  cashKrw : ℚ
  currentPrice : ℚ
  equity : ℚ
  realizedPnl : ℚ
  unrealizedPnl : ℚ
  totalPnl : ℚ
  totalReturn : ℚ
  mdd : Option ℚ
  btcQuantity : ℚ
  avgBuyPrice : ℚ
  marketValue : ℚ
  positionRatio : ℚ
  lastSignal : Signal
  signals : List PaperTradingSignal
  blockedSignals : List BlockedSignal
  orders : List PaperTradingOrder
  equityCurve : List PaperTradingPoint

/-- The result of the last state, at the last close. -/
def PaperTradingState.result (s : PaperTradingState) (initialCash lastPrice : ℚ) :
    PaperTradingResult :=
  let equity := s.account.equity lastPrice
  let marketValue := s.account.positionVolume * lastPrice
  { initialCash := initialCash
    cashKrw := s.account.cash
    currentPrice := lastPrice
    equity := equity
    realizedPnl := s.account.realizedPnl
    unrealizedPnl := s.account.unrealizedPnl lastPrice
    totalPnl := equity - initialCash
    totalReturn := if 0 < initialCash then (equity - initialCash) / initialCash else 0
    mdd :=
      match s.equityCurve.map PaperTradingPoint.equity with
      | [] => some 0
      | first :: rest => maxDrawdown first 0 (first :: rest)
    btcQuantity := s.account.positionVolume
    avgBuyPrice := s.account.averageEntryPrice
    marketValue := marketValue
    positionRatio := if 0 < equity then marketValue / equity else 0
    lastSignal := (s.signals.getLast?.map PaperTradingSignal.signal).getD .hold
    signals := s.signals
    blockedSignals := s.blockedSignals
    orders := s.orders
    equityCurve := s.equityCurve }

def fewPaperCandlesError : String := "페이퍼 트레이딩에는 최소 30개 이상의 캔들이 필요합니다."

/-- `run_paper_trading`, from the frame on. -/
def runPaperTrading (rows : List FrameRow) (job : PaperJob) : Except String PaperTradingResult :=
  if rows.length < 30 then .error fewPaperCandlesError
  else
    let s := run (paperTradingRow job) job.start rows
    .ok (s.result job.risk.startCash ((rows.getLast?.map FrameRow.close).getD 0))

/-! ## What a row does -/

section Steps

variable (job : PaperJob) (s : PaperTradingState) (row : FrameRow)

def PaperTradingState.side : Option OrderSide :=
  s.account.side row.signal (s.block job row).isNone

def PaperTradingState.lossesAfter : Option OrderSide → ℕ
  | some .sell => if s.account.sellPnl job.settings row.close < 0 then s.consecutiveLosses + 1 else 0
  | _ => s.consecutiveLosses

def PaperTradingState.blockedAt : List BlockedSignal :=
  if row.signal = .buy then
    (s.block job row).toList.map (fun reason =>
      { time := row.time, signal := row.signal, price := row.close, reason := reason })
  else []

theorem withDay_note_eq : (s.withDay row).note row
    = { s with
        dayStartEquity := (s.withDay row).dayStartEquity
        signals := (s.note row).signals } := by
  unfold PaperTradingState.withDay PaperTradingState.note
  by_cases hsignal : row.signal = .buy ∨ row.signal = .sell <;>
    by_cases hday : (s.dayStartEquity.lookup (kstDateKey row.time)).isSome <;>
      simp only [hsignal, hday, if_true, if_false] <;> rfl

theorem dayStart_withDay : (s.withDay row).dayStart row = s.dayStart row := by
  unfold PaperTradingState.withDay
  split
  · rfl
  · rename_i hday
    have hnone : s.dayStartEquity.lookup (kstDateKey row.time) = none :=
      Option.not_isSome_iff_eq_none.mp hday
    unfold PaperTradingState.dayStart
    dsimp only
    rw [List.lookup_append, hnone]
    simp

theorem block_noted : ((s.withDay row).note row).block job row = s.block job row := by
  have hday : ((s.withDay row).note row).dayStart row = s.dayStart row := by
    rw [← dayStart_withDay s row, withDay_note_eq]
    unfold PaperTradingState.withDay
    split <;> rfl
  unfold PaperTradingState.block
  rw [hday, withDay_note_eq]

theorem paperTrading_trade_eq : s.trade job row
    = { s with
        account := s.account.after job.settings row.close (s.side job row)
        consecutiveLosses := s.lossesAfter job row (s.side job row)
        orders := s.orders
          ++ (job.orders s.account row (s.side job row)).map PaperOrder.withoutAmount
        blockedSignals := s.blockedSignals ++ s.blockedAt job row } := by
  unfold PaperTradingState.trade PaperTradingState.side PaperTradingState.blockedAt
    PaperAccount.side
  cases hsignal : row.signal with
  | buy =>
    unfold PaperTradingState.buy
    cases s.block job row <;>
      simp [hsignal, PaperAccount.after, PaperTradingState.lossesAfter, PaperJob.orders]
  | sell =>
    unfold PaperTradingState.sell
    by_cases hflat : s.account.positionVolume ≤ 0
    · simp [hflat, not_lt.mpr hflat, PaperAccount.after, PaperTradingState.lossesAfter,
        PaperJob.orders]
    · simp [hflat, not_le.mp hflat, PaperAccount.after, PaperTradingState.lossesAfter,
        PaperJob.orders]
  | hold => simp [PaperAccount.after, PaperTradingState.lossesAfter, PaperJob.orders]

/-- **What a row does**: the account of its side, the order, the blocked signal, the streak. -/
theorem paperTradingRow_eq : paperTradingRow job s row
    = { account := s.account.after job.settings row.close (s.side job row)
        consecutiveLosses := s.lossesAfter job row (s.side job row)
        dayStartEquity := (s.withDay row).dayStartEquity
        orders := s.orders
          ++ (job.orders s.account row (s.side job row)).map PaperOrder.withoutAmount
        blockedSignals := s.blockedSignals ++ s.blockedAt job row
        signals := (s.note row).signals
        equityCurve := s.equityCurve
          ++ [(s.account.after job.settings row.close (s.side job row)).tradingPoint row] } := by
  have hblock := block_noted job s row
  have hside : ((s.withDay row).note row).side job row = s.side job row := by
    unfold PaperTradingState.side
    rw [hblock, withDay_note_eq]
  have hblocked : ((s.withDay row).note row).blockedAt job row = s.blockedAt job row := by
    unfold PaperTradingState.blockedAt
    rw [hblock]
  have hlosses : ∀ side, ((s.withDay row).note row).lossesAfter job row side
      = s.lossesAfter job row side := by
    intro side
    rw [withDay_note_eq]
    rfl
  unfold paperTradingRow
  rw [paperTrading_trade_eq, hside, hblocked, hlosses, withDay_note_eq]
  rfl

end Steps

end AutoCoinBot
