/-
  PaperTrading.ForwardPaperBroker — `ForwardPaperBroker` of app/forward_paper.py
  and the rows it writes.

  The forward broker asks the questions of the live one in another order and a few more, keeps
  its rates and its cash from going below zero, counts its trades, and replaces the equity
  point of a candle it has already seen.
-/
import AutoCoinBot.PaperTrading.PaperBroker

namespace AutoCoinBot

open Library

/-! ## The tables of a session -/

/-- Why the forward broker leaves a signal alone. -/
inductive ForwardBlock where
  | insufficientBalance
  | maxOrderAmount
  | maxPositionRatio
  | dailyLossLimit
  | consecutiveLossLimit
  | volatilityFilter
  | lowVolume
  | insufficientPosition
  deriving DecidableEq

/-- `risk_result`; the column also holds what the session was stopped with. -/
inductive ForwardRiskResult where
  | active
  | pass
  | hold
  | blocked (reason : ForwardBlock)
  | noNewCandle
  | message (text : String)
  deriving DecidableEq

/-- A row of `paper_forward_orders`, apart from when it was written. -/
structure ForwardOrderData where
  candidateStrategyId : ℕ
  market : String
  unit : ℕ
  strategy : String
  side : OrderSide
  price : ℚ
  volume : ℚ
  amountKrw : ℚ
  fee : ℚ
  slippage : ℚ
  realizedPnl : Option ℚ
  reason : String
  riskResult : ForwardRiskResult
  candleTimeUtc : UtcTime
  deriving DecidableEq

structure ForwardOrder extends ForwardOrderData where
  createdAt : UtcTime

/-- A row of `paper_forward_equity_points`. -/
structure ForwardEquityPoint where
  candleTimeUtc : UtcTime
  equity : ℚ
  cashBalance : ℚ
  positionVolume : ℚ
  price : ℚ
  drawdown : ℚ

/-- What the broker counts. -/
structure ForwardTally where
  tradeCount : ℕ
  winCount : ℕ := 0
  lossCount : ℕ := 0
  grossProfit : ℚ := 0
  grossLoss : ℚ := 0

/-- What a session is about. -/
structure ForwardJob where
  candidateStrategyId : ℕ
  market : String
  unit : ℕ
  strategy : String
  risk : PaperRisk

/-- A row of `paper_forward_sessions`; `account` and `tally` are groups of columns. -/
structure ForwardSession where
  job : ForwardJob
  status : PaperStatus := .running
  initialBalanceKrw : ℚ
  account : PaperAccount
  currentPrice : ℚ
  unrealizedPnl : ℚ
  totalEquity : ℚ
  totalReturnPercent : ℚ
  maxDrawdown : ℚ
  tally : ForwardTally
  winRate : ℚ
  profitFactor : ℚ
  lastSignal : Signal := .hold
  lastRiskResult : ForwardRiskResult := .active
  lastProcessedCandleTimeUtc : Option UtcTime

/-- A session with its rows in the other tables, by id. -/
structure ForwardStore where
  session : ForwardSession
  orders : List ForwardOrder
  equityPoints : List ForwardEquityPoint

/-- `ORDER BY created_at ASC, id ASC`. -/
def ForwardOrder.before (o o' : ForwardOrder) : Prop := o.createdAt ≤ o'.createdAt

instance : DecidableRel ForwardOrder.before := fun o o' => Int.decLe o.createdAt o'.createdAt

/-- `ORDER BY candle_time_utc ASC, id ASC`. -/
def ForwardEquityPoint.before (p p' : ForwardEquityPoint) : Prop :=
  p.candleTimeUtc ≤ p'.candleTimeUtc

instance : DecidableRel ForwardEquityPoint.before :=
  fun p p' => Int.decLe p.candleTimeUtc p'.candleTimeUtc

def loadForwardSession (db : ForwardStore) : ForwardStore :=
  { db with
    orders := db.orders.insertionSort ForwardOrder.before
    equityPoints := db.equityPoints.insertionSort ForwardEquityPoint.before }

/-- What the broker remembers of its session: the sells, and the equity of the days. -/
def ForwardStore.outcomes (session : ForwardStore) : List (OrderSide × Option ℚ) :=
  session.orders.map (fun o => (o.side, o.realizedPnl))
def ForwardStore.equities (session : ForwardStore) : List (UtcTime × ℚ) :=
  session.equityPoints.map (fun p => (p.candleTimeUtc, p.equity))

/-- What the session says about the day of a candle, and about the last sells. -/
def ForwardStore.dayStart (session : ForwardStore) (a : PaperAccount) (row : FrameRow) : ℚ :=
  dayStartEquity session.equities (kstDateKey row.time) (a.equity row.close)
def ForwardStore.losses (session : ForwardStore) : ℕ := consecutiveLosses session.outcomes

/-! ## The account -/

/-- The settings, with rates that are not negative. -/
def PaperRisk.forwardSettings (risk : PaperRisk) : PaperSettings :=
  { risk.settings with
    feeRate := max risk.settings.feeRate 0
    slippageRate := max risk.settings.slippageRate 0 }

section Account

variable (settings : PaperSettings) (a : PaperAccount) (row : FrameRow)

/-- The result of `_try_buy`, given what the memory says. -/
def PaperAccount.forwardBuyBlock (dayStart : ℚ) (losses : ℕ) : Option ForwardBlock :=
  if a.cash ≤ 0 then some .insufficientBalance
  else if settings.maxOrderAmount ≤ 0 then some .maxOrderAmount
  else if a.availableRoom settings row.close ≤ 0 then some .maxPositionRatio
  else if LossesTooMuch settings a row.close dayStart then some .dailyLossLimit
  else if settings.consecutiveLossLimit ≤ losses then some .consecutiveLossLimit
  else if settings.volatilityBlockRate ≤ rangeRate row.high row.low row.close then
    some .volatilityFilter
  else if 0 < settings.minVolume ∧ row.volume < settings.minVolume then some .lowVolume
  else if a.orderAmount settings row.close ≤ 0 then some .insufficientBalance
  else if a.buyVolume settings row.close ≤ 0 then some .insufficientBalance
  else none

/-- The candle and the account let a buy of the forward broker through. -/
structure PaperAccount.AdmitsForwardBuy : Prop where
  cash : 0 < a.cash
  maxOrderAmount : 0 < settings.maxOrderAmount
  room : 0 < a.availableRoom settings row.close
  range : rangeRate row.high row.low row.close < settings.volatilityBlockRate
  volume : ¬ (0 < settings.minVolume ∧ row.volume < settings.minVolume)
  amount : 0 < a.orderAmount settings row.close
  bought : 0 < a.buyVolume settings row.close

theorem admitsForwardBuy_iff : a.AdmitsForwardBuy settings row
    ↔ 0 < a.cash ∧ 0 < settings.maxOrderAmount ∧ 0 < a.availableRoom settings row.close
      ∧ rangeRate row.high row.low row.close < settings.volatilityBlockRate
      ∧ ¬ (0 < settings.minVolume ∧ row.volume < settings.minVolume)
      ∧ 0 < a.orderAmount settings row.close ∧ 0 < a.buyVolume settings row.close :=
  ⟨fun h => ⟨h.cash, h.maxOrderAmount, h.room, h.range, h.volume, h.amount, h.bought⟩,
    fun ⟨h, hmax, hroom, hrange, hvolume, hamount, hbought⟩ =>
      ⟨h, hmax, hroom, hrange, hvolume, hamount, hbought⟩⟩

/-- **What the memory decides about a buy** is only whether the day or the streak blocks it. -/
theorem forwardBuyBlock_eq_none_iff (dayStart : ℚ) (losses : ℕ) :
    a.forwardBuyBlock settings row dayStart losses = none
      ↔ ¬ MemoryBlocks settings a row.close dayStart losses ∧ a.AdmitsForwardBuy settings row := by
  rw [admitsForwardBuy_iff]
  unfold PaperAccount.forwardBuyBlock MemoryBlocks
  simp only [ite_some_eq_none_iff, not_or, and_true]
  simp only [not_le]
  constructor
  · rintro ⟨hcash, hmax, hroom, hday, hlosses, hrange, hvolume, hamount, hbought⟩
    exact ⟨⟨hday, hlosses⟩, hcash, hmax, hroom, hrange, hvolume, hamount, hbought⟩
  · rintro ⟨⟨hday, hlosses⟩, hcash, hmax, hroom, hrange, hvolume, hamount, hbought⟩
    exact ⟨hcash, hmax, hroom, hday, hlosses, hrange, hvolume, hamount, hbought⟩

variable (price : ℚ)

def PaperAccount.forwardBought : PaperAccount :=
  let boughtVolume := a.buyVolume settings price
  let newVolume := a.positionVolume + boughtVolume
  { a with
    averageEntryPrice :=
      if 0 < newVolume then
        (a.positionVolume * a.averageEntryPrice + boughtVolume * settings.buyPrice price) / newVolume
      else 0
    positionVolume := newVolume
    cash := max (a.cash - a.orderAmount settings price) 0 }

/-- `net` and `pnl` of a sell. -/
def PaperAccount.forwardNet : ℚ :=
  max (a.sellGross settings price - a.sellGross settings price * settings.feeRate) 0
def PaperAccount.forwardPnl : ℚ :=
  a.forwardNet settings price - a.positionVolume * a.averageEntryPrice

def PaperAccount.forwardSold : PaperAccount :=
  { cash := a.cash + a.forwardNet settings price
    realizedPnl := a.realizedPnl + a.forwardPnl settings price
    positionVolume := 0
    averageEntryPrice := 0 }

end Account

/-! ## The broker -/

def ForwardTally.closed (tally : ForwardTally) (pnl : ℚ) : ForwardTally :=
  if 0 < pnl then
    { tally with winCount := tally.winCount + 1, grossProfit := tally.grossProfit + pnl }
  else { tally with lossCount := tally.lossCount + 1, grossLoss := tally.grossLoss + |pnl| }

def ForwardTally.traded (tally : ForwardTally) : ForwardTally :=
  { tally with tradeCount := tally.tradeCount + 1 }

/-- The tally of a loaded session: the count of its column, and its closed sells. -/
def ForwardTally.ofOrders (tradeCount : ℕ) (outcomes : List (OrderSide × Option ℚ)) :
    ForwardTally :=
  outcomes.foldl
    (fun tally o =>
      match o with
      | (.sell, some pnl) => tally.closed pnl
      | _ => tally)
    { tradeCount := tradeCount }

/-- `ForwardPaperBroker`: the loaded session, and what it keeps itself. -/
structure ForwardPaperBroker where
  session : ForwardStore
  account : PaperAccount
  tally : ForwardTally

/-- `ForwardPaperBroker.__init__`. -/
def ForwardPaperBroker.ofSession (session : ForwardStore) : ForwardPaperBroker where
  session := session
  account := session.session.account
  tally := ForwardTally.ofOrders session.session.tally.tradeCount session.outcomes

section Job

variable (job : ForwardJob) (a : PaperAccount) (row : FrameRow)

def ForwardJob.settings : PaperSettings := job.risk.forwardSettings

def ForwardJob.order (side : OrderSide) (price volume amountKrw : ℚ) (realizedPnl : Option ℚ) :
    ForwardOrderData where
  candidateStrategyId := job.candidateStrategyId
  market := job.market
  unit := job.unit
  strategy := job.strategy
  side := side
  price := price
  volume := volume
  amountKrw := amountKrw
  fee := amountKrw * job.settings.feeRate
  slippage := job.settings.slippageRate
  realizedPnl := realizedPnl
  reason := row.reason
  riskResult := .pass
  candleTimeUtc := row.time

/-- The order `_try_buy` inserts, and the one `_try_sell` does. -/
def ForwardJob.buyOrder : ForwardOrderData :=
  job.order row .buy (job.settings.buyPrice row.close) (a.buyVolume job.settings row.close)
    (a.orderAmount job.settings row.close) none
def ForwardJob.sellOrder : ForwardOrderData :=
  job.order row .sell (job.settings.sellPrice row.close) a.positionVolume
    (a.sellGross job.settings row.close) (some (a.forwardPnl job.settings row.close))

end Job

section Broker

variable (b : ForwardPaperBroker) (db : ForwardStore) (row : FrameRow) (now : UtcTime)

def ForwardPaperBroker.job : ForwardJob := b.session.session.job

def ForwardPaperBroker.block : Option ForwardBlock :=
  b.account.forwardBuyBlock b.job.settings row (b.session.dayStart b.account row) b.session.losses

def ForwardStore.insertOrder (order : ForwardOrderData) : ForwardStore :=
  { db with orders := db.orders ++ [{ order with createdAt := now }] }

def ForwardPaperBroker.tryBuy : (ForwardPaperBroker × ForwardStore) × ForwardRiskResult :=
  match b.block row with
  | some reason => ((b, db), .blocked reason)
  | none =>
    (({ b with
        account := b.account.forwardBought b.job.settings row.close
        tally := b.tally.traded },
      db.insertOrder now (b.job.buyOrder b.account row)), .pass)

def ForwardPaperBroker.trySell : (ForwardPaperBroker × ForwardStore) × ForwardRiskResult :=
  if b.account.positionVolume ≤ 0 then ((b, db), .blocked .insufficientPosition)
  else
    (({ b with
        account := b.account.forwardSold b.job.settings row.close
        tally := (b.tally.closed (b.account.forwardPnl b.job.settings row.close)).traded },
      db.insertOrder now (b.job.sellOrder b.account row)), .pass)

def peakEquity (points : List ForwardEquityPoint) (currentEquity : ℚ) : ℚ :=
  (points.map ForwardEquityPoint.equity).foldl max currentEquity

/-- `drawdown` of an equity. -/
def ForwardPaperBroker.drawdown (equity : ℚ) : ℚ :=
  let peak := peakEquity b.session.equityPoints equity
  if 0 < peak then (equity - peak) / peak else 0

def ForwardPaperBroker.point : ForwardEquityPoint where
  candleTimeUtc := row.time
  equity := b.account.equity row.close
  cashBalance := b.account.cash
  positionVolume := b.account.positionVolume
  price := row.close
  drawdown := b.drawdown (b.account.equity row.close)

/-- `append_forward_equity_point`: `INSERT OR REPLACE`. -/
def ForwardStore.putPoint (point : ForwardEquityPoint) : ForwardStore :=
  { db with
    equityPoints :=
      db.equityPoints.filter (fun p => p.candleTimeUtc ≠ point.candleTimeUtc) ++ [point] }

/-- The columns of `update_forward_session_state`. -/
def ForwardPaperBroker.columns (session : ForwardSession) (riskResult : ForwardRiskResult) :
    ForwardSession :=
  let equity := b.account.equity row.close
  let initialBalance := b.session.session.initialBalanceKrw
  let closedCount := b.tally.winCount + b.tally.lossCount
  { session with
    status := .running
    account := b.account
    currentPrice := row.close
    unrealizedPnl := b.account.unrealizedPnl row.close
    totalEquity := equity
    totalReturnPercent :=
      if 0 < initialBalance then (equity - initialBalance) / initialBalance * 100 else 0
    maxDrawdown := max b.session.session.maxDrawdown |b.drawdown equity|
    tally := b.tally
    winRate := if closedCount = 0 then 0 else (b.tally.winCount : ℚ) / closedCount
    profitFactor :=
      if 0 < b.tally.grossLoss then b.tally.grossProfit / b.tally.grossLoss
      else if 0 < b.tally.grossProfit then 999 else 0
    lastSignal := row.signal
    lastRiskResult := riskResult
    lastProcessedCandleTimeUtc := some row.time }

def ForwardPaperBroker.persistState (riskResult : ForwardRiskResult) : ForwardStore :=
  let stored := db.putPoint (b.point row)
  { stored with session := b.columns row stored.session riskResult }

/-- `apply_candle`; the signal log is left out. -/
def ForwardPaperBroker.applyCandle : ForwardPaperBroker × ForwardStore :=
  let result :=
    match row.signal with
    | .buy => b.tryBuy db row now
    | .sell => b.trySell db row now
    | .hold => ((b, db), .hold)
  (result.1.1, result.1.1.persistState result.1.2 row result.2)

end Broker

/-! ## Ticks -/

/-- A candle is completed, and comes after the last one that was processed. -/
def ForwardSession.isNew (session : ForwardSession) (now : UtcTime) (c : FrameRow) : Bool :=
  decide (c.time + session.job.unit * 60 ≤ now)
    && session.lastProcessedCandleTimeUtc.all (fun last => decide (last < c.time))

/-- The state of a tick without a new candle; the counts come from the orders again. -/
def ForwardStore.noNewCandle (session : ForwardStore) : ForwardSession :=
  let pnls := (session.orders.filter (fun o => o.side = .sell)).map (fun o => o.realizedPnl.getD 0)
  { session.session with
    status := .running
    tally :=
      { tradeCount := session.session.tally.tradeCount
        winCount := pnls.countP (fun pnl => 0 < pnl)
        lossCount := pnls.countP (fun pnl => pnl ≤ 0)
        grossProfit := (pnls.map (fun pnl => max pnl 0)).sum
        grossLoss := |(pnls.map (fun pnl => min pnl 0)).sum| }
    lastRiskResult := .noNewCandle }

/-- `process_forward_session` at a time, with the clock that stamps the orders; the tick log is
left out. -/
def processForwardSession (clock : FrameRow → UtcTime) (now : UtcTime) (db : ForwardStore)
    (candles : List FrameRow) : ForwardStore :=
  let session := loadForwardSession db
  let newCandles := candles.filter (session.session.isNew now)
  if newCandles.isEmpty then { db with session := session.noNewCandle }
  else
    (run (fun (state : ForwardPaperBroker × ForwardStore) row =>
        state.1.applyCandle state.2 row (clock row))
      (ForwardPaperBroker.ofSession session, db) newCandles).2

/-! ## What a candle does -/

def PaperAccount.forwardAfter (a : PaperAccount) (settings : PaperSettings) (price : ℚ) :
    Option OrderSide → PaperAccount
  | some .buy => a.forwardBought settings price
  | some .sell => a.forwardSold settings price
  | _ => a

def ForwardJob.orders (job : ForwardJob) (a : PaperAccount) (row : FrameRow) :
    Option OrderSide → List ForwardOrderData
  | some .buy => [job.buyOrder a row]
  | some .sell => [job.sellOrder a row]
  | _ => []

def ForwardTally.after (tally : ForwardTally) (pnl : ℚ) : Option OrderSide → ForwardTally
  | some .buy => tally.traded
  | some .sell => (tally.closed pnl).traded
  | _ => tally

section Steps

variable (b : ForwardPaperBroker) (db : ForwardStore) (row : FrameRow) (now : UtcTime)

def ForwardPaperBroker.side : Option OrderSide := b.account.side row.signal (b.block row).isNone

def ForwardPaperBroker.riskResult : ForwardRiskResult :=
  match row.signal with
  | .buy => ((b.block row).map ForwardRiskResult.blocked).getD .pass
  | .sell => if b.account.positionVolume ≤ 0 then .blocked .insufficientPosition else .pass
  | .hold => .hold

def ForwardPaperBroker.after : ForwardPaperBroker :=
  { b with
    account := b.account.forwardAfter b.job.settings row.close (b.side row)
    tally := b.tally.after (b.account.forwardPnl b.job.settings row.close) (b.side row) }

/-- **What a candle does**: the account of its side, the order, the point, and the columns. -/
theorem forward_applyCandle_eq : b.applyCandle db row now
    = (b.after row,
        (b.after row).persistState
          { db with
            orders := db.orders ++ (b.job.orders b.account row (b.side row)).map
              (fun order => { order with createdAt := now }) }
          row (b.riskResult row)) := by
  unfold ForwardPaperBroker.applyCandle ForwardPaperBroker.after ForwardPaperBroker.side
    ForwardPaperBroker.riskResult PaperAccount.side
  cases row.signal with
  | buy =>
    dsimp only
    unfold ForwardPaperBroker.tryBuy
    cases b.block row <;> simp [PaperAccount.forwardAfter, ForwardTally.after,
      ForwardJob.orders, ForwardStore.insertOrder]
  | sell =>
    dsimp only
    unfold ForwardPaperBroker.trySell
    by_cases hflat : b.account.positionVolume ≤ 0 <;>
      simp [hflat, PaperAccount.forwardAfter, ForwardTally.after, ForwardJob.orders,
        ForwardStore.insertOrder]
  | hold => simp [PaperAccount.forwardAfter, ForwardTally.after, ForwardJob.orders]

theorem candleTimeUtc_of_mem_orders {job : ForwardJob} {a : PaperAccount} {row : FrameRow}
    {side : Option OrderSide} {o : ForwardOrderData} (ho : o ∈ job.orders a row side) :
    o.candleTimeUtc = row.time := by
  unfold ForwardJob.orders at ho
  split at ho
  · rw [List.mem_singleton.mp ho]; rfl
  · rw [List.mem_singleton.mp ho]; rfl
  · cases ho

end Steps

end AutoCoinBot
