/-
  PaperTrading.PaperBroker — `PaperBroker` of app/live_paper.py and the rows it
  writes.

  A broker keeps cash and position itself and reads everything else, the orders and the
  equity points, from the session it was built from. What it records goes to the tables.
-/
import AutoCoinBot.PaperTrading.Account
import AutoCoinBot.Library.Coupling

namespace AutoCoinBot

open Library

/-! ## The tables of a session -/

/-- A row of `paper_orders`. -/
structure PaperOrder where
  orderTime : UtcTime
  market : String
  side : OrderSide
  strategy : String
  signalPrice : ℚ
  executionPrice : ℚ
  quantity : ℚ
  amountKrw : ℚ
  fee : ℚ
  realizedPnl : Option ℚ
  reason : String
  deriving DecidableEq

/-- A row of `paper_equity_points`. -/
structure PaperEquityPoint where
  candleTimeUtc : UtcTime
  equity : ℚ
  cashBalance : ℚ
  btcBalance : ℚ
  price : ℚ

inductive PaperStatus where
  | running
  | stopped
  | error

/-- What a session is about. -/
structure PaperJob where
  market : String
  strategy : String
  risk : PaperRisk

/-- A row of `paper_sessions`; `account` is the columns `cash_balance`, `btc_balance`,
`avg_buy_price` and `realized_pnl`. -/
structure PaperSession where
  status : PaperStatus := .running
  job : PaperJob
  initialCash : ℚ
  account : PaperAccount
  currentPrice : ℚ
  equity : ℚ
  unrealizedPnl : ℚ
  lastProcessedCandleTimeUtc : Option UtcTime
  lastSignal : Signal := .hold

/-- A session with its rows in the other tables, by id. -/
structure PaperStore where
  session : PaperSession
  orders : List PaperOrder
  equityPoints : List PaperEquityPoint

/-- `ORDER BY order_time ASC, id ASC`. -/
def PaperOrder.before (o o' : PaperOrder) : Prop := o.orderTime ≤ o'.orderTime

instance : DecidableRel PaperOrder.before := fun o o' => Int.decLe o.orderTime o'.orderTime

/-- `ORDER BY candle_time_utc ASC, id ASC`. -/
def PaperEquityPoint.before (p p' : PaperEquityPoint) : Prop := p.candleTimeUtc ≤ p'.candleTimeUtc

instance : DecidableRel PaperEquityPoint.before :=
  fun p p' => Int.decLe p.candleTimeUtc p'.candleTimeUtc

def loadPaperSession (db : PaperStore) : PaperStore :=
  { db with
    orders := db.orders.insertionSort PaperOrder.before
    equityPoints := db.equityPoints.insertionSort PaperEquityPoint.before }

/-- `create_live_paper_session`; `now` stands in for a candle that was never processed. -/
def createLivePaperSession (job : PaperJob) (currentPrice : ℚ) (lastProcessed : Option UtcTime)
    (now : UtcTime) : PaperStore where
  session :=
    { job := job, initialCash := job.risk.startCash
      account := PaperAccount.start job.risk.startCash
      currentPrice := currentPrice, equity := job.risk.startCash, unrealizedPnl := 0
      lastProcessedCandleTimeUtc := lastProcessed }
  orders := []
  equityPoints :=
    [{ candleTimeUtc := lastProcessed.getD now, equity := job.risk.startCash
       cashBalance := job.risk.startCash, btcBalance := 0, price := currentPrice }]

/-! ## The broker -/

/-- `PaperBroker`: the loaded session, and what it keeps itself. -/
structure PaperBroker where
  session : PaperStore
  account : PaperAccount

/-- `PaperBroker.__init__`. -/
def PaperBroker.ofSession (session : PaperStore) : PaperBroker where
  session := session
  account := session.session.account

/-- What the broker remembers of its session: the sells, and the equity of the days. -/
def PaperStore.outcomes (session : PaperStore) : List (OrderSide × Option ℚ) :=
  session.orders.map (fun o => (o.side, o.realizedPnl))
def PaperStore.equities (session : PaperStore) : List (UtcTime × ℚ) :=
  session.equityPoints.map (fun p => (p.candleTimeUtc, p.equity))

/-- The log line of a blocked buy. -/
structure BlockedBuy where
  candle : UtcTime
  reason : BuyBlock

/-- Where a broker leaves what it does: the tables, and the log. -/
structure PaperWorld where
  db : PaperStore
  blocked : List BlockedBuy := []

section Job

variable (job : PaperJob) (a : PaperAccount) (row : FrameRow)

def PaperJob.settings : PaperSettings := job.risk.settings

/-- The order `_try_buy` inserts. -/
def PaperJob.buyOrder : PaperOrder where
  orderTime := row.time
  market := job.market
  side := .buy
  strategy := job.strategy
  signalPrice := row.close
  executionPrice := job.settings.buyPrice row.close
  quantity := a.buyVolume job.settings row.close
  amountKrw := a.orderAmount job.settings row.close
  fee := a.orderAmount job.settings row.close * job.settings.feeRate
  realizedPnl := none
  reason := row.reason

/-- The order `_try_sell` inserts. -/
def PaperJob.sellOrder : PaperOrder where
  orderTime := row.time
  market := job.market
  side := .sell
  strategy := job.strategy
  signalPrice := row.close
  executionPrice := job.settings.sellPrice row.close
  quantity := a.positionVolume
  amountKrw := a.sellGross job.settings row.close
  fee := a.sellGross job.settings row.close * job.settings.feeRate
  realizedPnl := some (a.sellPnl job.settings row.close)
  reason := row.reason

end Job

/-- What a session says about the day of a candle, and about the last sells. -/
def PaperStore.dayStart (session : PaperStore) (a : PaperAccount) (row : FrameRow) : ℚ :=
  dayStartEquity session.equities (kstDateKey row.time) (a.equity row.close)
def PaperStore.losses (session : PaperStore) : ℕ := consecutiveLosses session.outcomes

section Broker

variable (b : PaperBroker) (w : PaperWorld) (row : FrameRow)

def PaperBroker.job : PaperJob := b.session.session.job

/-- `block_reason` of `_try_buy`. -/
def PaperBroker.block : Option BuyBlock :=
  b.account.buyBlock b.job.settings row (b.session.dayStart b.account row) b.session.losses

def PaperWorld.insertOrder (order : PaperOrder) : PaperWorld :=
  { w with db := { w.db with orders := w.db.orders ++ [order] } }

def PaperBroker.tryBuy : PaperBroker × PaperWorld :=
  match b.block row with
  | some reason => (b, { w with blocked := w.blocked ++ [{ candle := row.time, reason := reason }] })
  | none =>
    ({ b with account := b.account.bought b.job.settings row.close },
      w.insertOrder (b.job.buyOrder b.account row))

def PaperBroker.trySell : PaperBroker × PaperWorld :=
  if b.account.positionVolume ≤ 0 then (b, w)
  else
    ({ b with account := b.account.sold b.job.settings row.close },
      w.insertOrder (b.job.sellOrder b.account row))

def PaperAccount.paperPoint (a : PaperAccount) (row : FrameRow) : PaperEquityPoint where
  candleTimeUtc := row.time
  equity := a.equity row.close
  cashBalance := a.cash
  btcBalance := a.positionVolume
  price := row.close

/-- The columns of `update_live_paper_session_state`. -/
def PaperSession.update (session : PaperSession) (a : PaperAccount) (row : FrameRow) :
    PaperSession :=
  { session with
    status := .running
    account := a
    currentPrice := row.close
    equity := a.equity row.close
    unrealizedPnl := a.unrealizedPnl row.close
    lastProcessedCandleTimeUtc := some row.time
    lastSignal := row.signal }

def PaperWorld.persistState (a : PaperAccount) : PaperWorld :=
  { w with
    db :=
      { w.db with
        equityPoints := w.db.equityPoints ++ [a.paperPoint row]
        session := w.db.session.update a row } }

/-- The trade of `apply_candle`. -/
def PaperBroker.trade : PaperBroker × PaperWorld :=
  match row.signal with
  | .buy => b.tryBuy w row
  | .sell => b.trySell w row
  | .hold => (b, w)

def PaperBroker.applyCandle : PaperBroker × PaperWorld :=
  let traded := b.trade w row
  (traded.1, traded.2.persistState row traded.1.account)

end Broker

/-! ## Ticks -/

/-- A candle comes after the last one that was processed. -/
def PaperSession.isNew (session : PaperSession) (c : FrameRow) : Bool :=
  session.lastProcessedCandleTimeUtc.all (fun last => decide (last < c.time))

/-- `process_live_paper_session`: one broker for the new candles, built from the session as it
is loaded at the start. -/
def processLivePaperSession (w : PaperWorld) (candles : List FrameRow) : PaperWorld :=
  let session := loadPaperSession w.db
  let newCandles := candles.filter session.session.isNew
  (run (fun (state : PaperBroker × PaperWorld) row => state.1.applyCandle state.2 row)
    (PaperBroker.ofSession session, w) newCandles).2

/-- The broker of a session that is loaded now. -/
def PaperWorld.broker (w : PaperWorld) : PaperBroker := PaperBroker.ofSession (loadPaperSession w.db)

def PaperWorld.feed (w : PaperWorld) (row : FrameRow) : PaperWorld := (w.broker.applyCandle w row).2

/-! ## What a candle does -/

def PaperJob.orders (job : PaperJob) (a : PaperAccount) (row : FrameRow) :
    Option OrderSide → List PaperOrder
  | some .buy => [job.buyOrder a row]
  | some .sell => [job.sellOrder a row]
  | _ => []

section Steps

variable (b : PaperBroker) (w : PaperWorld) (row : FrameRow)

def PaperBroker.side : Option OrderSide := b.account.side row.signal (b.block row).isNone

def PaperBroker.accountAfter : PaperAccount :=
  b.account.after b.job.settings row.close (b.side row)

def PaperBroker.logged : List BlockedBuy :=
  if row.signal = .buy then
    (b.block row).toList.map (fun reason => { candle := row.time, reason := reason })
  else []

theorem trade_eq : b.trade w row
    = ({ b with account := b.accountAfter row },
        { db := { w.db with orders := w.db.orders ++ b.job.orders b.account row (b.side row) }
          blocked := w.blocked ++ b.logged row }) := by
  unfold PaperBroker.trade PaperBroker.accountAfter PaperBroker.side PaperBroker.logged
    PaperAccount.side
  cases row.signal with
  | buy =>
    unfold PaperBroker.tryBuy
    cases b.block row <;> simp [PaperJob.orders, PaperAccount.after, PaperWorld.insertOrder]
  | sell =>
    unfold PaperBroker.trySell
    by_cases hflat : b.account.positionVolume ≤ 0 <;>
      simp [hflat, PaperJob.orders, PaperAccount.after, PaperWorld.insertOrder]
  | hold => simp [PaperJob.orders, PaperAccount.after]

/-- **What a candle does**: the account of its side, the order, the log line, and the state. -/
theorem applyCandle_eq : b.applyCandle w row
    = ({ b with account := b.accountAfter row },
        { db :=
            { orders := w.db.orders ++ b.job.orders b.account row (b.side row)
              equityPoints := w.db.equityPoints ++ [(b.accountAfter row).paperPoint row]
              session := w.db.session.update (b.accountAfter row) row }
          blocked := w.blocked ++ b.logged row }) := by
  unfold PaperBroker.applyCandle
  rw [trade_eq]
  rfl

theorem feed_eq : w.feed row
    = { db :=
          { orders := w.db.orders ++ w.broker.job.orders w.broker.account row (w.broker.side row)
            equityPoints := w.db.equityPoints ++ [(w.broker.accountAfter row).paperPoint row]
            session := w.db.session.update (w.broker.accountAfter row) row }
        blocked := w.blocked ++ w.broker.logged row } := by
  unfold PaperWorld.feed
  rw [applyCandle_eq]

theorem orderTime_of_mem_orders {job : PaperJob} {a : PaperAccount} {row : FrameRow}
    {side : Option OrderSide} {o : PaperOrder} (ho : o ∈ job.orders a row side) :
    o.orderTime = row.time := by
  unfold PaperJob.orders at ho
  split at ho
  · rw [List.mem_singleton.mp ho]; rfl
  · rw [List.mem_singleton.mp ho]; rfl
  · cases ho

end Steps

end AutoCoinBot
