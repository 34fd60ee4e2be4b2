/-
  PaperTrading.Simulators — the batch simulator and the incremental one.

  `run_paper_trading` counts the losses and takes the equity before the first candle of a day;
  `PaperBroker` counts back over the stored orders and takes the first stored equity point of the
  day, which stands after that candle's trade.
-/
import AutoCoinBot.PaperTrading.Batching
import AutoCoinBot.PaperTrading.RunPaperTrading

namespace AutoCoinBot

open Library

/-! ## The start of a day -/

section Day

variable (job : PaperJob) (createdAt : UtcTime) (s : PaperTradingState) (row : FrameRow)

/-- The equity points the incremental simulator has stored by now: the one the session was
created with, and one for each row. -/
def PaperTradingState.storedEquities : List (UtcTime × ℚ) :=
  (createdAt, job.risk.startCash) :: s.equityCurve.map (fun p => (p.time, p.equity))

/-- The start of a row's day as those points give it. -/
def storedDayStart : ℚ :=
  dayStartEquity ((s.storedEquities job createdAt).insertionSort (fun p q => p.1 ≤ q.1))
    (kstDateKey row.time) (s.account.equity row.close)

/-- A row does not tell the two starts of its day apart: it has nothing to buy, the losses block
it anyway, or the loss of the day is on the same side of its limit. -/
def DayStartsAlike : Prop :=
  row.signal = .buy → s.account.AdmitsBuy job.settings row →
    s.consecutiveLosses < job.settings.consecutiveLossLimit →
      (LossesTooMuch job.settings s.account row.close (storedDayStart job createdAt s row)
        ↔ LossesTooMuch job.settings s.account row.close (s.dayStart row))

end Day

/-! ## The coupling -/

def PaperWorld.shownPlain (w : PaperWorld) : (PaperJob × PaperAccount) × List PaperTradingOrder :=
  ((w.db.session.job, w.db.session.account), w.db.orders.map PaperOrder.withoutAmount)
def PaperTradingState.shown (job : PaperJob) (s : PaperTradingState) :
    (PaperJob × PaperAccount) × List PaperTradingOrder :=
  ((job, s.account), s.orders)

def plainEntries (known : PaperJob × PaperAccount) (row : FrameRow) (side : Option OrderSide) :
    List PaperTradingOrder :=
  (livePaperEntries known row side).map PaperOrder.withoutAmount

def PaperTradingState.lastTime (s : PaperTradingState) : Option UtcTime :=
  s.equityCurve.getLast?.map PaperTradingPoint.time

theorem feed_keepsBook : KeepsBook PaperWorld.feed PaperWorld.shownPlain
    (fun w row => w.broker.side row) livePaperNext plainEntries := by
  intro w row
  rw [feed_eq]
  exact Prod.ext rfl List.map_append

theorem paperTrading_keepsBook (job : PaperJob) : KeepsBook (paperTradingRow job)
    (PaperTradingState.shown job) (PaperTradingState.side job) livePaperNext plainEntries := by
  intro s row
  rw [paperTradingRow_eq]
  rfl

theorem lastTime_row (job : PaperJob) (s : PaperTradingState) (row : FrameRow) :
    (paperTradingRow job s row).lastTime = some row.time := by
  rw [paperTradingRow_eq]
  unfold PaperTradingState.lastTime
  rw [List.getLast?_append, List.getLast?_singleton]
  rfl

/-- **What the stored rows of one simulator and the variables of the other have in common.** -/
structure SimulatorsCoupled (job : PaperJob) (createdAt : UtcTime) (w : PaperWorld)
    (s : PaperTradingState) : Prop where
  points : w.db.equities = s.storedEquities job createdAt
  losses : consecutiveLosses w.db.outcomes = s.consecutiveLosses
  ordered : w.db.orders.Pairwise PaperOrder.before
  past : ∀ o ∈ w.db.orders, ∃ last, s.lastTime = some last ∧ o.orderTime ≤ last
  blocked : w.blocked.map BlockedBuy.candle = s.blockedSignals.map BlockedSignal.time

section Coupled

variable {job : PaperJob} {createdAt : UtcTime} {w : PaperWorld} {s : PaperTradingState}
  {row : FrameRow}

theorem losses_loaded (h : SimulatorsCoupled job createdAt w s) :
    (loadPaperSession w.db).losses = s.consecutiveLosses := by
  rw [← h.losses]
  unfold PaperStore.losses PaperStore.outcomes loadPaperSession
  dsimp only
  rw [h.ordered.insertionSort_eq]

theorem dayStart_loaded (h : SimulatorsCoupled job createdAt w s)
    (haccount : w.db.session.account = s.account) :
    (loadPaperSession w.db).dayStart w.db.session.account row = storedDayStart job createdAt s row := by
  have hsorted : (loadPaperSession w.db).equities
      = (s.storedEquities job createdAt).insertionSort (fun p q => p.1 ≤ q.1) := by
    rw [← h.points]
    exact List.map_insertionSort _ _ _ _ (fun _ _ _ _ => Iff.rfl)
  unfold PaperStore.dayStart storedDayStart
  rw [hsorted, haccount]

theorem broker_block_iff (h : SimulatorsCoupled job createdAt w s)
    (hsame : w.shownPlain = s.shown job) :
    w.broker.block row = none
      ↔ ¬ MemoryBlocks job.settings s.account row.close (storedDayStart job createdAt s row)
          s.consecutiveLosses
        ∧ s.account.AdmitsBuy job.settings row := by
  have hjob : w.db.session.job = job := congrArg (fun x => x.1.1) hsame
  have haccount : w.db.session.account = s.account := congrArg (fun x => x.1.2) hsame
  rw [← losses_loaded h, ← dayStart_loaded h haccount, ← hjob, ← haccount]
  exact buyBlock_eq_none_iff _ _ _ _ _

theorem broker_side_eq (hsame : w.shownPlain = s.shown job) :
    w.broker.side row = s.account.side row.signal (w.broker.block row).isNone := by
  have haccount : w.db.session.account = s.account := congrArg (fun x => x.1.2) hsame
  rw [← haccount]
  rfl

theorem not_or_and_iff {d d' l admits : Prop} :
    (¬ (d ∨ l) ∧ admits ↔ ¬ (d' ∨ l) ∧ admits) ↔ (admits → ¬ l → (d ↔ d')) := by
  tauto

theorem dayStartsAlike_iff (h : SimulatorsCoupled job createdAt w s)
    (hsame : w.shownPlain = s.shown job) :
    DayStartsAlike job createdAt s row
      ↔ (row.signal = .buy → (w.broker.block row).isNone = (s.block job row).isNone) := by
  have hown : s.block job row = none
      ↔ ¬ MemoryBlocks job.settings s.account row.close (s.dayStart row) s.consecutiveLosses
        ∧ s.account.AdmitsBuy job.settings row := buyBlock_eq_none_iff _ _ _ _ _
  rw [Bool.eq_iff_iff, Option.isNone_iff_eq_none, Option.isNone_iff_eq_none,
    broker_block_iff h hsame, hown]
  unfold MemoryBlocks
  rw [not_or_and_iff, not_le]
  exact Iff.rfl

theorem simulators_choice_iff (h : SimulatorsCoupled job createdAt w s)
    (hsame : w.shownPlain = s.shown job) :
    DayStartsAlike job createdAt s row ↔ w.broker.side row = s.side job row := by
  rw [dayStartsAlike_iff h hsame, broker_side_eq hsame]
  exact side_eq_iff.symm

/-- The row comes after everything that was simulated. -/
def PaperTradingState.Ahead (s : PaperTradingState) (row : FrameRow) : Prop :=
  ∀ last, s.lastTime = some last → last < row.time

theorem before_of_ahead (h : SimulatorsCoupled job createdAt w s) (hahead : s.Ahead row)
    {o : PaperOrder} (ho : o ∈ w.db.orders) : o.orderTime < row.time := by
  obtain ⟨last, hlast, hle⟩ := h.past o ho
  exact lt_of_le_of_lt hle (hahead last hlast)

theorem orders_pairwise (job : PaperJob) (a : PaperAccount) (row : FrameRow)
    (side : Option OrderSide) : (job.orders a row side).Pairwise PaperOrder.before := by
  unfold PaperJob.orders
  split
  · exact List.pairwise_singleton _ _
  · exact List.pairwise_singleton _ _
  · exact List.Pairwise.nil

theorem losses_orders (job : PaperJob) (s : PaperTradingState) (row : FrameRow)
    (side : Option OrderSide) (outcomes : List (OrderSide × Option ℚ))
    (h : consecutiveLosses outcomes = s.consecutiveLosses) :
    consecutiveLosses (outcomes ++ (job.orders s.account row side).map
        (fun o => (o.side, o.realizedPnl)))
      = s.lossesAfter job row side := by
  have hnothing : consecutiveLosses (outcomes ++ []) = s.consecutiveLosses := by
    rw [List.append_nil, h]
  cases side with
  | none => exact hnothing
  | some side =>
    cases side with
    | buy => exact (consecutiveLosses_append_buy outcomes none).trans h
    | sell =>
      show consecutiveLosses (outcomes ++ [(.sell, some (s.account.sellPnl job.settings row.close))])
        = if s.account.sellPnl job.settings row.close < 0 then s.consecutiveLosses + 1 else 0
      rw [consecutiveLosses_append_sell, h]
    | bid => exact hnothing
    | ask => exact hnothing

theorem simulators_coupled_row (h : SimulatorsCoupled job createdAt w s)
    (hsame : w.shownPlain = s.shown job) (hahead : s.Ahead row)
    (halike : DayStartsAlike job createdAt s row) :
    SimulatorsCoupled job createdAt (w.feed row) (paperTradingRow job s row) := by
  have hjob : w.broker.job = job := congrArg (fun x => x.1.1) hsame
  have haccount : w.broker.account = s.account := congrArg (fun x => x.1.2) hsame
  have hside : w.broker.side row = s.side job row := (simulators_choice_iff h hsame).mp halike
  have hafter : w.broker.accountAfter row
      = s.account.after job.settings row.close (s.side job row) := by
    unfold PaperBroker.accountAfter
    rw [hside, hjob, haccount]
  have htimes : ∀ o ∈ job.orders s.account row (s.side job row), o.orderTime = row.time :=
    fun o ho => orderTime_of_mem_orders ho
  rw [feed_eq, hafter, hside, hjob, haccount]
  constructor
  · rw [paperTradingRow_eq]
    unfold PaperStore.equities PaperTradingState.storedEquities
    rw [List.map_append, List.map_append, ← List.cons_append]
    exact congrArg (· ++ _) h.points
  · rw [paperTradingRow_eq]
    unfold PaperStore.outcomes
    rw [List.map_append]
    exact losses_orders job s row _ _ h.losses
  · refine List.pairwise_append.mpr ⟨h.ordered, orders_pairwise _ _ _ _, fun o ho o' ho' => ?_⟩
    show o.orderTime ≤ o'.orderTime
    rw [htimes o' ho']
    exact (before_of_ahead h hahead ho).le
  · intro o ho
    refine ⟨row.time, lastTime_row job s row, ?_⟩
    rcases List.mem_append.mp ho with hold | hnew
    · exact (before_of_ahead h hahead hold).le
    · exact (htimes o hnew).le
  · rw [paperTradingRow_eq]
    have hlogged : (w.broker.logged row).map BlockedBuy.candle
        = (s.blockedAt job row).map BlockedSignal.time := by
      unfold PaperBroker.logged PaperTradingState.blockedAt
      by_cases hsignal : row.signal = .buy
      · rw [if_pos hsignal, if_pos hsignal]
        have hblocks := (dayStartsAlike_iff h hsame).mp halike hsignal
        cases hb : w.broker.block row <;> cases hs : s.block job row <;>
          simp_all
      · rw [if_neg hsignal, if_neg hsignal]
        rfl
    rw [List.map_append, List.map_append, h.blocked, hlogged]

theorem plainEntries_length_ne {known : PaperJob × PaperAccount} {row : FrameRow} {signal : Signal}
    {p q : Bool} (h : known.2.side signal p ≠ known.2.side signal q) :
    (plainEntries known row (known.2.side signal p)).length
      ≠ (plainEntries known row (known.2.side signal q)).length := by
  unfold plainEntries
  rw [List.length_map, List.length_map]
  exact orders_length_ne h

end Coupled

/-! ## The decisions -/

/-- The two simulators decided alike: the same orders and the same blocked buys, and the same
cash and position in the end. -/
structure SameDecisions (result : PaperTradingResult) (w : PaperWorld) : Prop where
  filled : result.orders.map (fun o => (o.time, o.side))
    = w.db.orders.map (fun o => (o.orderTime, o.side))
  blocked : result.blockedSignals.map BlockedSignal.time = w.blocked.map BlockedBuy.candle
  cash : result.cashKrw = w.db.session.account.cash
  position : result.btcQuantity = w.db.session.account.positionVolume

def createdWorld (job : PaperJob) (currentPrice : ℚ) (lastProcessed : Option UtcTime)
    (now : UtcTime) : PaperWorld where
  db := createLivePaperSession job currentPrice lastProcessed now

theorem entriesAt_of_filled {orders : List PaperTradingOrder} {stored : List PaperOrder}
    (h : orders.map (fun o => (o.time, o.side)) = stored.map (fun o => (o.orderTime, o.side)))
    (k : UtcTime) :
    entriesAt PaperTradingOrder.time (stored.map PaperOrder.withoutAmount) k
      = entriesAt PaperTradingOrder.time orders k := by
  have htimes : (stored.map PaperOrder.withoutAmount).map PaperTradingOrder.time
      = orders.map PaperTradingOrder.time := by
    have hfirst := congrArg (List.map Prod.fst) h
    rw [List.map_map, List.map_map] at hfirst
    rw [List.map_map]
    exact hfirst.symm
  have hcount : ∀ book : List PaperTradingOrder, entriesAt PaperTradingOrder.time book k
      = (book.map PaperTradingOrder.time).countP (fun t => t = k) := by
    intro book
    rw [List.countP_map]
    rfl
  rw [hcount, hcount, htimes]

/-- **When the two paper simulators agree**: the batch run decides as the broker that is fed
candle by candle exactly if no row tells the two starts of its day apart. -/
theorem paper_simulators_agree_iff (job : PaperJob) {f : Frame} (hlong : 30 ≤ f.rows.length)
    (currentPrice : ℚ) (lastProcessed : Option UtcTime) (now : UtcTime) :
    ∃ result, runPaperTrading f.rows job = .ok result
      ∧ (SameDecisions result
            (run PaperWorld.feed (createdWorld job currentPrice lastProcessed now) f.rows)
        ↔ StepsOk (paperTradingRow job) (DayStartsAlike job (lastProcessed.getD now)) job.start
            f.rows) := by
  refine ⟨_, if_neg (Nat.not_lt.mpr hlong), ?_⟩
  have hstart : SimulatorsCoupled job (lastProcessed.getD now)
      (createdWorld job currentPrice lastProcessed now) job.start :=
    ⟨rfl, rfl, List.Pairwise.nil, fun _ ho => absurd ho List.not_mem_nil, rfl⟩
  have hahead : StepsOk (paperTradingRow job) PaperTradingState.Ahead job.start f.rows :=
    stepsOk_ahead PaperTradingState.lastTime FrameRow.time
      (fun s row _ => lastTime_row job s row) f.sorted (fun _ _ _ hlast => by cases hlast)
  have hrest : ∀ (w : PaperWorld) (s : PaperTradingState) (row : FrameRow),
      SimulatorsCoupled job (lastProcessed.getD now) w s → w.shownPlain = s.shown job →
      s.Ahead row → DayStartsAlike job (lastProcessed.getD now) s row →
      SimulatorsCoupled job (lastProcessed.getD now) (w.feed row) (paperTradingRow job s row) :=
    fun _ _ _ => simulators_coupled_row
  constructor
  · intro h
    refine stepsOk_of_entriesAt_eq PaperTradingOrder.time feed_keepsBook
      (paperTrading_keepsBook job) hrest
      (fun _ _ _ hcoupled hsame _ => simulators_choice_iff hcoupled hsame)
      ?_ ?_ hstart rfl (f.sorted.imp (fun h => ne_of_lt h)) hahead
      (fun k => entriesAt_of_filled h.filled k)
    · intro known row side o ho
      obtain ⟨order, horder, rfl⟩ := List.mem_map.mp ho
      exact orderTime_of_mem_orders horder
    · intro w s row hcoupled hsame _ hne
      have hknown : w.shownPlain.1 = (job, s.account) := congrArg Prod.fst hsame
      rw [broker_side_eq hsame] at hne ⊢
      rw [hknown]
      exact plainEntries_length_ne hne
  · intro hoks
    obtain ⟨hcoupled, hsame⟩ := shown_run_eq_of_stepsOk feed_keepsBook (paperTrading_keepsBook job)
      hrest (fun _ _ _ hcoupled hsame _ => (simulators_choice_iff hcoupled hsame).mp) hstart rfl
      hahead hoks
    have haccount := congrArg (fun x => x.1.2) hsame
    have horders := congrArg Prod.snd hsame
    refine ⟨?_, hcoupled.blocked.symm, (congrArg PaperAccount.cash haccount).symm,
      (congrArg PaperAccount.positionVolume haccount).symm⟩
    have hsides := congrArg (List.map (fun o : PaperTradingOrder => (o.time, o.side))) horders
    rw [show ∀ w : PaperWorld, w.shownPlain.2 = w.db.orders.map PaperOrder.withoutAmount
      from fun _ => rfl, List.map_map] at hsides
    exact hsides.symm

theorem cashKrw_result (s : PaperTradingState) (initialCash lastPrice : ℚ) :
    (s.result initialCash lastPrice).cashKrw = s.account.cash := rfl

/-- A buy on the first row, and another one after the price fell. -/
def fallenRow (k : ℕ) : FrameRow :=
  let price : ℚ := if k = 0 then 100 else 77
  { time := 60 * k, high := price, low := price, close := price
    signal := if k ≤ 1 then .buy else .hold }

def fallenFrame : Frame where
  rows := (List.range 30).map fallenRow
  sorted := by decide +kernel

/-- A session with a small account and a high fee. -/
def feeJob : PaperJob where
  market := "KRW-BTC"
  strategy := ""
  risk :=
    { initialCash := some 1000, maxOrderAmount := some 100, feeRate := some (1 / 10)
      slippageRate := some 0 }

theorem paper_simulators_agree_example :
    ∃ result, runPaperTrading fallenFrame.rows feeJob = .ok result
      ∧ (SameDecisions result
            (run PaperWorld.feed (createdWorld feeJob 100 (some (-172800)) 0) fallenFrame.rows)
        ↔ StepsOk (paperTradingRow feeJob) (DayStartsAlike feeJob (-172800)) feeJob.start
            fallenFrame.rows) :=
  paper_simulators_agree_iff feeJob (by decide) 100 (some (-172800)) 0

theorem first_fee_moves_dayStart :
    ¬ ∃ result, runPaperTrading fallenFrame.rows feeJob = .ok result
      ∧ SameDecisions result
          (run PaperWorld.feed (createdWorld feeJob 100 (some (-172800)) 0) fallenFrame.rows) := by
  rintro ⟨result, hresult, h⟩
  have hran : runPaperTrading fallenFrame.rows feeJob
      = .ok ((run (paperTradingRow feeJob) feeJob.start fallenFrame.rows).result 1000 77) := rfl
  rw [hran] at hresult
  have hcash := h.cash
  rw [← Except.ok.inj hresult, cashKrw_result] at hcash
  have hdiffers : (run (paperTradingRow feeJob) feeJob.start fallenFrame.rows).account.cash
      ≠ (run PaperWorld.feed (createdWorld feeJob 100 (some (-172800)) 0)
          fallenFrame.rows).db.session.account.cash := by
    decide +kernel
  exact hdiffers hcash

end AutoCoinBot
