/-
  PaperTrading.Batching — one tick over many candles, and a tick for each.

  A tick builds its broker from the session as it is loaded at the start.
-/
import AutoCoinBot.PaperTrading.ForwardPaperBroker

namespace AutoCoinBot

open Library

/-! ## Sides -/

section Sides

variable {a : PaperAccount} {signal : Signal} {p q : Bool}

theorem side_eq_iff : a.side signal p = a.side signal q ↔ (signal = .buy → p = q) := by
  unfold PaperAccount.side
  cases signal <;> cases p <;> cases q <;> simp

theorem not_and_iff_not_and {m m' admits : Prop} :
    (¬ m ∧ admits ↔ ¬ m' ∧ admits) ↔ (admits → (m ↔ m')) := by
  tauto

end Sides

/-! ## The live broker -/

/-- The broker of a tick, with the world it writes to. -/
abbrev LiveTick := PaperBroker × PaperWorld

def LiveTick.apply (state : LiveTick) (row : FrameRow) : LiveTick := state.1.applyCandle state.2 row
def LiveTick.side (state : LiveTick) (row : FrameRow) : Option OrderSide := state.1.side row

def PaperWorld.tick (w : PaperWorld) (row : FrameRow) : PaperWorld := processLivePaperSession w [row]

/-- A tick for every new candle, each with the session loaded again. -/
def processCandlesOneByOne (w : PaperWorld) (candles : List FrameRow) : PaperWorld :=
  run PaperWorld.tick w (candles.filter w.db.session.isNew)

/-- The day or the last sells block a buy, as a session has them. -/
def PaperStore.MemoryBlocks (session : PaperStore) (job : PaperJob) (a : PaperAccount)
    (row : FrameRow) : Prop :=
  AutoCoinBot.MemoryBlocks job.settings a row.close (session.dayStart a row) session.losses

/-- A candle finds the session of its tick as good as the one the rows give now: it has
nothing to buy, or the day and the last sells block alike in both. -/
def SeesAlike (session : PaperStore) (w : PaperWorld) (row : FrameRow) : Prop :=
  row.signal = .buy → w.db.session.account.AdmitsBuy w.db.session.job.settings row →
    (session.MemoryBlocks w.db.session.job w.db.session.account row
      ↔ (loadPaperSession w.db).MemoryBlocks w.db.session.job w.db.session.account row)

/-- The books of a session: its orders and its account. -/
structure PaperWorld.SameBooks (w w' : PaperWorld) : Prop where
  orders : w.db.orders = w'.db.orders
  account : w.db.session.account = w'.db.session.account

instance (w w' : PaperWorld) : Decidable (w.SameBooks w') :=
  decidable_of_iff (w.db.orders = w'.db.orders ∧ w.db.session.account = w'.db.session.account)
    ⟨fun ⟨ho, ha⟩ => ⟨ho, ha⟩, fun h => ⟨h.orders, h.account⟩⟩

def LiveTick.shown (state : LiveTick) : (PaperJob × PaperAccount) × List PaperOrder :=
  ((state.1.job, state.1.account), state.2.db.orders)
def PaperWorld.shown (w : PaperWorld) : (PaperJob × PaperAccount) × List PaperOrder :=
  ((w.db.session.job, w.db.session.account), w.db.orders)

def livePaperNext (known : PaperJob × PaperAccount) (row : FrameRow) (side : Option OrderSide) :
    PaperJob × PaperAccount :=
  (known.1, known.2.after known.1.settings row.close side)
def livePaperEntries (known : PaperJob × PaperAccount) (row : FrameRow)
    (side : Option OrderSide) : List PaperOrder :=
  known.1.orders known.2 row side

/-- The side a tick trades on, if the candle is new to the session. -/
def PaperWorld.side (w : PaperWorld) (row : FrameRow) : Option OrderSide :=
  if w.db.session.isNew row then w.broker.side row else none

theorem liveTick_keepsBook : KeepsBook LiveTick.apply LiveTick.shown LiveTick.side livePaperNext
    livePaperEntries := by
  rintro ⟨b, w⟩ row
  unfold LiveTick.apply
  rw [applyCandle_eq]
  rfl

theorem tick_eq (w : PaperWorld) (row : FrameRow) :
    w.tick row = if w.db.session.isNew row then w.feed row else w := by
  have hloaded : (loadPaperSession w.db).session = w.db.session := rfl
  unfold PaperWorld.tick processLivePaperSession
  dsimp only
  rw [hloaded]
  by_cases hnew : w.db.session.isNew row
  · rw [if_pos hnew, List.filter_cons_of_pos hnew]
    rfl
  · rw [if_neg hnew, List.filter_cons_of_neg hnew]
    rfl

theorem paperWorld_keepsBook :
    KeepsBook PaperWorld.tick PaperWorld.shown PaperWorld.side livePaperNext livePaperEntries := by
  intro w row
  simp only [tick_eq, PaperWorld.side]
  split
  · rw [feed_eq]
    rfl
  · show w.shown = (w.shown.1, w.db.orders ++ [])
    rw [List.append_nil]
    rfl

/-- The candle comes after everything the session has processed. -/
def PaperWorld.Ahead (w : PaperWorld) (row : FrameRow) : Prop :=
  ∀ last, w.db.session.lastProcessedCandleTimeUtc = some last → last < row.time

theorem isNew_of_ahead {w : PaperWorld} {row : FrameRow} (h : w.Ahead row) :
    w.db.session.isNew row = true := by
  unfold PaperSession.isNew
  cases hlast : w.db.session.lastProcessedCandleTimeUtc with
  | none => rfl
  | some last => exact decide_eq_true (h last hlast)

theorem ahead_of_isNew {w : PaperWorld} {row : FrameRow} (h : w.db.session.isNew row = true) :
    w.Ahead row := by
  intro last hlast
  unfold PaperSession.isNew at h
  rw [hlast] at h
  exact of_decide_eq_true h

theorem lastProcessed_tick {w : PaperWorld} {row : FrameRow} (h : w.Ahead row) :
    (w.tick row).db.session.lastProcessedCandleTimeUtc = some row.time := by
  rw [tick_eq, if_pos (isNew_of_ahead h), feed_eq]
  rfl

section Alike

variable {loaded : PaperStore} {state : LiveTick} {w : PaperWorld} {row : FrameRow}

theorem liveTick_side_eq (hsame : state.shown = w.shown) :
    state.side row = w.db.session.account.side row.signal (state.1.block row).isNone := by
  have haccount : state.1.account = w.db.session.account := congrArg (fun x => x.1.2) hsame
  rw [← haccount]
  rfl

theorem paperWorld_side_eq (hahead : w.Ahead row) :
    w.side row = w.db.session.account.side row.signal
      (w.broker.block row).isNone :=
  if_pos (isNew_of_ahead hahead)

theorem live_choice_iff (hloaded : state.1.session = loaded) (hsame : state.shown = w.shown)
    (hahead : w.Ahead row) : SeesAlike loaded w row ↔ state.side row = w.side row := by
  have hjob : state.1.job = w.db.session.job := congrArg (fun x => x.1.1) hsame
  have haccount : state.1.account = w.db.session.account := congrArg (fun x => x.1.2) hsame
  have hstale : state.1.block row = none
      ↔ ¬ loaded.MemoryBlocks w.db.session.job w.db.session.account row
        ∧ w.db.session.account.AdmitsBuy w.db.session.job.settings row := by
    rw [← hloaded, ← hjob, ← haccount]
    exact buyBlock_eq_none_iff _ _ _ _ _
  have hfresh : w.broker.block row = none
      ↔ ¬ (loadPaperSession w.db).MemoryBlocks w.db.session.job w.db.session.account row
        ∧ w.db.session.account.AdmitsBuy w.db.session.job.settings row :=
    buyBlock_eq_none_iff _ _ _ _ _
  rw [liveTick_side_eq hsame, paperWorld_side_eq hahead, side_eq_iff, Bool.eq_iff_iff,
    Option.isNone_iff_eq_none, Option.isNone_iff_eq_none, hstale, hfresh, not_and_iff_not_and]
  exact Iff.rfl

end Alike

theorem orders_length_ne {job : PaperJob} {a : PaperAccount} {row : FrameRow} {signal : Signal}
    {p q : Bool} (h : a.side signal p ≠ a.side signal q) :
    (job.orders a row (a.side signal p)).length ≠ (job.orders a row (a.side signal q)).length := by
  unfold PaperAccount.side at h ⊢
  cases signal <;> cases p <;> cases q <;> simp_all [PaperJob.orders]

theorem live_columns_run (state : LiveTick) (rows : List FrameRow)
    (h : state.shown.1 = state.2.shown.1) :
    (run LiveTick.apply state rows).shown.1 = (run LiveTick.apply state rows).2.shown.1
      ∧ (run LiveTick.apply state rows).2.db.session.job = state.2.db.session.job := by
  refine run_invariant (P := fun s : LiveTick =>
    s.shown.1 = s.2.shown.1 ∧ s.2.db.session.job = state.2.db.session.job) ?_ ⟨h, rfl⟩ rows
  rintro ⟨b, w⟩ row ⟨hcolumns, hjob⟩
  have hown : b.job = w.db.session.job := congrArg Prod.fst hcolumns
  unfold LiveTick.apply
  rw [applyCandle_eq]
  exact ⟨congrArg (fun job => (job, b.accountAfter row)) hown, hjob⟩

theorem job_tick (w : PaperWorld) (row : FrameRow) :
    (w.tick row).db.session.job = w.db.session.job :=
  congrArg (fun x => x.1.1) (paperWorld_keepsBook w row)

/-- **When a tick of the live broker leaves the books of its candles one by one**: every candle
finds the session loaded at the start as good as the one its own tick would load. -/
theorem live_batching_iff (w : PaperWorld) (f : Frame) :
    (processLivePaperSession w f.rows).SameBooks (processCandlesOneByOne w f.rows)
      ↔ StepsOk PaperWorld.tick (SeesAlike (loadPaperSession w.db)) w
          (f.rows.filter w.db.session.isNew) := by
  let rows := f.rows.filter w.db.session.isNew
  let start : LiveTick := (w.broker, w)
  have hsorted : rows.Pairwise (fun r s => r.time < s.time) := f.sorted.filter _
  have hahead : StepsOk PaperWorld.tick PaperWorld.Ahead w rows :=
    stepsOk_ahead (fun w : PaperWorld => w.db.session.lastProcessedCandleTimeUtc) FrameRow.time
      (fun _ _ => lastProcessed_tick) hsorted
      (fun row hrow => ahead_of_isNew (List.mem_filter.mp hrow).2)
  have hbooks : (run LiveTick.apply start rows).shown = (run PaperWorld.tick w rows).shown
      ↔ StepsOk PaperWorld.tick (SeesAlike (loadPaperSession w.db)) w rows := by
    refine shown_run_eq_iff (R := fun state _ => state.1.session = loadPaperSession w.db)
      PaperOrder.orderTime liveTick_keepsBook paperWorld_keepsBook ?_
      (fun _ _ _ => live_choice_iff) (fun _ _ _ _ => orderTime_of_mem_orders) ?_ rfl rfl
      (hsorted.imp (fun h => ne_of_lt h)) hahead
    · intro state _ row hloaded _ _ _
      unfold LiveTick.apply
      rw [applyCandle_eq]
      exact hloaded
    · intro state w' row _ hsame hahead hne
      rw [liveTick_side_eq hsame, paperWorld_side_eq hahead] at hne ⊢
      have haccount : state.shown.1 = (w'.db.session.job, w'.db.session.account) :=
        congrArg Prod.fst hsame
      rw [haccount]
      exact orders_length_ne hne
  rw [← hbooks]
  obtain ⟨hcolumns, hjob⟩ := live_columns_run start rows rfl
  have hjobs : (run PaperWorld.tick w rows).db.session.job = w.db.session.job :=
    run_invariant (P := fun w' : PaperWorld => w'.db.session.job = w.db.session.job)
      (fun w' row h => (job_tick w' row).trans h) rfl rows
  constructor
  · intro h
    exact Prod.ext (hcolumns.trans (Prod.ext (hjob.trans hjobs.symm) h.account)) h.orders
  · intro h
    have hknown := hcolumns.symm.trans (congrArg Prod.fst h)
    exact ⟨congrArg Prod.snd h, congrArg Prod.snd hknown⟩

/-! ## The forward broker -/

/-- When the candles get a tick of their own, given the minutes of a candle: each no earlier
than it is completed. -/
structure TickTimes where
  tickAt : ℕ → FrameRow → UtcTime
  completed : ∀ (unit : ℕ) c, c.time + unit * 60 ≤ tickAt unit c
  stamp : FrameRow → UtcTime

/-- The broker of a tick, with the rows it writes to. -/
abbrev ForwardTick := ForwardPaperBroker × ForwardStore

def ForwardTick.apply (clock : FrameRow → UtcTime) (state : ForwardTick) (row : FrameRow) :
    ForwardTick :=
  state.1.applyCandle state.2 row (clock row)
def ForwardTick.side (state : ForwardTick) (row : FrameRow) : Option OrderSide := state.1.side row

def TickTimes.tick (times : TickTimes) (db : ForwardStore) (row : FrameRow) : ForwardStore :=
  processForwardSession times.stamp (times.tickAt db.session.job.unit row) db [row]

/-- A tick for every new candle, each with the session loaded again. -/
def processForwardOneByOne (times : TickTimes) (now : UtcTime) (db : ForwardStore)
    (candles : List FrameRow) : ForwardStore :=
  run times.tick db (candles.filter (db.session.isNew now))

/-- The day or the last sells block a buy, as a session has them. -/
def ForwardStore.MemoryBlocks (session : ForwardStore) (job : ForwardJob) (a : PaperAccount)
    (row : FrameRow) : Prop :=
  AutoCoinBot.MemoryBlocks job.settings a row.close (session.dayStart a row) session.losses

/-- A candle finds the session of its tick as good as the one the rows give now. -/
def ForwardSeesAlike (session db : ForwardStore) (row : FrameRow) : Prop :=
  row.signal = .buy → db.session.account.AdmitsForwardBuy db.session.job.settings row →
    (session.MemoryBlocks db.session.job db.session.account row
      ↔ (loadForwardSession db).MemoryBlocks db.session.job db.session.account row)

/-- The books of a session: its orders, apart from when they were written, and its account. -/
structure ForwardStore.SameBooks (db db' : ForwardStore) : Prop where
  orders : db.orders.map ForwardOrder.toForwardOrderData
    = db'.orders.map ForwardOrder.toForwardOrderData
  account : db.session.account = db'.session.account

instance (db db' : ForwardStore) : Decidable (db.SameBooks db') :=
  decidable_of_iff
    (db.orders.map ForwardOrder.toForwardOrderData = db'.orders.map ForwardOrder.toForwardOrderData
      ∧ db.session.account = db'.session.account)
    ⟨fun ⟨ho, ha⟩ => ⟨ho, ha⟩, fun h => ⟨h.orders, h.account⟩⟩

def ForwardTick.shown (state : ForwardTick) :
    (ForwardJob × PaperAccount) × List ForwardOrderData :=
  ((state.1.job, state.1.account), state.2.orders.map ForwardOrder.toForwardOrderData)
def ForwardStore.shown (db : ForwardStore) : (ForwardJob × PaperAccount) × List ForwardOrderData :=
  ((db.session.job, db.session.account), db.orders.map ForwardOrder.toForwardOrderData)

def forwardPaperNext (known : ForwardJob × PaperAccount) (row : FrameRow)
    (side : Option OrderSide) : ForwardJob × PaperAccount :=
  (known.1, known.2.forwardAfter known.1.settings row.close side)
def forwardPaperEntries (known : ForwardJob × PaperAccount) (row : FrameRow)
    (side : Option OrderSide) : List ForwardOrderData :=
  known.1.orders known.2 row side

/-- The candle comes after everything the session has processed. -/
def ForwardStore.Ahead (db : ForwardStore) (row : FrameRow) : Prop :=
  ∀ last, db.session.lastProcessedCandleTimeUtc = some last → last < row.time

instance (db : ForwardStore) (row : FrameRow) : Decidable (db.Ahead row) :=
  decidable_of_iff (db.session.lastProcessedCandleTimeUtc.all (fun last => decide (last < row.time)))
    (by simp [ForwardStore.Ahead, Option.all_eq_true])

/-- The side a tick trades on, if the candle is new to the session. -/
def ForwardStore.side (db : ForwardStore) (row : FrameRow) : Option OrderSide :=
  if db.Ahead row then (ForwardPaperBroker.ofSession (loadForwardSession db)).side row else none

theorem map_stamped (orders : List ForwardOrder) (data : List ForwardOrderData) (now : UtcTime) :
    (orders ++ data.map (fun order => ({ order with createdAt := now } : ForwardOrder))).map
        ForwardOrder.toForwardOrderData
      = orders.map ForwardOrder.toForwardOrderData ++ data := by
  rw [List.map_append, List.map_map]
  congr 1
  exact List.map_id' data

theorem forwardTick_keepsBook (clock : FrameRow → UtcTime) :
    KeepsBook (ForwardTick.apply clock) ForwardTick.shown ForwardTick.side forwardPaperNext
      forwardPaperEntries := by
  rintro ⟨b, db⟩ row
  unfold ForwardTick.apply
  rw [forward_applyCandle_eq]
  exact Prod.ext rfl (map_stamped _ _ _)

theorem isNew_iff (times : TickTimes) (db : ForwardStore) (row : FrameRow) :
    db.session.isNew (times.tickAt db.session.job.unit row) row = true ↔ db.Ahead row := by
  unfold ForwardSession.isNew ForwardStore.Ahead
  rw [decide_eq_true (times.completed db.session.job.unit row), Bool.true_and, Option.all_eq_true]
  simp only [decide_eq_true_eq]

theorem forward_tick_eq (times : TickTimes) (db : ForwardStore) (row : FrameRow) :
    times.tick db row
      = if db.Ahead row then
          ((ForwardPaperBroker.ofSession (loadForwardSession db)).applyCandle db row
            (times.stamp row)).2
        else { db with session := (loadForwardSession db).noNewCandle } := by
  have hloaded : (loadForwardSession db).session = db.session := rfl
  unfold TickTimes.tick processForwardSession
  dsimp only
  rw [hloaded]
  by_cases hahead : db.Ahead row
  · rw [if_pos hahead, List.filter_cons_of_pos ((isNew_iff times db row).mpr hahead)]
    rfl
  · rw [if_neg hahead, List.filter_cons_of_neg (fun h => hahead ((isNew_iff times db row).mp h))]
    rfl

theorem forwardStore_keepsBook (times : TickTimes) :
    KeepsBook times.tick ForwardStore.shown ForwardStore.side forwardPaperNext
      forwardPaperEntries := by
  intro db row
  simp only [forward_tick_eq, ForwardStore.side]
  split
  · rw [forward_applyCandle_eq]
    exact Prod.ext rfl (map_stamped _ _ _)
  · show db.shown = (db.shown.1, db.shown.2 ++ [])
    rw [List.append_nil]

theorem forward_lastProcessed_tick {times : TickTimes} {db : ForwardStore} {row : FrameRow}
    (h : db.Ahead row) : (times.tick db row).session.lastProcessedCandleTimeUtc = some row.time := by
  rw [forward_tick_eq, if_pos h, forward_applyCandle_eq]
  rfl

section Alike

variable {loaded db : ForwardStore} {state : ForwardTick} {row : FrameRow}

theorem forwardTick_side_eq (hsame : state.shown = db.shown) :
    state.side row = db.session.account.side row.signal (state.1.block row).isNone := by
  have haccount : state.1.account = db.session.account := congrArg (fun x => x.1.2) hsame
  rw [← haccount]
  rfl

theorem forwardStore_side_eq (hahead : db.Ahead row) :
    db.side row = db.session.account.side row.signal
      ((ForwardPaperBroker.ofSession (loadForwardSession db)).block row).isNone :=
  if_pos hahead

theorem forward_choice_iff (hloaded : state.1.session = loaded) (hsame : state.shown = db.shown)
    (hahead : db.Ahead row) : ForwardSeesAlike loaded db row ↔ state.side row = db.side row := by
  have hjob : state.1.job = db.session.job := congrArg (fun x => x.1.1) hsame
  have haccount : state.1.account = db.session.account := congrArg (fun x => x.1.2) hsame
  have hstale : state.1.block row = none
      ↔ ¬ loaded.MemoryBlocks db.session.job db.session.account row
        ∧ db.session.account.AdmitsForwardBuy db.session.job.settings row := by
    rw [← hloaded, ← hjob, ← haccount]
    exact forwardBuyBlock_eq_none_iff _ _ _ _ _
  have hfresh : (ForwardPaperBroker.ofSession (loadForwardSession db)).block row = none
      ↔ ¬ (loadForwardSession db).MemoryBlocks db.session.job db.session.account row
        ∧ db.session.account.AdmitsForwardBuy db.session.job.settings row :=
    forwardBuyBlock_eq_none_iff _ _ _ _ _
  rw [forwardTick_side_eq hsame, forwardStore_side_eq hahead, side_eq_iff, Bool.eq_iff_iff,
    Option.isNone_iff_eq_none, Option.isNone_iff_eq_none, hstale, hfresh, not_and_iff_not_and]
  exact Iff.rfl

end Alike

theorem forward_orders_length_ne {job : ForwardJob} {a : PaperAccount} {row : FrameRow}
    {signal : Signal} {p q : Bool} (h : a.side signal p ≠ a.side signal q) :
    (job.orders a row (a.side signal p)).length ≠ (job.orders a row (a.side signal q)).length := by
  unfold PaperAccount.side at h ⊢
  cases signal <;> cases p <;> cases q <;> simp_all [ForwardJob.orders]

theorem forward_columns_run (clock : FrameRow → UtcTime) (state : ForwardTick)
    (rows : List FrameRow) (h : state.shown.1 = state.2.shown.1) :
    (run (ForwardTick.apply clock) state rows).shown.1
        = (run (ForwardTick.apply clock) state rows).2.shown.1
      ∧ (run (ForwardTick.apply clock) state rows).2.session.job = state.2.session.job := by
  refine run_invariant (P := fun s : ForwardTick =>
    s.shown.1 = s.2.shown.1 ∧ s.2.session.job = state.2.session.job) ?_ ⟨h, rfl⟩ rows
  rintro ⟨b, db⟩ row ⟨hcolumns, hjob⟩
  have hown : b.job = db.session.job := congrArg Prod.fst hcolumns
  unfold ForwardTick.apply
  rw [forward_applyCandle_eq]
  exact ⟨congrArg (fun job => (job, (b.after row).account)) hown, hjob⟩

theorem processForwardSession_sameBooks_iff (clock : FrameRow → UtcTime) (now : UtcTime)
    (db other : ForwardStore) (candles : List FrameRow) :
    (processForwardSession clock now db candles).SameBooks other
      ↔ (run (ForwardTick.apply clock) (ForwardPaperBroker.ofSession (loadForwardSession db), db)
          (candles.filter (db.session.isNew now))).2.SameBooks other := by
  have hloaded : (loadForwardSession db).session = db.session := rfl
  unfold processForwardSession
  dsimp only
  rw [hloaded]
  cases candles.filter (db.session.isNew now) with
  | nil => exact ⟨fun h => ⟨h.orders, h.account⟩, fun h => ⟨h.orders, h.account⟩⟩
  | cons row rows => exact Iff.rfl

theorem forward_batching_iff (clock : FrameRow → UtcTime) (now : UtcTime) (times : TickTimes)
    (db : ForwardStore) (f : Frame) :
    (processForwardSession clock now db f.rows).SameBooks
        (processForwardOneByOne times now db f.rows)
      ↔ StepsOk times.tick (ForwardSeesAlike (loadForwardSession db)) db
          (f.rows.filter (db.session.isNew now)) := by
  let rows := f.rows.filter (db.session.isNew now)
  let start : ForwardTick := (ForwardPaperBroker.ofSession (loadForwardSession db), db)
  have hsorted : rows.Pairwise (fun r s => r.time < s.time) := f.sorted.filter _
  have hahead0 : ∀ row ∈ rows, db.Ahead row := by
    intro row hrow last hlast
    have hnew := (Bool.and_eq_true_iff.mp (List.mem_filter.mp hrow).2).2
    rw [hlast] at hnew
    exact of_decide_eq_true hnew
  have hahead : StepsOk times.tick ForwardStore.Ahead db rows :=
    stepsOk_ahead (fun db : ForwardStore => db.session.lastProcessedCandleTimeUtc) FrameRow.time
      (fun _ _ => forward_lastProcessed_tick) hsorted hahead0
  have hbooks : (run (ForwardTick.apply clock) start rows).shown = (run times.tick db rows).shown
      ↔ StepsOk times.tick (ForwardSeesAlike (loadForwardSession db)) db rows := by
    refine shown_run_eq_iff (R := fun state _ => state.1.session = loadForwardSession db)
      ForwardOrderData.candleTimeUtc (forwardTick_keepsBook clock) (forwardStore_keepsBook times) ?_
      (fun _ _ _ => forward_choice_iff) (fun _ _ _ _ => candleTimeUtc_of_mem_orders) ?_ rfl rfl
      (hsorted.imp (fun h => ne_of_lt h)) hahead
    · intro state _ row hloaded _ _ _
      unfold ForwardTick.apply
      rw [forward_applyCandle_eq]
      exact hloaded
    · intro state db' row _ hsame hahead hne
      rw [forwardTick_side_eq hsame, forwardStore_side_eq hahead] at hne ⊢
      have haccount : state.shown.1 = (db'.session.job, db'.session.account) :=
        congrArg Prod.fst hsame
      rw [haccount]
      exact forward_orders_length_ne hne
  rw [processForwardSession_sameBooks_iff, ← hbooks]
  obtain ⟨hcolumns, hjob⟩ := forward_columns_run clock start rows rfl
  have hjobs : (run times.tick db rows).session.job = db.session.job :=
    run_invariant (P := fun db' : ForwardStore => db'.session.job = db.session.job)
      (fun db' row h => (congrArg (fun x => x.1.1) (forwardStore_keepsBook times db' row)).trans h)
      rfl rows
  constructor
  · intro h
    exact Prod.ext (hcolumns.trans (Prod.ext (hjob.trans hjobs.symm) h.account)) h.orders
  · intro h
    have hknown := hcolumns.symm.trans (congrArg Prod.fst h)
    exact ⟨congrArg Prod.snd h, congrArg Prod.snd hknown⟩

/-! ## Both -/

/-- **When ticks may be batched**: both brokers leave the books of one tick for each candle
exactly if every candle finds the session loaded at the start as good as its own. -/
theorem ticks_batched_iff (f : Frame) :
    (∀ w : PaperWorld,
      (processLivePaperSession w f.rows).SameBooks (processCandlesOneByOne w f.rows)
        ↔ StepsOk PaperWorld.tick (SeesAlike (loadPaperSession w.db)) w
            (f.rows.filter w.db.session.isNew))
      ∧ ∀ (clock : FrameRow → UtcTime) (now : UtcTime) (times : TickTimes) (db : ForwardStore),
        (processForwardSession clock now db f.rows).SameBooks
            (processForwardOneByOne times now db f.rows)
          ↔ StepsOk times.tick (ForwardSeesAlike (loadForwardSession db)) db
              (f.rows.filter (db.session.isNew now)) :=
  ⟨fun w => live_batching_iff w f,
    fun clock now times db => forward_batching_iff clock now times db f⟩

/-- A buy, a sell at a loss, and a second buy, a minute apart. -/
def lossThenBuy : Frame where
  rows :=
    [{ time := 60, high := 100, low := 100, close := 100, signal := .buy },
     { time := 120, high := 90, low := 90, close := 90, signal := .sell },
     { time := 180, high := 90, low := 90, close := 90, signal := .buy }]
  sorted := by decide

/-- A session that stops buying after one loss. -/
def oneLossSession : PaperWorld where
  db := createLivePaperSession
    { market := "KRW-BTC", strategy := "", risk := { consecutiveLossLimit := some 1 } } 100 (some 0) 0

/-- The forward session with the same settings. -/
def oneLossForwardSession : ForwardStore where
  session :=
    { job :=
        { candidateStrategyId := 1, market := "KRW-BTC", unit := 1, strategy := ""
          risk := { consecutiveLossLimit := some 1 } }
      initialBalanceKrw := 1000000
      account := PaperAccount.start 1000000
      currentPrice := 100, unrealizedPnl := 0, totalEquity := 1000000, totalReturnPercent := 0
      maxDrawdown := 0, tally := { tradeCount := 0 }, winRate := 0, profitFactor := 0
      lastProcessedCandleTimeUtc := some 0 }
  orders := []
  equityPoints :=
    [{ candleTimeUtc := 0, equity := 1000000, cashBalance := 1000000, positionVolume := 0
       price := 100, drawdown := 0 }]

/-- Every candle is ticked when it is completed. -/
def promptTicks : TickTimes where
  tickAt := fun unit c => c.time + unit * 60
  completed := fun _ _ => le_refl _
  stamp := fun c => c.time

theorem second_buy_needs_own_tick :
    ¬ (processLivePaperSession oneLossSession lossThenBuy.rows).SameBooks
        (processCandlesOneByOne oneLossSession lossThenBuy.rows)
      ∧ ¬ (processForwardSession FrameRow.time 240 oneLossForwardSession lossThenBuy.rows).SameBooks
        (processForwardOneByOne promptTicks 240 oneLossForwardSession lossThenBuy.rows) := by
  decide +kernel

end AutoCoinBot
