/-
  Backtest.Accounting — what the account of a backtest keeps, whatever the
  signals and the costs.
-/
import AutoCoinBot.Backtest.RunBacktest

namespace AutoCoinBot

open Library

/-! ## Orders -/

def alternatingSides (n : ℕ) : List OrderSide :=
  (List.range n).map (fun k => if k % 2 = 0 then .buy else .sell)

theorem alternatingSides_succ (n : ℕ) : alternatingSides (n + 1)
    = alternatingSides n ++ [if n % 2 = 0 then .buy else .sell] := by
  unfold alternatingSides
  rw [List.range_succ, List.map_append]
  rfl

def sellPnls (orders : List BacktestOrder) : List ℚ :=
  (orders.filter (fun o => o.side = .sell)).filterMap BacktestOrder.pnl

theorem sellPnls_append_buy (orders : List BacktestOrder) {o : BacktestOrder} (h : o.side = .buy) :
    sellPnls (orders ++ [o]) = sellPnls orders := by
  unfold sellPnls
  rw [List.filter_append, List.filter_singleton, h]
  simp

theorem sellPnls_append_sell (orders : List BacktestOrder) {o : BacktestOrder} {pnl : ℚ}
    (h : o.side = .sell) (hpnl : o.pnl = some pnl) :
    sellPnls (orders ++ [o]) = sellPnls orders ++ [pnl] := by
  unfold sellPnls
  rw [List.filter_append, List.filter_singleton, h]
  simp [hpnl]

/-! ## What every row keeps -/

/-- A point of the curve is in range. -/
structure EquityPoint.InRange (p : EquityPoint) : Prop where
  cash_nonneg : 0 ≤ p.cashKrw
  quantity_nonneg : 0 ≤ p.btcQuantity
  equity_nonneg : 0 ≤ p.equity
  neg_one_le_drawdown : -1 ≤ p.drawdown
  drawdown_nonpos : p.drawdown ≤ 0

/-- The invariant of the loop. -/
structure Accounts (job : BacktestJob) (s : BacktestState) : Prop where
  cash_nonneg : 0 ≤ s.cash
  books : s.cash + s.entryCost = job.settings.initialCash + (sellPnls s.orders).sum
  realized : s.realizedPnlTotal = (sellPnls s.orders).sum
  sides : s.orders.map BacktestOrder.side = alternatingSides s.orders.length
  -- flat after a sell, or before the first buy; invested after a buy
  position : (s.quantity = 0 ∧ s.entryCost = 0 ∧ s.orders.length % 2 = 0)
    ∨ (0 < s.quantity ∧ s.orders.length % 2 = 1)
  points : ∀ p ∈ s.equityCurve, p.InRange
  initial_le_peak : job.settings.initialCash ≤ s.peak

section Rows

variable (job : BacktestJob) {s : BacktestState}

theorem Accounts.quantity_nonneg {job : BacktestJob} (h : Accounts job s) : 0 ≤ s.quantity := by
  rcases h.position with ⟨hflat, -, -⟩ | ⟨hopen, -⟩
  · exact hflat.ge
  · exact hopen.le

theorem accounts_start (hcash : 0 ≤ job.settings.initialCash) : Accounts job job.start where
  cash_nonneg := hcash
  books := rfl
  realized := rfl
  sides := rfl
  position := .inl ⟨rfl, rfl, rfl⟩
  points := by
    intro p hp
    cases hp
  initial_le_peak := le_refl _

theorem accounts_note (row : FrameRow) (h : Accounts job s) : Accounts job (s.note row) := by
  unfold BacktestState.note
  split
  · exact ⟨h.cash_nonneg, h.books, h.realized, h.sides, h.position, h.points, h.initial_le_peak⟩
  · exact h

theorem accounts_bought {row next : FrameRow} (h : Accounts job s) (hbuys : s.Buys job row next) :
    Accounts job (s.bought job row next) := by
  obtain ⟨-, hflat, -, hquantity⟩ := hbuys
  obtain ⟨-, hcost, heven⟩ | ⟨hopen, -⟩ := h.position
  · have hbudget := budget_le_cash job h.cash_nonneg
    have hcashAfter : max (s.cash - s.cash * job.settings.positionSize) 0
        = s.cash - s.cash * job.settings.positionSize := max_eq_left (by linarith)
    have hodd : (s.orders.length + 1) % 2 = 1 := by omega
    unfold BacktestState.bought
    constructor
    · exact le_max_right _ _
    · dsimp only
      rw [sellPnls_append_buy _ rfl, hcashAfter, ← h.books, hcost]
      ring
    · dsimp only
      rw [sellPnls_append_buy _ rfl]
      exact h.realized
    · dsimp only
      rw [List.map_append, List.length_append, List.length_singleton, alternatingSides_succ,
        if_pos heven, h.sides]
      rfl
    · right
      refine ⟨hquantity, ?_⟩
      rw [List.length_append]
      exact hodd
    · exact h.points
    · exact h.initial_le_peak
  · exact absurd hflat hopen.ne'

theorem accounts_sold {row next : FrameRow} (h : Accounts job s) (hsells : s.Sells row) :
    Accounts job (s.sold job row next) := by
  obtain ⟨-, hquantity⟩ := hsells
  have hnet : 0 ≤ job.sellNet s.quantity next := le_max_right _ _
  have hodd : s.orders.length % 2 = 1 := by
    rcases h.position with ⟨hflat, -, -⟩ | ⟨-, hodd⟩
    · exact absurd hflat hquantity.ne'
    · exact hodd
  unfold BacktestState.sold
  constructor
  · exact add_nonneg h.cash_nonneg hnet
  · dsimp only
    rw [sellPnls_append_sell _ rfl rfl, List.sum_append, List.sum_singleton]
    have hbooks := h.books
    linarith
  · dsimp only
    rw [sellPnls_append_sell _ rfl rfl, List.sum_append, List.sum_singleton, h.realized]
  · dsimp only
    rw [List.map_append, List.length_append, List.length_singleton, alternatingSides_succ,
      if_neg (by omega), h.sides]
    rfl
  · left
    refine ⟨rfl, rfl, ?_⟩
    rw [List.length_append, List.length_singleton]
    omega
  · exact h.points
  · exact h.initial_le_peak

theorem accounts_trade (row : FrameRow) (next : Option FrameRow) (h : Accounts job s) :
    Accounts job (s.trade job row next) := by
  cases next with
  | none => exact h
  | some next =>
    rcases trade_cases job s row next with heq | ⟨hbuys, heq⟩ | ⟨hsells, heq⟩
    · rw [heq]
      exact h
    · rw [heq]
      exact accounts_bought job h hbuys
    · rw [heq]
      exact accounts_sold job h hsells

theorem drawdown_inRange {equity peak : ℚ} (hequity : 0 ≤ equity) (hpeak : equity ≤ peak) :
    -1 ≤ (if peak ≠ 0 then (equity - peak) / peak else 0)
      ∧ (if peak ≠ 0 then (equity - peak) / peak else 0) ≤ 0 := by
  split
  · rename_i hne
    have hpos : 0 < peak := lt_of_le_of_ne (hequity.trans hpeak) (Ne.symm hne)
    constructor
    · rw [le_div_iff₀ hpos]
      linarith
    · exact div_nonpos_of_nonpos_of_nonneg (by linarith) hpos.le
  · exact ⟨by norm_num, le_refl 0⟩

theorem accounts_mark {row : FrameRow} (hprice : 0 < row.close) (h : Accounts job s) :
    Accounts job (s.mark row) := by
  have hequity : 0 ≤ s.cash + s.quantity * row.close :=
    add_nonneg h.cash_nonneg (mul_nonneg h.quantity_nonneg hprice.le)
  have hdrawdown := drawdown_inRange hequity (le_max_right s.peak _)
  unfold BacktestState.mark
  refine ⟨h.cash_nonneg, h.books, h.realized, h.sides, h.position, ?_,
    h.initial_le_peak.trans (le_max_left _ _)⟩
  intro p hp
  rcases List.mem_append.mp hp with hold | hnew
  · exact h.points p hold
  · rw [List.mem_singleton.mp hnew]
    exact ⟨h.cash_nonneg, h.quantity_nonneg, hequity, hdrawdown.1, hdrawdown.2⟩

theorem accounts_row {item : FrameRow × Option FrameRow} (hprice : 0 < item.1.close)
    (h : Accounts job s) : Accounts job (backtestRow job s item) :=
  accounts_mark job hprice (accounts_trade job item.1 item.2 (accounts_note job item.1 h))

theorem accounts_final {rows : List FrameRow} (hprices : ∀ r ∈ rows, 0 < r.close)
    (hcash : 0 ≤ job.settings.initialCash) : Accounts job (job.final rows) := by
  have hstep : ∀ (s : BacktestState) (item : FrameRow × Option FrameRow), 0 < item.1.close →
      Accounts job s → Accounts job (backtestRow job s item) :=
    fun _ _ hprice h => accounts_row job hprice h
  refine run_invariant_of_mem hstep (accounts_start job hcash) ?_
  intro item hitem
  exact hprices item.1 (mem_withNext hitem).1

/-! ## The curve -/

theorem equityCurve_final (rows : List FrameRow) :
    (job.final rows).equityCurve.map EquityPoint.time = rows.map FrameRow.time := by
  have hrun : ∀ (items : List (FrameRow × Option FrameRow)) (s : BacktestState),
      (run (backtestRow job) s items).equityCurve.map EquityPoint.time
        = s.equityCurve.map EquityPoint.time ++ items.map (fun item => item.1.time) := by
    intro items
    induction items with
    | nil =>
      intro s
      rw [List.map_nil, List.append_nil]
      rfl
    | cons item items ih =>
      intro s
      rw [run_cons, ih, equityCurve_row, List.map_append, List.append_assoc]
      rfl
  unfold BacktestJob.final
  rw [hrun]
  have hrows : (withNext rows).map (fun item => item.1.time) = rows.map FrameRow.time := by
    rw [← map_fst_withNext rows, List.map_map]
    rw [map_fst_withNext rows]
    rfl
  rw [hrows]
  rfl

theorem finalEquity_eq {rows : List FrameRow} {last : FrameRow} (hlast : rows.getLast? = some last) :
    ((job.final rows).metrics job).finalEquity
      = (job.final rows).cash + (job.final rows).quantity * last.close := by
  obtain ⟨before, hrows⟩ := List.getLast?_eq_some_iff.mp hlast
  have hsplit : withNext (before ++ [last])
      = (withNext (before ++ [last])).take before.length ++ [(last, none)] := withNext_eq_append
  set s := run (backtestRow job) job.start ((withNext (before ++ [last])).take before.length)
  have hfinal : job.final rows = backtestRow job s (last, none) := by
    unfold BacktestJob.final
    rw [hrows, hsplit, run_append]
    rfl
  unfold BacktestState.metrics
  dsimp only
  rw [hfinal, equityCurve_row, List.getLast?_append, List.getLast?_singleton, Option.some_or,
    Option.map_some, Option.getD_some]
  rfl

theorem mdd_inRange (h : ∀ p ∈ s.equityCurve, p.InRange) :
    0 ≤ (s.metrics job).mdd ∧ (s.metrics job).mdd ≤ 1 := by
  have hdeepest : -1 ≤ (s.equityCurve.map EquityPoint.drawdown).min?.getD 0
      ∧ (s.equityCurve.map EquityPoint.drawdown).min?.getD 0 ≤ 0 := by
    cases hmin : (s.equityCurve.map EquityPoint.drawdown).min? with
    | none => exact ⟨by norm_num, le_refl 0⟩
    | some drawdown =>
      obtain ⟨p, hp, heq⟩ := List.mem_map.mp (List.min?_mem hmin)
      rw [Option.getD_some, ← heq]
      exact ⟨(h p hp).neg_one_le_drawdown, (h p hp).drawdown_nonpos⟩
  exact ⟨abs_nonneg _, abs_le.mpr ⟨hdeepest.1, hdeepest.2.trans zero_le_one⟩⟩

end Rows

/-! ## The result -/

/-- The books of a result close; `final` is the account after the last row. -/
structure ClosedAccounts (rows : List FrameRow) (final : BacktestState) (result : BacktestResult) :
    Prop where
  times : result.equityCurve.map EquityPoint.time = rows.map FrameRow.time
  points : ∀ p ∈ result.equityCurve, 0 ≤ p.cashKrw ∧ 0 ≤ p.btcQuantity ∧ 0 ≤ p.equity
  sides : result.orders.map BacktestOrder.side = alternatingSides result.orders.length
  finalEquity : ∀ last, rows.getLast? = some last → result.metrics.finalEquity
    = result.risk.initialCash + (sellPnls result.orders).sum
      + if 0 < final.quantity then final.quantity * last.close - final.entryCost else 0
  realizedPnl : result.metrics.realizedPnl = (sellPnls result.orders).sum
  mdd : 0 ≤ result.metrics.mdd ∧ result.metrics.mdd ≤ 1

/-- **Backtest accounting is closed**, for every signal sequence and every cost. -/
theorem backtest_accounts_closed {rows : List FrameRow} (hlong : 30 ≤ rows.length)
    (hprices : ∀ r ∈ rows, 0 < r.close) (strategy : String) (risk : BacktestRisk)
    (market : String) (hcash : 0 ≤ risk.settings.initialCash) :
    let job : BacktestJob := { strategy := strategy, market := market, settings := risk.settings }
    ∃ result, runBacktest rows strategy risk market = .ok result
      ∧ ClosedAccounts rows (job.final rows) result := by
  intro job
  refine ⟨_, runBacktest_eq_ok hlong strategy risk market, ?_⟩
  have h : Accounts job (job.final rows) := accounts_final job hprices hcash
  constructor
  · exact equityCurve_final job rows
  · intro p hp
    have hrange := h.points p hp
    exact ⟨hrange.cash_nonneg, hrange.quantity_nonneg, hrange.equity_nonneg⟩
  · exact h.sides
  · intro last hlast
    have hequity : ((job.final rows).metrics job).finalEquity = _ := finalEquity_eq job hlast
    have hbooks := h.books
    show ((job.final rows).metrics job).finalEquity = job.settings.initialCash
      + (sellPnls (job.final rows).orders).sum + _
    rw [hequity]
    rcases h.position with ⟨hflat, hcost, -⟩ | ⟨hopen, -⟩
    · rw [hcost, add_zero] at hbooks
      rw [hflat, if_neg (lt_irrefl 0), hbooks]
      ring
    · rw [if_pos hopen, ← hbooks]
      ring
  · exact h.realized
  · exact mdd_inRange job h.points

/-- Thirty candles that rise by one; the strategy buys on the first and sells on the third. -/
def exampleBacktestRows : List FrameRow :=
  (List.range 30).map (fun k =>
    { time := 60 * k, openPrice := 100 + k, close := 100 + k
      signal := if k = 0 then .buy else if k = 2 then .sell else .hold })

theorem backtest_accounts_closed_example :
    let risk : BacktestRisk := { initialCash := some 1000, slippageRate := some (3 / 2) }
    let job : BacktestJob := { strategy := "", market := "KRW-BTC", settings := risk.settings }
    ∃ result, runBacktest exampleBacktestRows "" risk "KRW-BTC" = .ok result
      ∧ ClosedAccounts exampleBacktestRows (job.final exampleBacktestRows) result :=
  backtest_accounts_closed (by decide) (by decide +kernel) "" _ "KRW-BTC" (by decide +kernel)

end AutoCoinBot
