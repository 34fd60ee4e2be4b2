/-
  Backtest.Costs — the same backtest under lower costs.

  Two runs over the same rows, one with lower costs, stay coupled: the cheaper one never
  holds less cash or less volume. They trade in step until the other runs out of cash; from
  then on that one is worth nothing.
-/
import AutoCoinBot.Backtest.Accounting

namespace AutoCoinBot

open Library

/-! ## One fill under two costs -/

/-- The same run, with lower costs; the higher fee stays below one. -/
structure CheaperCosts (low high : BacktestSettings) : Prop where
  initialCash : low.initialCash = high.initialCash
  positionSize : low.positionSize = high.positionSize
  feeRate : low.feeRate ≤ high.feeRate
  feeRate_lt_one : high.feeRate < 1
  slippageRate : low.slippageRate ≤ high.slippageRate

section Fills

variable {job job' : BacktestJob} {next : FrameRow}

theorem buyPrice_pos (job : BacktestJob) (hopen : 0 < next.openPrice) : 0 < job.buyPrice next := by
  have hslippage := job.settings.slippageRate_nonneg
  exact mul_pos hopen (by linarith)

theorem spend_eq (job : BacktestJob) (hfee : job.settings.feeRate ≤ 1) {budget : ℚ}
    (hbudget : 0 ≤ budget) : job.spend budget = budget * (1 - job.settings.feeRate) := by
  unfold BacktestJob.spend
  rw [mul_sub, mul_one]
  refine max_eq_left (sub_nonneg.mpr ?_)
  exact mul_le_of_le_one_right hbudget hfee

theorem buyQuantity_eq (job : BacktestJob) (hopen : 0 < next.openPrice)
    (hfee : job.settings.feeRate ≤ 1) {cash : ℚ} (hcash : 0 ≤ cash) : job.buyQuantity cash next
      = cash * job.settings.positionSize * (1 - job.settings.feeRate) / job.buyPrice next := by
  unfold BacktestJob.buyQuantity
  rw [if_pos (buyPrice_pos job hopen),
    spend_eq job hfee (mul_nonneg hcash job.settings.positionSize_nonneg)]

theorem buyQuantity_pos_iff (job : BacktestJob) (hopen : 0 < next.openPrice)
    (hfee : job.settings.feeRate < 1) {cash : ℚ} (hcash : 0 < cash) :
    0 < job.buyQuantity cash next ↔ 0 < job.settings.positionSize := by
  rw [buyQuantity_eq job hopen hfee.le hcash.le, div_pos_iff_of_pos_right (buyPrice_pos job hopen),
    mul_pos_iff_of_pos_right (sub_pos.mpr hfee), mul_pos_iff_of_pos_left hcash]

theorem buyQuantity_mono (hcosts : CheaperCosts job.settings job'.settings)
    (hopen : 0 < next.openPrice) {cash cash' : ℚ} (hcash' : 0 ≤ cash') (hcash : cash' ≤ cash) :
    job'.buyQuantity cash' next ≤ job.buyQuantity cash next := by
  have hfee' := hcosts.feeRate_lt_one
  have hfee := hcosts.feeRate.trans_lt hfee'
  have hsize := job.settings.positionSize_nonneg
  rw [buyQuantity_eq job' hopen hfee'.le hcash',
    buyQuantity_eq job hopen hfee.le (hcash'.trans hcash), ← hcosts.positionSize]
  have hprice : job.buyPrice next ≤ job'.buyPrice next := by
    unfold BacktestJob.buyPrice
    have hslippage := hcosts.slippageRate
    exact mul_le_mul_of_nonneg_left (by linarith) hopen.le
  refine div_le_div₀ ?_ ?_ (buyPrice_pos job hopen) hprice
  · exact mul_nonneg (mul_nonneg (hcash'.trans hcash) hsize) (by linarith)
  · refine mul_le_mul (mul_le_mul_of_nonneg_right hcash hsize) ?_ (by linarith) ?_
    · have hfees := hcosts.feeRate
      linarith
    · exact mul_nonneg (hcash'.trans hcash) hsize

theorem sellNet_mono (hcosts : CheaperCosts job.settings job'.settings)
    (hopen : 0 < next.openPrice) {quantity quantity' : ℚ} (hquantity' : 0 ≤ quantity')
    (hquantity : quantity' ≤ quantity) :
    job'.sellNet quantity' next ≤ job.sellNet quantity next := by
  have hfee' := hcosts.feeRate_lt_one
  have hfees := hcosts.feeRate
  have hslippage := hcosts.slippageRate
  unfold BacktestJob.sellNet
  dsimp only
  refine max_le ?_ (le_max_right _ _)
  by_cases hprice : job'.sellPrice next ≤ 0
  -- a slippage of one or more: nothing is brought in
  · refine le_trans ?_ (le_max_right _ _)
    have hgross : quantity' * job'.sellPrice next ≤ 0 := mul_nonpos_of_nonneg_of_nonpos hquantity' hprice
    calc quantity' * job'.sellPrice next - quantity' * job'.sellPrice next * job'.settings.feeRate
        = quantity' * job'.sellPrice next * (1 - job'.settings.feeRate) := by ring
      _ ≤ 0 := mul_nonpos_of_nonpos_of_nonneg hgross (by linarith)
  · refine le_trans ?_ (le_max_left _ _)
    rw [not_le] at hprice
    have hprices : job'.sellPrice next ≤ job.sellPrice next := by
      unfold BacktestJob.sellPrice
      exact mul_le_mul_of_nonneg_left (by linarith) hopen.le
    have hgross : quantity' * job'.sellPrice next ≤ quantity * job.sellPrice next :=
      mul_le_mul hquantity hprices hprice.le (hquantity'.trans hquantity)
    have hgrossPos : 0 ≤ quantity' * job'.sellPrice next := mul_nonneg hquantity' hprice.le
    calc quantity' * job'.sellPrice next - quantity' * job'.sellPrice next * job'.settings.feeRate
        = quantity' * job'.sellPrice next * (1 - job'.settings.feeRate) := by ring
      _ ≤ quantity * job.sellPrice next * (1 - job.settings.feeRate) :=
          mul_le_mul hgross (by linarith) (by linarith) (hgrossPos.trans hgross)
      _ = quantity * job.sellPrice next - quantity * job.sellPrice next * job.settings.feeRate := by
          ring

end Fills

/-! ## Two runs -/

/-- The coupling of a run `s` under lower costs with a run `s'` under higher ones. -/
structure Coupled (s s' : BacktestState) : Prop where
  cash_nonneg : 0 ≤ s'.cash
  quantity_nonneg : 0 ≤ s'.quantity
  cash_le : s'.cash ≤ s.cash
  quantity_le : s'.quantity ≤ s.quantity
  -- out of step only once the second has nothing left
  inStep : (s.quantity = 0 ↔ s'.quantity = 0) ∨ (s'.cash = 0 ∧ s'.quantity = 0)
  curves : List.Forall₂ (fun p p' => p'.equity ≤ p.equity) s.equityCurve s'.equityCurve

section Runs

variable {job job' : BacktestJob} {s s' : BacktestState} {row next : FrameRow}

theorem coupled_start (hcosts : CheaperCosts job.settings job'.settings)
    (hcash : 0 ≤ job'.settings.initialCash) : Coupled job.start job'.start where
  cash_nonneg := hcash
  quantity_nonneg := le_refl 0
  cash_le := hcosts.initialCash.ge
  quantity_le := le_refl 0
  inStep := .inl Iff.rfl
  curves := .nil

theorem coupled_note (h : Coupled s s') : Coupled (s.note row) (s'.note row) := by
  unfold BacktestState.note
  split
  · exact ⟨h.cash_nonneg, h.quantity_nonneg, h.cash_le, h.quantity_le, h.inStep, h.curves⟩
  · exact h

theorem buys_of_buys (hcosts : CheaperCosts job.settings job'.settings)
    (hopen : 0 < next.openPrice) (h : Coupled s s') (hbuys' : s'.Buys job' row next) :
    s.Buys job row next := by
  obtain ⟨hsignal, hflat', hcash', hquantity'⟩ := hbuys'
  have hcash : 0 < s.cash := hcash'.trans_le h.cash_le
  have hflat : s.quantity = 0 := by
    rcases h.inStep with hstep | ⟨hbroke, -⟩
    · exact hstep.mpr hflat'
    · exact absurd hbroke hcash'.ne'
  have hfee' := hcosts.feeRate_lt_one
  rw [buyQuantity_pos_iff job' hopen hfee' hcash', ← hcosts.positionSize] at hquantity'
  refine ⟨hsignal, hflat, hcash, ?_⟩
  rw [buyQuantity_pos_iff job hopen (hcosts.feeRate.trans_lt hfee') hcash]
  exact hquantity'

theorem coupled_bought (hcosts : CheaperCosts job.settings job'.settings)
    (hopen : 0 < next.openPrice) (h : Coupled s s') (hbuys : s.Buys job row next)
    (hbuys' : s'.Buys job' row next) :
    Coupled (s.bought job row next) (s'.bought job' row next) where
  cash_nonneg := le_max_right _ _
  quantity_nonneg := hbuys'.2.2.2.le
  cash_le := by
    have hsize := job.settings.positionSize_le_one
    show max (s'.cash - s'.cash * job'.settings.positionSize) 0
      ≤ max (s.cash - s.cash * job.settings.positionSize) 0
    refine max_le_max ?_ (le_refl 0)
    calc s'.cash - s'.cash * job'.settings.positionSize
        = s'.cash * (1 - job.settings.positionSize) := by rw [← hcosts.positionSize]; ring
      _ ≤ s.cash * (1 - job.settings.positionSize) :=
          mul_le_mul_of_nonneg_right h.cash_le (by linarith)
      _ = s.cash - s.cash * job.settings.positionSize := by ring
  quantity_le := buyQuantity_mono hcosts hopen h.cash_nonneg h.cash_le
  inStep := .inl (iff_of_false hbuys.2.2.2.ne' hbuys'.2.2.2.ne')
  curves := h.curves

theorem coupled_bought_alone (hcosts : CheaperCosts job.settings job'.settings)
    (hopen : 0 < next.openPrice) (h : Coupled s s') (hbuys : s.Buys job row next)
    (hbuys' : ¬ s'.Buys job' row next) : Coupled (s.bought job row next) s' := by
  obtain ⟨hsignal, hflat, hcash, hquantity⟩ := hbuys
  have hfee' := hcosts.feeRate_lt_one
  have hflat' : s'.quantity = 0 := by
    rcases h.inStep with hstep | ⟨-, hflat'⟩
    · exact hstep.mp hflat
    · exact hflat'
  have hbroke : s'.cash = 0 := by
    by_contra hne
    have hcash' : 0 < s'.cash := lt_of_le_of_ne h.cash_nonneg (Ne.symm hne)
    rw [buyQuantity_pos_iff job hopen (hcosts.feeRate.trans_lt hfee') hcash,
      hcosts.positionSize] at hquantity
    exact hbuys' ⟨hsignal, hflat', hcash', (buyQuantity_pos_iff job' hopen hfee' hcash').mpr hquantity⟩
  refine ⟨h.cash_nonneg, h.quantity_nonneg, ?_, ?_, .inr ⟨hbroke, hflat'⟩, h.curves⟩
  · rw [hbroke]
    exact le_max_right _ _
  · rw [hflat']
    exact hquantity.le

theorem coupled_sold (hcosts : CheaperCosts job.settings job'.settings)
    (hopen : 0 < next.openPrice) (h : Coupled s s') :
    Coupled (s.sold job row next) (s'.sold job' row next) where
  cash_nonneg := add_nonneg h.cash_nonneg (le_max_right _ _)
  quantity_nonneg := le_refl 0
  cash_le := add_le_add h.cash_le (sellNet_mono hcosts hopen h.quantity_nonneg h.quantity_le)
  quantity_le := le_refl 0
  inStep := .inl Iff.rfl
  curves := h.curves

theorem coupled_sold_alone (h : Coupled s s') (hflat' : s'.quantity = 0) :
    Coupled (s.sold job row next) s' where
  cash_nonneg := h.cash_nonneg
  quantity_nonneg := h.quantity_nonneg
  cash_le := h.cash_le.trans (le_add_of_nonneg_right (le_max_right _ _))
  quantity_le := hflat'.le
  inStep := .inl (iff_of_true rfl hflat')
  curves := h.curves

theorem coupled_trade (hcosts : CheaperCosts job.settings job'.settings)
    (hopen : 0 < next.openPrice) (h : Coupled s s') :
    Coupled (s.trade job row (some next)) (s'.trade job' row (some next)) := by
  by_cases hbuys' : s'.Buys job' row next
  · have hbuys := buys_of_buys hcosts hopen h hbuys'
    rw [trade_of_buys job s row next hbuys, trade_of_buys job' s' row next hbuys']
    exact coupled_bought hcosts hopen h hbuys hbuys'
  by_cases hbuys : s.Buys job row next
  · have hsells' : ¬ s'.Sells row := by
      rintro ⟨hsell, -⟩
      rw [hbuys.1] at hsell
      cases hsell
    rw [trade_of_buys job s row next hbuys, trade_of_idle job' s' row next hbuys' hsells']
    exact coupled_bought_alone hcosts hopen h hbuys hbuys'
  by_cases hsells : s.Sells row
  · rw [trade_of_sells job s row next hsells]
    by_cases hsells' : s'.Sells row
    · rw [trade_of_sells job' s' row next hsells']
      exact coupled_sold hcosts hopen h
    · rw [trade_of_idle job' s' row next hbuys' hsells']
      have hflat' : s'.quantity = 0 :=
        le_antisymm (not_lt.mp (fun hquantity => hsells' ⟨hsells.1, hquantity⟩)) h.quantity_nonneg
      exact coupled_sold_alone h hflat'
  · -- what the run under higher costs holds, the other one holds too
    have hsells' : ¬ s'.Sells row :=
      fun hsell => hsells ⟨hsell.1, hsell.2.trans_le h.quantity_le⟩
    rw [trade_of_idle job s row next hbuys hsells, trade_of_idle job' s' row next hbuys' hsells']
    exact h

theorem coupled_equityAt (hprice : 0 < row.close) (h : Coupled s s') :
    s'.equityAt row ≤ s.equityAt row :=
  add_le_add h.cash_le (mul_le_mul_of_nonneg_right h.quantity_le hprice.le)

theorem coupled_mark (hprice : 0 < row.close) (h : Coupled s s') :
    Coupled (s.mark row) (s'.mark row) where
  cash_nonneg := h.cash_nonneg
  quantity_nonneg := h.quantity_nonneg
  cash_le := h.cash_le
  quantity_le := h.quantity_le
  inStep := h.inStep
  curves := List.rel_append h.curves (.cons (coupled_equityAt hprice h) .nil)

def PricesPositive (item : FrameRow × Option FrameRow) : Prop :=
  0 < item.1.close ∧ ∀ next, item.2 = some next → 0 < next.openPrice

theorem coupled_row (hcosts : CheaperCosts job.settings job'.settings)
    {item : FrameRow × Option FrameRow} (hprices : PricesPositive item) (h : Coupled s s') :
    Coupled (backtestRow job s item) (backtestRow job' s' item) := by
  refine coupled_mark hprices.1 ?_
  unfold BacktestState.traded
  cases hnext : item.2 with
  | none => exact coupled_note h
  | some next => exact coupled_trade hcosts (hprices.2 next hnext) (coupled_note h)

theorem coupled_final (hcosts : CheaperCosts job.settings job'.settings)
    (hcash : 0 ≤ job'.settings.initialCash) {rows : List FrameRow}
    (hprices : ∀ r ∈ rows, 0 < r.openPrice ∧ 0 < r.close) :
    Coupled (job.final rows) (job'.final rows) := by
  have hstep : ∀ (s s' : BacktestState) (item : FrameRow × Option FrameRow), PricesPositive item →
      Coupled s s' → Coupled (backtestRow job s item) (backtestRow job' s' item) :=
    fun _ _ _ hitem h => coupled_row hcosts hitem h
  refine run_coupled hstep (coupled_start hcosts hcash) ?_
  intro item hitem
  obtain ⟨hmem, hnext⟩ := mem_withNext hitem
  exact ⟨(hprices item.1 hmem).2, fun next heq => (hprices next (List.mem_of_mem_tail (hnext next heq))).1⟩

end Runs

/-! ## Results -/

/-- The first backtest is worth at least the second, at every row and in the end. -/
def BoundsBacktest (rows : List FrameRow) (strategy market : String) (risk risk' : BacktestRisk) :
    Prop :=
  ∃ result result', runBacktest rows strategy risk market = .ok result
    ∧ runBacktest rows strategy risk' market = .ok result'
    ∧ List.Forall₂ (fun p p' => p'.equity ≤ p.equity) result.equityCurve result'.equityCurve
    ∧ result'.metrics.totalReturn ≤ result.metrics.totalReturn

/-- `no_fee_risk` of `run_strategy_validation`. -/
def noFeeRisk (risk : BacktestRisk) : BacktestRisk :=
  { risk with feeRate := some 0, slippageRate := some 0 }

theorem cheaperCosts_noFeeRisk {risk : BacktestRisk} (hfee : risk.settings.feeRate < 1) :
    CheaperCosts (noFeeRisk risk).settings risk.settings where
  initialCash := rfl
  positionSize := rfl
  feeRate := by
    show max 0 0 ≤ risk.settings.feeRate
    rw [max_self]
    exact risk.settings.feeRate_nonneg
  feeRate_lt_one := hfee
  slippageRate := by
    show max 0 0 ≤ risk.settings.slippageRate
    rw [max_self]
    exact risk.settings.slippageRate_nonneg

theorem totalReturn_le_of_coupled {job job' : BacktestJob} {rows : List FrameRow} (hne : rows ≠ [])
    (hprices : ∀ r ∈ rows, 0 < r.openPrice ∧ 0 < r.close)
    (hcash : job'.settings.initialCash = job.settings.initialCash)
    (h : Coupled (job.final rows) (job'.final rows)) :
    ((job'.final rows).metrics job').totalReturn ≤ ((job.final rows).metrics job).totalReturn := by
  have hlast := List.getLast?_eq_some_getLast hne
  have hequity : ((job'.final rows).metrics job').finalEquity
      ≤ ((job.final rows).metrics job).finalEquity := by
    rw [finalEquity_eq job hlast, finalEquity_eq job' hlast]
    exact coupled_equityAt (hprices _ (List.getLast_mem hne)).2 h
  show (if 0 < job'.settings.initialCash then
      (((job'.final rows).metrics job').finalEquity - job'.settings.initialCash)
        / job'.settings.initialCash else 0)
    ≤ if 0 < job.settings.initialCash then
      (((job.final rows).metrics job).finalEquity - job.settings.initialCash)
        / job.settings.initialCash else 0
  rw [hcash]
  split
  · rename_i hpos
    exact div_le_div_of_nonneg_right (by linarith) hpos.le
  · exact le_refl 0

theorem boundsBacktest_of_cheaper {rows : List FrameRow} (hlong : 30 ≤ rows.length)
    (hprices : ∀ r ∈ rows, 0 < r.openPrice ∧ 0 < r.close) (strategy market : String)
    {risk risk' : BacktestRisk} (hcash : 0 ≤ risk'.settings.initialCash)
    (hcosts : CheaperCosts risk.settings risk'.settings) :
    BoundsBacktest rows strategy market risk risk' := by
  let job : BacktestJob := { strategy := strategy, market := market, settings := risk.settings }
  let job' : BacktestJob := { strategy := strategy, market := market, settings := risk'.settings }
  have hcosts' : CheaperCosts job.settings job'.settings := hcosts
  have hcash' : 0 ≤ job'.settings.initialCash := hcash
  have hcoupled : Coupled (job.final rows) (job'.final rows) :=
    coupled_final hcosts' hcash' hprices
  have hne : rows ≠ [] := by
    rintro rfl
    exact absurd hlong (by decide)
  exact ⟨_, _, runBacktest_eq_ok hlong strategy risk market,
    runBacktest_eq_ok hlong strategy risk' market, hcoupled.curves,
    totalReturn_le_of_coupled hne hprices hcosts'.initialCash.symm hcoupled⟩

/-- **Trading costs never improve a backtest**; a backtest without costs bounds it. -/
theorem costs_never_improve_backtest {rows : List FrameRow} (hlong : 30 ≤ rows.length)
    (hprices : ∀ r ∈ rows, 0 < r.openPrice ∧ 0 < r.close) (strategy market : String)
    {risk risk' : BacktestRisk} (hcash : 0 ≤ risk'.settings.initialCash)
    (hcosts : CheaperCosts risk.settings risk'.settings) :
    BoundsBacktest rows strategy market risk risk'
      ∧ BoundsBacktest rows strategy market (noFeeRisk risk') risk' :=
  ⟨boundsBacktest_of_cheaper hlong hprices strategy market hcash hcosts,
    boundsBacktest_of_cheaper hlong hprices strategy market hcash
      (cheaperCosts_noFeeRisk hcosts.feeRate_lt_one)⟩

theorem costs_never_improve_backtest_example :
    BoundsBacktest exampleBacktestRows "" "KRW-BTC" { feeRate := some (1 / 1000) }
        { feeRate := some (1 / 10) }
      ∧ BoundsBacktest exampleBacktestRows "" "KRW-BTC" (noFeeRisk { feeRate := some (1 / 10) })
        { feeRate := some (1 / 10) } :=
  costs_never_improve_backtest (by decide) (by decide +kernel) "" "KRW-BTC" (by decide +kernel)
    ⟨rfl, rfl, by decide +kernel, by decide +kernel, by decide +kernel⟩

end AutoCoinBot
