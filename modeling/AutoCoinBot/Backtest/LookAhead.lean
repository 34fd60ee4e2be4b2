/-
  Backtest.LookAhead — what a backtest reports for a row, and what it knows then.

  The signal of a row is executed at the open of the next row, in the round of the first. The order
  carries the time of the next row; the point of the curve carries the time of the first, with the
  cash and the volume of the order.
-/
import AutoCoinBot.Backtest.Costs

namespace AutoCoinBot

open Library

section Account

variable (job : BacktestJob)

/-! ## One trade, two ways to go on -/

def buyableOpen (next : Option FrameRow) : Option ℚ :=
  (next.map FrameRow.openPrice).filter (fun o => 0 < o)

/-- What a unit brings if it is sold at the next open, after costs. -/
def BacktestJob.unitNet (next : Option FrameRow) : Option ℚ :=
  next.map (fun n =>
    max (n.openPrice * (1 - job.settings.slippageRate) * (1 - job.settings.feeRate)) 0)

/-- The row does not tell two ways to go on apart: it has nothing to trade, or both trade
alike. -/
def TradesAlike (s : BacktestState) (row : FrameRow) (next next' : Option FrameRow) : Prop :=
  (row.signal = .buy → s.quantity = 0 → 0 < s.cash →
      0 < job.spend (s.cash * job.settings.positionSize) → buyableOpen next = buyableOpen next')
    ∧ (row.signal = .sell → 0 < s.quantity → job.unitNet next = job.unitNet next')

/-- Cash and volume after the trade of a row. -/
def accountAfter (s : BacktestState) (row : FrameRow) (next : Option FrameRow) : ℚ × ℚ :=
  ((s.trade job row next).cash, (s.trade job row next).quantity)

variable {job} {s : BacktestState} {row : FrameRow}

theorem buyQuantity_pos_iff_open (job : BacktestJob) {cash : ℚ} {next : FrameRow} :
    0 < job.buyQuantity cash next
      ↔ 0 < next.openPrice ∧ 0 < job.spend (cash * job.settings.positionSize) := by
  have hslippage := job.settings.slippageRate_nonneg
  have hspend : 0 ≤ job.spend (cash * job.settings.positionSize) := le_max_right _ _
  have hprice : 0 < job.buyPrice next ↔ 0 < next.openPrice :=
    mul_pos_iff_of_pos_right (by linarith)
  unfold BacktestJob.buyQuantity
  by_cases hopen : 0 < next.openPrice
  · rw [if_pos (hprice.mpr hopen), div_pos_iff_of_pos_right (hprice.mpr hopen)]
    exact (and_iff_right hopen).symm
  · rw [if_neg (fun h => hopen (hprice.mp h))]
    exact iff_of_false (lt_irrefl 0) (fun h => hopen h.1)

/-- The account after a buy at an open, or after none. -/
def accountBought (job : BacktestJob) (s : BacktestState) : Option ℚ → ℚ × ℚ
  | none => (s.cash, s.quantity)
  | some o => (max (s.cash - s.cash * job.settings.positionSize) 0,
      job.spend (s.cash * job.settings.positionSize) / (o * (1 + job.settings.slippageRate)))

/-- The account after a sell of units that bring their net, or after none. -/
def accountSold (s : BacktestState) : Option ℚ → ℚ × ℚ
  | none => (s.cash, s.quantity)
  | some net => (s.cash + s.quantity * net, 0)

theorem accountAfter_buy (hsignal : row.signal = .buy) (hflat : s.quantity = 0) (hcash : 0 < s.cash)
    (hspend : 0 < job.spend (s.cash * job.settings.positionSize)) (next : Option FrameRow) :
    accountAfter job s row next = accountBought job s (buyableOpen next) := by
  have hsells : ¬ s.Sells row := by
    rintro ⟨hsell, -⟩
    rw [hsignal] at hsell
    cases hsell
  cases next with
  | none => rfl
  | some next =>
    unfold accountAfter buyableOpen
    rw [Option.map_some, Option.filter_some]
    by_cases hopen : 0 < next.openPrice
    · have hquantity := (buyQuantity_pos_iff_open job).mpr ⟨hopen, hspend⟩
      have hbought : job.buyQuantity s.cash next
          = job.spend (s.cash * job.settings.positionSize) / job.buyPrice next :=
        if_pos (buyPrice_pos job hopen)
      rw [trade_of_buys job s row next ⟨hsignal, hflat, hcash, hquantity⟩,
        if_pos (decide_eq_true hopen)]
      show (_, job.buyQuantity s.cash next) = _
      rw [hbought]
      rfl
    · have hbuys : ¬ s.Buys job row next :=
        fun h => hopen ((buyQuantity_pos_iff_open job).mp h.2.2.2).1
      rw [trade_of_idle job s row next hbuys hsells, if_neg (by simp [hopen])]
      rfl

theorem accountAfter_sell (hsignal : row.signal = .sell) (hquantity : 0 < s.quantity)
    (next : Option FrameRow) :
    accountAfter job s row next = accountSold s (job.unitNet next) := by
  cases next with
  | none => rfl
  | some next =>
    unfold accountAfter
    rw [trade_of_sells job s row next ⟨hsignal, hquantity⟩]
    have hnet : job.sellNet s.quantity next = s.quantity
        * max (next.openPrice * (1 - job.settings.slippageRate) * (1 - job.settings.feeRate)) 0 := by
      unfold BacktestJob.sellNet BacktestJob.sellPrice
      dsimp only
      rw [mul_max_of_nonneg _ _ hquantity.le, mul_zero]
      congr 1
      ring
    show (s.cash + job.sellNet s.quantity next, 0) = _
    rw [hnet]
    rfl

theorem accountAfter_idle
    (hbuy : ¬ (row.signal = .buy ∧ s.quantity = 0 ∧ 0 < s.cash
      ∧ 0 < job.spend (s.cash * job.settings.positionSize)))
    (hsell : ¬ (row.signal = .sell ∧ 0 < s.quantity)) (next : Option FrameRow) :
    accountAfter job s row next = (s.cash, s.quantity) := by
  cases next with
  | none => rfl
  | some next =>
    have hbuys : ¬ s.Buys job row next := fun h =>
      hbuy ⟨h.1, h.2.1, h.2.2.1, ((buyQuantity_pos_iff_open job).mp h.2.2.2).2⟩
    unfold accountAfter
    rw [trade_of_idle job s row next hbuys hsell]

theorem buyableOpen_pos {next : Option FrameRow} {o : ℚ} (h : buyableOpen next = some o) : 0 < o := by
  obtain ⟨-, hpos⟩ := Option.filter_eq_some_iff.mp h
  exact of_decide_eq_true hpos

theorem accountBought_eq_iff (hflat : s.quantity = 0)
    (hspend : 0 < job.spend (s.cash * job.settings.positionSize)) {x y : Option ℚ}
    (hx : ∀ o, x = some o → 0 < o) (hy : ∀ o, y = some o → 0 < o) :
    accountBought job s x = accountBought job s y ↔ x = y := by
  have hslippage := job.settings.slippageRate_nonneg
  have hfactor : 0 < 1 + job.settings.slippageRate := by linarith
  have hbought : ∀ o, 0 < o → 0 < job.spend (s.cash * job.settings.positionSize)
      / (o * (1 + job.settings.slippageRate)) :=
    fun o ho => div_pos hspend (mul_pos ho hfactor)
  constructor
  · intro h
    have hquantity := congrArg Prod.snd h
    cases x with
    | none =>
      cases y with
      | none => rfl
      | some o =>
        have hpos := hbought o (hy o rfl)
        rw [← hflat] at hpos
        exact absurd hquantity hpos.ne
    | some o =>
      cases y with
      | none =>
        have hpos := hbought o (hx o rfl)
        rw [← hflat] at hpos
        exact absurd hquantity hpos.ne'
      | some o' =>
        have hshares : job.spend (s.cash * job.settings.positionSize)
              * (o * (1 + job.settings.slippageRate))⁻¹
            = job.spend (s.cash * job.settings.positionSize)
              * (o' * (1 + job.settings.slippageRate))⁻¹ := by
          rw [← div_eq_mul_inv, ← div_eq_mul_inv]
          exact hquantity
        have hprices := inv_injective (mul_left_cancel₀ hspend.ne' hshares)
        rw [mul_right_cancel₀ hfactor.ne' hprices]
  · intro h
    rw [h]

theorem accountSold_eq_iff (hquantity : 0 < s.quantity) {x y : Option ℚ} :
    accountSold s x = accountSold s y ↔ x = y := by
  constructor
  · intro h
    cases x with
    | none =>
      cases y with
      | none => rfl
      | some net => exact absurd (congrArg Prod.snd h) hquantity.ne'
    | some net =>
      cases y with
      | none => exact absurd (congrArg Prod.snd h) hquantity.ne
      | some net' =>
        have hcash : s.cash + s.quantity * net = s.cash + s.quantity * net' :=
          congrArg Prod.fst h
        rw [mul_left_cancel₀ hquantity.ne' (add_left_cancel hcash)]
  · intro h
    rw [h]

theorem accountAfter_eq_iff (next next' : Option FrameRow) :
    accountAfter job s row next = accountAfter job s row next'
      ↔ TradesAlike job s row next next' := by
  by_cases hbuy : row.signal = .buy ∧ s.quantity = 0 ∧ 0 < s.cash
      ∧ 0 < job.spend (s.cash * job.settings.positionSize)
  · obtain ⟨hsignal, hflat, hcash, hspend⟩ := hbuy
    rw [accountAfter_buy hsignal hflat hcash hspend, accountAfter_buy hsignal hflat hcash hspend,
      accountBought_eq_iff hflat hspend (fun _ => buyableOpen_pos) (fun _ => buyableOpen_pos)]
    constructor
    · intro h
      refine ⟨fun _ _ _ _ => h, fun hsell => ?_⟩
      rw [hsignal] at hsell
      cases hsell
    · intro h
      exact h.1 hsignal hflat hcash hspend
  by_cases hsell : row.signal = .sell ∧ 0 < s.quantity
  · obtain ⟨hsignal, hquantity⟩ := hsell
    rw [accountAfter_sell hsignal hquantity, accountAfter_sell hsignal hquantity,
      accountSold_eq_iff hquantity]
    constructor
    · intro h
      refine ⟨fun hbuys => ?_, fun _ _ => h⟩
      rw [hsignal] at hbuys
      cases hbuys
    · intro h
      exact h.2 hsignal hquantity
  · rw [accountAfter_idle hbuy hsell, accountAfter_idle hbuy hsell]
    refine iff_of_true rfl ⟨fun hsignal hflat hcash hspend => ?_, fun hsignal hquantity => ?_⟩
    · exact absurd ⟨hsignal, hflat, hcash, hspend⟩ hbuy
    · exact absurd ⟨hsignal, hquantity⟩ hsell

/-! ## The report up to a row -/

theorem peak_trade (job : BacktestJob) (s : BacktestState) (row : FrameRow)
    (next : Option FrameRow) : (s.trade job row next).peak = s.peak := by
  cases next with
  | none => rfl
  | some next =>
    rcases trade_cases job s row next with heq | ⟨-, heq⟩ | ⟨-, heq⟩ <;> rw [heq] <;> rfl

theorem point_traded_eq_iff (next next' : Option FrameRow) :
    (s.traded job (row, next)).point row = (s.traded job (row, next')).point row
      ↔ TradesAlike job s row next next' := by
  have hnoted : TradesAlike job (s.note row) row next next' ↔ TradesAlike job s row next next' := by
    unfold BacktestState.note
    split <;> exact Iff.rfl
  rw [← hnoted, ← accountAfter_eq_iff]
  constructor
  · intro h
    exact Prod.ext (congrArg EquityPoint.cashKrw h) (congrArg EquityPoint.btcQuantity h)
  · intro h
    have hcash : (s.traded job (row, next)).cash = (s.traded job (row, next')).cash :=
      congrArg Prod.fst h
    have hquantity : (s.traded job (row, next)).quantity = (s.traded job (row, next')).quantity :=
      congrArg Prod.snd h
    have hpeak : (s.traded job (row, next)).peak = (s.traded job (row, next')).peak :=
      (peak_trade job _ row next).trans (peak_trade job _ row next').symm
    unfold BacktestState.point BacktestState.equityAt
    rw [hcash, hquantity, hpeak]

theorem equityCurve_run (job : BacktestJob) (items : List (FrameRow × Option FrameRow))
    (s : BacktestState) : ∃ points, (run (backtestRow job) s items).equityCurve
      = s.equityCurve ++ points ∧ points.length = items.length := by
  induction items generalizing s with
  | nil => exact ⟨[], (List.append_nil _).symm, rfl⟩
  | cons item items ih =>
    obtain ⟨points, hcurve, hlength⟩ := ih (backtestRow job s item)
    refine ⟨(s.traded job item).point item.1 :: points, ?_, ?_⟩
    · rw [run_cons, hcurve, equityCurve_row, List.append_assoc]
      rfl
    · rw [List.length_cons, hlength, List.length_cons]

theorem orders_run (job : BacktestJob) (items : List (FrameRow × Option FrameRow))
    (s : BacktestState) : ∃ orders, (run (backtestRow job) s items).orders = s.orders ++ orders
      ∧ ∀ o ∈ orders, ∃ item ∈ items, ∃ next, item.2 = some next ∧ o.time = next.time := by
  induction items generalizing s with
  | nil =>
    refine ⟨[], (List.append_nil _).symm, ?_⟩
    intro o ho
    cases ho
  | cons item items ih =>
    obtain ⟨later, hrun, hlater⟩ := ih (backtestRow job s item)
    have hnote : (s.note item.1).orders = s.orders := by
      unfold BacktestState.note
      split <;> rfl
    obtain ⟨own, hown, htime⟩ : ∃ own, (backtestRow job s item).orders = s.orders ++ own
        ∧ ∀ o ∈ own, ∃ next, item.2 = some next ∧ o.time = next.time := by
      show ∃ own, ((s.note item.1).trade job item.1 item.2).orders = s.orders ++ own ∧ _
      rw [← hnote]
      cases item.2 with
      | none =>
        refine ⟨[], (List.append_nil _).symm, ?_⟩
        intro o ho
        cases ho
      | some next =>
        rcases trade_cases job (s.note item.1) item.1 next with heq | ⟨-, heq⟩ | ⟨-, heq⟩
        · rw [heq]
          refine ⟨[], (List.append_nil _).symm, ?_⟩
          intro o ho
          cases ho
        · rw [heq]
          refine ⟨_, rfl, fun o ho => ⟨next, rfl, ?_⟩⟩
          rw [List.mem_singleton.mp ho]
        · rw [heq]
          refine ⟨_, rfl, fun o ho => ⟨next, rfl, ?_⟩⟩
          rw [List.mem_singleton.mp ho]
    refine ⟨own ++ later, ?_, ?_⟩
    · rw [run_cons, hrun, hown, List.append_assoc]
    · intro o ho
      rcases List.mem_append.mp ho with hmem | hmem
      · obtain ⟨next, hnext, heq⟩ := htime o hmem
        exact ⟨item, List.mem_cons_self, next, hnext, heq⟩
      · obtain ⟨other, hother, hrest⟩ := hlater o hmem
        exact ⟨other, List.mem_cons_of_mem item hother, hrest⟩

/-- The account before a row, as the rows up to it leave it. -/
def BacktestJob.accountBefore (job : BacktestJob) (before : List FrameRow) (row : FrameRow) :
    BacktestState :=
  run (backtestRow job) job.start ((withNext (before ++ [row])).take before.length)

theorem final_eq_run (job : BacktestJob) (before after : List FrameRow) (row : FrameRow) :
    job.final (before ++ row :: after)
      = run (backtestRow job) (job.accountBefore before row) (withNext (row :: after)) := by
  unfold BacktestJob.final
  rw [withNext_eq_append, run_append]
  rfl

theorem equityCurve_upTo (job : BacktestJob) (before after : List FrameRow) (row : FrameRow) :
    (job.final (before ++ row :: after)).equityCurve.take (before.length + 1)
      = (job.accountBefore before row).equityCurve
        ++ [((job.accountBefore before row).traded job (row, after.head?)).point row] := by
  obtain ⟨points, hcurve, -⟩ := equityCurve_run job (withNext after)
    (backtestRow job (job.accountBefore before row) (row, after.head?))
  obtain ⟨first, hfirst, hlength⟩ := equityCurve_run job
    ((withNext (before ++ [row])).take before.length) job.start
  have hbefore : (job.accountBefore before row).equityCurve.length = before.length := by
    show (run (backtestRow job) job.start _).equityCurve.length = _
    rw [hfirst, List.length_append, hlength, List.length_take, length_withNext, List.length_append]
    simp [BacktestJob.start]
  rw [final_eq_run, withNext, run_cons, hcurve, equityCurve_row]
  refine List.take_left' ?_
  rw [List.length_append, hbefore, List.length_singleton]

theorem orders_upTo (job : BacktestJob) {before after : List FrameRow} {row : FrameRow}
    (hsorted : (before ++ row :: after).Pairwise (fun r s => r.time < s.time)) :
    (job.final (before ++ row :: after)).orders.filter (fun o => o.time ≤ row.time)
      = (job.accountBefore before row).orders.filter (fun o => o.time ≤ row.time) := by
  have hafter : ∀ y ∈ after, row.time < y.time :=
    (List.pairwise_cons.mp (List.pairwise_append.mp hsorted).2.1).1
  obtain ⟨orders, hrun, htimes⟩ := orders_run job (withNext (row :: after))
    (job.accountBefore before row)
  have hlate : orders.filter (fun o => o.time ≤ row.time) = [] := by
    rw [List.filter_eq_nil_iff]
    intro o ho
    obtain ⟨item, hitem, next, hnext, htime⟩ := htimes o ho
    have hlater := hafter next ((mem_withNext hitem).2 next hnext)
    rw [htime, decide_eq_true_iff, not_le]
    exact hlater
  rw [final_eq_run, hrun, List.filter_append, hlate, List.append_nil]

end Account

/-! ## Two series -/

/-- The reports of two runs agree up to a row: as many points of the curve, and the orders
that are executed by its time. -/
structure SameReport (points : ℕ) (time : UtcTime) (result result' : BacktestResult) : Prop where
  curve : result.equityCurve.take points = result'.equityCurve.take points
  orders : result.orders.filter (fun o => o.time ≤ time)
    = result'.orders.filter (fun o => o.time ≤ time)

/-- **When nothing is known too early**: two series that agree up to a row are reported
alike up to it exactly if the row has nothing to trade, or both go on with the same fill. -/
theorem no_lookAhead_iff {f f' : Frame} {before after after' : List FrameRow} {row : FrameRow}
    (hrows : f.rows = before ++ row :: after) (hrows' : f'.rows = before ++ row :: after')
    (hlong : 30 ≤ f.rows.length) (hlong' : 30 ≤ f'.rows.length) (strategy : String)
    (risk : BacktestRisk) (market : String) :
    let job : BacktestJob := { strategy := strategy, market := market, settings := risk.settings }
    ∃ result result', runBacktest f.rows strategy risk market = .ok result
      ∧ runBacktest f'.rows strategy risk market = .ok result'
      ∧ (SameReport (before.length + 1) row.time result result'
        ↔ TradesAlike job (job.accountBefore before row) row after.head? after'.head?) := by
  intro job
  refine ⟨_, _, runBacktest_eq_ok hlong strategy risk market,
    runBacktest_eq_ok hlong' strategy risk market, ?_⟩
  have hsorted := f.sorted
  have hsorted' := f'.sorted
  rw [hrows] at hsorted
  rw [hrows'] at hsorted'
  have horders : (job.final f.rows).orders.filter (fun o => o.time ≤ row.time)
      = (job.final f'.rows).orders.filter (fun o => o.time ≤ row.time) := by
    rw [hrows, hrows', orders_upTo job hsorted, orders_upTo job hsorted']
  have hcurves : (job.final f.rows).equityCurve.take (before.length + 1)
        = (job.final f'.rows).equityCurve.take (before.length + 1)
      ↔ TradesAlike job (job.accountBefore before row) row after.head? after'.head? := by
    rw [hrows, hrows', equityCurve_upTo, equityCurve_upTo, List.append_cancel_left_eq,
      List.singleton_inj, point_traded_eq_iff]
  constructor
  · intro h
    exact hcurves.mp h.curve
  · intro h
    exact ⟨hcurves.mpr h, horders⟩

/-- A candle that says BUY, and the candles after it, which open at a price. -/
def exampleBuyRow : FrameRow := { time := 0, openPrice := 100, close := 100, signal := .buy }
def exampleLaterRows (openPrice : ℚ) : List FrameRow :=
  (List.range 29).map (fun k : ℕ => { time := 60 * (k + 1), openPrice := openPrice, close := 100 })

/-- Two series of thirty candles that agree on the first. -/
def exampleSeries (openPrice : ℚ) : Frame where
  rows := exampleBuyRow :: exampleLaterRows openPrice
  sorted := by
    have htimes : ((0 : ℤ) :: (List.range 29).map (fun k : ℕ => 60 * ((k : ℤ) + 1))).Pairwise
        (fun x y => x < y) := by decide +kernel
    have hrows : (exampleBuyRow :: exampleLaterRows openPrice).map FrameRow.time
        = 0 :: (List.range 29).map (fun k : ℕ => 60 * ((k : ℤ) + 1)) := by
      unfold exampleLaterRows
      rw [List.map_cons, List.map_map]
      rfl
    rw [← hrows] at htimes
    exact List.pairwise_map.mp htimes

theorem no_lookAhead_iff_example :
    let job : BacktestJob :=
      { strategy := "", market := "KRW-BTC", settings := BacktestRisk.settings {} }
    ∃ result result', runBacktest (exampleSeries 100).rows "" {} "KRW-BTC" = .ok result
      ∧ runBacktest (exampleSeries 200).rows "" {} "KRW-BTC" = .ok result'
      ∧ (SameReport 1 0 result result' ↔ TradesAlike job (job.accountBefore [] exampleBuyRow)
        exampleBuyRow (exampleLaterRows 100).head? (exampleLaterRows 200).head?) := by
  have hrows : (exampleSeries 100).rows = [] ++ exampleBuyRow :: exampleLaterRows 100 := rfl
  have hrows' : (exampleSeries 200).rows = [] ++ exampleBuyRow :: exampleLaterRows 200 := rfl
  exact no_lookAhead_iff hrows hrows' (by decide) (by decide) "" {} "KRW-BTC"

theorem backtest_looks_ahead :
    ¬ ∃ result result', runBacktest (exampleSeries 100).rows "" {} "KRW-BTC" = .ok result
      ∧ runBacktest (exampleSeries 200).rows "" {} "KRW-BTC" = .ok result'
      ∧ SameReport 1 0 result result' := by
  rintro ⟨result, result', h, h', hsame⟩
  have hlong : 30 ≤ (exampleSeries 100).rows.length := by decide
  have hlong' : 30 ≤ (exampleSeries 200).rows.length := by decide
  rw [runBacktest_eq_ok hlong] at h
  rw [runBacktest_eq_ok hlong'] at h'
  have hcurve := hsame.curve
  rw [← Except.ok.inj h, ← Except.ok.inj h'] at hcurve
  have hdiffers : ¬ (run (backtestRow { strategy := "", settings := BacktestRisk.settings {} })
        (BacktestJob.start { strategy := "", settings := BacktestRisk.settings {} })
        (withNext (exampleSeries 100).rows)).equityCurve.take 1
      = (run (backtestRow { strategy := "", settings := BacktestRisk.settings {} })
        (BacktestJob.start { strategy := "", settings := BacktestRisk.settings {} })
        (withNext (exampleSeries 200).rows)).equityCurve.take 1 := by
    decide +kernel
  exact hdiffers hcurve

end AutoCoinBot
