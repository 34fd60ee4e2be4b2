/-
  PaperTrading.PaperPnl — what the balance of `run_paper_trading` adds up to.

  A buy takes the whole order amount out of the cash and enters the position at what is left after
  the fee, so the fee of a buy is in the equity and in no profit: the average price does not have
  it, and the sell takes off its own fee only.
-/
import AutoCoinBot.PaperTrading.RunPaperTrading

namespace AutoCoinBot

open Library

/-! ## What no profit shows -/

section Account

variable (settings : PaperSettings) (a : PaperAccount) (price : ℚ)

/-- The money that is neither cash nor the cost of the position nor in the realized profit. -/
def PaperAccount.unbooked (a : PaperAccount) (startCash : ℚ) : ℚ :=
  startCash + a.realizedPnl - a.cash - a.positionVolume * a.averageEntryPrice

/-- What a buy takes out of the cash and does not put into the position. -/
def PaperAccount.buyLoss : ℚ :=
  a.orderAmount settings price - a.buyVolume settings price * settings.buyPrice price

variable {settings a price}

theorem paperBuyVolume_nonneg : 0 ≤ a.buyVolume settings price := by
  unfold PaperAccount.buyVolume
  dsimp only
  split
  · rename_i hprice
    exact div_nonneg (le_max_right _ _) hprice.le
  · exact le_refl _

theorem unbooked_bought (hvolume : 0 ≤ a.positionVolume) (startCash : ℚ) :
    (a.bought settings price).unbooked startCash
      = a.unbooked startCash + a.buyLoss settings price := by
  have hbought : 0 ≤ a.buyVolume settings price := paperBuyVolume_nonneg
  have hcost : (a.bought settings price).positionVolume
        * (a.bought settings price).averageEntryPrice
      = a.positionVolume * a.averageEntryPrice
        + a.buyVolume settings price * settings.buyPrice price := by
    unfold PaperAccount.bought
    dsimp only
    split
    · rename_i hpos
      exact mul_div_cancel₀ _ hpos.ne'
    · rename_i hnone
      -- nothing was held, and nothing was bought
      have hzero : a.positionVolume = 0 := by linarith
      have hzero' : a.buyVolume settings price = 0 := by linarith
      rw [hzero, hzero']
      ring
  unfold PaperAccount.unbooked PaperAccount.buyLoss
  rw [hcost]
  show startCash + a.realizedPnl - (a.cash - a.orderAmount settings price) - _ = _
  ring

theorem unbooked_sold (startCash : ℚ) :
    (a.sold settings price).unbooked startCash = a.unbooked startCash := by
  unfold PaperAccount.unbooked PaperAccount.sold PaperAccount.sellPnl
  ring

theorem buyPrice_pos_iff : 0 < settings.buyPrice price ↔ 0 < price := by
  have hslip : 0 ≤ max settings.slippageRate 0 := le_max_right _ _
  unfold PaperSettings.buyPrice
  exact mul_pos_iff_of_pos_right (by linarith)

theorem buyLoss_eq (a : PaperAccount) : a.buyLoss settings price
    = if 0 < price then
        a.orderAmount settings price
          - max (a.orderAmount settings price - a.orderAmount settings price * settings.feeRate) 0
      else a.orderAmount settings price := by
  unfold PaperAccount.buyLoss PaperAccount.buyVolume
  dsimp only
  by_cases hprice : 0 < price
  · have hpos : 0 < settings.buyPrice price := buyPrice_pos_iff.mpr hprice
    rw [if_pos hprice, if_pos hpos, div_mul_cancel₀ _ hpos.ne']
  · rw [if_neg hprice, if_neg (fun h => hprice (buyPrice_pos_iff.mp h)), zero_mul, sub_zero]

theorem buyLoss_nonneg (hfee : 0 ≤ settings.feeRate) (horder : 0 < a.orderAmount settings price) :
    0 ≤ a.buyLoss settings price := by
  rw [buyLoss_eq]
  split
  · have hcharged := mul_nonneg horder.le hfee
    exact sub_nonneg.mpr (max_le (by linarith) horder.le)
  · exact horder.le

theorem buyLoss_eq_zero_iff (hfee : 0 ≤ settings.feeRate)
    (horder : 0 < a.orderAmount settings price) :
    a.buyLoss settings price = 0 ↔ settings.feeRate = 0 ∧ 0 < price := by
  rw [buyLoss_eq]
  by_cases hprice : 0 < price
  · rw [if_pos hprice, and_iff_left hprice]
    constructor
    · intro h
      by_contra hne
      have hcharged := mul_pos horder (lt_of_le_of_ne hfee (Ne.symm hne))
      have hspent : max (a.orderAmount settings price
          - a.orderAmount settings price * settings.feeRate) 0 < a.orderAmount settings price :=
        max_lt (by linarith) horder
      linarith
    · intro h
      rw [h, mul_zero, sub_zero, max_eq_left horder.le, sub_self]
  · rw [if_neg hprice]
    exact iff_of_false horder.ne' (fun h => hprice h.2)

theorem equity_eq (hvolume : 0 ≤ a.positionVolume) (startCash : ℚ) :
    a.equity price - startCash
      = a.realizedPnl + a.unrealizedPnl price - a.unbooked startCash := by
  unfold PaperAccount.equity PaperAccount.unrealizedPnl PaperAccount.unbooked
  split
  · ring
  · rename_i hflat
    have hzero : a.positionVolume = 0 := le_antisymm (not_lt.mp hflat) hvolume
    rw [hzero]
    ring

end Account

/-! ## A run -/

section Run

variable (job : PaperJob) {s : PaperTradingState} {row : FrameRow}

theorem orderAmount_pos_of_buys (h : s.side job row = some .buy) :
    0 < s.account.orderAmount job.settings row.close := by
  have hblock : s.block job row = none := by
    unfold PaperTradingState.side PaperAccount.side at h
    cases hsignal : row.signal with
    | buy =>
      rw [hsignal] at h
      by_contra hsome
      have hblocked : (s.block job row).isNone = false := by
        simpa [Option.isNone_eq_false_iff, Option.isSome_iff_ne_none] using hsome
      rw [hblocked] at h
      cases h
    | sell =>
      rw [hsignal] at h
      dsimp only at h
      split at h <;> cases h
    | hold =>
      rw [hsignal] at h
      cases h
  unfold PaperTradingState.block at hblock
  exact ((buyBlock_eq_none_iff _ _ _ _ _).mp hblock).2.2

theorem paperTradingRow_account (s : PaperTradingState) (row : FrameRow) :
    (paperTradingRow job s row).account
      = s.account.after job.settings row.close (s.side job row) := by
  rw [paperTradingRow_eq]

theorem unbooked_row (hvolume : 0 ≤ s.account.positionVolume) (row : FrameRow) (startCash : ℚ) :
    (paperTradingRow job s row).account.unbooked startCash
      = s.account.unbooked startCash
        + if s.side job row = some .buy then s.account.buyLoss job.settings row.close else 0 := by
  rw [paperTradingRow_account]
  cases hside : s.side job row with
  | none => simp [PaperAccount.after]
  | some side =>
    cases side with
    | buy => simpa [PaperAccount.after] using unbooked_bought hvolume startCash
    | sell => simpa [PaperAccount.after] using unbooked_sold startCash
    | bid => simp [PaperAccount.after]
    | ask => simp [PaperAccount.after]

theorem positionVolume_row_nonneg (hvolume : 0 ≤ s.account.positionVolume) (row : FrameRow) :
    0 ≤ (paperTradingRow job s row).account.positionVolume := by
  rw [paperTradingRow_account]
  cases s.side job row with
  | none => exact hvolume
  | some side =>
    cases side with
    | buy => exact add_nonneg hvolume paperBuyVolume_nonneg
    | sell => exact le_refl _
    | bid => exact hvolume
    | ask => exact hvolume

/-- A row that buys has no fee to pay, and a price. -/
def BuysWhole (s : PaperTradingState) (row : FrameRow) : Prop :=
  s.side job row = some .buy → job.settings.feeRate = 0 ∧ 0 < row.close

theorem unbooked_row_eq_iff (hfee : 0 ≤ job.settings.feeRate)
    (hvolume : 0 ≤ s.account.positionVolume) (row : FrameRow) (startCash : ℚ) :
    (paperTradingRow job s row).account.unbooked startCash = s.account.unbooked startCash
      ↔ BuysWhole job s row := by
  rw [unbooked_row job hvolume, add_eq_left]
  unfold BuysWhole
  by_cases hbuys : s.side job row = some .buy
  · rw [if_pos hbuys, buyLoss_eq_zero_iff hfee (orderAmount_pos_of_buys job hbuys)]
    exact ⟨fun h _ => h, fun h => h hbuys⟩
  · rw [if_neg hbuys]
    exact iff_of_true rfl (fun h => absurd h hbuys)

theorem unbooked_row_le (hfee : 0 ≤ job.settings.feeRate)
    (hvolume : 0 ≤ s.account.positionVolume) (row : FrameRow) (startCash : ℚ) :
    s.account.unbooked startCash ≤ (paperTradingRow job s row).account.unbooked startCash := by
  rw [unbooked_row job hvolume]
  by_cases hbuys : s.side job row = some .buy
  · rw [if_pos hbuys]
    exact le_add_of_nonneg_right (buyLoss_nonneg hfee (orderAmount_pos_of_buys job hbuys))
  · rw [if_neg hbuys, add_zero]

theorem unbooked_run_eq_zero_iff (hfee : 0 ≤ job.settings.feeRate) (rows : List FrameRow) :
    (run (paperTradingRow job) job.start rows).account.unbooked job.risk.startCash = 0
      ↔ StepsOk (paperTradingRow job) (BuysWhole job) job.start rows := by
  have hstart : job.start.account.unbooked job.risk.startCash = 0 := by
    show job.risk.startCash + 0 - job.risk.startCash - 0 * 0 = 0
    ring
  have hmeasure := measure_run_eq_iff
    (P := fun s : PaperTradingState => 0 ≤ s.account.positionVolume)
    (fun s : PaperTradingState => s.account.unbooked job.risk.startCash)
    (fun s row h => positionVolume_row_nonneg job h row)
    (fun s row h => unbooked_row_le job hfee h row _) (s := job.start) (le_refl _) rows
  rw [hstart] at hmeasure
  rw [hmeasure]
  exact stepsOk_congr_of_invariant (P := fun s : PaperTradingState => 0 ≤ s.account.positionVolume)
    (fun s row h => positionVolume_row_nonneg job h row)
    (fun s row h => unbooked_row_eq_iff job hfee h row _) (le_refl _) rows

end Run

/-! ## The balance -/

/-- The profits add up to the total, and the total is what the equity gained. -/
def PaperTradingResult.AddsUp (r : PaperTradingResult) : Prop :=
  r.realizedPnl + r.unrealizedPnl = r.totalPnl ∧ r.totalPnl = r.equity - r.initialCash

theorem addsUp_result_iff {s : PaperTradingState} (hvolume : 0 ≤ s.account.positionVolume)
    (startCash lastPrice : ℚ) :
    (s.result startCash lastPrice).AddsUp ↔ s.account.unbooked startCash = 0 := by
  have hequity : s.account.equity lastPrice - startCash
      = s.account.realizedPnl + s.account.unrealizedPnl lastPrice - s.account.unbooked startCash :=
    equity_eq hvolume startCash
  unfold PaperTradingResult.AddsUp PaperTradingState.result
  dsimp only
  constructor
  · rintro ⟨hadds, -⟩
    linarith
  · intro hnone
    exact ⟨by linarith, rfl⟩

theorem addsUp_iff_buysWhole {rows : List FrameRow} (hlong : 30 ≤ rows.length) (job : PaperJob)
    (hfee : 0 ≤ job.settings.feeRate) :
    (∀ r, runPaperTrading rows job = .ok r → r.AddsUp)
      ↔ StepsOk (paperTradingRow job) (BuysWhole job) job.start rows := by
  have hvolume : 0 ≤ (run (paperTradingRow job) job.start rows).account.positionVolume :=
    run_invariant (P := fun s : PaperTradingState => 0 ≤ s.account.positionVolume)
      (fun s row h => positionVolume_row_nonneg job h row) (le_refl _) rows
  unfold runPaperTrading
  rw [if_neg (not_lt.mpr hlong), ← unbooked_run_eq_zero_iff job hfee,
    ← addsUp_result_iff hvolume _ ((rows.getLast?.map FrameRow.close).getD 0)]
  constructor
  · intro h
    exact h _ rfl
  · intro h r hr
    rwa [← Except.ok.inj hr]

/-- **When the balance adds up**: in a frame that is long enough, every buy that goes through
pays no fee, at a price above zero. -/
theorem paper_pnl_adds_up_iff (rows : List FrameRow) (job : PaperJob)
    (hfee : 0 ≤ job.settings.feeRate) :
    (∀ r, runPaperTrading rows job = .ok r → r.AddsUp)
      ↔ (30 ≤ rows.length → StepsOk (paperTradingRow job)
          (fun s row => s.side job row = some .buy → job.settings.feeRate = 0 ∧ 0 < row.close)
          job.start rows) := by
  by_cases hlong : 30 ≤ rows.length
  · rw [addsUp_iff_buysWhole hlong job hfee, forall_prop_of_true hlong]
    exact Iff.rfl
  · refine iff_of_true (fun r hr => ?_) (fun h => absurd h hlong)
    unfold runPaperTrading at hr
    rw [if_pos (not_le.mp hlong)] at hr
    cases hr

/-- Thirty candles at one price, of which the first is bought at the default fee. -/
def oneBuyRows : List FrameRow :=
  { time := 0, high := 100, low := 100, close := 100, signal := .buy }
    :: List.replicate 29 { time := 60, high := 100, low := 100, close := 100 }

def defaultJob : PaperJob := { market := "KRW-BTC", strategy := "sma_cross", risk := {} }

theorem paper_pnl_adds_up_example :
    ∃ r, runPaperTrading oneBuyRows { defaultJob with risk := { feeRate := some 0 } } = .ok r
      ∧ r.AddsUp := by
  have hall := (paper_pnl_adds_up_iff oneBuyRows { defaultJob with risk := { feeRate := some 0 } }
    (by decide +kernel)).mpr (fun _ => by decide +kernel)
  have hok : (runPaperTrading oneBuyRows
      { defaultJob with risk := { feeRate := some 0 } }).isOk = true := by decide +kernel
  cases hrun : runPaperTrading oneBuyRows { defaultJob with risk := { feeRate := some 0 } } with
  | error text =>
    rw [hrun] at hok
    cases hok
  | ok r => exact ⟨r, rfl, hall r hrun⟩

theorem buy_fee_in_no_profit :
    (runPaperTrading oneBuyRows defaultJob).toOption.map
        (fun r => r.realizedPnl + r.unrealizedPnl - r.totalPnl) = some 50
      ∧ ¬ ∀ r, runPaperTrading oneBuyRows defaultJob = .ok r → r.AddsUp := by
  have hshort : (runPaperTrading oneBuyRows defaultJob).toOption.map
      (fun r => r.realizedPnl + r.unrealizedPnl - r.totalPnl) = some 50 := by decide +kernel
  refine ⟨hshort, fun h => ?_⟩
  cases hrun : runPaperTrading oneBuyRows defaultJob with
  | error text =>
    rw [hrun] at hshort
    cases hshort
  | ok r =>
    rw [hrun] at hshort
    have hfifty : r.realizedPnl + r.unrealizedPnl - r.totalPnl = 50 := Option.some.inj hshort
    rw [(h r hrun).1] at hfifty
    norm_num at hfifty

/-! ## The same in terms of the candles -/

section Candles

variable (job : PaperJob) {s : PaperTradingState} {row : FrameRow}

variable {job}

end Candles

end AutoCoinBot
