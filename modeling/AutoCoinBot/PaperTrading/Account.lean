/-
  PaperTrading.Account — what the paper simulators share.

  `run_paper_trading` (app/paper_trading.py), `PaperBroker` (app/live_paper.py) and
  `ForwardPaperBroker` (app/forward_paper.py) read the same risk settings, ask the same four
  questions before a buy, and look back on the sells and on the equity of the KST day.
-/
import AutoCoinBot.Backtest.RunBacktest
import AutoCoinBot.Library.Gate

namespace AutoCoinBot

open Library

/-! ## Settings -/

/-- The `risk` argument; a key that is missing or not a number is `none`. -/
structure PaperRisk where
  initialCash : Option ℚ := none
  maxOrderAmount : Option ℚ := none
  dailyMaxLossRate : Option ℚ := none
  maxPositionRatio : Option ℚ := none
  consecutiveLossLimit : Option ℚ := none
  volatilityBlockRate : Option ℚ := none
  feeRate : Option ℚ := none
  slippageRate : Option ℚ := none
  minVolume : Option ℚ := none

/-- The settings, with their defaults. -/
structure PaperSettings where
  maxOrderAmount : ℚ
  dailyMaxLossRate : ℚ
  maxPositionRatio : ℚ
  /-- `max(int(limit), 0)`. -/
  consecutiveLossLimit : ℕ
  volatilityBlockRate : ℚ
  feeRate : ℚ
  slippageRate : ℚ
  minVolume : ℚ

def PaperRisk.settings (risk : PaperRisk) : PaperSettings where
  maxOrderAmount := risk.maxOrderAmount.getD 100000
  dailyMaxLossRate := risk.dailyMaxLossRate.getD (3 / 100)
  maxPositionRatio := risk.maxPositionRatio.getD (1 / 2)
  consecutiveLossLimit := ⌊risk.consecutiveLossLimit.getD 3⌋.toNat
  volatilityBlockRate := risk.volatilityBlockRate.getD (3 / 100)
  feeRate := risk.feeRate.getD (5 / 10000)
  slippageRate := risk.slippageRate.getD (5 / 10000)
  minVolume := risk.minVolume.getD 0

/-- `initial_cash`. -/
def PaperRisk.startCash (risk : PaperRisk) : ℚ := risk.initialCash.getD 1000000

/-! ## Memory -/

/-- `_kst_date_key`: the day in Korea. -/
def kstDateKey (t : UtcTime) : ℤ := (t + 9 * 3600) / 86400

/-- The loop of `_consecutive_losses` over the orders, the latest first; an order is its side
and its `realized_pnl`. -/
def countLosses : List (OrderSide × Option ℚ) → ℕ
  | [] => 0
  | (side, pnl) :: earlier =>
    if side ≠ .sell then countLosses earlier
    else if pnl.any (fun pnl => decide (pnl < 0)) then countLosses earlier + 1
    else 0

def consecutiveLosses (orders : List (OrderSide × Option ℚ)) : ℕ := countLosses orders.reverse

/-- `_day_start_equity`: the first equity point of the day; a point is its time and its equity. -/
def dayStartEquity (points : List (UtcTime × ℚ)) (dateKey : ℤ) (fallback : ℚ) : ℚ :=
  ((points.find? (fun p => kstDateKey p.1 = dateKey)).map Prod.snd).getD fallback

def dayLossRate (equityBefore dayStart : ℚ) : ℚ :=
  if 0 < dayStart then (equityBefore - dayStart) / dayStart else 0

def rangeRate (high low price : ℚ) : ℚ := if 0 < price then (high - low) / price else 0

theorem consecutiveLosses_append_buy (orders : List (OrderSide × Option ℚ)) (pnl : Option ℚ) :
    consecutiveLosses (orders ++ [(.buy, pnl)]) = consecutiveLosses orders := by
  unfold consecutiveLosses
  rw [List.reverse_append, List.reverse_singleton, List.singleton_append, countLosses,
    if_pos (by decide)]

theorem consecutiveLosses_append_sell (orders : List (OrderSide × Option ℚ)) (pnl : ℚ) :
    consecutiveLosses (orders ++ [(.sell, some pnl)])
      = if pnl < 0 then consecutiveLosses orders + 1 else 0 := by
  unfold consecutiveLosses
  rw [List.reverse_append, List.reverse_singleton, List.singleton_append, countLosses,
    if_neg (by decide), Option.any_some]
  simp only [decide_eq_true_eq]

/-! ## An account -/

/-- What a simulator holds. -/
structure PaperAccount where
  cash : ℚ
  positionVolume : ℚ
  averageEntryPrice : ℚ
  realizedPnl : ℚ
  deriving DecidableEq

def PaperAccount.start (cash : ℚ) : PaperAccount where
  cash := cash
  positionVolume := 0
  averageEntryPrice := 0
  realizedPnl := 0

/-- Why a buy is blocked. -/
inductive BuyBlock where
  | dailyLossLimit
  | consecutiveLossLimit
  | volatilityBlock
  | positionOrCashLimit

section Account

variable (settings : PaperSettings) (a : PaperAccount) (price : ℚ)

/-- `equity`: the account at a price. -/
def PaperAccount.equity : ℚ := a.cash + a.positionVolume * price

def PaperAccount.unrealizedPnl : ℚ :=
  if 0 < a.positionVolume then (price - a.averageEntryPrice) * a.positionVolume else 0

def PaperAccount.availableRoom : ℚ :=
  a.equity price * max settings.maxPositionRatio 0 - a.positionVolume * price

def PaperAccount.orderAmount : ℚ :=
  min (min settings.maxOrderAmount a.cash) (a.availableRoom settings price)

/-- `day_loss_rate <= -abs(daily_max_loss_rate)`. -/
def LossesTooMuch (dayStart : ℚ) : Prop :=
  dayLossRate (a.equity price) dayStart ≤ -|settings.dailyMaxLossRate|

instance (dayStart : ℚ) : Decidable (LossesTooMuch settings a price dayStart) := by
  unfold LossesTooMuch; infer_instance

/-- `block_reason` of a buy, given what the memory says. -/
def PaperAccount.buyBlock (row : FrameRow) (dayStart : ℚ) (losses : ℕ) : Option BuyBlock :=
  if LossesTooMuch settings a row.close dayStart then some .dailyLossLimit
  else if settings.consecutiveLossLimit ≤ losses then some .consecutiveLossLimit
  else if settings.volatilityBlockRate ≤ rangeRate row.high row.low row.close then
    some .volatilityBlock
  else if a.orderAmount settings row.close ≤ 0 then some .positionOrCashLimit
  else none

/-- `execution_price` of a buy, and of a sell. -/
def PaperSettings.buyPrice : ℚ := price * (1 + max settings.slippageRate 0)
def PaperSettings.sellPrice : ℚ := price * (1 - max settings.slippageRate 0)

/-- `volume` of a buy. -/
def PaperAccount.buyVolume : ℚ :=
  let orderAmount := a.orderAmount settings price
  let fee := orderAmount * settings.feeRate
  let spend := max (orderAmount - fee) 0
  if 0 < settings.buyPrice price then spend / settings.buyPrice price else 0

def PaperAccount.bought : PaperAccount :=
  let volume := a.buyVolume settings price
  let newVolume := a.positionVolume + volume
  { a with
    averageEntryPrice :=
      if 0 < newVolume then
        (a.positionVolume * a.averageEntryPrice + volume * settings.buyPrice price) / newVolume
      else a.averageEntryPrice
    positionVolume := newVolume
    cash := a.cash - a.orderAmount settings price }

/-- `gross` and `pnl` of a sell. -/
def PaperAccount.sellGross : ℚ := a.positionVolume * settings.sellPrice price
def PaperAccount.sellPnl : ℚ :=
  a.sellGross settings price - a.sellGross settings price * settings.feeRate
    - a.positionVolume * a.averageEntryPrice

def PaperAccount.sold : PaperAccount :=
  let gross := a.sellGross settings price
  let net := gross - gross * settings.feeRate
  { cash := a.cash + net
    realizedPnl := a.realizedPnl + a.sellPnl settings price
    positionVolume := 0
    averageEntryPrice := 0 }

def MemoryBlocks (dayStart : ℚ) (losses : ℕ) : Prop :=
  LossesTooMuch settings a price dayStart ∨ settings.consecutiveLossLimit ≤ losses

/-- The candle and the account let a buy through. -/
def PaperAccount.AdmitsBuy (row : FrameRow) : Prop :=
  rangeRate row.high row.low row.close < settings.volatilityBlockRate
    ∧ 0 < a.orderAmount settings row.close

/-- **What the memory decides about a buy** is only whether the day or the streak blocks it. -/
theorem buyBlock_eq_none_iff (row : FrameRow) (dayStart : ℚ) (losses : ℕ) :
    a.buyBlock settings row dayStart losses = none
      ↔ ¬ MemoryBlocks settings a row.close dayStart losses ∧ a.AdmitsBuy settings row := by
  unfold PaperAccount.buyBlock MemoryBlocks PaperAccount.AdmitsBuy
  simp only [ite_some_eq_none_iff, not_or, and_true]
  simp only [not_le]
  constructor
  · rintro ⟨hday, hlosses, hrange, hamount⟩
    exact ⟨⟨hday, hlosses⟩, hrange, hamount⟩
  · rintro ⟨⟨hday, hlosses⟩, hrange, hamount⟩
    exact ⟨hday, hlosses, hrange, hamount⟩

/-- The side a signal trades on, given whether a buy goes through; a flat account has nothing
to sell. -/
def PaperAccount.side (signal : Signal) (buyAdmitted : Bool) : Option OrderSide :=
  match signal with
  | .buy => if buyAdmitted then some .buy else none
  | .sell => if a.positionVolume ≤ 0 then none else some .sell
  | .hold => none

def PaperAccount.after : Option OrderSide → PaperAccount
  | some .buy => a.bought settings price
  | some .sell => a.sold settings price
  | _ => a

end Account

end AutoCoinBot
