/-
  ExchangeFillsLedger.TradeShares — what the trades of an order get of its fee
  and of its size.

  `normalize_exchange_fills` shares the fee of an order out over trades that list none, and every
  trade reads its own volume and funds.
-/
import AutoCoinBot.ExchangeFillsLedger.FillRecords

namespace AutoCoinBot

/-! ## Fills, trade by trade -/

/-- `order_summary_fee`. -/
def ExchangeOrder.summaryFee (order : ExchangeOrder) : ℚ :=
  orNum (toFloat order.paidFee) (toFloat order.reservedFee)

def hasFillRowFee (trades : List FillSource) : Bool :=
  trades.any (fun trade => (explicitFee trade).isSome)

/-- `source`: an empty trade is falsy, and the order stands in for it. -/
def ExchangeOrder.sourceOf (order : ExchangeOrder) (trade : FillSource) : FillSource :=
  if trade = {} then order.toFillSource else trade

section Shares

variable (order : ExchangeOrder) (trades : List FillSource)

/-- `allocated_order_fee` of a trade. -/
def ExchangeOrder.allocatedFee (trade : FillSource) : ℚ :=
  let amountTotal := (trades.map tradeAmount).sum
  if hasFillRowFee trades = false ∧ order.summaryFee ≠ 0 then
    if 0 < amountTotal then order.summaryFee * (tradeAmount trade / amountTotal)
    else order.summaryFee / trades.length
  else 0

def ExchangeOrder.fillOf (trade : FillSource) (index : ℕ) : ExchangeFill :=
  normalizeExchangeTrade order (some trade) (some index) (order.allocatedFee trades trade)
    (some order.summaryFee) (hasFillRowFee trades)

variable {order trades}

theorem exchangeOrderFills_trades (htrades : order.trades = some trades) (hne : trades ≠ []) :
    exchangeOrderFills order
      = trades.zipIdx.map (fun (trade, index) => order.fillOf trades trade index) := by
  obtain ⟨t, ts, rfl⟩ := List.exists_cons_of_ne_nil hne
  unfold exchangeOrderFills
  rw [htrades]
  rfl

theorem map_exchangeOrderFills {α : Type} (htrades : order.trades = some trades)
    (hne : trades ≠ []) {f : ExchangeFill → α} {g : FillSource → α}
    (hf : ∀ trade ∈ trades, ∀ index, f (order.fillOf trades trade index) = g trade) :
    (exchangeOrderFills order).map f = trades.map g := by
  rw [exchangeOrderFills_trades htrades hne, List.map_map]
  calc trades.zipIdx.map (f ∘ fun (trade, index) => order.fillOf trades trade index)
      = trades.zipIdx.map (g ∘ Prod.fst) := by
        refine List.map_congr_left (fun p hp => ?_)
        exact hf p.1 (List.fst_mem_of_mem_zipIdx hp) p.2
    _ = trades.map g := by rw [← List.map_map, List.zipIdx_map_fst]

end Shares

/-! ## The fee -/

section Fees

variable (order : ExchangeOrder) (trades : List FillSource)

/-- What the fees of an order should add up to. -/
def ExchangeOrder.dueFee : ℚ :=
  if hasFillRowFee trades then (trades.map (fun trade => toFloat (explicitFee trade))).sum
  else order.summaryFee

/-- What the fill of a trade takes beyond the trade's fee and its share: an empty trade
takes a fee listed with the order, and a trade with no share what was paid. -/
def ExchangeOrder.strayFee (trade : FillSource) : ℚ :=
  let share := order.allocatedFee trades trade
  if (explicitFee trade).isSome then 0
  else
    match if trade = {} then explicitFee order.toFillSource else none with
    | some fee => fee - share
    | none => if share ≠ 0 then 0 else orNum (toFloat trade.paidFee) (toFloat order.paidFee)

variable {order trades}

theorem sum_allocatedFee (hne : trades ≠ []) :
    (trades.map (order.allocatedFee trades)).sum
      = if hasFillRowFee trades then 0 else order.summaryFee := by
  unfold ExchangeOrder.allocatedFee
  dsimp only
  by_cases hrow : hasFillRowFee trades = true
  · rw [if_pos hrow]
    simp [hrow]
  · have hnone : hasFillRowFee trades = false := Bool.eq_false_iff.mpr hrow
    rw [if_neg hrow]
    by_cases hfee : order.summaryFee = 0
    · simp [hfee]
    · simp only [hnone, hfee, ne_eq, not_false_eq_true, and_self, if_true]
      by_cases htotal : 0 < (trades.map tradeAmount).sum
      · -- in proportion to the amounts
        simp only [if_pos htotal]
        rw [List.sum_map_mul_left]
        simp only [div_eq_mul_inv]
        rw [List.sum_map_mul_right, mul_inv_cancel₀ htotal.ne', mul_one]
      · -- evenly
        have hlength : (trades.length : ℚ) ≠ 0 :=
          Nat.cast_ne_zero.mpr (fun h => hne (List.length_eq_zero_iff.mp h))
        simp only [if_neg htotal]
        rw [List.map_const', List.sum_replicate, nsmul_eq_mul, mul_div_cancel₀ _ hlength]

theorem allocatedFee_of_explicit {trade other : FillSource} (hmem : trade ∈ trades)
    (hfee : (explicitFee trade).isSome) : order.allocatedFee trades other = 0 := by
  have hrow : hasFillRowFee trades = true := List.any_eq_true.mpr ⟨trade, hmem, hfee⟩
  unfold ExchangeOrder.allocatedFee
  dsimp only
  rw [if_neg]
  rintro ⟨hnone, -⟩
  rw [hrow] at hnone
  cases hnone

theorem fee_fillOf {trade : FillSource} (hmem : trade ∈ trades) (index : ℕ) :
    (order.fillOf trades trade index).fee
      = toFloat (explicitFee trade) + order.allocatedFee trades trade
        + order.strayFee trades trade := by
  have hempty : explicitFee ({} : FillSource) = none := rfl
  unfold ExchangeOrder.fillOf normalizeExchangeTrade ExchangeOrder.strayFee
  dsimp only
  by_cases htrade : trade = {}
  · -- the order stands in for an empty trade
    subst htrade
    rw [hempty]
    cases hfee : explicitFee order.toFillSource with
    | some fee => simp [hfee]
    | none =>
      simp only [if_true, hfee]
      by_cases hshare : order.allocatedFee trades {} = 0
      · simp [hshare]
      · simp [hshare]
  · rw [if_neg htrade, if_neg htrade]
    cases hfee : explicitFee trade with
    | some fee =>
      have hshare := @allocatedFee_of_explicit order trades trade trade hmem (by simp [hfee])
      simp [hshare]
    | none =>
      by_cases hshare : order.allocatedFee trades trade = 0
      · simp [hshare]
      · simp [hshare]

theorem sum_fees (htrades : order.trades = some trades) (hne : trades ≠ []) :
    ((exchangeOrderFills order).map ExchangeFill.fee).sum
      = order.dueFee trades + (trades.map (order.strayFee trades)).sum := by
  rw [map_exchangeOrderFills htrades hne (fun trade htrade index => fee_fillOf htrade index),
    List.sum_map_add, List.sum_map_add, sum_allocatedFee hne]
  congr 1
  unfold ExchangeOrder.dueFee
  by_cases hrow : hasFillRowFee trades = true
  · rw [if_pos hrow, if_pos hrow, add_zero]
  · have hnone : ∀ trade ∈ trades, toFloat (explicitFee trade) = 0 := by
      intro trade htrade
      cases hfee : explicitFee trade with
      | none => rfl
      | some fee => exact absurd (List.any_eq_true.mpr ⟨trade, htrade, by simp [hfee]⟩) hrow
    rw [if_neg hrow, if_neg hrow, List.map_congr_left hnone]
    simp

/-- **The fees of an order's fills add up** to the fees its trades list, or to the fee of
the order where they list none, exactly if what the fills take beyond that does not show. -/
theorem fees_of_trades_iff (htrades : order.trades = some trades) (hne : trades ≠ []) :
    ((exchangeOrderFills order).map ExchangeFill.fee).sum = order.dueFee trades
      ↔ (trades.map (order.strayFee trades)).sum = 0 := by
  rw [sum_fees htrades hne]
  exact add_eq_left

end Fees

/-- Two trades, of which the first lists its fee. -/
def exampleFeeTrades : List FillSource :=
  [ { volume := some 4, price := some 281, funds := some 1124, fee := some (4 / 10) },
    { volume := some 6, price := some 281, funds := some 1686 } ]

/-- An order with these trades, and a fee that has been paid. -/
def exampleFeeOrder (paidFee : Option ℚ) : ExchangeOrder :=
  { volume := some 10, executedVolume := some 10, executedFunds := some 2810, paidFee := paidFee
    trades := some exampleFeeTrades }

theorem fees_of_trades_unpaid :
    ((exchangeOrderFills (exampleFeeOrder none)).map ExchangeFill.fee).sum
        = (exampleFeeOrder none).dueFee exampleFeeTrades
      ↔ (exampleFeeTrades.map ((exampleFeeOrder none).strayFee exampleFeeTrades)).sum = 0 :=
  fees_of_trades_iff rfl (by decide)

theorem fees_of_trades_paid_twice :
    ((exchangeOrderFills (exampleFeeOrder (some (1405 / 1000)))).map ExchangeFill.fee).sum
      ≠ (exampleFeeOrder (some (1405 / 1000))).dueFee exampleFeeTrades := by
  decide +kernel

/-! ## The size -/

/-- A trade's volume and funds, or its price times its volume if it reports no funds. -/
def FillSource.size (trade : FillSource) : ℚ × ℚ :=
  (toFloat trade.volume,
    orNum (toFloat trade.funds) (toFloat trade.price * toFloat trade.volume))

def ExchangeFill.size (fill : ExchangeFill) : ℚ × ℚ := (fill.quantity, fill.amountKrw)

/-- What a trade without funds goes on to: other amounts of its own, then the order's. -/
def ExchangeOrder.otherAmount (order : ExchangeOrder) (trade : FillSource) : ℚ :=
  orNum (orNum (toFloat trade.executedFunds) (toFloat trade.filledAmountKrw))
    (toFloat order.executedFunds)

section Sizes

variable {order : ExchangeOrder} {trades : List FillSource}

theorem size_fillOf {trade : FillSource} (hprice : 0 < toFloat trade.price)
    (hvolume : 0 < toFloat trade.volume) (index : ℕ) :
    (order.fillOf trades trade index).size
      = (toFloat trade.volume,
          orNum (orNum (toFloat trade.funds) (order.otherAmount trade))
            (toFloat trade.price * toFloat trade.volume)) := by
  have hfilled : trade ≠ {} := by
    rintro rfl
    exact lt_irrefl _ hvolume
  unfold ExchangeOrder.fillOf normalizeExchangeTrade ExchangeFill.size ExchangeOrder.otherAmount
  dsimp only
  rw [if_neg hfilled, orNum_of_ne _ hvolume.ne', orNum_of_ne _ hvolume.ne', if_pos hvolume.ne',
    orNum_of_ne _ hprice.ne']
  congr 1
  have hpositive : toFloat trade.price ≠ 0 ∧ toFloat trade.volume ≠ 0 :=
    ⟨hprice.ne', hvolume.ne'⟩
  simp only [hpositive, and_true, ne_eq, not_false_eq_true]
  unfold orNum
  split_ifs <;> simp_all

/-- **The fills keep the size of each trade**, and with it the totals, exactly if what a trade
without funds goes on to is nothing, or its price times its volume. -/
theorem sizes_of_trades_iff (htrades : order.trades = some trades) (hne : trades ≠ [])
    (hpositive : ∀ trade ∈ trades, 0 < toFloat trade.price ∧ 0 < toFloat trade.volume) :
    ((exchangeOrderFills order).map ExchangeFill.size = trades.map FillSource.size
        ∧ ((exchangeOrderFills order).map ExchangeFill.quantity).sum
          = (trades.map (fun trade => trade.size.1)).sum
        ∧ ((exchangeOrderFills order).map ExchangeFill.amountKrw).sum
          = (trades.map (fun trade => trade.size.2)).sum)
      ↔ ∀ trade ∈ trades, toFloat trade.funds = 0 → order.otherAmount trade = 0
          ∨ order.otherAmount trade = toFloat trade.price * toFloat trade.volume := by
  have hsizes := map_exchangeOrderFills htrades hne (fun trade htrade index =>
    size_fillOf (hpositive trade htrade).1 (hpositive trade htrade).2 index)
  have htotal : ∀ {fills : List ExchangeFill} {f : ℚ × ℚ → ℚ},
      fills.map ExchangeFill.size = trades.map FillSource.size →
      (fills.map (fun fill => f fill.size)).sum = (trades.map (fun trade => f trade.size)).sum := by
    intro fills f h
    have hmap := congrArg (fun sizes => (sizes.map f).sum) h
    simp only [List.map_map] at hmap
    exact hmap
  rw [and_iff_left_of_imp (fun h => ⟨@htotal _ Prod.fst h, @htotal _ Prod.snd h⟩), hsizes,
    List.map_inj_left]
  refine forall₂_congr (fun trade htrade => ?_)
  unfold FillSource.size orNum
  by_cases hfunds : toFloat trade.funds = 0
  · by_cases hother : order.otherAmount trade = 0
    · simp [hfunds, hother]
    · simp [hfunds, hother]
  · simp [hfunds]

end Sizes

def exampleSizeOrder (executedFunds : Option ℚ) : ExchangeOrder :=
  { executedVolume := some 10, executedFunds := executedFunds
    trades := some [ { volume := some 4, price := some 281 },
      { volume := some 6, price := some 281 } ] }

theorem sizes_of_trades_without_funds :
    ((exchangeOrderFills (exampleSizeOrder none)).map ExchangeFill.size
        = ((exampleSizeOrder none).trades.getD []).map FillSource.size
      ∧ ((exchangeOrderFills (exampleSizeOrder none)).map ExchangeFill.quantity).sum
        = (((exampleSizeOrder none).trades.getD []).map (fun trade => trade.size.1)).sum
      ∧ ((exchangeOrderFills (exampleSizeOrder none)).map ExchangeFill.amountKrw).sum
        = (((exampleSizeOrder none).trades.getD []).map (fun trade => trade.size.2)).sum)
    ↔ ∀ trade ∈ (exampleSizeOrder none).trades.getD [], toFloat trade.funds = 0 →
        (exampleSizeOrder none).otherAmount trade = 0
          ∨ (exampleSizeOrder none).otherAmount trade
            = toFloat trade.price * toFloat trade.volume :=
  sizes_of_trades_iff rfl (by decide) (by decide +kernel)

theorem order_funds_taken_twice :
    ((exchangeOrderFills (exampleSizeOrder (some 2810))).map ExchangeFill.amountKrw).sum = 5620
      ∧ (exchangeOrderFills (exampleSizeOrder (some 2810))).map ExchangeFill.size
        ≠ ((exampleSizeOrder (some 2810)).trades.getD []).map FillSource.size := by
  decide +kernel

end AutoCoinBot
