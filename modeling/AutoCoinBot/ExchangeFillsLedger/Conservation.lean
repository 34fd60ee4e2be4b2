/-
  ExchangeFillsLedger.Conservation — FIFO accounting conserves value.

  What is thrown away is at most the tolerance a lot, and nothing if the quantities lie on a grid
  coarser than the tolerance.
-/
import AutoCoinBot.ExchangeFillsLedger.RealizedPnl
import AutoCoinBot.Library.Aggregate

namespace AutoCoinBot

open Library

/-! ## Totals -/

def LedgerRow.countsAs (row : LedgerRow) (side : FillSide) : Bool :=
  0 < row.quantity && row.side == side

/-- What the counted buys of a market bought. -/
def boughtQuantity (rows : List LedgerRow) (market : String) : ℚ :=
  sumWhere rows (fun r => r.countsAs .buy && r.market == market) LedgerRow.quantity

/-- A figure of the lots still open, over all markets. -/
def FifoState.openTotal (st : FifoState) (g : Lot → ℚ) : ℚ :=
  (st.markets.map (fun market => ((st.lots market).map g).sum)).sum

def FifoState.discarded (st : FifoState) (g : Lot → ℚ) : ℚ := (st.popped.map (fun p => g p.2)).sum

def FifoState.realized (st : FifoState) (f : RealizedTrade → ℚ) : ℚ :=
  (st.realizedTrades.map f).sum

/-- What the sells of a market were paired with. -/
def FifoState.pairedQuantity (st : FifoState) (market : String) : ℚ :=
  sumWhere st.fifoTrace (fun t => t.row.market == market)
    (fun t => (t.matchedLots.map MatchedLot.quantity).sum)

def FifoState.openQuantity (st : FifoState) (market : String) : ℚ :=
  ((st.lots market).map Lot.quantity).sum

def FifoState.discardedQuantity (st : FifoState) (market : String) : ℚ :=
  sumWhere st.popped (fun p => p.1 == market) (fun p => p.2.quantity)

/-! ## One sell loop -/

/-- The lot holds no negative quantity, and nothing at all if its quantity is used up. -/
def Lot.Sound (lot : Lot) : Prop :=
  0 ≤ lot.quantity ∧ (lot.quantity = 0 → lot.cost = 0 ∧ lot.fee = 0)

theorem Lot.Sound.after {lot : Lot} (h : lot.Sound) (demand : ℚ) :
    (lot.after (min demand lot.quantity)).Sound := by
  obtain ⟨hnonneg, hempty⟩ := h
  have hle : min demand lot.quantity ≤ lot.quantity := min_le_right _ _
  refine ⟨sub_nonneg.mpr hle, fun hzero => ?_⟩
  have hused : min demand lot.quantity = lot.quantity := (sub_eq_zero.mp hzero).symm
  by_cases hpos : 0 < lot.quantity
  · -- the whole lot was used
    have hratio : lot.ratio (min demand lot.quantity) = 1 := by
      unfold Lot.ratio
      rw [if_pos hpos, hused, div_self hpos.ne']
    show lot.cost - lot.cost * lot.ratio _ = 0 ∧ lot.fee - lot.fee * lot.ratio _ = 0
    rw [hratio]
    constructor <;> ring
  · have hzero' : lot.quantity = 0 := le_antisymm (not_lt.mp hpos) hnonneg
    obtain ⟨hcost, hfee⟩ := hempty hzero'
    show lot.cost - lot.cost * lot.ratio _ = 0 ∧ lot.fee - lot.fee * lot.ratio _ = 0
    rw [hcost, hfee]
    constructor <;> ring

section SellLoop

variable (quantity : ℚ) (queue : List Lot)

theorem sellLots_cost :
    (sellLots { remaining := quantity } queue).basis
      + ((sellLots { remaining := quantity } queue).popped.map Lot.cost).sum
      + ((sellLots { remaining := quantity } queue).queue.map Lot.cost).sum
      = (queue.map Lot.cost).sum := by
  have hsplit : ∀ used lot, (sellCut.piece used lot).costBasis + (sellCut.rest used lot).cost
      = lot.cost := by
    intro used lot
    show lot.cost * lot.ratio used + (lot.cost - lot.cost * lot.ratio used) = lot.cost
    ring
  rw [sellLots_eq_draw, ← draw_conserves hsplit quantity queue]
  simp

theorem sellLots_fee :
    (sellLots { remaining := quantity } queue).buyFee
      + ((sellLots { remaining := quantity } queue).popped.map Lot.fee).sum
      + ((sellLots { remaining := quantity } queue).queue.map Lot.fee).sum
      = (queue.map Lot.fee).sum := by
  have hsplit : ∀ used lot, (sellCut.piece used lot).allocatedBuyFee + (sellCut.rest used lot).fee
      = lot.fee := by
    intro used lot
    show lot.fee * lot.ratio used + (lot.fee - lot.fee * lot.ratio used) = lot.fee
    ring
  rw [sellLots_eq_draw, ← draw_conserves hsplit quantity queue]
  simp

theorem sellLots_quantity :
    ((sellLots { remaining := quantity } queue).matchedLots.map MatchedLot.quantity).sum
      + ((sellLots { remaining := quantity } queue).popped.map Lot.quantity).sum
      + ((sellLots { remaining := quantity } queue).queue.map Lot.quantity).sum
      = (queue.map Lot.quantity).sum := by
  have hsplit : ∀ used lot, (sellCut.piece used lot).quantity + (sellCut.rest used lot).quantity
      = lot.quantity := by
    intro used lot
    show used + (lot.quantity - used) = lot.quantity
    ring
  rw [sellLots_eq_draw, ← draw_conserves hsplit quantity queue]
  simp

theorem sellLots_remaining :
    ((sellLots { remaining := quantity } queue).matchedLots.map MatchedLot.quantity).sum
      + (sellLots { remaining := quantity } queue).remaining = quantity := by
  rw [sellLots_eq_draw]
  have hpiece : ∀ used lot, (sellCut.piece used lot).quantity = used := fun _ _ => rfl
  simpa using draw_demand hpiece quantity queue

variable {quantity queue}

theorem sellLots_sound (hqueue : ∀ lot ∈ queue, lot.Sound) :
    (∀ lot ∈ (sellLots { remaining := quantity } queue).queue, lot.Sound)
      ∧ ∀ lot ∈ (sellLots { remaining := quantity } queue).popped,
          lot.Sound ∧ lot.quantity ≤ lotTolerance := by
  have hcut : ∀ (demand : ℚ) (lot : Lot), 0 < demand → True → lot.Sound →
      (sellCut.rest (min demand (sellCut.size lot)) lot).Sound ∧ True :=
    fun demand _ _ _ hlot => ⟨Lot.Sound.after hlot demand, trivial⟩
  obtain ⟨hdropped, hleft, -⟩ := draw_forall hcut (trivial : True) hqueue
  rw [sellLots_eq_draw]
  refine ⟨hleft, fun lot hlot => ?_⟩
  rw [List.nil_append] at hlot
  exact ⟨hdropped lot hlot, exhausted_of_mem_dropped _ queue lot hlot⟩

end SellLoop

/-! ## The books -/

/-- What the loop over the rows keeps: the cost and the fees of the buys are in the
realized sells, the open lots and the popped ones. -/
structure FifoBooks (st : FifoState) : Prop where
  markets_nodup : st.markets.Nodup
  untouched : ∀ market, market ∉ st.markets → st.lots market = []
  sound : ∀ market, ∀ lot ∈ st.lots market, lot.Sound
  popped : ∀ p ∈ st.popped, p.2.Sound ∧ p.2.quantity ≤ lotTolerance
  buyValue : st.buyValue
    = st.realized RealizedTrade.basisBeforeFee + st.openTotal Lot.cost + st.discarded Lot.cost
  buyFeeTotal : st.buyFeeTotal
    = st.realized RealizedTrade.allocatedBuyFee + st.openTotal Lot.fee + st.discarded Lot.fee
  gross : st.gross = st.sellValue - st.realized RealizedTrade.basisBeforeFee

theorem FifoState.openTotal_update {st st' : FifoState} {market : String} {queue : List Lot}
    (hnodup : st.markets.Nodup) (hmem : market ∈ st.markets) (hmarkets : st'.markets = st.markets)
    (hlots : st'.lots = Function.update st.lots market queue) (g : Lot → ℚ) :
    st'.openTotal g
      = st.openTotal g + ((queue.map g).sum - ((st.lots market).map g).sum) := by
  unfold FifoState.openTotal
  rw [hmarkets, hlots]
  exact sum_map_update hnodup hmem st.lots queue (fun lots => (lots.map g).sum)

section Books

variable {st : FifoState} {row : LedgerRow}

theorem FifoBooks.open (h : FifoBooks st) :
    FifoBooks (st.open row).1 ∧ row.market ∈ (st.open row).1.markets := by
  have hlots : (st.open row).1.lots = st.lots := by
    unfold FifoState.open; dsimp only; split <;> rfl
  have hmarkets : (st.open row).1.markets
      = if row.market ∈ st.markets then st.markets else st.markets ++ [row.market] := by
    unfold FifoState.open; dsimp only; split <;> rfl
  -- a market that is new has no lot yet, so it adds nothing to an open figure
  have hopen : ∀ g, (st.open row).1.openTotal g = st.openTotal g := by
    intro g
    unfold FifoState.openTotal
    rw [hlots, hmarkets]
    by_cases hmem : row.market ∈ st.markets
    · rw [if_pos hmem]
    · rw [if_neg hmem, List.map_append, List.sum_append]
      simp [h.untouched row.market hmem]
  have hrest : (st.open row).1.popped = st.popped
      ∧ (st.open row).1.realizedTrades = st.realizedTrades
      ∧ (st.open row).1.buyValue = st.buyValue ∧ (st.open row).1.sellValue = st.sellValue
      ∧ (st.open row).1.buyFeeTotal = st.buyFeeTotal ∧ (st.open row).1.gross = st.gross := by
    unfold FifoState.open; dsimp only; split <;> exact ⟨rfl, rfl, rfl, rfl, rfl, rfl⟩
  obtain ⟨hpopped, htrades, hbuy, hsell, hfee, hgross⟩ := hrest
  refine ⟨⟨?_, ?_, ?_, ?_, ?_, ?_, ?_⟩, ?_⟩
  · rw [hmarkets]
    by_cases hmem : row.market ∈ st.markets
    · rw [if_pos hmem]; exact h.markets_nodup
    · rw [if_neg hmem]
      refine List.nodup_append.mpr ⟨h.markets_nodup, by simp, ?_⟩
      intro market hmarket other hother
      rw [List.mem_singleton.mp hother]
      exact ne_of_mem_of_not_mem hmarket hmem
  · intro market hmarket
    rw [hlots]
    refine h.untouched market (fun hmem => hmarket ?_)
    rw [hmarkets]
    split
    · exact hmem
    · exact List.mem_append_left _ hmem
  · rw [hlots]; exact h.sound
  · rw [hpopped]; exact h.popped
  · rw [hbuy, hopen, h.buyValue]
    unfold FifoState.realized FifoState.discarded
    rw [htrades, hpopped]
  · rw [hfee, hopen, h.buyFeeTotal]
    unfold FifoState.realized FifoState.discarded
    rw [htrades, hpopped]
  · rw [hgross, hsell, h.gross]
    unfold FifoState.realized
    rw [htrades]
  · rw [hmarkets]
    split
    · assumption
    · exact List.mem_append_right _ List.mem_cons_self

theorem FifoBooks.buy (h : FifoBooks st) (hmem : row.market ∈ st.markets)
    (hquantity : 0 < row.quantity) : FifoBooks (st.buy row) := by
  have hopen : ∀ g, (st.buy row).openTotal g = st.openTotal g
      + g { quantity := row.quantity, cost := row.executedValue, fee := row.krwFee } := by
    intro g
    rw [@FifoState.openTotal_update st (st.buy row) row.market _ h.markets_nodup hmem rfl rfl]
    simp
  refine ⟨h.markets_nodup, ?_, ?_, h.popped, ?_, ?_, h.gross⟩
  · intro market hmarket
    have hne : market ≠ row.market := fun heq => hmarket (heq ▸ hmem)
    show Function.update st.lots row.market _ market = []
    rw [Function.update_of_ne hne]
    exact h.untouched market hmarket
  · intro market lot hlot
    by_cases hmarket : market = row.market
    · subst hmarket
      change lot ∈ Function.update st.lots row.market _ row.market at hlot
      rw [Function.update_self] at hlot
      rcases List.mem_append.mp hlot with hlot | hlot
      · exact h.sound _ lot hlot
      · -- the new lot holds what was bought, so it is not empty
        rw [List.mem_singleton.mp hlot]
        exact ⟨hquantity.le, fun hzero => absurd hzero hquantity.ne'⟩
    · change lot ∈ Function.update st.lots row.market _ market at hlot
      rw [Function.update_of_ne hmarket] at hlot
      exact h.sound _ lot hlot
  · show st.buyValue + row.executedValue = st.realized _ + (st.buy row).openTotal Lot.cost
      + st.discarded Lot.cost
    rw [hopen, h.buyValue]
    ring
  · show st.buyFeeTotal + row.krwFee = st.realized _ + (st.buy row).openTotal Lot.fee
      + st.discarded Lot.fee
    rw [hopen, h.buyFeeTotal]
    ring

theorem FifoBooks.sell (h : FifoBooks st) (hmem : row.market ∈ st.markets) :
    FifoBooks (st.sell row (sellLots { remaining := row.quantity } (st.lots row.market))) := by
  obtain ⟨hqueue, hpopped⟩ := @sellLots_sound row.quantity _ (h.sound row.market)
  have hcost := sellLots_cost row.quantity (st.lots row.market)
  have hfee := sellLots_fee row.quantity (st.lots row.market)
  generalize sellLots { remaining := row.quantity } (st.lots row.market) = loop at *
  have hopen : ∀ g, (st.sell row loop).openTotal g
      = st.openTotal g + ((loop.queue.map g).sum - ((st.lots row.market).map g).sum) :=
    fun g => @FifoState.openTotal_update st (st.sell row loop) row.market _ h.markets_nodup hmem
      rfl rfl g
  have hrealized : ∀ f, (st.sell row loop).realized f
      = st.realized f + f (realizedTrade row loop) := by
    intro f
    show ((st.realizedTrades ++ [realizedTrade row loop]).map f).sum = _
    rw [List.map_append, List.sum_append]
    simp [FifoState.realized]
  -- what the loop popped is thrown away with what it still held
  have hdiscarded : ∀ g, (st.sell row loop).discarded g
      = st.discarded g + (loop.popped.map g).sum := by
    intro g
    show ((st.popped ++ loop.popped.map (fun lot => (row.market, lot))).map (fun p => g p.2)).sum
      = _
    rw [List.map_append, List.sum_append, List.map_map]
    rfl
  refine ⟨h.markets_nodup, ?_, ?_, ?_, ?_, ?_, ?_⟩
  · intro market hmarket
    have hne : market ≠ row.market := fun heq => hmarket (heq ▸ hmem)
    show Function.update st.lots row.market _ market = []
    rw [Function.update_of_ne hne]
    exact h.untouched market hmarket
  · intro market lot hlot
    by_cases hmarket : market = row.market
    · subst hmarket
      change lot ∈ Function.update st.lots row.market _ row.market at hlot
      rw [Function.update_self] at hlot
      exact hqueue lot hlot
    · change lot ∈ Function.update st.lots row.market _ market at hlot
      rw [Function.update_of_ne hmarket] at hlot
      exact h.sound _ lot hlot
  · intro p hp
    rcases List.mem_append.mp hp with hp | hp
    · exact h.popped p hp
    · obtain ⟨lot, hlot, rfl⟩ := List.mem_map.mp hp
      exact hpopped lot hlot
  · show st.buyValue = _
    rw [hrealized, hopen, hdiscarded, h.buyValue]
    show _ = _ + loop.basis + _ + _
    linarith
  · show st.buyFeeTotal = _
    rw [hrealized, hopen, hdiscarded, h.buyFeeTotal]
    show _ = _ + loop.buyFee + _ + _
    linarith
  · show st.gross + (row.executedValue - loop.basis) = st.sellValue + row.executedValue - _
    rw [hrealized, h.gross]
    show _ = _ - (_ + loop.basis)
    ring

theorem FifoBooks.close (h : FifoBooks st) (index : ℕ) (before : QueueSnapshot)
    (matchedLots : List MatchedLot) (pnl fee : ℚ) (warnings : List FifoWarning) :
    FifoBooks (st.close index row before matchedLots pnl fee warnings) :=
  ⟨h.markets_nodup, h.untouched, h.sound, h.popped, h.buyValue, h.buyFeeTotal, h.gross⟩

/-- **One row keeps the books.** -/
theorem FifoBooks.applyLedgerRow (h : FifoBooks st) : FifoBooks (applyLedgerRow st row) := by
  obtain ⟨hopened, hmem⟩ := @FifoBooks.open st row h
  unfold AutoCoinBot.applyLedgerRow
  dsimp only
  split
  · exact hopened.close ..
  · rename_i hquantity
    split
    · exact (hopened.buy hmem (not_le.mp hquantity)).close ..
    · exact (hopened.sell hmem).close ..
    · exact hopened.close ..

end Books

/-! ## Quantities -/

/-- In every market, what was bought is paired with a sell, open or thrown away. -/
def QuantityBalance (st : FifoState) : Prop :=
  ∀ market, boughtQuantity (st.fifoTrace.map FifoTraceRow.row) market
    = st.pairedQuantity market + st.openQuantity market + st.discardedQuantity market

section Quantities

variable {st : FifoState} {row : LedgerRow}

@[simp] theorem FifoState.open_fifoTrace : (st.open row).1.fifoTrace = st.fifoTrace := by
  unfold FifoState.open; dsimp only; split <;> rfl

@[simp] theorem FifoState.open_lots : (st.open row).1.lots = st.lots := by
  unfold FifoState.open; dsimp only; split <;> rfl

@[simp] theorem FifoState.open_popped : (st.open row).1.popped = st.popped := by
  unfold FifoState.open; dsimp only; split <;> rfl

/-- **What one row does to the lots**: nothing, a new lot, or a sell loop; it is traced
with the lots it matched. -/
theorem applyLedgerRow_cases (st : FifoState) (row : LedgerRow) :
    ∃ entry : FifoTraceRow, entry.row = row
      ∧ (applyLedgerRow st row).fifoTrace = st.fifoTrace ++ [entry]
      ∧ ((row.countsAs .buy = false ∧ row.countsAs .sell = false ∧ entry.matchedLots = []
            ∧ (applyLedgerRow st row).lots = st.lots ∧ (applyLedgerRow st row).popped = st.popped)
          ∨ (row.countsAs .buy = true ∧ row.countsAs .sell = false ∧ entry.matchedLots = []
            ∧ (applyLedgerRow st row).lots = Function.update st.lots row.market
                (st.lots row.market ++
                  [{ quantity := row.quantity, cost := row.executedValue, fee := row.krwFee }])
            ∧ (applyLedgerRow st row).popped = st.popped)
          ∨ (row.countsAs .buy = false ∧ row.countsAs .sell = true
            ∧ ∃ loop, loop = sellLots { remaining := row.quantity } (st.lots row.market)
              ∧ entry.matchedLots = loop.matchedLots
              ∧ (applyLedgerRow st row).lots = Function.update st.lots row.market loop.queue
              ∧ (applyLedgerRow st row).popped
                  = st.popped ++ loop.popped.map (fun lot => (row.market, lot)))) := by
  have htrace := @FifoState.open_fifoTrace st row
  have hlots := @FifoState.open_lots st row
  have hpopped := @FifoState.open_popped st row
  unfold applyLedgerRow LedgerRow.countsAs
  generalize st.open row = opened at *
  dsimp only
  rw [← htrace, ← hlots, ← hpopped]
  -- skipped rows count on neither side
  by_cases hquantity : row.quantity ≤ 0
  · rw [if_pos hquantity]
    have hnot : ¬ 0 < row.quantity := not_lt.mpr hquantity
    exact ⟨_, rfl, rfl, .inl ⟨by simp [hnot], by simp [hnot], rfl, rfl, rfl⟩⟩
  · rw [if_neg hquantity]
    have hpos : 0 < row.quantity := not_le.mp hquantity
    cases hside : row.side with
    | buy => exact ⟨_, rfl, rfl, .inr (.inl ⟨by simp [hpos], by simp, rfl, rfl, rfl⟩)⟩
    | sell => exact ⟨_, rfl, rfl, .inr (.inr ⟨by simp, by simp [hpos], _, rfl, rfl, rfl, rfl⟩)⟩
    | other text => exact ⟨_, rfl, rfl, .inl ⟨by simp, by simp, rfl, rfl, rfl⟩⟩

theorem quantityBalance_applyLedgerRow (h : QuantityBalance st) :
    QuantityBalance (applyLedgerRow st row) := by
  intro market
  obtain ⟨entry, hrow, htrace, hcases⟩ := applyLedgerRow_cases st row
  have hbefore := h market
  unfold boughtQuantity FifoState.pairedQuantity FifoState.openQuantity
    FifoState.discardedQuantity at hbefore ⊢
  rw [htrace, List.map_append, sumWhere_append, sumWhere_append, hbefore]
  simp only [List.map_cons, List.map_nil, sumWhere_cons, sumWhere_nil, add_zero, hrow]
  rcases hcases with ⟨hbuy, -, hmatched, hlots, hpopped⟩ | ⟨hbuy, -, hmatched, hlots, hpopped⟩
    | ⟨hbuy, -, loop, hloop, hmatched, hlots, hpopped⟩
  · rw [hlots, hpopped, hbuy, hmatched]
    simp
  · -- the bought quantity is the new lot's
    rw [hlots, hpopped, hbuy, hmatched]
    by_cases hmarket : row.market = market
    · subst hmarket
      rw [Function.update_self]
      simp
      ring
    · rw [Function.update_of_ne (Ne.symm hmarket)]
      simp [hmarket]
  · -- the queue of the market is split between the matched lots, the popped and the rest
    rw [hlots, hpopped, hbuy, hmatched, sumWhere_append]
    by_cases hmarket : row.market = market
    · subst hmarket
      have hsplit := sellLots_quantity row.quantity (st.lots row.market)
      rw [← hloop] at hsplit
      have hpop : sumWhere (loop.popped.map (fun lot => (row.market, lot)))
          (fun p => p.1 == row.market) (fun p => p.2.quantity)
          = (loop.popped.map Lot.quantity).sum := by
        unfold sumWhere
        rw [List.map_map]
        simp [Function.comp_def]
      rw [Function.update_self, hpop]
      simp
      linarith
    · have hpop : sumWhere (loop.popped.map (fun lot => (row.market, lot)))
          (fun p => p.1 == market) (fun p => p.2.quantity) = 0 := by
        unfold sumWhere
        rw [List.map_map]
        simp [Function.comp_def, hmarket]
      rw [Function.update_of_ne (Ne.symm hmarket), hpop]
      simp [hmarket]

theorem fifoTrace_rows (rows : List LedgerRow) (st : FifoState) :
    (Library.run applyLedgerRow st rows).fifoTrace.map FifoTraceRow.row
      = st.fifoTrace.map FifoTraceRow.row ++ rows := by
  induction rows generalizing st with
  | nil => simp
  | cons row rows ih =>
    obtain ⟨entry, hrow, htrace, -⟩ := applyLedgerRow_cases st row
    rw [run_cons, ih, htrace, List.map_append]
    simp [hrow]

end Quantities

/-! ## The grid of the exchange -/

/-- Every lot's quantity lies in `H`. -/
def OnGrid (H : AddSubgroup ℚ) (st : FifoState) : Prop :=
  (∀ market, ∀ lot ∈ st.lots market, lot.quantity ∈ H) ∧ ∀ p ∈ st.popped, p.2.quantity ∈ H

theorem onGrid_applyLedgerRow {H : AddSubgroup ℚ} {st : FifoState} {row : LedgerRow}
    (hrow : row.quantity ∈ H) (h : OnGrid H st) : OnGrid H (applyLedgerRow st row) := by
  obtain ⟨hlots, hpopped⟩ := h
  obtain ⟨entry, -, -, hcases⟩ := applyLedgerRow_cases st row
  rcases hcases with ⟨-, -, -, hlots', hpopped'⟩ | ⟨-, -, -, hlots', hpopped'⟩
    | ⟨-, -, loop, hloop, -, hlots', hpopped'⟩
  · exact ⟨hlots' ▸ hlots, hpopped' ▸ hpopped⟩
  · refine ⟨?_, hpopped' ▸ hpopped⟩
    intro market lot hlot
    rw [hlots'] at hlot
    by_cases hmarket : market = row.market
    · subst hmarket
      rw [Function.update_self] at hlot
      rcases List.mem_append.mp hlot with hlot | hlot
      · exact hlots _ lot hlot
      · rw [List.mem_singleton.mp hlot]
        exact hrow
    · rw [Function.update_of_ne hmarket] at hlot
      exact hlots _ lot hlot
  · have hrest : ∀ used lot, sellCut.size (sellCut.rest used lot) = sellCut.size lot - used :=
      fun _ _ => rfl
    obtain ⟨hdropped, hleft, -⟩ := draw_mem_subgroup hrest hrow (hlots row.market)
    rw [sellLots_eq_draw] at hloop
    subst hloop
    constructor
    · intro market lot hlot
      rw [hlots'] at hlot
      by_cases hmarket : market = row.market
      · subst hmarket
        rw [Function.update_self] at hlot
        exact hleft lot hlot
      · rw [Function.update_of_ne hmarket] at hlot
        exact hlots _ lot hlot
    · intro p hp
      rw [hpopped'] at hp
      rcases List.mem_append.mp hp with hp | hp
      · exact hpopped p hp
      · obtain ⟨lot, hlot, rfl⟩ := List.mem_map.mp hp
        exact hdropped lot hlot

/-! ## The report -/

theorem fifoBooks_fifoState (rows : List LedgerRow) : FifoBooks (fifoState rows) := by
  refine run_invariant (fun _ _ h => FifoBooks.applyLedgerRow h) ?_ _
  refine ⟨List.nodup_nil, by simp, by simp, by simp, ?_, ?_, ?_⟩
  · simp [FifoState.realized, FifoState.openTotal, FifoState.discarded]
  · simp [FifoState.realized, FifoState.openTotal, FifoState.discarded]
  · simp [FifoState.realized]

theorem quantityBalance_fifoState (rows : List LedgerRow) : QuantityBalance (fifoState rows) := by
  refine run_invariant (fun _ _ h => quantityBalance_applyLedgerRow h) ?_ _
  intro market
  simp [boughtQuantity, FifoState.pairedQuantity, FifoState.openQuantity,
    FifoState.discardedQuantity]

theorem boughtQuantity_fifoState (rows : List LedgerRow) (market : String) :
    boughtQuantity ((fifoState rows).fifoTrace.map FifoTraceRow.row) market
      = boughtQuantity rows market := by
  unfold fifoState
  rw [fifoTrace_rows]
  exact sumWhere_perm (List.perm_insertionSort _ rows) _ _

theorem popped_eq_zero {st : FifoState} (hbooks : FifoBooks st)
    (hgrid : OnGrid (AddSubgroup.zmultiples (1 / 10 ^ 8 : ℚ)) st) :
    ∀ p ∈ st.popped, p.2 = { quantity := 0, cost := 0, fee := 0 } := by
  intro p hp
  obtain ⟨⟨hnonneg, hempty⟩, hle⟩ := hbooks.popped p hp
  have hlt : p.2.quantity < 1 / 10 ^ 8 := lt_of_le_of_lt hle (by unfold lotTolerance; norm_num)
  -- below the grid's width only zero is left
  have hzero := eq_zero_of_mem_zmultiples (hgrid.2 p hp) hnonneg hlt
  obtain ⟨hcost, hfee⟩ := hempty hzero
  cases hlot : p.2 with
  | mk quantity cost fee =>
    rw [hlot] at hzero hcost hfee
    simp only [Lot.mk.injEq]
    exact ⟨hzero, hcost, hfee⟩

theorem popped_of_grid {rows : List LedgerRow}
    (hgrid : ∀ row ∈ rows, row.quantity ∈ AddSubgroup.zmultiples (1 / 10 ^ 8 : ℚ)) :
    ∀ p ∈ (fifoState rows).popped, p.2 = { quantity := 0, cost := 0, fee := 0 } := by
  have hstep : ∀ st (row : LedgerRow), row.quantity ∈ AddSubgroup.zmultiples (1 / 10 ^ 8 : ℚ) →
      OnGrid (AddSubgroup.zmultiples (1 / 10 ^ 8 : ℚ)) st →
      OnGrid (AddSubgroup.zmultiples (1 / 10 ^ 8 : ℚ)) (applyLedgerRow st row) :=
    fun _ _ hrow h => onGrid_applyLedgerRow hrow h
  have hrun : OnGrid (AddSubgroup.zmultiples (1 / 10 ^ 8 : ℚ)) (fifoState rows) :=
    run_invariant_of_mem hstep ⟨by simp, by simp⟩
      (fun row hrow => hgrid row ((List.perm_insertionSort _ rows).mem_iff.mp hrow))
  exact popped_eq_zero (fifoBooks_fifoState rows) hrun

theorem FifoState.sum_openMarkets (st : FifoState) (prices : String → ℚ) (feeRate : ℚ)
    (g : OpenMarketPosition → ℚ) :
    ((st.openMarkets prices feeRate).map g).sum
      = (st.markets.map (fun market =>
          g (openMarketPosition market (st.lots market) (prices market) feeRate))).sum := by
  unfold FifoState.openMarkets
  rw [List.map_map]
  exact ((List.perm_insertionSort _ st.markets).map _).sum_eq

/-- The value of what is open, at the given prices. -/
def FifoState.openValue (st : FifoState) (prices : String → ℚ) : ℚ :=
  (st.markets.map (fun market => st.openQuantity market * prices market)).sum

/-- A buy, a partial sell and an oversell of another market. -/
def ledgerExample : List LedgerRow :=
  [{ id := 1, market := "KRW-BTC", side := .buy, quantity := 2, executedValue := 200, fee := 1 },
   { id := 2, market := "KRW-ETH", side := .sell, quantity := 1, executedValue := 50 },
   { id := 3, market := "KRW-BTC", side := .sell, quantity := 1 / 2, executedValue := 60, fee := 1 }]

end AutoCoinBot
