/-
  ExchangeFillsLedger.TradeStatistics — the win rate, the means and the worst
  trade that `_grouped_pnl` reports of a group.

  The other figures of a group are sums of the whole computation. These four are counted from
  `realized_trades`, and the report of the computation keeps the first fifty of them.
-/
import AutoCoinBot.ExchangeFillsLedger.GroupedPnl
import AutoCoinBot.Library.Averages

namespace AutoCoinBot

open Library

/-! ## Statistics -/

/-- The figures that are counted trade by trade. -/
structure TradeStatistics where
  winRate : ℚ
  avgWin : ℚ
  avgLoss : ℚ
  maxLossTrade : ℚ
  deriving DecidableEq

def netWins (nets : List ℚ) : List ℚ := nets.filter (fun net => 0 < net)
def netLosses (nets : List ℚ) : List ℚ := nets.filter (fun net => net < 0)

/-- The statistics of the net results of some trades. -/
def tradeStatistics (nets : List ℚ) : TradeStatistics where
  winRate := share (netWins nets).length (netLosses nets).length
  avgWin := mean (netWins nets)
  avgLoss := mean (netLosses nets)
  maxLossTrade := smallest (netLosses nets)

/-- What an item of `_grouped_pnl` says of its trades. -/
def GroupPnl.statistics (item : GroupPnl) : TradeStatistics where
  winRate := item.winRate
  avgWin := item.avgWin
  avgLoss := item.avgLoss
  maxLossTrade := item.maxLossTrade

/-- The net results of all sells that the matching realizes, in the order of execution. -/
def realizedNets (rows : List LedgerRow) : List ℚ :=
  (fifoState rows).realizedTrades.map RealizedTrade.netPnlAfterFee

/-- `realized_trades[:50]`. -/
def reportedTrades : ℕ := 50

theorem groupPnl_statistics (key : String) (group : List LedgerRow)
    (valuationPrices : String → ℚ) :
    (groupPnl key group valuationPrices).statistics
      = tradeStatistics ((realizedNets group).take reportedTrades) := by
  unfold realizedNets
  rw [← List.map_take]
  rfl

/-! ## Trades and sells -/

def countedSells (rows : List LedgerRow) : ℕ := rows.countP (fun row => row.countsAs .sell)

theorem length_tradesOn (row : LedgerRow) (queue : List Lot) :
    (row.tradesOn queue).length = if row.countsAs .sell then 1 else 0 := by
  unfold LedgerRow.tradesOn
  split <;> rfl

theorem length_realizedTrades_run (rows : List LedgerRow) (st : FifoState) :
    (Library.run applyLedgerRow st rows).realizedTrades.length
      = st.realizedTrades.length + countedSells rows := by
  induction rows generalizing st with
  | nil => rfl
  | cons row rows ih =>
    obtain ⟨-, -, htrades, -⟩ := applyLedgerRow_effect st row
    have hcount : countedSells (row :: rows)
        = countedSells rows + if row.countsAs .sell then 1 else 0 := List.countP_cons
    rw [run_cons, ih, htrades, List.length_append, length_tradesOn, hcount]
    omega

theorem length_realizedNets (rows : List LedgerRow) :
    (realizedNets rows).length = countedSells rows := by
  have hsorted : countedSells (rows.insertionSort LedgerRow.executedBefore) = countedSells rows :=
    (List.perm_insertionSort _ rows).countP_eq _
  unfold realizedNets fifoState
  rw [List.length_map, length_realizedTrades_run, hsorted]
  exact Nat.zero_add _

/-! ## Later trades -/

/-- Later trades that leave the statistics as they were: the wins and the losses among them have
the means of the earlier ones and come in their proportion, and no loss goes deeper. -/
structure LateTradesAlike (early late : List ℚ) : Prop where
  wins : MeanAlike (netWins early) (netWins late)
  losses : MeanAlike (netLosses early) (netLosses late)
  proportion : (netWins early).length * (netLosses late).length
    = (netWins late).length * (netLosses early).length
  deepest : StaysAbove (netLosses early) (netLosses late)

theorem lateTradesAlike_nil (early : List ℚ) : LateTradesAlike early [] where
  wins := .inl rfl
  losses := .inl rfl
  proportion := by simp [netWins, netLosses]
  deepest := by simp [StaysAbove, netLosses]

theorem netWins_append (early late : List ℚ) :
    netWins (early ++ late) = netWins early ++ netWins late := List.filter_append _ _

theorem netLosses_append (early late : List ℚ) :
    netLosses (early ++ late) = netLosses early ++ netLosses late := List.filter_append _ _

theorem pos_of_mem_netWins {nets : List ℚ} {net : ℚ} (h : net ∈ netWins nets) : 0 < net :=
  of_decide_eq_true (List.mem_filter.mp h).2

theorem neg_of_mem_netLosses {nets : List ℚ} {net : ℚ} (h : net ∈ netLosses nets) : net < 0 :=
  of_decide_eq_true (List.mem_filter.mp h).2

theorem netWins_eq_nil_of_sum {nets : List ℚ} (h : (netWins nets).sum = 0) : netWins nets = [] := by
  by_contra hne
  have hpos : 0 < (netWins nets).sum := List.sum_pos _ (fun _ => pos_of_mem_netWins) hne
  exact hpos.ne' h

theorem netLosses_eq_nil_of_sum {nets : List ℚ} (h : (netLosses nets).sum = 0) :
    netLosses nets = [] := by
  by_contra hne
  have hneg := List.sum_lt_sum_of_ne_nil hne (fun net => net) (fun _ => 0)
    (fun _ => neg_of_mem_netLosses)
  rw [List.map_id', h, List.sum_map_zero] at hneg
  exact lt_irrefl _ hneg

theorem tradeStatistics_append_iff (early late : List ℚ) :
    tradeStatistics early = tradeStatistics (early ++ late) ↔ LateTradesAlike early late := by
  have hwins : mean (netWins early ++ netWins late) = mean (netWins early)
      ↔ MeanAlike (netWins early) (netWins late) := mean_append_iff netWins_eq_nil_of_sum
  have hlosses : mean (netLosses early ++ netLosses late) = mean (netLosses early)
      ↔ MeanAlike (netLosses early) (netLosses late) := mean_append_iff netLosses_eq_nil_of_sum
  have hdeepest : smallest (netLosses early ++ netLosses late) = smallest (netLosses early)
      ↔ StaysAbove (netLosses early) (netLosses late) :=
    smallest_append_iff (fun _ => neg_of_mem_netLosses)
  have hshare : MeanAlike (netWins early) (netWins late) →
      ((share ((netWins early).length + (netWins late).length)
          ((netLosses early).length + (netLosses late).length) : ℚ)
        = share (netWins early).length (netLosses early).length
      ↔ (netWins early).length * (netLosses late).length
          = (netWins late).length * (netLosses early).length) := by
    intro halike
    -- later wins have earlier ones before them
    refine share_add_iff (halike.imp (fun hnil => ?_) (fun h => ?_))
    · rw [hnil, List.length_nil]
    · exact fun hzero => h.1 (List.length_eq_zero_iff.mp hzero)
  unfold tradeStatistics
  rw [TradeStatistics.mk.injEq, netWins_append, netLosses_append, List.length_append,
    List.length_append]
  constructor
  · rintro ⟨hrate, hwin, hloss, hworst⟩
    have halike : MeanAlike (netWins early) (netWins late) := hwins.mp hwin.symm
    exact ⟨halike, hlosses.mp hloss.symm, (hshare halike).mp hrate.symm, hdeepest.mp hworst.symm⟩
  · intro h
    exact ⟨((hshare h.wins).mpr h.proportion).symm, (hwins.mpr h.wins).symm,
      (hlosses.mpr h.losses).symm, (hdeepest.mpr h.deepest).symm⟩

/-! ## Groups -/

/-- **When the statistics of a group cover all of its trades**: it has fifty sells at most, or
those after the fiftieth leave the statistics as they were. -/
theorem groupPnl_statistics_iff (key : String) (group : List LedgerRow)
    (valuationPrices : String → ℚ) :
    (groupPnl key group valuationPrices).statistics = tradeStatistics (realizedNets group)
      ↔ countedSells group ≤ reportedTrades
        ∨ LateTradesAlike ((realizedNets group).take reportedTrades)
            ((realizedNets group).drop reportedTrades) := by
  have halike := tradeStatistics_append_iff ((realizedNets group).take reportedTrades)
    ((realizedNets group).drop reportedTrades)
  rw [List.take_append_drop] at halike
  rw [groupPnl_statistics, halike]
  refine ⟨.inr, ?_⟩
  rintro (hfew | hlate)
  · rw [List.drop_of_length_le ((length_realizedNets group).le.trans hfew)]
    exact lateTradesAlike_nil _
  · exact hlate

/-- A fill of one unit that is sold out of a larger buy. -/
def unitSell (value : ℚ) (time : UtcTime) : LedgerRow :=
  { market := "KRW-XLM", symbol := "XLM", side := .sell, quantity := 1, executedValue := value
    executedAtUtc := some time }

/-- Fifty sells at a profit, and one at a loss. -/
def fiftyWinsOneLoss : List LedgerRow :=
  [{ market := "KRW-XLM", symbol := "XLM", side := .buy, quantity := 51, executedValue := 5100
     executedAtUtc := some 0 }]
    ++ List.replicate 50 (unitSell 110 1) ++ [unitSell 10 2]

theorem fifty_wins_hide_a_loss :
    (groupPnl "XLM" fiftyWinsOneLoss (fun _ => 100)).netRealizedPnlAfterFee = 410
      ∧ (groupPnl "XLM" fiftyWinsOneLoss (fun _ => 100)).statistics
        = { winRate := 1, avgWin := 10, avgLoss := 0, maxLossTrade := 0 }
      ∧ tradeStatistics (realizedNets fiftyWinsOneLoss)
        = { winRate := 50 / 51, avgWin := 10, avgLoss := -90, maxLossTrade := -90 }
      ∧ (groupPnl "XLM" fiftyWinsOneLoss (fun _ => 100)).statistics
        ≠ tradeStatistics (realizedNets fiftyWinsOneLoss) := by
  decide +kernel

end AutoCoinBot
