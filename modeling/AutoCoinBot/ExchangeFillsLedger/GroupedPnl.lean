/-
  ExchangeFillsLedger.GroupedPnl — `_grouped_pnl`, and what its groups add up to.

  The groups are reported one by one, each by the whole computation on its own rows.
-/
import AutoCoinBot.ExchangeFillsLedger.Conservation
import AutoCoinBot.Library.Partition

namespace AutoCoinBot

open Library

/-! ## Groups -/

/-- The default `fee_rate` of an estimated exit. -/
def ledgerFeeRate : ℚ := 5 / 10000

/-- The key of a group; an empty one is `unknown`. -/
def groupKey (text : String) : String := orText text "unknown"

/-- What `_grouped_pnl` groups by. -/
def LedgerRow.symbolKey (row : LedgerRow) : String :=
  groupKey (orText row.symbol (symbolOf row.market))
def LedgerRow.strategyKey (row : LedgerRow) : String := groupKey (toText row.matchedStrategyName)
def LedgerRow.sessionKey (row : LedgerRow) : String :=
  groupKey ((row.matchedSessionId.map (fun k => toString k)).getD "")

/-- The keys of a dictionary, each where it first came. -/
def distinctKeys (keys : List String) : List String := keys.reverse.dedup.reverse

/-- An item of `_grouped_pnl`; `gross_pnl` and `net_pnl` are copies. -/
structure GroupPnl where
  key : String
  fillCount : ℕ
  tradeCount : ℕ
  buyCount : ℕ
  sellCount : ℕ
  grossRealizedPnlBeforeFee : ℚ
  netRealizedPnlAfterFee : ℚ
  feeTotal : ℚ
  openQuantity : ℚ
  unrealizedPnl : ℚ
  totalPnl : ℚ
  winRate : ℚ
  avgWin : ℚ
  avgLoss : ℚ
  maxLossTrade : ℚ

def groupPnl (key : String) (group : List LedgerRow) (valuationPrices : String → ℚ) : GroupPnl :=
  let pnl := computeRealizedPnlFromLedger group valuationPrices ledgerFeeRate
  -- the report shows the first trades only, and these are counted
  let nets := pnl.realizedTrades.map RealizedTrade.netPnlAfterFee
  let wins := nets.filter (fun net => 0 < net)
  let losses := nets.filter (fun net => net < 0)
  let closed := wins.length + losses.length
  { key := key
    fillCount := group.length
    tradeCount := group.length
    buyCount := group.countP (fun row => row.side = .buy)
    sellCount := group.countP (fun row => row.side = .sell)
    grossRealizedPnlBeforeFee := pnl.grossRealizedPnlBeforeFee
    netRealizedPnlAfterFee := pnl.netRealizedPnlAfterFee
    feeTotal := pnl.realizedFeeTotal
    openQuantity := pnl.openPositionQuantity
    unrealizedPnl := pnl.unrealizedPnlAfterEstimatedExitFee
    totalPnl := pnl.totalPnlAfterEstimatedExitFee
    winRate := if closed = 0 then 0 else (wins.length : ℚ) / closed
    avgWin := if wins.isEmpty then 0 else wins.sum / wins.length
    avgLoss := if losses.isEmpty then 0 else losses.sum / losses.length
    maxLossTrade := losses.min?.getD 0 }

def groupRows (key : LedgerRow → String) (rows : List LedgerRow) (k : String) : List LedgerRow :=
  rows.filter (fun row => key row = k)

/-- `_grouped_pnl`: the items of the groups, the worst first. -/
def groupedPnl (key : LedgerRow → String) (rows : List LedgerRow) (valuationPrices : String → ℚ) :
    List GroupPnl :=
  ((distinctKeys (rows.map key)).map
    (fun k => groupPnl k (groupRows key rows k) valuationPrices)).insertionSort
      (fun item item' => item.totalPnl ≤ item'.totalPnl)

/-! ## What a row does -/

def LedgerRow.lotsAfter (row : LedgerRow) (queue : List Lot) : List Lot :=
  if row.countsAs .buy then
    queue ++ [{ quantity := row.quantity, cost := row.executedValue, fee := row.krwFee }]
  else if row.countsAs .sell then (sellLots { remaining := row.quantity } queue).queue
  else queue

def LedgerRow.tradesOn (row : LedgerRow) (queue : List Lot) : List RealizedTrade :=
  if row.countsAs .sell then [realizedTrade row (sellLots { remaining := row.quantity } queue)]
  else []

/-- The markets that were asked for, with a row's own. -/
def marketsWith (markets : List String) (row : LedgerRow) : List String :=
  if row.market ∈ markets then markets else markets ++ [row.market]

@[simp] theorem FifoState.open_markets (st : FifoState) (row : LedgerRow) :
    (st.open row).1.markets = marketsWith st.markets row := by
  unfold FifoState.open marketsWith; dsimp only; split <;> rfl

@[simp] theorem FifoState.open_realizedTrades (st : FifoState) (row : LedgerRow) :
    (st.open row).1.realizedTrades = st.realizedTrades := by
  unfold FifoState.open; dsimp only; split <;> rfl

@[simp] theorem FifoState.open_gross (st : FifoState) (row : LedgerRow) :
    (st.open row).1.gross = st.gross := by
  unfold FifoState.open; dsimp only; split <;> rfl

/-- **What a row does** to the lots, to the markets and to the realized sells: it touches its
own market only. -/
theorem applyLedgerRow_effect (st : FifoState) (row : LedgerRow) :
    (applyLedgerRow st row).lots
        = Function.update st.lots row.market (row.lotsAfter (st.lots row.market))
      ∧ (applyLedgerRow st row).markets = marketsWith st.markets row
      ∧ (applyLedgerRow st row).realizedTrades
        = st.realizedTrades ++ row.tradesOn (st.lots row.market)
      ∧ (applyLedgerRow st row).gross
        = st.gross
          + ((row.tradesOn (st.lots row.market)).map RealizedTrade.grossPnlBeforeFee).sum := by
  have hlots := @FifoState.open_lots st row
  have hmarkets := st.open_markets row
  have htrades := st.open_realizedTrades row
  have hgross := st.open_gross row
  unfold applyLedgerRow LedgerRow.lotsAfter LedgerRow.tradesOn LedgerRow.countsAs
  generalize st.open row = opened at *
  dsimp only
  rw [← hlots, ← hmarkets, ← htrades, ← hgross]
  by_cases hquantity : row.quantity ≤ 0
  · rw [if_pos hquantity]
    have hnot : ¬ 0 < row.quantity := not_lt.mpr hquantity
    simp [hnot, FifoState.close]
  · rw [if_neg hquantity]
    have hpos : 0 < row.quantity := not_le.mp hquantity
    cases hside : row.side with
    | buy => simp [hpos, FifoState.close, FifoState.buy]
    | sell => simp [hpos, FifoState.close, FifoState.sell, realizedTrade]
    | other text => simp [FifoState.close]

theorem market_of_mem_tradesOn {row : LedgerRow} {queue : List Lot} {t : RealizedTrade}
    (ht : t ∈ row.tradesOn queue) : t.market = row.market := by
  unfold LedgerRow.tradesOn at ht
  split at ht
  · rw [List.mem_singleton.mp ht]; rfl
  · cases ht

/-! ## Some of the markets -/

/-- A state, and the state of the rows of some markets. -/
structure Restricts (p : String → Bool) (st own : FifoState) : Prop where
  lots : ∀ market, p market = true → own.lots market = st.lots market
  markets : own.markets = st.markets.filter p
  trades : own.realizedTrades = st.realizedTrades.filter (fun t => p t.market)

section Restricts

variable {p : String → Bool} {st own : FifoState} {row : LedgerRow}

theorem filter_marketsWith (markets : List String) :
    (marketsWith markets row).filter p
      = if p row.market then marketsWith (markets.filter p) row else markets.filter p := by
  unfold marketsWith
  by_cases hp : p row.market
  · by_cases hmem : row.market ∈ markets
    · rw [if_pos hmem, if_pos hp, if_pos (List.mem_filter.mpr ⟨hmem, hp⟩)]
    · rw [if_neg hmem, if_pos hp, if_neg (fun h => hmem (List.mem_of_mem_filter h)),
        List.filter_append, List.filter_cons_of_pos hp]
      rfl
  · rw [if_neg hp]
    split
    · rfl
    · rw [List.filter_append, List.filter_cons_of_neg hp]
      exact List.append_nil _

theorem Restricts.applyLedgerRow (h : Restricts p st own) (hp : p row.market = true) :
    Restricts p (applyLedgerRow st row) (applyLedgerRow own row) := by
  obtain ⟨hlots, hmarkets, htrades, -⟩ := applyLedgerRow_effect st row
  obtain ⟨hlots', hmarkets', htrades', -⟩ := applyLedgerRow_effect own row
  constructor
  · intro market hmarket
    rw [hlots, hlots', h.lots row.market hp]
    by_cases heq : market = row.market
    · rw [heq, Function.update_self, Function.update_self]
    · rw [Function.update_of_ne heq, Function.update_of_ne heq, h.lots market hmarket]
  · rw [hmarkets, hmarkets', h.markets, filter_marketsWith, if_pos hp]
  · rw [htrades, htrades', h.trades, h.lots row.market hp, List.filter_append]
    congr 1
    refine (List.filter_eq_self.mpr (fun t ht => ?_)).symm
    rw [market_of_mem_tradesOn ht]
    exact hp

theorem Restricts.skip (h : Restricts p st own) (hp : p row.market = false) :
    Restricts p (AutoCoinBot.applyLedgerRow st row) own := by
  obtain ⟨hlots, hmarkets, htrades, -⟩ := applyLedgerRow_effect st row
  have hnot : ¬ p row.market = true := by simp [hp]
  constructor
  · intro market hmarket
    have hne : market ≠ row.market := fun heq => hnot (heq ▸ hmarket)
    rw [hlots, Function.update_of_ne hne, h.lots market hmarket]
  · rw [hmarkets, filter_marketsWith, if_neg hnot, h.markets]
  · have hnone : (row.tradesOn (st.lots row.market)).filter (fun t => p t.market) = [] := by
      refine List.filter_eq_nil_iff.mpr (fun t ht => ?_)
      rw [market_of_mem_tradesOn ht]
      exact hnot
    rw [htrades, h.trades, List.filter_append, hnone, List.append_nil]

end Restricts

/-! ## Sorting -/

theorem executedEarlier_trans {x y z : Option UtcTime} (h : executedEarlier x y = true)
    (h' : executedEarlier y z = true) : executedEarlier x z = true := by
  cases x with
  | none =>
    cases z with
    | none => cases y <;> cases h'
    | some z => rfl
  | some x =>
    cases y with
    | none => cases h
    | some y =>
      cases z with
      | none => cases h'
      | some z => exact decide_eq_true (lt_trans (of_decide_eq_true h) (of_decide_eq_true h'))

theorem executedEarlier_total {x y : Option UtcTime} (hne : x ≠ y) :
    executedEarlier x y = true ∨ executedEarlier y x = true := by
  cases x with
  | none =>
    cases y with
    | none => exact absurd rfl hne
    | some y => exact .inl rfl
  | some x =>
    cases y with
    | none => exact .inr rfl
    | some y =>
      have hdiffer : x ≠ y := fun h => hne (congrArg some h)
      exact (lt_or_gt_of_ne hdiffer).imp decide_eq_true decide_eq_true

theorem executedBefore_trans (r s t : LedgerRow) (h : r.executedBefore s)
    (h' : s.executedBefore t) : r.executedBefore t := by
  rcases h with h | ⟨htime, hid⟩
  · rcases h' with h' | ⟨htime', -⟩
    · exact .inl (executedEarlier_trans h h')
    · exact .inl (htime' ▸ h)
  · rcases h' with h' | ⟨htime', hid'⟩
    · exact .inl (htime ▸ h')
    · exact .inr ⟨htime.trans htime', hid.trans hid'⟩

theorem executedBefore_total (r s : LedgerRow) : r.executedBefore s ∨ s.executedBefore r := by
  by_cases htime : r.executedAtUtc = s.executedAtUtc
  · rcases le_total r.id s.id with hid | hid
    · exact .inl (.inr ⟨htime, hid⟩)
    · exact .inr (.inr ⟨htime.symm, hid⟩)
  · rcases executedEarlier_total htime with h | h
    · exact .inl (.inl h)
    · exact .inr (.inl h)

theorem restricts_fifoState (p : String → Bool) (rows : List LedgerRow) :
    Restricts p (fifoState rows) (fifoState (rows.filter (fun row => p row.market))) := by
  unfold fifoState
  rw [← filter_insertionSort executedBefore_trans executedBefore_total]
  have hin : ∀ (st own : FifoState) (row : LedgerRow), p row.market = true → Restricts p st own →
      Restricts p (applyLedgerRow st row) (applyLedgerRow own row) :=
    fun _ _ _ hp h => h.applyLedgerRow hp
  have hout : ∀ (st own : FifoState) (row : LedgerRow), p row.market = false →
      Restricts p st own → Restricts p (applyLedgerRow st row) own :=
    fun _ _ _ hp h => h.skip hp
  exact run_filter_coupled hin hout ⟨fun _ _ => rfl, rfl, rfl⟩ _

/-! ## Figures -/

/-- The markets and the sells of a list are of its rows' markets. -/
structure OfMarkets (known : List String) (st : FifoState) : Prop where
  markets : ∀ market ∈ st.markets, market ∈ known
  trades : ∀ t ∈ st.realizedTrades, t.market ∈ known
  gross : st.gross = st.realized RealizedTrade.grossPnlBeforeFee

theorem ofMarkets_fifoState (rows : List LedgerRow) :
    OfMarkets (rows.map LedgerRow.market) (fifoState rows) := by
  have hstep : ∀ st (row : LedgerRow), row.market ∈ rows.map LedgerRow.market →
      OfMarkets (rows.map LedgerRow.market) st →
      OfMarkets (rows.map LedgerRow.market) (applyLedgerRow st row) := by
    intro st row hrow h
    obtain ⟨-, hmarkets, htrades, hgross⟩ := applyLedgerRow_effect st row
    constructor
    · intro market hmarket
      rw [hmarkets] at hmarket
      unfold marketsWith at hmarket
      split at hmarket
      · exact h.markets market hmarket
      · rcases List.mem_append.mp hmarket with hold | hnew
        · exact h.markets market hold
        · rw [List.mem_singleton.mp hnew]
          exact hrow
    · intro t ht
      rw [htrades] at ht
      rcases List.mem_append.mp ht with hold | hnew
      · exact h.trades t hold
      · rw [market_of_mem_tradesOn hnew]
        exact hrow
    · rw [hgross, h.gross]
      unfold FifoState.realized
      rw [htrades, List.map_append, List.sum_append]
  refine run_invariant_of_mem hstep ⟨by simp, by simp, rfl⟩ (fun row hrow => ?_)
  exact List.mem_map_of_mem ((List.perm_insertionSort _ rows).mem_iff.mp hrow)

/-- A figure of a state: what its sells bring, and what its markets still hold. -/
def FifoState.figure (st : FifoState) (g : RealizedTrade → ℚ) (f : String → List Lot → ℚ) : ℚ :=
  st.realized g + (st.markets.map (fun market => f market (st.lots market))).sum

def marketGroup (key : LedgerRow → String) (rows : List LedgerRow) (market : String) : String :=
  ((rows.find? (fun row => row.market = market)).map key).getD ""

section Groups

variable {key : LedgerRow → String} {rows : List LedgerRow}

def OneGroupPerMarket (key : LedgerRow → String) (rows : List LedgerRow) : Prop :=
  ∀ row ∈ rows, ∀ row' ∈ rows, row.market = row'.market → key row = key row'

theorem marketGroup_eq (hone : OneGroupPerMarket key rows) {row : LedgerRow} (hrow : row ∈ rows) :
    marketGroup key rows row.market = key row := by
  unfold marketGroup
  cases hfound : rows.find? (fun r => r.market = row.market) with
  | none =>
    have hnot := List.find?_eq_none.mp hfound row hrow
    simp at hnot
  | some first =>
    have hmarket : first.market = row.market := by
      simpa using List.find?_some hfound
    exact hone first (List.mem_of_find?_eq_some hfound) row hrow hmarket

theorem groupRows_eq_filter (hone : OneGroupPerMarket key rows) (k : String) :
    groupRows key rows k = rows.filter (fun row => marketGroup key rows row.market = k) := by
  unfold groupRows
  refine List.filter_congr (fun row hrow => ?_)
  rw [marketGroup_eq hone hrow]

theorem marketGroup_mem (hone : OneGroupPerMarket key rows) {market : String}
    (hmarket : market ∈ rows.map LedgerRow.market) :
    marketGroup key rows market ∈ distinctKeys (rows.map key) := by
  obtain ⟨row, hrow, rfl⟩ := List.mem_map.mp hmarket
  rw [marketGroup_eq hone hrow]
  unfold distinctKeys
  rw [List.mem_reverse, List.mem_dedup, List.mem_reverse]
  exact List.mem_map_of_mem hrow

theorem distinctKeys_nodup (keys : List String) : (distinctKeys keys).Nodup :=
  List.nodup_reverse.mpr (List.nodup_dedup _)

theorem figure_groups (hone : OneGroupPerMarket key rows) (g : RealizedTrade → ℚ)
    (f : String → List Lot → ℚ) :
    ((distinctKeys (rows.map key)).map (fun k => (fifoState (groupRows key rows k)).figure g f)).sum
      = (fifoState rows).figure g f := by
  have hof := ofMarkets_fifoState rows
  have hgroup : ∀ k, (fifoState (groupRows key rows k)).figure g f
      = (((fifoState rows).realizedTrades.filter
            (fun t => marketGroup key rows t.market = k)).map g).sum
        + (((fifoState rows).markets.filter (fun market => marketGroup key rows market = k)).map
            (fun market => f market ((fifoState rows).lots market))).sum := by
    intro k
    have hrestricts := restricts_fifoState (fun market => marketGroup key rows market = k) rows
    rw [groupRows_eq_filter hone k]
    unfold FifoState.figure FifoState.realized
    rw [hrestricts.trades, hrestricts.markets]
    congr 1
    refine congrArg List.sum (List.map_congr_left (fun market hmarket => ?_))
    rw [hrestricts.lots market (List.mem_filter.mp hmarket).2]
  rw [List.map_congr_left (fun k _ => hgroup k), List.sum_map_add,
    sum_map_groups (distinctKeys_nodup _) (fun t : RealizedTrade => marketGroup key rows t.market)
      (fun t ht => marketGroup_mem hone (hof.trades t ht)),
    sum_map_groups (distinctKeys_nodup _) (marketGroup key rows)
      (fun market hmarket => marketGroup_mem hone (hof.markets market hmarket))]
  rfl

end Groups

/-! ## The report -/

section Report

variable (rows : List LedgerRow) (prices : String → ℚ)

/-- What a market's lots bring into the unrealized figure. -/
def marketUnrealized (prices : String → ℚ) (market : String) (queue : List Lot) : ℚ :=
  (openMarketPosition market queue (prices market) ledgerFeeRate).unrealizedPnlAfterEstimatedExitFee

theorem report_gross_eq : (computeRealizedPnlFromLedger rows prices ledgerFeeRate).grossRealizedPnlBeforeFee
    = (fifoState rows).figure RealizedTrade.grossPnlBeforeFee (fun _ _ => 0) := by
  unfold FifoState.figure
  rw [List.sum_map_zero, add_zero]
  exact (ofMarkets_fifoState rows).gross

theorem report_fee_eq : (computeRealizedPnlFromLedger rows prices ledgerFeeRate).realizedFeeTotal
    = (fifoState rows).figure (fun t => t.allocatedBuyFee + t.sellFee) (fun _ _ => 0) := by
  unfold FifoState.figure
  rw [List.sum_map_zero, add_zero]
  rfl

theorem report_unrealized_eq :
    (computeRealizedPnlFromLedger rows prices ledgerFeeRate).unrealizedPnlAfterEstimatedExitFee
      = (fifoState rows).figure (fun _ => 0) (marketUnrealized prices) := by
  have hsplit : ∀ market, marketUnrealized prices market ((fifoState rows).lots market)
        + (openMarketPosition market ((fifoState rows).lots market) (prices market)
            ledgerFeeRate).estimatedExitFee
      = (openMarketPosition market ((fifoState rows).lots market) (prices market)
          ledgerFeeRate).unrealizedPnlBeforeEstimatedExitFee := fun _ => sub_add_cancel _ _
  show ((fifoState rows).openMarkets prices ledgerFeeRate |>.map
      OpenMarketPosition.unrealizedPnlBeforeEstimatedExitFee).sum
    - ((fifoState rows).openMarkets prices ledgerFeeRate |>.map
      OpenMarketPosition.estimatedExitFee).sum = _
  rw [FifoState.sum_openMarkets, FifoState.sum_openMarkets]
  unfold FifoState.figure FifoState.realized
  rw [List.sum_map_zero, zero_add, sub_eq_iff_eq_add, ← List.sum_map_add]
  exact congrArg List.sum (List.map_congr_left (fun market _ => (hsplit market).symm))

end Report

/-- What the sums over the groups are compared with. -/
structure AddsUp (groups : List GroupPnl) (report : RealizedPnlReport) : Prop where
  gross : (groups.map GroupPnl.grossRealizedPnlBeforeFee).sum = report.grossRealizedPnlBeforeFee
  net : (groups.map GroupPnl.netRealizedPnlAfterFee).sum = report.netRealizedPnlAfterFee
  unrealized : (groups.map GroupPnl.unrealizedPnl).sum = report.unrealizedPnlAfterEstimatedExitFee
  fees : (groups.map GroupPnl.feeTotal).sum = report.realizedFeeTotal
  total : (groups.map GroupPnl.totalPnl).sum = report.totalPnlAfterEstimatedExitFee

theorem groupedPnl_addsUp {key : LedgerRow → String} {rows : List LedgerRow}
    (hone : OneGroupPerMarket key rows) (prices : String → ℚ) :
    AddsUp (groupedPnl key rows prices) (computeRealizedPnlFromLedger rows prices ledgerFeeRate) := by
  have hsum : ∀ g : GroupPnl → ℚ, ((groupedPnl key rows prices).map g).sum
      = ((distinctKeys (rows.map key)).map
          (fun k => g (groupPnl k (groupRows key rows k) prices))).sum := by
    intro g
    unfold groupedPnl
    rw [((List.perm_insertionSort _ _).map g).sum_eq, List.map_map]
    rfl
  have hgross : ((groupedPnl key rows prices).map GroupPnl.grossRealizedPnlBeforeFee).sum
      = (computeRealizedPnlFromLedger rows prices ledgerFeeRate).grossRealizedPnlBeforeFee := by
    rw [hsum, report_gross_eq, ← figure_groups hone]
    exact congrArg List.sum (List.map_congr_left (fun k _ => report_gross_eq _ prices))
  have hfees : ((groupedPnl key rows prices).map GroupPnl.feeTotal).sum
      = (computeRealizedPnlFromLedger rows prices ledgerFeeRate).realizedFeeTotal := by
    rw [hsum, report_fee_eq, ← figure_groups hone]
    exact congrArg List.sum (List.map_congr_left (fun k _ => report_fee_eq _ prices))
  have hunrealized : ((groupedPnl key rows prices).map GroupPnl.unrealizedPnl).sum
      = (computeRealizedPnlFromLedger rows prices ledgerFeeRate).unrealizedPnlAfterEstimatedExitFee := by
    rw [hsum, report_unrealized_eq, ← figure_groups hone]
    exact congrArg List.sum (List.map_congr_left (fun k _ => report_unrealized_eq _ prices))
  -- net and total are differences and sums of the three, group by group
  have hnet : ((groupedPnl key rows prices).map GroupPnl.netRealizedPnlAfterFee).sum
      = (computeRealizedPnlFromLedger rows prices ledgerFeeRate).netRealizedPnlAfterFee := by
    have hparts : ((groupedPnl key rows prices).map GroupPnl.netRealizedPnlAfterFee).sum
          + ((groupedPnl key rows prices).map GroupPnl.feeTotal).sum
        = ((groupedPnl key rows prices).map GroupPnl.grossRealizedPnlBeforeFee).sum := by
      rw [hsum, hsum, hsum, ← List.sum_map_add]
      exact congrArg List.sum (List.map_congr_left (fun k _ => sub_add_cancel _ _))
    rw [hgross, hfees] at hparts
    exact eq_sub_of_add_eq hparts
  have htotal : ((groupedPnl key rows prices).map GroupPnl.totalPnl).sum
      = ((groupedPnl key rows prices).map GroupPnl.netRealizedPnlAfterFee).sum
        + ((groupedPnl key rows prices).map GroupPnl.unrealizedPnl).sum := by
    rw [hsum, hsum, hsum, ← List.sum_map_add]
    exact congrArg List.sum (List.map_congr_left (fun k _ => add_sub_assoc _ _ _))
  refine ⟨hgross, hnet, hunrealized, hfees, ?_⟩
  rw [htotal, hnet, hunrealized]
  exact (add_sub_assoc _ _ _).symm

/-- **Symbol-level P&L is additive**: if rows of one market carry one symbol, the groups by
symbol add up to the figures of the whole list. -/
theorem symbol_pnl_additive {rows : List LedgerRow}
    (hsymbol : ∀ row ∈ rows, ∀ row' ∈ rows, row.market = row'.market → row.symbol = row'.symbol)
    (prices : String → ℚ) :
    AddsUp (groupedPnl LedgerRow.symbolKey rows prices)
      (computeRealizedPnlFromLedger rows prices ledgerFeeRate) := by
  refine groupedPnl_addsUp (fun row hrow row' hrow' hmarket => ?_) prices
  unfold LedgerRow.symbolKey
  rw [hsymbol row hrow row' hrow' hmarket, hmarket]

theorem symbol_pnl_additive_example :
    AddsUp (groupedPnl LedgerRow.symbolKey ledgerExample (fun _ => 110))
      (computeRealizedPnlFromLedger ledgerExample (fun _ => 110) ledgerFeeRate) :=
  symbol_pnl_additive (by decide) (fun _ => 110)

end AutoCoinBot
