/-
  TradingDiagnostics.PnlAllocation — `_pnl_allocation_check`.

  The check compares the sums of the groups' figures with the ledger's. Every group and the ledger
  keep a FIFO of their own, so a group's sell may draw on another lot in either; the sums then
  differ by the cost and by the buy fees of the lots that stay open.
-/
import AutoCoinBot.ExchangeFillsLedger.GroupAccounts

namespace AutoCoinBot

open Library

/-! ## The check -/

/-- `allocation_diff_causes`. -/
inductive AllocationCause where
  | missingStrategyMetadata
  | openPositionStrategyAttributionMissing
  | unknownAllocationDiff

/-- What `_pnl_allocation_check` returns; of `allocation_confidence`, whether it is `HIGH`. -/
structure AllocationCheck where
  accountTotalPnl : ℚ
  strategyTotalPnlSum : ℚ
  symbolTotalPnlSum : ℚ
  sessionTotalPnlSum : ℚ
  strategyAllocationDiff : ℚ
  symbolAllocationDiff : ℚ
  sessionAllocationDiff : ℚ
  confidenceHigh : Bool
  allocationDiffCauses : List AllocationCause
  accountUnrealizedPnl : ℚ
  strategyUnrealizedPnlDiff : ℚ
  symbolUnrealizedPnlDiff : ℚ
  sessionUnrealizedPnlDiff : ℚ
  unrealizedPnlAllocationDiff : ℚ
  unrealizedPnlDuplicateSuspected : Bool

/-- `any(abs(value) > 100.0 for value in …)`. -/
def anyAbove (values : List ℚ) : Bool := values.any (fun value => 100 < |value|)

def pnlAllocationCheck (ledger : RealizedPnlReport)
    (strategyRows symbolRows sessionRows : List GroupPnl) : AllocationCheck :=
  let accountTotal := ledger.totalPnlAfterEstimatedExitFee
  let accountUnrealized := ledger.unrealizedPnlAfterEstimatedExitFee
  let strategyTotal := (strategyRows.map GroupPnl.totalPnl).sum
  let symbolTotal := (symbolRows.map GroupPnl.totalPnl).sum
  let sessionTotal := (sessionRows.map GroupPnl.totalPnl).sum
  let totals :=
    [strategyTotal - accountTotal, symbolTotal - accountTotal, sessionTotal - accountTotal]
  let strategyDiff := (strategyRows.map GroupPnl.unrealizedPnl).sum - accountUnrealized
  let symbolDiff := (symbolRows.map GroupPnl.unrealizedPnl).sum - accountUnrealized
  let sessionDiff := (sessionRows.map GroupPnl.unrealizedPnl).sum - accountUnrealized
  let unrealized := [strategyDiff, symbolDiff, sessionDiff]
  let nameless := (strategyRows ++ symbolRows ++ sessionRows).any
    (fun row => row.key.toList.all isSpace)
  let causes :=
    if anyAbove totals then
      (if nameless then [AllocationCause.missingStrategyMetadata] else [])
        ++ (if anyAbove unrealized then [.openPositionStrategyAttributionMissing] else [])
        ++ [.unknownAllocationDiff]
    else []
  { accountTotalPnl := accountTotal
    strategyTotalPnlSum := strategyTotal
    symbolTotalPnlSum := symbolTotal
    sessionTotalPnlSum := sessionTotal
    strategyAllocationDiff := strategyTotal - accountTotal
    symbolAllocationDiff := symbolTotal - accountTotal
    sessionAllocationDiff := sessionTotal - accountTotal
    confidenceHigh := causes.isEmpty
    allocationDiffCauses := causes
    accountUnrealizedPnl := accountUnrealized
    strategyUnrealizedPnlDiff := strategyDiff
    symbolUnrealizedPnlDiff := symbolDiff
    sessionUnrealizedPnlDiff := sessionDiff
    unrealizedPnlAllocationDiff := max (max |strategyDiff| |symbolDiff|) |sessionDiff|
    unrealizedPnlDuplicateSuspected := anyAbove unrealized }

/-- The check of a ledger, with the groups that `build_exchange_fill_accounting_report` makes. -/
def allocationCheckOf (rows : List LedgerRow) (prices : String → ℚ) : AllocationCheck :=
  pnlAllocationCheck (computeRealizedPnlFromLedger rows prices ledgerFeeRate)
    (groupedPnl LedgerRow.strategyKey rows prices) (groupedPnl LedgerRow.symbolKey rows prices)
    (groupedPnl LedgerRow.sessionKey rows prices)

/-! ## The report's figures -/

/-- The price of a unit after the exit fee estimated for it. -/
def netPrice (prices : String → ℚ) (market : String) : ℚ :=
  prices market - max (prices market * ledgerFeeRate) 0

/-- The weights of `total_pnl`, which counts the buy fees of open lots. -/
def totalWeights (prices : String → ℚ) : Weights :=
  { value := 1, sellFee := 1, cost := 1, buyFee := 1, price := netPrice prices }

/-- The weights of the gross and of what is open, at its net price. -/
def grossWeights (prices : String → ℚ) : Weights :=
  { value := 1, cost := 1, price := netPrice prices }

/-- The weights of what is open, at its net price. -/
def openWeights (prices : String → ℚ) : Weights := { price := netPrice prices }

section Figures

variable (rows : List LedgerRow) (prices : String → ℚ)

theorem marketUnrealized_eq (market : String) :
    marketUnrealized prices market ((fifoState rows).lots market)
      = netPrice prices market * (((fifoState rows).lots market).map Lot.quantity).sum
        - (((fifoState rows).lots market).map Lot.cost).sum := by
  have hnonneg : 0 ≤ (((fifoState rows).lots market).map Lot.quantity).sum := by
    refine List.sum_nonneg (fun x hx => ?_)
    obtain ⟨lot, hlot, rfl⟩ := List.mem_map.mp hx
    exact ((fifoBooks_fifoState rows).sound market lot hlot).1
  have hexit : max ((((fifoState rows).lots market).map Lot.quantity).sum * prices market
        * ledgerFeeRate) 0
      = (((fifoState rows).lots market).map Lot.quantity).sum
        * max (prices market * ledgerFeeRate) 0 := by
    rw [mul_max_of_nonneg _ _ hnonneg, mul_zero, mul_assoc]
  show _ * prices market - _ - max _ 0 = _
  rw [hexit]
  unfold netPrice
  ring

theorem sum_sub_map {α : Type*} (l : List α) (f g : α → ℚ) :
    (l.map (fun x => f x - g x)).sum = (l.map f).sum - (l.map g).sum := by
  induction l with
  | nil => simp
  | cons x l ih =>
    simp only [List.map_cons, List.sum_cons, ih]
    ring

theorem report_unrealized_carried :
    (computeRealizedPnlFromLedger rows prices ledgerFeeRate).unrealizedPnlAfterEstimatedExitFee
      = (fifoState rows).carried (openWeights prices) - (fifoState rows).openTotal Lot.cost := by
  rw [report_unrealized_eq]
  unfold FifoState.figure FifoState.carried FifoState.openTotal FifoState.figure FifoState.realized
  rw [List.map_congr_left (fun market _ => marketUnrealized_eq rows prices market), sum_sub_map]
  have htrade : (openWeights prices).trade = fun _ => 0 := by
    funext t
    simp [openWeights, Weights.trade]
  have hlot : ∀ market (queue : List Lot), (queue.map ((openWeights prices).lot market)).sum
      = netPrice prices market * (queue.map Lot.quantity).sum := by
    intro market queue
    rw [sum_lot]
    simp [openWeights]
  simp only [htrade, hlot]
  ring

theorem gross_of_mem_realizedTrades :
    ∀ t ∈ (fifoState rows).realizedTrades,
      t.grossPnlBeforeFee = t.executedValue - t.basisBeforeFee := by
  have hstep : ∀ (st : FifoState) (row : LedgerRow),
      (∀ t ∈ st.realizedTrades, t.grossPnlBeforeFee = t.executedValue - t.basisBeforeFee) →
      ∀ t ∈ (applyLedgerRow st row).realizedTrades,
        t.grossPnlBeforeFee = t.executedValue - t.basisBeforeFee := by
    intro st row h t ht
    rw [(applyLedgerRow_effect st row).2.2.1] at ht
    rcases List.mem_append.mp ht with ht | ht
    · exact h t ht
    · unfold LedgerRow.tradesOn at ht
      split at ht
      · rw [List.mem_singleton.mp ht]
        rfl
      · cases ht
  exact run_invariant hstep (by simp) _

theorem report_gross_add_unrealized :
    (computeRealizedPnlFromLedger rows prices ledgerFeeRate).grossRealizedPnlBeforeFee
        + (computeRealizedPnlFromLedger rows prices
            ledgerFeeRate).unrealizedPnlAfterEstimatedExitFee
      = (fifoState rows).carried (grossWeights prices) := by
  have htrades : (fifoState rows).realized (grossWeights prices).trade
      = (fifoState rows).realized RealizedTrade.grossPnlBeforeFee := by
    refine congrArg List.sum (List.map_congr_left (fun t ht => ?_))
    rw [gross_of_mem_realizedTrades rows t ht]
    simp [grossWeights, Weights.trade]
  have hlot : ∀ market (queue : List Lot), (queue.map ((grossWeights prices).lot market)).sum
      = netPrice prices market * (queue.map Lot.quantity).sum - (queue.map Lot.cost).sum := by
    intro market queue
    rw [sum_lot]
    simp [grossWeights]
  rw [report_gross_eq, report_unrealized_eq]
  unfold FifoState.carried FifoState.figure
  rw [htrades, List.map_congr_left (fun market _ => marketUnrealized_eq rows prices market)]
  simp only [hlot, List.sum_map_zero]
  unfold FifoState.realized
  simp

theorem report_total_eq :
    (computeRealizedPnlFromLedger rows prices ledgerFeeRate).totalPnlAfterEstimatedExitFee
      = (fifoState rows).carried (totalWeights prices) + (fifoState rows).openTotal Lot.fee := by
  have hgross := report_gross_eq rows prices
  have hfee := report_fee_eq rows prices
  have hunrealized := report_unrealized_eq rows prices
  have hparts :
      (computeRealizedPnlFromLedger rows prices ledgerFeeRate).totalPnlAfterEstimatedExitFee
      = (computeRealizedPnlFromLedger rows prices ledgerFeeRate).grossRealizedPnlBeforeFee
        - (computeRealizedPnlFromLedger rows prices ledgerFeeRate).realizedFeeTotal
        + (computeRealizedPnlFromLedger rows prices
            ledgerFeeRate).unrealizedPnlAfterEstimatedExitFee := add_sub_assoc _ _ _
  have htrades : (fifoState rows).realized (totalWeights prices).trade
      = (fifoState rows).realized RealizedTrade.grossPnlBeforeFee
        - (fifoState rows).realized (fun t => t.allocatedBuyFee + t.sellFee) := by
    unfold FifoState.realized
    rw [← sum_sub_map]
    refine congrArg List.sum (List.map_congr_left (fun t ht => ?_))
    rw [gross_of_mem_realizedTrades rows t ht]
    simp only [totalWeights, Weights.trade]
    ring
  have hlot : ∀ market (queue : List Lot), (queue.map ((totalWeights prices).lot market)).sum
      = netPrice prices market * (queue.map Lot.quantity).sum - (queue.map Lot.cost).sum
        - (queue.map Lot.fee).sum := by
    intro market queue
    rw [sum_lot]
    simp [totalWeights]
  rw [hparts, hgross, hfee, hunrealized]
  unfold FifoState.carried FifoState.figure FifoState.openTotal
  rw [htrades, List.map_congr_left (fun market _ => marketUnrealized_eq rows prices market)]
  simp only [hlot, List.sum_map_zero]
  rw [sum_sub_map, sum_sub_map, sum_sub_map]
  unfold FifoState.realized
  simp
  ring

end Figures

/-! ## Groups and ledger -/

section Groups

variable (key : LedgerRow → String) (rows : List LedgerRow) (prices : String → ℚ)

/-- The buy fees of the groups' open lots, beyond those of the ledger's. -/
def openFeeShift : ℚ :=
  groupSum key rows (fun st => st.openTotal Lot.fee) - (fifoState rows).openTotal Lot.fee

/-- The cost of the ledger's open lots, beyond that of the groups'. -/
def openCostShift : ℚ :=
  (fifoState rows).openTotal Lot.cost - groupSum key rows (fun st => st.openTotal Lot.cost)

/-- What the groups leave out, beyond what the ledger does. -/
def leftOutShift (W : Weights) : ℚ :=
  groupSum key rows (fun st => st.leftOut W) - (fifoState rows).leftOut W

/-- The groups' figures are the ledger's, up to the lots that stay open and to what is left out. -/
structure AllocatesUpToOpenLots : Prop where
  beforeFees :
    ((groupedPnl key rows prices).map GroupPnl.grossRealizedPnlBeforeFee).sum
        + ((groupedPnl key rows prices).map GroupPnl.unrealizedPnl).sum
      = (computeRealizedPnlFromLedger rows prices ledgerFeeRate).grossRealizedPnlBeforeFee
        + (computeRealizedPnlFromLedger rows prices
            ledgerFeeRate).unrealizedPnlAfterEstimatedExitFee
        + leftOutShift key rows (grossWeights prices)
  total :
    ((groupedPnl key rows prices).map GroupPnl.totalPnl).sum
      = (computeRealizedPnlFromLedger rows prices ledgerFeeRate).totalPnlAfterEstimatedExitFee
        + openFeeShift key rows + leftOutShift key rows (totalWeights prices)
  unrealized :
    ((groupedPnl key rows prices).map GroupPnl.unrealizedPnl).sum
      = (computeRealizedPnlFromLedger rows prices ledgerFeeRate).unrealizedPnlAfterEstimatedExitFee
        + openCostShift key rows + leftOutShift key rows (openWeights prices)

variable {key rows prices}

theorem sum_groupedPnl {g : GroupPnl → ℚ} (figure : FifoState → ℚ)
    (h : ∀ k group, g (groupPnl k group prices) = figure (fifoState group)) :
    ((groupedPnl key rows prices).map g).sum = groupSum key rows figure := by
  unfold groupedPnl groupSum
  rw [((List.perm_insertionSort _ _).map g).sum_eq, List.map_map]
  exact congrArg List.sum (List.map_congr_left (fun k _ => h k _))

theorem allocatesUpToOpenLots : AllocatesUpToOpenLots key rows prices := by
  constructor
  · have hcarried := carried_groups (grossWeights prices) rows key
    rw [report_gross_add_unrealized]
    unfold leftOutShift
    rw [← hcarried, ← List.sum_map_add, sum_groupedPnl
      (fun st => st.carried (grossWeights prices))
      (fun k group => report_gross_add_unrealized group prices)]
    ring
  · have hcarried := carried_groups (totalWeights prices) rows key
    have hsplit := groupSum_add rows key
      (fun st => st.carried (totalWeights prices)) (fun st => st.openTotal Lot.fee)
    rw [report_total_eq, sum_groupedPnl
      (fun st => st.carried (totalWeights prices) + st.openTotal Lot.fee)
      (fun k group => report_total_eq group prices), hsplit]
    unfold leftOutShift openFeeShift
    linarith
  · have hcarried := carried_groups (openWeights prices) rows key
    have hsplit := groupSum_sub rows key
      (fun st => st.carried (openWeights prices)) (fun st => st.openTotal Lot.cost)
    rw [report_unrealized_carried, sum_groupedPnl
      (fun st => st.carried (openWeights prices) - st.openTotal Lot.cost)
      (fun k group => report_unrealized_carried group prices), hsplit]
    unfold leftOutShift openCostShift
    linarith

theorem leftOutShift_eq_zero (hcovered : SellsCovered key rows)
    (hgrid : ∀ row ∈ rows, row.quantity ∈ AddSubgroup.zmultiples (1 / 10 ^ 8 : ℚ)) (W : Weights) :
    leftOutShift key rows W = 0 := by
  have hgroups : groupSum key rows (fun st => st.leftOut W) = 0 := by
    refine List.sum_eq_zero (fun x hx => ?_)
    obtain ⟨k, -, rfl⟩ := List.mem_map.mp hx
    exact (hcovered.group hgrid k).leftOut_eq_zero W
  rw [leftOutShift, hgroups, (hcovered.ledger hgrid).leftOut_eq_zero W, sub_zero]

end Groups

/-- **The allocation differs by the lots that stay open.** The groups' totals differ from the
ledger's by the open lots' buy fees, their unrealized figures by the open lots' cost, and a
duplicate is suspected unless the latter stays within 100; on the exchange's grid of quantities
covered groups differ by nothing else, and gross and unrealized figures together not at all. -/
theorem pnl_allocation_differs_by_open_lots (rows : List LedgerRow) (prices : String → ℚ)
    (hstrategy : SellsCovered LedgerRow.strategyKey rows)
    (hsession : SellsCovered LedgerRow.sessionKey rows) :
    (∀ key ∈ [LedgerRow.strategyKey, LedgerRow.symbolKey, LedgerRow.sessionKey],
        AllocatesUpToOpenLots key rows prices)
      ∧ ((allocationCheckOf rows prices).unrealizedPnlDuplicateSuspected = false
        ↔ ∀ key ∈ [LedgerRow.strategyKey, LedgerRow.symbolKey, LedgerRow.sessionKey],
            |openCostShift key rows + leftOutShift key rows (openWeights prices)| ≤ 100)
      ∧ ((∀ row ∈ rows, row.quantity ∈ AddSubgroup.zmultiples (1 / 10 ^ 8 : ℚ)) →
          ∀ key ∈ [LedgerRow.strategyKey, LedgerRow.sessionKey], ∀ W,
            leftOutShift key rows W = 0) := by
  have hdiff : ∀ key, ((groupedPnl key rows prices).map GroupPnl.unrealizedPnl).sum
        - (computeRealizedPnlFromLedger rows prices
            ledgerFeeRate).unrealizedPnlAfterEstimatedExitFee
      = openCostShift key rows + leftOutShift key rows (openWeights prices) := by
    intro key
    rw [(@allocatesUpToOpenLots key rows prices).unrealized]
    ring
  refine ⟨fun key _ => allocatesUpToOpenLots, ?_, ?_⟩
  · show anyAbove _ = false ↔ _
    unfold anyAbove
    rw [hdiff, hdiff, hdiff]
    simp
  · intro hgrid key hkey W
    rcases List.mem_cons.mp hkey with rfl | hkey
    · exact leftOutShift_eq_zero hstrategy hgrid W
    · rw [List.mem_singleton.mp hkey]
      exact leftOutShift_eq_zero hsession hgrid W

/-- Two strategies buy in one market, and the later one sells what it bought. -/
def interleavedLedger : List LedgerRow :=
  [{ id := 1, market := "KRW-BTC", side := .buy, quantity := 1, executedValue := 1000, fee := 1
     matchedStrategyName := some "range_reversion", matchedSessionId := some 1 },
   { id := 2, market := "KRW-BTC", side := .buy, quantity := 1, executedValue := 2000, fee := 2
     matchedStrategyName := some "trend_pullback", matchedSessionId := some 2 },
   { id := 3, market := "KRW-BTC", side := .sell, quantity := 1, executedValue := 2000, fee := 2
     matchedStrategyName := some "trend_pullback", matchedSessionId := some 2 }]

theorem interleaved_duplicate_suspected :
    SellsCovered LedgerRow.strategyKey interleavedLedger
      ∧ SellsCovered LedgerRow.sessionKey interleavedLedger
      ∧ (allocationCheckOf interleavedLedger (fun _ => 2000)).unrealizedPnlDuplicateSuspected = true
      ∧ (allocationCheckOf interleavedLedger (fun _ => 2000)).strategyAllocationDiff = -1
      ∧ (allocationCheckOf interleavedLedger (fun _ => 2000)).strategyUnrealizedPnlDiff = 1000 := by
  refine ⟨?_, ?_, ?_, ?_, ?_⟩ <;> decide +kernel

theorem interleaved_differs_by_open_lots :
    AllocatesUpToOpenLots LedgerRow.strategyKey interleavedLedger (fun _ => 2000)
      ∧ leftOutShift LedgerRow.strategyKey interleavedLedger (openWeights (fun _ => 2000)) = 0 := by
  have hgrid : ∀ row ∈ interleavedLedger,
      row.quantity ∈ AddSubgroup.zmultiples (1 / 10 ^ 8 : ℚ) := by
    intro row hrow
    simp only [interleavedLedger, List.mem_cons, List.not_mem_nil, or_false] at hrow
    rcases hrow with rfl | rfl | rfl <;>
      exact AddSubgroup.mem_zmultiples_iff.mpr ⟨100000000, by norm_num⟩
  obtain ⟨hgroups, -, hnothing⟩ := pnl_allocation_differs_by_open_lots interleavedLedger
    (fun _ => 2000) (by decide +kernel) (by decide +kernel)
  exact ⟨hgroups _ (by simp), hnothing hgrid _ (by simp) _⟩

end AutoCoinBot
