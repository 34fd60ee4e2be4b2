/-
  ExchangeFillsLedger.RealizedPnl — the rows of `exchange_fills_ledger`, and
  `compute_realized_pnl_from_ledger`.

  The source hashes a text of the key's parts, joined by `|`. Here the key is the
  tuple of its parts: two keys are equal when all parts are. `fill_sequence` and
  `multi_fill_same_order_uuid` stand in a record only, the table has no column for
  them.

  `lots` of the source is a `defaultdict` of queues: a function here, with the list of the markets
  it was asked for.
-/
import AutoCoinBot.Database.Values
import AutoCoinBot.Library.Fifo
import AutoCoinBot.Library.Run
import AutoCoinBot.Library.Table

namespace AutoCoinBot

open Library

/-! ## Keys -/

/-- `side`, upper-cased; a text that is neither `BUY` nor `SELL` stands for itself. -/
inductive FillSide where
  | buy
  | sell
  | other (text : String)
  deriving DecidableEq

/-- `_num`: twelve decimals, ties to the even one. The number of units of `1e-12`. -/
def num (x : ℚ) : ℤ :=
  let units : ℚ := x * 10 ^ 12
  let low : ℤ := Rat.floor units
  let rest : ℚ := units - (low : ℚ)
  if rest < 1 / 2 then low
  else if 1 / 2 < rest then low + 1
  else if low % 2 = 0 then low else low + 1

/-- The two shapes of `canonical_fill_key`. -/
inductive FillKey where
  | ofFillId (exchange orderUuid fillId : String)
  | ofFigures (exchange orderUuid symbol : String) (side : FillSide) (price quantity fee : ℤ)
      (executedAtUtc : Option UtcTime) (fillSequence : Option ℕ)
  deriving DecidableEq

inductive MatchStatus where
  | unmatched
  | duplicateFillKey
  | matchedDbOrder
  | missingCanonicalLog
  | syntheticUuidOnly
  deriving DecidableEq

inductive FeeSource where
  | fillRowFee
  | orderSummaryFee
  | noFeeReported
  | unknown
  deriving DecidableEq

/-! ## Rows -/

/-- A row of `exchange_fills_ledger`, or a record on its way there. An empty
`executed_at_utc` is `none`. -/
structure LedgerRow where
  id : ℕ := 0
  exchangeName : String := "bithumb"
  exchangeOrderUuid : Option String := none
  internalOrderRef : Option String := none
  exchangeFillId : Option String := none
  fillKey : Option FillKey := none
  clientOrderId : Option String := none
  symbol : String := ""
  market : String := ""
  side : FillSide := .other ""
  price : ℚ := 0
  quantity : ℚ := 0
  executedValue : ℚ := 0
  fee : ℚ := 0
  feeCurrency : String := "KRW"
  feeSource : FeeSource := .unknown
  exchangeFeeTotalByFillRows : ℚ := 0
  exchangeFeeTotalByOrderSummary : ℚ := 0
  fillSequence : Option ℕ := none
  multiFillSameOrderUuid : Bool := false
  executedAtUtc : Option UtcTime := none
  source : String := "exchange_api"
  matchedDbOrderId : Option ℕ := none
  matchedLiveOrderLogId : Option ℕ := none
  matchedSessionId : Option ℕ := none
  matchedStrategyName : Option String := none
  matchStatus : MatchStatus := .unmatched
  matchReason : String := ""
  createdAtUtc : UtcTime := 0
  updatedAtUtc : UtcTime := 0

instance : Row LedgerRow := ⟨LedgerRow.id⟩

/-- `canonical_fill_key`; a row has no `trade_uuid`. -/
def LedgerRow.canonicalFillKey (row : LedgerRow) : FillKey :=
  let exchange := orText row.exchangeName "bithumb"
  if toText row.exchangeFillId ≠ "" then
    .ofFillId exchange (toText row.exchangeOrderUuid) (toText row.exchangeFillId)
  else
    .ofFigures exchange (toText row.exchangeOrderUuid) row.symbol row.side (num row.price)
      (num row.quantity) (num row.fee) row.executedAtUtc row.fillSequence

/-- `row.get("fill_key") or canonical_fill_key(row)`. -/
def LedgerRow.key (row : LedgerRow) : FillKey := row.fillKey.getD row.canonicalFillKey

/-! ## Lots -/

/-- A lot of a market. -/
structure Lot where
  quantity : ℚ
  cost : ℚ
  fee : ℚ

/-- An entry of `matched_lots`. -/
structure MatchedLot where
  quantity : ℚ
  costBasis : ℚ
  allocatedBuyFee : ℚ
  lotQuantityBefore : ℚ
  lotCostBefore : ℚ

/-- `0.000000000001`. -/
def lotTolerance : ℚ := 1 / 10 ^ 12

def Lot.ratio (lot : Lot) (used : ℚ) : ℚ := if 0 < lot.quantity then used / lot.quantity else 0

/-- The lot after `used` of it is sold. -/
def Lot.after (lot : Lot) (used : ℚ) : Lot :=
  { quantity := lot.quantity - used
    cost := lot.cost - lot.cost * lot.ratio used
    fee := lot.fee - lot.fee * lot.ratio used }

/-- What `used` of the lot brings into `matched_lots`. -/
def Lot.matched (lot : Lot) (used : ℚ) : MatchedLot :=
  { quantity := used
    costBasis := lot.cost * lot.ratio used
    allocatedBuyFee := lot.fee * lot.ratio used
    lotQuantityBefore := lot.quantity
    lotCostBefore := lot.cost }

/-- The variables of the sell loop. `popped` keeps what `popleft` returns, which the
source does not look at. -/
structure SellLoop where
  remaining : ℚ
  basis : ℚ := 0
  buyFee : ℚ := 0
  matchedLots : List MatchedLot := []
  popped : List Lot := []
  queue : List Lot := []

/-- `while remaining > 0 and lots[market]`, from a state whose queue is the one given. -/
def sellLots : SellLoop → List Lot → SellLoop
  | st, [] => { st with queue := [] }
  | st, lot :: lots =>
    if 0 < st.remaining then
      let used := min st.remaining lot.quantity
      let next : SellLoop :=
        { st with
          remaining := st.remaining - used
          basis := st.basis + lot.cost * lot.ratio used
          buyFee := st.buyFee + lot.fee * lot.ratio used
          matchedLots := st.matchedLots ++ [lot.matched used] }
      if (lot.after used).quantity ≤ lotTolerance then
        sellLots { next with popped := next.popped ++ [lot.after used] } lots
      else
        -- nothing remains to be sold here, so the loop ends (`sellLots_guard`)
        { next with queue := lot.after used :: lots }
    else { st with queue := lot :: lots }

/-! ## The rows, one by one -/

/-- An entry of `warnings`. -/
inductive FifoWarning where
  | duplicateFillKeyReapplied
  | nonKrwFeeNotConverted
  | nonPositiveQuantity
  | unknownSideIgnored
  | sellExceedsOpenQuantity
  deriving DecidableEq

structure QueueSnapshot where
  quantity : ℚ
  costBasis : ℚ
  feeBasis : ℚ
  avgEntryPrice : ℚ
  lotCount : ℕ

def queueSnapshot (queue : List Lot) : QueueSnapshot :=
  let quantity := (queue.map Lot.quantity).sum
  let cost := (queue.map Lot.cost).sum
  { quantity := quantity
    costBasis := cost
    feeBasis := (queue.map Lot.fee).sum
    avgEntryPrice := if quantity ≠ 0 then cost / quantity else 0
    lotCount := queue.length }

/-- An entry of `fifo_trace`; what it copies of the row stands in `row`. -/
structure FifoTraceRow where
  index : ℕ
  row : LedgerRow
  queueBefore : QueueSnapshot
  queueAfter : QueueSnapshot
  matchedLots : List MatchedLot := []
  realizedPnlBeforeFee : ℚ := 0
  realizedFee : ℚ := 0
  realizedPnlAfterFee : ℚ := 0
  warnings : List FifoWarning

/-- An entry of `realized_trades`. -/
structure RealizedTrade where
  market : String
  exchangeOrderUuid : Option String
  strategyName : Option String
  sessionId : Option ℕ
  executedValue : ℚ
  basisBeforeFee : ℚ
  grossPnlBeforeFee : ℚ
  allocatedBuyFee : ℚ
  sellFee : ℚ
  netPnlAfterFee : ℚ
  unpairedQuantity : ℚ

/-- The variables of the loop over the rows. `popped` keeps, by market, what the sell
loops popped. -/
structure FifoState where
  lots : String → List Lot := fun _ => []
  markets : List String := []
  gross : ℚ := 0
  buyFeeTotal : ℚ := 0
  sellFeeTotal : ℚ := 0
  nonKrwFeeTotal : ℚ := 0
  unpairedSellValue : ℚ := 0
  realizedTrades : List RealizedTrade := []
  fifoTrace : List FifoTraceRow := []
  warningCounts : FifoWarning → ℕ := fun _ => 0
  fillKeysSeen : FillKey → ℕ := fun _ => 0
  buyCount : ℕ := 0
  sellCount : ℕ := 0
  buyValue : ℚ := 0
  sellValue : ℚ := 0
  popped : List (String × Lot) := []

/-- `fee_currency`. -/
def LedgerRow.currency (row : LedgerRow) : String := (orText row.feeCurrency "KRW").toUpper

/-- `fee`: fees in other currencies are not converted. -/
def LedgerRow.krwFee (row : LedgerRow) : ℚ := if row.currency = "KRW" then row.fee else 0

/-- `lots[market]` and the counters every row moves, with the row's first warnings. -/
def FifoState.open (st : FifoState) (row : LedgerRow) : FifoState × List FifoWarning :=
  let seen := Function.update st.fillKeysSeen row.key (st.fillKeysSeen row.key + 1)
  -- a repeated key warns; the row is applied all the same
  let warnings := if 1 < seen row.key then [FifoWarning.duplicateFillKeyReapplied] else []
  -- asking the `defaultdict` for a market adds it, whatever becomes of the row
  let markets := if row.market ∈ st.markets then st.markets else st.markets ++ [row.market]
  if row.currency ≠ "KRW" then
    ({ st with
        fillKeysSeen := seen
        markets := markets
        nonKrwFeeTotal := st.nonKrwFeeTotal + row.fee }, warnings ++ [.nonKrwFeeNotConverted])
  else ({ st with fillKeysSeen := seen, markets := markets }, warnings)

/-- `warning_counts.update` and `fifo_trace.append` at the end of a row. -/
def FifoState.close (st : FifoState) (index : ℕ) (row : LedgerRow) (queueBefore : QueueSnapshot)
    (matchedLots : List MatchedLot) (realizedPnlBeforeFee realizedFee : ℚ)
    (warnings : List FifoWarning) : FifoState :=
  { st with
    warningCounts := fun w => st.warningCounts w + warnings.count w
    fifoTrace := st.fifoTrace ++
      [{ index := index, row := row, queueBefore := queueBefore
         queueAfter := queueSnapshot (st.lots row.market), matchedLots := matchedLots
         realizedPnlBeforeFee := realizedPnlBeforeFee, realizedFee := realizedFee
         realizedPnlAfterFee := realizedPnlBeforeFee - realizedFee, warnings := warnings }] }

def FifoState.buy (st : FifoState) (row : LedgerRow) : FifoState :=
  { st with
    lots := Function.update st.lots row.market
      (st.lots row.market ++
        [{ quantity := row.quantity, cost := row.executedValue, fee := row.krwFee }])
    buyFeeTotal := st.buyFeeTotal + row.krwFee
    buyCount := st.buyCount + 1
    buyValue := st.buyValue + row.executedValue }

/-- The entry of `realized_trades` for a sell whose loop ended in `loop`. -/
def realizedTrade (row : LedgerRow) (loop : SellLoop) : RealizedTrade :=
  let tradeGross := row.executedValue - loop.basis
  { market := row.market
    exchangeOrderUuid := row.exchangeOrderUuid
    strategyName := row.matchedStrategyName
    sessionId := row.matchedSessionId
    executedValue := row.executedValue
    basisBeforeFee := loop.basis
    grossPnlBeforeFee := tradeGross
    allocatedBuyFee := loop.buyFee
    sellFee := row.krwFee
    netPnlAfterFee := tradeGross - (loop.buyFee + row.krwFee)
    unpairedQuantity := loop.remaining }

/-- A sell, once its loop ended in `loop`. -/
def FifoState.sell (st : FifoState) (row : LedgerRow) (loop : SellLoop) : FifoState :=
  { st with
    lots := Function.update st.lots row.market loop.queue
    sellCount := st.sellCount + 1
    sellValue := st.sellValue + row.executedValue
    -- an oversell is valued in proportion to what found no lot
    unpairedSellValue :=
      if lotTolerance < loop.remaining then
        st.unpairedSellValue + row.executedValue * (loop.remaining / row.quantity)
      else st.unpairedSellValue
    sellFeeTotal := st.sellFeeTotal + row.krwFee
    gross := st.gross + (row.executedValue - loop.basis)
    realizedTrades := st.realizedTrades ++ [realizedTrade row loop]
    popped := st.popped ++ loop.popped.map (fun lot => (row.market, lot)) }

/-- One row of the loop; its index is the number of rows traced before it. -/
def applyLedgerRow (st : FifoState) (row : LedgerRow) : FifoState :=
  let index := st.fifoTrace.length
  let queueBefore := queueSnapshot (st.lots row.market)
  let (opened, warnings) := st.open row
  -- skipped, and traced with an empty match
  if row.quantity ≤ 0 then
    opened.close index row queueBefore [] 0 0 (warnings ++ [.nonPositiveQuantity])
  else
    match row.side with
    | .buy => (opened.buy row).close index row queueBefore [] 0 0 warnings
    | .sell =>
      let loop := sellLots { remaining := row.quantity } (opened.lots row.market)
      let warnings :=
        if lotTolerance < loop.remaining then warnings ++ [.sellExceedsOpenQuantity] else warnings
      (opened.sell row loop).close index row queueBefore loop.matchedLots
        (row.executedValue - loop.basis) (loop.buyFee + row.krwFee) warnings
    | .other _ => opened.close index row queueBefore [] 0 0 (warnings ++ [.unknownSideIgnored])

/-- `<` on the texts of times; the empty text comes first. -/
def executedEarlier : Option UtcTime → Option UtcTime → Bool
  | none, some _ => true
  | some t, some t' => t < t'
  | _, none => false

/-- `sorted(rows, key=…)`: by time, then by id. -/
def LedgerRow.executedBefore (r s : LedgerRow) : Prop :=
  executedEarlier r.executedAtUtc s.executedAtUtc = true
    ∨ (r.executedAtUtc = s.executedAtUtc ∧ r.id ≤ s.id)

instance : DecidableRel LedgerRow.executedBefore := fun r s =>
  inferInstanceAs (Decidable (executedEarlier r.executedAtUtc s.executedAtUtc = true
    ∨ (r.executedAtUtc = s.executedAtUtc ∧ r.id ≤ s.id)))

def fifoState (rows : List LedgerRow) : FifoState :=
  Library.run applyLedgerRow {} (rows.insertionSort LedgerRow.executedBefore)

/-! ## The report -/

/-- An entry of `open_positions_by_market`. -/
structure OpenMarketPosition where
  market : String
  openPositionQuantity : ℚ
  openPositionCostBasis : ℚ
  openPositionBuyFeeBasis : ℚ
  avgEntryPrice : ℚ
  currentValuationPrice : ℚ
  currentValuationValue : ℚ
  unrealizedPnlBeforeEstimatedExitFee : ℚ
  estimatedExitFee : ℚ
  unrealizedPnlAfterEstimatedExitFee : ℚ

/-- What the report computes of one market's queue. -/
def openMarketPosition (market : String) (queue : List Lot) (price feeRate : ℚ) :
    OpenMarketPosition :=
  let quantity := (queue.map Lot.quantity).sum
  let cost := (queue.map Lot.cost).sum
  let value := quantity * price
  let exitFee := max (value * feeRate) 0
  { market := market
    openPositionQuantity := quantity
    openPositionCostBasis := cost
    openPositionBuyFeeBasis := (queue.map Lot.fee).sum
    avgEntryPrice := if quantity ≠ 0 then cost / quantity else 0
    currentValuationPrice := price
    currentValuationValue := value
    unrealizedPnlBeforeEstimatedExitFee := value - cost
    estimatedExitFee := exitFee
    unrealizedPnlAfterEstimatedExitFee := value - cost - exitFee }

/-- The returned figures; texts and copies of other figures are left out. -/
structure RealizedPnlReport where
  fillCount : ℕ
  buyCount : ℕ
  sellCount : ℕ
  buyValue : ℚ
  sellValue : ℚ
  grossRealizedPnlBeforeFee : ℚ
  buyFeeTotal : ℚ
  sellFeeTotal : ℚ
  realizedFeeTotal : ℚ
  nonKrwFeeTotal : ℚ
  netRealizedPnlAfterFee : ℚ
  openPositionCostBasis : ℚ
  openPositionQuantity : ℚ
  avgEntryPrice : ℚ
  unrealizedPnlBeforeEstimatedExitFee : ℚ
  estimatedExitFee : ℚ
  unrealizedPnlAfterEstimatedExitFee : ℚ
  totalPnlAfterEstimatedExitFee : ℚ
  openPositionsByMarket : List OpenMarketPosition
  unpairedSellValueKrw : ℚ
  realizedTradeCount : ℕ
  realizedTrades : List RealizedTrade
  fifoTrace : List FifoTraceRow
  warningCounts : FifoWarning → ℕ

/-- The figures of every market that was asked for, by market. -/
def FifoState.openMarkets (st : FifoState) (valuationPrices : String → ℚ) (feeRate : ℚ) :
    List OpenMarketPosition :=
  (st.markets.insertionSort (· ≤ ·)).map
    (fun market => openMarketPosition market (st.lots market) (valuationPrices market) feeRate)

/-- `compute_realized_pnl_from_ledger`; a market without a price counts at zero. -/
def computeRealizedPnlFromLedger (rows : List LedgerRow) (valuationPrices : String → ℚ)
    (feeRate : ℚ) : RealizedPnlReport :=
  let st := fifoState rows
  let markets := st.openMarkets valuationPrices feeRate
  let openCostBasis := (markets.map OpenMarketPosition.openPositionCostBasis).sum
  let openQuantity := (markets.map OpenMarketPosition.openPositionQuantity).sum
  let unrealized := (markets.map OpenMarketPosition.unrealizedPnlBeforeEstimatedExitFee).sum
  let exitFee := (markets.map OpenMarketPosition.estimatedExitFee).sum
  let realizedFee := (st.realizedTrades.map (fun t => t.allocatedBuyFee + t.sellFee)).sum
  { fillCount := rows.length
    buyCount := st.buyCount
    sellCount := st.sellCount
    buyValue := st.buyValue
    sellValue := st.sellValue
    grossRealizedPnlBeforeFee := st.gross
    buyFeeTotal := st.buyFeeTotal
    sellFeeTotal := st.sellFeeTotal
    realizedFeeTotal := realizedFee
    nonKrwFeeTotal := st.nonKrwFeeTotal
    netRealizedPnlAfterFee := st.gross - realizedFee
    openPositionCostBasis := openCostBasis
    openPositionQuantity := openQuantity
    avgEntryPrice := if openQuantity ≠ 0 then openCostBasis / openQuantity else 0
    unrealizedPnlBeforeEstimatedExitFee := unrealized
    estimatedExitFee := exitFee
    unrealizedPnlAfterEstimatedExitFee := unrealized - exitFee
    totalPnlAfterEstimatedExitFee := st.gross - realizedFee + unrealized - exitFee
    openPositionsByMarket :=
      markets.filter (fun position => lotTolerance < position.openPositionQuantity)
    unpairedSellValueKrw := st.unpairedSellValue
    realizedTradeCount := st.realizedTrades.length
    -- the report shows the first of the list; the sums above run over all of it
    realizedTrades := st.realizedTrades.take 50
    fifoTrace := st.fifoTrace.take 200
    warningCounts := st.warningCounts }

/-! ## The sell loop is a draw -/

def sellCut : LotCut ℚ Lot MatchedLot where
  size := Lot.quantity
  piece := fun used lot => lot.matched used
  rest := fun used lot => lot.after used
  exhausted := fun lot => lot.quantity ≤ lotTolerance

instance : DecidablePred sellCut.exhausted := fun lot =>
  inferInstanceAs (Decidable (lot.quantity ≤ lotTolerance))

/-- **The sell loop is a draw** on the queue of the market. -/
theorem sellLots_eq_draw (st : SellLoop) (lots : List Lot) :
    sellLots st lots =
      { remaining := (draw sellCut st.remaining lots).unmet
        basis := st.basis
          + ((draw sellCut st.remaining lots).taken.map MatchedLot.costBasis).sum
        buyFee := st.buyFee
          + ((draw sellCut st.remaining lots).taken.map MatchedLot.allocatedBuyFee).sum
        matchedLots := st.matchedLots ++ (draw sellCut st.remaining lots).taken
        popped := st.popped ++ (draw sellCut st.remaining lots).dropped
        queue := (draw sellCut st.remaining lots).queue } := by
  induction lots generalizing st with
  | nil => simp [sellLots, draw]
  | cons lot lots ih =>
    unfold sellLots draw
    -- the first lot is drawn on: it is popped or it ends the loop
    by_cases hremaining : 0 < st.remaining
    · rw [if_pos hremaining, if_pos hremaining]
      dsimp only
      by_cases hout : (lot.after (min st.remaining lot.quantity)).quantity ≤ lotTolerance
      · have hout' : sellCut.exhausted
            (sellCut.rest (min st.remaining (sellCut.size lot)) lot) := hout
        rw [if_pos hout, if_pos hout', ih]
        simp [sellCut, Lot.matched, add_assoc]
      · have hout' : ¬ sellCut.exhausted
            (sellCut.rest (min st.remaining (sellCut.size lot)) lot) := hout
        rw [if_neg hout, if_neg hout']
        simp [sellCut, Lot.matched]
    · rw [if_neg hremaining, if_neg hremaining]
      simp

end AutoCoinBot
