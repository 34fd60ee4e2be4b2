/-
  ExchangeFillsLedger.FillRecords — from an order as the exchange lists it to
  the records of its fills.

  `normalize_exchange_fills` and `normalize_db_fill` (app/trading_reconciliation.py) read
  the payloads; `build_exchange_fill_records` keys the fills and matches them with the
  orders of the database.
-/
import AutoCoinBot.ExchangeFillsLedger.RealizedPnl
import AutoCoinBot.Database.LiveOrderLogs

namespace AutoCoinBot

open Library

/-! ## Payloads -/

/-- The keys that a trade and an order share. A number that is missing or empty is
`none`; one that cannot be read is zero. The empty object is the default. -/
structure FillSource where
  uuid : Option String := none
  tradeUuid : Option String := none
  market : Option String := none
  volume : Option ℚ := none
  executedVolume : Option ℚ := none
  price : Option ℚ := none
  funds : Option ℚ := none
  executedFunds : Option ℚ := none
  filledAmountKrw : Option ℚ := none
  fee : Option ℚ := none
  tradeFee : Option ℚ := none
  paidFee : Option ℚ := none
  feeCurrency : Option String := none
  createdAt : Option UtcTime := none
  executedAt : Option UtcTime := none
  -- keys that nothing here reads, or that have no value
  otherKeys : Bool := false
  deriving DecidableEq

/-- An order of a payload; `trades` is `none` unless it is a list. -/
structure ExchangeOrder extends FillSource where
  orderUuid : Option String := none
  clientOrderId : Option String := none
  identifier : Option String := none
  side : Option String := none
  reservedFee : Option ℚ := none
  trades : Option (List FillSource) := none

/-- `a or b` of two optional texts. -/
def orTexts (a b : Option String) : String := orText (toText a) (toText b)

/-- `_side`. -/
def fillSide (side : Option String) : FillSide :=
  let text := (toText side).toUpper
  if text = "BID" ∨ text = "BUY" then .buy
  else if text = "ASK" ∨ text = "SELL" then .sell
  else .other text

def explicitFee (source : FillSource) : Option ℚ := source.fee.or source.tradeFee

def tradeAmount (trade : FillSource) : ℚ :=
  let amount := orNum (orNum (toFloat trade.funds) (toFloat trade.executedFunds))
    (toFloat trade.filledAmountKrw)
  let volume := orNum (toFloat trade.volume) (toFloat trade.executedVolume)
  let price := toFloat trade.price
  if amount ≠ 0 then amount else if volume ≠ 0 ∧ price ≠ 0 then volume * price else 0

/-! ## Fills -/

/-- A normalized fill of the exchange. -/
structure ExchangeFill where
  exchangeOrderUuid : String
  clientOrderId : String
  tradeUuid : String
  fillSequence : Option ℕ
  market : String
  symbol : String
  side : FillSide
  price : ℚ
  quantity : ℚ
  amountKrw : ℚ
  fee : ℚ
  feeCurrency : String
  feeSource : FeeSource
  exchangeFeeTotalByFillRows : ℚ
  exchangeFeeTotalByOrderSummary : ℚ
  fillRowFeePresent : Bool
  executedAtUtc : Option UtcTime

def ExchangeOrder.ref (order : ExchangeOrder) : String := orTexts order.uuid order.orderUuid

/-- `_normalize_exchange_trade`; an order without trades is its own source. -/
def normalizeExchangeTrade (order : ExchangeOrder) (trade : Option FillSource)
    (fillSequence : Option ℕ) (allocatedOrderSummaryFee : ℚ) (orderSummaryFee : Option ℚ)
    (hasFillRowFee : Bool) : ExchangeFill :=
  let source := match trade with
    -- `trade or order`: an empty trade is falsy
    | some t => if t = {} then order.toFillSource else t
    | none => order.toFillSource
  let volume := orNum (orNum (toFloat source.volume) (toFloat source.executedVolume))
    (toFloat order.executedVolume)
  let amount := orNum (orNum (orNum (toFloat source.funds) (toFloat source.executedFunds))
    (toFloat source.filledAmountKrw)) (toFloat order.executedFunds)
  let price := orNum (toFloat source.price) (if volume ≠ 0 then amount / volume else 0)
  -- an amount that nothing lists is price times volume
  let amount := if amount = 0 ∧ price ≠ 0 ∧ volume ≠ 0 then price * volume else amount
  let summaryFee := orNum (toFloat source.paidFee) (toFloat order.paidFee)
  let fee := match explicitFee source with
    | some fee => fee
    | none =>
      -- a fee of the trade itself goes first, then its share of the order's
      if trade.isSome ∧ allocatedOrderSummaryFee ≠ 0 then allocatedOrderSummaryFee else summaryFee
  let feeSource := match explicitFee source with
    | some _ => FeeSource.fillRowFee
    | none =>
      if trade.isSome ∧ allocatedOrderSummaryFee ≠ 0 then .orderSummaryFee
      else if summaryFee ≠ 0 then .orderSummaryFee
      else .noFeeReported
  let market := orTexts order.market source.market
  { exchangeOrderUuid := order.ref
    clientOrderId := orTexts order.clientOrderId order.identifier
    tradeUuid := orTexts source.uuid source.tradeUuid
    fillSequence := fillSequence
    market := market
    symbol := symbolOf market
    side := fillSide order.side
    price := price
    quantity := volume
    amountKrw := amount
    fee := fee
    feeCurrency := orText (toText source.feeCurrency) "KRW"
    feeSource := feeSource
    exchangeFeeTotalByFillRows :=
      match order.trades with
      | some trades => (trades.map (fun t => toFloat (explicitFee t))).sum
      | none => if (explicitFee source).isSome then fee else 0
    exchangeFeeTotalByOrderSummary := toFloat (orderSummaryFee.or order.paidFee)
    fillRowFeePresent := (explicitFee source).isSome || hasFillRowFee
    executedAtUtc := (source.createdAt.or source.executedAt).or order.createdAt }

/-- The fills of one order: one a trade, or one for an order without trades that shows a
quantity or an amount. The order's fee is shared out over trades without a fee. -/
def exchangeOrderFills (order : ExchangeOrder) : List ExchangeFill :=
  match order.trades with
  | some (t :: ts) =>
    let trades := t :: ts
    let orderSummaryFee := orNum (toFloat order.paidFee) (toFloat order.reservedFee)
    let hasFillRowFee := trades.any (fun trade => (explicitFee trade).isSome)
    let amountTotal := (trades.map tradeAmount).sum
    trades.zipIdx.map (fun (trade, index) =>
      let allocated :=
        if hasFillRowFee = false ∧ orderSummaryFee ≠ 0 then
          -- in proportion to the amounts, or evenly if no trade shows one
          if 0 < amountTotal then orderSummaryFee * (tradeAmount trade / amountTotal)
          else orderSummaryFee / trades.length
        else 0
      normalizeExchangeTrade order (some trade) (some index) allocated (some orderSummaryFee)
        hasFillRowFee)
  -- also an empty list of trades
  | _ =>
    let fill := normalizeExchangeTrade order none none 0 none false
    if 0 < fill.quantity ∨ 0 < fill.amountKrw then [fill] else []

def normalizeExchangeFills (orders : List ExchangeOrder) : List ExchangeFill :=
  orders.flatMap exchangeOrderFills

/-- `canonical_fill_key({"exchange_name": …, **fill})`. -/
def ExchangeFill.canonicalFillKey (exchangeName : String) (fill : ExchangeFill) : FillKey :=
  let exchange := orText exchangeName "bithumb"
  if fill.tradeUuid ≠ "" then .ofFillId exchange fill.exchangeOrderUuid fill.tradeUuid
  else
    .ofFigures exchange fill.exchangeOrderUuid fill.symbol fill.side (num fill.price)
      (num fill.quantity) (num fill.fee) fill.executedAtUtc fill.fillSequence

/-! ## Matching with the orders of the database -/

/-- The columns of an order row that `normalize_db_fill` reads. -/
structure DbOrder where
  id : ℕ
  orderUuid : Option String := none
  clientOrderId : Option String := none
  market : Option String := none
  side : Option String := none
  price : Option ℚ := none
  executedVolume : Option ℚ := none
  volume : Option ℚ := none
  filledAmountKrw : Option ℚ := none
  amountKrw : Option ℚ := none
  paidFee : Option ℚ := none
  strategyName : Option String := none
  sessionId : Option ℕ := none

/-- A normalized fill of the database. -/
structure DbFill where
  id : ℕ
  exchangeOrderUuid : String
  clientOrderId : String
  market : String
  side : FillSide
  price : ℚ
  quantity : ℚ
  amountKrw : ℚ
  fee : ℚ
  strategy : Option String
  sessionId : Option ℕ

def normalizeDbFill (order : DbOrder) : DbFill :=
  let volume := orNum (toFloat order.executedVolume) (toFloat order.volume)
  let price := toFloat order.price
  let amount := orNum (orNum (toFloat order.filledAmountKrw) (toFloat order.amountKrw))
    (price * volume)
  { id := order.id
    exchangeOrderUuid := toText order.orderUuid
    clientOrderId := toText order.clientOrderId
    market := toText order.market
    side := fillSide order.side
    price := if price = 0 ∧ volume ≠ 0 then amount / volume else price
    quantity := volume
    amountKrw := amount
    fee := toFloat order.paidFee
    strategy := order.strategyName
    sessionId := order.sessionId }

/-- `candidates`: the database fills of the order's uuid, then those of its client id. -/
def matchCandidates (dbFills : List DbFill) (fill : ExchangeFill) : List DbFill :=
  dbFills.filter (fun f => f.exchangeOrderUuid ≠ "" && f.exchangeOrderUuid == fill.exchangeOrderUuid)
    ++ dbFills.filter (fun f => f.clientOrderId ≠ "" && f.clientOrderId == fill.clientOrderId)

/-- The verdict of `_match_fill` on one candidate. -/
def candidateMatch (fill : ExchangeFill) (candidate : DbFill) : Option String :=
  let quantityMatch := |candidate.quantity - fill.quantity| ≤ 1 / 10 ^ 8
  let valueMatch := |candidate.amountKrw - fill.amountKrw| ≤ 5
  let feeMatch := |candidate.fee - fill.fee| ≤ 1
  let partialQuantityMatch := fill.quantity ≤ candidate.quantity + 1 / 10 ^ 8 ∧ 0 < fill.quantity
  let partialValueMatch := fill.amountKrw ≤ candidate.amountKrw + 5 ∧ 0 < fill.amountKrw
  if candidate.market ≠ fill.market ∨ candidate.side ≠ fill.side then none
  else if quantityMatch ∧ valueMatch ∧ feeMatch then
    some "matched by uuid/client id, side, quantity, value, and fee"
  else if quantityMatch ∧ valueMatch then
    some "matched by uuid/client id, side, quantity, and value; fee differs"
  else if partialQuantityMatch ∧ partialValueMatch then
    some "matched partial fill by uuid/client id, side, and bounded quantity/value"
  else none

/-- `_match_fill`: the first candidate that matches. -/
def matchFill (fill : ExchangeFill) (candidates : List DbFill) : Option DbFill × String :=
  match candidates.findSome? (fun c => (candidateMatch fill c).map (fun text => (c, text))) with
  | some (candidate, text) => (some candidate, text)
  | none =>
    if candidates.isEmpty then (none, "no db order matched exchange uuid/client id")
    else (none, "uuid/client id candidates existed but price/quantity/fee did not match")

/-- `is_real_exchange_order_uuid`: a capital letter and at least ten digits. -/
def isRealExchangeOrderUuid (value : String) : Bool :=
  match value.toList with
  | [] => false
  | c :: digits =>
    'A' ≤ c && c ≤ 'Z' && digits.all Char.isDigit && 10 ≤ digits.length

def isSyntheticOrderUuid (value : String) : Bool :=
  value ≠ "" && !isRealExchangeOrderUuid value

/-! ## Records -/

section Records

variable (exchangeName : String) (fills : List ExchangeFill) (dbFills : List DbFill)
  (source : String)

/-- `match_status` and `match_reason` of a fill among the fills of its payload. -/
def matchStatus (fill : ExchangeFill) : MatchStatus × String :=
  let (found, reason) := matchFill fill (matchCandidates dbFills fill)
  let keys := fills.map (ExchangeFill.canonicalFillKey exchangeName)
  if 1 < keys.count (fill.canonicalFillKey exchangeName) then
    (.duplicateFillKey,
      "same canonical fill key appears more than once in the exchange ledger payload")
  else if found.isSome then (.matchedDbOrder, reason)
  -- the uuid decides what an unmatched fill is called
  else if isRealExchangeOrderUuid fill.exchangeOrderUuid then
    (.missingCanonicalLog, "exchange fill exists but no canonical live_order_logs row matched")
  else if fill.exchangeOrderUuid ≠ "" then
    (.syntheticUuidOnly, "order uuid is not a real exchange uuid")
  else (.unmatched, reason)

def recordOf (fill : ExchangeFill) : LedgerRow :=
  let uuid := fill.exchangeOrderUuid
  let found := (matchFill fill (matchCandidates dbFills fill)).1
  { exchangeName := exchangeName
    exchangeOrderUuid := if isRealExchangeOrderUuid uuid then some uuid else none
    internalOrderRef := if isSyntheticOrderUuid uuid then some uuid else none
    -- the fill key is made of the fill, so this default does not enter it
    exchangeFillId := some (orText fill.tradeUuid uuid)
    clientOrderId := if fill.clientOrderId = "" then none else some fill.clientOrderId
    fillKey := some (fill.canonicalFillKey exchangeName)
    symbol := orText fill.symbol (symbolOf fill.market)
    market := fill.market
    side := fill.side
    price := fill.price
    quantity := fill.quantity
    executedValue := fill.amountKrw
    fee := fill.fee
    feeCurrency := orText fill.feeCurrency "KRW"
    feeSource := fill.feeSource
    exchangeFeeTotalByFillRows := fill.exchangeFeeTotalByFillRows
    exchangeFeeTotalByOrderSummary := fill.exchangeFeeTotalByOrderSummary
    fillSequence := fill.fillSequence
    multiFillSameOrderUuid :=
      uuid ≠ "" && 1 < (fills.filter (fun f => f.exchangeOrderUuid == uuid)).length
    executedAtUtc := fill.executedAtUtc
    source := source
    matchedDbOrderId := found.map DbFill.id
    matchedLiveOrderLogId := found.map DbFill.id
    matchedSessionId := found.bind DbFill.sessionId
    matchedStrategyName := found.bind DbFill.strategy
    matchStatus := (matchStatus exchangeName fills dbFills fill).1
    matchReason := (matchStatus exchangeName fills dbFills fill).2 }

end Records

def buildExchangeFillRecords (exchangeName : String) (exchangeOrders : List ExchangeOrder)
    (dbOrders : List DbOrder) (source : String) (periodStart : Option UtcTime) : List LedgerRow :=
  let all := normalizeExchangeFills exchangeOrders
  let fills := match periodStart with
    | none => all
    | some start => all.filter (fun fill => start ≤ fill.executedAtUtc.getD start)
  fills.map (recordOf exchangeName fills (dbOrders.map normalizeDbFill) source)

/-! ## Keys carry the order -/

/-- The order's uuid among the parts of a key. -/
def FillKey.orderUuid : FillKey → String
  | .ofFillId _ orderUuid _ => orderUuid
  | .ofFigures _ orderUuid _ _ _ _ _ _ _ => orderUuid

@[simp] theorem ExchangeFill.orderUuid_key (exchangeName : String) (fill : ExchangeFill) :
    (fill.canonicalFillKey exchangeName).orderUuid = fill.exchangeOrderUuid := by
  unfold ExchangeFill.canonicalFillKey
  dsimp only
  split <;> rfl

def LedgerRow.orderRef (row : LedgerRow) : String :=
  toText (row.exchangeOrderUuid.or row.internalOrderRef)

@[simp] theorem recordOf_orderRef (exchangeName : String) (fills : List ExchangeFill)
    (dbFills : List DbFill) (source : String) (fill : ExchangeFill) :
    (recordOf exchangeName fills dbFills source fill).orderRef = fill.exchangeOrderUuid := by
  unfold recordOf LedgerRow.orderRef isSyntheticOrderUuid
  dsimp only
  -- a real uuid stands in its own column, any other in `internal_order_ref`
  by_cases hreal : isRealExchangeOrderUuid fill.exchangeOrderUuid = true
  · simp [hreal]
  · by_cases hempty : fill.exchangeOrderUuid = ""
    · rw [hempty] at hreal ⊢
      rw [if_neg hreal]
      rfl
    · simp [hreal, hempty]

theorem exchangeOrderFills_ref {order : ExchangeOrder} {fill : ExchangeFill}
    (h : fill ∈ exchangeOrderFills order) : fill.exchangeOrderUuid = order.ref := by
  unfold exchangeOrderFills at h
  split at h
  · obtain ⟨⟨trade, index⟩, -, rfl⟩ := List.mem_map.mp h
    rfl
  · dsimp only at h
    split at h
    · rw [List.mem_singleton.mp h]
      rfl
    · cases h

end AutoCoinBot
