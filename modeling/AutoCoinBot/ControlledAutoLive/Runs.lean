/-
  ControlledAutoLive.Runs — the runs of app/controlled_auto_live.py that send orders:
  `run_controlled_auto_live`, `run_controlled_trade_probe` and
  `run_controlled_entry_v3_position_run`.

  A run is given what it reads: decisions, quotes, stop requests, and where its time is up, the end
  of its ticks. What it meets with an order is given by the order. An exception ends it.
-/
import AutoCoinBot.ControlledAutoLive.LedgerVerdict
import AutoCoinBot.ControlledAutoLive.PositionRun
import AutoCoinBot.ControlledAutoLive.SubmitAndWait

namespace AutoCoinBot

/-! ## Orders -/

/-- The runs. -/
inductive RunType where
  | autoLive
  | tradeProbe
  | positionRun
  deriving DecidableEq

namespace RunType

/-- `run_type`; the report of `run_controlled_auto_live` has none. -/
def text : RunType → String
  | .autoLive => ""
  | .tradeProbe => "CONTROLLED_TRADE_PROBE"
  | .positionRun => "CONTROLLED_ENTRY_V3_POSITION_RUN"

def runner : RunType → Runner
  | .autoLive =>
    .controlled "CONTROLLED_AUTO_LIVE" "CONTROLLED_AUTO_LIVE_PREPARED"
      "CONTROLLED_AUTO_LIVE_SUBMITTED"
  | .tradeProbe =>
    .controlled "CONTROLLED_TRADE_PROBE" "CONTROLLED_TRADE_PROBE_PREPARED"
      "CONTROLLED_TRADE_PROBE_SUBMITTED"
  | .positionRun =>
    .controlled "CONTROLLED_ENTRY_V3_POSITION_RUN" "CONTROLLED_ENTRY_V3_POSITION_PREPARED"
      "CONTROLLED_ENTRY_V3_POSITION_SUBMITTED"

def exceptionReason (error : String) : RunType → String
  | .autoLive => "CONTROLLED_AUTO_EXCEPTION:" ++ error
  | .tradeProbe => "CONTROLLED_TRADE_PROBE_EXCEPTION:" ++ error
  | .positionRun => "CONTROLLED_ENTRY_V3_POSITION_EXCEPTION:" ++ error

end RunType

/-- The arguments of `_submit_and_wait_controlled`. -/
structure OrderRequest where
  runType : RunType
  runId : String
  market : String
  side : OrderSide
  price : ℚ
  volume : ℚ
  amountKrw : ℚ
  orderIndex : ℕ
  strategyName : String
  signalReason : String

/-- What the orders meet, in the database and on the exchange. -/
structure Exchange where
  -- the other request that has a uuid
  owner : OrderRequest → String → Option String := fun _ _ => none
  encounter : OrderRequest → Encounter
  -- `f"{exc.__class__.__name__}:{str(exc)[:160]}"`
  errorText : RunnerError → String := fun _ => ""

/-- `_submit_and_wait_controlled`. -/
def Exchange.result (exchange : Exchange) (request : OrderRequest) :
    Except RunnerError OrderResult :=
  (submitAndWait request.runType.runner (exchange.owner request) (exchange.encounter request)).2

/-! ## Reports -/

/-- `controlled_auto_live_status`, with `PASSED`, which is none in the end. -/
inductive ResultStatus where
  | passed
  | passedTrade
  | passedTradeProbe
  | passedPositionTrade
  | passedTechnicalPosition
  | passedProfitablePosition
  | passIdle
  | stopped
  | failed
  | aborted
  deriving DecidableEq

namespace ResultStatus

def text : ResultStatus → String
  | .passed => "PASSED"
  | .passedTrade => "PASSED_TRADE"
  | .passedTradeProbe => "PASSED_TRADE_PROBE"
  | .passedPositionTrade => "PASSED_POSITION_TRADE"
  | .passedTechnicalPosition => "PASSED_TECHNICAL_POSITION"
  | .passedProfitablePosition => "PASSED_PROFITABLE_POSITION"
  | .passIdle => "PASS_IDLE"
  | .stopped => "STOPPED"
  | .failed => "FAILED"
  | .aborted => "ABORTED"

def isPassing : ResultStatus → Bool
  | .passed | .passedTrade | .passedTradeProbe | .passedPositionTrade | .passedTechnicalPosition
  | .passedProfitablePosition | .passIdle => true
  | .stopped | .failed | .aborted => false

end ResultStatus

/-- The figures and the end of a report. -/
structure RunReport where
  status : ResultStatus := .failed
  passFailReasons : List String := []
  selectedSymbol : String := ""
  tradeCount : ℕ := 0
  orderCount : ℕ := 0
  buyFilledCount : ℕ := 0
  sellFilledCount : ℕ := 0
  duplicateClientOrderIdCount : ℕ := 0
  grossPnl : ℚ := 0
  totalFee : ℚ := 0
  netPnlAfterFee : ℚ := 0
  runRealizedPnl : ℚ := 0
  runPnl : ℚ := 0
  protectedStrategyRealizedPnl : ℚ := 0
  protectedStrategyUnrealizedPnl : ℚ := 0
  protectedStrategyTotalPnl : ℚ := 0
  spreadSlippageEstimate : ℚ := 0
  exchangeFillCount : ℕ := 0
  ledgerFillCount : ℕ := 0
  missingLedgerFillCount : ℕ := 0
  duplicateFillCount : ℕ := 0
  feeDiff : ℚ := 0

/-- A position that is sold. -/
structure RealizedPosition where
  quantity : ℚ
  buyValue : ℚ
  buyFee : ℚ
  buyPrice : ℚ
  sellValue : ℚ
  sellFee : ℚ
  sellPrice : ℚ

namespace RunReport

def mergeOrderResult (report : RunReport) (side : OrderSide) (result : OrderResult) : RunReport :=
  { report with
    orderCount := report.orderCount + if result.requested then 1 else 0
    -- a blocked result has the duplicate id
    duplicateClientOrderIdCount :=
      report.duplicateClientOrderIdCount + if result.blocked then 1 else 0
    buyFilledCount := report.buyFilledCount + if side = .buy ∧ result.filled then 1 else 0
    sellFilledCount := report.sellFilledCount + if side = .sell ∧ result.filled then 1 else 0 }

def applyRealizedPositionPnl (report : RunReport) (position : RealizedPosition) : RunReport :=
  let gross := position.sellValue - position.buyValue
  let totalFee := position.buyFee + position.sellFee
  let net := gross - totalFee
  let spread := |position.buyPrice - position.sellPrice| * position.quantity
  { report with
    grossPnl := report.grossPnl + gross
    totalFee := report.totalFee + totalFee
    netPnlAfterFee := report.netPnlAfterFee + net
    runRealizedPnl := report.runRealizedPnl + net
    runPnl := report.runRealizedPnl + net
    protectedStrategyRealizedPnl := report.protectedStrategyRealizedPnl + net
    protectedStrategyUnrealizedPnl := 0
    protectedStrategyTotalPnl := report.protectedStrategyRealizedPnl + net + 0
    spreadSlippageEstimate := report.spreadSlippageEstimate + spread }

/-- `report.update(ledger)`. -/
def withLedger (report : RunReport) (ledger : LedgerAssessment) : RunReport :=
  { report with
    exchangeFillCount := ledger.exchangeFillCount
    ledgerFillCount := ledger.ledgerFillCount
    missingLedgerFillCount := ledger.missingLedgerFillCount
    duplicateFillCount := ledger.duplicateFillCount
    feeDiff := ledger.feeDiff }

def finalize (report : RunReport) (status : ResultStatus) (reasons : List String) : RunReport :=
  { report with
    status := status
    passFailReasons := reasons }

end RunReport

def controlledResultStatus (runType : RunType) (orderCount : ℕ) (status : ResultStatus) :
    ResultStatus :=
  if status ≠ .passed then status
  else if runType = .positionRun ∧ 0 < orderCount then .passedPositionTrade
  else if 0 < orderCount then .passedTrade
  else .passIdle

/-! ## What the runs have in common -/

/-- The report so far, the orders that were sent, and the rows of those that have one. -/
structure Progress where
  report : RunReport := {}
  requests : List OrderRequest := []
  orderLogs : List OrderRow := []

/-- The report of a run, and its orders. -/
structure RunOutcome where
  report : RunReport
  requests : List OrderRequest

/-- What `_finalize_after_orders` reads. -/
structure Closing where
  raises : Option String := none
  -- `_persist_limited_ledger`
  ledger : LedgerAssessment := {}
  checks : RunChecks := {}

namespace Progress

def finalize (p : Progress) (status : ResultStatus) (reasons : List String) : RunOutcome :=
  ⟨p.report.finalize status reasons, p.requests⟩

def fail (p : Progress) (runType : RunType) (error : String) : RunOutcome :=
  p.finalize .failed [runType.exceptionReason error]

def finalizeAfterOrders (p : Progress) (runType : RunType) (status : ResultStatus)
    (reasons : List String) (closing : Closing) : RunOutcome :=
  match closing.raises with
  | some error => p.fail runType error
  | none =>
    let ledger := if p.orderLogs = [] then {} else closing.ledger
    let report := p.report.withLedger ledger
    let failReasons := runFailReasons (.controlled runType.text)
      { closing.checks with orderCount := report.orderCount } ledger
    let finalStatus :=
      if reasons ≠ [] then status
      else if status = .passedTradeProbe ∧ failReasons = [] then .passedTradeProbe
      else if failReasons = [] then .passed
      else .stopped
    ⟨report.finalize (controlledResultStatus runType report.orderCount finalStatus)
        (reasons ++ failReasons),
      p.requests⟩

/-- An order, and `_merge_order_result`. -/
def submit (p : Progress) (exchange : Exchange) (request : OrderRequest) :
    Progress × Except String OrderResult :=
  match exchange.result request with
  | .error exc =>
    ({ p with requests := p.requests ++ [request] }, .error (exchange.errorText exc))
  | .ok result =>
    ({ report := p.report.mergeOrderResult request.side result
       requests := p.requests ++ [request]
       orderLogs := p.orderLogs ++ result.orderLog.toList },
      .ok result)

end Progress

/-- A position that is held. -/
structure HeldPosition where
  market : String
  strategy : String
  quantity : ℚ
  buyValue : ℚ
  buyFee : ℚ
  buyPrice : ℚ

/-- The SELL of a position; its result counts once it is filled. -/
def Progress.sell (p : Progress) (exchange : Exchange) (position : HeldPosition)
    (request : OrderRequest) (sellPrice : OrderResult → ℚ) : Progress × Except String OrderResult :=
  match p.submit exchange request with
  | (p, .error error) => (p, .error error)
  | (p, .ok sell) =>
    if sell.filled then
      ({ p with
          report := p.report.applyRealizedPositionPnl
            { quantity := position.quantity
              buyValue := position.buyValue
              buyFee := position.buyFee
              buyPrice := position.buyPrice
              sellValue := toFloat sell.filledAmountKrw
              sellFee := toFloat sell.paidFee
              sellPrice := sellPrice sell } },
        .ok sell)
    else (p, .ok sell)

def orderResultStopReason (result : OrderResult) (fallback : String) : List String :=
  [orText (toText result.stopReason) fallback]

/-- Before its loop, a run is let in, or not. -/
inductive RunStart where
  | enters
  | aborts (reasons : List String)
  | raises (error : String)

/-- `_orderbook_quote`. -/
structure Quote where
  bestAsk : ℚ := 0
  bestBid : ℚ := 0

/-! ## `run_controlled_auto_live` -/

/-- A decision to buy. -/
structure EntryDecision where
  market : String
  strategy : String
  entryPrice : ℚ
  reason : String := "CONTROLLED_ENTRY"

structure ExitDecision where
  sells : Bool
  exitPrice : ℚ
  reason : String := "HOLD_UNTIL_SIGNAL_OR_RUNTIME_END"

/-- What one turn of the loop reads; which of the decisions depends on what is held. -/
structure AutoTick where
  stopRequested : Bool := false
  openBlocker : Except String (Option String) := .ok none
  -- the best of `_build_entry_decisions`, where it is a BUY that its edge allows
  entry : Except String (Option EntryDecision) := .ok none
  exit : Except String ExitDecision := .ok ⟨false, 0, "HOLD_UNTIL_SIGNAL_OR_RUNTIME_END"⟩
  -- not more than `TICK_INTERVAL_SECONDS` are left
  nearDeadline : Bool := false
  stopRequestedAfter : Bool := false

/-- A run. -/
structure AutoRun where
  runId : String
  notional : ℚ
  start : RunStart := .enters
  ticks : List AutoTick
  -- of the SELL at its end
  quote : Except String Quote := .ok {}
  closing : Closing := {}

/-- How a turn ends. -/
inductive AutoTurn where
  | goesOn (p : Progress) (held : Option HeldPosition)
  | breaks (p : Progress) (held : Option HeldPosition)
  | stops (p : Progress) (reasons : List String)
  | raises (p : Progress) (error : String)

namespace AutoRun

variable (exchange : Exchange) (run : AutoRun)

def afterSleep (tick : AutoTick) (p : Progress) (held : Option HeldPosition) : AutoTurn :=
  if tick.stopRequestedAfter then .stops p ["CONTROLLED_AUTO_STOP_REQUESTED"]
  else .goesOn p held

def buyRequest (p : Progress) (decision : EntryDecision) : OrderRequest where
  runType := .autoLive
  runId := run.runId
  market := decision.market
  side := .buy
  price := decision.entryPrice
  volume := roundVolume (run.notional / decision.entryPrice)
  amountKrw := run.notional
  orderIndex := p.report.orderCount + 1
  strategyName := decision.strategy
  signalReason := decision.reason

def sellRequest (p : Progress) (held : HeldPosition) (price : ℚ) (reason : String) :
    OrderRequest where
  runType := .autoLive
  runId := run.runId
  market := held.market
  side := .sell
  price := price
  volume := roundVolume held.quantity
  amountKrw := price * roundVolume held.quantity
  orderIndex := p.report.orderCount + 1
  strategyName := held.strategy
  signalReason := reason

def entryTurn (tick : AutoTick) (p : Progress) : AutoTurn :=
  match tick.entry with
  | .error error => .raises p error
  | .ok none => .goesOn p none
  | .ok (some decision) =>
    if decision.entryPrice = 0 then .raises p "ZeroDivisionError:float division by zero"
    else
      match p.submit exchange (run.buyRequest p decision) with
      | (p, .error error) => .raises p error
      | (p, .ok buy) =>
        if !buy.filled then .stops p ["BUY_NOT_FILLED"]
        else
          afterSleep tick p (some
            { market := decision.market
              strategy := decision.strategy
              quantity := toFloat buy.executedVolume
              buyValue := toFloat buy.filledAmountKrw
              buyFee := toFloat buy.paidFee
              buyPrice := decision.entryPrice })

def exitTurn (tick : AutoTick) (p : Progress) (held : HeldPosition) : AutoTurn :=
  match tick.exit with
  | .error error => .raises p error
  | .ok decision =>
    if decision.sells || tick.nearDeadline then
      match p.sell exchange held (run.sellRequest p held decision.exitPrice decision.reason)
        (fun _ => decision.exitPrice) with
      | (p, .error error) => .raises p error
      | (p, .ok sell) => if !sell.filled then .stops p ["SELL_NOT_FILLED"] else .breaks p none
    else afterSleep tick p (some held)

def turn (tick : AutoTick) (p : Progress) (held : Option HeldPosition) : AutoTurn :=
  if tick.stopRequested then .stops p ["CONTROLLED_AUTO_STOP_REQUESTED"]
  else
    match tick.openBlocker with
    | .error error => .raises p error
    | .ok (some blocker) => .stops p [blocker]
    | .ok none =>
      if controlledMaxOrders RunType.autoLive.text ≤ p.report.orderCount then .breaks p held
      else
        match held with
        | none => entryTurn exchange run tick p
        | some position => exitTurn exchange run tick p position

def turns : List AutoTick → Progress → Option HeldPosition → AutoTurn
  | [], p, held => .goesOn p held
  | tick :: ticks, p, held =>
    match turn exchange run tick p held with
    | .goesOn p held => turns ticks p held
    | ending => ending

/-- After the loop, what is still held is sold. -/
def flatten (p : Progress) : Option HeldPosition → RunOutcome
  | none => p.finalizeAfterOrders .autoLive .passed [] run.closing
  | some held =>
    if p.report.orderCount < controlledMaxOrders RunType.autoLive.text then
      match run.quote with
      | .error error => p.fail .autoLive error
      | .ok quote =>
        match p.sell exchange held
          (run.sellRequest p held quote.bestBid "CONTROLLED_RUNTIME_END_FLATTEN")
          (fun _ => quote.bestBid) with
        | (p, .error error) => p.fail .autoLive error
        | (p, .ok sell) =>
          if sell.filled then p.finalizeAfterOrders .autoLive .passed [] run.closing
          else
            p.finalizeAfterOrders .autoLive .stopped ["RUNTIME_END_SELL_NOT_FILLED"]
              run.closing
    else p.finalizeAfterOrders .autoLive .passed [] run.closing

end AutoRun

def runControlledAutoLive (exchange : Exchange) (run : AutoRun) : RunOutcome :=
  let p : Progress := {}
  match run.start with
  | .aborts reasons => p.finalize .aborted reasons
  | .raises error => p.fail .autoLive error
  | .enters =>
    match AutoRun.turns exchange run run.ticks p none with
    | .goesOn p held | .breaks p held => AutoRun.flatten exchange run p held
    | .stops p reasons => p.finalizeAfterOrders .autoLive .stopped reasons run.closing
    | .raises p error => p.fail .autoLive error

/-! ## `run_controlled_trade_probe` -/

/-- A run. -/
structure TradeProbe where
  runId : String
  symbol : String
  notional : ℚ
  minOrderKrw : ℚ := 0
  start : RunStart := .enters
  openBlocker : Except String (Option String) := .ok none
  stopRequested : Bool := false
  quote : Except String Quote
  stopRequestedAfterBuy : Bool := false
  sellQuote : Except String Quote
  closing : Closing := {}

namespace TradeProbe

variable (exchange : Exchange) (run : TradeProbe)

def request (side : OrderSide) (price volume amountKrw : ℚ) (orderIndex : ℕ)
    (signalReason : String) : OrderRequest where
  runType := .tradeProbe
  runId := run.runId
  market := "KRW-" ++ run.symbol
  side := side
  price := price
  volume := volume
  amountKrw := amountKrw
  orderIndex := orderIndex
  strategyName := "controlled_trade_probe"
  signalReason := signalReason

def volume (quote : Quote) : ℚ := buyVolume run.notional quote.bestAsk

def blockers (quote : Quote) : List String :=
  (if quote.bestAsk ≤ 0 ∨ quote.bestBid ≤ 0 ∨ run.volume quote ≤ 0 then ["ORDERBOOK_UNAVAILABLE"]
    else [])
    ++ (if run.notional < run.minOrderKrw then ["ORDER_BELOW_MINIMUM"] else [])

def sellAfter (quote : Quote) (p : Progress) (buy : OrderResult) : RunOutcome :=
  if run.stopRequestedAfterBuy then
    p.finalizeAfterOrders .tradeProbe .stopped ["CONTROLLED_TRADE_PROBE_STOP_REQUESTED_AFTER_BUY"]
      run.closing
  else
    match run.sellQuote with
    | .error error => p.fail .tradeProbe error
    | .ok sellQuote =>
      let sellPrice := orNum sellQuote.bestBid quote.bestBid
      let sellVolume := roundVolume (toFloat buy.executedVolume)
      let position : HeldPosition :=
        { market := "KRW-" ++ run.symbol
          strategy := "controlled_trade_probe"
          quantity := sellVolume
          buyValue := toFloat buy.filledAmountKrw
          buyFee := toFloat buy.paidFee
          buyPrice := quote.bestAsk }
      match p.sell exchange position
        (run.request .sell sellPrice sellVolume (sellPrice * sellVolume) 2
          "CONTROLLED_TRADE_PROBE_FLATTEN") (fun _ => sellPrice) with
      | (p, .error error) => p.fail .tradeProbe error
      | (p, .ok sell) =>
        if !sell.filled then
          p.finalizeAfterOrders .tradeProbe .stopped ["SELL_NOT_FILLED"] run.closing
        else p.finalizeAfterOrders .tradeProbe .passedTradeProbe [] run.closing

def buy (quote : Quote) (p : Progress) : RunOutcome :=
  match p.submit exchange
    (run.request .buy quote.bestAsk (run.volume quote) run.notional 1
      "CONTROLLED_TRADE_PROBE_BUY") with
  | (p, .error error) => p.fail .tradeProbe error
  | (p, .ok buy) =>
    if !buy.filled then p.finalizeAfterOrders .tradeProbe .stopped ["BUY_NOT_FILLED"] run.closing
    else sellAfter exchange run quote p buy

end TradeProbe

def runControlledTradeProbe (exchange : Exchange) (run : TradeProbe) : RunOutcome :=
  let p : Progress := {}
  match run.start with
  | .aborts reasons => p.finalize .aborted reasons
  | .raises error => p.fail .tradeProbe error
  | .enters =>
    match run.openBlocker with
    | .error error => p.fail .tradeProbe error
    | .ok (some blocker) => p.finalizeAfterOrders .tradeProbe .aborted [blocker] run.closing
    | .ok none =>
      if run.stopRequested then
        p.finalizeAfterOrders .tradeProbe .stopped ["CONTROLLED_TRADE_PROBE_STOP_REQUESTED"]
          run.closing
      else
        match run.quote with
        | .error error => p.fail .tradeProbe error
        | .ok quote =>
          if run.blockers quote ≠ [] then
            p.finalizeAfterOrders .tradeProbe .aborted (run.blockers quote) run.closing
          else run.buy exchange quote p

/-! ## `run_controlled_entry_v3_position_run` -/

/-- `selected_candidate` of a scan; it has no entry price, so that the quote's counts. -/
structure SelectedCandidate where
  symbol : String
  tradeCandidateReason : String := ""
  estimatedTotalCostRate : ℚ := 0
  quote : Except String Quote

/-- What one turn of the scan reads. -/
structure ScanTick where
  stopRequested : Bool := false
  openBlocker : Except String (Option String) := .ok none
  selected : Except String (Option SelectedCandidate) := .ok none

/-- What one turn reads while the position is held. -/
structure HoldTick where
  stopRequested : Bool := false
  quote : Except String Quote
  -- it is held for `POSITION_RUN_MIN_HOLD_SECONDS`
  minHeld : Bool := false

/-- A run. -/
structure PositionRunReadings where
  start : RunStart := .enters
  scans : List ScanTick := []
  holds : List HoldTick := []
  sellQuote : Except String Quote := .ok {}
  closing : Closing := {}

/-- `symbols` of a position run, and of a position loop. -/
def positionSymbols (symbols : List String) : List String :=
  (symbols.map String.toUpper).filter (fun symbol => ["BTC", "ETH"].contains symbol)

/-- Its arguments. -/
structure PositionRunArgs where
  runId : String
  symbols : List String
  notional : ℚ

def positionRunMinNetProfitMarginRate : ℚ := 1 / 1000

def positionRunStopLossRate : ℚ := 3 / 1000

/-- The hold loop: `exit_reason`. -/
def exitReason (entryPrice takeProfitRate : ℚ) : List HoldTick → Except String String
  | [] => .ok "TIME_STOP"
  | tick :: ticks =>
    if tick.stopRequested then .ok "MANUAL_STOP"
    else
      match tick.quote with
      | .error error => .error error
      | .ok quote =>
        if quote.bestBid ≤ 0 then exitReason entryPrice takeProfitRate ticks
        else
          let moveRate :=
            if 0 < entryPrice then (quote.bestBid - entryPrice) / entryPrice else 0
          if tick.minHeld ∧ takeProfitRate ≤ moveRate then .ok "TAKE_PROFIT"
          else if tick.minHeld ∧ moveRate ≤ -positionRunStopLossRate then .ok "STOP_LOSS"
          else exitReason entryPrice takeProfitRate ticks

namespace PositionRunReadings

variable (exchange : Exchange) (args : PositionRunArgs) (run : PositionRunReadings)

def request (symbol : String) (side : OrderSide) (price volume amountKrw : ℚ) (orderIndex : ℕ)
    (signalReason : String) : OrderRequest where
  runType := .positionRun
  runId := args.runId
  market := "KRW-" ++ symbol
  side := side
  price := price
  volume := volume
  amountKrw := amountKrw
  orderIndex := orderIndex
  strategyName := "controlled_entry_v3"
  signalReason := signalReason

def sellAfter (selected : SelectedCandidate) (buyPrice : ℚ) (p : Progress) (buy : OrderResult) :
    RunOutcome :=
  let executedVolume := roundVolume (toFloat buy.executedVolume)
  let entryValue := toFloat buy.filledAmountKrw
  let entryPrice :=
    if 0 < executedVolume ∧ 0 < entryValue then entryValue / executedVolume else buyPrice
  match exitReason entryPrice
    (selected.estimatedTotalCostRate + positionRunMinNetProfitMarginRate) run.holds with
  | .error error => p.fail .positionRun error
  | .ok reason =>
    match run.sellQuote with
    | .error error => p.fail .positionRun error
    | .ok sellQuote =>
      if sellQuote.bestBid ≤ 0 then
        p.finalizeAfterOrders .positionRun .failed
          ["CONTROLLED_ENTRY_V3_POSITION_EXIT_PRICE_INVALID"] run.closing
      else
        let position : HeldPosition :=
          { market := "KRW-" ++ selected.symbol
            strategy := "controlled_entry_v3"
            quantity := executedVolume
            buyValue := entryValue
            buyFee := toFloat buy.paidFee
            buyPrice := entryPrice }
        match p.sell exchange position
          (request args selected.symbol .sell sellQuote.bestBid executedVolume
            (sellQuote.bestBid * executedVolume) 2 ("CONTROLLED_ENTRY_V3_POSITION_" ++ reason))
          (fun sell =>
            if 0 < executedVolume ∧ 0 < toFloat sell.filledAmountKrw then
              toFloat sell.filledAmountKrw / executedVolume
            else sellQuote.bestBid) with
        | (p, .error error) => p.fail .positionRun error
        | (p, .ok sell) =>
          if !sell.filled then
            p.finalizeAfterOrders .positionRun .stopped
              (orderResultStopReason sell "SELL_NOT_FILLED") run.closing
          else p.finalizeAfterOrders .positionRun .passed [] run.closing

def buy (selected : SelectedCandidate) (p : Progress) : RunOutcome :=
  let p := { p with report := { p.report with selectedSymbol := selected.symbol } }
  match selected.quote with
  | .error error => p.fail .positionRun error
  | .ok quote =>
    let volume := buyVolume args.notional quote.bestAsk
    if volume ≤ 0 then
      p.finalizeAfterOrders .positionRun .failed ["CONTROLLED_ENTRY_V3_POSITION_VOLUME_INVALID"]
        run.closing
    else
      match p.submit exchange
        (request args selected.symbol .buy quote.bestAsk volume args.notional 1
          (orText selected.tradeCandidateReason "CONTROLLED_ENTRY_V3_POSITION_BUY")) with
      | (p, .error error) => p.fail .positionRun error
      | (p, .ok buy) =>
        if !buy.filled then
          p.finalizeAfterOrders .positionRun .stopped
            (orderResultStopReason buy "BUY_NOT_FILLED") run.closing
        else sellAfter exchange args run selected quote.bestAsk p buy

/-- The scans, up to the deadline. A scan decides on the run's symbols only. -/
def scan : List ScanTick → Progress → RunOutcome
  | [], p => p.finalizeAfterOrders .positionRun .passed [] run.closing
  | tick :: ticks, p =>
    if tick.stopRequested then
      p.finalizeAfterOrders .positionRun .stopped [positionStopRequested] run.closing
    else
      match tick.openBlocker with
      | .error error => p.fail .positionRun error
      | .ok (some blocker) => p.finalizeAfterOrders .positionRun .stopped [blocker] run.closing
      | .ok none =>
        match tick.selected.map
            (Option.filter (fun c => (positionSymbols args.symbols).contains c.symbol)) with
        | .error error => p.fail .positionRun error
        | .ok none => scan ticks p
        | .ok (some selected) => buy exchange args run selected p

end PositionRunReadings

def runControlledEntryV3PositionRun (exchange : Exchange) (args : PositionRunArgs)
    (run : PositionRunReadings) : RunOutcome :=
  let p : Progress := {}
  match run.start with
  | .aborts reasons => p.finalize .aborted reasons
  | .raises error => p.fail .positionRun error
  | .enters => PositionRunReadings.scan exchange args run run.scans p

end AutoCoinBot
