/-
  LiveExit.Sellers — the three that sell, over one database and one exchange.

  `create_exit_order_preview` writes the preview that `submit_exit_order` places;
  `_submit_smart_intent_sell_order` writes and places its own. Each is cut at its awaits: what
  stands between two of them runs at once, on the database as it is then.

  The exchange opens and closes an order when it likes, before it answers or after.
-/
import AutoCoinBot.LiveExit.EvaluateExit
import AutoCoinBot.LiveStrategyPilot.SmartIntentSell

namespace AutoCoinBot

open Library

/-! ## What there is -/

/-- Where the exchange has a sell order. -/
inductive SellPhase where
  | sent
  | opened
  | closed
  deriving DecidableEq

/-- One call of `broker.place_order` with a sell order. -/
structure Sell where
  requestId : String
  market : String
  -- the positions it covers
  positions : List ℕ
  phase : SellPhase := .sent
  -- the call has returned, or raised
  answered : Bool := false

def Sell.Shares (s t : Sell) : Prop := ∃ p ∈ s.positions, p ∈ t.positions

instance (s t : Sell) : Decidable (s.Shares t) :=
  inferInstanceAs (Decidable (∃ p ∈ s.positions, p ∈ t.positions))

/-- The database, and the sells that were sent. -/
structure SellWorld where
  db : Database
  -- the columns of `exit_candidates` that nobody writes
  exitTerms : ℕ → ExitTerms := fun _ => {}
  -- the previews with `is_auto_exit`
  autoExits : List String := []
  sells : List Sell := []

/-- What the exchange does to an order. -/
inductive SellMove where
  | opens (sell : ℕ)
  | closes (sell : ℕ)

/-- An order that was sent opens; it closes filled, canceled or rejected. -/
def SellWorld.move (w : SellWorld) : SellMove → SellWorld
  | .opens i =>
    { w with sells := w.sells.modify i (fun s =>
        if s.phase = .sent then { s with phase := .opened } else s) }
  | .closes i => { w with sells := w.sells.modify i (fun s => { s with phase := .closed }) }

def SellWorld.answer (w : SellWorld) (sell : ℕ) : SellWorld :=
  { w with sells := w.sells.modify sell (fun s => { s with answered := true }) }

def SellWorld.loadExitCandidate (w : SellWorld) (candidateId : ℕ) : Option LoadedExitCandidate :=
  (w.db.exitCandidates.get? candidateId).map (fun row => ⟨row, w.exitTerms candidateId⟩)

/-- `f"exit-{uuid.uuid4().hex[:24]}"`. -/
def exitRequestId (hex : HexText) : String := String.ofList ("exit-".toList ++ hex.chars)

/-- **An exit order's own row is canonical.** -/
theorem exitRequestId_canonical (hex : HexText) :
    liveOrderEventRequestIdFilter (exitRequestId hex) = false :=
  @wordedId_canonical "exit".toList (by decide +kernel) (by decide +kernel) hex

/-! ## Calls, and where they wait -/

/-- A call of one of the three. -/
inductive SellOperation where
  | preview (candidateId : ℕ) (manualConfirmed isAutoExit : Bool) (requestHex : HexText)
  | submit (requestId finalConfirmation : String)
  | smart (call : SmartSellCall)

/-- One `evaluate_exit_order`, and the preview that waits for it, if it is to be submitted. -/
structure ExitJob where
  settings : ExitSettings
  query : ExitQuery
  preview : Option LiveOrderLog

/-- Where a call waits. -/
inductive SellTask where
  | ready (operation : SellOperation)
  -- `reconcile_balances`
  | reconciling (job : ExitJob)
  -- `get_balances`, `get_order_chance`
  | asking (job : ExitJob)
  -- `build_capital_snapshot_async`
  | snapshotting (job : ExitJob) (balances : Balances) (positions : List LivePosition)
  -- `place_order`
  | placing (sell : ℕ) (job : ExitJob) (preview : LiveOrderLog)
  -- `get_order`
  | rechecking (job : ExitJob) (preview log : LiveOrderLog)
  -- `get_balances`, `get_order_chance`
  | quoting (call : SmartSellCall) (position : LivePosition)
  -- `place_order`
  | placingSmart (sell : ℕ) (call : SmartSellCall) (position : LivePosition)

/-- What a call is answered. -/
inductive SellAnswer where
  | scheduled (settings : ExitSettings)
  | reconciled (env : SyncEnv) (balances : Option Balances)
  | chance (balances : Except ApiError Balances) (exception : Option ApiError)
  | snapshot (snapshot : Except ApiError ExitSnapshot)
  | quoted (readings : SmartSellReadings)
  | placed (response : Placed)
  | order (raw : Except ApiError RawOrder)

/-- An answer, and what the risk manager knows by then. -/
structure SellReply where
  risk : RiskEnvironment := {}
  answer : SellAnswer

/-- How far a call has come. -/
inductive SellResult where
  | ends (world : SellWorld)
  | waits (world : SellWorld) (task : SellTask)
  | places (world : SellWorld) (sell : Sell) (task : ℕ → SellTask)

/-! ## What ends an evaluation -/

namespace ExitJob

variable (job : ExitJob) (w : SellWorld) (risk : RiskEnvironment)

/-- The candidate as it is, as far as it is there. -/
def draft : ExitDraft :=
  (job.query.candidate.map (fun candidate => candidate.terms.draft)).getD
    { volume := 0, expectedAmountKrw := 0, expectedFee := 0 }

/-- `_exit_log_payload`. -/
def previewRow (candidate : LoadedExitCandidate) (result : ExitEvaluation) : LiveOrderLog :=
  { id := 0
    requestId := job.query.requestId
    sessionId := some candidate.terms.sessionId
    candidateStrategyId := some candidate.terms.candidateStrategyId
    exchange := candidate.terms.exchange
    market := candidate.terms.market
    side := .sell
    price := some result.price
    volume := some result.volume
    amountKrw := some result.amountKrw
    riskResult := result.riskResult
    orderPreviewPayload :=
      { aggregateExitPositionIds := result.aggregateExitPositionIds.map some }
    status := if result.allowed then .previewed else .blocked
    errorMessage := if result.allowed then none else some result.blockedReason
    positionId := some candidate.row.positionId
    exitCandidateId := some candidate.row.id
    orderPurpose := .exit
    candleTimeUtc := candidate.terms.candleTimeUtc }

/-- The end of `create_exit_order_preview`. -/
def previewed (candidate : LoadedExitCandidate) (result : ExitEvaluation) : SellWorld :=
  match insertOrderRow w.db (job.previewRow candidate result) risk.now with
  -- `insert_live_order_log` raised
  | none => w
  | some db =>
    { w with
      db := updateExitCandidate db candidate.row.id
        (if result.allowed then .approved else .blocked) result.riskResult
      autoExits :=
        if job.query.isAutoExit then w.autoExits ++ [job.query.requestId] else w.autoExits }

/-- `if candidate: update_exit_candidate(…)`. -/
def markCandidate (db : Database) (status : ExitCandidateStatus) (riskResult : String) : Database :=
  match job.query.candidate with
  | none => db
  | some candidate => updateExitCandidate db candidate.row.id status riskResult

def blocked (db : Database) (preview : LiveOrderLog) (result : ExitEvaluation) : Database :=
  job.markCandidate
    (updateLiveOrderLog db preview.requestId
      { status := some .blocked
        riskResult := some result.riskResult
        errorMessage := some (some result.blockedReason) } risk.now)
    .blocked result.riskResult

/-- The order of a preview: it covers the preview's position, and those listed in it. -/
def sellOf (preview : LiveOrderLog) : Sell where
  requestId := preview.requestId
  market := preview.market
  positions := (truthyId preview.positionId).toList
    ++ preview.orderPreviewPayload.aggregateExitPositionIds.filterMap id

def finish (f : ExitFindings) : SellResult :=
  let result := finishExitEvaluation risk w.db job.query f
  match job.preview with
  | none =>
    match job.query.candidate with
    | none => .ends w
    | some candidate => .ends (job.previewed w risk candidate result)
  | some preview =>
    if result.allowed then .places w (sellOf preview) (fun i => .placing i job preview)
    else .ends { w with db := job.blocked risk w.db preview result }

/-- `evaluate_exit_order`, up to its first await. -/
def start : SellResult :=
  match exitBlock job.settings risk.emergencyStopped w.db job.query with
  | some block => job.finish w risk { draft := job.draft, block := some block }
  | none => .waits w (.reconciling job)

def reconciled (env : SyncEnv) (balances : Option Balances) : SellResult :=
  match job.query.candidate with
  | none => .ends w
  | some candidate =>
    let (db, block) :=
      reconcileBalances env w.db candidate.terms.exchange candidate.terms.market balances
    let w := { w with db := db }
    if block.isSome then
      job.finish w risk
        { draft := job.draft
          block := some "BLOCKED_BALANCE_MISMATCH"
          balanceMismatch := some true }
    else .waits w (.asking job)

/-- An exception while the exchange is asked. -/
def chanceFailed (balances : Option Balances) (exc : ApiError) : SellResult :=
  job.finish w risk
    { draft := job.draft
      block := some "BLOCKED_ORDER_CHANCE_FAILED"
      exception := exc.message
      balances := balances
      balanceMismatch := some false }

/-- Once `get_balances` and `get_order_chance` have answered. -/
def asked (balances : Except ApiError Balances) (exception : Option ApiError) : SellResult :=
  match balances, exception with
  | .error exc, _ => job.chanceFailed w risk none exc
  | .ok balances, some exc => job.chanceFailed w risk (some balances) exc
  | .ok balances, none =>
    .waits w (.snapshotting job balances
      ((job.query.candidate.map (fun candidate =>
        loadOpenLivePositionsForExchange w.db candidate.terms.exchange)).getD []))

def snapshotted (balances : Balances) (positions : List LivePosition)
    (snapshot : Except ApiError ExitSnapshot) : SellResult :=
  match snapshot, job.query.candidate, job.query.position with
  | .error exc, _, _ => job.chanceFailed w risk (some balances) exc
  | .ok snapshot, some candidate, some position =>
    let (draft, block) := draftWithin job.settings w.db candidate.terms position
      { snapshot with positions := positions }
    job.finish w risk
      { draft := draft
        block := block
        balances := some balances
        balanceMismatch := some false }
  | .ok _, _, _ => .ends w

/-! ## `submit_exit_order`, once the order is placed -/

def failed (db : Database) (preview : LiveOrderLog) (exc : ApiError) : Database :=
  if isTimeoutException exc then
    job.markCandidate
      (updateLiveOrderLog db preview.requestId (unknownUpdates
        "Exit order request timed out; status reconciliation is required before retry.") risk.now)
      .submitted "ORDER_STATUS_UNKNOWN_TIMEOUT"
  else
    let db := updateLiveOrderLog db preview.requestId
      (failedUpdates "BLOCKED_API_RESPONSE_ERROR" exc) risk.now
    match job.query.position with
    | none => db
    | some position => updateLivePosition db position.id { status := some .error } risk.now

/-- The positions of a submitted order, up to one whose id is no number. -/
def closePositions (db : Database) (preview : LiveOrderLog) (position : LivePosition)
    (orderUuid : String) : Database :=
  let closing : LivePositionUpdates :=
    { status := some .closing, exitOrderUuid := some (some orderUuid) }
  let ids := preview.orderPreviewPayload.aggregateExitPositionIds.takeWhile Option.isSome
  ((ids.filterMap id).filter (fun id => id ≠ position.id)).foldl
    (fun db positionId => updateLivePosition db positionId closing risk.now)
    (updateLivePosition db position.id closing risk.now)

def submittedDb (db : Database) (preview : LiveOrderLog) (response : RawOrder) : Database :=
  job.markCandidate
    (updateLiveOrderLog db preview.requestId
      { submittedUpdates response with errorMessage := some none } risk.now)
    .submitted "ALLOWED"

/-- `if order_uuid: await reconcile_exit_order(request_id)`. -/
def awaitRecheck (preview : LiveOrderLog) (response : RawOrder) : SellResult :=
  if response.orderUuid = "" then .ends w
  else
    match submittedExitOrder w.db preview.requestId with
    | none => .ends w
    | some log => .waits w (.rechecking job preview log)

def submitted (preview : LiveOrderLog) (response : RawOrder) : SellResult :=
  let db := job.submittedDb risk w.db preview response
  match job.query.position with
  | none => job.awaitRecheck { w with db := db } preview response
  | some position =>
    let db := closePositions risk db preview position response.orderUuid
    if preview.orderPreviewPayload.aggregateExitPositionIds.all Option.isSome then
      let db := updateLiveStrategySession db position.sessionId
        { lastOrderStatus := some "SUBMITTED", lastRiskResult := some "EXIT_SUBMITTED" }
      job.awaitRecheck { w with db := db } preview response
    else
      -- `int(aggregate_position_id)`
      let db := job.failed risk db preview { message := "invalid literal for int()" }
      .ends { w with db := db }

end ExitJob

/-- `reconcile_exit_order`, once `get_order` has answered for the row it has read. -/
def recheckedExitOrder (db : Database) (log : LiveOrderLog) (raw : RawOrder) (now : UtcTime) :
    Database :=
  let status := normalizeExchangeOrder raw
  let actualPnl := notedExitPnl db log status
  let db := updateLiveOrderLog db log.requestId (exitReconcileUpdates log status actualPnl) now
  syncExitOrderPosition (markExitCandidate db log status)
    { log with actualPnl := some actualPnl } status now

theorem recheckedExitOrder_eq {db : Database} {requestId : String} {log : LiveOrderLog}
    (h : submittedExitOrder db requestId = some log) (raw : RawOrder) (now : UtcTime) :
    reconcileExitOrder db requestId (some raw) now = recheckedExitOrder db log raw now := by
  obtain ⟨hlog, -⟩ := Option.filter_eq_some_iff.mp h
  have hrequest : log.requestId = requestId := getLiveOrderLog_requestId db requestId hlog
  rw [reconcileExitOrder_eq raw now h, ← hrequest]
  rfl

/-! ## `_submit_smart_intent_sell_order` -/

namespace SmartSellCall

variable (c : SmartSellCall) (w : SellWorld) (risk : RiskEnvironment)

def quoted (position : LivePosition) (readings : SmartSellReadings) : SellResult :=
  match c.quote { readings with risk := risk } w.db position with
  | none => .ends w
  | some row =>
    match insertOrderRow w.db row risk.now with
    | none => .ends w
    | some db =>
      .places { w with db := db }
        { requestId := row.requestId, market := row.market, positions := [position.id] }
        (fun i => .placingSmart i c position)

def placed (db : Database) (position : LivePosition) (response : Placed) : Database :=
  match response with
  | .ok response =>
    let db := updateLiveOrderLog db c.tick.requestId (submittedUpdates response) risk.now
    let db := updateLivePosition db position.id
      { status := some .closing, exitOrderUuid := some (some response.orderUuid) } risk.now
    updateLiveStrategySession db c.session.id
      { lastOrderStatus := some "SUBMITTED", lastRiskResult := some "SMART_SELL_SUBMITTED" }
  | .error exc =>
    let db := updateLiveOrderLog db c.tick.requestId
      (failedUpdates "SMART_SUBMIT_FAILED" exc) risk.now
    updateLiveStrategySession db c.session.id
      { lastRiskResult := some "SMART_SUBMIT_FAILED", lastOrderStatus := some "FAILED" }

end SmartSellCall

/-! ## The system -/

def SellOperation.start (w : SellWorld) (risk : RiskEnvironment) (settings : ExitSettings) :
    SellOperation → SellResult
  | .preview candidateId manualConfirmed isAutoExit requestHex =>
    match w.loadExitCandidate candidateId with
    | none => .ends w
    | some candidate =>
      ExitJob.start
        { settings := settings
          query :=
            { candidate := some candidate
              position := (loadLivePosition w.db candidate.row.positionId).filter
                (fun p => p.status.maySell)
              manualConfirmed := manualConfirmed
              isAutoExit := isAutoExit
              requestId := exitRequestId requestHex }
          preview := none } w risk
  | .submit requestId finalConfirmation =>
    if finalConfirmation ≠ "SUBMIT LIMIT EXIT ORDER" then .ends w
    else
      match getLiveOrderLog w.db requestId with
      | none => .ends w
      | some log =>
        if log.status ≠ .previewed ∨ log.riskResult ≠ "ALLOWED" then .ends w
        else
          match log.exitCandidateId with
          -- `int(preview["exit_candidate_id"])`
          | none => .ends w
          | some candidateId =>
            ExitJob.start
              { settings := settings
                query :=
                  { candidate := w.loadExitCandidate candidateId
                    position := ((truthyId log.positionId).bind
                      (loadLivePosition w.db)).filter (fun p => p.status.maySell)
                    manualConfirmed := true
                    isAutoExit := w.autoExits.contains requestId
                    requestId := requestId }
                preview := some log } w risk
  | .smart call =>
    match call.position w.db with
    | none => .ends w
    | some position => .waits w (.quoting call position)

/-- A call, from one await to the next; an answer to something else is not listened to. -/
def SellTask.run (w : SellWorld) (reply : SellReply) (task : SellTask) : SellResult :=
  match task, reply.answer with
  | .ready operation, .scheduled settings => operation.start w reply.risk settings
  | .reconciling job, .reconciled env balances => job.reconciled w reply.risk env balances
  | .asking job, .chance balances exception => job.asked w reply.risk balances exception
  | .snapshotting job balances positions, .snapshot snapshot =>
    job.snapshotted w reply.risk balances positions snapshot
  | .placing sell job preview, .placed (.ok response) =>
    job.submitted (w.answer sell) reply.risk preview response
  | .placing sell job preview, .placed (.error exc) =>
    .ends { w.answer sell with db := job.failed reply.risk w.db preview exc }
  | .rechecking _ _ log, .order (.ok raw) =>
    .ends { w with db := recheckedExitOrder w.db log raw reply.risk.now }
  | .rechecking job preview _, .order (.error exc) =>
    .ends { w with db := job.failed reply.risk w.db preview exc }
  | .quoting call position, .quoted readings => call.quoted w reply.risk position readings
  | .placingSmart sell call position, .placed response =>
    .ends { w.answer sell with db := call.placed reply.risk w.db position response }
  | task, _ => .waits w task

def SellResult.outcome : SellResult → SellWorld × Option SellTask
  | .ends w => (w, none)
  | .waits w task => (w, some task)
  | .places w sell task => ({ w with sells := w.sells ++ [sell] }, some (task w.sells.length))

def SellResult.placed : SellResult → Option Sell
  | .places _ sell _ => some sell
  | _ => none

def sellers : Awaiting SellWorld SellTask SellMove SellOperation SellReply where
  move := SellWorld.move
  begin := fun _ operation => some (.ready operation)
  resume := fun task reply w => (task.run w reply).outcome

/-! ## One sell at a time -/

/-- No order that is open sells what is placed. -/
def SoleSell : Waiting SellWorld SellTask → Happening SellMove SellOperation SellReply → Prop :=
  Awaiting.Replies (fun w task reply => ∀ sell, (task.run w reply).placed = some sell →
    ∀ other ∈ w.sells, other.phase = .opened → ¬ sell.Shares other)

instance (s : Waiting SellWorld SellTask) (e : Happening SellMove SellOperation SellReply) :
    Decidable (SoleSell s e) :=
  have (w : SellWorld) (task : SellTask) (reply : SellReply) :
      Decidable (∀ sell, (task.run w reply).placed = some sell →
        ∀ other ∈ w.sells, other.phase = .opened → ¬ sell.Shares other) :=
    inferInstanceAs (Decidable (∀ sell ∈ (task.run w reply).placed,
      ∀ other ∈ w.sells, other.phase = .opened → ¬ sell.Shares other))
  inferInstanceAs (Decidable (Awaiting.Replies _ s e))

end AutoCoinBot
