/-
  LiveExit.CandidateCalls — the calls of app/live_exit.py on exit candidates, and
  the candidate each of them writes.

  A preview and a submission are the calls of `Sellers`, each run to its end on the answers it
  gets.
-/
import AutoCoinBot.LiveExit.Sellers
import AutoCoinBot.LiveRecovery.KeptOrders

namespace AutoCoinBot

open Library

/-! ## Creating, approving, rejecting -/

/-- `status` as the text it is; a reconciled order may leave its own. -/
def ExitCandidateStatus.text : ExitCandidateStatus → String
  | .pending => "PENDING"
  | .approved => "APPROVED"
  | .blocked => "BLOCKED"
  | .submitted => "SUBMITTED"
  | .canceled => "CANCELED"
  | .completed => "COMPLETED"
  | .order status => status.text

/-- The settings of a new exit candidate. -/
structure CandidateSettings where
  exitPriceOffsetPercent : ℚ := 2 / 10
  feeRate : ℚ := 5 / 10000
  autoTrailingStopPercent : ℚ := 7 / 10

/-- The arguments of `create_exit_candidate_for_position`. -/
structure CandidateRequest where
  position : LivePosition
  reason : String
  currentPrice : ℚ
  candleTimeUtc : Option UtcTime := none
  settings : CandidateSettings := {}

/-- `update_live_position_metrics`; `position` is the row as the caller has it. -/
def updateLivePositionMetrics (db : Database) (position : LivePosition) (currentPrice : ℚ)
    (status : Option PositionStatus) (autoTrailingStopPercent : ℚ) (now : UtcTime) : Database :=
  let highest := max (max (toFloat position.highestPriceSinceEntry) position.entryPrice)
    currentPrice
  let trailingStopPct := orNum (toFloat position.trailingStopPct) autoTrailingStopPercent
  let positions := db.livePositions.modify position.id
    (fun row => { row with
      currentPrice := currentPrice
      unrealizedPnl := (currentPrice - position.entryPrice) * position.entryVolume
      highestPriceSinceEntry := some highest
      trailingStopPrice := some
        (if 0 < highest ∧ 0 < trailingStopPct then highest * (1 - trailingStopPct / 100) else 0)
      trailingStopPct := some trailingStopPct
      lastTrailingUpdateAt := some now
      status := status.getD row.status
      updatedAt := now }) (fun _ => rfl)
  { db with livePositions := positions }

def loadActiveExitCandidate (db : Database) (positionId : ℕ) : Option ExitCandidate :=
  (db.exitCandidates.select (fun c => c.positionId == positionId
    && ["PENDING", "APPROVED", "SUBMITTED"].contains c.status.text)).getLast?

/-- The columns of a new candidate that no update writes. -/
def CandidateRequest.terms (request : CandidateRequest) : ExitTerms :=
  let position := request.position
  let targetPrice := SmartCall.roundKrwPrice
    (request.currentPrice * (1 - request.settings.exitPriceOffsetPercent / 100))
  let expectedAmount := targetPrice * position.entryVolume
  let expectedFee := expectedAmount * request.settings.feeRate
  { exchange := position.exchange
    market := position.market
    sessionId := position.sessionId
    candidateStrategyId := position.candidateStrategyId
    targetExitPrice := targetPrice
    volume := position.entryVolume
    expectedAmountKrw := expectedAmount
    expectedFee := expectedFee
    expectedPnl := (targetPrice - position.entryPrice) * position.entryVolume - expectedFee
    candleTimeUtc := request.candleTimeUtc }

def createExitCandidate (w : SellWorld) (positionId : ℕ) (terms : ExitTerms) : SellWorld :=
  let row : ℕ → ExitCandidate := fun id =>
    { id := id, positionId := positionId, status := .pending, riskResult := "EXIT_CANDIDATE" }
  { w with
    db := { w.db with exitCandidates := w.db.exitCandidates.insert row (fun _ => rfl) }
    exitTerms := Function.update w.exitTerms w.db.exitCandidates.nextId terms }

def createExitCandidateForPosition (w : SellWorld) (request : CandidateRequest) (now : UtcTime) :
    SellWorld :=
  let position := request.position
  let trailing := request.settings.autoTrailingStopPercent
  if [PositionStatus.closed, .closing, .error, .manualReviewRequired].contains position.status then w
  else if (loadActiveExitCandidate w.db position.id).isSome then
    { w with
      db := updateLivePositionMetrics w.db position request.currentPrice none trailing now }
  else
    let w := createExitCandidate w position.id request.terms
    let db := updateLivePositionMetrics w.db position request.currentPrice (some .exitCandidate)
      trailing now
    { w with
      db := updateLiveStrategySession db position.sessionId
        { currentPositionId := some (some position.id)
          lastRiskResult := some (request.reason ++ "_EXIT_CANDIDATE") } }

def approveExitCandidate (w : SellWorld) (candidateId : ℕ) : SellWorld :=
  match w.loadExitCandidate candidateId with
  | none => w
  | some _ => { w with db := updateExitCandidate w.db candidateId .approved "MANUAL_APPROVED" }

def rejectExitCandidate (w : SellWorld) (candidateId : ℕ) (now : UtcTime) : SellWorld :=
  match w.loadExitCandidate candidateId with
  | none => w
  | some candidate =>
    let db := updateExitCandidate w.db candidateId .canceled "REJECTED_BY_USER"
    match loadOpenLivePosition db candidate.terms.sessionId candidate.terms.exchange
        candidate.terms.market with
    | none => { w with db := db }
    | some position =>
      if position.id = candidate.row.positionId then
        { w with db := updateLivePosition db position.id { status := some .opened } now }
      else { w with db := db }

/-! ## Calls -/

/-- A call that waits runs on while answers come; with none it never goes on. -/
def completeSell : SellWorld × Option SellTask → List SellReply → SellWorld
  | (w, none), _ => w
  | (w, some _), [] => w
  | (w, some task), reply :: replies => completeSell (task.run w reply).outcome replies

/-- A call on exit candidates, and what it is answered. -/
inductive ExitCall where
  | create (request : CandidateRequest)
  | approve (candidateId : ℕ)
  | reject (candidateId : ℕ)
  | preview (candidateId : ℕ) (manualConfirmed isAutoExit : Bool) (requestHex : HexText)
      (replies : List SellReply)
  | submit (requestId finalConfirmation : String) (replies : List SellReply)
  | reconcile (requestId : String) (getOrder : Option RawOrder)
  | cancel (requestId : String) (maxExitRetryCount : ℕ) (cancelOrder : Option RawOrder)

def ExitCall.apply (w : SellWorld) (now : UtcTime) : ExitCall → SellWorld
  | .create request => createExitCandidateForPosition w request now
  | .approve candidateId => approveExitCandidate w candidateId
  | .reject candidateId => rejectExitCandidate w candidateId now
  | .preview candidateId manualConfirmed isAutoExit requestHex replies =>
    completeSell
      (w, some (.ready (.preview candidateId manualConfirmed isAutoExit requestHex))) replies
  | .submit requestId finalConfirmation replies =>
    completeSell (w, some (.ready (.submit requestId finalConfirmation))) replies
  | .reconcile requestId getOrder =>
    { w with db := reconcileExitOrder w.db requestId getOrder now }
  | .cancel requestId maxExitRetryCount cancelOrder =>
    { w with db := cancelExitOrder w.db requestId maxExitRetryCount cancelOrder now }

def exitStep (w : SellWorld) (call : ExitCall × UtcTime) : SellWorld := call.1.apply w call.2

/-! ## Which candidate a call writes -/

def SellWorld.candidateStatus (w : SellWorld) (candidateId : ℕ) : Option ExitCandidateStatus :=
  (w.db.exitCandidates.get? candidateId).map ExitCandidate.status

def SellWorld.candidateOf (w : SellWorld) (requestId : String) : Option ℕ :=
  (getLiveOrderLog w.db requestId).bind LiveOrderLog.exitCandidateId

/-- The candidate a call is about; a new one is about none that is there. -/
def ExitCall.candidate (w : SellWorld) : ExitCall → Option ℕ
  | .create _ => none
  | .approve candidateId | .reject candidateId | .preview candidateId _ _ _ _ => some candidateId
  | .submit requestId _ _ | .reconcile requestId _ | .cancel requestId _ _ => w.candidateOf requestId

/-! ## Other candidates -/

def OthersKept (candidateId : Option ℕ) (db db' : Database) : Prop :=
  ∀ k candidate, candidateId ≠ some k → db.exitCandidates.get? k = some candidate →
    db'.exitCandidates.get? k = some candidate

section Others

variable {o : Option ℕ} {db mid db' : Database}

theorem OthersKept.of_eq (h : db'.exitCandidates = db.exitCandidates) : OthersKept o db db' := by
  intro k candidate _ hk
  rw [h]
  exact hk

theorem OthersKept.trans (h : OthersKept o db mid) (h' : OthersKept o mid db') :
    OthersKept o db db' :=
  fun k candidate hne hk => h' k candidate hne (h k candidate hne hk)

theorem othersKept_updateExitCandidate (db : Database) (candidateId : ℕ)
    (status : ExitCandidateStatus) (riskResult : String) :
    OthersKept (some candidateId) db (updateExitCandidate db candidateId status riskResult) := by
  intro k candidate hne hk
  have hother : k ≠ candidateId := fun h => hne (h ▸ rfl)
  exact (Table.get?_modify_ne db.exitCandidates
    (fun c => { c with status := status, riskResult := riskResult }) (fun _ => rfl) hother).trans hk

theorem reconcileBalances_exitCandidates (env : SyncEnv) (db : Database) (exchange market : String)
    (balances : Option Balances) :
    (reconcileBalances env db exchange market balances).1.exitCandidates = db.exitCandidates := by
  cases balances with
  | none => rfl
  | some read =>
    show (ensureFilledEntryOrderPositions env db exchange market).exitCandidates = _
    unfold ensureFilledEntryOrderPositions
    generalize loadFilledEntryOrderLogsWithoutPosition db exchange market = logs
    induction logs generalizing db with
    | nil => rfl
    | cons log logs ih =>
      rw [List.foldl_cons, ih]
      exact ensureFilledEntryOrderPosition_exitCandidates db env log _

theorem insertOrderRow_exitCandidates {log : LiveOrderLog} {now : UtcTime}
    (h : insertOrderRow db log now = some db') : db'.exitCandidates = db.exitCandidates := by
  unfold insertOrderRow at h
  split at h
  case isTrue =>
    obtain rfl := Option.some.inj h
    rfl
  case isFalse => cases h

end Others

/-! ## Calls that wait -/

/-- An evaluation for one candidate. -/
structure ExitJob.About (db : Database) (candidateId : Option ℕ) (job : ExitJob) : Prop where
  candidate : ∀ candidate, job.query.candidate = some candidate → candidateId = some candidate.row.id
  preview : ∀ preview, job.preview = some preview →
    termsOf db preview.requestId = some preview.terms ∧ preview.exitCandidateId = candidateId

def SellTask.About (db : Database) (candidateId : Option ℕ) : SellTask → Prop
  | .ready (.preview id _ _ _) => candidateId = some id
  | .ready (.submit requestId _) =>
    (getLiveOrderLog db requestId).bind LiveOrderLog.exitCandidateId = candidateId
  | .reconciling job | .asking job | .snapshotting job _ _ => job.About db candidateId
  | .placing _ job preview => job.About db candidateId ∧ job.preview = some preview
  | .rechecking job preview log =>
    job.About db candidateId ∧ job.preview = some preview ∧ log.exitCandidateId = candidateId
  | .ready (.smart _) | .quoting _ _ | .placingSmart _ _ _ => False

/-- What comes of it is for the same candidate, and leaves the others. -/
structure SellResult.About (db : Database) (candidateId : Option ℕ) (result : SellResult) :
    Prop where
  others : OthersKept candidateId db result.outcome.1.db
  next : ∀ task, result.outcome.2 = some task → task.About result.outcome.1.db candidateId

section Waiting

variable {w : SellWorld} {o : Option ℕ} {job : ExitJob} {risk : RiskEnvironment}

theorem SellResult.about_ends {db : Database} {w' : SellWorld} (h : OthersKept o db w'.db) :
    (SellResult.ends w').About db o where
  others := h
  next := fun _ hnone => by cases hnone

theorem SellResult.about_waits {db : Database} {w' : SellWorld} {task : SellTask}
    (h : OthersKept o db w'.db) (htask : task.About w'.db o) :
    (SellResult.waits w' task).About db o where
  others := h
  next := fun _ hnext => Option.some.inj hnext ▸ htask

theorem SellResult.About.of_others {db db' : Database} {result : SellResult}
    (h : OthersKept o db db') (hresult : result.About db' o) : result.About db o where
  others := h.trans hresult.others
  next := hresult.next

theorem ExitJob.About.later {db db' : Database} (h : job.About db o)
    (hterms : ∀ requestId, termsOf db' requestId = termsOf db requestId) : job.About db' o where
  candidate := h.candidate
  preview := by
    intro preview hpreview
    rw [hterms]
    exact h.preview preview hpreview

theorem othersKept_markCandidate {db : Database} (hjob : job.About w.db o)
    (status : ExitCandidateStatus) (riskResult : String) :
    OthersKept o db (job.markCandidate db status riskResult) := by
  unfold ExitJob.markCandidate
  cases hcandidate : job.query.candidate with
  | none => exact .of_eq rfl
  | some candidate =>
    rw [hjob.candidate candidate hcandidate]
    exact othersKept_updateExitCandidate db candidate.row.id status riskResult

theorem about_finish (hjob : job.About w.db o) (f : ExitFindings) :
    (job.finish w risk f).About w.db o := by
  unfold ExitJob.finish
  dsimp only
  cases hpreview : job.preview with
  | none =>
    cases hcandidate : job.query.candidate with
    | none => exact SellResult.about_ends (.of_eq rfl)
    | some candidate =>
      refine SellResult.about_ends ?_
      unfold ExitJob.previewed
      split
      · exact .of_eq rfl
      · rename_i db hinsert
        rw [hjob.candidate candidate hcandidate]
        exact (OthersKept.of_eq (insertOrderRow_exitCandidates hinsert)).trans
          (othersKept_updateExitCandidate db candidate.row.id _ _)
  | some preview =>
    dsimp only
    split
    · exact ⟨.of_eq rfl, fun _ hnext => Option.some.inj hnext ▸ ⟨hjob, hpreview⟩⟩
    · refine SellResult.about_ends ?_
      exact (OthersKept.of_eq (updateLiveOrderLog_exitCandidates _ _ _ _)).trans
        (othersKept_markCandidate hjob _ _)

theorem about_start (hjob : job.About w.db o) : (job.start w risk).About w.db o := by
  unfold ExitJob.start
  split
  · exact about_finish hjob _
  · exact SellResult.about_waits (.of_eq rfl) hjob

theorem about_reconciled (hjob : job.About w.db o) (env : SyncEnv) (balances : Option Balances) :
    (job.reconciled w risk env balances).About w.db o := by
  unfold ExitJob.reconciled
  split
  · exact SellResult.about_ends (.of_eq rfl)
  · rename_i candidate _
    have hkept := reconcileBalances_exitCandidates env w.db candidate.terms.exchange
      candidate.terms.market balances
    have hterms := fun requestId => termsOf_quiet
      (quietWrites_reconcileBalances w.db env candidate.terms.exchange candidate.terms.market
        balances) requestId
    generalize reconcileBalances env w.db candidate.terms.exchange candidate.terms.market
      balances = reconciled at hkept hterms ⊢
    obtain ⟨db, block⟩ := reconciled
    have hjob' : job.About db o := hjob.later hterms
    dsimp only
    split
    · exact (about_finish (w := { w with db := db }) hjob' _).of_others (.of_eq hkept)
    · exact SellResult.about_waits (.of_eq hkept) hjob'

theorem about_asked (hjob : job.About w.db o) (balances : Except ApiError Balances)
    (exception : Option ApiError) : (job.asked w risk balances exception).About w.db o := by
  unfold ExitJob.asked ExitJob.chanceFailed
  split
  · exact about_finish hjob _
  · exact about_finish hjob _
  · exact SellResult.about_waits (.of_eq rfl) hjob

theorem about_snapshotted (hjob : job.About w.db o) (balances : Balances)
    (positions : List LivePosition) (snapshot : Except ApiError ExitSnapshot) :
    (job.snapshotted w risk balances positions snapshot).About w.db o := by
  unfold ExitJob.snapshotted ExitJob.chanceFailed
  split
  · exact about_finish hjob _
  · exact about_finish hjob _
  · exact SellResult.about_ends (.of_eq rfl)

theorem othersKept_failed {db : Database} (hjob : job.About w.db o) (preview : LiveOrderLog)
    (exc : ApiError) : OthersKept o db (job.failed risk db preview exc) := by
  unfold ExitJob.failed
  split
  · exact (OthersKept.of_eq (updateLiveOrderLog_exitCandidates _ _ _ _)).trans
      (othersKept_markCandidate hjob _ _)
  · dsimp only
    split
    · exact .of_eq (updateLiveOrderLog_exitCandidates _ _ _ _)
    · exact .of_eq (updateLiveOrderLog_exitCandidates _ _ _ _)

theorem closePositions_kept (db : Database) (preview : LiveOrderLog) (position : LivePosition)
    (orderUuid : String) :
    (ExitJob.closePositions risk db preview position orderUuid).exitCandidates = db.exitCandidates
      ∧ (ExitJob.closePositions risk db preview position orderUuid).liveOrderLogs
        = db.liveOrderLogs := by
  unfold ExitJob.closePositions
  dsimp only
  generalize (List.filterMap id _).filter _ = ids
  have hfold : ∀ (ids : List ℕ) (u : LivePositionUpdates) (db : Database),
      (ids.foldl (fun db i => updateLivePosition db i u risk.now) db).exitCandidates
          = db.exitCandidates
        ∧ (ids.foldl (fun db i => updateLivePosition db i u risk.now) db).liveOrderLogs
          = db.liveOrderLogs := by
    intro ids u
    induction ids with
    | nil => exact fun _ => ⟨rfl, rfl⟩
    | cons i ids ih => exact fun db => ih (updateLivePosition db i u risk.now)
  exact hfold ids _ (updateLivePosition db position.id _ risk.now)

theorem about_awaitRecheck (hjob : job.About w.db o) {preview : LiveOrderLog}
    (hpreview : job.preview = some preview) (response : RawOrder) :
    (job.awaitRecheck w preview response).About w.db o := by
  unfold ExitJob.awaitRecheck
  split
  · exact SellResult.about_ends (.of_eq rfl)
  · split
    · exact SellResult.about_ends (.of_eq rfl)
    · rename_i log hlog
      obtain ⟨hrow, -⟩ := Option.filter_eq_some_iff.mp hlog
      -- the row read now has the candidate of the preview
      obtain ⟨hterms, hcandidate⟩ := hjob.preview preview hpreview
      have hlogTerms : log.terms = preview.terms := by
        unfold termsOf at hterms
        rw [hrow] at hterms
        exact Option.some.inj hterms
      have hsame : log.exitCandidateId = o :=
        (congrArg OrderTerms.exitCandidateId hlogTerms).trans hcandidate
      exact SellResult.about_waits (.of_eq rfl) ⟨hjob, hpreview, hsame⟩

theorem about_submitted (hjob : job.About w.db o) {preview : LiveOrderLog}
    (hpreview : job.preview = some preview) (response : RawOrder) :
    (job.submitted w risk preview response).About w.db o := by
  have hmarked : OthersKept o w.db (job.submittedDb risk w.db preview response) :=
    (OthersKept.of_eq (updateLiveOrderLog_exitCandidates _ _ _ _)).trans
      (othersKept_markCandidate hjob _ _)
  have hterms : ∀ requestId,
      termsOf (job.submittedDb risk w.db preview response) requestId = termsOf w.db requestId := by
    intro requestId
    unfold ExitJob.submittedDb ExitJob.markCandidate
    split
    · exact termsOf_updateLiveOrderLog _ _ _
    · exact termsOf_updateLiveOrderLog _ _ _
  unfold ExitJob.submitted
  dsimp only
  generalize job.submittedDb risk w.db preview response = db at hmarked hterms ⊢
  split
  · exact (about_awaitRecheck (w := { w with db := db }) (hjob.later hterms) hpreview
      response).of_others hmarked
  · rename_i position _
    obtain ⟨hcandidates, hlogs⟩ :=
      @closePositions_kept risk db preview position response.orderUuid
    generalize ExitJob.closePositions risk db preview position response.orderUuid = closed
      at hcandidates hlogs ⊢
    have hclosed : OthersKept o w.db closed := hmarked.trans (.of_eq hcandidates)
    have hterms' : ∀ requestId, termsOf closed requestId = termsOf w.db requestId := by
      intro requestId
      refine Eq.trans ?_ (hterms requestId)
      unfold termsOf
      rw [getLiveOrderLog_congr hlogs]
    split
    · generalize hsession : updateLiveStrategySession closed position.sessionId _ = after
      have hafter : after.exitCandidates = closed.exitCandidates := by
        rw [← hsession]
        rfl
      have hterms'' : ∀ requestId, termsOf after requestId = termsOf w.db requestId := by
        intro requestId
        rw [← hsession]
        exact hterms' requestId
      exact (about_awaitRecheck (w := { w with db := after }) (hjob.later hterms'') hpreview
        response).of_others (hclosed.trans (.of_eq hafter))
    · refine SellResult.about_ends (hclosed.trans ?_)
      exact othersKept_failed hjob preview _

theorem othersKept_markExitCandidate (db : Database) (log : LiveOrderLog)
    (status : ReconciledOrderStatus) :
    OthersKept log.exitCandidateId db (markExitCandidate db log status) := by
  unfold markExitCandidate
  cases hid : truthyId log.exitCandidateId with
  | none => exact .of_eq rfl
  | some candidateId =>
    obtain ⟨hcandidate, -⟩ := Option.filter_eq_some_iff.mp hid
    rw [hcandidate]
    exact othersKept_updateExitCandidate db candidateId _ _

theorem othersKept_recheckedExitOrder (db : Database) (log : LiveOrderLog) (raw : RawOrder)
    (now : UtcTime) : OthersKept log.exitCandidateId db (recheckedExitOrder db log raw now) := by
  unfold recheckedExitOrder
  dsimp only
  exact ((OthersKept.of_eq (updateLiveOrderLog_exitCandidates _ _ _ _)).trans
    (othersKept_markExitCandidate _ log _)).trans
      (.of_eq (syncExitOrderPosition_exitCandidates _ _ _ _))

theorem about_begin {operation : SellOperation} (hop : (SellTask.ready operation).About w.db o)
    (settings : ExitSettings) : (operation.start w risk settings).About w.db o := by
  unfold SellOperation.start
  cases operation with
  | preview candidateId manualConfirmed isAutoExit requestHex =>
    dsimp only
    split
    · exact SellResult.about_ends (.of_eq rfl)
    · rename_i candidate hcandidate
      obtain ⟨row, hrow, rfl⟩ := Option.map_eq_some_iff.mp hcandidate
      refine about_start ⟨?_, fun _ hnone => by cases hnone⟩
      intro loaded hloaded
      obtain rfl := Option.some.inj hloaded
      exact (show o = some candidateId from hop).trans
        (congrArg some (Table.get?_some_rowId hrow).symm)
  | submit requestId finalConfirmation =>
    dsimp only
    split
    · exact SellResult.about_ends (.of_eq rfl)
    · split
      · exact SellResult.about_ends (.of_eq rfl)
      · rename_i log hlog
        have hcandidate : log.exitCandidateId = o := by
          have h : (getLiveOrderLog w.db requestId).bind LiveOrderLog.exitCandidateId = o := hop
          rw [hlog] at h
          exact h
        split
        · exact SellResult.about_ends (.of_eq rfl)
        · split
          · exact SellResult.about_ends (.of_eq rfl)
          · rename_i candidateId hid
            have ho : o = some candidateId := hcandidate.symm.trans hid
            refine about_start ⟨?_, ?_⟩
            · intro loaded hloaded
              obtain ⟨row, hrow, rfl⟩ := Option.map_eq_some_iff.mp hloaded
              exact ho.trans (congrArg some (Table.get?_some_rowId hrow).symm)
            · intro preview hpreview
              obtain rfl := Option.some.inj hpreview
              refine ⟨?_, hcandidate⟩
              unfold termsOf
              rw [getLiveOrderLog_requestId w.db requestId hlog, hlog]
              rfl
  | smart call => exact hop.elim

theorem about_run {task : SellTask} (htask : task.About w.db o) (reply : SellReply) :
    (task.run w reply).About w.db o := by
  unfold SellTask.run
  split
  · exact about_begin htask _
  · exact about_reconciled htask _ _
  · exact about_asked htask _ _
  · exact about_snapshotted htask _ _ _
  · obtain ⟨hjob, hpreview⟩ := htask
    exact about_submitted (w := w.answer _) hjob hpreview _
  · obtain ⟨hjob, -⟩ := htask
    exact SellResult.about_ends (othersKept_failed hjob _ _)
  · obtain ⟨-, -, hcandidate⟩ := htask
    refine SellResult.about_ends ?_
    rw [← hcandidate]
    exact othersKept_recheckedExitOrder _ _ _ _
  · obtain ⟨hjob, -⟩ := htask
    exact SellResult.about_ends (othersKept_failed hjob _ _)
  · exact htask.elim
  · exact htask.elim
  · exact SellResult.about_waits (.of_eq rfl) htask

theorem completeSell_none (w : SellWorld) (replies : List SellReply) :
    completeSell (w, none) replies = w := by
  unfold completeSell; rfl

theorem othersKept_completeSell {task : SellTask} (htask : task.About w.db o)
    (replies : List SellReply) : OthersKept o w.db (completeSell (w, some task) replies).db := by
  induction replies generalizing w task with
  | nil => exact .of_eq rfl
  | cons reply replies ih =>
    obtain ⟨hothers, hnext⟩ := about_run htask reply
    show OthersKept o w.db (completeSell (task.run w reply).outcome replies).db
    generalize (task.run w reply).outcome = outcome at hothers hnext ⊢
    obtain ⟨after, next⟩ := outcome
    cases next with
    | none =>
      rw [completeSell_none]
      exact hothers
    | some next => exact hothers.trans (ih (hnext next rfl))

end Waiting

/-! ## Every call -/

theorem othersKept_create (w : SellWorld) (request : CandidateRequest) (now : UtcTime) :
    OthersKept none w.db (createExitCandidateForPosition w request now).db := by
  unfold createExitCandidateForPosition
  dsimp only
  split
  · exact .of_eq rfl
  · split
    · exact .of_eq rfl
    · intro k candidate _ hk
      -- a new candidate takes an id that nobody has
      have hnew : k ≠ w.db.exitCandidates.nextId :=
        Nat.ne_of_lt (Table.get?_lt_nextId hk)
      exact (Table.get?_insert_of_ne w.db.exitCandidates _ (fun _ => rfl) hnew).trans hk

theorem othersKept_reject (w : SellWorld) (candidateId : ℕ) (now : UtcTime) :
    OthersKept (some candidateId) w.db (rejectExitCandidate w candidateId now).db := by
  have hrejected := othersKept_updateExitCandidate w.db candidateId .canceled "REJECTED_BY_USER"
  unfold rejectExitCandidate
  split
  · exact .of_eq rfl
  · dsimp only
    split
    · exact hrejected
    · split
      · exact hrejected
      · exact hrejected

theorem othersKept_reconcile (w : SellWorld) (requestId : String) (getOrder : Option RawOrder)
    (now : UtcTime) :
    OthersKept (w.candidateOf requestId) w.db (reconcileExitOrder w.db requestId getOrder now) := by
  cases horder : submittedExitOrder w.db requestId with
  | none =>
    unfold reconcileExitOrder
    rw [horder]
    exact .of_eq rfl
  | some log =>
    cases getOrder with
    | none =>
      unfold reconcileExitOrder
      rw [horder]
      exact .of_eq rfl
    | some raw =>
      obtain ⟨hlog, -⟩ := Option.filter_eq_some_iff.mp horder
      have hcandidate : w.candidateOf requestId = log.exitCandidateId := by
        unfold SellWorld.candidateOf
        rw [hlog]
        rfl
      rw [recheckedExitOrder_eq horder, hcandidate]
      exact othersKept_recheckedExitOrder w.db log raw now

theorem othersKept_cancel (w : SellWorld) (requestId : String) (maxExitRetryCount : ℕ)
    (cancelOrder : Option RawOrder) (now : UtcTime) :
    OthersKept (w.candidateOf requestId) w.db
      (cancelExitOrder w.db requestId maxExitRetryCount cancelOrder now) := by
  unfold cancelExitOrder
  split
  · rename_i log response horder
    obtain ⟨hlog, -⟩ := Option.filter_eq_some_iff.mp horder
    have hcandidate : w.candidateOf requestId = log.exitCandidateId := by
      unfold SellWorld.candidateOf
      rw [hlog]
      rfl
    rw [hcandidate]
    dsimp only
    generalize hdb : updateLiveOrderLog w.db requestId _ now = db
    have hupdated : OthersKept log.exitCandidateId w.db db := by
      rw [← hdb]
      exact .of_eq (updateLiveOrderLog_exitCandidates _ _ _ _)
    have hretried : OthersKept log.exitCandidateId db
        (retryExitCandidate db log maxExitRetryCount) := by
      unfold retryExitCandidate
      cases hid : truthyId log.exitCandidateId with
      | none => exact .of_eq rfl
      | some candidateId =>
        obtain ⟨hsome, -⟩ := Option.filter_eq_some_iff.mp hid
        rw [hsome]
        dsimp only
        split
        · exact othersKept_updateExitCandidate db candidateId _ _
        · exact othersKept_updateExitCandidate db candidateId _ _
    refine hupdated.trans (hretried.trans (.of_eq ?_))
    unfold releaseExitSession releaseExitPosition
    split <;> split <;> rfl
  · exact .of_eq rfl

/-- **A call writes no candidate but its own.** -/
theorem othersKept_apply (w : SellWorld) (call : ExitCall) (now : UtcTime) :
    OthersKept (call.candidate w) w.db (call.apply w now).db := by
  cases call with
  | create request => exact othersKept_create w request now
  | approve candidateId =>
    show OthersKept (some candidateId) w.db (approveExitCandidate w candidateId).db
    unfold approveExitCandidate
    split
    · exact .of_eq rfl
    · exact othersKept_updateExitCandidate w.db candidateId _ _
  | reject candidateId => exact othersKept_reject w candidateId now
  | preview candidateId manualConfirmed isAutoExit requestHex replies =>
    have htask : (SellTask.ready (.preview candidateId manualConfirmed isAutoExit
      requestHex)).About w.db (some candidateId) := rfl
    exact othersKept_completeSell htask replies
  | submit requestId finalConfirmation replies =>
    have htask : (SellTask.ready (.submit requestId finalConfirmation)).About w.db
      (w.candidateOf requestId) := rfl
    exact othersKept_completeSell htask replies
  | reconcile requestId getOrder => exact othersKept_reconcile w requestId getOrder now
  | cancel requestId maxExitRetryCount cancelOrder =>
    exact othersKept_cancel w requestId maxExitRetryCount cancelOrder now

end AutoCoinBot
