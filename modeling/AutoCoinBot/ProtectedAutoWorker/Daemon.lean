/-
  ProtectedAutoWorker.Daemon — the daemon of app/protected_auto_worker.py: its stored
  state, the jobs it starts, and how their reports are merged.

  The jobs are kept in memory, those of earlier sessions too; the state is a row of the database.
  What the exchange, the gate and the clock do is part of the events.
-/
import AutoCoinBot.Database.Values
import AutoCoinBot.Library.Run

namespace AutoCoinBot

open Library

/-! ## Jobs -/

/-- The report of a position loop, as far as the daemon reads it. -/
structure JobReport where
  controlledRunId : String := ""
  controlledAutoLiveStatus : String
  passFailReasons : List String := []
  tradeCount : ℕ := 0
  protectedStrategyTotalPnl : ℚ := 0
  accountSessionPnlDelta : Option ℚ := none
  deriving DecidableEq

/-- How far a job is: it ends with a report, or with an exception. -/
inductive JobOutcome where
  | running
  | raised
  | returned (report : JobReport)
  deriving DecidableEq

/-- A job of `_controlled_jobs` with the protected mode. `session` counts the daemon starts
before it; the code does not keep it. -/
structure ProtectedJob where
  controlledRunId : String
  startedAt : UtcTime
  session : ℕ
  outcome : JobOutcome := .running

/-- `job["report"]`: it has the job's own run id. -/
def ProtectedJob.report (job : ProtectedJob) : Option JobReport :=
  match job.outcome with
  | .returned report => some { report with controlledRunId := job.controlledRunId }
  | .running | .raised => none

/-- `_latest_protected_job`: of two that started in one second, the one that is listed first. -/
def latestProtectedJob (jobs : List ProtectedJob) : Option ProtectedJob :=
  (jobs.insertionSort (fun a b => b.startedAt ≤ a.startedAt)).head?

/-! ## The state -/

/-- `worker_status`, which `session_status` is always written with. -/
inductive WorkerStatus where
  | running
  | stopped
  | failed
  deriving DecidableEq

/-- The row of `protected_auto_runtime`. -/
structure ProtectedAutoState where
  workerStatus : WorkerStatus := .stopped
  latestReport : Option JobReport := none
  tradeCount : ℕ := 0
  protectedStrategyPnl : ℚ := 0
  accountSessionPnlDelta : ℚ := 0
  stopReason : String := ""
  lastTickFinished : Bool := false
  -- `last_scan_result["result"]`
  lastScanResult : String := ""

/-- The state with the jobs, and how often the daemon has been started. -/
structure ProtectedAuto where
  state : ProtectedAutoState := {}
  jobs : List ProtectedJob := []
  session : ℕ := 0

/-- `protected_auto_safe_stop`; an active job is told to stop, and goes on until it does. -/
def safeStop (state : ProtectedAutoState) (reason : String) (failed : Bool) : ProtectedAutoState :=
  let workerStatus := if failed then WorkerStatus.failed else .stopped
  { state with
    workerStatus := workerStatus
    stopReason := reason
    lastScanResult := if failed then "FAILED" else "STOPPED" }

/-- The report that a merge finds: that of the latest job, unless it was the last to be
merged. -/
def reportToMerge (w : ProtectedAuto) : Option JobReport :=
  match (latestProtectedJob w.jobs).bind ProtectedJob.report with
  | none => none
  | some report =>
    if w.state.latestReport.map JobReport.controlledRunId = some report.controlledRunId then none
    else some report

def mergeReport (state : ProtectedAutoState) (report : JobReport) : ProtectedAutoState :=
  { state with
    latestReport := some report
    tradeCount := state.tradeCount + report.tradeCount
    protectedStrategyPnl := state.protectedStrategyPnl + report.protectedStrategyTotalPnl
    accountSessionPnlDelta :=
      orNum (toFloat report.accountSessionPnlDelta) state.accountSessionPnlDelta
    lastScanResult := report.controlledAutoLiveStatus }

/-- The reason for which a merged report stops the session. -/
def hardReason (report : JobReport) : Option String :=
  if ["FAILED", "STOPPED", "ABORTED"].contains report.controlledAutoLiveStatus then
    report.passFailReasons.find? (fun reason => reason != "")
  else none

def syncLatestReportIntoState (w : ProtectedAuto) : ProtectedAuto :=
  match reportToMerge w with
  | none => w
  | some report =>
    let state := mergeReport w.state report
    match hardReason report with
    | none => { w with state := state }
    | some reason =>
      { w with
        state := safeStop state reason (report.controlledAutoLiveStatus == "FAILED") }

/-! ## Events -/

/-- What a tick does after it has merged. -/
inductive AfterMerge where
  -- a job is active, a limit is reached, the exchange does not answer in time, …
  | ends (result : String)
  | safeStops (reason : String) (failed : Bool)
  | startsJob (controlledRunId : String) (startedAt : UtcTime)

/-- What happens next. -/
inductive DaemonEvent where
  -- `start_protected_auto_daemon`
  | starts (gateAllowed lockAcquired : Bool)
  -- `protected_auto_tick_async`
  | ticks (lockAcquired : Bool) (rest : AfterMerge)
  -- `protected_auto_status`
  | statusReads
  -- `protected_auto_safe_stop`
  | safeStops (reason : String) (failed : Bool)
  -- a job returns its report, or raises
  | jobEnds (controlledRunId : String) (report : Option JobReport)
  -- the jobs are gone, and the startup recovery stops a running daemon
  | serverRestarts

/-- `start_protected_auto_daemon`, behind its gate and its lock. -/
def startProtectedAutoDaemon (w : ProtectedAuto) : ProtectedAuto :=
  { w with
    session := w.session + 1
    state :=
      { w.state with
        workerStatus := .running
        latestReport := none
        tradeCount := 0
        protectedStrategyPnl := 0
        accountSessionPnlDelta := 0
        stopReason := ""
        lastTickFinished := false
        lastScanResult := "STARTED" } }

def finishTick (w : ProtectedAuto) (result : String) : ProtectedAuto :=
  { w with state := { w.state with lastTickFinished := true, lastScanResult := result } }

/-- `start_controlled_position_loop_job`, unless a job is active. -/
def startJob (w : ProtectedAuto) (controlledRunId : String) (startedAt : UtcTime) :
    ProtectedAuto :=
  if w.jobs.any (fun job => job.outcome == .running) then w
  else
    { w with
      jobs := w.jobs ++ [{ controlledRunId := controlledRunId, startedAt := startedAt
                           session := w.session }] }

/-- The end of a tick. It does not look whether the merge has stopped the session. -/
def afterMerge (w : ProtectedAuto) : AfterMerge → ProtectedAuto
  | .ends result => finishTick w result
  | .safeStops reason failed => { w with state := safeStop w.state reason failed }
  | .startsJob controlledRunId startedAt =>
    finishTick (startJob w controlledRunId startedAt) "STARTED_CONTROLLED_ENTRY_V3_POSITION_JOB"

/-- `protected_auto_tick_async`; the first tick after a start is a heartbeat alone. -/
def protectedAutoTick (w : ProtectedAuto) (lockAcquired : Bool) (rest : AfterMerge) :
    ProtectedAuto :=
  if w.state.workerStatus ≠ .running then w
  else if !lockAcquired then
    { w with state := safeStop w.state "PROTECTED_RUNTIME_LOCK_CONFLICT" true }
  else if !w.state.lastTickFinished && w.state.lastScanResult == "STARTED" then
    finishTick w "BOOTSTRAP_HEARTBEAT_ONLY"
  else afterMerge (syncLatestReportIntoState w) rest

def endJob (jobs : List ProtectedJob) (controlledRunId : String) (report : Option JobReport) :
    List ProtectedJob :=
  jobs.map (fun job =>
    if job.controlledRunId = controlledRunId ∧ job.outcome = .running then
      { job with outcome := report.elim .raised .returned }
    else job)

def daemonStep (w : ProtectedAuto) : DaemonEvent → ProtectedAuto
  | .starts gateAllowed lockAcquired =>
    if gateAllowed && lockAcquired then startProtectedAutoDaemon w else w
  | .ticks lockAcquired rest => protectedAutoTick w lockAcquired rest
  | .statusReads => if w.state.workerStatus = .running then syncLatestReportIntoState w else w
  | .safeStops reason failed => { w with state := safeStop w.state reason failed }
  | .jobEnds controlledRunId report => { w with jobs := endJob w.jobs controlledRunId report }
  | .serverRestarts =>
    { w with
      jobs := []
      state := if w.state.workerStatus = .running then
          safeStop w.state "BACKEND_RESTART_SAFE_STOP" false
        else w.state }

end AutoCoinBot
