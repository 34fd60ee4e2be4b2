/-
  ProtectedAutoWorker.PositionLoops — the position loops of the daemon: the ticks of
  app/protected_auto_worker.py that start them, their runs, and the restarts in between.

  The orders of a run have a purpose of their own, which the position sync skips: the open
  positions change by themselves. A loop that an operator starts appears with its report.
-/
import AutoCoinBot.ControlledAutoLive.PositionRun
import AutoCoinBot.Library.Upsert
import AutoCoinBot.ProtectedAutoWorker.Daemon

namespace AutoCoinBot

open Library

/-! ## The state -/

/-- The protected job of `_controlled_jobs` that is active. -/
structure ActiveLoop where
  runId : String
  stopRequested : Bool := false
  phase : RunPhase := .scanning

/-- The daemon with the loops that it started, the reports, and the exchange. -/
structure PositionLoops where
  now : UtcTime := 0
  workerStatus : WorkerStatus := .stopped
  lastTickFinished : Bool := false
  session : Option ProtectedSession := none
  active : Option ActiveLoop := none
  -- the runs that have ended, the last one at the end
  runs : List PositionRun := []
  reports : Table LoopReport := Table.empty
  resolvedEvent : Option ResolvedSafetyEvent := none
  orderLogs : List ScopedOrder := []
  positions : List ScopedPosition := []

/-- The exchange lists an order of one of the runs. -/
def PositionRun.hasOpenOrder (run : PositionRun) : Bool :=
  run.buy.any LimitOrder.isOpen || run.sell.any LimitOrder.isOpen

/-- An order of a run that has ended is open. -/
def PositionLoops.openOrders (w : PositionLoops) : Bool := w.runs.any PositionRun.hasOpenOrder

/-! ## Reports -/

/-- The report that is written when a loop starts, and when its job begins. -/
def startedReport (runId : String) (status : LoopStatus) : LoopReport :=
  { runId := runId, protectedMode := true, status := status }

/-- `_finalize_position_loop`. Every gate has the protected config, so that every loop's report has
the protected mode. -/
def finalReport (runId : String) (outcome : LoopOutcome) (runtimeStatus : String) (now : UtcTime) :
    LoopReport :=
  { runId := runId
    protectedMode := true
    status := outcome.status
    passFailReasons := outcome.passFailReasons
    figures := outcome.figures
    finalRuntimeStatus := runtimeStatus.toUpper
    completedAt := some now }

section Persist

variable {reports : Table LoopReport} {report row : LoopReport}

/-- **The rows after a report is written**: the others, and its own. -/
theorem mem_persist (h : row ∈ (persistControlledRunReport reports report).rows) :
    (row ∈ reports.rows ∧ row.runId ≠ report.runId) ∨ ∃ id, row = { report with id := id } := by
  rcases Table.mem_rows_upsert h with hold | hnew | ⟨old, -, -, hrow⟩
  · exact .inl hold
  · exact .inr ⟨_, hnew⟩
  · exact .inr ⟨old.id, hrow⟩

theorem mem_persist_of_ne (h : row ∈ reports.rows) (hne : row.runId ≠ report.runId) :
    row ∈ (persistControlledRunReport reports report).rows := by
  unfold persistControlledRunReport Table.upsert
  split
  · exact List.mem_map.mpr ⟨row, h, if_neg (by simpa using hne)⟩
  · rw [Table.rows_insert]
    exact List.mem_append_left _ h

theorem exists_runId_persist (reports : Table LoopReport) (report : LoopReport) :
    ∃ row ∈ (persistControlledRunReport reports report).rows, row.runId = report.runId := by
  unfold persistControlledRunReport Table.upsert
  split
  · rename_i hany
    obtain ⟨old, hold, hrun⟩ := List.any_eq_true.mp hany
    exact ⟨{ report with id := old.id }, List.mem_map.mpr ⟨old, hold, if_pos hrun⟩, rfl⟩
  · exact ⟨_, List.mem_append_right _ List.mem_cons_self, rfl⟩

end Persist

/-! ## Ticks -/

/-- The daemon is told to stop, and an active job with it. -/
def stopDaemon (w : PositionLoops) (failed : Bool) : PositionLoops :=
  { w with
    workerStatus := if failed then .failed else .stopped
    active := w.active.map (fun job => { job with stopRequested := true }) }

/-- How a tick reads the exchange's equity and the hard stops. -/
inductive EquityReading where
  | timesOut
  | stops (failed : Bool)
  | answers

/-- What a tick finds. -/
structure TickReading where
  lockAcquired : Bool := true
  -- the report that it merges stops the session
  mergeStops : Bool := false
  equity : EquityReading := .answers
  -- of `_open_order_blocker`, an order of somebody else, or one that the order logs have open
  otherOpenOrder : Bool := false
  limitedBlockers : List GateBlocker := []
  hardBlockers : List GateBlocker := []
  -- a job of another kind is active
  otherJobActive : Bool := false
  runId : String

/-- `start_controlled_position_loop_job` and the beginning of its task. A run id is new: it has the
time and a random part. -/
def startPositionLoop (w : PositionLoops) (runId : String) : PositionLoops :=
  if w.reports.rows.any (fun report => report.runId == runId) then w
  else
    { w with
      active := some { runId := runId }
      reports := persistControlledRunReport
        (persistControlledRunReport w.reports (startedReport runId .starting))
        (startedReport runId .running) }

/-- `protected_auto_tick_async`, once the daemon has its lock. When the gate is asked, no session is
active for it. -/
def tickWithLock (w : PositionLoops) (reading : TickReading) : PositionLoops :=
  let w := if reading.mergeStops then stopDaemon w true else w
  match reading.equity with
  | .timesOut => w
  | .stops failed => stopDaemon w failed
  | .answers =>
    if w.active.isSome then w
    else if w.openOrders || reading.otherOpenOrder then stopDaemon w false
    else if maxOpenPositions ≤ protectedOpenPositionCount w.orderLogs w.positions w.session then w
    else if protectedFullAutoLiveBlockers reading.limitedBlockers reading.hardBlockers
        w.resolvedEvent w.reports w.orderLogs w.positions none ≠ [] then w
    else if reading.otherJobActive then w
    else startPositionLoop w reading.runId

/-- `protected_auto_tick_async`; the first tick after a start is a heartbeat alone. -/
def protectedTick (w : PositionLoops) (reading : TickReading) : PositionLoops :=
  if w.workerStatus ≠ .running then w
  else if !reading.lockAcquired then stopDaemon w true
  else if !w.lastTickFinished then { w with lastTickFinished := true }
  else tickWithLock w reading

/-! ## Events -/

def runGoesOn (w : PositionLoops) (reading : RunReading) (ending : EndReading) (loop : LoopReading) :
    PositionLoops :=
  match w.active with
  | none => w
  | some job =>
    match runStep w.openOrders job.stopRequested ending loop job.phase reading with
    | .goesOn phase => { w with active := some { job with phase := phase } }
    | .ends phase outcome =>
      { w with
        active := none
        runs := w.runs ++ [phase.trades job.runId]
        reports := persistControlledRunReport w.reports
          (finalReport job.runId outcome loop.runtimeStatus w.now) }

/-- The exchange changes an order of a run, whether it goes on or not. -/
def exchangeChanges (w : PositionLoops) (runId : String) (side : OrderSide)
    (c : LimitOrder.Change) : PositionLoops :=
  { w with
    active := w.active.map (fun job =>
      if job.runId = runId then { job with phase := job.phase.change side c } else job)
    runs := w.runs.map (fun run => if run.runId = runId then run.change side c else run) }

/-- The process ends, and starts anew: the job is gone, its report is marked, and the daemon is
stopped. -/
def serverRestart (w : PositionLoops) : PositionLoops :=
  { w with
    workerStatus := if w.workerStatus = .running then .stopped else w.workerStatus
    active := none
    runs := w.runs ++ (w.active.map (fun job => job.phase.trades job.runId)).toList
    reports := stopStaleProtectedFullAutoSessionsOnStartup w.reports w.now }

/-- What happens next. -/
inductive LoopEvent where
  | timePasses (seconds : ℕ)
  -- `start_protected_auto_daemon`, behind its gate and its lock
  | daemonStarts (allowed : Bool) (session : ProtectedSession)
  | ticks (reading : TickReading)
  -- `protected_auto_safe_stop`
  | safeStops (failed : Bool)
  | runGoesOn (reading : RunReading) (ending : EndReading) (loop : LoopReading)
  | exchangeChanges (runId : String) (side : OrderSide) (change : LimitOrder.Change)
  | serverRestarts
  -- a loop that an operator has started ends; no other job was active
  | otherLoopEnds (runId : String) (outcome : LoopOutcome) (runtimeStatus : String)
  | safetyEventRecorded (event : ResolvedSafetyEvent)
  -- the other parts of the bot
  | positionsChange (orderLogs : List ScopedOrder) (positions : List ScopedPosition)

def loopStep (w : PositionLoops) : LoopEvent → PositionLoops
  | .timePasses seconds => { w with now := w.now + seconds }
  | .daemonStarts allowed session =>
    if allowed then
      { w with workerStatus := .running, lastTickFinished := false, session := some session }
    else w
  | .ticks reading => protectedTick w reading
  | .safeStops failed => stopDaemon w failed
  | .runGoesOn reading ending loop => runGoesOn w reading ending loop
  | .exchangeChanges runId side c => exchangeChanges w runId side c
  | .serverRestarts => serverRestart w
  | .otherLoopEnds runId outcome runtimeStatus =>
    if w.active.isSome || w.reports.rows.any (fun report => report.runId == runId) then w
    else
      { w with
        reports := persistControlledRunReport w.reports
          (finalReport runId outcome runtimeStatus w.now) }
  | .safetyEventRecorded event => { w with resolvedEvent := some event }
  | .positionsChange orderLogs positions =>
    { w with orderLogs := orderLogs, positions := positions }

/-- Whether the event sends a BUY of a protected run. -/
def PositionLoops.sendsBuy (w : PositionLoops) : LoopEvent → Bool
  | .runGoesOn reading _ _ =>
    w.active.any (fun job => AutoCoinBot.sendsBuy w.openOrders job.stopRequested job.phase reading)
  | _ => false

end AutoCoinBot
