/-
  ProtectedAutoWorker.SafeStop — whether a safe stop is final, among the calls of
  app/protected_auto_worker.py that write the daemon's row.

  A call goes on step by step: an update reads the row, and then writes all of it back with its own
  values. Between any two steps the other calls go on. What a call finds on its way (the
  exchange, the gate, its exceptions) is given when it begins.
-/
import AutoCoinBot.Library.Await
import AutoCoinBot.ProtectedAutoWorker.Daemon

namespace AutoCoinBot

open Library

/-! ## Steps -/

/-- The values of an `_upsert_state`. -/
inductive StateValues where
  -- the times of a heartbeat, the counts of the positions, the error of a scan
  | progress
  -- `_finish_tick`
  | finishes (result : String)
  -- `_sync_latest_report_into_state`
  | merges (report : JobReport) (tradeCount : ℕ) (pnl delta : ℚ)
  -- of a safe stop
  | stops (reason : String) (failed : Bool)
  -- of a tick that was skipped
  | skips

/-- `{**current, **values}`. -/
def StateValues.apply (current : ProtectedAutoState) : StateValues → ProtectedAutoState
  | .progress => current
  | .finishes result => { current with lastTickFinished := true, lastScanResult := result }
  | .merges report tradeCount pnl delta =>
    { current with
      latestReport := some report
      tradeCount := tradeCount
      protectedStrategyPnl := pnl
      accountSessionPnlDelta := delta
      lastScanResult := report.controlledAutoLiveStatus }
  | .stops reason failed => safeStop current reason failed
  | .skips => { current with lastScanResult := "SKIPPED" }

/-- The values have a `worker_status`. -/
def StateValues.isStop : StateValues → Bool
  | .stops _ _ => true
  | _ => false

/-- A step of a call, at the database or at the jobs. -/
inductive CallOp where
  -- the upsert of `acquire_runtime_lock`, and `_release_protected_lock`
  | acquires
  | releases (failed : Bool)
  -- `load_protected_auto_state` and the write of `_upsert_state`
  | reads
  | writes (values : StateValues)
  -- `start_controlled_position_loop_job`
  | startsJob

def upsertState (values : StateValues) : List CallOp := [.reads, .writes values]

/-- `protected_auto_safe_stop` and `protected_auto_safe_stop_async`. -/
def safeStopOps (reason : String) (failed : Bool) : List CallOp :=
  .releases failed :: upsertState (.stops reason failed)

/-! ## Calls -/

/-- A report that is merged, with the sums and the reason for which it stops the session. -/
structure MergeReading where
  report : JobReport
  tradeCount : ℕ := 0
  pnl : ℚ := 0
  delta : ℚ := 0
  hardReason : Option String := none

/-- `_sync_latest_report_into_state`. -/
def mergeOps : Option MergeReading → List CallOp
  | none => []
  | some merge =>
    upsertState (.merges merge.report merge.tradeCount merge.pnl merge.delta)
      ++ merge.hardReason.elim []
        (fun reason => safeStopOps reason (merge.report.controlledAutoLiveStatus == "FAILED"))

/-- What a tick finds after it has merged. -/
inductive TickRest where
  -- a timeout, an active job, a limit, a gate that blocks
  | ends (values : StateValues)
  -- the exchange fails, a hard stop, an open order
  | stops (reason : String) (failed : Bool)
  -- the positions are counted first
  | endsScoped (result : String)
  | startsJob

def TickRest.ops : TickRest → List CallOp
  | .ends values => upsertState values
  | .stops reason failed => safeStopOps reason failed
  | .endsScoped result => upsertState .progress ++ upsertState (.finishes result)
  | .startsJob =>
    upsertState .progress ++ .startsJob
      :: upsertState (.finishes "STARTED_CONTROLLED_ENTRY_V3_POSITION_JOB")

/-- What a worker finds: whether another instance has the lock, and whether it raises after some of
its steps. -/
structure WorkerReading where
  lockAcquired : Bool := true
  raisesAfter : Option ℕ := none
  merge : Option MergeReading := none
  rest : TickRest

/-- Up to an exception, and what is done then. -/
def raisingAfter (n : Option ℕ) (handler ops : List CallOp) : List CallOp :=
  n.elim ops (fun n => ops.take n ++ handler)

/-- `run_protected_auto_tick`, on a row that it has found `RUNNING`. -/
def tickOps (state : ProtectedAutoState) (reading : WorkerReading) : List CallOp :=
  raisingAfter reading.raisesAfter (safeStopOps "PROTECTED_WORKER_TICK_EXCEPTION" true)
    (if !reading.lockAcquired then safeStopOps "PROTECTED_RUNTIME_LOCK_CONFLICT" true
    else
      .acquires :: upsertState .progress
        ++ (if !state.lastTickFinished && state.lastScanResult == "STARTED" then
            upsertState (.finishes "BOOTSTRAP_HEARTBEAT_ONLY")
          else mergeOps reading.merge ++ reading.rest.ops))

/-- `run_protected_bootstrap_heartbeat`, likewise; it logs an exception. -/
def heartbeatOps (reading : WorkerReading) : List CallOp :=
  raisingAfter reading.raisesAfter []
    (if !reading.lockAcquired then safeStopOps "PROTECTED_RUNTIME_LOCK_CONFLICT" true
    else .acquires :: upsertState (.finishes "BOOTSTRAP_HEARTBEAT_ONLY"))

/-- A call that begins. -/
inductive DaemonCall where
  | tick (reading : WorkerReading)
  | bootstrapHeartbeat (reading : WorkerReading)
  -- a tick that finds another on its way
  | skippedTick
  | status (merge : Option MergeReading)
  | safeStop (reason : String) (failed : Bool)

/-- A call on its way: whether it is a worker's, the row that it has read last, and what is left. -/
structure CallTask where
  worker : Bool := false
  current : ProtectedAutoState
  ops : List CallOp

def callTask (worker : Bool) (current : ProtectedAutoState) (ops : List CallOp) : Option CallTask :=
  if ops = [] then none else some ⟨worker, current, ops⟩

/-- The lock's row: its status, and who has set it to `RUNNING`. -/
inductive ProtectedLock where
  | released (failed : Bool)
  | takenByStart
  | takenByWorker

/-- The row, the lock, and what has happened since a stop was written. -/
structure StopWorld where
  state : ProtectedAutoState := {}
  lock : ProtectedLock := .released false
  -- a stop was written, and the daemon has not been started since
  stopped : Bool := false
  -- a job was started since
  jobStarted : Bool := false

/-- A call begins with the row; the workers and the status go no further when it is not `RUNNING`. -/
def beginCall (w : StopWorld) : DaemonCall → Option CallTask
  | .tick reading =>
    if w.state.workerStatus = .running then callTask true w.state (tickOps w.state reading)
    else none
  | .bootstrapHeartbeat reading =>
    if w.state.workerStatus = .running then callTask true w.state (heartbeatOps reading) else none
  | .skippedTick => callTask false w.state (upsertState .skips)
  | .status merge =>
    if w.state.workerStatus = .running then callTask false w.state (mergeOps merge) else none
  | .safeStop reason failed => callTask false w.state (safeStopOps reason failed)

/-- One step of a call: what it leaves, and the row that the call has then read last. -/
def execOp (w : StopWorld) (current : ProtectedAutoState) : CallOp → StopWorld × ProtectedAutoState
  | .acquires => ({ w with lock := .takenByWorker }, current)
  | .releases failed => ({ w with lock := .released failed }, current)
  | .reads => (w, w.state)
  | .writes values =>
    ({ w with state := values.apply current, stopped := w.stopped || values.isStop }, current)
  | .startsJob => ({ w with jobStarted := w.jobStarted || w.stopped }, current)

def resumeCall (task : CallTask) (w : StopWorld) : StopWorld × Option CallTask :=
  match task.ops with
  | [] => (w, none)
  | op :: ops =>
    let (w, current) := execOp w task.current op
    (w, callTask task.worker current ops)

/-- `start_protected_auto_daemon`. -/
def startedWorld (w : StopWorld) : StopWorld :=
  { state := (startProtectedAutoDaemon { state := w.state }).state, lock := .takenByStart }

def daemonCalls : Awaiting StopWorld CallTask Unit DaemonCall Unit where
  move w _ := startedWorld w
  begin := beginCall
  resume task _ w := resumeCall task w

/-! ## The property -/

def workerOnItsWay (tasks : List CallTask) : Bool := tasks.any CallTask.worker

/-- **The stop is final**: the status is not `RUNNING`, no job was started, and the lock is not left
`RUNNING` by a worker. -/
structure Final (s : Waiting StopWorld CallTask) : Prop where
  status : s.world.stopped = true → s.world.state.workerStatus ≠ .running
  noJob : s.world.jobStarted = false
  lock : s.world.stopped = true → s.world.lock = .takenByWorker → workerOnItsWay s.tasks = true

/-- A call that goes on as if there had been no stop: it writes back a row that it has read as
`RUNNING`, or starts a job. -/
def CallTask.ignoresStop (task : CallTask) : Bool :=
  match task.ops.head? with
  | some (.writes values) => !values.isStop && task.current.workerStatus == .running
  | some .startsJob => true
  | _ => false

/-- What the next step of a call leaves of the lock. -/
def CallTask.lockAfter (task : CallTask) (lock : ProtectedLock) : ProtectedLock :=
  match task.ops.head? with
  | some .acquires => .takenByWorker
  | some (.releases failed) => .released failed
  | _ => lock

def CallTask.writesStop (task : CallTask) : Bool :=
  match task.ops.head? with
  | some (.writes values) => values.isStop
  | _ => false

/-- A worker is on its way after a step of the `i`-th call. -/
def workersAfter (tasks : List CallTask) (i : ℕ) (task : CallTask) : Bool :=
  workerOnItsWay (tasks.eraseIdx i) || (task.worker && decide (1 < task.ops.length))

/-- **After a stop** no call goes on with the status that it has read before, and no worker is the
last to return with the lock taken again. -/
def HeedsStop (s : Waiting StopWorld CallTask) : Happening Unit DaemonCall Unit → Prop
  | .replies i _ => ∀ task, s.tasks[i]? = some task →
      (s.world.stopped = true → task.ignoresStop = false)
        ∧ ((s.world.stopped || task.writesStop) = true →
            task.lockAfter s.world.lock = .takenByWorker → workersAfter s.tasks i task = true)
  | _ => True

/-! ## One step of a call -/

theorem apply_workerStatus {values : StateValues} (h : values.isStop = false)
    (current : ProtectedAutoState) :
    (values.apply current).workerStatus = current.workerStatus := by
  cases values with
  | stops reason failed => cases h
  | _ => rfl

theorem safeStop_workerStatus (current : ProtectedAutoState) (reason : String) (failed : Bool) :
    (safeStop current reason failed).workerStatus ≠ .running := by
  show (if failed then WorkerStatus.failed else .stopped) ≠ .running
  split <;> decide

theorem apply_stops {values : StateValues} (h : values.isStop = true)
    (current : ProtectedAutoState) : (values.apply current).workerStatus ≠ .running := by
  cases values with
  | stops reason failed => exact safeStop_workerStatus current reason failed
  | _ => cases h

theorem workerOnItsWay_after (tasks : List CallTask) (i : ℕ) (task : CallTask)
    (current : ProtectedAutoState) :
    workerOnItsWay (tasks.eraseIdx i ++ (callTask task.worker current task.ops.tail).toList)
      = workersAfter tasks i task := by
  unfold workersAfter workerOnItsWay callTask
  rw [List.any_append]
  congr 1
  cases hops : task.ops with
  | nil => simp
  | cons op ops =>
    cases ops with
    | nil => simp
    | cons op' ops => simp

def CallTask.worldAfter (task : CallTask) (w : StopWorld) : StopWorld :=
  match task.ops.head? with
  | none => w
  | some op => (execOp w task.current op).1

theorem resumeCall_fst (task : CallTask) (w : StopWorld) :
    (resumeCall task w).1 = task.worldAfter w := by
  unfold resumeCall CallTask.worldAfter
  cases task.ops with
  | nil => rfl
  | cons op ops => rfl

theorem resumeCall_snd (task : CallTask) (w : StopWorld) :
    ∃ current, (resumeCall task w).2 = callTask task.worker current task.ops.tail := by
  unfold resumeCall
  cases hops : task.ops with
  | nil => exact ⟨task.current, rfl⟩
  | cons op ops => exact ⟨(execOp w task.current op).2, rfl⟩

section WorldAfter

variable (task : CallTask) (w : StopWorld)

theorem worldAfter_lock : (task.worldAfter w).lock = task.lockAfter w.lock := by
  unfold CallTask.worldAfter CallTask.lockAfter
  cases task.ops.head? with
  | none => rfl
  | some op => cases op <;> rfl

theorem worldAfter_stopped : (task.worldAfter w).stopped = (w.stopped || task.writesStop) := by
  unfold CallTask.worldAfter CallTask.writesStop
  cases task.ops.head? with
  | none => simp
  | some op => cases op <;> simp [execOp]

variable {w}

theorem worldAfter_keeps_iff (hstatus : w.stopped = true → w.state.workerStatus ≠ .running)
    (hjob : w.jobStarted = false) :
    ((task.worldAfter w).stopped = true → (task.worldAfter w).state.workerStatus ≠ .running)
        ∧ (task.worldAfter w).jobStarted = false
      ↔ (w.stopped = true → task.ignoresStop = false) := by
  unfold CallTask.worldAfter CallTask.ignoresStop
  cases task.ops.head? with
  | none => exact ⟨fun _ _ => rfl, fun _ => ⟨hstatus, hjob⟩⟩
  | some op =>
    cases op with
    | acquires => exact ⟨fun _ _ => rfl, fun _ => ⟨hstatus, hjob⟩⟩
    | releases failed => exact ⟨fun _ _ => rfl, fun _ => ⟨hstatus, hjob⟩⟩
    | reads => exact ⟨fun _ _ => rfl, fun _ => ⟨hstatus, hjob⟩⟩
    | writes values =>
      show ((w.stopped || values.isStop) = true → (values.apply task.current).workerStatus ≠ _)
          ∧ w.jobStarted = false ↔ _
      cases hstop : values.isStop with
      | true =>
        refine ⟨fun _ _ => ?_, fun _ => ⟨fun _ => apply_stops hstop _, hjob⟩⟩
        show (!values.isStop && _) = false
        rw [hstop]
        rfl
      | false => simp [apply_workerStatus hstop, hjob, hstop]
    | startsJob =>
      show (w.stopped = true → _) ∧ (w.jobStarted || w.stopped) = false ↔ _
      cases hstopped : w.stopped <;> simp [hjob]

end WorldAfter

/-! ## Runs -/

theorem final_of_not_stopped {s : Waiting StopWorld CallTask} (h : s.world.stopped = false)
    (hjob : s.world.jobStarted = false) : Final s :=
  ⟨fun hstopped => Bool.noConfusion (h.symm.trans hstopped), hjob,
    fun hstopped => Bool.noConfusion (h.symm.trans hstopped)⟩

theorem final_replies_iff {s : Waiting StopWorld CallTask} (h : Final s) (i : ℕ) (reply : Unit) :
    Final (daemonCalls.step s (.replies i reply)) ↔ HeedsStop s (.replies i reply) := by
  cases htask : s.tasks[i]? with
  | none =>
    rw [daemonCalls.step_replies_none reply htask]
    refine ⟨fun _ task hsome => ?_, fun _ => h⟩
    rw [htask] at hsome
    cases hsome
  | some task =>
    rw [daemonCalls.step_replies_some reply htask]
    obtain ⟨current, hnext⟩ := resumeCall_snd task s.world
    have hworld : (daemonCalls.resume task reply s.world).1 = task.worldAfter s.world :=
      resumeCall_fst task s.world
    have htasks : workerOnItsWay
        (s.tasks.eraseIdx i ++ (daemonCalls.resume task reply s.world).2.toList)
          = workersAfter s.tasks i task := by
      show workerOnItsWay (_ ++ (resumeCall task s.world).2.toList) = _
      rw [hnext, workerOnItsWay_after]
    have hkeeps := worldAfter_keeps_iff task h.status h.noJob
    constructor
    · rintro ⟨hstatus, hnoJob, hlock⟩ task' hsome
      obtain rfl : task = task' := Option.some.inj (htask.symm.trans hsome)
      simp only [hworld, htasks, worldAfter_stopped, worldAfter_lock] at hstatus hnoJob hlock
      refine ⟨hkeeps.mp ⟨?_, hnoJob⟩, hlock⟩
      rwa [worldAfter_stopped]
    · intro hheeds
      obtain ⟨hignores, hlock⟩ := hheeds task htask
      obtain ⟨hstatus, hnoJob⟩ := hkeeps.mpr hignores
      refine ⟨?_, ?_, ?_⟩
      · show (daemonCalls.resume task reply s.world).1.stopped = true → _
        rwa [hworld]
      · show (daemonCalls.resume task reply s.world).1.jobStarted = false
        rwa [hworld]
      · show (daemonCalls.resume task reply s.world).1.stopped = true →
          (daemonCalls.resume task reply s.world).1.lock = .takenByWorker → _ = true
        rw [hworld, htasks, worldAfter_stopped, worldAfter_lock]
        exact hlock

theorem final_step_iff {s : Waiting StopWorld CallTask} (h : Final s)
    (e : Happening Unit DaemonCall Unit) : Final (daemonCalls.step s e) ↔ HeedsStop s e := by
  cases e with
  | moves event => exact ⟨fun _ => trivial, fun _ => final_of_not_stopped rfl rfl⟩
  | begins call =>
    refine ⟨fun _ => trivial, fun _ => ⟨h.status, h.noJob, fun hstopped hlock => ?_⟩⟩
    have hold : workerOnItsWay s.tasks = true := h.lock hstopped hlock
    show (s.tasks ++ _).any CallTask.worker = true
    rw [List.any_append, Bool.or_eq_true]
    exact .inl hold
  | replies i reply => exact final_replies_iff h i reply

/-- **A stop is final** through a run of calls, in exactly the runs in which every step after it
heeds it. -/
theorem safeStop_final_iff (state : ProtectedAutoState) (lock : ProtectedLock)
    (es : List (Happening Unit DaemonCall Unit)) :
    (∀ n, Final (run daemonCalls.step ⟨{ state := state, lock := lock }, []⟩ (es.take n)))
      ↔ StepsOk daemonCalls.step HeedsStop ⟨{ state := state, lock := lock }, []⟩ es := by
  have hstep : ∀ s e, Final s → (Final (daemonCalls.step s e) ↔ HeedsStop s e) :=
    fun _ e h => final_step_iff h e
  exact forall_prefix_iff hstep (final_of_not_stopped rfl rfl) es

/-- A tick that starts a job, and a stop that falls between the two steps of its heartbeat. -/
def exampleStoppedTick : List (Happening Unit DaemonCall Unit) :=
  [.moves (),
   .begins (.bootstrapHeartbeat { rest := .startsJob }), .replies 0 (), .replies 0 (), .replies 0 (),
   -- the tick has found the row `RUNNING`, and takes the lock
   .begins (.tick { rest := .startsJob }), .replies 0 (), .replies 0 (),
   .begins (.safeStop "USER_STOP" false), .replies 1 (), .replies 1 (), .replies 1 (),
   -- it writes the row back, and goes on
   .replies 0 (), .replies 0 (), .replies 0 (), .replies 0 ()]

/-- **The stop is undone**: the row is `RUNNING` again, and a job starts. -/
theorem stoppedTick_goesOn :
    ¬ ∀ n, Final (run daemonCalls.step ⟨{}, []⟩ (exampleStoppedTick.take n)) := by
  intro h
  have hend := (h 16).status (by decide +kernel)
  exact hend (by decide +kernel)

/-! ## A stop while no other call is on its way -/

/-- A step that is taken on a stopped row. -/
def CallOp.isQuiet : CallOp → Bool
  | .acquires | .startsJob => false
  | .releases _ | .reads | .writes _ => true

/-- A call that has not seen the row `RUNNING`. -/
structure CallTask.IsQuiet (task : CallTask) : Prop where
  current : task.current.workerStatus ≠ .running
  ops : ∀ op ∈ task.ops, op.isQuiet = true

/-- The daemon is stopped, and no call on its way has seen it run. -/
structure Quiet (s : Waiting StopWorld CallTask) : Prop where
  status : s.world.state.workerStatus ≠ .running
  noJob : s.world.jobStarted = false
  lock : s.world.lock ≠ .takenByWorker
  tasks : ∀ task ∈ s.tasks, task.IsQuiet

theorem Quiet.final {s : Waiting StopWorld CallTask} (h : Quiet s) : Final s :=
  ⟨fun _ => h.status, h.noJob, fun _ hlock => absurd hlock h.lock⟩

/-- A call with quiet steps. -/
theorem isQuiet_callTask {worker : Bool} {current : ProtectedAutoState} {ops : List CallOp}
    (hcurrent : current.workerStatus ≠ .running) (hops : ∀ op ∈ ops, op.isQuiet = true)
    {task : CallTask} (h : callTask worker current ops = some task) : task.IsQuiet := by
  unfold callTask at h
  split at h
  · cases h
  · obtain rfl := Option.some.inj h
    exact ⟨hcurrent, hops⟩

/-- On a stopped row, no call begins that could undo the stop. -/
theorem isQuiet_beginCall {w : StopWorld} (h : w.state.workerStatus ≠ .running)
    (call : DaemonCall) {task : CallTask} (htask : beginCall w call = some task) :
    task.IsQuiet := by
  cases call with
  | tick reading => simp [beginCall, h] at htask
  | bootstrapHeartbeat reading => simp [beginCall, h] at htask
  | skippedTick => exact isQuiet_callTask h (by simp [upsertState, CallOp.isQuiet]) htask
  | status merge => simp [beginCall, h] at htask
  | safeStop reason failed =>
      exact isQuiet_callTask h (by simp [safeStopOps, upsertState, CallOp.isQuiet]) htask

/-- A quiet step leaves the row stopped and the lock free; what the call has read is stopped. -/
theorem execOp_isQuiet {w : StopWorld} {current : ProtectedAutoState} {op : CallOp}
    (hop : op.isQuiet = true) (hstatus : w.state.workerStatus ≠ .running)
    (hcurrent : current.workerStatus ≠ .running) (hlock : w.lock ≠ .takenByWorker) :
    (execOp w current op).1.state.workerStatus ≠ .running
      ∧ (execOp w current op).1.jobStarted = w.jobStarted
      ∧ (execOp w current op).1.lock ≠ .takenByWorker
      ∧ (execOp w current op).2.workerStatus ≠ .running := by
  cases op with
  | acquires => cases hop
  | startsJob => cases hop
  | releases failed => exact ⟨hstatus, rfl, nofun, hcurrent⟩
  | reads => exact ⟨hstatus, rfl, hlock, hstatus⟩
  | writes values =>
      refine ⟨?_, rfl, hlock, hcurrent⟩
      cases hstop : values.isStop with
      | true => exact apply_stops hstop current
      | false =>
          show (values.apply current).workerStatus ≠ .running
          rwa [apply_workerStatus hstop]

/-- **Calls alone** keep the daemon stopped. -/
theorem Quiet.step {s : Waiting StopWorld CallTask} (h : Quiet s)
    {e : Happening Unit DaemonCall Unit} (he : e ≠ .moves ()) : Quiet (daemonCalls.step s e) := by
  cases e with
  | moves event => exact absurd rfl he
  | begins call =>
      refine ⟨h.status, h.noJob, h.lock, fun task htask => ?_⟩
      rcases List.mem_append.mp htask with hold | hnew
      · exact h.tasks task hold
      · exact isQuiet_beginCall h.status call (Option.mem_toList.mp hnew)
  | replies i reply =>
      cases htask : s.tasks[i]? with
      | none =>
          rw [daemonCalls.step_replies_none reply htask]
          exact h
      | some task =>
          have hquiet : task.IsQuiet := h.tasks task (List.mem_of_getElem? htask)
          rw [daemonCalls.step_replies_some reply htask]
          show Quiet ⟨(resumeCall task s.world).1, _ ++ (resumeCall task s.world).2.toList⟩
          have hothers : ∀ other ∈ s.tasks.eraseIdx i, other.IsQuiet :=
            fun other hother => h.tasks other (List.mem_of_mem_eraseIdx hother)
          unfold resumeCall
          cases hops : task.ops with
          | nil =>
              refine ⟨h.status, h.noJob, h.lock, fun other hother => hothers other ?_⟩
              simpa using hother
          | cons op ops =>
              have hall : ∀ op' ∈ op :: ops, op'.isQuiet = true := by
                rw [← hops]
                exact hquiet.ops
              obtain ⟨hstatus, hjob, hlock, hread⟩ :=
                execOp_isQuiet (hall op List.mem_cons_self) h.status hquiet.current h.lock
              refine ⟨hstatus, hjob.trans h.noJob, hlock, fun other hother => ?_⟩
              rcases List.mem_append.mp hother with hold | hnew
              · exact hothers other hold
              · exact isQuiet_callTask hread (fun op' hop' => hall op' (List.mem_cons_of_mem _ hop'))
                  (Option.mem_toList.mp hnew)

/-- The steps of a stop. -/
theorem run_safeStop (w : StopWorld) (reason : String) (failed : Bool) :
    run daemonCalls.step ⟨w, []⟩
        [.begins (.safeStop reason failed), .replies 0 (), .replies 0 (), .replies 0 ()]
      = ⟨{ w with state := safeStop w.state reason failed, lock := .released failed
                  stopped := true }, []⟩ := by
  simp [Awaiting.step, daemonCalls, beginCall, callTask, safeStopOps, upsertState, resumeCall,
    execOp, StateValues.apply, StateValues.isStop]

/-- **A stop with no other call on its way** is final until the daemon is started. -/
theorem final_of_quiet {w : StopWorld} (hjob : w.jobStarted = false) (reason : String)
    (failed : Bool) {es : List (Happening Unit DaemonCall Unit)} (hes : ∀ e ∈ es, e ≠ .moves ()) :
    Final (run daemonCalls.step ⟨w, []⟩
      ([.begins (.safeStop reason failed), .replies 0 (), .replies 0 (), .replies 0 ()] ++ es)) := by
  have hstep : ∀ s e, e ≠ Happening.moves () → Quiet s → Quiet (daemonCalls.step s e) :=
    fun _ _ he hs => Quiet.step hs he
  have hquiet : Quiet ⟨{ w with state := safeStop w.state reason failed, lock := .released failed
                                stopped := true }, []⟩ :=
    { status := safeStop_workerStatus w.state reason failed
      noJob := hjob
      lock := fun hlock => ProtectedLock.noConfusion hlock
      tasks := fun task htask => absurd htask List.not_mem_nil }
  rw [run_append, run_safeStop]
  exact (run_invariant_of_mem hstep hquiet hes).final

/-- A tick, a skipped tick and a second stop after a stop. -/
theorem final_of_quiet_later :
    Final (run daemonCalls.step ⟨{}, []⟩
      ([.begins (.safeStop "USER_STOP" false), .replies 0 (), .replies 0 (), .replies 0 ()]
        ++ [.begins (.tick { rest := .startsJob }), .begins .skippedTick,
          .begins (.safeStop "HARD_STOP" true), .replies 1 (), .replies 0 (), .replies 0 ()])) :=
  final_of_quiet rfl "USER_STOP" false (by simp)

end AutoCoinBot
