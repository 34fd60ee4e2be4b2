/-
  Database.SchedulerLocks — `acquire_scheduler_task_lock`,
  `finish_scheduler_task`.

  A run of a task acquires its lock in two steps of the database, a `SELECT` and an upsert
  that does not look again. The row names no run: a finish clears whatever lock it finds,
  and a caller whose own `ttl_seconds` has passed since the last start takes the lock over.
-/
import AutoCoinBot.Database.RuntimeLocks

namespace AutoCoinBot

open Library

/-! ## The table and the calls -/

/-- A lock that was found RUNNING and taken over. -/
structure StaleLock where
  previousLockUntil : Option UtcTime
  recoveredAt : UtcTime

/-- `last_result`: what the task reported, and the lock that was taken over from it. -/
structure TaskResult where
  entries : List (String × String) := []
  staleLock : Option StaleLock := none

/-- A row of `scheduler_task_state`. -/
structure SchedulerTask where
  taskName : String
  status : String := "IDLE"
  lockOwner : String := ""
  lockUntil : Option UtcTime := none
  lastStartedAt : Option UtcTime := none
  lastFinishedAt : Option UtcTime := none
  nextRunAt : Option UtcTime := none
  lastError : String := ""
  lastResult : TaskResult := {}
  runCount : ℕ := 0
  updatedAt : UtcTime

/-- The arguments of `acquire_scheduler_task_lock`, and the run that calls it. -/
structure TaskRequest where
  taskName : String
  run : String
  owner : String := "scheduler"
  ttlSeconds : ℤ := 1800

/-- The arguments of `finish_scheduler_task`. -/
structure TaskFinish where
  status : String
  result : TaskResult := {}
  error : String := ""
  nextRunAt : Option UtcTime := none

/-- What a call carries from its `SELECT` to its upsert. -/
structure PendingTask where
  owner : String
  nowUtc : UtcTime
  lockUntil : UtcTime
  staleLockRecovered : Bool
  staleResult : TaskResult

/-- The lock a row stands for: until when it is in force, if it is. -/
def SchedulerTask.lockInForce (row : SchedulerTask) (nowUtc : UtcTime) : Option UtcTime :=
  if row.status = "RUNNING" then row.lockUntil.filter (nowUtc < ·) else none

/-- `ttl_expired`: the caller's own time to live has passed since the last start. -/
def SchedulerTask.ttlExpired (row : SchedulerTask) (ttlSeconds : ℤ) (now : UtcTime) : Bool :=
  row.lastStartedAt.any (fun startedAt => startedAt + max 1 ttlSeconds ≤ now)

def SchedulerTask.refuses (current : SchedulerTask) (ttlSeconds : ℤ) (now : UtcTime) : Bool :=
  (current.lockInForce now).isSome && !current.ttlExpired ttlSeconds now

def TaskRequest.pending (request : TaskRequest) (current : Option SchedulerTask) (now : UtcTime) :
    PendingTask :=
  let stale := current.filter (fun row => row.status = "RUNNING")
  let result := (current.map SchedulerTask.lastResult).getD {}
  { owner := request.owner
    nowUtc := now
    lockUntil := now + max 1 request.ttlSeconds
    staleLockRecovered := stale.isSome
    staleResult :=
      match stale with
      | some row => { result with staleLock := some ⟨row.lockUntil, now⟩ }
      | none => result }

/-- The row an upsert of an acquire writes over the one it finds. -/
def PendingTask.row (p : PendingTask) (taskName : String) (current : Option SchedulerTask) :
    SchedulerTask :=
  match current with
  | none =>
    { taskName := taskName, status := "RUNNING", lockOwner := p.owner
      lockUntil := some p.lockUntil, lastStartedAt := some p.nowUtc
      lastResult := p.staleResult, updatedAt := p.nowUtc }
  | some row =>
    { row with
      status := "RUNNING", lockOwner := p.owner
      lockUntil := some p.lockUntil, lastStartedAt := some p.nowUtc, lastError := ""
      lastResult := if p.staleLockRecovered then p.staleResult else row.lastResult
      updatedAt := p.nowUtc }

/-- The row `finish_scheduler_task` writes over the one it finds. -/
def TaskFinish.row (finish : TaskFinish) (taskName : String) (current : Option SchedulerTask)
    (now : UtcTime) : SchedulerTask :=
  let row := current.getD { taskName := taskName, updatedAt := now }
  { row with
    status := (orText finish.status "IDLE").toUpper
    lockOwner := "", lockUntil := none
    lastFinishedAt := some now, nextRunAt := finish.nextRunAt
    lastError := finish.error, lastResult := finish.result
    runCount := row.runCount + 1, updatedAt := now }

/-- The clock, the rows by their `task_name`, and for every run the acquire it is in and the
`lock_until` its last acquire wrote if that returned `True` and it has not finished since. -/
structure SchedulerSystem where
  clock : UtcTime := 0
  schedulerTasks : String → Option SchedulerTask := fun _ => none
  pending : String → String → Option PendingTask := fun _ _ => none
  acquired : String → String → Option UtcTime := fun _ _ => none

/-- The steps of the runs, and time passing. -/
inductive SchedulerEvent where
  | select (request : TaskRequest)
  | upsert (taskName run : String)
  | finish (taskName run : String) (finish : TaskFinish)
  | tick (seconds : ℕ)

namespace SchedulerSystem

/-! ## Steps -/

/-- The first step of `acquire_scheduler_task_lock`: it reads the clock and the row, and
returns `False` on a lock in force. -/
def selectStep (s : SchedulerSystem) (request : TaskRequest) : SchedulerSystem :=
  let current := s.schedulerTasks request.taskName
  if current.any (fun row => row.refuses request.ttlSeconds s.clock) then
    { s with pending := setEntry s.pending request.taskName request.run none }
  else
    { s with
      pending := setEntry s.pending request.taskName request.run
        (some (request.pending current s.clock)) }

/-- The second step: `INSERT … ON CONFLICT(task_name) DO UPDATE`, and `True`. -/
def upsertStep (s : SchedulerSystem) (taskName run : String) : SchedulerSystem :=
  match s.pending taskName run with
  | none => s
  | some p =>
    { s with
      -- DO UPDATE has no WHERE: the lock of any run is overwritten
      schedulerTasks := Function.update s.schedulerTasks taskName
        (some (p.row taskName (s.schedulerTasks taskName)))
      pending := setEntry s.pending taskName run none
      acquired := setEntry s.acquired taskName run (some p.lockUntil) }

/-- `finish_scheduler_task`; a run may finish a task it has not acquired. -/
def finishStep (s : SchedulerSystem) (taskName run : String) (finish : TaskFinish) :
    SchedulerSystem :=
  { s with
    schedulerTasks := Function.update s.schedulerTasks taskName
      (some (finish.row taskName (s.schedulerTasks taskName) s.clock))
    acquired := setEntry s.acquired taskName run none }

def step (s : SchedulerSystem) : SchedulerEvent → SchedulerSystem
  | .select request => s.selectStep request
  | .upsert taskName run => s.upsertStep taskName run
  | .finish taskName run finish => s.finishStep taskName run finish
  | .tick seconds => { s with clock := s.clock + seconds }

/-- A run holds the lock of a task: its acquire returned `True`, it has not finished, and
the `lock_until` it wrote is in the future. -/
def Holds (s : SchedulerSystem) (taskName run : String) : Prop :=
  ∃ lockUntil, s.acquired taskName run = some lockUntil ∧ s.clock < lockUntil

/-- At most one run holds the lock of a task. -/
def MutuallyExclusive (s : SchedulerSystem) : Prop :=
  ∀ taskName i j, s.Holds taskName i → s.Holds taskName j → i = j

/-- A finish that clears no lock of another run. -/
def ClearsOwn (s : SchedulerSystem) : SchedulerEvent → Prop
  | .finish taskName run _ => ∀ other, s.Holds taskName other → other = run
  | _ => True

def lockInForce (s : SchedulerSystem) (taskName : String) : Option UtcTime :=
  (s.schedulerTasks taskName).bind (fun row => row.lockInForce s.clock)

/-- An upsert or a finish that goes over no lock in force but one the run holds itself. -/
def Careful (s : SchedulerSystem) : SchedulerEvent → Prop
  | .upsert taskName run =>
    (s.pending taskName run).isSome → (s.lockInForce taskName).isSome → s.Holds taskName run
  | .finish taskName run _ => (s.lockInForce taskName).isSome → s.Holds taskName run
  | _ => True

/-! ## The lock of a task is a lease -/

/-- A lease that stands for the lock of a task: its record runs out when the row's lock does,
and remembers whose upsert wrote it. -/
structure Represents (s : SchedulerSystem) (taskName : String) (l : LeaseState String UtcTime) :
    Prop where
  clock : l.clock = s.clock
  record : l.record.map Lease.expires = s.lockInForce taskName
  granted : l.granted = s.acquired taskName

/-- What a step does to the lease of one task. -/
def leaseEvents (s : SchedulerSystem) (taskName : String) :
    SchedulerEvent → List (LeaseEvent String UtcTime)
  | .select _ => []
  | .upsert name run =>
    if name = taskName then
      ((s.pending taskName run).map (fun p => LeaseEvent.grant run p.lockUntil)).toList
    else []
  | .finish name run _ => if name = taskName then [.release run] else []
  | .tick seconds => [.advance (s.clock + seconds)]

section Steps

variable {s : SchedulerSystem} {taskName : String} {l : LeaseState String UtcTime}

theorem Represents.holds_iff (h : Represents s taskName l) (run : String) :
    l.Holds run ↔ s.Holds taskName run := by
  unfold LeaseState.Holds Holds
  rw [h.clock, h.granted]

theorem Represents.owner_eq (h : Represents s taskName l) (hl : l.Remembered) {run : String}
    (hcareful : (s.lockInForce taskName).isSome → s.Holds taskName run) :
    ∀ lease ∈ l.record, lease.owner = run := by
  intro lease hlease
  have hforce : (s.lockInForce taskName).isSome := by
    rw [← h.record, Option.mem_def.mp hlease]
    rfl
  obtain ⟨e, he, hlive⟩ := (h.holds_iff run).mpr (hcareful hforce)
  have hrecord : some lease = some ⟨run, e⟩ :=
    (Option.mem_def.mp hlease).symm.trans (hl run e he hlive)
  injection hrecord with hlease
  rw [hlease]

theorem lockInForce_row (p : PendingTask) (taskName : String) (current : Option SchedulerTask)
    (now : UtcTime) :
    (p.row taskName current).lockInForce now
      = if now < p.lockUntil then some p.lockUntil else none := by
  have hfilter : (some p.lockUntil).filter (now < ·)
      = if now < p.lockUntil then some p.lockUntil else none := by
    by_cases hlive : now < p.lockUntil
    · rw [if_pos hlive]
      exact Option.filter_some_pos (decide_eq_true hlive)
    · rw [if_neg hlive]
      exact Option.filter_some_neg (by simpa using hlive)
  cases current with
  | none => exact hfilter
  | some row => exact hfilter

theorem lockInForce_finish (finish : TaskFinish) (taskName : String)
    (current : Option SchedulerTask) (now later : UtcTime) :
    (finish.row taskName current now).lockInForce later = none := by
  unfold SchedulerTask.lockInForce
  split <;> rfl

theorem represents_upsertStep (h : Represents s taskName l) (name run : String) :
    Represents (s.upsertStep name run) taskName
      (Library.run LeaseState.step l (s.leaseEvents taskName (.upsert name run))) := by
  unfold upsertStep
  dsimp only [leaseEvents]
  cases hpending : s.pending name run with
  | none =>
    by_cases hname : name = taskName
    · subst hname
      rw [if_pos rfl, hpending]
      exact h
    · rw [if_neg hname]
      exact h
  | some p =>
    by_cases hname : name = taskName
    · subst hname
      rw [if_pos rfl, hpending]
      refine ⟨h.clock, ?_, ?_⟩
      · show Option.map Lease.expires
            (if l.clock < p.lockUntil then some ⟨run, p.lockUntil⟩ else none)
          = (Function.update s.schedulerTasks name (some (p.row name (s.schedulerTasks name)))
              name).bind (fun row => row.lockInForce s.clock)
        rw [Function.update_self, Option.bind_some, lockInForce_row, h.clock]
        split <;> rfl
      · show Function.update l.granted run (some p.lockUntil)
          = setEntry s.acquired name run (some p.lockUntil) name
        rw [LockSystem.setEntry_self, h.granted]
    · rw [if_neg hname]
      refine ⟨h.clock, ?_, ?_⟩
      · show _ = (Function.update s.schedulerTasks name _ taskName).bind
            (fun row => row.lockInForce s.clock)
        rw [Function.update_of_ne (Ne.symm hname)]
        exact h.record
      · show _ = setEntry s.acquired name run (some p.lockUntil) taskName
        rw [LockSystem.setEntry_of_ne s.acquired (Ne.symm hname)]
        exact h.granted

theorem represents_finishStep (h : Represents s taskName l) (hl : l.Remembered)
    {name run : String} {finish : TaskFinish} (hcareful : s.Careful (.finish name run finish)) :
    Represents (s.finishStep name run finish) taskName
      (Library.run LeaseState.step l (s.leaseEvents taskName (.finish name run finish))) := by
  dsimp only [leaseEvents]
  unfold finishStep
  by_cases hname : name = taskName
  · subst hname
    rw [if_pos rfl]
    refine ⟨h.clock, ?_, ?_⟩
    · -- the record is the run's own, so that releasing it and clearing the row are the same
      have howner := h.owner_eq hl hcareful
      show (l.record.filter (fun lease => lease.owner ≠ run)).map Lease.expires
        = (Function.update s.schedulerTasks name
            (some (finish.row name (s.schedulerTasks name) s.clock)) name).bind
              (fun row => row.lockInForce s.clock)
      rw [Function.update_self, Option.bind_some, lockInForce_finish]
      cases hrecord : l.record with
      | none => rfl
      | some lease =>
        rw [Option.filter_some_neg (by simpa using howner lease hrecord)]
        rfl
    · show Function.update l.granted run none = setEntry s.acquired name run none name
      rw [LockSystem.setEntry_self, h.granted]
  · rw [if_neg hname]
    refine ⟨h.clock, ?_, ?_⟩
    · show _ = (Function.update s.schedulerTasks name _ taskName).bind
          (fun row => row.lockInForce s.clock)
      rw [Function.update_of_ne (Ne.symm hname)]
      exact h.record
    · show _ = setEntry s.acquired name run none taskName
      rw [LockSystem.setEntry_of_ne s.acquired (Ne.symm hname)]
      exact h.granted

theorem lockInForce_later (row : SchedulerTask) {now later : UtcTime} (h : now ≤ later) :
    row.lockInForce later = (row.lockInForce now).filter (later < ·) := by
  unfold SchedulerTask.lockInForce
  by_cases hrunning : row.status = "RUNNING"
  · rw [if_pos hrunning, if_pos hrunning]
    rw [Option.filter_filter]
    congr 1
    funext lockUntil
    by_cases hlater : later < lockUntil
    · simp [hlater, lt_of_le_of_lt h hlater]
    · simp [hlater]
  · rw [if_neg hrunning, if_neg hrunning]
    rfl

theorem represents_tick (h : Represents s taskName l) (seconds : ℕ) :
    Represents (s.step (.tick seconds)) taskName
      (Library.run LeaseState.step l (s.leaseEvents taskName (.tick seconds))) := by
  have hlater : s.clock ≤ s.clock + (seconds : ℤ) :=
    le_add_of_nonneg_right (Int.natCast_nonneg seconds)
  have hclock : max l.clock (s.clock + (seconds : ℤ)) = s.clock + (seconds : ℤ) := by
    rw [h.clock]
    exact max_eq_right hlater
  refine ⟨hclock, ?_, h.granted⟩
  have hrow : (s.step (.tick seconds)).lockInForce taskName
      = (s.lockInForce taskName).filter (s.clock + (seconds : ℤ) < ·) := by
    show (s.schedulerTasks taskName).bind (fun row => row.lockInForce (s.clock + (seconds : ℤ)))
      = ((s.schedulerTasks taskName).bind (fun row => row.lockInForce s.clock)).filter _
    cases s.schedulerTasks taskName with
    | none => rfl
    | some row => exact lockInForce_later row hlater
  rw [hrow, ← h.record]
  show (l.record.filter
      (fun lease => max l.clock (s.clock + (seconds : ℤ)) < lease.expires)).map Lease.expires = _
  rw [hclock]
  cases l.record with
  | none => rfl
  | some lease =>
    by_cases hlive : s.clock + (seconds : ℤ) < lease.expires
    · rw [Option.filter_some_pos (by simpa using hlive), Option.map_some,
        Option.filter_some_pos (by simpa using hlive)]
    · rw [Option.filter_some_neg (by simpa using hlive), Option.map_some,
        Option.filter_some_neg (by simpa using hlive)]
      rfl

/-- **The lock of a task is a lease**, as long as no step goes over the lock of another run:
every step is, for each task, what `leaseEvents` says of it. -/
theorem represents_step (h : Represents s taskName l) (hl : l.Remembered) {e : SchedulerEvent}
    (hcareful : s.Careful e) :
    Represents (s.step e) taskName (Library.run LeaseState.step l (s.leaseEvents taskName e)) := by
  cases e with
  | select request =>
    show Represents (s.selectStep request) taskName l
    -- a select writes neither the table nor what is held
    unfold selectStep
    dsimp only
    split
    · exact ⟨h.clock, h.record, h.granted⟩
    · exact ⟨h.clock, h.record, h.granted⟩
  | upsert name run => exact represents_upsertStep h name run
  | finish name run finish => exact represents_finishStep h hl hcareful
  | tick seconds => exact represents_tick h seconds

theorem unheld_of_careful (h : Represents s taskName l) (hl : l.Remembered) {e : SchedulerEvent}
    (hcareful : s.Careful e) :
    StepsOk LeaseState.step LeaseState.Unheld l (s.leaseEvents taskName e) := by
  cases e with
  | select request => exact trivial
  | upsert name run =>
    dsimp only [leaseEvents]
    split
    · next hname =>
        subst hname
        cases hpending : s.pending name run with
        | none => exact trivial
        | some p => exact ⟨h.owner_eq hl (hcareful (by rw [hpending]; rfl)), trivial⟩
    · exact trivial
  | finish name run finish =>
    dsimp only [leaseEvents]
    split
    · exact ⟨trivial, trivial⟩
    · exact trivial
  | tick seconds => exact ⟨trivial, trivial⟩

end Steps

/-! ## Runs -/

/-- The lock of every task is a lease that every holder is recorded in. -/
def Leased (s : SchedulerSystem) : Prop :=
  ∀ taskName, ∃ l, Represents s taskName l ∧ l.Remembered

theorem leased_of_acquired_none {s : SchedulerSystem}
    (h : ∀ taskName i, s.acquired taskName i = none) : s.Leased := by
  intro taskName
  refine ⟨{ clock := s.clock
            record := (s.lockInForce taskName).map (fun lockUntil => ⟨"", lockUntil⟩)
            granted := s.acquired taskName }, ⟨rfl, ?_, rfl⟩, ?_⟩
  · cases hforce : s.lockInForce taskName with
    | none => rfl
    | some lockUntil => rfl
  · exact LeaseState.remembered_of_granted_none (h taskName)

theorem leased_step {s : SchedulerSystem} {e : SchedulerEvent} (hs : s.Leased)
    (hcareful : s.Careful e) : (s.step e).Leased := by
  intro taskName
  obtain ⟨l, h, hl⟩ := hs taskName
  exact ⟨_, represents_step h hl hcareful,
    LeaseState.remembered_run hl (unheld_of_careful h hl hcareful)⟩

theorem Leased.mutuallyExclusive {s : SchedulerSystem} (hs : s.Leased) : s.MutuallyExclusive := by
  intro taskName i j hi hj
  obtain ⟨l, h, hl⟩ := hs taskName
  exact hl.exclusive i j ((h.holds_iff i).mpr hi) ((h.holds_iff j).mpr hj)

theorem Leased.clearsOwn {s : SchedulerSystem} (hs : s.Leased) {e : SchedulerEvent}
    (hcareful : s.Careful e) : s.ClearsOwn e := by
  cases e with
  | finish taskName run finish =>
    intro other hother
    obtain ⟨l, h, hl⟩ := hs taskName
    obtain ⟨e, he, hlive⟩ := (h.holds_iff other).mpr hother
    -- the lock of the other run is in force in the row, so the finishing run holds it
    have hforce : (s.lockInForce taskName).isSome := by
      rw [← h.record, hl other e he hlive]
      rfl
    exact hs.mutuallyExclusive taskName other run hother (hcareful hforce)
  | select request => trivial
  | upsert taskName run => trivial
  | tick seconds => trivial

/-- **Tasks run one at a time**, and no finish clears the lock of another run, in every run
from a system in which no task is acquired, as long as no upsert and no finish goes over a
lock in force that its run does not hold. -/
theorem tasks_run_one_at_a_time (s : SchedulerSystem)
    (hnone : ∀ taskName i, s.acquired taskName i = none) (events : List SchedulerEvent)
    (hok : StepsOk step Careful s events) :
    StepsOk step (fun s e => s.MutuallyExclusive ∧ s.ClearsOwn e) s events
      ∧ (Library.run step s events).MutuallyExclusive := by
  have hstart : s.Leased := leased_of_acquired_none hnone
  have hkeep : ∀ (s : SchedulerSystem) e, s.Leased → s.Careful e → (s.step e).Leased :=
    fun s e hs he => leased_step hs he
  constructor
  · exact hok.imp_of_kept hkeep (fun s e hs he => ⟨hs.mutuallyExclusive, hs.clearsOwn he⟩) hstart
  · exact (run_invariant_of_stepsOk hkeep hstart hok).mutuallyExclusive

instance (s : SchedulerSystem) (taskName run : String) : Decidable (s.Holds taskName run) :=
  decidable_of_iff ((s.acquired taskName run).any (s.clock < ·) = true) (by
    unfold Holds
    rw [Option.any_eq_true]
    simp)

instance (s : SchedulerSystem) : (e : SchedulerEvent) → Decidable (s.Careful e)
  | .select _ => isTrue trivial
  | .upsert taskName run =>
    inferInstanceAs (Decidable ((s.pending taskName run).isSome →
      (s.lockInForce taskName).isSome → s.Holds taskName run))
  | .finish taskName run _ =>
    inferInstanceAs (Decidable ((s.lockInForce taskName).isSome → s.Holds taskName run))
  | .tick _ => isTrue trivial

def scansInTurn : List SchedulerEvent :=
  [.select { taskName := "scan", run := "loop-1" }, .upsert "scan" "loop-1",
    .select { taskName := "scan", run := "api-2" }, .upsert "scan" "api-2",
    .finish "scan" "loop-1" { status := "COMPLETED" }, .tick 5,
    .select { taskName := "scan", run := "api-2" }, .upsert "scan" "api-2"]

theorem scans_run_one_at_a_time :
    StepsOk step (fun s e => s.MutuallyExclusive ∧ s.ClearsOwn e) { clock := 100 } scansInTurn
      ∧ (Library.run step { clock := 100 } scansInTurn).MutuallyExclusive :=
  tasks_run_one_at_a_time { clock := 100 } (fun _ _ => rfl) scansInTurn (by decide +kernel)

/-- A scan is under way; a call that finds the scheduler disabled finishes it, and the next
scan starts beside it. -/
def scanFinishedByAnother : List SchedulerEvent :=
  [.select { taskName := "scan", run := "loop-1" }, .upsert "scan" "loop-1",
    .finish "scan" "api-2" { status := "DISABLED" },
    .select { taskName := "scan", run := "api-3" }, .upsert "scan" "api-3"]

theorem disabled_finish_clears :
    ¬ StepsOk step (fun s e => s.MutuallyExclusive ∧ s.ClearsOwn e) { clock := 100 }
        scanFinishedByAnother
      ∧ ¬ (Library.run step { clock := 100 } scanFinishedByAnother).MutuallyExclusive := by
  constructor
  · rintro ⟨-, -, ⟨-, hclears⟩, -⟩
    have hsame : "loop-1" = "api-2" := hclears "loop-1" (by decide +kernel)
    revert hsame
    decide
  · intro h
    have hsame : "loop-1" = "api-3" :=
      h "scan" "loop-1" "api-3" (by decide +kernel) (by decide +kernel)
    revert hsame
    decide

end SchedulerSystem

end AutoCoinBot
