/-
  ProtectedAutoWorker.LockHolders — who releases the runtime lock of the daemon, among
  the workers of several instances on one database.

  The calls are those of one instance, with the steps of the lock apart: the `SELECT` and the upsert
  of an acquisition, and the `SELECT` and the `UPDATE` of a release. A release is made in the name
  of whoever the lock's row names.
-/
import AutoCoinBot.Database.RuntimeLocks
import AutoCoinBot.ProtectedAutoWorker.SafeStop

namespace AutoCoinBot

open Library

/-! ## Steps -/

def protectedRuntimeLockId : String := "protected-full-auto-live-v1"

def protectedLockTtlSeconds : ℤ := 180

/-- A step of a call, at the lock or at the row of the state. -/
inductive LockOp where
  -- `acquire_runtime_lock`; a worker that does not get the lock stops the daemon
  | selects (worker : Bool)
  | upserts
  -- `_release_protected_lock`
  | loads
  | releases (failed : Bool)
  -- the startup recovery goes on if it finds a lock that has run out
  | checksExpired
  -- `_upsert_state`
  | reads
  | writes (values : StateValues)
  | writesStart

def CallOp.lockOps : CallOp → List LockOp
  | .acquires => [.selects true, .upserts]
  | .releases failed => [.loads, .releases failed]
  | .reads => [.reads]
  | .writes values => [.writes values]
  | .startsJob => []

/-- `protected_auto_safe_stop_async("PROTECTED_RUNTIME_LOCK_CONFLICT", failed=True)`. -/
def conflictOps : List LockOp :=
  (safeStopOps "PROTECTED_RUNTIME_LOCK_CONFLICT" true).flatMap CallOp.lockOps

/-- A call of an instance. -/
inductive InstanceCall where
  -- `start_protected_auto_daemon`, behind its gate
  | start
  | daemon (call : DaemonCall)
  -- `run_protected_auto_startup_recovery_async`; an exception stops the daemon
  | startupRecovery (raisesAfter : Option ℕ)

/-- A call on its way: whose it is, whether an operator has asked for the stop, what it has read,
whether its acquisition has failed, and what is left. -/
structure InstanceTask where
  instanceId : String
  operator : Bool := false
  current : ProtectedAutoState
  loaded : Option RuntimeLock := none
  pending : Option PendingAcquire := none
  conflicted : Bool := false
  ops : List LockOp

/-- The clock, the lock's row, the row of the state, and the instances that have passed an
acquisition since the lock was last free. -/
structure SharedWorld where
  clock : UtcTime := 0
  lock : Option RuntimeLock := none
  state : ProtectedAutoState := {}
  passed : List String := []

def SharedWorld.inForce (w : SharedWorld) : Bool :=
  w.lock.any (fun row => row.status == "RUNNING" && decide (w.clock < row.expiresAt))

def SharedWorld.blocks (w : SharedWorld) (instanceId : String) : Bool :=
  w.lock.any (fun row => row.blocks instanceId w.clock)

/-- `_release_protected_lock` releases for the instance that the row names. -/
def InstanceTask.owner (task : InstanceTask) : String :=
  match task.loaded with
  | none => task.instanceId
  | some row => if row.instanceId = "" then task.instanceId else row.instanceId

def startupRecoveryOps (state : ProtectedAutoState) (raisesAfter : Option ℕ) : List LockOp :=
  if state.workerStatus = .running then
    (raisingAfter raisesAfter (safeStopOps "STARTUP_RECOVERY_EXCEPTION" true ++ upsertState .progress)
      (safeStopOps "BACKEND_RESTART_SAFE_STOP" false ++ upsertState .progress)).flatMap
        CallOp.lockOps
  else .checksExpired :: [.loads, .releases false, .reads, .writes .progress]

/-- The steps of a call of the daemon; that a worker gets the lock is seen when it asks for it. -/
def DaemonCall.lockOps (state : ProtectedAutoState) : DaemonCall → List LockOp
  | .tick reading =>
    if state.workerStatus = .running then
      (tickOps state { reading with lockAcquired := true }).flatMap CallOp.lockOps
    else []
  | .bootstrapHeartbeat reading =>
    if state.workerStatus = .running then
      (heartbeatOps { reading with lockAcquired := true }).flatMap CallOp.lockOps
    else []
  | .skippedTick => (upsertState .skips).flatMap CallOp.lockOps
  | .status merge =>
    if state.workerStatus = .running then (mergeOps merge).flatMap CallOp.lockOps else []
  | .safeStop reason failed => (safeStopOps reason failed).flatMap CallOp.lockOps

def DaemonCall.isOperators : DaemonCall → Bool
  | .safeStop _ _ => true
  | _ => false

def beginInstanceCall (w : SharedWorld) : String × InstanceCall → InstanceTask
  | (instanceId, .start) =>
    { instanceId := instanceId, current := w.state
      ops := [.selects false, .upserts, .reads, .writesStart] }
  | (instanceId, .daemon call) =>
    { instanceId := instanceId, operator := call.isOperators, current := w.state
      ops := call.lockOps w.state }
  | (instanceId, .startupRecovery raisesAfter) =>
    { instanceId := instanceId, current := w.state
      ops := startupRecoveryOps w.state raisesAfter }

/-- `acquire_runtime_lock` up to its upsert. -/
def InstanceTask.selects (task : InstanceTask) (w : SharedWorld) (worker : Bool)
    (rest : List LockOp) : InstanceTask :=
  if w.blocks task.instanceId then
    { task with conflicted := true, ops := if worker then conflictOps else [] }
  else
    { task with
      pending := some { hostname := "", appEnv := ""
                        runtimeOwner := "protected-full-auto-live-v1-daemon"
                        nowUtc := w.clock, expiresAt := w.clock + protectedLockTtlSeconds }
      ops := rest }

/-- The upsert: the row of any instance is overwritten. -/
def SharedWorld.upsert (w : SharedWorld) (instanceId : String) (p : PendingAcquire) : SharedWorld :=
  { w with
    lock := some (p.row protectedRuntimeLockId instanceId)
    passed := if w.inForce then instanceId :: w.passed else [instanceId] }

def execLockOp (task : InstanceTask) (w : SharedWorld) (rest : List LockOp) :
    LockOp → SharedWorld × InstanceTask
  | .selects worker => (w, task.selects w worker rest)
  | .upserts =>
    (task.pending.elim w (fun p => w.upsert task.instanceId p), { task with ops := rest })
  | .loads => (w, { task with loaded := w.lock, ops := rest })
  | .releases failed =>
    ({ w with
       lock := w.lock.map (fun row =>
         row.released task.owner (if failed then "FAILED" else "STOPPED") w.clock) },
     { task with ops := rest })
  | .checksExpired =>
    (w, { task with
          ops := if w.lock.any (fun row =>
              row.status == "RUNNING" && decide (row.expiresAt ≤ w.clock)) then rest else [] })
  | .reads => (w, { task with current := w.state, ops := rest })
  | .writes values => ({ w with state := values.apply task.current }, { task with ops := rest })
  | .writesStart =>
    ({ w with state := (startProtectedAutoDaemon { state := task.current }).state },
     { task with ops := rest })

/-- A call goes on by one step, until none is left. -/
def resumeInstanceCall (task : InstanceTask) (w : SharedWorld) : SharedWorld × Option InstanceTask :=
  match task.ops with
  | [] => (w, none)
  | op :: rest =>
    let (w, task) := execLockOp task w rest op
    (w, some task)

/-- The calls of the instances, while time passes. -/
def instanceCalls : Awaiting SharedWorld InstanceTask ℕ (String × InstanceCall) Unit where
  move w seconds := { w with clock := w.clock + seconds }
  begin w call := some (beginInstanceCall w call)
  resume task _ w := resumeInstanceCall task w

/-! ## The property -/

/-- A step has ended the lock of another instance. -/
def endsLockOfOther (w w' : SharedWorld) (instanceId : String) : Bool :=
  w.blocks instanceId && !w'.lock.any (fun row => row.status == "RUNNING")

/-- **A step of a call respects the lock**: it ends no lock of another instance, unless an operator
has asked for it; an acquisition that has failed leaves the daemon running; and one that passes is
the only one since the lock was free. -/
structure LockRespected (w : SharedWorld) (task : InstanceTask) : Prop where
  kept : task.operator = false →
    endsLockOfOther w (resumeInstanceCall task w).1 task.instanceId = false
  running : task.conflicted = true → w.state.workerStatus = .running →
    (resumeInstanceCall task w).1.state.workerStatus = .running
  onePassed : ∀ i ∈ (resumeInstanceCall task w).1.passed,
    ∀ j ∈ (resumeInstanceCall task w).1.passed, i = j

def OnlyHolderReleases (s : Waiting SharedWorld InstanceTask) :
    Happening ℕ (String × InstanceCall) Unit → Prop
  | .replies i _ => ∀ task ∈ s.tasks[i]?, LockRespected s.world task
  | _ => True

/-- What a step must not find: at a release that no operator has asked for, the lock that it has
loaded as that of another, in force; at the stop of a worker that has not got the lock, the daemon
running; at the upsert of an acquisition, the lock of another in force. -/
def InstanceTask.keepsToOwn (task : InstanceTask) (w : SharedWorld) : Bool :=
  match task.ops.head? with
  | some (.releases _) =>
    task.operator || task.owner == task.instanceId
      || !w.lock.any (fun row => row.instanceId == task.owner && row.blocks task.instanceId w.clock)
  | some (.writes _) => !(task.conflicted && w.state.workerStatus == .running)
  | some .upserts => task.pending.isNone || !w.blocks task.instanceId
  | _ => true

/-- Every step keeps to the lock of its own instance. -/
def KeepsToOwn (s : Waiting SharedWorld InstanceTask) :
    Happening ℕ (String × InstanceCall) Unit → Prop
  | .replies i _ => ∀ task ∈ s.tasks[i]?, task.keepsToOwn s.world = true
  | _ => True

instance (w : SharedWorld) (task : InstanceTask) : Decidable (LockRespected w task) :=
  decidable_of_iff (_ ∧ _ ∧ _)
    ⟨fun h => ⟨h.1, h.2.1, h.2.2⟩, fun h => ⟨h.kept, h.running, h.onePassed⟩⟩

instance (s : Waiting SharedWorld InstanceTask) :
    (e : Happening ℕ (String × InstanceCall) Unit) → Decidable (OnlyHolderReleases s e)
  | .moves _ => isTrue trivial
  | .begins _ => isTrue trivial
  | .replies i _ =>
    inferInstanceAs (Decidable (∀ task ∈ s.tasks[i]?, LockRespected s.world task))

/-! ## What the steps keep -/

/-- One instance has passed since the lock was free. -/
def SharedWorld.OnePassed (w : SharedWorld) : Prop := ∀ i ∈ w.passed, ∀ j ∈ w.passed, i = j

/-- A lock that is taken was taken by one that has passed. -/
def SharedWorld.Recorded (w : SharedWorld) : Prop :=
  ∀ row ∈ w.lock, row.status = "RUNNING" → row.instanceId ∈ w.passed

/-- Without the lock, the only thing left to write is the stop. -/
def InstanceTask.OnlyStops (task : InstanceTask) : Prop :=
  task.conflicted = true → ∀ values, .writes values ∈ task.ops → values.isStop = true

theorem conflictOps_onlyStops {values : StateValues} (h : .writes values ∈ conflictOps) :
    values.isStop = true := by
  have hvalues : values = .stops "PROTECTED_RUNTIME_LOCK_CONFLICT" true := by
    simpa [conflictOps, safeStopOps, upsertState, CallOp.lockOps] using h
  rw [hvalues]
  rfl

theorem onlyStops_execLockOp {task : InstanceTask} {op : LockOp} {rest : List LockOp}
    (h : task.OnlyStops) (hops : task.ops = op :: rest) (w : SharedWorld) :
    (execLockOp task w rest op).2.OnlyStops := by
  have hrest : task.conflicted = true → ∀ values, .writes values ∈ rest → values.isStop = true :=
    fun hconflicted values hvalues =>
      h hconflicted values (by rw [hops]; exact List.mem_cons_of_mem _ hvalues)
  cases op with
  | selects worker =>
    show (task.selects w worker rest).OnlyStops
    unfold InstanceTask.selects
    split
    · intro _ values hvalues
      change LockOp.writes values ∈ (if worker then conflictOps else []) at hvalues
      split at hvalues
      · exact conflictOps_onlyStops hvalues
      · cases hvalues
    · exact hrest
  | checksExpired =>
    intro hconflicted values hvalues
    change LockOp.writes values ∈ (if _ then rest else []) at hvalues
    split at hvalues
    · exact hrest hconflicted values hvalues
    · cases hvalues
  | upserts => exact hrest
  | loads => exact hrest
  | releases failed => exact hrest
  | reads => exact hrest
  | writes values => exact hrest
  | writesStart => exact hrest

theorem SharedWorld.Recorded.execLockOp {w : SharedWorld} (h : w.Recorded) (task : InstanceTask)
    (rest : List LockOp) (op : LockOp) : (AutoCoinBot.execLockOp task w rest op).1.Recorded := by
  cases op with
  | selects worker => exact h
  | upserts =>
    show (task.pending.elim w _).Recorded
    cases task.pending with
    | none => exact h
    | some p =>
      intro row hrow _
      obtain rfl := Option.some.inj hrow
      show task.instanceId ∈ (if w.inForce then task.instanceId :: w.passed else [task.instanceId])
      split <;> exact List.mem_cons_self
  | loads => exact h
  | releases failed =>
    intro row' hrow' hrunning
    obtain ⟨row, hrow, rfl⟩ := Option.map_eq_some_iff.mp hrow'
    unfold RuntimeLock.released at hrunning ⊢
    split at hrunning
    · -- what a release has written is not taken
      have hstatus : (if failed then "FAILED" else "STOPPED") ≠ "RUNNING" := by
        cases failed <;> decide
      exact absurd hrunning hstatus
    · rename_i hne
      rw [if_neg hne]
      exact h row hrow hrunning
  | checksExpired => exact h
  | reads => exact h
  | writes values => exact h
  | writesStart => exact h

/-! ## One step -/

theorem SharedWorld.inForce_of_blocks {w : SharedWorld} {instanceId : String}
    (h : w.blocks instanceId = true) : w.inForce = true := by
  obtain ⟨row, hrow, hblocks⟩ := (Option.any_eq_true _ _).mp h
  unfold RuntimeLock.blocks at hblocks
  simp only [Bool.and_eq_true] at hblocks
  exact (Option.any_eq_true _ _).mpr ⟨row, hrow, by simp [hblocks.1.1, hblocks.2]⟩

theorem endsLockOfOther_of_lock_eq {w w' : SharedWorld} (h : w'.lock = w.lock)
    (instanceId : String) : endsLockOfOther w w' instanceId = false := by
  unfold endsLockOfOther
  rw [h]
  cases hblocks : w.blocks instanceId with
  | false => rfl
  | true =>
    obtain ⟨row, hrow, hrunning⟩ := (Option.any_eq_true _ _).mp (SharedWorld.inForce_of_blocks hblocks)
    rw [Bool.and_eq_true] at hrunning
    have hany : w.lock.any (fun row => row.status == "RUNNING") = true :=
      (Option.any_eq_true _ _).mpr ⟨row, hrow, hrunning.1⟩
    rw [hany]
    rfl

theorem endsLockOfOther_released (w : SharedWorld) (instanceId owner : String) (failed : Bool) :
    endsLockOfOther w { w with
        lock := w.lock.map (fun row =>
          row.released owner (if failed then "FAILED" else "STOPPED") w.clock) } instanceId
      = w.lock.any (fun row => row.instanceId == owner && row.blocks instanceId w.clock) := by
  unfold endsLockOfOther SharedWorld.blocks
  cases w.lock with
  | none => rfl
  | some row =>
    simp only [Option.map_some, Option.any_some]
    unfold RuntimeLock.released
    by_cases howner : row.instanceId = owner
    · rw [if_pos howner]
      have hstatus : ((if failed then "FAILED" else "STOPPED") == "RUNNING") = false := by
        cases failed <;> decide
      simp [howner, hstatus]
    · rw [if_neg howner]
      have hne : (row.instanceId == owner) = false := by simpa using howner
      rw [hne, Bool.false_and]
      -- a row that blocks is taken
      unfold RuntimeLock.blocks
      cases row.status == "RUNNING" <;> simp

theorem onePassed_upsert_iff {w : SharedWorld} (hone : w.OnePassed) (hrecorded : w.Recorded)
    (instanceId : String) (p : PendingAcquire) :
    (w.upsert instanceId p).OnePassed ↔ w.blocks instanceId = false := by
  have hpassed : (w.upsert instanceId p).passed
      = if w.inForce then instanceId :: w.passed else [instanceId] := rfl
  unfold SharedWorld.OnePassed
  rw [hpassed]
  cases hforce : w.inForce with
  | false =>
    have hblocks : w.blocks instanceId = false := by
      by_contra hne
      have := SharedWorld.inForce_of_blocks (Bool.eq_true_of_not_eq_false hne)
      rw [hforce] at this
      cases this
    simp [hblocks]
  | true =>
    obtain ⟨row, hrow, hrunning⟩ := (Option.any_eq_true _ _).mp hforce
    rw [Bool.and_eq_true, beq_iff_eq] at hrunning
    have hpassed : row.instanceId ∈ w.passed := hrecorded row hrow hrunning.1
    have hblocks : w.blocks instanceId = false ↔ row.instanceId = instanceId := by
      unfold SharedWorld.blocks RuntimeLock.blocks
      rw [hrow]
      simp [hrunning.1, hrunning.2]
    rw [hblocks, if_pos rfl]
    constructor
    · intro h
      exact h _ (List.mem_cons_of_mem _ hpassed) _ List.mem_cons_self
    · intro hsame
      have hall : ∀ i ∈ instanceId :: w.passed, i = instanceId := by
        intro i hi
        rcases List.mem_cons.mp hi with rfl | hi
        · rfl
        · exact (hone i hi _ hpassed).trans hsame
      intro i hi j hj
      exact (hall i hi).trans (hall j hj).symm

section Steps

variable {w : SharedWorld} {task : InstanceTask} {rest : List LockOp}

theorem resumeInstanceCall_cons {op : LockOp} (hops : task.ops = op :: rest) :
    (resumeInstanceCall task w).1 = (execLockOp task w rest op).1 := by
  unfold resumeInstanceCall
  rw [hops]

theorem lockRespected_of_kept {w' : SharedWorld} (hw : (resumeInstanceCall task w).1 = w')
    (hlock : w'.lock = w.lock) (hpassed : w'.passed = w.passed) (hone : w.OnePassed)
    (hrunning : task.conflicted = true → w.state.workerStatus = .running →
      w'.state.workerStatus = .running) : LockRespected w task := by
  subst hw
  refine ⟨fun _ => endsLockOfOther_of_lock_eq hlock _, hrunning, ?_⟩
  rw [hpassed]
  exact hone

theorem lockRespected_upserts_iff (hone : w.OnePassed) (hrecorded : w.Recorded)
    (hops : task.ops = .upserts :: rest) :
    LockRespected w task ↔ (task.pending.isNone || !w.blocks task.instanceId) = true := by
  have hw : (resumeInstanceCall task w).1
      = task.pending.elim w (fun p => w.upsert task.instanceId p) := resumeInstanceCall_cons hops
  cases hpending : task.pending with
  | none =>
    rw [hpending] at hw
    exact iff_of_true (lockRespected_of_kept hw rfl rfl hone (fun _ h => h)) rfl
  | some p =>
    rw [hpending, Option.elim_some] at hw
    have hiff := onePassed_upsert_iff hone hrecorded task.instanceId p
    rw [Option.isNone_some, Bool.false_or, Bool.not_eq_true', ← hiff]
    constructor
    · intro h
      have hpassed := h.onePassed
      rw [hw] at hpassed
      exact hpassed
    · intro hpassed
      refine ⟨fun _ => ?_, fun _ hrunning => ?_, ?_⟩
      · rw [hw]
        exact Bool.and_eq_false_iff.mpr (.inr rfl)
      · rw [hw]
        exact hrunning
      · rw [hw]
        exact hpassed

theorem lockRespected_releases_iff (hone : w.OnePassed) {failed : Bool}
    (hops : task.ops = .releases failed :: rest) :
    LockRespected w task
      ↔ (task.operator || task.owner == task.instanceId
        || !w.lock.any (fun row =>
          row.instanceId == task.owner && row.blocks task.instanceId w.clock)) = true := by
  have hw : (resumeInstanceCall task w).1 = _ := resumeInstanceCall_cons hops
  have hends := endsLockOfOther_released w task.instanceId task.owner failed
  constructor
  · intro h
    cases hoperator : task.operator with
    | true => rfl
    | false =>
      have hkept := h.kept hoperator
      rw [hw] at hkept
      rw [Bool.false_or, hends.symm.trans hkept, Bool.not_false, Bool.or_true]
  · intro hown
    refine ⟨fun hoperator => ?_, fun _ hrunning => ?_, ?_⟩
    · rw [hw]
      refine hends.trans ?_
      rw [hoperator, Bool.false_or, Bool.or_eq_true] at hown
      rcases hown with hself | hnone
      · -- its own lock does not block it
        rw [beq_iff_eq] at hself
        rw [hself, Option.any_eq_false]
        intro row _
        unfold RuntimeLock.blocks
        cases hinstance : row.instanceId == task.instanceId <;> simp [bne, hinstance]
      · rwa [Bool.not_eq_true'] at hnone
    · rw [hw]
      exact hrunning
    · rw [hw]
      exact hone

theorem lockRespected_writes_iff (hone : w.OnePassed) (honly : task.OnlyStops)
    {values : StateValues} (hops : task.ops = .writes values :: rest) :
    LockRespected w task
      ↔ (!(task.conflicted && w.state.workerStatus == .running)) = true := by
  have hw : (resumeInstanceCall task w).1 = _ := resumeInstanceCall_cons hops
  constructor
  · intro h
    by_contra hnot
    rw [Bool.not_eq_true, Bool.not_eq_false', Bool.and_eq_true, beq_iff_eq] at hnot
    have hmem : LockOp.writes values ∈ task.ops := by
      rw [hops]
      exact List.mem_cons_self
    have hstop : values.isStop = true := honly hnot.1 values hmem
    have hrunning := h.running hnot.1 hnot.2
    rw [hw] at hrunning
    exact apply_stops hstop task.current hrunning
  · intro hfree
    refine lockRespected_of_kept hw rfl rfl hone (fun hconflicted hrunning => ?_)
    rw [hconflicted, hrunning] at hfree
    cases hfree

theorem lockRespected_iff (hone : w.OnePassed) (hrecorded : w.Recorded) (honly : task.OnlyStops) :
    LockRespected w task ↔ task.keepsToOwn w = true := by
  unfold InstanceTask.keepsToOwn
  cases hops : task.ops with
  | nil =>
    have hw : (resumeInstanceCall task w).1 = w := by
      unfold resumeInstanceCall
      rw [hops]
    exact iff_of_true (lockRespected_of_kept hw rfl rfl hone (fun _ h => h)) rfl
  | cons op rest =>
    have hw := @resumeInstanceCall_cons w task rest op hops
    cases op with
    | selects worker =>
      exact iff_of_true (lockRespected_of_kept hw rfl rfl hone (fun _ h => h)) rfl
    | loads => exact iff_of_true (lockRespected_of_kept hw rfl rfl hone (fun _ h => h)) rfl
    | checksExpired =>
      exact iff_of_true (lockRespected_of_kept hw rfl rfl hone (fun _ h => h)) rfl
    | reads => exact iff_of_true (lockRespected_of_kept hw rfl rfl hone (fun _ h => h)) rfl
    | writesStart =>
      exact iff_of_true (lockRespected_of_kept hw rfl rfl hone (fun _ _ => rfl)) rfl
    | upserts => exact lockRespected_upserts_iff hone hrecorded hops
    | releases failed => exact lockRespected_releases_iff hone hops
    | writes values => exact lockRespected_writes_iff hone honly hops

end Steps

/-! ## Runs -/

/-- What the steps that respect the locks keep. -/
structure LocksInv (s : Waiting SharedWorld InstanceTask) : Prop where
  onePassed : s.world.OnePassed
  recorded : s.world.Recorded
  onlyStops : ∀ task ∈ s.tasks, task.OnlyStops

theorem LocksInv.step {s : Waiting SharedWorld InstanceTask} (h : LocksInv s)
    {e : Happening ℕ (String × InstanceCall) Unit} (hok : OnlyHolderReleases s e) :
    LocksInv (instanceCalls.step s e) := by
  cases e with
  | moves seconds => exact ⟨h.onePassed, h.recorded, h.onlyStops⟩
  | begins call =>
    refine ⟨h.onePassed, h.recorded, fun task htask => ?_⟩
    rcases List.mem_append.mp htask with hold | hnew
    · exact h.onlyStops task hold
    · obtain rfl := Option.some.inj (Option.mem_toList.mp hnew)
      intro hconflicted
      obtain ⟨instanceId, call⟩ := call
      cases call <;> cases hconflicted
  | replies i reply =>
    cases htask : s.tasks[i]? with
    | none =>
      rw [instanceCalls.step_replies_none reply htask]
      exact h
    | some task =>
      have hrespected : LockRespected s.world task := hok task htask
      have honly : task.OnlyStops := h.onlyStops task (List.mem_of_getElem? htask)
      rw [instanceCalls.step_replies_some reply htask]
      refine ⟨hrespected.onePassed, ?_, fun other hother => ?_⟩
      · show (resumeInstanceCall task s.world).1.Recorded
        unfold resumeInstanceCall
        cases task.ops with
        | nil => exact h.recorded
        | cons op rest => exact h.recorded.execLockOp task rest op
      · rcases List.mem_append.mp hother with hold | hnew
        · exact h.onlyStops other (List.mem_of_mem_eraseIdx hold)
        · change other ∈ (resumeInstanceCall task s.world).2.toList at hnew
          unfold resumeInstanceCall at hnew
          cases hops : task.ops with
          | nil =>
            rw [hops] at hnew
            cases hnew
          | cons op rest =>
            rw [hops] at hnew
            obtain rfl := Option.some.inj (Option.mem_toList.mp hnew)
            exact onlyStops_execLockOp honly hops s.world

theorem LocksInv.respected_iff {s : Waiting SharedWorld InstanceTask} (h : LocksInv s)
    (e : Happening ℕ (String × InstanceCall) Unit) : OnlyHolderReleases s e ↔ KeepsToOwn s e := by
  cases e with
  | moves seconds => exact Iff.rfl
  | begins call => exact Iff.rfl
  | replies i reply =>
    refine forall₂_congr (fun task htask => ?_)
    exact lockRespected_iff h.onePassed h.recorded
      (h.onlyStops task (List.mem_of_getElem? htask))

/-- A database in which the lock may be taken. -/
def sharedDatabase (clock : UtcTime) (lock : Option RuntimeLock) (state : ProtectedAutoState) :
    Waiting SharedWorld InstanceTask where
  world := { clock := clock, lock := lock, state := state
             passed := (lock.map RuntimeLock.instanceId).toList }

/-- **Only the holder releases**, in exactly the runs in which every step keeps to the lock of its
own instance. -/
theorem onlyHolderReleases_iff (clock : UtcTime) (lock : Option RuntimeLock)
    (state : ProtectedAutoState) (es : List (Happening ℕ (String × InstanceCall) Unit)) :
    StepsOk instanceCalls.step OnlyHolderReleases (sharedDatabase clock lock state) es
      ↔ StepsOk instanceCalls.step KeepsToOwn (sharedDatabase clock lock state) es := by
  have hinit : LocksInv (sharedDatabase clock lock state) := by
    refine ⟨?_, ?_, fun task htask => absurd htask List.not_mem_nil⟩
    · intro i hi j hj
      have hi : i ∈ lock.map RuntimeLock.instanceId := Option.mem_toList.mp hi
      have hj : j ∈ lock.map RuntimeLock.instanceId := Option.mem_toList.mp hj
      exact Option.mem_unique hi hj
    · intro row hrow _
      have hlock : lock = some row := hrow
      show row.instanceId ∈ (lock.map RuntimeLock.instanceId).toList
      simp [hlock]
  exact stepsOk_congr_of_kept (fun _ _ h hok => h.step hok) (fun _ e h => h.respected_iff e) hinit es

/-- One instance runs the daemon; the worker of another finds its row, and not its own lock. -/
def exampleConflict : List (Happening ℕ (String × InstanceCall) Unit) :=
  [.begins ("api-1", .start), .replies 0 (), .replies 0 (), .replies 0 (), .replies 0 (),
   .replies 0 (), .moves 60,
   .begins ("worker-2", .daemon (.tick { rest := .startsJob })), .replies 0 (), .replies 0 (),
   .replies 0 ()]

/-- **The worker ends the lock of the other.** -/
theorem conflict_releases :
    ¬ ∀ es, StepsOk instanceCalls.step OnlyHolderReleases (sharedDatabase 0 none {}) es := by
  intro h
  exact absurd (h exampleConflict) (by decide +kernel)

end AutoCoinBot
