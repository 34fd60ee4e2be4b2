/-
  Database.RuntimeLocks — `acquire_runtime_lock`, `release_runtime_lock`.

  An instance acquires a lock in two steps of the database: a `SELECT` that looks for a
  foreign lock in force, and an upsert that writes its own without looking again. The
  connection opens its transaction with the upsert, so other instances may write between
  the two.
-/
import AutoCoinBot.Database.Values
import AutoCoinBot.Library.Lease

namespace AutoCoinBot

open Library

/-! ## The table and the calls -/

/-- A row of `runtime_locks`. -/
structure RuntimeLock where
  lockId : String
  instanceId : String
  hostname : String
  appEnv : String
  runtimeOwner : String
  status : String
  acquiredAt : UtcTime
  expiresAt : UtcTime
  updatedAt : UtcTime

/-- The arguments of `acquire_runtime_lock`. -/
structure AcquireRequest where
  lockId : String
  instanceId : String
  hostname : String := ""
  appEnv : String := ""
  runtimeOwner : String := ""
  ttlSeconds : ℤ

/-- What a call carries from its `SELECT` to its upsert. -/
structure PendingAcquire where
  hostname : String
  appEnv : String
  runtimeOwner : String
  nowUtc : UtcTime
  expiresAt : UtcTime

/-- The lock of another instance, in force at `now_utc`. -/
def RuntimeLock.blocks (current : RuntimeLock) (instanceId : String) (nowUtc : UtcTime) : Bool :=
  current.status == "RUNNING" && current.instanceId != instanceId
    && decide (nowUtc < current.expiresAt)

/-- What a release writes over a row of the instance that releases. -/
def RuntimeLock.released (row : RuntimeLock) (instanceId status : String) (nowUtc : UtcTime) :
    RuntimeLock :=
  if row.instanceId = instanceId then
    { row with status := status, expiresAt := nowUtc, updatedAt := nowUtc }
  else row

/-- The clock, the rows by their `lock_id`, and for every instance the call it is in and
what its last acquire returned: the `expires_at` it wrote if that was `True` and it has
not released since. -/
structure LockSystem where
  clock : UtcTime := 0
  runtimeLocks : String → Option RuntimeLock := fun _ => none
  pending : String → String → Option PendingAcquire := fun _ _ => none
  acquired : String → String → Option UtcTime := fun _ _ => none

/-- The steps of the instances, and time passing. -/
inductive LockEvent where
  | select (request : AcquireRequest)
  | upsert (lockId instanceId : String)
  | release (lockId instanceId status : String)
  | tick (seconds : ℕ)

/-- The entry of one instance at one lock, replaced. -/
def setEntry {α : Type} (f : String → String → α) (lockId instanceId : String) (x : α) :
    String → String → α :=
  Function.update f lockId (Function.update (f lockId) instanceId x)

def PendingAcquire.row (p : PendingAcquire) (lockId instanceId : String) : RuntimeLock :=
  { lockId := lockId
    instanceId := instanceId
    hostname := p.hostname
    appEnv := p.appEnv
    runtimeOwner := p.runtimeOwner
    status := "RUNNING"
    acquiredAt := p.nowUtc
    expiresAt := p.expiresAt
    updatedAt := p.nowUtc }

/-! ## The lease of a row -/

/-- The lease a row stands for while it is in force. -/
def RuntimeLock.lease (row : RuntimeLock) (nowUtc : UtcTime) : Option (Lease String UtcTime) :=
  if row.status = "RUNNING" ∧ nowUtc < row.expiresAt then some ⟨row.instanceId, row.expiresAt⟩
  else none

section RowLease

variable (row : RuntimeLock) (nowUtc : UtcTime)

theorem RuntimeLock.blocks_iff (instanceId : String) :
    row.blocks instanceId nowUtc = true ↔ ∃ l ∈ row.lease nowUtc, l.owner ≠ instanceId := by
  unfold RuntimeLock.blocks RuntimeLock.lease
  by_cases hlive : row.status = "RUNNING" ∧ nowUtc < row.expiresAt
  · rw [if_pos hlive]
    simp [hlive.1, hlive.2]
  · rw [if_neg hlive]
    simp only [Option.not_mem_none, false_and, exists_false, iff_false]
    intro h
    simp only [Bool.and_eq_true, beq_iff_eq, bne_iff_ne, decide_eq_true_eq] at h
    exact hlive ⟨h.1.1, h.2⟩

theorem RuntimeLock.lease_released (instanceId status : String) :
    (row.released instanceId status nowUtc).lease nowUtc
      = (row.lease nowUtc).filter (fun l => l.owner ≠ instanceId) := by
  unfold RuntimeLock.released
  by_cases hinstance : row.instanceId = instanceId
  · -- the released row expires now
    have hexpired : ∀ row' : RuntimeLock, row'.expiresAt = nowUtc → row'.lease nowUtc = none := by
      intro row' hexpires
      refine if_neg (fun h => ?_)
      rw [hexpires] at h
      exact lt_irrefl _ h.2
    rw [if_pos hinstance, hexpired _ rfl]
    unfold RuntimeLock.lease
    split
    · exact (Option.filter_some_neg (by simpa using hinstance)).symm
    · rfl
  · rw [if_neg hinstance]
    unfold RuntimeLock.lease
    split
    · exact (Option.filter_some_pos (by simpa using hinstance)).symm
    · rfl

theorem RuntimeLock.lease_later {later : UtcTime} (h : nowUtc ≤ later) :
    row.lease later = (row.lease nowUtc).filter (fun l => later < l.expires) := by
  unfold RuntimeLock.lease
  by_cases hrunning : row.status = "RUNNING"
  · by_cases hlater : later < row.expiresAt
    · have hnow : nowUtc < row.expiresAt := lt_of_le_of_lt h hlater
      rw [if_pos ⟨hrunning, hlater⟩, if_pos ⟨hrunning, hnow⟩]
      exact (Option.filter_some_pos (by simpa using hlater)).symm
    · rw [if_neg (fun h => hlater h.2)]
      split
      · exact (Option.filter_some_neg (by simpa using hlater)).symm
      · rfl
  · rw [if_neg (fun h => hrunning h.1), if_neg (fun h => hrunning h.1)]
    rfl

end RowLease

namespace LockSystem

/-- The `SELECT` of `acquire_runtime_lock` found a foreign lock in force. -/
def blocked (s : LockSystem) (lockId instanceId : String) : Bool :=
  (s.runtimeLocks lockId).any (fun current => current.blocks instanceId s.clock)

/-- The first step of `acquire_runtime_lock`: it reads the clock and the row, and returns
`False` on a foreign lock in force. -/
def selectStep (s : LockSystem) (request : AcquireRequest) : LockSystem :=
  if s.blocked request.lockId request.instanceId then
    -- returns False, and gives up nothing that is in the table
    { s with
      pending := setEntry s.pending request.lockId request.instanceId none
      acquired := setEntry s.acquired request.lockId request.instanceId none }
  else
    { s with
      pending := setEntry s.pending request.lockId request.instanceId
        (some { hostname := request.hostname
                appEnv := request.appEnv
                runtimeOwner := request.runtimeOwner
                nowUtc := s.clock
                expiresAt := s.clock + request.ttlSeconds }) }

/-- The second step: `INSERT … ON CONFLICT(lock_id) DO UPDATE`, the commit, and `True`. -/
def upsertStep (s : LockSystem) (lockId instanceId : String) : LockSystem :=
  match s.pending lockId instanceId with
  | none => s
  | some p =>
    { s with
      -- DO UPDATE has no WHERE: the row of any instance is overwritten
      runtimeLocks := Function.update s.runtimeLocks lockId (some (p.row lockId instanceId))
      pending := setEntry s.pending lockId instanceId none
      acquired := setEntry s.acquired lockId instanceId (some p.expiresAt) }

/-- `release_runtime_lock`: `UPDATE … WHERE lock_id = ? AND instance_id = ?`. -/
def releaseStep (s : LockSystem) (lockId instanceId status : String) : LockSystem :=
  { s with
    runtimeLocks := Function.update s.runtimeLocks lockId
      ((s.runtimeLocks lockId).map (fun row => row.released instanceId status s.clock))
    -- an instance that releases holds nothing, also if the row was not its own
    acquired := setEntry s.acquired lockId instanceId none }

def step (s : LockSystem) : LockEvent → LockSystem
  | .select request => s.selectStep request
  | .upsert lockId instanceId => s.upsertStep lockId instanceId
  | .release lockId instanceId status => s.releaseStep lockId instanceId status
  | .tick seconds => { s with clock := s.clock + seconds }

/-- An instance holds a lock: its last acquire returned `True`, it has not released, and
the `expires_at` it wrote is in the future. -/
def Holds (s : LockSystem) (lockId instanceId : String) : Prop :=
  ∃ expiresAt, s.acquired lockId instanceId = some expiresAt ∧ s.clock < expiresAt

def MutuallyExclusive (s : LockSystem) : Prop :=
  ∀ lockId i j, s.Holds lockId i → s.Holds lockId j → i = j

/-- An upsert that finds no foreign lock in force. -/
def Unblocked (s : LockSystem) : LockEvent → Prop
  | .upsert lockId instanceId =>
    (s.pending lockId instanceId).isSome → s.blocked lockId instanceId = false
  | _ => True

instance (s : LockSystem) : (e : LockEvent) → Decidable (s.Unblocked e)
  | .select _ => isTrue trivial
  | .upsert lockId instanceId =>
    inferInstanceAs (Decidable
      ((s.pending lockId instanceId).isSome → s.blocked lockId instanceId = false))
  | .release _ _ _ => isTrue trivial
  | .tick _ => isTrue trivial

/-! ## One lock is a lease -/

def lease (s : LockSystem) (lockId : String) : LeaseState String UtcTime :=
  { clock := s.clock
    record := (s.runtimeLocks lockId).bind (fun row => row.lease s.clock)
    granted := s.acquired lockId }

/-- What a step does to the lease of one lock. -/
def leaseEvents (s : LockSystem) (lockId : String) : LockEvent → List (LeaseEvent String UtcTime)
  | .select request =>
    if request.lockId = lockId ∧ s.blocked lockId request.instanceId then
      [.refuse request.instanceId]
    else []
  | .upsert id instanceId =>
    if id = lockId then
      ((s.pending lockId instanceId).map
        (fun p => LeaseEvent.grant instanceId p.expiresAt)).toList
    else []
  | .release id instanceId _ => if id = lockId then [.release instanceId] else []
  | .tick seconds => [.advance (s.clock + seconds)]

theorem setEntry_self {α : Type} (f : String → String → α) (lockId instanceId : String) (x : α) :
    setEntry f lockId instanceId x lockId = Function.update (f lockId) instanceId x :=
  Function.update_self _ _ _

theorem setEntry_of_ne {α : Type} (f : String → String → α) {lockId id : String}
    (h : lockId ≠ id) (instanceId : String) (x : α) :
    setEntry f id instanceId x lockId = f lockId := Function.update_of_ne h _ _

theorem blocked_iff (s : LockSystem) (lockId instanceId : String) :
    s.blocked lockId instanceId = true
      ↔ ∃ l ∈ (s.lease lockId).record, l.owner ≠ instanceId := by
  unfold blocked lease
  cases hrow : s.runtimeLocks lockId with
  | none => simp
  | some row => exact row.blocks_iff s.clock instanceId

section Steps

variable (s : LockSystem) (lockId : String)

theorem lease_selectStep (request : AcquireRequest) :
    (s.selectStep request).lease lockId
      = run LeaseState.step (s.lease lockId) (s.leaseEvents lockId (.select request)) := by
  -- a select of another lock leaves the lease of this one
  unfold selectStep
  dsimp only [leaseEvents]
  by_cases hid : request.lockId = lockId
  · subst hid
    by_cases hblocked : s.blocked request.lockId request.instanceId = true
    · rw [if_pos hblocked, if_pos ⟨rfl, hblocked⟩]
      show LeaseState.mk s.clock _ (setEntry s.acquired request.lockId request.instanceId none _)
        = _
      rw [setEntry_self]
      rfl
    · rw [if_neg hblocked, if_neg (fun h => hblocked h.2)]
      rfl
  · rw [@if_neg (request.lockId = lockId ∧ _) _ (fun h => hid h.1)]
    split
    · show LeaseState.mk s.clock _ (setEntry s.acquired request.lockId request.instanceId none _)
        = _
      rw [setEntry_of_ne s.acquired (Ne.symm hid)]
      rfl
    · rfl

theorem lease_upsertStep (id instanceId : String) :
    (s.upsertStep id instanceId).lease lockId
      = run LeaseState.step (s.lease lockId) (s.leaseEvents lockId (.upsert id instanceId)) := by
  unfold upsertStep
  dsimp only [leaseEvents]
  by_cases hid : id = lockId
  · subst hid
    rw [if_pos rfl]
    cases hpending : s.pending id instanceId with
    | none => rfl
    | some p =>
      -- the row written is in force exactly if the grant is
      have hrow : (p.row id instanceId).lease s.clock
          = if s.clock < p.expiresAt then some ⟨instanceId, p.expiresAt⟩ else none := by
        unfold RuntimeLock.lease PendingAcquire.row
        simp
      show LeaseState.mk s.clock
          ((Function.update s.runtimeLocks id (some (p.row id instanceId)) id).bind
            (fun row => row.lease s.clock))
          (setEntry s.acquired id instanceId (some p.expiresAt) id) = _
      rw [setEntry_self, Function.update_self, Option.bind_some, hrow]
      rfl
  · rw [if_neg hid]
    cases hpending : s.pending id instanceId with
    | none => rfl
    | some p =>
      show LeaseState.mk s.clock
          ((Function.update s.runtimeLocks id (some (p.row id instanceId)) lockId).bind
            (fun row => row.lease s.clock))
          (setEntry s.acquired id instanceId (some p.expiresAt) lockId) = _
      rw [setEntry_of_ne s.acquired (Ne.symm hid), Function.update_of_ne (Ne.symm hid)]
      rfl

theorem lease_releaseStep (id instanceId status : String) :
    (s.releaseStep id instanceId status).lease lockId
      = run LeaseState.step (s.lease lockId)
          (s.leaseEvents lockId (.release id instanceId status)) := by
  unfold releaseStep
  dsimp only [leaseEvents]
  by_cases hid : id = lockId
  · subst hid
    rw [if_pos rfl]
    show LeaseState.mk s.clock
        ((Function.update s.runtimeLocks id _ id).bind (fun row => row.lease s.clock))
        (setEntry s.acquired id instanceId none id)
      = LeaseState.mk s.clock (((s.runtimeLocks id).bind (fun row => row.lease s.clock)).filter
          (fun l => l.owner ≠ instanceId)) _
    rw [setEntry_self, Function.update_self]
    congr 1
    cases hrow : s.runtimeLocks id with
    | none => rfl
    | some row => exact row.lease_released s.clock instanceId status
  · rw [if_neg hid]
    show LeaseState.mk s.clock
        ((Function.update s.runtimeLocks id _ lockId).bind (fun row => row.lease s.clock))
        (setEntry s.acquired id instanceId none lockId) = _
    rw [setEntry_of_ne s.acquired (Ne.symm hid), Function.update_of_ne (Ne.symm hid)]
    rfl

theorem lease_tick (seconds : ℕ) :
    (s.step (.tick seconds)).lease lockId
      = run LeaseState.step (s.lease lockId) (s.leaseEvents lockId (.tick seconds)) := by
  have hlater : s.clock ≤ s.clock + (seconds : ℤ) :=
    le_add_of_nonneg_right (Int.natCast_nonneg seconds)
  have hclock : max s.clock (s.clock + (seconds : ℤ)) = s.clock + (seconds : ℤ) :=
    max_eq_right hlater
  have hrecord : (s.runtimeLocks lockId).bind (fun row => row.lease (s.clock + (seconds : ℤ)))
      = ((s.runtimeLocks lockId).bind (fun row => row.lease s.clock)).filter
          (fun l => s.clock + (seconds : ℤ) < l.expires) := by
    cases hrow : s.runtimeLocks lockId with
    | none => rfl
    | some row => exact row.lease_later s.clock hlater
  show LeaseState.mk (s.clock + (seconds : ℤ))
      ((s.runtimeLocks lockId).bind (fun row => row.lease (s.clock + (seconds : ℤ))))
      (s.acquired lockId)
    = LeaseState.mk (max s.clock (s.clock + (seconds : ℤ)))
        (((s.runtimeLocks lockId).bind (fun row => row.lease s.clock)).filter
          (fun l => max s.clock (s.clock + (seconds : ℤ)) < l.expires)) (s.acquired lockId)
  rw [hclock, hrecord]

/-- **One lock is a lease**: every step of the system is, for each lock, what
`leaseEvents` says of it. -/
theorem lease_step (e : LockEvent) :
    (s.step e).lease lockId = run LeaseState.step (s.lease lockId) (s.leaseEvents lockId e) := by
  cases e with
  | select request => exact s.lease_selectStep lockId request
  | upsert id instanceId => exact s.lease_upsertStep lockId id instanceId
  | release id instanceId status => exact s.lease_releaseStep lockId id instanceId status
  | tick seconds => exact s.lease_tick lockId seconds

end Steps

/-! ## Runs -/

/-- Every lock a system remembers as held is recorded in its row. -/
def Recorded (s : LockSystem) : Prop := ∀ lockId, (s.lease lockId).Remembered

theorem unheld_of_unblocked {s : LockSystem} {e : LockEvent} (h : s.Unblocked e)
    (lockId : String) :
    StepsOk LeaseState.step LeaseState.Unheld (s.lease lockId) (s.leaseEvents lockId e) := by
  cases e with
  | select request =>
    dsimp only [leaseEvents]
    split
    · exact ⟨trivial, trivial⟩
    · exact trivial
  | upsert id instanceId =>
    dsimp only [leaseEvents]
    split
    · next hid =>
        subst hid
        cases hpending : s.pending id instanceId with
        | none => exact trivial
        -- a record of another owner would have blocked the upsert
        | some p =>
          refine ⟨?_, trivial⟩
          intro l hl
          have hfree : s.blocked id instanceId = false := h (by rw [hpending]; rfl)
          by_contra howner
          have hblocked := (s.blocked_iff id instanceId).mpr ⟨l, hl, howner⟩
          rw [hfree] at hblocked
          cases hblocked
    · exact trivial
  | release id instanceId status =>
    dsimp only [leaseEvents]
    split
    · exact ⟨trivial, trivial⟩
    · exact trivial
  | tick seconds => exact ⟨trivial, trivial⟩

theorem recorded_step {s : LockSystem} {e : LockEvent} (hs : s.Recorded) (he : s.Unblocked e) :
    (s.step e).Recorded := by
  intro lockId
  rw [s.lease_step lockId e]
  exact LeaseState.remembered_run (hs lockId) (unheld_of_unblocked he lockId)

theorem recorded_run {s : LockSystem} (hnone : ∀ lockId i, s.acquired lockId i = none)
    {events : List LockEvent} (hok : StepsOk step Unblocked s events) :
    (run step s events).Recorded := by
  have hstart : s.Recorded :=
    fun lockId => LeaseState.remembered_of_granted_none (hnone lockId)
  have hkeep : ∀ (s : LockSystem) e, s.Recorded → s.Unblocked e → (s.step e).Recorded :=
    fun s e hs he => recorded_step hs he
  exact run_invariant_of_stepsOk hkeep hstart hok

theorem Recorded.mutuallyExclusive {s : LockSystem} (h : s.Recorded) : s.MutuallyExclusive :=
  fun lockId => (h lockId).exclusive

/-- **No two instances hold a lock**, from any system where none does, as long as no
upsert finds a foreign lock in force. -/
theorem runtime_lock_exclusive (s : LockSystem) (hnone : ∀ lockId i, s.acquired lockId i = none)
    (events : List LockEvent) (hok : StepsOk step Unblocked s events) (n : ℕ) :
    (run step s (events.take n)).MutuallyExclusive := by
  -- a prefix of the run meets the condition too
  have hrun : (run step s (events.take n)).Recorded := recorded_run hnone (hok.take n)
  exact hrun.mutuallyExclusive

/-- One worker takes the lock over when the other has released it. -/
def handover : List LockEvent :=
  [.select ⟨"auto-trading", "api-1", "", "", "", 3600⟩, .upsert "auto-trading" "api-1",
    .select ⟨"auto-trading", "worker-2", "", "", "", 3600⟩,
    .release "auto-trading" "api-1" "STOPPED", .tick 5,
    .select ⟨"auto-trading", "worker-2", "", "", "", 3600⟩, .upsert "auto-trading" "worker-2"]

theorem runtime_lock_exclusive_example :
    (run step { clock := 100 } (handover.take 7)).MutuallyExclusive :=
  runtime_lock_exclusive { clock := 100 } (fun _ _ => rfl) handover (by decide +kernel) 7

theorem runtime_lock_held_twice :
    ¬ (run step { clock := 100 } [.select ⟨"auto-trading", "api-1", "", "", "", 3600⟩,
      .select ⟨"auto-trading", "worker-2", "", "", "", 3600⟩, .upsert "auto-trading" "api-1",
      .upsert "auto-trading" "worker-2"]).MutuallyExclusive := by
  intro h
  have hsame : "api-1" = "worker-2" :=
    h "auto-trading" "api-1" "worker-2" ⟨3700, by decide +kernel, by decide +kernel⟩
      ⟨3700, by decide +kernel, by decide +kernel⟩
  revert hsame
  decide

end LockSystem

end AutoCoinBot
