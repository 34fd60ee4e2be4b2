/-
  ProtectedAutoWorker.GateSnapshots — the safety snapshots of app/protected_gate_snapshot.py, and
  what a start of the protected daemon finds in them.

  A refresh takes the lock of its process, reads the database, and then waits for the broker, the
  open orders and the equity, or for all the details at once. What its reads find, and what they
  raise, comes with the replies; a time is in whole seconds, as `utc_now` gives it.
-/
import AutoCoinBot.ControlledAutoLive.PositionLoopReports
import AutoCoinBot.Library.Await

namespace AutoCoinBot

open Library

/-! ## Snapshots -/

inductive BrokerStatus where
  | unknown | ready | notReady
  deriving DecidableEq

inductive EmergencyStatus where
  | unknown | on | off
  deriving DecidableEq

/-- The `status` of `_exchange_open_orders_for_markets`: all markets have answered, some, or
none with an order. -/
inductive OrderCheckStatus where
  | unknown | success | someAnswered | unavailable
  deriving DecidableEq

/-- `notAllowed` is `PARTIAL`. -/
inductive RefreshStatus where
  | success | notAllowed | timeout | failed
  deriving DecidableEq

inductive LoadGuardStatus where
  | unknown | ok | warningForceRefresh | blocked
  deriving DecidableEq

/-- What a refresh has found so far. -/
structure GateFindings where
  broker : BrokerStatus := .unknown
  emergency : EmergencyStatus := .unknown
  orderCheck : OrderCheckStatus := .unknown
  exchangeOpenOrderCount : ℕ := 0
  dbOpenOrderCount : ℕ := 0
  accountingPendingCount : ℕ := 0
  accountingFailedCount : ℕ := 0
  protectedOpenPositionCount : ℕ := 0
  currentEpochSanityPassed : Bool := false

/-- A row of `protected_auto_safety_snapshots`. -/
structure SafetySnapshot where
  id : ℕ := 0
  snapshotId : String := ""
  exchange : String
  createdAt : UtcTime
  expiresAt : UtcTime
  findings : GateFindings := {}
  gateBlockers : List GateBlocker
  -- `gate_allowed`, and `critical_gate_allowed` and `protected_start_allowed` with it
  gateAllowed : Bool := false
  -- of `controlled_gate`
  protectedFullAutoLiveAllowed : Bool := false
  criticalGateOnly : Bool := false
  refreshStatus : RefreshStatus
  serverLoadGuardStatus : LoadGuardStatus

instance : Row SafetySnapshot := ⟨SafetySnapshot.id⟩

/-- `ORDER BY created_at_utc DESC, id DESC`. -/
def SafetySnapshot.newer (a b : SafetySnapshot) : Prop :=
  b.createdAt < a.createdAt ∨ b.createdAt = a.createdAt ∧ b.id ≤ a.id

instance : DecidableRel SafetySnapshot.newer := fun _ _ => inferInstanceAs (Decidable (_ ∨ _))

instance : Std.Total SafetySnapshot.newer := ⟨fun a b => by
  unfold SafetySnapshot.newer
  grind⟩

instance : IsTrans SafetySnapshot SafetySnapshot.newer :=
  ⟨fun a b c => by
    unfold SafetySnapshot.newer
    grind⟩

structure GateSnapshotConfig where
  snapshotTtlSeconds : ℤ := 60
  serverLoadBlockThreshold : ℚ := 3
  serverMemoryBlockRatio : ℚ := 23 / 25
  recentTimeoutCooldownSeconds : ℤ := 30

/-- The clock, the snapshots, and `_REFRESH_LOCK`. -/
structure GateWorld where
  clock : UtcTime
  snapshots : Table SafetySnapshot := .empty
  refreshLocked : Bool := false

def loadProtectedAutoSafetySnapshot (w : GateWorld) (exchange : String) : Option SafetySnapshot :=
  (w.snapshots.rows.insertionSort SafetySnapshot.newer).find? (fun row => row.exchange == exchange)

/-- `ON CONFLICT(snapshot_id) DO NOTHING`. -/
def insertProtectedAutoSafetySnapshot (w : GateWorld) (row : SafetySnapshot) : GateWorld :=
  { w with
    snapshots := w.snapshots.insertOrIgnore SafetySnapshot.snapshotId
      (fun id => { row with id := id }) (fun _ => rfl) }

/-! ## Checks -/

def blockerIf (c : Prop) [Decidable c] (blocker : GateBlocker) : List GateBlocker :=
  if c then [blocker] else []

@[simp] theorem blockerIf_eq_nil {c : Prop} [Decidable c] {blocker : GateBlocker} :
    blockerIf c blocker = [] ↔ ¬ c := by
  unfold blockerIf
  split_ifs with h <;> simp [h]

/-- `_resource_snapshot`, as far as the guard reads it. -/
structure ServerResources where
  loadAverage : Option ℚ := none
  memUsedRatio : Option ℚ := none

/-- The current accounting epoch. -/
structure GateEpoch where
  epochStatus : String
  epochTrustLevel : Option String := none

/-- The blockers of `_lightweight_epoch_sanity`; it is passed without one. -/
def lightweightEpochSanity (epoch : Option GateEpoch) (pending failed : ℕ) (equityFresh : Bool) :
    List GateBlocker :=
  match epoch with
  | none => [{ code := "CURRENT_EPOCH_MISSING" }]
  | some epoch =>
    blockerIf (epoch.epochStatus.toUpper ≠ "ACTIVE") { code := "CURRENT_EPOCH_NOT_ACTIVE" }
      ++ blockerIf ((orText (toText epoch.epochTrustLevel) "LOW").toUpper = "LOW")
        { code := "CURRENT_EPOCH_TRUST_LOW" }
      ++ blockerIf (pending ≠ 0) ⟨"CURRENT_EPOCH_ACCOUNTING_PENDING", pending⟩
      ++ blockerIf (failed ≠ 0) ⟨"CURRENT_EPOCH_ACCOUNTING_FAILED", failed⟩
      ++ blockerIf (equityFresh = false) { code := "EQUITY_SNAPSHOT_UNAVAILABLE" }

/-- `decide` of a critical refresh; no slot is empty where as many positions are open as may be. -/
def finalGateDecision (found : GateFindings) (epochBlockers : List GateBlocker) :
    List GateBlocker :=
  let count := found.protectedOpenPositionCount
  blockerIf (found.broker ≠ .ready) { code := "BROKER_NOT_READY" }
    ++ blockerIf (found.emergency = .on) { code := "EMERGENCY_STOP_ON" }
    ++ blockerIf (found.dbOpenOrderCount ≠ 0) ⟨"DB_OPEN_ORDER_EXISTS", found.dbOpenOrderCount⟩
    ++ blockerIf (found.exchangeOpenOrderCount ≠ 0)
      ⟨"EXCHANGE_OPEN_ORDER_EXISTS", found.exchangeOpenOrderCount⟩
    ++ blockerIf (found.orderCheck ≠ .success) { code := "EXCHANGE_OPEN_ORDER_CHECK_UNAVAILABLE" }
    ++ blockerIf (found.accountingPendingCount ≠ 0)
      ⟨"ACCOUNTING_PENDING", found.accountingPendingCount⟩
    ++ blockerIf (found.accountingFailedCount ≠ 0)
      ⟨"ACCOUNTING_FAILED", found.accountingFailedCount⟩
    ++ blockerIf (maxOpenPositions < count) ⟨"PROTECTED_MAX_OPEN_POSITIONS_EXCEEDED", count⟩
    ++ blockerIf (maxOpenPositions ≤ count) { code := "NO_PROTECTED_EMPTY_SLOT" }
    ++ epochBlockers

/-! ## Refreshes -/

/-- An exception: `TimeoutError`, or another of the given class. -/
inductive Raised where
  | timeout
  | error (className : String)
  deriving DecidableEq

/-- How an awaited call ends. -/
inductive Awaited (α : Type) where
  | cancelled
  | raised (exception : Raised)
  | returned (value : α)

structure RefreshRequest where
  exchange : String
  criticalOnly : Bool
  force : Bool := false

/-- What `_refresh_impl` returns: what the full refresh finds, and the blockers of its gate. -/
structure RefreshDetails where
  found : GateFindings
  blockers : List GateBlocker

/-- What a step of a refresh waits for, and what it reads then; it uses what its stage needs. -/
structure RefreshReply where
  latest : Except Raised Unit := .ok ()
  resources : Except Raised ServerResources := .ok {}
  -- the pending and the failed ones
  accounting : Except Raised (ℕ × ℕ) := .ok (0, 0)
  dbOpenOrderCount : Except Raised ℕ := .ok 0
  positions : Except Raised (List ScopedOrder × List ScopedPosition) := .ok ([], [])
  broker : Awaited (BrokerStatus × EmergencyStatus) := .returned (.ready, .off)
  markets : Except Raised Unit := .ok ()
  orders : Awaited (OrderCheckStatus × ℕ) := .returned (.success, 0)
  -- whether there is a fresh snapshot of the equity
  equity : Awaited Bool := .returned true
  epoch : Except Raised (Option GateEpoch) := .ok none
  details : Awaited RefreshDetails := .cancelled
  -- the ids that the row is stored under, at the first attempt and at the second
  snapshotId : Except Raised String := .ok "critical-1"
  snapshotId' : Except Raised String := .ok "critical-2"

/-- A refresh that has the lock; a full one finds nothing before its details. -/
structure Refresh where
  exchange : String
  guardStatus : LoadGuardStatus := .unknown
  found : GateFindings := {}
  blockers : List GateBlocker := []
  -- an awaited step has timed out
  timeoutStep : Bool := false
  refreshStatus : RefreshStatus := .success

/-- What a refresh waits for; only a full one waits for details. -/
inductive RefreshStage where
  | broker | orders | equity | details

/-- A refresh on its way: its turn has not come, or it has the lock. -/
inductive RefreshTask where
  | turn (request : RefreshRequest)
  | holds (stage : RefreshStage) (r : Refresh)

/-- How a stage of a refresh ends. -/
inductive StageEnd where
  | waits (stage : RefreshStage) (r : Refresh)
  -- cancelled, or an exception that no handler takes
  | drops
  -- `build_snapshot`, with the two outer handlers around it
  | stores (r : Refresh)
  -- an exception that one of these takes
  | raises (r : Refresh) (exception : Raised)
  -- a full refresh's row; no handler stands around it
  | inserts (row : SafetySnapshot)

section Refresh

variable (config : GateSnapshotConfig) (now : UtcTime)

def serverLoadGuard (latest : Option SafetySnapshot) (resources : ServerResources) (force : Bool) :
    LoadGuardStatus × List GateBlocker :=
  let blockers :=
    blockerIf (resources.loadAverage.any (config.serverLoadBlockThreshold < ·))
        { code := "SERVER_LOAD_GUARD_HIGH" }
      ++ blockerIf (resources.memUsedRatio.any (config.serverMemoryBlockRatio < ·))
        { code := "SERVER_MEMORY_GUARD_HIGH" }
      ++ blockerIf (latest.any (fun latest => latest.refreshStatus == .timeout
            && decide (now - latest.createdAt < config.recentTimeoutCooldownSeconds)))
          { code := "RECENT_REFRESH_TIMEOUT_COOLDOWN" }
  (if blockers = [] then .ok else if force then .warningForceRefresh else .blocked, blockers)

/-- `build_snapshot`, before it is stored. -/
def Refresh.snapshot (r : Refresh) : SafetySnapshot :=
  let criticalAllowed := r.blockers.isEmpty && r.refreshStatus == .success
  { exchange := r.exchange
    createdAt := now
    expiresAt := now + config.snapshotTtlSeconds
    findings := r.found
    gateBlockers := if criticalAllowed then [] else r.blockers
    gateAllowed := criticalAllowed
    protectedFullAutoLiveAllowed := criticalAllowed
    criticalGateOnly := true
    refreshStatus :=
      if criticalAllowed then r.refreshStatus
      else if r.timeoutStep then .timeout else .notAllowed
    serverLoadGuardStatus := r.guardStatus }

/-- What the two outer handlers add. -/
def Refresh.failed (r : Refresh) : Raised → Refresh
  | .timeout =>
    { r with
      blockers := r.blockers ++ [{ code := "CRITICAL_SAFETY_SNAPSHOT_REFRESH_TIMEOUT" }]
      refreshStatus := .timeout }
  | .error className =>
    { r with
      blockers := r.blockers
        ++ [{ code := "CRITICAL_SAFETY_SNAPSHOT_REFRESH_FAILED:" ++ className }]
      refreshStatus := .failed }

/-- An awaited step that raises. -/
def Refresh.stepRaises (r : Refresh) (exception : Raised) : StageEnd :=
  .raises { r with timeoutStep := r.timeoutStep || exception == .timeout } exception

/-- The reads of the database before the first wait; the positions are counted for no session. -/
def Refresh.readsDatabase (r : Refresh) (reply : RefreshReply) : StageEnd :=
  match reply.accounting with
  | .error exception => .raises r exception
  | .ok (pending, failed) =>
    let found :=
      { r.found with accountingPendingCount := pending, accountingFailedCount := failed }
    match reply.dbOpenOrderCount with
    | .error exception => .raises { r with found := found } exception
    | .ok count =>
      let found := { found with dbOpenOrderCount := count }
      match reply.positions with
      | .error exception => .raises { r with found := found } exception
      | .ok (logs, positions) =>
        let count := protectedOpenPositionCount logs positions none
        .waits .broker { r with found := { found with protectedOpenPositionCount := count } }

def Refresh.afterBroker (r : Refresh) (reply : RefreshReply) : StageEnd :=
  match reply.broker with
  | .cancelled => .drops
  | .raised exception => r.stepRaises exception
  | .returned (broker, emergency) =>
    let r := { r with found := { r.found with broker := broker, emergency := emergency } }
    match reply.markets with
    | .error exception => .raises r exception
    | .ok () => .waits .orders r

def Refresh.afterOrders (r : Refresh) (reply : RefreshReply) : StageEnd :=
  match reply.orders with
  | .cancelled => .drops
  | .raised .timeout =>
    -- the inner handler, which stands inside the outer ones
    .stores
      { r with
        timeoutStep := true
        blockers := r.blockers ++ [{ code := "EXCHANGE_OPEN_ORDER_CHECK_TIMEOUT" }]
        refreshStatus := .timeout }
  | .raised (.error className) => r.stepRaises (.error className)
  | .returned (status, count) =>
    let found := { r.found with orderCheck := status, exchangeOpenOrderCount := count }
    .waits .equity { r with found := found }

def Refresh.afterEquity (r : Refresh) (reply : RefreshReply) : StageEnd :=
  match reply.equity with
  | .cancelled => .drops
  | .raised exception => r.stepRaises exception
  | .returned equityFresh =>
    match reply.epoch with
    | .error exception => .raises r exception
    | .ok epoch =>
      let epochBlockers := lightweightEpochSanity epoch r.found.accountingPendingCount
        r.found.accountingFailedCount equityFresh
      let found := { r.found with currentEpochSanityPassed := epochBlockers.isEmpty }
      .stores
        { r with found := found, blockers := r.blockers ++ finalGateDecision found epochBlockers }

/-- `_failure_snapshot`. -/
def Refresh.failureSnapshot (r : Refresh) (refreshStatus : RefreshStatus) (blockerCode : String) :
    SafetySnapshot :=
  { exchange := r.exchange
    createdAt := now
    expiresAt := now
    gateBlockers := [{ code := blockerCode }]
    refreshStatus := refreshStatus
    serverLoadGuardStatus := r.guardStatus }

def Refresh.afterDetails (r : Refresh) (reply : RefreshReply) : StageEnd :=
  match reply.details with
  | .cancelled => .drops
  | .raised .timeout =>
    .inserts (r.failureSnapshot now .timeout "SAFETY_SNAPSHOT_REFRESH_TIMEOUT")
  | .raised (.error className) =>
    .inserts (r.failureSnapshot now .failed ("SAFETY_SNAPSHOT_REFRESH_FAILED:" ++ className))
  | .returned details =>
    match reply.positions, reply.dbOpenOrderCount with
    | .ok (logs, positions), .ok count =>
      let fullAutoAllowed := details.blockers.isEmpty
      let gateAllowed := fullAutoAllowed && r.guardStatus != .blocked
      .inserts
        { exchange := r.exchange
          createdAt := now
          expiresAt := now + config.snapshotTtlSeconds
          findings :=
            { details.found with
              dbOpenOrderCount := count
              protectedOpenPositionCount := protectedOpenPositionCount logs positions none }
          gateBlockers := details.blockers
          gateAllowed := gateAllowed
          protectedFullAutoLiveAllowed := fullAutoAllowed
          refreshStatus := if gateAllowed then .success else .notAllowed
          serverLoadGuardStatus := r.guardStatus }
    | _, _ => .drops

/-- The row is stored under the id it draws, unless that raises. -/
def insertAs (w : GateWorld) (snapshotId : Except Raised String) (row : SafetySnapshot) :
    GateWorld :=
  match snapshotId with
  | .ok id => insertProtectedAutoSafetySnapshot w { row with snapshotId := id }
  | .error _ => w

def StageEnd.next : StageEnd → Option RefreshTask
  | .waits stage r => some (.holds stage r)
  | .drops | .stores _ | .raises _ _ | .inserts _ => none

/-- What the end of a stage stores. -/
def StageEnd.world (w : GateWorld) (reply : RefreshReply) : StageEnd → GateWorld
  | .waits _ _ | .drops => w
  | .stores r =>
    match reply.snapshotId with
    | .ok id => insertAs w (.ok id) (r.snapshot config w.clock)
    | .error exception =>
      insertAs w reply.snapshotId' ((r.failed exception).snapshot config w.clock)
  | .raises r exception =>
    insertAs w reply.snapshotId ((r.failed exception).snapshot config w.clock)
  | .inserts row => insertAs w reply.snapshotId row

/-- A refresh that goes no further releases the lock. -/
def endStage (w : GateWorld) (reply : RefreshReply) (e : StageEnd) :
    GateWorld × Option RefreshTask :=
  ({ e.world config w reply with refreshLocked := e.next.isSome }, e.next)

/-- What a refresh does when it has got the lock; what a full one reads stands in no `try`. -/
def RefreshRequest.starts (w : GateWorld) (reply : RefreshReply) (request : RefreshRequest) :
    StageEnd :=
  let latest := loadProtectedAutoSafetySnapshot w request.exchange
  let r : Refresh := { exchange := request.exchange }
  match reply.resources with
  | .error exception => if request.criticalOnly then .raises r exception else .drops
  | .ok resources =>
    let guard := serverLoadGuard config w.clock latest resources request.force
    let r := { r with guardStatus := guard.1 }
    match request.criticalOnly, guard.1 == .blocked with
    | true, true => .stores { r with blockers := guard.2, refreshStatus := .failed }
    | true, false => r.readsDatabase reply
    | false, true =>
      .inserts (r.failureSnapshot w.clock .failed
        (guard.2.head?.elim "SERVER_LOAD_GUARD_BLOCKED" GateBlocker.code))
    | false, false => .waits .details r

/-- What it does with the answer that it has waited for. -/
def Refresh.goesOn (w : GateWorld) (reply : RefreshReply) (r : Refresh) : RefreshStage → StageEnd
  | .broker => r.afterBroker reply
  | .orders => r.afterOrders reply
  | .equity => r.afterEquity reply
  | .details => r.afterDetails config w.clock reply

/-- `refresh_protected_gate_critical_snapshot` and `refresh_protected_gate_safety_snapshot`. -/
def resumeRefresh (task : RefreshTask) (reply : RefreshReply) (w : GateWorld) :
    GateWorld × Option RefreshTask :=
  match task with
  | .turn request =>
    if w.refreshLocked then (w, none)
    else
      match reply.latest with
      -- this read stands before the `try`
      | .error _ => ({ w with refreshLocked := true }, none)
      | .ok () => endStage config w reply (request.starts config w reply)
  | .holds stage r => endStage config w reply (r.goesOn config w reply stage)

/-- The refreshes of one process; a move lets time pass, in seconds. -/
def gateRefreshes : Awaiting GateWorld RefreshTask ℕ RefreshRequest RefreshReply where
  move w seconds := { w with clock := w.clock + seconds }
  begin _ request := some (.turn request)
  resume := resumeRefresh config

/-- The refreshes from the start of the process on. -/
def refreshRun (es : List (Happening ℕ RefreshRequest RefreshReply)) :
    Waiting GateWorld RefreshTask :=
  run (gateRefreshes config).step ⟨{ clock := now }, []⟩ es

end Refresh

/-! ## The start -/

structure StartRequest where
  exchange : String
  confirmation : String
  -- `_acquire_protected_lock`
  lockAcquired : Bool := true

inductive StartAnswer where
  | gateRefreshRequired | confirmationRequired | gateBlocked | lockActive | started
  deriving DecidableEq

def protectedFullAutoConfirmationPhrase : String := "START PROTECTED FULL AUTO LIVE V1"

/-- `protected_full_auto_live_v1_start`, with `start_protected_auto_daemon`. -/
def protectedFullAutoLiveV1Start (w : GateWorld) (request : StartRequest) : StartAnswer :=
  let snapshot := loadProtectedAutoSafetySnapshot w request.exchange
  -- `is_fresh`; the first answer is for no snapshot, too
  if !snapshot.any (fun row => decide (w.clock < row.expiresAt)) then .gateRefreshRequired
  else if request.confirmation ≠ protectedFullAutoConfirmationPhrase then .confirmationRequired
  else if !snapshot.any (fun row => row.gateAllowed && row.protectedFullAutoLiveAllowed) then
    .gateBlocked
  else if !request.lockAcquired then .lockActive
  else .started

/-! ## What is stored -/

/-- What a critical refresh has found where nothing blocks. -/
structure GateFindings.Clear (found : GateFindings) : Prop where
  broker : found.broker = .ready
  emergency : found.emergency ≠ .on
  exchangeOrders : found.exchangeOpenOrderCount = 0
  orderCheck : found.orderCheck = .success
  dbOrders : found.dbOpenOrderCount = 0
  pending : found.accountingPendingCount = 0
  failed : found.accountingFailedCount = 0
  positions : found.protectedOpenPositionCount < maxOpenPositions
  epoch : found.currentEpochSanityPassed = true

/-- What a refresh has stored: a row that allows a start lives for its time, nothing blocks it,
and a critical refresh has found all clear. -/
structure SafetySnapshot.Stored (config : GateSnapshotConfig) (row : SafetySnapshot) : Prop where
  lives : row.gateAllowed = true → row.expiresAt = row.createdAt + config.snapshotTtlSeconds
  gate : row.gateAllowed = true → row.gateBlockers = []
  clear : row.gateAllowed = true → row.criticalGateOnly = true → row.findings.Clear

/-- What holds at the end of a stage: a refresh on its way is not blocked, and one that is decided
without blockers has found all clear. -/
def StageEnd.Sound (config : GateSnapshotConfig) (now : UtcTime) : StageEnd → Prop
  | .waits _ r => r.blockers = []
  | .drops | .raises _ _ => True
  | .stores r => r.blockers = [] → r.found.Clear
  | .inserts row => row.createdAt = now ∧ row.Stored config

section Stored

variable {config : GateSnapshotConfig} {now : UtcTime} {r : Refresh}

theorem snapshot_stored (h : r.blockers = [] → r.found.Clear) :
    (r.snapshot config now).Stored config := by
  have hnil : (r.snapshot config now).gateAllowed = true → r.blockers = [] :=
    fun hallowed => List.isEmpty_iff.mp (Bool.and_eq_true_iff.mp hallowed).1
  refine ⟨fun _ => rfl, fun hallowed => ?_, fun hallowed _ => h (hnil hallowed)⟩
  show (if _ then [] else r.blockers) = []
  rw [hnil hallowed, ite_self]

/-- What an outer handler stores. -/
theorem failed_stored (r : Refresh) (exception : Raised) :
    ((r.failed exception).snapshot config now).Stored config := by
  refine snapshot_stored (fun hnil => absurd hnil ?_)
  cases exception <;> simp [Refresh.failed]

theorem finalGateDecision_clear {found : GateFindings} {epochBlockers : List GateBlocker}
    (h : finalGateDecision found epochBlockers = [])
    (hepoch : found.currentEpochSanityPassed = epochBlockers.isEmpty) : found.Clear := by
  simp only [finalGateDecision, List.append_eq_nil_iff, blockerIf_eq_nil, not_not, not_le] at h
  obtain ⟨⟨⟨⟨⟨⟨⟨⟨⟨hbroker, hemergency⟩, hdb⟩, hexchange⟩, hcheck⟩, hpending⟩, hfailed⟩, -⟩, hslot⟩,
    hnil⟩ := h
  exact ⟨hbroker, hemergency, hexchange, hcheck, hdb, hpending, hfailed, hslot,
    hepoch.trans (by rw [hnil, List.isEmpty_nil])⟩

/-- A snapshot of a failure allows nothing. -/
theorem failureSnapshot_stored (r : Refresh) (refreshStatus : RefreshStatus) (code : String) :
    (r.failureSnapshot now refreshStatus code).Stored config :=
  ⟨fun h => Bool.noConfusion h, fun h => Bool.noConfusion h, fun h => Bool.noConfusion h⟩

theorem readsDatabase_sound (h : r.blockers = []) (reply : RefreshReply) :
    (r.readsDatabase reply).Sound config now := by
  unfold Refresh.readsDatabase
  split
  · exact trivial
  · dsimp only
    split
    · exact trivial
    · split
      · exact trivial
      · exact h

theorem serverLoadGuard_blocked {latest : Option SafetySnapshot} {resources : ServerResources}
    {force : Bool} (h : (serverLoadGuard config now latest resources force).1 = .blocked) :
    (serverLoadGuard config now latest resources force).2 ≠ [] := by
  intro hnil
  unfold serverLoadGuard at h hnil
  dsimp only at h hnil
  rw [hnil] at h
  cases h

/-- **What a refresh does first.** -/
theorem starts_sound (request : RefreshRequest) (w : GateWorld) (reply : RefreshReply) :
    (request.starts config w reply).Sound config w.clock := by
  unfold RefreshRequest.starts
  dsimp only
  split
  · split_ifs <;> exact trivial
  · split
    · rename_i hblocked
      exact fun hnil => absurd hnil (serverLoadGuard_blocked (beq_iff_eq.mp hblocked))
    · exact readsDatabase_sound rfl reply
    · exact ⟨rfl, failureSnapshot_stored _ _ _⟩
    · exact (rfl : ([] : List GateBlocker) = [])

theorem afterBroker_sound (h : r.blockers = []) (reply : RefreshReply) :
    (r.afterBroker reply).Sound config now := by
  unfold Refresh.afterBroker
  split
  · exact trivial
  · exact trivial
  · dsimp only
    split
    · exact trivial
    · exact h

theorem afterOrders_sound (h : r.blockers = []) (reply : RefreshReply) :
    (r.afterOrders reply).Sound config now := by
  unfold Refresh.afterOrders
  split
  · exact trivial
  · exact fun hnil => absurd hnil (by simp)
  · exact trivial
  · exact h

theorem afterEquity_sound (r : Refresh) (reply : RefreshReply) :
    (r.afterEquity reply).Sound config now := by
  unfold Refresh.afterEquity
  split
  · exact trivial
  · exact trivial
  · split
    · exact trivial
    · exact fun hnil => finalGateDecision_clear (List.append_eq_nil_iff.mp hnil).2 rfl

theorem afterDetails_sound (r : Refresh) (reply : RefreshReply) :
    (r.afterDetails config now reply).Sound config now := by
  unfold Refresh.afterDetails
  split
  · exact trivial
  · exact ⟨rfl, failureSnapshot_stored r _ _⟩
  · exact ⟨rfl, failureSnapshot_stored r _ _⟩
  · split
    · refine ⟨rfl, fun _ => rfl, fun hallowed => ?_, fun _ honly => Bool.noConfusion honly⟩
      exact List.isEmpty_iff.mp (Bool.and_eq_true_iff.mp hallowed).1
    · exact trivial

/-- **What it does with an answer.** -/
theorem goesOn_sound (h : r.blockers = []) (w : GateWorld) (reply : RefreshReply)
    (stage : RefreshStage) : (r.goesOn config w reply stage).Sound config w.clock := by
  cases stage with
  | broker => exact afterBroker_sound h reply
  | orders => exact afterOrders_sound h reply
  | equity => exact afterEquity_sound r reply
  | details => exact afterDetails_sound r reply

/-! ## Runs -/

/-- Every snapshot is one that a refresh has stored, not later than now. -/
def SnapshotsStored (config : GateSnapshotConfig) (w : GateWorld) : Prop :=
  ∀ row ∈ w.snapshots.rows, row.createdAt ≤ w.clock ∧ row.Stored config

/-- A refresh that waits is not blocked. -/
def RefreshTask.Unblocked : RefreshTask → Prop
  | .turn _ => True
  | .holds _ r => r.blockers = []

theorem SnapshotsStored.insertAs {w : GateWorld} (h : SnapshotsStored config w)
    {row : SafetySnapshot} (hrow : row.createdAt = w.clock ∧ row.Stored config)
    (snapshotId : Except Raised String) : SnapshotsStored config (insertAs w snapshotId row) := by
  cases snapshotId with
  | error exception => exact h
  | ok snapshotId =>
    intro other hother
    simp only [AutoCoinBot.insertAs, insertProtectedAutoSafetySnapshot, Table.insertOrIgnore]
      at hother
    split_ifs at hother with hconflict
    · exact h other hother
    · rcases List.mem_append.mp hother with hold | hnew
      · exact h other hold
      · rw [List.mem_singleton.mp hnew]
        exact ⟨hrow.1.le, hrow.2.lives, hrow.2.gate, hrow.2.clear⟩

/-- The end of a stage keeps the snapshots. -/
theorem StageEnd.Sound.keeps {w : GateWorld} (h : SnapshotsStored config w) {e : StageEnd}
    (he : e.Sound config w.clock) (reply : RefreshReply) :
    SnapshotsStored config (endStage config w reply e).1
      ∧ ∀ next, (endStage config w reply e).2 = some next → next.Unblocked := by
  have hkept : SnapshotsStored config (e.world config w reply) := by
    unfold StageEnd.world
    cases e with
    | waits stage r => exact h
    | drops => exact h
    | stores r =>
      cases reply.snapshotId with
      | ok id => exact h.insertAs ⟨rfl, snapshot_stored he⟩ _
      | error exception => exact h.insertAs ⟨rfl, failed_stored r exception⟩ _
    | raises r exception => exact h.insertAs ⟨rfl, failed_stored r exception⟩ _
    | inserts row => exact h.insertAs he _
  refine ⟨hkept, fun next hnext => ?_⟩
  cases e with
  | waits stage r => exact Option.some.inj hnext ▸ he
  | drops => cases hnext
  | stores r => cases hnext
  | raises r exception => cases hnext
  | inserts row => cases hnext

/-- **A step of a refresh** keeps the snapshots. -/
theorem gateRefreshes_keeps :
    (gateRefreshes config).Keeps (fun _ _ _ => True) (fun _ => True) (SnapshotsStored config)
      (fun _ task => task.Unblocked) where
  move := fun w seconds h => by
    refine ⟨fun row hrow => ⟨(h row hrow).1.trans ?_, (h row hrow).2⟩, fun _ htask => htask⟩
    exact Int.le_add_of_nonneg_right (Int.natCast_nonneg seconds)
  begin := fun w request task _ _ hbegin => by
    obtain rfl := Option.some.inj hbegin
    exact trivial
  resume := fun w task reply h htask _ => by
    suffices hstep : SnapshotsStored config (resumeRefresh config task reply w).1
        ∧ ∀ next, (resumeRefresh config task reply w).2 = some next → next.Unblocked from
      ⟨hstep.1, fun _ hother => hother, hstep.2⟩
    unfold resumeRefresh
    cases task with
    | turn request =>
      dsimp only
      split_ifs
      · exact ⟨h, fun next hnext => by cases hnext⟩
      · cases reply.latest with
        | error exception => exact ⟨h, fun next hnext => by cases hnext⟩
        | ok _ => exact (starts_sound request w reply).keeps h reply
    | holds stage r => exact (goesOn_sound htask w reply stage).keeps h reply

/-- **In every run**, what is stored is sound. -/
theorem snapshotsStored_run (clock : UtcTime)
    (es : List (Happening ℕ RefreshRequest RefreshReply)) :
    SnapshotsStored config (refreshRun config clock es).world := by
  have hok : StepsOk (gateRefreshes config).step
      (fun s e => Awaiting.Begins (fun _ => True) s e ∧ Awaiting.Replies (fun _ _ _ => True) s e)
      ⟨{ clock := clock }, []⟩ es :=
    stepsOk_of_forall (fun s e => by
      cases e with
      | moves seconds => exact ⟨trivial, trivial⟩
      | begins request => exact ⟨trivial, trivial⟩
      | replies i reply => exact ⟨trivial, fun _ _ => trivial⟩) _ es
  exact (gateRefreshes_keeps.run ⟨fun row hrow => absurd hrow List.not_mem_nil,
    fun _ htask => absurd htask List.not_mem_nil⟩ hok).1

end Stored

section Start

variable {w : GateWorld} {exchange : String} {row : SafetySnapshot}

theorem loadProtectedAutoSafetySnapshot_newest
    (h : loadProtectedAutoSafetySnapshot w exchange = some row) :
    row ∈ w.snapshots.rows ∧ row.exchange = exchange
      ∧ ∀ other ∈ w.snapshots.rows, other.exchange = exchange → row.newer other := by
  refine ⟨(List.mem_insertionSort _).mp (List.mem_of_find?_eq_some h),
    ?_, fun other hother hsame => ?_⟩
  · simpa using List.find?_some h
  · rcases Table.find?_insertionSort SafetySnapshot.newer h hother (by simpa using hsame) with
      rfl | hnewer
    · exact .inr ⟨rfl, le_rfl⟩
    · exact hnewer

/-- What a start that is admitted has found. -/
theorem start_eq_started {request : StartRequest}
    (h : protectedFullAutoLiveV1Start w request = .started) :
    ∃ row, loadProtectedAutoSafetySnapshot w request.exchange = some row
      ∧ w.clock < row.expiresAt ∧ row.gateAllowed = true := by
  unfold protectedFullAutoLiveV1Start at h
  cases hload : loadProtectedAutoSafetySnapshot w request.exchange with
  | none => simp [hload] at h
  | some row =>
    simp only [hload, Option.any_some, Bool.not_eq_true', decide_eq_false_iff_not] at h
    split_ifs at h with hfresh _ hallowed
    simp only [Bool.and_eq_false_imp, not_forall, Bool.not_eq_false] at hallowed
    exact ⟨row, rfl, hfresh, hallowed.1⟩

end Start

/-- A start is admitted on this snapshot. -/
structure StartsOn (config : GateSnapshotConfig) (w : GateWorld) (exchange : String)
    (row : SafetySnapshot) : Prop where
  stored : row ∈ w.snapshots.rows
  ofExchange : row.exchange = exchange
  newest : ∀ other ∈ w.snapshots.rows, other.exchange = exchange → row.newer other
  created : row.createdAt ≤ w.clock
  young : w.clock < row.createdAt + config.snapshotTtlSeconds
  gate : row.gateBlockers = []
  clear : row.criticalGateOnly = true → row.findings.Clear

/-- **Every start that is admitted**, in any run of the refreshes, stands on the newest snapshot of
the exchange: it is younger than its time to live, nothing blocked the refresh that has stored it,
and a critical one has found all clear. -/
theorem started_of_clear_snapshot (config : GateSnapshotConfig) (clock : UtcTime)
    (es : List (Happening ℕ RefreshRequest RefreshReply)) (request : StartRequest)
    (hstarted : protectedFullAutoLiveV1Start (refreshRun config clock es).world request
      = .started) :
    ∃ row, StartsOn config (refreshRun config clock es).world request.exchange row := by
  obtain ⟨row, hload, hfresh, hallowed⟩ := start_eq_started hstarted
  obtain ⟨hmem, hexchange, hnewest⟩ := loadProtectedAutoSafetySnapshot_newest hload
  obtain ⟨hcreated, hstored⟩ := snapshotsStored_run clock es row hmem
  exact ⟨row, hmem, hexchange, hnewest, hcreated, hstored.lives hallowed ▸ hfresh,
    hstored.gate hallowed, hstored.clear hallowed⟩

/-! ## The lock -/

def RefreshTask.holdsLock : RefreshTask → Bool
  | .turn _ => false
  | .holds _ _ => true

/-- How many refreshes on their way have the lock. -/
def holders (s : Waiting GateWorld RefreshTask) : ℕ := s.tasks.countP RefreshTask.holdsLock

/-- The lock is taken exactly while a refresh that has it is on its way, and never by two. -/
def LockHeld (s : Waiting GateWorld RefreshTask) : Prop :=
  holders s = s.world.refreshLocked.toNat

/-- A refresh that takes the lock can read the latest snapshot. -/
def LatestRead : Waiting GateWorld RefreshTask → Happening ℕ RefreshRequest RefreshReply → Prop :=
  Awaiting.Replies (fun w task reply => task.holdsLock = false → w.refreshLocked = false →
    reply.latest.isOk = true)

instance (s : Waiting GateWorld RefreshTask) (e : Happening ℕ RefreshRequest RefreshReply) :
    Decidable (LatestRead s e) :=
  inferInstanceAs (Decidable (Awaiting.Replies _ s e))

section Lock

variable {config : GateSnapshotConfig} {s : Waiting GateWorld RefreshTask}

/-- The end of a stage takes the lock along with the refresh. -/
theorem countP_endStage (w : GateWorld) (reply : RefreshReply) (e : StageEnd) :
    (endStage config w reply e).2.toList.countP RefreshTask.holdsLock
      = (endStage config w reply e).1.refreshLocked.toNat := by
  cases e <;> rfl

/-- **What a reply does to the lock**: a refresh hands it on or releases it, unless it raises
before its `try`. -/
theorem lock_resumeRefresh (w : GateWorld) (task : RefreshTask) (reply : RefreshReply)
    (h : task.holdsLock = true → w.refreshLocked = true) :
    (resumeRefresh config task reply w).1.refreshLocked.toNat + task.holdsLock.toNat
      = (resumeRefresh config task reply w).2.toList.countP RefreshTask.holdsLock
        + w.refreshLocked.toNat
        + if task.holdsLock = false → w.refreshLocked = false → reply.latest.isOk = true then 0
          else 1 := by
  cases task with
  | holds stage r =>
    have hlast : ¬ (RefreshTask.holds stage r).holdsLock = false := by simp [RefreshTask.holdsLock]
    rw [h rfl, if_pos (fun hturn => absurd hturn hlast), Nat.add_zero]
    exact congrArg (· + 1) (countP_endStage w reply _).symm
  | turn request =>
    unfold resumeRefresh
    cases hlock : w.refreshLocked with
    | true => simp [hlock, RefreshTask.holdsLock]
    | false =>
      cases hlatest : reply.latest with
      | error exception => simp [RefreshTask.holdsLock, Except.isOk, Except.toBool]
      | ok _ => simp [RefreshTask.holdsLock, Except.isOk, Except.toBool, countP_endStage]

/-- **What a step does to the lock.** -/
theorem lock_step (h : holders s ≤ s.world.refreshLocked.toNat)
    (e : Happening ℕ RefreshRequest RefreshReply) :
    ((gateRefreshes config).step s e).world.refreshLocked.toNat + holders s
      = holders ((gateRefreshes config).step s e) + s.world.refreshLocked.toNat
        + if LatestRead s e then 0 else 1 := by
  cases e with
  | moves seconds =>
    rw [if_pos (show LatestRead s (.moves seconds) from trivial)]
    exact Nat.add_comm _ _
  | begins request =>
    rw [if_pos (show LatestRead s (.begins request) from trivial)]
    show _ + holders s
      = (s.tasks ++ [RefreshTask.turn request]).countP RefreshTask.holdsLock + _ + 0
    rw [List.countP_append]
    exact Nat.add_comm _ _
  | replies i reply =>
    cases htask : s.tasks[i]? with
    | none =>
      rw [(gateRefreshes config).step_replies_none reply htask, if_pos, Nat.add_zero, Nat.add_comm]
      intro task hsome
      rw [htask] at hsome
      cases hsome
    | some task =>
      obtain ⟨hi, hget⟩ := List.getElem?_eq_some_iff.mp htask
      have hperm := (List.getElem_cons_eraseIdx_perm hi).symm
      rw [hget] at hperm
      have hcount : holders s = (s.tasks.eraseIdx i).countP RefreshTask.holdsLock
          + task.holdsLock.toNat := by
        unfold holders
        rw [hperm.countP_eq, List.countP_cons]
        cases task.holdsLock <;> rfl
      have hheld : task.holdsLock = true → s.world.refreshLocked = true := by
        intro htrue
        rw [hcount, htrue] at h
        cases hlock : s.world.refreshLocked with
        | true => rfl
        | false =>
          rw [hlock] at h
          simp at h
      have hread : LatestRead s (.replies i reply) ↔ (task.holdsLock = false →
          s.world.refreshLocked = false → reply.latest.isOk = true) :=
        ⟨fun hok => hok task htask,
          fun hok task' hsome => Option.some.inj (htask.symm.trans hsome) ▸ hok⟩
      have hlock := @lock_resumeRefresh config s.world task reply hheld
      rw [if_congr hread rfl rfl, (gateRefreshes config).step_replies_some reply htask, hcount]
      show (resumeRefresh config task reply s.world).1.refreshLocked.toNat + _
        = (_ ++ (resumeRefresh config task reply s.world).2.toList).countP _ + _ + _
      rw [List.countP_append]
      omega

theorem lockHeld_step_iff (h : LockHeld s) (e : Happening ℕ RefreshRequest RefreshReply) :
    LockHeld ((gateRefreshes config).step s e) ↔ LatestRead s e := by
  have hstep := @lock_step config s h.le e
  unfold LockHeld at h ⊢
  split_ifs at hstep with hread
  · exact iff_of_true (by omega) hread
  · exact iff_of_false (by omega) hread

end Lock

/-- **The lock is held by the refresh on its way**, throughout a run, exactly if every refresh that
takes it can read the latest snapshot: that read stands before the `try`. -/
theorem refresh_lock_held_iff (config : GateSnapshotConfig) (clock : UtcTime)
    (es : List (Happening ℕ RefreshRequest RefreshReply)) :
    (∀ n, LockHeld (refreshRun config clock (es.take n)))
      ↔ StepsOk (gateRefreshes config).step LatestRead ⟨{ clock := clock }, []⟩ es :=
  forall_prefix_iff (P := LockHeld) (fun _ e h => lockHeld_step_iff h e)
    (show LockHeld ⟨{ clock := clock }, []⟩ from rfl) es

/-- The lock is taken, and no refresh has it. -/
structure LockLost (s : Waiting GateWorld RefreshTask) : Prop where
  locked : s.world.refreshLocked = true
  noHolder : holders s = 0

section Lost

variable {config : GateSnapshotConfig} {s : Waiting GateWorld RefreshTask}
  {e : Happening ℕ RefreshRequest RefreshReply}

/-- **While no refresh has the lock**, a step stores nothing, unless one takes it and goes on. -/
theorem snapshots_step (hholders : holders s = 0)
    (hstuck : s.world.refreshLocked = true ∨ ¬ LatestRead s e) :
    ((gateRefreshes config).step s e).world.snapshots = s.world.snapshots := by
  cases e with
  | moves seconds => rfl
  | begins request => rfl
  | replies i reply =>
    cases htask : s.tasks[i]? with
    | none => rw [(gateRefreshes config).step_replies_none reply htask]
    | some task =>
      rw [(gateRefreshes config).step_replies_some reply htask]
      show (resumeRefresh config task reply s.world).1.snapshots = _
      cases task with
      | holds stage r =>
        exact absurd rfl (List.countP_eq_zero.mp hholders _ (List.mem_of_getElem? htask))
      | turn request =>
        unfold resumeRefresh
        dsimp only
        split_ifs with hlock
        · rfl
        · cases hlatest : reply.latest with
          | error exception => rfl
          | ok _ =>
            refine absurd (fun task' hsome _ _ => ?_) (hstuck.resolve_left hlock)
            rw [hlatest]
            rfl

/-- **What is lost stays lost**, and nothing is stored. -/
theorem LockLost.step (h : LockLost s) (e : Happening ℕ RefreshRequest RefreshReply) :
    LockLost ((gateRefreshes config).step s e)
      ∧ ((gateRefreshes config).step s e).world.snapshots = s.world.snapshots := by
  refine ⟨?_, snapshots_step h.noHolder (.inl h.locked)⟩
  have hstep := @lock_step config s (h.noHolder.trans_le (Nat.zero_le _)) e
  have hbound := Bool.toNat_le ((gateRefreshes config).step s e).world.refreshLocked
  rw [h.locked, h.noHolder, Bool.toNat_true] at hstep
  exact ⟨Bool.toNat_eq_one.mp (by omega), by omega⟩

/-- What a refresh leaves that takes the lock and raises before its `try`. -/
theorem lockLost_of_not_latestRead (h : LockHeld s) (he : ¬ LatestRead s e) :
    LockLost ((gateRefreshes config).step s e)
      ∧ ((gateRefreshes config).step s e).world.snapshots = s.world.snapshots := by
  have hfree : s.world.refreshLocked = false := by
    cases e with
    | moves seconds => exact absurd trivial he
    | begins request => exact absurd trivial he
    | replies i reply =>
      by_contra hlocked
      exact he (fun _ _ _ hfree => absurd hfree hlocked)
  have hnone : holders s = 0 := by rw [h, hfree, Bool.toNat_false]
  refine ⟨?_, snapshots_step hnone (.inr he)⟩
  have hstep := @lock_step config s h.le e
  have hbound := Bool.toNat_le ((gateRefreshes config).step s e).world.refreshLocked
  rw [if_neg he, hfree, hnone, Bool.toNat_false] at hstep
  exact ⟨Bool.toNat_eq_one.mp (by omega), by omega⟩

end Lost

/-- **One read that fails ends all refreshes**: after a refresh has taken the lock and could not
read the latest snapshot, a start is only admitted while a snapshot lives that was stored
before. -/
theorem started_of_latest_unread (config : GateSnapshotConfig) (clock : UtcTime)
    (es : List (Happening ℕ RefreshRequest RefreshReply))
    (hread : StepsOk (gateRefreshes config).step LatestRead ⟨{ clock := clock }, []⟩ es)
    {e : Happening ℕ RefreshRequest RefreshReply}
    (hunread : ¬ LatestRead (refreshRun config clock es) e)
    (es' : List (Happening ℕ RefreshRequest RefreshReply)) (request : StartRequest)
    (hstarted : protectedFullAutoLiveV1Start (refreshRun config clock (es ++ e :: es')).world
      request = .started) :
    ∃ row ∈ (refreshRun config clock es).world.snapshots.rows,
      row.exchange = request.exchange
        ∧ (refreshRun config clock (es ++ e :: es')).world.clock < row.expiresAt := by
  set s := refreshRun config clock es with hs
  have hheld : LockHeld s :=
    run_invariant_of_stepsOk (P := LockHeld) (fun _ e h he => (lockHeld_step_iff h e).mpr he)
      (show LockHeld ⟨{ clock := clock }, []⟩ from rfl) hread
  have hrun : refreshRun config clock (es ++ e :: es')
      = run (gateRefreshes config).step ((gateRefreshes config).step s e) es' :=
    run_append _ es (e :: es')
  have hlost : LockLost (run (gateRefreshes config).step ((gateRefreshes config).step s e) es')
      ∧ (run (gateRefreshes config).step ((gateRefreshes config).step s e) es').world.snapshots
        = s.world.snapshots :=
    run_invariant (P := fun s' => LockLost s' ∧ s'.world.snapshots = s.world.snapshots)
      (fun s' e hs' => ⟨(hs'.1.step e).1, (hs'.1.step e).2.trans hs'.2⟩)
      (lockLost_of_not_latestRead hheld hunread) es'
  rw [hrun] at hstarted ⊢
  obtain ⟨row, hload, hfresh, -⟩ := start_eq_started hstarted
  obtain ⟨hmem, hexchange, -⟩ := loadProtectedAutoSafetySnapshot_newest hload
  exact ⟨row, hlost.2 ▸ hmem, hexchange, hfresh⟩

/-! ## Examples -/

def exampleCritical : RefreshRequest := { exchange := "bithumb", criticalOnly := true }

def exampleConfirmed : StartRequest :=
  { exchange := "bithumb", confirmation := protectedFullAutoConfirmationPhrase }

/-- A critical refresh for which all is clear. -/
def exampleClearRefresh : List (Happening ℕ RefreshRequest RefreshReply) :=
  [.begins exampleCritical, .replies 0 {}, .replies 0 {}, .replies 0 {},
   .replies 0 { epoch := .ok (some { epochStatus := "ACTIVE", epochTrustLevel := some "HIGH" }) },
   .moves 30]

theorem started_of_clear_snapshot_example :
    ∃ row, StartsOn {} (refreshRun {} 0 exampleClearRefresh).world "bithumb" row :=
  started_of_clear_snapshot {} 0 exampleClearRefresh exampleConfirmed (by decide +kernel)

theorem started_of_latest_unread_example :
    ∃ row ∈
        (refreshRun {} 0 (exampleClearRefresh ++ [.begins exampleCritical])).world.snapshots.rows,
      row.exchange = "bithumb"
        ∧ (refreshRun {} 0 ((exampleClearRefresh ++ [.begins exampleCritical])
            ++ .replies 0 { latest := .error (.error "OperationalError") }
              :: [.moves 20])).world.clock
          < row.expiresAt :=
  started_of_latest_unread {} 0 (exampleClearRefresh ++ [.begins exampleCritical])
    (by decide +kernel) (by decide +kernel) [.moves 20] exampleConfirmed (by decide +kernel)

end AutoCoinBot
