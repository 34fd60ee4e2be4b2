/-
  ControlledAutoLive.PositionLoopReports — the reports of the position loops, and what
  the protected gate of app/controlled_auto_live.py reads of them.

  The table has a row a loop; that of a protected loop is written when the loop starts, too.
-/
import AutoCoinBot.ControlledAutoLive.PositionScope
import AutoCoinBot.Library.Table

namespace AutoCoinBot

open Library

/-! ## Reports -/

/-- `controlled_auto_live_status`. -/
inductive LoopStatus where
  | starting
  | running
  | passIdle
  | passedPositionTrade
  | passedTechnicalPosition
  | passedProfitablePosition
  | stopped
  | failed
  | aborted
  deriving DecidableEq

/-- `allowed_results` of `_protected_position_loop_blockers`. -/
def LoopStatus.isAllowed : LoopStatus → Bool
  | .passIdle | .passedPositionTrade | .passedTechnicalPosition | .passedProfitablePosition => true
  | .starting | .running | .stopped | .failed | .aborted => false

/-- The figures of a report that are compared; those that it lacks are zero. -/
structure LoopFigures where
  tradeCount : ℕ := 0
  orderCount : ℕ := 0
  exchangeFillCount : ℕ := 0
  ledgerFillCount : ℕ := 0
  missingLedgerFillCount : ℕ := 0
  duplicateFillCount : ℕ := 0
  duplicateClientOrderIdCount : ℕ := 0
  feeDiff : ℚ := 0
  equityDiffAfter : Option ℚ := none
  currentEpochAccountingPendingCount : ℕ := 0
  currentEpochAccountingFailedCount : ℕ := 0
  openOrderCountAfter : ℕ := 0
  deriving DecidableEq

/-- A row of `controlled_run_reports`, of the run type `CONTROLLED_POSITION_LOOP`. -/
structure LoopReport where
  id : ℕ := 0
  runId : String
  -- `mode` is `PROTECTED_FULL_AUTO_LIVE_V1`
  protectedMode : Bool
  status : LoopStatus
  passFailReasons : List String := []
  figures : LoopFigures := {}
  finalRuntimeStatus : String := ""
  -- `""` while the loop goes on
  completedAt : Option UtcTime := none
  deriving DecidableEq

instance : Row LoopReport := ⟨LoopReport.id⟩

def persistControlledRunReport (reports : Table LoopReport) (report : LoopReport) :
    Table LoopReport :=
  reports.upsert LoopReport.runId (fun id => { report with id := id }) (fun _ => rfl)
    (fun old => { report with id := old.id }) (fun _ => rfl)

def serverRestartSafeStop : String := "SERVER_RESTART_SAFE_STOP"

def LoopReport.restarted (now : UtcTime) (report : LoopReport) : LoopReport :=
  { report with
    status := .stopped
    completedAt := some (report.completedAt.getD now)
    passFailReasons := report.passFailReasons ++ [serverRestartSafeStop] }

/-- Whether the startup takes the loop for one that the restart has ended. -/
def LoopReport.isStale (report : LoopReport) : Bool :=
  report.protectedMode && (report.status == .starting || report.status == .running)

def stopStaleProtectedFullAutoSessionsOnStartup (reports : Table LoopReport) (now : UtcTime) :
    Table LoopReport :=
  reports.modifyWhere LoopReport.isStale (LoopReport.restarted now) (fun _ => rfl)

/-! ## The latest report -/

/-- `CONTROLLED_ENTRY_V3_POSITION_STOP_REQUESTED`. -/
def positionStopRequested : String := "CONTROLLED_ENTRY_V3_POSITION_STOP_REQUESTED"

def feeToleranceKrw : ℚ := 5

def equityToleranceKrw : ℚ := 100

/-- `_is_ignorable_position_loop_stop_request`: stopped on request, before it did anything. -/
def LoopReport.isIgnorableStopRequest (report : LoopReport) : Bool :=
  let figures := report.figures
  report.status == .stopped
    && report.passFailReasons != []
    && report.passFailReasons.all (· == positionStopRequested)
    && figures.tradeCount == 0
    && figures.orderCount == 0
    && figures.exchangeFillCount == 0
    && figures.ledgerFillCount == 0
    && figures.missingLedgerFillCount == 0
    && figures.duplicateFillCount == 0
    && decide (|figures.feeDiff| ≤ feeToleranceKrw)
    && figures.equityDiffAfter.all (fun diff => decide (|diff| ≤ equityToleranceKrw))
    && figures.currentEpochAccountingPendingCount == 0
    && figures.currentEpochAccountingFailedCount == 0
    && figures.openOrderCountAfter == 0

/-- `ORDER BY completed_at_utc, id`; `""` stands before every time. -/
def LoopReport.order (report : LoopReport) : WithBot UtcTime ×ₗ ℕ :=
  toLex ((report.completedAt : WithBot UtcTime), report.id)

def LoopReport.before (a b : LoopReport) : Prop := b.order ≤ a.order

instance : DecidableRel LoopReport.before := fun a b => inferInstanceAs (Decidable (b.order ≤ a.order))

instance : Std.Total LoopReport.before := ⟨fun a b => le_total b.order a.order⟩

instance : IsTrans LoopReport LoopReport.before := ⟨fun _ _ _ hab hbc => le_trans hbc hab⟩

def latestControlledPositionLoopRun (reports : Table LoopReport) : Option LoopReport :=
  let rows := (reports.rows.insertionSort LoopReport.before).take 20
  (rows.find? (fun report => !report.isIgnorableStopRequest)).or rows.head?

theorem latestRun_mem {reports : Table LoopReport} {latest : LoopReport}
    (h : latestControlledPositionLoopRun reports = some latest) : latest ∈ reports.rows := by
  have hsorted : latest ∈ (reports.rows.insertionSort LoopReport.before).take 20 := by
    rcases Option.or_eq_some_iff.mp h with hfound | ⟨-, hhead⟩
    · exact List.mem_of_find?_eq_some hfound
    · exact List.mem_of_head? hhead
  exact (List.mem_insertionSort _).mp (List.mem_of_mem_take hsorted)

/-- **The gate reads the newest report**: no other that it does not pass over stands before it. -/
theorem latestRun_newest {reports : Table LoopReport} {latest report : LoopReport}
    (h : latestControlledPositionLoopRun reports = some latest)
    (hlatest : latest.isIgnorableStopRequest = false) (hmem : report ∈ reports.rows)
    (hreport : report.isIgnorableStopRequest = false) : report.order ≤ latest.order := by
  have hfound : (reports.rows.insertionSort LoopReport.before).find?
      (fun report => !report.isIgnorableStopRequest) = some latest := by
    rcases Option.or_eq_some_iff.mp h with hfound | ⟨hnone, hhead⟩
    · exact (List.take_prefix 20 _).find?_eq_some hfound
    · -- a head that is not passed over would have been found
      have hno := List.find?_eq_none.mp hnone latest (List.mem_of_head? hhead)
      simp [hlatest] at hno
  have hbefore := Table.find?_insertionSort LoopReport.before hfound hmem (by simp [hreport])
  rcases hbefore with heq | hbefore
  · rw [heq]
  · exact hbefore

/-! ## The blockers of the latest report -/

def resolvedDuplicateClientOrderRunId : String := "posloop-20260629T121326-57c2fc"

def resolvedDuplicateClientOrderErrorCode : String := "DUPLICATE_CLIENT_ORDER_ID"

def resolvedDuplicateClientOrderFixedSha : String := "152126b6ba16e033e0c49b8c757625731fa83b8d"

/-- The row of `resolved_safety_events` for the run and the error code. -/
structure ResolvedSafetyEvent where
  resolutionStatus : String
  adminConfirmed : Bool
  fixedByCommitSha : String
  originalStopReason : String

/-- What `_resolved_duplicate_client_order_position_loop_event` asks of the event. -/
def ResolvedSafetyEvent.resolves (event : ResolvedSafetyEvent) : Bool :=
  ["RESOLVED", "SUPERSEDED"].contains event.resolutionStatus.toUpper
    && event.adminConfirmed
    && event.fixedByCommitSha == resolvedDuplicateClientOrderFixedSha
    && containsText resolvedDuplicateClientOrderErrorCode event.originalStopReason

/-- What it asks of the report: the one run whose stop an event can resolve. -/
def LoopReport.isResolvableDuplicate (report : LoopReport) : Bool :=
  report.runId == resolvedDuplicateClientOrderRunId
    && report.status == .stopped
    && report.passFailReasons.any (containsText resolvedDuplicateClientOrderErrorCode)

def resolvedDuplicateClientOrderPositionLoopEvent (event : Option ResolvedSafetyEvent)
    (report : LoopReport) : Bool :=
  report.isResolvableDuplicate && event.any ResolvedSafetyEvent.resolves

/-- `_position_loop_server_restart_safe_stop`. -/
def LoopReport.isServerRestartSafeStop (report : LoopReport) : Bool :=
  report.status == .stopped && report.passFailReasons.any (· == serverRestartSafeStop)

/-- `{"code": …, "count": …}`. -/
structure GateBlocker where
  code : String
  count : ℕ := 1
  deriving DecidableEq

def LoopFigures.metricChecks (figures : LoopFigures) : List GateBlocker :=
  [⟨"CONTROLLED_POSITION_LOOP_MISSING_LEDGER_FILL", figures.missingLedgerFillCount⟩,
   ⟨"CONTROLLED_POSITION_LOOP_DUPLICATE_FILL", figures.duplicateFillCount⟩,
   ⟨"CONTROLLED_POSITION_LOOP_ACCOUNTING_PENDING", figures.currentEpochAccountingPendingCount⟩,
   ⟨"CONTROLLED_POSITION_LOOP_ACCOUNTING_FAILED", figures.currentEpochAccountingFailedCount⟩,
   ⟨"CONTROLLED_POSITION_LOOP_OPEN_ORDER_REMAINS", figures.openOrderCountAfter⟩]

/-- `FINAL_CONTROLLED_POSITION_LOOP_NOT_PASSED`. -/
def finalLoopNotPassed : GateBlocker := { code := "FINAL_CONTROLLED_POSITION_LOOP_NOT_PASSED" }

def protectedPositionLoopBlockers (event : Option ResolvedSafetyEvent) :
    Option LoopReport → List GateBlocker
  | none => [finalLoopNotPassed]
  | some report =>
    let figures := report.figures
    (if !report.status.isAllowed
        && !resolvedDuplicateClientOrderPositionLoopEvent event report
        && !report.isServerRestartSafeStop then [finalLoopNotPassed] else [])
      ++ figures.metricChecks.filter (fun blocker => decide (0 < blocker.count))
      ++ (if |figures.feeDiff| > feeToleranceKrw then
          [{ code := "CONTROLLED_POSITION_LOOP_FEE_DIFF" }] else [])
      ++ (if figures.equityDiffAfter.any (fun diff => decide (|diff| > equityToleranceKrw)) then
          [{ code := "CONTROLLED_POSITION_LOOP_EQUITY_DIFF" }] else [])
      ++ (if report.finalRuntimeStatus.toUpper != "STOPPED" && !report.isServerRestartSafeStop then
          [{ code := "CONTROLLED_POSITION_LOOP_RUNTIME_NOT_STOPPED" }] else [])

/-- The stop of a loop that the gate excuses, or can. -/
def LoopReport.excused (report : LoopReport) : Bool :=
  report.isServerRestartSafeStop || report.isResolvableDuplicate

/-- **What blocks nothing** is a report that has passed, or one whose stop is excused. -/
theorem protectedPositionLoopBlockers_eq_nil {event : Option ResolvedSafetyEvent}
    {latest : Option LoopReport} (h : protectedPositionLoopBlockers event latest = []) :
    ∃ report, latest = some report ∧ (report.status.isAllowed = true ∨ report.excused = true) := by
  cases latest with
  | none => cases h
  | some report =>
    refine ⟨report, rfl, ?_⟩
    simp only [protectedPositionLoopBlockers, List.append_eq_nil_iff] at h
    have hnotPassed := h.1.1.1.1
    by_contra hno
    push Not at hno
    obtain ⟨hallowed, hexcused⟩ := hno
    simp only [LoopReport.excused, Bool.not_eq_true, Bool.or_eq_false_iff] at hexcused
    simp [hallowed, hexcused.1, hexcused.2, resolvedDuplicateClientOrderPositionLoopEvent]
      at hnotPassed

theorem blockers_ne_nil_of_ignorable {event : Option ResolvedSafetyEvent} {report : LoopReport}
    (h : report.isIgnorableStopRequest = true) :
    protectedPositionLoopBlockers event (some report) ≠ [] := by
  intro hnil
  obtain ⟨report', hreport, hopen⟩ := protectedPositionLoopBlockers_eq_nil hnil
  cases hreport
  simp only [LoopReport.isIgnorableStopRequest, Bool.and_eq_true, beq_iff_eq] at h
  obtain ⟨⟨⟨⟨⟨⟨⟨⟨⟨⟨⟨⟨⟨hstatus, -⟩, hreasons⟩, -⟩, -⟩, -⟩, -⟩, -⟩, -⟩, -⟩, -⟩, -⟩, -⟩, -⟩ := h
  have hreason : ∀ reason ∈ report.passFailReasons, reason = positionStopRequested :=
    fun reason hmem => by simpa using List.all_eq_true.mp hreasons reason hmem
  rcases hopen with hallowed | hexcused
  · rw [hstatus] at hallowed
    exact absurd hallowed (by decide)
  · rcases Bool.or_eq_true_iff.mp hexcused with hrestart | hduplicate
    · simp only [LoopReport.isServerRestartSafeStop, Bool.and_eq_true, List.any_eq_true] at hrestart
      obtain ⟨-, reason, hmem, heq⟩ := hrestart
      rw [hreason reason hmem] at heq
      exact absurd heq (by decide)
    · simp only [LoopReport.isResolvableDuplicate, Bool.and_eq_true, List.any_eq_true] at hduplicate
      obtain ⟨-, reason, hmem, hcode⟩ := hduplicate
      rw [hreason reason hmem] at hcode
      exact absurd hcode (by decide +kernel)

/-! ## The gate -/

/-- `protected_full_auto_live_blockers` of `controlled_auto_live_gate`. What the limited gate and
the session's own status report, it adds; it counts the positions of the session that is active. -/
def protectedFullAutoLiveBlockers (limitedBlockers hardBlockers : List GateBlocker)
    (event : Option ResolvedSafetyEvent) (reports : Table LoopReport)
    (logs : List ScopedOrder) (positions : List ScopedPosition)
    (session : Option ProtectedSession) : List GateBlocker :=
  let count := protectedOpenPositionCount logs positions session
  limitedBlockers
    ++ protectedPositionLoopBlockers event (latestControlledPositionLoopRun reports)
    ++ hardBlockers
    ++ (if maxOpenPositions - count ≤ 0 then [⟨"PROTECTED_MAX_OPEN_POSITIONS_REACHED", count⟩]
        else [])

theorem loopBlockers_eq_nil_of_open {limitedBlockers hardBlockers : List GateBlocker}
    {event : Option ResolvedSafetyEvent} {reports : Table LoopReport}
    {logs : List ScopedOrder} {positions : List ScopedPosition}
    {session : Option ProtectedSession}
    (h : protectedFullAutoLiveBlockers limitedBlockers hardBlockers event reports logs positions
      session = []) :
    protectedPositionLoopBlockers event (latestControlledPositionLoopRun reports) = [] := by
  simp only [protectedFullAutoLiveBlockers, List.append_eq_nil_iff] at h
  exact h.1.1.2

end AutoCoinBot
