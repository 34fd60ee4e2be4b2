/-
  ProtectedAutoWorker.HeldRuns — whether the daemon buys while one of its runs holds
  what it has bought.

  Nothing counts what the runs hold.
-/
import AutoCoinBot.ProtectedAutoWorker.PositionLoops

namespace AutoCoinBot

open Library

/-! ## The property -/

/-- **Whenever it buys**, what the earlier runs bought is sold. -/
def BuysWithNothingHeld (w : PositionLoops) (e : LoopEvent) : Prop :=
  w.sendsBuy e = true → ∀ run ∈ w.runs, run.IsSold

instance (w : PositionLoops) (e : LoopEvent) : Decidable (BuysWithNothingHeld w e) :=
  inferInstanceAs (Decidable (_ → _))

/-- The stop of the run does not keep the gate shut: it is excused, or another loop has reported
after it. -/
def PositionLoops.LetsThrough (w : PositionLoops) (run : PositionRun) : Prop :=
  ∃ report ∈ w.reports.rows, report.runId = run.runId ∧ report.status.isAllowed = false
    ∧ (report.excused = true
      ∨ ∃ later ∈ w.reports.rows, later.runId ≠ run.runId ∧ later.isIgnorableStopRequest = false
          ∧ report.order ≤ later.order)

/-- Whenever it buys, the runs whose stop is let through have been sold. -/
def LetThroughAreSold (w : PositionLoops) (e : LoopEvent) : Prop :=
  w.sendsBuy e = true → ∀ run ∈ w.runs, w.LetsThrough run → run.IsSold

/-! ## The invariant -/

/-- The reports of a loop that has stopped, and not before it did anything. -/
def StoppedReports (reports : Table LoopReport) (runId : String) : Prop :=
  ∀ report ∈ reports.rows, report.runId = runId →
    report.status.isAllowed = false ∧ report.isIgnorableStopRequest = false

/-- A run that has ended has a report, and is settled or stopped. -/
structure Ended (reports : Table LoopReport) (run : PositionRun) : Prop where
  reported : ∃ report ∈ reports.rows, report.runId = run.runId
  outcome : run.Settled ∨ StoppedReports reports run.runId

/-- The active loop: its run is as it should be, its reports are those of a loop that goes on, and
every run before it is settled or was let through. -/
structure ActiveOk (w : PositionLoops) (job : ActiveLoop) : Prop where
  phase : job.phase.Ok
  reported : ∃ report ∈ w.reports.rows, report.runId = job.runId
  stale : ∀ report ∈ w.reports.rows, report.runId = job.runId → report.isStale = true
  fresh : ∀ run ∈ w.runs, run.runId ≠ job.runId
  cleared : ∀ run ∈ w.runs, run.Settled ∨ w.LetsThrough run

/-- What every event keeps. -/
structure LoopsInv (w : PositionLoops) : Prop where
  active : ∀ job, w.active = some job → ActiveOk w job
  ended : ∀ run ∈ w.runs, Ended w.reports run

theorem LoopsInv.of_idle {w : PositionLoops} (hidle : w.active = none)
    (hended : ∀ run ∈ w.runs, Ended w.reports run) : LoopsInv w where
  active := by
    intro job hjob
    rw [hidle] at hjob
    cases hjob
  ended := hended

theorem loopsInv_init : LoopsInv {} := by
  refine LoopsInv.of_idle rfl ?_
  intro run hrun
  cases hrun

theorem LoopsInv.isSold_iff {w : PositionLoops} (h : LoopsInv w) (e : LoopEvent) :
    BuysWithNothingHeld w e ↔ LetThroughAreSold w e := by
  constructor
  · intro hsold hbuys run hrun _
    exact hsold hbuys run hrun
  · intro hsold hbuys run hrun
    have hjob : ∃ job, w.active = some job := by
      cases e with
      | runGoesOn reading ending loop =>
        cases hactive : w.active with
        | none => simp [PositionLoops.sendsBuy, hactive] at hbuys
        | some job => exact ⟨job, rfl⟩
      | _ => cases hbuys
    obtain ⟨job, hjob⟩ := hjob
    rcases (h.active job hjob).cleared run hrun with hsettled | hlet
    · exact hsettled.isSold
    · exact hsold hbuys run hrun hlet

/-! ## What leaves the loops alone -/

theorem LoopsInv.congr {w w' : PositionLoops} (h : LoopsInv w) (hactive : w'.active = w.active)
    (hruns : w'.runs = w.runs) (hreports : w'.reports = w.reports) : LoopsInv w' where
  active := by
    intro job hjob
    obtain ⟨hphase, hreported, hstale, hfresh, hcleared⟩ := h.active job (hactive ▸ hjob)
    refine ⟨hphase, hreports ▸ hreported, hreports ▸ hstale, hruns ▸ hfresh, ?_⟩
    intro run hrun
    rw [hruns] at hrun
    unfold PositionLoops.LetsThrough
    rw [hreports]
    exact hcleared run hrun
  ended := by
    intro run hrun
    rw [hruns] at hrun
    rw [hreports]
    exact h.ended run hrun

theorem ActiveOk.of_phase {w w' : PositionLoops} {job job' : ActiveLoop} (h : ActiveOk w job)
    (hruns : w'.runs = w.runs) (hreports : w'.reports = w.reports) (hrunId : job'.runId = job.runId)
    (hphase : job'.phase.Ok) : ActiveOk w' job' where
  phase := hphase
  reported := by rw [hreports, hrunId]; exact h.reported
  stale := by rw [hreports, hrunId]; exact h.stale
  fresh := by rw [hruns, hrunId]; exact h.fresh
  cleared := by
    intro run hrun
    rw [hruns] at hrun
    unfold PositionLoops.LetsThrough
    rw [hreports]
    exact h.cleared run hrun

theorem LoopsInv.stopDaemon {w : PositionLoops} (h : LoopsInv w) (failed : Bool) :
    LoopsInv (stopDaemon w failed) where
  active := by
    intro job hjob
    obtain ⟨job', hjob', rfl⟩ := Option.map_eq_some_iff.mp hjob
    have hok := h.active job' hjob'
    exact hok.of_phase rfl rfl rfl hok.phase
  ended := h.ended

/-! ## The gate -/

theorem LoopsInv.cleared_of_open {w : PositionLoops} (h : LoopsInv w)
    {limitedBlockers hardBlockers : List GateBlocker} {session : Option ProtectedSession}
    (hopen : protectedFullAutoLiveBlockers limitedBlockers hardBlockers w.resolvedEvent w.reports
      w.orderLogs w.positions session = []) {run : PositionRun} (hrun : run ∈ w.runs) :
    run.Settled ∨ w.LetsThrough run := by
  obtain ⟨⟨report, hreport, hrunId⟩, houtcome⟩ := h.ended run hrun
  rcases houtcome with hsettled | hstopped
  · exact .inl hsettled
  · refine .inr ?_
    have hnil := loopBlockers_eq_nil_of_open hopen
    obtain ⟨latest, hlatest, hpassed⟩ := protectedPositionLoopBlockers_eq_nil hnil
    rw [hlatest] at hnil
    have hread : latest.isIgnorableStopRequest = false :=
      Bool.eq_false_iff.mpr (fun hignorable => blockers_ne_nil_of_ignorable hignorable hnil)
    obtain ⟨hnotPassed, hcounts⟩ := hstopped report hreport hrunId
    by_cases hown : latest.runId = run.runId
    · -- the latest report is the run's own: it does not pass, so that its stop is excused
      have hmem := latestRun_mem hlatest
      have hlatestStopped := (hstopped latest hmem hown).1
      have hexcused : latest.excused = true :=
        hpassed.resolve_left (by simp [hlatestStopped])
      exact ⟨latest, hmem, hown, hlatestStopped, .inl hexcused⟩
    · -- it is another loop's, which stands before the run's
      exact ⟨report, hreport, hrunId, hnotPassed, .inr ⟨latest, latestRun_mem hlatest, hown, hread,
        latestRun_newest hlatest hread hreport hcounts⟩⟩

theorem mem_started_of_ne {reports : Table LoopReport} {runId : String} {row : LoopReport}
    (h : row ∈ reports.rows) (hne : row.runId ≠ runId) :
    row ∈ (persistControlledRunReport
      (persistControlledRunReport reports (startedReport runId .starting))
      (startedReport runId .running)).rows :=
  mem_persist_of_ne (mem_persist_of_ne h hne) hne

theorem mem_started {reports : Table LoopReport} {runId : String} {row : LoopReport}
    (h : row ∈ (persistControlledRunReport
      (persistControlledRunReport reports (startedReport runId .starting))
      (startedReport runId .running)).rows) :
    (row ∈ reports.rows ∧ row.runId ≠ runId) ∨ (row.runId = runId ∧ row.isStale = true) := by
  rcases mem_persist h with ⟨hold, hne⟩ | ⟨id, rfl⟩
  · rcases mem_persist hold with hold | ⟨id, rfl⟩
    · exact .inl hold
    · exact absurd rfl hne
  · exact .inr ⟨rfl, rfl⟩

theorem LoopsInv.startPositionLoop {w : PositionLoops} (h : LoopsInv w)
    (hcleared : ∀ run ∈ w.runs, run.Settled ∨ w.LetsThrough run) (runId : String) :
    LoopsInv (startPositionLoop w runId) := by
  unfold AutoCoinBot.startPositionLoop
  split
  · exact h
  · rename_i hnew
    have hfresh : ∀ row ∈ w.reports.rows, row.runId ≠ runId :=
      fun row hrow heq => hnew (List.any_eq_true.mpr ⟨row, hrow, by simpa using heq⟩)
    have hkeep : ∀ row ∈ w.reports.rows, row ∈ (persistControlledRunReport
        (persistControlledRunReport w.reports (startedReport runId .starting))
        (startedReport runId .running)).rows :=
      fun row hrow => mem_started_of_ne hrow (hfresh row hrow)
    have hrunFresh : ∀ run ∈ w.runs, run.runId ≠ runId := by
      intro run hrun heq
      obtain ⟨row, hrow, hrowId⟩ := (h.ended run hrun).reported
      exact hfresh row hrow (hrowId.trans heq)
    refine ⟨?_, ?_⟩
    · intro job hjob
      cases hjob
      refine ⟨trivial, exists_runId_persist _ (startedReport runId .running), ?_, hrunFresh, ?_⟩
      · intro row hrow hrowId
        rcases mem_started hrow with ⟨-, hne⟩ | ⟨-, hstale⟩
        · exact absurd hrowId hne
        · exact hstale
      · intro run hrun
        rcases hcleared run hrun with hsettled | ⟨report, hreport, hrunId, hnotPassed, hthrough⟩
        · exact .inl hsettled
        · refine .inr ⟨report, hkeep report hreport, hrunId, hnotPassed, ?_⟩
          rcases hthrough with hexcused | ⟨later, hlater, hrest⟩
          · exact .inl hexcused
          · exact .inr ⟨later, hkeep later hlater, hrest⟩
    · intro run hrun
      obtain ⟨⟨row, hrow, hrowId⟩, houtcome⟩ := h.ended run hrun
      refine ⟨⟨row, hkeep row hrow, hrowId⟩, houtcome.imp_right (fun hstopped row' hrow' hrowId' => ?_)⟩
      rcases mem_started hrow' with ⟨hold, -⟩ | ⟨hown, -⟩
      · exact hstopped row' hold hrowId'
      · exact absurd (hrowId'.symm.trans hown) (hrunFresh run hrun)

/-- **A tick** starts a loop behind an open gate alone. -/
theorem LoopsInv.protectedTick {w : PositionLoops} (h : LoopsInv w) (reading : TickReading) :
    LoopsInv (protectedTick w reading) := by
  unfold AutoCoinBot.protectedTick
  split_ifs
  · exact h
  · exact h.stopDaemon true
  · exact h.congr rfl rfl rfl
  · have hmerged : LoopsInv (if reading.mergeStops then AutoCoinBot.stopDaemon w true else w) := by
      split
      · exact h.stopDaemon true
      · exact h
    unfold tickWithLock
    generalize (if reading.mergeStops then AutoCoinBot.stopDaemon w true else w) = w' at hmerged
    cases reading.equity with
    | timesOut => exact hmerged
    | stops failed => exact hmerged.stopDaemon failed
    | answers =>
      show LoopsInv (if w'.active.isSome then w' else _)
      split_ifs with hactive hopenOrder hcount hblocked hother
      · exact hmerged
      · exact hmerged.stopDaemon false
      · exact hmerged
      · exact hmerged
      · exact hmerged
      · have hopen := not_not.mp hblocked
        exact hmerged.startPositionLoop (fun run hrun => hmerged.cleared_of_open hopen hrun)
          reading.runId

/-! ## Runs -/

theorem Ended.persist {reports : Table LoopReport} {run : PositionRun} (h : Ended reports run)
    {report : LoopReport} (hne : run.runId ≠ report.runId) :
    Ended (persistControlledRunReport reports report) run where
  reported := by
    obtain ⟨row, hrow, hrowId⟩ := h.reported
    exact ⟨row, mem_persist_of_ne hrow (fun heq => hne (hrowId.symm.trans heq)), hrowId⟩
  outcome := by
    refine h.outcome.imp_right (fun hstopped row hrow hrowId => ?_)
    rcases mem_persist hrow with ⟨hold, -⟩ | ⟨id, rfl⟩
    · exact hstopped row hold hrowId
    · exact absurd hrowId.symm hne

theorem finalReport_counts {outcome : LoopOutcome} (h : outcome.Stops) (runId runtimeStatus : String)
    (now : UtcTime) :
    (finalReport runId outcome runtimeStatus now).isIgnorableStopRequest = false := by
  obtain ⟨-, reason, hreason, hne⟩ := h
  have hall : outcome.passFailReasons.all (· == positionStopRequested) = false := by
    rw [List.all_eq_false]
    exact ⟨reason, hreason, by simpa using hne⟩
  simp [LoopReport.isIgnorableStopRequest, finalReport, hall]

/-- **A step of the active run** ends it settled, or its loop stopped. -/
theorem LoopsInv.runGoesOn {w : PositionLoops} (h : LoopsInv w) (reading : RunReading)
    (ending : EndReading) (loop : LoopReading) : LoopsInv (runGoesOn w reading ending loop) := by
  unfold AutoCoinBot.runGoesOn
  cases hactive : w.active with
  | none => exact h
  | some job =>
    have hok := h.active job hactive
    have hstep : (runStep w.openOrders job.stopRequested ending loop job.phase reading).Ok
        job.runId := runStep_ok hok.phase reading
    simp only
    cases hresult : runStep w.openOrders job.stopRequested ending loop job.phase reading with
    | goesOn phase =>
      rw [hresult] at hstep
      simp only
      refine ⟨?_, h.ended⟩
      intro job' hjob'
      cases hjob'
      exact hok.of_phase rfl rfl rfl hstep
    | ends phase outcome =>
      rw [hresult] at hstep
      simp only
      refine LoopsInv.of_idle rfl ?_
      intro run hrun
      rcases List.mem_append.mp hrun with hold | hown
      · exact (h.ended run hold).persist (hok.fresh run hold)
      · rw [List.mem_singleton] at hown
        subst hown
        refine ⟨?_, ?_⟩
        · rw [RunPhase.trades_runId]
          exact exists_runId_persist _ (finalReport job.runId outcome loop.runtimeStatus w.now)
        · refine hstep.imp_right (fun hstops row hrow hrowId => ?_)
          rw [RunPhase.trades_runId] at hrowId
          rcases mem_persist hrow with ⟨-, hne⟩ | ⟨id, rfl⟩
          · exact absurd hrowId hne
          · exact ⟨hstops.1, finalReport_counts hstops job.runId loop.runtimeStatus w.now⟩

/-! ## The exchange, restarts and other loops -/

theorem LoopsInv.exchangeChanges {w : PositionLoops} (h : LoopsInv w) (runId : String)
    (side : OrderSide) (c : LimitOrder.Change) : LoopsInv (exchangeChanges w runId side c) := by
  -- a run keeps its id, and stays settled
  have hold : ∀ run ∈ (AutoCoinBot.exchangeChanges w runId side c).runs, ∃ old ∈ w.runs,
      run.runId = old.runId ∧ (old.Settled → run.Settled) := by
    intro run hrun
    obtain ⟨old, hold, rfl⟩ := List.mem_map.mp hrun
    refine ⟨old, hold, ?_⟩
    split
    · exact ⟨rfl, fun hsettled => hsettled.change side c⟩
    · exact ⟨rfl, id⟩
  have hthrough : ∀ {run old : PositionRun}, run.runId = old.runId → w.LetsThrough old →
      (AutoCoinBot.exchangeChanges w runId side c).LetsThrough run := by
    intro run old hid hlet
    unfold PositionLoops.LetsThrough at hlet ⊢
    rw [hid]
    exact hlet
  refine ⟨?_, ?_⟩
  · intro job hjob
    obtain ⟨job', hjob', rfl⟩ := Option.map_eq_some_iff.mp hjob
    have hok := h.active job' hjob'
    have hid : (if job'.runId = runId then { job' with phase := job'.phase.change side c }
        else job').runId = job'.runId := by split <;> rfl
    refine ⟨?_, by rw [hid]; exact hok.reported, by rw [hid]; exact hok.stale, ?_, ?_⟩
    · split
      · exact hok.phase.change side c
      · exact hok.phase
    · intro run hrun
      obtain ⟨old, hmem, hrunId, -⟩ := hold run hrun
      rw [hid, hrunId]
      exact hok.fresh old hmem
    · intro run hrun
      obtain ⟨old, hmem, hrunId, hsettled⟩ := hold run hrun
      exact (hok.cleared old hmem).imp hsettled (hthrough hrunId)
  · intro run hrun
    obtain ⟨old, hmem, hrunId, hsettled⟩ := hold run hrun
    obtain ⟨hreported, houtcome⟩ := h.ended old hmem
    refine ⟨by rw [hrunId]; exact hreported, ?_⟩
    rw [hrunId]
    exact houtcome.imp_left hsettled

theorem restarted_stopped (now : UtcTime) (report : LoopReport) :
    (report.restarted now).status.isAllowed = false
      ∧ (report.restarted now).isIgnorableStopRequest = false := by
  refine ⟨rfl, ?_⟩
  have hall : (report.passFailReasons ++ [serverRestartSafeStop]).all
      (· == positionStopRequested) = false := by
    rw [List.all_append, Bool.and_eq_false_iff]
    exact .inr (by decide)
  simp [LoopReport.isIgnorableStopRequest, LoopReport.restarted, hall]

/-- **A restart** leaves the run that it ends with a stopped report. -/
theorem LoopsInv.serverRestart {w : PositionLoops} (h : LoopsInv w) : LoopsInv (serverRestart w) := by
  -- a report is kept, or marked
  have hrow : ∀ row ∈ (AutoCoinBot.serverRestart w).reports.rows, ∃ old ∈ w.reports.rows,
      row.runId = old.runId ∧ (row = old ∧ old.isStale = false
        ∨ row.status.isAllowed = false ∧ row.isIgnorableStopRequest = false) := by
    intro row hrow
    obtain ⟨old, hold, rfl⟩ := List.mem_map.mp hrow
    refine ⟨old, hold, ?_⟩
    split
    · exact ⟨rfl, .inr (restarted_stopped w.now old)⟩
    · rename_i hstale
      exact ⟨rfl, .inl ⟨rfl, by simpa using hstale⟩⟩
  have hreported : ∀ {runId : String}, (∃ row ∈ w.reports.rows, row.runId = runId) →
      ∃ row ∈ (AutoCoinBot.serverRestart w).reports.rows, row.runId = runId := by
    rintro runId ⟨row, hmem, hrowId⟩
    refine ⟨_, List.mem_map.mpr ⟨row, hmem, rfl⟩, ?_⟩
    split
    · exact hrowId
    · exact hrowId
  refine LoopsInv.of_idle rfl ?_
  intro run hrun
  rcases List.mem_append.mp hrun with hold | hlast
  · obtain ⟨hhas, houtcome⟩ := h.ended run hold
    refine ⟨hreported hhas, houtcome.imp_right (fun hstopped row hmem hrowId => ?_)⟩
    obtain ⟨old, hold', hid, hkept⟩ := hrow row hmem
    rcases hkept with ⟨rfl, -⟩ | hmarked
    · exact hstopped row hold' hrowId
    · exact hmarked
  · obtain ⟨job, hjob, rfl⟩ := Option.map_eq_some_iff.mp (Option.mem_toList.mp hlast)
    have hok := h.active job hjob
    refine ⟨by rw [RunPhase.trades_runId]; exact hreported hok.reported, .inr ?_⟩
    intro row hmem hrowId
    rw [RunPhase.trades_runId] at hrowId
    obtain ⟨old, hold', hid, hkept⟩ := hrow row hmem
    rcases hkept with ⟨rfl, hstale⟩ | hmarked
    · rw [hok.stale row hold' hrowId] at hstale
      cases hstale
    · exact hmarked

/-- **An event keeps** every run settled, or its report stopped. -/
theorem LoopsInv.loopStep {w : PositionLoops} (h : LoopsInv w) (e : LoopEvent) :
    LoopsInv (loopStep w e) := by
  cases e with
  | timePasses seconds => exact h.congr rfl rfl rfl
  | daemonStarts allowed session =>
    show LoopsInv (if allowed then _ else w)
    split
    · exact h.congr rfl rfl rfl
    · exact h
  | ticks reading => exact h.protectedTick reading
  | safeStops failed => exact h.stopDaemon failed
  | runGoesOn reading ending loop => exact h.runGoesOn reading ending loop
  | exchangeChanges runId side c => exact h.exchangeChanges runId side c
  | serverRestarts => exact h.serverRestart
  | otherLoopEnds runId outcome runtimeStatus =>
    show LoopsInv (if _ then w else _)
    split_ifs with hbusy
    · exact h
    · simp only [Bool.or_eq_true, not_or, Bool.not_eq_true, Option.isSome_eq_false_iff,
        Option.isNone_iff_eq_none] at hbusy
      obtain ⟨hidle, hnew⟩ := hbusy
      refine LoopsInv.of_idle hidle ?_
      intro run hrun
      refine (h.ended run hrun).persist (fun heq => ?_)
      obtain ⟨row, hrow, hrowId⟩ := (h.ended run hrun).reported
      have hno := List.any_eq_false.mp hnew row hrow
      have hsame : row.runId = runId := hrowId.trans heq
      exact hno (by simpa using hsame)
  | safetyEventRecorded event => exact h.congr rfl rfl rfl
  | positionsChange orderLogs positions => exact h.congr rfl rfl rfl

/-! ## Histories -/

/-- **The daemon buys with nothing held**, in exactly the histories in which each run whose stop the
gate lets through has been sold by the time it buys again. -/
theorem buysWithNothingHeld_iff (events : List LoopEvent) :
    StepsOk loopStep BuysWithNothingHeld {} events ↔ StepsOk loopStep LetThroughAreSold {} events :=
  stepsOk_congr_of_invariant (fun _ e h => h.loopStep e) (fun _ e h => h.isSold_iff e)
    loopsInv_init events

/-- A loop that buys at a price, if it gets as far. -/
def exampleBuy : LoopEvent :=
  .runGoesOn (.scans (.candidate 10000 100000000 .sent)) {} {}

/-- The process restarts while a run holds what it has bought; then the daemon is started again. -/
def exampleRestartedHistory : List LoopEvent :=
  let session : ProtectedSession := ⟨"pv1-20260702T000000-0a1b2c", "2026-07-02T00:00:00Z"⟩
  let polls : LoopEvent := .runGoesOn (.waits .polls) {} {}
  [.otherLoopEnds "posloop-20260701T000000-000000" ⟨.passIdle, [], {}⟩ "STOPPED",
   .daemonStarts true session,
   .ticks { runId := "" },
   .ticks { runId := "posloop-20260702T000100-000001" },
   exampleBuy,
   .exchangeChanges "posloop-20260702T000100-000001" .buy (.executes (1 / 10000)),
   polls,
   .serverRestarts,
   .daemonStarts true session,
   .ticks { runId := "" },
   .ticks { runId := "posloop-20260702T001000-000002" },
   exampleBuy]

/-- **It buys again** with the first volume unsold. -/
theorem buysWhileHeld :
    ¬ ∀ events, StepsOk loopStep BuysWithNothingHeld {} events := by
  intro h
  exact absurd (h exampleRestartedHistory) (by decide +kernel)

end AutoCoinBot
