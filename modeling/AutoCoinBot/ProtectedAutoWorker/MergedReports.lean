/-
  ProtectedAutoWorker.MergedReports — whether every job's report is merged once, into
  the session that started it.
-/
import AutoCoinBot.ProtectedAutoWorker.Daemon

namespace AutoCoinBot

open Library

/-! ## The property -/

def JobReport.figures (report : JobReport) : ℕ × ℚ :=
  (report.tradeCount, report.protectedStrategyTotalPnl)

def ProtectedAutoState.figures (state : ProtectedAutoState) : ℕ × ℚ :=
  (state.tradeCount, state.protectedStrategyPnl)

/-- The reports of the jobs that were started since the daemon was. -/
def ownReports (w : ProtectedAuto) : List JobReport :=
  (w.jobs.filter (fun job => job.session == w.session)).filterMap ProtectedJob.report

/-- **Each report once, into its own session**: whenever a running session merges, the stored
figures are then the sums over its own reports, and only a job of its own stops it. -/
structure MergedOnce (w : ProtectedAuto) : Prop where
  figures : w.state.workerStatus = .running →
    (syncLatestReportIntoState w).state.figures = ((ownReports w).map JobReport.figures).sum
  stops : w.state.workerStatus = .running →
    (syncLatestReportIntoState w).state.workerStatus ≠ .running →
    ∃ job, latestProtectedJob w.jobs = some job ∧ job.session = w.session

/-- No report of an earlier session is left: a start finds none, and none comes from a job that
the running session has not started. A new job has a run id of its own, and starts in a later
second than the others. -/
def NoneLeft (w : ProtectedAuto) : DaemonEvent → Prop
  | .starts gateAllowed lockAcquired => gateAllowed = true → lockAcquired = true →
      ∀ job ∈ w.jobs, job.report = none
  | .ticks _ (.startsJob controlledRunId startedAt) =>
    ∀ job ∈ w.jobs, job.controlledRunId ≠ controlledRunId ∧ job.startedAt < startedAt
  | .jobEnds controlledRunId report => w.state.workerStatus = .running → report.isSome →
      ∀ job ∈ w.jobs, job.controlledRunId = controlledRunId → job.session = w.session
  | .ticks _ (.ends _) | .ticks _ (.safeStops _ _) | .statusReads | .safeStops _ _
  | .serverRestarts => True

instance (w : ProtectedAuto) : (e : DaemonEvent) → Decidable (NoneLeft w e)
  | .starts gateAllowed lockAcquired => inferInstanceAs (Decidable (gateAllowed = true →
      lockAcquired = true → ∀ job ∈ w.jobs, job.report = none))
  | .ticks _ (.startsJob controlledRunId startedAt) => inferInstanceAs (Decidable
      (∀ job ∈ w.jobs, job.controlledRunId ≠ controlledRunId ∧ job.startedAt < startedAt))
  | .jobEnds controlledRunId report => inferInstanceAs (Decidable (w.state.workerStatus = .running →
      report.isSome → ∀ job ∈ w.jobs, job.controlledRunId = controlledRunId →
        job.session = w.session))
  | .ticks _ (.ends _) | .ticks _ (.safeStops _ _) | .statusReads | .safeStops _ _
  | .serverRestarts => isTrue trivial

/-! ## Jobs one after the other -/

section Jobs

variable {jobs before : List ProtectedJob} {job : ProtectedJob}

def Precedes (a b : ProtectedJob) : Prop :=
  a.outcome ≠ .running ∧ a.startedAt < b.startedAt ∧ a.controlledRunId ≠ b.controlledRunId

theorem latestProtectedJob_mem (h : latestProtectedJob jobs = some job) : job ∈ jobs :=
  (List.mem_insertionSort _).mp (List.mem_of_head? h)

theorem latestProtectedJob_startedAt (h : latestProtectedJob jobs = some job) {a : ProtectedJob}
    (ha : a ∈ jobs) : a.startedAt ≤ job.startedAt := by
  obtain ⟨rest, hrest⟩ := List.head?_eq_some_iff.mp h
  have htotal : Std.Total (fun a b : ProtectedJob => b.startedAt ≤ a.startedAt) :=
    ⟨fun a b => Int.le_total b.startedAt a.startedAt⟩
  have htrans : IsTrans ProtectedJob (fun a b => b.startedAt ≤ a.startedAt) :=
    ⟨fun a b c hab hbc => Int.le_trans hbc hab⟩
  have hsorted := List.pairwise_insertionSort
    (fun a b : ProtectedJob => b.startedAt ≤ a.startedAt) jobs
  rw [hrest, List.pairwise_cons] at hsorted
  have hmem : a ∈ job :: rest := by
    rw [← hrest]
    exact (List.mem_insertionSort _).mpr ha
  rcases List.mem_cons.mp hmem with rfl | hlater
  · exact Int.le_refl _
  · exact hsorted.1 a hlater

theorem latestProtectedJob_concat (h : (before ++ [job]).Pairwise Precedes) :
    latestProtectedJob (before ++ [job]) = some job := by
  have hlast : job ∈ before ++ [job] := List.mem_append_right _ (List.mem_singleton_self job)
  cases hbest : latestProtectedJob (before ++ [job]) with
  | none =>
    have hnil := List.head?_eq_none_iff.mp hbest
    rw [← List.mem_insertionSort (fun a b => b.startedAt ≤ a.startedAt), hnil] at hlast
    cases hlast
  | some best =>
    rcases List.mem_append.mp (latestProtectedJob_mem hbest) with hearlier | hsame
    · -- an earlier job would have started after the last one
      have hstart := ((List.pairwise_append.mp h).2.2 best hearlier job
        (List.mem_singleton_self job)).2.1
      exact absurd (latestProtectedJob_startedAt hbest hlast) (not_le.mpr hstart)
    · rw [List.mem_singleton.mp hsame]

theorem endJob_eq_self {controlledRunId : String} (report : Option JobReport)
    (hover : ∀ a ∈ jobs, ¬ (a.controlledRunId = controlledRunId ∧ a.outcome = .running)) :
    endJob jobs controlledRunId report = jobs := by
  unfold endJob
  conv_rhs => rw [← List.map_id jobs]
  refine List.map_congr_left (fun a ha => ?_)
  exact if_neg (hover a ha)

theorem endJob_concat (h : (before ++ [job]).Pairwise Precedes) (controlledRunId : String)
    (report : Option JobReport) :
    endJob (before ++ [job]) controlledRunId report
      = before ++ [if job.controlledRunId = controlledRunId ∧ job.outcome = .running then
          { job with outcome := report.elim .raised .returned } else job] := by
  have hover : ∀ a ∈ before, ¬ (a.controlledRunId = controlledRunId ∧ a.outcome = .running) :=
    fun a ha hrunning => ((List.pairwise_append.mp h).2.2 a ha job
      (List.mem_singleton_self job)).1 hrunning.2
  have hbefore := endJob_eq_self report hover
  unfold endJob at hbefore ⊢
  rw [List.map_append, hbefore]
  rfl

theorem pairwise_precedes_outcome (h : (before ++ [job]).Pairwise Precedes)
    (outcome : JobOutcome) : (before ++ [{ job with outcome := outcome }]).Pairwise Precedes := by
  obtain ⟨hbefore, -, hall⟩ := List.pairwise_append.mp h
  refine List.pairwise_append.mpr ⟨hbefore, List.pairwise_singleton _ _, ?_⟩
  intro a ha b hb
  rw [List.mem_singleton.mp hb]
  exact hall a ha job (List.mem_singleton_self job)

end Jobs

/-! ## What has been merged -/

def owedFigures (w : ProtectedAuto) : ℕ × ℚ := ((reportToMerge w).map JobReport.figures).getD 0

/-- **The books of a running session**: every report in the table is its own, what was merged last
is one of them, and only what the next merge adds is missing from the sums. -/
structure Booked (w : ProtectedAuto) : Prop where
  order : w.jobs.Pairwise Precedes
  own : w.state.workerStatus = .running →
    ∀ job ∈ w.jobs, job.report.isSome → job.session = w.session
  merged : w.state.workerStatus = .running → ∀ report, w.state.latestReport = some report →
    ∃ job ∈ w.jobs, job.report = some report
  figures : w.state.workerStatus = .running →
    w.state.figures + owedFigures w
      = ((w.jobs.filterMap ProtectedJob.report).map JobReport.figures).sum

section Merging

variable {w : ProtectedAuto}

theorem reportToMerge_some {report : JobReport} (h : reportToMerge w = some report) :
    ∃ job, latestProtectedJob w.jobs = some job ∧ job.report = some report := by
  unfold reportToMerge at h
  split at h
  · cases h
  · rename_i found hfound
    split_ifs at h
    cases h
    exact Option.bind_eq_some_iff.mp hfound

theorem sync_figures (w : ProtectedAuto) :
    (syncLatestReportIntoState w).state.figures = w.state.figures + owedFigures w
      ∧ (syncLatestReportIntoState w).jobs = w.jobs
      ∧ (syncLatestReportIntoState w).session = w.session
      ∧ (syncLatestReportIntoState w).state.latestReport
        = (reportToMerge w).or w.state.latestReport := by
  unfold syncLatestReportIntoState owedFigures
  cases reportToMerge w with
  | none => exact ⟨(add_zero w.state.figures).symm, rfl, rfl, rfl⟩
  | some report =>
    dsimp only
    cases hardReason report with
    | none => exact ⟨rfl, rfl, rfl, rfl⟩
    | some reason => exact ⟨rfl, rfl, rfl, rfl⟩

theorem running_of_sync (h : (syncLatestReportIntoState w).state.workerStatus = .running) :
    w.state.workerStatus = .running := by
  unfold syncLatestReportIntoState at h
  cases hreport : reportToMerge w with
  | none => rwa [hreport] at h
  | some report =>
    rw [hreport] at h
    dsimp only at h
    cases hreason : hardReason report with
    | none => rwa [hreason] at h
    | some reason =>
      rw [hreason] at h
      have hstop : (safeStop (mergeReport w.state report) reason
        (report.controlledAutoLiveStatus == "FAILED")).workerStatus = .running := h
      unfold safeStop at hstop
      dsimp only at hstop
      split_ifs at hstop

theorem reportToMerge_of_stops (hrunning : w.state.workerStatus = .running)
    (hstops : (syncLatestReportIntoState w).state.workerStatus ≠ .running) :
    ∃ report, reportToMerge w = some report := by
  cases hreport : reportToMerge w with
  | some report => exact ⟨report, rfl⟩
  | none =>
    unfold syncLatestReportIntoState at hstops
    rw [hreport] at hstops
    exact absurd hrunning hstops

theorem reportToMerge_sync (w : ProtectedAuto) :
    reportToMerge (syncLatestReportIntoState w) = none := by
  obtain ⟨-, hjobs, -, hlatest⟩ := sync_figures w
  unfold reportToMerge
  rw [hjobs, hlatest]
  cases hfound : (latestProtectedJob w.jobs).bind ProtectedJob.report with
  | none => rfl
  | some report =>
    dsimp only
    by_cases hsame : w.state.latestReport.map JobReport.controlledRunId
        = some report.controlledRunId
    · have hnone : reportToMerge w = none := by
        unfold reportToMerge
        rw [hfound]
        exact if_pos hsame
      rw [hnone, Option.none_or, if_pos hsame]
    · have hsome : reportToMerge w = some report := by
        unfold reportToMerge
        rw [hfound]
        exact if_neg hsame
      rw [hsome]
      exact if_pos rfl

/-- **A merge keeps the books.** -/
theorem Booked.sync (h : Booked w) : Booked (syncLatestReportIntoState w) := by
  obtain ⟨hfigures, hjobs, hsession, hlatest⟩ := sync_figures w
  refine ⟨?_, fun hrunning => ?_, fun hrunning report hreport => ?_, fun hrunning => ?_⟩
  · rw [hjobs]
    exact h.order
  · rw [hjobs, hsession]
    exact h.own (running_of_sync hrunning)
  · rw [hjobs]
    rw [hlatest] at hreport
    cases hfound : reportToMerge w with
    | none =>
      rw [hfound, Option.none_or] at hreport
      exact h.merged (running_of_sync hrunning) report hreport
    | some merged =>
      rw [hfound, Option.some_or] at hreport
      cases hreport
      obtain ⟨job, hjob, hreports⟩ := reportToMerge_some hfound
      exact ⟨job, latestProtectedJob_mem hjob, hreports⟩
  · have hnothing : owedFigures (syncLatestReportIntoState w) = 0 := by
      unfold owedFigures
      rw [reportToMerge_sync]
      rfl
    rw [hnothing, add_zero, hfigures, hjobs]
    exact h.figures (running_of_sync hrunning)

theorem Booked.mergedOnce (h : Booked w) : MergedOnce w := by
  obtain ⟨hfigures, -, -, -⟩ := sync_figures w
  constructor
  · intro hrunning
    have hown : ownReports w = w.jobs.filterMap ProtectedJob.report := by
      unfold ownReports
      rw [List.filterMap_filter]
      refine List.filterMap_congr (fun job hjob => ?_)
      by_cases hsession : job.session = w.session
      · rw [if_pos (beq_iff_eq.mpr hsession)]
      · rw [if_neg (fun heq => hsession (beq_iff_eq.mp heq))]
        by_contra hreport
        exact hsession (h.own hrunning job hjob
          (Option.isSome_iff_ne_none.mpr (fun heq => hreport heq.symm)))
    rw [hfigures, h.figures hrunning, hown]
  · intro hrunning hstops
    obtain ⟨report, hreport⟩ := reportToMerge_of_stops hrunning hstops
    obtain ⟨job, hjob, hreports⟩ := reportToMerge_some hreport
    refine ⟨job, hjob, h.own hrunning job (latestProtectedJob_mem hjob) ?_⟩
    rw [hreports]
    rfl

end Merging

/-! ## Events -/

section Events

variable {w : ProtectedAuto}

theorem Booked.of_not_running (horder : w.jobs.Pairwise Precedes)
    (hstopped : w.state.workerStatus ≠ .running) : Booked w :=
  ⟨horder, fun h => absurd h hstopped, fun h => absurd h hstopped, fun h => absurd h hstopped⟩

theorem safeStop_not_running (state : ProtectedAutoState) (reason : String) (failed : Bool) :
    (safeStop state reason failed).workerStatus ≠ .running := by
  unfold safeStop
  dsimp only
  split_ifs
  · decide
  · decide

theorem Booked.safeStop (h : Booked w) (reason : String) (failed : Bool) :
    Booked { w with state := safeStop w.state reason failed } :=
  .of_not_running h.order (safeStop_not_running w.state reason failed)

theorem Booked.finishTick (h : Booked w) (result : String) : Booked (finishTick w result) :=
  ⟨h.order, h.own, h.merged, h.figures⟩

theorem reportToMerge_of_report_none {job : ProtectedJob}
    (hlatest : latestProtectedJob w.jobs = some job) (hreport : job.report = none) :
    reportToMerge w = none := by
  unfold reportToMerge
  rw [hlatest, Option.bind_some, hreport]

theorem owedFigures_of_none (h : reportToMerge w = none) : owedFigures w = 0 := by
  unfold owedFigures
  rw [h]
  rfl

theorem report_controlledRunId {job : ProtectedJob} {report : JobReport}
    (h : job.report = some report) : report.controlledRunId = job.controlledRunId := by
  unfold ProtectedJob.report at h
  split at h
  · cases h
    rfl
  · cases h
  · cases h

theorem report_of_running {job : ProtectedJob} (h : job.outcome = .running) :
    job.report = none := by
  unfold ProtectedJob.report
  rw [h]

/-- **A new job owes nothing yet**, and all before it has been merged. -/
theorem Booked.startJob (h : Booked w) (hnothing : reportToMerge w = none)
    {controlledRunId : String} {startedAt : UtcTime}
    (hnew : ∀ job ∈ w.jobs, job.controlledRunId ≠ controlledRunId ∧ job.startedAt < startedAt) :
    Booked (startJob w controlledRunId startedAt) := by
  unfold AutoCoinBot.startJob
  split_ifs with hactive
  · exact h
  · have hover : ∀ job ∈ w.jobs, job.outcome ≠ .running := fun job hjob hrunning =>
      hactive (List.any_eq_true.mpr ⟨job, hjob, beq_iff_eq.mpr hrunning⟩)
    have horder : (w.jobs ++ [{ controlledRunId := controlledRunId, startedAt := startedAt
                                session := w.session : ProtectedJob }]).Pairwise Precedes := by
      refine List.pairwise_append.mpr ⟨h.order, List.pairwise_singleton _ _, ?_⟩
      intro a ha b hb
      rw [List.mem_singleton.mp hb]
      exact ⟨hover a ha, (hnew a ha).2, (hnew a ha).1⟩
    refine ⟨horder, fun hrunning job hjob hreport => ?_, fun hrunning report hreport => ?_,
      fun hrunning => ?_⟩
    · rcases List.mem_append.mp hjob with hold | hadded
      · exact h.own hrunning job hold hreport
      · rw [List.mem_singleton.mp hadded]
    · obtain ⟨job, hjob, hreports⟩ := h.merged hrunning report hreport
      exact ⟨job, List.mem_append_left _ hjob, hreports⟩
    · rw [owedFigures_of_none (reportToMerge_of_report_none (latestProtectedJob_concat horder) rfl)]
      have hbefore := h.figures hrunning
      rw [owedFigures_of_none hnothing] at hbefore
      show w.state.figures + 0 = _
      rw [hbefore, List.filterMap_append]
      show _ = ((w.jobs.filterMap ProtectedJob.report ++ []).map JobReport.figures).sum
      rw [List.append_nil]

theorem Booked.outcome {before : List ProtectedJob} {job : ProtectedJob} (h : Booked w)
    (hjobs : w.jobs = before ++ [job]) (hactive : job.outcome = .running)
    (report : Option JobReport)
    (hown : w.state.workerStatus = .running → report.isSome → job.session = w.session) :
    Booked { w with
      jobs := before ++ [{ job with outcome := report.elim .raised .returned }] } := by
  have horder := h.order
  rw [hjobs] at horder
  have hended := pairwise_precedes_outcome horder (report.elim .raised .returned)
  have hall : ∀ a ∈ before, Precedes a job := fun a ha =>
    (List.pairwise_append.mp horder).2.2 a ha job (List.mem_singleton_self job)
  have hnone : job.report = none := report_of_running hactive
  -- the report that was merged last is not this job's
  have hmerged : w.state.workerStatus = .running → ∀ merged, w.state.latestReport = some merged →
      ∃ a ∈ before, a.report = some merged := by
    intro hrunning merged hlatest
    obtain ⟨a, ha, hreport⟩ := h.merged hrunning merged hlatest
    rw [hjobs] at ha
    rcases List.mem_append.mp ha with hold | hlast
    · exact ⟨a, hold, hreport⟩
    · rw [List.mem_singleton.mp hlast, hnone] at hreport
      cases hreport
  have hsum : w.state.workerStatus = .running → w.state.figures
      = ((before.filterMap ProtectedJob.report).map JobReport.figures).sum := by
    intro hrunning
    have hfigures := h.figures hrunning
    have hlatest : latestProtectedJob w.jobs = some job := by
      rw [hjobs]
      exact latestProtectedJob_concat horder
    rw [owedFigures_of_none (reportToMerge_of_report_none hlatest hnone), add_zero, hjobs,
      List.filterMap_append, List.filterMap_cons_none hnone, List.filterMap_nil,
      List.append_nil] at hfigures
    exact hfigures
  refine ⟨hended, fun hrunning a ha hreport => ?_, fun hrunning merged hlatest => ?_,
    fun hrunning => ?_⟩
  · rcases List.mem_append.mp ha with hold | hlast
    · refine h.own hrunning a ?_ hreport
      rw [hjobs]
      exact List.mem_append_left _ hold
    · rw [List.mem_singleton.mp hlast] at hreport ⊢
      cases report with
      | none => cases hreport
      | some returned => exact hown hrunning rfl
  · obtain ⟨a, ha, hreport⟩ := hmerged hrunning merged hlatest
    exact ⟨a, List.mem_append_left _ ha, hreport⟩
  · have hlatest := latestProtectedJob_concat hended
    show w.state.figures + _ = _
    rw [hsum hrunning, List.filterMap_append, List.map_append, List.sum_append]
    congr 1
    cases report with
    | none => exact owedFigures_of_none (reportToMerge_of_report_none hlatest rfl)
    | some returned =>
      have howed : reportToMerge { w with jobs := before ++
          [{ job with outcome := (some returned).elim .raised .returned }] }
          = some { returned with controlledRunId := job.controlledRunId } := by
        unfold reportToMerge
        rw [hlatest]
        refine if_neg (fun hsame => ?_)
        obtain ⟨merged, hmergedLast, hid⟩ := Option.map_eq_some_iff.mp hsame
        obtain ⟨a, ha, hreport⟩ := hmerged hrunning merged hmergedLast
        rw [report_controlledRunId hreport] at hid
        exact (hall a ha).2.2 hid
      unfold owedFigures
      rw [howed]
      exact (add_zero _).symm

theorem Booked.endJob (h : Booked w) (controlledRunId : String) (report : Option JobReport)
    (hown : NoneLeft w (.jobEnds controlledRunId report)) :
    Booked { w with jobs := endJob w.jobs controlledRunId report } := by
  rcases List.eq_nil_or_concat w.jobs with hnil | ⟨before, job, hjobs⟩
  · have hsame : AutoCoinBot.endJob w.jobs controlledRunId report = w.jobs := by
      rw [hnil]
      rfl
    rw [hsame]
    exact h
  · rw [List.concat_eq_append] at hjobs
    have horder := h.order
    rw [hjobs] at horder
    rw [hjobs, endJob_concat horder]
    split_ifs with hends
    · refine h.outcome hjobs hends.2 report (fun hrunning hreport => ?_)
      refine hown hrunning hreport job ?_ hends.1
      rw [hjobs]
      exact List.mem_append_right _ (List.mem_singleton_self job)
    · rw [← hjobs]
      exact h

theorem Booked.starts (h : Booked w) (hnone : ∀ job ∈ w.jobs, job.report = none) :
    Booked (startProtectedAutoDaemon w) := by
  refine ⟨h.order, fun _ job hjob hreport => ?_, fun _ report hlatest => ?_, fun _ => ?_⟩
  · have hjobReport := hnone job hjob
    rw [hjobReport] at hreport
    cases hreport
  · cases hlatest
  · have hreports : w.jobs.filterMap ProtectedJob.report = [] :=
      List.filterMap_eq_nil_iff.mpr hnone
    have howed : owedFigures (startProtectedAutoDaemon w) = 0 := by
      cases hlatest : latestProtectedJob w.jobs with
      | none =>
        refine owedFigures_of_none ?_
        have hjobs : latestProtectedJob (startProtectedAutoDaemon w).jobs = none := hlatest
        unfold reportToMerge
        rw [hjobs]
        rfl
      | some job =>
        exact owedFigures_of_none (reportToMerge_of_report_none hlatest
          (hnone job (latestProtectedJob_mem hlatest)))
    show (0, 0) + _ = ((w.jobs.filterMap ProtectedJob.report).map JobReport.figures).sum
    rw [howed, hreports, add_zero]
    rfl

/-- **Every event keeps the books**, if no report of an earlier session is left. -/
theorem Booked.daemonStep (h : Booked w) {e : DaemonEvent} (hnone : NoneLeft w e) :
    Booked (daemonStep w e) := by
  cases e with
  | starts gateAllowed lockAcquired =>
    unfold AutoCoinBot.daemonStep
    dsimp only
    split_ifs with hstarts
    · rw [Bool.and_eq_true] at hstarts
      exact h.starts (hnone hstarts.1 hstarts.2)
    · exact h
  | ticks lockAcquired rest =>
    show Booked (protectedAutoTick w lockAcquired rest)
    unfold protectedAutoTick
    split_ifs
    · exact h
    · exact h.safeStop _ _
    · exact h.finishTick _
    · cases rest with
      | ends result => exact h.sync.finishTick result
      | safeStops reason failed => exact h.sync.safeStop reason failed
      | startsJob controlledRunId startedAt =>
        refine (h.sync.startJob (reportToMerge_sync w) ?_).finishTick _
        intro job hjob
        rw [(sync_figures w).2.1] at hjob
        exact hnone job hjob
  | statusReads =>
    unfold AutoCoinBot.daemonStep
    dsimp only
    split_ifs
    · exact h.sync
    · exact h
  | safeStops reason failed => exact h.safeStop reason failed
  | jobEnds controlledRunId report => exact h.endJob controlledRunId report hnone
  | serverRestarts =>
    refine .of_not_running List.Pairwise.nil ?_
    unfold AutoCoinBot.daemonStep
    dsimp only
    split_ifs with hrunning
    · exact safeStop_not_running _ _ _
    · exact hrunning

end Events

/-! ## Runs -/

/-- **Each job's report is merged once, into the session that started it**, in every state of
every run in which no report of an earlier session is left. -/
theorem mergedOnce_run (es : List DaemonEvent) (hes : StepsOk daemonStep NoneLeft {} es) :
    MergedOnce (run daemonStep {} es) := by
  have hbooked : Booked (run daemonStep {} es) :=
    run_invariant_of_stepsOk (fun _ _ h hnone => h.daemonStep hnone)
      (.of_not_running List.Pairwise.nil (by decide)) hes
  exact hbooked.mergedOnce

/-- A session with one job, whose report a status read merges. -/
def exampleHistory : List DaemonEvent :=
  [.starts true true, .ticks true (.ends ""), .ticks true (.startsJob "posloop-1" 100),
    .jobEnds "posloop-1" (some { controlledAutoLiveStatus := "PASSED_PROFITABLE_POSITION"
                                 tradeCount := 1, protectedStrategyTotalPnl := 120 }),
    .statusReads]

theorem mergedOnce_exampleHistory : MergedOnce (run daemonStep {} exampleHistory) :=
  mergedOnce_run exampleHistory (by decide +kernel)

/-- **The next session has it too**: it is stopped and started again, and the first merge counts
the trade of the session before. -/
theorem not_mergedOnce_restarted :
    ¬ MergedOnce (run daemonStep {}
      (exampleHistory ++ [.safeStops "USER_REQUESTED_STOP" false, .starts true true])) := by
  intro hmerged
  have hfigures := hmerged.figures (by decide +kernel)
  revert hfigures
  decide +kernel

end AutoCoinBot
