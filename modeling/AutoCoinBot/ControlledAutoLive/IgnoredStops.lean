/-
  ControlledAutoLive.IgnoredStops — the stops that the protected gate of
  app/controlled_auto_live.py passes over.

  The gate looks for that loop among the twenty reports completed last; a report without a time of
  completion stands behind all that have one.
-/
import AutoCoinBot.ControlledAutoLive.PositionLoopReports

namespace AutoCoinBot

open Library

/-! ## The report that is read -/

variable {reports without : Table LoopReport} {report : LoopReport}

theorem loopReport_order_injOn {a b : LoopReport} (ha : a ∈ reports.rows) (hb : b ∈ reports.rows)
    (h : a.order = b.order) : a = b := by
  have hid : a.id = b.id := congrArg (fun key => (ofLex key).2) h
  exact Table.eq_of_rowId_eq ha hb hid

theorem loopReports_sorted (reports : Table LoopReport) :
    (reports.rows.insertionSort LoopReport.before).Pairwise (fun a b => b.order < a.order) := by
  have hsorted := List.pairwise_insertionSort LoopReport.before reports.rows
  have hnodup : (reports.rows.insertionSort LoopReport.before).Nodup :=
    (List.perm_insertionSort _ _).nodup_iff.mpr (List.Nodup.of_map _ reports.nodup)
  have hboth := List.Pairwise.and hsorted hnodup
  refine List.Pairwise.imp_of_mem ?_ hboth
  rintro a b ha hb ⟨hle, hne⟩
  have ha' := (List.mem_insertionSort _).mp ha
  have hb' := (List.mem_insertionSort _).mp hb
  exact lt_of_le_of_ne hle (fun h => hne (loopReport_order_injOn ha' hb' h.symm))

/-- **Which report the gate reads**: among those it does not pass over the last one, if fewer than
twenty reports stand before it. -/
theorem latestRun_eq_some_iff (hreport : report.isIgnorableStopRequest = false) :
    latestControlledPositionLoopRun reports = some report
      ↔ report ∈ reports.rows
        ∧ (∀ r ∈ reports.rows, r.isIgnorableStopRequest = false → r.order ≤ report.order)
        ∧ reports.rows.countP (fun r => decide (report.order < r.order)) < 20 := by
  have hfound : latestControlledPositionLoopRun reports = some report
      ↔ ((reports.rows.insertionSort LoopReport.before).take 20).find?
          (fun report => !report.isIgnorableStopRequest) = some report := by
    unfold latestControlledPositionLoopRun
    dsimp only
    rw [Option.or_eq_some_iff, or_iff_left_iff_imp]
    rintro ⟨hnone, hhead⟩
    -- a head that is not passed over would have been found
    have hno := List.find?_eq_none.mp hnone report (List.mem_of_head? hhead)
    simp [hreport] at hno
  have hcount := (List.perm_insertionSort LoopReport.before reports.rows).countP_eq
    (fun r => decide (report.order < r.order))
  rw [hfound, Table.find?_take_of_sorted (loopReports_sorted reports), hcount]
  simp only [List.mem_insertionSort, hreport, Bool.not_false, Bool.not_eq_true', true_and]

/-! ## The stops behind a report -/

section Stops

variable {earlier later : List LoopReport}

/-- The stops passed over that stand before a report. -/
def stopsBefore (report : LoopReport) (rows : List LoopReport) : ℕ :=
  rows.countP (fun r => r.isIgnorableStopRequest && decide (report.order < r.order))

theorem countP_eq_stopsBefore (hlast : ∀ r ∈ earlier, r.isIgnorableStopRequest = false →
      r.order ≤ report.order) (hlater : ∀ r ∈ later, r.isIgnorableStopRequest = true) :
    (earlier ++ report :: later).countP (fun r => decide (report.order < r.order))
      = stopsBefore report (earlier ++ later) := by
  have hself : (report :: later).countP (fun r => decide (report.order < r.order))
      = later.countP (fun r => decide (report.order < r.order)) := List.countP_cons_of_neg (by simp)
  unfold stopsBefore
  rw [List.countP_append, hself, ← List.countP_append]
  refine List.countP_congr (fun r hr => ?_)
  rw [Bool.and_eq_true, iff_and_self]
  intro hbefore
  rcases List.mem_append.mp hr with hearlier | hlate
  · by_contra hignored
    exact absurd (hlast r hearlier (Bool.eq_false_iff.mpr hignored))
      (not_le.mpr (of_decide_eq_true hbefore))
  · exact hlater r hlate

theorem stopsBefore_le_append (report : LoopReport) (earlier later : List LoopReport) :
    stopsBefore report earlier ≤ stopsBefore report (earlier ++ later) := by
  unfold stopsBefore
  rw [List.countP_append]
  exact Nat.le_add_right _ _

theorem latestRun_before_stops_iff (hrows : reports.rows = earlier ++ report :: later)
    (hreport : report.isIgnorableStopRequest = false)
    (hlater : ∀ r ∈ later, r.isIgnorableStopRequest = true) :
    latestControlledPositionLoopRun reports = some report
      ↔ (∀ r ∈ earlier, r.isIgnorableStopRequest = false → r.order ≤ report.order)
        ∧ stopsBefore report (earlier ++ later) < 20 := by
  rw [latestRun_eq_some_iff hreport, hrows]
  constructor
  · rintro ⟨-, hlast, hcount⟩
    have hearlier := fun r (hr : r ∈ earlier) => hlast r (List.mem_append_left _ hr)
    exact ⟨hearlier, countP_eq_stopsBefore hearlier hlater ▸ hcount⟩
  · rintro ⟨hearlier, hcount⟩
    refine ⟨by simp, ?_, (countP_eq_stopsBefore hearlier hlater).symm ▸ hcount⟩
    intro r hr hignored
    rcases List.mem_append.mp hr with hr | hr
    · exact hearlier r hr hignored
    rcases List.mem_cons.mp hr with rfl | hr
    · exact le_rfl
    · rw [hlater r hr] at hignored
      cases hignored

/-- **The stops after a report change nothing** exactly if it stands before every other report that
counts, and fewer than twenty stops stand before it. -/
theorem ignored_stops_invisible_iff (hrows : reports.rows = earlier ++ report :: later)
    (hwithout : without.rows = earlier ++ [report])
    (hreport : report.isIgnorableStopRequest = false)
    (hlater : ∀ r ∈ later, r.isIgnorableStopRequest = true) :
    (latestControlledPositionLoopRun reports = some report
        ∧ ∀ event, protectedPositionLoopBlockers event (latestControlledPositionLoopRun reports)
          = protectedPositionLoopBlockers event (latestControlledPositionLoopRun without))
      ↔ (∀ r ∈ earlier, r.isIgnorableStopRequest = false → r.order ≤ report.order)
        ∧ stopsBefore report (earlier ++ later) < 20 := by
  rw [latestRun_before_stops_iff hrows hreport hlater, and_iff_left_iff_imp]
  rintro ⟨hearlier, hcount⟩ event
  -- without them fewer stops stand before the report
  have hfewer := stopsBefore_le_append report earlier later
  have hread := (latestRun_before_stops_iff hrows hreport hlater).mpr ⟨hearlier, hcount⟩
  have hread' : latestControlledPositionLoopRun without = some report := by
    refine (latestRun_before_stops_iff hwithout hreport (by simp)).mpr ⟨hearlier, ?_⟩
    rw [List.append_nil]
    exact lt_of_le_of_lt hfewer hcount
  rw [hread, hread']

end Stops

/-! ## Twenty stops -/

def passedLoop : LoopReport where
  id := 1
  runId := "posloop-20260629T073746-0a1b2c"
  protectedMode := false
  status := .passIdle
  finalRuntimeStatus := "STOPPED"
  completedAt := some 100

/-- A loop that is stopped on request before it has ordered anything. -/
def requestedStop (n : ℕ) : LoopReport where
  id := n + 2
  runId := "posloop-stop-" ++ toString n
  protectedMode := false
  status := .stopped
  passFailReasons := [positionStopRequested]
  finalRuntimeStatus := "STOPPED"
  completedAt := some (101 + n)

/-- The loop that has passed, and stops after it. -/
def stopHistory (n : ℕ) : Table LoopReport where
  rows := passedLoop :: (List.range n).map requestedStop
  nextId := n + 2
  nextId_pos := by omega
  rowId_pos := by
    intro r hr
    rcases List.mem_cons.mp hr with rfl | hr
    · decide
    · obtain ⟨k, -, rfl⟩ := List.mem_map.mp hr
      exact Nat.succ_pos _
  rowId_lt := by
    intro r hr
    rcases List.mem_cons.mp hr with rfl | hr
    · show 1 < n + 2
      omega
    · obtain ⟨k, hk, rfl⟩ := List.mem_map.mp hr
      exact Nat.add_lt_add_right (List.mem_range.mp hk) 2
  nodup := by
    rw [List.map_cons, List.map_map, List.nodup_cons]
    refine ⟨?_, List.nodup_range.map (fun a b h => Nat.add_right_cancel h)⟩
    intro hmem
    obtain ⟨k, -, hk⟩ := List.mem_map.mp hmem
    have hid : k + 2 = 1 := hk
    omega

theorem runningHistory_nextId_pos : 0 < 3 := by decide

/-- The loop that has passed, and one that is running. -/
def runningHistory : Table LoopReport where
  rows := [passedLoop, { requestedStop 0 with status := .running, completedAt := none }]
  nextId := 3
  nextId_pos := runningHistory_nextId_pos
  rowId_pos := by decide
  rowId_lt := by decide
  nodup := by decide

theorem requestedStop_ignorable (n : ℕ) : (requestedStop n).isIgnorableStopRequest = true := by
  simp [LoopReport.isIgnorableStopRequest, requestedStop, feeToleranceKrw]

theorem ignored_stops_invisible_example :
    latestControlledPositionLoopRun (stopHistory 19) = some passedLoop
      ∧ protectedPositionLoopBlockers none (latestControlledPositionLoopRun (stopHistory 19))
        = protectedPositionLoopBlockers none (latestControlledPositionLoopRun (stopHistory 0)) := by
  have hinvisible := (@ignored_stops_invisible_iff (stopHistory 19) (stopHistory 0) passedLoop [] _
    rfl rfl (by decide +kernel)
    (by
      intro r hr
      obtain ⟨k, -, rfl⟩ := List.mem_map.mp hr
      exact requestedStop_ignorable k)).mpr ⟨by simp, by decide +kernel⟩
  exact ⟨hinvisible.1, hinvisible.2 none⟩

theorem stops_hide_report :
    (stopHistory 20).rows = passedLoop :: (List.range 20).map requestedStop
      ∧ ((List.range 20).map requestedStop).all LoopReport.isIgnorableStopRequest = true
      ∧ latestControlledPositionLoopRun (stopHistory 0) = some passedLoop
      ∧ protectedPositionLoopBlockers none (latestControlledPositionLoopRun (stopHistory 0)) = []
      ∧ latestControlledPositionLoopRun (stopHistory 20) = some (requestedStop 19)
      ∧ protectedPositionLoopBlockers none (latestControlledPositionLoopRun (stopHistory 20))
        = [finalLoopNotPassed]
      ∧ latestControlledPositionLoopRun runningHistory = some passedLoop := by
  decide +kernel

end AutoCoinBot
