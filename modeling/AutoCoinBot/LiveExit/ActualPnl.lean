/-
  LiveExit.ActualPnl — the profit an exit order's row shows, beside the profit its
  fills have added to the positions.

  A position adds up what each fill realizes; the order's row is overwritten with what the last fill
  realized.
-/
import AutoCoinBot.LiveExit.ExitFillRuns
import AutoCoinBot.LiveRecovery.AggregateRuns
import AutoCoinBot.LiveRecovery.FinishedOrders

namespace AutoCoinBot

open Library

/-! ## The profit of all positions -/

def realizedPnlTotal (db : Database) : ℚ :=
  (db.livePositions.rows.map LivePosition.realizedPnl).sum

section Total

variable {db db' : Database}

theorem realizedPnlTotal_congr (h : db'.livePositions = db.livePositions) :
    realizedPnlTotal db' = realizedPnlTotal db := by
  unfold realizedPnlTotal
  rw [h]

theorem realizedPnlTotal_update (i : ℕ) (u : LivePositionUpdates) (now : UtcTime) :
    realizedPnlTotal (updateLivePosition db i u now)
      = realizedPnlTotal db
        + (loadLivePosition db i).elim 0 (fun p => (p.merge u now).realizedPnl - p.realizedPnl) :=
  sum_rewrite_key db.livePositions.nodup i (fun p => p.merge u now) LivePosition.realizedPnl

theorem realizedPnlTotal_update_of_none (i : ℕ) {u : LivePositionUpdates} (now : UtcTime)
    (hu : u.realizedPnl = none) :
    realizedPnlTotal (updateLivePosition db i u now) = realizedPnlTotal db := by
  rw [realizedPnlTotal_update]
  cases loadLivePosition db i with
  | none => simp
  | some p => simp [hu]

theorem realizedPnlTotal_applyExitFill {position : LivePosition} (fill : ExitFill)
    (orderUuid : Option String) (stillWaiting : Bool) (now : UtcTime)
    (hload : loadLivePosition db position.id = some position) :
    realizedPnlTotal (applyExitFill db position fill orderUuid stillWaiting now)
      = realizedPnlTotal db + exitPnl position fill := by
  have hmerged : (position.merge (exitUpdates position fill orderUuid stillWaiting now)
      now).realizedPnl = position.realizedPnl + exitPnl position fill := by
    unfold exitUpdates
    split <;> rfl
  rw [realizedPnlTotal_congr (applyExitFill_livePositions db position fill orderUuid stillWaiting
    now), realizedPnlTotal_update, hload, Option.elim_some, hmerged]
  ring

theorem realizedPnlTotal_reopened (now : UtcTime) (ids : List ℕ) :
    realizedPnlTotal (ids.foldl (fun db i => updateLivePosition db i reopenUpdates now) db)
      = realizedPnlTotal db := by
  induction ids generalizing db with
  | nil => rfl
  | cons i ids ih =>
    rw [List.foldl_cons, ih]
    exact realizedPnlTotal_update_of_none i now rfl

end Total

/-! ## One sync -/

section Loop

variable (fill : ExitFill) (orderUuid : Option String) (stillWaiting : Bool) (now : UtcTime)

theorem syncAggregateExitPosition_profit (s : AggregateExit) (positionId : ℕ) :
    let s' := syncAggregateExitPosition fill orderUuid stillWaiting now s positionId
    realizedPnlTotal s'.db - s'.totalActualPnl = realizedPnlTotal s.db - s.totalActualPnl := by
  intro s'
  show realizedPnlTotal (syncAggregateExitPosition fill orderUuid stillWaiting now s
    positionId).db - _ = _
  simp only [s']
  unfold syncAggregateExitPosition
  cases hload : loadLivePosition s.db positionId with
  | none => rfl
  | some position =>
    have hid : loadLivePosition s.db position.id = some position := by
      rw [loadLivePosition_id s.db positionId hload]
      exact hload
    simp only
    split_ifs with hsold hused hwaiting
    · rfl
    · -- the fill is used up: only the status is written
      show realizedPnlTotal (updateLivePosition s.db positionId _ now) - _ = _
      rw [realizedPnlTotal_update_of_none positionId now rfl]
    · rfl
    · show realizedPnlTotal (applyExitFill s.db position _ orderUuid stillWaiting now)
        - (s.totalActualPnl + _) = _
      rw [realizedPnlTotal_applyExitFill _ orderUuid stillWaiting now hid]
      ring

theorem foldl_syncAggregateExitPosition_profit (ids : List ℕ) (s : AggregateExit) :
    let s' := ids.foldl (syncAggregateExitPosition fill orderUuid stillWaiting now) s
    realizedPnlTotal s'.db - s'.totalActualPnl = realizedPnlTotal s.db - s.totalActualPnl := by
  induction ids generalizing s with
  | nil => rfl
  | cons i ids ih =>
    intro s'
    exact (ih _).trans (syncAggregateExitPosition_profit fill orderUuid stillWaiting now s i)

end Loop

section Sync

variable {db : Database} {log : ExitOrderLog} {status : ReconciledOrderStatus} {now : UtcTime}

theorem realizedPnlTotal_aggregateExitLoop (ids : List ℕ) (fill : ExitFill) :
    realizedPnlTotal (aggregateExitLoop db log status ids fill now).db
      = realizedPnlTotal db + (aggregateExitLoop db log status ids fill now).totalActualPnl := by
  have hloop := foldl_syncAggregateExitPosition_profit fill log.orderUuid status.stillWaiting now
    ids { db := db, remainingFill := fill.volume }
  have hstart : realizedPnlTotal db - 0 = realizedPnlTotal db := sub_zero _
  have hend := hloop.trans hstart
  show realizedPnlTotal (aggregateExitLoop db log status ids fill now).db = _
  linarith [show realizedPnlTotal (aggregateExitLoop db log status ids fill now).db
    - (aggregateExitLoop db log status ids fill now).totalActualPnl = realizedPnlTotal db from hend]

theorem syncExitOrderPosition_books
    (hposition : (positionForExitOrder db log.toLiveOrderLog).isSome = true)
    (hfill : status.status.isFill = true) (hvolume : 0 < (exitFillDelta log status).volume) :
    ∃ pnl, (syncExitOrderPosition db log status now).liveOrderLogs
          = (updateLiveOrderLog db log.requestId { actualPnl := some (some pnl) } now).liveOrderLogs
      ∧ realizedPnlTotal (syncExitOrderPosition db log status now)
          = realizedPnlTotal db + pnl := by
  obtain ⟨position, hposition⟩ := Option.isSome_iff_exists.mp hposition
  by_cases hids : aggregateExitPositionIds log.toLiveOrderLog = []
  · refine ⟨exitPnl position (exitFillDelta log status), ?_⟩
    rw [syncExitOrderPosition_fill hposition hids hfill hvolume]
    refine ⟨applyExitFill_liveOrderLogs _ _ _ _ _ _, ?_⟩
    have hload : loadLivePosition (updateLiveOrderLog db log.requestId
        { actualPnl := some (some (exitPnl position (exitFillDelta log status))) } now)
          position.id = some position := by
      rw [loadLivePosition_congr (updateLiveOrderLog_livePositions _ _ _ _)]
      exact loadLivePosition_positionForExitOrder hposition
    rw [realizedPnlTotal_applyExitFill _ _ _ _ hload,
      realizedPnlTotal_congr (updateLiveOrderLog_livePositions _ _ _ _)]
  · refine ⟨(aggregateExitLoop db log status (aggregateExitPositionIds log.toLiveOrderLog)
      (exitFillDelta log status) now).totalActualPnl, ?_⟩
    rw [syncExitOrderPosition_aggregate hposition hids, if_pos hfill]
    unfold syncAggregateExitOrderPositions
    rw [if_neg (not_le.mpr hvolume)]
    refine ⟨updateLiveOrderLog_congr (aggregateExitLoop_liveOrderLogs db log status now _ _) _ _ _,
      ?_⟩
    rw [realizedPnlTotal_congr (updateLiveOrderLog_livePositions _ _ _ _)]
    exact realizedPnlTotal_aggregateExitLoop _ _

theorem syncExitOrderPosition_books_nothing
    (h : ¬ ((positionForExitOrder db log.toLiveOrderLog).isSome = true
      ∧ status.status.isFill = true ∧ 0 < (exitFillDelta log status).volume)) :
    (syncExitOrderPosition db log status now).liveOrderLogs = db.liveOrderLogs
      ∧ realizedPnlTotal (syncExitOrderPosition db log status now) = realizedPnlTotal db := by
  cases hposition : positionForExitOrder db log.toLiveOrderLog with
  | none =>
    unfold syncExitOrderPosition
    rw [hposition]
    exact ⟨rfl, rfl⟩
  | some position =>
    rw [hposition] at h
    have hidle : status.status.isFill = true → (exitFillDelta log status).volume ≤ 0 :=
      fun hfill => not_lt.mp (fun hvolume => h ⟨rfl, hfill, hvolume⟩)
    by_cases hids : aggregateExitPositionIds log.toLiveOrderLog = []
    · by_cases hfill : status.status.isFill = true
      · rw [syncExitOrderPosition_idle hids hfill (hidle hfill)]
        exact ⟨rfl, rfl⟩
      · rw [syncExitOrderPosition_noFill hposition hids (by simpa using hfill)]
        split_ifs
        · exact ⟨rfl, realizedPnlTotal_update_of_none position.id now rfl⟩
        · exact ⟨rfl, rfl⟩
    · rw [syncExitOrderPosition_aggregate hposition hids]
      split_ifs with hfill hcanceled
      · unfold syncAggregateExitOrderPositions
        rw [if_pos (hidle hfill)]
        exact ⟨rfl, rfl⟩
      · exact ⟨foldl_updateLivePosition_liveOrderLogs db now _ _,
          realizedPnlTotal_reopened now _⟩
      · exact ⟨rfl, rfl⟩

end Sync

/-! ## One delivery -/

/-- One call of `apply_reconciled_order_status` with the order's row. -/
def deliverOrderStatus (requestId : String) (db : Database) (d : AggregateDelivery) : Database :=
  deliverExitSnapshot requestId db ⟨.statusReconciliation d.source, d.snapshot, d.env⟩

/-- The status brings volume that is not in the row yet, and the order's position is there. -/
def BooksFill (db : Database) (log : LiveOrderLog) (status : ReconciledOrderStatus) : Prop :=
  (positionForExitOrder db (reconciledLog log status).toLiveOrderLog).isSome = true
    ∧ status.status.isFill = true ∧ log.executedVolume < status.executedVolume

instance (db : Database) (log : LiveOrderLog) (status : ReconciledOrderStatus) :
    Decidable (BooksFill db log status) :=
  inferInstanceAs (Decidable (_ ∧ _ ∧ _))

section Deliver

variable {db : Database} {requestId : String} {log : LiveOrderLog} {d : AggregateDelivery}

theorem getLiveOrderLog_update_pnl (u : LiveOrderLogUpdates) (now : UtcTime)
    (hlog : getLiveOrderLog db requestId = some log) :
    ∃ log', getLiveOrderLog (updateLiveOrderLog db requestId u now) requestId = some log'
      ∧ log'.orderPurpose = log.orderPurpose ∧ log'.actualPnl = u.actualPnl.getD log.actualPnl := by
  refine ⟨_, getLiveOrderLog_update_self db requestId u now hlog,
    mergedLiveOrderLog_orderPurpose db requestId log u now, ?_⟩
  show (mergedLiveOrderLog db requestId log u now).actualPnl = _
  simp only [mergedLiveOrderLog]
  split <;> rfl

theorem deliverOrderStatus_eq (hlog : getLiveOrderLog db requestId = some log)
    (hexit : log.orderPurpose = .exit) :
    deliverOrderStatus requestId db d
      = syncExitOrderPosition
          (updateLiveOrderLog db requestId
            (reconciledUpdates log (normalizeExchangeOrder d.snapshot)) d.env.now)
          (reconciledLog log (normalizeExchangeOrder d.snapshot))
          (normalizeExchangeOrder d.snapshot) d.env.now := by
  unfold deliverOrderStatus deliverExitSnapshot
  rw [hlog]
  simp only
  rw [applyReconciledOrderStatus_exit _ _ _ _ _ hexit, getLiveOrderLog_requestId db requestId hlog]

theorem booksFill_iff (status : ReconciledOrderStatus) (u : LiveOrderLogUpdates) (now : UtcTime) :
    BooksFill db log status
      ↔ (positionForExitOrder (updateLiveOrderLog db requestId u now)
            (reconciledLog log status).toLiveOrderLog).isSome = true
        ∧ status.status.isFill = true ∧ 0 < (exitFillDelta (reconciledLog log status)
            status).volume := by
  rw [positionForExitOrder_congr (updateLiveOrderLog_livePositions _ _ _ _) rfl rfl rfl rfl,
    exitFillDelta_reconciledLog]
  unfold BooksFill
  simp only [lt_max_iff, lt_self_iff_false, or_false, sub_pos]

theorem deliverOrderStatus_books (hlog : getLiveOrderLog db requestId = some log)
    (hexit : log.orderPurpose = .exit)
    (hbooks : BooksFill db log (normalizeExchangeOrder d.snapshot)) :
    ∃ log' pnl, getLiveOrderLog (deliverOrderStatus requestId db d) requestId = some log'
      ∧ log'.orderPurpose = .exit ∧ log'.actualPnl = some pnl
      ∧ realizedPnlTotal (deliverOrderStatus requestId db d) = realizedPnlTotal db + pnl := by
  set status := normalizeExchangeOrder d.snapshot with hstatus
  rw [deliverOrderStatus_eq hlog hexit, ← hstatus]
  obtain ⟨row, hrow, hpurpose, -⟩ :=
    getLiveOrderLog_update_pnl (reconciledUpdates log status) d.env.now hlog
  obtain ⟨hposition, hfill, hvolume⟩ := (@booksFill_iff _ requestId _ status
    (reconciledUpdates log status) d.env.now).mp hbooks
  obtain ⟨pnl, hlogs, htotal⟩ := @syncExitOrderPosition_books _ _ _ d.env.now hposition hfill
    hvolume
  obtain ⟨row', hrow', hpurpose', hpnl⟩ :=
    getLiveOrderLog_update_pnl { actualPnl := some (some pnl) } d.env.now hrow
  have hid : log.requestId = requestId := getLiveOrderLog_requestId db requestId hlog
  refine ⟨row', pnl, ?_, (hpurpose'.trans hpurpose).trans hexit, hpnl, ?_⟩
  · rw [getLiveOrderLog_congr hlogs, show (reconciledLog log status).requestId = requestId from hid]
    exact hrow'
  · rw [htotal, realizedPnlTotal_congr (updateLiveOrderLog_livePositions _ _ _ _)]

theorem deliverOrderStatus_books_nothing (hlog : getLiveOrderLog db requestId = some log)
    (hexit : log.orderPurpose = .exit)
    (hbooks : ¬ BooksFill db log (normalizeExchangeOrder d.snapshot)) :
    ∃ log', getLiveOrderLog (deliverOrderStatus requestId db d) requestId = some log'
      ∧ log'.orderPurpose = .exit ∧ log'.actualPnl = log.actualPnl
      ∧ realizedPnlTotal (deliverOrderStatus requestId db d) = realizedPnlTotal db := by
  set status := normalizeExchangeOrder d.snapshot with hstatus
  rw [deliverOrderStatus_eq hlog hexit, ← hstatus]
  obtain ⟨row, hrow, hpurpose, hpnl⟩ :=
    getLiveOrderLog_update_pnl (reconciledUpdates log status) d.env.now hlog
  rw [@booksFill_iff _ requestId _ status (reconciledUpdates log status) d.env.now] at hbooks
  obtain ⟨hlogs, htotal⟩ := @syncExitOrderPosition_books_nothing _ _ _ d.env.now hbooks
  refine ⟨row, ?_, hpurpose.trans hexit, hpnl, ?_⟩
  · rw [getLiveOrderLog_congr hlogs]
    exact hrow
  · rw [htotal, realizedPnlTotal_congr (updateLiveOrderLog_livePositions _ _ _ _)]

end Deliver

/-! ## Whole runs -/

/-- **When the row can show the total**: a fill is booked while the row shows no profit yet. -/
def BooksFirstProfit (requestId : String) (db : Database) (d : AggregateDelivery) : Prop :=
  ∀ log ∈ getLiveOrderLog db requestId,
    BooksFill db log (normalizeExchangeOrder d.snapshot) → toFloat log.actualPnl = 0

instance (requestId : String) (db : Database) (d : AggregateDelivery) :
    Decidable (BooksFirstProfit requestId db d) :=
  inferInstanceAs (Decidable (∀ log ∈ getLiveOrderLog db requestId,
    BooksFill db log (normalizeExchangeOrder d.snapshot) → toFloat log.actualPnl = 0))

/-- The row shows what the positions have realized beyond `before`. -/
def ShowsTotal (requestId : String) (before : ℚ) (db : Database) : Prop :=
  ∀ log ∈ getLiveOrderLog db requestId,
    toFloat log.actualPnl = realizedPnlTotal db - before

instance (requestId : String) (before : ℚ) (db : Database) :
    Decidable (ShowsTotal requestId before db) :=
  inferInstanceAs (Decidable (∀ log ∈ getLiveOrderLog db requestId,
    toFloat log.actualPnl = realizedPnlTotal db - before))

section Runs

variable {db : Database} {requestId : String} {before : ℚ}

/-- The order's row is there, and shows the total. -/
def ExitRowShows (requestId : String) (before : ℚ) (db : Database) : Prop :=
  ∃ log, getLiveOrderLog db requestId = some log ∧ log.orderPurpose = .exit
    ∧ toFloat log.actualPnl = realizedPnlTotal db - before

theorem showsTotal_deliver_iff (d : AggregateDelivery) (h : ExitRowShows requestId before db) :
    ShowsTotal requestId before (deliverOrderStatus requestId db d)
      ↔ BooksFirstProfit requestId db d := by
  obtain ⟨log, hlog, hexit, hshows⟩ := h
  unfold ShowsTotal BooksFirstProfit
  rw [hlog]
  by_cases hbooks : BooksFill db log (normalizeExchangeOrder d.snapshot)
  · obtain ⟨log', pnl, hlog', -, hpnl, htotal⟩ := deliverOrderStatus_books hlog hexit hbooks
    rw [hlog']
    simp only [Option.mem_def, Option.some.injEq, forall_eq', hbooks, forall_const]
    rw [hpnl, htotal, hshows]
    show pnl = _ ↔ _
    constructor
    · intro h
      linarith
    · intro h
      linarith
  · obtain ⟨log', hlog', -, hpnl, htotal⟩ := deliverOrderStatus_books_nothing hlog hexit hbooks
    rw [hlog']
    simp only [Option.mem_def, Option.some.injEq, forall_eq', hbooks, false_implies, iff_true]
    rw [hpnl, htotal, hshows]

theorem exitRowShows_deliver (d : AggregateDelivery) (h : ExitRowShows requestId before db)
    (hok : BooksFirstProfit requestId db d) :
    ExitRowShows requestId before (deliverOrderStatus requestId db d) := by
  have hshows := (showsTotal_deliver_iff d h).mpr hok
  obtain ⟨log, hlog, hexit, -⟩ := h
  by_cases hbooks : BooksFill db log (normalizeExchangeOrder d.snapshot)
  · obtain ⟨log', _, hlog', hexit', -, -⟩ := deliverOrderStatus_books hlog hexit hbooks
    exact ⟨log', hlog', hexit', hshows log' hlog'⟩
  · obtain ⟨log', hlog', hexit', -, -⟩ := deliverOrderStatus_books_nothing hlog hexit hbooks
    exact ⟨log', hlog', hexit', hshows log' hlog'⟩

/-- **When an exit order's `actual_pnl` is its total realized profit**, after every delivery of a
run: exactly if every delivery that books a fill finds no profit in the row. -/
theorem actual_pnl_is_total_iff (db : Database) (requestId : String) (log : LiveOrderLog)
    (ds : List AggregateDelivery) (hlog : getLiveOrderLog db requestId = some log)
    (hexit : log.orderPurpose = .exit) (hunsold : toFloat log.actualPnl = 0) :
    (∀ n, ShowsTotal requestId (realizedPnlTotal db)
        (run (deliverOrderStatus requestId) db (ds.take n)))
      ↔ StepsOk (deliverOrderStatus requestId) (BooksFirstProfit requestId) db ds := by
  refine forall_prefix_observed_iff (P := ExitRowShows requestId (realizedPnlTotal db)) ?_
    (fun db d h hok => exitRowShows_deliver d h hok) (fun db d h => showsTotal_deliver_iff d h)
    ⟨log, hlog, hexit, by rw [hunsold, sub_self]⟩ ds
  rintro db ⟨log, hlog, -, hshows⟩ log' hlog'
  rw [hlog] at hlog'
  cases hlog'
  exact hshows

end Runs

/-! ## Two fills of one order -/

/-- One coin sold for 120, then the other for 130, each with a fee of 1. -/
def exampleHalves : List AggregateDelivery :=
  [⟨exampleSnapshot 1 1 120 1 "wait", "OPEN_ORDER_SYNC", { now := 10 }⟩,
   ⟨exampleSnapshot 2 0 250 2 "done", "OPEN_ORDER_SYNC", { now := 20 }⟩]

theorem actual_pnl_is_total_example :
    ShowsTotal "exit-1" (realizedPnlTotal exampleExitDb)
      (run (deliverOrderStatus "exit-1") exampleExitDb
        ((exampleHalves.drop 1 ++ exampleHalves.drop 1).take 2)) :=
  (actual_pnl_is_total_iff exampleExitDb "exit-1" exampleExitLog
    (exampleHalves.drop 1 ++ exampleHalves.drop 1) (by decide +kernel) (by decide)
    (by decide +kernel)).mpr (by decide +kernel) 2

/-- **The second fill hides the first.** The position has realized 19 and 29; the filled order's
row says 29. Nor does an order for two positions add up what it has sold. -/
theorem second_fill_hides_first :
    getLiveOrderLog exampleExitDb "exit-1" = some exampleExitLog
      ∧ (let s := run (deliverOrderStatus "exit-1") exampleExitDb exampleHalves
         realizedPnlTotal s - realizedPnlTotal exampleExitDb = 48
          ∧ (getLiveOrderLog s "exit-1").map (fun log => (log.status, log.actualPnl))
              = some (.filled, some 29)
          ∧ ¬ ShowsTotal "exit-1" (realizedPnlTotal exampleExitDb) s)
      ∧ ¬ ShowsTotal "exit-agg" (realizedPnlTotal exampleAggregateDb)
          (run (deliverOrderStatus "exit-agg") exampleAggregateDb
            exampleAggregateDeliveries) := by
  refine ⟨by decide +kernel, ⟨by decide +kernel, by decide +kernel, by decide +kernel⟩,
    by decide +kernel⟩

end AutoCoinBot
