/-
  LiveExit.FinishedOrders — ended orders on both paths.

  `reconcile_exit_order` tells the exit candidate of the order, and takes all executed volume
  whatever the row has seen of it before.
-/
import AutoCoinBot.LiveExit.ExitOrders
import AutoCoinBot.LiveRecovery.FinishedOrders

namespace AutoCoinBot

open Library

/-! ## The exit path -/

/-- The row of an exit order. -/
structure FinishedExit extends FinishedOrder where
  is_exit : log.orderPurpose = .exit

namespace FinishedExit

variable (o : FinishedExit)

/-- What `reconcile_exit_order` writes to the row. -/
def updates : LiveOrderLogUpdates :=
  exitReconcileUpdates o.log (normalizeExchangeOrder o.raw)
    (notedExitPnl o.db o.log (normalizeExchangeOrder o.raw))

def markedDb (now : UtcTime) : Database :=
  markExitCandidate (updateLiveOrderLog o.db o.log.requestId o.updates now) o.log
    (normalizeExchangeOrder o.raw)

def notedLog : ExitOrderLog :=
  { o.log with actualPnl := some (notedExitPnl o.db o.log (normalizeExchangeOrder o.raw)) }

theorem reconcileExitOrder_raw (hne : o.uuid ≠ "") (now : UtcTime) :
    reconcileExitOrder o.db o.log.requestId (some o.raw) now
      = syncExitOrderPosition (o.markedDb now) o.notedLog (normalizeExchangeOrder o.raw) now :=
  reconcileExitOrder_eq o.raw now (submittedExitOrder_of_row o.stored o.is_exit hne)

theorem candidate_markedDb (hwhole : ¬ o.PartlyExecuted) (now : UtcTime) :
    ∀ c ∈ namedExitCandidate (o.markedDb now) o.log, c.status.isSubmitted = false := by
  have hfree : (candidateStatusForOrder (normalizeExchangeOrder o.raw).status).isSubmitted
      = false := by
    rw [o.status_normalizeExchangeOrder, if_neg hwhole]
    split_ifs <;> rfl
  unfold namedExitCandidate markedDb markExitCandidate
  cases truthyId o.log.exitCandidateId with
  | none => exact fun c hc => by cases hc
  | some candidateId =>
    intro c hc
    rw [Option.bind_some] at hc
    unfold updateExitCandidate at hc
    dsimp only at hc
    rw [Table.get?_modify_self] at hc
    obtain ⟨c', -, rfl⟩ := Option.map_eq_some_iff.mp hc
    exact hfree

theorem changeTo_reconcileExitOrder (hwhole : ¬ o.PartlyExecuted) (hne : o.uuid ≠ "")
    (now : UtcTime) :
    o.changeTo (reconcileExitOrder o.db o.log.requestId (some o.raw) now)
      = o.exitChange o.executed := by
  have hexit : isExitOrder o.log = true := by simp [isExitOrder, o.is_exit]
  have hpositions : (o.markedDb now).livePositions = o.db.livePositions :=
    (markExitCandidate_livePositions _ _ _).trans (updateLiveOrderLog_livePositions _ _ _ _)
  have hsync : heldVolume o.db - heldVolume (syncExitOrderPosition (o.markedDb now) o.notedLog
      (normalizeExchangeOrder o.raw) now)
        = o.exitChange (exitFillDelta o.notedLog (normalizeExchangeOrder o.raw)).volume :=
    o.heldVolume_exitSync hwhole hpositions rfl rfl rfl rfl rfl now
  have hfill : (exitFillDelta o.notedLog (normalizeExchangeOrder o.raw)).volume = o.executed := by
    unfold notedLog
    rw [exitFillDelta_noPrevious]
    exact max_eq_left o.executed_nonneg
  unfold FinishedOrder.changeTo
  rw [hexit, if_pos rfl, o.reconcileExitOrder_raw hne, hsync, hfill]

theorem resolved_reconcileExitOrder_iff (now : UtcTime) :
    o.Resolved (reconcileExitOrder o.db o.log.requestId (some o.raw) now)
      ↔ o.uuid ≠ "" ∧ ¬ o.PartlyExecuted ∧ o.Covers (o.exitChange o.executed) := by
  by_cases hne : o.uuid = ""
  · have hsame : reconcileExitOrder o.db o.log.requestId (some o.raw) now = o.db := by
      have hempty : toText o.log.orderUuid = "" := hne
      have hnone : submittedExitOrder o.db o.log.requestId = none := by
        unfold submittedExitOrder
        rw [o.stored]
        simp [Option.filter, hempty]
      unfold reconcileExitOrder
      rw [hnone]
    rw [hsame]
    exact iff_of_false o.not_resolved_same (fun h => h.1 hne)
  · have hshown : Shows o.log.requestId (ownedElsewhere o.db o.log.requestId)
        (OrderView.update (ownedElsewhere o.db o.log.requestId) o.updates
          ⟨o.log.status, o.log.orderUuid⟩) (o.markedDb now) :=
      shows_congr (markExitCandidate_liveOrderLogs _ _ _)
        (shows_updateLiveOrderLog o.updates now o.shows_stored)
    have hrow := o.row_of_shows (u := o.updates) rfl rfl
      (shows_syncExitOrderPosition o.notedLog (normalizeExchangeOrder o.raw) now hshown)
    rw [← o.reconcileExitOrder_raw hne] at hrow
    constructor
    · rintro ⟨hresolved, hvolume, -⟩
      have hwhole := hrow.mp hresolved
      rw [o.changeTo_reconcileExitOrder hwhole hne] at hvolume
      exact ⟨hne, hwhole, hvolume⟩
    · rintro ⟨-, hwhole, hvolume⟩
      refine ⟨hrow.mpr hwhole, ?_, ?_⟩
      · rw [o.changeTo_reconcileExitOrder hwhole hne]
        exact hvolume
      · rw [o.reconcileExitOrder_raw hne]
        have hsame : namedExitCandidate (syncExitOrderPosition (o.markedDb now) o.notedLog
            (normalizeExchangeOrder o.raw) now) o.log = namedExitCandidate (o.markedDb now) o.log := by
          unfold namedExitCandidate
          rw [syncExitOrderPosition_exitCandidates]
        rw [hsame]
        exact o.candidate_markedDb hwhole now

end FinishedExit

/-! ## Both paths -/

/-- **When a recheck resolves an ended order**: on the status path, and for an exit order on the
exit path. -/
theorem finishedOrders_resolved_iff (env : SyncEnv) (source : String) (o : FinishedOrder)
    (x : FinishedExit) :
    (o.Resolved (reconcileOrderLog env o.db o.log (.ok o.raw) source)
        ↔ o.uuid ≠ "" ∧ ¬ o.PartlyExecuted ∧ o.Covers o.statusChange ∧ o.CandidateFree)
      ∧ (x.Resolved (reconcileExitOrder x.db x.log.requestId (some x.raw) env.now)
        ↔ x.uuid ≠ "" ∧ ¬ x.PartlyExecuted ∧ x.Covers (x.exitChange x.executed)) :=
  ⟨o.resolved_reconcileOrderLog_iff env source, x.resolved_reconcileExitOrder_iff env.now⟩

/-- A buy order of two coins, canceled when one of them was bought. -/
def exampleCanceledEntry : FinishedOrder where
  raw :=
    { uuid := some "entry-uuid", state := some "cancel", volume := some 2, executedVolume := some 1
      remainingVolume := some 1, price := some 100 }
  ended := by decide +kernel
  ordered_pos := by decide +kernel
  executed_nonneg := by decide +kernel
  executed_le := by decide +kernel
  remaining := by decide +kernel
  price_nonneg := by decide +kernel
  paidAmount_nonneg := by decide +kernel
  executedFunds_nonneg := by decide +kernel
  filledAmountKrw_nonneg := by decide +kernel
  db :=
    { liveOrderLogs := Table.empty.insert
        (fun id =>
          { id := id, requestId := "entry-1", exchange := "bithumb", market := "KRW-BTC"
            sessionId := some 1, candidateStrategyId := some 7, price := some 100, volume := some 2
            status := .waiting, orderUuid := some "entry-uuid" }) (fun _ => rfl)
      requestId_unique := by decide }
  log :=
    { id := 1, requestId := "entry-1", exchange := "bithumb", market := "KRW-BTC"
      sessionId := some 1, candidateStrategyId := some 7, price := some 100, volume := some 2
      status := .waiting, orderUuid := some "entry-uuid" }
  stored := by decide +kernel
  unresolved := rfl
  kind := .inl ⟨rfl, rfl⟩
  own_uuid := by decide +kernel
  same_order := .inr rfl
  same_volume := rfl
  price_pos := by decide +kernel

/-- A sale of two coins for a stop loss, done. -/
def exampleDoneExit : FinishedOrder where
  raw :=
    { uuid := some "exit-uuid", state := some "done", volume := some 2, executedVolume := some 2
      remainingVolume := some 0, price := some 90 }
  ended := by decide +kernel
  ordered_pos := by decide +kernel
  executed_nonneg := by decide +kernel
  executed_le := by decide +kernel
  remaining := by decide +kernel
  price_nonneg := by decide +kernel
  paidAmount_nonneg := by decide +kernel
  executedFunds_nonneg := by decide +kernel
  filledAmountKrw_nonneg := by decide +kernel
  db :=
    { livePositions := Table.empty.insert
        (fun id => { id := id, market := "KRW-BTC", status := .closing, entryVolume := 2 })
        (fun _ => rfl)
      exitCandidates := Table.empty.insert
        (fun id => { id := id, positionId := 1, status := .submitted }) (fun _ => rfl)
      liveOrderLogs := Table.empty.insert
        (fun id =>
          { id := id, requestId := "exit-1", exchange := "bithumb", market := "KRW-BTC"
            side := .sell, orderPurpose := .exit, price := some 90, volume := some 2
            status := .waiting, orderUuid := some "exit-uuid", positionId := some 1
            exitCandidateId := some 1 }) (fun _ => rfl)
      requestId_unique := by decide }
  log :=
    { id := 1, requestId := "exit-1", exchange := "bithumb", market := "KRW-BTC"
      side := .sell, orderPurpose := .exit, price := some 90, volume := some 2
      status := .waiting, orderUuid := some "exit-uuid", positionId := some 1
      exitCandidateId := some 1 }
  stored := by decide +kernel
  unresolved := rfl
  kind := .inr rfl
  own_uuid := by decide +kernel
  same_order := .inr rfl
  same_volume := rfl
  price_pos := by decide +kernel

/-- The half bought order blocks its market for good and its coin is in no position; the sale is
booked, and its candidate stays `SUBMITTED`. -/
theorem ended_orders_unresolved :
    (let o := exampleCanceledEntry
     let after := reconcileOrderLog { now := 5 } o.db o.log (.ok o.raw) "RECHECK"
     ¬ o.Resolved after ∧ hasUnresolvedLiveOrder after "bithumb" "KRW-BTC" = true
      ∧ after.livePositions.rows = [])
    ∧ (let o := exampleDoneExit
       let after := reconcileOrderLog { now := 5 } o.db o.log (.ok o.raw) "RECHECK"
       ¬ o.Resolved after ∧ IsClosed 1 after
        ∧ (after.exitCandidates.get? 1).map ExitCandidate.status = some .submitted) := by
  refine ⟨⟨?_, by decide +kernel, by decide +kernel⟩, ?_, by decide +kernel, by decide +kernel⟩
  · rintro ⟨⟨row, hrow, hresolved⟩, -, -⟩
    have hstatus : (getLiveOrderLog (reconcileOrderLog { now := 5 } exampleCanceledEntry.db
        exampleCanceledEntry.log (.ok exampleCanceledEntry.raw) "RECHECK")
          exampleCanceledEntry.log.requestId).map LiveOrderLog.status
            = some .partiallyFilled := by decide +kernel
    rw [hrow] at hstatus
    rw [Option.some.inj hstatus] at hresolved
    cases hresolved
  · rintro ⟨-, -, hcandidate⟩
    have hsubmitted : (namedExitCandidate (reconcileOrderLog { now := 5 } exampleDoneExit.db
        exampleDoneExit.log (.ok exampleDoneExit.raw) "RECHECK") exampleDoneExit.log)
          = some ⟨1, 1, .submitted, ""⟩ := by decide +kernel
    have hfree := hcandidate _ hsubmitted
    cases hfree

end AutoCoinBot
