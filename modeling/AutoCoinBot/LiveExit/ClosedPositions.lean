/-
  LiveExit.ClosedPositions — runs of the writers of a position, and
  which of them take it out of `CLOSED`.

  Late fills, cancels and repeated fills of a position's orders arrive in any order, through six
  entry points.
-/
import AutoCoinBot.LiveExit.ExitFillRuns
import AutoCoinBot.LiveRecovery.ClosedPositions

namespace AutoCoinBot

open Library

/-! ## The exit path -/

/-- **When `reconcile_exit_order` reopens a closed position**: as the exit sync does,
with the order's row and no previous figures. -/
def ReconcileReopens (db : Database) (requestId : String) (getOrder : Option RawOrder)
    (positionId : ℕ) : Prop :=
  ∃ log ∈ submittedExitOrder db requestId, ∃ raw ∈ getOrder,
    ExitSyncReopens db { log with } (normalizeExchangeOrder raw) positionId

/-- **When `cancel_exit_order` reopens a closed position**: always, if the order is its
own and the exchange takes the cancel. -/
def CancelReopens (db : Database) (requestId : String) (cancelOrder : Option RawOrder)
    (positionId : ℕ) : Prop :=
  ∃ log ∈ submittedExitOrder db requestId,
    cancelOrder.isSome = true ∧ truthyId log.positionId = some positionId

/-- The exchange still waits with an order that is older than the limit. -/
def TimedOut (db : Database) (log : LiveOrderLog) (raw : RawOrder) (env : ExitTimeoutEnv) : Prop :=
  (normalizeExchangeOrder raw).status = .waiting
    ∧ (duplicateOrderOwner db log.requestId log).isSome = false
    ∧ env.cancelExitOrderAfterSeconds ≤ env.now - raw.createdAt.getD log.createdAt

/-- **When `manage_exit_order_timeout` reopens a closed position**: by reconciling the
order it finds, or by canceling it once it has waited too long. -/
def TimeoutReopens (db : Database) (managedId : ℕ) (env : ExitTimeoutEnv) (positionId : ℕ) :
    Prop :=
  ∃ pending ∈ pendingExitOrder db managedId,
    ReconcileReopens db pending.requestId env.getOrder positionId
      ∨ ∃ log ∈ submittedExitOrder db pending.requestId, ∃ raw ∈ env.getOrder,
          TimedOut db log raw env
            ∧ CancelReopens db pending.requestId env.cancelOrder positionId

section Decide

variable (db : Database) (requestId : String) (positionId : ℕ)

instance (getOrder : Option RawOrder) :
    Decidable (ReconcileReopens db requestId getOrder positionId) := by
  unfold ReconcileReopens; infer_instance

instance (cancelOrder : Option RawOrder) :
    Decidable (CancelReopens db requestId cancelOrder positionId) := by
  unfold CancelReopens; infer_instance

instance (log : LiveOrderLog) (raw : RawOrder) (env : ExitTimeoutEnv) :
    Decidable (TimedOut db log raw env) := by
  unfold TimedOut; infer_instance

instance (managedId : ℕ) (env : ExitTimeoutEnv) :
    Decidable (TimeoutReopens db managedId env positionId) := by
  unfold TimeoutReopens; infer_instance

end Decide

section Reconcile

variable {positionId : ℕ} {db : Database} {requestId : String}

theorem exitSyncReopens_congr {db' : Database} (h : db.livePositions = db'.livePositions)
    (log : LiveOrderLog) (actualPnl : Option ℚ) (status : ReconciledOrderStatus) :
    ExitSyncReopens db { log with actualPnl := actualPnl } status positionId
      ↔ ExitSyncReopens db' { log with } status positionId := by
  have hvolume : ∀ i, volumeOf db i = volumeOf db' i := by
    intro i; unfold volumeOf; rw [loadLivePosition_congr h]
  have hposition : positionForExitOrder db { log with actualPnl := actualPnl }
      = positionForExitOrder db' log := by
    unfold positionForExitOrder loadOpenLivePositions selectActivePositions
    rw [funext (loadLivePosition_congr h), h]
  have hreopens : ∀ ids q waiting, AggregateFillReopens db ids q waiting positionId
      ↔ AggregateFillReopens db' ids q waiting positionId := by
    intro ids q waiting
    unfold AggregateFillReopens fillReaching
    simp only [hvolume]
  unfold ExitSyncReopens
  simp only [hvolume, hreopens, hposition]
  rfl

/-- **A closed position stays closed through `reconcile_exit_order` exactly when the
order does not reopen it.** -/
theorem isClosed_reconcileExitOrder (getOrder : Option RawOrder) (now : UtcTime)
    (hclosed : IsClosed positionId db) :
    IsClosed positionId (reconcileExitOrder db requestId getOrder now)
      ↔ ¬ ReconcileReopens db requestId getOrder positionId := by
  unfold ReconcileReopens
  cases hlog : submittedExitOrder db requestId with
  | none =>
    unfold reconcileExitOrder
    rw [hlog]
    exact iff_of_true hclosed (by simp)
  | some log =>
    cases getOrder with
    | none =>
      unfold reconcileExitOrder
      rw [hlog]
      exact iff_of_true hclosed (by simp)
    | some raw =>
      -- log and candidate are written first, and neither is a position
      have hpositions : (markExitCandidate (updateLiveOrderLog db requestId
            (exitReconcileUpdates log (normalizeExchangeOrder raw)
              (notedExitPnl db log (normalizeExchangeOrder raw))) now)
            log (normalizeExchangeOrder raw)).livePositions = db.livePositions :=
        (markExitCandidate_livePositions _ _ _).trans
          (updateLiveOrderLog_livePositions _ _ _ _)
      rw [reconcileExitOrder_eq raw now hlog, isClosed_syncExitOrderPosition _ _ _
        ((isClosed_congr (loadLivePosition_congr hpositions _)).mpr hclosed)]
      simp only [Option.mem_some_iff, exists_eq_left']
      exact not_congr (exitSyncReopens_congr hpositions log _ _)

/-- **A closed position stays closed through `cancel_exit_order` exactly when the order
is not its own or the exchange refuses.** -/
theorem isClosed_cancelExitOrder (maxExitRetryCount : ℕ) (cancelOrder : Option RawOrder)
    (now : UtcTime) (hclosed : IsClosed positionId db) :
    IsClosed positionId (cancelExitOrder db requestId maxExitRetryCount cancelOrder now)
      ↔ ¬ CancelReopens db requestId cancelOrder positionId := by
  obtain ⟨p, hload, hp⟩ := id hclosed
  unfold CancelReopens cancelExitOrder
  cases submittedExitOrder db requestId with
  | none => exact iff_of_true hclosed (by simp)
  | some log =>
    cases cancelOrder with
    | none => exact iff_of_true hclosed (by simp)
    | some response =>
      simp only [Option.mem_some_iff, exists_eq_left', Option.isSome_some, true_and]
      set marked := retryExitCandidate (updateLiveOrderLog db requestId
        { status := some .canceled, exchangeResponsePayload := some response } now) log
        maxExitRetryCount with hmarked
      have hmarked : loadLivePosition marked positionId = some p :=
        (loadLivePosition_congr ((retryExitCandidate_livePositions _ _ _).trans
          (updateLiveOrderLog_livePositions _ _ _ _)) _).trans hload
      rw [isClosed_congr (loadLivePosition_congr (releaseExitSession_livePositions _ _) _)]
      unfold releaseExitPosition
      cases truthyId log.positionId with
      | none => exact iff_of_true ⟨p, hmarked, hp⟩ (by simp)
      | some i =>
        simp only [Option.some.injEq]
        -- the order's position is released whatever its status: closed turns into open
        by_cases hi : i = positionId
        · rw [hi, isClosed_update_self _ now hmarked]
          refine iff_of_false ?_ (not_not.mpr rfl)
          show (if (truthyId log.exitCandidateId).isSome then PositionStatus.exitCandidate
            else .opened) ≠ .closed
          split_ifs <;> decide
        · rw [isClosed_congr (loadLivePosition_update_ne marked i _ now (Ne.symm hi))]
          exact iff_of_true ⟨p, hmarked, hp⟩ hi

end Reconcile

/-! ## The order seen again -/

/-- Two states of one order's row, before and after an update that leaves its identity
alone. -/
structure LiveOrderLog.SameOrder (log log' : LiveOrderLog) : Prop where
  createdAt : log'.createdAt = log.createdAt
  purpose : log'.orderPurpose = log.orderPurpose
  orderUuid : log'.orderUuid = log.orderUuid
  positionId : log'.positionId = log.positionId

theorem LiveOrderLog.SameOrder.trans {log log' log'' : LiveOrderLog} (h : log.SameOrder log')
    (h' : log'.SameOrder log'') : log.SameOrder log'' :=
  ⟨h'.createdAt.trans h.createdAt, h'.purpose.trans h.purpose, h'.orderUuid.trans h.orderUuid,
    h'.positionId.trans h.positionId⟩

section Refreshed

variable {db : Database} {requestId : String} {log : LiveOrderLog}

theorem sameOrder_updateLiveOrderLog (u : LiveOrderLogUpdates) (now : UtcTime)
    (hlog : getLiveOrderLog db requestId = some log) (huuid : u.orderUuid = none)
    (hposition : u.positionId = none) :
    ∃ log', getLiveOrderLog (updateLiveOrderLog db requestId u now) requestId = some log'
      ∧ log.SameOrder log'
      ∧ log'.exchangeResponsePayload = u.exchangeResponsePayload.getD log.exchangeResponsePayload
      ∧ log'.status = if (duplicateOrderOwner db requestId log).isSome then .failed
          else u.status.getD log.status := by
  refine ⟨_, getLiveOrderLog_update_self db requestId u now hlog, ⟨rfl, ?_, ?_, ?_⟩, ?_, ?_⟩
  · exact mergedLiveOrderLog_orderPurpose db requestId log u now
  -- a uuid that another order owns is dropped for the old one
  · rcases mergedLiveOrderLog_orderUuid db requestId log u now with h | h
    · exact h.trans (by rw [huuid]; rfl)
    · exact h
  · exact (mergedLiveOrderLog_positionId db requestId log u now).trans (by rw [hposition]; rfl)
  · show (mergedLiveOrderLog db requestId log u now).exchangeResponsePayload = _
    simp only [mergedLiveOrderLog]
    split <;> rfl
  · have hmerged : duplicateOrderOwner db requestId (log.merge u)
        = duplicateOrderOwner db requestId log := by
      unfold duplicateOrderOwner LiveOrderLog.merge
      simp only [huuid, Option.getD_none]
    exact (mergedLiveOrderLog_status db requestId log u now).trans (by rw [hmerged])

/-- **The row of a reconciled order, read again.** It waits exactly if the exchange
says so and no other row owns its uuid. -/
theorem getLiveOrderLog_reconcileExitOrder (raw : RawOrder) (now : UtcTime)
    (hlog : submittedExitOrder db requestId = some log) :
    ∃ refreshed, getLiveOrderLog (reconcileExitOrder db requestId (some raw) now) requestId
        = some refreshed
      ∧ log.SameOrder refreshed ∧ refreshed.exchangeResponsePayload = raw
      ∧ (refreshed.status = .waiting ↔ (normalizeExchangeOrder raw).status = .waiting
          ∧ (duplicateOrderOwner db requestId log).isSome = false) := by
  have hrow : getLiveOrderLog db requestId = some log := (Option.filter_eq_some_iff.mp hlog).1
  have hrequest : log.requestId = requestId := getLiveOrderLog_requestId db _ hrow
  obtain ⟨log₁, hlog₁, hsame₁, hraw₁, hstatus₁⟩ := sameOrder_updateLiveOrderLog
    (exitReconcileUpdates log (normalizeExchangeOrder raw)
      (notedExitPnl db log (normalizeExchangeOrder raw))) now hrow rfl rfl
  have hstatus : log₁.status = .waiting ↔ (normalizeExchangeOrder raw).status = .waiting
      ∧ (duplicateOrderOwner db requestId log).isSome = false := by
    rw [hstatus₁]
    show (if (duplicateOrderOwner db requestId log).isSome then OrderStatus.failed
      else (normalizeExchangeOrder raw).status) = .waiting ↔ _
    split_ifs with hdup
    · simp [hdup]
    · simp [hdup]
  rw [reconcileExitOrder_eq raw now hlog]
  set marked := markExitCandidate (updateLiveOrderLog db requestId
    (exitReconcileUpdates log (normalizeExchangeOrder raw)
      (notedExitPnl db log (normalizeExchangeOrder raw))) now) log (normalizeExchangeOrder raw)
  have hmarked : getLiveOrderLog marked requestId = some log₁ :=
    (getLiveOrderLog_congr (markExitCandidate_liveOrderLogs _ _ _) _).trans hlog₁
  have hpayload : log₁.exchangeResponsePayload = raw := hraw₁
  by_cases hwaiting : (normalizeExchangeOrder raw).status = .waiting
  · -- the position is left alone, and so is the row
    rw [syncExitOrderPosition_waiting hwaiting]
    exact ⟨log₁, hmarked, hsame₁, hpayload, hstatus⟩
  · have hnot : log₁.status ≠ .waiting := fun h => hwaiting (hstatus.mp h).1
    rcases syncExitOrderPosition_liveOrderLogs marked
        { log with actualPnl := some (notedExitPnl db log (normalizeExchangeOrder raw)) }
        (normalizeExchangeOrder raw) now with hlogs | ⟨pnl, hlogs⟩
    · exact ⟨log₁, (getLiveOrderLog_congr hlogs _).trans hmarked, hsame₁, hpayload, hstatus⟩
    · obtain ⟨log₂, hlog₂, hsame₂, hraw₂, hstatus₂⟩ := sameOrder_updateLiveOrderLog
        { actualPnl := some pnl } now hmarked rfl rfl
      refine ⟨log₂, ?_, hsame₁.trans hsame₂, hraw₂.trans hpayload,
        iff_of_false ?_ (fun h => hwaiting h.1)⟩
      · rw [getLiveOrderLog_congr hlogs]
        exact hrequest ▸ hlog₂
      · rw [hstatus₂]
        split_ifs
        · decide
        · exact hnot

end Refreshed

/-! ## Timeouts -/

section Timeout

variable {positionId : ℕ} {db : Database}

theorem not_exitSyncReopens_waiting {log : ExitOrderLog} {status : ReconciledOrderStatus}
    (hwaiting : status.status = .waiting) : ¬ ExitSyncReopens db log status positionId := by
  unfold ExitSyncReopens
  simp only [hwaiting, OrderStatus.isFill]
  split_ifs <;> simp

/-- **A closed position stays closed through `manage_exit_order_timeout` exactly when
neither the reconciliation nor the cancel reopens it.** -/
theorem isClosed_manageExitOrderTimeout (managedId : ℕ) (env : ExitTimeoutEnv)
    (hclosed : IsClosed positionId db) :
    IsClosed positionId (manageExitOrderTimeout db managedId env)
      ↔ ¬ TimeoutReopens db managedId env positionId := by
  unfold TimeoutReopens manageExitOrderTimeout
  cases pendingExitOrder db managedId with
  | none => exact iff_of_true hclosed (by simp)
  | some pending =>
    simp only [Option.mem_some_iff, exists_eq_left']
    cases hlog : submittedExitOrder db pending.requestId with
    | none =>
      -- the order has not reached the exchange: nothing is read or canceled
      have hreconcile : reconcileExitOrder db pending.requestId env.getOrder env.now = db := by
        unfold reconcileExitOrder; rw [hlog]
      have hcancel : ∀ n, cancelExitOrder db pending.requestId n env.cancelOrder env.now
          = db := by
        intro n; unfold cancelExitOrder; rw [hlog]
      refine iff_of_true ?_ (by simp [ReconcileReopens, hlog])
      simp only [Option.isSome_none, Bool.false_eq_true, and_false, if_false, hreconcile]
      split
      · exact hclosed
      · rename_i refreshed hrefreshed
        rw [getLiveOrderLog_requestId db _ hrefreshed, hcancel, ite_self]
        exact hclosed
    | some log =>
      cases hraw : env.getOrder with
      | none =>
        simp only [Option.isNone_none, Option.isSome_some, and_self, if_true]
        exact iff_of_true hclosed (by simp [ReconcileReopens])
      | some raw =>
        simp only [Option.isNone_some, Bool.false_eq_true, false_and, if_false,
          Option.mem_some_iff, exists_eq_left']
        have hrequest : log.requestId = pending.requestId :=
          getLiveOrderLog_requestId db _ (Option.filter_eq_some_iff.mp hlog).1
        have hreconcile : IsClosed positionId
              (reconcileExitOrder db pending.requestId (some raw) env.now)
            ↔ ¬ ReconcileReopens db pending.requestId (some raw) positionId :=
          isClosed_reconcileExitOrder (some raw) env.now hclosed
        obtain ⟨refreshed, hrefreshed, hsame, hpayload, hstatus⟩ :=
          getLiveOrderLog_reconcileExitOrder raw env.now hlog
        have hdue : (refreshed.status = .waiting ∧ env.now - exitOrderTimeoutBasis refreshed
            ≥ env.cancelExitOrderAfterSeconds) ↔ TimedOut db log raw env := by
          unfold TimedOut exitOrderTimeoutBasis
          rw [hpayload, hsame.createdAt, hrequest, hstatus, and_assoc]
        rw [hrefreshed]
        simp only
        split_ifs with hold
        · -- the order is left as it was, then canceled
          have htimedOut := hdue.mp hold
          have hnot : ¬ ReconcileReopens db pending.requestId (some raw) positionId := by
            rintro ⟨log', _, raw', hraw', hreopens⟩
            cases hraw'
            exact not_exitSyncReopens_waiting htimedOut.1 hreopens
          have hsubmitted : submittedExitOrder
                (reconcileExitOrder db pending.requestId (some raw) env.now)
                refreshed.requestId = some refreshed := by
            rw [getLiveOrderLog_requestId _ _ hrefreshed]
            obtain ⟨_, hfilter⟩ := Option.filter_eq_some_iff.mp hlog
            refine Option.filter_eq_some_iff.mpr ⟨hrefreshed, ?_⟩
            rw [hsame.purpose, hsame.orderUuid]
            exact hfilter
          rw [isClosed_cancelExitOrder _ _ _ (hreconcile.mpr hnot)]
          unfold CancelReopens
          simp only [hsubmitted, hlog, Option.mem_some_iff, exists_eq_left',
            hsame.positionId, hnot, htimedOut, true_and, false_or]
        · simp only [mt hdue.mpr hold, false_and, or_false]
          exact hreconcile

end Timeout

/-! ## Runs -/

/-- The six entry points that write a position's status, with their arguments. -/
inductive PositionEvent where
  | applyReconciledOrderStatus (env : SyncEnv) (log : LiveOrderLog)
      (status : ReconciledOrderStatus) (source : String)
  | syncExitOrderPosition (log : ExitOrderLog) (status : ReconciledOrderStatus) (now : UtcTime)
  | reconcileExitOrder (requestId : String) (getOrder : Option RawOrder) (now : UtcTime)
  | cancelExitOrder (requestId : String) (maxExitRetryCount : ℕ) (cancelOrder : Option RawOrder)
      (now : UtcTime)
  | manageExitOrderTimeout (positionId : ℕ) (env : ExitTimeoutEnv)
  | syncFilledEntryOrderToPosition (env : SyncEnv) (call : SyncCall)

def PositionEvent.apply (db : Database) : PositionEvent → Database
  | .applyReconciledOrderStatus env log status source =>
    AutoCoinBot.applyReconciledOrderStatus env db log status source
  | .syncExitOrderPosition log status now => AutoCoinBot.syncExitOrderPosition db log status now
  | .reconcileExitOrder requestId getOrder now =>
    AutoCoinBot.reconcileExitOrder db requestId getOrder now
  | .cancelExitOrder requestId maxExitRetryCount cancelOrder now =>
    AutoCoinBot.cancelExitOrder db requestId maxExitRetryCount cancelOrder now
  | .manageExitOrderTimeout positionId env =>
    AutoCoinBot.manageExitOrderTimeout db positionId env
  | .syncFilledEntryOrderToPosition env call =>
    (AutoCoinBot.syncFilledEntryOrderToPosition env db call).1

/-- **The calls that reopen a closed position**, told from their arguments and the
state they find. -/
def PositionEvent.Reopens (db : Database) (positionId : ℕ) : PositionEvent → Prop
  | .applyReconciledOrderStatus env log status source =>
    StatusReopens db log status source env.now positionId
  | .syncExitOrderPosition log status _ => ExitSyncReopens db log status positionId
  | .reconcileExitOrder requestId getOrder _ => ReconcileReopens db requestId getOrder positionId
  | .cancelExitOrder requestId _ cancelOrder _ => CancelReopens db requestId cancelOrder positionId
  | .manageExitOrderTimeout managedId env => TimeoutReopens db managedId env positionId
  | .syncFilledEntryOrderToPosition _ call => FillSyncReopens db call positionId

instance (db : Database) (positionId : ℕ) (event : PositionEvent) :
    Decidable (event.Reopens db positionId) := by
  cases event <;> unfold PositionEvent.Reopens <;> infer_instance

section Runs

variable {positionId : ℕ} {db : Database}

theorem isClosed_positionEvent (event : PositionEvent) (hclosed : IsClosed positionId db) :
    IsClosed positionId (event.apply db) ↔ ¬ event.Reopens db positionId := by
  cases event with
  | applyReconciledOrderStatus env log status source =>
    exact isClosed_applyReconciledOrderStatus env log status source hclosed
  | syncExitOrderPosition log status now =>
    exact isClosed_syncExitOrderPosition log status now hclosed
  | reconcileExitOrder requestId getOrder now =>
    exact isClosed_reconcileExitOrder getOrder now hclosed
  | cancelExitOrder requestId maxExitRetryCount cancelOrder now =>
    exact isClosed_cancelExitOrder maxExitRetryCount cancelOrder now hclosed
  | manageExitOrderTimeout managedId env =>
    exact isClosed_manageExitOrderTimeout managedId env hclosed
  | syncFilledEntryOrderToPosition env call =>
    exact isClosed_syncFilledEntryOrderToPosition env call hclosed

end Runs

/-- **Whole runs.** A closed position is closed in every state of a run exactly when no
call of the run reopens it. -/
theorem closed_absorbing_iff (positionId : ℕ) (db : Database) (events : List PositionEvent)
    (hclosed : IsClosed positionId db) :
    (∀ n, IsClosed positionId (run PositionEvent.apply db (events.take n)))
      ↔ StepsOk PositionEvent.apply (fun db event => ¬ event.Reopens db positionId) db events :=
  forall_prefix_iff (fun _ event h => isClosed_positionEvent event h) hclosed events

/-! ## A last delta after the dust was written off -/

/-- All but a ten-millionth of the two coins. -/
def exampleDustSnapshot : RawOrder :=
  exampleSnapshot (2 - 1 / 10000000) (1 / 10000000) 240 1 "wait"

def exampleLastSnapshot : RawOrder := exampleSnapshot 2 0 241 1 "done"

/-- The order log row after the first snapshot. -/
def exampleDustLog : LiveOrderLog :=
  { exampleExitLog with
    status := .partiallyFilled
    exchangeResponsePayload := exampleDustSnapshot
    executedVolume := 2 - 1 / 10000000
    remainingVolume := 1 / 10000000
    filledAmountKrw := 240
    paidFee := 1
    actualPnl := some (240 - 100 * (2 - 1 / 10000000) - 1)
    updatedAt := 10 }

/-- Almost everything is sold, which closes the position. -/
def exampleDustSale : PositionEvent :=
  .reconcileExitOrder "exit-1" (some exampleDustSnapshot) 10

/-- A snapshot on the status path, with the row the first one left. -/
def exampleLateStatus (snapshot : RawOrder) : PositionEvent :=
  .applyReconciledOrderStatus { now := 20 } exampleDustLog (normalizeExchangeOrder snapshot)
    "OPEN_ORDER_SYNC"

theorem closed_absorbing_iff_example :
    IsClosed 1 (run PositionEvent.apply (exampleDustSale.apply exampleExitDb)
      [exampleLateStatus exampleDustSnapshot, exampleDustSale]) :=
  (closed_absorbing_iff 1 (exampleDustSale.apply exampleExitDb)
    [exampleLateStatus exampleDustSnapshot, exampleDustSale] (by decide +kernel)).mpr
    (by decide +kernel) 2

/-- **The last delta reopens the position.** The row kept its two coins when the dust
was written off, so the rest of the order reads as a small sale from both. -/
theorem closed_reopened_by_last_delta :
    IsClosed 1 (exampleDustSale.apply exampleExitDb)
      ∧ getLiveOrderLog (exampleDustSale.apply exampleExitDb) "exit-1" = some exampleDustLog
      ∧ (loadLivePosition ((exampleLateStatus exampleLastSnapshot).apply
            (exampleDustSale.apply exampleExitDb)) 1).map
          (fun p => (p.status, p.entryVolume)) = some (.opened, 2 - 1 / 10000000) := by
  refine ⟨by decide +kernel, by decide +kernel, by decide +kernel⟩

end AutoCoinBot
