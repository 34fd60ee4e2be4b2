/-
  LiveExit.CanceledExits — `submit_exit_order`, from `broker.place_order` on, and the
  positions a canceled exit order still holds.

  A submitted exit order holds the positions that are `CLOSING` under its uuid: the one in its
  row and, if it sweeps a market, every one its preview lists. A canceled one gives back the
  position in its row.
-/
import AutoCoinBot.LiveExit.ExitFillRuns
import AutoCoinBot.LiveRecovery.AggregateRuns
import AutoCoinBot.LiveRecovery.HeldVolume
import AutoCoinBot.LiveStrategyPilot.SubmitOrders

namespace AutoCoinBot

open Library

/-! ## `reconcile_exit_order` -/

/-- How the calls of `reconcile_exit_order` end. -/
structure ExitRecheckOutcomes where
  getLiveOrderLog : Ending ApiError := .returns
  getOrder : Except ApiError RawOrder
  loadLivePosition : Ending ApiError := .returns
  updateLiveOrderLog : Ending ApiError := .returns
  updateExitCandidate : Ending ApiError := .returns
  syncPosition : Ending ApiError := .returns

/-- The calls of `reconcile_exit_order`. -/
def reconcileExitOrderCalls (o : ExitRecheckOutcomes) (db : Database) (requestId : String)
    (now : UtcTime) : List OrderCall :=
  .other o.getLiveOrderLog .elsewhere ::
    match submittedExitOrder db requestId with
    | none => []
    | some log =>
      match o.getOrder with
      | .error exc => [.other (.raises exc 0) .elsewhere]
      | .ok raw =>
        let status := normalizeExchangeOrder raw
        let actualPnl := notedExitPnl db log status
        [.other o.loadLivePosition .elsewhere,
          .updateLiveOrderLog o.updateLiveOrderLog (exitReconcileUpdates log status actualPnl)]
        ++ (match truthyId log.exitCandidateId with
            | some candidateId =>
              [.other o.updateExitCandidate (candidateEffect candidateId
                (candidateStatusForOrder status.status) status.status.text)]
            | none => [])
        ++ [.other o.syncPosition
              (exitSyncEffect { log with actualPnl := some actualPnl } status now)]

/-! ## `submit_exit_order` -/

/-- How the calls of `submit_exit_order` end. -/
structure ExitOutcomes where
  placeOrder : Placed
  updateLiveOrderLog : Ending ApiError := .returns
  updateExitCandidate : Ending ApiError := .returns
  updateLivePosition : Ending ApiError := .returns
  updateAggregatePosition : ℕ → Ending ApiError := fun _ => .returns
  updateLiveStrategySession : Ending ApiError := .returns
  recheck : ExitRecheckOutcomes
  getLatestLog : Ending ApiError := .returns
  -- in the handler
  updateUnknownLog : Ending ApiError := .returns
  updateUnknownCandidate : Ending ApiError := .returns
  logRecoveryEvent : Ending ApiError := .returns
  updateFailedLog : Ending ApiError := .returns
  updateFailedPosition : Ending ApiError := .returns

section Exit

variable (order : PreviewedOrder) (o : ExitOutcomes) (now : UtcTime)

/-- `candidate = load_exit_candidate(int(preview["exit_candidate_id"]))`. -/
def exitCandidateOf : Option ExitCandidate :=
  (truthyId order.log.exitCandidateId).bind (fun id => order.db.exitCandidates.get? id)

/-- The position of the preview, if it may still be sold. -/
def exitPositionOf : Option LivePosition :=
  ((truthyId order.log.positionId).bind (loadLivePosition order.db)).filter
    (fun p => [PositionStatus.opened, .exitCandidate, .exitPending].contains p.status)

/-- The position's writes after a submission. -/
def exitPositionCalls (position : LivePosition) (orderUuid : String) : List OrderCall :=
  let closing : LivePositionUpdates :=
    { status := some .closing, exitOrderUuid := some (some orderUuid) }
  [.other o.updateLivePosition (positionEffect position.id closing now)]
  ++ order.log.orderPreviewPayload.aggregateExitPositionIds.filterMap (fun id =>
      match id with
      | some id =>
        if id ≠ position.id then
          some (.other (o.updateAggregatePosition id) (positionEffect id closing now))
        else none
      -- `int(aggregate_position_id)`
      | none => some (.other (.raises { message := "invalid literal for int()" } 0) .elsewhere))
  ++ [.other o.updateLiveStrategySession (sessionEffect position.sessionId
        { lastOrderStatus := some "SUBMITTED", lastRiskResult := some "EXIT_SUBMITTED" })]

/-- The calls after `place_order`, up to the status recheck. -/
def exitCallsBefore (response : RawOrder) : List OrderCall :=
  [.updateLiveOrderLog o.updateLiveOrderLog
      { submittedUpdates response with errorMessage := some none }]
  ++ (match exitCandidateOf order with
      | some candidate =>
        [.other o.updateExitCandidate (candidateEffect candidate.id .submitted "ALLOWED")]
      | none => [])
  ++ (match exitPositionOf order with
      | some position => exitPositionCalls order o now position response.orderUuid
      | none => [])

/-- The calls after `place_order`. -/
def exitCalls (response : RawOrder) : List OrderCall :=
  let before := exitCallsBefore order o now response
  before
  ++ (if response.orderUuid ≠ "" then
      reconcileExitOrderCalls o.recheck (afterCalls order before now) order.log.requestId now
    else [])
  ++ [.other o.getLatestLog .elsewhere]

def exitHandler (exc : ApiError) : List OrderCall :=
  if isTimeoutException exc then
    [.updateLiveOrderLog o.updateUnknownLog (unknownUpdates
        "Exit order request timed out; status reconciliation is required before retry.")]
    ++ (match exitCandidateOf order with
        | some candidate =>
          [.other o.updateUnknownCandidate
            (candidateEffect candidate.id .submitted "ORDER_STATUS_UNKNOWN_TIMEOUT")]
        | none => [])
    ++ [.other o.logRecoveryEvent .elsewhere]
  else
    [.updateLiveOrderLog o.updateFailedLog (failedUpdates "BLOCKED_API_RESPONSE_ERROR" exc)]
    ++ (match exitPositionOf order with
        | some position =>
          [.other o.updateFailedPosition (positionEffect position.id { status := some .error } now)]
        | none => [])

def submitExitOrder : Database :=
  submit order o.placeOrder (exitCalls order o now) (exitHandler order o now) now

end Exit

/-! ## What an order holds -/

/-- The position is being closed by the order with this uuid. -/
def LivePosition.heldBy (p : LivePosition) (orderUuid : Option String) : Prop :=
  p.status = .closing ∧ p.exitOrderUuid = orderUuid

instance (p : LivePosition) (orderUuid : Option String) : Decidable (p.heldBy orderUuid) :=
  inferInstanceAs (Decidable (p.status = .closing ∧ p.exitOrderUuid = orderUuid))

def Released (db : Database) (orderUuid : Option String) : Prop :=
  ∀ p ∈ db.livePositions.rows, ¬ p.heldBy orderUuid

instance (db : Database) (orderUuid : Option String) : Decidable (Released db orderUuid) :=
  inferInstanceAs (Decidable (∀ p ∈ db.livePositions.rows, ¬ p.heldBy orderUuid))

/-- **When a cancel releases all an order holds**: it holds the position in its row alone. -/
def HoldsOwnOnly (db : Database) (log : LiveOrderLog) : Prop :=
  ∀ p ∈ db.livePositions.rows, p.heldBy log.orderUuid → truthyId log.positionId = some p.id

instance (db : Database) (log : LiveOrderLog) : Decidable (HoldsOwnOnly db log) :=
  inferInstanceAs (Decidable (∀ p ∈ db.livePositions.rows,
    p.heldBy log.orderUuid → truthyId log.positionId = some p.id))

section Held

variable {db : Database} {orderUuid : Option String}

theorem released_iff : Released db orderUuid
    ↔ ∀ i p, loadLivePosition db i = some p → ¬ p.heldBy orderUuid := by
  constructor
  · intro h i p hload
    exact h p (Table.get?_some_mem hload)
  · intro h p hp
    exact h p.id p (Table.get?_of_mem hp)

theorem not_heldBy_merge (p : LivePosition) {u : LivePositionUpdates} {status : PositionStatus}
    (now : UtcTime) (hu : u.status = some status) (hne : status ≠ .closing) :
    ¬ (p.merge u now).heldBy orderUuid := by
  rintro ⟨hclosing, -⟩
  rw [LivePosition.merge_status, hu] at hclosing
  exact hne hclosing

end Held

/-! ## A cancel -/

section Cancel

variable {db : Database} {requestId : String} {log : LiveOrderLog}

theorem canceledExitUpdates_status (log : LiveOrderLog) :
    ∃ status, (canceledExitUpdates log).status = some status ∧ status ≠ .closing := by
  unfold canceledExitUpdates
  split_ifs
  · exact ⟨.exitCandidate, rfl, by decide⟩
  · exact ⟨.opened, rfl, by decide⟩

theorem loadLivePosition_cancelExitOrder (maxExitRetryCount : ℕ) (response : RawOrder)
    (now : UtcTime) (hlog : submittedExitOrder db requestId = some log) (i : ℕ) :
    loadLivePosition (cancelExitOrder db requestId maxExitRetryCount (some response) now) i
      = (loadLivePosition db i).map (fun p =>
          if truthyId log.positionId = some i then p.merge (canceledExitUpdates log) now
          else p) := by
  unfold cancelExitOrder
  rw [hlog]
  simp only
  set marked := retryExitCandidate (updateLiveOrderLog db requestId
    { status := some .canceled, exchangeResponsePayload := some response } now) log
    maxExitRetryCount with hmarked
  have hsame : loadLivePosition marked i = loadLivePosition db i :=
    loadLivePosition_congr ((retryExitCandidate_livePositions _ _ _).trans
      (updateLiveOrderLog_livePositions _ _ _ _)) i
  rw [loadLivePosition_congr (releaseExitSession_livePositions _ _)]
  unfold releaseExitPosition
  cases truthyId log.positionId with
  | none => simp [hsame]
  | some j =>
    show loadLivePosition (updateLivePosition marked j (canceledExitUpdates log) now) i = _
    rw [loadLivePosition_update, hsame]
    simp only [Option.some.injEq, eq_comm]

theorem heldBy_cancelExitOrder_iff (maxExitRetryCount : ℕ) (response : RawOrder) (now : UtcTime)
    (hlog : submittedExitOrder db requestId = some log) (orderUuid : Option String) (i : ℕ) :
    (∃ p, loadLivePosition (cancelExitOrder db requestId maxExitRetryCount (some response) now) i
        = some p ∧ p.heldBy orderUuid)
      ↔ truthyId log.positionId ≠ some i
        ∧ ∃ p, loadLivePosition db i = some p ∧ p.heldBy orderUuid := by
  obtain ⟨status, hstatus, hne⟩ := canceledExitUpdates_status log
  rw [loadLivePosition_cancelExitOrder maxExitRetryCount response now hlog]
  by_cases hown : truthyId log.positionId = some i
  · simp only [hown, if_true, ne_eq, not_true_eq_false, false_and, iff_false, not_exists, not_and]
    intro q hq
    obtain ⟨p, -, rfl⟩ := Option.map_eq_some_iff.mp hq
    exact not_heldBy_merge p now hstatus hne
  · simp only [hown, if_false, Option.map_id', ne_eq, not_false_eq_true, true_and]

/-- **When a cancel releases all an order holds**, for every exit order that has reached the
exchange and every state it is canceled in. -/
theorem cancel_releases_iff (db : Database) (requestId : String) (log : LiveOrderLog)
    (maxExitRetryCount : ℕ) (response : RawOrder) (now : UtcTime)
    (hlog : submittedExitOrder db requestId = some log) :
    Released (cancelExitOrder db requestId maxExitRetryCount (some response) now) log.orderUuid
      ↔ HoldsOwnOnly db log := by
  have hheld := heldBy_cancelExitOrder_iff maxExitRetryCount response now hlog log.orderUuid
  rw [released_iff]
  constructor
  · intro h p hp hunder
    by_contra hother
    obtain ⟨q, hload, hq⟩ := (hheld p.id).mpr ⟨hother, p, Table.get?_of_mem hp, hunder⟩
    exact h p.id q hload hq
  · intro h i q hload hq
    obtain ⟨hother, p, hstored, hp⟩ := (hheld i).mp ⟨q, hload, hq⟩
    have hown := h p (Table.get?_some_mem hstored) hp
    rw [loadLivePosition_id db i hstored] at hown
    exact hother hown

theorem cancel_releases_example :
    Released (cancelExitOrder exampleExitDb "exit-1" 2 (some {}) 20) exampleExitLog.orderUuid :=
  (cancel_releases_iff exampleExitDb "exit-1" exampleExitLog 2 {} 20 (by decide +kernel)).mpr
    (by decide +kernel)

theorem swept_position_stays_held :
    ∃ log, submittedExitOrder exampleAggregateDb "exit-agg" = some log
      ∧ (let db := cancelExitOrder exampleAggregateDb "exit-agg" 2 (some {}) 20
         (getLiveOrderLog db "exit-agg").map LiveOrderLog.status = some .canceled
          ∧ (loadLivePosition db 1).map LivePosition.status = some .opened
          ∧ (loadLivePosition db 2).map (fun p => (p.status, p.exitOrderUuid))
              = some (.closing, some "agg-uuid")
          ∧ ¬ Released db log.orderUuid) :=
  ⟨exampleAggregateLog 1, by decide +kernel, by decide +kernel, by decide +kernel,
    by decide +kernel, by decide +kernel⟩

end Cancel

end AutoCoinBot
