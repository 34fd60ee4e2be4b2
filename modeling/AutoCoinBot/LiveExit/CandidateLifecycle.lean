/-
  LiveExit.CandidateLifecycle — an exit candidate from its creation on.

  Every call writes the status of its candidate whatever that is.
-/
import AutoCoinBot.LiveExit.CandidateCalls

namespace AutoCoinBot

open Library

/-! ## Statuses -/

def ExitCandidateStatus.isFinished (status : ExitCandidateStatus) : Bool :=
  ["COMPLETED", "CANCELED"].contains status.text

/-- An order of the candidate is at the exchange, or has been filled. -/
def SellWorld.OrderOut (w : SellWorld) (candidateId : ℕ) : Prop :=
  ∃ log ∈ w.db.liveOrderLogs.rows, log.exitCandidateId = some candidateId
    ∧ log.orderPurpose = .exit ∧ (log.status.isUnresolved = true ∨ log.status = .filled)

/-- The exit of a candidate has been sent, or it is finished. -/
def SellWorld.ExitSent (w : SellWorld) (candidateId : ℕ) : Prop :=
  ∃ status, w.candidateStatus candidateId = some status
    ∧ (status.isFinished = true ∨ status.isSubmitted = true ∨ w.OrderOut candidateId)

instance (w : SellWorld) (candidateId : ℕ) : Decidable (w.OrderOut candidateId) :=
  inferInstanceAs (Decidable (∃ log ∈ w.db.liveOrderLogs.rows,
    log.exitCandidateId = some candidateId
      ∧ log.orderPurpose = .exit ∧ (log.status.isUnresolved = true ∨ log.status = .filled)))

instance (w : SellWorld) (candidateId : ℕ) : Decidable (w.ExitSent candidateId) :=
  inferInstanceAs (Decidable (∃ status ∈ w.candidateStatus candidateId,
    status.isFinished = true ∨ status.isSubmitted = true ∨ w.OrderOut candidateId))

/-- The candidate may still be previewed and submitted. -/
def SellWorld.Unsent (w : SellWorld) (candidateId : Option ℕ) : Prop :=
  ∀ status ∈ candidateId.bind w.candidateStatus,
    status.isFinished = false ∧ status.isSubmitted = false

/-- A call that reconciles or cancels an open order of the candidate. -/
def ExitCall.Settles (w : SellWorld) (candidateId : ℕ) : ExitCall → Prop
  | .reconcile requestId _ | .cancel requestId _ _ =>
    ∃ log, getLiveOrderLog w.db requestId = some log ∧ log.exitCandidateId = some candidateId
      ∧ log.status.isUnresolved = true
  | _ => False

/-! ## Forward, and in time -/

/-- **The lifecycle moves forward** in one call. -/
structure Forward (w : SellWorld) (call : ExitCall × UtcTime) : Prop where
  finished : ∀ candidateId status, w.candidateStatus candidateId = some status →
    status.isFinished = true →
    ((exitStep w call).candidateStatus candidateId).map ExitCandidateStatus.text = some status.text
  submitted : ∀ candidateId status, w.candidateStatus candidateId = some status →
    status.isSubmitted = true →
    ((exitStep w call).candidateStatus candidateId).any ExitCandidateStatus.isSubmitted = true
      ∨ call.1.Settles w candidateId
  sent : ∀ candidateId, call.1 = .approve candidateId ∨ call.1 = .reject candidateId →
    w.ExitSent candidateId →
    (exitStep w call).db.exitCandidates = w.db.exitCandidates
      ∧ (exitStep w call).db.livePositions = w.db.livePositions

/-- What a reconciliation or a cancellation of the order makes of its candidate, in time: a
finished one keeps its status, and of a SUBMITTED one the order is open. -/
def SellWorld.Settled (w : SellWorld) (log : LiveOrderLog) (next : ExitCandidateStatus) : Prop :=
  ∀ status ∈ log.exitCandidateId.bind w.candidateStatus,
    (status.isFinished = true → next.text = status.text)
      ∧ (status.isSubmitted = true → next.isSubmitted = true ∨ log.status.isUnresolved = true)

/-- The status a cancellation gives the candidate. -/
def SellWorld.canceledStatus (w : SellWorld) (log : LiveOrderLog) (maxExitRetryCount : ℕ)
    (response : RawOrder) (now : UtcTime) : ExitCandidateStatus :=
  let db := updateLiveOrderLog w.db log.requestId
    { status := some .canceled, exchangeResponsePayload := some response } now
  if (truthyId log.exitCandidateId).all (fun id => countExitRetries db id < maxExitRetryCount) then
    .pending
  else .canceled

def ExitCall.Timely (w : SellWorld) (now : UtcTime) : ExitCall → Prop
  | .create _ => True
  | .approve candidateId | .reject candidateId => ¬ w.ExitSent candidateId
  | .preview candidateId _ _ _ _ => w.Unsent (some candidateId)
  | .submit requestId _ _ => w.Unsent (w.candidateOf requestId)
  | .reconcile requestId getOrder =>
    ∀ log ∈ submittedExitOrder w.db requestId, ∀ raw ∈ getOrder,
      w.Settled log (candidateStatusForOrder (normalizeExchangeOrder raw).status)
  | .cancel requestId maxExitRetryCount cancelOrder =>
    ∀ log ∈ submittedExitOrder w.db requestId, ∀ response ∈ cancelOrder,
      w.Settled log (w.canceledStatus log maxExitRetryCount response now)

/-! ## One call -/

section Call

variable {w : SellWorld} {now : UtcTime}

theorem candidateStatus_updateExitCandidate {db : Database} {candidateId : ℕ}
    {candidate : ExitCandidate} (h : db.exitCandidates.get? candidateId = some candidate)
    (status : ExitCandidateStatus) (riskResult : String) :
    ((updateExitCandidate db candidateId status riskResult).exitCandidates.get? candidateId).map
      ExitCandidate.status = some status := by
  have hmodify := Table.get?_modify db.exitCandidates candidateId candidateId
    (fun c => { c with status := status, riskResult := riskResult }) (fun _ => rfl)
  refine (congrArg (Option.map ExitCandidate.status) hmodify).trans ?_
  rw [h]
  simp

theorem truthyId_of_status {candidateId : ℕ} {status : ExitCandidateStatus}
    (h : w.candidateStatus candidateId = some status) :
    truthyId (some candidateId) = some candidateId := by
  obtain ⟨candidate, hcandidate, -⟩ := Option.map_eq_some_iff.mp h
  exact truthyId_some (Nat.ne_of_gt (Table.get?_pos hcandidate))

theorem candidateStatus_other {call : ExitCall} {candidateId : ℕ} {status : ExitCandidateStatus}
    (h : w.candidateStatus candidateId = some status) (hne : call.candidate w ≠ some candidateId) :
    (exitStep w (call, now)).candidateStatus candidateId = some status := by
  obtain ⟨candidate, hcandidate, rfl⟩ := Option.map_eq_some_iff.mp h
  unfold SellWorld.candidateStatus
  rw [show (exitStep w (call, now)).db.exitCandidates.get? candidateId = some candidate from
    othersKept_apply w call now candidateId candidate hne hcandidate]
  rfl

theorem candidateStatus_reconcile {requestId : String} {log : LiveOrderLog} {raw : RawOrder}
    {candidateId : ℕ} {status : ExitCandidateStatus}
    (horder : submittedExitOrder w.db requestId = some log)
    (hcandidate : log.exitCandidateId = some candidateId)
    (h : w.candidateStatus candidateId = some status) :
    (exitStep w (.reconcile requestId (some raw), now)).candidateStatus candidateId
      = some (candidateStatusForOrder (normalizeExchangeOrder raw).status) := by
  show ((reconcileExitOrder w.db requestId (some raw) now).exitCandidates.get? candidateId).map
    ExitCandidate.status = _
  have htruthy := truthyId_of_status h
  obtain ⟨candidate, hrow, -⟩ := Option.map_eq_some_iff.mp h
  rw [recheckedExitOrder_eq horder]
  unfold recheckedExitOrder
  dsimp only
  rw [syncExitOrderPosition_exitCandidates]
  unfold markExitCandidate
  rw [hcandidate, htruthy]
  dsimp only
  generalize hdb : updateLiveOrderLog w.db log.requestId _ now = db
  have hkept : db.exitCandidates.get? candidateId = some candidate := by
    rw [← hdb, updateLiveOrderLog_exitCandidates]
    exact hrow
  exact candidateStatus_updateExitCandidate hkept _ _

theorem candidateStatus_cancel {requestId : String} {log : LiveOrderLog} {response : RawOrder}
    {candidateId : ℕ} {status : ExitCandidateStatus} (maxExitRetryCount : ℕ)
    (horder : submittedExitOrder w.db requestId = some log)
    (hcandidate : log.exitCandidateId = some candidateId)
    (h : w.candidateStatus candidateId = some status) :
    (exitStep w (.cancel requestId maxExitRetryCount (some response), now)).candidateStatus
        candidateId
      = some (w.canceledStatus log maxExitRetryCount response now) := by
  show ((cancelExitOrder w.db requestId maxExitRetryCount (some response)
    now).exitCandidates.get? candidateId).map ExitCandidate.status = _
  have htruthy := truthyId_of_status h
  obtain ⟨candidate, hrow, -⟩ := Option.map_eq_some_iff.mp h
  obtain ⟨hlog, -⟩ := Option.filter_eq_some_iff.mp horder
  have hrequest : log.requestId = requestId := getLiveOrderLog_requestId w.db requestId hlog
  unfold cancelExitOrder SellWorld.canceledStatus
  rw [horder, hcandidate, htruthy, hrequest]
  dsimp only
  generalize hdb : updateLiveOrderLog w.db requestId _ now = db
  have hkept : db.exitCandidates.get? candidateId = some candidate := by
    rw [← hdb, updateLiveOrderLog_exitCandidates]
    exact hrow
  have hreleased : ∀ db' : Database, (releaseExitSession (releaseExitPosition db' log now)
      log).exitCandidates = db'.exitCandidates := by
    intro db'
    unfold releaseExitSession releaseExitPosition
    split <;> split <;> rfl
  rw [hreleased]
  unfold retryExitCandidate
  rw [hcandidate, htruthy]
  dsimp only
  by_cases hretry : countExitRetries db candidateId < maxExitRetryCount
  · rw [if_pos hretry, if_pos (by simpa using hretry)]
    exact candidateStatus_updateExitCandidate hkept _ _
  · rw [if_neg hretry, if_neg (by simpa using hretry)]
    exact candidateStatus_updateExitCandidate hkept _ _

/-- A call in time leaves a candidate alone that is finished, or submitted: it changes the status
only as a reconciliation or a cancellation may. -/
theorem settled_of_timely {call : ExitCall} (ht : call.Timely w now) {candidateId : ℕ}
    {status : ExitCandidateStatus} (h : w.candidateStatus candidateId = some status)
    (hsent : status.isFinished = true ∨ status.isSubmitted = true) :
    (exitStep w (call, now)).candidateStatus candidateId = some status
      ∨ ∃ log next, log.exitCandidateId = some candidateId ∧ w.Settled log next
          ∧ (exitStep w (call, now)).candidateStatus candidateId = some next
          ∧ (log.status.isUnresolved = true → call.Settles w candidateId) := by
  by_cases hown : call.candidate w = some candidateId
  case neg => exact .inl (candidateStatus_other h hown)
  have hunsent : w.Unsent (some candidateId) → False := by
    intro hunsent
    obtain ⟨hfinished, hsubmitted⟩ := hunsent status h
    rcases hsent with hyes | hyes
    · rw [hfinished] at hyes
      cases hyes
    · rw [hsubmitted] at hyes
      cases hyes
  cases call with
  | create request => cases hown
  | approve id =>
    obtain rfl := Option.some.inj hown
    exact absurd ⟨status, h, hsent.imp_right .inl⟩ ht
  | reject id =>
    obtain rfl := Option.some.inj hown
    exact absurd ⟨status, h, hsent.imp_right .inl⟩ ht
  | preview id manualConfirmed isAutoExit requestHex replies =>
    obtain rfl := Option.some.inj hown
    exact (hunsent ht).elim
  | submit requestId finalConfirmation replies =>
    have ht : w.Unsent (w.candidateOf requestId) := ht
    rw [show w.candidateOf requestId = some candidateId from hown] at ht
    exact (hunsent ht).elim
  | reconcile requestId getOrder =>
    cases horder : submittedExitOrder w.db requestId with
    | none =>
      left
      show ((reconcileExitOrder w.db requestId getOrder now).exitCandidates.get?
        candidateId).map ExitCandidate.status = _
      unfold reconcileExitOrder
      rw [horder]
      exact h
    | some log =>
      cases getOrder with
      | none =>
        left
        show ((reconcileExitOrder w.db requestId none now).exitCandidates.get?
          candidateId).map ExitCandidate.status = _
        unfold reconcileExitOrder
        rw [horder]
        exact h
      | some raw =>
        obtain ⟨hlog, -⟩ := Option.filter_eq_some_iff.mp horder
        have hcandidate : log.exitCandidateId = some candidateId := by
          have hown : w.candidateOf requestId = some candidateId := hown
          unfold SellWorld.candidateOf at hown
          rw [hlog] at hown
          exact hown
        exact .inr ⟨log, _, hcandidate, ht log horder raw rfl,
          candidateStatus_reconcile horder hcandidate h,
          fun hopen => ⟨log, hlog, hcandidate, hopen⟩⟩
  | cancel requestId maxExitRetryCount cancelOrder =>
    cases horder : submittedExitOrder w.db requestId with
    | none =>
      left
      show ((cancelExitOrder w.db requestId maxExitRetryCount cancelOrder
        now).exitCandidates.get? candidateId).map ExitCandidate.status = _
      unfold cancelExitOrder
      rw [horder]
      exact h
    | some log =>
      cases cancelOrder with
      | none =>
        left
        show ((cancelExitOrder w.db requestId maxExitRetryCount none
          now).exitCandidates.get? candidateId).map ExitCandidate.status = _
        unfold cancelExitOrder
        rw [horder]
        exact h
      | some response =>
        obtain ⟨hlog, -⟩ := Option.filter_eq_some_iff.mp horder
        have hcandidate : log.exitCandidateId = some candidateId := by
          have hown : w.candidateOf requestId = some candidateId := hown
          unfold SellWorld.candidateOf at hown
          rw [hlog] at hown
          exact hown
        exact .inr ⟨log, _, hcandidate, ht log horder response rfl,
          candidateStatus_cancel maxExitRetryCount horder hcandidate h,
          fun hopen => ⟨log, hlog, hcandidate, hopen⟩⟩

theorem forward_of_timely {call : ExitCall} (ht : call.Timely w now) : Forward w (call, now) := by
  constructor
  · intro candidateId status h hfinished
    rcases settled_of_timely ht h (.inl hfinished) with hkept | hchanged
    · rw [hkept]
      rfl
    · obtain ⟨log, next, hcandidate, hsettled, hnext, -⟩ := hchanged
      have hmem : status ∈ log.exitCandidateId.bind w.candidateStatus := by
        rw [hcandidate]
        exact h
      rw [hnext, Option.map_some, (hsettled status hmem).1 hfinished]
  · intro candidateId status h hsubmitted
    rcases settled_of_timely ht h (.inr hsubmitted) with hkept | hchanged
    · left
      rw [hkept]
      exact hsubmitted
    · obtain ⟨log, next, hcandidate, hsettled, hnext, hopen⟩ := hchanged
      have hmem : status ∈ log.exitCandidateId.bind w.candidateStatus := by
        rw [hcandidate]
        exact h
      rcases (hsettled status hmem).2 hsubmitted with hstill | hunresolved
      · left
        rw [hnext]
        exact hstill
      · exact .inr (hopen hunresolved)
  · rintro candidateId (rfl | rfl) hsent
    · exact absurd hsent ht
    · exact absurd hsent ht

end Call

/-! ## Runs -/

instance (w : SellWorld) (candidateId : Option ℕ) : Decidable (w.Unsent candidateId) :=
  inferInstanceAs (Decidable (∀ status ∈ candidateId.bind w.candidateStatus,
    status.isFinished = false ∧ status.isSubmitted = false))

instance (w : SellWorld) (log : LiveOrderLog) (next : ExitCandidateStatus) :
    Decidable (w.Settled log next) :=
  inferInstanceAs (Decidable (∀ status ∈ log.exitCandidateId.bind w.candidateStatus,
    (status.isFinished = true → next.text = status.text)
      ∧ (status.isSubmitted = true → next.isSubmitted = true ∨ log.status.isUnresolved = true)))

instance (w : SellWorld) (now : UtcTime) : (call : ExitCall) → Decidable (call.Timely w now)
  | .create _ => isTrue trivial
  | .approve candidateId | .reject candidateId => inferInstanceAs (Decidable (¬ w.ExitSent candidateId))
  | .preview candidateId _ _ _ _ => inferInstanceAs (Decidable (w.Unsent (some candidateId)))
  | .submit requestId _ _ => inferInstanceAs (Decidable (w.Unsent (w.candidateOf requestId)))
  | .reconcile requestId getOrder =>
    inferInstanceAs (Decidable (∀ log ∈ submittedExitOrder w.db requestId, ∀ raw ∈ getOrder,
      w.Settled log (candidateStatusForOrder (normalizeExchangeOrder raw).status)))
  | .cancel requestId maxExitRetryCount cancelOrder =>
    inferInstanceAs (Decidable (∀ log ∈ submittedExitOrder w.db requestId,
      ∀ response ∈ cancelOrder, w.Settled log (w.canceledStatus log maxExitRetryCount response now)))

/-- A position whose exit has been submitted. -/
def submittedExitWorld : SellWorld where
  db :=
    { livePositions := Table.empty.insert
        (fun id => { id := id, sessionId := 1, market := "KRW-BTC", status := .closing
                     entryVolume := 2 }) Eq.refl
      exitCandidates := Table.empty.insert
        (fun id => { id := id, positionId := 1, status := .submitted }) Eq.refl
      liveOrderLogs := Table.empty.insert
        (fun id =>
          { id := id, requestId := "exit-1", exchange := "bithumb", market := "KRW-BTC"
            side := .sell, orderPurpose := .exit, price := some 90, volume := some 2
            status := .waiting, orderUuid := some "exit-uuid", positionId := some 1
            exitCandidateId := some 1 }) Eq.refl
      requestId_unique := by decide }

def soldOut : ExitCall :=
  .reconcile "exit-1" (some
    { uuid := some "exit-uuid", state := some "done", volume := some 2, executedVolume := some 2
      remainingVolume := some 0, executedFunds := some 180, price := some 90 })

/-- Another position gets a candidate, which is approved and rejected, while the first is sold. -/
def exitCallsInTime : List (ExitCall × UtcTime) :=
  [ (.create { position := { id := 7, market := "KRW-ETH" }, reason := "STOP_LOSS"
               currentPrice := 5 }, 1),
    (.approve 2, 2), (soldOut, 3), (.reject 2, 4) ]

end AutoCoinBot
