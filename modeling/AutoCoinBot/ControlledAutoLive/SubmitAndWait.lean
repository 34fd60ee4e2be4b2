/-
  ControlledAutoLive.SubmitAndWait — `_submit_and_wait_controlled`,
  `_submit_and_wait_limited` and `_submit_and_wait`, which send one order and wait for it.

  The three differ in their texts, and in that the first looks for its client order id and is told
  of a second one. A row that they write has no position, so that the syncs behind a status leave
  it as the status has made it. What the exchange says is given, and so is what it has executed of
  the order in the end.
-/
import AutoCoinBot.Database.InsertOrderLog
import AutoCoinBot.LiveRecovery.OrderCalls

namespace AutoCoinBot

/-! ## The row -/

/-- The columns of the order's row that the runners write. -/
structure OrderRow where
  status : OrderStatus := .previewed
  riskResult : String
  exchangeResponsePayload : RawOrder := {}
  errorMessage : Option String := none
  orderUuid : Option String := none
  executedVolume : ℚ := 0
  remainingVolume : ℚ := 0
  filledAmountKrw : ℚ := 0
  paidFee : ℚ := 0

def LiveOrderLog.orderRow (log : LiveOrderLog) : OrderRow where
  status := log.status
  riskResult := log.riskResult
  exchangeResponsePayload := log.exchangeResponsePayload
  errorMessage := log.errorMessage
  orderUuid := log.orderUuid
  executedVolume := log.executedVolume
  remainingVolume := log.remainingVolume
  filledAmountKrw := log.filledAmountKrw
  paidFee := log.paidFee

namespace OrderRow

/-- `merged = {**current, **updates}`. -/
def merge (row : OrderRow) (u : LiveOrderLogUpdates) : OrderRow where
  status := u.status.getD row.status
  riskResult := u.riskResult.getD row.riskResult
  exchangeResponsePayload := u.exchangeResponsePayload.getD row.exchangeResponsePayload
  errorMessage := u.errorMessage.getD row.errorMessage
  orderUuid := u.orderUuid.getD row.orderUuid
  executedVolume := u.executedVolume.getD row.executedVolume
  remainingVolume := u.remainingVolume.getD row.remainingVolume
  filledAmountKrw := u.filledAmountKrw.getD row.filledAmountKrw
  paidFee := u.paidFee.getD row.paidFee

end OrderRow

/-- The other request that has a uuid; an empty one is nobody's. -/
def takenBy (owner : String → Option String) (uuid : String) : Option String :=
  if uuid = "" then none else owner uuid

namespace OrderRow

/-- `update_live_order_log`, where `owner` says which other request has a uuid. -/
def update (owner : String → Option String) (row : OrderRow) (u : LiveOrderLogUpdates) : OrderRow :=
  let merged := row.merge u
  match takenBy owner (toText merged.orderUuid) with
  | some other =>
    { merged with
      status := .failed
      riskResult := "DUPLICATE_EXCHANGE_ORDER_UUID"
      errorMessage :=
        some ("Duplicate exchange order uuid already recorded by request_id=" ++ other)
      orderUuid := row.orderUuid }
  | none => merged

/-- The updates of `apply_reconciled_order_status`. -/
def reconciledUpdates (row : OrderRow) (status : ReconciledOrderStatus) : LiveOrderLogUpdates where
  status := some status.status
  riskResult := some (riskResultForStatus status.status (orText row.riskResult "ALLOWED"))
  exchangeResponsePayload := some status.raw
  orderUuid := some
    (if status.raw.orderUuid = "" then row.orderUuid else some status.raw.orderUuid)
  executedVolume := some status.executedVolume
  remainingVolume := some status.remainingVolume
  filledAmountKrw := some status.filledAmountKrw
  paidFee := some status.paidFee
  errorMessage := some
    (if [OrderStatus.waiting, .filled, .canceled, .partiallyFilled].contains status.status
      then none else row.errorMessage)

end OrderRow

/-- The other request that has a uuid in the database. -/
def uuidOwner (db : Database) (requestId uuid : String) : Option String :=
  if isLiveOrderStatusEventRequest requestId then none
  else (findCanonicalLiveOrderByUuid db uuid requestId).map LiveOrderLog.requestId

/-! ## The exchange -/

/-- What a call to the exchange brings: an order, or an exception. -/
abbrev ExchangeReply := Except ApiError RawOrder

/-- What a runner meets. -/
structure Encounter where
  -- `_client_order_id_exists`
  clientOrderIdExists : Bool := false
  insertLiveOrderLog : Except InsertError Unit := .ok ()
  placeOrder : ExchangeReply
  -- `get_order`, as often as the time allows
  getOrder : List ExchangeReply := []
  cancelOrder : ExchangeReply
  -- what the exchange has executed in the end, also of an order that it has taken without an answer
  finallyExecuted : ℚ := 0

/-! ## The runners -/

/-- The three of them. -/
inductive Runner where
  | controlled (orderPurpose preparedRiskResult submittedRiskResult : String)
  | limited
  | smoke

namespace Runner

def orderPurpose : Runner → String
  | .controlled orderPurpose _ _ => orderPurpose
  | .limited => "LIMITED_AUTO_LIVE"
  | .smoke => "SMOKE_TEST"

def preparedRiskResult : Runner → String
  | .controlled _ preparedRiskResult _ => preparedRiskResult
  | .limited => "LIMITED_AUTO_LIVE_PREPARED"
  | .smoke => "SMOKE_TEST_PREPARED"

def submittedRiskResult : Runner → String
  | .controlled _ _ submittedRiskResult => submittedRiskResult
  | .limited => "LIMITED_AUTO_LIVE_SUBMITTED"
  | .smoke => "SMOKE_TEST_SUBMITTED"

/-- It answers a client order id that is taken, where the others raise. -/
def seesDuplicates : Runner → Bool
  | .controlled _ _ _ => true
  | .limited | .smoke => false

def previewedRow (runner : Runner) : OrderRow where
  riskResult := runner.preparedRiskResult

end Runner

/-- What a runner raises. -/
inductive RunnerError where
  | insert (exc : InsertError)
  | exchange (exc : ApiError)

/-- What it returns. -/
structure OrderResult where
  requested : Bool := true
  filled : Bool := false
  blocked : Bool := false
  orderUuid : String := ""
  executedVolume : Option ℚ := none
  filledAmountKrw : Option ℚ := none
  paidFee : Option ℚ := none
  orderLog : Option OrderRow := none
  stopReason : Option String := none

def duplicateClientOrderResult : OrderResult where
  requested := false
  blocked := true
  stopReason := some "DUPLICATE_CLIENT_ORDER_ID_BLOCKED"

def OrderResult.withFigures (result : OrderResult) (filled : Bool) (status : ReconciledOrderStatus)
    (row : OrderRow) : OrderResult :=
  { result with
    filled := filled
    executedVolume := some status.executedVolume
    filledAmountKrw := some status.filledAmountKrw
    paidFee := some status.paidFee
    orderLog := some row }

/-- `reconcile_order_log` of the row. -/
def OrderRow.reconcile (owner : String → Option String) (row : OrderRow) (reply : ExchangeReply) :
    OrderRow × Except ApiError (Option ReconciledOrderStatus) :=
  if toText row.orderUuid = "" then (row, .ok none)
  else
    match reply with
    | .error exc =>
      if isOrderNotFoundError exc then
        (row.update owner staleCanceledUpdates,
          .ok (some ⟨.staleCanceled, row.executedVolume, row.remainingVolume, row.filledAmountKrw,
            row.paidFee, {}⟩))
      else (row, .error exc)
    | .ok raw =>
      let status := normalizeExchangeOrder raw
      (row.update owner (row.reconciledUpdates status), .ok (some status))

/-- How the polls end. -/
inductive PollEnd where
  | deadline
  | filled (status : ReconciledOrderStatus)
  | canceled
  | raises (exc : ApiError)

def pollLoop (owner : String → Option String) : OrderRow → List ExchangeReply → OrderRow × PollEnd
  | row, [] => (row, .deadline)
  | row, reply :: replies =>
    match row.reconcile owner reply with
    | (row, .error exc) => (row, .raises exc)
    | (row, .ok none) => pollLoop owner row replies
    | (row, .ok (some status)) =>
      if status.status = .filled then (row, .filled status)
      else if status.status = .canceled then (row, .canceled)
      else pollLoop owner row replies

/-- `broker.cancel_order`, and what is noted of it. -/
def OrderRow.cancel (runner : Runner) (owner : String → Option String) (row : OrderRow) :
    ExchangeReply → OrderRow
  | .ok cancelResponse =>
    row.update owner
      { status := some .canceled
        riskResult := some (runner.orderPurpose ++ "_TIMEOUT_CANCELED")
        exchangeResponsePayload := some cancelResponse }
  | .error exc =>
    row.update owner
      { riskResult := some (runner.orderPurpose ++ "_TIMEOUT_CANCEL_FAILED")
        errorMessage := some (some (String.ofList (exc.message.toList.take 240))) }

/-- The result after the wait, from the payload that the row then has. -/
def OrderResult.afterWait (result : OrderResult) (row : OrderRow) : OrderResult :=
  let status := normalizeExchangeOrder row.exchangeResponsePayload
  if status.executedVolume > 0 then
    result.withFigures (status.status == .filled) status row
  else result

def waitForOrder (runner : Runner) (owner : String → Option String) (row : OrderRow)
    (orderUuid : String) (e : Encounter) : OrderRow × Except RunnerError OrderResult :=
  let result : OrderResult := { orderUuid := orderUuid }
  match if orderUuid = "" then (row, PollEnd.deadline) else pollLoop owner row e.getOrder with
  | (row, .raises exc) => (row, .error (.exchange exc))
  | (row, .filled status) => (row, .ok (result.withFigures true status row))
  | (row, .canceled) | (row, .deadline) =>
    let row := if orderUuid = "" then row else row.cancel runner owner e.cancelOrder
    (row, .ok (result.afterWait row))

/-- The update of a row whose order has been sent. -/
def orderSentUpdates (runner : Runner) (response : RawOrder) : LiveOrderLogUpdates where
  status := some .submitted
  riskResult := some runner.submittedRiskResult
  exchangeResponsePayload := some response
  orderUuid := some (some response.orderUuid)
  errorMessage := some none

/-- A runner: the row that it leaves, if it has written one, and what it returns or raises. -/
def submitAndWait (runner : Runner) (owner : String → Option String) (e : Encounter) :
    Option OrderRow × Except RunnerError OrderResult :=
  if runner.seesDuplicates && e.clientOrderIdExists then (none, .ok duplicateClientOrderResult)
  else
    match e.insertLiveOrderLog with
    | .error exc =>
      if runner.seesDuplicates && exc == .duplicateClientOrderId then
        (none, .ok duplicateClientOrderResult)
      else (none, .error (.insert exc))
    | .ok () =>
      let row := runner.previewedRow
      match e.placeOrder with
      | .error exc => (some row, .error (.exchange exc))
      | .ok response =>
        let row := row.update owner (orderSentUpdates runner response)
        let (row, result) := waitForOrder runner owner row response.orderUuid e
        (some row, result)

def submitAndWaitControlled
    (orderPurpose preparedRiskResult submittedRiskResult : String) :
    (String → Option String) → Encounter → Option OrderRow × Except RunnerError OrderResult :=
  submitAndWait (.controlled orderPurpose preparedRiskResult submittedRiskResult)

def submitAndWaitLimited :
    (String → Option String) → Encounter → Option OrderRow × Except RunnerError OrderResult :=
  submitAndWait .limited

/-- `_submit_and_wait` of the smoke test. -/
def submitAndWaitSmoke :
    (String → Option String) → Encounter → Option OrderRow × Except RunnerError OrderResult :=
  submitAndWait .smoke

/-! ## What the polls tell -/

/-- The polls up to the one that ends them: an order that reads as filled or canceled, or an
exception other than that the order is not found. -/
def endsPolls : ExchangeReply → Bool
  | .ok raw =>
    (normalizeExchangeOrder raw).status == .filled
      || (normalizeExchangeOrder raw).status == .canceled
  | .error exc => !isOrderNotFoundError exc

def heard : List ExchangeReply → List ExchangeReply
  | [] => []
  | reply :: replies => if endsPolls reply then [reply] else reply :: heard replies

/-- What is known of an order: its status, how much of it is executed, and the last answer. -/
structure Told where
  status : OrderStatus
  executed : ℚ
  payload : RawOrder

/-- What a reply tells; an order that is not found keeps its figures. -/
def Told.hears (owner : String → Option String) (told : Told) : ExchangeReply → Told
  | .ok raw =>
    { status := if (takenBy owner raw.orderUuid).isSome then .failed else (normalizeExchangeOrder raw).status
      executed := toFloat raw.executedVolume
      payload := raw }
  | .error exc => if isOrderNotFoundError exc then { told with status := .staleCanceled } else told

/-- What is known once the polls are made; of an order with the uuid of another, nothing is asked. -/
def Encounter.told (owner : String → Option String) (e : Encounter) (response : RawOrder) : Told :=
  if (takenBy owner response.orderUuid).isSome then ⟨.failed, 0, response⟩
  else (heard e.getOrder).foldl (Told.hears owner) ⟨.submitted, 0, response⟩

def Encounter.endingReply (owner : String → Option String) (e : Encounter) (response : RawOrder) :
    Option ExchangeReply :=
  if (takenBy owner response.orderUuid).isSome then none else e.getOrder.find? endsPolls

/-! ## The property -/

/-- **No fill is lost**: the row is still reconciled, or it and the result have what the exchange
has executed in the end. -/
def LosesNoFill (finallyExecuted : ℚ) :
    Option OrderRow × Except RunnerError OrderResult → Prop
  | (none, _) => True
  | (some row, result) =>
    row.status.isUnresolved = true
      ∨ (row.executedVolume = finallyExecuted
          ∧ toFloat (result.toOption.bind OrderResult.executedVolume) = finallyExecuted)

instance (finallyExecuted : ℚ) : DecidablePred (LosesNoFill finallyExecuted)
  | (none, _) => isTrue trivial
  | (some row, result) =>
    inferInstanceAs (Decidable (row.status.isUnresolved = true
      ∨ (row.executedVolume = finallyExecuted
          ∧ toFloat (result.toOption.bind OrderResult.executedVolume) = finallyExecuted)))

def Encounter.sendsNothing (runner : Runner) (e : Encounter) : Bool :=
  (runner.seesDuplicates && e.clientOrderIdExists) || e.insertLiveOrderLog.toOption.isNone

/-- A cancel succeeds only after a poll that has told the final volume, and tells it again; where it
fails, the last that was told still waits, or nothing is missing. -/
def Encounter.CancelTells (e : Encounter) (told : Told) : Prop :=
  match e.cancelOrder with
  | .ok cancelResponse =>
    told.executed = e.finallyExecuted
      ∧ max (toFloat cancelResponse.executedVolume) 0 = e.finallyExecuted
  | .error _ =>
    told.status.isUnresolved = true
      ∨ (told.executed = e.finallyExecuted
          ∧ max (toFloat told.payload.executedVolume) 0 = e.finallyExecuted)

/-- An order that reads as filled is told with its final volume; where the polls fail, the last
that was told still waits, or nothing is executed. -/
def Encounter.WaitTells (e : Encounter) (told : Told) : Option ExchangeReply → Prop
  | none => e.CancelTells told
  | some (.error _) =>
    told.status.isUnresolved = true
      ∨ (told.executed = e.finallyExecuted ∧ e.finallyExecuted = 0)
  | some (.ok raw) =>
    if (normalizeExchangeOrder raw).status = .filled then
      toFloat raw.executedVolume = e.finallyExecuted
    else e.CancelTells told

/-- **What the exchange has to answer**, so that no fill is lost: an order that raises is not
executed, and the wait for another tells what is. -/
def Encounter.TellsFills (owner : String → Option String) (e : Encounter) : Prop :=
  match e.placeOrder with
  | .error _ => e.finallyExecuted = 0
  | .ok response =>
    response.orderUuid = ""
      ∨ e.WaitTells (e.told owner response) (e.endingReply owner response)

/-! ## The row after the polls -/

section Updates

variable {owner : String → Option String} {row : OrderRow}

@[simp] theorem takenBy_empty : takenBy owner "" = none := if_pos rfl

theorem OrderRow.update_of_free {u : LiveOrderLogUpdates}
    (h : takenBy owner (toText (u.orderUuid.getD row.orderUuid)) = none) :
    row.update owner u = row.merge u := by
  have hmerged : takenBy owner (toText (row.merge u).orderUuid) = none := h
  unfold OrderRow.update
  dsimp only
  rw [hmerged]

theorem OrderRow.update_own {u : LiveOrderLogUpdates} (hu : u.orderUuid = none)
    (hown : takenBy owner (toText row.orderUuid) = none) :
    row.update owner u = row.merge u := by
  refine OrderRow.update_of_free ?_
  rw [hu]
  exact hown

/-- The row shows what was told, and has its uuid alone. -/
structure Tells (owner : String → Option String) (told : Told) (row : OrderRow) : Prop where
  status : row.status = told.status
  executed : row.executedVolume = told.executed
  payload : row.exchangeResponsePayload = told.payload
  own : takenBy owner (toText row.orderUuid) = none

variable {told : Told}

/-- **A reply** makes the row show what it tells. -/
theorem Tells.reconcile (h : Tells owner told row) (huuid : toText row.orderUuid ≠ "")
    (reply : ExchangeReply) :
    Tells owner (told.hears owner reply) (row.reconcile owner reply).1
      ∧ toText (row.reconcile owner reply).1.orderUuid ≠ "" := by
  unfold OrderRow.reconcile
  rw [if_neg huuid]
  cases reply with
  | error exc =>
    unfold Told.hears
    dsimp only
    split_ifs with hnotFound
    · rw [OrderRow.update_own rfl h.own]
      exact ⟨⟨rfl, h.executed, h.payload, h.own⟩, huuid⟩
    · exact ⟨h, huuid⟩
  | ok raw =>
    unfold Told.hears
    dsimp only
    by_cases hempty : raw.orderUuid = ""
    · -- the answer names no uuid: the row keeps its own
      have hkept : (row.merge (row.reconciledUpdates (normalizeExchangeOrder raw))).orderUuid
          = row.orderUuid := if_pos hempty
      have hfree : takenBy owner (toText ((row.reconciledUpdates
          (normalizeExchangeOrder raw)).orderUuid.getD row.orderUuid)) = none := by
        show takenBy owner (toText (if raw.orderUuid = "" then row.orderUuid else _)) = none
        rw [if_pos hempty]
        exact h.own
      rw [OrderRow.update_of_free hfree, hempty, takenBy_empty]
      exact ⟨⟨rfl, rfl, rfl, by rw [hkept]; exact h.own⟩, by rw [hkept]; exact huuid⟩
    · have hnamed : (row.merge (row.reconciledUpdates (normalizeExchangeOrder raw))).orderUuid
          = some raw.orderUuid := if_neg hempty
      cases hother : takenBy owner raw.orderUuid with
      | none =>
        have hfree : takenBy owner (toText ((row.reconciledUpdates
            (normalizeExchangeOrder raw)).orderUuid.getD row.orderUuid)) = none := by
          show takenBy owner (toText (if raw.orderUuid = "" then row.orderUuid else _)) = none
          rw [if_neg hempty]
          exact hother
        rw [OrderRow.update_of_free hfree]
        exact ⟨⟨rfl, rfl, rfl, by rw [hnamed]; exact hother⟩, by rw [hnamed]; exact hempty⟩
      | some other =>
        unfold OrderRow.update
        dsimp only
        rw [hnamed, toText_some, hother]
        exact ⟨⟨rfl, rfl, rfl, h.own⟩, huuid⟩

theorem OrderRow.reconcile_snd (huuid : toText row.orderUuid ≠ "") (reply : ExchangeReply) :
    (row.reconcile owner reply).2
      = match reply with
        | .ok raw => .ok (some (normalizeExchangeOrder raw))
        | .error exc =>
          if isOrderNotFoundError exc then
            .ok (some ⟨.staleCanceled, row.executedVolume, row.remainingVolume,
              row.filledAmountKrw, row.paidFee, {}⟩)
          else .error exc := by
  unfold OrderRow.reconcile
  rw [if_neg huuid]
  cases reply with
  | ok raw => rfl
  | error exc =>
    dsimp only
    split <;> rfl

/-- How the polls end, by the poll that ends them. -/
def pollEnd : Option ExchangeReply → PollEnd
  | none => .deadline
  | some (.error exc) => .raises exc
  | some (.ok raw) =>
    if (normalizeExchangeOrder raw).status = .filled then .filled (normalizeExchangeOrder raw)
    else .canceled

theorem pollLoop_tells (h : Tells owner told row) (huuid : toText row.orderUuid ≠ "")
    (replies : List ExchangeReply) :
    Tells owner ((heard replies).foldl (Told.hears owner) told) (pollLoop owner row replies).1
      ∧ (pollLoop owner row replies).2 = pollEnd (replies.find? endsPolls) := by
  induction replies generalizing told row with
  | nil => exact ⟨h, rfl⟩
  | cons reply replies ih =>
    obtain ⟨htells, huuid'⟩ := h.reconcile huuid reply
    have hsnd := @OrderRow.reconcile_snd owner row huuid reply
    generalize hrow : row.reconcile owner reply = after at htells huuid' hsnd
    obtain ⟨row', returned⟩ := after
    dsimp only at htells huuid' hsnd
    unfold pollLoop heard
    rw [hrow, List.find?_cons]
    cases reply with
    | ok raw =>
      obtain rfl : returned = .ok (some (normalizeExchangeOrder raw)) := hsnd
      dsimp only
      by_cases hfilled : (normalizeExchangeOrder raw).status = .filled
      · have hends : endsPolls (.ok raw) = true := by simp [endsPolls, hfilled]
        rw [if_pos hfilled, hends]
        exact ⟨htells, (if_pos hfilled).symm⟩
      · rw [if_neg hfilled]
        by_cases hcanceled : (normalizeExchangeOrder raw).status = .canceled
        · have hends : endsPolls (.ok raw) = true := by simp [endsPolls, hcanceled]
          rw [if_pos hcanceled, hends]
          exact ⟨htells, (if_neg hfilled).symm⟩
        · have hends : endsPolls (.ok raw) = false := by simp [endsPolls, hfilled, hcanceled]
          rw [if_neg hcanceled, hends]
          exact ih htells huuid'
    | error exc =>
      dsimp only at hsnd
      cases hnotFound : isOrderNotFoundError exc with
      | true =>
        -- the loop goes on with an order that is not found
        have hends : endsPolls (.error exc) = false := by simp [endsPolls, hnotFound]
        rw [hnotFound, if_pos rfl] at hsnd
        subst hsnd
        rw [hends]
        exact ih htells huuid'
      | false =>
        have hends : endsPolls (.error exc) = true := by simp [endsPolls, hnotFound]
        rw [hnotFound, if_neg Bool.false_ne_true] at hsnd
        subst hsnd
        rw [hends]
        exact ⟨htells, rfl⟩

theorem pollLoop_of_empty (huuid : toText row.orderUuid = "") (replies : List ExchangeReply) :
    pollLoop owner row replies = (row, .deadline) := by
  induction replies with
  | nil => rfl
  | cons reply replies ih =>
    unfold pollLoop OrderRow.reconcile
    rw [if_pos huuid]
    exact ih

end Updates

/-! ## The end -/

theorem heard_of_find {replies : List ExchangeReply} {reply : ExchangeReply}
    (h : replies.find? endsPolls = some reply) : ∃ earlier, heard replies = earlier ++ [reply] := by
  induction replies with
  | nil => cases h
  | cons first replies ih =>
    unfold heard
    rw [List.find?_cons] at h
    cases hends : endsPolls first with
    | true =>
      rw [hends] at h
      obtain rfl := Option.some.inj h
      exact ⟨[], rfl⟩
    | false =>
      rw [hends] at h
      obtain ⟨earlier, hearlier⟩ := ih h
      exact ⟨first :: earlier, by rw [if_neg Bool.false_ne_true, hearlier]; rfl⟩

theorem executedVolume_afterWait {result : OrderResult} (h : result.executedVolume = none)
    (row : OrderRow) :
    toFloat (result.afterWait row).executedVolume
      = max (toFloat row.exchangeResponsePayload.executedVolume) 0 := by
  unfold OrderResult.afterWait
  dsimp only
  rw [normalizeExchangeOrder_executedVolume]
  split_ifs with hpos
  · exact (max_eq_left hpos.le).symm
  · rw [h]
    exact (max_eq_right (not_lt.mp hpos)).symm

variable {owner : String → Option String}

theorem losesNoFill_cancel_iff (runner : Runner) {row : OrderRow} {told : Told}
    (h : Tells owner told row) (e : Encounter) {result : OrderResult}
    (hresult : result.executedVolume = none) :
    LosesNoFill e.finallyExecuted
        (some (row.cancel runner owner e.cancelOrder),
          .ok (result.afterWait (row.cancel runner owner e.cancelOrder)))
      ↔ e.CancelTells told := by
  unfold LosesNoFill Encounter.CancelTells OrderRow.cancel
  show _ ∨ (_ ∧ toFloat (OrderResult.executedVolume _) = _) ↔ _
  rw [executedVolume_afterWait hresult]
  cases e.cancelOrder with
  | ok cancelResponse =>
    dsimp only
    rw [OrderRow.update_own rfl h.own, ← h.executed]
    exact ⟨fun hor => hor.resolve_left (fun hcanceled => Bool.noConfusion hcanceled), .inr⟩
  | error exc =>
    dsimp only
    rw [OrderRow.update_own rfl h.own, ← h.executed, ← h.payload, ← h.status]
    exact Iff.rfl

theorem losesNoFill_wait_iff (runner : Runner) {row : OrderRow} {uuid : String} {told : Told}
    (huuid : uuid ≠ "") (hrow : toText row.orderUuid ≠ "") (htells : Tells owner told row)
    (e : Encounter) :
    LosesNoFill e.finallyExecuted
        (some (waitForOrder runner owner row uuid e).1, (waitForOrder runner owner row uuid e).2)
      ↔ e.WaitTells ((heard e.getOrder).foldl (Told.hears owner) told)
          (e.getOrder.find? endsPolls) := by
  obtain ⟨hafter, hend⟩ := pollLoop_tells htells hrow e.getOrder
  have hloop : pollLoop owner row e.getOrder
      = ((pollLoop owner row e.getOrder).1, pollEnd (e.getOrder.find? endsPolls)) := by
    rw [← hend]
  generalize (pollLoop owner row e.getOrder).1 = after at hafter hloop
  unfold waitForOrder
  rw [if_neg huuid, hloop]
  cases hfind : e.getOrder.find? endsPolls with
  | none =>
    show LosesNoFill _ (some (if uuid = "" then after else _), .ok _) ↔ _
    rw [if_neg huuid]
    exact losesNoFill_cancel_iff runner hafter e rfl
  | some reply =>
    cases reply with
    | error exc =>
      show (after.status.isUnresolved = true ∨ (after.executedVolume = _ ∧ (0 : ℚ) = _)) ↔ _
      rw [hafter.status, hafter.executed, eq_comm (a := (0 : ℚ))]
      exact Iff.rfl
    | ok raw =>
      unfold Encounter.WaitTells
      by_cases hfilled : (normalizeExchangeOrder raw).status = .filled
      · simp only [pollEnd, if_pos hfilled]
        -- the answer that reads as filled is the last
        obtain ⟨earlier, hearlier⟩ := heard_of_find hfind
        have hlast : (heard e.getOrder).foldl (Told.hears owner) told
            = (earlier.foldl (Told.hears owner) told).hears owner (.ok raw) := by
          rw [hearlier, List.foldl_append]
          rfl
        have hexecuted : after.executedVolume = toFloat raw.executedVolume := by
          rw [hafter.executed, hlast]
          rfl
        have hresolved : after.status.isUnresolved = false := by
          rw [hafter.status, hlast]
          show (if _ then OrderStatus.failed else _).isUnresolved = false
          rw [hfilled]
          split <;> rfl
        show (after.status.isUnresolved = true
          ∨ (after.executedVolume = _ ∧ toFloat raw.executedVolume = _)) ↔ _
        rw [hresolved, hexecuted]
        simp
      · simp only [pollEnd, if_neg hfilled]
        show LosesNoFill _ (some (if uuid = "" then after else _), .ok _) ↔ _
        rw [if_neg huuid]
        exact losesNoFill_cancel_iff runner hafter e rfl

theorem losesNoFill_taken_iff (runner : Runner) {row : OrderRow} {uuid : String} {told : Told}
    (huuid : uuid ≠ "") (hrow : toText row.orderUuid = "") (htells : Tells owner told row)
    (e : Encounter) :
    LosesNoFill e.finallyExecuted
        (some (waitForOrder runner owner row uuid e).1, (waitForOrder runner owner row uuid e).2)
      ↔ e.CancelTells told := by
  unfold waitForOrder
  rw [if_neg huuid, pollLoop_of_empty hrow]
  show LosesNoFill _ (some (if uuid = "" then row else _), .ok _) ↔ _
  rw [if_neg huuid]
  exact losesNoFill_cancel_iff runner htells e rfl

theorem row_submitted_of_free (runner : Runner) {response : RawOrder}
    (h : takenBy owner response.orderUuid = none) (row : OrderRow) (hrow : row.executedVolume = 0) :
    Tells owner ⟨.submitted, 0, response⟩ (row.update owner (orderSentUpdates runner response))
      ∧ toText (row.update owner (orderSentUpdates runner response)).orderUuid
          = response.orderUuid := by
  rw [OrderRow.update_of_free h]
  exact ⟨⟨rfl, hrow, rfl, h⟩, rfl⟩

theorem row_submitted_of_taken (runner : Runner) {response : RawOrder} {other : String}
    (h : takenBy owner response.orderUuid = some other) (row : OrderRow)
    (hrow : row.executedVolume = 0) (huuid : row.orderUuid = none) :
    Tells owner ⟨.failed, 0, response⟩ (row.update owner (orderSentUpdates runner response))
      ∧ toText (row.update owner (orderSentUpdates runner response)).orderUuid = "" := by
  have hmerged : takenBy owner (toText (row.merge (orderSentUpdates runner response)).orderUuid)
      = some other := h
  unfold OrderRow.update
  dsimp only
  rw [hmerged]
  dsimp only
  rw [huuid]
  exact ⟨⟨rfl, hrow, rfl, takenBy_empty⟩, rfl⟩

/-- **A runner loses no fill** exactly if it sends no order, or the exchange tells what it has
executed of it. -/
theorem losesNoFill_iff (runner : Runner) (owner : String → Option String) (e : Encounter) :
    LosesNoFill e.finallyExecuted (submitAndWait runner owner e)
      ↔ e.sendsNothing runner = true ∨ e.TellsFills owner := by
  unfold submitAndWait Encounter.sendsNothing
  cases hexists : runner.seesDuplicates && e.clientOrderIdExists with
  | true => exact iff_of_true trivial (.inl rfl)
  | false =>
    rw [if_neg Bool.false_ne_true, Bool.false_or]
    cases hinsert : e.insertLiveOrderLog with
    | error exc =>
      refine iff_of_true ?_ (.inl rfl)
      dsimp only
      split <;> exact trivial
    | ok _ =>
      have hsends : (Except.ok () : Except InsertError Unit).toOption.isNone = false := rfl
      dsimp only
      rw [hsends]
      unfold Encounter.TellsFills
      cases hplace : e.placeOrder with
      | error exc =>
        show (false = true ∨ ((0 : ℚ) = _ ∧ (0 : ℚ) = _)) ↔ _
        simp [eq_comm]
      | ok response =>
        dsimp only
        by_cases huuid : response.orderUuid = ""
        · -- the order has no uuid: its row stays `SUBMITTED`
          refine iff_of_true ?_ (.inr (.inl huuid))
          have hfree : takenBy owner response.orderUuid = none := by
            rw [huuid]
            exact takenBy_empty
          left
          unfold waitForOrder
          rw [if_pos huuid]
          dsimp only
          rw [if_pos huuid, OrderRow.update_of_free hfree]
          rfl
        · rw [or_iff_right Bool.false_ne_true, or_iff_right huuid]
          unfold Encounter.told Encounter.endingReply
          cases hother : takenBy owner response.orderUuid with
          | none =>
            have hsubmitted := row_submitted_of_free runner hother runner.previewedRow rfl
            exact losesNoFill_wait_iff runner huuid (hsubmitted.2.symm ▸ huuid) hsubmitted.1 e
          | some other =>
            -- the uuid is that of another order: the row is `FAILED`, without it
            have hfailed := row_submitted_of_taken runner hother runner.previewedRow rfl rfl
            exact losesNoFill_taken_iff runner huuid hfailed.2 hfailed.1 e

/-! An order that is executed in part. -/

/-- A BUY of one coin; the exchange executes four tenths of it. The cancel's answer has no
volumes. -/
def examplePartialBuy : Encounter where
  placeOrder := .ok { uuid := some "c0ffee", state := some "wait", volume := some 1 }
  getOrder := [.ok { uuid := some "c0ffee", state := some "wait", volume := some 1
                     executedVolume := some (2 / 5), remainingVolume := some (3 / 5) }]
  cancelOrder := .ok { uuid := some "c0ffee", state := some "cancel" }
  finallyExecuted := 2 / 5

/-- **The part is dropped**: the row is `CANCELED`, and the result has no executed volume. -/
theorem partialFill_dropped :
    ¬ ∀ runner owner e, LosesNoFill e.finallyExecuted (submitAndWait runner owner e) := by
  intro h
  have hlost : ¬ LosesNoFill examplePartialBuy.finallyExecuted
      (submitAndWait .limited (fun _ => none) examplePartialBuy) := by
    decide +kernel
  exact hlost (h _ _ _)

end AutoCoinBot
