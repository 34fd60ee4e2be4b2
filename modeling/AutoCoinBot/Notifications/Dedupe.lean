/-
  Notifications.Dedupe — which notifications app/notifications.py lets through.

  Every attempt writes a row under the dedupe key of its event, and the next attempt goes by the
  latest row of its key.
-/
import AutoCoinBot.Library.Table
import AutoCoinBot.LiveStrategyPilot.Sizing

namespace AutoCoinBot

open Library

/-! ## The log -/

inductive NotificationStatus where
  | pending
  | queued
  | sent
  | failed
  | skipped
  | skippedDuplicate
  | rateLimited
  deriving DecidableEq

/-- A row of `notification_logs`, unique in `event_id`. -/
structure NotificationLog where
  id : ℕ
  eventId : String
  eventType : String
  provider : String := "discord"
  status : NotificationStatus := .skipped
  eventDedupeKey : Option String := none
  dedupeStatus : NotificationStatus := .skipped
  rateLimitUntilUtc : Option UtcTime := none
  errorMessage : String := ""
  createdAtUtc : UtcTime
  sentAtUtc : Option UtcTime := none

instance : Row NotificationLog := ⟨NotificationLog.id⟩

/-- `insert_notification_log`, `ON CONFLICT(event_id) DO NOTHING` -/
def insertNotificationLog (log : Table NotificationLog) (row : NotificationLog) :
    Table NotificationLog :=
  log.insertOrIgnore NotificationLog.eventId (fun k => { row with id := k }) (fun _ => rfl)

def loadNotificationLog (log : Table NotificationLog) (eventId : String) :
    Option NotificationLog :=
  log.rows.find? (fun r => r.eventId == eventId)

/-- `update_notification_log` with a status; a time of sending may be no key of it. -/
def updateNotificationLog (log : Table NotificationLog) (eventId : String)
    (status : NotificationStatus) (errorMessage : String) (sentAtUtc : Option (Option UtcTime)) :
    Table NotificationLog :=
  log.modifyWhere (fun r => r.eventId == eventId) (fun r =>
    { r with status := status, dedupeStatus := status, errorMessage := errorMessage
             sentAtUtc := sentAtUtc.getD r.sentAtUtc }) (fun _ => rfl)

/-- `ORDER BY created_at_utc DESC, id DESC` -/
def NotificationLog.newer (a b : NotificationLog) : Prop :=
  b.createdAtUtc < a.createdAtUtc ∨ b.createdAtUtc = a.createdAtUtc ∧ b.id ≤ a.id

instance : DecidableRel NotificationLog.newer := fun a b =>
  inferInstanceAs (Decidable (b.createdAtUtc < a.createdAtUtc
    ∨ b.createdAtUtc = a.createdAtUtc ∧ b.id ≤ a.id))

def loadLatestNotificationByDedupeKey (log : Table NotificationLog) (key : String) :
    Option NotificationLog :=
  ((log.rows.filter (fun r => r.eventDedupeKey == some key)).insertionSort
    NotificationLog.newer).head?

/-- Whether `load_sent_notification_by_dedupe_key` finds a row -/
def hasSentNotification (log : Table NotificationLog) (key : String) : Bool :=
  log.rows.any (fun r => r.eventDedupeKey == some key
    && (r.status == .sent || r.dedupeStatus == .sent))

/-! ## `_event_identity` -/

/-- What of a payload names the event. -/
structure NotificationPayload where
  dedupeKey : Option String := none
  eventDedupeKey : Option String := none
  protectedSessionId : Option String := none
  relatedSessionId : Option String := none
  exchangeOrderUuid : Option String := none
  exitOrderUuid : Option String := none
  clientOrderId : Option String := none
  orderUuid : Option String := none
  relatedOrderUuid : Option String := none
  positionId : Option String := none
  relatedPositionId : Option String := none
  stopReason : Option String := none
  reason : Option String := none
  errorType : Option String := none
  errorCode : Option String := none
  dateKst : Option String := none

/-- `str(a or b or … or "").strip()` -/
def firstGivenText (fields : List (Option String)) : String :=
  stripText (((fields.map toText).find? (· ≠ "")).getD "")

/-- `text[:120]` -/
def first120 (text : String) : String := String.ofList (text.toList.take 120)

/-- A key that is there only with the text it ends in. -/
def keyIf (eventType text : String) : Option String :=
  if text = "" then none else some (eventType ++ ":" ++ text)

/-- `_event_identity` of an upper-case type: the dedupe key, and the minutes of a rate limit;
`today` is `_date_kst()`. -/
def eventIdentity (eventType : String) (payload : NotificationPayload) (today : String) :
    Option String × Option ℕ :=
  let explicitDedupeKey := firstGivenText [payload.dedupeKey, payload.eventDedupeKey]
  let sessionId := firstGivenText [payload.protectedSessionId, payload.relatedSessionId]
  let orderId := firstGivenText [payload.exchangeOrderUuid, payload.exitOrderUuid,
    payload.clientOrderId, payload.orderUuid, payload.relatedOrderUuid]
  let positionId := firstGivenText [payload.positionId, payload.relatedPositionId]
  let stopReason := first120 (firstGivenText [payload.stopReason, payload.reason])
  let errorType := first120 (firstGivenText [payload.errorType, payload.errorCode, payload.reason,
    some eventType])
  if explicitDedupeKey ≠ "" then (some (eventType ++ ":" ++ explicitDedupeKey), none)
  else if eventType = "PROTECTED_AUTO_STARTED" then (keyIf eventType sessionId, none)
  else if eventType = "PROTECTED_AUTO_STOPPED" then
    ((keyIf eventType sessionId).map (fun key => key ++ ":" ++ stopReason), none)
  else if eventType = "PROTECTED_AUTO_STALE" then (keyIf eventType sessionId, some 15)
  else if eventType = "TRADE_OPENED" then
    (keyIf eventType (if orderId = "" then positionId else orderId), none)
  else if eventType = "TRADE_CLOSED" then
    (keyIf eventType (if orderId = "" then positionId else orderId), none)
  else if eventType = "SESSION_LOSS_LIMIT_REACHED" then (keyIf eventType sessionId, none)
  else if eventType = "ACCOUNTING_ERROR" then
    ((keyIf eventType sessionId).map (fun key => key ++ ":" ++ errorType), some 15)
  else if eventType = "FEE_DIFF_ERROR" then (keyIf eventType sessionId, some 15)
  else if eventType = "EQUITY_DIFF_ERROR" then (keyIf eventType sessionId, some 15)
  else if eventType = "OPEN_ORDER_STALE" then
    (if orderId = "" then none
      else (keyIf eventType sessionId).map (fun key => key ++ ":" ++ orderId), none)
  else if eventType = "DAILY_SUMMARY" then
    (some (eventType ++ ":"
      ++ (if toText payload.dateKst = "" then today else toText payload.dateKst)), none)
  else (none, none)

/-! ## The sender -/

/-- How `send_discord_embed` ends; the message may have arrived although no success is
reported. -/
inductive EmbedResult where
  | ok
  | failed (errorMessage : String) (arrived : Bool)
  | raised (arrived : Bool)

def EmbedResult.arrivals : EmbedResult → ℕ
  | .ok => 1
  | .failed _ arrived => arrived.toNat
  | .raised arrived => arrived.toNat

/-- How `_deliver_notification_log` ends: what it is about to record, if nothing is raised, and how
often the message arrives. A first attempt that fails is followed by a second. -/
def deliveryResult (first second : EmbedResult) : Option (NotificationStatus × String) × ℕ :=
  match first with
  | .ok => (some (.sent, ""), 1)
  | .raised _ => (none, first.arrivals)
  | .failed _ _ =>
    match second with
    | .ok => (some (.sent, ""), first.arrivals + 1)
    | .failed errorMessage _ => (some (.failed, errorMessage), first.arrivals + second.arrivals)
    | .raised _ => (none, first.arrivals + second.arrivals)

/-- An event on its way, with the identity it was let through under. -/
structure QueuedNotice where
  eventId : String
  eventType : String
  payload : NotificationPayload
  key : Option String
  minutes : Option ℕ
  createdAt : UtcTime

/-- The log, the queue, what the sender has sent and not yet recorded, and what has arrived. -/
structure NoticeState where
  log : Table NotificationLog := Table.empty
  queue : List QueuedNotice := []
  hand : Option (QueuedNotice × NotificationStatus × String) := none
  delivered : List QueuedNotice := []

/-! ## `send_notification` -/

/-- A call, with what it finds: the time, the configuration, and how a delivery within the call
ends, and whether that is recorded. -/
structure NoticeCall where
  eventType : String
  payload : NotificationPayload := {}
  provider : String := "discord"
  eventId : String
  dispatchAsync : Bool := true
  now : UtcTime
  today : String := ""
  alertsEnabled : Bool := true
  configured : Bool := true
  first : EmbedResult := .ok
  second : EmbedResult := .ok
  recorded : Bool := true

def NoticeCall.identity (c : NoticeCall) : Option String × Option ℕ :=
  eventIdentity c.eventType c.payload c.today

inductive DedupeDecision where
  | pass
  | duplicate
  | rateLimited (untilUtc : UtcTime)

def dedupeDecision (log : Table NotificationLog) (identity : Option String × Option ℕ)
    (now : UtcTime) : DedupeDecision :=
  match identity with
  | (none, _) => .pass
  | (some key, none) =>
    if (loadLatestNotificationByDedupeKey log key).any
        (fun r => r.status == .pending || r.status == .queued) then .duplicate
    else if hasSentNotification log key then .duplicate
    else .pass
  | (some key, some minutes) =>
    match loadLatestNotificationByDedupeKey log key with
    | none => .pass
    | some latest =>
      if now - latest.createdAtUtc < 60 * (minutes : ℤ) then
        .rateLimited (now + 60 * (minutes : ℤ))
      else .pass

def NoticeCall.row (c : NoticeCall) (status : NotificationStatus) (errorMessage : String)
    (rateLimitUntilUtc : Option UtcTime) : NotificationLog :=
  { id := 0, eventId := c.eventId, eventType := c.eventType, provider := c.provider
    status := status, eventDedupeKey := c.identity.1, dedupeStatus := status
    rateLimitUntilUtc := rateLimitUntilUtc, errorMessage := errorMessage, createdAtUtc := c.now }

def NoticeCall.notice (c : NoticeCall) : QueuedNotice :=
  { eventId := c.eventId, eventType := c.eventType, payload := c.payload, key := c.identity.1
    minutes := c.identity.2, createdAt := c.now }

def recordDelivery (log : Table NotificationLog) (eventId : String)
    (result : NotificationStatus × String) (now : UtcTime) : Table NotificationLog :=
  updateNotificationLog log eventId result.1 result.2
    (some (if result.1 = .sent then some now else none))

/-- What a call does once it is let through and its row is `PENDING`. -/
def dispatchNotice (s : NoticeState) (c : NoticeCall) : NoticeState :=
  if c.provider ≠ "discord" then
    { s with
      log := updateNotificationLog s.log c.eventId .skipped "NOTIFICATION_PROVIDER_NOT_SUPPORTED" none }
  else if c.alertsEnabled = false then
    { s with
      log := updateNotificationLog s.log c.eventId .skipped "PROTECTED_AUTO_ALERTS_DISABLED" none }
  else if c.configured = false then
    { s with
      log := updateNotificationLog s.log c.eventId .skipped "DISCORD_WEBHOOK_URL_NOT_CONFIGURED" none }
  else if c.dispatchAsync then
    { s with
      log := updateNotificationLog s.log c.eventId .queued "" none
      queue := s.queue ++ [c.notice] }
  else
    { s with
      log := ((deliveryResult c.first c.second).1.filter (fun _ => c.recorded)).elim s.log
        (fun result => recordDelivery s.log c.eventId result c.now)
      delivered :=
        List.replicate (deliveryResult c.first c.second).2 c.notice ++ s.delivered }

/-- `send_notification`; it returns the row of the event. -/
def sendNotification (s : NoticeState) (c : NoticeCall) : NoticeState :=
  match dedupeDecision s.log c.identity c.now with
  | .duplicate =>
    { s with
      log := insertNotificationLog s.log
        (c.row .skippedDuplicate "DUPLICATE_NOTIFICATION_SUPPRESSED" none) }
  | .rateLimited untilUtc =>
    { s with
      log := insertNotificationLog s.log
        (c.row .rateLimited "NOTIFICATION_RATE_LIMITED" (some untilUtc)) }
  | .pass =>
    let log := insertNotificationLog s.log (c.row .pending "" none)
    if (loadNotificationLog log c.eventId).all (fun r => r.status == .pending) then
      dispatchNotice { s with log := log } c
    else { s with log := log }

/-! ## Runs -/

/-- What happens to notifications: a call; the sender sends the head of the queue; it records the
result, or fails to; the process starts anew, and the queue is gone. -/
inductive NoticeEvent where
  | send (call : NoticeCall)
  | deliver (first second : EmbedResult)
  | record (written : Bool) (now : UtcTime)
  | restart

def noticeStep (s : NoticeState) : NoticeEvent → NoticeState
  | .send call => sendNotification s call
  | .deliver first second =>
    match s.hand, s.queue with
    | none, notice :: queue =>
      { s with
        queue := queue
        hand := (deliveryResult first second).1.map (fun result => (notice, result))
        delivered := List.replicate (deliveryResult first second).2 notice ++ s.delivered }
    | _, _ => s
  | .record written now =>
    match s.hand with
    | none => s
    | some (notice, result) =>
      { s with
        log := if written then recordDelivery s.log notice.eventId result now else s.log
        hand := none }
  | .restart => { s with queue := [], hand := none }

/-- The state after events, from an empty log. -/
def noticesAfter (events : List NoticeEvent) : NoticeState := run noticeStep {} events

/-! ## Permanent keys -/

def QueuedNotice.hasPermanent (key : String) (notice : QueuedNotice) : Bool :=
  notice.key == some key && notice.minutes == none

/-- The events that have arrived or are still queued. -/
def NoticeState.underWay (s : NoticeState) : List QueuedNotice := s.delivered ++ s.queue

/-- No event under a permanent key is under way twice. -/
def PermanentOnce (s : NoticeState) : Prop :=
  ∀ key, s.underWay.countP (QueuedNotice.hasPermanent key) ≤ 1

/-- The log shows that an event of the key is under way: one is `SENT`, or the latest is `PENDING`
or `QUEUED`. -/
def ShowsUnderWay (log : Table NotificationLog) (key : String) : Prop :=
  hasSentNotification log key = true
    ∨ ∃ r ∈ loadLatestNotificationByDedupeKey log key, r.status = .pending ∨ r.status = .queued

instance (log : Table NotificationLog) (key : String) : Decidable (ShowsUnderWay log key) := by
  unfold ShowsUnderWay
  infer_instance

/-- When a step lets no permanent event through twice: where one of its key is under way, the log
shows it; and a message whose key is permanent arrives once, whatever its attempts report. -/
def KeepsPermanent (s : NoticeState) : NoticeEvent → Prop
  | .send c =>
    ∀ key, c.identity = (some key, none) →
      ((∃ notice ∈ s.underWay, notice.hasPermanent key = true) → ShowsUnderWay s.log key)
        ∧ (c.dispatchAsync = false → (deliveryResult c.first c.second).2 ≤ 1)
  | .deliver first second =>
    s.hand = none → ∀ notice ∈ s.queue.head?, notice.key.isSome → notice.minutes = none →
      (deliveryResult first second).2 ≤ 1
  | .record _ _ => True
  | .restart => True

section Permanent

variable {s : NoticeState} {c : NoticeCall} {key : String}

theorem permanentOnce_congr {s' : NoticeState} (hdelivered : s'.delivered = s.delivered)
    (hqueue : s'.queue = s.queue) (h : PermanentOnce s) : PermanentOnce s' := by
  intro key
  unfold NoticeState.underWay
  rw [hdelivered, hqueue]
  exact h key

theorem duplicate_of_showsUnderWay {log : Table NotificationLog} {now : UtcTime}
    (h : ShowsUnderWay log key) : dedupeDecision log (some key, none) now = .duplicate := by
  unfold dedupeDecision
  dsimp only
  rcases h with hsent | hlatest
  · rw [if_pos hsent]
    exact ite_self _
  · obtain ⟨r, hr, hstatus⟩ := hlatest
    rw [if_pos]
    rw [Option.mem_def.mp hr, Option.any_some]
    rcases hstatus with hpending | hqueued
    · rw [hpending]
      rfl
    · rw [hqueued]
      rfl

theorem underWay_dispatchNotice (s : NoticeState) (c : NoticeCall) :
    (dispatchNotice s c).underWay.Perm s.underWay
      ∨ (dispatchNotice s c).underWay.Perm (c.notice :: s.underWay)
      ∨ c.dispatchAsync = false
        ∧ (dispatchNotice s c).underWay.Perm
          (List.replicate (deliveryResult c.first c.second).2 c.notice ++ s.underWay) := by
  unfold dispatchNotice NoticeState.underWay
  split_ifs with hprovider halerts hconfigured hasync
  · exact .inl (List.Perm.refl _)
  · exact .inl (List.Perm.refl _)
  · exact .inl (List.Perm.refl _)
  · refine .inr (.inl ?_)
    rw [← List.append_assoc]
    exact List.perm_append_singleton _ _
  · refine .inr (.inr ⟨by simpa using hasync, ?_⟩)
    rw [List.append_assoc]

theorem hasPermanent_notice : c.notice.hasPermanent key = true ↔ c.identity = (some key, none) := by
  unfold QueuedNotice.hasPermanent NoticeCall.notice
  dsimp only
  generalize c.identity = identity
  rw [Bool.and_eq_true, beq_iff_eq, beq_iff_eq, Prod.ext_iff]

theorem countP_replicate_notice (k : ℕ) (notice : QueuedNotice) :
    (List.replicate k notice).countP (QueuedNotice.hasPermanent key)
      = if notice.hasPermanent key = true then k else 0 := by
  rw [List.countP_replicate]

theorem permanentOnce_dispatch (h : PermanentOnce s)
    (hnone : ∀ key, c.identity = (some key, none) →
      ¬ ∃ notice ∈ s.underWay, notice.hasPermanent key = true)
    (hsync : ∀ key, c.identity = (some key, none) → c.dispatchAsync = false →
      (deliveryResult c.first c.second).2 ≤ 1) : PermanentOnce (dispatchNotice s c) := by
  intro key
  have hzero : c.identity = (some key, none) →
      s.underWay.countP (QueuedNotice.hasPermanent key) = 0 := by
    intro hidentity
    refine List.countP_eq_zero.mpr ?_
    intro notice hnotice hpermanent
    exact hnone key hidentity ⟨notice, hnotice, hpermanent⟩
  have hold := h key
  rcases underWay_dispatchNotice s c with hsame | hqueued | ⟨hasync, hdelivered⟩
  · rw [hsame.countP_eq]
    exact hold
  · rw [hqueued.countP_eq, List.countP_cons]
    split
    · next hpermanent =>
        rw [hzero (hasPermanent_notice.mp hpermanent)]
    · exact hold
  · rw [hdelivered.countP_eq, List.countP_append, countP_replicate_notice]
    split
    · next hpermanent =>
        have hidentity := hasPermanent_notice.mp hpermanent
        rw [hzero hidentity]
        exact hsync key hidentity hasync
    · rw [Nat.zero_add]
      exact hold

theorem permanentOnce_step (h : PermanentOnce s) {event : NoticeEvent}
    (hkeeps : KeepsPermanent s event) : PermanentOnce (noticeStep s event) := by
  cases event with
  | send c =>
    show PermanentOnce (sendNotification s c)
    unfold sendNotification
    cases hdecision : dedupeDecision s.log c.identity c.now with
    | duplicate => exact permanentOnce_congr rfl rfl h
    | rateLimited untilUtc => exact permanentOnce_congr rfl rfl h
    | pass =>
      dsimp only
      split
      · refine permanentOnce_dispatch (permanentOnce_congr rfl rfl h) ?_ ?_
        · intro key hidentity hunder
          have hduplicate : dedupeDecision s.log c.identity c.now = .duplicate := by
            rw [hidentity]
            exact duplicate_of_showsUnderWay ((hkeeps key hidentity).1 hunder)
          rw [hdecision] at hduplicate
          cases hduplicate
        · intro key hidentity
          exact (hkeeps key hidentity).2
      · exact permanentOnce_congr rfl rfl h
  | deliver first second =>
    show PermanentOnce (match s.hand, s.queue with
      | none, notice :: queue =>
        { s with
          queue := queue
          hand := (deliveryResult first second).1.map (fun result => (notice, result))
          delivered := List.replicate (deliveryResult first second).2 notice ++ s.delivered }
      | _, _ => s)
    cases hhand : s.hand with
    | some hand => exact h
    | none =>
      cases hqueue : s.queue with
      | nil => exact h
      | cons notice queue =>
        intro key
        have hold := h key
        have honce := hkeeps hhand notice (by rw [hqueue]; rfl)
        unfold NoticeState.underWay at hold ⊢
        rw [hqueue, List.countP_append, List.countP_cons] at hold
        dsimp only
        rw [List.append_assoc, List.countP_append, List.countP_append,
          countP_replicate_notice]
        by_cases hpermanent : notice.hasPermanent key = true
        · have hfields := hpermanent
          unfold QueuedNotice.hasPermanent at hfields
          rw [Bool.and_eq_true, beq_iff_eq, beq_iff_eq] at hfields
          have harrived := honce (by rw [hfields.1]; rfl) hfields.2
          rw [if_pos hpermanent] at hold ⊢
          omega
        · rw [if_neg hpermanent] at hold ⊢
          omega
  | record written now =>
    show PermanentOnce (match s.hand with
      | none => s
      | some (notice, result) =>
        { s with
          log := if written then recordDelivery s.log notice.eventId result now else s.log
          hand := none })
    cases s.hand with
    | none => exact h
    | some hand => exact permanentOnce_congr rfl rfl h
  | restart =>
    intro key
    have hold := h key
    show ({ s with queue := [], hand := none } : NoticeState).underWay.countP _ ≤ 1
    unfold NoticeState.underWay at hold ⊢
    rw [List.countP_append] at hold
    dsimp only
    rw [List.append_nil]
    omega

end Permanent

/-! ## Rate limits -/

/-- An event of the key was let through within the minutes before `now`, and has arrived or is still
queued. -/
def InWindow (s : NoticeState) (key : String) (minutes : ℕ) (now : UtcTime) : Prop :=
  ∃ notice ∈ s.underWay, notice.key = some key ∧ now - notice.createdAt < 60 * (minutes : ℤ)

/-- What is suppressed by a rate limit is suppressed for a reason. -/
def SuppressedJustly (s : NoticeState) : NoticeEvent → Prop
  | .send c =>
    ∀ key minutes, c.identity = (some key, some minutes) →
      (∃ untilUtc, dedupeDecision s.log c.identity c.now = .rateLimited untilUtc) →
      InWindow s key minutes c.now
  | _ => True

/-- Where the latest row of a rate-limited key is in the window, so is an event of the key that has
arrived or is still queued. -/
def WindowShown (s : NoticeState) : NoticeEvent → Prop
  | .send c =>
    ∀ key minutes, c.identity = (some key, some minutes) →
      ∀ latest ∈ loadLatestNotificationByDedupeKey s.log key,
        c.now - latest.createdAtUtc < 60 * (minutes : ℤ) → InWindow s key minutes c.now
  | _ => True

theorem suppressedJustly_iff (s : NoticeState) (event : NoticeEvent) :
    SuppressedJustly s event ↔ WindowShown s event := by
  cases event with
  | send c =>
    refine forall₂_congr (fun key minutes => forall_congr' (fun hidentity => ?_))
    rw [hidentity]
    unfold dedupeDecision
    dsimp only
    cases loadLatestNotificationByDedupeKey s.log key with
    | none => simp
    | some latest =>
      by_cases hin : c.now - latest.createdAtUtc < 60 * (minutes : ℤ)
      · simp [hin]
      · simp [hin]
  | deliver first second => exact Iff.rfl
  | record written now => exact Iff.rfl
  | restart => exact Iff.rfl

/-! ## Whole runs -/

/-- How often an event under a permanent key has arrived. -/
def timesDelivered (s : NoticeState) (key : String) : ℕ :=
  s.delivered.countP (QueuedNotice.hasPermanent key)

theorem permanentOnce_run {events : List NoticeEvent}
    (h : StepsOk noticeStep KeepsPermanent {} events) : PermanentOnce (noticesAfter events) := by
  have hstep : ∀ s event, PermanentOnce s → KeepsPermanent s event →
      PermanentOnce (noticeStep s event) := fun _ _ hs hkeeps => permanentOnce_step hs hkeeps
  have hempty : PermanentOnce {} := fun _ => Nat.zero_le 1
  exact run_invariant_of_stepsOk hstep hempty h

instance decidablePermanent {identity : Option String × Option ℕ} {p : String → Prop}
    [DecidablePred p] :
    Decidable (∀ key, identity = (some key, none) → p key) :=
  match identity with
  | (some key, none) =>
    decidable_of_iff (p key)
      ⟨fun h key' heq => by cases heq; exact h, fun h => h key rfl⟩
  | (none, _) => isTrue (fun _ heq => by cases heq)
  | (some _, some _) => isTrue (fun _ heq => by cases heq)

instance decidableRateLimited {identity : Option String × Option ℕ} {p : String → ℕ → Prop}
    [∀ k m, Decidable (p k m)] :
    Decidable (∀ key minutes, identity = (some key, some minutes) → p key minutes) :=
  match identity with
  | (some key, some minutes) =>
    decidable_of_iff (p key minutes)
      ⟨fun h key' minutes' heq => by cases heq; exact h, fun h => h key minutes rfl⟩
  | (none, _) => isTrue (fun _ _ heq => by cases heq)
  | (some _, none) => isTrue (fun _ _ heq => by cases heq)

instance (s : NoticeState) (event : NoticeEvent) : Decidable (KeepsPermanent s event) := by
  cases event <;> unfold KeepsPermanent <;> infer_instance

instance (s : NoticeState) (key : String) (minutes : ℕ) (now : UtcTime) :
    Decidable (InWindow s key minutes now) := by
  unfold InWindow
  infer_instance

/-- A trade that is opened, told asynchronously. -/
def tradeOpened (eventId : String) (now : UtcTime) : NoticeCall :=
  { eventType := "TRADE_OPENED", payload := { orderUuid := some "o-1" }, eventId := eventId
    now := now }

/-- A session that is stale, told asynchronously. -/
def sessionStale (eventId : String) (now : UtcTime) : NoticeCall :=
  { eventType := "PROTECTED_AUTO_STALE", payload := { protectedSessionId := some "s-1" }
    eventId := eventId, now := now }

/-- A trade is told twice, the first delivered between; a stale session twice in five minutes. -/
def toldOnce : List NoticeEvent :=
  [.send (tradeOpened "e-1" 0), .deliver .ok .ok, .record true 1, .send (tradeOpened "e-2" 60),
    .send (sessionStale "e-3" 100), .deliver .ok .ok, .record true 101,
    .send (sessionStale "e-4" 400)]

instance (s : NoticeState) (event : NoticeEvent) : Decidable (WindowShown s event) := by
  cases event <;> unfold WindowShown <;> infer_instance

/-- The second is suppressed while the first is queued, and the third is let through. -/
def toldTwice : List NoticeEvent :=
  [.send (tradeOpened "e-1" 0), .send (tradeOpened "e-2" 10), .send (tradeOpened "e-3" 20),
    .deliver .ok .ok, .record true 30, .deliver .ok .ok, .record true 31]

/-- The first fails, and still keeps the second from being told. -/
def withheld : List NoticeEvent :=
  [.send (sessionStale "e-1" 0), .deliver (.failed "HTTPError:500" false)
    (.failed "HTTPError:500" false), .record true 1, .send (sessionStale "e-2" 60)]

/-- The first is delivered; the second, suppressed, keeps the third from being told after the
window of the first. -/
def withheldLonger : List NoticeEvent :=
  [.send (sessionStale "e-1" 0), .deliver .ok .ok, .record true 1, .send (sessionStale "e-2" 600),
    .send (sessionStale "e-3" 1000)]

end AutoCoinBot
