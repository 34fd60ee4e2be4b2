/-
  AutoLivePilot.KeptOrder — whether the pilot keeps its order until it is finished.

  Before its order a turn changes no order that is there, and does not come to place one beside an
  order that is open and on record.
-/
import AutoCoinBot.AutoLivePilot.Ticks
import AutoCoinBot.LiveExit.TracedSells

namespace AutoCoinBot

open Library

/-! ## Orders that are kept -/

namespace AutoPilotWorld

/-- An order that may be open has an unresolved row, and no second one was sent. -/
structure KeepsOrder (w : AutoPilotWorld) : Prop where
  unresolved : ∀ o ∈ w.held, o.finished = false → Unresolved w.db o.requestId
  single : w.doubled = false

/-- Every order has its row, and no session has come to know an order's uuid. -/
structure Sound (w : AutoPilotWorld) : Prop where
  own : OwnUuids w.db
  sessions : ∀ s ∈ w.sessions.rows, s.lastOrderUuid = none
  pending : ∀ s ∈ w.pending, s.lastOrderUuid = none
  held : ∀ o ∈ w.held, liveOrderEventRequestIdFilter o.requestId = false
    ∧ ∃ t, termsOf w.db o.requestId = some t ∧ t.exchange = "bithumb" ∧ t.market = "KRW-BTC"

def Lost (w : AutoPilotWorld) : Prop :=
  ∃ o ∈ w.held, o.finished = false
    ∧ ∃ status, statusOf w.db o.requestId = some status ∧ status.isUnresolved = false

/-- What holds up to an order, and after one that is kept. -/
def Kept (w : AutoPilotWorld) : Prop := w.Sound ∧ w.KeepsOrder

theorem Lost.not_keepsOrder {w : AutoPilotWorld} (h : w.Lost) : ¬ w.KeepsOrder := by
  obtain ⟨o, ho, hopen, status, hstatus, hresolved⟩ := h
  intro hkeeps
  obtain ⟨status', hstatus', hun⟩ := hkeeps.unresolved o ho hopen
  rw [hstatus] at hstatus'
  rw [Option.some.inj hstatus', hun] at hresolved
  cases hresolved

end AutoPilotWorld

/-! ## What rows without a uuid and sessions' updates leave true -/

/-- Neither a session's update nor a new row without a uuid ends `P`. -/
structure Stable (P : AutoPilotWorld → Prop) : Prop where
  updateSession : ∀ w sessionId (u : AutoLiveSessionUpdates), u.lastOrderUuid = none → P w →
    P (w.updateSession sessionId u)
  insert : ∀ w db log now, insertOrderRow w.db log now = some db → log.orderUuid = none → P w →
    P { w with db := db, strategyNames := log.requestId :: w.strategyNames }

section Stable

variable {P Q : AutoPilotWorld → Prop}

theorem Stable.and (hP : Stable P) (hQ : Stable Q) : Stable (fun w => P w ∧ Q w) where
  updateSession := fun w sessionId u hu h =>
    ⟨hP.updateSession w sessionId u hu h.1, hQ.updateSession w sessionId u hu h.2⟩
  insert := fun w db log now hinsert huuid h =>
    ⟨hP.insert w db log now hinsert huuid h.1, hQ.insert w db log now hinsert huuid h.2⟩

theorem Stable.finish (hP : Stable P) (requestIds : List String) :
    Stable (fun w => P (w.finish requestIds)) where
  updateSession := fun w sessionId u hu h => hP.updateSession (w.finish requestIds) sessionId u hu h
  insert := fun w db log now hinsert huuid h =>
    hP.insert (w.finish requestIds) db log now hinsert huuid h

theorem stable_orderOpen : Stable (fun w => w.orderOpen = false) where
  updateSession := fun _ _ _ _ h => h
  insert := fun _ _ _ _ _ _ h => h

theorem stable_keepsOrder : Stable AutoPilotWorld.KeepsOrder where
  updateSession := fun _ _ _ _ h => ⟨h.unresolved, h.single⟩
  insert := by
    intro w db log now hinsert _ h
    refine ⟨fun o ho hopen => ?_, h.single⟩
    obtain ⟨status, hstatus, hun⟩ := h.unresolved o ho hopen
    exact ⟨status, statusOf_insertOrderRow hinsert hstatus, hun⟩

theorem stable_lost : Stable AutoPilotWorld.Lost where
  updateSession := fun _ _ _ _ h => h
  insert := by
    rintro w db log now hinsert - ⟨o, ho, hopen, status, hstatus, hresolved⟩
    exact ⟨o, ho, hopen, status, statusOf_insertOrderRow hinsert hstatus, hresolved⟩

theorem lastOrderUuid_updateSession {w : AutoPilotWorld}
    (h : ∀ s ∈ w.sessions.rows, s.lastOrderUuid = none) (sessionId : ℕ)
    {u : AutoLiveSessionUpdates} (hu : u.lastOrderUuid = none) :
    ∀ s ∈ (w.updateSession sessionId u).sessions.rows, s.lastOrderUuid = none := by
  intro s hs
  obtain ⟨r, hr, rfl⟩ := List.mem_map.mp hs
  split
  · show u.lastOrderUuid.or r.lastOrderUuid = none
    rw [hu, h r hr]
    rfl
  · exact h r hr

theorem stable_sound : Stable AutoPilotWorld.Sound where
  updateSession := fun w sessionId _ hu h =>
    ⟨h.own, lastOrderUuid_updateSession h.sessions sessionId hu, h.pending, h.held⟩
  insert := by
    intro w db log now hinsert huuid h
    have hkept : AutoCoinBot.Kept (fun _ => False) (fun _ _ => True) w.db db :=
      kept_insertOrderRow h.own hinsert huuid trivial
    refine ⟨hkept.own, h.sessions, h.pending, fun o ho => ?_⟩
    obtain ⟨hcanonical, t, ht, hmarket⟩ := h.held o ho
    exact ⟨hcanonical, t, hkept.terms _ t ht, hmarket⟩

theorem stable_kept : Stable AutoPilotWorld.Kept := stable_sound.and stable_keepsOrder

end Stable

theorem AutoPilotWorld.Kept.quiet {w : AutoPilotWorld} (h : w.Kept) {db : Database}
    (hquiet : QuietWrites w.db db) : AutoPilotWorld.Kept { w with db := db } := by
  obtain ⟨hsound, hkeeps⟩ := h
  refine ⟨⟨hsound.own.quiet hquiet, hsound.sessions, hsound.pending, ?_⟩, ⟨?_, hkeeps.single⟩⟩
  · intro o ho
    obtain ⟨hcanonical, t, ht, hmarket⟩ := hsound.held o ho
    exact ⟨hcanonical, t, (termsOf_quiet hquiet o.requestId).trans ht, hmarket⟩
  · intro o ho hopen
    obtain ⟨status, hstatus, hun⟩ := hkeeps.unresolved o ho hopen
    exact ⟨status, (statusOf_quiet hsound.own hquiet (hsound.held o ho).1).trans hstatus, hun⟩

/-! ## Up to the order -/

namespace AutoPilotTurn

section UntilOrder

variable {i : AutoPilotTurn} {session : AutoLiveSession} {P Q : AutoPilotWorld → Prop}

theorem keeps_reads (outcome : Ending ApiError) : (reads outcome).Keeps P :=
  ⟨fun _ h => h, fun _ _ h => h⟩

theorem after_reads (outcome : Ending ApiError) (w : AutoPilotWorld) :
    (reads outcome).after w = w := by
  cases outcome <;> rfl

theorem keeps_updatesSession (hP : Stable P) (outcome : Ending ApiError)
    {u : AutoLiveSessionUpdates} (hu : u.lastOrderUuid = none) :
    (updatesSession session outcome u).Keeps P := by
  refine ⟨fun w h => hP.updateSession w _ u hu h, fun writes w h => ?_⟩
  show P (if writes = 0 then w else w.updateSession session.id u)
  split
  · exact h
  · exact hP.updateSession w _ u hu h

def Inserted (log : LiveOrderLog) (now : UtcTime) (w : AutoPilotWorld) : Prop :=
  ∃ id, getLiveOrderLog w.db log.requestId = some (log.stored now id)

theorem triple_insertLog (hP : Stable P) (outcome : Ending ApiError) {log : LiveOrderLog}
    (huuid : log.orderUuid = none) :
    Triple P (i.insertLog outcome log) (fun w => P w ∧ Inserted log i.env.now w) (fun _ => P) := by
  intro w h
  unfold insertLog
  cases hinsert : insertOrderRow w.db log i.env.now with
  | none => exact h
  | some db =>
    have hinserted := hP.insert w db log i.env.now hinsert huuid h
    cases outcome with
    | returns =>
      refine ⟨hinserted, w.db.liveOrderLogs.nextId, ?_⟩
      show getLiveOrderLog db log.requestId = _
      rw [getLiveOrderLog_insertOrderRow hinsert, if_pos rfl]
    | raises exc writes =>
      show P (if writes = 0 then w else _)
      split
      · exact h
      · exact hinserted

theorem triple_onWay {a : Statement AutoPilotWorld ApiError} (h : Triple P a Q (fun _ => P)) :
    Triple P (onWay a) Q (fun _ => P) :=
  h.catching (fun _ => triple_raise (fun _ hw => hw))

theorem triple_call {c : Call AutoPilotWorld ApiError} (h : c.Keeps P) :
    Triple P (onWay (Statement.calls [c])) P (fun _ => P) := by
  refine triple_onWay (triple_calls ?_)
  rintro c' hc'
  rw [List.mem_singleton.mp hc']
  exact h

theorem triple_blocked (hP : Stable P) {log : LiveOrderLog} (huuid : log.orderUuid = none)
    (status : SessionStatus) : Triple P (i.blocked session log status) Q (fun _ => P) := by
  have hinsert : Triple P (i.insertLog i.outcomes.insertBlockedLog log) P (fun _ => P) :=
    (triple_insertLog hP _ huuid).weaken (fun _ h => h) (fun _ h => h.1) (fun _ _ h => h)
  have hupdate : Triple P (Statement.calls [updatesSession session
      i.outcomes.updateBlockedSession { status := some status }]) P (fun _ => P) := by
    refine triple_calls ?_
    rintro c hc
    rw [List.mem_singleton.mp hc]
    exact keeps_updatesSession hP _ rfl
  exact (triple_onWay (hinsert.andThen hupdate)).andThen (triple_raise (fun _ h => h))

/-- The order's row, before the order is placed. -/
def Previewed (i : AutoPilotTurn) (w : AutoPilotWorld) : Prop :=
  ∃ log, getLiveOrderLog w.db i.requestId = some log ∧ log.status = .previewed
    ∧ log.orderUuid = none ∧ log.exchange = "bithumb" ∧ log.market = "KRW-BTC"

theorem triple_previewOrder (hP : Stable P) (candle : PilotCandle) :
    Triple P (i.previewOrder session candle) (fun w => P w ∧ i.Previewed w) (fun _ => P) := by
  refine (triple_call (keeps_reads _)).andThen ?_
  split
  · exact triple_blocked hP rfl .stopped
  · refine (triple_call (keeps_reads _)).andThen ?_
    split_ifs
    · exact triple_blocked hP rfl .stopped
    · exact triple_blocked hP rfl .stopped
    · refine triple_onWay ((triple_insertLog hP _ rfl).weaken (fun _ h => h) ?_ (fun _ _ h => h))
      rintro w ⟨h, id, hlog⟩
      exact ⟨h, _, hlog, rfl, rfl, rfl, rfl⟩

theorem triple_followSignal (hP : Stable P) :
    Triple P (i.followSignal session) (fun w => P w ∧ i.Previewed w) (fun _ => P) := by
  unfold followSignal
  split
  · exact triple_blocked hP rfl .error
  · refine (triple_call (keeps_reads _)).andThen ?_
    cases i.candle with
    | none => exact triple_raise (fun _ h => h)
    | some candle =>
      refine (triple_call (keeps_updatesSession hP _ rfl)).andThen ?_
      intro w h
      dsimp only
      split_ifs
      · exact h
      · exact triple_blocked hP rfl .running w h
      · exact triple_previewOrder hP candle w h

theorem precheckBlockReason_quiet (w : AutoPilotWorld) :
    ∃ db, QuietWrites w.db db ∧ (i.precheckBlockReason session w).2 = { w with db := db } := by
  unfold precheckBlockReason
  split
  · exact ⟨w.db, .none, rfl⟩
  · refine ⟨(i.recovery w).1, ?_, rfl⟩
    unfold recovery autoOrderRecoveryBlockReason
    split
    · exact .none
    · exact quietWrites_reconcileBalances _ _ _ _ _

theorem orderOpen_of_precheck {w : AutoPilotWorld} (h : w.Kept)
    (hnone : (i.precheckBlockReason session w).1 = none) : w.orderOpen = false := by
  have hrecovery : (i.recovery w).2 = none := by
    unfold precheckBlockReason at hnone
    split at hnone
    · cases hnone
    · exact (Option.or_eq_none_iff.mp hnone).1
  have hresolved : hasUnresolvedLiveOrder w.db "bithumb" "KRW-BTC" = false :=
    (autoOrderRecoveryBlockReason_eq_none_iff.mp hrecovery).1
  unfold AutoPilotWorld.orderOpen
  rw [List.any_eq_false]
  intro o ho hopen
  obtain ⟨hcanonical, t, ht, hexchange, hmarket⟩ := h.1.held o ho
  have hfound := (h.2.unresolved o ho (by simpa using hopen)).hasUnresolvedLiveOrder hcanonical ht
  rw [hexchange, hmarket, hresolved] at hfound
  cases hfound

theorem triple_untilOrder :
    Triple AutoPilotWorld.Kept (i.untilOrder session)
      (fun w => (w.Kept ∧ w.orderOpen = false) ∧ i.Previewed w) (fun _ => AutoPilotWorld.Kept) := by
  intro w h
  obtain ⟨db, hquiet, hdb⟩ := @precheckBlockReason_quiet i session w
  have hafter : (i.precheckBlockReason session w).2.Kept := hdb ▸ h.quiet hquiet
  have hcall : Triple (fun w' => w' = w)
      (onWay (Statement.calls [{ outcome := i.outcomes.precheck
                                 effect := fun w => (i.precheckBlockReason session w).2 }]))
      (fun w' => w' = (i.precheckBlockReason session w).2) (fun _ => AutoPilotWorld.Kept) := by
    rintro w' rfl
    unfold onWay Statement.calls Statement.catching
    cases i.outcomes.precheck with
    | returns => rfl
    | raises exc writes =>
      show AutoPilotWorld.Kept (if writes = 0 then w' else _)
      split
      · exact h
      · exact hafter
  refine hcall.andThen (b := _) ?_ w rfl
  rintro w' rfl
  cases hreason : (i.precheckBlockReason session w).1 with
  | some reason => exact triple_blocked stable_kept rfl .running _ hafter
  | none =>
    have hnone : w.orderOpen = false := orderOpen_of_precheck h hreason
    have hclosed : (i.precheckBlockReason session w).2.orderOpen = false := by
      rw [hdb]
      exact hnone
    exact (triple_followSignal (stable_kept.and stable_orderOpen) _ ⟨hafter, hclosed⟩).weaken
      (fun _ h => h) (fun _ _ h => h.1)

end UntilOrder

/-! ## The order -/

/-- What `_submit_pilot_order` raises once the order is placed. -/
def raised (i : AutoPilotTurn) : ApiError :=
  (i.outcomes.updateSubmitted.exc?.or i.outcomes.getLiveOrderLog.exc?).getD nameError

/-- The order stays on record: its update to `SUBMITTED` is written and no other order has its
uuid, or the handler takes what raised for a timeout; and it does not write `FAILED`. -/
def OrderKnown (i : AutoPilotTurn) (db : Database) : Prop :=
  match i.placeOrder with
  | .ok response =>
    KnownAfter (i.outcomes.updateSubmitted.Wrote
        ∧ ownedElsewhere db i.requestId response.orderUuid = false)
      true i.outcomes.updateUnknown i.outcomes.updateFailed (some i.raised)
  | .error exc => KnownAfter False true i.outcomes.updateUnknown i.outcomes.updateFailed (some exc)

/-- A world after the order of `w` was sent, whose row shows `v`. -/
structure Sent (i : AutoPilotTurn) (w : AutoPilotWorld) (v : OrderView) (w' : AutoPilotWorld) :
    Prop where
  own : OwnUuids w'.db
  row : Shows i.requestId (ownedElsewhere w.db i.requestId) v w'.db
  terms : ∀ requestId, termsOf w'.db requestId = termsOf w.db requestId
  sessions : ∀ s ∈ w'.sessions.rows, s.lastOrderUuid = none
  pending : w'.pending = w.pending
  held : w'.held = (i.sends w).held
  doubled : w'.doubled = (i.sends w).doubled

section Order

variable {i : AutoPilotTurn} {session : AutoLiveSession} {w w' : AutoPilotWorld} {v : OrderView}

theorem requestId_canonical : liveOrderEventRequestIdFilter i.requestId = false :=
  @wordedId_canonical "auto".toList (by decide +kernel) (by decide +kernel) i.requestHex

theorem simulates_onOrder (outcome : Ending ApiError) (u : LiveOrderLogUpdates) :
    Call.Simulates (i.Sent w)
      ((OrderCall.updateLiveOrderLog outcome u).onView (ownedElsewhere w.db i.requestId))
      (i.onOrder i.requestId (.updateLiveOrderLog outcome u)) := by
  have hupdate : ∀ v w', i.Sent w v w' →
      i.Sent w (v.update (ownedElsewhere w.db i.requestId) u)
        { w' with db := updateLiveOrderLog w'.db i.requestId u i.env.now } := by
    intro v w' h
    have hrow := shows_updateLiveOrderLog u i.env.now h.row
    refine ⟨?_, hrow, ?_, h.sessions, h.pending, h.held, h.doubled⟩
    · refine ownUuids_of_shows h.own requestId_canonical hrow (fun a ha hother => ?_)
      rcases orderUuids_updateLiveOrderLog i.env.now ha with hold | ⟨hsame, -⟩
      · exact hold
      · exact absurd hsame hother
    · exact fun requestId => (termsOf_updateLiveOrderLog u i.env.now requestId).trans
        (h.terms requestId)
  refine ⟨rfl, hupdate, fun writes v w' h => ?_⟩
  by_cases hnone : writes = 0
  · subst hnone
    exact h
  · show i.Sent w (if writes = 0 then v else _) { w' with db := if writes = 0 then w'.db else _ }
    rw [if_neg hnone, if_neg hnone]
    exact hupdate v w' h

theorem simulates_updatesSession (outcome : Ending ApiError) {u : AutoLiveSessionUpdates}
    (hu : u.lastOrderUuid = none) :
    Call.Simulates (i.Sent w)
      ((OrderCall.other outcome .elsewhere).onView (ownedElsewhere w.db i.requestId))
      (updatesSession session outcome u) := by
  have hsession : ∀ v w', i.Sent w v w' → i.Sent w v (w'.updateSession session.id u) :=
    fun v w' h => ⟨h.own, h.row, h.terms, lastOrderUuid_updateSession h.sessions session.id hu,
      h.pending, h.held, h.doubled⟩
  refine ⟨rfl, hsession, fun writes v w' h => ?_⟩
  show i.Sent w v (if writes = 0 then w' else w'.updateSession session.id u)
  split
  · exact h
  · exact hsession v w' h

theorem simulates_reads (outcome : Ending ApiError) :
    Call.Simulates (i.Sent w)
      ((OrderCall.other outcome .elsewhere).onView (ownedElsewhere w.db i.requestId))
      (reads outcome) :=
  ⟨rfl, fun _ _ h => h, fun _ _ _ h => h⟩

/-- The handler's calls, as far as the order's row goes. -/
def handlerCalls (i : AutoPilotTurn) (exc : ApiError) : List OrderCall :=
  if isTimeoutException exc then
    [.updateLiveOrderLog i.outcomes.updateUnknown (unknownUpdates
        "Exchange request timed out; order status must be reconciled before any retry."),
      .other i.outcomes.updateHandledSession .elsewhere,
      .other i.outcomes.logRecoveryEvent .elsewhere]
  else
    [.updateLiveOrderLog i.outcomes.updateFailed (failedUpdates "BLOCKED_API_RESPONSE_ERROR" exc),
      .other i.outcomes.updateHandledSession .elsewhere]

theorem handlerCalls_writes :
    HandlerWrites i.handlerCalls true i.outcomes.updateUnknown i.outcomes.updateFailed := by
  intro exc
  unfold handlerCalls
  by_cases htimeout : isTimeoutException exc = true
  · rw [if_pos htimeout]
    refine ⟨_, _, _, rfl, by simp [OrderCall.IsOther], rfl, ?_⟩
    rw [if_pos ⟨rfl, htimeout⟩]
    exact ⟨rfl, rfl⟩
  · rw [if_neg htimeout]
    refine ⟨_, _, _, rfl, by simp [OrderCall.IsOther], rfl, ?_⟩
    rw [if_neg (fun h => htimeout h.2)]
    exact ⟨rfl, rfl⟩

theorem handleSubmitError_sent (h : i.Sent w v w') (exc : ApiError) :
    i.Sent w (runCalls ((i.handlerCalls exc).map
        (OrderCall.onView (ownedElsewhere w.db i.requestId))) v).2
      (i.handleSubmitError session exc w').2 := by
  unfold handlerCalls handleSubmitError Statement.calls
  split
  · exact (runCalls_simulates (.cons (simulates_onOrder _ _) (.cons (simulates_updatesSession _ rfl)
      (.cons (simulates_reads _) .nil))) h).2
  · exact (runCalls_simulates (.cons (simulates_onOrder _ _)
      (.cons (simulates_updatesSession _ rfl) .nil)) h).2

theorem sends_sent (hsound : w.Sound) (hrow : i.Previewed w) :
    i.Sent w previewedView (i.sends w) where
  own := hsound.own
  row := by
    obtain ⟨log, hlog, hstatus, huuid, -⟩ := hrow
    exact ⟨⟨log, hlog, hstatus, huuid⟩, fun _ => rfl, ownedElsewhere_empty⟩
  terms := fun _ => rfl
  sessions := hsound.sessions
  pending := rfl
  held := rfl
  doubled := rfl

/-- **Once the order is placed, something raises**, before the session comes to know its uuid. -/
theorem recordOrder_raises (h : i.Sent w v w') (response : RawOrder) :
    i.recordOrder session response w' = (some i.raised, (i.onOrder i.requestId
      (.updateLiveOrderLog i.outcomes.updateSubmitted (submittedUpdates response))).after w') := by
  have hafter := ((simulates_onOrder i.outcomes.updateSubmitted (submittedUpdates response)).after
    h).row.row
  obtain ⟨log, hlog, -⟩ := hafter
  unfold raised
  have hupdate := Statement.calls_singleton (i.onOrder i.requestId
    (.updateLiveOrderLog i.outcomes.updateSubmitted (submittedUpdates response))) w'
  cases hsubmitted : i.outcomes.updateSubmitted.exc? with
  | some exc => exact Statement.andThen_raises (hupdate.trans (Prod.ext hsubmitted rfl))
  | none =>
    refine (Statement.andThen_returns (hupdate.trans (Prod.ext hsubmitted rfl))).trans
      (Statement.andThen_raises ?_)
    have hread : ∀ w, Statement.calls [reads i.outcomes.getLiveOrderLog] w
        = (i.outcomes.getLiveOrderLog.exc?, w) := by
      intro w
      rw [Statement.calls_singleton, after_reads]
      rfl
    unfold insertOrderStatusEvent
    cases hexc : i.outcomes.getLiveOrderLog.exc? with
    | some exc => exact Statement.andThen_raises ((hread _).trans (Prod.ext hexc rfl))
    | none =>
      refine (Statement.andThen_returns ((hread _).trans (Prod.ext hexc rfl))).trans ?_
      rw [hlog]
      rfl

/-- The row shows nothing but an order that is unresolved or forgotten. -/
def Settled (v : OrderView) : Prop := v.status.isUnresolved = !v.status.isForgotten

theorem settled_update {owned : String → Bool} {u : LiveOrderLogUpdates}
    (hu : u.status = some .submitted ∨ u.status = some .failed) (v : OrderView) :
    Settled (v.update owned u) := by
  unfold OrderView.update
  split
  · rfl
  · rcases hu with hstatus | hstatus
    · rw [hstatus]
      rfl
    · rw [hstatus]
      rfl

theorem settled_handlerCalls {owned : String → Bool} (hv : Settled v) (exc : ApiError) :
    Settled (runCalls ((i.handlerCalls exc).map (OrderCall.onView owned)) v).2 := by
  obtain ⟨outcome, updates, rest, heq, hrest, -, hwrite⟩ := @handlerCalls_writes i exc
  rw [heq, view_update_others hrest]
  split
  · refine settled_update ?_ v
    split_ifs at hwrite
    · exact .inl hwrite.2
    · exact .inr hwrite.2
  · exact hv

/-- **What the order's row shows in the end**: it is forgotten unless the order stays on record. -/
theorem submitPilotOrder_sent (hsound : w.Sound) (hrow : i.Previewed w) :
    ∃ v, i.Sent w v (i.submitPilotOrder session w).2 ∧ Settled v
      ∧ (v.status.isForgotten = false ↔ i.OrderKnown w.db) := by
  have hsent : i.Sent w previewedView (i.sends w) := sends_sent hsound hrow
  have hpreviewed : Settled previewedView := rfl
  unfold submitPilotOrder OrderKnown
  cases i.placeOrder with
  | error exc =>
    refine ⟨_, handleSubmitError_sent hsent exc, settled_handlerCalls hpreviewed exc, ?_⟩
    rw [handler_known_iff handlerCalls_writes hsent.row.own]
    have hforgotten : (previewedView.status.isForgotten = false) ↔ False := by decide
    simp only [KnownAfter, hforgotten]
  | ok response =>
    dsimp only
    rw [Statement.catching_raises (recordOrder_raises hsent response)]
    have hafter := (simulates_onOrder i.outcomes.updateSubmitted
      (submittedUpdates response)).after hsent
    have hview := @after_updateLiveOrderLog (ownedElsewhere w.db i.requestId)
      i.outcomes.updateSubmitted (submittedUpdates response) previewedView
    refine ⟨_, handleSubmitError_sent hafter i.raised, settled_handlerCalls ?_ i.raised, ?_⟩
    · rw [hview]
      split
      · exact settled_update (.inl rfl) _
      · exact hpreviewed
    · rw [handler_known_iff handlerCalls_writes hafter.row.own]
      have hrecorded : (((OrderCall.updateLiveOrderLog i.outcomes.updateSubmitted
            (submittedUpdates response)).onView (ownedElsewhere w.db i.requestId)).after
            previewedView).status.isForgotten = false
          ↔ i.outcomes.updateSubmitted.Wrote
            ∧ ownedElsewhere w.db i.requestId response.orderUuid = false := by
        rw [hview]
        by_cases hwrote : i.outcomes.updateSubmitted.Wrote
        · rw [if_pos hwrote]
          have hupdated : previewedView.update (ownedElsewhere w.db i.requestId)
                (submittedUpdates response)
              = if ownedElsewhere w.db i.requestId response.orderUuid then ⟨.failed, none⟩
                else ⟨.submitted, some response.orderUuid⟩ := rfl
          rw [hupdated]
          cases ownedElsewhere w.db i.requestId response.orderUuid with
          | true => simp [OrderStatus.isForgotten]
          | false => simp [hwrote, OrderStatus.isForgotten]
        · rw [if_neg hwrote]
          simp [hwrote, previewedView, OrderStatus.isForgotten]
      simp only [KnownAfter, hrecorded]

theorem held_sends (h : MayBeHeld i.placeOrder) :
    (i.sends w).held = w.held ++ [{ requestId := i.requestId }] := by
  unfold sends
  cases hplaced : i.placeOrder with
  | ok response => rfl
  | error exc =>
    rw [hplaced] at h
    exact if_pos h

theorem held_sends_of_refused (h : ¬ MayBeHeld i.placeOrder) : (i.sends w).held = w.held := by
  unfold sends
  cases hplaced : i.placeOrder with
  | ok response =>
    rw [hplaced] at h
    exact absurd trivial h
  | error exc =>
    rw [hplaced] at h
    exact if_neg h

theorem mem_held_sends {o : HeldOrder} (ho : o ∈ (i.sends w).held) :
    o ∈ w.held ∨ MayBeHeld i.placeOrder ∧ o.requestId = i.requestId := by
  by_cases hmay : MayBeHeld i.placeOrder
  · rw [held_sends hmay, List.mem_append] at ho
    rcases ho with hold | hnew
    · exact .inl hold
    · exact .inr ⟨hmay, congrArg HeldOrder.requestId (List.mem_singleton.mp hnew)⟩
  · rw [held_sends_of_refused hmay] at ho
    exact .inl ho

end Order

/-! ## Turns -/

section Turn

variable {i : AutoPilotTurn} {session : AutoLiveSession} {w w' : AutoPilotWorld}

theorem open_of_finish {ids : List String} {o : HeldOrder} (ho : o ∈ (w.finish ids).held)
    (hopen : o.finished = false) : o ∈ w.held ∧ o.requestId ∉ ids := by
  obtain ⟨before, hbefore, rfl⟩ := List.mem_map.mp ho
  obtain ⟨hbefore_open, hnot⟩ := Bool.or_eq_false_iff.mp hopen
  have hsame : ({ before with finished := before.finished || ids.contains before.requestId } :
      HeldOrder) = before := by
    rw [hbefore_open, hnot]
    cases before
    cases hbefore_open
    rfl
  rw [hsame]
  exact ⟨hbefore, by simpa using hnot⟩

theorem kept_finish (h : w.Kept) (ids : List String) : (w.finish ids).Kept := by
  obtain ⟨hsound, hkeeps⟩ := h
  refine ⟨⟨hsound.own, hsound.sessions, hsound.pending, ?_⟩, ⟨?_, hkeeps.single⟩⟩
  · intro o ho
    obtain ⟨before, hbefore, rfl⟩ := List.mem_map.mp ho
    exact hsound.held before hbefore
  · intro o ho hopen
    exact hkeeps.unresolved o (open_of_finish ho hopen).1 hopen

theorem kept_submitPilotOrder (h : w.Kept) (hclosed : w.orderOpen = false) (hrow : i.Previewed w)
    (hok : MayBeHeld i.placeOrder → i.OrderKnown w.db ∨ i.requestId ∈ i.finishes) :
    ((i.submitPilotOrder session w).2.finish i.finishes).Kept := by
  obtain ⟨v, hsent, hsettled, hknown⟩ := @submitPilotOrder_sent i session w h.1 hrow
  have hheld := hsent.held
  refine ⟨⟨hsent.own, hsent.sessions, ?_, ?_⟩, ⟨?_, ?_⟩⟩
  · show ∀ s ∈ (i.submitPilotOrder session w).2.pending, s.lastOrderUuid = none
    rw [hsent.pending]
    exact h.1.pending
  · intro o ho
    obtain ⟨before, hbefore, rfl⟩ := List.mem_map.mp ho
    rw [hheld] at hbefore
    show liveOrderEventRequestIdFilter before.requestId = false
      ∧ ∃ t, termsOf (i.submitPilotOrder session w).2.db before.requestId = some t ∧ _
    rw [hsent.terms]
    rcases mem_held_sends hbefore with hold | ⟨-, hnew⟩
    · exact h.1.held before hold
    · obtain ⟨log, hlog, -, -, hmarket⟩ := hrow
      rw [hnew]
      refine ⟨requestId_canonical, log.terms, ?_, hmarket⟩
      unfold termsOf
      rw [hlog, Option.map_some]
  · intro o ho hopen
    obtain ⟨hmem, hnot⟩ := open_of_finish ho hopen
    rw [hheld] at hmem
    rcases mem_held_sends hmem with hold | ⟨hmay, hnew⟩
    · have hfinished := List.any_eq_false.mp hclosed o hold
      rw [hopen] at hfinished
      exact absurd rfl hfinished
    · rw [hnew] at hnot
      have hunforgotten : v.status.isForgotten = false :=
        hknown.mpr ((hok hmay).resolve_right hnot)
      obtain ⟨log, hlog, hstatus, -⟩ := hsent.row.row
      refine ⟨log.status, ?_, ?_⟩
      · show statusOf (i.submitPilotOrder session w).2.db o.requestId = _
        unfold statusOf
        rw [hnew, hlog, Option.map_some]
      · rw [hstatus, hsettled, hunforgotten]
        rfl
  · show (i.submitPilotOrder session w).2.doubled = false
    rw [hsent.doubled]
    show (w.doubled || w.orderOpen) = false
    rw [h.2.single, hclosed]
    rfl

theorem lost_submitPilotOrder (h : w.Kept) (hrow : i.Previewed w) (hmay : MayBeHeld i.placeOrder)
    (hunknown : ¬ i.OrderKnown w.db) (hnot : i.requestId ∉ i.finishes) :
    ((i.submitPilotOrder session w).2.finish i.finishes).Lost := by
  obtain ⟨v, hsent, hsettled, hknown⟩ := @submitPilotOrder_sent i session w h.1 hrow
  have hforgotten : v.status.isForgotten = true := by
    cases hv : v.status.isForgotten with
    | true => rfl
    | false => exact absurd (hknown.mp hv) hunknown
  have hmem : ({ requestId := i.requestId } : HeldOrder)
      ∈ (i.submitPilotOrder session w).2.held := by
    rw [hsent.held, held_sends hmay]
    exact List.mem_append_right _ (List.mem_singleton.mpr rfl)
  have hopen : i.finishes.contains i.requestId = false := by simpa using hnot
  obtain ⟨log, hlog, hstatus, -⟩ := hsent.row.row
  refine ⟨_, List.mem_map.mpr ⟨_, hmem, rfl⟩, hopen, log.status, ?_, ?_⟩
  · show statusOf (i.submitPilotOrder session w).2.db i.requestId = _
    unfold statusOf
    rw [hlog, Option.map_some]
  · rw [hstatus, hsettled, hforgotten]
    rfl

theorem run_of_processSession {P : AutoPilotWorld → Prop} (hP : Stable P)
    (h : P (i.processSession session w).2) : P (i.run session w).2 := by
  have hhandler : ∀ exc : ApiError, Triple P ((Statement.calls [updatesSession session
        i.outcomes.updateErrorSession { status := some .error }]).andThen
      (i.insertLog i.outcomes.insertErrorLog
        (blockedLog session i.errorHex "BLOCKED_API_RESPONSE_ERROR" exc.message none)))
      P (fun _ => P) := by
    intro exc
    refine Triple.andThen (triple_calls ?_) ((triple_insertLog hP _ rfl).weaken (fun _ h => h)
      (fun _ h => h.1) (fun _ _ h => h))
    intro c hc
    rw [List.mem_singleton.mp hc]
    exact keeps_updatesSession hP _ rfl
  unfold run Statement.catching
  match i.processSession session w, h with
  | (none, after), h => exact h
  | (some exc, after), h =>
    have hend := hhandler exc after h
    dsimp only
    match Statement.andThen _ _ after, hend with
    | (none, t), hend => exact hend
    | (some exc, t), hend => exact hend

/-- The order that a turn comes to place stays on record, or is finished by the end of it. -/
def Admits (i : AutoPilotTurn) (session : AutoLiveSession) (w : AutoPilotWorld) : Prop :=
  ∀ w', i.untilOrder session w = (none, w') → MayBeHeld i.placeOrder →
    i.OrderKnown w'.db ∨ i.requestId ∈ i.finishes

theorem processSession_eq (hsession : session.lastOrderUuid = none) :
    i.processSession session w
      = match i.untilOrder session w with
        | (some (.raised exc), w) => (some exc, w)
        | (some .returned, w) => (none, w)
        | (none, w) => i.submitPilotOrder session w := by
  have hunknown : ¬ textGiven session.lastOrderUuid = true := by
    rw [hsession]
    decide
  unfold processSession
  exact if_neg hunknown

theorem kept_run (h : w.Kept) (hsession : session.lastOrderUuid = none) (hok : i.Admits session w) :
    ((i.run session w).2.finish i.finishes).Kept := by
  refine run_of_processSession (stable_kept.finish i.finishes) ?_
  have huntil := @triple_untilOrder i session w h
  unfold Admits at hok
  rw [processSession_eq hsession]
  match i.untilOrder session w, huntil, hok with
  | (some (.raised exc), w'), huntil, _ => exact kept_finish huntil _
  | (some .returned, w'), huntil, _ => exact kept_finish huntil _
  | (none, w'), huntil, hok =>
    obtain ⟨⟨hkept, hclosed⟩, hrow⟩ := huntil
    exact kept_submitPilotOrder hkept hclosed hrow (hok w' rfl)

theorem lost_run (h : w.Kept) (hsession : session.lastOrderUuid = none)
    (hnot : ¬ i.Admits session w) : ((i.run session w).2.finish i.finishes).Lost := by
  refine run_of_processSession (stable_lost.finish i.finishes) ?_
  have huntil := @triple_untilOrder i session w h
  unfold Admits at hnot
  push Not at hnot
  obtain ⟨w', hreached, hmay, hunknown, hopen⟩ := hnot
  rw [hreached] at huntil
  rw [processSession_eq hsession, hreached]
  exact lost_submitPilotOrder huntil.1.1 huntil.2 hmay hunknown hopen

end Turn

end AutoPilotTurn

/-! ## Runs -/

/-- Where a run begins: no session knows an order. -/
structure AutoPilotStart where
  db : Database := {}
  sessions : Table AutoLiveSession := Table.empty
  strategyNames : List String := []
  own : OwnUuids db
  unplaced : ∀ s ∈ sessions.rows, s.lastOrderUuid = none

def AutoPilotStart.world (start : AutoPilotStart) : AutoPilotWorld :=
  { db := start.db, sessions := start.sessions, strategyNames := start.strategyNames }

/-- The order that an event comes to place stays on record. -/
def AutoPilotWorld.Admits (w : AutoPilotWorld) : AutoPilotEvent → Prop
  | .turn i => ∀ session pending, w.pending = session :: pending →
      i.Admits session { w with pending := pending }
  | _ => True

section Runs

variable {w : AutoPilotWorld}

theorem AutoPilotWorld.Kept.pending (h : w.Kept) {sessions : List AutoLiveSession}
    (hsessions : ∀ s ∈ sessions, s.lastOrderUuid = none) :
    AutoPilotWorld.Kept { w with pending := sessions } :=
  ⟨⟨h.1.own, h.1.sessions, hsessions, h.1.held⟩, ⟨h.2.unresolved, h.2.single⟩⟩

theorem kept_createSession (h : w.Kept) (exchange market : String) (orderAmountKrw : ℚ) :
    (w.createSession exchange market orderAmountKrw).Kept := by
  refine ⟨⟨h.1.own, ?_, h.1.pending, h.1.held⟩, ⟨h.2.unresolved, h.2.single⟩⟩
  intro s hs
  rcases List.mem_append.mp hs with hold | hnew
  · obtain ⟨r, hr, rfl⟩ := List.mem_map.mp hold
    split
    · exact h.1.sessions r hr
    · exact h.1.sessions r hr
  · rw [List.mem_singleton.mp hnew]

theorem AutoPilotWorld.Kept.turn (h : w.Kept) {session : AutoLiveSession}
    {pending : List AutoLiveSession} (hpending : w.pending = session :: pending) :
    session.lastOrderUuid = none ∧ AutoPilotWorld.Kept { w with pending := pending } := by
  have hnone : ∀ s ∈ session :: pending, s.lastOrderUuid = none := hpending ▸ h.1.pending
  exact ⟨hnone session List.mem_cons_self,
    h.pending (fun s hs => hnone s (List.mem_cons_of_mem _ hs))⟩

theorem kept_step (h : w.Kept) {event : AutoPilotEvent} (hok : w.Admits event) :
    (w.step event).Kept := by
  cases event with
  | starts exchange market orderAmountKrw => exact kept_createSession h _ _ _
  | stops =>
    show (w.latestSession.elim w (fun s => w.updateSession s.id _)).Kept
    cases w.latestSession with
    | none => exact h
    | some session => exact stable_kept.updateSession w session.id _ rfl h
  | tick =>
    show (if w.pending.isEmpty then { w with pending := w.runningSessions } else w).Kept
    split
    · exact h.pending (fun s hs => h.1.sessions s (Table.mem_select.mp hs).1)
    · exact h
  | finishes requestId => exact AutoPilotTurn.kept_finish h [requestId]
  | turn i =>
    cases hpending : w.pending with
    | nil =>
      have hsame : w.step (.turn i) = w := by
        unfold AutoPilotWorld.step
        dsimp only
        rw [hpending]
      rw [hsame]
      exact h
    | cons session pending =>
      obtain ⟨hsession, hworld⟩ := h.turn hpending
      have hkept := AutoPilotTurn.kept_run hworld hsession (hok session pending hpending)
      unfold AutoPilotWorld.step
      dsimp only
      rw [hpending]
      refine hkept.pending (fun s hs => ?_)
      have hmem : s ∈ if (i.run session { w with pending := pending }).1.isSome then []
          else (i.run session { w with pending := pending }).2.pending := hs
      split at hmem
      · cases hmem
      · exact hkept.1.pending s hmem

theorem lost_step (h : w.Kept) {event : AutoPilotEvent} (hnot : ¬ w.Admits event) :
    (w.step event).Lost := by
  cases event with
  | turn i =>
    unfold AutoPilotWorld.Admits at hnot
    push Not at hnot
    obtain ⟨session, pending, hpending, hloses⟩ := hnot
    obtain ⟨hsession, hworld⟩ := h.turn hpending
    have hlost := AutoPilotTurn.lost_run hworld hsession hloses
    unfold AutoPilotWorld.step
    dsimp only
    rw [hpending]
    exact hlost
  | _ => exact absurd trivial hnot

/-- **In which runs the pilot keeps its orders, and sends no second one**: exactly in those where
every order that is sent stays on record, or is finished by the end of its turn. -/
theorem auto_pilot_keeps_order_iff (start : AutoPilotStart) (events : List AutoPilotEvent) :
    (∀ n, (run AutoPilotWorld.step start.world (events.take n)).KeepsOrder)
      ↔ StepsOk AutoPilotWorld.step AutoPilotWorld.Admits start.world events := by
  refine forall_prefix_observed_iff (P := AutoPilotWorld.Kept) (fun w h => h.2)
    (fun w event h hok => kept_step h hok) (fun w event h => ?_) ?_ events
  · constructor
    · intro hkeeps
      by_contra hnot
      exact (lost_step h hnot).not_keepsOrder hkeeps
    · exact fun hok => (kept_step h hok).2
  · have hnone : ∀ o ∈ start.world.held, False := fun o ho => List.not_mem_nil ho
    have hidle : ∀ s ∈ start.world.pending, False := fun s hs => List.not_mem_nil hs
    exact ⟨⟨start.own, start.unplaced, fun s hs => (hidle s hs).elim,
      fun o ho => (hnone o ho).elim⟩, ⟨fun o ho => (hnone o ho).elim, rfl⟩⟩

/-! A run with no failure at all. -/

def exampleAutoPilotTurn (hex : HexText) (minute : UtcTime) : AutoPilotTurn where
  config := { liveAutoTradingEnabled := true, autoPilotEnabled := true }
  liveConfig := { liveTradingEnabled := true }
  env := { now := minute * 60 + 30 }
  recoveryBalances := some {}
  candle := some { tradePrice := 100000000, time := minute * 60, timeText := "" }
  signal := .buy
  availableKrw := 100000
  requestHex := hex
  blockedHex := hex
  errorHex := hex
  placeOrder := .ok { uuid := some (String.ofList hex.chars) }
  getOrder := .ok {}
  cancelOrder := .ok {}
  recheck := { getOrder := .ok {} }

def emptyAutoPilotStart : AutoPilotStart where
  own := fun _ ha => absurd ha List.not_mem_nil
  unplaced := fun _ hs => absurd hs List.not_mem_nil

def exampleAutoPilotRun (hex : HexText) (minute : UtcTime) : List AutoPilotEvent :=
  [.starts "bithumb" "KRW-BTC" 10000, .tick, .turn (exampleAutoPilotTurn hex minute)]

/-- **An order that was placed is lost, and a second one sent**, though nothing fails but the
name: the row is `FAILED` at the end of the first turn, and the next session buys again. -/
theorem auto_pilot_buys_twice :
    let world := run AutoPilotWorld.step emptyAutoPilotStart.world
    let first := exampleAutoPilotRun ⟨['a'], by decide⟩ 10
    let second := exampleAutoPilotRun ⟨['b'], by decide⟩ 11
    (world first).held = [{ requestId := "auto-a" }]
      ∧ statusOf (world first).db "auto-a" = some .failed ∧ ¬ (world first).KeepsOrder
      ∧ (world first).doubled = false
      ∧ (world (first ++ second)).doubled = true ∧ ¬ (world (first ++ second)).KeepsOrder := by
  intro world first second
  have hheld : (world first).held = [{ requestId := "auto-a" }] := by decide +kernel
  have hfailed : statusOf (world first).db "auto-a" = some .failed := by decide +kernel
  have hsecond : (world (first ++ second)).doubled = true := by decide +kernel
  refine ⟨hheld, hfailed, ?_, by decide +kernel, hsecond, fun hkeeps => ?_⟩
  · have hlost : (world first).Lost := by
      refine ⟨{ requestId := "auto-a" }, ?_, rfl, .failed, hfailed, rfl⟩
      rw [hheld]
      exact List.mem_singleton.mpr rfl
    exact hlost.not_keepsOrder
  · have hsingle := hkeeps.single
    rw [hsecond] at hsingle
    cases hsingle

end Runs

end AutoCoinBot
