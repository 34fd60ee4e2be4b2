/-
  LiveStrategyPilot.UnforgottenOrders — which submissions the order's row outlives.

  The exchange may hold an order that was placed, and one whose placing timed out. Its row is
  forgotten if it ends as `FAILED`, `BLOCKED` or `PREVIEWED`: no open-order sync reads it again and
  it blocks no new order.
-/
import AutoCoinBot.LiveExit.CanceledExits

namespace AutoCoinBot

open Library

/-! ## Forgotten rows -/

/-- Statuses that neither the open-order sync nor the guard against new orders looks at, and
that do not say how the order ended. -/
def OrderStatus.isForgotten : OrderStatus → Bool
  | .failed | .blocked | .previewed => true
  | _ => false

def Unforgotten (requestId : String) (db : Database) : Prop :=
  ∃ log, getLiveOrderLog db requestId = some log ∧ log.status.isForgotten = false

instance (requestId : String) (db : Database) : Decidable (Unforgotten requestId db) :=
  decidable_of_iff
    ((getLiveOrderLog db requestId).any (fun log => !log.status.isForgotten) = true)
    (by unfold Unforgotten; cases getLiveOrderLog db requestId <;> simp)

def MayBeHeld : Placed → Prop
  | .ok _ => True
  | .error exc => isTimeoutException exc = true

theorem unforgotten_iff {requestId : String} {owned : String → Bool} {v : OrderView} {db : Database}
    (hv : Shows requestId owned v db) : Unforgotten requestId db ↔ v.status.isForgotten = false := by
  obtain ⟨log, hlog, hstatus, -⟩ := hv.row
  unfold Unforgotten
  rw [hlog, ← hstatus]
  exact ⟨fun ⟨_, h, hknown⟩ => Option.some.inj h ▸ hknown, fun hknown => ⟨log, rfl, hknown⟩⟩

theorem normalizeExchangeOrder_known (raw : RawOrder) :
    (normalizeExchangeOrder raw).status.isForgotten = false := by
  simp only [normalizeExchangeOrder]
  split_ifs <;> rfl

/-! ## What the row shows -/

section Views

variable {owned : String → Bool}

def OrderCall.IsOther : OrderCall → Prop
  | .updateLiveOrderLog _ _ => False
  | .other _ _ => True

theorem onView_keeps_of_isOther {c : OrderCall} (hc : c.IsOther) (P : OrderView → Prop) :
    (c.onView owned).Keeps P := by
  cases c with
  | updateLiveOrderLog outcome updates => exact hc.elim
  | other outcome side => exact ⟨fun _ h => h, fun _ _ h => h⟩

theorem view_others {cs : List OrderCall} (hcs : ∀ c ∈ cs, c.IsOther) (v : OrderView) :
    (runCalls (cs.map (OrderCall.onView owned)) v).2 = v := by
  refine runCalls_keeps (P := fun w => w = v) ?_ rfl
  intro c hc
  obtain ⟨c', hc', rfl⟩ := List.mem_map.mp hc
  exact onView_keeps_of_isOther (hcs c' hc') _

theorem after_updateLiveOrderLog (outcome : Ending ApiError) (updates : LiveOrderLogUpdates)
    (v : OrderView) :
    ((OrderCall.updateLiveOrderLog outcome updates).onView owned).after v
      = if outcome.Wrote then v.update owned updates else v := by
  cases outcome with
  | returns => exact (if_pos trivial).symm
  | raises exc writes =>
    show (if writes = 0 then v else v.update owned updates) = if writes ≠ 0 then _ else _
    rw [ite_not]

theorem view_update_others {cs : List OrderCall} (hcs : ∀ c ∈ cs, c.IsOther)
    (outcome : Ending ApiError) (updates : LiveOrderLogUpdates) (v : OrderView) :
    (runCalls ((OrderCall.updateLiveOrderLog outcome updates :: cs).map (OrderCall.onView owned))
        v).2
      = if outcome.Wrote then v.update owned updates else v := by
  rw [List.map_cons]
  cases hexc : outcome.exc? with
  | none => rw [runCalls_cons_returns _ _ hexc, view_others hcs, after_updateLiveOrderLog]
  | some exc => rw [runCalls_cons_raises _ _ hexc, after_updateLiveOrderLog]

/-- The row shows an order that was placed as `uuid`. -/
def ShowsPlaced (uuid : String) (v : OrderView) : Prop :=
  v.status.isForgotten = false ∧ v.orderUuid = some uuid

/-- **Which body leaves the order recorded**: the write after `place_order` is reached and made,
and its uuid is no other order's. -/
theorem view_body_known_iff {before later : List OrderCall} {outcome : Ending ApiError}
    {updates : LiveOrderLogUpdates} {uuid : String} (hbefore : ∀ c ∈ before, c.IsOther)
    (hstatus : updates.status = some .submitted) (huuid : updates.orderUuid = some (some uuid))
    (hknown : owned uuid = false → ∀ c ∈ later, (c.onView owned).Keeps (ShowsPlaced uuid))
    (hduplicate : owned uuid = true → ∀ c ∈ later, c.IsOther)
    {v : OrderView} (hv : v.status.isForgotten = true) :
    (runCalls ((before ++ .updateLiveOrderLog outcome updates :: later).map
        (OrderCall.onView owned)) v).2.status.isForgotten = false
      ↔ firstError before = none ∧ outcome.Wrote ∧ owned uuid = false := by
  rw [List.map_append, runCalls_append, firstRaised_onView, view_others hbefore]
  cases hraised : firstError before with
  | some exc => simp [view_others hbefore, hv]
  | none =>
    have hupdate : v.update owned updates
        = if owned uuid then { status := .failed, orderUuid := v.orderUuid }
          else { status := .submitted, orderUuid := some uuid } := by
      simp [OrderView.update, hstatus, huuid]
    rw [if_neg (by simp)]
    cases howned : owned uuid with
    | true =>
      -- the write is refused, and nothing after it touches the row
      rw [view_update_others (hduplicate howned), hupdate, howned]
      split
      · simp [OrderStatus.isForgotten]
      · simp [hv]
    | false =>
      rw [howned] at hupdate
      rw [List.map_cons]
      have hafter := @after_updateLiveOrderLog owned outcome updates v
      by_cases hwrote : outcome.Wrote
      · rw [if_pos hwrote, hupdate, if_neg (by simp)] at hafter
        have hplaced : ShowsPlaced uuid
            (((OrderCall.updateLiveOrderLog outcome updates).onView owned).after v) := by
          rw [hafter]
          exact ⟨rfl, rfl⟩
        refine iff_of_true ?_ ⟨rfl, hwrote, rfl⟩
        cases hexc : outcome.exc? with
        | none =>
          rw [runCalls_cons_returns _ _ hexc]
          refine (runCalls_keeps ?_ hplaced).1
          intro c hc
          obtain ⟨c', hc', rfl⟩ := List.mem_map.mp hc
          exact hknown howned c' hc'
        | some exc =>
          rw [runCalls_cons_raises _ _ hexc]
          exact hplaced.1
      · -- a write that was not made did not return
        rw [if_neg hwrote] at hafter
        cases hexc : outcome.exc? with
        | none =>
          cases outcome with
          | returns => exact absurd trivial hwrote
          | raises exc writes => cases hexc
        | some exc =>
          rw [runCalls_cons_raises _ _ hexc, hafter]
          simp [hv, hwrote]

end Views

/-! ## Submissions -/

section Submit

variable (order : PreviewedOrder)

def PreviewedOrder.owned : String → Bool := ownedElsewhere order.db order.log.requestId

/-- What the row shows before the order is placed. -/
def previewedView : OrderView := { status := .previewed, orderUuid := none }

theorem shows_previewed :
    Shows order.log.requestId order.owned previewedView order.db where
  row := ⟨order.log, order.stored, order.previewed, order.unsent⟩
  others := fun _ => rfl
  own := ownedElsewhere_empty

/-- The order is recorded: nothing raises before the write after `place_order`, that write is
made, and no other order has the uuid. -/
def PlacedRecorded (before : List OrderCall) (outcome : Ending ApiError) (response : RawOrder) : Prop :=
  firstError before = none ∧ outcome.Wrote ∧ order.owned response.orderUuid = false

/-- The row is not forgotten after `raised`: a handler that knows timeouts and writes one down
makes up for a missing record, and one that writes `FAILED` loses it. -/
def KnownAfter (recorded : Prop) (catchesTimeouts : Bool) (unknownLog failedLog : Ending ApiError) :
    Option ApiError → Prop
  | none => recorded
  | some exc =>
    if catchesTimeouts = true ∧ isTimeoutException exc = true then unknownLog.Wrote ∨ recorded
    else recorded ∧ ¬ failedLog.Wrote

/-- A handler's write, before calls elsewhere. -/
def HandlerWrites (handler : ApiError → List OrderCall) (catchesTimeouts : Bool)
    (unknownLog failedLog : Ending ApiError) : Prop :=
  ∀ exc, ∃ outcome updates rest, handler exc = .updateLiveOrderLog outcome updates :: rest
    ∧ (∀ c ∈ rest, c.IsOther) ∧ updates.orderUuid = none
    ∧ if catchesTimeouts = true ∧ isTimeoutException exc = true then
        outcome = unknownLog ∧ updates.status = some .submitted
      else outcome = failedLog ∧ updates.status = some .failed

variable {order} {calls : RawOrder → List OrderCall} {handler : ApiError → List OrderCall}
  {catchesTimeouts : Bool} {unknownLog failedLog : Ending ApiError} {now : UtcTime}

theorem handler_known_iff (hhandler : HandlerWrites handler catchesTimeouts unknownLog failedLog)
    {owned : String → Bool} {v : OrderView} (hown : owned (toText v.orderUuid) = false)
    (exc : ApiError) :
    (runCalls ((handler exc).map (OrderCall.onView owned)) v).2.status.isForgotten = false
      ↔ KnownAfter (v.status.isForgotten = false) catchesTimeouts unknownLog failedLog
          (some exc) := by
  obtain ⟨outcome, updates, rest, heq, hrest, huuid, hwrite⟩ := hhandler exc
  have hupdate : (v.update owned updates).status = updates.status.getD v.status := by
    simp [OrderView.update, huuid, hown]
  rw [heq, view_update_others hrest]
  by_cases htimeout : catchesTimeouts = true ∧ isTimeoutException exc = true
  · rw [if_pos htimeout] at hwrite
    simp only [KnownAfter, if_pos htimeout, ← hwrite.1]
    split_ifs with hwrote
    · simp [hupdate, hwrite.2, hwrote, OrderStatus.isForgotten]
    · simp [hwrote]
  · rw [if_neg htimeout] at hwrite
    simp only [KnownAfter, if_neg htimeout, ← hwrite.1]
    split_ifs with hwrote
    · simp [hupdate, hwrite.2, hwrote, OrderStatus.isForgotten]
    · simp [hwrote]

def SubmissionKnown (placed : Placed) (recorded : RawOrder → Prop)
    (raised : RawOrder → Option ApiError) (catchesTimeouts : Bool)
    (unknownLog failedLog : Ending ApiError) : Prop :=
  match placed with
  | .ok response => KnownAfter (recorded response) catchesTimeouts unknownLog failedLog (raised response)
  -- nothing has recorded an order whose placing raised
  | .error exc =>
    isTimeoutException exc = true →
      KnownAfter False catchesTimeouts unknownLog failedLog (some exc)

theorem submit_unforgotten_iff {placed : Placed}
    (hhandler : HandlerWrites handler catchesTimeouts unknownLog failedLog)
    {recorded : RawOrder → Prop}
    (hbody : ∀ response, placed = .ok response →
      ((runCalls ((calls response).map (OrderCall.onView order.owned)) previewedView).2.status.isForgotten
        = false ↔ recorded response)) :
    (MayBeHeld placed → Unforgotten order.log.requestId (submit order placed calls handler now))
      ↔ SubmissionKnown placed recorded (fun response => firstError (calls response))
          catchesTimeouts unknownLog failedLog := by
  have hstart := shows_previewed order
  cases placed with
  | error exc =>
    have hown : order.owned (toText previewedView.orderUuid) = false := ownedElsewhere_empty
    have hend : Shows order.log.requestId order.owned _
        (submit order (.error exc) calls handler now) :=
      (runCalls_simulates (simulates_orderCalls _ now order.owned (handler exc)) hstart).2
    rw [unforgotten_iff hend, handler_known_iff hhandler hown]
    have hforgotten : (previewedView.status.isForgotten = false) ↔ False := by decide
    simp only [SubmissionKnown, MayBeHeld, KnownAfter, hforgotten]
  | ok response =>
    have hbody := hbody response rfl
    have hend : Shows order.log.requestId order.owned _
        (submit order (.ok response) calls handler now) :=
      (tryCalls_simulates (simulates_orderCalls _ now order.owned (calls response))
        (fun exc => simulates_orderCalls _ now order.owned (handler exc)) hstart).2
    have hmiddle := (runCalls_simulates
      (simulates_orderCalls order.log.requestId now order.owned (calls response)) hstart).2
    have hraised := runCalls_fst ((calls response).map (OrderCall.onView order.owned)) previewedView
    rw [firstRaised_onView] at hraised
    rw [unforgotten_iff hend]
    simp only [MayBeHeld, true_imp_iff, SubmissionKnown, tryCalls]
    cases hrun : runCalls ((calls response).map (OrderCall.onView order.owned)) previewedView with
    | mk exc v =>
      rw [hrun] at hbody hraised hmiddle
      rw [← hraised]
      cases exc with
      | none => exact hbody
      | some exc =>
        dsimp only at hbody ⊢
        rw [handler_known_iff hhandler hmiddle.own]
        simp only [KnownAfter, hbody]

end Submit

/-! ## What the bodies keep -/

section Bodies

variable {owned : String → Bool} {uuid : String}

/-- The call brings no uuid but `uuid`. -/
def OrderCall.BringsOnly (uuid : String) : OrderCall → Prop
  | .updateLiveOrderLog _ updates =>
    updates.orderUuid = none ∨ updates.orderUuid = some (some uuid)
  | .other _ _ => True

/-- The row has no uuid yet, or this one, which is no other order's. -/
def UuidOnly (owned : String → Bool) (uuid : String) (v : OrderView) : Prop :=
  v.orderUuid = none ∨ (v.orderUuid = some uuid ∧ owned uuid = false)

theorem keeps_uuidOnly {c : OrderCall} (hc : c.BringsOnly uuid) :
    (c.onView owned).Keeps (UuidOnly owned uuid) := by
  cases c with
  | other outcome side => exact ⟨fun _ h => h, fun _ _ h => h⟩
  | updateLiveOrderLog outcome updates =>
    have hupdate : ∀ v, UuidOnly owned uuid v → UuidOnly owned uuid (v.update owned updates) := by
      intro v hv
      unfold OrderView.update
      split
      · exact hv
      · rename_i hfree
        rcases hc with hnone | hsome
        · rw [hnone] at hfree ⊢
          exact hv
        · rw [hsome] at hfree ⊢
          exact .inr ⟨rfl, by simpa using hfree⟩
    refine ⟨hupdate, fun writes v hv => ?_⟩
    show UuidOnly owned uuid (if writes = 0 then v else v.update owned updates)
    split
    · exact hv
    · exact hupdate v hv

theorem keeps_showsPlaced {outcome : Ending ApiError} {updates : LiveOrderLogUpdates}
    (hfree : owned uuid = false)
    (hbrings : updates.orderUuid = none ∨ updates.orderUuid = some (some uuid))
    {status : OrderStatus} (hstatus : updates.status = some status)
    (hknown : status.isForgotten = false) :
    ((OrderCall.updateLiveOrderLog outcome updates).onView owned).Keeps (ShowsPlaced uuid) := by
  have hupdate : ∀ v, ShowsPlaced uuid v → ShowsPlaced uuid (v.update owned updates) := by
    rintro v ⟨-, huuid⟩
    have hsame : updates.orderUuid.getD v.orderUuid = some uuid := by
      rcases hbrings with h | h
      · rw [h]
        exact huuid
      · rw [h]
        rfl
    unfold OrderView.update
    rw [hsame, toText_some, hfree, hstatus]
    exact ⟨hknown, rfl⟩
  refine ⟨hupdate, fun writes v hv => ?_⟩
  show ShowsPlaced uuid (if writes = 0 then v else v.update owned updates)
  split
  · exact hv
  · exact hupdate v hv

theorem latest_orderUuid {order : PreviewedOrder} {before : List OrderCall} {now : UtcTime}
    (hbefore : ∀ c ∈ before, c.BringsOnly uuid) {latest : LiveOrderLog}
    (hlatest : getLiveOrderLog (afterCalls order before now) order.log.requestId = some latest) :
    latest.orderUuid = none ∨ (latest.orderUuid = some uuid ∧ order.owned uuid = false) := by
  have hshows := (runCalls_simulates
    (simulates_orderCalls order.log.requestId now order.owned before) (shows_previewed order)).2
  obtain ⟨log, hlog, -, huuid⟩ := hshows.row
  have hsame : log = latest := Option.some.inj (hlog.symm.trans hlatest)
  rw [← hsame, huuid]
  refine runCalls_keeps (P := UuidOnly order.owned uuid) ?_ (.inl rfl)
  intro c hc
  obtain ⟨c', hc', rfl⟩ := List.mem_map.mp hc
  exact keeps_uuidOnly (hbefore c' hc')

end Bodies

/-- Calls that are all elsewhere, or a row that shows the order placed. -/
def KeepsPlaced (owned : String → Bool) (uuid : String) (cs : List OrderCall) : Prop :=
  (owned uuid = false → ∀ c ∈ cs, (c.onView owned).Keeps (ShowsPlaced uuid))
    ∧ (owned uuid = true → ∀ c ∈ cs, c.IsOther)

section KeepsPlaced

variable {owned : String → Bool} {uuid : String} {cs cs' : List OrderCall}

theorem KeepsPlaced.of_others (h : ∀ c ∈ cs, c.IsOther) : KeepsPlaced owned uuid cs :=
  ⟨fun _ c hc => onView_keeps_of_isOther (h c hc) _, fun _ => h⟩

theorem KeepsPlaced.append (h : KeepsPlaced owned uuid cs) (h' : KeepsPlaced owned uuid cs') :
    KeepsPlaced owned uuid (cs ++ cs') :=
  ⟨fun hfree => List.forall_mem_append.mpr ⟨h.1 hfree, h'.1 hfree⟩,
    fun hown => List.forall_mem_append.mpr ⟨h.2 hown, h'.2 hown⟩⟩

theorem KeepsPlaced.of_free (hfree : owned uuid = false)
    (h : ∀ c ∈ cs, (c.onView owned).Keeps (ShowsPlaced uuid)) : KeepsPlaced owned uuid cs :=
  ⟨fun _ => h, fun hown => absurd (hfree.symm.trans hown) Bool.false_ne_true⟩

end KeepsPlaced

theorem body_known_iff {order : PreviewedOrder} {before later : List OrderCall}
    {outcome : Ending ApiError} {updates : LiveOrderLogUpdates} {response : RawOrder}
    (hbefore : ∀ c ∈ before, c.IsOther) (hstatus : updates.status = some .submitted)
    (huuid : updates.orderUuid = some (some response.orderUuid))
    (hlater : KeepsPlaced order.owned response.orderUuid later) :
    (runCalls ((before ++ .updateLiveOrderLog outcome updates :: later).map
        (OrderCall.onView order.owned)) previewedView).2.status.isForgotten = false
      ↔ PlacedRecorded order before outcome response :=
  view_body_known_iff hbefore hstatus huuid hlater.1 hlater.2 rfl

/-! ## The four submitters -/

section Smart

variable (order : PreviewedOrder) (sessionId positionId : ℕ) (now : UtcTime)

theorem smartHandler_writes (o : SmartOutcomes) (unknownLog : Ending ApiError) :
    HandlerWrites (smartHandler o sessionId) false unknownLog o.updateFailedLog := by
  intro exc
  refine ⟨_, _, _, rfl, ?_, rfl, by simp [failedUpdates]⟩
  cases o.hasIntent <;> simp [OrderCall.IsOther]

theorem smartIntentCalls_known (o : SmartOutcomes) (response : RawOrder) :
    (runCalls ((smartIntentCalls o sessionId response).map (OrderCall.onView order.owned))
        previewedView).2.status.isForgotten = false
      ↔ PlacedRecorded order [] o.updateLiveOrderLog response := by
  have hothers : ∀ c ∈ (smartIntentCalls o sessionId response).tail, c.IsOther := by
    unfold smartIntentCalls
    cases o.hasIntent <;> cases o.hasAccumulator <;> simp [OrderCall.IsOther]
  have hbody : smartIntentCalls o sessionId response
      = [] ++ .updateLiveOrderLog o.updateLiveOrderLog (submittedUpdates response)
          :: (smartIntentCalls o sessionId response).tail := rfl
  rw [hbody]
  exact body_known_iff (by simp) rfl rfl (KeepsPlaced.of_others hothers)

theorem smartIntentSellCalls_known (o : SmartSellOutcomes) (response : RawOrder) :
    (runCalls ((smartIntentSellCalls o sessionId positionId now response).map
        (OrderCall.onView order.owned)) previewedView).2.status.isForgotten = false
      ↔ PlacedRecorded order [] o.updateLiveOrderLog response := by
  have hothers : ∀ c ∈ (smartIntentSellCalls o sessionId positionId now response).tail,
      c.IsOther := by
    unfold smartIntentSellCalls
    cases o.hasIntent <;> cases o.hasAccumulator <;> simp [OrderCall.IsOther]
  have hbody : smartIntentSellCalls o sessionId positionId now response
      = [] ++ .updateLiveOrderLog o.updateLiveOrderLog (submittedUpdates response)
          :: (smartIntentSellCalls o sessionId positionId now response).tail := rfl
  rw [hbody]
  exact body_known_iff (by simp) rfl rfl (KeepsPlaced.of_others hothers)

end Smart

section Entry

variable (order : PreviewedOrder) (o : EntryOutcomes) (session : SyncSession) (market : String)
  (env : SyncEnv)

theorem entryHandler_writes :
    HandlerWrites (entryHandler o session market) true o.updateUnknownLog o.updateFailedLog := by
  intro exc
  unfold entryHandler
  cases htimeout : isTimeoutException exc with
  | true =>
    refine ⟨_, _, _, rfl, by simp [OrderCall.IsOther], rfl, ?_⟩
    rw [if_pos ⟨rfl, rfl⟩]
    exact ⟨rfl, rfl⟩
  | false =>
    refine ⟨_, _, _, rfl, by simp [OrderCall.IsOther], rfl, ?_⟩
    simp [failedUpdates]

theorem entryCallsRechecked_others (reconciled : ReconciledOrderStatus) (positionId : Option ℕ) :
    ∀ c ∈ entryCallsRechecked o session market env reconciled positionId, c.IsOther := by
  unfold entryCallsRechecked
  split <;> simp [OrderCall.IsOther]

theorem reconcileOrderLogCalls_keepsPlaced {owned : String → Bool} {uuid : String}
    (r : RecheckOutcomes) {latest : LiveOrderLog} (source : String)
    (hanswers : ∀ raw, r.getOrder = .ok raw → raw.orderUuid = "" ∨ raw.orderUuid = uuid)
    (hlatest : latest.orderUuid = none ∨ (latest.orderUuid = some uuid ∧ owned uuid = false)) :
    KeepsPlaced owned uuid (reconcileOrderLogCalls env r latest source).1 := by
  unfold reconcileOrderLogCalls
  split_ifs with hempty
  · exact KeepsPlaced.of_others (by simp [OrderCall.IsOther])
  · rcases hlatest with hnone | ⟨huuid, hfree⟩
    · exact absurd (by rw [hnone]; rfl) hempty
    · split
      · split_ifs
        · refine KeepsPlaced.of_free hfree (List.forall_mem_cons.mpr ⟨?_, ?_⟩)
          · exact keeps_showsPlaced hfree (.inl rfl) rfl rfl
          · exact (KeepsPlaced.of_others (by simp [OrderCall.IsOther])).1 hfree
        · exact KeepsPlaced.of_others (by simp [OrderCall.IsOther])
      · rename_i raw hraw
        have hbrings : (reconciledUpdates latest (normalizeExchangeOrder raw)).orderUuid
            = some (some uuid) := by
          show some (if raw.orderUuid = "" then latest.orderUuid else some raw.orderUuid) = _
          rcases hanswers raw hraw with hanon | hsame
          · rw [if_pos hanon, huuid]
          · rw [hsame, huuid, ite_self]
        refine KeepsPlaced.of_free hfree ?_
        unfold applyReconciledCalls
        refine List.forall_mem_append.mpr ⟨List.forall_mem_cons.mpr ⟨?_, ?_⟩, ?_⟩
        · exact keeps_showsPlaced hfree (.inr hbrings) rfl (normalizeExchangeOrder_known raw)
        · exact (KeepsPlaced.of_others (by simp [OrderCall.IsOther])).1 hfree
        · refine (KeepsPlaced.of_others ?_).1 hfree
          split_ifs <;> simp [OrderCall.IsOther]

theorem entryCalls_known {response : RawOrder} (hplaced : o.placeOrder = .ok response) :
    (runCalls ((entryCalls order o session market env response).map
        (OrderCall.onView order.owned)) previewedView).2.status.isForgotten = false
      ↔ PlacedRecorded order
          [.other o.updateReservation
            (reservationSubmittedEffect session.candidateStrategyId market)]
          o.updateLiveOrderLog response := by
  have hbefore : ∀ c ∈ entryCallsBefore o session market response,
      c.BringsOnly response.orderUuid := by
    simp [entryCallsBefore, OrderCall.BringsOnly, submittedUpdates]
  have hrecheck : KeepsPlaced order.owned response.orderUuid
      (entryCallsRecheck order o session market env response) := by
    unfold entryCallsRecheck
    dsimp only
    split
    · exact KeepsPlaced.of_others (by simp)
    · rename_i latest hlatest
      have hcalls := reconcileOrderLogCalls_keepsPlaced env o.recheck "POST_SUBMIT_STATUS_RECHECK"
        (fun raw hraw => o.answers response raw hplaced hraw) (latest_orderUuid hbefore hlatest)
      split_ifs
      · exact KeepsPlaced.of_others (by simp)
      · split
        · exact hcalls
        · exact hcalls.append (KeepsPlaced.of_others (entryCallsRechecked_others o session market env _ _))
  have hbody : entryCalls order o session market env response
      = [.other o.updateReservation
            (reservationSubmittedEffect session.candidateStrategyId market)]
        ++ .updateLiveOrderLog o.updateLiveOrderLog (submittedUpdates response)
          :: ((entryCallsBefore o session market response).drop 2
            ++ entryCallsRecheck order o session market env response) := rfl
  have hothers : ∀ c ∈ (entryCallsBefore o session market response).drop 2, c.IsOther := by
    simp [entryCallsBefore, OrderCall.IsOther]
  rw [hbody]
  exact body_known_iff (by simp [OrderCall.IsOther]) rfl rfl
    ((KeepsPlaced.of_others hothers).append hrecheck)

end Entry

section Exit

variable (order : PreviewedOrder) (o : ExitOutcomes) (now : UtcTime)

theorem exitHandler_writes :
    HandlerWrites (exitHandler order o now) true o.updateUnknownLog o.updateFailedLog := by
  intro exc
  unfold exitHandler
  cases htimeout : isTimeoutException exc with
  | true =>
    refine ⟨_, _, _, rfl, ?_, rfl, ?_⟩
    · cases exitCandidateOf order <;> simp [OrderCall.IsOther]
    · rw [if_pos ⟨rfl, rfl⟩]
      exact ⟨rfl, rfl⟩
  | false =>
    refine ⟨_, _, _, rfl, ?_, rfl, by simp [failedUpdates]⟩
    cases exitPositionOf order <;> simp [OrderCall.IsOther]

theorem exitPositionCalls_others (position : LivePosition) (orderUuid : String) :
    ∀ c ∈ exitPositionCalls order o now position orderUuid, c.IsOther := by
  unfold exitPositionCalls
  intro c hc
  rcases List.mem_append.mp hc with hc | hc
  · rcases List.mem_append.mp hc with hc | hc
    · rw [List.mem_singleton.mp hc]
      trivial
    · obtain ⟨id, -, hid⟩ := List.mem_filterMap.mp hc
      cases id with
      | none =>
        rw [← Option.some.inj hid]
        trivial
      | some id =>
        dsimp only at hid
        split at hid
        · rw [← Option.some.inj hid]
          trivial
        · cases hid
  · rw [List.mem_singleton.mp hc]
    trivial

theorem exitCallsBefore_tail (response : RawOrder) :
    ∀ c ∈ (exitCallsBefore order o now response).tail, c.IsOther := by
  refine List.forall_mem_append.mpr ⟨?_, ?_⟩
  · cases exitCandidateOf order <;> simp [OrderCall.IsOther]
  · cases exitPositionOf order with
    | none => simp
    | some position => exact exitPositionCalls_others order o now position _

theorem reconcileExitOrderCalls_keepsPlaced {owned : String → Bool} {uuid : String}
    (r : ExitRecheckOutcomes) {db : Database} {requestId : String}
    (hlatest : ∀ latest, getLiveOrderLog db requestId = some latest →
      latest.orderUuid = none ∨ (latest.orderUuid = some uuid ∧ owned uuid = false)) :
    KeepsPlaced owned uuid (reconcileExitOrderCalls r db requestId now) := by
  have hget : KeepsPlaced owned uuid [.other r.getLiveOrderLog .elsewhere] :=
    KeepsPlaced.of_others (by simp [OrderCall.IsOther])
  refine hget.append ?_
  split
  · exact KeepsPlaced.of_others (by simp)
  · rename_i log hlog
    obtain ⟨hrow, hsubmitted⟩ := Option.filter_eq_some_iff.mp hlog
    rcases hlatest log hrow with hnone | ⟨-, hfree⟩
    · simp [hnone] at hsubmitted
    · split
      · exact KeepsPlaced.of_others (by simp [OrderCall.IsOther])
      · rename_i raw _
        refine KeepsPlaced.of_free hfree ?_
        refine List.forall_mem_append.mpr ⟨List.forall_mem_append.mpr ⟨?_, ?_⟩, ?_⟩
        · refine List.forall_mem_cons.mpr ⟨?_, List.forall_mem_cons.mpr ⟨?_, by simp⟩⟩
          · exact onView_keeps_of_isOther (c := .other r.loadLivePosition .elsewhere) trivial _
          · exact keeps_showsPlaced hfree (.inl rfl) rfl (normalizeExchangeOrder_known raw)
        · refine (KeepsPlaced.of_others ?_).1 hfree
          split <;> simp [OrderCall.IsOther]
        · exact (KeepsPlaced.of_others (by simp [OrderCall.IsOther])).1 hfree

theorem exitCalls_known (response : RawOrder) :
    (runCalls ((exitCalls order o now response).map (OrderCall.onView order.owned))
        previewedView).2.status.isForgotten = false
      ↔ PlacedRecorded order [] o.updateLiveOrderLog response := by
  have hbefore : ∀ c ∈ exitCallsBefore order o now response, c.BringsOnly response.orderUuid := by
    refine List.forall_mem_cons.mpr ⟨.inr rfl, fun c hc => ?_⟩
    have hother := exitCallsBefore_tail order o now response c hc
    cases c with
    | updateLiveOrderLog outcome updates => exact hother.elim
    | other outcome side => trivial
  have hrecheck : KeepsPlaced order.owned response.orderUuid
      (if response.orderUuid ≠ "" then
        reconcileExitOrderCalls o.recheck
          (afterCalls order (exitCallsBefore order o now response) now) order.log.requestId now
      else []) := by
    split
    · exact reconcileExitOrderCalls_keepsPlaced now o.recheck
        (fun latest hlatest => latest_orderUuid hbefore hlatest)
    · exact KeepsPlaced.of_others (by simp)
  have hlast : KeepsPlaced order.owned response.orderUuid [.other o.getLatestLog .elsewhere] :=
    KeepsPlaced.of_others (by simp [OrderCall.IsOther])
  have hbody : exitCalls order o now response
      = [] ++ .updateLiveOrderLog o.updateLiveOrderLog
            { submittedUpdates response with errorMessage := some none }
          :: (exitCalls order o now response).tail := rfl
  rw [hbody]
  exact body_known_iff (by simp) rfl rfl
    (((KeepsPlaced.of_others (exitCallsBefore_tail order o now response)).append hrecheck).append
      hlast)

end Exit

/-- **Which submissions the order's row outlives**, for each of the four submitters. -/
theorem submissions_unforgotten_iff (order : PreviewedOrder) :
    (∀ (o : SmartOutcomes) (sessionId : ℕ) (now : UtcTime),
      (MayBeHeld o.placeOrder →
          Unforgotten order.log.requestId (submitSmartIntentOrder order o sessionId now))
        ↔ SubmissionKnown o.placeOrder (PlacedRecorded order [] o.updateLiveOrderLog)
            (fun response => firstError (smartIntentCalls o sessionId response))
            false .returns o.updateFailedLog)
    ∧ (∀ (o : SmartSellOutcomes) (sessionId positionId : ℕ) (now : UtcTime),
      (MayBeHeld o.placeOrder →
          Unforgotten order.log.requestId
            (submitSmartIntentSellOrder order o sessionId positionId now))
        ↔ SubmissionKnown o.placeOrder (PlacedRecorded order [] o.updateLiveOrderLog)
            (fun response => firstError (smartIntentSellCalls o sessionId positionId now response))
            false .returns o.updateFailedLog)
    ∧ (∀ (o : EntryOutcomes) (session : SyncSession) (market : String) (env : SyncEnv),
      (MayBeHeld o.placeOrder →
          Unforgotten order.log.requestId (submitEntryOrder order o session market env))
        ↔ SubmissionKnown o.placeOrder
            (PlacedRecorded order
              [.other o.updateReservation
                (reservationSubmittedEffect session.candidateStrategyId market)]
              o.updateLiveOrderLog)
            (fun response => firstError (entryCalls order o session market env response))
            true o.updateUnknownLog o.updateFailedLog)
    ∧ (∀ (o : ExitOutcomes) (now : UtcTime),
      (MayBeHeld o.placeOrder → Unforgotten order.log.requestId (submitExitOrder order o now))
        ↔ SubmissionKnown o.placeOrder (PlacedRecorded order [] o.updateLiveOrderLog)
            (fun response => firstError (exitCalls order o now response))
            true o.updateUnknownLog o.updateFailedLog) := by
  refine ⟨?_, ?_, ?_, ?_⟩
  · intro o sessionId now
    exact submit_unforgotten_iff (smartHandler_writes sessionId o .returns)
      (fun response _ => smartIntentCalls_known order sessionId o response)
  · intro o sessionId positionId now
    exact submit_unforgotten_iff (smartHandler_writes sessionId o.toSmartOutcomes .returns)
      (fun response _ => smartIntentSellCalls_known order sessionId positionId now o response)
  · intro o session market env
    exact submit_unforgotten_iff (entryHandler_writes o session market)
      (fun _ hplaced => entryCalls_known order o session market env hplaced)
  · intro o now
    exact submit_unforgotten_iff (exitHandler_writes order o now)
      (fun response _ => exitCalls_known order o now response)

/-- A row written before its order is placed. -/
def examplePreviewedOrder : PreviewedOrder where
  db :=
    { liveOrderLogs := Table.empty.insert
        (fun id => { id := id, requestId := "strategy-1", market := "KRW-BTC" }) (fun _ => rfl)
      requestId_unique := by decide }
  log := { id := 1, requestId := "strategy-1", market := "KRW-BTC" }
  stored := by decide +kernel
  previewed := rfl
  unsent := rfl

/-- The placing of a smart order times out, and the row says `FAILED`; an entry order is placed,
its reservation cannot be written, and the row says `FAILED` as well. -/
theorem held_orders_forgotten :
    (let timeout : ApiError := { isTimeoutType := true, message := "The read operation timed out" }
     let o : SmartOutcomes := { placeOrder := .error timeout }
     MayBeHeld o.placeOrder
      ∧ ¬ Unforgotten "strategy-1" (submitSmartIntentOrder examplePreviewedOrder o 1 0))
    ∧ (let locked : ApiError := { message := "database is locked" }
       let o : EntryOutcomes :=
        { placeOrder := .ok { uuid := some "C0101000001799999999" }
          updateReservation := .raises locked 0
          recheck := { getOrder := .ok {} }
          answers := by
            intro response raw _ hraw
            exact .inl (Except.ok.inj hraw ▸ rfl) }
       MayBeHeld o.placeOrder
        ∧ ¬ Unforgotten "strategy-1"
            (submitEntryOrder examplePreviewedOrder o ⟨1, "bithumb", "KRW-BTC", 1, none, none, none⟩
              "KRW-BTC" { now := 0 })) := by
  have htimeout : isTimeoutException
      { isTimeoutType := true, message := "The read operation timed out" } = true := rfl
  exact ⟨⟨htimeout, by decide +kernel⟩, trivial, by decide +kernel⟩

end AutoCoinBot
