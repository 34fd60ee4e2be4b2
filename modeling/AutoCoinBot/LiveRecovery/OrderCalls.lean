/-
  LiveRecovery.OrderCalls — the calls made around one order, each of which may raise.

  Of an order's row the calls see to, some rewrite it with `update_live_order_log`; the others
  write elsewhere, or add no more than a position id or a profit to it. Whose order a log is, and
  what has been executed of it, a sync of positions leaves as it was.
-/
import AutoCoinBot.Database.OrderRows
import AutoCoinBot.Library.Calls
import AutoCoinBot.LivePositionSync.Readings
import AutoCoinBot.LiveRecovery.Reconcile

namespace AutoCoinBot

open Library

/-! ## Exceptions -/

/-- An exception, as the handlers look at it. -/
structure ApiError where
  isTimeoutType : Bool := false
  message : String := ""

def isTimeoutException (exc : ApiError) : Bool :=
  exc.isTimeoutType || containsText "timeout" exc.message.toLower
    || containsText "timed out" exc.message.toLower

def isOrderNotFoundError (exc : ApiError) : Bool :=
  ["not_found", "not found", "404"].any (fun pat => containsText pat exc.message.toLower)

/-! ## Calls -/

/-- Writes that leave status and uuid of every order's row alone, done whole or in part. -/
structure SideEffect where
  effect : Database → Database
  partly : ℕ → Database → Database := fun writes db => if writes = 0 then db else effect db
  effect_shows : ∀ {requestId owned v db}, Shows requestId owned v db →
    Shows requestId owned v (effect db)
  partly_shows : ∀ {requestId owned v db} (writes : ℕ), Shows requestId owned v db →
    Shows requestId owned v (partly writes db)

/-- A write that leaves the order logs alone. -/
def SideEffect.ofTable (effect : Database → Database)
    (h : ∀ db, (effect db).liveOrderLogs = db.liveOrderLogs) : SideEffect where
  effect := effect
  effect_shows := fun hv => shows_congr (h _) hv
  partly_shows := by
    intro requestId owned v db writes hv
    split
    · exact hv
    · exact shows_congr (h db) hv

/-- A call that writes tables the model does not have, or none. -/
def SideEffect.elsewhere : SideEffect := SideEffect.ofTable id (fun _ => rfl)

/-- A call made while the order of one request is seen to. -/
inductive OrderCall where
  | updateLiveOrderLog (outcome : Ending ApiError) (updates : LiveOrderLogUpdates)
  | other (outcome : Ending ApiError) (side : SideEffect)

def OrderCall.outcome : OrderCall → Ending ApiError
  | .updateLiveOrderLog outcome _ => outcome
  | .other outcome _ => outcome

def OrderCall.onDatabase (requestId : String) (now : UtcTime) : OrderCall → Call Database ApiError
  | .updateLiveOrderLog outcome updates =>
    { outcome := outcome
      effect := fun db => AutoCoinBot.updateLiveOrderLog db requestId updates now }
  | .other outcome side =>
    { outcome := outcome, effect := side.effect, partly := side.partly }

def OrderCall.onView (owned : String → Bool) : OrderCall → Call OrderView ApiError
  | .updateLiveOrderLog outcome updates =>
    { outcome := outcome, effect := fun v => v.update owned updates }
  | .other outcome _ => { outcome := outcome, effect := id, partly := fun _ => id }

section Calls

variable (requestId : String) (now : UtcTime) (owned : String → Bool)

@[simp] theorem outcome_onView (c : OrderCall) : (c.onView owned).outcome = c.outcome := by
  cases c <;> rfl

theorem simulates_orderCall (c : OrderCall) :
    Call.Simulates (Shows requestId owned) (c.onView owned) (c.onDatabase requestId now) := by
  cases c with
  | updateLiveOrderLog outcome updates =>
    exact Call.simulates_of_effect (fun v db hv => shows_updateLiveOrderLog updates now hv)
  | other outcome side =>
    exact ⟨rfl, fun _ _ hv => side.effect_shows hv, fun writes _ _ hv => side.partly_shows writes hv⟩

theorem simulates_orderCalls (cs : List OrderCall) :
    List.Forall₂ (Call.Simulates (Shows requestId owned)) (cs.map (OrderCall.onView owned))
      (cs.map (OrderCall.onDatabase requestId now)) := by
  rw [List.forall₂_map_left_iff, List.forall₂_map_right_iff, List.forall₂_same]
  exact fun c _ => simulates_orderCall requestId now owned c

def firstError (cs : List OrderCall) : Option ApiError := cs.findSome? (fun c => c.outcome.exc?)

theorem firstRaised_onView (cs : List OrderCall) :
    firstRaised (cs.map (OrderCall.onView owned)) = firstError cs := by
  unfold firstRaised firstError
  rw [List.findSome?_map]
  simp only [Function.comp_def, outcome_onView]

end Calls

/-! ## Position syncs leave the row's status alone -/

section Positions

variable {requestId : String} {owned : String → Bool} {v : OrderView} {db : Database}

theorem shows_applyWrites (now : UtcTime) (ws : List SyncWrite) (hv : Shows requestId owned v db) :
    Shows requestId owned v (applyWrites now db ws) := by
  induction ws generalizing db with
  | nil => exact hv
  | cons w ws ih =>
    rw [applyWrites_cons]
    refine ih ?_
    cases hw : w.attachesLog with
    | false => exact shows_congr (liveOrderLogs_apply_of_not_attachesLog now db hw) hv
    | true =>
      cases w with
      | attachLog r i =>
        have hquiet : Shows requestId owned v (updateLiveOrderLog db r
            { positionId := some (some i) } now) := shows_updateQuiet r rfl rfl now hv
        exact hquiet
      | _ => cases hw

theorem createLivePosition_liveOrderLogs (db : Database) (position : ℕ → LivePosition)
    (hid : ∀ k, (position k).id = k) :
    (createLivePosition db position hid).liveOrderLogs = db.liveOrderLogs := rfl

theorem adoptPositionInRelevantSession_liveOrderLogs (db : Database) (log : LiveOrderLog)
    (positionId : ℕ) (riskResult : String) :
    (adoptPositionInRelevantSession db log positionId riskResult).liveOrderLogs
      = db.liveOrderLogs := by
  unfold adoptPositionInRelevantSession
  simp only
  split
  · split <;> rfl
  · split
    · split <;> rfl
    · split <;> rfl

theorem shows_ensureFilledEntryOrderPosition (env : SyncEnv) (log : LiveOrderLog) (source : String)
    (hv : Shows requestId owned v db) :
    Shows requestId owned v (ensureFilledEntryOrderPosition env db log source) := by
  unfold ensureFilledEntryOrderPosition
  split
  · exact hv
  · rename_i call _
    have hsynced : Shows requestId owned v (syncFilledEntryOrderToPosition env db call).1 :=
      shows_applyWrites env.now _ hv
    dsimp only
    split
    · exact shows_congr (adoptPositionInRelevantSession_liveOrderLogs _ _ _ _) hsynced
    · unfold recoverPosition
      dsimp only
      split
      · exact hsynced
      · refine shows_congr (adoptPositionInRelevantSession_liveOrderLogs _ _ _ _) ?_
        exact shows_updateQuiet log.requestId rfl rfl env.now
          (shows_congr (createLivePosition_liveOrderLogs _ _ _) hsynced)

theorem shows_syncExitOrderPosition (log : ExitOrderLog) (status : ReconciledOrderStatus)
    (now : UtcTime) (hv : Shows requestId owned v db) :
    Shows requestId owned v (syncExitOrderPosition db log status now) := by
  rcases syncExitOrderPosition_liveOrderLogs db log status now with h | ⟨pnl, h⟩
  · exact shows_congr h hv
  · refine shows_congr h ?_
    exact shows_updateQuiet log.requestId rfl rfl now hv

end Positions

/-- `ensure_filled_entry_order_position` as a call. -/
def ensurePositionEffect (env : SyncEnv) (log : LiveOrderLog) (source : String) : SideEffect where
  effect := fun db => ensureFilledEntryOrderPosition env db log source
  partly := fun writes db =>
    match ensuredSyncCall log source with
    | none => db
    | some call => syncCrashedAfter env db call writes
  effect_shows := fun hv => shows_ensureFilledEntryOrderPosition env log source hv
  partly_shows := by
    intro requestId owned v db writes hv
    split
    · exact hv
    · exact shows_applyWrites env.now _ hv

/-- `sync_exit_order_position` as a call. -/
def exitSyncEffect (log : ExitOrderLog) (status : ReconciledOrderStatus) (now : UtcTime) :
    SideEffect where
  effect := fun db => syncExitOrderPosition db log status now
  effect_shows := fun hv => shows_syncExitOrderPosition log status now hv
  partly_shows := by
    intro requestId owned v db writes hv
    split
    · exact hv
    · exact shows_syncExitOrderPosition log status now hv

/-! ## The status recheck -/

/-- How the calls of `reconcile_order_log` end. -/
structure RecheckOutcomes where
  getOrder : Except ApiError RawOrder
  updateLiveOrderLog : Ending ApiError := .returns
  logRecoveryEvent : Ending ApiError := .returns
  syncPosition : Ending ApiError := .returns

/-- The calls of `apply_reconciled_order_status`. -/
def applyReconciledCalls (env : SyncEnv) (o : RecheckOutcomes) (log : LiveOrderLog)
    (status : ReconciledOrderStatus) (source : String) : List OrderCall :=
  let updated := reconciledLog log status
  [.updateLiveOrderLog o.updateLiveOrderLog (reconciledUpdates log status),
    .other o.logRecoveryEvent .elsewhere]
  ++ if isExitOrder updated.toLiveOrderLog then
      [.other o.syncPosition (exitSyncEffect updated status env.now)]
    else if status.status = .filled then
      [.other o.syncPosition
        (ensurePositionEffect env updated.toLiveOrderLog (source ++ "_POSITION_SYNC"))]
    else []

/-- The update for an order that the exchange does not know. -/
def staleCanceledUpdates : LiveOrderLogUpdates :=
  { status := some .staleCanceled
    riskResult := some "STALE_CANCELED"
    errorMessage := some (some
      "Exchange order was not found during reconciliation; marked stale without deleting DB history.") }

/-- The calls of `reconcile_order_log`, and what it returns if none of them raises. -/
def reconcileOrderLogCalls (env : SyncEnv) (o : RecheckOutcomes) (log : LiveOrderLog)
    (source : String) : List OrderCall × Option ReconciledOrderStatus :=
  if toText log.orderUuid = "" then ([.other o.logRecoveryEvent .elsewhere], none)
  else
    match o.getOrder with
    | .error exc =>
      if isOrderNotFoundError exc then
        ([.updateLiveOrderLog o.updateLiveOrderLog staleCanceledUpdates,
            .other o.logRecoveryEvent .elsewhere],
          some ⟨.staleCanceled, log.executedVolume, log.remainingVolume, log.filledAmountKrw,
            log.paidFee, {}⟩)
      -- `raise`
      else ([.other o.logRecoveryEvent .elsewhere, .other (.raises exc 0) .elsewhere], none)
    | .ok raw =>
      (applyReconciledCalls env o log (normalizeExchangeOrder raw) source,
        some (normalizeExchangeOrder raw))

/-- `reconcile_order_log`, where only `get_order` can raise. -/
def reconcileOrderLog (env : SyncEnv) (db : Database) (log : LiveOrderLog)
    (getOrder : Except ApiError RawOrder) (source : String) : Database :=
  if toText log.orderUuid = "" then db
  else
    match getOrder with
    | .error exc =>
      if isOrderNotFoundError exc then
        updateLiveOrderLog db log.requestId staleCanceledUpdates env.now
      else db
    | .ok raw => applyReconciledOrderStatus env db log (normalizeExchangeOrder raw) source

section Row

variable {requestId : String} {owned : String → Bool} {v : OrderView} {db : Database}

theorem shows_applyReconciledOrderStatus (env : SyncEnv) (log : LiveOrderLog)
    (status : ReconciledOrderStatus) (source : String) (hv : Shows log.requestId owned v db) :
    Shows log.requestId owned (v.update owned (reconciledUpdates log status))
      (applyReconciledOrderStatus env db log status source) := by
  have hupdated := shows_updateLiveOrderLog (reconciledUpdates log status) env.now hv
  unfold applyReconciledOrderStatus
  dsimp only
  split_ifs
  · exact shows_syncExitOrderPosition _ _ _ hupdated
  · exact shows_ensureFilledEntryOrderPosition _ _ _ hupdated
  · exact hupdated

end Row

/-! ## What stays of the logs while positions are synced -/

/-- Whose order a row is, and how much of it has been executed. -/
structure OrderColumns where
  requestId : String
  orderUuid : Option String
  side : OrderSide
  orderPurpose : OrderPurpose
  executedVolume : ℚ

def LiveOrderLog.columns (r : LiveOrderLog) : OrderColumns :=
  ⟨r.requestId, r.orderUuid, r.side, r.orderPurpose, r.executedVolume⟩

def orderColumns (db : Database) : List OrderColumns :=
  db.liveOrderLogs.rows.map LiveOrderLog.columns

section Columns

variable {db db' : Database}

theorem orderColumns_congr (h : db'.liveOrderLogs = db.liveOrderLogs) :
    orderColumns db' = orderColumns db := by
  unfold orderColumns
  rw [h]

theorem columns_of_same (h : orderColumns db' = orderColumns db) (requestId : String) :
    (getLiveOrderLog db' requestId).map LiveOrderLog.columns
      = (getLiveOrderLog db requestId).map LiveOrderLog.columns := by
  have hfound : ∀ d : Database, (getLiveOrderLog d requestId).map LiveOrderLog.columns
      = (orderColumns d).find? (fun c => c.requestId == requestId) := by
    intro d
    unfold orderColumns getLiveOrderLog
    rw [List.find?_map]
    rfl
  rw [hfound, hfound, h]

theorem only_of_same (h : orderColumns db' = orderColumns db) {uuid requestId : String}
    (honly : ∀ r ∈ db.liveOrderLogs.rows, r.orderUuid = some uuid → r.requestId = requestId) :
    ∀ r ∈ db'.liveOrderLogs.rows, r.orderUuid = some uuid → r.requestId = requestId := by
  intro r hr huuid
  have hmem : r.columns ∈ orderColumns db := by
    rw [← h]
    exact List.mem_map_of_mem hr
  obtain ⟨q, hq, hsame⟩ := List.mem_map.mp hmem
  have hq_uuid : q.orderUuid = r.orderUuid := congrArg OrderColumns.orderUuid hsame
  have hq_request : q.requestId = r.requestId := congrArg OrderColumns.requestId hsame
  rw [← hq_request]
  exact honly q hq (hq_uuid.trans huuid)

theorem orderColumns_updateQuiet (requestId : String) {u : LiveOrderLogUpdates}
    (huuid : u.orderUuid = none) (hexecuted : u.executedVolume = none) (now : UtcTime) :
    orderColumns (updateLiveOrderLog db requestId u now) = orderColumns db := by
  cases hlog : getLiveOrderLog db requestId with
  | none =>
    unfold updateLiveOrderLog
    rw [hlog]
  | some log =>
    unfold orderColumns
    rw [rows_updateLiveOrderLog u now hlog, List.map_map]
    refine List.map_congr_left fun r hr => ?_
    rw [Function.comp_apply]
    split_ifs with hid
    · -- the row that was read
      have hsame : r = log := db.requestId_unique.eq_of_key hr (List.mem_of_find?_eq_some hlog)
        ((beq_iff_eq.mp hid).trans (getLiveOrderLog_requestId db _ hlog).symm)
      have hkept : (mergedLiveOrderLog db requestId log u now).orderUuid = log.orderUuid := by
        rcases mergedLiveOrderLog_orderUuid db requestId log u now with h | h
        · rw [h, huuid]
          rfl
        · exact h
      unfold LiveOrderLog.columns LiveOrderLog.overwrite
      rw [hsame, hkept, mergedLiveOrderLog_orderPurpose, mergedLiveOrderLog_executedVolume,
        hexecuted]
      rfl
    · rfl

/-- **An update of the order itself**, which keeps its uuid. -/
theorem columns_updateLiveOrderLog {requestId : String} {log : LiveOrderLog}
    {u : LiveOrderLogUpdates} (now : UtcTime) (hlog : getLiveOrderLog db requestId = some log)
    (huuid : u.orderUuid.getD log.orderUuid = log.orderUuid) :
    (getLiveOrderLog (updateLiveOrderLog db requestId u now) requestId).map LiveOrderLog.columns
      = some { log.columns with
          executedVolume := u.executedVolume.getD log.executedVolume } := by
  have hkept : (mergedLiveOrderLog db requestId log u now).orderUuid = log.orderUuid := by
    rcases mergedLiveOrderLog_orderUuid db requestId log u now with h | h
    · exact h.trans huuid
    · exact h
  rw [getLiveOrderLog_update_self db requestId u now hlog, Option.map_some]
  unfold LiveOrderLog.columns LiveOrderLog.overwrite
  dsimp only
  rw [hkept, mergedLiveOrderLog_orderPurpose, mergedLiveOrderLog_executedVolume]

theorem only_updateLiveOrderLog {requestId uuid : String} (u : LiveOrderLogUpdates)
    (now : UtcTime)
    (honly : ∀ r ∈ db.liveOrderLogs.rows, r.orderUuid = some uuid → r.requestId = requestId) :
    ∀ r ∈ (updateLiveOrderLog db requestId u now).liveOrderLogs.rows,
      r.orderUuid = some uuid → r.requestId = requestId := by
  cases hlog : getLiveOrderLog db requestId with
  | none =>
    unfold updateLiveOrderLog
    rw [hlog]
    exact honly
  | some log =>
    rw [rows_updateLiveOrderLog u now hlog]
    intro r hr huuid
    obtain ⟨q, hq, rfl⟩ := List.mem_map.mp hr
    split_ifs at huuid ⊢ with hid
    · exact beq_iff_eq.mp hid
    · exact honly q hq huuid

/-! What the syncs leave. -/

theorem orderColumns_applyWrites (now : UtcTime) (ws : List SyncWrite) :
    orderColumns (applyWrites now db ws) = orderColumns db := by
  induction ws generalizing db with
  | nil => rfl
  | cons w ws ih =>
    rw [applyWrites_cons, ih]
    cases hw : w.attachesLog with
    | false => exact orderColumns_congr (liveOrderLogs_apply_of_not_attachesLog now db hw)
    | true =>
      cases w with
      | attachLog r i => exact orderColumns_updateQuiet r rfl rfl now
      | _ => cases hw

theorem orderColumns_ensureFilledEntryOrderPosition (env : SyncEnv) (log : LiveOrderLog)
    (source : String) :
    orderColumns (ensureFilledEntryOrderPosition env db log source) = orderColumns db := by
  unfold ensureFilledEntryOrderPosition
  split
  · rfl
  · rename_i call _
    have hsynced : orderColumns (syncFilledEntryOrderToPosition env db call).1 = orderColumns db :=
      orderColumns_applyWrites env.now _
    dsimp only
    split
    · exact (orderColumns_congr (adoptPositionInRelevantSession_liveOrderLogs _ _ _ _)).trans
        hsynced
    · unfold recoverPosition
      dsimp only
      split
      · exact hsynced
      · refine (orderColumns_congr (adoptPositionInRelevantSession_liveOrderLogs _ _ _ _)).trans ?_
        refine (orderColumns_updateQuiet log.requestId rfl rfl env.now).trans ?_
        exact (orderColumns_congr (createLivePosition_liveOrderLogs _ _ _)).trans hsynced

theorem orderColumns_syncExitOrderPosition (log : ExitOrderLog) (status : ReconciledOrderStatus)
    (now : UtcTime) : orderColumns (syncExitOrderPosition db log status now) = orderColumns db := by
  rcases syncExitOrderPosition_liveOrderLogs db log status now with h | ⟨pnl, h⟩
  · exact orderColumns_congr h
  · exact (orderColumns_congr h).trans (orderColumns_updateQuiet log.requestId rfl rfl now)

end Columns

end AutoCoinBot
