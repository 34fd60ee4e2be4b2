/-
  LiveStrategyPilot.OrderManagers — the two managers of an open entry order.

  `_manage_open_order` runs with the ticks, `_sync_live_strategy_order_status_async` with the status
  reads.
-/
import AutoCoinBot.LivePositionSync.Reservations
import AutoCoinBot.LiveStrategyPilot.OpenOrders

namespace AutoCoinBot

open Library

/-! ## `_sync_live_strategy_order_status_async` -/

section Sync

variable (env : PilotEnv) (allowedMarket : String) (db : Database) (session : SyncSession)

/-- A filled order. Where the sync names no position, `_sync_filled_entry_position` raises
and the rest is not reached. -/
def syncFilledStrategyOrder (status : RawOrder) : Database :=
  let db := updateOrderByUuid db session.openOrderUuid .filled status env.now
  let (db, result) := syncFilledEntryOrderToPosition env.toSyncEnv db
    (filledEntryCall db session status "ORDER_STATUS_SYNC")
  match truthyId result.positionId with
  | none => db
  | some positionId =>
    updateLiveStrategySession
      (updateOrderReservationStatus db session.candidateStrategyId
        (orText session.market allowedMarket) .filled settledFrom) session.id
      { status := some .running
        autoEnabled := some true
        currentOpenOrderUuid := some none
        currentPositionId := some (some positionId)
        lastOrderStatus := some "FILLED"
        lastRiskResult := some "POSITION_OPEN_SYNCED" }

/-- `_sync_live_strategy_order_status_async`, once the exchange has answered. -/
def syncLiveStrategyOrderStatus (getOrder : Except ApiError RawOrder) : Database :=
  if session.openOrderUuid = "" then db
  else
    match getOrder with
    | .error _ => db
    | .ok status =>
      let reconciled := normalizeExchangeOrder status
      if reconciled.status = .partiallyFilled then
        updateLiveStrategySession
          (updateOrderByUuid db session.openOrderUuid .partiallyFilled status env.now) session.id
          { status := some .paused
            lastOrderStatus := some "PARTIALLY_FILLED"
            lastRiskResult := some "BLOCKED_PARTIAL_FILL_UNSUPPORTED" }
      else if ["done", "filled"].contains status.rawState
          ∨ (reconciled.executedVolume > 0 ∧ reconciled.remainingVolume ≤ 0) then
        syncFilledStrategyOrder env allowedMarket db session status
      else if canceledStates.contains status.rawState then
        updateLiveStrategySession
          (updateOrderReservationStatus
            (updateOrderByUuid db session.openOrderUuid .canceled status env.now)
            session.candidateStrategyId (orText session.market allowedMarket) .canceled
            settledFrom) session.id
          { autoEnabled := some false
            currentOpenOrderUuid := some none
            lastOrderStatus := some "CANCELED"
            lastRiskResult := some "ORDER_CANCELED_SYNCED" }
      else if ["wait", "waiting"].contains status.rawState then
        updateLiveStrategySession
          (updateOrderByUuid db session.openOrderUuid .waiting status env.now) session.id
          { lastOrderStatus := some "WAITING"
            lastRiskResult := some "WAITING_SYNCED" }
      else db

/-- `_manage_open_order` with the answer to its cancel, if it makes one. -/
def manageOpenOrderAnswered (status : RawOrder) (cancelOrder : Except ApiError RawOrder) :
    Database :=
  match manageOpenOrder env db session (.ok status) with
  | (db, none) => db
  | (db, some cancel) => manageCanceledOrder env db session cancel cancelOrder

end Sync

/-! ## Agreement -/

def orderLogStatus (db : Database) (requestId : String) : Option OrderStatus :=
  (getLiveOrderLog db requestId).map LiveOrderLog.status

def reservationStatus (db : Database) (reservationId : ℕ) : Option ReservationStatus :=
  (db.orderReservations.get? reservationId).map OrderReservation.status

/-- `current_open_order_uuid` and `current_position_id` of a session. -/
def sessionPointers (db : Database) (sessionId : ℕ) : Option (Option String × Option ℕ) :=
  (loadLiveStrategySession db sessionId).map (fun row =>
    (row.currentOpenOrderUuid, row.currentPositionId))

/-- Both managers leave the same. -/
structure ManagersAgree (managed synced : Database) (sessionId : ℕ) : Prop where
  orderLogs : orderLogStatus managed = orderLogStatus synced
  reservations : reservationStatus managed = reservationStatus synced
  session : sessionPointers managed sessionId = sessionPointers synced sessionId

/-- What the two splits tell apart. -/
inductive AnswerKind where
  | partiallyFilled
  | filled
  | completed
  | canceled
  | waiting
  | other
  deriving DecidableEq

/-- The kind of an answer; volumes come before state texts. -/
def RawOrder.answerKind (status : RawOrder) : AnswerKind :=
  let reconciled := normalizeExchangeOrder status
  if reconciled.status = .partiallyFilled then .partiallyFilled
  else if ["done", "filled"].contains status.rawState
      ∨ (reconciled.executedVolume > 0 ∧ reconciled.remainingVolume ≤ 0) then .filled
  else if status.rawState = "completed" then .completed
  else if canceledStates.contains status.rawState then .canceled
  else if ["wait", "waiting"].contains status.rawState then .waiting
  else .other

/-- The status `_update_order_by_uuid` gives an order's row. -/
def writtenStatus (db : Database) (log : LiveOrderLog) (status : OrderStatus) : OrderStatus :=
  if (duplicateOrderOwner db log.requestId log).isSome then .failed else status

/-- The order's row, if there is one, has that status. -/
def rowHasStatus (db : Database) (orderUuid : String) (status : OrderStatus) : Prop :=
  ∀ log, recentOrderLog db orderUuid = some log → log.status = writtenStatus db log status

/-- A reservation of the candidate and market that the end of an order settles. -/
def OrderReservation.settles (r : OrderReservation) (candidateStrategyId : ℕ) (market : String) :
    Bool :=
  settledFrom.contains r.status && r.candidateStrategyId == candidateStrategyId
    && r.market == market

section Condition

variable (env : PilotEnv) (allowedMarket : String) (db : Database) (session : SyncSession)
  (status : RawOrder)

/-- The order goes to a position, and some reservation of the session's candidate and market
is neither settled nor accounted for by the position's entry. -/
def leavesReservation : Prop :=
  ∃ f, filledOrder db (filledEntryCall db session status "").orderLog status session = .ok f
    ∧ namesPosition db f session = true
    ∧ ∃ r ∈ db.orderReservations.rows,
      r.settles session.candidateStrategyId (orText session.market allowedMarket) = true
      ∧ (finalizedPosition env.toSyncEnv db f session).any (fun p => entryConsumes db p r) = false

def fillsPosition : Prop :=
  ∃ f, filledOrder db (filledEntryCall db session status "").orderLog status session = .ok f
    ∧ namesPosition db f session = true

def SplitsAgree : Prop :=
  -- a fill is synced once the order's row has been marked
  let marked := updateOrderByUuid db session.openOrderUuid .filled status env.now
  match status.answerKind with
  | .partiallyFilled | .waiting => True
  | .filled => ¬ leavesReservation env allowedMarket marked session status
  | .completed => rowHasStatus db session.openOrderUuid .filled ∧ ¬ fillsPosition marked session status
  | .canceled => False
  | .other => rowHasStatus db session.openOrderUuid .waiting

end Condition

/-! ## The order's row -/

section Rows

variable {db : Database} {orderUuid : String} {log : LiveOrderLog}

theorem recentOrderLog_spec (h : recentOrderLog db orderUuid = some log) :
    getLiveOrderLog db log.requestId = some log ∧ log.orderUuid = some orderUuid := by
  have hmem : log ∈ loadLiveOrderLogs db 300 := List.mem_of_find?_eq_some h
  have hrow : log ∈ db.liveOrderLogs.rows :=
    (List.mem_insertionSort _).mp (List.mem_of_mem_take hmem)
  have huuid := List.find?_some h
  rw [Bool.and_eq_true, beq_iff_eq] at huuid
  refine ⟨?_, huuid.1⟩
  have hsome : (getLiveOrderLog db log.requestId).isSome := by
    unfold getLiveOrderLog
    exact List.find?_isSome.mpr ⟨log, hrow, beq_self_eq_true _⟩
  obtain ⟨found, hfound⟩ := Option.isSome_iff_exists.mp hsome
  have hkey := getLiveOrderLog_requestId db _ hfound
  have hstored : found ∈ db.liveOrderLogs.rows := List.mem_of_find?_eq_some hfound
  rw [hfound, db.requestId_unique.eq_of_key hstored hrow hkey]

theorem updateOrderByUuid_frame (db : Database) (orderUuid : String) (status : OrderStatus)
    (response : RawOrder) (now : UtcTime) : ∃ logs unique,
    updateOrderByUuid db orderUuid status response now
      = { db with liveOrderLogs := logs, requestId_unique := unique } := by
  unfold updateOrderByUuid
  split
  · exact ⟨db.liveOrderLogs, db.requestId_unique, rfl⟩
  · exact updateLiveOrderLog_frame db _ _ now

theorem duplicateOrderOwner_eq {log' : LiveOrderLog} (requestId : String)
    (huuid : log.orderUuid = log'.orderUuid) :
    duplicateOrderOwner db requestId log = duplicateOrderOwner db requestId log' := by
  unfold duplicateOrderOwner
  rw [huuid]

theorem orderLogStatus_updateOrderByUuid (db : Database) (orderUuid : String)
    (status : OrderStatus) (response : RawOrder) (now : UtcTime) (requestId : String) :
    orderLogStatus (updateOrderByUuid db orderUuid status response now) requestId
      = match recentOrderLog db orderUuid with
        | none => orderLogStatus db requestId
        | some log =>
          if requestId = log.requestId then some (writtenStatus db log status)
          else orderLogStatus db requestId := by
  unfold updateOrderByUuid
  cases hrecent : recentOrderLog db orderUuid with
  | none => rfl
  | some log =>
    obtain ⟨hrow, huuid⟩ := recentOrderLog_spec hrecent
    dsimp only
    unfold orderLogStatus
    by_cases hkey : requestId = log.requestId
    · rw [if_pos hkey, hkey, getLiveOrderLog_update_self db _ _ now hrow, Option.map_some]
      congr 1
      refine (mergedLiveOrderLog_status db log.requestId log _ now).trans ?_
      unfold writtenStatus
      rw [duplicateOrderOwner_eq log.requestId (show (log.merge (orderByUuidUpdates orderUuid
        status response)).orderUuid = log.orderUuid from huuid.symm)]
      rfl
    · rw [if_neg hkey, getLiveOrderLog_update_ne db _ _ now hkey]

theorem mergedLiveOrderLog_keepsUuid (huuid : log.orderUuid = some orderUuid)
    (status : OrderStatus) (response : RawOrder) (now : UtcTime) :
    (mergedLiveOrderLog db log.requestId log (orderByUuidUpdates orderUuid status response)
      now).orderUuid = some orderUuid := by
  rcases mergedLiveOrderLog_orderUuid db log.requestId log
    (orderByUuidUpdates orderUuid status response) now with h | h
  · exact h
  · rw [h, huuid]

theorem recentOrderLog_updateOrderByUuid (hrecent : recentOrderLog db orderUuid = some log)
    (status : OrderStatus) (response : RawOrder) (now : UtcTime) :
    recentOrderLog (updateOrderByUuid db orderUuid status response now) orderUuid
      = some (log.overwrite (mergedLiveOrderLog db log.requestId log
          (orderByUuidUpdates orderUuid status response) now)) := by
  obtain ⟨hrow, huuid⟩ := recentOrderLog_spec hrecent
  obtain ⟨merged, hmerged⟩ : ∃ merged, merged = mergedLiveOrderLog db log.requestId log
    (orderByUuidUpdates orderUuid status response) now := ⟨_, rfl⟩
  have hkept : merged.orderUuid = some orderUuid :=
    hmerged ▸ mergedLiveOrderLog_keepsUuid huuid status response now
  have hrows := rows_updateLiveOrderLog (orderByUuidUpdates orderUuid status response) now hrow
  rw [← hmerged] at hrows ⊢
  obtain ⟨overwritten, hover⟩ : ∃ g : LiveOrderLog → LiveOrderLog, g = fun r =>
    if r.requestId == log.requestId then r.overwrite merged else r := ⟨_, rfl⟩
  -- neither the order of the rows nor which of them is found depends on what was written
  have hlist : loadLiveOrderLogs (updateLiveOrderLog db log.requestId
      (orderByUuidUpdates orderUuid status response) now) 300
      = (loadLiveOrderLogs db 300).map overwritten := by
    unfold loadLiveOrderLogs
    rw [hrows, ← hover, List.map_take,
      List.map_insertionSort LiveOrderLog.newer LiveOrderLog.newer overwritten]
    intro a _ b _
    have hcreated : ∀ r, (overwritten r).createdAt = r.createdAt ∧ (overwritten r).id = r.id := by
      intro r
      rw [hover]
      dsimp only
      split <;> exact ⟨rfl, rfl⟩
    unfold LiveOrderLog.newer
    rw [(hcreated a).1, (hcreated a).2, (hcreated b).1, (hcreated b).2]
  have hfinds : ∀ r ∈ loadLiveOrderLogs db 300,
      ((fun item : LiveOrderLog => item.orderUuid == some orderUuid
        && !isStrategyOrderEventRequest item.requestId) ∘ overwritten) r
      = (r.orderUuid == some orderUuid && !isStrategyOrderEventRequest r.requestId) := by
    intro r hr
    rw [Function.comp_apply, hover]
    dsimp only
    split_ifs with hkey
    · have hr' : r ∈ db.liveOrderLogs.rows :=
        (List.mem_insertionSort _).mp (List.mem_of_mem_take hr)
      have hsame : r = log := db.requestId_unique.eq_of_key hr'
        (List.mem_of_find?_eq_some hrow) (beq_iff_eq.mp hkey)
      show (merged.orderUuid == some orderUuid && !isStrategyOrderEventRequest r.requestId) = _
      rw [hkept, hsame, huuid]
    · rfl
  unfold updateOrderByUuid
  rw [hrecent]
  dsimp only
  unfold recentOrderLog
  rw [hlist, List.find?_map, List.find?_congr hfinds]
  show (recentOrderLog db orderUuid).map overwritten = _
  rw [hrecent, Option.map_some, hover]
  simp only [beq_self_eq_true, if_true]

theorem writtenStatus_updateOrderByUuid (hrecent : recentOrderLog db orderUuid = some log)
    (status status' : OrderStatus) (response : RawOrder) (now : UtcTime) :
    writtenStatus (updateOrderByUuid db orderUuid status response now)
        (log.overwrite (mergedLiveOrderLog db log.requestId log
          (orderByUuidUpdates orderUuid status response) now)) status'
      = writtenStatus db log status' := by
  obtain ⟨hrow, huuid⟩ := recentOrderLog_spec hrecent
  have hkept := @mergedLiveOrderLog_keepsUuid db orderUuid log huuid status response now
  have howned : ownedElsewhere (updateLiveOrderLog db log.requestId
      (orderByUuidUpdates orderUuid status response) now) log.requestId orderUuid
      = ownedElsewhere db log.requestId orderUuid := by
    refine ownedElsewhere_of_rows (rows_updateLiveOrderLog _ now hrow) ?_ ?_ orderUuid
    · intro r _
      split <;> rfl
    · intro r _ hother
      rw [if_neg (by simpa using hother)]
  unfold updateOrderByUuid
  rw [hrecent]
  dsimp only
  unfold writtenStatus
  rw [duplicateOrderOwner_isSome, duplicateOrderOwner_isSome, huuid]
  show (if ownedElsewhere _ log.requestId (toText (mergedLiveOrderLog db log.requestId log
    (orderByUuidUpdates orderUuid status response) now).orderUuid) then _ else _) = _
  rw [hkept, toText_some, howned]

end Rows

/-! ## The tables that are compared -/

section Tables

variable (db : Database)

theorem orderLogStatus_congr {db db' : Database} (h : db.liveOrderLogs = db'.liveOrderLogs) :
    orderLogStatus db = orderLogStatus db' := by
  funext requestId
  unfold orderLogStatus
  rw [getLiveOrderLog_congr h]

@[simp] theorem reservationStatus_updateSession (sessionId : ℕ) (u : LiveStrategySessionUpdates) :
    reservationStatus (updateLiveStrategySession db sessionId u) = reservationStatus db := rfl

@[simp] theorem sessionPointers_updateSession (sessionId : ℕ) (u : LiveStrategySessionUpdates) :
    sessionPointers (updateLiveStrategySession db sessionId u) sessionId
      = (sessionPointers db sessionId).map (fun pointers =>
          (u.currentOpenOrderUuid.getD pointers.1, u.currentPositionId.getD pointers.2)) := by
  unfold sessionPointers
  rw [loadLiveStrategySession_update, Option.map_map, Option.map_map]
  simp only [if_true]
  rfl

@[simp] theorem sessionPointers_updateReservations (candidateStrategyId : ℕ) (market : String)
    (status : ReservationStatus) (previous : List ReservationStatus) :
    sessionPointers (updateOrderReservationStatus db candidateStrategyId market status previous)
      = sessionPointers db := rfl

theorem reservationStatus_settled (candidateStrategyId : ℕ) (market : String)
    (status : ReservationStatus) (k : ℕ) :
    reservationStatus (updateOrderReservationStatus db candidateStrategyId market status
        settledFrom) k
      = (db.orderReservations.get? k).map (fun r =>
          if r.settles candidateStrategyId market then status else r.status) := by
  unfold reservationStatus updateOrderReservationStatus
  dsimp only
  rw [Table.get?_modifyWhere, Option.map_map]
  congr 1
  funext r
  rw [Function.comp_apply]
  unfold OrderReservation.settles
  split <;> rfl

variable (orderUuid : String) (status : OrderStatus) (response : RawOrder) (now : UtcTime)

@[simp] theorem reservationStatus_updateOrderByUuid :
    reservationStatus (updateOrderByUuid db orderUuid status response now)
      = reservationStatus db := by
  obtain ⟨logs, hunique, hdb⟩ := updateOrderByUuid_frame db orderUuid status response now
  rw [hdb]
  rfl

@[simp] theorem sessionPointers_updateOrderByUuid :
    sessionPointers (updateOrderByUuid db orderUuid status response now)
      = sessionPointers db := by
  obtain ⟨logs, hunique, hdb⟩ := updateOrderByUuid_frame db orderUuid status response now
  rw [hdb]
  rfl

theorem orderLogStatus_updateOrderByUuid_again (now' : UtcTime) :
    orderLogStatus (updateOrderByUuid (updateOrderByUuid db orderUuid status response now)
        orderUuid status response now')
      = orderLogStatus (updateOrderByUuid db orderUuid status response now) := by
  funext requestId
  rw [orderLogStatus_updateOrderByUuid]
  cases hrecent : recentOrderLog db orderUuid with
  | none =>
    have hsame : updateOrderByUuid db orderUuid status response now = db := by
      unfold updateOrderByUuid
      rw [hrecent]
    rw [hsame, hrecent]
  | some log =>
    rw [recentOrderLog_updateOrderByUuid hrecent]
    dsimp only
    rw [writtenStatus_updateOrderByUuid hrecent, orderLogStatus_updateOrderByUuid, hrecent]
    dsimp only
    show (if requestId = log.requestId then _ else _) = _
    split <;> rfl

theorem orderLogStatus_updateOrderByUuid_iff :
    orderLogStatus (updateOrderByUuid db orderUuid status response now) = orderLogStatus db
      ↔ rowHasStatus db orderUuid status := by
  constructor
  · intro h log hrecent
    have hrow := congrFun h log.requestId
    rw [orderLogStatus_updateOrderByUuid, hrecent] at hrow
    simp only [if_true] at hrow
    unfold orderLogStatus at hrow
    rw [(recentOrderLog_spec hrecent).1, Option.map_some] at hrow
    exact (Option.some.inj hrow).symm
  · intro h
    funext requestId
    rw [orderLogStatus_updateOrderByUuid]
    cases hrecent : recentOrderLog db orderUuid with
    | none => rfl
    | some log =>
      dsimp only
      split_ifs with hkey
      · unfold orderLogStatus
        rw [hkey, (recentOrderLog_spec hrecent).1, Option.map_some, h log hrecent]
      · rfl

end Tables

/-! ## The two splits -/

section Splits

variable (env : PilotEnv) (allowedMarket : String) (db : Database) (session : SyncSession)
  (status : RawOrder)

theorem normalizeExchangeOrder_filled_iff
    (hwhole : (normalizeExchangeOrder status).status ≠ .partiallyFilled) :
    (normalizeExchangeOrder status).status = .filled
      ↔ ["done", "filled", "completed"].contains status.rawState = true
        ∨ ((normalizeExchangeOrder status).executedVolume > 0
          ∧ (normalizeExchangeOrder status).remainingVolume ≤ 0) := by
  unfold normalizeExchangeOrder at hwhole ⊢
  dsimp only at hwhole ⊢
  split_ifs at hwhole ⊢ <;> simp_all

theorem manageOpenOrderAnswered_eq (cancelOrder : Except ApiError RawOrder)
    (hclock : env.secondsSinceOrder < env.cancelUnfilledAfterSeconds) :
    manageOpenOrderAnswered env db session status cancelOrder
      = match status.answerKind with
        | .partiallyFilled =>
          manageCanceledOrder env
            (updateOrderByUuid db session.openOrderUuid .partiallyFilled status env.now) session
            (.remainder status) cancelOrder
        | .filled | .completed => manageFilledOrder env db session status
        | .canceled | .waiting | .other =>
          updateLiveStrategySession
            (updateOrderByUuid db session.openOrderUuid .waiting status env.now) session.id
            { status := some .running
              lastOrderStatus := some "WAITING"
              lastRiskResult := some "WAITING" } := by
  unfold manageOpenOrderAnswered manageOpenOrder RawOrder.answerKind
  dsimp only
  by_cases hwhole : (normalizeExchangeOrder status).status = .partiallyFilled
  · simp only [if_pos hwhole]
  · simp only [if_neg hwhole]
    have hfilled := normalizeExchangeOrder_filled_iff status hwhole
    by_cases hdone : ["done", "filled"].contains status.rawState = true
        ∨ ((normalizeExchangeOrder status).executedVolume > 0
          ∧ (normalizeExchangeOrder status).remainingVolume ≤ 0)
    · simp only [if_pos hdone, if_pos (Or.inr hdone)]
    · by_cases hcompleted : status.rawState = "completed"
      · have hreads : (normalizeExchangeOrder status).status = .filled :=
          hfilled.mpr (.inl (by rw [hcompleted]; decide))
        simp only [if_neg hdone, if_pos hcompleted, if_pos (Or.inl hreads)]
      · have hnot : ¬ ((normalizeExchangeOrder status).status = .filled
            ∨ ["done", "filled"].contains status.rawState = true
            ∨ ((normalizeExchangeOrder status).executedVolume > 0
              ∧ (normalizeExchangeOrder status).remainingVolume ≤ 0)) := by
          rintro (hreads | hother)
          · rcases hfilled.mp hreads with hstate | hvolumes
            · simp only [List.contains_cons, List.contains_nil, Bool.or_false, Bool.or_eq_true,
                beq_iff_eq] at hstate hdone
              rcases hstate with h | h | h
              · exact hdone (.inl (.inl h))
              · exact hdone (.inl (.inr h))
              · exact hcompleted h
            · exact hdone (.inr hvolumes)
          · exact hdone hother
        have hearly : ¬ env.secondsSinceOrder ≥ env.cancelUnfilledAfterSeconds := not_le.mpr hclock
        simp only [if_neg hdone, if_neg hcompleted, if_neg hnot, if_neg hearly]
        split_ifs <;> rfl

theorem syncLiveStrategyOrderStatus_eq (hopen : session.openOrderUuid ≠ "") :
    syncLiveStrategyOrderStatus env allowedMarket db session (.ok status)
      = match status.answerKind with
        | .partiallyFilled =>
          updateLiveStrategySession
            (updateOrderByUuid db session.openOrderUuid .partiallyFilled status env.now)
            session.id
            { status := some .paused
              lastOrderStatus := some "PARTIALLY_FILLED"
              lastRiskResult := some "BLOCKED_PARTIAL_FILL_UNSUPPORTED" }
        | .filled => syncFilledStrategyOrder env allowedMarket db session status
        | .canceled =>
          updateLiveStrategySession
            (updateOrderReservationStatus
              (updateOrderByUuid db session.openOrderUuid .canceled status env.now)
              session.candidateStrategyId (orText session.market allowedMarket) .canceled
              settledFrom) session.id
            { autoEnabled := some false
              currentOpenOrderUuid := some none
              lastOrderStatus := some "CANCELED"
              lastRiskResult := some "ORDER_CANCELED_SYNCED" }
        | .waiting =>
          updateLiveStrategySession
            (updateOrderByUuid db session.openOrderUuid .waiting status env.now) session.id
            { lastOrderStatus := some "WAITING"
              lastRiskResult := some "WAITING_SYNCED" }
        | .completed | .other => db := by
  unfold syncLiveStrategyOrderStatus RawOrder.answerKind
  dsimp only
  rw [if_neg hopen]
  by_cases hcompleted : status.rawState = "completed"
  · have hcanceled : ¬ canceledStates.contains status.rawState = true := by
      rw [hcompleted]
      decide
    have hwaiting : ¬ ["wait", "waiting"].contains status.rawState = true := by
      rw [hcompleted]
      decide
    simp only [if_neg hcanceled, if_neg hwaiting, if_pos hcompleted]
    split_ifs <;> rfl
  · simp only [if_neg hcompleted]
    split_ifs <;> rfl

end Splits

/-! ## Fills -/

section Fills

variable (env : PilotEnv) (allowedMarket : String) (db : Database) (session : SyncSession)
  (status : RawOrder)

theorem filledEntryCall_source (source source' : String) :
    filledEntryCall db session status source
      = { filledEntryCall db session status source' with source := source } := rfl

theorem syncFilledEntry_unnamed (source : String) (h : ¬ fillsPosition db session status) :
    (syncFilledEntryOrderToPosition env.toSyncEnv db
        (filledEntryCall db session status source)).1 = db
      ∧ truthyId (syncFilledEntryOrderToPosition env.toSyncEnv db
        (filledEntryCall db session status source)).2.positionId = none := by
  unfold syncFilledEntryOrderToPosition syncPlan
  cases hfilled : filledOrder db (filledEntryCall db session status source).orderLog
      (filledEntryCall db session status source).rawOrder
      (filledEntryCall db session status source).session with
  | error reason => exact ⟨rfl, rfl⟩
  | ok f =>
    have hunnamed : namesPosition db f session = false := by
      by_contra hnamed
      exact h ⟨f, hfilled, by simpa using hnamed⟩
    obtain ⟨hwrites, hresult⟩ := syncFilledOrder_unnamed env.toSyncEnv db f session source hunnamed
    dsimp only
    refine ⟨?_, hresult⟩
    show applyWrites env.now db (syncFilledOrder env.toSyncEnv db f source session).1 = db
    rw [hwrites]
    rfl

theorem syncFilledEntry_named (source : String) {f : FilledOrder}
    (hfilled : filledOrder db (filledEntryCall db session status "").orderLog status session = .ok f)
    (hnamed : namesPosition db f session = true) :
    ∃ positionId, truthyId (syncFilledEntryOrderToPosition env.toSyncEnv db
        (filledEntryCall db session status source)).2.positionId = some positionId
      ∧ (∀ k, ((syncFilledEntryOrderToPosition env.toSyncEnv db
          (filledEntryCall db session status source)).1.orderReservations.get? k)
        = (db.orderReservations.get? k).map (fun r => r.after
            ((finalizedPosition env.toSyncEnv db f session).any (fun p => entryConsumes db p r))))
      ∧ ∀ sessionId, (loadLiveStrategySession (syncFilledEntryOrderToPosition env.toSyncEnv db
          (filledEntryCall db session status source)).1 sessionId).isSome
        = (loadLiveStrategySession db sessionId).isSome := by
  have hplan : syncPlan env.toSyncEnv db (filledEntryCall db session status source)
      = syncFilledOrder env.toSyncEnv db f source session := by
    unfold syncPlan
    rw [show filledOrder db (filledEntryCall db session status source).orderLog
      (filledEntryCall db session status source).rawOrder
      (filledEntryCall db session status source).session = .ok f from hfilled]
    rfl
  obtain ⟨positionId, hposition⟩ := syncFilledOrder_named env.toSyncEnv db f session source hnamed
  unfold syncFilledEntryOrderToPosition
  rw [hplan]
  exact ⟨positionId, hposition,
    reservation_syncFilledOrder env.toSyncEnv db f session source,
    session_applyWrites_isSome env.now db _⟩

end Fills

theorem settledAlike_iff (rows : Table OrderReservation) (consumed : OrderReservation → Bool)
    (candidateStrategyId : ℕ) (market : String) :
    (∀ k, (rows.get? k).map (fun r => (r.after (consumed r)).status)
        = (rows.get? k).map (fun r =>
          if (r.after (consumed r)).settles candidateStrategyId market then ReservationStatus.filled
          else (r.after (consumed r)).status))
      ↔ ¬ ∃ r ∈ rows.rows, r.settles candidateStrategyId market = true ∧ consumed r = false := by
  constructor
  · rintro h ⟨r, hr, hsettles, hconsumed⟩
    have hk := h r.id
    rw [show rows.get? r.id = some r from Table.get?_of_mem hr] at hk
    simp only [Option.map_some, OrderReservation.after, hconsumed, hsettles, if_true,
      Bool.false_eq_true, if_false, Option.some.injEq] at hk
    unfold OrderReservation.settles at hsettles
    rw [hk] at hsettles
    cases hsettles
  · intro h k
    cases hrow : rows.get? k with
    | none => rfl
    | some r =>
      simp only [Option.map_some, Option.some.injEq]
      cases hconsumed : consumed r with
      -- a consumed reservation is not settled any more
      | true => rfl
      | false =>
        have hnot : ¬ r.settles candidateStrategyId market = true :=
          fun hsettles => h ⟨r, Table.get?_some_mem hrow, hsettles, hconsumed⟩
        show r.status = if r.settles candidateStrategyId market = true then _ else r.status
        rw [if_neg hnot]

theorem managersAgree_settled {d d' : Database} (hsame : SameButFills d d') (sessionId : ℕ)
    {u u' : LiveStrategySessionUpdates}
    (huuid : u.currentOpenOrderUuid = u'.currentOpenOrderUuid)
    (hposition : u.currentPositionId = u'.currentPositionId)
    (candidateStrategyId : ℕ) (market : String) :
    ManagersAgree (updateLiveStrategySession d sessionId u)
        (updateLiveStrategySession
          (updateOrderReservationStatus d' candidateStrategyId market .filled settledFrom)
          sessionId u') sessionId
      ↔ ∀ k, (d.orderReservations.get? k).map OrderReservation.status
          = (d.orderReservations.get? k).map (fun r =>
              if r.settles candidateStrategyId market then ReservationStatus.filled
              else r.status) := by
  have hsettled : ∀ k, reservationStatus (updateLiveStrategySession
      (updateOrderReservationStatus d' candidateStrategyId market .filled settledFrom)
        sessionId u') k
      = (d.orderReservations.get? k).map (fun r =>
          if r.settles candidateStrategyId market then ReservationStatus.filled
          else r.status) := by
    intro k
    rw [reservationStatus_updateSession, reservationStatus_settled, hsame.orderReservations]
  constructor
  · intro h k
    exact (congrFun h.reservations k).trans (hsettled k)
  · intro h
    refine ⟨orderLogStatus_congr hsame.liveOrderLogs, ?_, ?_⟩
    · funext k
      exact (h k).trans (hsettled k).symm
    · have hpointers : sessionPointers d sessionId = sessionPointers d' sessionId := by
        unfold sessionPointers loadLiveStrategySession
        rw [hsame.liveStrategySessions]
      rw [sessionPointers_updateSession, sessionPointers_updateSession,
        sessionPointers_updateReservations, hpointers, huuid, hposition]

section Main

variable (env : PilotEnv) (allowedMarket : String) (db : Database) (session : SyncSession)
  (status : RawOrder)

theorem managersAgree_filled :
    ManagersAgree (manageFilledOrder env db session status)
        (syncFilledStrategyOrder env allowedMarket db session status) session.id
      ↔ ¬ leavesReservation env allowedMarket
          (updateOrderByUuid db session.openOrderUuid .filled status env.now) session status := by
  unfold manageFilledOrder syncFilledStrategyOrder
  dsimp only
  obtain ⟨marked, hmarked⟩ : ∃ d, d = updateOrderByUuid db session.openOrderUuid .filled status
    env.now := ⟨_, rfl⟩
  rw [← hmarked]
  by_cases hfills : fillsPosition marked session status
  · obtain ⟨f, hfilled, hnamed⟩ := hfills
    obtain ⟨positionId, hposition, hreservations, -⟩ :=
      syncFilledEntry_named env marked session status "OPEN_ORDER_MANAGEMENT" hfilled hnamed
    obtain ⟨hsame, hresult⟩ := sameButFills_sync env.toSyncEnv marked
      (filledEntryCall marked session status "OPEN_ORDER_MANAGEMENT") "ORDER_STATUS_SYNC"
    rw [← filledEntryCall_source] at hsame hresult
    rw [← hresult, hposition]
    dsimp only
    have hleaves : leavesReservation env allowedMarket marked session status
        ↔ ∃ r ∈ marked.orderReservations.rows,
          r.settles session.candidateStrategyId (orText session.market allowedMarket) = true
          ∧ (finalizedPosition env.toSyncEnv marked f session).any
            (fun p => entryConsumes marked p r) = false := by
      constructor
      · rintro ⟨f', hfilled', -, hleft⟩
        cases hfilled.symm.trans hfilled'
        exact hleft
      · intro hleft
        exact ⟨f, hfilled, hnamed, hleft⟩
    rw [hleaves, ← settledAlike_iff]
    refine Iff.trans (managersAgree_settled hsame session.id (by rfl) (by rfl)
      session.candidateStrategyId (orText session.market allowedMarket))
      (forall_congr' fun k => ?_)
    rw [hreservations, Option.map_map, Option.map_map]
    rfl
  · have hno : ¬ leavesReservation env allowedMarket marked session status :=
      fun ⟨f, hfilled, hnamed, _⟩ => hfills ⟨f, hfilled, hnamed⟩
    have hmanaged := syncFilledEntry_unnamed env marked session status "OPEN_ORDER_MANAGEMENT" hfills
    have hsynced := syncFilledEntry_unnamed env marked session status "ORDER_STATUS_SYNC" hfills
    rw [hmanaged.2, hsynced.2, hmanaged.1, hsynced.1]
    -- both raise
    refine ⟨fun _ => hno, fun _ => ⟨rfl, rfl, ?_⟩⟩
    show sessionPointers (manageOpenOrderFailed marked session) session.id = _
    unfold manageOpenOrderFailed
    rw [sessionPointers_updateSession]
    exact Option.map_id'

theorem managersAgree_completed {uuid : String} {positionId : Option ℕ}
    (hpointers : sessionPointers db session.id = some (some uuid, positionId)) :
    ManagersAgree (manageFilledOrder env db session status) db session.id
      ↔ rowHasStatus db session.openOrderUuid .filled
        ∧ ¬ fillsPosition (updateOrderByUuid db session.openOrderUuid .filled status env.now)
            session status := by
  rw [← orderLogStatus_updateOrderByUuid_iff db session.openOrderUuid .filled status env.now]
  have hmarked_pointers := sessionPointers_updateOrderByUuid db session.openOrderUuid .filled
    status env.now
  have hmarked_reservations := reservationStatus_updateOrderByUuid db session.openOrderUuid .filled
    status env.now
  unfold manageFilledOrder
  dsimp only
  obtain ⟨marked, hmarked⟩ : ∃ d, d = updateOrderByUuid db session.openOrderUuid .filled status
    env.now := ⟨_, rfl⟩
  rw [← hmarked] at hmarked_pointers hmarked_reservations ⊢
  by_cases hfills : fillsPosition marked session status
  · refine ⟨fun hagree => absurd hagree.session ?_, fun h => absurd hfills h.2⟩
    obtain ⟨f, hfilled, hnamed⟩ := hfills
    obtain ⟨opened, hposition, -, hsession⟩ :=
      syncFilledEntry_named env marked session status "OPEN_ORDER_MANAGEMENT" hfilled hnamed
    rw [hposition, hpointers]
    dsimp only
    rw [sessionPointers_updateSession]
    -- the order is open in one of them only
    intro hsame
    obtain ⟨pointers, -, hpointers'⟩ := Option.map_eq_some_iff.mp hsame
    cases hpointers'
  · have hmanaged := syncFilledEntry_unnamed env marked session status "OPEN_ORDER_MANAGEMENT" hfills
    rw [hmanaged.2, hmanaged.1]
    show ManagersAgree (manageOpenOrderFailed marked session) db session.id ↔ _
    unfold manageOpenOrderFailed
    refine ⟨fun h => ⟨h.orderLogs, hfills⟩, fun h => ⟨h.1, hmarked_reservations, ?_⟩⟩
    rw [sessionPointers_updateSession, hmarked_pointers]
    exact Option.map_id'

/-- **Where the two managers agree.** `session` is the row as it is stored, with its order open
and not yet due to be canceled. -/
theorem managersAgree_iff (cancelOrder : Except ApiError RawOrder)
    (hrow : (loadLiveStrategySession db session.id).map LiveStrategySession.currentOpenOrderUuid
      = some session.currentOpenOrderUuid)
    (hopen : session.openOrderUuid ≠ "")
    (hclock : env.secondsSinceOrder < env.cancelUnfilledAfterSeconds) :
    ManagersAgree (manageOpenOrderAnswered env db session status cancelOrder)
        (syncLiveStrategyOrderStatus env allowedMarket db session (.ok status)) session.id
      ↔ SplitsAgree env allowedMarket db session status := by
  obtain ⟨uuid, positionId, hpointers⟩ :
      ∃ uuid positionId, sessionPointers db session.id = some (some uuid, positionId) := by
    obtain ⟨row, hload, huuid⟩ := Option.map_eq_some_iff.mp hrow
    cases hcurrent : session.currentOpenOrderUuid with
    | none =>
      unfold SyncSession.openOrderUuid at hopen
      rw [hcurrent] at hopen
      exact absurd rfl hopen
    | some uuid =>
      refine ⟨uuid, row.currentPositionId, ?_⟩
      unfold sessionPointers
      rw [hload, Option.map_some, huuid, hcurrent]
  rw [manageOpenOrderAnswered_eq env db session status cancelOrder hclock,
    syncLiveStrategyOrderStatus_eq env allowedMarket db session status hopen]
  unfold SplitsAgree
  cases status.answerKind with
  | partiallyFilled =>
    refine iff_of_true ?_ trivial
    unfold manageCanceledOrder
    cases cancelOrder with
    | error exc =>
      refine ⟨rfl, rfl, ?_⟩
      rw [sessionPointers_updateSession, sessionPointers_updateSession]
    | ok response =>
      refine ⟨?_, ?_, ?_⟩
      · exact orderLogStatus_updateOrderByUuid_again db _ _ _ _ _
      · exact reservationStatus_updateOrderByUuid _ _ _ _ _
      · simp only [sessionPointers_updateSession, sessionPointers_updateOrderByUuid,
          Option.getD_none]
  | filled => exact managersAgree_filled env allowedMarket db session status
  | completed => exact managersAgree_completed env db session status hpointers
  | canceled =>
    refine iff_of_false (fun hagree => absurd hagree.session ?_) id
    simp only [sessionPointers_updateSession, sessionPointers_updateReservations,
      sessionPointers_updateOrderByUuid, hpointers, Option.map_some, Option.getD_none,
      Option.getD_some, Option.some.injEq, Prod.mk.injEq, reduceCtorEq, false_and,
      not_false_eq_true]
  | waiting =>
    refine iff_of_true ⟨rfl, rfl, ?_⟩ trivial
    rw [sessionPointers_updateSession, sessionPointers_updateSession]
  | other =>
    rw [← orderLogStatus_updateOrderByUuid_iff db session.openOrderUuid .waiting status env.now]
    refine ⟨fun h => h.orderLogs, fun h => ⟨h, reservationStatus_updateOrderByUuid _ _ _ _ _, ?_⟩⟩
    rw [sessionPointers_updateSession, sessionPointers_updateOrderByUuid]
    exact Option.map_id'

end Main

/-! ## An order that the exchange canceled -/

def exampleOpenSession : SyncSession := { exampleSession with currentOpenOrderUuid := some "B1" }

/-- The session's row, its order's row, and the reservation that the order was placed with. -/
def exampleOpenOrder : Database where
  liveStrategySessions := Table.empty.insert
    (fun k => { id := k, status := .running, currentOpenOrderUuid := some "B1" }) (fun _ => rfl)
  liveOrderLogs := Table.empty.insert
    (fun k => { exampleBuyLog "B1" 0 0 {} with id := k, status := .submitted }) (fun _ => rfl)
  orderReservations := Table.empty.insert
    (fun k => { id := k, market := exampleSession.market,
                candidateStrategyId := exampleSession.candidateStrategyId,
                status := .orderSubmitted }) (fun _ => rfl)
  requestId_unique := by decide

/-- **One manager goes on waiting for an order that the exchange has canceled, the other one
gives it up.** -/
theorem not_managersAgree_canceled :
    (loadLiveStrategySession exampleOpenOrder exampleOpenSession.id).map
        LiveStrategySession.currentOpenOrderUuid = some exampleOpenSession.currentOpenOrderUuid
      ∧ exampleOpenSession.openOrderUuid ≠ ""
      ∧ ¬ ManagersAgree
          (manageOpenOrderAnswered { now := 10 } exampleOpenOrder exampleOpenSession
            { state := some "cancel" } (.ok {}))
          (syncLiveStrategyOrderStatus { now := 10 } "KRW-BTC" exampleOpenOrder exampleOpenSession
            (.ok { state := some "cancel" })) exampleOpenSession.id := by
  refine ⟨by decide, by decide, fun hagree => absurd hagree.session ?_⟩
  decide +kernel

theorem managersAgree_exampleOpenOrder :
    ManagersAgree
      (manageOpenOrderAnswered { now := 10 } exampleOpenOrder exampleOpenSession
        { state := some "wait" } (.ok {}))
      (syncLiveStrategyOrderStatus { now := 10 } "KRW-BTC" exampleOpenOrder exampleOpenSession
        (.ok { state := some "wait" })) exampleOpenSession.id := by
  refine (managersAgree_iff _ _ _ _ _ _ (by decide) (by decide) (by decide)).mpr ?_
  have hkind : RawOrder.answerKind { state := some "wait" } = .waiting := by decide +kernel
  unfold SplitsAgree
  rw [hkind]
  trivial

end AutoCoinBot
