/-
  Database.LiveOrderLogs — queries and updates of `live_order_logs`.

  `update_live_order_log` reads the whole row, merges the given keys and writes
  the row back. If another canonical row already owns the merged exchange
  uuid, the write marks the row `FAILED` and keeps its old uuid; the other
  merged columns are stored all the same.
-/
import AutoCoinBot.Database.Schema

namespace AutoCoinBot

open Library

/-! ## Queries -/

def getLiveOrderLog (db : Database) (requestId : String) : Option LiveOrderLog :=
  db.liveOrderLogs.rows.find? (fun r => r.requestId == requestId)

/-- `_find_canonical_live_order_by_uuid`: `ORDER BY id ASC` is insertion order. -/
def findCanonicalLiveOrderByUuid (db : Database) (orderUuid : String)
    (excludeRequestId : String) : Option LiveOrderLog :=
  if orderUuid = "" then none
  else db.liveOrderLogs.rows.find? (fun r =>
    r.orderUuid == some orderUuid && r.requestId != excludeRequestId
      && !liveOrderEventRequestIdFilter r.requestId)

/-- Canonical rows before status events, rows with a position before the others. -/
def LiveOrderLog.uuidRank (r : LiveOrderLog) : ℕ :=
  (if liveOrderEventRequestIdFilter r.requestId then 2 else 0)
    + (if r.positionId.isSome then 0 else 1)

/-- The `ORDER BY` of `load_live_order_logs_by_uuid`. -/
def LiveOrderLog.listedBefore (a b : LiveOrderLog) : Prop :=
  a.uuidRank < b.uuidRank ∨ (a.uuidRank = b.uuidRank
    ∧ (a.updatedAt < b.updatedAt ∨ (a.updatedAt = b.updatedAt ∧ a.id ≤ b.id)))

instance : DecidableRel LiveOrderLog.listedBefore := fun a b =>
  inferInstanceAs (Decidable (a.uuidRank < b.uuidRank ∨ (a.uuidRank = b.uuidRank
    ∧ (a.updatedAt < b.updatedAt ∨ (a.updatedAt = b.updatedAt ∧ a.id ≤ b.id)))))

def loadLiveOrderLogsByUuid (db : Database) (orderUuid : String) : List LiveOrderLog :=
  (db.liveOrderLogs.select (fun r => r.orderUuid == some orderUuid)).insertionSort
    LiveOrderLog.listedBefore

/-- `ORDER BY created_at DESC, id DESC`. -/
def LiveOrderLog.newer (a b : LiveOrderLog) : Prop :=
  b.createdAt < a.createdAt ∨ (b.createdAt = a.createdAt ∧ b.id ≤ a.id)

instance : DecidableRel LiveOrderLog.newer := fun a b =>
  inferInstanceAs (Decidable (b.createdAt < a.createdAt ∨ (b.createdAt = a.createdAt ∧ b.id ≤ a.id)))

/-- `load_live_order_logs` with `include_canonical_with_events`. -/
def loadLiveOrderLogs (db : Database) (limit : ℕ) : List LiveOrderLog :=
  (db.liveOrderLogs.rows.insertionSort LiveOrderLog.newer).take limit

/-- `load_reconcilable_live_order_logs`; its callers only count the rows. -/
def loadReconcilableLiveOrderLogs (db : Database) (exchange market : String) :
    List LiveOrderLog :=
  db.liveOrderLogs.select (fun r =>
    r.exchange == exchange && r.market == market && r.status.isUnresolved
      && !liveOrderEventRequestIdFilter r.requestId)

def hasUnresolvedLiveOrder (db : Database) (exchange market : String) : Bool :=
  !(loadReconcilableLiveOrderLogs db exchange market).isEmpty

def hasUnresolvedLiveOrderForExchange (db : Database) (exchange : String) : Bool :=
  db.liveOrderLogs.rows.any (fun r =>
    r.exchange == exchange && r.status.isUnresolved
      && !liveOrderEventRequestIdFilter r.requestId)

def countExitRetries (db : Database) (exitCandidateId : ℕ) : ℕ :=
  (db.liveOrderLogs.select (fun r =>
    r.exitCandidateId == some exitCandidateId && r.orderPurpose == .exit
      && [OrderStatus.submitted, .waiting, .partiallyFilled, .filled, .canceled,
          .failed].contains r.status
      && !liveOrderEventRequestIdFilter r.requestId)).length

/-! ## Updates -/

/-- The keys the callers of `update_live_order_log` pass. -/
structure LiveOrderLogUpdates where
  status : Option OrderStatus := none
  riskResult : Option String := none
  exchangeResponsePayload : Option RawOrder := none
  orderUuid : Option (Option String) := none
  executedVolume : Option ℚ := none
  remainingVolume : Option ℚ := none
  filledAmountKrw : Option ℚ := none
  paidFee : Option ℚ := none
  errorMessage : Option (Option String) := none
  positionId : Option (Option ℕ) := none
  actualPnl : Option (Option ℚ) := none

/-- `merged = {**current, **updates}`. -/
def LiveOrderLog.merge (current : LiveOrderLog) (u : LiveOrderLogUpdates) : LiveOrderLog :=
  { current with
    status := u.status.getD current.status
    riskResult := u.riskResult.getD current.riskResult
    exchangeResponsePayload := u.exchangeResponsePayload.getD current.exchangeResponsePayload
    orderUuid := u.orderUuid.getD current.orderUuid
    executedVolume := u.executedVolume.getD current.executedVolume
    remainingVolume := u.remainingVolume.getD current.remainingVolume
    filledAmountKrw := u.filledAmountKrw.getD current.filledAmountKrw
    paidFee := u.paidFee.getD current.paidFee
    errorMessage := u.errorMessage.getD current.errorMessage
    positionId := u.positionId.getD current.positionId
    actualPnl := u.actualPnl.getD current.actualPnl }

/-- Another canonical row that owns the uuid of the merged row. -/
def duplicateOrderOwner (db : Database) (requestId : String) (merged : LiveOrderLog) :
    Option LiveOrderLog :=
  let orderUuid := toText merged.orderUuid
  if orderUuid ≠ "" ∧ isLiveOrderStatusEventRequest requestId = false then
    findCanonicalLiveOrderByUuid db orderUuid requestId
  else none

/-- The row `update_live_order_log` writes back over `current`. -/
def mergedLiveOrderLog (db : Database) (requestId : String) (current : LiveOrderLog)
    (u : LiveOrderLogUpdates) (now : UtcTime) : LiveOrderLog :=
  let merged := current.merge u
  let merged :=
    match duplicateOrderOwner db requestId merged with
    | some duplicate =>
      -- the uuid stays with the row that had it first; the figures are merged all the same
      { merged with
        status := .failed
        riskResult := "DUPLICATE_EXCHANGE_ORDER_UUID"
        errorMessage := some ("Duplicate exchange order uuid already recorded by request_id="
          ++ duplicate.requestId)
        orderUuid := current.orderUuid }
    | none => merged
  { merged with updatedAt := now }

/-- `UPDATE live_order_logs SET …`: the columns of `merged` over `row`. -/
def LiveOrderLog.overwrite (row merged : LiveOrderLog) : LiveOrderLog :=
  { row with
    riskResult := merged.riskResult
    exchangeResponsePayload := merged.exchangeResponsePayload
    status := merged.status
    errorMessage := merged.errorMessage
    sessionId := merged.sessionId
    candidateStrategyId := merged.candidateStrategyId
    orderUuid := merged.orderUuid
    executedVolume := merged.executedVolume
    remainingVolume := merged.remainingVolume
    filledAmountKrw := merged.filledAmountKrw
    paidFee := merged.paidFee
    positionId := merged.positionId
    exitCandidateId := merged.exitCandidateId
    orderPurpose := merged.orderPurpose
    actualPnl := merged.actualPnl
    candleTimeUtc := merged.candleTimeUtc
    updatedAt := merged.updatedAt }

@[simp] theorem LiveOrderLog.overwrite_orderUuid (row merged : LiveOrderLog) :
    (row.overwrite merged).orderUuid = merged.orderUuid := rfl

@[simp] theorem LiveOrderLog.overwrite_filledAmountKrw (row merged : LiveOrderLog) :
    (row.overwrite merged).filledAmountKrw = merged.filledAmountKrw := rfl

def updateLiveOrderLog (db : Database) (requestId : String) (u : LiveOrderLogUpdates)
    (now : UtcTime) : Database :=
  match getLiveOrderLog db requestId with
  | none => db
  | some current =>
    let merged := mergedLiveOrderLog db requestId current u now
    { db with
      liveOrderLogs := db.liveOrderLogs.modifyWhere (fun r => r.requestId == requestId)
        (fun r => r.overwrite merged) (fun _ => rfl)
      requestId_unique := db.requestId_unique.modifyWhere (fun r => r.requestId == requestId)
        (f := fun r => r.overwrite merged) (fun _ => rfl) (fun _ => rfl) }

/-! ## What an update leaves and writes -/

section Lemmas

variable (db : Database) (requestId : String) (u : LiveOrderLogUpdates) (now : UtcTime)

theorem updateLiveOrderLog_frame : ∃ logs unique,
    updateLiveOrderLog db requestId u now
      = { db with liveOrderLogs := logs, requestId_unique := unique } := by
  unfold updateLiveOrderLog
  split
  · exact ⟨db.liveOrderLogs, db.requestId_unique, rfl⟩
  · rename_i current _
    exact ⟨_, db.requestId_unique.modifyWhere (fun r => r.requestId == requestId)
      (f := fun r => r.overwrite (mergedLiveOrderLog db requestId current u now))
      (fun _ => rfl) (fun _ => rfl), rfl⟩

@[simp] theorem updateLiveOrderLog_livePositions :
    (updateLiveOrderLog db requestId u now).livePositions = db.livePositions := by
  unfold updateLiveOrderLog; split <;> rfl

@[simp] theorem updateLiveOrderLog_positionFillEvents :
    (updateLiveOrderLog db requestId u now).positionFillEvents = db.positionFillEvents := by
  unfold updateLiveOrderLog; split <;> rfl

@[simp] theorem updateLiveOrderLog_orderApplicationLedger :
    (updateLiveOrderLog db requestId u now).orderApplicationLedger
      = db.orderApplicationLedger := by
  unfold updateLiveOrderLog; split <;> rfl

theorem getLiveOrderLog_congr {db db' : Database} (h : db.liveOrderLogs = db'.liveOrderLogs)
    (requestId : String) : getLiveOrderLog db requestId = getLiveOrderLog db' requestId := by
  unfold getLiveOrderLog; rw [h]

theorem updateLiveOrderLog_congr {db db' : Database} (h : db.liveOrderLogs = db'.liveOrderLogs)
    (requestId : String) (u : LiveOrderLogUpdates) (now : UtcTime) :
    (updateLiveOrderLog db requestId u now).liveOrderLogs
      = (updateLiveOrderLog db' requestId u now).liveOrderLogs := by
  have hget := getLiveOrderLog_congr h requestId
  have hmerged : ∀ current, mergedLiveOrderLog db requestId current u now
      = mergedLiveOrderLog db' requestId current u now := by
    intro current
    simp only [mergedLiveOrderLog, duplicateOrderOwner, findCanonicalLiveOrderByUuid, h]
  unfold updateLiveOrderLog
  rw [hget]
  split
  · exact h
  · simp only [hmerged, h]

theorem getLiveOrderLog_requestId {log : LiveOrderLog}
    (h : getLiveOrderLog db requestId = some log) : log.requestId = requestId := by
  have := List.find?_some h
  simpa using this

theorem getLiveOrderLog_update_self {log : LiveOrderLog}
    (h : getLiveOrderLog db requestId = some log) :
    getLiveOrderLog (updateLiveOrderLog db requestId u now) requestId
      = some (log.overwrite (mergedLiveOrderLog db requestId log u now)) := by
  have hstored : (db.liveOrderLogs.rows.find? (fun r => r.requestId == requestId)) = some log := h
  unfold updateLiveOrderLog
  rw [h]
  -- an update moves no row and changes no request id, so the same row is found
  refine (Table.find?_modifyWhere db.liveOrderLogs (fun r => r.requestId == requestId)
    (fun r => r.overwrite (mergedLiveOrderLog db requestId log u now)) (fun _ => rfl)
    (fun r => r.requestId == requestId) (fun _ => rfl)).trans ?_
  rw [hstored]
  simp [getLiveOrderLog_requestId db requestId h]

theorem getLiveOrderLog_update_ne {other : String} (h : other ≠ requestId) :
    getLiveOrderLog (updateLiveOrderLog db requestId u now) other = getLiveOrderLog db other := by
  unfold updateLiveOrderLog
  cases getLiveOrderLog db requestId with
  | none => rfl
  | some log =>
    refine (Table.find?_modifyWhere db.liveOrderLogs (fun r => r.requestId == requestId)
      (fun r => r.overwrite (mergedLiveOrderLog db requestId log u now)) (fun _ => rfl)
      (fun r => r.requestId == other) (fun _ => rfl)).trans ?_
    show (getLiveOrderLog db other).map _ = getLiveOrderLog db other
    cases hother : getLiveOrderLog db other with
    | none => rfl
    | some r =>
      have hne : ¬ (r.requestId == requestId) = true := by
        rw [getLiveOrderLog_requestId db other hother, beq_iff_eq]
        exact h
      rw [Option.map_some, if_neg hne]

end Lemmas

/-! The duplicate guard touches status, risk result, error text and uuid only. -/

section Merged

variable (db : Database) (requestId : String) (current : LiveOrderLog)
  (u : LiveOrderLogUpdates) (now : UtcTime)

@[simp] theorem mergedLiveOrderLog_executedVolume :
    (mergedLiveOrderLog db requestId current u now).executedVolume
      = u.executedVolume.getD current.executedVolume := by
  simp only [mergedLiveOrderLog]; split <;> rfl

@[simp] theorem mergedLiveOrderLog_filledAmountKrw :
    (mergedLiveOrderLog db requestId current u now).filledAmountKrw
      = u.filledAmountKrw.getD current.filledAmountKrw := by
  simp only [mergedLiveOrderLog]; split <;> rfl

@[simp] theorem mergedLiveOrderLog_paidFee :
    (mergedLiveOrderLog db requestId current u now).paidFee
      = u.paidFee.getD current.paidFee := by
  simp only [mergedLiveOrderLog]; split <;> rfl

@[simp] theorem mergedLiveOrderLog_exitCandidateId :
    (mergedLiveOrderLog db requestId current u now).exitCandidateId
      = current.exitCandidateId := by
  simp only [mergedLiveOrderLog]; split <;> rfl

@[simp] theorem mergedLiveOrderLog_positionId :
    (mergedLiveOrderLog db requestId current u now).positionId
      = u.positionId.getD current.positionId := by
  simp only [mergedLiveOrderLog]; split <;> rfl

@[simp] theorem mergedLiveOrderLog_candidateStrategyId :
    (mergedLiveOrderLog db requestId current u now).candidateStrategyId
      = current.candidateStrategyId := by
  simp only [mergedLiveOrderLog]; split <;> rfl

@[simp] theorem mergedLiveOrderLog_orderPurpose :
    (mergedLiveOrderLog db requestId current u now).orderPurpose = current.orderPurpose := by
  simp only [mergedLiveOrderLog]; split <;> rfl

theorem mergedLiveOrderLog_orderUuid :
    (mergedLiveOrderLog db requestId current u now).orderUuid
        = u.orderUuid.getD current.orderUuid
      ∨ (mergedLiveOrderLog db requestId current u now).orderUuid = current.orderUuid := by
  simp only [mergedLiveOrderLog]
  split
  · exact .inr rfl
  · exact .inl rfl

theorem mergedLiveOrderLog_status :
    (mergedLiveOrderLog db requestId current u now).status
      = if (duplicateOrderOwner db requestId (current.merge u)).isSome then .failed
        else u.status.getD current.status := by
  simp only [mergedLiveOrderLog]
  split <;> simp_all [LiveOrderLog.merge]

end Merged

end AutoCoinBot
