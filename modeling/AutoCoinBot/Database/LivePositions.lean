/-
  Database.LivePositions — queries and updates of `live_positions`, and updates of
  `live_strategy_sessions` and of `exit_candidates`.

  `updates` dicts are structures with one optional field per allowed key, so
  `{ status := some .closed }` is `{"status": "CLOSED"}`. A nullable column
  takes `some none` for an explicit `None`. No caller passes an empty dict.
-/
import AutoCoinBot.Database.Schema

namespace AutoCoinBot

open Library

/-! ## Updates -/

/-- The keys `update_live_position` accepts. -/
structure LivePositionUpdates where
  status : Option PositionStatus := none
  exitOrderUuid : Option (Option String) := none
  entryPrice : Option ℚ := none
  currentPrice : Option ℚ := none
  entryVolume : Option ℚ := none
  entryAmountKrw : Option ℚ := none
  unrealizedPnl : Option ℚ := none
  realizedPnl : Option ℚ := none
  scaleInCount : Option ℕ := none
  lastScaleInAt : Option UtcTime := none
  closedAt : Option UtcTime := none

/-- The row after `UPDATE live_positions SET …`. -/
def LivePosition.merge (p : LivePosition) (u : LivePositionUpdates) (now : UtcTime) :
    LivePosition :=
  { p with
    status := u.status.getD p.status
    exitOrderUuid := u.exitOrderUuid.getD p.exitOrderUuid
    entryPrice := u.entryPrice.getD p.entryPrice
    currentPrice := u.currentPrice.getD p.currentPrice
    entryVolume := u.entryVolume.getD p.entryVolume
    entryAmountKrw := u.entryAmountKrw.getD p.entryAmountKrw
    unrealizedPnl := u.unrealizedPnl.getD p.unrealizedPnl
    realizedPnl := u.realizedPnl.getD p.realizedPnl
    scaleInCount := u.scaleInCount.getD p.scaleInCount
    lastScaleInAt := u.lastScaleInAt.or p.lastScaleInAt
    closedAt := u.closedAt.or p.closedAt
    updatedAt := now }

section Merge

variable (p : LivePosition) (u : LivePositionUpdates) (now : UtcTime)

@[simp] theorem LivePosition.merge_id : (p.merge u now).id = p.id := rfl
@[simp] theorem LivePosition.merge_status :
    (p.merge u now).status = u.status.getD p.status := rfl
@[simp] theorem LivePosition.merge_entryVolume :
    (p.merge u now).entryVolume = u.entryVolume.getD p.entryVolume := rfl
@[simp] theorem LivePosition.merge_entryAmountKrw :
    (p.merge u now).entryAmountKrw = u.entryAmountKrw.getD p.entryAmountKrw := rfl
@[simp] theorem LivePosition.merge_realizedPnl :
    (p.merge u now).realizedPnl = u.realizedPnl.getD p.realizedPnl := rfl

@[simp] theorem LivePosition.merge_merge : (p.merge u now).merge u now = p.merge u now := by
  have hgetD : ∀ {α : Type} (o : Option α) (x : α), o.getD (o.getD x) = o.getD x := by
    intro α o x; cases o <;> rfl
  have hor : ∀ {α : Type} (o x : Option α), o.or (o.or x) = o.or x := by
    intro α o x; cases o <;> rfl
  simp only [LivePosition.merge, hgetD, hor]

end Merge

def updateLivePosition (db : Database) (positionId : ℕ) (u : LivePositionUpdates)
    (now : UtcTime) : Database :=
  { db with livePositions :=
      db.livePositions.modify positionId (fun p => p.merge u now) (fun _ => rfl) }

/-- `create_live_position`: the row is built around the key it receives. -/
def createLivePosition (db : Database) (position : ℕ → LivePosition)
    (hid : ∀ k, (position k).id = k) : Database :=
  { db with livePositions := db.livePositions.insert position hid }

/-! ## Queries -/

/-- `ORDER BY created_at DESC, id DESC`. -/
def LivePosition.newer (p q : LivePosition) : Prop :=
  q.createdAt < p.createdAt ∨ (q.createdAt = p.createdAt ∧ q.id ≤ p.id)

instance : DecidableRel LivePosition.newer := fun p q =>
  inferInstanceAs (Decidable (q.createdAt < p.createdAt ∨ (q.createdAt = p.createdAt ∧ q.id ≤ p.id)))

def selectActivePositions (db : Database) (p : LivePosition → Bool) : List LivePosition :=
  (db.livePositions.select (fun r => r.status.isActive && p r)).insertionSort LivePosition.newer

def loadLivePosition (db : Database) (positionId : ℕ) : Option LivePosition :=
  db.livePositions.get? positionId

def loadOpenLivePositions (db : Database) (exchange market : String) : List LivePosition :=
  selectActivePositions db (fun r => r.exchange == exchange && r.market == market)

def loadOpenLivePositionsForExchange (db : Database) (exchange : String) : List LivePosition :=
  selectActivePositions db (fun r => r.exchange == exchange)

def loadLivePositionByEntryOrderUuid (db : Database) (exchange market uuid : String) :
    Option LivePosition :=
  (selectActivePositions db (fun r =>
    r.exchange == exchange && r.market == market && r.entryOrderUuid == some uuid)).head?

def loadOpenLivePositionForStrategy (db : Database) (exchange market : String)
    (candidateStrategyId : ℕ) : Option LivePosition :=
  (selectActivePositions db (fun r =>
    r.exchange == exchange && r.market == market
      && r.candidateStrategyId == candidateStrategyId)).head?

def hasOpenLivePositionForStrategy (db : Database) (exchange market : String)
    (candidateStrategyId : ℕ) : Bool :=
  (loadOpenLivePositionForStrategy db exchange market candidateStrategyId).isSome

/-! ## What updates and queries see -/

section Lemmas

variable (db : Database) (pid : ℕ) (u : LivePositionUpdates) (now : UtcTime)

@[simp] theorem loadLivePosition_update_self :
    loadLivePosition (updateLivePosition db pid u now) pid
      = (loadLivePosition db pid).map (fun p => p.merge u now) :=
  Table.get?_modify_self db.livePositions pid (fun p => p.merge u now) (fun _ => rfl)

theorem loadLivePosition_update_ne {j : ℕ} (h : j ≠ pid) :
    loadLivePosition (updateLivePosition db pid u now) j = loadLivePosition db j :=
  Table.get?_modify_ne db.livePositions (fun p => p.merge u now) (fun _ => rfl) h

theorem loadLivePosition_update (j : ℕ) :
    loadLivePosition (updateLivePosition db pid u now) j
      = (loadLivePosition db j).map (fun p => if j = pid then p.merge u now else p) :=
  Table.get?_modify db.livePositions j pid (fun p => p.merge u now) (fun _ => rfl)

theorem loadLivePosition_id {p : LivePosition} (h : loadLivePosition db pid = some p) :
    p.id = pid := Table.get?_some_rowId h

variable {db}

theorem loadLivePosition_congr {db' : Database} (h : db.livePositions = db'.livePositions)
    (j : ℕ) : loadLivePosition db j = loadLivePosition db' j := by
  unfold loadLivePosition; rw [h]

theorem mem_selectActivePositions {q : LivePosition → Bool} {p : LivePosition} :
    p ∈ selectActivePositions db q
      ↔ loadLivePosition db p.id = some p ∧ p.status.isActive = true ∧ q p = true := by
  unfold selectActivePositions loadLivePosition
  rw [List.mem_insertionSort, Table.mem_select, Bool.and_eq_true, Table.mem_rows_iff]
  rfl

theorem loadLivePositionByEntryOrderUuid_mem {exchange market uuid : String} {p : LivePosition}
    (h : loadLivePositionByEntryOrderUuid db exchange market uuid = some p) :
    loadLivePosition db p.id = some p ∧ p.status.isActive = true
      ∧ p.entryOrderUuid = some uuid := by
  have hmem := mem_selectActivePositions.mp (List.mem_of_head? h)
  simp only [Bool.and_eq_true, beq_iff_eq] at hmem
  exact ⟨hmem.1, hmem.2.1, hmem.2.2.2⟩

end Lemmas

/-! ## Sessions -/

/-- The keys the callers of `update_live_strategy_session` pass, and the `updated_at` it
adds, where a reader orders by it. -/
structure LiveStrategySessionUpdates where
  status : Option SessionStatus := none
  autoEnabled : Option Bool := none
  currentOpenOrderUuid : Option (Option String) := none
  currentPositionId : Option (Option ℕ) := none
  lastOrderStatus : Option String := none
  lastRiskResult : Option String := none
  stoppedAt : Option UtcTime := none
  updatedAt : Option UtcTime := none

/-- The row after `UPDATE live_strategy_sessions SET …`. -/
def LiveStrategySession.merge (s : LiveStrategySession) (u : LiveStrategySessionUpdates) :
    LiveStrategySession :=
  { s with
    status := u.status.getD s.status
    autoEnabled := u.autoEnabled.getD s.autoEnabled
    currentOpenOrderUuid := u.currentOpenOrderUuid.getD s.currentOpenOrderUuid
    currentPositionId := u.currentPositionId.getD s.currentPositionId
    lastOrderStatus := u.lastOrderStatus.or s.lastOrderStatus
    lastRiskResult := u.lastRiskResult.or s.lastRiskResult
    stoppedAt := u.stoppedAt.or s.stoppedAt
    updatedAt := u.updatedAt.getD s.updatedAt }

@[simp] theorem LiveStrategySession.merge_merge (s : LiveStrategySession)
    (u : LiveStrategySessionUpdates) : (s.merge u).merge u = s.merge u := by
  have hgetD : ∀ {α : Type} (o : Option α) (x : α), o.getD (o.getD x) = o.getD x := by
    intro α o x; cases o <;> rfl
  have hor : ∀ {α : Type} (o x : Option α), o.or (o.or x) = o.or x := by
    intro α o x; cases o <;> rfl
  simp only [LiveStrategySession.merge, hgetD, hor]

/-- The update that stops a session at `now_utc`. -/
def stopSessionUpdates (lastRiskResult lastOrderStatus : String) (now : UtcTime) :
    LiveStrategySessionUpdates :=
  { status := some .stopped
    autoEnabled := some false
    lastRiskResult := some lastRiskResult
    lastOrderStatus := some lastOrderStatus
    stoppedAt := some now
    updatedAt := some now }

def updateLiveStrategySession (db : Database) (sessionId : ℕ) (u : LiveStrategySessionUpdates) :
    Database :=
  { db with liveStrategySessions :=
      db.liveStrategySessions.modify sessionId (fun s => s.merge u) (fun _ => rfl) }

def loadLiveStrategySession (db : Database) (sessionId : ℕ) : Option LiveStrategySession :=
  db.liveStrategySessions.get? sessionId

theorem loadLiveStrategySession_update (db : Database) (sessionId : ℕ)
    (u : LiveStrategySessionUpdates) (k : ℕ) :
    loadLiveStrategySession (updateLiveStrategySession db sessionId u) k
      = (loadLiveStrategySession db k).map (fun s => if k = sessionId then s.merge u else s) :=
  Table.get?_modify db.liveStrategySessions k sessionId (fun s => s.merge u) (fun _ => rfl)

/-- `ORDER BY created_at DESC, id DESC`. -/
def LiveStrategySession.newer (s t : LiveStrategySession) : Prop :=
  t.createdAt < s.createdAt ∨ (t.createdAt = s.createdAt ∧ t.id ≤ s.id)

instance : DecidableRel LiveStrategySession.newer := fun s t =>
  inferInstanceAs (Decidable (t.createdAt < s.createdAt ∨ (t.createdAt = s.createdAt ∧ t.id ≤ s.id)))

def loadLatestLiveStrategySession (db : Database) : Option LiveStrategySession :=
  (db.liveStrategySessions.rows.insertionSort LiveStrategySession.newer).head?

/-- `create_live_strategy_session`: sessions of the same market and candidate
that still run are stopped before the new row is inserted. -/
def createLiveStrategySession (db : Database) (session : ℕ → LiveStrategySession)
    (hid : ∀ k, (session k).id = k) (now : UtcTime) : Database :=
  let new := session db.liveStrategySessions.nextId
  let stopped := db.liveStrategySessions.modifyWhere
    (fun s => [SessionStatus.ready, .running, .paused].contains s.status
      && s.exchange == new.exchange && s.market == new.market
      && s.candidateStrategyId == new.candidateStrategyId)
    (fun s => { s with status := .stopped, autoEnabled := false, stoppedAt := some now })
    (fun _ => rfl)
  { db with liveStrategySessions := stopped.insert session hid }

/-! ## Exit candidates -/

/-- `update_exit_candidate`, with the two keys its callers pass. -/
def updateExitCandidate (db : Database) (candidateId : ℕ) (status : ExitCandidateStatus)
    (riskResult : String) : Database :=
  let candidates := db.exitCandidates.modify candidateId
    (fun c => { c with status := status, riskResult := riskResult }) (fun _ => rfl)
  { db with exitCandidates := candidates }

end AutoCoinBot
