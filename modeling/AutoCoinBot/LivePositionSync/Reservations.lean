/-
  LivePositionSync.Reservations — what a sync leaves of the reservations, and what
  its source text has no influence on.

  A sync touches the reservations in one place, the entry lifecycle of the position that the
  order went to, and there is one such position at most.
-/
import AutoCoinBot.LivePositionSync.Effects

namespace AutoCoinBot

open Library

/-! ## Sources -/

def SyncWrite.withSource (source : String) : SyncWrite → SyncWrite
  | .insertPositionFillEvent e => .insertPositionFillEvent { e with source := source }
  | .updatePositionFillEvent id u => .updatePositionFillEvent id { u with source := source }
  | .upsertOrderApplicationLedger l => .upsertOrderApplicationLedger { l with source := source }
  | w => w

/-- Equal in the tables where no row names a source. -/
structure SameButFills (db db' : Database) : Prop where
  livePositions : db.livePositions = db'.livePositions
  liveOrderLogs : db.liveOrderLogs = db'.liveOrderLogs
  liveStrategySessions : db.liveStrategySessions = db'.liveStrategySessions
  positionSlots : db.positionSlots = db'.positionSlots
  orderReservations : db.orderReservations = db'.orderReservations

namespace SameButFills

variable {db db' db'' : Database}

theorem refl (db : Database) : SameButFills db db := ⟨rfl, rfl, rfl, rfl, rfl⟩

theorem trans (h : SameButFills db db') (h' : SameButFills db' db'') : SameButFills db db'' :=
  ⟨h.livePositions.trans h'.livePositions, h.liveOrderLogs.trans h'.liveOrderLogs,
    h.liveStrategySessions.trans h'.liveStrategySessions,
    h.positionSlots.trans h'.positionSlots, h.orderReservations.trans h'.orderReservations⟩

theorem updateLiveOrderLog (h : SameButFills db db') (requestId : String)
    (u : LiveOrderLogUpdates) (now : UtcTime) :
    SameButFills (AutoCoinBot.updateLiveOrderLog db requestId u now)
      (AutoCoinBot.updateLiveOrderLog db' requestId u now) := by
  have hlogs := updateLiveOrderLog_congr h.liveOrderLogs requestId u now
  obtain ⟨logs, hunique, hdb⟩ := updateLiveOrderLog_frame db requestId u now
  obtain ⟨logs', hunique', hdb'⟩ := updateLiveOrderLog_frame db' requestId u now
  rw [hdb, hdb'] at hlogs ⊢
  exact ⟨h.livePositions, hlogs, h.liveStrategySessions, h.positionSlots, h.orderReservations⟩

theorem updateLiveStrategySession (h : SameButFills db db') (sessionId : ℕ)
    (u : LiveStrategySessionUpdates) :
    SameButFills (AutoCoinBot.updateLiveStrategySession db sessionId u)
      (AutoCoinBot.updateLiveStrategySession db' sessionId u) := by
  refine ⟨h.livePositions, h.liveOrderLogs, ?_, h.positionSlots, h.orderReservations⟩
  unfold AutoCoinBot.updateLiveStrategySession
  rw [h.liveStrategySessions]

theorem finalizeEntryLifecycle (h : SameButFills db db') (positionId : ℕ) (now : UtcTime) :
    SameButFills (finalizeEntryLifecycleForPosition db positionId now)
      (finalizeEntryLifecycleForPosition db' positionId now) := by
  have hslot : ∀ exchange market candidateId sessionId positionId,
      entrySlotForPosition db exchange market candidateId sessionId positionId
        = entrySlotForPosition db' exchange market candidateId sessionId positionId := by
    intro exchange market candidateId sessionId positionId
    unfold entrySlotForPosition
    rw [h.positionSlots]
  unfold finalizeEntryLifecycleForPosition
  rw [loadLivePosition_congr h.livePositions]
  cases loadLivePosition db' positionId with
  | none => exact h
  | some p =>
    by_cases hactive : p.status.isActive = false
    · simp only [hactive, if_true]
      exact h
    · simp only [hactive, Bool.true_eq_false, if_false, hslot, h.positionSlots,
        h.orderReservations]
      exact ⟨h.livePositions, h.liveOrderLogs, h.liveStrategySessions, rfl, rfl⟩

theorem apply (h : SameButFills db db') (now : UtcTime) (w : SyncWrite) :
    SameButFills (w.apply now db) (w.apply now db') := by
  cases w with
  | createLivePosition p =>
    refine ⟨?_, h.liveOrderLogs, h.liveStrategySessions, h.positionSlots, h.orderReservations⟩
    unfold SyncWrite.apply AutoCoinBot.createLivePosition
    rw [h.livePositions]
  | insertPositionFillEvent e =>
    exact ⟨h.livePositions, h.liveOrderLogs, h.liveStrategySessions, h.positionSlots,
      h.orderReservations⟩
  | updatePositionFillEvent id u =>
    exact ⟨h.livePositions, h.liveOrderLogs, h.liveStrategySessions, h.positionSlots,
      h.orderReservations⟩
  | upsertOrderApplicationLedger l =>
    exact ⟨h.livePositions, h.liveOrderLogs, h.liveStrategySessions, h.positionSlots,
      h.orderReservations⟩
  | updateLivePosition id u =>
    refine ⟨?_, h.liveOrderLogs, h.liveStrategySessions, h.positionSlots, h.orderReservations⟩
    unfold SyncWrite.apply AutoCoinBot.updateLivePosition
    rw [h.livePositions]
  | attachLog requestId positionId => exact h.updateLiveOrderLog _ _ _
  | updateLiveStrategySession id u => exact h.updateLiveStrategySession _ _
  | finalizeEntryLifecycle id => exact h.finalizeEntryLifecycle _ _

end SameButFills

section Sources

variable (env : SyncEnv) (db : Database)

theorem sameButFills_withSource (now : UtcTime) (source : String) (w : SyncWrite) :
    SameButFills (w.apply now db) ((w.withSource source).apply now db) := by
  cases w <;> exact ⟨rfl, rfl, rfl, rfl, rfl⟩

theorem sameButFills_applyWrites (now : UtcTime) (source : String) {ws ws' : List SyncWrite}
    (hws : ws.map (SyncWrite.withSource source) = ws'.map (SyncWrite.withSource source))
    {db db' : Database} (h : SameButFills db db') :
    SameButFills (applyWrites now db ws) (applyWrites now db' ws') := by
  induction ws generalizing ws' db db' with
  | nil =>
    obtain rfl : ws' = [] := List.map_eq_nil_iff.mp hws.symm
    exact h
  | cons w ws ih =>
    cases ws' with
    | nil => cases hws
    | cons w' ws' =>
      simp only [List.map_cons, List.cons.injEq] at hws
      refine ih hws.2 ?_
      have hw := sameButFills_withSource db now source w
      have hw' := sameButFills_withSource db' now source w'
      rw [hws.1] at hw
      have happly := h.apply now (w'.withSource source)
      exact hw.trans (happly.trans ⟨hw'.livePositions.symm, hw'.liveOrderLogs.symm,
        hw'.liveStrategySessions.symm, hw'.positionSlots.symm, hw'.orderReservations.symm⟩)

theorem syncFilledOrder_withSource (f : FilledOrder) (source source' source'' : String)
    (session : SyncSession) :
    (syncFilledOrder env db f source session).1.map (SyncWrite.withSource source'')
        = (syncFilledOrder env db f source' session).1.map (SyncWrite.withSource source'')
      ∧ (syncFilledOrder env db f source session).2
        = (syncFilledOrder env db f source' session).2 := by
  unfold syncFilledOrder
  simp only
  cases applicationOf db f.orderUuid with
  | some ledger =>
    simp only [applyOrderUuidDelta]
    cases loadLivePosition db ledger.positionId with
    | none => exact ⟨rfl, rfl⟩
    | some position =>
      dsimp only
      by_cases hvolume : deltaVolume ledger f ≤ deltaTolerance
      · rw [if_pos hvolume, if_pos hvolume]
        exact ⟨rfl, rfl⟩
      · rw [if_neg hvolume, if_neg hvolume]
        refine ⟨?_, rfl⟩
        simp only [List.map_append, deltaRecords]
        cases loadPositionFillEvent db f.orderUuid ledger.fillType <;> rfl
  | none =>
    simp only
    split
    · exact ⟨rfl, rfl⟩
    · split
      · unfold applyScaleIn
        split
        · exact ⟨rfl, rfl⟩
        · exact ⟨by simp only [List.map_append]; rfl, rfl⟩
      · split
        · unfold adoptExisting
          refine ⟨?_, rfl⟩
          simp only [List.map_append]
          split <;> rfl
        · unfold createPosition
          refine ⟨?_, rfl⟩
          simp only [List.map_append]
          rfl

/-- **The source of a sync decides nothing**, and the log may be any row that reads alike. -/
theorem sameButFills_sync (c : SyncCall) (source : String) :
    SameButFills (syncFilledEntryOrderToPosition env db c).1
        (syncFilledEntryOrderToPosition env db { c with source := source }).1
      ∧ (syncFilledEntryOrderToPosition env db c).2
        = (syncFilledEntryOrderToPosition env db { c with source := source }).2 := by
  unfold syncFilledEntryOrderToPosition syncPlan
  simp only
  cases filledOrder db c.orderLog c.rawOrder c.session with
  | error reason => exact ⟨SameButFills.refl db, rfl⟩
  | ok f =>
    have hplan := syncFilledOrder_withSource env db f c.source source "" c.session
    exact ⟨sameButFills_applyWrites env.now "" hplan.1 (SameButFills.refl db), hplan.2⟩

end Sources

/-! ## The finalized entry -/

/-- The reservations that the entry of a position accounts for. -/
def entryConsumes (db : Database) (p : LivePosition) (r : OrderReservation) : Bool :=
  let exchange := orText p.exchange "bithumb"
  let slot := entrySlotForPosition db exchange p.market p.candidateStrategyId p.sessionId p.id
  p.status.isActive && (r.exchange == exchange && r.market == p.market
    && r.candidateStrategyId == p.candidateStrategyId
    && [ReservationStatus.reserved, .orderSubmitted].contains r.status
    && (slot.isNone || r.slotId == none || r.slotId == slot.map PositionSlot.id))

/-- A reservation once an entry that accounts for it is finalized. -/
def OrderReservation.after (r : OrderReservation) (consumed : Bool) : OrderReservation :=
  if consumed then { r with status := .consumed } else r

theorem entryConsumes_congr {db db' : Database} (hslots : db.positionSlots = db'.positionSlots)
    {p q : LivePosition} (hid : p.id = q.id) (hstatus : p.status = q.status)
    (hexchange : p.exchange = q.exchange) (hmarket : p.market = q.market)
    (hcandidate : p.candidateStrategyId = q.candidateStrategyId)
    (hsession : p.sessionId = q.sessionId) : entryConsumes db p = entryConsumes db' q := by
  funext r
  unfold entryConsumes entrySlotForPosition
  rw [hslots, hid, hstatus, hexchange, hmarket, hcandidate, hsession]

theorem reservation_finalizeEntry (db : Database) (positionId : ℕ) (now : UtcTime) (k : ℕ) :
    (finalizeEntryLifecycleForPosition db positionId now).orderReservations.get? k
      = (db.orderReservations.get? k).map (fun r =>
          r.after ((loadLivePosition db positionId).any (fun p => entryConsumes db p r))) := by
  unfold finalizeEntryLifecycleForPosition
  cases hload : loadLivePosition db positionId with
  | none =>
    simp only [Option.any_none, OrderReservation.after, Bool.false_eq_true, if_false]
    exact Option.map_id'.symm
  | some p =>
    have hid := loadLivePosition_id db positionId hload
    by_cases hactive : p.status.isActive = true
    · simp only [hactive, Bool.true_eq_false, if_false, Option.any_some]
      rw [Table.get?_modifyWhere]
      refine congrFun (congrArg _ (funext fun r => ?_)) _
      simp only [OrderReservation.after, entryConsumes, hactive, Bool.true_and, hid]
    · have hoff : p.status.isActive = false := Bool.eq_false_iff.mpr hactive
      simp only [hoff, if_true, Option.any_some, entryConsumes, Bool.false_and,
        OrderReservation.after, Bool.false_eq_true, if_false]
      exact Option.map_id'.symm

section Writes

variable (now : UtcTime) (db : Database)

def SyncWrite.finalizes : SyncWrite → Bool
  | .finalizeEntryLifecycle _ => true
  | _ => false

theorem untouched_of_not_finalizes {w : SyncWrite} (hw : w.finalizes = false) :
    (w.apply now db).positionSlots = db.positionSlots
      ∧ (w.apply now db).orderReservations = db.orderReservations := by
  cases w with
  | finalizeEntryLifecycle id => cases hw
  | attachLog requestId positionId =>
    obtain ⟨logs, hunique, hdb⟩ := updateLiveOrderLog_frame db requestId
      { positionId := some (some positionId) } now
    show (updateLiveOrderLog db _ _ _).positionSlots = _
      ∧ (updateLiveOrderLog db _ _ _).orderReservations = _
    rw [hdb]
    exact ⟨rfl, rfl⟩
  | createLivePosition p => exact ⟨rfl, rfl⟩
  | insertPositionFillEvent e => exact ⟨rfl, rfl⟩
  | updatePositionFillEvent id u => exact ⟨rfl, rfl⟩
  | upsertOrderApplicationLedger l => exact ⟨rfl, rfl⟩
  | updateLivePosition id u => exact ⟨rfl, rfl⟩
  | updateLiveStrategySession id u => exact ⟨rfl, rfl⟩

theorem applyWrites_untouched {ws : List SyncWrite} (hws : ∀ w ∈ ws, w.finalizes = false) :
    (applyWrites now db ws).positionSlots = db.positionSlots
      ∧ (applyWrites now db ws).orderReservations = db.orderReservations := by
  induction ws generalizing db with
  | nil => exact ⟨rfl, rfl⟩
  | cons w ws ih =>
    have hw := untouched_of_not_finalizes now db (hws w List.mem_cons_self)
    have hrest := ih (w.apply now db) (fun w' hw' => hws w' (List.mem_cons_of_mem _ hw'))
    exact ⟨hrest.1.trans hw.1, hrest.2.trans hw.2⟩

theorem reservation_applyWrites_finalize {ws : List SyncWrite}
    (hws : ∀ w ∈ ws, w.finalizes = false) {positionId : ℕ} {p q : LivePosition}
    (hload : loadLivePosition (applyWrites now db ws) positionId = some p)
    (hid : p.id = q.id) (hstatus : p.status = q.status) (hexchange : p.exchange = q.exchange)
    (hmarket : p.market = q.market) (hcandidate : p.candidateStrategyId = q.candidateStrategyId)
    (hsession : p.sessionId = q.sessionId) (k : ℕ) :
    (applyWrites now db (ws ++ [.finalizeEntryLifecycle positionId])).orderReservations.get? k
      = (db.orderReservations.get? k).map (fun r => r.after (entryConsumes db q r)) := by
  obtain ⟨hslots, hreservations⟩ := applyWrites_untouched now db hws
  have hsplit : applyWrites now db (ws ++ [.finalizeEntryLifecycle positionId])
      = finalizeEntryLifecycleForPosition (applyWrites now db ws) positionId now := by
    unfold applyWrites
    rw [run_append]
    rfl
  rw [hsplit, reservation_finalizeEntry, hreservations, hload]
  simp only [Option.any_some, entryConsumes_congr hslots hid hstatus hexchange hmarket hcandidate
    hsession]

theorem reservation_applyWrites_finalizeIfEntry {ws : List SyncWrite}
    (hws : ∀ w ∈ ws, w.finalizes = false) (fillType : FillType) {positionId : ℕ}
    {p q : LivePosition}
    (hload : loadLivePosition (applyWrites now db ws) positionId = some p)
    (hid : p.id = q.id) (hstatus : p.status = q.status) (hexchange : p.exchange = q.exchange)
    (hmarket : p.market = q.market) (hcandidate : p.candidateStrategyId = q.candidateStrategyId)
    (hsession : p.sessionId = q.sessionId) (k : ℕ) :
    (applyWrites now db (ws ++ finalizeIfEntry fillType positionId)).orderReservations.get? k
      = (db.orderReservations.get? k).map (fun r =>
          r.after (decide (fillType = .entry) && entryConsumes db q r)) := by
  cases fillType with
  | entry =>
    exact reservation_applyWrites_finalize now db hws hload hid hstatus hexchange hmarket
      hcandidate hsession k
  | scaleIn =>
    show (applyWrites now db (ws ++ [])).orderReservations.get? k = _
    rw [List.append_nil, (applyWrites_untouched now db hws).2]
    exact Option.map_id'.symm

theorem session_applyWrites_isSome (ws : List SyncWrite) (sessionId : ℕ) :
    (loadLiveStrategySession (applyWrites now db ws) sessionId).isSome
      = (loadLiveStrategySession db sessionId).isSome := by
  induction ws generalizing db with
  | nil => rfl
  | cons w ws ih =>
    rw [applyWrites_cons, ih]
    cases w with
    | updateLiveStrategySession id u =>
      show (loadLiveStrategySession (AutoCoinBot.updateLiveStrategySession db id u) _).isSome = _
      rw [loadLiveStrategySession_update, Option.isSome_map]
    | attachLog requestId positionId =>
      obtain ⟨logs, hunique, hdb⟩ := updateLiveOrderLog_frame db requestId
        { positionId := some (some positionId) } now
      show (loadLiveStrategySession (updateLiveOrderLog db _ _ _) sessionId).isSome = _
      rw [hdb]
      rfl
    | finalizeEntryLifecycle id =>
      obtain ⟨slots, reservations, hdb⟩ := finalizeEntryLifecycleForPosition_frame db id now
      show (loadLiveStrategySession (finalizeEntryLifecycleForPosition db id now) _).isSome = _
      rw [hdb]
      rfl
    | createLivePosition p => rfl
    | insertPositionFillEvent e => rfl
    | updatePositionFillEvent id u => rfl
    | upsertOrderApplicationLedger l => rfl
    | updateLivePosition id u => rfl

@[simp] theorem attachLogs_not_finalizes (logs : List LiveOrderLog) (positionId : ℕ) :
    ∀ w ∈ attachLogs logs positionId, w.finalizes = false := by
  intro w hw
  obtain ⟨requestId, -, rfl⟩ := List.mem_map.mp hw
  rfl

@[simp] theorem deltaRecords_not_finalizes (ledger : OrderApplication) (position : LivePosition)
    (f : FilledOrder) (source : String) :
    ∀ w ∈ deltaRecords db ledger position f source, w.finalizes = false := by
  intro w hw
  unfold deltaRecords at hw
  simp only [List.mem_append, List.mem_cons, List.mem_map, List.not_mem_nil, or_false] at hw
  rcases hw with (rfl | ⟨event, -, rfl⟩) | rfl <;> rfl

end Writes

/-! ## The reservations of a sync -/

section Sync

variable (env : SyncEnv) (db : Database) (f : FilledOrder) (session : SyncSession)

/-- The position whose entry the sync of a filled order finalizes. -/
def finalizedPosition : Option LivePosition :=
  match applicationOf db f.orderUuid with
  | some ledger =>
    if ledger.fillType = .entry then
      (loadLivePosition db ledger.positionId).map (fun p =>
        -- more volume opens a position that had been closed
        if deltaVolume ledger f ≤ deltaTolerance then p else { p with status := .opened })
    else none
  | none =>
    if (resolveScaleInTarget db session f.canonicalLog
        (scalePreview f.canonicalLog)).isSome then none
    else some ((loadLivePositionByEntryOrderUuid db session.exchange session.market
      f.orderUuid).getD ((newPositionPayload env session f.canonicalLog f.orderUuid f.price
        f.volume f.amount).stored db.livePositions.nextId env.now))

theorem reservation_adoptExisting (source : String) {existing : LivePosition}
    (hload : loadLivePosition db existing.id = some existing) (k : ℕ) :
    (applyWrites env.now db
        (adoptExisting env db existing f source session).1).orderReservations.get? k
      = (db.orderReservations.get? k).map (fun r => r.after (entryConsumes db existing r)) := by
  have hplan : ∃ ws : List SyncWrite, (∀ w ∈ ws, w.finalizes = false)
      ∧ positionUpdates ws existing.id = []
      ∧ (adoptExisting env db existing f source session).1
        = ws ++ [.finalizeEntryLifecycle existing.id] := by
    refine ⟨attachLogs f.logs existing.id
      ++ (if (loadPositionFillEvent db f.orderUuid .entry).isNone then
          [fillEvent f.orderUuid existing.id .entry (source ++ "_ADOPT_EXISTING") f.canonicalLog
            existing.entryVolume existing.entryAmountKrw f.fee (existing.openedAt.getD env.now)]
        else [])
      ++ [recordLedger f.orderUuid existing.id .entry (source ++ "_ADOPT_EXISTING") f.canonicalLog
            existing.entryVolume existing.entryAmountKrw f.fee,
          pointSession session existing.id "POSITION_OPEN_SYNCED"], ?_, ?_, ?_⟩
    · intro w hw
      simp only [List.mem_append, List.mem_cons, List.not_mem_nil, or_false] at hw
      rcases hw with (hw | hw) | rfl | rfl
      · exact attachLogs_not_finalizes _ _ w hw
      · split at hw
        · rw [List.mem_singleton.mp hw]
          rfl
        · cases hw
      · rfl
      · rfl
    · split <;> simp
    · unfold adoptExisting
      simp only [List.append_assoc, List.cons_append, List.nil_append]
  obtain ⟨ws, hws, hnone, hplan⟩ := hplan
  have hloaded := loadLivePosition_applyWrites env.now db ws hload
  rw [hnone] at hloaded
  rw [hplan]
  exact reservation_applyWrites_finalize env.now db hws hloaded rfl rfl rfl rfl rfl rfl k

theorem reservation_createPosition (source : String) (k : ℕ) :
    (applyWrites env.now db (createPosition env db f source session).1).orderReservations.get? k
      = (db.orderReservations.get? k).map (fun r => r.after (entryConsumes db
          ((newPositionPayload env session f.canonicalLog f.orderUuid f.price f.volume
            f.amount).stored db.livePositions.nextId env.now) r)) := by
  obtain ⟨created, hcreated⟩ : ∃ p, p = (newPositionPayload env session f.canonicalLog f.orderUuid
    f.price f.volume f.amount).stored db.livePositions.nextId env.now := ⟨_, rfl⟩
  obtain ⟨ws, hws⟩ : ∃ ws : List SyncWrite, ws
      = [fillEvent f.orderUuid db.livePositions.nextId .entry source f.canonicalLog f.volume
            f.amount f.fee (f.appliedAt env),
          recordLedger f.orderUuid db.livePositions.nextId .entry source f.canonicalLog f.volume
            f.amount f.fee]
        ++ attachLogs f.logs db.livePositions.nextId
        ++ [pointSession session db.livePositions.nextId "POSITION_OPEN_SYNCED"] := ⟨_, rfl⟩
  have hstored : loadLivePosition (withNewPosition env db f session) db.livePositions.nextId
      = some created := by
    rw [hcreated]
    exact Table.get?_insert_self db.livePositions _ (fun _ => rfl)
  have hnone : positionUpdates ws db.livePositions.nextId = [] := by
    rw [hws]
    simp
  have hkeeps : ∀ w ∈ ws, w.finalizes = false := by
    intro w hw
    rw [hws] at hw
    simp only [List.mem_append, List.mem_cons, List.not_mem_nil, or_false] at hw
    rcases hw with ((rfl | rfl) | hw) | rfl
    · rfl
    · rfl
    · exact attachLogs_not_finalizes _ _ w hw
    · rfl
  have hloaded := loadLivePosition_applyWrites env.now (withNewPosition env db f session) ws hstored
  rw [hnone] at hloaded
  have hplan : applyWrites env.now db (createPosition env db f source session).1
      = applyWrites env.now (withNewPosition env db f session)
          (ws ++ [.finalizeEntryLifecycle db.livePositions.nextId]) := by
    rw [hws]
    simp only [createPosition, List.append_assoc, List.cons_append, List.nil_append,
      applyWrites_cons]
    rfl
  rw [hplan, ← hcreated]
  exact reservation_applyWrites_finalize env.now (withNewPosition env db f session) hkeeps hloaded
    rfl rfl rfl rfl rfl rfl k

/-- **A sync consumes what its finalized entry accounts for, and nothing else.** -/
theorem reservation_syncFilledOrder (source : String) (k : ℕ) :
    (applyWrites env.now db (syncFilledOrder env db f source session).1).orderReservations.get? k
      = (db.orderReservations.get? k).map (fun r =>
          r.after ((finalizedPosition env db f session).any (fun p => entryConsumes db p r))) := by
  have hkeeps : ∀ ws : List SyncWrite, (∀ w ∈ ws, w.finalizes = false) →
      (applyWrites env.now db ws).orderReservations.get? k
        = (db.orderReservations.get? k).map (fun r => r.after false) := by
    intro ws hws
    rw [(applyWrites_untouched env.now db hws).2]
    exact Option.map_id'.symm
  unfold syncFilledOrder finalizedPosition
  simp only
  cases happlied : applicationOf db f.orderUuid with
  | some ledger =>
    simp only [applyOrderUuidDelta]
    cases hload : loadLivePosition db ledger.positionId with
    | none =>
      have hnone : (if ledger.fillType = .entry then (none : Option LivePosition) else none)
          = none := by split <;> rfl
      simp only [Option.map_none, hnone, Option.any_none]
      exact hkeeps [] (by simp)
    | some position =>
      have hattach := attachLogs_not_finalizes f.logs ledger.positionId
      have hrecords := deltaRecords_not_finalizes db ledger position f source
      dsimp only
      by_cases hvolume : deltaVolume ledger f ≤ deltaTolerance
      · simp only [if_pos hvolume, Option.map_some]
        -- a repetition: the position is the stored one
        have hloaded := loadLivePosition_applyWrites env.now db (attachLogs f.logs
          ledger.positionId ++ [pointSession session ledger.positionId
            "DUPLICATE_ORDER_UUID_ALREADY_APPLIED"]) hload
        have hnone : positionUpdates (attachLogs f.logs ledger.positionId
            ++ [pointSession session ledger.positionId "DUPLICATE_ORDER_UUID_ALREADY_APPLIED"])
            ledger.positionId = [] := by simp
        rw [hnone] at hloaded
        refine (reservation_applyWrites_finalizeIfEntry env.now db ?_ ledger.fillType hloaded
          rfl rfl rfl rfl rfl rfl k).trans ?_
        · intro w hw
          rcases List.mem_append.mp hw with hw | hw
          · exact hattach w hw
          · rw [List.mem_singleton.mp hw]
            rfl
        · cases ledger.fillType <;> rfl
      · simp only [if_neg hvolume, Option.map_some]
        -- more volume: the delta opens the position
        have hloaded := loadLivePosition_applyWrites env.now db (attachLogs f.logs
          ledger.positionId ++ deltaRecords db ledger position f source
            ++ [pointSession session ledger.positionId "ORDER_UUID_DELTA_APPLIED"]) hload
        have hone : positionUpdates (attachLogs f.logs ledger.positionId
            ++ deltaRecords db ledger position f source
            ++ [pointSession session ledger.positionId "ORDER_UUID_DELTA_APPLIED"])
            ledger.positionId
            = [deltaPositionUpdates position f (deltaVolume ledger f) (deltaAmount ledger f)] := by
          simp [deltaRecords]
        rw [hone] at hloaded
        refine (reservation_applyWrites_finalizeIfEntry env.now db ?_ ledger.fillType
          hloaded
          rfl rfl rfl rfl rfl rfl k).trans ?_
        · intro w hw
          rcases List.mem_append.mp hw with hw | hw
          · rcases List.mem_append.mp hw with hw | hw
            · exact hattach w hw
            · exact hrecords w hw
          · rw [List.mem_singleton.mp hw]
            rfl
        · cases ledger.fillType <;> rfl
  | none =>
    have hnew := ((applicationOf_eq_none db).mp happlied).2
    cases htarget : resolveScaleInTarget db session f.canonicalLog
        (scalePreview f.canonicalLog) with
    | some targetId =>
      simp only [Option.isSome_some, if_true, hnew, Option.any_none]
      refine hkeeps _ (fun w hw => ?_)
      unfold applyScaleIn at hw
      split at hw
      · cases hw
      · simp only [List.mem_append, List.mem_cons, List.not_mem_nil, or_false] at hw
        rcases hw with ((rfl | rfl | rfl) | hw) | rfl
        · rfl
        · rfl
        · rfl
        · exact attachLogs_not_finalizes _ _ w hw
        · rfl
    | none =>
      simp only [Option.isSome_none, Bool.false_eq_true, if_false, hnew, Option.any_some]
      cases hexisting : loadLivePositionByEntryOrderUuid db session.exchange session.market
          f.orderUuid with
      | some existing =>
        exact reservation_adoptExisting env db f session source
          (loadLivePositionByEntryOrderUuid_mem hexisting).1 k
      | none => exact reservation_createPosition env db f session source k

end Sync

/-! ## The position an order goes to -/

section Named

variable (env : SyncEnv) (db : Database) (f : FilledOrder) (session : SyncSession)

/-- The order goes to a position. It does not where its ledger row names the position zero, and
where the position it was to scale into is not open. -/
def namesPosition : Bool :=
  match applicationOf db f.orderUuid with
  | some ledger => ledger.positionId != 0
  | none =>
    (resolveScaleInTarget db session f.canonicalLog (scalePreview f.canonicalLog)).isNone
      || (scaleInTarget db session f).isSome

theorem syncFilledOrder_unnamed (source : String) (h : namesPosition db f session = false) :
    (syncFilledOrder env db f source session).1 = []
      ∧ truthyId (syncFilledOrder env db f source session).2.positionId = none := by
  unfold namesPosition at h
  unfold syncFilledOrder
  simp only
  cases happlied : applicationOf db f.orderUuid with
  | some ledger =>
    rw [happlied] at h
    have hzero : ledger.positionId = 0 := by simpa using h
    have hload : loadLivePosition db 0 = none := by
      cases hload : loadLivePosition db 0 with
      | none => rfl
      | some p => exact absurd (Table.get?_pos hload) (by omega)
    simp only [applyOrderUuidDelta, hzero, hload]
    exact ⟨trivial, rfl⟩
  | none =>
    have hnew := ((applicationOf_eq_none db).mp happlied).2
    rw [happlied] at h
    simp only [Bool.or_eq_false_iff, Option.isNone_eq_false_iff] at h
    obtain ⟨targetId, htarget⟩ := Option.isSome_iff_exists.mp h.1
    have hopened : (loadLivePosition db targetId).filter (fun p => p.status == .opened) = none := by
      have hnone := Option.isSome_eq_false_iff.mp h.2
      unfold scaleInTarget at hnone
      rw [htarget, Option.bind_some] at hnone
      exact Option.isNone_iff_eq_none.mp hnone
    simp only [htarget, hnew, applyScaleIn, hopened]
    exact ⟨trivial, rfl⟩

theorem syncFilledOrder_named (source : String) (h : namesPosition db f session = true) :
    ∃ positionId, truthyId (syncFilledOrder env db f source session).2.positionId
      = some positionId := by
  unfold namesPosition at h
  unfold syncFilledOrder
  simp only
  cases happlied : applicationOf db f.orderUuid with
  | some ledger =>
    rw [happlied] at h
    have hne : ledger.positionId ≠ 0 := by simpa using h
    refine ⟨ledger.positionId, ?_⟩
    simp only [applyOrderUuidDelta]
    cases loadLivePosition db ledger.positionId with
    | none => exact truthyId_some hne
    | some position =>
      dsimp only
      split <;> exact truthyId_some hne
  | none =>
    have hnew := ((applicationOf_eq_none db).mp happlied).2
    rw [happlied] at h
    cases htarget : resolveScaleInTarget db session f.canonicalLog
        (scalePreview f.canonicalLog) with
    | some targetId =>
      rw [htarget] at h
      obtain ⟨p, hp⟩ := Option.isSome_iff_exists.mp (by simpa using h)
      unfold scaleInTarget at hp
      rw [htarget, Option.bind_some] at hp
      have hload := (Option.filter_eq_some_iff.mp hp).1
      refine ⟨targetId, ?_⟩
      simp only [hnew, applyScaleIn, hp]
      exact truthyId_some (Nat.pos_iff_ne_zero.mp (Table.get?_pos hload))
    | none =>
      simp only [hnew]
      cases hexisting : loadLivePositionByEntryOrderUuid db session.exchange session.market
          f.orderUuid with
      | some existing =>
        have hload := (loadLivePositionByEntryOrderUuid_mem hexisting).1
        exact ⟨existing.id, truthyId_some (Nat.pos_iff_ne_zero.mp (Table.get?_pos hload))⟩
      | none =>
        exact ⟨db.livePositions.nextId,
          truthyId_some (Nat.pos_iff_ne_zero.mp db.livePositions.nextId_pos)⟩

end Named

end AutoCoinBot
