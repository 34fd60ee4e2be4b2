/-
  LivePositionSync.Writes — what the writes of a sync do to each table.
-/
import AutoCoinBot.LivePositionSync.Sync

namespace AutoCoinBot

open Library

/-! ## Positions -/

/-- The updates among the writes that name a position. -/
def positionUpdates (ws : List SyncWrite) (positionId : ℕ) : List LivePositionUpdates :=
  ws.filterMap (fun
    | .updateLivePosition i u => if i = positionId then some u else none
    | _ => none)

@[simp] theorem positionUpdates_nil (positionId : ℕ) : positionUpdates [] positionId = [] := rfl

@[simp] theorem positionUpdates_append (ws ws' : List SyncWrite) (positionId : ℕ) :
    positionUpdates (ws ++ ws') positionId
      = positionUpdates ws positionId ++ positionUpdates ws' positionId :=
  List.filterMap_append

section Positions

variable (now : UtcTime) (db : Database)

theorem loadLivePosition_apply (w : SyncWrite) {positionId : ℕ} {p : LivePosition}
    (hload : loadLivePosition db positionId = some p) :
    loadLivePosition (w.apply now db) positionId
      = some ((positionUpdates [w] positionId).foldl (fun p u => p.merge u now) p) := by
  cases w with
  | createLivePosition q =>
    refine (Table.get?_insert_of_ne db.livePositions _ _ ?_).trans hload
    exact Nat.ne_of_lt (Table.get?_lt_nextId hload)
  | insertPositionFillEvent e => exact hload
  | updatePositionFillEvent i u => exact hload
  | upsertOrderApplicationLedger l => exact hload
  | updateLivePosition i u =>
    show loadLivePosition (AutoCoinBot.updateLivePosition db i u now) positionId = _
    rw [loadLivePosition_update, hload]
    by_cases hi : i = positionId
    · simp [positionUpdates, hi]
    · simp [positionUpdates, hi, Ne.symm hi]
  | attachLog r i =>
    refine Eq.trans ?_ hload
    unfold loadLivePosition
    rw [show ((SyncWrite.attachLog r i).apply now db).livePositions = db.livePositions
      from updateLiveOrderLog_livePositions _ _ _ _]
  | updateLiveStrategySession i u => exact hload
  | finalizeEntryLifecycle i =>
    refine Eq.trans ?_ hload
    unfold loadLivePosition
    rw [show ((SyncWrite.finalizeEntryLifecycle i).apply now db).livePositions
      = db.livePositions from finalizeEntryLifecycleForPosition_livePositions _ _ _]

/-- **A stored position sees exactly the updates that name it.** -/
theorem loadLivePosition_applyWrites (ws : List SyncWrite) {positionId : ℕ} {p : LivePosition}
    (hload : loadLivePosition db positionId = some p) :
    loadLivePosition (applyWrites now db ws) positionId
      = some ((positionUpdates ws positionId).foldl (fun p u => p.merge u now) p) := by
  induction ws generalizing db p with
  | nil => exact hload
  | cons w ws ih =>
    rw [applyWrites_cons, ih _ (loadLivePosition_apply now db w hload),
      show w :: ws = [w] ++ ws from rfl, positionUpdates_append, List.foldl_append]

end Positions

/-! ## The parts of a sync -/

section Parts

variable (positionId : ℕ)

@[simp] theorem positionUpdates_attachLogs (logs : List LiveOrderLog) (i : ℕ) :
    positionUpdates (attachLogs logs i) positionId = [] := by
  unfold positionUpdates attachLogs
  rw [List.filterMap_map]
  exact List.filterMap_eq_nil_iff.mpr (fun _ _ => rfl)

@[simp] theorem positionUpdates_finalizeIfEntry (fillType : FillType) (i : ℕ) :
    positionUpdates (finalizeIfEntry fillType i) positionId = [] := by
  unfold finalizeIfEntry
  split <;> rfl

@[simp] theorem positionUpdates_cons_update (i : ℕ) (u : LivePositionUpdates)
    (ws : List SyncWrite) :
    positionUpdates (.updateLivePosition i u :: ws) positionId
      = (if i = positionId then [u] else []) ++ positionUpdates ws positionId := by
  unfold positionUpdates
  rw [List.filterMap_cons]
  by_cases h : i = positionId
  · simp [h]
  · simp [h]

@[simp] theorem positionUpdates_cons_point (session : SyncSession) (i : ℕ) (r : String)
    (ws : List SyncWrite) :
    positionUpdates (pointSession session i r :: ws) positionId
      = positionUpdates ws positionId := rfl

@[simp] theorem positionUpdates_cons_ledger (orderUuid : String) (i : ℕ) (fillType : FillType)
    (source : String) (log : Option LiveOrderLog) (v a f : ℚ) (ws : List SyncWrite) :
    positionUpdates (recordLedger orderUuid i fillType source log v a f :: ws) positionId
      = positionUpdates ws positionId := rfl

@[simp] theorem positionUpdates_cons_event (orderUuid : String) (i : ℕ) (fillType : FillType)
    (source : String) (log : Option LiveOrderLog) (v a f : ℚ) (t : UtcTime)
    (ws : List SyncWrite) :
    positionUpdates (fillEvent orderUuid i fillType source log v a f t :: ws) positionId
      = positionUpdates ws positionId := rfl

@[simp] theorem positionUpdates_cons_create (p : LivePosition) (ws : List SyncWrite) :
    positionUpdates (.createLivePosition p :: ws) positionId = positionUpdates ws positionId := rfl

@[simp] theorem positionUpdates_cons_finalize (i : ℕ) (ws : List SyncWrite) :
    positionUpdates (.finalizeEntryLifecycle i :: ws) positionId
      = positionUpdates ws positionId := rfl

@[simp] theorem positionUpdates_eventUpdates (es : List PositionFillEvent)
    (u : PositionFillEvent → PositionFillEventUpdates) :
    positionUpdates (es.map (fun e => .updatePositionFillEvent e.id (u e))) positionId = [] := by
  unfold positionUpdates
  rw [List.filterMap_map]
  exact List.filterMap_eq_nil_iff.mpr (fun _ _ => rfl)

end Parts

/-! ## The branches -/

section Branches

variable (env : SyncEnv) (db : Database) (f : FilledOrder) (source : String)
  (session : SyncSession) (positionId : ℕ)

theorem positionUpdates_applyOrderUuidDelta (ledger : OrderApplication) :
    positionUpdates (applyOrderUuidDelta db ledger f source session).1 positionId
      = match loadLivePosition db ledger.positionId with
        | none => []
        | some p =>
          if ledger.positionId = positionId ∧ deltaTolerance < deltaVolume ledger f then
            [deltaPositionUpdates p f (deltaVolume ledger f) (deltaAmount ledger f)]
          else [] := by
  unfold applyOrderUuidDelta
  cases loadLivePosition db ledger.positionId with
  | none => rfl
  | some p =>
    by_cases hvolume : deltaVolume ledger f ≤ deltaTolerance
    · have hnot : ¬ (ledger.positionId = positionId ∧ deltaTolerance < deltaVolume ledger f) :=
        fun h => absurd h.2 (not_lt.mpr hvolume)
      simp [hvolume, hnot]
    · have hlt : deltaTolerance < deltaVolume ledger f := not_le.mp hvolume
      simp [hvolume, hlt, deltaRecords]

theorem positionUpdates_applyScaleIn (targetId : ℕ) :
    positionUpdates (applyScaleIn env db targetId f source session).1 positionId
      = match (loadLivePosition db targetId).filter (fun p => p.status == .opened) with
        | none => []
        | some p => if targetId = positionId then [scaleInPositionUpdates env p f] else [] := by
  unfold applyScaleIn
  cases (loadLivePosition db targetId).filter (fun p => p.status == .opened) with
  | none => rfl
  | some p => simp

theorem positionUpdates_adoptExisting (existing : LivePosition) :
    positionUpdates (adoptExisting env db existing f source session).1 positionId = [] := by
  unfold adoptExisting
  simp only [positionUpdates_append, positionUpdates_attachLogs, List.nil_append]
  split <;> simp

theorem positionUpdates_createPosition :
    positionUpdates (createPosition env db f source session).1 positionId = [] := by
  simp [createPosition]

/-- **Which branch updates which position.** -/
theorem positionUpdates_syncFilledOrder :
    positionUpdates (syncFilledOrder env db f source session).1 positionId
      = match applicationOf db f.orderUuid with
        | some ledger =>
          positionUpdates (applyOrderUuidDelta db ledger f source session).1 positionId
        | none =>
          match resolveScaleInTarget db session f.canonicalLog
              (scalePreview f.canonicalLog) with
          | some targetId =>
            if (loadPositionFillEvent db f.orderUuid .scaleIn).isSome then []
            else positionUpdates (applyScaleIn env db targetId f source session).1 positionId
          | none => [] := by
  unfold syncFilledOrder
  simp only
  cases applicationOf db f.orderUuid with
  | some ledger => rfl
  | none =>
    cases resolveScaleInTarget db session f.canonicalLog (scalePreview f.canonicalLog) with
    | some targetId =>
      simp only [Option.isSome_some, if_true]
      cases loadPositionFillEvent db f.orderUuid .scaleIn with
      -- an event without a ledger row is attached and updates no position
      | some event => simp [attachExistingEvent]
      | none => simp
    | none =>
      simp only [Option.isSome_none, Bool.false_eq_true, if_false]
      cases loadPositionFillEvent db f.orderUuid .entry with
      | some event => simp [attachExistingEvent]
      | none =>
        cases loadLivePositionByEntryOrderUuid db session.exchange session.market
          f.orderUuid with
        | some existing => exact positionUpdates_adoptExisting env db f source session _ _
        | none => exact positionUpdates_createPosition env db f source session _

end Branches

end AutoCoinBot
