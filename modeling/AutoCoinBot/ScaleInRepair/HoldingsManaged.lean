/-
  ScaleInRepair.HoldingsManaged — which holdings and which sessions a duplicate repair
  leaves managed.

  The repair closes every open position of a duplicated order but the one that its logs name, and it
  asks neither whether a position is named nor whether that one is open.
-/
import AutoCoinBot.Library.Batch
import AutoCoinBot.Library.Redirects
import AutoCoinBot.ScaleInRepair.Repair

namespace AutoCoinBot

open Library

/-! ## What is to hold -/

/-- The database after `repair_scale_in_duplicate(dry_run=False)`. -/
def scaleInRepaired (db : Database) (exchange market : String) (now : UtcTime) : Database :=
  (repairScaleInDuplicate db exchange market false now).2

/-- The position that an order was to scale into. -/
def scaleTargetOf (db : Database) (orderUuid : String) : Option ℕ :=
  scaleTargetFromLogs (orderLogsOf db orderUuid)

/-- The position was entered by the order, or is its scale-in target. -/
def LivePosition.HoldsFor (db : Database) (orderUuid : String) (p : LivePosition) : Prop :=
  p.entryOrderUuid = some orderUuid ∨ scaleTargetOf db orderUuid = some p.id

instance (db : Database) (orderUuid : String) (p : LivePosition) :
    Decidable (p.HoldsFor db orderUuid) :=
  inferInstanceAs (Decidable (_ ∨ _))

/-- What a second run is not to change. -/
structure SameHoldings (db db' : Database) : Prop where
  statuses : db'.livePositions.rows.map (fun p => (p.id, p.status))
    = db.livePositions.rows.map (fun p => (p.id, p.status))
  links : db'.liveOrderLogs.rows.map (fun r => (r.id, r.positionId))
    = db.liveOrderLogs.rows.map (fun r => (r.id, r.positionId))
  fills : db'.positionFillEvents.rows = db.positionFillEvents.rows
  pointers : db'.liveStrategySessions.rows.map (fun s => (s.id, s.currentPositionId))
    = db.liveStrategySessions.rows.map (fun s => (s.id, s.currentPositionId))

/-- Holdings stay managed over the repair of a market. -/
structure HoldingsManaged (db : Database) (exchange market : String) (now : UtcTime) : Prop where
  /-- An order that several positions share keeps one open, if it had one. -/
  kept : ∀ orderUuid, 1 < (positionsOf db orderUuid).length →
    (∃ p ∈ db.livePositions.rows, p.status.isActive = true ∧ p.HoldsFor db orderUuid) →
      ∃ p ∈ (scaleInRepaired db exchange market now).livePositions.rows,
        p.status.isActive = true ∧ p.HoldsFor db orderUuid
  /-- A session that is re-pointed belongs to the strategy of the position. -/
  owned : ∀ s ∈ db.liveStrategySessions.rows,
    ∀ s' ∈ (scaleInRepaired db exchange market now).liveStrategySessions.rows, s'.id = s.id →
      s'.currentPositionId ≠ s.currentPositionId →
        ∃ p ∈ (scaleInRepaired db exchange market now).livePositions.rows,
          s'.currentPositionId = some p.id ∧ p.candidateStrategyId = s'.candidateStrategyId
  /-- A second run, whenever it comes, changes nothing. -/
  settled : ∀ later, SameHoldings (scaleInRepaired db exchange market now)
    (scaleInRepaired (scaleInRepaired db exchange market now) exchange market later)

/-! ## When it holds -/

section Condition

variable (db : Database) (exchange market : String) (now : UtcTime)

/-- The order is duplicated in the market, and does not name the position as its target. -/
def LivePosition.isUnnamed (p : LivePosition) : Bool :=
  (duplicateGroups db exchange market).any (fun group =>
    p.entryOrderUuid == some group.orderUuid && scaleTargetOf db group.orderUuid != some p.id)

/-- What the orders of the groups do to a pointer: each takes it from nowhere, from a CLOSED
position and from the positions it entered, to its target. -/
def scaleRedirects (groups : List DuplicateGroup) : List (Redirect (Option ℕ)) :=
  groups.filterMap (fun group => (scaleTargetOf db group.orderUuid).map (fun target =>
    { takes := takesPointer db.livePositions.rows group.orderUuid, target := some target }))

/-- The groups, the newest first, once the open positions that are not named were updated. -/
def groupsOnceUpdated : List DuplicateGroup :=
  duplicateGroupsBy
    (fun p => if p.status.isActive && p.isUnnamed db exchange market then now else p.updatedAt)
    db.livePositions.rows exchange market

/-- The targets are open where positions are, they are of their sessions' strategies, and a second
turn leads no pointer further. -/
structure TargetsFit : Prop where
  /-- Of the positions an order holds with, one is open, and no order it shares is to close it. -/
  namedOpen : ∀ orderUuid, 1 < (positionsOf db orderUuid).length →
    (∃ p ∈ db.livePositions.rows, p.status.isActive = true ∧ p.HoldsFor db orderUuid) →
      ∃ p ∈ db.livePositions.rows, p.status.isActive = true ∧ p.HoldsFor db orderUuid
        ∧ p.isUnnamed db exchange market = false
  /-- Where the targets lead a session's pointer, its own strategy holds, or it was there. -/
  ownTarget : ∀ s ∈ db.liveStrategySessions.rows, s.isRepointable exchange market = true →
    let led := Redirect.follow (scaleRedirects db (duplicateGroups db exchange market))
      s.currentPositionId
    led = s.currentPositionId ∨ ∃ p ∈ db.livePositions.rows,
      led = some p.id ∧ p.candidateStrategyId = s.candidateStrategyId
  /-- From there, the targets lead it back. -/
  secondTurn : ∀ s ∈ db.liveStrategySessions.rows, s.isRepointable exchange market = true →
    let led := Redirect.follow (scaleRedirects db (duplicateGroups db exchange market))
      s.currentPositionId
    Redirect.follow (scaleRedirects db (groupsOnceUpdated db exchange market now)) led = led

end Condition

/-! ## Groups and targets of rewritten tables -/

section Groups

variable {db db' : Database} {exchange market : String} {now : UtcTime}

theorem duplicateGroupsBy_map {stamp stamp' : LivePosition → UtcTime} {f : LivePosition → LivePosition}
    {positions : List LivePosition} (hfrom : ∀ p, (f p).entersIn exchange market
      = p.entersIn exchange market) (huuid : ∀ p, (f p).entryOrderUuid = p.entryOrderUuid)
    (hstamp : ∀ p, stamp' (f p) = stamp p) :
    duplicateGroupsBy stamp' (positions.map f) exchange market
      = duplicateGroupsBy stamp positions exchange market := by
  have hrows : (positions.map f).filter (fun p => p.entersIn exchange market)
      = (positions.filter (fun p => p.entersIn exchange market)).map f := by
    rw [List.filter_map]
    congr 1
    exact List.filter_congr (fun p _ => hfrom p)
  have hmembers : ∀ (rows : List LivePosition) uuid,
      (rows.map f).filter (fun p => p.entryOrderUuid == some uuid)
        = (rows.filter (fun p => p.entryOrderUuid == some uuid)).map f := by
    intro rows uuid
    rw [List.filter_map]
    congr 1
    refine List.filter_congr (fun p _ => ?_)
    show ((f p).entryOrderUuid == some uuid) = _
    rw [huuid]
  have hkeys : ∀ rows : List LivePosition, (rows.map f).filterMap LivePosition.entryOrderUuid
      = rows.filterMap LivePosition.entryOrderUuid := by
    intro rows
    rw [List.filterMap_map]
    exact List.filterMap_congr (fun p _ => huuid p)
  have hnewest : ∀ rows : List LivePosition, (rows.map f).map stamp' = rows.map stamp := by
    intro rows
    rw [List.map_map]
    exact List.map_congr_left (fun p _ => hstamp p)
  unfold duplicateGroupsBy
  simp only [hrows, hmembers, hkeys, hnewest, List.length_map]

theorem mem_duplicateGroupsBy (stamp stamp' : LivePosition → UtcTime) {positions : List LivePosition}
    {group : DuplicateGroup} :
    group ∈ duplicateGroupsBy stamp positions exchange market
      ↔ group ∈ duplicateGroupsBy stamp' positions exchange market := by
  unfold duplicateGroupsBy
  rw [List.mem_insertionSort, List.mem_insertionSort]

theorem mem_groupsOnceUpdated {group : DuplicateGroup} :
    group ∈ groupsOnceUpdated db exchange market now ↔ group ∈ duplicateGroups db exchange market :=
  mem_duplicateGroupsBy _ _

theorem mem_orderLogsOf {orderUuid : String} {log : LiveOrderLog} :
    log ∈ orderLogsOf db orderUuid ↔ log ∈ db.liveOrderLogs.rows ∧ log.orderUuid = some orderUuid := by
  unfold orderLogsOf
  rw [List.mem_insertionSort, Table.mem_select, beq_iff_eq]

theorem mem_positionsOf {orderUuid : String} {p : LivePosition} :
    p ∈ positionsOf db orderUuid ↔ p ∈ db.livePositions.rows ∧ p.entryOrderUuid = some orderUuid := by
  unfold positionsOf
  rw [List.mem_insertionSort, Table.mem_select, beq_iff_eq]

theorem scaleTargetOf_map {f : LiveOrderLog → LiveOrderLog}
    (hlogs : db'.liveOrderLogs.rows = db.liveOrderLogs.rows.map f) (hid : ∀ r, (f r).id = r.id)
    (huuid : ∀ r, (f r).orderUuid = r.orderUuid)
    (hpreview : ∀ r, (f r).orderPreviewPayload = r.orderPreviewPayload) (orderUuid : String) :
    scaleTargetOf db' orderUuid = scaleTargetOf db orderUuid := by
  have hrows : orderLogsOf db' orderUuid = (orderLogsOf db orderUuid).map f := by
    unfold orderLogsOf Table.select
    rw [hlogs]
    refine Table.insertionSort_filter_map _ ?_ ?_ _
    · intro r
      rw [huuid]
    · intro a b
      rw [hid, hid]
  unfold scaleTargetOf scaleTargetFromLogs
  rw [hrows, List.findSome?_map]
  congr 1
  funext r
  simp only [Function.comp_apply, hpreview]

end Groups

/-! ## The tables after one preview -/

section Preview

variable {exchange market : String} {now : UtcTime} {db : Database} {preview : ScaleInPreview}

theorem LivePosition.reconciled_reconciled (p : LivePosition) :
    (p.reconciled now).reconciled now = p.reconciled now := by
  unfold LivePosition.reconciled
  cases p.closedAt <;> rfl

theorem rows_reconcilePositions (db : Database) (duplicates : List LivePosition) (now : UtcTime) :
    let db' := reconcilePositions db duplicates now
    db'.livePositions.rows = db.livePositions.rows.map (fun p =>
        if ∃ q ∈ duplicates, p.id = q.id then p.reconciled now else p)
      ∧ db'.liveOrderLogs = db.liveOrderLogs ∧ db'.positionFillEvents = db.positionFillEvents
      ∧ db'.liveStrategySessions = db.liveStrategySessions := by
  intro db'
  refine ⟨?_, ?_, ?_, ?_⟩
  · refine rows_foldl_ite (fun d : Database => d.livePositions.rows) ?_
      LivePosition.reconciled_reconciled duplicates db
    intro d q
    refine List.map_congr_left (fun p _ => ?_)
    exact if_congr beq_iff_eq rfl rfl
  · refine foldl_frame Database.liveOrderLogs ?_ duplicates db
    intro _ _
    rfl
  · refine foldl_frame Database.positionFillEvents ?_ duplicates db
    intro _ _
    rfl
  · refine foldl_frame Database.liveStrategySessions ?_ duplicates db
    intro _ _
    rfl

theorem rows_linkOrderLogs (db : Database) (logs : List LiveOrderLog) (target : ℕ)
    (now : UtcTime) :
    let db' := linkOrderLogs db logs target now
    db'.liveOrderLogs.rows = db.liveOrderLogs.rows.map (fun r =>
        if ∃ log ∈ logs.filter LiveOrderLog.isBuyEntry, r.requestId = log.requestId then
          r.linkedTo target now
        else r)
      ∧ db'.livePositions = db.livePositions ∧ db'.positionFillEvents = db.positionFillEvents
      ∧ db'.liveStrategySessions = db.liveStrategySessions := by
  intro db'
  refine ⟨?_, ?_, ?_, ?_⟩
  · refine rows_foldl_ite (fun d : Database => d.liveOrderLogs.rows) ?_ ?_ _ db
    · intro d log
      refine List.map_congr_left (fun r _ => ?_)
      exact if_congr beq_iff_eq rfl rfl
    · intro r
      rfl
  · refine foldl_frame Database.livePositions ?_ _ db
    intro _ _
    rfl
  · refine foldl_frame Database.positionFillEvents ?_ _ db
    intro _ _
    rfl
  · refine foldl_frame Database.liveStrategySessions ?_ _ db
    intro _ _
    rfl

theorem livePositions_writePreview : (writePreview exchange market now db preview).livePositions
    = (reconcilePositions db preview.duplicatePositions now).livePositions := by
  unfold writePreview
  cases preview.targetScaleInPositionId with
  | none => rfl
  | some target => exact (rows_linkOrderLogs _ _ target now).2.1

theorem rows_liveOrderLogs_writePreview :
    (writePreview exchange market now db preview).liveOrderLogs.rows
      = db.liveOrderLogs.rows.map (fun r =>
          if preview.targetScaleInPositionId.isSome = true
              ∧ ∃ log ∈ preview.affectedLiveOrderLogs.filter LiveOrderLog.isBuyEntry,
                r.requestId = log.requestId then
            r.linkedTo (preview.targetScaleInPositionId.getD 0) now
          else r) := by
  obtain ⟨-, hlogs, -, -⟩ := rows_reconcilePositions db preview.duplicatePositions now
  unfold writePreview
  cases preview.targetScaleInPositionId with
  | none => simp [hlogs]
  | some target =>
    refine (rows_linkOrderLogs _ _ target now).1.trans ?_
    rw [hlogs]
    exact List.map_congr_left (fun r _ => if_congr (and_iff_right rfl).symm rfl rfl)

theorem positionFillEvents_writePreview :
    (writePreview exchange market now db preview).positionFillEvents
      = preview.targetScaleInPositionId.elim db.positionFillEvents (fun target =>
          db.positionFillEvents.insertOrIgnore PositionFillEvent.key
            (guardingFill preview.duplicateEntryOrderUuid preview.affectedLiveOrderLogs target now)
            (fun _ => rfl)) := by
  obtain ⟨-, -, hfills, -⟩ := rows_reconcilePositions db preview.duplicatePositions now
  unfold writePreview
  cases preview.targetScaleInPositionId with
  | none => exact hfills
  | some target =>
    obtain ⟨-, -, hlinked, -⟩ := rows_linkOrderLogs
      (reconcilePositions db preview.duplicatePositions now) preview.affectedLiveOrderLogs target
      now
    show (linkOrderLogs _ _ target now).positionFillEvents.insertOrIgnore _ _ _ = _
    simp only [hlinked, hfills, Option.elim_some]

theorem rows_liveStrategySessions_writePreview :
    (writePreview exchange market now db preview).liveStrategySessions.rows
      = db.liveStrategySessions.rows.map (fun s =>
          if preview.targetScaleInPositionId.isSome = true
              ∧ (s.isRepointable exchange market
                && takesPointer
                  (reconcilePositions db preview.duplicatePositions now).livePositions.rows
                  preview.duplicateEntryOrderUuid s.currentPositionId) = true then
            s.repointedTo (preview.targetScaleInPositionId.getD 0) now
          else s) := by
  obtain ⟨-, -, -, hsessions⟩ := rows_reconcilePositions db preview.duplicatePositions now
  unfold writePreview
  cases preview.targetScaleInPositionId with
  | none => simp [hsessions]
  | some target =>
    obtain ⟨-, hpositions, -, hlinked⟩ := rows_linkOrderLogs
      (reconcilePositions db preview.duplicatePositions now) preview.affectedLiveOrderLogs target
      now
    show (linkOrderLogs _ _ target now).liveStrategySessions.rows.map _ = _
    rw [hlinked, hsessions]
    refine List.map_congr_left (fun s _ => if_congr ?_ rfl rfl)
    show (_ && takesPointer (linkOrderLogs _ _ target now).livePositions.rows _ _) = true ↔ _
    rw [hpositions]
    exact (and_iff_right rfl).symm

end Preview

/-! ## The tables after the repair -/

section Repaired

variable (db : Database) (exchange market : String) (now : UtcTime)

theorem scaleInRepaired_eq : scaleInRepaired db exchange market now
    = (duplicateGroups db exchange market).foldl (fun d group => writePreview exchange market now d
        (proposedDuplicateUpdates db exchange market now group)) db := by
  rw [← List.foldl_map (g := writePreview exchange market now)]
  show (List.foldl (fun (run : Database × List ScaleInWrite) preview =>
    (writePreview exchange market now run.1 preview,
      run.2 ++ writtenUpdates run.1 preview)) (db, []) _).1 = _
  refine (List.foldl_hom Prod.fst ?_).symm
  intro run preview
  rfl

theorem mem_duplicatePositions {group : DuplicateGroup} {p : LivePosition} :
    p ∈ (proposedDuplicateUpdates db exchange market now group).duplicatePositions
      ↔ p ∈ db.livePositions.rows ∧ p.status.isActive = true
        ∧ p.entryOrderUuid = some group.orderUuid
        ∧ scaleTargetOf db group.orderUuid ≠ some p.id := by
  show p ∈ openDuplicates (positionsOf db group.orderUuid) (scaleTargetOf db group.orderUuid) ↔ _
  unfold openDuplicates
  rw [List.mem_filter, List.mem_filter, mem_positionsOf, bne_iff_ne]
  constructor
  · intro ⟨⟨⟨hmem, huuid⟩, htarget⟩, hopen⟩
    exact ⟨hmem, hopen, huuid, htarget⟩
  · intro ⟨hmem, hopen, huuid, htarget⟩
    exact ⟨⟨⟨hmem, huuid⟩, htarget⟩, hopen⟩

theorem rows_repaired_positions : (scaleInRepaired db exchange market now).livePositions.rows
    = db.livePositions.rows.map (fun p =>
        if p.status.isActive && p.isUnnamed db exchange market then p.reconciled now else p) := by
  rw [scaleInRepaired_eq, rows_foldl_ite (fun d : Database => d.livePositions.rows)
    (p := fun group p => ∃ q ∈ (proposedDuplicateUpdates db exchange market now
      group).duplicatePositions, p.id = q.id) (f := fun p => p.reconciled now) ?_
        LivePosition.reconciled_reconciled]
  · refine List.map_congr_left (fun p hp => if_congr ?_ rfl rfl)
    unfold LivePosition.isUnnamed
    rw [Bool.and_eq_true, List.any_eq_true]
    simp only [Bool.and_eq_true, beq_iff_eq, bne_iff_ne]
    constructor
    · intro ⟨group, hgroup, q, hq, hid⟩
      obtain ⟨hmem, hopen, huuid, htarget⟩ := (mem_duplicatePositions db exchange market now).mp hq
      obtain rfl := Table.eq_of_rowId_eq hp hmem hid
      exact ⟨hopen, group, hgroup, huuid, htarget⟩
    · intro ⟨hopen, group, hgroup, huuid, htarget⟩
      exact ⟨group, hgroup, p, (mem_duplicatePositions db exchange market now).mpr
        ⟨hp, hopen, huuid, htarget⟩, rfl⟩
  · intro d group
    show (writePreview exchange market now d _).livePositions.rows = _
    rw [livePositions_writePreview]
    exact (rows_reconcilePositions d _ now).1

/-- What a pointer's test reads of a position. -/
def LivePosition.pointedColumns (p : LivePosition) : ℕ × Option String × Bool :=
  (p.id, p.entryOrderUuid, p.status == .closed)

theorem takesPointer_congr {positions positions' : List LivePosition}
    (h : positions'.map LivePosition.pointedColumns = positions.map LivePosition.pointedColumns) :
    takesPointer positions' = takesPointer positions := by
  have hread : ∀ (rows : List LivePosition) orderUuid pointer, takesPointer rows orderUuid pointer
      = (pointer.isNone
        || (rows.map LivePosition.pointedColumns).any
          (fun c => c.2.1 == some orderUuid && pointer == some c.1)
        || (rows.map LivePosition.pointedColumns).any (fun c => c.2.2 && pointer == some c.1)) := by
    intro rows orderUuid pointer
    rw [List.any_map, List.any_map]
    rfl
  funext orderUuid pointer
  rw [hread, hread, h]

theorem pointedColumns_reconcilePositions {d : Database} {duplicates : List LivePosition}
    (hopen : ∀ q ∈ duplicates, q ∈ db.livePositions.rows ∧ q.status.isActive = true)
    (h : d.livePositions.rows.map LivePosition.pointedColumns
      = db.livePositions.rows.map LivePosition.pointedColumns) :
    (reconcilePositions d duplicates now).livePositions.rows.map LivePosition.pointedColumns
      = db.livePositions.rows.map LivePosition.pointedColumns := by
  rw [(rows_reconcilePositions d duplicates now).1, List.map_map, ← h]
  refine List.map_congr_left (fun p hp => ?_)
  show LivePosition.pointedColumns (if _ then _ else p) = _
  split
  · rename_i hdup
    obtain ⟨q, hq, hid⟩ := hdup
    obtain ⟨hmem, hactive⟩ := hopen q hq
    -- the row that the batch began with under this key is the duplicate
    have hcolumns : p.pointedColumns ∈ db.livePositions.rows.map LivePosition.pointedColumns := by
      rw [← h]
      exact List.mem_map_of_mem hp
    obtain ⟨r, hr, hsame⟩ := List.mem_map.mp hcolumns
    have hrid : r.id = p.id := congrArg Prod.fst hsame
    have hclosed : (r.status == .closed) = (p.status == .closed) :=
      congrArg (fun c => c.2.2) hsame
    obtain rfl : r = q := Table.eq_of_rowId_eq hr hmem (hrid.trans hid)
    have hnot : (r.status == .closed) = false := by
      cases hstatus : r.status <;> rw [hstatus] at hactive <;> first | rfl | cases hactive
    show (p.id, p.entryOrderUuid, false) = (p.id, p.entryOrderUuid, p.status == .closed)
    rw [← hclosed, hnot]
  · rfl

theorem pointedColumns_duplicates {d : Database} {group : DuplicateGroup}
    (h : d.livePositions.rows.map LivePosition.pointedColumns
      = db.livePositions.rows.map LivePosition.pointedColumns) :
    (reconcilePositions d (proposedDuplicateUpdates db exchange market now
        group).duplicatePositions now).livePositions.rows.map LivePosition.pointedColumns
      = db.livePositions.rows.map LivePosition.pointedColumns := by
  refine pointedColumns_reconcilePositions db now ?_ h
  intro q hq
  obtain ⟨hmem, hactive, -, -⟩ := (mem_duplicatePositions db exchange market now).mp hq
  exact ⟨hmem, hactive⟩

theorem pointedColumns_writePreview {d : Database} {group : DuplicateGroup}
    (h : d.livePositions.rows.map LivePosition.pointedColumns
      = db.livePositions.rows.map LivePosition.pointedColumns) :
    (writePreview exchange market now d (proposedDuplicateUpdates db exchange market now
        group)).livePositions.rows.map LivePosition.pointedColumns
      = db.livePositions.rows.map LivePosition.pointedColumns := by
  rw [livePositions_writePreview]
  exact pointedColumns_duplicates db exchange market now h

theorem takesPointer_repaired :
    takesPointer (scaleInRepaired db exchange market now).livePositions.rows
      = takesPointer db.livePositions.rows := by
  refine takesPointer_congr ?_
  rw [scaleInRepaired_eq]
  exact foldl_invariant (P := fun d : Database =>
    d.livePositions.rows.map LivePosition.pointedColumns
      = db.livePositions.rows.map LivePosition.pointedColumns)
    (fun d group _ hd => pointedColumns_writePreview db exchange market now hd) rfl

def DuplicateGroup.links (group : DuplicateGroup) (requestId : String) : Bool :=
  (scaleTargetOf db group.orderUuid).isSome
    && ((orderLogsOf db group.orderUuid).filter LiveOrderLog.isBuyEntry).any
      (fun log => requestId == log.requestId)

def LiveOrderLog.repairedBy (r : LiveOrderLog) (group : DuplicateGroup) : LiveOrderLog :=
  if group.links db r.requestId = true then
    r.linkedTo ((scaleTargetOf db group.orderUuid).getD 0) now
  else r

def LiveOrderLog.repaired (r : LiveOrderLog) : LiveOrderLog :=
  (duplicateGroups db exchange market).foldl (fun r group => r.repairedBy db now group) r

theorem rows_repaired_logs : (scaleInRepaired db exchange market now).liveOrderLogs.rows
    = db.liveOrderLogs.rows.map (fun r => r.repaired db exchange market now) := by
  rw [scaleInRepaired_eq]
  refine rows_foldl (fun d : Database => d.liveOrderLogs.rows) ?_ _ db
  intro d group
  show (writePreview exchange market now d _).liveOrderLogs.rows = _
  rw [rows_liveOrderLogs_writePreview]
  refine List.map_congr_left (fun r _ => if_congr ?_ rfl rfl)
  unfold DuplicateGroup.links
  rw [Bool.and_eq_true, List.any_eq_true]
  simp only [beq_iff_eq]
  exact Iff.rfl

theorem LiveOrderLog.repaired_columns (r : LiveOrderLog) :
    ((r.repaired db exchange market now).id, (r.repaired db exchange market now).orderUuid,
      (r.repaired db exchange market now).isBuyEntry,
      (r.repaired db exchange market now).orderPreviewPayload)
        = (r.id, r.orderUuid, r.isBuyEntry, r.orderPreviewPayload) := by
  refine foldl_frame (fun r : LiveOrderLog =>
    (r.id, r.orderUuid, r.isBuyEntry, r.orderPreviewPayload)) ?_ _ r
  intro r group
  unfold LiveOrderLog.repairedBy
  split <;> rfl

@[simp] theorem LiveOrderLog.repaired_id (r : LiveOrderLog) :
    (r.repaired db exchange market now).id = r.id :=
  congrArg Prod.fst (r.repaired_columns db exchange market now)

@[simp] theorem LiveOrderLog.repaired_orderUuid (r : LiveOrderLog) :
    (r.repaired db exchange market now).orderUuid = r.orderUuid :=
  congrArg (fun c => c.2.1) (r.repaired_columns db exchange market now)

@[simp] theorem LiveOrderLog.repaired_isBuyEntry (r : LiveOrderLog) :
    (r.repaired db exchange market now).isBuyEntry = r.isBuyEntry :=
  congrArg (fun c => c.2.2.1) (r.repaired_columns db exchange market now)

@[simp] theorem LiveOrderLog.repaired_orderPreviewPayload (r : LiveOrderLog) :
    (r.repaired db exchange market now).orderPreviewPayload = r.orderPreviewPayload :=
  congrArg (fun c => c.2.2.2) (r.repaired_columns db exchange market now)

theorem groupLinks_iff {group : DuplicateGroup} {r : LiveOrderLog} (hr : r ∈ db.liveOrderLogs.rows) :
    group.links db r.requestId = true ↔ (scaleTargetOf db group.orderUuid).isSome = true
      ∧ r.isBuyEntry = true ∧ r.orderUuid = some group.orderUuid := by
  unfold DuplicateGroup.links
  rw [Bool.and_eq_true, List.any_eq_true]
  refine and_congr_right (fun _ => ?_)
  constructor
  · intro ⟨log, hlog, hkey⟩
    obtain ⟨hmem, hbuy⟩ := List.mem_filter.mp hlog
    obtain ⟨hstored, huuid⟩ := mem_orderLogsOf.mp hmem
    obtain rfl : r = log := db.requestId_unique.eq_of_key hr hstored (beq_iff_eq.mp hkey)
    exact ⟨hbuy, huuid⟩
  · intro ⟨hbuy, huuid⟩
    exact ⟨r, List.mem_filter.mpr ⟨mem_orderLogsOf.mpr ⟨hr, huuid⟩, hbuy⟩, beq_self_eq_true _⟩

/-- The position that the repair links a log to: the target of its order, where it has one. -/
def LiveOrderLog.linkOnceRepaired (r : LiveOrderLog) : Option ℕ :=
  if r.isBuyEntry && (duplicateGroups db exchange market).any
      (fun group => r.orderUuid == some group.orderUuid) then
    (scaleTargetOf db (toText r.orderUuid)).or r.positionId
  else r.positionId

theorem positionId_repaired {r : LiveOrderLog} (hr : r ∈ db.liveOrderLogs.rows) :
    (r.repaired db exchange market now).positionId = r.linkOnceRepaired db exchange market := by
  -- whatever group links the log is of its own order
  have hown : ∀ group ∈ duplicateGroups db exchange market, group.links db r.requestId = true →
      (fun r' => LiveOrderLog.linkedTo r' ((scaleTargetOf db group.orderUuid).getD 0) now)
        = fun r' => r'.linkedTo ((scaleTargetOf db (toText r.orderUuid)).getD 0) now := by
    intro group _ hgroup
    obtain ⟨-, -, huuid⟩ := (groupLinks_iff db hr).mp hgroup
    rw [huuid]
    rfl
  have hfold := foldl_ite_same (fun group : DuplicateGroup => group.links db r.requestId = true)
    (f := fun group r' => LiveOrderLog.linkedTo r' ((scaleTargetOf db group.orderUuid).getD 0) now)
    hown (fun _ => rfl) r
  have hkey := foldl_ite_key LiveOrderLog.requestId
    (fun (group : DuplicateGroup) requestId => group.links db requestId = true)
    (f := fun group r' => LiveOrderLog.linkedTo r' ((scaleTargetOf db group.orderUuid).getD 0) now)
    (fun _ _ => rfl) (duplicateGroups db exchange market) (rfl : r.requestId = r.requestId)
  have hrepaired : r.repaired db exchange market now = _ := hkey.trans hfold
  rw [hrepaired]
  unfold LiveOrderLog.linkOnceRepaired
  simp only [groupLinks_iff db hr, Bool.and_eq_true, List.any_eq_true, beq_iff_eq]
  by_cases hbuy : r.isBuyEntry = true ∧ ∃ group ∈ duplicateGroups db exchange market,
      r.orderUuid = some group.orderUuid
  · obtain ⟨hentry, group, hgroup, huuid⟩ := hbuy
    rw [if_pos (c := _ ∧ _) ⟨hentry, group, hgroup, huuid⟩, huuid, toText_some]
    cases htarget : scaleTargetOf db group.orderUuid with
    | none =>
      rw [if_neg, Option.none_or]
      intro ⟨other, _, hgiven, _, hother⟩
      rw [← Option.some.inj hother, htarget] at hgiven
      cases hgiven
    | some target =>
      rw [if_pos ⟨group, hgroup, by rw [htarget]; rfl, hentry, rfl⟩]
      rfl
  · rw [if_neg hbuy, if_neg]
    intro ⟨group, hgroup, _, hentry, huuid⟩
    exact hbuy ⟨hentry, group, hgroup, huuid⟩

def LiveStrategySession.repairedBy (s : LiveStrategySession) (group : DuplicateGroup) :
    LiveStrategySession :=
  if (scaleTargetOf db group.orderUuid).isSome = true ∧ (s.isRepointable exchange market
      && takesPointer db.livePositions.rows group.orderUuid s.currentPositionId) = true then
    s.repointedTo ((scaleTargetOf db group.orderUuid).getD 0) now
  else s

def LiveStrategySession.repaired (s : LiveStrategySession) : LiveStrategySession :=
  (duplicateGroups db exchange market).foldl
    (fun s group => s.repairedBy db exchange market now group) s

theorem rows_repaired_sessions : (scaleInRepaired db exchange market now).liveStrategySessions.rows
    = db.liveStrategySessions.rows.map (fun s => s.repaired db exchange market now) := by
  rw [scaleInRepaired_eq]
  refine rows_foldl_of (fun d : Database => d.liveStrategySessions.rows)
    (P := fun d : Database => d.livePositions.rows.map LivePosition.pointedColumns
      = db.livePositions.rows.map LivePosition.pointedColumns)
    (fun d group _ hd => pointedColumns_writePreview db exchange market now hd) ?_ rfl
  intro d group _ hd
  show (writePreview exchange market now d _).liveStrategySessions.rows = _
  rw [rows_liveStrategySessions_writePreview]
  refine List.map_congr_left (fun s _ => if_congr ?_ rfl rfl)
  rw [takesPointer_congr (pointedColumns_duplicates db exchange market now hd)]
  exact Iff.rfl

theorem LiveStrategySession.repairedBy_columns (s : LiveStrategySession) (group : DuplicateGroup) :
    ((s.repairedBy db exchange market now group).id,
      (s.repairedBy db exchange market now group).candidateStrategyId,
      (s.repairedBy db exchange market now group).isRepointable exchange market)
        = (s.id, s.candidateStrategyId, s.isRepointable exchange market) := by
  unfold LiveStrategySession.repairedBy
  split <;> rfl

theorem LiveStrategySession.repaired_columns (s : LiveStrategySession) :
    ((s.repaired db exchange market now).id, (s.repaired db exchange market now).candidateStrategyId,
      (s.repaired db exchange market now).isRepointable exchange market)
        = (s.id, s.candidateStrategyId, s.isRepointable exchange market) :=
  foldl_frame (fun s : LiveStrategySession =>
    (s.id, s.candidateStrategyId, s.isRepointable exchange market))
    (fun s group => s.repairedBy_columns db exchange market now group) _ s

@[simp] theorem LiveStrategySession.repaired_id (s : LiveStrategySession) :
    (s.repaired db exchange market now).id = s.id :=
  congrArg Prod.fst (s.repaired_columns db exchange market now)

@[simp] theorem LiveStrategySession.repaired_candidateStrategyId (s : LiveStrategySession) :
    (s.repaired db exchange market now).candidateStrategyId = s.candidateStrategyId :=
  congrArg (fun c => c.2.1) (s.repaired_columns db exchange market now)

@[simp] theorem LiveStrategySession.repaired_isRepointable (s : LiveStrategySession) :
    (s.repaired db exchange market now).isRepointable exchange market
      = s.isRepointable exchange market :=
  congrArg (fun c => c.2.2) (s.repaired_columns db exchange market now)

theorem currentPositionId_repairedBy (s : LiveStrategySession) (group : DuplicateGroup) :
    (s.repairedBy db exchange market now group).currentPositionId
      = if s.isRepointable exchange market = true then
          Redirect.follow (scaleRedirects db [group]) s.currentPositionId
        else s.currentPositionId := by
  unfold LiveStrategySession.repairedBy scaleRedirects
  cases hs : s.isRepointable exchange market with
  | false => simp
  | true =>
    cases htarget : scaleTargetOf db group.orderUuid with
    | none => simp [htarget]
    | some target =>
      simp only [htarget, Option.isSome_some, Bool.true_and, true_and, Option.getD_some,
        List.filterMap_cons, List.filterMap_nil, Option.map_some, Redirect.follow_cons,
        Redirect.follow_nil, Redirect.apply, if_true]
      split <;> rfl

theorem currentPositionId_repaired (s : LiveStrategySession) :
    (s.repaired db exchange market now).currentPositionId
      = if s.isRepointable exchange market = true then
          Redirect.follow (scaleRedirects db (duplicateGroups db exchange market))
            s.currentPositionId
        else s.currentPositionId := by
  unfold LiveStrategySession.repaired
  -- induction on the groups; a session that may not be re-pointed passes all of them
  generalize duplicateGroups db exchange market = groups
  induction groups generalizing s with
  | nil => simp [scaleRedirects]
  | cons group groups ih =>
    have hrepointable : (s.repairedBy db exchange market now group).isRepointable exchange market
        = s.isRepointable exchange market :=
      congrArg (fun c => c.2.2) (s.repairedBy_columns db exchange market now group)
    rw [List.foldl_cons, ih, hrepointable, currentPositionId_repairedBy]
    cases hs : s.isRepointable exchange market with
    | false => simp
    | true =>
      rw [if_pos rfl, if_pos rfl, if_pos rfl, ← Redirect.follow_append]
      unfold scaleRedirects
      rw [← List.filterMap_append, List.singleton_append]

/-- The fill events hold one that guards the order. -/
def FillGuarded (fills : Table PositionFillEvent) (orderUuid : String) : Prop :=
  (fills.rows.find? (fun e => e.key = (orderUuid, FillType.scaleIn))).isSome = true

theorem fillGuarded_writePreview (d : Database) (group : DuplicateGroup) (orderUuid : String) :
    FillGuarded (writePreview exchange market now d
        (proposedDuplicateUpdates db exchange market now group)).positionFillEvents orderUuid
      ↔ FillGuarded d.positionFillEvents orderUuid
        ∨ (scaleTargetOf db group.orderUuid).isSome = true ∧ group.orderUuid = orderUuid := by
  rw [positionFillEvents_writePreview]
  show FillGuarded ((scaleTargetOf db group.orderUuid).elim _ _) orderUuid ↔ _
  cases scaleTargetOf db group.orderUuid with
  | none => simp
  | some target =>
    refine (Table.isSome_find?_insertOrIgnore _ _ _ _ _).trans (or_congr_right ?_)
    show (group.orderUuid, FillType.scaleIn) = (orderUuid, FillType.scaleIn) ↔ _
    simp

theorem fillGuarded_repaired (orderUuid : String) :
    FillGuarded (scaleInRepaired db exchange market now).positionFillEvents orderUuid
      ↔ FillGuarded db.positionFillEvents orderUuid
        ∨ ∃ group ∈ duplicateGroups db exchange market,
          (scaleTargetOf db group.orderUuid).isSome = true ∧ group.orderUuid = orderUuid := by
  rw [scaleInRepaired_eq]
  exact foldl_iff_or (Q := fun d : Database => FillGuarded d.positionFillEvents orderUuid)
    (fun d group => fillGuarded_writePreview db exchange market now d group orderUuid) _ db

theorem positionFillEvents_of_guarded (h : ∀ group ∈ duplicateGroups db exchange market,
    (scaleTargetOf db group.orderUuid).isSome = true →
      FillGuarded db.positionFillEvents group.orderUuid) :
    (scaleInRepaired db exchange market now).positionFillEvents = db.positionFillEvents := by
  rw [scaleInRepaired_eq]
  refine foldl_invariant (P := fun d : Database => d.positionFillEvents = db.positionFillEvents)
    ?_ rfl
  intro d group hgroup hd
  show (writePreview exchange market now d _).positionFillEvents = _
  rw [positionFillEvents_writePreview, hd]
  have hguarded := h group hgroup
  show (scaleTargetOf db group.orderUuid).elim _ _ = _
  cases htarget : scaleTargetOf db group.orderUuid with
  | none => rfl
  | some target =>
    rw [htarget] at hguarded
    exact Table.insertOrIgnore_of_isSome _ _ _ _ (hguarded rfl)

end Repaired

/-! ## A second repair -/

section Again

variable (db : Database) (exchange market : String) (now : UtcTime)

theorem scaleTargetOf_repaired (orderUuid : String) :
    scaleTargetOf (scaleInRepaired db exchange market now) orderUuid
      = scaleTargetOf db orderUuid :=
  scaleTargetOf_map (rows_repaired_logs db exchange market now)
    (LiveOrderLog.repaired_id db exchange market now)
    (LiveOrderLog.repaired_orderUuid db exchange market now)
    (LiveOrderLog.repaired_orderPreviewPayload db exchange market now) orderUuid

theorem duplicateGroups_repaired :
    duplicateGroups (scaleInRepaired db exchange market now) exchange market
      = groupsOnceUpdated db exchange market now := by
  unfold duplicateGroups groupsOnceUpdated
  rw [rows_repaired_positions]
  refine duplicateGroupsBy_map ?_ ?_ ?_
  · intro p
    split <;> rfl
  · intro p
    split <;> rfl
  · intro p
    split <;> rfl

theorem mem_duplicateGroups_repaired {group : DuplicateGroup} :
    group ∈ duplicateGroups (scaleInRepaired db exchange market now) exchange market
      ↔ group ∈ duplicateGroups db exchange market := by
  rw [duplicateGroups_repaired]
  exact mem_groupsOnceUpdated

theorem isUnnamed_repaired (p : LivePosition) :
    p.isUnnamed (scaleInRepaired db exchange market now) exchange market
      = p.isUnnamed db exchange market := by
  unfold LivePosition.isUnnamed
  rw [Bool.eq_iff_iff, List.any_eq_true, List.any_eq_true]
  simp only [mem_duplicateGroups_repaired, scaleTargetOf_repaired]

theorem scaleRedirects_repaired (groups : List DuplicateGroup) :
    scaleRedirects (scaleInRepaired db exchange market now) groups = scaleRedirects db groups := by
  unfold scaleRedirects
  simp only [scaleTargetOf_repaired, takesPointer_repaired]

theorem livePositions_repaired_again (later : UtcTime) :
    (scaleInRepaired (scaleInRepaired db exchange market now) exchange market
        later).livePositions.rows
      = (scaleInRepaired db exchange market now).livePositions.rows := by
  rw [rows_repaired_positions (scaleInRepaired db exchange market now)]
  simp only [isUnnamed_repaired]
  rw [rows_repaired_positions, List.map_map]
  refine List.map_congr_left (fun p _ => ?_)
  rw [Function.comp_apply]
  by_cases hspare : (p.status.isActive && p.isUnnamed db exchange market) = true
  · rw [if_pos hspare]
    rfl
  · rw [if_neg hspare, if_neg hspare]

theorem positionId_repaired_again (later : UtcTime) {r : LiveOrderLog}
    (hr : r ∈ (scaleInRepaired db exchange market now).liveOrderLogs.rows) :
    (r.repaired (scaleInRepaired db exchange market now) exchange market later).positionId
      = r.positionId := by
  rw [positionId_repaired _ exchange market later hr]
  rw [rows_repaired_logs] at hr
  obtain ⟨r, hr₀, rfl⟩ := List.mem_map.mp hr
  have hgroups : ∀ orderUuid : Option String,
      (duplicateGroups (scaleInRepaired db exchange market now) exchange market).any
        (fun group => orderUuid == some group.orderUuid)
      = (duplicateGroups db exchange market).any
        (fun group => orderUuid == some group.orderUuid) := by
    intro orderUuid
    rw [Bool.eq_iff_iff, List.any_eq_true, List.any_eq_true]
    simp only [mem_duplicateGroups_repaired]
  unfold LiveOrderLog.linkOnceRepaired
  rw [LiveOrderLog.repaired_orderUuid, LiveOrderLog.repaired_isBuyEntry, hgroups,
    scaleTargetOf_repaired, positionId_repaired db exchange market now hr₀]
  unfold LiveOrderLog.linkOnceRepaired
  split
  · cases scaleTargetOf db (toText r.orderUuid) with
    | none => rfl
    | some target => rfl
  · rfl

theorem positionFillEvents_repaired_again (later : UtcTime) :
    (scaleInRepaired (scaleInRepaired db exchange market now) exchange market
        later).positionFillEvents
      = (scaleInRepaired db exchange market now).positionFillEvents := by
  refine positionFillEvents_of_guarded _ exchange market later ?_
  intro group hgroup htarget
  rw [mem_duplicateGroups_repaired] at hgroup
  rw [scaleTargetOf_repaired] at htarget
  exact (fillGuarded_repaired db exchange market now group.orderUuid).mpr
    (.inr ⟨group, hgroup, htarget, rfl⟩)

/-- **Only pointers may move**: those that the targets, taken in their new order, lead elsewhere. -/
theorem repair_again (later : UtcTime) :
    SameHoldings (scaleInRepaired db exchange market now)
        (scaleInRepaired (scaleInRepaired db exchange market now) exchange market later)
      ↔ ∀ s ∈ (scaleInRepaired db exchange market now).liveStrategySessions.rows,
          s.isRepointable exchange market = true →
            Redirect.follow (scaleRedirects db (groupsOnceUpdated db exchange market now))
              s.currentPositionId = s.currentPositionId := by
  have hpointer : ∀ s : LiveStrategySession,
      (s.repaired (scaleInRepaired db exchange market now) exchange market later).currentPositionId
        = if s.isRepointable exchange market = true then
            Redirect.follow (scaleRedirects db (groupsOnceUpdated db exchange market now))
              s.currentPositionId
          else s.currentPositionId := by
    intro s
    rw [currentPositionId_repaired, duplicateGroups_repaired, scaleRedirects_repaired]
  constructor
  · intro h s hs hrepointable
    have hpointers := h.pointers
    rw [rows_repaired_sessions (scaleInRepaired db exchange market now), List.map_map] at hpointers
    have hsame := List.map_inj_left.mp hpointers s hs
    simp only [Function.comp_apply, Prod.mk.injEq] at hsame
    have hled := hpointer s
    rw [hsame.2, if_pos hrepointable] at hled
    exact hled.symm
  · intro h
    refine ⟨?_, ?_, ?_, ?_⟩
    · rw [livePositions_repaired_again]
    · rw [rows_repaired_logs (scaleInRepaired db exchange market now), List.map_map]
      refine List.map_congr_left (fun r hr => ?_)
      rw [Function.comp_apply, LiveOrderLog.repaired_id,
        positionId_repaired_again db exchange market now later hr]
    · rw [positionFillEvents_repaired_again]
    · rw [rows_repaired_sessions (scaleInRepaired db exchange market now), List.map_map]
      refine List.map_congr_left (fun s hs => ?_)
      rw [Function.comp_apply, LiveStrategySession.repaired_id, hpointer]
      split
      · rename_i hrepointable
        rw [h s hs hrepointable]
      · rfl

/-- **Targets that rest settle the sessions**: if no order takes a pointer from another's target,
a second repair changes nothing. -/
theorem sessions_settle_of_rests (hrests : ∀ rule ∈ scaleRedirects db
      (duplicateGroups db exchange market),
      Redirect.Rests (scaleRedirects db (duplicateGroups db exchange market)) rule.target)
    (later : UtcTime) :
    SameHoldings (scaleInRepaired db exchange market now)
      (scaleInRepaired (scaleInRepaired db exchange market now) exchange market later) := by
  refine (repair_again db exchange market now later).mpr ?_
  intro s hs hrepointable
  rw [rows_repaired_sessions] at hs
  obtain ⟨s, -, rfl⟩ := List.mem_map.mp hs
  rw [LiveStrategySession.repaired_isRepointable] at hrepointable
  rw [currentPositionId_repaired, if_pos hrepointable]
  refine Redirect.follow_follow_of_rests hrests ?_
  intro rule hrule
  obtain ⟨group, hgroup, hmap⟩ := List.mem_filterMap.mp hrule
  exact List.mem_filterMap.mpr ⟨group, mem_groupsOnceUpdated.mp hgroup, hmap⟩

end Again

/-! ## When holdings stay managed -/

section Managed

variable (db : Database) (exchange market : String) (now : UtcTime)

theorem open_repaired_iff (orderUuid : String) :
    (∃ p ∈ (scaleInRepaired db exchange market now).livePositions.rows,
        p.status.isActive = true ∧ p.HoldsFor db orderUuid)
      ↔ ∃ p ∈ db.livePositions.rows, p.status.isActive = true ∧ p.HoldsFor db orderUuid
          ∧ p.isUnnamed db exchange market = false := by
  rw [rows_repaired_positions]
  constructor
  · intro ⟨p', hp', hopen, hholds⟩
    obtain ⟨p, hp, rfl⟩ := List.mem_map.mp hp'
    split at hopen
    · cases hopen
    · rename_i hspare
      rw [if_neg hspare] at hholds
      refine ⟨p, hp, hopen, hholds, ?_⟩
      rw [hopen, Bool.true_and, Bool.not_eq_true] at hspare
      exact hspare
  · intro ⟨p, hp, hopen, hholds, hnamed⟩
    refine ⟨p, List.mem_map.mpr ⟨p, hp, ?_⟩, hopen, hholds⟩
    rw [hnamed, Bool.and_false, if_neg Bool.false_ne_true]

theorem ofStrategy_repaired_iff (pointer : Option ℕ) (candidateStrategyId : ℕ) :
    (∃ p ∈ (scaleInRepaired db exchange market now).livePositions.rows,
        pointer = some p.id ∧ p.candidateStrategyId = candidateStrategyId)
      ↔ ∃ p ∈ db.livePositions.rows,
          pointer = some p.id ∧ p.candidateStrategyId = candidateStrategyId := by
  rw [rows_repaired_positions]
  constructor
  · intro ⟨p', hp', hpointer, hstrategy⟩
    obtain ⟨p, hp, rfl⟩ := List.mem_map.mp hp'
    by_cases hspare : (p.status.isActive && p.isUnnamed db exchange market) = true
    · rw [if_pos hspare] at hpointer hstrategy
      exact ⟨p, hp, hpointer, hstrategy⟩
    · rw [if_neg hspare] at hpointer hstrategy
      exact ⟨p, hp, hpointer, hstrategy⟩
  · intro ⟨p, hp, hpointer, hstrategy⟩
    refine ⟨_, List.mem_map_of_mem hp, ?_⟩
    split
    · exact ⟨hpointer, hstrategy⟩
    · exact ⟨hpointer, hstrategy⟩

/-- **Holdings stay managed over a repair exactly if its targets fit.** -/
theorem holdingsManaged_iff :
    HoldingsManaged db exchange market now ↔ TargetsFit db exchange market now := by
  constructor
  · intro h
    have hnowhere : ∀ s ∈ db.liveStrategySessions.rows, s.repaired db exchange market now
        ∈ (scaleInRepaired db exchange market now).liveStrategySessions.rows := by
      intro s hs
      rw [rows_repaired_sessions]
      exact List.mem_map_of_mem hs
    refine ⟨?_, ?_, ?_⟩
    · intro orderUuid hshared hheld
      exact (open_repaired_iff db exchange market now orderUuid).mp (h.kept orderUuid hshared hheld)
    · intro s hs hrepointable
      have hpointer := currentPositionId_repaired db exchange market now s
      rw [if_pos hrepointable] at hpointer
      by_cases hstays : (s.repaired db exchange market now).currentPositionId = s.currentPositionId
      · exact .inl (hpointer.symm.trans hstays)
      · have howned := h.owned s hs _ (hnowhere s hs) (s.repaired_id db exchange market now) hstays
        rw [ofStrategy_repaired_iff, hpointer,
          LiveStrategySession.repaired_candidateStrategyId] at howned
        exact .inr howned
    · intro s hs hrepointable
      have hsettled := (repair_again db exchange market now now).mp (h.settled now) _
        (hnowhere s hs) ((s.repaired_isRepointable db exchange market now).trans hrepointable)
      rw [currentPositionId_repaired, if_pos hrepointable] at hsettled
      exact hsettled
  · intro h
    refine ⟨?_, ?_, ?_⟩
    · intro orderUuid hshared hheld
      exact (open_repaired_iff db exchange market now orderUuid).mpr
        (h.namedOpen orderUuid hshared hheld)
    · intro s hs s' hs' hid hmoved
      rw [rows_repaired_sessions] at hs'
      obtain ⟨r, hr, rfl⟩ := List.mem_map.mp hs'
      rw [LiveStrategySession.repaired_id] at hid
      obtain rfl : r = s := Table.eq_of_rowId_eq hr hs hid
      rw [ofStrategy_repaired_iff, LiveStrategySession.repaired_candidateStrategyId]
      rw [currentPositionId_repaired] at hmoved ⊢
      split at hmoved
      · rename_i hrepointable
        rw [if_pos hrepointable]
        exact (h.ownTarget r hr hrepointable).resolve_left hmoved
      · exact absurd rfl hmoved
    · intro later
      refine (repair_again db exchange market now later).mpr ?_
      intro s' hs' hrepointable
      rw [rows_repaired_sessions] at hs'
      obtain ⟨s, hs, rfl⟩ := List.mem_map.mp hs'
      rw [LiveStrategySession.repaired_isRepointable] at hrepointable
      rw [currentPositionId_repaired, if_pos hrepointable]
      exact h.secondTurn s hs hrepointable

end Managed

/-! ## Two repairs of one market -/

section Examples

def repairedPosition (id : ℕ) (orderUuid : String) (status : PositionStatus) (updatedAt : UtcTime) :
    LivePosition :=
  { id := id
    market := "KRW-XLM"
    candidateStrategyId := 1
    status := status
    entryOrderUuid := some orderUuid
    updatedAt := updatedAt }

/-- A filled BUY log that names the position to scale into. -/
def namingLog (id : ℕ) (requestId orderUuid : String) (target : ℕ) : LiveOrderLog :=
  { id := id
    requestId := requestId
    exchange := "bithumb"
    market := "KRW-XLM"
    status := .filled
    orderUuid := some orderUuid
    orderPreviewPayload := { scaleIn := { scaleIn := true, positionId := some target } } }

def marketSession (candidateStrategyId : ℕ) (status : SessionStatus) (pointer : Option ℕ) :
    LiveStrategySession :=
  { id := 1
    market := "KRW-XLM"
    candidateStrategyId := candidateStrategyId
    status := status
    currentPositionId := pointer }

/-- One duplicated order whose target is open; the session points at a duplicate. -/
def openTargetDb : Database where
  livePositions :=
    { rows := [repairedPosition 1 "entry-1" .opened 5, repairedPosition 2 "scale-1" .opened 10,
        repairedPosition 3 "scale-1" .closed 10]
      nextId := 4
      nextId_pos := by decide
      rowId_pos := by decide
      rowId_lt := by decide
      nodup := by decide }
  liveOrderLogs :=
    { rows := [namingLog 1 "buy-1" "scale-1" 1]
      nextId := 2
      nextId_pos := by decide
      rowId_pos := by decide
      rowId_lt := by decide
      nodup := by decide }
  liveStrategySessions :=
    { rows := [marketSession 1 .livePaused (some 2)]
      nextId := 2
      nextId_pos := by decide
      rowId_pos := by decide
      rowId_lt := by decide
      nodup := by decide }

theorem openTarget_managed : HoldingsManaged openTargetDb "bithumb" "KRW-XLM" 30 := by
  refine (holdingsManaged_iff openTargetDb "bithumb" "KRW-XLM" 30).mpr ⟨?_, ?_, ?_⟩
  · intro orderUuid hshared _
    by_cases hscale : orderUuid = "scale-1"
    · subst hscale
      decide +kernel
    · -- no other order is shared
      have hsingle : (positionsOf openTargetDb orderUuid).length ≤ 1 := by
        unfold positionsOf Table.select
        rw [List.length_insertionSort, ← List.countP_eq_length_filter]
        simp [openTargetDb, repairedPosition, Ne.symm hscale, List.countP_cons]
        split <;> omega
      omega
  · decide +kernel
  · decide +kernel

theorem openTarget_settles :
    SameHoldings (scaleInRepaired openTargetDb "bithumb" "KRW-XLM" 30)
      (scaleInRepaired (scaleInRepaired openTargetDb "bithumb" "KRW-XLM" 30) "bithumb" "KRW-XLM"
        40) :=
  sessions_settle_of_rests openTargetDb "bithumb" "KRW-XLM" 30
    (by unfold Redirect.Rests; decide +kernel) 40

/-- Two duplicated orders whose targets were CLOSED: one was reconciled before, the other has an
open duplicate. A session of another strategy holds nothing. -/
def closedTargetsDb : Database where
  livePositions :=
    { rows := [repairedPosition 1 "entry-1" .closed 5,
        repairedPosition 2 "scale-1" .duplicateReconciled 20,
        repairedPosition 3 "scale-1" .duplicateReconciled 20, repairedPosition 4 "entry-2" .closed 6,
        repairedPosition 5 "scale-2" .closed 10, repairedPosition 6 "scale-2" .opened 10]
      nextId := 7
      nextId_pos := by decide
      rowId_pos := by decide
      rowId_lt := by decide
      nodup := by decide }
  liveOrderLogs :=
    { rows := [namingLog 1 "buy-1" "scale-1" 1, namingLog 2 "buy-2" "scale-2" 4]
      nextId := 3
      nextId_pos := by decide
      rowId_pos := by decide
      rowId_lt := by decide
      nodup := by decide }
  liveStrategySessions :=
    { rows := [marketSession 2 .ready none]
      nextId := 2
      nextId_pos := by decide
      rowId_pos := by decide
      rowId_lt := by decide
      nodup := by decide }
  requestId_unique := by decide

/-- The repair closes the one open position, points the session at the CLOSED position 4 of
another strategy, and a second repair points it at position 1. -/
theorem repair_closes_and_mispoints :
    let repaired := scaleInRepaired closedTargetsDb "bithumb" "KRW-XLM" 30
    let again := scaleInRepaired repaired "bithumb" "KRW-XLM" 40
    repaired.livePositions.rows.map LivePosition.status
        = [.closed, .duplicateReconciled, .duplicateReconciled, .closed, .closed,
          .duplicateReconciled]
      ∧ repaired.liveStrategySessions.rows.map LiveStrategySession.currentPositionId = [some 4]
      ∧ again.liveStrategySessions.rows.map LiveStrategySession.currentPositionId = [some 1]
      ∧ ¬ HoldingsManaged closedTargetsDb "bithumb" "KRW-XLM" 30 := by
  refine ⟨by decide +kernel, by decide +kernel, by decide +kernel, ?_⟩
  intro h
  have hlost : ¬ ∃ p ∈ (scaleInRepaired closedTargetsDb "bithumb" "KRW-XLM" 30).livePositions.rows,
      p.status.isActive = true ∧ p.HoldsFor closedTargetsDb "scale-2" := by decide +kernel
  exact hlost (h.kept "scale-2" (by decide +kernel) (by decide +kernel))

end Examples

end AutoCoinBot
