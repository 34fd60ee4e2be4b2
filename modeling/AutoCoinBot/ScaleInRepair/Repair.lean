/-
  ScaleInRepair.Repair — app/scale_in_repair.py: positions of a market that share an
  entry order are reconciled with the position that the order was to scale into.

  Every preview is computed before anything is written. The writes then go through the previews:
  the open duplicates are closed, and where the order's logs name a target, its BUY logs, a fill
  event and the sessions of the market are pointed at it.
-/
import AutoCoinBot.Database.PositionFills

namespace AutoCoinBot

open Library

/-! ## What is found -/

/-- `_scale_target_from_logs`: the first log that names a position to scale into. -/
def scaleTargetFromLogs (logs : List LiveOrderLog) : Option ℕ :=
  logs.findSome? (fun log =>
    let scalePreview := log.orderPreviewPayload.scaleIn
    if scalePreview.scaleIn && idGiven scalePreview.positionId then scalePreview.positionId
    else none)

/-- A row of `_duplicate_groups`. -/
structure DuplicateGroup where
  orderUuid : String
  positionCount : ℕ

/-- `WHERE exchange = ? AND market = ? AND entry_order_uuid IS NOT NULL AND entry_order_uuid != ''`. -/
def LivePosition.entersIn (p : LivePosition) (exchange market : String) : Bool :=
  p.exchange == exchange && p.market == market && textGiven p.entryOrderUuid

/-- `GROUP BY entry_order_uuid HAVING COUNT(*) > 1 ORDER BY MAX(updated_at) DESC`, with `stamp` for
`updated_at`. Groups come in the order of their keys, which decides between equal stamps. -/
def duplicateGroupsBy (stamp : LivePosition → UtcTime) (positions : List LivePosition)
    (exchange market : String) : List DuplicateGroup :=
  let rows := positions.filter (fun p => p.entersIn exchange market)
  let uuids := (rows.filterMap LivePosition.entryOrderUuid).dedup.insertionSort (fun u v => u ≤ v)
  let members := fun uuid => rows.filter (fun p => p.entryOrderUuid == some uuid)
  let newest := fun g : DuplicateGroup => ((members g.orderUuid).map stamp).max?.getD 0
  ((uuids.map (fun uuid => DuplicateGroup.mk uuid (members uuid).length)).filter
    (fun g => 1 < g.positionCount)).insertionSort (fun g h => newest h ≤ newest g)

def duplicateGroups (db : Database) (exchange market : String) : List DuplicateGroup :=
  duplicateGroupsBy LivePosition.updatedAt db.livePositions.rows exchange market

structure OpenVolume where
  volume : ℚ
  valueKrw : ℚ
  positions : List LivePosition

def openVolume (db : Database) (exchange market : String) : OpenVolume :=
  let rows := (db.livePositions.select (fun p => p.exchange == exchange && p.market == market
    && p.status.isActive)).insertionSort (fun p q => p.id ≤ q.id)
  { volume := (rows.map LivePosition.entryVolume).sum
    valueKrw := (rows.map (fun p => p.entryVolume * p.currentPrice)).sum
    positions := rows }

/-- `SELECT * FROM live_order_logs WHERE order_uuid = ? ORDER BY id`. -/
def orderLogsOf (db : Database) (orderUuid : String) : List LiveOrderLog :=
  (db.liveOrderLogs.select (fun r => r.orderUuid == some orderUuid)).insertionSort
    (fun a b => a.id ≤ b.id)

/-- `SELECT * FROM live_positions WHERE entry_order_uuid = ? ORDER BY id`, in whichever market. -/
def positionsOf (db : Database) (orderUuid : String) : List LivePosition :=
  (db.livePositions.select (fun p => p.entryOrderUuid == some orderUuid)).insertionSort
    (fun p q => p.id ≤ q.id)

/-- The EXIT orders of the positions the order entered. -/
def sellLogsOf (db : Database) (orderUuid : String) : List LiveOrderLog :=
  (db.liveOrderLogs.select (fun r => r.orderPurpose == .exit
    && (positionsOf db orderUuid).any (fun p => r.positionId == some p.id))).insertionSort
      (fun a b => a.id ≤ b.id)

/-- `side == "BUY" and order_purpose == "ENTRY"`. -/
def LiveOrderLog.isBuyEntry (log : LiveOrderLog) : Bool :=
  log.side == .buy && log.orderPurpose == .entry

/-! ## What is proposed -/

/-- One of `proposed_updates`. -/
inductive ScaleInUpdate where
  | livePosition (id : ℕ) (closedAt : UtcTime)
  | liveOrderLog (id : ℕ) (requestId : String) (positionId : ℕ)
  | positionFillEvent (orderUuid : String) (positionId : ℕ)

/-- What `_proposed_duplicate_updates` returns, the exchange's balance left out. -/
structure ScaleInPreview where
  duplicateEntryOrderUuid : String
  targetScaleInPositionId : Option ℕ
  affectedLiveOrderLogs : List LiveOrderLog
  affectedPositions : List LivePosition
  sellLogs : List LiveOrderLog
  buyVolume : ℚ
  buyAmount : ℚ
  sellVolume : ℚ
  duplicatePositions : List LivePosition
  sessionsToRepoint : List LiveStrategySession
  proposedUpdates : List ScaleInUpdate

/-- The open positions of an order that are not the target. -/
def openDuplicates (positions : List LivePosition) (target : Option ℕ) : List LivePosition :=
  (positions.filter (fun p => target != some p.id)).filter (fun p => p.status.isActive)

/-- What is proposed to the target: its BUY logs that are linked elsewhere, and a SCALE_IN event
where there is none. -/
def targetUpdates (db : Database) (orderUuid : String) (logs : List LiveOrderLog) (target : ℕ) :
    List ScaleInUpdate :=
  (logs.filter (fun log => log.isBuyEntry && log.positionId.getD 0 != target)).map
    (fun log => .liveOrderLog log.id log.requestId target)
  ++ if (loadPositionFillEvent db orderUuid .scaleIn).isNone then
      [.positionFillEvent orderUuid target]
    else []

/-- `max(…, default=0.0)` over the BUY logs. -/
def maxOfBuys (logs : List LiveOrderLog) (figure : LiveOrderLog → ℚ) : ℚ :=
  ((logs.filter (fun log => log.side == .buy)).map figure).max?.getD 0

/-- The session points at a CLOSED position, or at one that the order entered. -/
def pointsAtDuplicate (db : Database) (orderUuid : String) (s : LiveStrategySession) : Bool :=
  db.livePositions.rows.any (fun p => s.currentPositionId == some p.id
    && (p.status == .closed || p.entryOrderUuid == some orderUuid))

def proposedDuplicateUpdates (db : Database) (exchange market : String) (now : UtcTime)
    (group : DuplicateGroup) : ScaleInPreview :=
  let orderUuid := group.orderUuid
  let logs := orderLogsOf db orderUuid
  let positions := positionsOf db orderUuid
  let sellLogs := sellLogsOf db orderUuid
  let target := scaleTargetFromLogs logs
  let duplicates := openDuplicates positions target
  { duplicateEntryOrderUuid := orderUuid
    targetScaleInPositionId := target
    affectedLiveOrderLogs := logs
    affectedPositions := positions
    sellLogs := sellLogs
    buyVolume := maxOfBuys logs LiveOrderLog.executedVolume
    buyAmount := maxOfBuys logs LiveOrderLog.filledAmountKrw
    sellVolume := (sellLogs.map LiveOrderLog.executedVolume).sum
    duplicatePositions := duplicates
    sessionsToRepoint := (db.liveStrategySessions.select (fun s => s.exchange == exchange
      && s.market == market && pointsAtDuplicate db orderUuid s)).insertionSort
        (fun s t => s.id ≤ t.id)
    proposedUpdates := duplicates.map (fun p => .livePosition p.id now)
      ++ target.elim [] (targetUpdates db orderUuid logs) }

/-! ## What is written -/

/-- The position after its `UPDATE`. -/
def LivePosition.reconciled (p : LivePosition) (now : UtcTime) : LivePosition :=
  { p with
    status := .duplicateReconciled
    unrealizedPnl := 0
    closedAt := p.closedAt.or (some now)
    updatedAt := now }

/-- `UPDATE live_positions`, one after the other. -/
def reconcilePositions (db : Database) (duplicates : List LivePosition) (now : UtcTime) :
    Database :=
  duplicates.foldl (fun db p =>
    { db with
      livePositions :=
        db.livePositions.modify p.id (fun p => p.reconciled now) (fun _ => rfl) }) db

/-- The log after its `UPDATE`. -/
def LiveOrderLog.linkedTo (log : LiveOrderLog) (target : ℕ) (now : UtcTime) : LiveOrderLog :=
  { log with
    positionId := some target
    updatedAt := now }

/-- `UPDATE live_order_logs … WHERE request_id = ?`. -/
def linkOrderLog (db : Database) (requestId : String) (target : ℕ) (now : UtcTime) : Database :=
  { db with
    liveOrderLogs := db.liveOrderLogs.modifyWhere (fun r => r.requestId == requestId)
      (fun r => r.linkedTo target now) (fun _ => rfl)
    requestId_unique := db.requestId_unique.modifyWhere _ (f := fun r => r.linkedTo target now)
      (fun _ => rfl) (fun _ => rfl) }

/-- The BUY logs of the order, whatever they are linked to. -/
def linkOrderLogs (db : Database) (logs : List LiveOrderLog) (target : ℕ) (now : UtcTime) :
    Database :=
  (logs.filter LiveOrderLog.isBuyEntry).foldl (fun db log => linkOrderLog db log.requestId target now)
    db

/-- The SCALE_IN event that guards the order. -/
def guardingFill (orderUuid : String) (logs : List LiveOrderLog) (target : ℕ) (now : UtcTime)
    (id : ℕ) : PositionFillEvent :=
  { id := id
    orderUuid := orderUuid
    positionId := target
    fillType := .scaleIn
    source := "SCALE_IN_DUPLICATE_REPAIR_NETTED_BY_EXIT"
    orderLogId := logs.head?.map LiveOrderLog.id
    requestId := logs.head?.map LiveOrderLog.requestId
    appliedVolume := 0
    appliedAmountKrw := 0
    appliedFee := 0
    appliedAt := now
    createdAt := now }

/-- `INSERT OR IGNORE INTO position_fill_events`. -/
def insertGuardingFill (db : Database) (orderUuid : String) (logs : List LiveOrderLog)
    (target : ℕ) (now : UtcTime) : Database :=
  let row := guardingFill orderUuid logs target now
  { db with
    positionFillEvents :=
      db.positionFillEvents.insertOrIgnore PositionFillEvent.key row (fun _ => rfl)
    fillKey_unique := db.fillKey_unique.insertOrIgnore row (fun _ => rfl) }

/-- `status IN ('READY', 'RUNNING', 'PAUSED', 'STOPPED', 'LIVE_PAUSED')`. -/
def SessionStatus.isRepointable : SessionStatus → Bool
  | .ready | .running | .paused | .stopped | .livePaused => true
  | .emergencyStopped | .error => false

/-- The session is of the market, in a status that is re-pointed. -/
def LiveStrategySession.isRepointable (s : LiveStrategySession) (exchange market : String) : Bool :=
  s.exchange == exchange && s.market == market && s.status.isRepointable

/-- `current_position_id IS NULL OR … IN (…)`: a position of the order, or a CLOSED one. -/
def takesPointer (positions : List LivePosition) (orderUuid : String) (pointer : Option ℕ) : Bool :=
  pointer.isNone
    || positions.any (fun p => p.entryOrderUuid == some orderUuid && pointer == some p.id)
    || positions.any (fun p => p.status == .closed && pointer == some p.id)

/-- The session after its `UPDATE`. -/
def LiveStrategySession.repointedTo (s : LiveStrategySession) (target : ℕ) (now : UtcTime) :
    LiveStrategySession :=
  { s with
    currentPositionId := some target
    currentOpenOrderUuid := none
    lastRiskResult := some "SCALE_IN_DUPLICATE_REPAIRED"
    updatedAt := now }

/-- `UPDATE live_strategy_sessions`. -/
def repointSessions (db : Database) (exchange market orderUuid : String) (target : ℕ)
    (now : UtcTime) : Database :=
  { db with
    liveStrategySessions := db.liveStrategySessions.modifyWhere
      (fun s => s.isRepointable exchange market
        && takesPointer db.livePositions.rows orderUuid s.currentPositionId)
      (fun s => s.repointedTo target now) (fun _ => rfl) }

def writePreview (exchange market : String) (now : UtcTime) (db : Database)
    (preview : ScaleInPreview) : Database :=
  let db := reconcilePositions db preview.duplicatePositions now
  match preview.targetScaleInPositionId with
  | none => db
  | some target =>
    let orderUuid := preview.duplicateEntryOrderUuid
    let logs := preview.affectedLiveOrderLogs
    let db := linkOrderLogs db logs target now
    let db := insertGuardingFill db orderUuid logs target now
    repointSessions db exchange market orderUuid target now

/-- One of `applied_updates`. -/
inductive ScaleInWrite where
  | livePosition (id : ℕ)
  | liveOrderLog (id : ℕ) (positionId : ℕ)
  | positionFillEvent (orderUuid : String) (inserted : Bool)
  | liveStrategySessions (currentPositionId : ℕ)

/-- What one preview adds to `applied_updates`. -/
def writtenUpdates (db : Database) (preview : ScaleInPreview) : List ScaleInWrite :=
  preview.duplicatePositions.map (fun p => .livePosition p.id)
  ++ preview.targetScaleInPositionId.elim [] (fun target =>
      (preview.affectedLiveOrderLogs.filter LiveOrderLog.isBuyEntry).map
        (fun log => .liveOrderLog log.id target)
      ++ [.positionFillEvent preview.duplicateEntryOrderUuid
            (loadPositionFillEvent db preview.duplicateEntryOrderUuid .scaleIn).isNone,
          .liveStrategySessions target])

/-- What the repair returns, the exchange's balance and the accumulators left out. -/
structure ScaleInRepairResult where
  dryRun : Bool
  exchange : String
  market : String
  duplicateGroups : List ScaleInPreview
  dbOpenVolumeBefore : OpenVolume
  applied : Bool := false
  appliedUpdates : List ScaleInWrite := []
  dbOpenVolumeAfter : Option OpenVolume := none

def repairScaleInDuplicate (db : Database) (exchange market : String) (dryRun : Bool)
    (now : UtcTime) : ScaleInRepairResult × Database :=
  let previews := (duplicateGroups db exchange market).map
    (proposedDuplicateUpdates db exchange market now)
  let result : ScaleInRepairResult :=
    { dryRun := dryRun
      exchange := exchange
      market := market
      duplicateGroups := previews
      dbOpenVolumeBefore := openVolume db exchange market }
  if dryRun then (result, db)
  else
    let (repaired, written) := previews.foldl (fun (db, written) preview =>
      (writePreview exchange market now db preview, written ++ writtenUpdates db preview)) (db, [])
    ({ result with
        applied := true
        appliedUpdates := written
        dbOpenVolumeAfter := some (openVolume repaired exchange market) },
      repaired)

end AutoCoinBot
