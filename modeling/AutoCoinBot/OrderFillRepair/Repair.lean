/-
  OrderFillRepair.Repair — app/order_fill_repair.py: a buy order that was applied
  twice is taken back to its ENTRY fill.

  The ENTRY event of the order says what the position should hold. What differs from it is
  proposed as updates; if there is any, and it is no dry run, every table is written.
-/
import AutoCoinBot.LiveRecovery.Reconcile

namespace AutoCoinBot

open Library

/-! ## What is repaired -/

structure ExchangeTotal where
  symbol : String
  available : ℚ
  locked : ℚ
  total : ℚ

/-- `_exchange_total`, once `get_balances` has answered. -/
def exchangeTotal (market : String) (balances : Balances) : ExchangeTotal :=
  let symbol := (symbolOf market).toUpper
  let item := (balances.byCurrency.lookup symbol).getD { currency := symbol }
  { symbol := symbol
    available := toFloat item.balance
    locked := toFloat item.locked
    total := balanceAmount balances symbol }

/-- `WHERE live_position_id = ? OR entry_order_uuid = (SELECT entry_order_uuid …)`; nothing equals
`NULL`. -/
def PositionSlot.belongsTo (slot : PositionSlot) (positionId : ℕ) (entryOrderUuid : Option String) :
    Bool :=
  slot.livePositionId == some positionId
    || (entryOrderUuid.isSome && slot.entryOrderUuid == entryOrderUuid)

def positionSlot (db : Database) (positionId : ℕ) : Option PositionSlot :=
  let entryOrderUuid := (loadLivePosition db positionId).bind LivePosition.entryOrderUuid
  ((db.positionSlots.select (fun s => s.belongsTo positionId entryOrderUuid)).insertionSort
    (fun s t => s.id ≤ t.id)).head?

/-- What `_target_state` returns. -/
structure RepairTarget where
  position : LivePosition
  slot : Option PositionSlot
  entryEvent : PositionFillEvent
  scaleEvents : List PositionFillEvent
  logs : List LiveOrderLog
  duplicateSessions : List LiveStrategySession

/-- The fill events of a position under one key, `ORDER BY id`. -/
def fillEvents (db : Database) (positionId : ℕ) (orderUuid : String) (fillType : FillType) :
    List PositionFillEvent :=
  (db.positionFillEvents.select (fun e => e.positionId == positionId
    && e.hasKey orderUuid fillType)).insertionSort (fun d e => d.id ≤ e.id)

/-- The sessions that point at the position, the slot's own left out. -/
def duplicateSessions (db : Database) (positionId : ℕ) (slot : Option PositionSlot) :
    List LiveStrategySession :=
  (db.liveStrategySessions.select (fun s => s.currentPositionId == some positionId
    && s.id != (slot.bind PositionSlot.liveStrategySessionId).getD 0)).insertionSort
      (fun s t => s.id ≤ t.id)

/-- `_target_state`, or the text of its `ValueError`. -/
def targetState (db : Database) (positionId : ℕ) (orderUuid : String) :
    Except String RepairTarget :=
  match loadLivePosition db positionId with
  | none => .error ("POSITION_NOT_FOUND:" ++ toString positionId)
  | some position =>
    if toText position.entryOrderUuid ≠ orderUuid then
      .error ("POSITION_ORDER_UUID_MISMATCH:" ++ position.entryOrderUuid.getD "None" ++ ":"
        ++ orderUuid)
    else
      match (fillEvents db positionId orderUuid .entry).head? with
      | none =>
        .error ("ENTRY_FILL_EVENT_NOT_FOUND:" ++ toString positionId ++ ":" ++ orderUuid)
      | some entryEvent =>
        let slot := positionSlot db positionId
        .ok
          { position := position
            slot := slot
            entryEvent := entryEvent
            scaleEvents := fillEvents db positionId orderUuid .scaleIn
            logs := (db.liveOrderLogs.select
              (fun r => r.orderUuid == some orderUuid)).insertionSort (fun a b => a.id ≤ b.id)
            duplicateSessions := duplicateSessions db positionId slot }

/-! ## What is expected -/

/-- The `expected_…` figures. -/
structure ExpectedEntry where
  volume : ℚ
  amountKrw : ℚ
  fee : ℚ
  price : ℚ
  currentPrice : ℚ
  value : ℚ
  unrealizedPnl : ℚ

/-- The figures of the ENTRY event, at the position's price. -/
def expectedEntry (position : LivePosition) (entryEvent : PositionFillEvent) : ExpectedEntry :=
  let volume := entryEvent.appliedVolume
  let amountKrw := entryEvent.appliedAmountKrw
  let currentPrice := orNum position.currentPrice position.entryPrice
  let value := volume * currentPrice
  { volume := volume
    amountKrw := amountKrw
    fee := entryEvent.appliedFee
    price := if volume > 0 then amountKrw / volume else position.entryPrice
    currentPrice := currentPrice
    value := value
    unrealizedPnl := value - amountKrw }

def volumeTolerance : ℚ := 1 / 10 ^ 12

def amountTolerance : ℚ := 1 / 10 ^ 6

/-- The position differs from its ENTRY fill. -/
def LivePosition.differsFromEntry (position : LivePosition) (expected : ExpectedEntry) : Bool :=
  volumeTolerance < |position.entryVolume - expected.volume|
    || amountTolerance < |position.entryAmountKrw - expected.amountKrw|

def PositionFillEvent.applies (event : PositionFillEvent) : Bool :=
  event.appliedVolume != 0 || event.appliedAmountKrw != 0 || event.appliedFee != 0

def PositionSlot.differsFromEntry (slot : PositionSlot) (expected : ExpectedEntry) : Bool :=
  amountTolerance < |slot.allocatedKrw - expected.amountKrw|
    || amountTolerance < |slot.currentValueKrw - expected.value|
    || amountTolerance < |slot.unrealizedPnl - expected.unrealizedPnl|
    || amountTolerance < |slot.reservedKrw|

/-- There is no ledger row, or it applied another volume. -/
def ledgerDiffers (ledger : Option OrderApplication) (expected : ExpectedEntry) : Bool :=
  match ledger with
  | none => true
  | some ledger => volumeTolerance < |ledger.appliedVolume - expected.volume|

/-- One of `proposed_updates`. -/
inductive RepairUpdate where
  | livePosition (id : ℕ) (expected : ExpectedEntry)
  | positionFillEvent (id : ℕ)
  | positionSlot (id : ℕ) (expected : ExpectedEntry)
  | orderApplication (orderUuid : String) (positionId : ℕ) (expected : ExpectedEntry)
  | liveStrategySession (id : ℕ)

def proposedUpdates (db : Database) (positionId : ℕ) (orderUuid : String) (t : RepairTarget) :
    List RepairUpdate :=
  let expected := expectedEntry t.position t.entryEvent
  (if t.position.differsFromEntry expected then [.livePosition positionId expected] else [])
  ++ (t.scaleEvents.filter PositionFillEvent.applies).map (fun e => .positionFillEvent e.id)
  ++ (t.slot.toList.filter (fun s => s.differsFromEntry expected)).map
      (fun s => .positionSlot s.id expected)
  ++ (if ledgerDiffers (loadOrderApplicationLedger db orderUuid) expected then
      [.orderApplication orderUuid positionId expected] else [])
  ++ (t.duplicateSessions.filter (fun s => !textGiven s.currentOpenOrderUuid)).map
      (fun s => .liveStrategySession s.id)

/-! ## What is written -/

/-- One of `applied_updates`. -/
inductive RepairedRow where
  | livePosition (id : ℕ)
  | positionFillEvent (id : ℕ)
  | positionSlot (id : ℕ)
  | orderApplication (orderUuid : String)
  | liveStrategySession (id : ℕ)

/-- The position after its `UPDATE`. -/
def LivePosition.resetTo (position : LivePosition) (expected : ExpectedEntry) (now : UtcTime) :
    LivePosition :=
  { position with
    entryVolume := expected.volume
    entryAmountKrw := expected.amountKrw
    entryPrice := expected.price
    currentPrice := expected.currentPrice
    unrealizedPnl := expected.unrealizedPnl
    scaleInCount := 0
    lastScaleInAt := none
    updatedAt := now }

/-- `UPDATE live_positions`. -/
def resetPosition (db : Database) (positionId : ℕ) (expected : ExpectedEntry) (now : UtcTime) :
    Database :=
  { db with
    livePositions :=
      db.livePositions.modify positionId (fun p => p.resetTo expected now) (fun _ => rfl) }

def emptiedFill : PositionFillEventUpdates where
  source := "DUPLICATE_ORDER_UUID_ALREADY_APPLIED_REPAIRED"
  appliedVolume := 0
  appliedAmountKrw := 0
  appliedFee := 0

/-- The slot after its `UPDATE`. -/
def PositionSlot.resetTo (slot : PositionSlot) (expected : ExpectedEntry) (now : UtcTime) :
    PositionSlot :=
  { slot with
    allocatedKrw := expected.amountKrw
    reservedKrw := 0
    currentValueKrw := expected.value
    unrealizedPnl := expected.unrealizedPnl
    updatedAt := now }

/-- `UPDATE position_slots`. -/
def resetSlot (db : Database) (slotId : ℕ) (expected : ExpectedEntry) (now : UtcTime) : Database :=
  let slots := db.positionSlots.modify slotId (fun s => s.resetTo expected now) (fun _ => rfl)
  { db with positionSlots := slots }

/-- The ledger row of the `INSERT`. -/
def repairedApplication (positionId : ℕ) (orderUuid : String) (entryEvent : PositionFillEvent)
    (id : ℕ) : OrderApplication :=
  { id := id
    orderUuid := orderUuid
    positionId := positionId
    fillType := .entry
    appliedVolume := entryEvent.appliedVolume
    appliedAmountKrw := entryEvent.appliedAmountKrw
    appliedFee := entryEvent.appliedFee
    lastExchangeExecutedVolume := entryEvent.appliedVolume
    lastExchangeFilledAmountKrw := entryEvent.appliedAmountKrw
    lastExchangePaidFee := entryEvent.appliedFee
    source := "DUPLICATE_ORDER_UUID_REPAIR"
    orderLogId := entryEvent.orderLogId
    requestId := entryEvent.requestId }

/-- `INSERT INTO order_application_ledger … ON CONFLICT(order_uuid) DO UPDATE`: every column is
`excluded`. -/
def repairLedger (db : Database) (positionId : ℕ) (orderUuid : String)
    (entryEvent : PositionFillEvent) : Database :=
  let row := repairedApplication positionId orderUuid entryEvent
  { db with
    orderApplicationLedger := db.orderApplicationLedger.upsert OrderApplication.orderUuid row
      (fun _ => rfl) (fun l => { row l.id with orderUuid := l.orderUuid }) (fun _ => rfl)
    orderUuid_unique := db.orderUuid_unique.upsert row (fun _ => rfl)
      (f := fun l => { row l.id with orderUuid := l.orderUuid }) (fun _ => rfl) (fun _ => rfl) }

/-- What a session that lost its position is told. -/
def pointerClearedUpdates (now : UtcTime) : LiveStrategySessionUpdates :=
  { stopSessionUpdates "DUPLICATE_ORDER_UUID_REPAIR_SESSION_POINTER_CLEARED" "REPLACED" now with
    currentPositionId := some none
    currentOpenOrderUuid := some none }

/-- The sessions whose pointer is cleared: those without an open order. -/
def RepairTarget.clearedSessions (t : RepairTarget) : List LiveStrategySession :=
  t.duplicateSessions.filter (fun s => !textGiven s.currentOpenOrderUuid)

/-- The writes of the repair: all of them, whichever were proposed. -/
def applyRepair (db : Database) (positionId : ℕ) (orderUuid : String) (t : RepairTarget)
    (now : UtcTime) : Database :=
  let expected := expectedEntry t.position t.entryEvent
  let db := resetPosition db positionId expected now
  let db := t.scaleEvents.foldl (fun db e => updatePositionFillEvent db e.id emptiedFill) db
  let db := t.slot.elim db (fun s => resetSlot db s.id expected now)
  let db := repairLedger db positionId orderUuid t.entryEvent
  t.clearedSessions.foldl
    (fun db s => updateLiveStrategySession db s.id (pointerClearedUpdates now)) db

def appliedUpdates (positionId : ℕ) (orderUuid : String) (t : RepairTarget) : List RepairedRow :=
  [.livePosition positionId]
  ++ t.scaleEvents.map (fun e => .positionFillEvent e.id)
  ++ t.slot.toList.map (fun s => .positionSlot s.id)
  ++ [.orderApplication orderUuid]
  ++ t.clearedSessions.map (fun s => .liveStrategySession s.id)

/-- What the repair returns, the capital snapshot afterwards left out. -/
structure RepairResult where
  dryRun : Bool
  exchange : String
  market : String
  positionId : ℕ
  orderUuid : String
  target : RepairTarget
  exchangeBalance : ExchangeTotal
  dbOpenVolumeBefore : ℚ
  expected : ExpectedEntry
  proposedUpdates : List RepairUpdate
  applied : Bool := false
  appliedUpdates : List RepairedRow := []
  dbOpenVolumeAfter : Option ℚ := none

/-- `repair_duplicate_order_uuid_application`; `balances` is what `get_balances` answers. -/
def repairDuplicateOrderUuidApplication (db : Database) (positionId : ℕ) (orderUuid : String)
    (exchange : String) (dryRun : Bool) (balances : Except String Balances) (now : UtcTime) :
    Except String (RepairResult × Database) :=
  match targetState db positionId orderUuid with
  | .error reason => .error reason
  | .ok t =>
    match balances with
    | .error exc => .error exc
    | .ok balances =>
      let proposed := proposedUpdates db positionId orderUuid t
      let result : RepairResult :=
        { dryRun := dryRun
          exchange := exchange
          market := t.position.market
          positionId := positionId
          orderUuid := orderUuid
          target := t
          exchangeBalance := exchangeTotal t.position.market balances
          dbOpenVolumeBefore := internalVolume db exchange t.position.market
          expected := expectedEntry t.position t.entryEvent
          proposedUpdates := proposed }
      if dryRun ∨ proposed = [] then .ok (result, db)
      else
        let repaired := applyRepair db positionId orderUuid t now
        .ok
          ({ result with
              applied := true
              appliedUpdates := appliedUpdates positionId orderUuid t
              dbOpenVolumeAfter := some (internalVolume repaired exchange t.position.market) },
            repaired)

end AutoCoinBot
