/-
  LivePositionSync.Sync — the buy-fill sync as its sequence of
  committed writes.

  Every database helper commits on its own connection, so a sync is a list of
  writes and the process can stop between any two of them. The list is computed
  from the database the sync starts in: no write of a branch touches what a later
  line of the same branch reads, apart from the writes that read their own row
  (`attachLog`, `finalizeEntryLifecycle`), which do so when they are applied.
-/
import AutoCoinBot.Library.Run
import AutoCoinBot.Database.PositionFills
import AutoCoinBot.Database.PositionSlots
import AutoCoinBot.LivePositionSync.FilledOrder

namespace AutoCoinBot

open Library

/-! ## Committed writes -/

/-- The settings a sync reads, and its clock. -/
structure SyncEnv where
  now : UtcTime
  autoStopLossPercent : ℚ := 7 / 10
  autoTakeProfitPercent : ℚ := 1
  autoTrailingStopPercent : ℚ := 7 / 10

/-- One committed write of a sync. A created position or fill event receives
its key and its `created_at` when the write is applied. -/
inductive SyncWrite where
  | createLivePosition (position : LivePosition)
  | insertPositionFillEvent (event : PositionFillEvent)
  | updatePositionFillEvent (eventId : ℕ) (updates : PositionFillEventUpdates)
  | upsertOrderApplicationLedger (event : OrderApplication)
  | updateLivePosition (positionId : ℕ) (updates : LivePositionUpdates)
  | attachLog (requestId : String) (positionId : ℕ)
  | updateLiveStrategySession (sessionId : ℕ) (updates : LiveStrategySessionUpdates)
  | finalizeEntryLifecycle (positionId : ℕ)

def LivePosition.stored (p : LivePosition) (id : ℕ) (now : UtcTime) : LivePosition :=
  { p with id := id, createdAt := now, updatedAt := now }

def PositionFillEvent.stored (e : PositionFillEvent) (id : ℕ) (now : UtcTime) :
    PositionFillEvent :=
  { e with id := id, createdAt := now }

def SyncWrite.apply (now : UtcTime) (db : Database) : SyncWrite → Database
  | .createLivePosition p =>
    AutoCoinBot.createLivePosition db (fun k => p.stored k now) (fun _ => rfl)
  | .insertPositionFillEvent e =>
    (AutoCoinBot.insertPositionFillEvent db (fun k => e.stored k now) (fun _ => rfl)).1
  | .updatePositionFillEvent id u => AutoCoinBot.updatePositionFillEvent db id u
  | .upsertOrderApplicationLedger l => AutoCoinBot.upsertOrderApplicationLedger db l
  | .updateLivePosition id u => AutoCoinBot.updateLivePosition db id u now
  | .attachLog requestId positionId =>
    updateLiveOrderLog db requestId { positionId := some (some positionId) } now
  | .updateLiveStrategySession id u => AutoCoinBot.updateLiveStrategySession db id u
  | .finalizeEntryLifecycle id => finalizeEntryLifecycleForPosition db id now

def applyWrites (now : UtcTime) (db : Database) (ws : List SyncWrite) : Database :=
  run (SyncWrite.apply now) db ws

@[simp] theorem applyWrites_nil (now : UtcTime) (db : Database) :
    applyWrites now db [] = db := rfl

@[simp] theorem applyWrites_cons (now : UtcTime) (db : Database) (w : SyncWrite)
    (ws : List SyncWrite) :
    applyWrites now db (w :: ws) = applyWrites now (w.apply now db) ws := rfl

/-! ## Results -/

/-- The `status` of a sync's result. -/
inductive SyncStatus where
  | skipped (reason : SkipReason)
  | attached
  | merged
  | created

/-- The result dict, as far as its callers read it. -/
structure SyncResult where
  status : SyncStatus
  positionId : Option ℕ := none
  fillType : Option FillType := none

/-! ## Parts of a sync -/

/-- An id the code takes for present: not `None` and not zero. -/
def truthyId (id : Option ℕ) : Option ℕ := id.filter (fun i => i != 0)

theorem truthyId_some {id : ℕ} (h : id ≠ 0) : truthyId (some id) = some id := by
  simp [truthyId, Option.filter, h]

def resolveScaleInTarget (db : Database) (session : SyncSession) (canonical : Option LiveOrderLog)
    (preview : ScalePreview) : Option ℕ :=
  let positionId :=
    (truthyId preview.positionId).or (truthyId (canonical.bind LiveOrderLog.positionId))
  let named := (positionId.bind (loadLivePosition db)).filter (fun p => p.status == .opened)
  -- a scale-in whose named position is not open any more goes to the strategy's open one
  let fallback :=
    if preview.scaleIn then
      loadOpenLivePositionForStrategy db
        (orText session.exchange
          (orText (toText (canonical.map LiveOrderLog.exchange)) "bithumb"))
        (orText session.market (orText (toText (canonical.map LiveOrderLog.market)) "KRW-BTC"))
        (if session.candidateStrategyId = 0
          then ((canonical.bind LiveOrderLog.candidateStrategyId).getD 0)
          else session.candidateStrategyId)
    else none
  (named.or fallback).map LivePosition.id

/-- The application row a fill event stands for. -/
def PositionFillEvent.application (event : PositionFillEvent) (orderUuid : String) :
    OrderApplication :=
  { orderUuid := orderUuid
    positionId := event.positionId
    fillType := event.fillType
    appliedVolume := event.appliedVolume
    appliedAmountKrw := event.appliedAmountKrw
    appliedFee := event.appliedFee
    lastExchangeExecutedVolume := event.appliedVolume
    lastExchangeFilledAmountKrw := event.appliedAmountKrw
    lastExchangePaidFee := event.appliedFee
    source := event.source
    orderLogId := event.orderLogId
    requestId := event.requestId }

def ledgerFromFillEvents (db : Database) (orderUuid : String) : Option OrderApplication :=
  (loadPositionFillEventsByOrderUuid db orderUuid).head?.map
    (fun event => event.application orderUuid)

/-- `_attach_logs`: each request id once, empty ones not at all. -/
def attachLogs (logs : List LiveOrderLog) (positionId : ℕ) : List SyncWrite :=
  ((logs.map LiveOrderLog.requestId).filter (fun id => id != "")).eraseDups.map
    (fun requestId => .attachLog requestId positionId)

def recordLedger (orderUuid : String) (positionId : ℕ) (fillType : FillType) (source : String)
    (orderLog : Option LiveOrderLog) (volume amount fee : ℚ) : SyncWrite :=
  -- the cumulative figures, also where only a delta was applied
  .upsertOrderApplicationLedger
    { orderUuid := orderUuid
      positionId := positionId
      fillType := fillType
      appliedVolume := volume
      appliedAmountKrw := amount
      appliedFee := fee
      lastExchangeExecutedVolume := volume
      lastExchangeFilledAmountKrw := amount
      lastExchangePaidFee := fee
      source := source
      orderLogId := orderLog.map LiveOrderLog.id
      requestId := orderLog.map LiveOrderLog.requestId }

def fillEvent (orderUuid : String) (positionId : ℕ) (fillType : FillType) (source : String)
    (orderLog : Option LiveOrderLog) (volume amount fee : ℚ) (appliedAt : UtcTime) : SyncWrite :=
  .insertPositionFillEvent
    { id := 0
      orderUuid := orderUuid
      positionId := positionId
      fillType := fillType
      source := source
      orderLogId := orderLog.map LiveOrderLog.id
      requestId := orderLog.map LiveOrderLog.requestId
      appliedVolume := volume
      appliedAmountKrw := amount
      appliedFee := fee
      appliedAt := appliedAt }

def pointSession (session : SyncSession) (positionId : ℕ) (lastRiskResult : String) : SyncWrite :=
  .updateLiveStrategySession session.id
    { currentOpenOrderUuid := some none
      currentPositionId := some (some positionId)
      lastOrderStatus := some "FILLED"
      lastRiskResult := some lastRiskResult }

def newPositionPayload (env : SyncEnv) (session : SyncSession) (orderLog : Option LiveOrderLog)
    (orderUuid : String) (price volume amount : ℚ) : LivePosition :=
  let stopLossPercent := orNum (toFloat session.stopLossPercent) env.autoStopLossPercent
  let takeProfitPercent := orNum (toFloat session.takeProfitPercent) env.autoTakeProfitPercent
  let trailingStopPct := env.autoTrailingStopPercent
  { id := 0
    sessionId := session.id
    exchange := session.exchange
    market := session.market
    candidateStrategyId := session.candidateStrategyId
    status := .opened
    entryOrderUuid := some orderUuid
    entryPrice := price
    entryVolume := volume
    entryAmountKrw := amount
    currentPrice := price
    unrealizedPnl := 0
    realizedPnl := 0
    stopLossPrice := if price > 0 then price * (1 - stopLossPercent / 100) else 0
    takeProfitPrice := if price > 0 then price * (1 + takeProfitPercent / 100) else 0
    highestPriceSinceEntry := some price
    trailingStopPrice :=
      some (if price > 0 ∧ trailingStopPct > 0 then price * (1 - trailingStopPct / 100) else 0)
    trailingStopPct := some trailingStopPct
    lastTrailingUpdateAt := some env.now
    openedAt := some ((orderLog.map LiveOrderLog.updatedAt).getD env.now) }

/-- Volume increases up to this size are taken for repetitions. -/
def deltaTolerance : ℚ := 1 / 1000000000000

theorem deltaTolerance_pos : 0 < deltaTolerance := by
  unfold deltaTolerance
  norm_num

/-- What a ledger row says about the exchange's last figures. -/
def OrderApplication.previousVolume (l : OrderApplication) : ℚ :=
  orNum l.lastExchangeExecutedVolume l.appliedVolume

/-- What a ledger row says about the exchange's last figures. -/
def OrderApplication.previousAmount (l : OrderApplication) : ℚ :=
  orNum l.lastExchangeFilledAmountKrw l.appliedAmountKrw

/-- What a ledger row says about the exchange's last figures. -/
def OrderApplication.previousFee (l : OrderApplication) : ℚ :=
  orNum l.lastExchangePaidFee l.appliedFee

/-- `finalize_entry_lifecycle_for_position` where the fill is an entry. -/
def finalizeIfEntry (fillType : FillType) (positionId : ℕ) : List SyncWrite :=
  if fillType = .entry then [.finalizeEntryLifecycle positionId] else []

/-! ## The branches -/

/-- The position row after `delta` more volume and amount. -/
def deltaPositionUpdates (position : LivePosition) (f : FilledOrder) (deltaVolume deltaAmount : ℚ) :
    LivePositionUpdates :=
  let newVolume := position.entryVolume + deltaVolume
  let newAmount := position.entryAmountKrw + deltaAmount
  let price :=
    if f.volume > 0 then f.amount / f.volume else orNum position.currentPrice position.entryPrice
  { status := some .opened
    entryPrice := some (if newVolume > 0 then newAmount / newVolume else price)
    entryVolume := some newVolume
    entryAmountKrw := some newAmount
    currentPrice := some price
    unrealizedPnl := some (price * newVolume - newAmount) }

/-- The volume the exchange reports beyond what the ledger row has seen. -/
def deltaVolume (ledger : OrderApplication) (f : FilledOrder) : ℚ :=
  max (f.volume - ledger.previousVolume) 0

theorem deltaTolerance_lt_deltaVolume_iff {ledger : OrderApplication} {f : FilledOrder} :
    deltaTolerance < deltaVolume ledger f ↔ deltaTolerance < f.volume - ledger.previousVolume := by
  unfold deltaVolume
  rw [lt_max_iff, or_iff_left (not_lt.mpr deltaTolerance_pos.le)]

theorem deltaVolume_of_rises {ledger : OrderApplication} {f : FilledOrder}
    (h : deltaTolerance < deltaVolume ledger f) :
    deltaVolume ledger f = f.volume - ledger.previousVolume := by
  have hrise := deltaTolerance_pos.trans (deltaTolerance_lt_deltaVolume_iff.mp h)
  exact max_eq_left hrise.le

/-- The amount the exchange reports beyond what the ledger row has seen. -/
def deltaAmount (ledger : OrderApplication) (f : FilledOrder) : ℚ :=
  max (f.amount - ledger.previousAmount) 0

/-- The fee the exchange reports beyond what the ledger row has seen. -/
def deltaFee (ledger : OrderApplication) (f : FilledOrder) : ℚ :=
  max (f.fee - ledger.previousFee) 0

/-- The writes of `_apply_order_uuid_delta` that record the delta: the position, the
fill event if there is one, the ledger. -/
def deltaRecords (db : Database) (ledger : OrderApplication) (position : LivePosition)
    (f : FilledOrder) (source : String) : List SyncWrite :=
  .updateLivePosition ledger.positionId
      (deltaPositionUpdates position f (deltaVolume ledger f) (deltaAmount ledger f))
    :: (loadPositionFillEvent db f.orderUuid ledger.fillType).toList.map (fun event =>
          .updatePositionFillEvent event.id
            { source := source
              appliedVolume := event.appliedVolume + deltaVolume ledger f
              appliedAmountKrw := event.appliedAmountKrw + deltaAmount ledger f
              appliedFee := event.appliedFee + deltaFee ledger f })
    ++ [recordLedger f.orderUuid ledger.positionId ledger.fillType source f.canonicalLog
          f.volume f.amount f.fee]

def applyOrderUuidDelta (db : Database) (ledger : OrderApplication) (f : FilledOrder)
    (source : String) (session : SyncSession) : List SyncWrite × SyncResult :=
  match loadLivePosition db ledger.positionId with
  | none =>
    ([], { status := .skipped .ledgerPositionMissing, positionId := some ledger.positionId })
  | some position =>
    -- an amount or a fee that rises alone is taken for a repetition as well
    if deltaVolume ledger f ≤ deltaTolerance then
      (attachLogs f.logs ledger.positionId
        ++ [pointSession session ledger.positionId "DUPLICATE_ORDER_UUID_ALREADY_APPLIED"]
        ++ finalizeIfEntry ledger.fillType ledger.positionId,
        { status := .attached, positionId := some ledger.positionId
          fillType := some ledger.fillType })
    else
      (attachLogs f.logs ledger.positionId ++ deltaRecords db ledger position f source
        ++ [pointSession session ledger.positionId "ORDER_UUID_DELTA_APPLIED"]
        ++ finalizeIfEntry ledger.fillType ledger.positionId,
        { status := .merged, positionId := some ledger.positionId
          fillType := some ledger.fillType })

def scaleInPositionUpdates (env : SyncEnv) (position : LivePosition) (f : FilledOrder) :
    LivePositionUpdates :=
  let newVolume := position.entryVolume + f.volume
  let newAmount := position.entryAmountKrw + f.amount
  { status := some .opened
    entryPrice := some (if newVolume > 0 then newAmount / newVolume else f.price)
    entryVolume := some newVolume
    entryAmountKrw := some newAmount
    currentPrice := some f.price
    unrealizedPnl := some (f.price * newVolume - newAmount)
    scaleInCount := some (position.scaleInCount + 1)
    lastScaleInAt := some env.now }

def FilledOrder.appliedAt (f : FilledOrder) (env : SyncEnv) : UtcTime :=
  (f.canonicalLog.map LiveOrderLog.updatedAt).getD env.now

/-- The scale-in branch. Its insert finds no row under the key, so the retry on a refused insert
is left out. -/
def applyScaleIn (env : SyncEnv) (db : Database) (targetId : ℕ) (f : FilledOrder)
    (source : String) (session : SyncSession) : List SyncWrite × SyncResult :=
  match (loadLivePosition db targetId).filter (fun p => p.status == .opened) with
  | none => ([], { status := .skipped .scaleTargetNotOpen })
  | some position =>
    ([fillEvent f.orderUuid targetId .scaleIn source f.canonicalLog f.volume f.amount f.fee
        (f.appliedAt env),
      recordLedger f.orderUuid targetId .scaleIn source f.canonicalLog f.volume f.amount f.fee,
      .updateLivePosition targetId (scaleInPositionUpdates env position f)]
      ++ attachLogs f.logs targetId
      ++ [pointSession session targetId "SCALE_IN_POSITION_SYNCED"],
      { status := .merged, positionId := some targetId, fillType := some .scaleIn })

/-- The branch that adopts an active position already carrying the uuid. -/
def adoptExisting (env : SyncEnv) (db : Database) (existing : LivePosition) (f : FilledOrder)
    (source : String) (session : SyncSession) : List SyncWrite × SyncResult :=
  let insert :=
    if (loadPositionFillEvent db f.orderUuid .entry).isNone then
      [fillEvent f.orderUuid existing.id .entry (source ++ "_ADOPT_EXISTING") f.canonicalLog
        existing.entryVolume existing.entryAmountKrw f.fee (existing.openedAt.getD env.now)]
    else []
  (attachLogs f.logs existing.id ++ insert
    ++ [recordLedger f.orderUuid existing.id .entry (source ++ "_ADOPT_EXISTING") f.canonicalLog
          existing.entryVolume existing.entryAmountKrw f.fee,
        pointSession session existing.id "POSITION_OPEN_SYNCED",
        .finalizeEntryLifecycle existing.id],
    { status := .attached, positionId := some existing.id, fillType := some .entry })

def createPosition (env : SyncEnv) (db : Database) (f : FilledOrder) (source : String)
    (session : SyncSession) : List SyncWrite × SyncResult :=
  -- the key the insert is going to assign
  let positionId := db.livePositions.nextId
  ([.createLivePosition (newPositionPayload env session f.canonicalLog f.orderUuid f.price
      f.volume f.amount),
    fillEvent f.orderUuid positionId .entry source f.canonicalLog f.volume f.amount f.fee
      (f.appliedAt env),
    recordLedger f.orderUuid positionId .entry source f.canonicalLog f.volume f.amount f.fee]
    ++ attachLogs f.logs positionId
    ++ [pointSession session positionId "POSITION_OPEN_SYNCED",
        .finalizeEntryLifecycle positionId],
    { status := .created, positionId := some positionId, fillType := some .entry })

/-- The branch for a fill event without a ledger row. -/
def attachExistingEvent (event : PositionFillEvent) (fillType : FillType) (f : FilledOrder)
    (session : SyncSession) : List SyncWrite × SyncResult :=
  (attachLogs f.logs event.positionId
    ++ [pointSession session event.positionId "POSITION_FILL_ALREADY_SYNCED"]
    ++ finalizeIfEntry fillType event.positionId,
    { status := .attached, positionId := some event.positionId, fillType := some fillType })

/-! ## The sync -/

/-- The application row of an order: the ledger's, else one rebuilt from events. -/
def applicationOf (db : Database) (orderUuid : String) : Option OrderApplication :=
  (loadOrderApplicationLedger db orderUuid).or (ledgerFromFillEvents db orderUuid)

/-- The lines of `sync_filled_entry_order_to_position` after the guards. -/
def syncFilledOrder (env : SyncEnv) (db : Database) (f : FilledOrder) (source : String)
    (session : SyncSession) : List SyncWrite × SyncResult :=
  let target := resolveScaleInTarget db session f.canonicalLog (scalePreview f.canonicalLog)
  let fillType : FillType := if target.isSome then .scaleIn else .entry
  match applicationOf db f.orderUuid with
  -- an order seen before never reaches the branches below
  | some ledger => applyOrderUuidDelta db ledger f source session
  | none =>
    match loadPositionFillEvent db f.orderUuid fillType with
    | some event => attachExistingEvent event fillType f session
    | none =>
      match target with
      | some targetId => applyScaleIn env db targetId f source session
      | none =>
        match loadLivePositionByEntryOrderUuid db session.exchange session.market
          f.orderUuid with
        | some existing => adoptExisting env db existing f source session
        | none => createPosition env db f source session

/-- The arguments of one call. -/
structure SyncCall where
  orderLog : Option LiveOrderLog
  rawOrder : RawOrder := {}
  source : String
  session : SyncSession

/-- The writes and the result of `sync_filled_entry_order_to_position`. -/
def syncPlan (env : SyncEnv) (db : Database) (c : SyncCall) : List SyncWrite × SyncResult :=
  match filledOrder db c.orderLog c.rawOrder c.session with
  | .error reason => ([], { status := .skipped reason })
  | .ok f => syncFilledOrder env db f c.source c.session

/-- `sync_filled_entry_order_to_position`, run to completion. -/
def syncFilledEntryOrderToPosition (env : SyncEnv) (db : Database) (c : SyncCall) :
    Database × SyncResult :=
  let (writes, result) := syncPlan env db c
  (applyWrites env.now db writes, result)

/-- The database when the process stops after `k` writes. -/
def syncCrashedAfter (env : SyncEnv) (db : Database) (c : SyncCall) (k : ℕ) : Database :=
  applyWrites env.now db ((syncPlan env db c).1.take k)

end AutoCoinBot
