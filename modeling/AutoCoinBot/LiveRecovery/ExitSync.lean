/-
  LiveRecovery.ExitSync — exit fills applied to positions.

  An exit order's cumulative figures arrive again and again; the sync applies
  the difference to the figures the caller says were there before. One order
  may close several positions of a market at once: its preview then names them,
  and a fill is handed out over them in list order.
-/
import AutoCoinBot.LivePositionSync.Sync
import AutoCoinBot.LiveRecovery.OrderOnExchange

namespace AutoCoinBot

open Library

/-! ## What the sync is called with -/

/-- `BALANCE_MISMATCH_VOLUME_TOLERANCE`: what is left counts as nothing. -/
def balanceMismatchVolumeTolerance : ℚ := 1 / 1000000

theorem balanceMismatchVolumeTolerance_pos : 0 < balanceMismatchVolumeTolerance := by
  unfold balanceMismatchVolumeTolerance
  norm_num

/-- The `log` dict of `sync_exit_order_position`; the `_previous_…` keys are only
there when the caller put them there. -/
structure ExitOrderLog extends LiveOrderLog where
  previousExecutedVolume : Option ℚ := none
  previousFilledAmountKrw : Option ℚ := none
  previousPaidFee : Option ℚ := none

/-- `_aggregate_exit_position_ids`: the distinct ids, if there are at least two. -/
def aggregateExitPositionIds (log : LiveOrderLog) : List ℕ :=
  let result := (log.orderPreviewPayload.aggregateExitPositionIds.filterMap id).eraseDups
  if result.length > 1 then result else []

theorem nodup_eraseDups {α : Type*} [BEq α] [LawfulBEq α] : (l : List α) → l.eraseDups.Nodup
  | [] => by simp
  | a :: l => by
    rw [List.eraseDups_cons, List.nodup_cons]
    refine ⟨?_, nodup_eraseDups _⟩
    rw [List.mem_eraseDups]
    simp
  termination_by l => l.length
  decreasing_by exact Nat.lt_succ_of_le (List.length_filter_le _ _)

theorem aggregateExitPositionIds_nodup (log : LiveOrderLog) :
    (aggregateExitPositionIds log).Nodup := by
  unfold aggregateExitPositionIds
  simp only
  split
  · exact nodup_eraseDups _
  · exact List.nodup_nil

/-- `_position_for_exit_order`: by id, else by the exit uuid of an active row. -/
def positionForExitOrder (db : Database) (log : LiveOrderLog) : Option LivePosition :=
  match (truthyId log.positionId).bind (loadLivePosition db) with
  | some position => some position
  | none =>
    let orderUuid := toText log.orderUuid
    if orderUuid = "" then none
    else (loadOpenLivePositions db (orText log.exchange "bithumb")
      (orText log.market "KRW-BTC")).find? (fun p => toText p.exitOrderUuid == orderUuid)

/-- A partial fill that the exchange has not canceled yet. -/
def ReconciledOrderStatus.stillWaiting (status : ReconciledOrderStatus) : Bool :=
  status.status == .partiallyFilled && !canceledStates.contains status.raw.rawState

def repairClosedPositionSessionPointer (db : Database) (position : LivePosition) : Database :=
  if position.sessionId = 0 then db
  else
    let openPositions := loadOpenLivePositions db (orText position.exchange "bithumb")
      (orText position.market "KRW-BTC")
    let replacement := openPositions.find? (fun row => row.sessionId == position.sessionId)
    updateLiveStrategySession db position.sessionId
      { currentPositionId := some (replacement.map LivePosition.id)
        currentOpenOrderUuid := some none
        lastRiskResult := some "CLOSED_POSITION_POINTER_REPAIRED" }

/-! ## One position -/

/-- A piece of a fill that falls to one position. -/
structure ExitFill where
  volume : ℚ
  amountKrw : ℚ
  fee : ℚ

def entryBasis (position : LivePosition) (fillVolume : ℚ) : ℚ :=
  if position.entryVolume > 0 then
    position.entryAmountKrw * min (fillVolume / position.entryVolume) 1
  else position.entryPrice * fillVolume

def exitPnl (position : LivePosition) (fill : ExitFill) : ℚ :=
  fill.amountKrw - entryBasis position fill.volume - fill.fee

def remainingAfter (position : LivePosition) (fillVolume : ℚ) : ℚ :=
  max (position.entryVolume - fillVolume) 0

/-- The updates of a row whose rest is within the tolerance: the volume stays. -/
def closeUpdates (position : LivePosition) (fill : ExitFill) (now : UtcTime) :
    LivePositionUpdates :=
  { status := some .closed
    realizedPnl := some (position.realizedPnl + exitPnl position fill)
    closedAt := some now
    exitOrderUuid := some none }

def reduceUpdates (position : LivePosition) (fill : ExitFill) (orderUuid : Option String)
    (stillWaiting : Bool) : LivePositionUpdates :=
  { status := some (if stillWaiting then .closing else .opened)
    entryVolume := some (remainingAfter position fill.volume)
    entryAmountKrw := some (max (position.entryAmountKrw - entryBasis position fill.volume) 0)
    currentPrice := some
      (if fill.volume > 0 then fill.amountKrw / fill.volume else position.currentPrice)
    realizedPnl := some (position.realizedPnl + exitPnl position fill)
    exitOrderUuid := some (if stillWaiting then orderUuid else none) }

/-- The writes both sync loops make for one position and its piece of a fill. -/
def applyExitFill (db : Database) (position : LivePosition) (fill : ExitFill)
    (orderUuid : Option String) (stillWaiting : Bool) (now : UtcTime) : Database :=
  if remainingAfter position fill.volume ≤ balanceMismatchVolumeTolerance then
    repairClosedPositionSessionPointer
      (updateLivePosition db position.id (closeUpdates position fill now) now) position
  else
    updateLivePosition db position.id (reduceUpdates position fill orderUuid stillWaiting) now

/-! ## Several positions -/

/-- The variables of the aggregate loop. `pieces` is not in the source: it notes
which volume the loop took from which position. -/
structure AggregateExit where
  db : Database
  remainingFill : ℚ
  totalActualPnl : ℚ := 0
  pieces : List (ℕ × ℚ) := []

/-- The share of the whole fill that goes with `appliedVolume`. -/
def ExitFill.piece (fill : ExitFill) (appliedVolume : ℚ) : ExitFill :=
  ⟨appliedVolume, fill.amountKrw * (appliedVolume / fill.volume),
    fill.fee * (appliedVolume / fill.volume)⟩

/-- One round of the loop of `_sync_aggregate_exit_order_positions`. -/
def syncAggregateExitPosition (fill : ExitFill) (orderUuid : Option String)
    (stillWaiting : Bool) (now : UtcTime) (s : AggregateExit) (positionId : ℕ) : AggregateExit :=
  match loadLivePosition s.db positionId with
  | none => s
  | some position =>
    -- sold out by an earlier fill
    if position.entryVolume ≤ 0 then s
    else
      let appliedVolume := min position.entryVolume s.remainingFill
      -- the fill is used up: what is left of the loop waits with the order
      if appliedVolume ≤ 0 then
        if stillWaiting then
          let updates : LivePositionUpdates :=
            { status := some .closing, exitOrderUuid := some orderUuid }
          { s with db := updateLivePosition s.db positionId updates now }
        else s
      else
        { db := applyExitFill s.db position (fill.piece appliedVolume) orderUuid stillWaiting now
          remainingFill := max (s.remainingFill - appliedVolume) 0
          totalActualPnl := s.totalActualPnl + exitPnl position (fill.piece appliedVolume)
          pieces := s.pieces ++ [(positionId, appliedVolume)] }

/-- The loop of `_sync_aggregate_exit_order_positions`. -/
def aggregateExitLoop (db : Database) (log : ExitOrderLog) (status : ReconciledOrderStatus)
    (positionIds : List ℕ) (fill : ExitFill) (now : UtcTime) : AggregateExit :=
  positionIds.foldl (syncAggregateExitPosition fill log.orderUuid status.stillWaiting now)
    { db := db, remainingFill := fill.volume }

def syncAggregateExitOrderPositions (db : Database) (log : ExitOrderLog)
    (status : ReconciledOrderStatus) (positionIds : List ℕ) (fill : ExitFill) (now : UtcTime) :
    Database :=
  if fill.volume ≤ 0 then db
  else
    let s := aggregateExitLoop db log status positionIds fill now
    updateLiveOrderLog s.db log.requestId { actualPnl := some (some s.totalActualPnl) } now

/-! ## The sync -/

def reopenUpdates : LivePositionUpdates :=
  { status := some .opened, exitOrderUuid := some none }

/-- The figures of `status` less the ones the caller says were there before. -/
def exitFillDelta (log : ExitOrderLog) (status : ReconciledOrderStatus) : ExitFill :=
  ⟨max (status.executedVolume - toFloat log.previousExecutedVolume) 0,
    max (status.filledAmountKrw - toFloat log.previousFilledAmountKrw) 0,
    max (status.paidFee - toFloat log.previousPaidFee) 0⟩

def syncExitOrderPosition (db : Database) (log : ExitOrderLog) (status : ReconciledOrderStatus)
    (now : UtcTime) : Database :=
  match positionForExitOrder db log.toLiveOrderLog with
  | none => db
  | some position =>
    let fill := exitFillDelta log status
    let aggregateIds := aggregateExitPositionIds log.toLiveOrderLog
    if aggregateIds ≠ [] ∧ status.status.isFill = true then
      syncAggregateExitOrderPositions db log status aggregateIds fill now
    else if aggregateIds ≠ [] ∧ status.status = .canceled then
      aggregateIds.foldl (fun db positionId =>
        updateLivePosition db positionId reopenUpdates now) db
    else if status.status.isFill = true then
      if fill.volume ≤ 0 then db
      else
        let db := updateLiveOrderLog db log.requestId
          { actualPnl := some (some (exitPnl position fill)) } now
        applyExitFill db position fill log.orderUuid status.stillWaiting now
    else if status.status = .canceled then
      updateLivePosition db position.id reopenUpdates now
    else db

/-- The pieces a sync of an aggregate order takes from its positions. -/
def aggregateExitPieces (db : Database) (log : ExitOrderLog) (status : ReconciledOrderStatus)
    (now : UtcTime) : List (ℕ × ℚ) :=
  let fill := exitFillDelta log status
  let aggregateIds := aggregateExitPositionIds log.toLiveOrderLog
  if (positionForExitOrder db log.toLiveOrderLog).isSome ∧ status.status.isFill = true
      ∧ 0 < fill.volume then
    (aggregateExitLoop db log status aggregateIds fill now).pieces
  else []

/-! ## What one position sees -/

section OnePosition

/-- The updates `applyExitFill` makes, closing or reducing. -/
def exitUpdates (position : LivePosition) (fill : ExitFill) (orderUuid : Option String)
    (stillWaiting : Bool) (now : UtcTime) : LivePositionUpdates :=
  if remainingAfter position fill.volume ≤ balanceMismatchVolumeTolerance then
    closeUpdates position fill now
  else reduceUpdates position fill orderUuid stillWaiting

variable (db : Database) (position : LivePosition) (fill : ExitFill)
  (orderUuid : Option String) (stillWaiting : Bool) (now : UtcTime)

@[simp] theorem repairClosedPositionSessionPointer_livePositions :
    (repairClosedPositionSessionPointer db position).livePositions = db.livePositions := by
  unfold repairClosedPositionSessionPointer; split <;> rfl

@[simp] theorem repairClosedPositionSessionPointer_liveOrderLogs :
    (repairClosedPositionSessionPointer db position).liveOrderLogs = db.liveOrderLogs := by
  unfold repairClosedPositionSessionPointer; split <;> rfl

theorem applyExitFill_livePositions :
    (applyExitFill db position fill orderUuid stillWaiting now).livePositions
      = (updateLivePosition db position.id
          (exitUpdates position fill orderUuid stillWaiting now) now).livePositions := by
  unfold applyExitFill exitUpdates
  split
  · exact repairClosedPositionSessionPointer_livePositions _ _
  · rfl

@[simp] theorem applyExitFill_liveOrderLogs :
    (applyExitFill db position fill orderUuid stillWaiting now).liveOrderLogs
      = db.liveOrderLogs := by
  unfold applyExitFill
  split
  · exact repairClosedPositionSessionPointer_liveOrderLogs _ _
  · rfl

theorem loadLivePosition_applyExitFill (j : ℕ) :
    loadLivePosition (applyExitFill db position fill orderUuid stillWaiting now) j
      = (loadLivePosition db j).map (fun q =>
          if j = position.id
            then q.merge (exitUpdates position fill orderUuid stillWaiting now) now else q) := by
  rw [loadLivePosition_congr (applyExitFill_livePositions db position fill orderUuid
    stillWaiting now), loadLivePosition_update]

end OnePosition

section Order

variable {db : Database} {log : ExitOrderLog} {status : ReconciledOrderStatus} {now : UtcTime}
  {position : LivePosition}

theorem positionForExitOrder_of_positionId {pid : ℕ}
    (hlog : log.positionId = some pid) (hload : loadLivePosition db pid = some position) :
    positionForExitOrder db log.toLiveOrderLog = some position := by
  have hpos : pid ≠ 0 := Nat.pos_iff_ne_zero.mp (Table.get?_pos hload)
  unfold positionForExitOrder
  rw [hlog, truthyId_some hpos, Option.bind_some, hload]

theorem syncExitOrderPosition_fill
    (hposition : positionForExitOrder db log.toLiveOrderLog = some position)
    (hids : aggregateExitPositionIds log.toLiveOrderLog = [])
    (hfill : status.status.isFill = true) (hvolume : 0 < (exitFillDelta log status).volume) :
    syncExitOrderPosition db log status now
      = applyExitFill
          (updateLiveOrderLog db log.requestId
            { actualPnl := some (some (exitPnl position (exitFillDelta log status))) } now)
          position (exitFillDelta log status) log.orderUuid status.stillWaiting now := by
  unfold syncExitOrderPosition
  rw [hposition]
  simp only [hids, ne_eq, not_true_eq_false, false_and, if_false, hfill, if_true,
    if_neg (not_le.mpr hvolume)]

theorem syncExitOrderPosition_idle
    (hids : aggregateExitPositionIds log.toLiveOrderLog = [])
    (hfill : status.status.isFill = true) (hvolume : (exitFillDelta log status).volume ≤ 0) :
    syncExitOrderPosition db log status now = db := by
  unfold syncExitOrderPosition
  split
  · rfl
  · simp only [hids, ne_eq, not_true_eq_false, false_and, if_false, hfill, if_true,
      if_pos hvolume]

theorem syncExitOrderPosition_waiting (hwaiting : status.status = .waiting) :
    syncExitOrderPosition db log status now = db := by
  unfold syncExitOrderPosition
  split
  · rfl
  · simp [hwaiting, OrderStatus.isFill]

theorem syncExitOrderPosition_untouched (hfill : status.status.isFill = false)
    (hcanceled : status.status ≠ .canceled) : syncExitOrderPosition db log status now = db := by
  unfold syncExitOrderPosition
  split
  · rfl
  · simp [hfill, hcanceled]

theorem syncExitOrderPosition_noFill
    (hposition : positionForExitOrder db log.toLiveOrderLog = some position)
    (hids : aggregateExitPositionIds log.toLiveOrderLog = [])
    (hfill : status.status.isFill = false) :
    syncExitOrderPosition db log status now
      = if status.status = .canceled then updateLivePosition db position.id reopenUpdates now
        else db := by
  unfold syncExitOrderPosition
  rw [hposition]
  simp only [hids, ne_eq, not_true_eq_false, false_and, if_false, hfill, Bool.false_eq_true]

theorem syncExitOrderPosition_aggregate
    (hposition : positionForExitOrder db log.toLiveOrderLog = some position)
    (hids : aggregateExitPositionIds log.toLiveOrderLog ≠ []) :
    syncExitOrderPosition db log status now
      = if status.status.isFill = true then
          syncAggregateExitOrderPositions db log status
            (aggregateExitPositionIds log.toLiveOrderLog) (exitFillDelta log status) now
        else if status.status = .canceled then
          (aggregateExitPositionIds log.toLiveOrderLog).foldl
            (fun db positionId => updateLivePosition db positionId reopenUpdates now) db
        else db := by
  unfold syncExitOrderPosition
  rw [hposition]
  simp only [hids, ne_eq, not_false_eq_true, true_and]
  split_ifs <;> rfl

/-- **What a sync for one position leaves in that position.** -/
theorem loadLivePosition_syncExitOrderPosition {pid : ℕ}
    (hlog : log.positionId = some pid) (hload : loadLivePosition db pid = some position)
    (hids : aggregateExitPositionIds log.toLiveOrderLog = []) :
    loadLivePosition (syncExitOrderPosition db log status now) pid
      = some (if status.status.isFill = true ∧ 0 < (exitFillDelta log status).volume then
            position.merge (exitUpdates position (exitFillDelta log status) log.orderUuid
              status.stillWaiting now) now
          else if status.status = .canceled then position.merge reopenUpdates now
          else position) := by
  have hposition := positionForExitOrder_of_positionId hlog hload
  have hid : position.id = pid := loadLivePosition_id db pid hload
  by_cases hfill : status.status.isFill = true
  -- a fill is no cancel, so at most one of the branches applies
  · have hnc : status.status ≠ .canceled := by
      intro hc
      rw [hc] at hfill
      exact absurd hfill (by decide)
    by_cases hvolume : 0 < (exitFillDelta log status).volume
    · rw [syncExitOrderPosition_fill hposition hids hfill hvolume,
        loadLivePosition_applyExitFill, if_pos ⟨hfill, hvolume⟩,
        loadLivePosition_congr (updateLiveOrderLog_livePositions _ _ _ _), hload]
      simp [hid]
    · rw [syncExitOrderPosition_idle hids hfill (not_lt.mp hvolume),
        if_neg (fun h => hvolume h.2), if_neg hnc, hload]
  · have hnot : ¬ (status.status.isFill = true ∧ 0 < (exitFillDelta log status).volume) :=
      fun h => hfill h.1
    rw [syncExitOrderPosition_noFill hposition hids (by simpa using hfill), if_neg hnot]
    by_cases hcanceled : status.status = .canceled
    · rw [if_pos hcanceled, if_pos hcanceled, hid, loadLivePosition_update_self, hload]
      rfl
    · rw [if_neg hcanceled, if_neg hcanceled, hload]

end Order

/-! ## What the order logs see -/

section Logs

variable (db : Database) (log : ExitOrderLog) (status : ReconciledOrderStatus) (now : UtcTime)

theorem syncAggregateExitPosition_liveOrderLogs (fill : ExitFill) (orderUuid : Option String)
    (stillWaiting : Bool) (s : AggregateExit) (positionId : ℕ) :
    (syncAggregateExitPosition fill orderUuid stillWaiting now s positionId).db.liveOrderLogs
      = s.db.liveOrderLogs := by
  unfold syncAggregateExitPosition
  split
  · rfl
  · simp only
    split_ifs
    · rfl
    · rfl
    · rfl
    · exact applyExitFill_liveOrderLogs _ _ _ _ _ _

theorem aggregateExitLoop_liveOrderLogs (positionIds : List ℕ) (fill : ExitFill) :
    (aggregateExitLoop db log status positionIds fill now).db.liveOrderLogs
      = db.liveOrderLogs := by
  have hloop : ∀ s : AggregateExit, (positionIds.foldl
      (syncAggregateExitPosition fill log.orderUuid status.stillWaiting now) s).db.liveOrderLogs
        = s.db.liveOrderLogs := by
    intro s
    induction positionIds generalizing s with
    | nil => rfl
    | cons i ids ih =>
      rw [List.foldl_cons, ih, syncAggregateExitPosition_liveOrderLogs]
  exact hloop _

theorem loadLivePosition_foldl_update (positionIds : List ℕ) (u : LivePositionUpdates) (j : ℕ) :
    loadLivePosition (positionIds.foldl
        (fun db positionId => updateLivePosition db positionId u now) db) j
      = (loadLivePosition db j).map (fun p => if j ∈ positionIds then p.merge u now else p) := by
  induction positionIds generalizing db with
  | nil => simp
  | cons i ids ih =>
    rw [List.foldl_cons, ih, loadLivePosition_update, Option.map_map]
    congr 1
    funext p
    -- a row that is listed twice is written twice, to the same effect
    by_cases hi : j = i
    · by_cases hj : j ∈ ids
      · simp [hi, hi ▸ hj, LivePosition.merge_merge]
      · simp [hi, hi ▸ hj]
    · simp [hi]

theorem foldl_updateLivePosition_liveOrderLogs (positionIds : List ℕ) (u : LivePositionUpdates) :
    (positionIds.foldl (fun db positionId => updateLivePosition db positionId u now)
      db).liveOrderLogs = db.liveOrderLogs := by
  induction positionIds generalizing db with
  | nil => rfl
  | cons i ids ih => rw [List.foldl_cons, ih]; rfl

/-- **The sync writes the order log's `actual_pnl` at most.** -/
theorem syncExitOrderPosition_liveOrderLogs :
    (syncExitOrderPosition db log status now).liveOrderLogs = db.liveOrderLogs
      ∨ ∃ pnl, (syncExitOrderPosition db log status now).liveOrderLogs
          = (updateLiveOrderLog db log.requestId { actualPnl := some pnl } now).liveOrderLogs := by
  unfold syncExitOrderPosition
  split
  · exact .inl rfl
  · simp only
    split_ifs
    · -- an aggregate fill
      unfold syncAggregateExitOrderPositions
      split_ifs
      · exact .inl rfl
      · exact .inr ⟨_, updateLiveOrderLog_congr
          (aggregateExitLoop_liveOrderLogs db log status now _ _) _ _ _⟩
    · exact .inl (foldl_updateLivePosition_liveOrderLogs db now _ _)
    · exact .inl rfl
    · exact .inr ⟨_, applyExitFill_liveOrderLogs _ _ _ _ _ _⟩
    · exact .inl rfl
    · exact .inl rfl

end Logs

end AutoCoinBot
