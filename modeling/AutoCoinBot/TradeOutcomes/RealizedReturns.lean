/-
  TradeOutcomes.RealizedReturns — the return recorded for a trade that is sold in pieces.

  A partial exit takes its share out of the cost of the position; the profit adds up over all of
  them.
-/
import AutoCoinBot.AdaptiveEdge.GroupStats
import AutoCoinBot.LiveExit.ExitFillRuns
import AutoCoinBot.LiveRecovery.HeldVolume

namespace AutoCoinBot

open Library

/-! ## The exit sync, with the outcomes that it writes -/

/-- The database, and the outcomes of its orders. -/
structure TradeBooks where
  db : Database
  outcomes : Table TradeOutcome := Table.empty
  orderUuid_unique : outcomes.UniqueOn TradeOutcome.orderUuid := by decide

/-- A call of `sync_exit_order_position`. -/
structure ExitSyncCall where
  log : ExitOrderLog
  status : ReconciledOrderStatus
  now : UtcTime := 0

/-- A round of the aggregate loop closes the position. -/
def closesInRound (s : AggregateExit) (positionId : ℕ) : Bool :=
  (loadLivePosition s.db positionId).any (fun position =>
    decide (0 < position.entryVolume ∧ 0 < min position.entryVolume s.remainingFill
      ∧ remainingAfter position (min position.entryVolume s.remainingFill)
        ≤ balanceMismatchVolumeTolerance))

/-- One round of the aggregate loop, with the outcomes. -/
def syncAggregateExitOutcome (fill : ExitFill) (orderUuid : Option String) (stillWaiting : Bool)
    (now : UtcTime) (s : AggregateExit × Table TradeOutcome) (positionId : ℕ) :
    AggregateExit × Table TradeOutcome :=
  let next := syncAggregateExitPosition fill orderUuid stillWaiting now s.1 positionId
  (next,
    if closesInRound s.1 positionId then
      refreshRealizedOutcomesForPosition next.db s.2 positionId now
    else s.2)

/-- The outcomes after a call of `sync_exit_order_position`. The pointer of the session, which is
repaired after a refresh, is no part of what the refresh reads. -/
def exitOutcomes (w : TradeBooks) (c : ExitSyncCall) : Table TradeOutcome :=
  match positionForExitOrder w.db c.log.toLiveOrderLog with
  | none => w.outcomes
  | some position =>
    let fill := exitFillDelta c.log c.status
    let aggregateIds := aggregateExitPositionIds c.log.toLiveOrderLog
    if c.status.status.isFill = false ∨ fill.volume ≤ 0 then w.outcomes
    else if aggregateIds ≠ [] then
      (aggregateIds.foldl
        (syncAggregateExitOutcome fill c.log.orderUuid c.status.stillWaiting c.now)
        ({ db := w.db, remainingFill := fill.volume }, w.outcomes)).2
    else
      let outcomes := recordFilledOrderOutcome w.outcomes c.log.toLiveOrderLog position.id c.now
      if remainingAfter position fill.volume ≤ balanceMismatchVolumeTolerance then
        refreshRealizedOutcomesForPosition (syncExitOrderPosition w.db c.log c.status c.now)
          outcomes position.id c.now
      else outcomes

theorem uniqueOn_rounds (fill : ExitFill) (orderUuid : Option String) (stillWaiting : Bool)
    (now : UtcTime) (ids : List ℕ) (s : AggregateExit × Table TradeOutcome)
    (h : s.2.UniqueOn TradeOutcome.orderUuid) :
    (ids.foldl (syncAggregateExitOutcome fill orderUuid stillWaiting now) s).2.UniqueOn
      TradeOutcome.orderUuid := by
  refine foldl_invariant
    (P := fun s : AggregateExit × Table TradeOutcome => s.2.UniqueOn TradeOutcome.orderUuid) ?_ h
  intro s i _ hs
  unfold syncAggregateExitOutcome
  dsimp only
  split
  · exact uniqueOn_refresh hs
  · exact hs

theorem uniqueOn_exitOutcomes (w : TradeBooks) (c : ExitSyncCall) :
    (exitOutcomes w c).UniqueOn TradeOutcome.orderUuid := by
  unfold exitOutcomes
  split
  · exact w.orderUuid_unique
  · dsimp only
    split_ifs
    · exact w.orderUuid_unique
    · exact uniqueOn_rounds _ _ _ _ _ _ w.orderUuid_unique
    · exact uniqueOn_refresh (uniqueOn_record w.orderUuid_unique _)
    · exact uniqueOn_record w.orderUuid_unique _

/-- `sync_exit_order_position`, with the outcomes. -/
def syncExitOrder (w : TradeBooks) (c : ExitSyncCall) : TradeBooks where
  db := syncExitOrderPosition w.db c.log c.status c.now
  outcomes := exitOutcomes w c
  orderUuid_unique := uniqueOn_exitOutcomes w c

/-! ## What a call leaves of a position -/

/-- What a call can leave of the row of a position. -/
inductive ExitRow (p q : LivePosition) : Prop
  | kept : q.entryVolume = p.entryVolume → q.entryAmountKrw = p.entryAmountKrw → ExitRow p q
  | filled (fill : ExitFill) (orderUuid : Option String) (stillWaiting : Bool) (now : UtcTime) :
      0 ≤ fill.volume → q = p.merge (exitUpdates p fill orderUuid stillWaiting now) now →
      ExitRow p q

/-- The outcomes of a position show the profit and the return of its row. -/
def OutcomesShow (outcomes : Table TradeOutcome) (positionId : ℕ) (q : LivePosition) : Prop :=
  ∀ row ∈ loadTradeOutcomeLogs outcomes positionId,
    row.realizedPnlKrw = some q.realizedPnl ∧ row.realizedReturnPct = q.realizedReturn

/-- A row that a piece of a fill has closed: it has its cost still, the profit of the piece is
added, and its outcomes show what it has returned. -/
structure ShownClosed (outcomes : Table TradeOutcome) (positionId : ℕ) (p q : LivePosition)
    (piece : ExitFill) : Prop where
  cost : q.entryAmountKrw = p.entryAmountKrw
  profit : q.realizedPnl = p.realizedPnl + exitPnl p piece
  shows : OutcomesShow outcomes positionId q

/-- A call leaves a row, or it closes it with its piece of the fill. -/
structure ClosesShown (outcomes : Table TradeOutcome) (positionId : ℕ) (p q : LivePosition)
    (piece : ExitFill) : Prop where
  row : ExitRow p q
  closed : p.status ≠ .closed → q.status = .closed → ShownClosed outcomes positionId p q piece

/-- The piece that the call books to a position: an order of several positions fills those that it
names before it first. -/
def exitPieceOf (w : TradeBooks) (c : ExitSyncCall) (p : LivePosition) : ExitFill :=
  let fill := exitFillDelta c.log c.status
  let ids := aggregateExitPositionIds c.log.toLiveOrderLog
  if ids = [] then fill
  else
    fill.piece (min p.entryVolume
      ((ids.takeWhile (· ≠ p.id)).foldl
        (syncAggregateExitPosition fill c.log.orderUuid c.status.stillWaiting c.now)
        { db := w.db, remainingFill := fill.volume }).remainingFill)

section Rows

variable {fill piece : ExitFill} {orderUuid : Option String} {stillWaiting : Bool} {now : UtcTime}
  {positionId : ℕ} {p : LivePosition}

theorem closesShown_of_kept {q : LivePosition} (outcomes : Table TradeOutcome) (hrow : ExitRow p q)
    (hstatus : q.status = .closed → p.status = .closed) :
    ClosesShown outcomes positionId p q piece :=
  ⟨hrow, fun hopen hclosed => absurd (hstatus hclosed) hopen⟩

theorem closesShown_refl (outcomes : Table TradeOutcome) :
    ClosesShown outcomes positionId p p piece := closesShown_of_kept outcomes (.kept rfl rfl) id

theorem closesShown_reopen (outcomes : Table TradeOutcome) :
    ClosesShown outcomes positionId p (p.merge reopenUpdates now) piece :=
  closesShown_of_kept outcomes (.kept rfl rfl) (fun h => by cases h)

theorem closing_row (orderUuid : Option String) (stillWaiting : Bool) (now : UtcTime)
    (h : remainingAfter p fill.volume ≤ balanceMismatchVolumeTolerance) :
    (p.merge (exitUpdates p fill orderUuid stillWaiting now) now).entryAmountKrw = p.entryAmountKrw
      ∧ (p.merge (exitUpdates p fill orderUuid stillWaiting now) now).realizedPnl
        = p.realizedPnl + exitPnl p fill
      ∧ (p.merge (exitUpdates p fill orderUuid stillWaiting now) now).status = .closed := by
  unfold exitUpdates
  rw [if_pos h]
  exact ⟨rfl, rfl, rfl⟩

theorem status_of_reducing (orderUuid : Option String) (stillWaiting : Bool) (now : UtcTime)
    (h : ¬ remainingAfter p fill.volume ≤ balanceMismatchVolumeTolerance) :
    (p.merge (exitUpdates p fill orderUuid stillWaiting now) now).status ≠ .closed := by
  unfold exitUpdates
  rw [if_neg h]
  show (if stillWaiting then PositionStatus.closing else .opened) ≠ .closed
  cases stillWaiting <;> decide

theorem closesShown_piece {outcomes : Table TradeOutcome} (orderUuid : Option String)
    (stillWaiting : Bool) (now : UtcTime) (hvolume : 0 ≤ fill.volume)
    (hshows : remainingAfter p fill.volume ≤ balanceMismatchVolumeTolerance →
      OutcomesShow outcomes positionId
        (p.merge (exitUpdates p fill orderUuid stillWaiting now) now)) :
    ClosesShown outcomes positionId p
      (p.merge (exitUpdates p fill orderUuid stillWaiting now) now) fill := by
  have hrow : ExitRow p (p.merge (exitUpdates p fill orderUuid stillWaiting now) now) :=
    .filled fill orderUuid stillWaiting now hvolume rfl
  by_cases hrest : remainingAfter p fill.volume ≤ balanceMismatchVolumeTolerance
  · obtain ⟨hcost, hprofit, -⟩ := closing_row orderUuid stillWaiting now hrest
    exact ⟨hrow, fun _ _ => ⟨hcost, hprofit, hshows hrest⟩⟩
  · exact closesShown_of_kept outcomes hrow
      (fun hclosed => absurd hclosed (status_of_reducing orderUuid stillWaiting now hrest))

variable (fill orderUuid stillWaiting now)

theorem closesShown_round (s : AggregateExit × Table TradeOutcome)
    (h : loadLivePosition s.1.db positionId = some p) :
    ∃ q, loadLivePosition
        (syncAggregateExitOutcome fill orderUuid stillWaiting now s positionId).1.db positionId
          = some q
      ∧ ClosesShown (syncAggregateExitOutcome fill orderUuid stillWaiting now s positionId).2
          positionId p q (fill.piece (min p.entryVolume s.1.remainingFill)) := by
  have hid : p.id = positionId := loadLivePosition_id _ _ h
  let y := min p.entryVolume s.1.remainingFill
  have hcloses : closesInRound s.1 positionId
      = decide (0 < p.entryVolume ∧ 0 < y
        ∧ remainingAfter p y ≤ balanceMismatchVolumeTolerance) := by
    unfold closesInRound
    rw [h]
    rfl
  unfold syncAggregateExitOutcome syncAggregateExitPosition
  rw [h]
  dsimp only
  by_cases hvolume : p.entryVolume ≤ 0
  · have hno : closesInRound s.1 positionId = false :=
      hcloses.trans (decide_eq_false (fun hyes => absurd hyes.1 (not_lt.mpr hvolume)))
    rw [if_pos hvolume, hno]
    exact ⟨p, h, closesShown_refl _⟩
  rw [if_neg hvolume]
  by_cases hnone : y ≤ 0
  · have hno : closesInRound s.1 positionId = false :=
      hcloses.trans (decide_eq_false (fun hyes => absurd hyes.2.1 (not_lt.mpr hnone)))
    rw [if_pos hnone, hno]
    cases stillWaiting with
    | false => exact ⟨p, h, closesShown_refl _⟩
    | true =>
      have hwaits : loadLivePosition (updateLivePosition s.1.db positionId
          { status := some .closing, exitOrderUuid := some orderUuid } now) positionId
            = some (p.merge { status := some .closing, exitOrderUuid := some orderUuid } now) := by
        rw [loadLivePosition_update_self, h]
        rfl
      exact ⟨_, hwaits, closesShown_of_kept _ (.kept rfl rfl) (fun hclosed => by cases hclosed)⟩
  rw [if_neg hnone]
  have hload : loadLivePosition (applyExitFill s.1.db p (fill.piece y) orderUuid stillWaiting now)
      positionId = some (p.merge (exitUpdates p (fill.piece y) orderUuid stillWaiting now) now) := by
    rw [loadLivePosition_applyExitFill, h, hid]
    simp
  refine ⟨_, hload, closesShown_piece orderUuid stillWaiting now (not_le.mp hnone).le
    (fun hrest => ?_)⟩
  have hyes : closesInRound s.1 positionId = true :=
    hcloses.trans (decide_eq_true ⟨not_le.mp hvolume, not_le.mp hnone, hrest⟩)
  rw [hyes, if_pos rfl]
  exact loadTradeOutcomeLogs_refresh_self hload (closing_row orderUuid stillWaiting now hrest).2.2

theorem round_ne (s : AggregateExit × Table TradeOutcome) {i : ℕ} (hne : positionId ≠ i)
    (hunique : s.2.UniqueOn TradeOutcome.orderUuid) :
    loadLivePosition (syncAggregateExitOutcome fill orderUuid stillWaiting now s i).1.db positionId
        = loadLivePosition s.1.db positionId
      ∧ loadTradeOutcomeLogs (syncAggregateExitOutcome fill orderUuid stillWaiting now s i).2
          positionId = loadTradeOutcomeLogs s.2 positionId := by
  refine ⟨loadLivePosition_syncAggregateExitPosition_ne _ _ _ _ s.1 hne, ?_⟩
  unfold syncAggregateExitOutcome
  dsimp only
  split
  · exact loadTradeOutcomeLogs_refresh_ne hunique hne
  · rfl

theorem rounds_ne (ids : List ℕ) (s : AggregateExit × Table TradeOutcome)
    (hunique : s.2.UniqueOn TradeOutcome.orderUuid) (hnot : positionId ∉ ids) :
    loadLivePosition (ids.foldl (syncAggregateExitOutcome fill orderUuid stillWaiting now) s).1.db
        positionId = loadLivePosition s.1.db positionId
      ∧ loadTradeOutcomeLogs
          (ids.foldl (syncAggregateExitOutcome fill orderUuid stillWaiting now) s).2 positionId
        = loadTradeOutcomeLogs s.2 positionId := by
  induction ids generalizing s with
  | nil => exact ⟨rfl, rfl⟩
  | cons i ids ih =>
    obtain ⟨hne, hrest⟩ := not_or.mp (mt List.mem_cons.mpr hnot)
    obtain ⟨hload, houtcomes⟩ := round_ne fill orderUuid stillWaiting now s hne hunique
    obtain ⟨hload', houtcomes'⟩ := ih (syncAggregateExitOutcome fill orderUuid stillWaiting now s i)
      (uniqueOn_rounds _ _ _ _ [i] s hunique) hrest
    exact ⟨hload'.trans hload, houtcomes'.trans houtcomes⟩

theorem closesShown_rounds {ids : List ℕ} (hnodup : ids.Nodup)
    (s : AggregateExit × Table TradeOutcome) (hunique : s.2.UniqueOn TradeOutcome.orderUuid)
    (h : loadLivePosition s.1.db positionId = some p) :
    ∃ q, loadLivePosition
        (ids.foldl (syncAggregateExitOutcome fill orderUuid stillWaiting now) s).1.db positionId
          = some q
      ∧ ClosesShown (ids.foldl (syncAggregateExitOutcome fill orderUuid stillWaiting now) s).2
          positionId p q (fill.piece (min p.entryVolume
            ((ids.takeWhile (· ≠ positionId)).foldl
              (syncAggregateExitPosition fill orderUuid stillWaiting now) s.1).remainingFill)) := by
  induction ids generalizing s with
  | nil => exact ⟨p, h, closesShown_refl _⟩
  | cons i ids ih =>
    obtain ⟨hnot, hnodup⟩ := List.nodup_cons.mp hnodup
    have hunique' := uniqueOn_rounds fill orderUuid stillWaiting now [i] s hunique
    rw [List.foldl_cons]
    by_cases hown : positionId = i
    · subst hown
      obtain ⟨q, hload, hshown⟩ := closesShown_round fill orderUuid stillWaiting now s h
      obtain ⟨hload', houtcomes⟩ := rounds_ne fill orderUuid stillWaiting now ids _ hunique' hnot
      rw [List.takeWhile_cons_of_neg (by simp)]
      refine ⟨q, hload'.trans hload, hshown.row, fun hopen hclosed => ?_⟩
      have hclose := hshown.closed hopen hclosed
      exact ⟨hclose.cost, hclose.profit, fun row hrow => hclose.shows row (houtcomes ▸ hrow)⟩
    · obtain ⟨hload, -⟩ := round_ne fill orderUuid stillWaiting now s hown hunique
      rw [List.takeWhile_cons_of_pos (by simpa using Ne.symm hown), List.foldl_cons]
      exact ih hnodup _ hunique' (hload.trans h)

theorem fst_rounds (ids : List ℕ) (s : AggregateExit × Table TradeOutcome) :
    (ids.foldl (syncAggregateExitOutcome fill orderUuid stillWaiting now) s).1
      = ids.foldl (syncAggregateExitPosition fill orderUuid stillWaiting now) s.1 := by
  induction ids generalizing s with
  | nil => rfl
  | cons i ids ih => exact ih _

end Rows

section Sync

variable {w : TradeBooks} {c : ExitSyncCall} {positionId : ℕ} {p position : LivePosition}

theorem closesShown_fill (h : loadLivePosition w.db positionId = some p)
    (hposition : positionForExitOrder w.db c.log.toLiveOrderLog = some position)
    (hids : aggregateExitPositionIds c.log.toLiveOrderLog = [])
    (hfill : c.status.status.isFill = true) (hvolume : 0 < (exitFillDelta c.log c.status).volume) :
    ∃ q, loadLivePosition (syncExitOrder w c).db positionId = some q
      ∧ ClosesShown (syncExitOrder w c).outcomes positionId p q (exitPieceOf w c p) := by
  have hload : ∀ j, loadLivePosition (syncExitOrder w c).db j
      = (loadLivePosition w.db j).map (fun q =>
          if j = position.id then
            q.merge (exitUpdates position (exitFillDelta c.log c.status) c.log.orderUuid
              c.status.stillWaiting c.now) c.now
          else q) := by
    intro j
    show loadLivePosition (syncExitOrderPosition w.db c.log c.status c.now) j = _
    rw [syncExitOrderPosition_fill hposition hids hfill hvolume, loadLivePosition_applyExitFill,
      loadLivePosition_congr (updateLiveOrderLog_livePositions _ _ _ _)]
  by_cases hown : positionId = position.id
  · have hp : position = p := by
      have hstored := loadLivePosition_positionForExitOrder hposition
      rw [← hown, h] at hstored
      exact (Option.some.inj hstored).symm
    subst hp
    have hrow := hload positionId
    rw [h, Option.map_some, if_pos hown] at hrow
    have hpiece : exitPieceOf w c position = exitFillDelta c.log c.status := if_pos hids
    refine ⟨_, hrow, hpiece.symm ▸ closesShown_piece c.log.orderUuid c.status.stillWaiting c.now
      hvolume.le (fun hrest => ?_)⟩
    have houtcomes : (syncExitOrder w c).outcomes
        = refreshRealizedOutcomesForPosition (syncExitOrder w c).db
            (recordFilledOrderOutcome w.outcomes c.log.toLiveOrderLog position.id c.now)
            position.id c.now := by
      show exitOutcomes w c = _
      unfold exitOutcomes
      rw [hposition]
      dsimp only
      rw [if_neg (by simp [hfill, hvolume]), if_neg (not_not.mpr hids), if_pos hrest]
      rfl
    rw [houtcomes, ← hown]
    exact loadTradeOutcomeLogs_refresh_self hrow
      (closing_row c.log.orderUuid c.status.stillWaiting c.now hrest).2.2
  · refine ⟨p, ?_, closesShown_refl _⟩
    rw [hload, h, Option.map_some, if_neg hown]

theorem closesShown_aggregate (h : loadLivePosition w.db positionId = some p)
    (hposition : positionForExitOrder w.db c.log.toLiveOrderLog = some position)
    (hids : aggregateExitPositionIds c.log.toLiveOrderLog ≠ [])
    (hfill : c.status.status.isFill = true) (hvolume : 0 < (exitFillDelta c.log c.status).volume) :
    ∃ q, loadLivePosition (syncExitOrder w c).db positionId = some q
      ∧ ClosesShown (syncExitOrder w c).outcomes positionId p q (exitPieceOf w c p) := by
  let ids := aggregateExitPositionIds c.log.toLiveOrderLog
  let start : AggregateExit × Table TradeOutcome :=
    ({ db := w.db, remainingFill := (exitFillDelta c.log c.status).volume }, w.outcomes)
  obtain ⟨q, hload, hshown⟩ := closesShown_rounds (exitFillDelta c.log c.status) c.log.orderUuid
    c.status.stillWaiting c.now (aggregateExitPositionIds_nodup c.log.toLiveOrderLog) start
    w.orderUuid_unique h
  have houtcomes : (syncExitOrder w c).outcomes = (ids.foldl (syncAggregateExitOutcome
      (exitFillDelta c.log c.status) c.log.orderUuid c.status.stillWaiting c.now) start).2 := by
    show exitOutcomes w c = _
    unfold exitOutcomes
    rw [hposition]
    dsimp only
    rw [if_neg (by simp [hfill, hvolume]), if_pos hids]
  have hpiece : exitPieceOf w c p = (exitFillDelta c.log c.status).piece (min p.entryVolume
      ((ids.takeWhile (· ≠ positionId)).foldl (syncAggregateExitPosition
        (exitFillDelta c.log c.status) c.log.orderUuid c.status.stillWaiting c.now)
        start.1).remainingFill) := by
    rw [← loadLivePosition_id _ _ h]
    exact if_neg hids
  refine ⟨q, ?_, hpiece ▸ houtcomes ▸ hshown⟩
  show loadLivePosition (syncExitOrderPosition w.db c.log c.status c.now) positionId = some q
  rw [syncExitOrderPosition_aggregate hposition hids, if_pos hfill]
  unfold syncAggregateExitOrderPositions aggregateExitLoop
  rw [if_neg (not_le.mpr hvolume), loadLivePosition_congr (updateLiveOrderLog_livePositions _ _ _ _)]
  rw [fst_rounds] at hload
  exact hload

/-- **What a call of the exit sync leaves of a position**: a row that it closes keeps its cost, and
its outcomes show what it has returned. -/
theorem closesShown_sync (w : TradeBooks) (c : ExitSyncCall)
    (h : loadLivePosition w.db positionId = some p) :
    ∃ q, loadLivePosition (syncExitOrder w c).db positionId = some q
      ∧ ClosesShown (syncExitOrder w c).outcomes positionId p q (exitPieceOf w c p) := by
  have hstays : syncExitOrderPosition w.db c.log c.status c.now = w.db →
      ∃ q, loadLivePosition (syncExitOrder w c).db positionId = some q
        ∧ ClosesShown (syncExitOrder w c).outcomes positionId p q (exitPieceOf w c p) := by
    intro hsame
    exact ⟨p, (loadLivePosition_congr (congrArg Database.livePositions hsame) positionId).trans h,
      closesShown_refl _⟩
  cases hposition : positionForExitOrder w.db c.log.toLiveOrderLog with
  | none =>
    refine hstays ?_
    unfold syncExitOrderPosition
    rw [hposition]
  | some position =>
    by_cases hfill : c.status.status.isFill = true
    · by_cases hids : aggregateExitPositionIds c.log.toLiveOrderLog = []
      · by_cases hvolume : 0 < (exitFillDelta c.log c.status).volume
        · exact closesShown_fill h hposition hids hfill hvolume
        · exact hstays (syncExitOrderPosition_idle hids hfill (not_lt.mp hvolume))
      · by_cases hvolume : 0 < (exitFillDelta c.log c.status).volume
        · exact closesShown_aggregate h hposition hids hfill hvolume
        · refine hstays ?_
          rw [syncExitOrderPosition_aggregate hposition hids, if_pos hfill]
          exact if_pos (not_lt.mp hvolume)
    by_cases hcanceled : c.status.status = .canceled
    · -- a canceled order reopens the positions that it names
      have hreopens : ∃ ids : List ℕ, syncExitOrderPosition w.db c.log c.status c.now
          = ids.foldl (fun db i => updateLivePosition db i reopenUpdates c.now) w.db := by
        by_cases hids : aggregateExitPositionIds c.log.toLiveOrderLog = []
        · refine ⟨[position.id], ?_⟩
          rw [syncExitOrderPosition_noFill hposition hids (by simpa using hfill),
            if_pos hcanceled]
          rfl
        · refine ⟨aggregateExitPositionIds c.log.toLiveOrderLog, ?_⟩
          rw [syncExitOrderPosition_aggregate hposition hids, if_neg hfill, if_pos hcanceled]
      obtain ⟨ids, hids⟩ := hreopens
      have hload : loadLivePosition (syncExitOrder w c).db positionId
          = some (if positionId ∈ ids then p.merge reopenUpdates c.now else p) := by
        show loadLivePosition (syncExitOrderPosition w.db c.log c.status c.now) positionId = _
        rw [hids, loadLivePosition_foldl_update, h]
        rfl
      refine ⟨_, hload, ?_⟩
      split
      · exact closesShown_reopen _
      · exact closesShown_refl _
    · exact hstays (syncExitOrderPosition_untouched (by simpa using hfill) hcanceled)

end Sync

/-! ## The cost that is left -/

/-- The cost of a row stands to its volume as at the start. -/
structure CostShare (start p : LivePosition) : Prop where
  cost_nonneg : 0 ≤ p.entryAmountKrw
  share : p.entryAmountKrw * start.entryVolume = start.entryAmountKrw * p.entryVolume

theorem reducing_row {p : LivePosition} {fill : ExitFill} (orderUuid : Option String)
    (stillWaiting : Bool) (now : UtcTime) (hcost : 0 ≤ p.entryAmountKrw) (hfill : 0 ≤ fill.volume)
    (hrest : ¬ remainingAfter p fill.volume ≤ balanceMismatchVolumeTolerance) :
    0 < p.entryVolume ∧ 0 ≤ (p.entryVolume - fill.volume) / p.entryVolume
      ∧ (p.merge (reduceUpdates p fill orderUuid stillWaiting) now).entryVolume
        = p.entryVolume - fill.volume
      ∧ (p.merge (reduceUpdates p fill orderUuid stillWaiting) now).entryAmountKrw
        = p.entryAmountKrw * ((p.entryVolume - fill.volume) / p.entryVolume) := by
  have htol := balanceMismatchVolumeTolerance_pos
  -- a rest above the tolerance is what the fill leaves of the volume
  have hleft : remainingAfter p fill.volume = p.entryVolume - fill.volume := by
    refine max_eq_left ?_
    by_contra hneg
    rw [show remainingAfter p fill.volume = 0 from max_eq_right (not_le.mp hneg).le] at hrest
    exact hrest htol.le
  rw [hleft, not_le] at hrest
  have hvolume : 0 < p.entryVolume := by linarith
  have hshare : 0 ≤ (p.entryVolume - fill.volume) / p.entryVolume :=
    div_nonneg (by linarith) hvolume.le
  have hbasis : entryBasis p fill.volume = p.entryAmountKrw * (fill.volume / p.entryVolume) := by
    unfold entryBasis
    rw [if_pos hvolume, min_eq_left]
    rw [div_le_one hvolume]
    linarith
  have hamount : p.entryAmountKrw - entryBasis p fill.volume
      = p.entryAmountKrw * ((p.entryVolume - fill.volume) / p.entryVolume) := by
    rw [hbasis]
    field_simp
  refine ⟨hvolume, hshare, hleft, ?_⟩
  show max (p.entryAmountKrw - entryBasis p fill.volume) 0 = _
  rw [hamount, max_eq_left (mul_nonneg hcost hshare)]

theorem CostShare.exitRow {start p q : LivePosition} (h : CostShare start p) (hrow : ExitRow p q) :
    CostShare start q := by
  cases hrow with
  | kept hvolume hcost =>
    exact ⟨hcost ▸ h.cost_nonneg, by rw [hcost, hvolume]; exact h.share⟩
  | filled fill orderUuid stillWaiting now hfill hq =>
    subst hq
    unfold exitUpdates
    split
    · exact ⟨h.cost_nonneg, h.share⟩
    · next hrest =>
        obtain ⟨hpos, hshare, hvolume, hamount⟩ :=
          reducing_row orderUuid stillWaiting now h.cost_nonneg hfill hrest
        refine ⟨hamount ▸ mul_nonneg h.cost_nonneg hshare, ?_⟩
        rw [hamount, hvolume]
        calc p.entryAmountKrw * ((p.entryVolume - fill.volume) / p.entryVolume) * start.entryVolume
            = p.entryAmountKrw * start.entryVolume
              * ((p.entryVolume - fill.volume) / p.entryVolume) := by ring
          _ = start.entryAmountKrw * p.entryVolume
              * ((p.entryVolume - fill.volume) / p.entryVolume) := by rw [h.share]
          _ = start.entryAmountKrw * (p.entryVolume - fill.volume) := by field_simp

theorem costShare_run {w : TradeBooks} {positionId : ℕ} {start : LivePosition}
    (h : loadLivePosition w.db positionId = some start) (hcost : 0 ≤ start.entryAmountKrw)
    (calls : List ExitSyncCall) :
    ∃ p, loadLivePosition (run syncExitOrder w calls).db positionId = some p
      ∧ CostShare start p := by
  have hstep : ∀ (w : TradeBooks) (c : ExitSyncCall),
      (∃ p, loadLivePosition w.db positionId = some p ∧ CostShare start p) →
      ∃ p, loadLivePosition (syncExitOrder w c).db positionId = some p ∧ CostShare start p := by
    rintro w c ⟨p, hp, hshare⟩
    obtain ⟨q, hq, hshown⟩ := closesShown_sync w c hp
    exact ⟨q, hq, hshare.exitRow hshown.row⟩
  exact run_invariant hstep ⟨start, h, hcost, rfl⟩ calls

/-! ## The return of the whole trade -/

/-- The profit of the whole trade, with the piece that the call closes it with. -/
def wholeProfit (w : TradeBooks) (c : ExitSyncCall) (p : LivePosition) : ℚ :=
  p.realizedPnl + exitPnl p (exitPieceOf w c p)

/-- The whole cost is still there, or nothing is won or lost, or so little that the share of the
cost that is left does not show. -/
def ReturnKept (start p : LivePosition) (profit : ℚ) : Prop :=
  0 < p.entryAmountKrw ∧
    (p.entryAmountKrw = start.entryAmountKrw ∨ profit = 0
      ∨ round6 (profit / start.entryAmountKrw * 100 / (p.entryAmountKrw / start.entryAmountKrw))
        = round6 (profit / start.entryAmountKrw * 100))

instance (start p : LivePosition) (profit : ℚ) : Decidable (ReturnKept start p profit) :=
  inferInstanceAs (Decidable (_ ∧ _))

theorem realizedReturn_eq_iff {start p q : LivePosition} {profit : ℚ}
    (hcost : 0 < start.entryAmountKrw) (hleft : q.entryAmountKrw = p.entryAmountKrw)
    (hprofit : q.realizedPnl = profit) :
    q.realizedReturn = some (tradePct q.realizedPnl start.entryAmountKrw)
      ↔ ReturnKept start p profit := by
  unfold LivePosition.realizedReturn ReturnKept
  rw [hleft, hprofit]
  by_cases hpos : 0 < p.entryAmountKrw
  · have hshare : profit / start.entryAmountKrw * 100 / (p.entryAmountKrw / start.entryAmountKrw)
        = profit / p.entryAmountKrw * 100 := by field_simp
    have hwhole : tradePct profit start.entryAmountKrw
        = round6 (profit / start.entryAmountKrw * 100) := if_pos hcost.ne'
    have hrest : tradePct profit p.entryAmountKrw = round6 (profit / p.entryAmountKrw * 100) :=
      if_pos hpos.ne'
    rw [if_pos hpos, Option.some.injEq, hwhole, hrest, hshare, and_iff_right hpos]
    constructor
    · exact fun h => .inr (.inr h)
    · rintro (hsame | hzero | hlost)
      · rw [hsame]
      · rw [hzero, zero_div, zero_div]
      · exact hlost
  · rw [if_neg hpos]
    exact iff_of_false (by simp) (fun h => hpos h.1)

/-- A sale of the two coins as the exchange shows it. -/
def exampleSale (previousExecuted previousFilled previousFee : ℚ) (snapshot : RawOrder) :
    ExitSyncCall :=
  let status := normalizeExchangeOrder snapshot
  { log :=
      { exampleExitLog with
        status := status.status
        executedVolume := status.executedVolume
        remainingVolume := status.remainingVolume
        filledAmountKrw := status.filledAmountKrw
        paidFee := status.paidFee
        previousExecutedVolume := some previousExecuted
        previousFilledAmountKrw := some previousFilled
        previousPaidFee := some previousFee }
    status := status }

def exampleSaleAtOnce : ExitSyncCall := exampleSale 0 0 0 (exampleSnapshot 2 0 250 2 "done")

def exampleFirstHalf : ExitSyncCall := exampleSale 0 0 0 (exampleSnapshot 1 1 120 1 "wait")

def exampleSecondHalf : ExitSyncCall := exampleSale 1 120 1 (exampleSnapshot 2 0 250 2 "done")

def exampleTradeBooks : TradeBooks := { db := exampleExitDb }

def exampleSoldPosition : LivePosition :=
  { exampleExitPosition with
    status := .closed, realizedPnl := 48, closedAt := some 0, exitOrderUuid := none }

end AutoCoinBot
