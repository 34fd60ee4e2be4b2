/-
  LiveRecovery.HeldVolume — the volume the positions hold, through the fills of one
  order.

  A closed row keeps its volume in the table and holds none of it.
-/
import AutoCoinBot.LivePositionSync.Effects
import AutoCoinBot.LiveRecovery.ClosedPositions

namespace AutoCoinBot

open Library

/-! ## Volume held -/

def LivePosition.held (p : LivePosition) : ℚ := if p.status = .closed then 0 else p.entryVolume

def heldVolume (db : Database) : ℚ := (db.livePositions.rows.map LivePosition.held).sum

theorem LivePosition.held_of_ne {p : LivePosition} (h : p.status ≠ .closed) :
    p.held = p.entryVolume := if_neg h

section Held

variable {db db' : Database}

theorem heldVolume_congr (h : db'.livePositions = db.livePositions) :
    heldVolume db' = heldVolume db := by
  unfold heldVolume
  rw [h]

theorem heldVolume_update (i : ℕ) (u : LivePositionUpdates) (now : UtcTime) :
    heldVolume (updateLivePosition db i u now)
      = heldVolume db
        + (loadLivePosition db i).elim 0 (fun p => (p.merge u now).held - p.held) :=
  sum_rewrite_key db.livePositions.nodup i (fun p => p.merge u now) LivePosition.held

theorem heldVolume_update_of_load {i : ℕ} {p : LivePosition} (u : LivePositionUpdates)
    (now : UtcTime) (hload : loadLivePosition db i = some p) :
    heldVolume (updateLivePosition db i u now)
      = heldVolume db + ((p.merge u now).held - p.held) := by
  rw [heldVolume_update, hload]
  rfl

theorem heldVolume_create (position : ℕ → LivePosition) (hid : ∀ k, (position k).id = k) :
    heldVolume (createLivePosition db position hid)
      = heldVolume db + (position db.livePositions.nextId).held := by
  have hrows : (createLivePosition db position hid).livePositions.rows
      = db.livePositions.rows ++ [position db.livePositions.nextId] := rfl
  unfold heldVolume
  rw [hrows, List.map_append, List.sum_append]
  simp

end Held

/-! ## Exit orders -/

/-- What a row gives to a fill: all it holds if no more than dust would be left. -/
def LivePosition.gives (p : LivePosition) (fill : ℚ) : ℚ :=
  if p.entryVolume - fill ≤ balanceMismatchVolumeTolerance then p.held
  else p.held - (p.entryVolume - fill)

/-- What a listed row gives to the rest of a fill. -/
def givesFrom (db : Database) (positionId : ℕ) (rest : ℚ) : ℚ :=
  (loadLivePosition db positionId).elim 0
    (fun p => if 0 < p.entryVolume ∧ 0 < rest then p.gives rest else 0)

/-- What listed rows give one after the other, each using up the volume its row shows. -/
def givesInTurn (db : Database) : List ℕ → ℚ → ℚ
  | [], _ => 0
  | i :: ids, rest =>
    givesFrom db i rest + givesInTurn db ids (max (rest - max (volumeOf db i) 0) 0)

/-- What the positions of an exit order give to a fill. -/
def exitGives (db : Database) (log : LiveOrderLog) (fill : ℚ) : ℚ :=
  match positionForExitOrder db log with
  | none => 0
  | some position =>
    if fill ≤ 0 then 0
    else if aggregateExitPositionIds log = [] then position.gives fill
    else givesInTurn db (aggregateExitPositionIds log) fill

/-- The volume a row shows beyond what it holds. -/
def shownBeyondHeld (db : Database) (positionId : ℕ) : ℚ :=
  (loadLivePosition db positionId).elim 0 (fun p => p.entryVolume - p.held)

/-- What a cancel brings back: the volume that closed rows of the order show. -/
def exitReopens (db : Database) (log : LiveOrderLog) : ℚ :=
  match positionForExitOrder db log with
  | none => 0
  | some position =>
    if aggregateExitPositionIds log = [] then position.entryVolume - position.held
    else ((aggregateExitPositionIds log).map (shownBeyondHeld db)).sum

section Exit

variable {db : Database} {now : UtcTime}

theorem loadLivePosition_positionForExitOrder {log : LiveOrderLog} {position : LivePosition}
    (h : positionForExitOrder db log = some position) :
    loadLivePosition db position.id = some position := by
  unfold positionForExitOrder at h
  split at h
  · rename_i q hq
    cases h
    obtain ⟨i, _, hload⟩ := Option.bind_eq_some_iff.mp hq
    rw [loadLivePosition_id db i hload, hload]
  · dsimp only at h
    split at h
    · cases h
    · exact (mem_selectActivePositions.mp (List.mem_of_find?_eq_some h)).1

theorem held_exitUpdates (p : LivePosition) (fill : ExitFill) (orderUuid : Option String)
    (stillWaiting : Bool) :
    (p.merge (exitUpdates p fill orderUuid stillWaiting now) now).held
      = p.held - p.gives fill.volume := by
  have hclosed := exitUpdates_closed (p := p) fill orderUuid stillWaiting now
  unfold LivePosition.gives
  by_cases hrest : p.entryVolume - fill.volume ≤ balanceMismatchVolumeTolerance
  · rw [if_pos hrest]
    unfold LivePosition.held
    rw [LivePosition.merge_status, if_pos (hclosed.mpr hrest)]
    ring
  · have htol := balanceMismatchVolumeTolerance_pos
    have hremaining : remainingAfter p fill.volume = p.entryVolume - fill.volume :=
      max_eq_left (htol.le.trans (not_le.mp hrest).le)
    have hvolume : (p.merge (exitUpdates p fill orderUuid stillWaiting now) now).entryVolume
        = p.entryVolume - fill.volume := by
      unfold exitUpdates
      rw [hremaining, if_neg hrest, LivePosition.merge_entryVolume]
      exact hremaining
    rw [if_neg hrest, LivePosition.held_of_ne (fun h => hrest (hclosed.mp h)), hvolume]
    ring

theorem heldVolume_applyExitFill {p : LivePosition} (fill : ExitFill) (orderUuid : Option String)
    (stillWaiting : Bool) (hload : loadLivePosition db p.id = some p) :
    heldVolume (applyExitFill db p fill orderUuid stillWaiting now)
      = heldVolume db - p.gives fill.volume := by
  rw [heldVolume_congr (applyExitFill_livePositions db p fill orderUuid stillWaiting now),
    heldVolume_update_of_load _ now hload, held_exitUpdates]
  ring

theorem heldVolume_syncAggregateExitPosition (fill : ExitFill) (orderUuid : Option String)
    {stillWaiting : Bool} (s : AggregateExit) (i : ℕ)
    (hshown : stillWaiting = true → shownBeyondHeld s.db i = 0) :
    heldVolume (syncAggregateExitPosition fill orderUuid stillWaiting now s i).db
      = heldVolume s.db - givesFrom s.db i s.remainingFill := by
  unfold shownBeyondHeld at hshown
  unfold syncAggregateExitPosition givesFrom
  cases hload : loadLivePosition s.db i with
  | none => simp
  | some p =>
    simp only [Option.elim_some]
    rw [hload, Option.elim_some] at hshown
    by_cases hvolume : p.entryVolume ≤ 0
    · rw [if_pos hvolume, if_neg (fun h => absurd h.1 (not_lt.mpr hvolume)), sub_zero]
    · have hpos : 0 < p.entryVolume := not_le.mp hvolume
      rw [if_neg hvolume]
      by_cases hrest : s.remainingFill ≤ 0
      · have hspent : min p.entryVolume s.remainingFill ≤ 0 := (min_le_right _ _).trans hrest
        have hnone : ¬ (0 < p.entryVolume ∧ 0 < s.remainingFill) :=
          fun h => absurd h.2 (not_lt.mpr hrest)
        rw [if_pos hspent, if_neg hnone, sub_zero]
        split_ifs with hwaiting
        · -- it is marked as closing, and holds what it shows
          have hheld : p.held = p.entryVolume := (sub_eq_zero.mp (hshown hwaiting)).symm
          refine (heldVolume_update_of_load _ now hload).trans ?_
          rw [LivePosition.held_of_ne (fun h => by cases h), hheld, LivePosition.merge_entryVolume]
          simp
        · rfl
      · have happlied : ¬ min p.entryVolume s.remainingFill ≤ 0 :=
          not_le.mpr (lt_min hpos (not_le.mp hrest))
        have hself : loadLivePosition s.db p.id = some p := by
          rw [loadLivePosition_id s.db i hload, hload]
        rw [if_neg happlied, if_pos ⟨hpos, not_le.mp hrest⟩,
          heldVolume_applyExitFill _ _ _ hself]
        -- a row that is used up gives as to a larger fill
        have hgives : p.gives (min p.entryVolume s.remainingFill) = p.gives s.remainingFill := by
          rcases le_total p.entryVolume s.remainingFill with hle | hle
          · have htol := balanceMismatchVolumeTolerance_pos.le
            unfold LivePosition.gives
            rw [min_eq_left hle, if_pos (by linarith), if_pos (by linarith)]
          · rw [min_eq_right hle]
        exact congrArg (fun x => heldVolume s.db - x) hgives

theorem givesInTurn_congr {db' : Database} {ids : List ℕ}
    (h : ∀ i ∈ ids, loadLivePosition db' i = loadLivePosition db i) (rest : ℚ) :
    givesInTurn db' ids rest = givesInTurn db ids rest := by
  induction ids generalizing rest with
  | nil => rfl
  | cons i ids ih =>
    have hi : loadLivePosition db' i = loadLivePosition db i := h i List.mem_cons_self
    have hrest := fun j hj => h j (List.mem_cons_of_mem i hj)
    unfold givesInTurn givesFrom volumeOf
    rw [hi, ih hrest]

theorem heldVolume_foldl_syncAggregateExitPosition (fill : ExitFill) (orderUuid : Option String)
    {stillWaiting : Bool} {ids : List ℕ} (hnodup : ids.Nodup) (s : AggregateExit)
    (hrest : 0 ≤ s.remainingFill)
    (hshown : stillWaiting = true → ∀ i ∈ ids, shownBeyondHeld s.db i = 0) :
    heldVolume (ids.foldl (syncAggregateExitPosition fill orderUuid stillWaiting now) s).db
      = heldVolume s.db - givesInTurn s.db ids s.remainingFill := by
  induction ids generalizing s with
  | nil => simp [givesInTurn]
  | cons i ids ih =>
    obtain ⟨hnot, htail⟩ := List.nodup_cons.mp hnodup
    have hround := remainingFill_syncAggregateExitPosition fill orderUuid stillWaiting now s i
      hrest
    have hsame : ∀ j ∈ ids, loadLivePosition
        (syncAggregateExitPosition fill orderUuid stillWaiting now s i).db j
          = loadLivePosition s.db j := by
      intro j hj
      have hne : j ≠ i := fun h => hnot (h ▸ hj)
      exact loadLivePosition_syncAggregateExitPosition_ne _ _ _ _ s hne
    have hothers := givesInTurn_congr hsame
      (max (s.remainingFill - max (volumeOf s.db i) 0) 0)
    have hshown' : stillWaiting = true → ∀ j ∈ ids, shownBeyondHeld
        (syncAggregateExitPosition fill orderUuid stillWaiting now s i).db j = 0 := by
      intro hwaiting j hj
      unfold shownBeyondHeld
      rw [hsame j hj]
      exact hshown hwaiting j (List.mem_cons_of_mem i hj)
    rw [List.foldl_cons, ih htail _ (hround ▸ le_max_right _ _) hshown',
      heldVolume_syncAggregateExitPosition _ _ _ _
        (fun hwaiting => hshown hwaiting i List.mem_cons_self), hround, hothers, givesInTurn]
    ring

/-- **What the fills of an exit order take**; rows that wait for more are not closed. -/
theorem heldVolume_syncExitOrderPosition_fill (log : ExitOrderLog)
    {status : ReconciledOrderStatus} (hfill : status.status.isFill = true)
    (hshown : status.stillWaiting = true → 0 < (exitFillDelta log status).volume →
      ∀ i ∈ aggregateExitPositionIds log.toLiveOrderLog, shownBeyondHeld db i = 0) :
    heldVolume (syncExitOrderPosition db log status now)
      = heldVolume db - exitGives db log.toLiveOrderLog (exitFillDelta log status).volume := by
  unfold exitGives
  cases hposition : positionForExitOrder db log.toLiveOrderLog with
  | none =>
    unfold syncExitOrderPosition
    rw [hposition]
    exact (sub_zero _).symm
  | some position =>
    have hload : loadLivePosition db position.id = some position :=
      loadLivePosition_positionForExitOrder hposition
    by_cases hids : aggregateExitPositionIds log.toLiveOrderLog = []
    · simp only [hids, if_true]
      by_cases hvolume : 0 < (exitFillDelta log status).volume
      · have hsame : (updateLiveOrderLog db log.requestId
            { actualPnl := some (some (exitPnl position (exitFillDelta log status))) }
            now).livePositions = db.livePositions := updateLiveOrderLog_livePositions _ _ _ _
        rw [if_neg (not_le.mpr hvolume),
          syncExitOrderPosition_fill hposition hids hfill hvolume,
          heldVolume_applyExitFill _ _ _ ((loadLivePosition_congr hsame _).trans hload),
          heldVolume_congr hsame]
      · rw [if_pos (not_lt.mp hvolume), syncExitOrderPosition_idle hids hfill (not_lt.mp hvolume),
          sub_zero]
    · rw [syncExitOrderPosition_aggregate hposition hids, if_pos hfill]
      unfold syncAggregateExitOrderPositions
      simp only [if_neg hids]
      split_ifs with hvolume
      · exact (sub_zero _).symm
      · rw [heldVolume_congr (updateLiveOrderLog_livePositions _ _ _ _)]
        unfold aggregateExitLoop
        exact heldVolume_foldl_syncAggregateExitPosition _ _ (aggregateExitPositionIds_nodup _)
          { db := db, remainingFill := (exitFillDelta log status).volume }
          (not_le.mp hvolume).le (fun hwaiting => hshown hwaiting (not_le.mp hvolume))

/-- **What a filled exit order takes.** -/
theorem heldVolume_syncExitOrderPosition_filled (log : ExitOrderLog)
    {status : ReconciledOrderStatus} (hfilled : status.status = .filled) :
    heldVolume (syncExitOrderPosition db log status now)
      = heldVolume db - exitGives db log.toLiveOrderLog (exitFillDelta log status).volume := by
  have hwaiting : status.stillWaiting = false := by
    unfold ReconciledOrderStatus.stillWaiting
    rw [hfilled]
    rfl
  refine heldVolume_syncExitOrderPosition_fill log (by rw [hfilled]; rfl) (fun h => ?_)
  rw [hwaiting] at h
  cases h

theorem held_of_shown {i : ℕ} {p : LivePosition} (hload : loadLivePosition db i = some p)
    (hshown : shownBeyondHeld db i = 0) : p.held = p.entryVolume := by
  unfold shownBeyondHeld at hshown
  rw [hload, Option.elim_some] at hshown
  exact (sub_eq_zero.mp hshown).symm

theorem LivePosition.gives_of_held {p : LivePosition} (h : p.held = p.entryVolume) (fill : ℚ) :
    p.gives fill
      = if p.entryVolume - fill ≤ balanceMismatchVolumeTolerance then p.entryVolume else fill := by
  unfold LivePosition.gives
  rw [h]
  split_ifs
  · rfl
  · ring

theorem givesInTurn_zero (ids : List ℕ) : givesInTurn db ids 0 = 0 := by
  induction ids with
  | nil => rfl
  | cons i ids ih =>
    have hrest : max (0 - max (volumeOf db i) 0) 0 = 0 :=
      max_eq_right (by linarith [le_max_right (volumeOf db i) 0])
    have hnone : givesFrom db i 0 = 0 := by
      unfold givesFrom
      cases loadLivePosition db i <;> simp
    rw [givesInTurn, hrest, ih, hnone, add_zero]

/-- **Rows that hold what they show give a fill they can bear**, and dust at most beyond it. -/
theorem givesInTurn_bounds {ids : List ℕ} (hshown : ∀ i ∈ ids, shownBeyondHeld db i = 0) (fill : ℚ)
    (hnonneg : 0 ≤ fill) (hle : fill ≤ (ids.map (fun i => max (volumeOf db i) 0)).sum) :
    fill ≤ givesInTurn db ids fill
      ∧ givesInTurn db ids fill ≤ fill + balanceMismatchVolumeTolerance := by
  have htol := balanceMismatchVolumeTolerance_pos.le
  induction ids generalizing fill with
  | nil =>
    have hzero : fill = 0 := le_antisymm (by simpa using hle) hnonneg
    rw [hzero]
    exact ⟨le_rfl, by simpa [givesInTurn] using htol⟩
  | cons i ids ih =>
    have hrest := fun j hj => hshown j (List.mem_cons_of_mem i hj)
    rw [List.map_cons, List.sum_cons] at hle
    rw [givesInTurn]
    rcases le_total (max (volumeOf db i) 0) fill with hfits | hexceeds
    · -- the row is used up
      have hgives : givesFrom db i fill = max (volumeOf db i) 0 := by
        unfold givesFrom volumeOf
        cases hload : loadLivePosition db i with
        | none => simp
        | some p =>
          have hvolume : max p.entryVolume 0 ≤ fill := by
            rwa [volumeOf_of_load hload] at hfits
          simp only [Option.elim_some, Option.map_some, Option.getD_some]
          split_ifs with h
          · rw [LivePosition.gives_of_held (held_of_shown hload (hshown i List.mem_cons_self)),
              if_pos (by linarith [le_max_left p.entryVolume 0]), max_eq_left h.1.le]
          · -- there is nothing to use up
            refine (max_eq_right (not_lt.mp fun hpos => h ⟨hpos, ?_⟩)).symm
            exact hpos.trans_le ((le_max_left _ _).trans hvolume)
      obtain ⟨hlow, hhigh⟩ := ih hrest (max (fill - max (volumeOf db i) 0) 0) (le_max_right _ _)
        (max_le (by linarith) (List.sum_nonneg (by
          intro x hx
          obtain ⟨j, _, rfl⟩ := List.mem_map.mp hx
          exact le_max_right _ _)))
      have hleft : max (fill - max (volumeOf db i) 0) 0 = fill - max (volumeOf db i) 0 :=
        max_eq_left (by linarith)
      rw [hleft] at hlow hhigh ⊢
      rw [hgives]
      exact ⟨by linarith, by linarith⟩
    · -- the fill ends here
      have hdone : max (fill - max (volumeOf db i) 0) 0 = 0 := max_eq_right (by linarith)
      rw [hdone, givesInTurn_zero, add_zero]
      unfold givesFrom
      cases hload : loadLivePosition db i with
      | none =>
        have hzero : fill = 0 := by
          unfold volumeOf at hexceeds
          rw [hload] at hexceeds
          exact le_antisymm (by simpa using hexceeds) hnonneg
        rw [hzero]
        exact ⟨le_rfl, by simpa using htol⟩
      | some p =>
        rw [volumeOf_of_load hload] at hexceeds
        simp only [Option.elim_some]
        split_ifs with h
        · rw [max_eq_left h.1.le] at hexceeds
          rw [LivePosition.gives_of_held (held_of_shown hload (hshown i List.mem_cons_self))]
          split_ifs with hdust
          · exact ⟨hexceeds, by linarith⟩
          · exact ⟨le_rfl, by linarith⟩
        · have hzero : fill = 0 := by
            by_contra hne
            have hpos : 0 < fill := lt_of_le_of_ne hnonneg (Ne.symm hne)
            refine h ⟨?_, hpos⟩
            rcases max_choice p.entryVolume 0 with hmax | hmax
            · rw [hmax] at hexceeds
              exact hpos.trans_le hexceeds
            · rw [hmax] at hexceeds
              exact absurd hpos (not_lt.mpr hexceeds)
          rw [hzero]
          exact ⟨le_rfl, by simpa using htol⟩

theorem heldVolume_foldl_reopen {ids : List ℕ} (hnodup : ids.Nodup) :
    heldVolume (ids.foldl (fun db i => updateLivePosition db i reopenUpdates now) db)
      = heldVolume db + (ids.map (shownBeyondHeld db)).sum := by
  induction ids generalizing db with
  | nil => simp
  | cons i ids ih =>
    obtain ⟨hnot, htail⟩ := List.nodup_cons.mp hnodup
    have hothers : ids.map (shownBeyondHeld (updateLivePosition db i reopenUpdates now))
        = ids.map (shownBeyondHeld db) := by
      refine List.map_congr_left fun j hj => ?_
      unfold shownBeyondHeld
      rw [loadLivePosition_update_ne db i _ now (fun h : j = i => hnot (h ▸ hj))]
    rw [List.foldl_cons, ih htail, hothers, heldVolume_update, List.map_cons, List.sum_cons]
    unfold shownBeyondHeld
    cases loadLivePosition db i with
    | none => simp
    | some p =>
      have hopened : (p.merge reopenUpdates now).held = p.entryVolume :=
        LivePosition.held_of_ne (fun h => by cases h)
      simp only [Option.elim_some, hopened]
      ring

/-- **What a canceled exit order brings back.** -/
theorem heldVolume_syncExitOrderPosition_canceled (log : ExitOrderLog)
    {status : ReconciledOrderStatus} (hcanceled : status.status = .canceled) :
    heldVolume (syncExitOrderPosition db log status now)
      = heldVolume db + exitReopens db log.toLiveOrderLog := by
  have hfill : status.status.isFill = false := by rw [hcanceled]; rfl
  unfold exitReopens
  cases hposition : positionForExitOrder db log.toLiveOrderLog with
  | none =>
    unfold syncExitOrderPosition
    rw [hposition]
    exact (add_zero _).symm
  | some position =>
    dsimp only
    split_ifs with hids
    · have hload := loadLivePosition_positionForExitOrder hposition
      have hone := @heldVolume_foldl_reopen db now [position.id] (List.nodup_singleton _)
      rw [List.foldl_cons, List.foldl_nil, List.map_singleton, List.sum_singleton] at hone
      rw [syncExitOrderPosition_noFill hposition hids hfill, if_pos hcanceled, hone]
      unfold shownBeyondHeld
      rw [hload]
      rfl
    · rw [syncExitOrderPosition_aggregate hposition hids, hfill, if_neg (by decide),
        if_pos hcanceled]
      exact heldVolume_foldl_reopen (aggregateExitPositionIds_nodup _)

end Exit

/-! ## Entry orders -/

/-- What a filled entry order adds: the rise over what is recorded of it, else all of it unless
an active position carries its uuid. -/
def entryGains (db : Database) (session : SyncSession) (log : LiveOrderLog) (orderUuid : String)
    (volume : ℚ) : ℚ :=
  match applicationOf db orderUuid with
  | some ledger =>
    match loadLivePosition db ledger.positionId with
    | some p =>
      -- the position is open afterwards, whatever it was
      if deltaTolerance < volume - ledger.previousVolume then
        p.entryVolume + (volume - ledger.previousVolume) - p.held
      else 0
    | none => if ledger.positionId = 0 then volume else 0
  | none =>
    if (resolveScaleInTarget db session (some log) log.orderPreviewPayload.scaleIn).isNone
        ∧ (loadLivePositionByEntryOrderUuid db session.exchange session.market
          orderUuid).isSome then 0
    else volume

def syncGains (db : Database) (session : SyncSession) (f : FilledOrder) : ℚ :=
  match applicationOf db f.orderUuid with
  | some ledger =>
    (loadLivePosition db ledger.positionId).elim 0 (fun p =>
      if deltaTolerance < f.volume - ledger.previousVolume then
        p.entryVolume + (f.volume - ledger.previousVolume) - p.held
      else 0)
  | none =>
    if (resolveScaleInTarget db session f.canonicalLog (scalePreview f.canonicalLog)).isSome then
      (scaleInTarget db session f).elim 0 (fun _ => f.volume)
    else if (loadLivePositionByEntryOrderUuid db session.exchange session.market
      f.orderUuid).isSome then 0
    else f.volume

section Entry

variable {env : SyncEnv} {db : Database} {log row : LiveOrderLog} {source : String}
  {call : SyncCall} {f : FilledOrder} {session : SyncSession}

theorem heldVolume_applyWrites (now : UtcTime) (ws : List SyncWrite) :
    heldVolume (applyWrites now db ws)
      = heldVolume (applyWrites now db (ws.filter SyncWrite.recordsFill)) :=
  heldVolume_congr (sameFills_applyWrites now db ws).livePositions

theorem heldVolume_recoverPosition (hprice : 0 < entryPriceFromLog log)
    (hvolume : orNum log.executedVolume (toFloat log.volume) = f.volume) (hpos : 0 < f.volume) :
    heldVolume (recoverPosition env db log session) = heldVolume db + f.volume := by
  have hrecovers : ¬ (entryPriceFromLog log ≤ 0
      ∨ orNum log.executedVolume (toFloat log.volume) ≤ 0) := by
    rw [hvolume]
    exact not_or.mpr ⟨not_le.mpr hprice, not_le.mpr hpos⟩
  unfold recoverPosition
  simp only
  rw [if_neg hrecovers, heldVolume_congr (adoptPositionInRelevantSession_livePositions _ _ _),
    heldVolume_congr (updateLiveOrderLog_livePositions _ _ _ _)]
  exact (heldVolume_create _ (fun _ => rfl)).trans
    (congrArg (fun x => heldVolume db + x) hvolume)

theorem heldVolume_ensure_named (hcall : ensuredSyncCall log source = some call) {positionId : ℕ}
    (hresult : (syncPlan env db call).2.positionId = some positionId) (hne : positionId ≠ 0) :
    heldVolume (ensureFilledEntryOrderPosition env db log source)
      = heldVolume (applyWrites env.now db (syncPlan env db call).1) := by
  unfold ensureFilledEntryOrderPosition syncFilledEntryOrderToPosition
  simp only [hcall, hresult, truthyId_some hne]
  exact heldVolume_congr (adoptPositionInRelevantSession_livePositions _ _ _)

theorem heldVolume_ensure_unnamed (hcall : ensuredSyncCall log source = some call)
    (hresult : truthyId (syncPlan env db call).2.positionId = none)
    (hwrites : (syncPlan env db call).1 = []) (hprice : 0 < entryPriceFromLog log)
    (hvolume : orNum log.executedVolume (toFloat log.volume) = f.volume) (hpos : 0 < f.volume) :
    heldVolume (ensureFilledEntryOrderPosition env db log source) = heldVolume db + f.volume := by
  unfold ensureFilledEntryOrderPosition syncFilledEntryOrderToPosition
  simp only [hcall, hresult, hwrites, applyWrites_nil]
  exact heldVolume_recoverPosition hprice hvolume hpos

theorem heldVolume_applyOrderUuidDelta (now : UtcTime) {ledger : OrderApplication}
    {p : LivePosition} (hload : loadLivePosition db ledger.positionId = some p) :
    heldVolume (applyWrites now db (applyOrderUuidDelta db ledger f source session).1)
      = heldVolume db + (if deltaTolerance < f.volume - ledger.previousVolume then
          p.entryVolume + (f.volume - ledger.previousVolume) - p.held else 0) := by
  rw [heldVolume_applyWrites, filter_recordsFill_applyOrderUuidDelta]
  simp only [deltaTolerance_lt_deltaVolume_iff, hload, Option.toList_some, List.flatMap_cons, List.flatMap_nil,
    List.append_nil]
  split_ifs with h
  · have hdelta : deltaVolume ledger f = f.volume - ledger.previousVolume :=
      deltaVolume_of_rises (deltaTolerance_lt_deltaVolume_iff.mpr h)
    have hheld : heldVolume (updateLivePosition db ledger.positionId
          (deltaPositionUpdates p f (deltaVolume ledger f) (deltaAmount ledger f)) now)
        = heldVolume db + (p.entryVolume + (f.volume - ledger.previousVolume) - p.held) := by
      rw [heldVolume_update_of_load _ now hload, LivePosition.held_of_ne (fun hc => by cases hc),
        ← hdelta]
      rfl
    rw [← hheld]
    -- the writes after the position's leave the positions alone
    refine heldVolume_congr ?_
    unfold deltaRecords recordLedger
    cases loadPositionFillEvent db f.orderUuid ledger.fillType <;> rfl
  · exact (add_zero _).symm

/-- **What a sync adds.** -/
theorem heldVolume_syncFilledOrder (now : UtcTime) :
    heldVolume (applyWrites now db (syncFilledOrder env db f source session).1)
      = heldVolume db + syncGains db session f := by
  unfold syncFilledOrder syncGains
  dsimp only
  cases happlied : applicationOf db f.orderUuid with
  | some ledger =>
    dsimp only
    cases hload : loadLivePosition db ledger.positionId with
    | some p =>
      rw [heldVolume_applyOrderUuidDelta now hload]
      rfl
    | none =>
      unfold applyOrderUuidDelta
      rw [hload]
      exact (add_zero _).symm
  | none =>
    have hnew := ((applicationOf_eq_none db).mp happlied).2
    simp only [hnew]
    unfold scaleInTarget
    cases htarget : resolveScaleInTarget db session f.canonicalLog
        (scalePreview f.canonicalLog) with
    | some targetId =>
      simp only [Option.isSome_some, if_true, Option.bind_some]
      rw [heldVolume_applyWrites, filter_recordsFill_applyScaleIn]
      cases hopened : (loadLivePosition db targetId).filter (fun p => p.status == .opened) with
      | none => exact (add_zero _).symm
      | some position =>
        obtain ⟨hload, hstatus⟩ := Option.filter_eq_some_iff.mp hopened
        have hheld : position.held = position.entryVolume :=
          LivePosition.held_of_ne (by rw [beq_iff_eq.mp hstatus]; decide)
        refine (heldVolume_update_of_load
          (scaleInPositionUpdates env position f) now hload).trans ?_
        rw [LivePosition.held_of_ne (fun hc => by cases hc), hheld]
        show heldVolume db + (position.entryVolume + f.volume - position.entryVolume)
          = heldVolume db + f.volume
        ring
    | none =>
      simp only [Option.isSome_none, Bool.false_eq_true, if_false]
      cases hexisting : loadLivePositionByEntryOrderUuid db session.exchange session.market
          f.orderUuid with
      | some existing =>
        simp only [Option.isSome_some, if_true, add_zero]
        rw [heldVolume_applyWrites, filter_recordsFill_adoptExisting]
        refine heldVolume_congr ?_
        split_ifs <;> rfl
      | none =>
        simp only [Option.isSome_none, Bool.false_eq_true, if_false]
        rw [heldVolume_applyWrites, filter_recordsFill_createPosition]
        exact heldVolume_create _ (fun _ => rfl)

/-- **What a filled entry order adds.** -/
theorem heldVolume_ensureFilledEntryOrderPosition
    (hcall : ensuredSyncCall log source = some call)
    (hf : filledOrder db call.orderLog call.rawOrder call.session = .ok f)
    (hrow : f.canonicalLog = some row) (hprice : 0 < entryPriceFromLog log)
    (hvolume : orNum log.executedVolume (toFloat log.volume) = f.volume) :
    heldVolume (ensureFilledEntryOrderPosition env db log source)
      = heldVolume db + entryGains db call.session row f.orderUuid f.volume := by
  have hpos : 0 < f.volume := (filledOrder_ok_spec hf).2.2.2.2.2.1
  have hpreview : row.orderPreviewPayload.scaleIn = scalePreview f.canonicalLog := by
    rw [hrow]; rfl
  have hplan : syncPlan env db call = syncFilledOrder env db f call.source call.session := by
    unfold syncPlan; rw [hf]
  -- a position is named: the sync is all there is
  have hnamed : ∀ positionId,
      (syncFilledOrder env db f call.source call.session).2.positionId = some positionId →
      positionId ≠ 0 → heldVolume (ensureFilledEntryOrderPosition env db log source)
        = heldVolume db + syncGains db call.session f := by
    intro positionId hresult hne
    rw [heldVolume_ensure_named hcall (hplan ▸ hresult) hne, hplan]
    exact heldVolume_syncFilledOrder env.now
  -- none is named, and nothing written: the position is recovered
  have hunnamed : truthyId (syncFilledOrder env db f call.source call.session).2.positionId = none →
      (syncFilledOrder env db f call.source call.session).1 = [] →
      heldVolume (ensureFilledEntryOrderPosition env db log source)
        = heldVolume db + f.volume := by
    intro hresult hwrites
    exact heldVolume_ensure_unnamed hcall (hplan ▸ hresult) (hplan ▸ hwrites) hprice hvolume hpos
  unfold syncGains at hnamed
  unfold syncFilledOrder at hnamed hunnamed
  unfold entryGains
  rw [hpreview, ← hrow]
  cases happlied : applicationOf db f.orderUuid with
  | some ledger =>
    simp only [happlied] at hnamed hunnamed ⊢
    unfold applyOrderUuidDelta at hnamed hunnamed
    cases hload : loadLivePosition db ledger.positionId with
    | some p =>
      simp only [hload] at hnamed
      refine hnamed ledger.positionId ?_ (Nat.pos_iff_ne_zero.mp (Table.get?_pos hload))
      split <;> rfl
    | none =>
      simp only [hload] at hnamed hunnamed ⊢
      split_ifs with hzero
      · rw [hzero] at hunnamed
        exact hunnamed rfl trivial
      · exact hnamed ledger.positionId rfl hzero
  | none =>
    have hnew := ((applicationOf_eq_none db).mp happlied).2
    simp only [happlied, hnew] at hnamed hunnamed ⊢
    cases htarget : resolveScaleInTarget db call.session f.canonicalLog
        (scalePreview f.canonicalLog) with
    | some targetId =>
      unfold scaleInTarget applyScaleIn at hnamed
      unfold applyScaleIn at hunnamed
      simp only [htarget, Option.bind_some] at hnamed hunnamed
      simp only [Option.isNone_some, Bool.false_eq_true, false_and, if_false]
      cases hopened : (loadLivePosition db targetId).filter (fun p => p.status == .opened) with
      | none =>
        simp only [hopened] at hunnamed
        exact hunnamed rfl trivial
      | some position =>
        simp only [hopened] at hnamed
        have hload := (Option.filter_eq_some_iff.mp hopened).1
        exact hnamed targetId rfl (Nat.pos_iff_ne_zero.mp (Table.get?_pos hload))
    | none =>
      simp only [htarget] at hnamed
      simp only [Option.isNone_none, true_and]
      cases hexisting : loadLivePositionByEntryOrderUuid db call.session.exchange
          call.session.market f.orderUuid with
      | some existing =>
        simp only [hexisting] at hnamed
        have hload := (loadLivePositionByEntryOrderUuid_mem hexisting).1
        exact hnamed existing.id rfl (Nat.pos_iff_ne_zero.mp (Table.get?_pos hload))
      | none =>
        simp only [hexisting] at hnamed
        exact hnamed db.livePositions.nextId rfl
          (Nat.pos_iff_ne_zero.mp db.livePositions.nextId_pos)

end Entry

end AutoCoinBot
