/-
  LiveRecovery.ClosedPositions — when the exit sync and the status path
  take a position out of `CLOSED`.

  Neither looks at the status of the position they write. For each of them the
  inputs that reopen a closed position are named by a predicate on the arguments
  and the state before the call.
-/
import AutoCoinBot.LivePositionSync.Writes
import AutoCoinBot.LiveRecovery.Reconcile

namespace AutoCoinBot

open Library

/-! ## Closed positions -/

/-- The position is stored as `CLOSED`. -/
def IsClosed (positionId : ℕ) (db : Database) : Prop :=
  ∃ p, loadLivePosition db positionId = some p ∧ p.status = .closed

instance (positionId : ℕ) (db : Database) : Decidable (IsClosed positionId db) :=
  decidable_of_iff ((loadLivePosition db positionId).any (fun p => p.status == .closed) = true)
    (by unfold IsClosed; cases loadLivePosition db positionId <;> simp)

section Closed

variable {positionId : ℕ} {db db' : Database} {p : LivePosition}

theorem isClosed_of_load (hload : loadLivePosition db positionId = some p) :
    IsClosed positionId db ↔ p.status = .closed := by
  constructor
  · rintro ⟨q, hq, hc⟩
    rw [hload] at hq
    exact (Option.some.inj hq) ▸ hc
  · exact fun hc => ⟨p, hload, hc⟩

theorem isClosed_congr (h : loadLivePosition db positionId = loadLivePosition db' positionId) :
    IsClosed positionId db ↔ IsClosed positionId db' := by
  unfold IsClosed
  rw [h]

theorem isClosed_update_self (u : LivePositionUpdates) (now : UtcTime)
    (hload : loadLivePosition db positionId = some p) :
    IsClosed positionId (updateLivePosition db positionId u now)
      ↔ u.status.getD p.status = .closed := by
  have hself : loadLivePosition (updateLivePosition db positionId u now) positionId
      = some (p.merge u now) := by
    rw [loadLivePosition_update_self, hload]; rfl
  exact isClosed_of_load hself

end Closed

/-! ## The exit sync -/

def volumeOf (db : Database) (positionId : ℕ) : ℚ :=
  ((loadLivePosition db positionId).map LivePosition.entryVolume).getD 0

/-- What is left of `q` for `positionId` after the ids before it took theirs. -/
def fillReaching (db : Database) (ids : List ℕ) (q : ℚ) (positionId : ℕ) : ℚ :=
  max (q - ((ids.takeWhile (fun i => i != positionId)).map (fun i => max (volumeOf db i) 0)).sum) 0

/-- An aggregate fill of `q` reopens the position: nothing is left for it while the
order still waits, or what is left does not sell it off. -/
def AggregateFillReopens (db : Database) (ids : List ℕ) (q : ℚ) (stillWaiting : Bool)
    (positionId : ℕ) : Prop :=
  0 < volumeOf db positionId
    ∧ ((fillReaching db ids q positionId = 0 ∧ stillWaiting = true)
      ∨ (0 < fillReaching db ids q positionId
        ∧ balanceMismatchVolumeTolerance
          < volumeOf db positionId - fillReaching db ids q positionId))

/-- **When `sync_exit_order_position` reopens a closed position.** The order names
it, alone or among others, and is canceled or brings volume that does not sell
off what the row still shows. -/
def ExitSyncReopens (db : Database) (log : ExitOrderLog) (status : ReconciledOrderStatus)
    (positionId : ℕ) : Prop :=
  let ids := aggregateExitPositionIds log.toLiveOrderLog
  let q := (exitFillDelta log status).volume
  if ids = [] then
    truthyId log.positionId = some positionId
      ∧ (status.status = .canceled ∨ (status.status.isFill = true ∧ 0 < q
        ∧ balanceMismatchVolumeTolerance < volumeOf db positionId - q))
  else
    (positionForExitOrder db log.toLiveOrderLog).isSome ∧ positionId ∈ ids
      ∧ (status.status = .canceled ∨ (status.status.isFill = true ∧ 0 < q
        ∧ AggregateFillReopens db ids q status.stillWaiting positionId))

instance (db : Database) (log : ExitOrderLog) (status : ReconciledOrderStatus)
    (positionId : ℕ) : Decidable (ExitSyncReopens db log status positionId) := by
  unfold ExitSyncReopens AggregateFillReopens
  infer_instance

section ExitSync

variable {positionId : ℕ} {db : Database} {p : LivePosition}

theorem volumeOf_of_load (hload : loadLivePosition db positionId = some p) :
    volumeOf db positionId = p.entryVolume := by
  unfold volumeOf; rw [hload]; rfl

theorem exitUpdates_closed (fill : ExitFill) (orderUuid : Option String) (stillWaiting : Bool)
    (now : UtcTime) :
    ((exitUpdates p fill orderUuid stillWaiting now).status.getD p.status = .closed)
      ↔ p.entryVolume - fill.volume ≤ balanceMismatchVolumeTolerance := by
  have htol := balanceMismatchVolumeTolerance_pos.le
  have hrest : remainingAfter p fill.volume ≤ balanceMismatchVolumeTolerance
      ↔ p.entryVolume - fill.volume ≤ balanceMismatchVolumeTolerance := by
    unfold remainingAfter
    exact ⟨fun h => (le_max_left _ _).trans h, fun h => max_le h htol⟩
  rw [← hrest]
  unfold exitUpdates
  split
  · rename_i h
    simp [closeUpdates, h]
  · rename_i h
    simp only [reduceUpdates, Option.getD_some, h, iff_false]
    split <;> decide

theorem positionForExitOrder_closed_iff (hload : loadLivePosition db positionId = some p)
    (hclosed : p.status = .closed) (log : LiveOrderLog) :
    (∃ q, positionForExitOrder db log = some q ∧ q.id = positionId)
      ↔ truthyId log.positionId = some positionId := by
  unfold positionForExitOrder
  constructor
  · rintro ⟨q, hq, hid⟩
    split at hq
    · rename_i q' hq'
      cases hq
      obtain ⟨i, hi, hget⟩ := Option.bind_eq_some_iff.mp hq'
      rw [hi, ← hid, loadLivePosition_id db i hget]
    · -- the search by uuid sees active rows only
      simp only at hq
      split at hq
      · exact absurd hq (by simp)
      · have hmem := mem_selectActivePositions.mp (List.mem_of_find?_eq_some hq)
        rw [hid, hload] at hmem
        cases hmem.1
        rw [hclosed] at hmem
        exact absurd hmem.2.1 (by decide)
  · intro hid
    rw [hid, Option.bind_some, hload]
    exact ⟨p, rfl, loadLivePosition_id db positionId hload⟩

end ExitSync

/-! ## The aggregate loop -/

section Loop

variable (fill : ExitFill) (orderUuid : Option String) (stillWaiting : Bool) (now : UtcTime)

theorem loadLivePosition_syncAggregateExitPosition_ne (s : AggregateExit) {i j : ℕ}
    (hj : j ≠ i) :
    loadLivePosition (syncAggregateExitPosition fill orderUuid stillWaiting now s i).db j
      = loadLivePosition s.db j := by
  unfold syncAggregateExitPosition
  cases hload : loadLivePosition s.db i with
  | none => rfl
  | some p =>
    simp only
    split_ifs
    · rfl
    · exact loadLivePosition_update_ne s.db i _ now hj
    · rfl
    · rw [loadLivePosition_applyExitFill, loadLivePosition_id s.db i hload]
      simp [hj]

theorem remainingFill_syncAggregateExitPosition (s : AggregateExit) (i : ℕ)
    (hrest : 0 ≤ s.remainingFill) :
    (syncAggregateExitPosition fill orderUuid stillWaiting now s i).remainingFill
      = max (s.remainingFill - max (volumeOf s.db i) 0) 0 := by
  unfold syncAggregateExitPosition
  cases hload : loadLivePosition s.db i with
  | none =>
    have hzero : volumeOf s.db i = 0 := by unfold volumeOf; rw [hload]; rfl
    simp [hzero, hrest]
  | some p =>
    rw [volumeOf_of_load hload]
    simp only
    split_ifs with hvolume happlied
    · simp [max_eq_right hvolume, hrest]
    -- the fill was used up before this position
    all_goals
      have hv : 0 < p.entryVolume := not_le.mp hvolume
      rw [max_eq_left hv.le]
      try
        have hzero : s.remainingFill = 0 :=
          le_antisymm ((min_le_iff.mp happlied).resolve_left (not_le.mpr hv)) hrest
        rw [hzero, max_eq_right (by linarith)]
    -- the position takes its share
    rcases le_total p.entryVolume s.remainingFill with hle | hle
    · rw [min_eq_left hle]
    · rw [min_eq_right hle, sub_self, max_self, max_eq_right (by linarith)]

theorem remainingFill_foldl (ids : List ℕ) (s : AggregateExit) (hnodup : ids.Nodup)
    (hrest : 0 ≤ s.remainingFill) :
    (ids.foldl (syncAggregateExitPosition fill orderUuid stillWaiting now) s).remainingFill
      = max (s.remainingFill - (ids.map (fun i => max (volumeOf s.db i) 0)).sum) 0 := by
  induction ids generalizing s with
  | nil => simp [hrest]
  | cons i ids ih =>
    have hround := remainingFill_syncAggregateExitPosition fill orderUuid stillWaiting now s i
      hrest
    have hvolumes : ids.map (fun j => max (volumeOf
          (syncAggregateExitPosition fill orderUuid stillWaiting now s i).db j) 0)
        = ids.map (fun j => max (volumeOf s.db j) 0) := by
      refine List.map_congr_left fun j hj => ?_
      have hne : j ≠ i := fun h => (List.nodup_cons.mp hnodup).1 (h ▸ hj)
      unfold volumeOf
      rw [loadLivePosition_syncAggregateExitPosition_ne _ _ _ _ s hne]
    have hnonneg : 0 ≤ (ids.map (fun j => max (volumeOf s.db j) 0)).sum :=
      List.sum_nonneg (by
        intro x hx
        obtain ⟨j, _, rfl⟩ := List.mem_map.mp hx
        exact le_max_right _ _)
    rw [List.foldl_cons, ih _ (List.nodup_cons.mp hnodup).2 (hround ▸ le_max_right _ _),
      hvolumes, hround, List.map_cons, List.sum_cons]
    rcases le_total (s.remainingFill - max (volumeOf s.db i) 0) 0 with h | h
    · rw [max_eq_right h, max_eq_right (by linarith), max_eq_right (by linarith)]
    · rw [max_eq_left h, sub_sub]

theorem loadLivePosition_foldl_syncAggregateExitPosition_of_not_mem (ids : List ℕ)
    (s : AggregateExit) {j : ℕ} (hj : j ∉ ids) :
    loadLivePosition
        (ids.foldl (syncAggregateExitPosition fill orderUuid stillWaiting now) s).db j
      = loadLivePosition s.db j := by
  induction ids generalizing s with
  | nil => rfl
  | cons i ids ih =>
    rw [List.mem_cons, not_or] at hj
    rw [List.foldl_cons, ih _ hj.2, loadLivePosition_syncAggregateExitPosition_ne _ _ _ _ s hj.1]

theorem isClosed_syncAggregateExitPosition {s : AggregateExit} {positionId : ℕ}
    (hclosed : IsClosed positionId s.db) (hrest : 0 ≤ s.remainingFill) :
    IsClosed positionId
        (syncAggregateExitPosition fill orderUuid stillWaiting now s positionId).db
      ↔ ¬ (0 < volumeOf s.db positionId
          ∧ ((s.remainingFill = 0 ∧ stillWaiting = true)
            ∨ (0 < s.remainingFill ∧ balanceMismatchVolumeTolerance
                < volumeOf s.db positionId - s.remainingFill))) := by
  obtain ⟨p, hload, hp⟩ := hclosed
  have hid := loadLivePosition_id s.db positionId hload
  have htol := balanceMismatchVolumeTolerance_pos.le
  rw [volumeOf_of_load hload]
  unfold syncAggregateExitPosition
  simp only [hload]
  split_ifs with hvolume happlied hwaiting
  · exact iff_of_true ⟨p, hload, hp⟩ (fun h => absurd h.1 (not_lt.mpr hvolume))
  · -- nothing is left, and the row follows the waiting order
    have hv : 0 < p.entryVolume := not_le.mp hvolume
    have hzero : s.remainingFill = 0 :=
      le_antisymm ((min_le_iff.mp happlied).resolve_left hvolume) hrest
    rw [isClosed_update_self _ now hload]
    exact iff_of_false (fun h => by cases h) (not_not.mpr ⟨hv, .inl ⟨hzero, hwaiting⟩⟩)
  · have hzero : s.remainingFill = 0 :=
      le_antisymm ((min_le_iff.mp happlied).resolve_left hvolume) hrest
    refine iff_of_true ⟨p, hload, hp⟩ ?_
    rintro ⟨_, ⟨_, hw⟩ | ⟨hpos, _⟩⟩
    · exact hwaiting hw
    · exact absurd hzero (ne_of_gt hpos)
  · -- the position takes its share
    have hv : 0 < p.entryVolume := not_le.mp hvolume
    have hpos : 0 < s.remainingFill := (lt_min_iff.mp (not_le.mp happlied)).2
    have hself : loadLivePosition (applyExitFill s.db p
          (fill.piece (min p.entryVolume s.remainingFill)) orderUuid stillWaiting now) positionId
        = some (p.merge (exitUpdates p (fill.piece (min p.entryVolume s.remainingFill)) orderUuid
            stillWaiting now) now) := by
      rw [loadLivePosition_applyExitFill, hload]
      simp [hid]
    rw [isClosed_of_load hself, LivePosition.merge_status, exitUpdates_closed]
    show p.entryVolume - min p.entryVolume s.remainingFill ≤ _ ↔ _
    simp only [hv, hpos, ne_of_gt hpos, false_and, true_and, false_or, not_lt]
    rcases le_total p.entryVolume s.remainingFill with hle | hle
    · rw [min_eq_left hle, sub_self]
      exact iff_of_true htol (by linarith)
    · rw [min_eq_right hle]

theorem isClosed_aggregateExitLoop {db : Database} {positionId : ℕ} (log : ExitOrderLog)
    (status : ReconciledOrderStatus) {ids : List ℕ} (hclosed : IsClosed positionId db)
    (hnodup : ids.Nodup) (hmem : positionId ∈ ids) (hvolume : 0 ≤ fill.volume) :
    IsClosed positionId (aggregateExitLoop db log status ids fill now).db
      ↔ ¬ AggregateFillReopens db ids fill.volume status.stillWaiting positionId := by
  obtain ⟨pre, post, rfl⟩ := List.append_of_mem hmem
  obtain ⟨hpre, hpost⟩ : positionId ∉ pre ∧ positionId ∉ post := by
    rw [List.nodup_append, List.nodup_cons] at hnodup
    exact ⟨fun h => hnodup.2.2 _ h _ List.mem_cons_self rfl, hnodup.2.1.1⟩
  have hbefore : (pre ++ positionId :: post).takeWhile (fun i => i != positionId) = pre := by
    rw [List.takeWhile_append_of_pos (fun i hi => by
        simpa using fun h : i = positionId => hpre (h ▸ hi)),
      List.takeWhile_cons_of_neg (by simp), List.append_nil]
  unfold aggregateExitLoop AggregateFillReopens fillReaching
  rw [List.foldl_append, List.foldl_cons, hbefore]
  set s₀ : AggregateExit := { db := db, remainingFill := fill.volume } with hs₀
  set s₁ := pre.foldl (syncAggregateExitPosition fill log.orderUuid status.stillWaiting now) s₀
    with hs₁
  -- the rounds before the position leave its row alone
  have hload₁ : loadLivePosition s₁.db positionId = loadLivePosition db positionId :=
    loadLivePosition_foldl_syncAggregateExitPosition_of_not_mem _ _ _ _ pre s₀ hpre
  have hrest₁ : s₁.remainingFill
      = max (fill.volume - (pre.map (fun i => max (volumeOf db i) 0)).sum) 0 :=
    remainingFill_foldl _ _ _ _ pre s₀ (List.nodup_append.mp hnodup).1 hvolume
  have hvolume₁ : volumeOf s₁.db positionId = volumeOf db positionId := by
    unfold volumeOf; rw [hload₁]
  have hround := isClosed_syncAggregateExitPosition fill log.orderUuid status.stillWaiting now
    ((isClosed_congr hload₁).mpr hclosed) (hrest₁ ▸ le_max_right _ _)
  rw [hvolume₁, hrest₁] at hround
  rw [← hround]
  exact isClosed_congr
    (loadLivePosition_foldl_syncAggregateExitPosition_of_not_mem _ _ _ _ post _ hpost)

end Loop

/-! ## The exit sync of a closed position -/

section Sync

variable {positionId : ℕ} {db : Database}

theorem isClosed_foldl_reopen (ids : List ℕ) (now : UtcTime) (hclosed : IsClosed positionId db) :
    IsClosed positionId
        (ids.foldl (fun db i => updateLivePosition db i reopenUpdates now) db)
      ↔ positionId ∉ ids := by
  obtain ⟨p, hload, hp⟩ := hclosed
  have hafter : loadLivePosition
        (ids.foldl (fun db i => updateLivePosition db i reopenUpdates now) db) positionId
      = some (if positionId ∈ ids then p.merge reopenUpdates now else p) := by
    rw [loadLivePosition_foldl_update, hload]; rfl
  rw [isClosed_of_load hafter]
  split_ifs with h
  · exact iff_of_false (fun hc => by cases hc) (not_not.mpr h)
  · exact iff_of_true hp h

theorem isClosed_syncExitOrderPosition_single {log : ExitOrderLog}
    (status : ReconciledOrderStatus) (now : UtcTime) (hclosed : IsClosed positionId db)
    (hids : aggregateExitPositionIds log.toLiveOrderLog = []) :
    IsClosed positionId (syncExitOrderPosition db log status now)
      ↔ ¬ ExitSyncReopens db log status positionId := by
  obtain ⟨p, hload, hp⟩ := id hclosed
  have hfound := positionForExitOrder_closed_iff hload hp log.toLiveOrderLog
  unfold ExitSyncReopens
  simp only [hids, if_true, ← hfound, volumeOf_of_load hload]
  cases hposition : positionForExitOrder db log.toLiveOrderLog with
  | none =>
    have hsame : syncExitOrderPosition db log status now = db := by
      unfold syncExitOrderPosition; rw [hposition]
    rw [hsame]
    exact iff_of_true hclosed (by simp)
  | some q =>
    simp only [Option.some.injEq, exists_eq_left']
    by_cases hfill : status.status.isFill = true
    · have hnc : status.status ≠ .canceled := by
        intro hc
        rw [hc] at hfill
        exact absurd hfill (by decide)
      simp only [hfill, hnc, true_and, false_or]
      by_cases hvolume : 0 < (exitFillDelta log status).volume
      · have hafter : loadLivePosition (syncExitOrderPosition db log status now) positionId
            = some (if positionId = q.id then p.merge (exitUpdates q (exitFillDelta log status)
                log.orderUuid status.stillWaiting now) now else p) := by
          rw [syncExitOrderPosition_fill hposition hids hfill hvolume,
            loadLivePosition_applyExitFill,
            loadLivePosition_congr (updateLiveOrderLog_livePositions _ _ _ _), hload]
          rfl
        rw [isClosed_of_load hafter]
        by_cases hq : q.id = positionId
        · -- the order's position is the closed one
          have hqp : q = p := by
            have hid := hfound.mp ⟨q, hposition, hq⟩
            unfold positionForExitOrder at hposition
            rw [hid, Option.bind_some, hload] at hposition
            exact (Option.some.inj hposition).symm
          rw [if_pos hq.symm, hqp, LivePosition.merge_status, exitUpdates_closed]
          simp [hqp ▸ hq, hvolume]
        · rw [if_neg (fun h => hq h.symm)]
          exact iff_of_true hp (fun h => hq h.1)
      · rw [syncExitOrderPosition_idle hids hfill (not_lt.mp hvolume)]
        exact iff_of_true hclosed (fun h => hvolume h.2.1)
    · have hnofill : status.status.isFill = false := by simpa using hfill
      rw [syncExitOrderPosition_noFill hposition hids hnofill]
      simp only [hnofill, Bool.false_eq_true, false_and, or_false]
      split_ifs with hc
      · refine (isClosed_foldl_reopen [q.id] now hclosed).trans ?_
        simp [hc, eq_comm]
      · exact iff_of_true hclosed (fun h => hc h.2)

/-- **A closed position stays closed through `sync_exit_order_position` exactly when
the order does not reopen it.** -/
theorem isClosed_syncExitOrderPosition (log : ExitOrderLog) (status : ReconciledOrderStatus)
    (now : UtcTime) (hclosed : IsClosed positionId db) :
    IsClosed positionId (syncExitOrderPosition db log status now)
      ↔ ¬ ExitSyncReopens db log status positionId := by
  by_cases hids : aggregateExitPositionIds log.toLiveOrderLog = []
  · exact isClosed_syncExitOrderPosition_single status now hclosed hids
  unfold ExitSyncReopens
  simp only [if_neg hids]
  cases hposition : positionForExitOrder db log.toLiveOrderLog with
  | none =>
    have hsame : syncExitOrderPosition db log status now = db := by
      unfold syncExitOrderPosition; rw [hposition]
    rw [hsame]
    exact iff_of_true hclosed (by simp)
  | some q =>
    rw [syncExitOrderPosition_aggregate hposition hids]
    simp only [Option.isSome_some, true_and]
    by_cases hmem : positionId ∈ aggregateExitPositionIds log.toLiveOrderLog
    · split_ifs with hfill hc
      · -- the fill is handed out over the positions
        have hnc : status.status ≠ .canceled := by
          intro hc
          rw [hc] at hfill
          exact absurd hfill (by decide)
        simp only [hmem, hfill, hnc, true_and, false_or]
        unfold syncAggregateExitOrderPositions
        split_ifs with hvolume
        · exact iff_of_true hclosed (fun h => absurd h.1 (not_lt.mpr hvolume))
        · rw [isClosed_congr (loadLivePosition_congr (updateLiveOrderLog_livePositions _ _ _ _) _),
            isClosed_aggregateExitLoop _ now log status hclosed
              (aggregateExitPositionIds_nodup _) hmem (not_le.mp hvolume).le]
          simp [not_le.mp hvolume]
      · rw [isClosed_foldl_reopen _ now hclosed]
        simp [hmem, hc]
      · exact iff_of_true hclosed (by simp [hfill, hc])
    · -- the order names other positions only
      refine iff_of_true ?_ (fun h => hmem h.1)
      split_ifs with hfill hc
      · unfold syncAggregateExitOrderPositions
        split_ifs
        · exact hclosed
        · exact (isClosed_congr ((loadLivePosition_congr
            (updateLiveOrderLog_livePositions _ _ _ _) _).trans
              (loadLivePosition_foldl_syncAggregateExitPosition_of_not_mem _ _ _ _ _ _
                hmem))).mpr hclosed
      · exact (isClosed_foldl_reopen _ now hclosed).mpr hmem
      · exact hclosed

end Sync

/-! ## The buy-fill sync and the status path -/

/-- **When the buy-fill sync reopens a closed position.** The order has been applied
to it before, and its executed volume has risen since. -/
def FillSyncReopens (db : Database) (c : SyncCall) (positionId : ℕ) : Prop :=
  ∃ f ∈ (filledOrder db c.orderLog c.rawOrder c.session).toOption,
    ∃ ledger ∈ applicationOf db f.orderUuid,
      ledger.positionId = positionId ∧ deltaTolerance < deltaVolume ledger f

instance (db : Database) (c : SyncCall) (positionId : ℕ) :
    Decidable (FillSyncReopens db c positionId) :=
  inferInstanceAs (Decidable (∃ f ∈ (filledOrder db c.orderLog c.rawOrder c.session).toOption,
    ∃ ledger ∈ applicationOf db f.orderUuid,
      ledger.positionId = positionId ∧ deltaTolerance < deltaVolume ledger f))

/-- **When `apply_reconciled_order_status` reopens a closed position**: as the exit
sync does for an exit order, as the buy-fill sync does for a filled entry. -/
def StatusReopens (db : Database) (log : LiveOrderLog) (status : ReconciledOrderStatus)
    (source : String) (now : UtcTime) (positionId : ℕ) : Prop :=
  let db := updateLiveOrderLog db log.requestId (reconciledUpdates log status) now
  let updated := reconciledLog log status
  if isExitOrder updated.toLiveOrderLog then ExitSyncReopens db updated status positionId
  else status.status = .filled
    ∧ ∃ call ∈ ensuredSyncCall updated.toLiveOrderLog (source ++ "_POSITION_SYNC"),
        FillSyncReopens db call positionId

instance (db : Database) (log : LiveOrderLog) (status : ReconciledOrderStatus) (source : String)
    (now : UtcTime) (positionId : ℕ) :
    Decidable (StatusReopens db log status source now positionId) := by
  unfold StatusReopens
  infer_instance

section FillSync

variable {positionId : ℕ} {db : Database}

theorem positionUpdates_syncFilledOrder_closed (env : SyncEnv) (f : FilledOrder)
    (source : String) (session : SyncSession) (hclosed : IsClosed positionId db) :
    (positionUpdates (syncFilledOrder env db f source session).1 positionId = []
        ∧ ¬ ∃ ledger ∈ applicationOf db f.orderUuid,
            ledger.positionId = positionId ∧ deltaTolerance < deltaVolume ledger f)
      ∨ (∃ u : LivePositionUpdates, u.status = some .opened
          ∧ positionUpdates (syncFilledOrder env db f source session).1 positionId = [u]
          ∧ ∃ ledger ∈ applicationOf db f.orderUuid,
              ledger.positionId = positionId ∧ deltaTolerance < deltaVolume ledger f) := by
  obtain ⟨p, hload, hp⟩ := hclosed
  rw [positionUpdates_syncFilledOrder]
  cases happlied : applicationOf db f.orderUuid with
  | some ledger =>
    simp only [Option.mem_some_iff, exists_eq_left']
    rw [positionUpdates_applyOrderUuidDelta]
    by_cases hrises : ledger.positionId = positionId ∧ deltaTolerance < deltaVolume ledger f
    · right
      refine ⟨deltaPositionUpdates p f (deltaVolume ledger f) (deltaAmount ledger f), rfl, ?_,
        hrises⟩
      rw [hrises.1, hload]
      exact if_pos ⟨rfl, hrises.2⟩
    · left
      refine ⟨?_, hrises⟩
      cases loadLivePosition db ledger.positionId with
      | none => rfl
      | some q => exact if_neg hrises
  | none =>
    left
    refine ⟨?_, by simp⟩
    cases resolveScaleInTarget db session f.canonicalLog (scalePreview f.canonicalLog) with
    | none => rfl
    | some targetId =>
      simp only
      split_ifs
      · rfl
      · rw [positionUpdates_applyScaleIn]
        split
        · rfl
        · -- a scale-in goes to an open position only
          rename_i q hq
          obtain ⟨hq, hopen⟩ := Option.filter_eq_some_iff.mp hq
          refine if_neg fun htarget => ?_
          rw [htarget, hload] at hq
          cases hq
          rw [hp] at hopen
          exact absurd hopen (by decide)

/-- **A closed position stays closed through the buy-fill sync exactly when the order
does not reopen it.** -/
theorem isClosed_syncFilledEntryOrderToPosition (env : SyncEnv) (c : SyncCall)
    (hclosed : IsClosed positionId db) :
    IsClosed positionId (syncFilledEntryOrderToPosition env db c).1
      ↔ ¬ FillSyncReopens db c positionId := by
  obtain ⟨p, hload, hp⟩ := id hclosed
  have hafter := loadLivePosition_applyWrites env.now db (syncPlan env db c).1 hload
  show IsClosed positionId (applyWrites env.now db (syncPlan env db c).1) ↔ _
  rw [isClosed_of_load hafter]
  unfold FillSyncReopens syncPlan
  cases filledOrder db c.orderLog c.rawOrder c.session with
  | error reason => exact iff_of_true hp (by simp [Except.toOption])
  | ok f =>
    simp only [Except.toOption, Option.mem_some_iff, exists_eq_left']
    rcases positionUpdates_syncFilledOrder_closed env f c.source c.session hclosed
      with ⟨hnone, hnot⟩ | ⟨u, hopened, hone, hrises⟩
    · rw [hnone]
      exact iff_of_true hp hnot
    · rw [hone]
      refine iff_of_false ?_ (not_not.mpr hrises)
      rw [List.foldl_cons, List.foldl_nil, LivePosition.merge_status, hopened]
      exact fun h => by cases h

theorem adoptPositionInRelevantSession_livePositions (log : LiveOrderLog) (i : ℕ)
    (riskResult : String) :
    (adoptPositionInRelevantSession db log i riskResult).livePositions = db.livePositions := by
  unfold adoptPositionInRelevantSession
  simp only
  cases truthyId log.sessionId with
  | none =>
    simp only
    split
    · rfl
    · split_ifs <;> rfl
  | some sessionId =>
    simp only
    split
    · rfl
    · split_ifs <;> rfl

theorem loadLivePosition_recoverPosition (env : SyncEnv) (log : LiveOrderLog)
    (session : SyncSession) {p : LivePosition} (hload : loadLivePosition db positionId = some p) :
    loadLivePosition (recoverPosition env db log session) positionId = some p := by
  unfold recoverPosition
  simp only
  split_ifs
  · exact hload
  · rw [loadLivePosition_congr (adoptPositionInRelevantSession_livePositions _ _ _),
      loadLivePosition_congr (updateLiveOrderLog_livePositions _ _ _ _)]
    exact (Table.get?_insert_of_ne db.livePositions _ (fun _ => rfl)
      (Nat.ne_of_lt (Table.get?_lt_nextId hload))).trans hload

theorem isClosed_ensureFilledEntryOrderPosition (env : SyncEnv) (log : LiveOrderLog)
    (source : String) (hclosed : IsClosed positionId db) :
    IsClosed positionId (ensureFilledEntryOrderPosition env db log source)
      ↔ ¬ ∃ call ∈ ensuredSyncCall log source, FillSyncReopens db call positionId := by
  unfold ensureFilledEntryOrderPosition
  cases ensuredSyncCall log source with
  | none => exact iff_of_true hclosed (by simp)
  | some call =>
    simp only [Option.mem_some_iff, exists_eq_left']
    rw [← isClosed_syncFilledEntryOrderToPosition env call hclosed]
    split
    · exact isClosed_congr
        (loadLivePosition_congr (adoptPositionInRelevantSession_livePositions _ _ _) _)
    · obtain ⟨p, hload, _⟩ := id hclosed
      have hsynced := loadLivePosition_applyWrites env.now db (syncPlan env db call).1 hload
      exact isClosed_congr
        ((loadLivePosition_recoverPosition env log call.session hsynced).trans hsynced.symm)

/-- **A closed position stays closed through `apply_reconciled_order_status` exactly
when the status does not reopen it.** -/
theorem isClosed_applyReconciledOrderStatus (env : SyncEnv) (log : LiveOrderLog)
    (status : ReconciledOrderStatus) (source : String) (hclosed : IsClosed positionId db) :
    IsClosed positionId (applyReconciledOrderStatus env db log status source)
      ↔ ¬ StatusReopens db log status source env.now positionId := by
  have hupdated : IsClosed positionId
      (updateLiveOrderLog db log.requestId (reconciledUpdates log status) env.now) :=
    (isClosed_congr (loadLivePosition_congr (updateLiveOrderLog_livePositions _ _ _ _) _)).mpr
      hclosed
  unfold applyReconciledOrderStatus StatusReopens
  simp only
  split_ifs with hexit hfilled
  · exact isClosed_syncExitOrderPosition _ status env.now hupdated
  · simp only [hfilled, true_and]
    exact isClosed_ensureFilledEntryOrderPosition env _ _ hupdated
  · exact iff_of_true hupdated (fun h => hfilled h.1)

end FillSync

end AutoCoinBot
