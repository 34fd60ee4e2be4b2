/-
  LiveRecovery.BookedFills — whether a buy order's volume is in the positions, and
  what its syncs add; whether the rows of an exit order hold what it has sold.
-/
import AutoCoinBot.LiveRecovery.FinishedOrders

namespace AutoCoinBot

open Library

/-! ## Closed rows -/

/-- No row shows less than it holds: a closed one no volume below zero. -/
def VolumesShown (db : Database) : Prop :=
  ∀ i p, loadLivePosition db i = some p → p.held ≤ p.entryVolume

theorem LivePosition.held_le_of_ne {p : LivePosition} (h : p.status ≠ .closed) :
    p.held ≤ p.entryVolume := (LivePosition.held_of_ne h).le

section Shown

variable {db db' : Database}

theorem volumesShown_congr (h : db'.livePositions = db.livePositions) (hdb : VolumesShown db) :
    VolumesShown db' := by
  intro i p hload
  rw [loadLivePosition_congr h] at hload
  exact hdb i p hload

theorem volumesShown_update {i : ℕ} {u : LivePositionUpdates} {status : PositionStatus}
    (hstatus : u.status = some status) (hopen : status ≠ .closed) (now : UtcTime)
    (hdb : VolumesShown db) : VolumesShown (updateLivePosition db i u now) := by
  intro j p hload
  rw [loadLivePosition_update] at hload
  obtain ⟨q, hq, rfl⟩ := Option.map_eq_some_iff.mp hload
  split_ifs
  · refine LivePosition.held_le_of_ne ?_
    rw [LivePosition.merge_status, hstatus]
    exact hopen
  · exact hdb j q hq

theorem volumesShown_create {position : ℕ → LivePosition} (hid : ∀ k, (position k).id = k)
    (hopen : ∀ k, (position k).status ≠ .closed) (hdb : VolumesShown db) :
    VolumesShown (createLivePosition db position hid) := by
  intro j p hload
  by_cases hj : j = db.livePositions.nextId
  · have hself : loadLivePosition (createLivePosition db position hid) j
        = some (position db.livePositions.nextId) :=
      hj ▸ Table.get?_insert_self db.livePositions position hid
    rw [hself] at hload
    cases hload
    exact LivePosition.held_le_of_ne (hopen _)
  · have hother : loadLivePosition (createLivePosition db position hid) j
        = loadLivePosition db j :=
      Table.get?_insert_of_ne db.livePositions position hid hj
    rw [hother] at hload
    exact hdb j p hload

end Shown

/-! ## The rows a sync writes are open -/

/-- A write that leaves the row it writes open. -/
def SyncWrite.Opens : SyncWrite → Prop
  | .createLivePosition p => p.status = .opened
  | .updateLivePosition _ u => u.status = some .opened
  | _ => True

section Opens

variable {env : SyncEnv} {db : Database} {f : FilledOrder} {source : String}
  {session : SyncSession}

theorem volumesShown_applyWrites (now : UtcTime) {ws : List SyncWrite} (hws : ∀ w ∈ ws, w.Opens)
    (hdb : VolumesShown db) : VolumesShown (applyWrites now db ws) := by
  induction ws generalizing db with
  | nil => exact hdb
  | cons w ws ih =>
    obtain ⟨hw, hrest⟩ := List.forall_mem_cons.mp hws
    rw [applyWrites_cons]
    refine ih hrest ?_
    cases w with
    | createLivePosition p =>
      refine volumesShown_create (fun _ => rfl) (fun k => ?_) hdb
      have hopened : p.status = .opened := hw
      show p.status ≠ .closed
      rw [hopened]
      decide
    | updateLivePosition i u => exact volumesShown_update hw (by decide) now hdb
    | insertPositionFillEvent e => exact volumesShown_congr rfl hdb
    | updatePositionFillEvent i u => exact volumesShown_congr rfl hdb
    | upsertOrderApplicationLedger l => exact volumesShown_congr rfl hdb
    | attachLog r i => exact volumesShown_congr (updateLiveOrderLog_livePositions _ _ _ _) hdb
    | updateLiveStrategySession i u => exact volumesShown_congr rfl hdb
    | finalizeEntryLifecycle i => exact volumesShown_congr (by simp [SyncWrite.apply]) hdb

theorem opens_of_not_recordsFill {w : SyncWrite} (h : w.recordsFill = false) : w.Opens := by
  cases w with
  | createLivePosition p => cases h
  | updateLivePosition i u => cases h
  | _ => trivial

theorem opens_of_filter {ws : List SyncWrite}
    (h : ∀ w ∈ ws.filter SyncWrite.recordsFill, w.Opens) : ∀ w ∈ ws, w.Opens := by
  intro w hw
  cases hrecords : w.recordsFill with
  | true => exact h w (List.mem_filter.mpr ⟨hw, hrecords⟩)
  | false => exact opens_of_not_recordsFill hrecords

theorem opens_deltaRecords (ledger : OrderApplication) (position : LivePosition) :
    ∀ w ∈ deltaRecords db ledger position f source, w.Opens := by
  intro w hw
  unfold deltaRecords at hw
  rcases List.mem_cons.mp hw with rfl | hw
  · rfl
  · rcases List.mem_append.mp hw with hw | hw
    · obtain ⟨event, _, rfl⟩ := List.mem_map.mp hw
      trivial
    · rw [List.mem_singleton.mp hw]
      trivial

theorem opens_syncFilledOrder : ∀ w ∈ (syncFilledOrder env db f source session).1, w.Opens := by
  refine opens_of_filter ?_
  unfold syncFilledOrder
  dsimp only
  cases applicationOf db f.orderUuid with
  | some ledger =>
    intro w hw
    dsimp only at hw
    rw [filter_recordsFill_applyOrderUuidDelta] at hw
    split_ifs at hw
    · obtain ⟨position, _, hw⟩ := List.mem_flatMap.mp hw
      exact opens_deltaRecords ledger position w hw
    · cases hw
  | none =>
    dsimp only
    split
    · -- the event is there already
      intro w hw
      unfold attachExistingEvent at hw
      simp at hw
    · cases resolveScaleInTarget db session f.canonicalLog (scalePreview f.canonicalLog) with
      | some targetId =>
        intro w hw
        dsimp only at hw
        rw [filter_recordsFill_applyScaleIn] at hw
        obtain ⟨position, _, hw⟩ := List.mem_flatMap.mp hw
        simp only [List.mem_cons, List.not_mem_nil, or_false] at hw
        rcases hw with rfl | rfl | rfl
        · trivial
        · trivial
        · rfl
      | none =>
        dsimp only
        split
        · intro w hw
          rw [filter_recordsFill_adoptExisting] at hw
          rcases List.mem_append.mp hw with hw | hw
          · split_ifs at hw
            · rw [List.mem_singleton.mp hw]
              trivial
            · cases hw
          · rw [List.mem_singleton.mp hw]
            trivial
        · intro w hw
          rw [filter_recordsFill_createPosition] at hw
          simp only [List.mem_cons, List.not_mem_nil, or_false] at hw
          rcases hw with rfl | rfl | rfl
          · rfl
          · trivial
          · trivial

theorem volumesShown_sync (env : SyncEnv) (c : SyncCall) (hdb : VolumesShown db) :
    VolumesShown (syncFilledEntryOrderToPosition env db c).1 := by
  show VolumesShown (applyWrites env.now db (syncPlan env db c).1)
  unfold syncPlan
  cases filledOrder db c.orderLog c.rawOrder c.session with
  | error reason => exact hdb
  | ok f => exact volumesShown_applyWrites env.now opens_syncFilledOrder hdb

end Opens

/-! ## A sync only adds -/

section Gains

variable {env : SyncEnv} {db : Database} {f : FilledOrder} {source : String}
  {session : SyncSession}

theorem syncGains_nonneg (hdb : VolumesShown db) (hvolume : 0 ≤ f.volume) :
    0 ≤ syncGains db session f := by
  have htol := deltaTolerance_pos.le
  unfold syncGains
  cases applicationOf db f.orderUuid with
  | some ledger =>
    dsimp only
    cases hload : loadLivePosition db ledger.positionId with
    | none => exact le_rfl
    | some p =>
      rw [Option.elim_some]
      split_ifs with hrises
      · linarith [hdb _ p hload]
      · exact le_rfl
  | none =>
    dsimp only
    split_ifs
    · cases scaleInTarget db session f with
      | none => exact le_rfl
      | some p => exact hvolume
    · exact le_rfl
    · exact hvolume

/-- **A sync takes no volume away.** -/
theorem heldVolume_sync_le (env : SyncEnv) (c : SyncCall) (hdb : VolumesShown db) :
    heldVolume db ≤ heldVolume (syncFilledEntryOrderToPosition env db c).1 := by
  show _ ≤ heldVolume (applyWrites env.now db (syncPlan env db c).1)
  unfold syncPlan
  cases hf : filledOrder db c.orderLog c.rawOrder c.session with
  | error reason => exact le_rfl
  | ok f =>
    dsimp only
    rw [heldVolume_syncFilledOrder]
    exact le_add_of_nonneg_right
      (syncGains_nonneg hdb (filledOrder_ok_spec hf).2.2.2.2.2.1.le)

end Gains

/-! ## Orders that are in no position -/

/-- The order has been applied, or a position was opened for it. -/
def entryBooked (db : Database) (uuid : String) : Bool :=
  (applicationOf db uuid).isSome
    || db.livePositions.rows.any (fun p => p.entryOrderUuid == some uuid)

/-- The sync takes the order for filled, and its scale-in target, if it has one, is open. -/
def syncAccepts (db : Database) (c : SyncCall) : Bool :=
  match filledOrder db c.orderLog c.rawOrder c.session with
  | .error _ => false
  | .ok f =>
    (resolveScaleInTarget db c.session f.canonicalLog (scalePreview f.canonicalLog)).isNone
      || (scaleInTarget db c.session f).isSome

section Unbooked

variable {env : SyncEnv} {db db' : Database} {c : SyncCall} {uuid : String} {volume : ℚ}

theorem entryBooked_congr (h : SameFills db' db) (uuid : String) :
    entryBooked db' uuid = entryBooked db uuid := by
  unfold entryBooked
  rw [h.applicationOf, h.livePositions]

theorem entryBooked_eq_false :
    entryBooked db uuid = false ↔ applicationOf db uuid = none
      ∧ ∀ p ∈ db.livePositions.rows, p.entryOrderUuid ≠ some uuid := by
  unfold entryBooked
  rw [Bool.or_eq_false_iff, Option.isSome_eq_false_iff, Option.isNone_iff_eq_none,
    List.any_eq_false]
  simp only [beq_iff_eq]

theorem entryBooked_updateLivePosition (i : ℕ) (u : LivePositionUpdates) (now : UtcTime)
    (uuid : String) : entryBooked (updateLivePosition db i u now) uuid = entryBooked db uuid := by
  have hrows : (updateLivePosition db i u now).livePositions.rows
      = db.livePositions.rows.map
          (fun p => if (Row.rowId p == i) = true then p.merge u now else p) := rfl
  have happlied : applicationOf (updateLivePosition db i u now) uuid = applicationOf db uuid :=
    applicationOf_congr rfl rfl uuid
  unfold entryBooked
  rw [happlied, hrows, List.any_map]
  congr 2
  funext p
  rw [Function.comp_apply]
  split_ifs <;> rfl

theorem loadLivePositionByEntryOrderUuid_unbooked (hbooked : entryBooked db uuid = false)
    (exchange market : String) :
    loadLivePositionByEntryOrderUuid db exchange market uuid = none := by
  cases hexisting : loadLivePositionByEntryOrderUuid db exchange market uuid with
  | none => rfl
  | some p =>
    obtain ⟨hload, _, huuid⟩ := loadLivePositionByEntryOrderUuid_mem hexisting
    have hmem : p ∈ db.livePositions.rows := Table.mem_rows_iff.mpr hload
    exact absurd huuid ((entryBooked_eq_false.mp hbooked).2 p hmem)

theorem filledOrder_executed {f : FilledOrder}
    (hf : filledOrder db c.orderLog c.rawOrder c.session = .ok f)
    (hvolume : toFloat c.rawOrder.executedVolume = volume) (hne : volume ≠ 0) :
    f.volume = volume := by
  rw [(filledOrder_ok_spec hf).2.2.2.1]
  unfold filledVolume
  rw [hvolume]
  exact orNum_of_ne _ hne

theorem syncFilledOrder_unbooked (env : SyncEnv) {f : FilledOrder}
    (hbooked : entryBooked db f.orderUuid = false)
    (source : String) (session : SyncSession) :
    syncFilledOrder env db f source session
      = match resolveScaleInTarget db session f.canonicalLog (scalePreview f.canonicalLog) with
        | some targetId => applyScaleIn env db targetId f source session
        | none => createPosition env db f source session := by
  have hnone := (entryBooked_eq_false.mp hbooked).1
  have hnew := ((applicationOf_eq_none db).mp hnone).2
  have hexisting := loadLivePositionByEntryOrderUuid_unbooked hbooked session.exchange
    session.market
  unfold syncFilledOrder
  cases resolveScaleInTarget db session f.canonicalLog (scalePreview f.canonicalLog) with
  | none => simp only [hnone, hnew, hexisting]
  | some targetId => simp only [hnone, hnew]

theorem syncGains_unbooked {f : FilledOrder} (hbooked : entryBooked db f.orderUuid = false)
    (session : SyncSession) :
    syncGains db session f
      = match resolveScaleInTarget db session f.canonicalLog (scalePreview f.canonicalLog) with
        | some _ => (scaleInTarget db session f).elim 0 (fun _ => f.volume)
        | none => f.volume := by
  unfold syncGains
  rw [(entryBooked_eq_false.mp hbooked).1, loadLivePositionByEntryOrderUuid_unbooked hbooked]
  cases resolveScaleInTarget db session f.canonicalLog (scalePreview f.canonicalLog) <;> rfl

/-- **An accepted order is added**, and its position is named. -/
theorem sync_accepted (env : SyncEnv) (hbooked : entryBooked db uuid = false)
    (huuid : syncOrderUuid c.orderLog c.rawOrder c.session = uuid)
    (hvolume : toFloat c.rawOrder.executedVolume = volume) (hne : volume ≠ 0)
    (haccepts : syncAccepts db c = true) :
    heldVolume (syncFilledEntryOrderToPosition env db c).1 = heldVolume db + volume
      ∧ (truthyId (syncFilledEntryOrderToPosition env db c).2.positionId).isSome = true := by
  unfold syncAccepts at haccepts
  cases hf : filledOrder db c.orderLog c.rawOrder c.session with
  | error reason => simp [hf] at haccepts
  | ok f =>
    simp only [hf] at haccepts
    have hplan : syncPlan env db c = syncFilledOrder env db f c.source c.session := by
      unfold syncPlan; rw [hf]
    have hfvolume : f.volume = volume := filledOrder_executed hf hvolume hne
    rw [← (filledOrder_ok_spec hf).1.trans huuid] at hbooked
    have hgains := syncGains_unbooked hbooked c.session
    have hwrites := syncFilledOrder_unbooked env hbooked c.source c.session
    show heldVolume (applyWrites env.now db (syncPlan env db c).1) = _
      ∧ (truthyId (syncPlan env db c).2.positionId).isSome = true
    rw [hplan, heldVolume_syncFilledOrder, hgains, hwrites]
    cases htarget : resolveScaleInTarget db c.session f.canonicalLog
        (scalePreview f.canonicalLog) with
    | none =>
      refine ⟨congrArg _ hfvolume, ?_⟩
      exact congrArg Option.isSome (truthyId_some (Nat.pos_iff_ne_zero.mp
        db.livePositions.nextId_pos))
    | some targetId =>
      rw [htarget] at haccepts
      obtain ⟨position, hopened⟩ := Option.isSome_iff_exists.mp
        ((Bool.or_eq_true _ _).mp haccepts |>.resolve_left (by simp))
      have hfilter : (loadLivePosition db targetId).filter (fun p => p.status == .opened)
          = some position := by
        unfold scaleInTarget at hopened
        rwa [htarget, Option.bind_some] at hopened
      have hload := (Option.filter_eq_some_iff.mp hfilter).1
      dsimp only
      rw [hopened, Option.elim_some]
      refine ⟨congrArg _ hfvolume, ?_⟩
      unfold applyScaleIn
      rw [hfilter]
      exact congrArg Option.isSome (truthyId_some (Nat.pos_iff_ne_zero.mp
        (Table.get?_pos hload)))

/-- **A refused one is not**: nothing is written. -/
theorem sync_refused (env : SyncEnv) (hbooked : entryBooked db uuid = false)
    (huuid : syncOrderUuid c.orderLog c.rawOrder c.session = uuid)
    (hrefuses : syncAccepts db c = false) :
    (syncFilledEntryOrderToPosition env db c).1 = db
      ∧ truthyId (syncFilledEntryOrderToPosition env db c).2.positionId = none := by
  show applyWrites env.now db (syncPlan env db c).1 = db
    ∧ truthyId (syncPlan env db c).2.positionId = none
  unfold syncAccepts at hrefuses
  unfold syncPlan
  cases hf : filledOrder db c.orderLog c.rawOrder c.session with
  | error reason => exact ⟨rfl, rfl⟩
  | ok f =>
    simp only [hf, Bool.or_eq_false_iff] at hrefuses
    rw [← (filledOrder_ok_spec hf).1.trans huuid] at hbooked
    obtain ⟨htarget, hopened⟩ := hrefuses
    dsimp only
    rw [syncFilledOrder_unbooked env hbooked]
    cases hresolved : resolveScaleInTarget db c.session f.canonicalLog
        (scalePreview f.canonicalLog) with
    | none => rw [hresolved] at htarget; cases htarget
    | some targetId =>
      have hfilter : (loadLivePosition db targetId).filter (fun p => p.status == .opened)
          = none := by
        unfold scaleInTarget at hopened
        rwa [hresolved, Option.bind_some, Option.isSome_eq_false_iff,
          Option.isNone_iff_eq_none] at hopened
      dsimp only
      unfold applyScaleIn
      rw [hfilter]
      exact ⟨rfl, rfl⟩

end Unbooked

/-! ## The status path -/

section Ensure

variable {env : SyncEnv} {db : Database} {log : LiveOrderLog} {source : String} {call : SyncCall}

theorem sameFills_adoptPositionInRelevantSession (positionId : ℕ) (riskResult : String) :
    SameFills (adoptPositionInRelevantSession db log positionId riskResult) db := by
  unfold adoptPositionInRelevantSession
  cases truthyId log.sessionId <;> (dsimp only; repeat' split) <;> exact ⟨rfl, rfl, rfl⟩

theorem sameFills_updateLiveOrderLog (requestId : String) (u : LiveOrderLogUpdates)
    (now : UtcTime) : SameFills (updateLiveOrderLog db requestId u now) db :=
  ⟨updateLiveOrderLog_livePositions _ _ _ _, updateLiveOrderLog_positionFillEvents _ _ _ _,
    updateLiveOrderLog_orderApplicationLedger _ _ _ _⟩

/-- The order's position can be recovered from its log. -/
def recoverable (log : LiveOrderLog) : Prop :=
  0 < entryPriceFromLog log ∧ 0 < orNum log.executedVolume (toFloat log.volume)

instance : DecidablePred recoverable := fun log =>
  inferInstanceAs (Decidable (0 < entryPriceFromLog log
    ∧ 0 < orNum log.executedVolume (toFloat log.volume)))

theorem recoverPosition_not_recoverable (session : SyncSession) (h : ¬ recoverable log) :
    recoverPosition env db log session = db := by
  have hskips : entryPriceFromLog log ≤ 0
      ∨ orNum log.executedVolume (toFloat log.volume) ≤ 0 := by
    rw [← not_lt, ← not_lt]
    exact not_and_or.mp h
  unfold recoverPosition
  dsimp only
  rw [if_pos hskips]

theorem recoverPosition_recoverable (env : SyncEnv) (db : Database) (session : SyncSession)
    (h : recoverable log) :
    heldVolume (recoverPosition env db log session)
        = heldVolume db + orNum log.executedVolume (toFloat log.volume)
      ∧ (VolumesShown db → VolumesShown (recoverPosition env db log session)) := by
  have hrecovers : ¬ (entryPriceFromLog log ≤ 0
      ∨ orNum log.executedVolume (toFloat log.volume) ≤ 0) :=
    not_or.mpr ⟨not_le.mpr h.1, not_le.mpr h.2⟩
  have hpositions : (recoverPosition env db log session).livePositions
      = (createLivePosition db (recoveredPosition env log session (entryPriceFromLog log)
          (orNum log.executedVolume (toFloat log.volume))) (fun _ => rfl)).livePositions := by
    unfold recoverPosition
    dsimp only
    rw [if_neg hrecovers]
    exact (sameFills_adoptPositionInRelevantSession _ _).livePositions.trans
      (updateLiveOrderLog_livePositions _ _ _ _)
  constructor
  · rw [heldVolume_congr hpositions]
    exact heldVolume_create _ (fun _ => rfl)
  · intro hdb
    refine volumesShown_congr hpositions (volumesShown_create _ (fun k => ?_) hdb)
    show PositionStatus.opened ≠ .closed
    decide

theorem ensure_of_call (env : SyncEnv) (db : Database)
    (hcall : ensuredSyncCall log source = some call) :
    SameFills (ensureFilledEntryOrderPosition env db log source)
      (if (truthyId (syncFilledEntryOrderToPosition env db call).2.positionId).isSome then
        (syncFilledEntryOrderToPosition env db call).1
      else recoverPosition env (syncFilledEntryOrderToPosition env db call).1 log call.session) := by
  unfold ensureFilledEntryOrderPosition
  rw [hcall]
  dsimp only
  cases truthyId (syncFilledEntryOrderToPosition env db call).2.positionId with
  | none => exact SameFills.refl _
  | some positionId => exact sameFills_adoptPositionInRelevantSession _ _

theorem ensuredSyncCall_log (hcall : ensuredSyncCall log source = some call) :
    call.orderLog = some log ∧ call.rawOrder = log.exchangeResponsePayload := by
  unfold ensuredSyncCall at hcall
  dsimp only at hcall
  split_ifs at hcall
  split at hcall
  · cases hcall
    exact ⟨rfl, rfl⟩
  · cases hcall

theorem ensure_of_none (hcall : ensuredSyncCall log source = none) :
    ensureFilledEntryOrderPosition env db log source = db := by
  unfold ensureFilledEntryOrderPosition
  rw [hcall]

/-- **The status path takes no volume away** either. -/
theorem ensure_shown (env : SyncEnv) (log : LiveOrderLog) (source : String)
    (hdb : VolumesShown db) :
    VolumesShown (ensureFilledEntryOrderPosition env db log source)
      ∧ heldVolume db ≤ heldVolume (ensureFilledEntryOrderPosition env db log source) := by
  cases hcall : ensuredSyncCall log source with
  | none =>
    rw [ensure_of_none hcall]
    exact ⟨hdb, le_rfl⟩
  | some call =>
    have hfills := (ensure_of_call env db hcall).livePositions
    have hsync := volumesShown_sync env call hdb
    have hle := heldVolume_sync_le env call hdb
    rw [heldVolume_congr hfills]
    split_ifs at hfills ⊢
    · exact ⟨volumesShown_congr hfills hsync, hle⟩
    · by_cases hrecoverable : recoverable log
      · obtain ⟨hheld, hshown⟩ := recoverPosition_recoverable env
          (syncFilledEntryOrderToPosition env db call).1 call.session hrecoverable
        refine ⟨volumesShown_congr hfills (hshown hsync), ?_⟩
        rw [hheld]
        linarith [hrecoverable.2]
      · rw [recoverPosition_not_recoverable _ hrecoverable] at hfills ⊢
        exact ⟨volumesShown_congr hfills hsync, hle⟩

/-- The status path lets a filled order in: it is a filled entry whose row names no position yet,
or a scale-in, and the sync accepts it or its position can be recovered. -/
def ensureAccepts (db : Database) (log : LiveOrderLog) (source : String) : Bool :=
  (ensuredSyncCall log source).any (fun call => syncAccepts db call || decide (recoverable log))

variable {uuid : String} {volume : ℚ}

/-- **What the status path lets in is added**; of the rest nothing is written. -/
theorem ensure_unbooked (hbooked : entryBooked db uuid = false)
    (huuid : ∀ call, ensuredSyncCall log source = some call →
      syncOrderUuid call.orderLog call.rawOrder call.session = uuid
        ∧ toFloat call.rawOrder.executedVolume = volume)
    (hvolume : log.executedVolume = volume) (hne : volume ≠ 0) :
    if ensureAccepts db log source then
      heldVolume (ensureFilledEntryOrderPosition env db log source) = heldVolume db + volume
    else SameFills (ensureFilledEntryOrderPosition env db log source) db := by
  unfold ensureAccepts
  cases hcall : ensuredSyncCall log source with
  | none =>
    rw [ensure_of_none hcall, Option.any_none, if_neg (by decide)]
    exact SameFills.refl db
  | some call =>
    obtain ⟨hcuuid, hcvolume⟩ := huuid call hcall
    have hfills := ensure_of_call env db hcall
    have hrecovered : orNum log.executedVolume (toFloat log.volume) = volume := by
      rw [hvolume]
      exact orNum_of_ne _ hne
    rw [Option.any_some]
    cases haccepts : syncAccepts db call with
    | true =>
      obtain ⟨hheld, hnamed⟩ := sync_accepted env hbooked hcuuid hcvolume hne haccepts
      rw [if_pos hnamed] at hfills
      rw [Bool.true_or, if_pos rfl, heldVolume_congr hfills.livePositions, hheld]
    | false =>
      obtain ⟨hsame, hunnamed⟩ := sync_refused env hbooked hcuuid haccepts
      rw [hunnamed, hsame, if_neg (by decide)] at hfills
      rw [Bool.false_or]
      by_cases hrecoverable : recoverable log
      · rw [decide_eq_true hrecoverable, if_pos rfl, heldVolume_congr hfills.livePositions,
          (recoverPosition_recoverable env db call.session hrecoverable).1, hrecovered]
      · rw [decide_eq_false hrecoverable, if_neg (by decide)]
        rwa [recoverPosition_not_recoverable _ hrecoverable] at hfills

end Ensure

/-! ## Exit orders -/

def exitRows (db : Database) (log : LiveOrderLog) : List ℕ :=
  match positionForExitOrder db log with
  | none => []
  | some position =>
    if aggregateExitPositionIds log = [] then [position.id] else aggregateExitPositionIds log

/-- None of them is closed with volume in it. -/
def exitRowsOpen (db : Database) (log : LiveOrderLog) : Prop :=
  ∀ i ∈ exitRows db log, shownBeyondHeld db i = 0

def exitRowsHold (db : Database) (log : LiveOrderLog) (fill : ℚ) : Prop :=
  exitRowsOpen db log ∧ fill ≤ ((exitRows db log).map (fun i => max (volumeOf db i) 0)).sum

section Exit

variable {db : Database} {log : LiveOrderLog} {fill : ℚ}

theorem exitGives_of_nonpos (hfill : fill ≤ 0) : exitGives db log fill = 0 := by
  unfold exitGives
  cases positionForExitOrder db log with
  | none => rfl
  | some position => exact if_pos hfill

theorem le_exitGives (h : exitRowsHold db log fill) (hpos : 0 < fill) :
    fill ≤ exitGives db log fill := by
  obtain ⟨hopen, hholds⟩ := h
  unfold exitRowsOpen at hopen
  unfold exitGives
  unfold exitRows at hopen hholds
  cases hposition : positionForExitOrder db log with
  | none =>
    simp only [hposition, List.map_nil, List.sum_nil] at hholds
    exact absurd hholds (not_le.mpr hpos)
  | some position =>
    simp only [hposition] at hopen hholds
    dsimp only
    rw [if_neg (not_le.mpr hpos)]
    split_ifs at hopen hholds ⊢ with hids
    · have hload := loadLivePosition_positionForExitOrder hposition
      have hheld := held_of_shown hload (hopen position.id (List.mem_singleton_self _))
      rw [List.map_singleton, List.sum_singleton, volumeOf_of_load hload] at hholds
      rw [LivePosition.gives_of_held hheld]
      split_ifs
      · exact (le_max_iff.mp hholds).resolve_right (not_le.mpr hpos)
      · exact le_rfl
    · exact (givesInTurn_bounds hopen fill hpos.le hholds).1

theorem exitRowsHold.shown (h : exitRowsHold db log fill) (hpos : 0 < fill) :
    ∀ i ∈ aggregateExitPositionIds log, shownBeyondHeld db i = 0 := by
  obtain ⟨hopen, hholds⟩ := h
  unfold exitRowsOpen exitRows at hopen
  unfold exitRows at hholds
  cases hposition : positionForExitOrder db log with
  | none =>
    simp only [hposition, List.map_nil, List.sum_nil] at hholds
    exact absurd hholds (not_le.mpr hpos)
  | some position =>
    simp only [hposition] at hopen
    split_ifs at hopen with hids
    · intro i hi
      rw [hids] at hi
      cases hi
    · exact hopen

theorem exitReopens_of_open (h : exitRowsOpen db log) : exitReopens db log = 0 := by
  unfold exitRowsOpen exitRows at h
  unfold exitReopens
  cases hposition : positionForExitOrder db log with
  | none => rfl
  | some position =>
    simp only [hposition] at h
    dsimp only
    split_ifs at h ⊢ with hids
    · have hload := loadLivePosition_positionForExitOrder hposition
      exact sub_eq_zero.mpr (held_of_shown hload (h position.id (List.mem_singleton_self _))).symm
    · refine List.sum_eq_zero (fun x hx => ?_)
      obtain ⟨i, hi, rfl⟩ := List.mem_map.mp hx
      exact h i hi

theorem exitRowsOpen_congr {db' : Database} {log' : LiveOrderLog}
    (hdb : db'.livePositions = db.livePositions) (hposition : log'.positionId = log.positionId)
    (huuid : log'.orderUuid = log.orderUuid) (hexchange : log'.exchange = log.exchange)
    (hmarket : log'.market = log.market)
    (hpreview : log'.orderPreviewPayload = log.orderPreviewPayload) :
    (exitRowsOpen db' log' ↔ exitRowsOpen db log)
      ∧ ∀ fill, exitRowsHold db' log' fill ↔ exitRowsHold db log fill := by
  have hrows : exitRows db' log' = exitRows db log := by
    unfold exitRows aggregateExitPositionIds
    rw [positionForExitOrder_congr hdb hposition huuid hexchange hmarket, hpreview]
  have hshown : shownBeyondHeld db' = shownBeyondHeld db := by
    funext i
    unfold shownBeyondHeld
    rw [loadLivePosition_congr hdb]
  have hvolume : volumeOf db' = volumeOf db := by
    funext i
    unfold volumeOf
    rw [loadLivePosition_congr hdb]
  unfold exitRowsHold exitRowsOpen
  rw [hrows, hshown, hvolume]
  exact ⟨Iff.rfl, fun _ => Iff.rfl⟩

/-- **What the sync of an exit order takes** covers a fill the rows hold. -/
theorem exitSync_takes {db : Database} {log : ExitOrderLog} {status : ReconciledOrderStatus}
    (hfills : status.status.isFill = true → 0 < (exitFillDelta log status).volume →
      exitRowsHold db log.toLiveOrderLog (exitFillDelta log status).volume)
    (hcanceled : status.status = .canceled → exitRowsOpen db log.toLiveOrderLog) (now : UtcTime) :
    ∃ gives, heldVolume (syncExitOrderPosition db log status now) = heldVolume db - gives
      ∧ 0 ≤ gives
      ∧ (status.status.isFill = true → (exitFillDelta log status).volume ≤ gives) := by
  cases hfill : status.status.isFill with
  | true =>
    refine ⟨_, heldVolume_syncExitOrderPosition_fill log hfill
      (fun _ hpos => (hfills hfill hpos).shown hpos), ?_⟩
    rcases le_or_gt (exitFillDelta log status).volume 0 with hnone | hpos
    · rw [exitGives_of_nonpos hnone]
      exact ⟨le_rfl, fun _ => hnone⟩
    · have hle := le_exitGives (hfills hfill hpos) hpos
      exact ⟨hpos.le.trans hle, fun _ => hle⟩
  | false =>
    refine ⟨0, ?_, le_rfl, fun h => by cases h⟩
    rw [sub_zero]
    by_cases hstatus : status.status = .canceled
    · rw [heldVolume_syncExitOrderPosition_canceled log hstatus,
        exitReopens_of_open (hcanceled hstatus), add_zero]
    · rw [syncExitOrderPosition_untouched hfill hstatus]

end Exit

end AutoCoinBot
