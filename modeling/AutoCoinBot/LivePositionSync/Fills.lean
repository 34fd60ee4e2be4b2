/-
  LivePositionSync.Fills — the three tables a buy fill is recorded in.

  Positions, fill events and the application ledger have to stay in step; the other writes of a sync
  attach logs, move pointers and free slots.
-/
import AutoCoinBot.LivePositionSync.Writes

namespace AutoCoinBot

open Library

/-! ## Databases with the same fills -/

/-- Two databases that record the same fills. -/
structure SameFills (db db' : Database) : Prop where
  livePositions : db.livePositions = db'.livePositions
  positionFillEvents : db.positionFillEvents = db'.positionFillEvents
  orderApplicationLedger : db.orderApplicationLedger = db'.orderApplicationLedger

namespace SameFills

variable {db db' db'' : Database}

theorem refl (db : Database) : SameFills db db := ⟨rfl, rfl, rfl⟩

theorem symm (h : SameFills db db') : SameFills db' db :=
  ⟨h.livePositions.symm, h.positionFillEvents.symm, h.orderApplicationLedger.symm⟩

theorem trans (h : SameFills db db') (h' : SameFills db' db'') : SameFills db db'' :=
  ⟨h.livePositions.trans h'.livePositions, h.positionFillEvents.trans h'.positionFillEvents,
    h.orderApplicationLedger.trans h'.orderApplicationLedger⟩

theorem loadLivePosition (h : SameFills db db') (i : ℕ) :
    AutoCoinBot.loadLivePosition db i = AutoCoinBot.loadLivePosition db' i :=
  loadLivePosition_congr h.livePositions i

theorem selectActivePositions (h : SameFills db db') (p : LivePosition → Bool) :
    AutoCoinBot.selectActivePositions db p = AutoCoinBot.selectActivePositions db' p := by
  unfold AutoCoinBot.selectActivePositions; rw [h.livePositions]

theorem loadPositionFillEvent (h : SameFills db db') (uuid : String) (ft : FillType) :
    AutoCoinBot.loadPositionFillEvent db uuid ft = AutoCoinBot.loadPositionFillEvent db' uuid ft := by
  unfold AutoCoinBot.loadPositionFillEvent; rw [h.positionFillEvents]

theorem loadOrderApplicationLedger (h : SameFills db db') (uuid : String) :
    AutoCoinBot.loadOrderApplicationLedger db uuid
      = AutoCoinBot.loadOrderApplicationLedger db' uuid := by
  unfold AutoCoinBot.loadOrderApplicationLedger; rw [h.orderApplicationLedger]

theorem ledgerFromFillEvents (h : SameFills db db') (uuid : String) :
    AutoCoinBot.ledgerFromFillEvents db uuid = AutoCoinBot.ledgerFromFillEvents db' uuid := by
  unfold AutoCoinBot.ledgerFromFillEvents loadPositionFillEventsByOrderUuid
  rw [h.positionFillEvents]

theorem applicationOf (h : SameFills db db') (uuid : String) :
    AutoCoinBot.applicationOf db uuid = AutoCoinBot.applicationOf db' uuid := by
  unfold AutoCoinBot.applicationOf
  rw [h.loadOrderApplicationLedger, h.ledgerFromFillEvents]

theorem resolveScaleInTarget (h : SameFills db db') (session : SyncSession)
    (canonical : Option LiveOrderLog) (preview : ScalePreview) :
    AutoCoinBot.resolveScaleInTarget db session canonical preview
      = AutoCoinBot.resolveScaleInTarget db' session canonical preview := by
  unfold AutoCoinBot.resolveScaleInTarget loadOpenLivePositionForStrategy
  simp only [funext h.loadLivePosition, h.selectActivePositions]

theorem apply (h : SameFills db db') (now : UtcTime) (w : SyncWrite) :
    SameFills (w.apply now db) (w.apply now db') := by
  obtain ⟨hp, he, hl⟩ := h
  cases w with
  | createLivePosition p =>
    refine ⟨?_, he, hl⟩
    simp only [SyncWrite.apply, createLivePosition, hp]
  | insertPositionFillEvent e =>
    refine ⟨hp, ?_, hl⟩
    simp only [SyncWrite.apply, insertPositionFillEvent, he]
  | updatePositionFillEvent i u =>
    refine ⟨hp, ?_, hl⟩
    simp only [SyncWrite.apply, updatePositionFillEvent, he]
  | upsertOrderApplicationLedger l =>
    refine ⟨hp, he, ?_⟩
    simp only [SyncWrite.apply, upsertOrderApplicationLedger, hl]
  | updateLivePosition i u =>
    refine ⟨?_, he, hl⟩
    simp only [SyncWrite.apply, updateLivePosition, hp]
  | attachLog r i =>
    exact ⟨by simp [SyncWrite.apply, hp], by simp [SyncWrite.apply, he],
      by simp [SyncWrite.apply, hl]⟩
  | updateLiveStrategySession i u => exact ⟨hp, he, hl⟩
  | finalizeEntryLifecycle i =>
    exact ⟨by simp [SyncWrite.apply, hp], by simp [SyncWrite.apply, he],
      by simp [SyncWrite.apply, hl]⟩

theorem applyWrites (h : SameFills db db') (now : UtcTime) (ws : List SyncWrite) :
    SameFills (AutoCoinBot.applyWrites now db ws) (AutoCoinBot.applyWrites now db' ws) := by
  induction ws generalizing db db' with
  | nil => exact h
  | cons w ws ih => exact ih (h.apply now w)

end SameFills

/-! ## The writes that record a fill -/

/-- The other writes attach logs, move pointers and free slots. -/
def SyncWrite.recordsFill : SyncWrite → Bool
  | .createLivePosition _ | .insertPositionFillEvent _ | .updatePositionFillEvent _ _
  | .upsertOrderApplicationLedger _ | .updateLivePosition _ _ => true
  | .attachLog _ _ | .updateLiveStrategySession _ _ | .finalizeEntryLifecycle _ => false

section Recording

variable (now : UtcTime) (db : Database)

theorem sameFills_apply_of_not_recordsFill {w : SyncWrite} (h : w.recordsFill = false) :
    SameFills (w.apply now db) db := by
  cases w with
  | attachLog r i =>
    exact ⟨by simp [SyncWrite.apply], by simp [SyncWrite.apply], by simp [SyncWrite.apply]⟩
  | updateLiveStrategySession i u => exact ⟨rfl, rfl, rfl⟩
  | finalizeEntryLifecycle i =>
    exact ⟨by simp [SyncWrite.apply], by simp [SyncWrite.apply], by simp [SyncWrite.apply]⟩
  -- the other writes record a fill
  | _ => cases h

/-- **The fills a list of writes leaves are those its recording writes leave.** -/
theorem sameFills_applyWrites (ws : List SyncWrite) :
    SameFills (applyWrites now db ws) (applyWrites now db (ws.filter SyncWrite.recordsFill)) := by
  induction ws generalizing db with
  | nil => exact SameFills.refl db
  | cons w ws ih =>
    cases hw : w.recordsFill with
    | true =>
      rw [List.filter_cons_of_pos hw, applyWrites_cons, applyWrites_cons]
      exact ih _
    | false =>
      rw [List.filter_cons_of_neg (by simp [hw]), applyWrites_cons]
      exact (ih _).trans
        ((sameFills_apply_of_not_recordsFill now db hw).applyWrites now _)

@[simp] theorem filter_recordsFill_attachLogs (logs : List LiveOrderLog) (i : ℕ) :
    (attachLogs logs i).filter SyncWrite.recordsFill = [] := by
  unfold attachLogs
  rw [List.filter_eq_nil_iff]
  intro w hw
  obtain ⟨r, _, rfl⟩ := List.mem_map.mp hw
  exact Bool.false_ne_true

@[simp] theorem filter_recordsFill_cons_point (session : SyncSession) (i : ℕ) (r : String)
    (ws : List SyncWrite) :
    (pointSession session i r :: ws).filter SyncWrite.recordsFill
      = ws.filter SyncWrite.recordsFill := rfl

@[simp] theorem filter_recordsFill_finalizeIfEntry (fillType : FillType) (i : ℕ) :
    (finalizeIfEntry fillType i).filter SyncWrite.recordsFill = [] := by
  unfold finalizeIfEntry
  split <;> rfl

end Recording

/-! ## The application row of an order -/

section Application

variable (db : Database) {uuid : String}

theorem mem_loadPositionFillEventsByOrderUuid {e : PositionFillEvent} :
    e ∈ loadPositionFillEventsByOrderUuid db uuid
      ↔ e ∈ db.positionFillEvents.rows ∧ e.orderUuid = uuid := by
  unfold loadPositionFillEventsByOrderUuid
  rw [List.mem_insertionSort, Table.mem_select, beq_iff_eq]

theorem loadPositionFillEvent_of_mem {e : PositionFillEvent}
    (h : e ∈ db.positionFillEvents.rows) :
    loadPositionFillEvent db e.orderUuid e.fillType = some e := by
  cases hfound : loadPositionFillEvent db e.orderUuid e.fillType with
  | none =>
    have hnot := List.find?_eq_none.mp hfound e h
    simp [PositionFillEvent.hasKey, PositionFillEvent.key] at hnot
  | some d =>
    -- the key is unique, so the event found is the one stored
    obtain ⟨huuid, hft⟩ := loadPositionFillEvent_key db hfound
    have hd : d ∈ db.positionFillEvents.rows := List.mem_of_find?_eq_some hfound
    rw [db.fillKey_unique.eq_of_key hd h (by simp [PositionFillEvent.key, huuid, hft])]

theorem loadPositionFillEventsByOrderUuid_eq_nil :
    loadPositionFillEventsByOrderUuid db uuid = []
      ↔ ∀ ft, loadPositionFillEvent db uuid ft = none := by
  constructor
  · intro h ft
    by_contra hft
    obtain ⟨e, he⟩ := Option.ne_none_iff_exists'.mp hft
    have hmem : e ∈ loadPositionFillEventsByOrderUuid db uuid :=
      (mem_loadPositionFillEventsByOrderUuid db).mpr
        ⟨List.mem_of_find?_eq_some he, (loadPositionFillEvent_key db he).1⟩
    rw [h] at hmem
    exact absurd hmem List.not_mem_nil
  · intro h
    refine List.eq_nil_iff_forall_not_mem.mpr fun e he => ?_
    obtain ⟨hmem, huuid⟩ := (mem_loadPositionFillEventsByOrderUuid db).mp he
    have hfound := loadPositionFillEvent_of_mem db hmem
    rw [huuid, h] at hfound
    cases hfound

/-- **An order is unknown exactly when it has neither a ledger row nor an event.** -/
theorem applicationOf_eq_none :
    applicationOf db uuid = none ↔ loadOrderApplicationLedger db uuid = none
      ∧ ∀ ft, loadPositionFillEvent db uuid ft = none := by
  unfold applicationOf
  rw [Option.or_eq_none_iff, ← loadPositionFillEventsByOrderUuid_eq_nil]
  refine and_congr_right fun _ => ?_
  unfold ledgerFromFillEvents
  rw [Option.map_eq_none_iff, List.head?_eq_none_iff]

theorem loadPositionFillEventsByOrderUuid_insert
    (hnil : loadPositionFillEventsByOrderUuid db uuid = []) (event : ℕ → PositionFillEvent)
    (hid : ∀ k, (event k).id = k) (huuid : ∀ k, (event k).orderUuid = uuid) :
    loadPositionFillEventsByOrderUuid (insertPositionFillEvent db event hid).1 uuid
      = [event db.positionFillEvents.nextId] := by
  -- the insert is not ignored: a row of the same key would be one of the order
  have hnew : ¬ db.positionFillEvents.rows.any
      (fun r => r.key = (event db.positionFillEvents.nextId).key) = true := by
    intro hany
    obtain ⟨r, hr, hkey⟩ := List.any_eq_true.mp hany
    have hmem : r ∈ loadPositionFillEventsByOrderUuid db uuid := by
      refine (mem_loadPositionFillEventsByOrderUuid db).mpr ⟨hr, ?_⟩
      rw [decide_eq_true_eq] at hkey
      exact (congrArg Prod.fst hkey).trans (huuid _)
    rw [hnil] at hmem
    exact absurd hmem List.not_mem_nil
  have hselect : db.positionFillEvents.select (fun e => e.orderUuid == uuid) = [] := by
    refine List.eq_nil_iff_forall_not_mem.mpr fun e he => ?_
    have hmem : e ∈ loadPositionFillEventsByOrderUuid db uuid := by
      unfold loadPositionFillEventsByOrderUuid
      rwa [List.mem_insertionSort]
    rw [hnil] at hmem
    exact absurd hmem List.not_mem_nil
  unfold loadPositionFillEventsByOrderUuid insertPositionFillEvent Table.insertOrIgnore
  unfold Table.select at hselect ⊢
  simp only [if_neg hnew, Table.rows_insert, List.filter_append, hselect, List.nil_append]
  simp [huuid]

theorem loadPositionFillEventsByOrderUuid_update (eventId : ℕ) (u : PositionFillEventUpdates) :
    loadPositionFillEventsByOrderUuid (updatePositionFillEvent db eventId u) uuid
      = (loadPositionFillEventsByOrderUuid db uuid).map
          (fun e => if e.id = eventId then e.merge u else e) := by
  refine (Table.insertionSort_filter_map PositionFillEvent.older
    (g := fun e => if e.id == eventId then e.merge u else e) (q := fun e => e.orderUuid == uuid)
    ?_ ?_ db.positionFillEvents.rows).trans ?_
  · intro e
    split <;> rfl
  · intro d e
    unfold PositionFillEvent.older
    -- times and ids decide the order, and an update changes neither
    split_ifs <;> rfl
  · refine List.map_congr_left ?_
    intro e _
    exact if_congr beq_iff_eq rfl rfl

theorem applicationOf_of_ledger {l : OrderApplication}
    (h : loadOrderApplicationLedger db uuid = some l) : applicationOf db uuid = some l := by
  unfold applicationOf; rw [h, Option.some_or]

theorem applicationOf_of_event {e : PositionFillEvent}
    (hledger : loadOrderApplicationLedger db uuid = none)
    (hhead : (loadPositionFillEventsByOrderUuid db uuid).head? = some e) :
    applicationOf db uuid = some (e.application uuid) := by
  unfold applicationOf ledgerFromFillEvents
  rw [hledger, hhead, Option.none_or, Option.map_some]

theorem applicationOf_congr {db db' : Database}
    (he : db.positionFillEvents = db'.positionFillEvents)
    (hl : db.orderApplicationLedger = db'.orderApplicationLedger) (uuid : String) :
    applicationOf db uuid = applicationOf db' uuid := by
  unfold applicationOf loadOrderApplicationLedger ledgerFromFillEvents
    loadPositionFillEventsByOrderUuid
  rw [he, hl]

/-! What a sync that finds an order afterwards takes for its position and volume. -/

/-- The order is known to have `volume` in the position. -/
def Recorded (db : Database) (uuid : String) (positionId : ℕ) (volume : ℚ) : Prop :=
  ∃ l, applicationOf db uuid = some l ∧ l.positionId = positionId ∧ l.previousVolume = volume

theorem recorded_upsert (now : UtcTime) (uuid : String) (positionId : ℕ) (fillType : FillType)
    (source : String) (log : Option LiveOrderLog) (v a fee : ℚ) :
    Recorded ((recordLedger uuid positionId fillType source log v a fee).apply now db) uuid
      positionId v := by
  have hload := loadOrderApplicationLedger_upsert db
    { orderUuid := uuid, positionId := positionId, fillType := fillType, appliedVolume := v
      appliedAmountKrw := a, appliedFee := fee, lastExchangeExecutedVolume := v
      lastExchangeFilledAmountKrw := a, lastExchangePaidFee := fee, source := source
      orderLogId := log.map LiveOrderLog.id, requestId := log.map LiveOrderLog.requestId } uuid
  rw [if_pos rfl] at hload
  refine ⟨_, applicationOf_of_ledger _ hload, ?_, ?_⟩
  · cases loadOrderApplicationLedger db uuid <;> rfl
  · cases loadOrderApplicationLedger db uuid <;>
      simp [OrderApplication.previousVolume, OrderApplication.excluded,
        OrderApplication.onConflict]

theorem recorded_insert (now : UtcTime) (hnone : applicationOf db uuid = none) (positionId : ℕ)
    (fillType : FillType) (source : String) (log : Option LiveOrderLog) (v a fee : ℚ)
    (appliedAt : UtcTime) :
    Recorded ((fillEvent uuid positionId fillType source log v a fee appliedAt).apply now db) uuid
      positionId v := by
  obtain ⟨hledger, hevents⟩ := (applicationOf_eq_none db).mp hnone
  set event : PositionFillEvent :=
    { id := 0, orderUuid := uuid, positionId := positionId, fillType := fillType
      source := source, orderLogId := log.map LiveOrderLog.id
      requestId := log.map LiveOrderLog.requestId, appliedVolume := v, appliedAmountKrw := a
      appliedFee := fee, appliedAt := appliedAt }
  have hlist := loadPositionFillEventsByOrderUuid_insert db
    ((loadPositionFillEventsByOrderUuid_eq_nil db).mpr hevents)
    (fun k => event.stored k now) (fun _ => rfl) (fun _ => rfl)
  set db' := (fillEvent uuid positionId fillType source log v a fee appliedAt).apply now db
  -- no ledger row yet: the application is rebuilt from the one event
  have hledger' : loadOrderApplicationLedger db' uuid = none := hledger
  have hhead : (loadPositionFillEventsByOrderUuid db' uuid).head? = some _ :=
    congrArg List.head? hlist
  exact ⟨_, applicationOf_of_event db' hledger' hhead, rfl,
    by simp [OrderApplication.previousVolume, PositionFillEvent.application, event,
      PositionFillEvent.stored]⟩

theorem recorded_update (now : UtcTime) (hledger : loadOrderApplicationLedger db uuid = none)
    {l : OrderApplication} (happlied : applicationOf db uuid = some l) :
    ∃ e, loadPositionFillEvent db uuid l.fillType = some e ∧ e.appliedVolume = l.previousVolume
      ∧ ∀ u : PositionFillEventUpdates,
          Recorded ((SyncWrite.updatePositionFillEvent e.id u).apply now db) uuid l.positionId
            u.appliedVolume := by
  unfold applicationOf at happlied
  rw [hledger, Option.none_or] at happlied
  unfold ledgerFromFillEvents at happlied
  obtain ⟨e, hhead, rfl⟩ := Option.map_eq_some_iff.mp happlied
  obtain ⟨hmem, huuid⟩ := (mem_loadPositionFillEventsByOrderUuid db).mp (List.mem_of_head? hhead)
  have hfound := loadPositionFillEvent_of_mem db hmem
  rw [huuid] at hfound
  refine ⟨e, hfound,
    by simp [OrderApplication.previousVolume, PositionFillEvent.application], fun u => ?_⟩
  -- the update keeps the events in their order, so the head is the same event
  set db' := (SyncWrite.updatePositionFillEvent e.id u).apply now db
  have hhead' : (loadPositionFillEventsByOrderUuid db' uuid).head? = some (e.merge u) := by
    refine (congrArg List.head? (loadPositionFillEventsByOrderUuid_update db e.id u)).trans ?_
    rw [List.head?_map, hhead]
    simp
  have hledger' : loadOrderApplicationLedger db' uuid = none := hledger
  exact ⟨_, applicationOf_of_event db' hledger' hhead', rfl,
    by simp [OrderApplication.previousVolume, PositionFillEvent.application,
      PositionFillEvent.merge]⟩

end Application

end AutoCoinBot
