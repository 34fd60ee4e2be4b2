/-
  OrderFillRepair.RepairedTwice — what the repair leaves: the position beside its fill
  events, and what a second repair would propose.

  The repair takes the position back to one ENTRY event and empties the duplicates of that order.
-/
import AutoCoinBot.Library.Batch
import AutoCoinBot.OrderFillRepair.Repair

namespace AutoCoinBot

open Library

/-! ## Writes to a list of rows -/

section Folds

variable (db : Database)

theorem foldl_updatePositionFillEvent (es : List PositionFillEvent) (u : PositionFillEventUpdates) :
    let db' := es.foldl (fun db e => updatePositionFillEvent db e.id u) db
    db'.positionFillEvents.rows
        = db.positionFillEvents.rows.map (fun e => if ∃ d ∈ es, e.id = d.id
            then e.merge u else e)
      ∧ db'.livePositions = db.livePositions ∧ db'.positionSlots = db.positionSlots
      ∧ db'.liveStrategySessions = db.liveStrategySessions := by
  intro db'
  have hstep : ∀ (d : Database) (e : PositionFillEvent),
      (updatePositionFillEvent d e.id u).positionFillEvents.rows
        = d.positionFillEvents.rows.map (fun r => if r.id = e.id then r.merge u else r) := by
    intro d e
    refine List.map_congr_left ?_
    intro r _
    exact if_congr beq_iff_eq rfl rfl
  refine ⟨?_, ?_, ?_, ?_⟩
  · exact rows_foldl_ite (fun d : Database => d.positionFillEvents.rows) hstep (fun _ => rfl) es db
  · exact foldl_frame Database.livePositions (fun d (e : PositionFillEvent) =>
      show (updatePositionFillEvent d e.id u).livePositions = d.livePositions from rfl) es db
  · exact foldl_frame Database.positionSlots (fun d (e : PositionFillEvent) =>
      show (updatePositionFillEvent d e.id u).positionSlots = d.positionSlots from rfl) es db
  · exact foldl_frame Database.liveStrategySessions (fun d (e : PositionFillEvent) =>
      show (updatePositionFillEvent d e.id u).liveStrategySessions = d.liveStrategySessions from rfl) es db

theorem foldl_updateLiveStrategySession (ss : List LiveStrategySession)
    (u : LiveStrategySessionUpdates) :
    let db' := ss.foldl (fun db s => updateLiveStrategySession db s.id u) db
    db'.liveStrategySessions.rows
        = db.liveStrategySessions.rows.map (fun s => if ∃ r ∈ ss, s.id = r.id
            then s.merge u else s)
      ∧ db'.livePositions = db.livePositions ∧ db'.positionFillEvents = db.positionFillEvents
      ∧ db'.positionSlots = db.positionSlots
      ∧ db'.orderApplicationLedger = db.orderApplicationLedger := by
  intro db'
  have hstep : ∀ (d : Database) (s : LiveStrategySession),
      (updateLiveStrategySession d s.id u).liveStrategySessions.rows
        = d.liveStrategySessions.rows.map (fun r => if r.id = s.id then r.merge u else r) := by
    intro d s
    refine List.map_congr_left ?_
    intro r _
    exact if_congr beq_iff_eq rfl rfl
  refine ⟨?_, ?_, ?_, ?_, ?_⟩
  · exact rows_foldl_ite (fun d : Database => d.liveStrategySessions.rows) hstep
      (fun s => s.merge_merge u) ss db
  · exact foldl_frame Database.livePositions (fun d (s : LiveStrategySession) =>
      show (updateLiveStrategySession d s.id u).livePositions = d.livePositions from rfl) ss db
  · exact foldl_frame Database.positionFillEvents (fun d (s : LiveStrategySession) =>
      show (updateLiveStrategySession d s.id u).positionFillEvents = d.positionFillEvents from rfl) ss db
  · exact foldl_frame Database.positionSlots (fun d (s : LiveStrategySession) =>
      show (updateLiveStrategySession d s.id u).positionSlots = d.positionSlots from rfl) ss db
  · exact foldl_frame Database.orderApplicationLedger (fun d (s : LiveStrategySession) =>
      show (updateLiveStrategySession d s.id u).orderApplicationLedger = d.orderApplicationLedger from rfl) ss db

end Folds

/-! ## What the repair finds -/

section Target

variable {db : Database} {positionId : ℕ} {orderUuid : String} {t : RepairTarget}

/-- What `_target_state` accepts, and where it is read. -/
structure RepairTarget.ReadFrom (db : Database) (positionId : ℕ) (orderUuid : String)
    (t : RepairTarget) : Prop where
  position : loadLivePosition db positionId = some t.position
  entryOrder : toText t.position.entryOrderUuid = orderUuid
  entryEvent : (fillEvents db positionId orderUuid .entry).head? = some t.entryEvent
  slot : t.slot = positionSlot db positionId
  scaleEvents : t.scaleEvents = fillEvents db positionId orderUuid .scaleIn
  duplicateSessions : t.duplicateSessions = AutoCoinBot.duplicateSessions db positionId t.slot

theorem targetState_ok (h : targetState db positionId orderUuid = .ok t) :
    t.ReadFrom db positionId orderUuid := by
  unfold targetState at h
  cases hposition : loadLivePosition db positionId with
  | none =>
    rw [hposition] at h
    cases h
  | some position =>
    rw [hposition] at h
    simp only at h
    split_ifs at h with huuid
    cases hentry : (fillEvents db positionId orderUuid .entry).head? with
    | none =>
      rw [hentry] at h
      cases h
    | some entryEvent =>
      rw [hentry] at h
      obtain rfl := Except.ok.inj h
      exact ⟨hposition, not_not.mp huuid, hentry, rfl, rfl, rfl⟩

theorem targetState_of_reads {position : LivePosition} {entryEvent : PositionFillEvent}
    (hposition : loadLivePosition db positionId = some position)
    (huuid : toText position.entryOrderUuid = orderUuid)
    (hentry : (fillEvents db positionId orderUuid .entry).head? = some entryEvent) :
    ∃ t, targetState db positionId orderUuid = .ok t ∧ t.position = position
      ∧ t.entryEvent = entryEvent ∧ t.ReadFrom db positionId orderUuid := by
  have hok : ∃ t, targetState db positionId orderUuid = .ok t ∧ t.position = position
      ∧ t.entryEvent = entryEvent := by
    unfold targetState
    simp only [hposition, huuid, ne_eq, not_true_eq_false, if_false, hentry]
    exact ⟨_, rfl, rfl, rfl⟩
  obtain ⟨t, ht, hsame, hevent⟩ := hok
  exact ⟨t, ht, hsame, hevent, targetState_ok ht⟩

theorem mem_fillEvents {fillType : FillType} {e : PositionFillEvent} :
    e ∈ fillEvents db positionId orderUuid fillType
      ↔ e ∈ db.positionFillEvents.rows ∧ e.positionId = positionId
        ∧ e.hasKey orderUuid fillType = true := by
  unfold fillEvents
  rw [List.mem_insertionSort, Table.mem_select, Bool.and_eq_true, beq_iff_eq]

theorem hasKey_iff {e : PositionFillEvent} {fillType : FillType} :
    e.hasKey orderUuid fillType = true ↔ e.orderUuid = orderUuid ∧ e.fillType = fillType := by
  unfold PositionFillEvent.hasKey PositionFillEvent.key
  simp only [decide_eq_true_eq, Prod.mk.injEq]

theorem isDuplicate_iff (h : t.ReadFrom db positionId orderUuid) {e : PositionFillEvent}
    (he : e ∈ db.positionFillEvents.rows) :
    (∃ d ∈ t.scaleEvents, e.id = d.id)
      ↔ e.positionId = positionId ∧ e.orderUuid = orderUuid ∧ e.fillType = .scaleIn := by
  rw [h.scaleEvents]
  constructor
  · rintro ⟨d, hd, hsame⟩
    obtain ⟨hrow, hposition, hkey⟩ := mem_fillEvents.mp hd
    obtain rfl : e = d := Table.eq_of_rowId_eq he hrow hsame
    exact ⟨hposition, hasKey_iff.mp hkey⟩
  · rintro ⟨hposition, hkey⟩
    exact ⟨e, mem_fillEvents.mpr ⟨he, hposition, hasKey_iff.mpr hkey⟩, rfl⟩

end Target

/-! ## What the repair leaves -/

section Applied

variable (db : Database) (positionId : ℕ) (orderUuid : String) (t : RepairTarget) (now : UtcTime)

def RepairTarget.leaves (t : RepairTarget) (e : PositionFillEvent) : PositionFillEvent :=
  if ∃ d ∈ t.scaleEvents, e.id = d.id then e.merge emptiedFill else e

def RepairTarget.stops (t : RepairTarget) (now : UtcTime) (s : LiveStrategySession) :
    LiveStrategySession :=
  if ∃ r ∈ t.clearedSessions, s.id = r.id then s.merge (pointerClearedUpdates now) else s

theorem applyRepair_tables :
    let expected := expectedEntry t.position t.entryEvent
    let db' := applyRepair db positionId orderUuid t now
    db'.livePositions = (resetPosition db positionId expected now).livePositions
      ∧ db'.positionFillEvents.rows = db.positionFillEvents.rows.map t.leaves
      ∧ db'.positionSlots
          = t.slot.elim db.positionSlots (fun s => (resetSlot db s.id expected now).positionSlots)
      ∧ db'.liveStrategySessions.rows = db.liveStrategySessions.rows.map (t.stops now) := by
  intro expected db'
  obtain ⟨hevents, hpositions, hslots, hsessions⟩ := foldl_updatePositionFillEvent
    (resetPosition db positionId expected now) t.scaleEvents emptiedFill
  set db₁ := t.scaleEvents.foldl (fun db e => updatePositionFillEvent db e.id emptiedFill)
    (resetPosition db positionId expected now) with hdb₁
  set db₂ := repairLedger (t.slot.elim db₁ (fun s => resetSlot db₁ s.id expected now)) positionId
    orderUuid t.entryEvent with hdb₂
  obtain ⟨hstopped, hpositions', hevents', hslots', -⟩ := foldl_updateLiveStrategySession db₂
    t.clearedSessions (pointerClearedUpdates now)
  have hfinal : db' = t.clearedSessions.foldl
      (fun db s => updateLiveStrategySession db s.id (pointerClearedUpdates now)) db₂ := rfl
  have hmiddle : db₂.livePositions = db₁.livePositions
      ∧ db₂.positionFillEvents = db₁.positionFillEvents
      ∧ db₂.liveStrategySessions = db₁.liveStrategySessions
      ∧ db₂.positionSlots = t.slot.elim db₁.positionSlots
          (fun s => (resetSlot db₁ s.id expected now).positionSlots) := by
    rw [hdb₂]
    cases t.slot with
    | none => exact ⟨rfl, rfl, rfl, rfl⟩
    | some slot => exact ⟨rfl, rfl, rfl, rfl⟩
  obtain ⟨hp, he, hs, hsl⟩ := hmiddle
  refine ⟨?_, ?_, ?_, ?_⟩
  · rw [hfinal, hpositions', hp, hpositions]
  · rw [hfinal, hevents', he, hevents]
    rfl
  · rw [hfinal, hslots', hsl]
    unfold resetSlot
    rw [hslots]
    rfl
  · rw [hfinal, hstopped, hs, hsessions]
    rfl

theorem loadOrderApplicationLedger_applyRepair :
    ∃ l, loadOrderApplicationLedger (applyRepair db positionId orderUuid t now) orderUuid = some l
      ∧ l.appliedVolume = t.entryEvent.appliedVolume := by
  set expected := expectedEntry t.position t.entryEvent
  set db₁ := t.slot.elim (t.scaleEvents.foldl
      (fun db e => updatePositionFillEvent db e.id emptiedFill)
      (resetPosition db positionId expected now))
    (fun s => resetSlot (t.scaleEvents.foldl
      (fun db e => updatePositionFillEvent db e.id emptiedFill)
      (resetPosition db positionId expected now)) s.id expected now) with hdb₁
  obtain ⟨-, -, -, -, hledger⟩ := foldl_updateLiveStrategySession
    (repairLedger db₁ positionId orderUuid t.entryEvent) t.clearedSessions
    (pointerClearedUpdates now)
  have hfind := Table.find?_upsert db₁.orderApplicationLedger OrderApplication.orderUuid
    (repairedApplication positionId orderUuid t.entryEvent) (fun _ => rfl)
    (fun l => { repairedApplication positionId orderUuid t.entryEvent l.id with
      orderUuid := l.orderUuid }) (fun _ => rfl) (fun _ => rfl) orderUuid
  have hown : (repairedApplication positionId orderUuid t.entryEvent
      db₁.orderApplicationLedger.nextId).orderUuid = orderUuid := rfl
  have hload := (congrArg (fun tbl : Table OrderApplication =>
    tbl.rows.find? (fun l => l.orderUuid = orderUuid)) hledger).trans (hfind.trans (if_pos hown))
  refine ⟨_, hload, ?_⟩
  cases db₁.orderApplicationLedger.rows.find? (fun l => l.orderUuid = orderUuid) with
  | none => rfl
  | some l => rfl

end Applied

/-! ## What a second repair finds -/

section Second

variable {db : Database} {positionId : ℕ} {orderUuid : String} {t : RepairTarget} (now : UtcTime)

theorem leaves_key (e : PositionFillEvent) :
    (t.leaves e).id = e.id ∧ (t.leaves e).positionId = e.positionId
      ∧ (t.leaves e).orderUuid = e.orderUuid ∧ (t.leaves e).fillType = e.fillType := by
  unfold RepairTarget.leaves
  split
  · exact ⟨rfl, rfl, rfl, rfl⟩
  · exact ⟨rfl, rfl, rfl, rfl⟩

theorem fillEvents_applyRepair (fillType : FillType) :
    fillEvents (applyRepair db positionId orderUuid t now) positionId orderUuid fillType
      = (fillEvents db positionId orderUuid fillType).map t.leaves := by
  obtain ⟨-, hevents, -, -⟩ := applyRepair_tables db positionId orderUuid t now
  unfold fillEvents Table.select
  rw [hevents]
  refine Table.insertionSort_filter_map _ ?_ ?_ _
  · intro e
    obtain ⟨-, hposition, huuid, htype⟩ := leaves_key (t := t) e
    have hkey : (t.leaves e).key = e.key := by
      unfold PositionFillEvent.key
      rw [huuid, htype]
    unfold PositionFillEvent.hasKey
    rw [hposition, hkey]
  · intro d e
    rw [(leaves_key d).1, (leaves_key e).1]

theorem loadLivePosition_applyRepair (h : t.ReadFrom db positionId orderUuid) :
    loadLivePosition (applyRepair db positionId orderUuid t now) positionId
      = some (t.position.resetTo (expectedEntry t.position t.entryEvent) now) := by
  obtain ⟨hpositions, -, -, -⟩ := applyRepair_tables db positionId orderUuid t now
  rw [loadLivePosition_congr hpositions]
  have hreset := Table.get?_modify_self db.livePositions positionId
    (fun p => p.resetTo (expectedEntry t.position t.entryEvent) now) (fun _ => rfl)
  refine hreset.trans ?_
  rw [show db.livePositions.get? positionId = some t.position from h.position]
  rfl

theorem positionSlot_applyRepair (h : t.ReadFrom db positionId orderUuid) :
    positionSlot (applyRepair db positionId orderUuid t now) positionId
      = t.slot.map (fun s => s.resetTo (expectedEntry t.position t.entryEvent) now) := by
  obtain ⟨-, -, hslots, -⟩ := applyRepair_tables db positionId orderUuid t now
  have hslot := h.slot
  have hposition := h.position
  unfold positionSlot at hslot ⊢
  rw [loadLivePosition_applyRepair now h]
  rw [hposition] at hslot
  cases hfound : t.slot with
  | none =>
    rw [hfound] at hslots hslot
    rw [hslots]
    exact hslot.symm
  | some slot =>
    rw [hfound] at hslots hslot
    set expected := expectedEntry t.position t.entryEvent
    set belongs := fun s : PositionSlot => s.belongsTo positionId t.position.entryOrderUuid
    set written := fun s : PositionSlot => if (s.id == slot.id) = true then s.resetTo expected now
      else s
    have hrows : (applyRepair db positionId orderUuid t now).positionSlots.rows
        = db.positionSlots.rows.map written := by
      rw [hslots]
      rfl
    have hkeeps : ∀ s, belongs (written s) = belongs s ∧ (written s).id = s.id := by
      intro s
      simp only [written]
      split
      · exact ⟨rfl, rfl⟩
      · exact ⟨rfl, rfl⟩
    have hsame := Table.insertionSort_filter_map (fun a b : PositionSlot => a.id ≤ b.id)
      (fun s => (hkeeps s).1) (fun a b => by rw [(hkeeps a).2, (hkeeps b).2])
      db.positionSlots.rows
    have hhead := congrArg List.head? hsame
    rw [List.head?_map, ← hrows] at hhead
    refine hhead.trans ?_
    rw [show (List.insertionSort (fun a b : PositionSlot => a.id ≤ b.id)
      (db.positionSlots.rows.filter belongs)).head? = some slot from hslot.symm]
    simp [written]

theorem clearedSessions_applyRepair (h : t.ReadFrom db positionId orderUuid) {t' : RepairTarget}
    (h' : t'.ReadFrom (applyRepair db positionId orderUuid t now) positionId orderUuid)
    (hslot : t'.slot
      = t.slot.map (fun s => s.resetTo (expectedEntry t.position t.entryEvent) now)) :
    t'.clearedSessions = [] := by
  obtain ⟨-, -, -, hsessions⟩ := applyRepair_tables db positionId orderUuid t now
  have howner : (t'.slot.bind PositionSlot.liveStrategySessionId)
      = t.slot.bind PositionSlot.liveStrategySessionId := by
    rw [hslot]
    cases t.slot with
    | none => rfl
    | some s => rfl
  refine List.filter_eq_nil_iff.mpr ?_
  intro s' hs' hfree
  rw [h'.duplicateSessions] at hs'
  unfold duplicateSessions at hs'
  rw [List.mem_insertionSort, Table.mem_select, hsessions, howner] at hs'
  obtain ⟨hrow, hpoints⟩ := hs'
  obtain ⟨s, hs, rfl⟩ := List.mem_map.mp hrow
  unfold RepairTarget.stops at hpoints hfree
  by_cases hcleared : ∃ r ∈ t.clearedSessions, s.id = r.id
  · -- its pointer is gone
    rw [if_pos hcleared] at hpoints
    have hnone : (s.merge (pointerClearedUpdates now)).currentPositionId = none := rfl
    simp [hnone] at hpoints
  · -- it pointed at the position before, and had no open order then either
    rw [if_neg hcleared] at hpoints hfree
    refine hcleared ⟨s, List.mem_filter.mpr ⟨?_, hfree⟩, rfl⟩
    rw [h.duplicateSessions]
    unfold duplicateSessions
    exact (List.mem_insertionSort _).mpr (Table.mem_select.mpr ⟨hs, hpoints⟩)

theorem targetState_applyRepair (h : t.ReadFrom db positionId orderUuid) :
    ∃ t', targetState (applyRepair db positionId orderUuid t now) positionId orderUuid = .ok t'
      ∧ t'.position = t.position.resetTo (expectedEntry t.position t.entryEvent) now
      ∧ t'.slot
          = t.slot.map (fun s => s.resetTo (expectedEntry t.position t.entryEvent) now)
      ∧ t'.entryEvent = t.entryEvent
      ∧ t'.scaleEvents = t.scaleEvents.map (fun e => e.merge emptiedFill)
      ∧ t'.clearedSessions = [] := by
  have hentry : (fillEvents (applyRepair db positionId orderUuid t now) positionId orderUuid
      .entry).head? = some t.entryEvent := by
    rw [fillEvents_applyRepair, List.head?_map, h.entryEvent]
    have hevent := mem_fillEvents.mp (List.mem_of_mem_head? h.entryEvent)
    have hnot : ¬ ∃ d ∈ t.scaleEvents, t.entryEvent.id = d.id := by
      intro hid
      have htype := ((isDuplicate_iff h hevent.1).mp hid).2.2
      rw [(hasKey_iff.mp hevent.2.2).2] at htype
      cases htype
    exact congrArg some (if_neg hnot)
  obtain ⟨t', ht', hposition, hsame, h'⟩ := targetState_of_reads
    (loadLivePosition_applyRepair now h) h.entryOrder hentry
  have hslot : t'.slot = _ := h'.slot.trans (positionSlot_applyRepair now h)
  refine ⟨t', ht', hposition, hslot, hsame, ?_, clearedSessions_applyRepair now h h' hslot⟩
  rw [h'.scaleEvents, fillEvents_applyRepair, ← h.scaleEvents]
  refine List.map_congr_left ?_
  intro e he
  exact if_pos ⟨e, he, rfl⟩

end Second

/-! ## The volume on record -/

section Volume

/-- `SUM(applied_volume)` of a position's fill events. -/
def fillVolume (db : Database) (positionId : ℕ) : ℚ :=
  sumWhere db.positionFillEvents.rows (fun e => e.positionId == positionId)
    PositionFillEvent.appliedVolume

def otherFillVolume (db : Database) (positionId : ℕ) (orderUuid : String) : ℚ :=
  sumWhere db.positionFillEvents.rows
    (fun e => e.positionId == positionId && e.orderUuid != orderUuid)
    PositionFillEvent.appliedVolume

variable {db : Database} {positionId : ℕ} {orderUuid : String} {t : RepairTarget}

theorem entryEvents_eq (h : t.ReadFrom db positionId orderUuid) :
    db.positionFillEvents.rows.filter
        (fun e => e.positionId == positionId && e.hasKey orderUuid .entry) = [t.entryEvent] := by
  have hevent := mem_fillEvents.mp (List.mem_of_mem_head? h.entryEvent)
  have hnodup := (List.Nodup.of_map _ db.fillKey_unique).filter
    (fun e : PositionFillEvent => e.positionId == positionId && e.hasKey orderUuid .entry)
  refine List.perm_singleton.mp
    ((List.perm_ext_iff_of_nodup hnodup (List.nodup_singleton _)).mpr ?_)
  intro e
  rw [List.mem_filter, Bool.and_eq_true, beq_iff_eq, List.mem_singleton]
  constructor
  · rintro ⟨he, -, hkey⟩
    have hsame : e.key = t.entryEvent.key :=
      (of_decide_eq_true hkey).trans (of_decide_eq_true hevent.2.2).symm
    exact db.fillKey_unique.eq_of_key he hevent.1 hsame
  · rintro rfl
    exact hevent

/-- **The volume on record, once the duplicates apply nothing**: the ENTRY fill and the fills of
other orders. -/
theorem fillVolume_of_emptied (h : t.ReadFrom db positionId orderUuid)
    (hempty : ∀ e ∈ t.scaleEvents, e.appliedVolume = 0) :
    fillVolume db positionId
      = t.entryEvent.appliedVolume + otherFillVolume db positionId orderUuid := by
  have hentry : sumWhere db.positionFillEvents.rows
      (fun e => e.positionId == positionId && e.hasKey orderUuid .entry)
      PositionFillEvent.appliedVolume = t.entryEvent.appliedVolume := by
    rw [← sum_filter_map, entryEvents_eq h, List.map_singleton, List.sum_singleton]
  rw [← hentry]
  unfold fillVolume otherFillVolume sumWhere
  rw [← List.sum_map_add]
  refine congrArg List.sum (List.map_congr_left ?_)
  intro e he
  by_cases hposition : e.positionId = positionId
  · by_cases huuid : e.orderUuid = orderUuid
    · -- an event of the order: its ENTRY, or a duplicate without volume
      cases htype : e.fillType with
      | entry =>
        have hkey : e.hasKey orderUuid .entry = true := hasKey_iff.mpr ⟨huuid, htype⟩
        simp [hposition, huuid, hkey]
      | scaleIn =>
        have hzero : e.appliedVolume = 0 := by
          refine hempty e ?_
          rw [h.scaleEvents]
          exact mem_fillEvents.mpr ⟨he, hposition, hasKey_iff.mpr ⟨huuid, htype⟩⟩
        simp [hzero]
    · have hkey : ¬ e.hasKey orderUuid .entry = true := fun hk => huuid (hasKey_iff.mp hk).1
      simp [hposition, huuid, hkey]
  · simp [hposition]

theorem otherFillVolume_applyRepair (h : t.ReadFrom db positionId orderUuid) (now : UtcTime) :
    otherFillVolume (applyRepair db positionId orderUuid t now) positionId orderUuid
      = otherFillVolume db positionId orderUuid := by
  obtain ⟨-, hevents, -, -⟩ := applyRepair_tables db positionId orderUuid t now
  unfold otherFillVolume sumWhere
  rw [hevents, List.map_map]
  refine congrArg List.sum (List.map_congr_left ?_)
  intro e he
  obtain ⟨-, hposition, huuid, -⟩ := leaves_key (t := t) e
  simp only [Function.comp_apply, hposition, huuid]
  by_cases hother : e.orderUuid = orderUuid
  · simp [hother]
  · have hleft : t.leaves e = e := by
      refine if_neg ?_
      intro hid
      exact hother ((isDuplicate_iff h he).mp hid).2.1
    rw [hleft]

theorem fillVolume_applyRepair (h : t.ReadFrom db positionId orderUuid) (now : UtcTime) :
    fillVolume (applyRepair db positionId orderUuid t now) positionId
      = t.entryEvent.appliedVolume + otherFillVolume db positionId orderUuid := by
  obtain ⟨t', ht', -, -, hentry, hscale, -⟩ := targetState_applyRepair now h
  rw [fillVolume_of_emptied (targetState_ok ht') ?_, hentry, otherFillVolume_applyRepair h]
  intro e he
  rw [hscale] at he
  obtain ⟨e', -, rfl⟩ := List.mem_map.mp he
  rfl

end Volume

/-! ## What a second repair proposes -/

section Proposals

variable {db : Database} {positionId : ℕ} {orderUuid : String} {t : RepairTarget}

/-- Everything stands where the ENTRY fill puts it. -/
structure RepairTarget.InPlace (t : RepairTarget) (db : Database) (orderUuid : String) : Prop where
  position : t.position.differsFromEntry (expectedEntry t.position t.entryEvent) = false
  scaleEvents : ∀ e ∈ t.scaleEvents, e.applies = false
  slot : ∀ s ∈ t.slot, s.differsFromEntry (expectedEntry t.position t.entryEvent) = false
  ledger : ledgerDiffers (loadOrderApplicationLedger db orderUuid)
    (expectedEntry t.position t.entryEvent) = false
  sessions : t.clearedSessions = []

theorem proposedUpdates_eq_nil_iff (positionId : ℕ) :
    proposedUpdates db positionId orderUuid t = [] ↔ t.InPlace db orderUuid := by
  unfold proposedUpdates
  simp only [List.append_eq_nil_iff, List.map_eq_nil_iff, List.filter_eq_nil_iff, ite_eq_right_iff,
    List.cons_ne_nil, imp_false, Bool.not_eq_true, Option.mem_toList]
  constructor
  · rintro ⟨⟨⟨⟨hposition, hscale⟩, hslot⟩, hledger⟩, hsessions⟩
    refine ⟨hposition, hscale, hslot, hledger, List.filter_eq_nil_iff.mpr ?_⟩
    intro s hs
    simp [hsessions s hs]
  · intro h
    refine ⟨⟨⟨⟨h.position, h.scaleEvents⟩, h.slot⟩, h.ledger⟩, ?_⟩
    intro s hs
    simpa using List.filter_eq_nil_iff.mp h.sessions s hs

/-- The slot is valued at the price that the position is left with: there is no slot, or the
position had a price, or the fill amounts to nothing. -/
def RepairTarget.SlotPriced (t : RepairTarget) : Prop :=
  t.slot = none ∨ orNum t.position.currentPrice t.position.entryPrice ≠ 0
    ∨ t.entryEvent.appliedVolume ≤ 0 ∨ |t.entryEvent.appliedAmountKrw| ≤ amountTolerance

theorem resetTo_differsFromEntry_iff (position : LivePosition) (entryEvent : PositionFillEvent)
    (slot : PositionSlot) (now : UtcTime) :
    let expected := expectedEntry position entryEvent
    (slot.resetTo expected now).differsFromEntry
        (expectedEntry (position.resetTo expected now) entryEvent) = false
      ↔ orNum position.currentPrice position.entryPrice ≠ 0 ∨ entryEvent.appliedVolume ≤ 0
        ∨ |entryEvent.appliedAmountKrw| ≤ amountTolerance := by
  intro expected
  have htolerance : (0 : ℚ) ≤ amountTolerance := by norm_num [amountTolerance]
  set expected' := expectedEntry (position.resetTo expected now) entryEvent with hexpected'
  have hamount : expected'.amountKrw = expected.amountKrw := rfl
  have hgap : expected.unrealizedPnl - expected'.unrealizedPnl
      = expected.value - expected'.value := by
    show (expected.value - expected.amountKrw) - (expected'.value - expected'.amountKrw) = _
    rw [hamount]
    ring
  have hdiffers : (slot.resetTo expected now).differsFromEntry expected' = false
      ↔ |expected.value - expected'.value| ≤ amountTolerance := by
    unfold PositionSlot.differsFromEntry PositionSlot.resetTo
    simp only [hamount, hgap, sub_self, abs_zero, Bool.or_eq_false_iff, decide_eq_false_iff_not,
      not_lt, htolerance, true_and, and_true, and_self]
  rw [hdiffers]
  have hvalue : expected'.value
      = entryEvent.appliedVolume * orNum expected.currentPrice expected.price := rfl
  have hvalue₀ : expected.value = entryEvent.appliedVolume * expected.currentPrice := rfl
  have hcurrent : orNum position.currentPrice position.entryPrice = expected.currentPrice := rfl
  rw [hcurrent]
  by_cases hprice : expected.currentPrice = 0
  · rw [hvalue, hvalue₀, hprice]
    have hother : orNum 0 expected.price = expected.price := if_pos rfl
    rw [hother, mul_zero, zero_sub, abs_neg]
    by_cases hvolume : 0 < entryEvent.appliedVolume
    · -- the price is what the fill paid, and values it at its amount
      have hpaid : expected.price = entryEvent.appliedAmountKrw / entryEvent.appliedVolume :=
        if_pos hvolume
      rw [hpaid, mul_div_cancel₀ _ hvolume.ne']
      simp [hvolume]
    · -- no price before, and none now
      have hnone : expected.price = position.entryPrice := if_neg hvolume
      have hzero : position.entryPrice = 0 := by
        rw [← hcurrent] at hprice
        unfold orNum at hprice
        split_ifs at hprice with hfirst
        · exact hprice
        · exact absurd hprice hfirst
      rw [hnone, hzero, mul_zero, abs_zero]
      simp [htolerance, not_lt.mp hvolume]
  · rw [hvalue, hvalue₀]
    have hsame : orNum expected.currentPrice expected.price = expected.currentPrice := if_neg hprice
    rw [hsame, sub_self, abs_zero]
    simp [htolerance, hprice]

theorem proposedUpdates_applyRepair_iff (h : t.ReadFrom db positionId orderUuid) (now : UtcTime)
    {t' : RepairTarget}
    (ht' : targetState (applyRepair db positionId orderUuid t now) positionId orderUuid = .ok t') :
    proposedUpdates (applyRepair db positionId orderUuid t now) positionId orderUuid t' = []
      ↔ t.SlotPriced := by
  obtain ⟨t'', hagain, hposition, hslot, hentry, hscale, hsessions⟩ := targetState_applyRepair now h
  obtain rfl : t'' = t' := Except.ok.inj (hagain.symm.trans ht')
  rw [proposedUpdates_eq_nil_iff]
  set expected := expectedEntry t.position t.entryEvent
  set expected' := expectedEntry t''.position t''.entryEvent with hexpected'
  have hvolume : expected'.volume = expected.volume :=
    congrArg PositionFillEvent.appliedVolume hentry
  have hamount : expected'.amountKrw = expected.amountKrw :=
    congrArg PositionFillEvent.appliedAmountKrw hentry
  have hinplace : t''.position.differsFromEntry expected' = false := by
    unfold LivePosition.differsFromEntry
    rw [hposition, hvolume, hamount]
    simp [LivePosition.resetTo, volumeTolerance, amountTolerance]
  have hemptied : ∀ e ∈ t''.scaleEvents, e.applies = false := by
    intro e he
    rw [hscale] at he
    obtain ⟨e', -, rfl⟩ := List.mem_map.mp he
    rfl
  have hledger : ledgerDiffers (loadOrderApplicationLedger
      (applyRepair db positionId orderUuid t now) orderUuid) expected' = false := by
    obtain ⟨l, hl, happlied⟩ := loadOrderApplicationLedger_applyRepair db positionId orderUuid t now
    rw [hl]
    show decide (volumeTolerance < |l.appliedVolume - expected'.volume|) = false
    rw [hvolume, happlied]
    simp [expected, expectedEntry, volumeTolerance]
  have hslots : (∀ s ∈ t''.slot, s.differsFromEntry expected' = false) ↔ t.SlotPriced := by
    rw [hslot, hexpected', hposition, hentry]
    unfold RepairTarget.SlotPriced
    cases t.slot with
    | none => simp
    | some slot =>
      have hwritten := resetTo_differsFromEntry_iff t.position t.entryEvent slot now
      simpa using hwritten
  constructor
  · intro hp
    exact hslots.mp hp.slot
  · intro hpriced
    exact ⟨hinplace, hemptied, hslots.mpr hpriced, hledger, hsessions⟩

end Proposals

/-! ## The repair, and the repair again -/

section Settled

/-- The position holds what its fill events applied. -/
def FillsConsistent (db : Database) (positionId : ℕ) : Prop :=
  ∃ p ∈ loadLivePosition db positionId, p.entryVolume = fillVolume db positionId

/-- The repair is accepted and has nothing to propose. -/
def ProposesNothing (db : Database) (positionId : ℕ) (orderUuid : String) : Prop :=
  ∃ t ∈ (targetState db positionId orderUuid).toOption,
    proposedUpdates db positionId orderUuid t = []

instance (db : Database) (positionId : ℕ) : Decidable (FillsConsistent db positionId) :=
  inferInstanceAs (Decidable (∃ p ∈ loadLivePosition db positionId, _))

instance (db : Database) (positionId : ℕ) (orderUuid : String) :
    Decidable (ProposesNothing db positionId orderUuid) :=
  inferInstanceAs (Decidable (∃ t ∈ (targetState db positionId orderUuid).toOption, _))

variable {db db' : Database} {positionId : ℕ} {orderUuid exchange : String} {t : RepairTarget}
  {balances : Except String Balances} {now : UtcTime} {result : RepairResult}

theorem proposesNothing_iff :
    ProposesNothing db positionId orderUuid
      ↔ ∃ t, targetState db positionId orderUuid = .ok t
        ∧ proposedUpdates db positionId orderUuid t = [] := by
  unfold ProposesNothing
  cases targetState db positionId orderUuid with
  | error reason => simp [Except.toOption]
  | ok t => simp [Except.toOption]

theorem repair_returns (ht : targetState db positionId orderUuid = .ok t) (exchange : String)
    (dryRun : Bool) (balances : Balances) (now : UtcTime) :
    ∃ result db', repairDuplicateOrderUuidApplication db positionId orderUuid exchange dryRun
      (.ok balances) now = .ok (result, db') := by
  unfold repairDuplicateOrderUuidApplication
  rw [ht]
  dsimp only
  split
  · exact ⟨_, _, rfl⟩
  · exact ⟨_, _, rfl⟩

theorem repair_database (ht : targetState db positionId orderUuid = .ok t)
    (hrun : repairDuplicateOrderUuidApplication db positionId orderUuid exchange false balances now
      = .ok (result, db')) :
    db' = if proposedUpdates db positionId orderUuid t = [] then db
      else applyRepair db positionId orderUuid t now := by
  unfold repairDuplicateOrderUuidApplication at hrun
  rw [ht] at hrun
  cases balances with
  | error exc => cases hrun
  | ok balances =>
    simp only [Bool.false_eq_true, false_or] at hrun
    split_ifs at hrun ⊢ with hnone
    · exact (Prod.mk.inj (Except.ok.inj hrun)).2.symm
    · exact (Prod.mk.inj (Except.ok.inj hrun)).2.symm

end Settled

/-! ## Three positions -/

def exampleFillEvent (orderUuid : String) (fillType : FillType) (id : ℕ) : PositionFillEvent :=
  { id := id, orderUuid := orderUuid, positionId := 1, fillType := fillType
    appliedVolume := 1, appliedAmountKrw := 100 }

/-- Order A was applied twice: as the ENTRY and as a SCALE_IN. -/
def exampleDoubledFills : Table PositionFillEvent :=
  (Table.empty.insert (exampleFillEvent "A" .entry) (fun _ => rfl)).insert
    (exampleFillEvent "A" .scaleIn) (fun _ => rfl)

/-- A position of two coins on the doubled fills. -/
def exampleDoubledDb : Database :=
  { livePositions := Table.empty.insert
      (fun k =>
        { id := k, market := "KRW-BTC", entryOrderUuid := some "A", entryPrice := 100
          entryVolume := 2, entryAmountKrw := 200, currentPrice := 100, scaleInCount := 1 })
      (fun _ => rfl)
    positionFillEvents := exampleDoubledFills
    fillKey_unique := by decide +kernel }

/-- A position of three coins: order B has bought one more. -/
def exampleScaledDb : Database :=
  { livePositions := Table.empty.insert
      (fun k =>
        { id := k, market := "KRW-BTC", entryOrderUuid := some "A", entryPrice := 100
          entryVolume := 3, entryAmountKrw := 300, currentPrice := 100, scaleInCount := 2 })
      (fun _ => rfl)
    positionFillEvents := exampleDoubledFills.insert (exampleFillEvent "B" .scaleIn) (fun _ => rfl)
    fillKey_unique := by decide +kernel }

/-- A position without a price, and its slot. -/
def exampleUnpricedDb : Database :=
  { livePositions := Table.empty.insert
      (fun k =>
        { id := k, market := "KRW-BTC", entryOrderUuid := some "A", entryVolume := 2
          entryAmountKrw := 200 })
      (fun _ => rfl)
    positionFillEvents := exampleDoubledFills
    positionSlots := Table.empty.insert
      (fun k =>
        { id := k, slotNumber := 1, status := .held .opened, livePositionId := some 1
          allocatedKrw := 200 })
      (fun _ => rfl)
    fillKey_unique := by decide +kernel }

def exampleRepaired (db : Database) : Except String (RepairResult × Database) :=
  repairDuplicateOrderUuidApplication db 1 "A" "bithumb" false (.ok {}) 10

end AutoCoinBot
