/-
  LivePositionSync.Readings — a filled order read again after its log
  rows were attached to a position.

  Attaching a row stamps it with a new `updated_at`, so among rows of equal volume another one may
  become canonical.
-/
import AutoCoinBot.LivePositionSync.Fills

namespace AutoCoinBot

open Library

/-! ## Rows that read the same -/

/-- Two states of a row that say the same about its fill. -/
structure LiveOrderLog.SameReading (l l' : LiveOrderLog) : Prop where
  orderUuid : l'.orderUuid = l.orderUuid
  volume : filledVolume (some l') {} = filledVolume (some l) {}
  scaleIn : l'.orderPreviewPayload.scaleIn.scaleIn = l.orderPreviewPayload.scaleIn.scaleIn

/-- Every row of either database has a row of the other that reads the same. -/
structure SameReadings (db db' : Database) : Prop where
  forth : ∀ l ∈ db.liveOrderLogs.rows, ∃ l' ∈ db'.liveOrderLogs.rows, l.SameReading l'
  back : ∀ l' ∈ db'.liveOrderLogs.rows, ∃ l ∈ db.liveOrderLogs.rows, l.SameReading l'

namespace SameReadings

variable {db db' db'' : Database}

theorem of_eq (h : db.liveOrderLogs = db'.liveOrderLogs) : SameReadings db db' := by
  constructor
  · exact fun l hl => ⟨l, h ▸ hl, ⟨rfl, rfl, rfl⟩⟩
  · exact fun l hl => ⟨l, h ▸ hl, ⟨rfl, rfl, rfl⟩⟩

theorem symm (h : SameReadings db db') : SameReadings db' db := by
  constructor
  · intro l hl
    obtain ⟨l', hl', hs⟩ := h.back l hl
    exact ⟨l', hl', hs.orderUuid.symm, hs.volume.symm, hs.scaleIn.symm⟩
  · intro l hl
    obtain ⟨l', hl', hs⟩ := h.forth l hl
    exact ⟨l', hl', hs.orderUuid.symm, hs.volume.symm, hs.scaleIn.symm⟩

theorem trans (h : SameReadings db db') (h' : SameReadings db' db'') : SameReadings db db'' := by
  constructor
  · intro l hl
    obtain ⟨l', hl', hs⟩ := h.forth l hl
    obtain ⟨l'', hl'', hs'⟩ := h'.forth l' hl'
    exact ⟨l'', hl'', hs'.orderUuid.trans hs.orderUuid, hs'.volume.trans hs.volume,
      hs'.scaleIn.trans hs.scaleIn⟩
  · intro l'' hl''
    obtain ⟨l', hl', hs'⟩ := h'.back l'' hl''
    obtain ⟨l, hl, hs⟩ := h.back l' hl'
    exact ⟨l, hl, hs'.orderUuid.trans hs.orderUuid, hs'.volume.trans hs.volume,
      hs'.scaleIn.trans hs.scaleIn⟩

theorem exists_log (h : SameReadings db db') {uuid : String} {l : LiveOrderLog}
    (hl : l ∈ loadLiveOrderLogsByUuid db uuid) :
    ∃ l' ∈ loadLiveOrderLogsByUuid db' uuid, l.SameReading l' := by
  unfold loadLiveOrderLogsByUuid at hl ⊢
  simp only [List.mem_insertionSort, Table.mem_select, beq_iff_eq] at hl ⊢
  obtain ⟨l', hl', hs⟩ := h.forth l hl.1
  exact ⟨l', ⟨hl', hs.orderUuid.trans hl.2⟩, hs⟩

end SameReadings

/-! ## Attaching -/

section Attach

variable (now : UtcTime) (db : Database)

theorem sameReadings_attachLog (requestId : String) (positionId : ℕ) :
    SameReadings db ((SyncWrite.attachLog requestId positionId).apply now db) := by
  show SameReadings db (updateLiveOrderLog db requestId
    { positionId := some (some positionId) } now)
  unfold updateLiveOrderLog
  cases hcurrent : getLiveOrderLog db requestId with
  | none => exact SameReadings.of_eq rfl
  | some current =>
    -- request ids are unique, so the row read is the row written
    have hsame : ∀ r ∈ db.liveOrderLogs.rows, r.SameReading
        (if r.requestId == requestId then
          r.overwrite (mergedLiveOrderLog db requestId current
            { positionId := some (some positionId) } now)
        else r) := by
      intro r hr
      by_cases hid : r.requestId = requestId
      · have heq : r = current := db.requestId_unique.eq_of_key hr
          (List.mem_of_find?_eq_some hcurrent)
          (hid.trans (getLiveOrderLog_requestId db _ hcurrent).symm)
        simp only [hid, beq_self_eq_true, if_true]
        refine ⟨?_, ?_, rfl⟩
        · show (mergedLiveOrderLog db requestId current _ now).orderUuid = r.orderUuid
          rw [heq]
          rcases mergedLiveOrderLog_orderUuid db requestId current
            { positionId := some (some positionId) } now with h | h
          · exact h
          · exact h
        · have hexecuted := mergedLiveOrderLog_executedVolume db requestId current
            { positionId := some (some positionId) } now
          unfold filledVolume
          simp only [Option.map_some, Option.bind_some, LiveOrderLog.overwrite, hexecuted, heq]
          rfl
      · simp only [beq_eq_false_iff_ne.mpr hid, Bool.false_eq_true, if_false]
        exact ⟨rfl, rfl, rfl⟩
    constructor
    · intro r hr
      exact ⟨_, List.mem_map_of_mem hr, hsame r hr⟩
    · intro r' hr'
      obtain ⟨r, hr, rfl⟩ := List.mem_map.mp hr'
      exact ⟨r, hr, hsame r hr⟩

/-- The writes of a sync that touch the order logs. -/
def SyncWrite.attachesLog : SyncWrite → Bool
  | .attachLog _ _ => true
  | _ => false

theorem liveOrderLogs_apply_of_not_attachesLog {w : SyncWrite} (h : w.attachesLog = false) :
    (w.apply now db).liveOrderLogs = db.liveOrderLogs := by
  cases w with
  | attachLog r i => cases h
  | finalizeEntryLifecycle i => exact finalizeEntryLifecycleForPosition_liveOrderLogs _ _ _
  | _ => rfl

theorem sameReadings_applyWrites (ws : List SyncWrite) :
    SameReadings db (applyWrites now db ws) := by
  induction ws generalizing db with
  | nil => exact SameReadings.of_eq rfl
  | cons w ws ih =>
    rw [applyWrites_cons]
    refine SameReadings.trans ?_ (ih _)
    cases hw : w.attachesLog with
    | false => exact SameReadings.of_eq (liveOrderLogs_apply_of_not_attachesLog now db hw).symm
    | true =>
      cases w with
      | attachLog r i => exact sameReadings_attachLog now db r i
      | _ => cases hw

theorem liveOrderLogs_apply_congr {db db' : Database} (h : db.liveOrderLogs = db'.liveOrderLogs)
    (w : SyncWrite) : (w.apply now db).liveOrderLogs = (w.apply now db').liveOrderLogs := by
  cases hw : w.attachesLog with
  | false =>
    rw [liveOrderLogs_apply_of_not_attachesLog now db hw,
      liveOrderLogs_apply_of_not_attachesLog now db' hw, h]
  | true =>
    cases w with
    | attachLog r i => exact updateLiveOrderLog_congr h _ _ _
    | _ => cases hw

theorem liveOrderLogs_applyWrites_congr {db db' : Database}
    (h : db.liveOrderLogs = db'.liveOrderLogs) (ws : List SyncWrite) :
    (applyWrites now db ws).liveOrderLogs = (applyWrites now db' ws).liveOrderLogs := by
  induction ws generalizing db db' with
  | nil => exact h
  | cons w ws ih => exact ih (liveOrderLogs_apply_congr now h w)

/-- **The order logs depend on the attaching writes only.** -/
theorem liveOrderLogs_applyWrites (ws : List SyncWrite) :
    (applyWrites now db ws).liveOrderLogs
      = (applyWrites now db (ws.filter SyncWrite.attachesLog)).liveOrderLogs := by
  induction ws generalizing db with
  | nil => rfl
  | cons w ws ih =>
    cases hw : w.attachesLog with
    | true =>
      rw [List.filter_cons_of_pos hw, applyWrites_cons, applyWrites_cons]
      exact ih _
    | false =>
      rw [List.filter_cons_of_neg (by simp [hw]), applyWrites_cons, ih]
      exact liveOrderLogs_applyWrites_congr now
        (liveOrderLogs_apply_of_not_attachesLog now db hw) _

end Attach

/-! ## Reading again -/

theorem filledOrder_congr {db db' : Database} (h : db.liveOrderLogs = db'.liveOrderLogs)
    (orderLog : Option LiveOrderLog) (rawOrder : RawOrder) (session : SyncSession) :
    filledOrder db orderLog rawOrder session = filledOrder db' orderLog rawOrder session := by
  unfold filledOrder canonicalLog loadLiveOrderLogsByUuid
  rw [h]

/-- The rows the canonical log is chosen from: the scale-ins, if there are any. -/
def InPool (logs : List LiveOrderLog) (l : LiveOrderLog) : Prop :=
  (∃ l' ∈ logs, l'.orderPreviewPayload.scaleIn.scaleIn = true) →
    l.orderPreviewPayload.scaleIn.scaleIn = true

/-- **The canonical log has the largest volume of its pool.** -/
theorem canonicalLog_spec (db : Database) (orderLog : Option LiveOrderLog) {uuid : String}
    (huuid : uuid ≠ "") (hlogs : loadLiveOrderLogsByUuid db uuid ≠ []) :
    ∃ best ∈ loadLiveOrderLogsByUuid db uuid, (canonicalLog db orderLog uuid).1 = some best
      ∧ InPool (loadLiveOrderLogsByUuid db uuid) best
      ∧ ∀ l ∈ loadLiveOrderLogsByUuid db uuid, InPool (loadLiveOrderLogsByUuid db uuid) l →
          filledVolume (some l) {} ≤ filledVolume (some best) {} := by
  unfold canonicalLog
  simp only [if_neg huuid]
  cases hload : loadLiveOrderLogsByUuid db uuid with
  | nil => exact absurd hload hlogs
  | cons first rest =>
    simp only
    cases hscales : (first :: rest).filter (fun l => l.orderPreviewPayload.scaleIn.scaleIn) with
    | cons scale scales =>
      have hmem := bestLog_mem scale scales
      rw [← hscales, List.mem_filter] at hmem
      refine ⟨bestLog scale scales, hmem.1, rfl, fun _ => hmem.2, ?_⟩
      intro l hl hpool
      refine filledVolume_le_bestLog scale scales l ?_
      have hfirst : scale ∈ (first :: rest).filter
          (fun l => l.orderPreviewPayload.scaleIn.scaleIn) := by
        rw [hscales]; exact List.mem_cons_self
      rw [← hscales, List.mem_filter]
      exact ⟨hl, hpool ⟨scale, List.mem_filter.mp hfirst⟩⟩
    | nil =>
      refine ⟨bestLog first rest, bestLog_mem first rest, rfl, ?_,
        fun l hl _ => filledVolume_le_bestLog first rest l hl⟩
      rintro ⟨l', hl', hscale⟩
      exact absurd hscale (List.filter_eq_nil_iff.mp hscales l' hl')

theorem canonicalVolume_le {db db' : Database} (h : SameReadings db db') {uuid : String}
    {best best' : LiveOrderLog}
    (hbest : best ∈ loadLiveOrderLogsByUuid db uuid)
    (hpool : InPool (loadLiveOrderLogsByUuid db uuid) best)
    (hmax : ∀ l ∈ loadLiveOrderLogsByUuid db' uuid, InPool (loadLiveOrderLogsByUuid db' uuid) l →
      filledVolume (some l) {} ≤ filledVolume (some best') {}) :
    filledVolume (some best) {} ≤ filledVolume (some best') {} := by
  obtain ⟨l, hl, hsame⟩ := h.exists_log hbest
  rw [← hsame.volume]
  refine hmax l hl ?_
  rintro ⟨m', hm', hscale⟩
  obtain ⟨m, hm, hsame'⟩ := h.symm.exists_log hm'
  exact hsame.scaleIn.trans (hpool ⟨m, hm, hsame'.scaleIn.trans hscale⟩)

theorem filledVolume_some (l : LiveOrderLog) (rawOrder : RawOrder) :
    filledVolume (some l) rawOrder
      = orNum (toFloat rawOrder.executedVolume)
          (orNum (toFloat rawOrder.volume) (filledVolume (some l) {})) := rfl

/-- **Accepted readings of one order agree on its volume.** -/
theorem filledOrder_volume_eq {db db' : Database} (h : SameReadings db db')
    {orderLog : Option LiveOrderLog} {rawOrder : RawOrder} {session : SyncSession}
    {f f' : FilledOrder} (hf : filledOrder db orderLog rawOrder session = .ok f)
    (hf' : filledOrder db' orderLog rawOrder session = .ok f') :
    f'.orderUuid = f.orderUuid ∧ f'.volume = f.volume := by
  obtain ⟨huuid, hne, hcanonical, hvolume, _⟩ := filledOrder_ok_spec hf
  obtain ⟨huuid', _, hcanonical', hvolume', _⟩ := filledOrder_ok_spec hf'
  have hsame : f'.orderUuid = f.orderUuid := huuid'.trans huuid.symm
  refine ⟨hsame, ?_⟩
  rw [hsame] at hcanonical'
  rw [hvolume, hvolume']
  have hfirst : f.canonicalLog = (canonicalLog db orderLog f.orderUuid).1 :=
    congrArg Prod.fst hcanonical
  have hfirst' : f'.canonicalLog = (canonicalLog db' orderLog f.orderUuid).1 :=
    congrArg Prod.fst hcanonical'
  by_cases hlogs : loadLiveOrderLogsByUuid db f.orderUuid = []
  · -- no stored rows: both readings go by the caller's log
    have hlogs' : loadLiveOrderLogsByUuid db' f.orderUuid = [] := by
      refine List.eq_nil_iff_forall_not_mem.mpr fun l hl => ?_
      obtain ⟨l', hl', _⟩ := h.symm.exists_log hl
      rw [hlogs] at hl'
      exact absurd hl' List.not_mem_nil
    rw [hfirst, hfirst']
    unfold canonicalLog
    simp only [if_neg hne, hlogs, hlogs']
  · have hlogs' : loadLiveOrderLogsByUuid db' f.orderUuid ≠ [] := by
      obtain ⟨l, hl⟩ := List.exists_mem_of_ne_nil _ hlogs
      obtain ⟨l', hl', _⟩ := h.exists_log hl
      exact List.ne_nil_of_mem hl'
    obtain ⟨best, hbest, hb, hpool, hmax⟩ := canonicalLog_spec db orderLog hne hlogs
    obtain ⟨best', hbest', hb', hpool', hmax'⟩ := canonicalLog_spec db' orderLog hne hlogs'
    rw [hfirst, hfirst', hb, hb', filledVolume_some, filledVolume_some best,
      le_antisymm (canonicalVolume_le h.symm hbest' hpool' hmax)
        (canonicalVolume_le h hbest hpool hmax')]

end AutoCoinBot
