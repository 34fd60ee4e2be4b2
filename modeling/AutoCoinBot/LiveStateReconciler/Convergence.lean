/-
  LiveStateReconciler.Convergence — passes one after the other.

  The second pass may close what the first left: it demotes, releases expired reservations and moves
  session pointers.
-/
import AutoCoinBot.LiveStateReconciler.Fixpoint

namespace AutoCoinBot

open Library

section Convergence

variable (settings : ReconcilerSettings) {db d d' : Database}

/-! ## Sessions that are stopped -/

/-- A session is left alone, or holds no order and no position. -/
def LiveStrategySession.Idles (s s' : LiveStrategySession) : Prop := s' = s ∨ s'.isIdle = true

theorem LiveStrategySession.Idles.refl (s : LiveStrategySession) : s.Idles s := .inl rfl

theorem LiveStrategySession.Idles.trans {s t u : LiveStrategySession} (h : s.Idles t)
    (h' : t.Idles u) : s.Idles u :=
  eq_or_trans (S := fun _ s' : LiveStrategySession => s'.isIdle = true)
    (fun _ _ _ _ hidle => hidle) h h'

theorem idles_releaseAll (reason : String) (status : ReservationStatus) (rels : List SlotRelease) :
    Rewrites LiveStrategySession.Idles db.liveStrategySessions
      (releaseAll settings db reason status rels).liveStrategySessions := by
  refine rewrites_of_map (fun k => session_releaseAll settings db k reason status rels)
    (fun k s => ?_)
  split
  · rename_i hstopped
    obtain ⟨rel, -, -, hidle⟩ := hstopped
    exact .inr hidle
  · exact .inl rfl

theorem idles_reconcileDuplicate :
    Rewrites LiveStrategySession.Idles db.liveStrategySessions
      (reconcileDuplicatePositionSessions settings db).liveStrategySessions :=
  rewrites_of_ite LiveStrategySession.Idles.refl
    (fun k => session_reconcileDuplicate settings db k) (fun _ => .inr rfl)

theorem idles_afterPointer :
    Rewrites LiveStrategySession.Idles db.liveStrategySessions
      (reconcileReservedEntryBlockedSlots settings (reconcileDuplicatePositionSessions settings
        (reconcileEntryFillLifecycles settings db))).liveStrategySessions := by
  set entry := reconcileEntryFillLifecycles settings db with hentry
  have hduplicate : Rewrites LiveStrategySession.Idles entry.liveStrategySessions
      (reconcileDuplicatePositionSessions settings entry).liveStrategySessions :=
    idles_reconcileDuplicate settings
  have hsame : entry.liveStrategySessions = db.liveStrategySessions := by
    rw [hentry, reconcileEntryFill_liveStrategySessions]
  rw [hsame] at hduplicate
  exact hduplicate.trans (fun _ _ _ => LiveStrategySession.Idles.trans)
    (idles_releaseAll settings _ _ _)

/-! ## Session pointers -/

theorem currentSessionOk_iff {slot : PositionSlot} : currentSessionOk db slot = true
    ↔ ∃ k s, slot.liveStrategySessionId = some k ∧ db.liveStrategySessions.get? k = some s
      ∧ s.status.isActive = true ∧ slot.differsFrom s = false := by
  unfold currentSessionOk slotSession loadLiveStrategySession
  rw [Bool.and_eq_true]
  constructor
  · rintro ⟨-, hruns⟩
    obtain ⟨s, hs, hcolumns⟩ := (Option.any_eq_true _ _).mp hruns
    obtain ⟨k, hk, hrow⟩ := Option.bind_eq_some_iff.mp hs
    rw [Bool.and_eq_true, Bool.not_eq_true'] at hcolumns
    exact ⟨k, s, hk, hrow, hcolumns.1, hcolumns.2⟩
  · rintro ⟨k, s, hk, hrow, hactive, hsame⟩
    rw [hk]
    refine ⟨idGiven_some (Table.get?_pos hrow), ?_⟩
    rw [Option.bind_some, hrow, Option.any_some, hactive, hsame]
    rfl

theorem replacementSession_or_ok {slot : PositionSlot}
    (h : (activeSessionForReservedSlot db slot).isSome = true) :
    (replacementSession db slot).isSome = true ∨ currentSessionOk db slot = true := by
  obtain ⟨s, hs⟩ := Option.isSome_iff_exists.mp h
  obtain ⟨hrow, hactive, hsame⟩ := activeSessionForReservedSlot_spec hs
  by_cases hown : s.id = slot.liveStrategySessionId.getD 0
  -- ids start at one, so the slot does name the session
  · right
    have hgiven : idGiven slot.liveStrategySessionId = true := by
      have hpos := Table.get?_pos hrow
      unfold idGiven
      rw [← hown]
      exact bne_iff_ne.mpr hpos.ne'
    have hnames := (eq_getD_iff_of_idGiven hgiven s.id).mp hown
    exact currentSessionOk_iff.mpr ⟨s.id, s, hnames, hrow, hactive, hsame⟩
  · left
    unfold replacementSession
    rw [hs, Option.filter_some, if_pos (bne_iff_ne.mpr hown)]
    rfl

theorem activeSession_before {R : PositionSlot → PositionSlot → Prop} (h : Outcome R d d')
    {slot : PositionSlot} (hfound : (activeSessionForReservedSlot d' slot).isSome = true) :
    (activeSessionForReservedSlot d slot).isSome = true := by
  obtain ⟨s', hs'⟩ := Option.isSome_iff_exists.mp hfound
  obtain ⟨hrow', hactive, -⟩ := activeSessionForReservedSlot_spec hs'
  unfold activeSessionForReservedSlot at hs' ⊢
  have hlisted := (List.mem_insertionSort _).mp (List.mem_of_head? hs')
  obtain ⟨s, hs, heq | ⟨hstopped, -⟩⟩ := h.sessions.get?_of_get? hrow'
  · rw [← heq] at hs
    rw [List.isSome_head?]
    refine List.ne_nil_of_mem ((List.mem_insertionSort _).mpr
      (Table.mem_select.mpr ⟨Table.get?_some_mem hs, ?_⟩))
    exact (Table.mem_select.mp hlisted).2
  · rw [hstopped] at hactive
    cases hactive

theorem activeSession_reconcilePointer (hnone : findMismatchedPositionSlotSessions db = [])
    {k : ℕ} {s : LiveStrategySession} (hs : db.liveStrategySessions.get? k = some s)
    (hactive : s.status.isActive = true) :
    (reconcileReservedSlotSessionPointer settings db).liveStrategySessions.get? k = some s := by
  rw [session_reconcileReservedSlotSessionPointer, hs, Option.map_some, if_neg]
  rintro ⟨item, hitem, hnames, -⟩
  obtain ⟨hrow, hfree, -, hok, -⟩ := mem_findReservedSlotSessionPointerMismatches.mp hitem
  -- a slot is taken from a running session only if the two differ
  have hdiffers : item.1.differsFrom s = true := by
    rw [← Bool.not_eq_false]
    intro hsame
    rw [currentSessionOk_iff.mpr ⟨k, s, hnames, hs, hactive, hsame⟩] at hok
    cases hok
  have hmismatched : item.1 ∈ findMismatchedPositionSlotSessions db := by
    refine (mem_findMismatched_iff db).mpr ⟨hrow, hfree, ?_, ?_⟩
    · rw [hnames]
      rfl
    · unfold slotSession loadLiveStrategySession
      rw [hnames, Option.bind_some, hs]
      exact hdiffers
  rw [hnone] at hmismatched
  cases hmismatched

theorem findPointers_reconcilePointer (hnone : findMismatchedPositionSlotSessions db = []) :
    findReservedSlotSessionPointerMismatches (reconcileReservedSlotSessionPointer settings db)
      = [] := by
  rw [List.eq_nil_iff_forall_not_mem]
  intro item hitem
  obtain ⟨hrow, hfree, hcandidate, hok, hreplacement⟩ :=
    mem_findReservedSlotSessionPointerMismatches.mp hitem
  suffices hruns : currentSessionOk (reconcileReservedSlotSessionPointer settings db) item.1
      = true by
    rw [hok] at hruns
    cases hruns
  have hafter : (reconcileReservedSlotSessionPointer settings db).positionSlots.get? item.1.id
      = some item.1 := Table.get?_of_mem hrow
  by_cases hlisted : ∃ moved ∈ findReservedSlotSessionPointerMismatches db,
      item.1.id = moved.1.id
  -- the session a slot was given runs on
  · obtain ⟨moved, hmoved, hid⟩ := hlisted
    have hgiven := (mem_findReservedSlotSessionPointerMismatches.mp hmoved).2.2.2.2
    obtain ⟨hsession, hactive, hsame⟩ :=
      activeSessionForReservedSlot_spec (replacementSession_spec hgiven).1
    rw [hid, slot_reconcilePointer settings hmoved] at hafter
    rw [← Option.some.inj hafter]
    exact currentSessionOk_iff.mpr ⟨moved.2.id, moved.2, rfl,
      activeSession_reconcilePointer settings hnone hsession hactive, hactive, hsame⟩
  -- and so does the session of a slot that kept its own
  · rw [slot_reconcilePointer_of_not settings hlisted] at hafter
    have hfound := activeSession_before (outcome_reconcilePointer settings db)
      (Option.isSome_iff_exists.mpr ⟨item.2, (replacementSession_spec hreplacement).1⟩)
    have hbefore : currentSessionOk db item.1 = true := by
      rcases replacementSession_or_ok hfound with hreplaced | hruns
      · by_contra hidle
        obtain ⟨s, hs⟩ := Option.isSome_iff_exists.mp hreplaced
        exact hlisted ⟨(item.1, s), mem_findReservedSlotSessionPointerMismatches.mpr
          ⟨Table.get?_some_mem hafter, hfree, hcandidate, Bool.eq_false_iff.mpr hidle, hs⟩, rfl⟩
      · exact hruns
    obtain ⟨k, s, hnames, hsession, hactive, hsame⟩ := currentSessionOk_iff.mp hbefore
    exact currentSessionOk_iff.mpr ⟨k, s, hnames,
      activeSession_reconcilePointer settings hnone hsession hactive, hactive, hsame⟩

/-- Every slot that would change its session has an idle one. -/
def PointersIdle (db : Database) : Prop :=
  ∀ item ∈ findReservedSlotSessionPointerMismatches db,
    (slotSession db item.1).all LiveStrategySession.isIdle = true

theorem pointersIdle_outcome (h : Outcome PositionSlot.Settles d d')
    (hidles : Rewrites LiveStrategySession.Idles d.liveStrategySessions d'.liveStrategySessions)
    (hd : PointersIdle d) : PointersIdle d' := by
  intro item hitem
  obtain ⟨hrow, hfree, hcandidate, hok, hreplacement⟩ :=
    mem_findReservedSlotSessionPointerMismatches.mp hitem
  rw [Option.all_eq_true]
  intro s' hs'
  obtain ⟨k, hk, hload⟩ := Option.bind_eq_some_iff.mp hs'
  obtain ⟨s, hs, heq | hidle⟩ := hidles.get?_of_get? hload
  · rw [heq]
    rw [heq] at hload
    have hsession : slotSession d item.1 = some s := by
      unfold slotSession
      rw [hk]
      exact hs
    have hfound := activeSession_before h
      (Option.isSome_iff_exists.mpr ⟨item.2, (replacementSession_spec hreplacement).1⟩)
    -- a session that was left alone did not run for the slot before either
    have hwaits : currentSessionOk d item.1 = false := by
      rw [Bool.eq_false_iff]
      intro hruns
      obtain ⟨j, t, hj, ht, hactive, hsame⟩ := currentSessionOk_iff.mp hruns
      rw [hk] at hj
      rw [← Option.some.inj hj, hs] at ht
      rw [← Option.some.inj ht] at hactive hsame
      rw [currentSessionOk_iff.mpr ⟨k, s, hk, hload, hactive, hsame⟩] at hok
      cases hok
    rcases replacementSession_or_ok hfound with hreplaced | hruns
    · obtain ⟨t, ht⟩ := Option.isSome_iff_exists.mp hreplaced
      have hidle := hd (item.1, t) (mem_findReservedSlotSessionPointerMismatches.mpr
        ⟨mem_slots_of_free h hrow hfree, hfree, hcandidate, hwaits, ht⟩)
      exact (Option.all_eq_true _ _).mp hidle s hsession
    · rw [hwaits] at hruns
      cases hruns
  · exact hidle

/-! ## What a later pass frees -/

/-- The repairs that may find work after a first pass. -/
def laterPass (db : Database) : Database :=
  reconcileEntryFillLifecycles settings (reconcileReservedSlotSessionPointer settings
    (reconcileExpiredOrderReservations settings (reconcileOrphanLiveActiveCandidates settings db)))

/-- A slot that is free, with an idle session or none. -/
def Vacant (db : Database) (slot : PositionSlot) : Prop :=
  slot ∈ db.positionSlots.rows ∧ slot.isFree = true
    ∧ (slotSession db slot).all LiveStrategySession.isIdle = true

theorem vacant_outcome (h : Outcome PositionSlot.Settles d d')
    (hidle : ∀ slot, (slotSession d' slot).all LiveStrategySession.isIdle
      = (slotSession d slot).all LiveStrategySession.isIdle)
    {slot : PositionSlot} (hvacant : Vacant d' slot) : Vacant d slot := by
  obtain ⟨hrow, hfree, hsession⟩ := hvacant
  rw [hidle] at hsession
  exact ⟨mem_slots_of_free h hrow hfree, hfree, hsession⟩

theorem vacant_reconcilePointer (hidle : PointersIdle db) {slot' : PositionSlot}
    (h : Vacant (reconcileReservedSlotSessionPointer settings db) slot') :
    ∃ slot, Vacant db slot ∧ slot.id = slot'.id ∧ slot.market = slot'.market
      ∧ slot.candidateStrategyId = slot'.candidateStrategyId := by
  obtain ⟨hrow, hfree, hsession⟩ := h
  have hafter : (reconcileReservedSlotSessionPointer settings db).positionSlots.get? slot'.id
      = some slot' := Table.get?_of_mem hrow
  by_cases hlisted : ∃ moved ∈ findReservedSlotSessionPointerMismatches db, slot'.id = moved.1.id
  · obtain ⟨moved, hmoved, hid⟩ := hlisted
    obtain ⟨hwas, hwasFree, -⟩ := mem_findReservedSlotSessionPointerMismatches.mp hmoved
    rw [hid, slot_reconcilePointer settings hmoved] at hafter
    rw [← Option.some.inj hafter]
    exact ⟨moved.1, ⟨hwas, hwasFree, hidle moved hmoved⟩, rfl, rfl, rfl⟩
  · rw [slot_reconcilePointer_of_not settings hlisted] at hafter
    rw [all_isIdle_of_map (fun k => session_reconcileReservedSlotSessionPointer settings db k)
      (fun k s => by split <;> rfl)] at hsession
    exact ⟨slot', ⟨Table.get?_some_mem hafter, hfree, hsession⟩, rfl, rfl, rfl⟩

theorem pointersIdle_expired (hidle : PointersIdle db) :
    PointersIdle (reconcileExpiredOrderReservations settings
      (reconcileOrphanLiveActiveCandidates settings db)) := by
  have horphan : PointersIdle (reconcileOrphanLiveActiveCandidates settings db) := by
    refine pointersIdle_outcome (outcome_reconcileOrphan settings db) ?_ hidle
    exact rewrites_of_eq LiveStrategySession.Idles.refl
      (reconcileOrphan_liveStrategySessions settings db)
  exact pointersIdle_outcome (outcome_reconcileExpired settings _)
    (idles_releaseAll settings _ _ _) horphan

theorem vacant_before (hidle : PointersIdle db) {slot' : PositionSlot}
    (h : Vacant (laterPass settings db) slot') :
    ∃ slot, Vacant db slot ∧ slot.id = slot'.id ∧ slot.market = slot'.market
      ∧ slot.candidateStrategyId = slot'.candidateStrategyId := by
  unfold laterPass at h
  set orphan := reconcileOrphanLiveActiveCandidates settings db with horphan
  set expired := reconcileExpiredOrderReservations settings orphan
  set pointer := reconcileReservedSlotSessionPointer settings expired
  have hpointer : Vacant pointer slot' := by
    refine vacant_outcome (outcome_reconcileEntryFill settings pointer) (fun slot => ?_) h
    unfold slotSession loadLiveStrategySession
    rw [reconcileEntryFill_liveStrategySessions]
  obtain ⟨slot, hexpired, hcolumns⟩ :=
    vacant_reconcilePointer settings (pointersIdle_expired settings hidle) hpointer
  have hreleased : Vacant orphan slot :=
    vacant_outcome (outcome_reconcileExpired settings orphan)
      (all_isIdle_releaseAll settings _ _ _) hexpired
  refine ⟨slot, vacant_outcome (outcome_reconcileOrphan settings db) (fun slot => ?_) hreleased,
    hcolumns⟩
  unfold slotSession loadLiveStrategySession
  rw [reconcileOrphan_liveStrategySessions]

/-! ## A later pass -/

theorem blockedReleases_laterPass (hblocked : blockedReleases settings db = [])
    (hidle : PointersIdle db) : blockedReleases settings (laterPass settings db) = [] := by
  rw [List.eq_nil_iff_forall_not_mem]
  intro rel hrel
  obtain ⟨slot', ⟨henabled, hrow', hfree', hcandidate, hrepeated, hsession⟩, -⟩ :=
    (mem_blockedReleases settings _ rel).mp hrel
  obtain ⟨slot, ⟨hrow, hfree, hwasIdle⟩, -, hmarket, hsame⟩ :=
    vacant_before settings hidle ⟨hrow', hfree', hsession⟩
  have hlogs : (laterPass settings db).liveOrderLogs = db.liveOrderLogs := by
    unfold laterPass
    rw [(outcome_reconcileEntryFill settings _).liveOrderLogs,
      (outcome_reconcilePointer settings _).liveOrderLogs,
      (outcome_reconcileExpired settings _).liveOrderLogs,
      (outcome_reconcileOrphan settings db).liveOrderLogs]
  -- the logs are read by the candidate and the market of the slot
  have hwasBlocked : blockedRepeatedly db settings slot = true := by
    unfold blockedRepeatedly blockerResults at hrepeated ⊢
    rw [hmarket, hsame, ← hlogs]
    exact hrepeated
  have hreleases : ReleasesBlocked settings db slot :=
    ⟨henabled, hrow, hfree, by rw [hsame]; exact hcandidate, hwasBlocked, hwasIdle⟩
  have hlisted := (mem_blockedReleases settings db _).mpr ⟨slot, hreleases, rfl⟩
  rw [hblocked] at hlisted
  cases hlisted

theorem reconcileLiveState_eq_laterPass (hswept : Swept settings db) (hidle : PointersIdle db) :
    reconcileLiveState settings db = laterPass settings db := by
  have horphan := outcome_reconcileOrphan settings db
  have hmismatched := findMismatched_outcome horphan hswept.mismatched
  have hduplicates : findDuplicatePositionSessions (laterPass settings db) = [] := by
    unfold laterPass
    exact findDuplicate_outcome (outcome_reconcileEntryFill settings _)
      (findDuplicate_outcome (outcome_reconcilePointer settings _)
        (findDuplicate_outcome (outcome_reconcileExpired settings _)
          (findDuplicate_outcome horphan hswept.duplicates)))
  have hblocked := blockedReleases_laterPass settings hswept.blocked hidle
  unfold reconcileLiveState
  dsimp only
  rw [reconcileStale_of_nil settings hswept.stale,
    reconcileMismatched_of_nil settings hmismatched]
  show reconcileReservedEntryBlockedSlots settings
    (reconcileDuplicatePositionSessions settings (laterPass settings db)) = _
  rw [reconcileDuplicate_of_nil settings hduplicates, reconcileBlocked_of_nil settings hblocked]

theorem findPointers_outcome (h : Outcome PositionSlot.Settles d d')
    (hsessions : d'.liveStrategySessions = d.liveStrategySessions)
    (hnone : findReservedSlotSessionPointerMismatches d = []) :
    findReservedSlotSessionPointerMismatches d' = [] := by
  rw [List.eq_nil_iff_forall_not_mem]
  intro item hitem
  obtain ⟨hrow, hfree, hcandidate, hok, hreplacement⟩ :=
    mem_findReservedSlotSessionPointerMismatches.mp hitem
  have hokBefore : currentSessionOk d item.1 = false := by
    rw [← hok]
    unfold currentSessionOk slotSession loadLiveStrategySession
    rw [hsessions]
  have hreplacementBefore : replacementSession d item.1 = some item.2 := by
    rw [← hreplacement]
    unfold replacementSession activeSessionForReservedSlot
    rw [hsessions]
  have hbefore := mem_findReservedSlotSessionPointerMismatches.mpr
    ⟨mem_slots_of_free h hrow hfree, hfree, hcandidate, hokBefore, hreplacementBefore⟩
  rw [hnone] at hbefore
  cases hbefore

theorem findPointers_laterPass (hmismatched : findMismatchedPositionSlotSessions db = []) :
    findReservedSlotSessionPointerMismatches (laterPass settings db) = [] := by
  unfold laterPass
  refine findPointers_outcome (outcome_reconcileEntryFill settings _)
    (reconcileEntryFill_liveStrategySessions settings _) ?_
  exact findPointers_reconcilePointer settings
    (findMismatched_outcome (outcome_reconcileExpired settings _)
      (findMismatched_outcome (outcome_reconcileOrphan settings db) hmismatched))

theorem reservationSafe_before (hidle : PointersIdle db) {r : OrderReservation}
    (h : reservationSafe (laterPass settings db) r = true) : reservationSafe db r = true := by
  unfold reservationSafe at h ⊢
  rw [Option.all_eq_true]
  intro slot hslot
  obtain ⟨k, hk, hrow⟩ := Option.bind_eq_some_iff.mp hslot
  -- the slot is there after the pass, free and with an idle session
  obtain ⟨slot', hslot'⟩ : ∃ slot', (laterPass settings db).positionSlots.get? k = some slot' := by
    unfold laterPass
    rw [← reconcileOrphan_positionSlots settings db] at hrow
    obtain ⟨_, hexpired, -⟩ := (outcome_reconcileExpired settings _).slots.get? hrow
    obtain ⟨_, hpointer, -⟩ := (outcome_reconcilePointer settings _).slots.get? hexpired
    obtain ⟨slot', hentry, -⟩ := (outcome_reconcileEntryFill settings _).slots.get? hpointer
    exact ⟨slot', hentry⟩
  have hreserved : reservationSlot (laterPass settings db) r = some slot' := by
    unfold reservationSlot
    rw [hk, Option.bind_some, hslot']
  rw [hreserved, Option.all_some, Bool.and_eq_true] at h
  obtain ⟨was, ⟨hwas, hfree, hsession⟩, hid, -⟩ :=
    vacant_before settings hidle ⟨Table.get?_some_mem hslot', h.1, h.2⟩
  -- … and so it was before, under the same id
  have hsame : was = slot := by
    refine Table.eq_of_rowId_eq hwas (Table.get?_some_mem hrow) ?_
    rw [Table.get?_some_rowId hrow, ← Table.get?_some_rowId hslot']
    exact hid
  rw [← hsame, hfree, hsession]
  rfl

theorem findExpired_laterPass (hidle : PointersIdle db) :
    findExpiredOrderReservations (laterPass settings db) settings.now = [] := by
  rw [List.eq_nil_iff_forall_not_mem]
  intro r hr
  obtain ⟨hrow, hactive, hexpired, hsafe⟩ :=
    (mem_findExpiredOrderReservations_iff settings _).mp hr
  have hsafeBefore := reservationSafe_before settings hidle hsafe
  obtain ⟨candidates, markets, horphan⟩ := reconcileOrphan_frame settings db
  set orphan := reconcileOrphanLiveActiveCandidates settings db
  -- an active reservation was active all along
  have hrest : Rewrites OrderReservation.Closes
      (reconcileExpiredOrderReservations settings orphan).orderReservations
      (laterPass settings db).orderReservations :=
    (outcome_reconcilePointer settings _).reservations.trans
      (fun _ _ _ => OrderReservation.Closes.trans) (outcome_reconcileEntryFill settings _).reservations
  have hkept : (reconcileExpiredOrderReservations settings orphan).orderReservations.get? r.id
      = some r := by
    obtain ⟨q, hq, heq | hclosed⟩ := hrest.get?_of_get? (Table.get?_of_mem hrow)
    · rw [← heq] at hq
      exact hq
    · rw [hclosed] at hactive
      cases hactive
  have hwas : orphan.orderReservations.get? r.id = some r := by
    obtain ⟨q, hq, heq | hclosed⟩ :=
      (outcome_reconcileExpired settings orphan).reservations.get?_of_get? hkept
    · rw [← heq] at hq
      exact hq
    · rw [hclosed] at hactive
      cases hactive
  -- so the release that was safe in this pass would have closed it
  have hlisted : r ∈ findExpiredOrderReservations orphan settings.now := by
    refine (mem_findExpiredOrderReservations_iff settings orphan).mpr
      ⟨Table.get?_some_mem hwas, hactive, hexpired, ?_⟩
    rw [horphan]
    exact hsafeBefore
  obtain ⟨r', hr', hclosed⟩ := reservation_reconcileExpired settings hlisted
  rw [hkept] at hr'
  rw [← Option.some.inj hr', hactive] at hclosed
  cases hclosed

theorem leavesNothing_reconcileOrphan
    (hexpired : findExpiredOrderReservations db settings.now = [])
    (hpointers : findReservedSlotSessionPointerMismatches db = []) :
    LeavesNothing settings (reconcileOrphanLiveActiveCandidates settings db) := by
  obtain ⟨candidates, markets, h⟩ := reconcileOrphan_frame settings db
  refine ⟨?_, by rw [h]; exact hexpired, by rw [h]; exact hpointers⟩
  intro c hc hactive
  have hafter : (reconcileOrphanLiveActiveCandidates settings db).candidateStrategies.get? c.id
      = some c := Table.get?_of_mem hc
  have hlinks : candidateLinks (reconcileOrphanLiveActiveCandidates settings db) c.id settings.now
      = candidateLinks db c.id settings.now := by
    rw [h]
    rfl
  rw [hlinks, Bool.eq_false_iff]
  intro horphan
  obtain ⟨before, hbefore, heq | hdemoted⟩ :=
    (outcome_reconcileOrphan settings db).candidates.get?_of_get? hafter
  · rw [← heq] at hbefore
    obtain ⟨c', hc', hdemoted⟩ :=
      candidate_reconcileOrphan settings (Table.get?_some_mem hbefore) hactive horphan
    rw [hafter] at hc'
    rw [← Option.some.inj hc', hactive] at hdemoted
    cases hdemoted
  · rw [hdemoted] at hactive
    cases hactive

/-! ## The fixpoint -/

theorem reconcileLiveState_livePositions :
    (reconcileLiveState settings db).livePositions = db.livePositions := by
  unfold reconcileLiveState
  dsimp only
  rw [(outcome_afterPointer settings _).livePositions,
    reconcileReservedSlotSessionPointer_livePositions, reconcileExpired_livePositions,
    reconcileMismatched_livePositions, reconcileOrphan_livePositions,
    reconcileStale_livePositions]

theorem positionsNamed_reconcileLiveState (hnamed : PositionsNamed db) :
    PositionsNamed (reconcileLiveState settings db) := by
  unfold PositionsNamed
  rw [reconcileLiveState_livePositions]
  exact hnamed

theorem pointersIdle_reconcileLiveState : PointersIdle (reconcileLiveState settings db) := by
  unfold reconcileLiveState
  refine pointersIdle_outcome (outcome_afterPointer settings _) (idles_afterPointer settings) ?_
  intro item hitem
  rw [findPointers_reconcilePointer settings (findMismatched_outcome
    (outcome_reconcileExpired settings _) (findMismatched_reconcileMismatched settings))] at hitem
  cases hitem

/-- **Three passes reach a fixpoint.** The first leaves five of the eight repairs nothing to
find; it is enough if it leaves the other three nothing either. -/
theorem three_passes_reach_fixpoint (hnamed : PositionsNamed db) :
    Swept settings (reconcileLiveState settings db)
      ∧ (Unchanged (reconcileLiveState settings db) ((reconcileLiveState settings)^[2] db)
        ↔ LeavesNothing settings (reconcileLiveState settings db))
      ∧ Function.IsFixedPt (reconcileLiveState settings) ((reconcileLiveState settings)^[3] db) := by
  refine ⟨swept_reconcileLiveState settings hnamed, second_pass_unchanged_iff settings hnamed, ?_⟩
  show reconcileLiveState settings (reconcileLiveState settings
    (reconcileLiveState settings (reconcileLiveState settings db))) = _
  set first := reconcileLiveState settings db
  have hidle : PointersIdle first := pointersIdle_reconcileLiveState settings
  have hnamedFirst := positionsNamed_reconcileLiveState settings hnamed
  have hnamedSecond := positionsNamed_reconcileLiveState settings hnamedFirst
  have hswept : Swept settings first := swept_reconcileLiveState settings hnamed
  have hsecond : reconcileLiveState settings first = laterPass settings first :=
    reconcileLiveState_eq_laterPass settings hswept hidle
  have hexpired : findExpiredOrderReservations (reconcileLiveState settings first) settings.now
      = [] := by
    rw [hsecond]
    exact findExpired_laterPass settings hidle
  have hpointers : findReservedSlotSessionPointerMismatches (reconcileLiveState settings first)
      = [] := by
    rw [hsecond]
    exact findPointers_laterPass settings hswept.mismatched
  -- nothing is left to the third pass but the candidates that lost their last link
  have hthird := reconcileLiveState_of_settled settings
    (swept_reconcileLiveState settings hnamedFirst) hexpired hpointers
  have hnothing : LeavesNothing settings
      (reconcileLiveState settings (reconcileLiveState settings first)) := by
    rw [hthird]
    exact leavesNothing_reconcileOrphan settings hexpired hpointers
  exact reconcileLiveState_of_swept settings (swept_reconcileLiveState settings hnamedSecond)
    hnothing

end Convergence

theorem three_passes_example :
    Function.IsFixedPt (reconcileLiveState {}) ((reconcileLiveState {})^[3] exampleDuplicateDb) :=
  (three_passes_reach_fixpoint {} (by decide)).2.2

end AutoCoinBot
