/-
  LiveStateReconciler.EntryGaps — the repair of entries leaves no gap.

  The probe lists a position once for every slot that waits for it, and finalizing the position once
  fills one of these slots at least: the session's waiting slots come first. Positions without an
  exchange or without a session are looked up elsewhere and are left out.
-/
import AutoCoinBot.LiveStateReconciler.Repairs

namespace AutoCoinBot

open Library

/-! ## Slots that wait -/

/-- The slot waits for the entry of the position. -/
def waitsFor (p : LivePosition) (slot : PositionSlot) : Bool :=
  (slot.status == .reserved || slot.status == .entering) && slot.entryOf p

def waitingCount (p : LivePosition) (db : Database) : ℕ :=
  db.positionSlots.rows.countP (waitsFor p)

/-- Every active position names an exchange and a session. -/
def PositionsNamed (db : Database) : Prop :=
  ∀ p ∈ db.livePositions.rows, p.status.isActive = true → p.exchange ≠ "" ∧ p.sessionId ≠ 0

instance (db : Database) : Decidable (PositionsNamed db) := by
  unfold PositionsNamed; infer_instance

theorem waitsFor_iff {p : LivePosition} {slot : PositionSlot} : waitsFor p slot = true
    ↔ (slot.status = .reserved ∨ slot.status = .entering) ∧ p.exchange = slot.exchange
      ∧ slot.market = some p.market ∧ slot.candidateStrategyId = some p.candidateStrategyId
      ∧ slot.liveStrategySessionId = some p.sessionId ∧ p.status.isActive = true := by
  unfold waitsFor PositionSlot.entryOf
  simp only [Bool.and_eq_true, Bool.or_eq_true, beq_iff_eq]
  constructor
  · rintro ⟨hstatus, ⟨⟨⟨hexchange, hmarket⟩, hcandidate⟩, hsession⟩, hactive⟩
    exact ⟨hstatus, hexchange, hmarket.symm, hcandidate.symm, hsession.symm, hactive⟩
  · rintro ⟨hstatus, hexchange, hmarket, hcandidate, hsession, hactive⟩
    exact ⟨hstatus, ⟨⟨⟨hexchange, hmarket.symm⟩, hcandidate.symm⟩, hsession.symm⟩, hactive⟩

theorem waitsFor_finalized (p q : LivePosition) (slot : PositionSlot) (now : UtcTime) :
    waitsFor p (slot.finalized q now) = false := rfl

theorem entryRank_le_one_iff {status : SlotStatus} :
    status.entryRank ≤ 1 ↔ status = .reserved ∨ status = .entering := by
  cases status with
  | empty => simp [SlotStatus.entryRank]
  | reserved => simp [SlotStatus.entryRank]
  | entering => simp [SlotStatus.entryRank]
  | held s => simp [SlotStatus.entryRank]

instance : Std.Total PositionSlot.entryBefore where
  total s t := by
    unfold PositionSlot.entryBefore
    rcases lt_trichotomy s.status.entryRank t.status.entryRank with h | h | h
    · exact .inl (.inl h)
    · rcases lt_trichotomy s.updatedAt t.updatedAt with hu | hu | hu
      · exact .inr (.inr ⟨h.symm, .inl hu⟩)
      · rcases Nat.le_total s.id t.id with hid | hid
        · exact .inr (.inr ⟨h.symm, .inr ⟨hu, hid⟩⟩)
        · exact .inl (.inr ⟨h, .inr ⟨hu.symm, hid⟩⟩)
      · exact .inl (.inr ⟨h, .inl hu⟩)
    · exact .inr (.inl h)

instance : IsTrans PositionSlot PositionSlot.entryBefore where
  trans s t u hst htu := by
    unfold PositionSlot.entryBefore at *
    rcases hst with hlt | ⟨heq, hst⟩
    · rcases htu with hlt' | ⟨heq', -⟩
      · exact .inl (hlt.trans hlt')
      · exact .inl (heq' ▸ hlt)
    · rcases htu with hlt' | ⟨heq', htu⟩
      · exact .inl (heq ▸ hlt')
      · refine .inr ⟨heq.trans heq', ?_⟩
        rcases hst with hu | ⟨hu, hid⟩
        · rcases htu with hu' | ⟨hu', -⟩
          · exact .inl (lt_trans hu' hu)
          · exact .inl (hu'.symm ▸ hu)
        · rcases htu with hu' | ⟨hu', hid'⟩
          · exact .inl (hu ▸ hu')
          · exact .inr ⟨hu'.trans hu, hid'.trans hid⟩

/-! ## One finalized entry -/

section OneEntry

variable {db : Database} {p : LivePosition} {slot : PositionSlot}

theorem waitsFor_finalizedSlot (hload : loadLivePosition db p.id = some p)
    (hexchange : p.exchange ≠ "") (hsession : p.sessionId ≠ 0)
    (hslot : slot ∈ db.positionSlots.rows) (hwaits : waitsFor p slot = true) :
    ∃ target, finalizedSlot db p.id = some target ∧ waitsFor p target = true := by
  obtain ⟨hstatus, hslotExchange, hmarket, hcandidate, hslotSession, hactive⟩ :=
    waitsFor_iff.mp hwaits
  have hname : orText p.exchange "bithumb" = p.exchange := if_neg hexchange
  rw [finalizedSlot_of_active hload hactive, hname]
  unfold entrySlotForPosition
  dsimp only
  rw [if_neg hsession]
  set entries := db.positionSlots.select (fun s => s.exchange == p.exchange
    && s.market == some p.market && s.candidateStrategyId == some p.candidateStrategyId
    && s.status.isEntry) with hentries
  -- the waiting slot is among the entries of the session
  have hentry : slot.status.isEntry = true := by
    -- both statuses are among those the SELECT asks for
    rcases hstatus with h | h <;> rw [h] <;> rfl
  have hlisted : slot ∈ entries := by
    rw [hentries, Table.mem_select]
    refine ⟨hslot, ?_⟩
    simp only [Bool.and_eq_true, beq_iff_eq]
    exact ⟨⟨⟨hslotExchange.symm, hmarket⟩, hcandidate⟩, hentry⟩
  have hmatch : (slot.liveStrategySessionId == some p.sessionId) = true :=
    beq_iff_eq.mpr hslotSession
  have hfound : ((entries.insertionSort PositionSlot.entryBefore).find?
      (fun s => s.liveStrategySessionId == some p.sessionId)).isSome = true :=
    List.find?_isSome.mpr ⟨slot, (List.mem_insertionSort _).mpr hlisted, hmatch⟩
  obtain ⟨target, htarget⟩ := Option.isSome_iff_exists.mp hfound
  rw [htarget]
  refine ⟨target, rfl, ?_⟩
  have hmem := (List.mem_insertionSort _).mp (List.mem_of_find?_eq_some htarget)
  obtain ⟨-, hcolumns⟩ := Table.mem_select.mp hmem
  have htargetSession := List.find?_some htarget
  simp only [Bool.and_eq_true, beq_iff_eq] at hcolumns htargetSession
  obtain ⟨⟨⟨htargetExchange, htargetMarket⟩, htargetCandidate⟩, -⟩ := hcolumns
  -- what is found first ranks no higher than the waiting slot
  have hrank : target.status.entryRank ≤ slot.status.entryRank := by
    rcases Table.find?_insertionSort PositionSlot.entryBefore htarget hlisted hmatch with
      heq | hbefore
    · rw [heq]
    · rcases hbefore with hlt | ⟨heq, -⟩
      · omega
      · omega
  have hfirst : target.status.entryRank ≤ 1 := hrank.trans (entryRank_le_one_iff.mpr hstatus)
  exact waitsFor_iff.mpr ⟨entryRank_le_one_iff.mp hfirst, htargetExchange.symm, htargetMarket,
    htargetCandidate, htargetSession, hactive⟩

theorem waitingCount_finalize_le (db : Database) (p : LivePosition) (positionId : ℕ)
    (now : UtcTime) :
    waitingCount p (finalizeEntryLifecycleForPosition db positionId now) ≤ waitingCount p db := by
  unfold waitingCount
  rcases positionSlots_finalize db positionId now with ⟨-, hslots⟩ | ⟨target, q, -, -, hslots⟩
  · rw [hslots]
  · rw [hslots]
    show (db.positionSlots.rows.map _).countP _ ≤ _
    rw [List.countP_map]
    refine List.countP_mono_left (fun s _ hs => ?_)
    simp only [Function.comp] at hs
    split at hs
    · rw [waitsFor_finalized] at hs
      cases hs
    · exact hs

theorem waitingCount_finalize_lt (hload : loadLivePosition db p.id = some p)
    (hexchange : p.exchange ≠ "") (hsession : p.sessionId ≠ 0) (now : UtcTime)
    (hwaits : 0 < waitingCount p db) :
    waitingCount p (finalizeEntryLifecycleForPosition db p.id now) < waitingCount p db := by
  obtain ⟨slot, hslot, hslotWaits⟩ := List.countP_pos_iff.mp hwaits
  obtain ⟨target, htarget, htargetWaits⟩ :=
    waitsFor_finalizedSlot hload hexchange hsession hslot hslotWaits
  have hrow := finalizedSlot_get? htarget
  rcases positionSlots_finalize db p.id now with ⟨hnone, -⟩ | ⟨target', q, hsame, -, hslots⟩
  · rw [htarget] at hnone
    cases hnone
  -- the slot that is written is the one that waited
  · have heq : target = target' := Option.some.inj (htarget.symm.trans hsame)
    subst heq
    unfold waitingCount
    rw [hslots]
    refine countP_map_lt (a := target) (fun s _ hs => ?_) (Table.get?_some_mem hrow) htargetWaits ?_
    · split at hs
      · rw [waitsFor_finalized] at hs
        cases hs
      · exact hs
    · have hself : (Row.rowId target == target.id) = true := beq_self_eq_true target.id
      rw [if_pos hself]
      exact waitsFor_finalized p q target now

end OneEntry

/-! ## The repair -/

section Repair

variable (settings : ReconcilerSettings) {db : Database}

theorem findEntryFillLifecycleGaps_eq_nil_iff : findEntryFillLifecycleGaps db = []
    ↔ ∀ slot ∈ db.positionSlots.rows, ∀ p ∈ db.livePositions.rows, waitsFor p slot = false := by
  unfold findEntryFillLifecycleGaps slotsByNumber
  rw [List.flatMap_eq_nil_iff]
  constructor
  · intro h slot hslot p hp
    rw [Bool.eq_false_iff]
    intro hwaits
    obtain ⟨hstatus, -, -, hcandidate, -, -⟩ := waitsFor_iff.mp hwaits
    have hlisted : slot ∈ ((db.positionSlots.select (fun s =>
        (s.status == .reserved || s.status == .entering) && s.candidateStrategyId.isSome)).insertionSort
        PositionSlot.numberedBefore) := by
      rw [List.mem_insertionSort, Table.mem_select]
      refine ⟨hslot, ?_⟩
      simp only [Bool.and_eq_true, Bool.or_eq_true, beq_iff_eq]
      exact ⟨hstatus, by rw [hcandidate]; rfl⟩
    -- a slot that waits brings one item at least, reservation or not
    have hnone := List.flatMap_eq_nil_iff.mp (h slot hlisted) p
      (Table.mem_select.mpr ⟨hp, (Bool.and_eq_true_iff.mp hwaits).2⟩)
    have hlength := congrArg List.length hnone
    rw [List.length_replicate, List.length_nil] at hlength
    omega
  · intro h slot hslot
    obtain ⟨hrow, hwaiting⟩ := Table.mem_select.mp ((List.mem_insertionSort _).mp hslot)
    rw [List.flatMap_eq_nil_iff]
    intro p hp
    obtain ⟨hprow, hentry⟩ := Table.mem_select.mp hp
    have hwaits : waitsFor p slot = true :=
      Bool.and_eq_true_iff.mpr ⟨(Bool.and_eq_true_iff.mp hwaiting).1, hentry⟩
    rw [h slot hrow p hprow] at hwaits
    cases hwaits

theorem waitingCount_le_gaps {p : LivePosition} (hp : p ∈ db.livePositions.rows) :
    waitingCount p db ≤ (findEntryFillLifecycleGaps db).countP (fun q => q = p) := by
  have hwaiting : waitingCount p db ≤ (slotsByNumber db (fun s =>
      (s.status == .reserved || s.status == .entering)
        && s.candidateStrategyId.isSome)).countP (fun s => s.entryOf p) := by
    unfold slotsByNumber waitingCount Table.select
    rw [(List.perm_insertionSort _ _).countP_eq, List.countP_filter]
    refine List.countP_mono_left (fun s _ hs => ?_)
    obtain ⟨hstatus, hentry⟩ := Bool.and_eq_true_iff.mp hs
    have hcandidate := (waitsFor_iff.mp hs).2.2.2.1
    rw [hentry, hstatus, hcandidate]
    rfl
  refine hwaiting.trans ?_
  refine countP_le_countP_flatMap _ _ _ _ (fun slot _ hentry => ?_)
  refine List.countP_pos_iff.mpr ⟨p, ?_, by simp⟩
  rw [List.mem_flatMap]
  refine ⟨p, Table.mem_select.mpr ⟨hp, hentry⟩, ?_⟩
  rw [List.mem_replicate]
  exact ⟨by omega, rfl⟩

/-- **The repair leaves no gap**: every slot that waits for a position is filled. -/
theorem findEntryFillLifecycleGaps_reconcileEntryFill (hnamed : PositionsNamed db) :
    findEntryFillLifecycleGaps (reconcileEntryFillLifecycles settings db) = [] := by
  rw [findEntryFillLifecycleGaps_eq_nil_iff, reconcileEntryFill_livePositions]
  intro slot hslot p hp
  rw [Bool.eq_false_iff]
  intro hwaits
  have hactive : p.status.isActive = true := (waitsFor_iff.mp hwaits).2.2.2.2.2
  obtain ⟨hexchange, hsession⟩ := hnamed p hp hactive
  have hcount : waitingCount p (reconcileEntryFillLifecycles settings db)
      ≤ waitingCount p db - (findEntryFillLifecycleGaps db).countP (fun q => q = p) := by
    unfold reconcileEntryFillLifecycles
    refine foldl_countdown (P := fun d : Database => d.livePositions = db.livePositions)
      ?_ ?_ ?_ rfl
    · intro d q _ hd
      rw [finalizeEntryLifecycleForPosition_livePositions]
      exact hd
    · intro d q _ _
      exact waitingCount_finalize_le d p q.id settings.now
    -- an item of the position itself fills one of its slots
    · intro d q _ hd hq hpos
      have heq : q = p := of_decide_eq_true hq
      subst heq
      have hload : loadLivePosition d q.id = some q := by
        unfold loadLivePosition
        rw [hd]
        exact Table.get?_of_mem hp
      exact waitingCount_finalize_lt hload hexchange hsession settings.now hpos
  -- the list was long enough to fill them all
  have hgaps := waitingCount_le_gaps hp
  have hpos : 0 < waitingCount p (reconcileEntryFillLifecycles settings db) :=
    List.countP_pos_iff.mpr ⟨slot, hslot, hwaits⟩
  omega

end Repair

end AutoCoinBot
