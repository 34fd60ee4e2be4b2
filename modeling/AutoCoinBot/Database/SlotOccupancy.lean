/-
  Database.SlotOccupancy — runs of the slot operations, and whether a position
  occupies one slot at most.

  The bulk update writes a position into the slot that carries it or into an empty one. A
  finalized entry is written into a slot of its session first, whatever that slot carries,
  and only then into one that is free or its own.
-/
import AutoCoinBot.Database.SlotReconcile
import AutoCoinBot.Library.Occupancy
import AutoCoinBot.Library.Run

namespace AutoCoinBot

open Library

/-! ## The operations -/

/-- The calls that work on slots and positions. -/
inductive SlotOp where
  | ensure (maxSlots : ℕ) (exchange : String) (now : UtcTime)
  | reserve (slotId : ℕ) (exchange market : String) (candidateId sessionId : ℕ)
      (amountKrw : ℚ) (reason : String) (now : UtcTime)
  | create (position : LivePosition)
  | reconcile (maxSlots : ℕ) (exchange : String) (now : UtcTime)
  | finalize (positionId : ℕ) (now : UtcTime)
  | close (positionId : ℕ) (updates : LivePositionUpdates) (now : UtcTime)

/-- One call. A slot is reserved if it is empty; a created position receives its key; a
close is an update to `CLOSED`. -/
def slotStep (db : Database) : SlotOp → Database
  | .ensure maxSlots exchange now => ensurePositionSlots db maxSlots exchange now
  | .reserve slotId exchange market candidateId sessionId amountKrw reason now =>
    if (db.positionSlots.get? slotId).any (fun s => s.status == .empty) then
      reservePositionSlot db slotId exchange market candidateId sessionId amountKrw reason now
    else db
  | .create position => createLivePosition db (fun k => { position with id := k }) (fun _ => rfl)
  | .reconcile maxSlots exchange now => reconcilePositionSlots db maxSlots exchange now
  | .finalize positionId now => finalizeEntryLifecycleForPosition db positionId now
  | .close positionId updates now =>
    updateLivePosition db positionId { updates with status := some .closed } now

def OnePerPosition (db : Database) : Prop :=
  db.positionSlots.CarriedOnce PositionSlot.livePositionId

def isActivePosition (db : Database) (positionId : ℕ) : Prop :=
  ∃ p, loadLivePosition db positionId = some p ∧ p.status.isActive = true

def MovesActive (before after : Database) : Prop :=
  ∃ k q, before.positionSlots.Carries PositionSlot.livePositionId k q
    ∧ isActivePosition before q ∧ ¬ after.positionSlots.Carries PositionSlot.livePositionId k q

/-- No finalize call takes a slot from an active position. -/
def KeepsOccupants (db : Database) : SlotOp → Prop
  | .finalize positionId now => ¬ MovesActive db (slotStep db (.finalize positionId now))
  | _ => True

/-- No other slot carries the position that is finalized. -/
def FinalizesAlone (db : Database) : SlotOp → Prop
  | .finalize positionId _ =>
    ∀ slot ∈ finalizedSlot db positionId, ∀ k,
      db.positionSlots.Carries PositionSlot.livePositionId k positionId → k = slot.id
  | _ => True

/-- The slot carries no other position that is active. -/
def FinalizesFree (db : Database) : SlotOp → Prop
  | .finalize positionId _ =>
    ∀ slot ∈ finalizedSlot db positionId, ∀ q ∈ slot.livePositionId,
      q ≠ positionId → ¬ isActivePosition db q
  | _ => True

section Steps

variable (db : Database)

/-! ## What keeps a position in one slot -/

variable {db}

theorem onePerPosition_ensure (h : OnePerPosition db) (maxSlots : ℕ) (exchange : String)
    (now : UtcTime) : OnePerPosition (ensurePositionSlots db maxSlots exchange now) := by
  unfold ensurePositionSlots
  refine foldl_invariant (P := OnePerPosition) ?_ h
  intro d number _ hd
  refine hd.of_carries (fun k x hk => ?_)
  exact Table.carries_insertOrIgnore PositionSlot.livePositionId rfl hk

theorem onePerPosition_clear (h : OnePerPosition db) (exchange : String) (now : UtcTime) :
    OnePerPosition (clearPositionSlots db exchange now) := by
  refine h.of_carries (fun k x hk => ?_)
  have hactive := Table.carries_modifyWhere (slotInactive (expireReservations db exchange now)
    exchange) (fun s => s.cleared now) (fun _ => rfl) (fun _ => .inl rfl) hk
  exact Table.carries_modifyWhere (slotUnreserved (expireReservations db exchange now) exchange now)
    (fun s => s.cleared now) (fun _ => rfl) (fun _ => .inl rfl) hactive

theorem carriedOnce_placePosition (h : OnePerPosition db) (maxSlots : ℕ) (now : UtcTime)
    (p : LivePosition) : OnePerPosition (placePosition maxSlots now db p) := by
  unfold placePosition
  split
  · exact h
  · rename_i slot hslot
    unfold slotToPlace at hslot
    -- the slot is stored, found by its position or as an empty one
    have hmem : slot ∈ db.positionSlots.rows := by
      rcases Option.or_eq_some_iff.mp hslot with hcarries | ⟨-, hempty⟩
      · exact List.mem_of_find?_eq_some hcarries
      · unfold firstEmptySlot loadPositionSlotRows at hempty
        have hlisted := List.mem_of_find?_eq_some hempty
        exact (Table.mem_select.mp ((List.mem_insertionSort _).mp hlisted)).1
    have hrow : db.positionSlots.get? slot.id = some slot := Table.get?_of_mem hmem
    refine (Table.carriedOnce_modify_iff h hrow (fun s => s.carry p now) (fun _ => rfl) (y := p.id)
      (fun _ => rfl)).mpr ?_
    intro k hk
    obtain ⟨s, hs, hcarried⟩ := hk
    have hsmem : s ∈ db.positionSlots.rows := Table.get?_some_mem hs
    rcases Option.or_eq_some_iff.mp hslot with hcarries | ⟨hnone, -⟩
    · -- the slot that is found carries the position, and no other does
      have hself : slot.livePositionId = some p.id := by
        have hfound := List.find?_some hcarries
        exact beq_iff_eq.mp hfound
      exact h k slot.id p.id ⟨s, hs, hcarried⟩ ⟨slot, hrow, hself⟩
    -- an empty slot is only taken when no slot carries the position
    · have habsent := List.find?_eq_none.mp hnone s hsmem
      rw [hcarried] at habsent
      exact absurd (beq_self_eq_true (some p.id)) habsent

theorem carriedOnce_reconcilePositionSlots (h : OnePerPosition db) (maxSlots : ℕ)
    (exchange : String) (now : UtcTime) :
    OnePerPosition (reconcilePositionSlots db maxSlots exchange now) := by
  have hcleared : OnePerPosition
      (clearPositionSlots (ensurePositionSlots db maxSlots exchange now) exchange now) :=
    onePerPosition_clear (onePerPosition_ensure h maxSlots exchange now) exchange now
  refine foldl_invariant (P := OnePerPosition) ?_ hcleared
  intro d p _ hd
  exact carriedOnce_placePosition hd maxSlots now p

theorem onePerPosition_reserve (h : OnePerPosition db) (slotId : ℕ) (exchange market : String)
    (candidateId sessionId : ℕ) (amountKrw : ℚ) (reason : String) (now : UtcTime) :
    OnePerPosition (slotStep db
      (.reserve slotId exchange market candidateId sessionId amountKrw reason now)) := by
  show OnePerPosition (if _ then _ else _)
  split
  · refine h.of_carries (fun k x hk => ?_)
    exact Table.carries_modifyWhere (fun s : PositionSlot => s.id == slotId)
      (fun s => s.reserve exchange market candidateId sessionId amountKrw reason now)
      (fun _ => rfl) (fun _ => .inr rfl) hk
  · exact h

/-! ## Finalized entries -/

theorem carriedOnce_finalize_iff (h : OnePerPosition db) (positionId : ℕ) (now : UtcTime) :
    OnePerPosition (slotStep db (.finalize positionId now))
      ↔ FinalizesAlone db (.finalize positionId now) := by
  show OnePerPosition (finalizeEntryLifecycleForPosition db positionId now)
    ↔ ∀ slot ∈ finalizedSlot db positionId, ∀ k, _ → k = slot.id
  unfold OnePerPosition
  rcases positionSlots_finalize db positionId now with
    ⟨hnone, hslots⟩ | ⟨slot, p, hslot, hload, hslots⟩
  · rw [hslots, hnone]
    constructor
    · intro _ slot hslot
      cases hslot
    · intro _
      exact h
  · rw [hslots, hslot, Table.carriedOnce_modify_iff h (finalizedSlot_get? hslot)
      (fun s => s.finalized p now) (fun _ => rfl) (y := positionId)
      (fun _ => congrArg some (loadLivePosition_id db positionId hload))]
    simp

/-- **A finalized entry takes a slot from an active position** exactly if its slot carries
another one that is. -/
theorem movesActive_finalize_iff (positionId : ℕ) (now : UtcTime) :
    KeepsOccupants db (.finalize positionId now) ↔ FinalizesFree db (.finalize positionId now) := by
  show ¬ MovesActive db (finalizeEntryLifecycleForPosition db positionId now)
    ↔ ∀ slot ∈ finalizedSlot db positionId, ∀ q ∈ slot.livePositionId, _ → _
  unfold MovesActive
  rcases positionSlots_finalize db positionId now with
    ⟨hnone, hslots⟩ | ⟨slot, p, hslot, hload, hslots⟩
  · rw [hslots, hnone]
    constructor
    · intro _ slot hslot
      cases hslot
    · rintro - ⟨k, q, hcarried, -, hlost⟩
      exact hlost hcarried
  · rw [hslots, hslot]
    have hrow : db.positionSlots.get? slot.id = some slot := finalizedSlot_get? hslot
    have hcarriers := Table.carries_modify_iff PositionSlot.livePositionId hrow
      (fun s => s.finalized p now) (fun _ => rfl) (y := positionId)
      (fun _ => congrArg some (loadLivePosition_id db positionId hload))
    -- the slot that is written is the only one that can lose its position
    constructor
    · rintro hkeeps s hs q hq hne hactive
      cases hs
      refine hkeeps ⟨slot.id, q, ⟨slot, hrow, hq⟩, hactive, ?_⟩
      rw [hcarriers, if_pos rfl]
      exact hne
    · rintro hfree ⟨k, q, ⟨s, hs, hq⟩, hactive, hlost⟩
      rw [hcarriers] at hlost
      by_cases hk : k = slot.id
      · rw [if_pos hk] at hlost
        rw [hk, hrow] at hs
        rw [← Option.some.inj hs] at hq
        exact hfree slot rfl q hq hlost hactive
      · rw [if_neg hk] at hlost
        exact hlost ⟨s, hs, hq⟩

/-- **One operation keeps a position in one slot** exactly if it is no finalize call for a
position that another slot carries. -/
theorem onePerPosition_step_iff (h : OnePerPosition db) (op : SlotOp) :
    OnePerPosition (slotStep db op) ↔ FinalizesAlone db op := by
  cases op with
  | ensure maxSlots exchange now =>
    exact iff_of_true (onePerPosition_ensure h maxSlots exchange now) trivial
  | reserve slotId exchange market candidateId sessionId amountKrw reason now =>
    exact iff_of_true (onePerPosition_reserve h slotId exchange market candidateId sessionId
      amountKrw reason now) trivial
  | create position => exact iff_of_true h trivial
  | reconcile maxSlots exchange now =>
    exact iff_of_true (carriedOnce_reconcilePositionSlots h maxSlots exchange now) trivial
  | finalize positionId now => exact carriedOnce_finalize_iff h positionId now
  | close positionId updates now => exact iff_of_true h trivial

theorem keepsOccupants_iff (op : SlotOp) : KeepsOccupants db op ↔ FinalizesFree db op := by
  cases op with
  | finalize positionId now => exact movesActive_finalize_iff positionId now
  | _ => exact Iff.rfl

end Steps

/-! ## Runs -/

/-- **Whole runs**: from the empty slot table, no two slots ever carry one position and no
finalize call takes a slot from an active one, exactly if every finalize call writes into a
slot that carries no other active position while no other slot carries its own. -/
theorem slotRun_onePerPosition_iff {db : Database} (hempty : db.positionSlots.rows = [])
    (ops : List SlotOp) :
    ((∀ n, OnePerPosition (run slotStep db (ops.take n))) ∧ StepsOk slotStep KeepsOccupants db ops)
      ↔ StepsOk slotStep (fun d op => FinalizesAlone d op ∧ FinalizesFree d op) db ops := by
  have hinit : OnePerPosition db := Table.carriedOnce_of_rows_eq_nil hempty
  rw [stepsOk_and]
  refine and_congr ?_ (stepsOk_congr (fun d op => keepsOccupants_iff op) db ops)
  exact forall_prefix_iff (P := OnePerPosition) (fun d op hd => onePerPosition_step_iff hd op) hinit
    ops

/-- Positions 1 and 2 are two entries of session 1 and candidate 1 in one market. The first
is finalized into its reserved slot, the second is written into slot 2 by a read of the
slots, and then the first is finalized again. -/
def exampleSlotOps : List SlotOp :=
  [.reconcile 2 "bithumb" 100,
    .reserve 1 "bithumb" "KRW-BTC" 1 1 10000 "ALLOCATED" 110,
    .create { id := 0, sessionId := 1, market := "KRW-BTC", candidateStrategyId := 1 },
    .finalize 1 120,
    .create { id := 0, sessionId := 1, market := "KRW-BTC", candidateStrategyId := 1 },
    .reconcile 2 "bithumb" 130,
    .finalize 1 140]

theorem position_in_two_slots :
    ¬ ((∀ n, OnePerPosition (run slotStep {} (exampleSlotOps.take n)))
        ∧ StepsOk slotStep KeepsOccupants {} exampleSlotOps) := by
  rintro ⟨honce, -⟩
  have hslots : ∀ k, k = 1 ∨ k = 2 →
      (run slotStep {} exampleSlotOps).positionSlots.Carries PositionSlot.livePositionId k 1 := by
    intro k hk
    have hcarried : ((run slotStep {} exampleSlotOps).positionSlots.get? k).any
        (fun s => s.livePositionId == some 1) = true := by
      rcases hk with rfl | rfl <;> decide +kernel
    obtain ⟨s, hs, hposition⟩ := (Option.any_eq_true _ _).mp hcarried
    exact ⟨s, hs, beq_iff_eq.mp hposition⟩
  have hsame : 1 = 2 := honce 7 1 2 1 (hslots 1 (.inl rfl)) (hslots 2 (.inr rfl))
  omega

theorem slotRun_onePerPosition_example :
    (∀ n, OnePerPosition (run slotStep {} ((exampleSlotOps.take 4).take n)))
      ∧ StepsOk slotStep KeepsOccupants {} (exampleSlotOps.take 4) := by
  have hfree : ∀ s ∈ (run slotStep {} (exampleSlotOps.take 3)).positionSlots.rows,
      s.livePositionId = none := by decide +kernel
  refine (slotRun_onePerPosition_iff rfl (exampleSlotOps.take 4)).mpr
    ⟨⟨trivial, trivial⟩, ⟨trivial, trivial⟩, ⟨trivial, trivial⟩, ⟨?_, ?_⟩, trivial⟩
  · rintro slot - k ⟨s, hs, hcarried⟩
    have hnone : s.livePositionId = none := hfree s (Table.get?_some_mem hs)
    rw [hnone] at hcarried
    cases hcarried
  · intro slot hslot q hq
    have hnone : slot.livePositionId = none :=
      hfree slot (Table.get?_some_mem (finalizedSlot_get? hslot))
    rw [hnone] at hq
    cases hq

end AutoCoinBot
