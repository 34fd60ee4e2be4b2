/-
  CapitalAllocator.Markets — slots, markets and reservations along one
  allocator run.

  The loaded slots are refreshed by a replacement only. A slot filled by a new entry
  still looks empty in them; that no later candidate takes its market rests on the
  list of open markets instead.
-/
import AutoCoinBot.CapitalAllocator.Budget

namespace AutoCoinBot

open Library

/-! ## What placing a candidate writes -/

section Writes

variable (run : AllocatorRun) (db : Database) (c : RankedCandidate) (slotId : ℕ) (approved : ℚ)
  (slot : PositionSlot) (market : String)

@[simp] theorem releaseReplaced_positionSlots :
    (releaseReplaced run db slot market).positionSlots = db.positionSlots := by
  have hcandidate : (releaseCandidate run db slot market).positionSlots = db.positionSlots := by
    unfold releaseCandidate
    dsimp only
    split_ifs
    · rfl
    · exact promoteCandidateStrategy_positionSlots _ _ _ _
  unfold releaseReplaced
  dsimp only
  split_ifs <;> exact hcandidate

theorem releaseReplaced_orderReservations :
    (releaseReplaced run db slot market).orderReservations
      = if slot.candidateStrategyId.getD 0 = 0 then db.orderReservations
        else (updateOrderReservationStatus db (slot.candidateStrategyId.getD 0) market .replaced
          [.reserved]).orderReservations := by
  have hcandidate : (releaseReplaced run db slot market).orderReservations
      = (releaseCandidate run db slot market).orderReservations := by
    unfold releaseReplaced
    dsimp only
    split_ifs <;> rfl
  rw [hcandidate]
  unfold releaseCandidate
  dsimp only
  split_ifs
  · rfl
  · exact promoteCandidateStrategy_orderReservations _ _ _ _

/-- The slot table after the candidate was put in `slotId`. -/
def PlacedIn (run : AllocatorRun) (c : RankedCandidate) (slotId : ℕ) (db db' : Database) : Prop :=
  ∃ sessionId approved, ∀ i, db'.positionSlots.get? i = (db.positionSlots.get? i).map (fun s =>
    if i = slotId then
      s.reserve run.exchange c.market c.id sessionId approved run.reason run.now
    else s)

theorem placeCandidate_placedIn : PlacedIn run c slotId db (placeCandidate run db c slotId approved) := by
  have hslots : (placeCandidate run db c slotId approved).positionSlots
      = db.positionSlots.modify slotId
          (fun s => s.reserve run.exchange c.market c.id db.liveStrategySessions.nextId approved
            run.reason run.now) (fun _ => rfl) := by
    unfold placeCandidate
    rw [promoteCandidateStrategy_positionSlots]
    rfl
  refine ⟨db.liveStrategySessions.nextId, approved, fun i => ?_⟩
  rw [hslots]
  exact Table.get?_modify _ _ _ _ _

def newReservation (run : AllocatorRun) (c : RankedCandidate) (slotId : ℕ) (approved : ℚ) (k : ℕ) :
    OrderReservation :=
  { id := k, exchange := run.exchange, market := c.market, candidateStrategyId := c.id
    slotId := some slotId, amountKrw := approved, status := .reserved
    expiresAtUtc := some (run.now + run.config.reservationTtlMinutes * 60) }

theorem placeCandidate_orderReservations :
    (placeCandidate run db c slotId approved).orderReservations.rows
      = db.orderReservations.rows
        ++ [newReservation run c slotId approved db.orderReservations.nextId] := by
  unfold placeCandidate
  rw [promoteCandidateStrategy_orderReservations]
  rfl

/-- The reservation of an accepted candidate. -/
def AcceptedEntry.reservation (run : AllocatorRun) (a : AcceptedEntry) : OrderReservation :=
  newReservation run a.candidate a.slotId a.approvedOrderKrw a.reservationId

def OrderReservation.ReservedFor (r : OrderReservation) (candidateId : ℕ) : Prop :=
  r.status = .reserved ∧ r.candidateStrategyId = candidateId

instance (r : OrderReservation) (candidateId : ℕ) : Decidable (r.ReservedFor candidateId) :=
  inferInstanceAs (Decidable (r.status = .reserved ∧ r.candidateStrategyId = candidateId))

theorem mem_releaseReplaced {r : OrderReservation}
    (hr : r ∈ (releaseReplaced run db slot market).orderReservations.rows)
    (hreserved : r.status = .reserved) :
    r ∈ db.orderReservations.rows ∧ (slot.candidateStrategyId.getD 0 ≠ 0 →
      r.candidateStrategyId = slot.candidateStrategyId.getD 0 → r.market ≠ market) := by
  rw [releaseReplaced_orderReservations] at hr
  split_ifs at hr with hold
  · exact ⟨hr, fun h => absurd hold h⟩
  · obtain ⟨r₀, hr₀, hrewritten⟩ := List.mem_map.mp hr
    split_ifs at hrewritten with hmatch
    · rw [← hrewritten] at hreserved
      cases hreserved
    · subst hrewritten
      refine ⟨hr₀, fun _ hcandidate hmarket => hmatch ?_⟩
      simp [hreserved, hcandidate, hmarket]

theorem mem_releaseReplaced_of_market {r : OrderReservation} (hr : r ∈ db.orderReservations.rows)
    (hmarket : r.market ≠ market) :
    r ∈ (releaseReplaced run db slot market).orderReservations.rows := by
  rw [releaseReplaced_orderReservations]
  split_ifs
  · exact hr
  · refine List.mem_map.mpr ⟨r, hr, ?_⟩
    simp [hmarket]

end Writes

/-! ## Slots and markets -/

/-- The occupied slots numbered up to `maxSlots` have pairwise distinct markets. -/
def SlotsDistinct (db : Database) (maxSlots : ℕ) : Prop :=
  ∀ s ∈ db.positionSlots.rows, ∀ t ∈ db.positionSlots.rows,
    s.slotNumber ≤ maxSlots → t.slotNumber ≤ maxSlots → s.status ≠ .empty → t.status ≠ .empty →
      s.marketText = t.marketText → s.id = t.id

instance (db : Database) (maxSlots : ℕ) : Decidable (SlotsDistinct db maxSlots) :=
  inferInstanceAs (Decidable (∀ s ∈ db.positionSlots.rows, ∀ t ∈ db.positionSlots.rows,
    s.slotNumber ≤ maxSlots → t.slotNumber ≤ maxSlots → s.status ≠ .empty → t.status ≠ .empty →
      s.marketText = t.marketText → s.id = t.id))

/-- How the loaded slots and the open markets cover the slot table. -/
structure SlotsInvariant (maxSlots : ℕ) (st : AllocatorState) : Prop where
  distinct : SlotsDistinct st.db maxSlots
  covered : ∀ t ∈ st.db.positionSlots.rows, t.slotNumber ≤ maxSlots → t.status ≠ .empty →
    t.marketText ∈ st.openMarkets ∨ ∃ s ∈ st.slots, s.id = t.id ∧ s.marketText = t.marketText
  loaded : ∀ s ∈ st.slots, ∃ t, st.db.positionSlots.get? s.id = some t ∧ t.slotNumber ≤ maxSlots
    ∧ (s.status ≠ .empty → t.status ≠ .empty ∧ t.marketText = s.marketText)
  loadedIds : (st.slots.map PositionSlot.id).Nodup
  empty : ∀ s ∈ st.emptySlots, s ∈ st.slots ∧ s.status = .empty
  emptyIds : (st.emptySlots.map PositionSlot.id).Nodup

section Slots

variable {run : AllocatorRun} {st st' : AllocatorState} {c : RankedCandidate} {maxSlots slotId : ℕ}
  {db db' : Database}

theorem SlotsInvariant.eq_of_id (h : SlotsInvariant maxSlots st) {s t : PositionSlot}
    (hs : s ∈ st.slots) (ht : t ∈ st.slots) (hid : s.id = t.id) : s = t :=
  List.inj_on_of_nodup_map h.loadedIds hs ht hid

theorem PlacedIn.get?_ne (h : PlacedIn run c slotId db db') {i : ℕ} (hi : i ≠ slotId) :
    db'.positionSlots.get? i = db.positionSlots.get? i := by
  obtain ⟨sessionId, approved, hrows⟩ := h
  rw [hrows i]
  simp [hi]

theorem PlacedIn.get?_self (h : PlacedIn run c slotId db db') {t : PositionSlot}
    (ht : db.positionSlots.get? slotId = some t) :
    ∃ t', db'.positionSlots.get? slotId = some t' ∧ t'.id = slotId ∧ t'.slotNumber = t.slotNumber
      ∧ t'.status = .reserved ∧ t'.candidateStrategyId = some c.id
      ∧ t'.market = some c.market := by
  obtain ⟨sessionId, approved, hrows⟩ := h
  refine ⟨_, (hrows slotId).trans (congrArg _ ht), ?_⟩
  dsimp only
  rw [if_pos rfl]
  exact ⟨Table.get?_some_rowId ht, rfl, rfl, rfl, rfl⟩

theorem PlacedIn.row (h : PlacedIn run c slotId db db') {t : PositionSlot}
    (ht : t ∈ db'.positionSlots.rows) :
    (t.id ≠ slotId ∧ t ∈ db.positionSlots.rows) ∨ (t.id = slotId ∧ t.marketText = c.market) := by
  by_cases hslot : t.id = slotId
  · refine .inr ⟨hslot, ?_⟩
    obtain ⟨sessionId, approved, hrows⟩ := h
    have hrow := Table.get?_of_mem ht
    rw [show Row.rowId t = slotId from hslot, hrows slotId] at hrow
    obtain ⟨t₀, -, hreserved⟩ := Option.map_eq_some_iff.mp hrow
    rw [if_pos rfl] at hreserved
    subst hreserved
    rfl
  · refine .inl ⟨hslot, Table.get?_some_mem ((h.get?_ne hslot).symm.trans (Table.get?_of_mem ht))⟩

theorem SlotsDistinct.placed (h : SlotsDistinct db maxSlots)
    (hplaced : PlacedIn run c slotId db db')
    (hfree : ∀ t ∈ db.positionSlots.rows, t.slotNumber ≤ maxSlots → t.status ≠ .empty →
      t.marketText = c.market → t.id = slotId) : SlotsDistinct db' maxSlots := by
  intro s hs t ht hsn htn hso hto hmarket
  rcases hplaced.row hs with ⟨hsid, hs₀⟩ | ⟨hsid, hsm⟩ <;>
    rcases hplaced.row ht with ⟨htid, ht₀⟩ | ⟨htid, htm⟩
  · exact h s hs₀ t ht₀ hsn htn hso hto hmarket
  · exact absurd (hfree s hs₀ hsn hso (hmarket.trans htm)) hsid
  · exact absurd (hfree t ht₀ htn hto (hmarket.symm.trans hsm)) htid
  · exact hsid.trans htid.symm

/-! ## What an accepted candidate does -/

/-- The candidate was put in `a.slotId`, which no other occupied slot disputes; its
reservation is new and the replaced candidate's are gone. -/
structure Placement (run : AllocatorRun) (maxSlots : ℕ) (st st' : AllocatorState)
    (a : AcceptedEntry) : Prop where
  accepted : st'.accepted = st.accepted ++ [a]
  openMarkets : st'.openMarkets = st.openMarkets ++ [a.candidate.market]
  fresh : a.candidate.market ∉ st.openMarkets
  rows : PlacedIn run a.candidate a.slotId st.db st'.db
  free : ∀ t ∈ st.db.positionSlots.rows, t.slotNumber ≤ maxSlots → t.status ≠ .empty →
    t.marketText = a.candidate.market → t.id = a.slotId
  loadedIds : st'.slots.map PositionSlot.id = st.slots.map PositionSlot.id
  slotId_mem : ∃ s ∈ st.slots, s.id = a.slotId
    ∧ (s ∈ st.emptySlots ∨ s.status ≠ .empty ∧ s.marketText = a.candidate.market)
  others : ∀ s, s.id ≠ a.slotId → (s ∈ st'.slots ↔ s ∈ st.slots)
  own : ∀ s ∈ st'.slots, s.id = a.slotId →
    s.status = .empty ∨ st'.db.positionSlots.get? a.slotId = some s
  emptySlots : st'.emptySlots.Sublist st.emptySlots
  taken : ∀ s ∈ st'.emptySlots, s.id ≠ a.slotId
  reserved : ∀ r ∈ st'.db.orderReservations.rows, r.status = .reserved →
    r ∈ st.db.orderReservations.rows ∨ r = a.reservation run
  kept : ∀ r ∈ st.db.orderReservations.rows, r.market ≠ a.candidate.market →
    r ∈ st'.db.orderReservations.rows
  reservation : a.reservation run ∈ st'.db.orderReservations.rows
  released : ∀ slot, a.replacedSlot = some slot → slot.candidateStrategyId.getD 0 ≠ 0 →
    ∀ r ∈ st'.db.orderReservations.rows,
      r.ReservedFor (slot.candidateStrategyId.getD 0) → r.market ≠ a.candidate.market

theorem placement_newEntry (h : SlotsInvariant maxSlots st) (haccepts : Accepts run st c)
    (hnew : replacementSlot run st c = none) {slot : PositionSlot} {rest : List PositionSlot}
    (hempty : st.emptySlots = slot :: rest) :
    ∃ a : AcceptedEntry, a.candidate = c
      ∧ Placement run maxSlots st (acceptNewEntry run st c slot rest) a := by
  have hmarket := (blockReason_eq_none haccepts.2.2).1
  obtain ⟨hslot, hslotEmpty⟩ := h.empty slot (hempty ▸ List.mem_cons_self)
  have hids : slot.id ∉ rest.map PositionSlot.id ∧ (rest.map PositionSlot.id).Nodup := by
    have hnodup := h.emptyIds
    rw [hempty] at hnodup
    exact List.nodup_cons.mp hnodup
  have hreservations : (acceptNewEntry run st c slot rest).db.orderReservations.rows = _ :=
    placeCandidate_orderReservations run st.db c slot.id (approvedOrder run st c)
  refine ⟨{ candidate := c, slotId := slot.id, sessionId := st.db.liveStrategySessions.nextId
            reservationId := st.db.orderReservations.nextId
            approvedOrderKrw := approvedOrder run st c }, rfl, ?_⟩
  exact
    { accepted := rfl
      openMarkets := rfl
      fresh := not_mem_openMarkets hmarket
      rows := placeCandidate_placedIn _ _ _ _ _
      free := by
        -- no loaded slot has the market, and it is not taken
        intro t ht hnumber hoccupied htm
        rcases h.covered t ht hnumber hoccupied with hopen | ⟨s, hs, -, hsm⟩
        · exact absurd (htm ▸ hopen) (not_mem_openMarkets hmarket)
        · exact absurd (hsm.trans htm) ((newEntry_of_unblocked hmarket hnew).1 s hs)
      loadedIds := rfl
      slotId_mem := ⟨slot, hslot, rfl, .inl (hempty ▸ List.mem_cons_self)⟩
      others := fun _ _ => Iff.rfl
      own := fun s hs hid => .inl ((h.eq_of_id hs hslot hid) ▸ hslotEmpty)
      emptySlots := by rw [hempty]; exact List.sublist_cons_self slot rest
      taken := fun s hs hid => hids.1 (List.mem_map.mpr ⟨s, hs, hid⟩)
      reserved := by
        intro r hr _
        rw [hreservations, List.mem_append, List.mem_singleton] at hr
        exact hr
      kept := by
        intro r hr _
        rw [hreservations]
        exact List.mem_append_left _ hr
      reservation := by
        rw [hreservations]
        exact List.mem_append_right _ (List.mem_singleton.mpr rfl)
      released := fun slot hreplaced => by cases hreplaced }

theorem placement_replacement (h : SlotsInvariant maxSlots st) (haccepts : Accepts run st c)
    {slot : PositionSlot} (hreplace : replacementSlot run st c = some slot) :
    ∃ a : AcceptedEntry, a.candidate = c
      ∧ Placement run maxSlots st (acceptReplacement run st c slot) a := by
  have hmarket := (blockReason_eq_none haccepts.2.2).1
  obtain ⟨hfind, hstatus, hother⟩ := replacementSlot_some hreplace
  have hslot : slot ∈ st.slots := List.mem_of_find?_eq_some hfind
  have hslotMarket : slot.marketText = c.market := by simpa using List.find?_some hfind
  obtain ⟨row, hrow, hnumber, hrowMarket⟩ := h.loaded slot hslot
  have hoccupied := hrowMarket (by rw [hstatus]; exact SlotStatus.noConfusion)
  set released := releaseReplaced run st.db slot c.market with hreleased
  set db' := placeCandidate run released c slot.id (approvedOrder run st c) with hdb'
  have hreservations : (acceptReplacement run st c slot).db.orderReservations.rows = _ :=
    placeCandidate_orderReservations run released c slot.id (approvedOrder run st c)
  have hplaced : PlacedIn run c slot.id st.db db' := by
    obtain ⟨sessionId, approved, hrows⟩ :=
      placeCandidate_placedIn run released c slot.id (approvedOrder run st c)
    rw [releaseReplaced_positionSlots] at hrows
    exact ⟨sessionId, approved, hrows⟩
  obtain ⟨updated, hupdated, hupdatedId, -, -, -, -⟩ := hplaced.get?_self hrow
  have hslots : (acceptReplacement run st c slot).slots
      = st.slots.map (fun s => if s.id = slot.id then updated else s) := by
    show st.slots.map (fun s => if s.id = ((db'.positionSlots.get? slot.id).getD slot).id then
      (db'.positionSlots.get? slot.id).getD slot else s) = _
    rw [hupdated, Option.getD_some, hupdatedId]
  refine ⟨{ candidate := c, slotId := slot.id, sessionId := released.liveStrategySessions.nextId
            reservationId := released.orderReservations.nextId
            approvedOrderKrw := approvedOrder run st c, replacedSlot := some slot }, rfl, ?_⟩
  exact
    { accepted := rfl
      openMarkets := rfl
      fresh := not_mem_openMarkets hmarket
      rows := hplaced
      free := by
        intro t ht htn hto htm
        have hsame := h.distinct t ht row (Table.get?_some_mem hrow) htn hnumber hto hoccupied.1
          (by rw [htm, hoccupied.2, hslotMarket])
        exact hsame.trans (Table.get?_some_rowId hrow)
      loadedIds := by
        rw [hslots, List.map_map]
        refine List.map_congr_left (fun s _ => ?_)
        show (if s.id = slot.id then updated else s).id = s.id
        split_ifs with hid
        · exact hupdatedId.trans hid.symm
        · rfl
      slotId_mem :=
        ⟨slot, hslot, rfl, .inr ⟨by rw [hstatus]; exact SlotStatus.noConfusion, hslotMarket⟩⟩
      others := by
        intro s hs
        rw [hslots, List.mem_map]
        constructor
        · rintro ⟨s₀, hs₀, rfl⟩
          split_ifs at hs ⊢ with hid
          · exact absurd hupdatedId hs
          · exact hs₀
        · exact fun hmem => ⟨s, hmem, if_neg hs⟩
      own := by
        intro s hs hid
        rw [hslots, List.mem_map] at hs
        obtain ⟨s₀, -, rfl⟩ := hs
        split_ifs at hid ⊢ with hsame
        · exact .inr hupdated
        · exact absurd hid hsame
      emptySlots := List.Sublist.refl _
      taken := by
        intro s hs hid
        obtain ⟨hloaded, hsEmpty⟩ := h.empty s hs
        rw [h.eq_of_id hloaded hslot hid, hstatus] at hsEmpty
        cases hsEmpty
      reserved := by
        intro r hr hreserved
        rw [hreservations, List.mem_append, List.mem_singleton] at hr
        exact hr.imp_left (fun h => (mem_releaseReplaced run st.db slot c.market h hreserved).1)
      kept := by
        intro r hr hrm
        rw [hreservations]
        exact List.mem_append_left _ (mem_releaseReplaced_of_market run st.db slot c.market hr hrm)
      reservation := by
        rw [hreservations]
        exact List.mem_append_right _ (List.mem_singleton.mpr rfl)
      released := by
        intro s hs hold r hr hreservedFor
        obtain rfl : slot = s := Option.some.inj hs
        obtain ⟨hreserved, hcandidate⟩ := hreservedFor
        rw [hreservations, List.mem_append, List.mem_singleton] at hr
        rcases hr with hr | rfl
        · exact (mem_releaseReplaced run st.db slot c.market hr hreserved).2 hold hcandidate
        · -- the new reservation belongs to another candidate
          exact absurd hcandidate.symm hother }

theorem placement_of_accepts (h : SlotsInvariant maxSlots st) (haccepts : Accepts run st c) :
    ∃ a : AcceptedEntry, a.candidate = c
      ∧ Placement run maxSlots st (allocateCandidate run st c) a := by
  rcases allocateCandidate_cases run st c with
    ⟨hrejects, -⟩ | ⟨-, slot, hreplace, hstep⟩ | ⟨-, hnew, slot, rest, hempty, hstep⟩
  · exact absurd haccepts hrejects
  · rw [hstep]; exact placement_replacement h haccepts hreplace
  · rw [hstep]; exact placement_newEntry h haccepts hnew hempty

/-! ## One candidate -/

theorem slotsInvariant_step (h : SlotsInvariant maxSlots st) :
    SlotsInvariant maxSlots (allocateCandidate run st c) := by
  by_cases haccepts : Accepts run st c
  · obtain ⟨a, -, hp⟩ := placement_of_accepts h haccepts
    obtain ⟨s₀, hs₀, hid₀, -⟩ := hp.slotId_mem
    obtain ⟨t₀, ht₀, hnumber₀, -⟩ := h.loaded s₀ hs₀
    rw [hid₀] at ht₀
    -- the row of the slot before the step, and after it
    obtain ⟨t', ht', hid', hnumber', hstatus', -, hmarket'⟩ := hp.rows.get?_self ht₀
    have hmarketText : t'.marketText = a.candidate.market := by
      unfold PositionSlot.marketText
      rw [hmarket']
      rfl
    refine ⟨h.distinct.placed hp.rows hp.free, ?_, ?_, hp.loadedIds ▸ h.loadedIds, ?_,
      h.emptyIds.sublist (hp.emptySlots.map _)⟩
    · intro t ht hnumber hoccupied
      rw [hp.openMarkets]
      -- any other slot is covered as before, the placed one by its new market
      rcases hp.rows.row ht with ⟨hid, hold⟩ | ⟨hid, hmarket⟩
      · rcases h.covered t hold hnumber hoccupied with hopen | ⟨s, hs, hsid, hsm⟩
        · exact .inl (List.mem_append_left _ hopen)
        · exact .inr ⟨s, (hp.others s (hsid ▸ hid)).mpr hs, hsid, hsm⟩
      · exact .inl (List.mem_append_right _ (List.mem_singleton.mpr hmarket))
    · intro s hs
      -- the run's copy of the slot is still the empty one, or the new row
      by_cases hid : s.id = a.slotId
      · refine ⟨t', by rw [hid]; exact ht', hnumber' ▸ hnumber₀, fun hoccupied => ?_⟩
        refine ⟨by rw [hstatus']; exact SlotStatus.noConfusion, ?_⟩
        rcases hp.own s hs hid with hempty | hrow
        · exact absurd hempty hoccupied
        · rw [Option.some.inj (ht'.symm.trans hrow)]
      · rw [hp.rows.get?_ne hid]
        exact h.loaded s ((hp.others s hid).mp hs)
    · intro s hs
      obtain ⟨hloaded, hempty⟩ := h.empty s (hp.emptySlots.subset hs)
      exact ⟨(hp.others s (hp.taken s hs)).mpr hloaded, hempty⟩
  · rcases allocateCandidate_cases run st c with ⟨-, blocked, hstep⟩ | ⟨hyes, -⟩ | ⟨hyes, -⟩
    · rw [hstep]
      exact ⟨h.distinct, h.covered, h.loaded, h.loadedIds, h.empty, h.emptyIds⟩
    · exact absurd hyes haccepts
    · exact absurd hyes haccepts

def HeldBy (db : Database) (a : AcceptedEntry) : Prop :=
  ∃ t, db.positionSlots.get? a.slotId = some t ∧ t.status = .reserved
    ∧ t.candidateStrategyId = some a.candidate.id ∧ t.market = some a.candidate.market

/-- What holds of the accepted entries; `db₀` is the database the run starts from. -/
structure AcceptedInvariant (run : AllocatorRun) (db₀ : Database) (st : AllocatorState) :
    Prop where
  market : ∀ a ∈ st.accepted, a.candidate.market ∈ st.openMarkets
  held : ∀ a ∈ st.accepted, HeldBy st.db a
  notEmpty : ∀ a ∈ st.accepted, ∀ s ∈ st.emptySlots, s.id ≠ a.slotId
  loaded : ∀ a ∈ st.accepted, ∀ s ∈ st.slots, s.id = a.slotId →
    s.status = .empty ∨ s.marketText = a.candidate.market
  reservation : ∀ a ∈ st.accepted, a.reservation run ∈ st.db.orderReservations.rows
  reserved : ∀ r ∈ st.db.orderReservations.rows, r.status = .reserved →
    r ∈ db₀.orderReservations.rows ∨ ∃ a ∈ st.accepted, r = a.reservation run
  released : ∀ a ∈ st.accepted, ∀ slot, a.replacedSlot = some slot →
    slot.candidateStrategyId.getD 0 ≠ 0 → ∀ r ∈ st.db.orderReservations.rows,
      r.ReservedFor (slot.candidateStrategyId.getD 0) → r.market ≠ a.candidate.market

theorem AcceptedInvariant.slotId_ne (h : AcceptedInvariant run db st) {a b : AcceptedEntry}
    (hp : Placement run maxSlots st st' a) (hb : b ∈ st.accepted) : b.slotId ≠ a.slotId := by
  intro hsame
  obtain ⟨s, hs, hid, hempty | ⟨hoccupied, hmarket⟩⟩ := hp.slotId_mem
  · exact h.notEmpty b hb s hempty (hid.trans hsame.symm)
  · rcases h.loaded b hb s hs (hid.trans hsame.symm) with hsEmpty | hsMarket
    · exact hoccupied hsEmpty
    · -- the markets would agree, but the one of `b` is taken
      exact hp.fresh (hmarket.symm.trans hsMarket ▸ h.market b hb)

theorem AcceptedInvariant.placed (h : AcceptedInvariant run db st)
    (hslots : SlotsInvariant maxSlots st) {a : AcceptedEntry}
    (hp : Placement run maxSlots st st' a) : AcceptedInvariant run db st' := by
  obtain ⟨s₀, hs₀, hid₀, -⟩ := hp.slotId_mem
  obtain ⟨t₀, ht₀, -, -⟩ := hslots.loaded s₀ hs₀
  rw [hid₀] at ht₀
  obtain ⟨t', ht', -, -, hstatus', hcandidate', hmarket'⟩ := hp.rows.get?_self ht₀
  have hcases : ∀ b ∈ st'.accepted, b ∈ st.accepted ∨ b = a := by
    intro b hb
    rw [hp.accepted, List.mem_append, List.mem_singleton] at hb
    exact hb
  -- the new entry's market was not open before
  have hfresh : ∀ b ∈ st.accepted, b.candidate.market ≠ a.candidate.market :=
    fun b hb hsame => hp.fresh (hsame ▸ h.market b hb)
  refine ⟨?_, ?_, ?_, ?_, ?_, ?_, ?_⟩
  · intro b hb
    rw [hp.openMarkets]
    rcases hcases b hb with hb | rfl
    · exact List.mem_append_left _ (h.market b hb)
    · exact List.mem_append_right _ (List.mem_singleton.mpr rfl)
  · intro b hb
    rcases hcases b hb with hb | rfl
    · obtain ⟨t, ht, hheld⟩ := h.held b hb
      exact ⟨t, (hp.rows.get?_ne (h.slotId_ne hp hb)).trans ht, hheld⟩
    · exact ⟨t', ht', hstatus', hcandidate', hmarket'⟩
  · intro b hb s hs
    rcases hcases b hb with hb | rfl
    · exact h.notEmpty b hb s (hp.emptySlots.subset hs)
    · exact hp.taken s hs
  · intro b hb s hs hid
    rcases hcases b hb with hb | rfl
    · refine h.loaded b hb s ((hp.others s ?_).mp hs) hid
      rw [hid]
      exact h.slotId_ne hp hb
    · refine (hp.own s hs hid).imp_right (fun hrow => ?_)
      obtain rfl : t' = s := Option.some.inj (ht'.symm.trans hrow)
      unfold PositionSlot.marketText
      rw [hmarket']
      rfl
  · intro b hb
    rcases hcases b hb with hb | rfl
    -- a reservation of another market is not released by the step
    · exact hp.kept _ (h.reservation b hb) (hfresh b hb)
    · exact hp.reservation
  · intro r hr hreserved
    rw [hp.accepted]
    rcases hp.reserved r hr hreserved with hr | rfl
    · exact (h.reserved r hr hreserved).imp_right
        (fun ⟨b, hb, hrb⟩ => ⟨b, List.mem_append_left _ hb, hrb⟩)
    · exact .inr ⟨a, List.mem_append_right _ (List.mem_singleton.mpr rfl), rfl⟩
  · intro b hb slot hreplaced hold r hr hreservedFor
    rcases hcases b hb with hb | rfl
    · rcases hp.reserved r hr hreservedFor.1 with hr | rfl
      · exact h.released b hb slot hreplaced hold r hr hreservedFor
      · exact (hfresh b hb).symm
    · exact hp.released slot hreplaced hold r hr hreservedFor

theorem acceptedInvariant_step (hslots : SlotsInvariant maxSlots st)
    (h : AcceptedInvariant run db st) : AcceptedInvariant run db (allocateCandidate run st c) := by
  rcases allocateCandidate_cases run st c with
    ⟨-, blocked, hstep⟩ | ⟨haccepts, -⟩ | ⟨haccepts, -⟩
  · rw [hstep]
    exact ⟨h.market, h.held, h.notEmpty, h.loaded, h.reservation, h.reserved, h.released⟩
  · obtain ⟨a, -, hp⟩ := placement_of_accepts hslots haccepts
    exact h.placed hslots hp
  · obtain ⟨a, -, hp⟩ := placement_of_accepts hslots haccepts
    exact h.placed hslots hp

end Slots

/-! ## Whole runs -/

section Allocation

variable {run : AllocatorRun} {db : Database} {maxSlots : ℕ}

theorem slotsInvariant_start
    (hslots : run.snapshot.slots = loadPositionSlotRows db maxSlots)
    (hdistinct : SlotsDistinct db maxSlots) : SlotsInvariant maxSlots (run.start db) := by
  have hmem : ∀ s, s ∈ (run.start db).slots ↔ s ∈ db.positionSlots.rows ∧ s.slotNumber ≤ maxSlots := by
    intro s
    show s ∈ run.snapshot.slots ↔ _
    rw [hslots]
    unfold loadPositionSlotRows
    rw [List.mem_insertionSort, Table.mem_select, decide_eq_true_eq]
  have hids : ((run.start db).slots.map PositionSlot.id).Nodup := by
    show (run.snapshot.slots.map PositionSlot.id).Nodup
    rw [hslots]
    unfold loadPositionSlotRows
    refine ((List.perm_insertionSort _ _).map PositionSlot.id).nodup_iff.mpr ?_
    exact db.positionSlots.nodup.sublist (List.filter_sublist.map _)
  refine ⟨hdistinct, fun t ht hnumber _ => .inr ⟨t, (hmem t).mpr ⟨ht, hnumber⟩, rfl, rfl⟩,
    fun s hs => ?_, hids, fun s hs => ?_, ?_⟩
  · obtain ⟨hrow, hnumber⟩ := (hmem s).mp hs
    exact ⟨s, Table.get?_of_mem hrow, hnumber, fun h => ⟨h, rfl⟩⟩
  · obtain ⟨hslot, hempty⟩ := List.mem_filter.mp hs
    exact ⟨hslot, by simpa using hempty⟩
  · exact hids.sublist (List.filter_sublist.map _)

theorem acceptedInvariant_start : AcceptedInvariant run db (run.start db) where
  market := fun _ ha => absurd ha List.not_mem_nil
  held := fun _ ha => absurd ha List.not_mem_nil
  notEmpty := fun _ ha => absurd ha List.not_mem_nil
  loaded := fun _ ha => absurd ha List.not_mem_nil
  reservation := fun _ ha => absurd ha List.not_mem_nil
  reserved := fun _ hr _ => .inl hr
  released := fun _ ha => absurd ha List.not_mem_nil

theorem accepted_sublist (candidates : List RankedCandidate) :
    ((allocateCandidates run db candidates).accepted.map AcceptedEntry.candidate).Sublist
      candidates := by
  induction candidates using List.reverseRecOn with
  | nil => exact List.Sublist.refl _
  | append_singleton candidates c ih =>
    have hlast : allocateCandidates run db (candidates ++ [c])
        = allocateCandidate run (allocateCandidates run db candidates) c := run_append _ _ _
    rw [hlast]
    rcases allocateCandidate_cases run (allocateCandidates run db candidates) c with
      ⟨-, blocked, hstep⟩ | ⟨-, slot, -, hstep⟩ | ⟨-, -, slot, rest, -, hstep⟩
    · rw [hstep]
      exact ih.trans (List.sublist_append_left _ _)
    · rw [hstep]
      show ((_ ++ [_]).map AcceptedEntry.candidate).Sublist _
      rw [List.map_append]
      exact ih.append (List.Sublist.refl _)
    · rw [hstep]
      show ((_ ++ [_]).map AcceptedEntry.candidate).Sublist _
      rw [List.map_append]
      exact ih.append (List.Sublist.refl _)

theorem allocation_invariants (hslots : run.snapshot.slots = loadPositionSlotRows db maxSlots)
    (hdistinct : SlotsDistinct db maxSlots) (candidates : List RankedCandidate) :
    SlotsInvariant maxSlots (allocateCandidates run db candidates)
      ∧ AcceptedInvariant run db (allocateCandidates run db candidates) :=
  run_invariant (P := fun st => SlotsInvariant maxSlots st ∧ AcceptedInvariant run db st)
    (fun _ _ h => ⟨slotsInvariant_step h.1, acceptedInvariant_step h.1 h.2⟩)
    ⟨slotsInvariant_start hslots hdistinct, acceptedInvariant_start⟩ candidates

end Allocation

/-- A third slot, reserved for ETH, and two more reservations: one of candidate 2 in ETH
and one of candidate 1 in ADA. -/
def exampleOldSlotDb : Database :=
  let slots := exampleSlotDb.positionSlots.insert
    (fun k =>
      { id := k, slotNumber := 3, status := .reserved, market := some "KRW-ETH"
        candidateStrategyId := some 9, reservedKrw := 5000 })
    (fun _ => rfl)
  let reservations := (exampleSlotDb.orderReservations.insert
    (fun k =>
      { id := k, market := "KRW-ETH", candidateStrategyId := 2, amountKrw := 5000
        status := .reserved })
    (fun _ => rfl)).insert
    (fun k =>
      { id := k, market := "KRW-ADA", candidateStrategyId := 1, amountKrw := 5000
        status := .reserved })
    (fun _ => rfl)
  { exampleSlotDb with positionSlots := slots, orderReservations := reservations }

/-- A run over two slots with enough capital. -/
def exampleTwoSlotRun : AllocatorRun :=
  let policy : BotOperationPolicy := { autoTradingEnabled := true, maxTotalExposureKrw := 500000 }
  { exampleAllocatorRun with
    policy := policy
    snapshot := buildCapitalSnapshot exampleOldSlotDb "bithumb" { maxSlots := 2 } policy
      { availableKrw := some 500000 } 0 }

end AutoCoinBot
