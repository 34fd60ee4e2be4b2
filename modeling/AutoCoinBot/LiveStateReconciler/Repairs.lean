/-
  LiveStateReconciler.Repairs — the eight repairs, and the pass that makes them.

  A repair works its items off one by one. What it does to a slot, a reservation or a
  session is a rewriting of that row, item by item, whatever the other items do; this is
  said once for each repair, and everything else is derived from it.
-/
import AutoCoinBot.Library.Batch
import AutoCoinBot.LiveStateReconciler.Defects

namespace AutoCoinBot

open Library

/-! ## The repairs -/

/-- The session is read, and stopped if it passes the guard. -/
def stopSessionIf (db : Database) (sessionId : Option ℕ) (guarded : LiveStrategySession → Bool)
    (updates : LiveStrategySessionUpdates) : Database :=
  if idGiven sessionId then
    match loadLiveStrategySession db (sessionId.getD 0) with
    | none => db
    | some s =>
      if guarded s then updateLiveStrategySession db (sessionId.getD 0) updates else db
  else db

/-- `promote_candidate_strategy(candidate_id, "LIVE_ELIGIBLE")`, for an id that is given. -/
def demoteCandidate (settings : ReconcilerSettings) (db : Database) (candidateId : ℕ) : Database :=
  if candidateId = 0 then db
  else promoteCandidateStrategy db settings.allowedExchange candidateId .liveEligible

/-- What a call of `_release_reserved_slot` names. -/
structure SlotRelease where
  slotId : Option ℕ
  candidateId : ℕ
  market : String
  sessionId : Option ℕ

/-- The slot row `_release_reserved_slot` leaves. -/
def PositionSlot.released (slot : PositionSlot) (reason : String) (now : UtcTime) : PositionSlot :=
  { slot with
    status := .empty
    market := none
    candidateStrategyId := none
    livePositionId := none
    liveStrategySessionId := none
    entryOrderUuid := none
    exitOrderUuid := none
    allocatedKrw := 0
    reservedKrw := 0
    currentValueKrw := 0
    unrealizedPnl := 0
    realizedPnl := 0
    entryReason := some reason
    updatedAt := now }

/-- The slot row a mismatched slot is left with. -/
def PositionSlot.releasedMismatched (slot : PositionSlot) (now : UtcTime) : PositionSlot :=
  { slot with
    status := .empty
    market := none
    candidateStrategyId := none
    liveStrategySessionId := none
    allocatedKrw := 0
    reservedKrw := 0
    entryReason := some mismatchedSlotReason
    updatedAt := now }

def PositionSlot.repointed (slot : PositionSlot) (sessionId : ℕ) (now : UtcTime) : PositionSlot :=
  { slot with
    liveStrategySessionId := some sessionId
    entryReason := some reservedSlotSessionPointerReason
    updatedAt := now }

/-- The reservations a release closes: those of the slot and the candidate, or without a
slot those of the candidate and the market. -/
def SlotRelease.closes (rel : SlotRelease) (r : OrderReservation) : Bool :=
  r.candidateStrategyId == rel.candidateId
    && if idGiven rel.slotId then r.slotId == rel.slotId else r.market == rel.market

section Repairs

variable (settings : ReconcilerSettings) (db : Database)

def staleUpdates (s : LiveStrategySession) : LiveStrategySessionUpdates :=
  let replacement := (replacementOpenPosition db s).map LivePosition.id
  if stopsStale db s then
    { stopSessionUpdates staleReason "STALE_POSITION_POINTER_CLEARED" settings.now with
      currentPositionId := some replacement }
  else
    { currentPositionId := some replacement
      lastRiskResult := some staleReason
      updatedAt := some settings.now }

def reconcileStaleLiveStrategySessions : Database :=
  -- the probe decides over all sessions before the first is written
  (findStaleLiveStrategySessions db).foldl
    (fun d s => updateLiveStrategySession d s.id (staleUpdates settings db s)) db

/-- `reconcile_orphan_live_active_candidates`, without the queue it fills. -/
def reconcileOrphanLiveActiveCandidates : Database :=
  (db.candidateStrategies.select (fun c => c.status == .liveActive)).foldl
    (fun d c =>
      -- the links are read when the candidate's turn comes
      if (candidateLinks d c.id settings.now).isOrphan then
        promoteCandidateStrategy d settings.allowedExchange c.id .liveEligible
      else d)
    db

theorem rowId_closed (status : ReservationStatus) (r : OrderReservation) :
    Row.rowId { r with status := status } = Row.rowId r := rfl

theorem rowId_expired (r : OrderReservation) :
    Row.rowId { r with status := .expired } = Row.rowId r := rfl

/-- One item of `reconcile_mismatched_position_slot_sessions`. -/
def releaseMismatchedSlot (d : Database) (item : PositionSlot) : Database :=
  -- of any candidate: the statement names the slot alone
  let reservations := d.orderReservations.modifyWhere
    (fun r => r.slotId == some item.id && r.status.isActive)
    (fun r => { r with status := .expired }) rowId_expired
  let slots := d.positionSlots.modify item.id
    (fun s => s.releasedMismatched settings.now) (fun _ => rfl)
  let released : Database := { d with orderReservations := reservations, positionSlots := slots }
  let stopped :=
    -- no guard: the session is not read before it is stopped
    if idGiven item.liveStrategySessionId then
      updateLiveStrategySession released (item.liveStrategySessionId.getD 0)
        (stopSessionUpdates mismatchedSlotReason "REPLACED" settings.now)
    else released
  demoteCandidate settings stopped (item.candidateStrategyId.getD 0)

def reconcileMismatchedPositionSlotSessions : Database :=
  (findMismatchedPositionSlotSessions db).foldl (releaseMismatchedSlot settings) db

/-- `_release_reserved_slot`; the caller gives the reason and the status of the
reservations it closes. -/
def releaseReservedSlot (reason : String) (status : ReservationStatus) (d : Database)
    (rel : SlotRelease) : Database :=
  let reservations := d.orderReservations.modifyWhere
    (fun r => rel.closes r && r.status.isActive)
    (fun r => { r with status := status }) (rowId_closed status)
  let slots :=
    -- the candidate of the slot is not compared
    if idGiven rel.slotId then
      d.positionSlots.modify (rel.slotId.getD 0) (fun s => s.released reason settings.now)
        (fun _ => rfl)
    else d.positionSlots
  let released : Database := { d with orderReservations := reservations, positionSlots := slots }
  -- the session is read again, and stopped if it is idle
  let stopped := stopSessionIf released rel.sessionId LiveStrategySession.isIdle
    (stopSessionUpdates reason status.text settings.now)
  demoteCandidate settings stopped rel.candidateId

/-- The releases of a call, one after the other. -/
def releaseAll (reason : String) (status : ReservationStatus) (rels : List SlotRelease) :
    Database :=
  rels.foldl (releaseReservedSlot settings reason status) db

def expiredRelease (r : OrderReservation) : SlotRelease :=
  { slotId := if idGiven r.slotId then r.slotId else none
    candidateId := r.candidateStrategyId
    market := r.market
    sessionId := (reservationSlot db r).bind PositionSlot.liveStrategySessionId }

/-- The releases of `reconcile_expired_order_reservations`. -/
def expiredReleases : List SlotRelease :=
  (findExpiredOrderReservations db settings.now).map (expiredRelease db)

def reconcileExpiredOrderReservations : Database :=
  releaseAll settings db expiredReservationReason .expired (expiredReleases settings db)

/-- One item of `reconcile_reserved_slot_session_pointer`. -/
def repointReservedSlot (d : Database) (item : PositionSlot × LiveStrategySession) : Database :=
  let slots := d.positionSlots.modify item.1.id
    (fun s => s.repointed item.2.id settings.now) (fun _ => rfl)
  stopSessionIf { d with positionSlots := slots } item.1.liveStrategySessionId
    (fun s => (s.status == .ready || s.status == .livePaused) && s.isIdle)
    (stopSessionUpdates reservedSlotSessionPointerReason "REPLACED" settings.now)

def reconcileReservedSlotSessionPointer : Database :=
  (findReservedSlotSessionPointerMismatches db).foldl (repointReservedSlot settings) db

def reconcileEntryFillLifecycles : Database :=
  (findEntryFillLifecycleGaps db).foldl
    (fun d p => finalizeEntryLifecycleForPosition d p.id settings.now) db

/-- The update of a session that points to the position of another. -/
def duplicateUpdates : LiveStrategySessionUpdates :=
  { stopSessionUpdates duplicatePositionSessionReason "REPLACED" settings.now with
    currentPositionId := some none
    currentOpenOrderUuid := some none }

def reconcileDuplicatePositionSessions : Database :=
  (findDuplicatePositionSessions db).foldl
    (fun d s => updateLiveStrategySession d s.id (duplicateUpdates settings)) db

/-- The release of a slot whose entry stays blocked. -/
def blockedRelease (slot : PositionSlot) : SlotRelease :=
  { slotId := some slot.id
    candidateId := slot.candidateStrategyId.getD 0
    market := toText slot.market
    sessionId := slot.liveStrategySessionId }

/-- The releases of `reconcile_reserved_entry_blocked_slots`. -/
def blockedReleases : List SlotRelease :=
  if settings.releaseEnabled then (findReservedEntryBlockedSlots db settings).map blockedRelease
  else []

def reconcileReservedEntryBlockedSlots : Database :=
  releaseAll settings db reservedEntryBlockReason .released (blockedReleases settings db)

end Repairs

/-- `reconcile_live_state`, with `dry_run=False`. -/
def reconcileLiveState (settings : ReconcilerSettings) (db : Database) : Database :=
  let stale := reconcileStaleLiveStrategySessions settings db
  let orphan := reconcileOrphanLiveActiveCandidates settings stale
  let mismatched := reconcileMismatchedPositionSlotSessions settings orphan
  let expired := reconcileExpiredOrderReservations settings mismatched
  let reservedPointer := reconcileReservedSlotSessionPointer settings expired
  let entryLifecycle := reconcileEntryFillLifecycles settings reservedPointer
  let duplicateSessions := reconcileDuplicatePositionSessions settings entryLifecycle
  reconcileReservedEntryBlockedSlots settings duplicateSessions

/-! ## What one item does to a row -/

/-- The reservation an update of the active ones leaves. -/
def OrderReservation.closedAs (status : ReservationStatus) (r : OrderReservation) :
    OrderReservation :=
  if r.status.isActive then { r with status := status } else r

@[simp] theorem OrderReservation.closedAs_closedAs (status : ReservationStatus)
    (r : OrderReservation) : (r.closedAs status).closedAs status = r.closedAs status := by
  unfold OrderReservation.closedAs
  by_cases hactive : r.status.isActive
  · simp only [hactive, if_true]
    split <;> rfl
  · simp only [hactive, Bool.false_eq_true, if_false]

theorem ne_some_of_not_idGiven {ρ : Type*} [Row ρ] {t : Table ρ} {k : ℕ} {x : Option ℕ} {r : ρ}
    (hgiven : ¬ idGiven x = true) (hrow : t.get? k = some r) : x ≠ some k := by
  intro heq
  rw [heq] at hgiven
  exact hgiven (idGiven_some (Table.get?_pos hrow))

section ItemRows

variable (settings : ReconcilerSettings) (d : Database) (k : ℕ)

theorem session_update (sessionId : ℕ) (u : LiveStrategySessionUpdates) :
    (updateLiveStrategySession d sessionId u).liveStrategySessions.get? k
      = (d.liveStrategySessions.get? k).map (fun s => if k = sessionId then s.merge u else s) :=
  loadLiveStrategySession_update d sessionId u k

theorem session_stopSessionIf (sessionId : Option ℕ) (guarded : LiveStrategySession → Bool)
    (u : LiveStrategySessionUpdates) :
    (stopSessionIf d sessionId guarded u).liveStrategySessions.get? k
      = (d.liveStrategySessions.get? k).map
          (fun s => if sessionId = some k ∧ guarded s then s.merge u else s) := by
  -- the row the guard looks at is the row under `k`, or another
  by_cases hid : sessionId = some k
  · subst hid
    cases hrow : d.liveStrategySessions.get? k with
    | none =>
      have hload : loadLiveStrategySession d ((some k).getD 0) = none := hrow
      unfold stopSessionIf
      rw [hload]
      split <;> exact hrow
    | some s =>
      have hload : loadLiveStrategySession d ((some k).getD 0) = some s := hrow
      unfold stopSessionIf
      rw [if_pos (idGiven_some (Table.get?_pos hrow)), hload]
      by_cases hguard : guarded s = true
      · show (if guarded s = true then _ else d).liveStrategySessions.get? k = _
        rw [if_pos hguard, session_update, hrow]
        simp [hguard]
      · show (if guarded s = true then _ else d).liveStrategySessions.get? k = _
        rw [if_neg hguard, hrow]
        simp [hguard]
  · have hkept : (fun s : LiveStrategySession =>
        if sessionId = some k ∧ guarded s then s.merge u else s) = fun s => s := by
      funext s
      exact if_neg (fun h => hid h.1)
    rw [hkept, Option.map_id']
    unfold stopSessionIf
    -- no id, or zero: the session is not looked up
    by_cases hgiven : idGiven sessionId = true
    · rw [if_pos hgiven]
      have hne : k ≠ sessionId.getD 0 :=
        fun heq => hid ((eq_getD_iff_of_idGiven hgiven k).mp heq)
      split
      · rfl
      · split
        · rw [session_update]
          simp [hne]
        · rfl
    · rw [if_neg hgiven]

theorem stopSessionIf_frame {γ : Type*} (view : Database → γ)
    (h : ∀ d sessionId u, view (updateLiveStrategySession d sessionId u) = view d)
    (sessionId : Option ℕ) (guarded : LiveStrategySession → Bool)
    (u : LiveStrategySessionUpdates) : view (stopSessionIf d sessionId guarded u) = view d := by
  unfold stopSessionIf
  by_cases hgiven : idGiven sessionId = true
  · rw [if_pos hgiven]
    cases loadLiveStrategySession d (sessionId.getD 0) with
    | none => rfl
    | some s =>
      show view (if guarded s = true then _ else d) = view d
      by_cases hguard : guarded s = true
      · rw [if_pos hguard]
        exact h d _ u
      · rw [if_neg hguard]
  · rw [if_neg hgiven]

theorem demoteCandidate_frame {γ : Type*} (view : Database → γ)
    (h : ∀ d allowedExchange candidateId status,
      view (promoteCandidateStrategy d allowedExchange candidateId status) = view d)
    (candidateId : ℕ) : view (demoteCandidate settings d candidateId) = view d := by
  unfold demoteCandidate
  split
  · rfl
  · exact h d _ candidateId _

@[simp] theorem stopSessionIf_positionSlots (sessionId : Option ℕ)
    (guarded : LiveStrategySession → Bool) (u : LiveStrategySessionUpdates) :
    (stopSessionIf d sessionId guarded u).positionSlots = d.positionSlots :=
  stopSessionIf_frame d Database.positionSlots (fun _ _ _ => rfl) sessionId guarded u

@[simp] theorem stopSessionIf_orderReservations (sessionId : Option ℕ)
    (guarded : LiveStrategySession → Bool) (u : LiveStrategySessionUpdates) :
    (stopSessionIf d sessionId guarded u).orderReservations = d.orderReservations :=
  stopSessionIf_frame d Database.orderReservations (fun _ _ _ => rfl) sessionId guarded u

@[simp] theorem stopSessionIf_livePositions (sessionId : Option ℕ)
    (guarded : LiveStrategySession → Bool) (u : LiveStrategySessionUpdates) :
    (stopSessionIf d sessionId guarded u).livePositions = d.livePositions :=
  stopSessionIf_frame d Database.livePositions (fun _ _ _ => rfl) sessionId guarded u

@[simp] theorem stopSessionIf_liveOrderLogs (sessionId : Option ℕ)
    (guarded : LiveStrategySession → Bool) (u : LiveStrategySessionUpdates) :
    (stopSessionIf d sessionId guarded u).liveOrderLogs = d.liveOrderLogs :=
  stopSessionIf_frame d Database.liveOrderLogs (fun _ _ _ => rfl) sessionId guarded u

@[simp] theorem stopSessionIf_candidateStrategies (sessionId : Option ℕ)
    (guarded : LiveStrategySession → Bool) (u : LiveStrategySessionUpdates) :
    (stopSessionIf d sessionId guarded u).candidateStrategies = d.candidateStrategies :=
  stopSessionIf_frame d Database.candidateStrategies (fun _ _ _ => rfl) sessionId guarded u

@[simp] theorem demoteCandidate_positionSlots (candidateId : ℕ) :
    (demoteCandidate settings d candidateId).positionSlots = d.positionSlots :=
  demoteCandidate_frame settings d Database.positionSlots (fun d _ _ _ => by simp) candidateId

@[simp] theorem demoteCandidate_orderReservations (candidateId : ℕ) :
    (demoteCandidate settings d candidateId).orderReservations = d.orderReservations :=
  demoteCandidate_frame settings d Database.orderReservations (fun d _ _ _ => by simp) candidateId

@[simp] theorem demoteCandidate_liveStrategySessions (candidateId : ℕ) :
    (demoteCandidate settings d candidateId).liveStrategySessions = d.liveStrategySessions :=
  demoteCandidate_frame settings d Database.liveStrategySessions (fun d _ _ _ => by simp) candidateId

@[simp] theorem demoteCandidate_livePositions (candidateId : ℕ) :
    (demoteCandidate settings d candidateId).livePositions = d.livePositions :=
  demoteCandidate_frame settings d Database.livePositions (fun d _ _ _ => by simp) candidateId

@[simp] theorem demoteCandidate_liveOrderLogs (candidateId : ℕ) :
    (demoteCandidate settings d candidateId).liveOrderLogs = d.liveOrderLogs :=
  demoteCandidate_frame settings d Database.liveOrderLogs (fun d _ _ _ => by simp) candidateId

theorem slot_releaseReservedSlot (reason : String) (status : ReservationStatus)
    (rel : SlotRelease) :
    (releaseReservedSlot settings reason status d rel).positionSlots.get? k
      = (d.positionSlots.get? k).map
          (fun s => if rel.slotId = some k then s.released reason settings.now else s) := by
  unfold releaseReservedSlot
  dsimp only
  rw [demoteCandidate_positionSlots, stopSessionIf_positionSlots]
  have hmodify := Table.get?_modify d.positionSlots k (rel.slotId.getD 0)
    (fun s => s.released reason settings.now) (fun _ => rfl)
  by_cases hgiven : idGiven rel.slotId = true
  · rw [if_pos hgiven]
    refine hmodify.trans ?_
    simp only [eq_getD_iff_of_idGiven hgiven k]
  · rw [if_neg hgiven]
    cases hrow : d.positionSlots.get? k with
    | none => rfl
    | some s =>
      have hne : rel.slotId ≠ some k := ne_some_of_not_idGiven hgiven hrow
      simp [hne]

theorem reservation_releaseReservedSlot (reason : String) (status : ReservationStatus)
    (rel : SlotRelease) :
    (releaseReservedSlot settings reason status d rel).orderReservations.get? k
      = (d.orderReservations.get? k).map
          (fun r => if rel.closes r then r.closedAs status else r) := by
  unfold releaseReservedSlot
  dsimp only
  rw [demoteCandidate_orderReservations, stopSessionIf_orderReservations]
  have hmodify := Table.get?_modifyWhere d.orderReservations
    (fun r => rel.closes r && r.status.isActive)
    (fun r => { r with status := status }) (fun _ => rfl) k
  refine hmodify.trans ?_
  congr 1
  funext r
  unfold OrderReservation.closedAs
  by_cases hcloses : rel.closes r = true
  · simp [hcloses]
  · simp [hcloses]

theorem session_releaseReservedSlot (reason : String) (status : ReservationStatus)
    (rel : SlotRelease) :
    (releaseReservedSlot settings reason status d rel).liveStrategySessions.get? k
      = (d.liveStrategySessions.get? k).map (fun s =>
          if rel.sessionId = some k ∧ s.isIdle then
            s.merge (stopSessionUpdates reason status.text settings.now)
          else s) := by
  unfold releaseReservedSlot
  dsimp only
  rw [demoteCandidate_liveStrategySessions, session_stopSessionIf]

@[simp] theorem releaseReservedSlot_livePositions (reason : String)
    (status : ReservationStatus) (rel : SlotRelease) :
    (releaseReservedSlot settings reason status d rel).livePositions = d.livePositions := by
  unfold releaseReservedSlot
  dsimp only
  rw [demoteCandidate_livePositions, stopSessionIf_livePositions]

theorem slot_releaseMismatchedSlot (item : PositionSlot) :
    (releaseMismatchedSlot settings d item).positionSlots.get? k
      = (d.positionSlots.get? k).map
          (fun s => if k = item.id then s.releasedMismatched settings.now else s) := by
  unfold releaseMismatchedSlot
  dsimp only
  rw [demoteCandidate_positionSlots]
  have hmodify := Table.get?_modify d.positionSlots k item.id
    (fun s => s.releasedMismatched settings.now) (fun _ => rfl)
  split <;> exact hmodify

theorem reservation_releaseMismatchedSlot (item : PositionSlot) :
    (releaseMismatchedSlot settings d item).orderReservations.get? k
      = (d.orderReservations.get? k).map
          (fun r => if r.slotId = some item.id then r.closedAs .expired else r) := by
  unfold releaseMismatchedSlot
  dsimp only
  rw [demoteCandidate_orderReservations]
  have hmodify := Table.get?_modifyWhere d.orderReservations
    (fun r => r.slotId == some item.id && r.status.isActive)
    (fun r => { r with status := .expired }) (fun _ => rfl) k
  have hrow : (fun r : OrderReservation =>
        if (r.slotId == some item.id && r.status.isActive) = true then
          { r with status := ReservationStatus.expired } else r)
      = fun r => if r.slotId = some item.id then r.closedAs .expired else r := by
    funext r
    unfold OrderReservation.closedAs
    by_cases hslot : r.slotId = some item.id
    · simp [hslot]
    · simp [hslot]
  rw [hrow] at hmodify
  split <;> exact hmodify

theorem session_releaseMismatchedSlot (item : PositionSlot) :
    (releaseMismatchedSlot settings d item).liveStrategySessions.get? k
      = (d.liveStrategySessions.get? k).map (fun s =>
          if item.liveStrategySessionId = some k then
            s.merge (stopSessionUpdates mismatchedSlotReason "REPLACED" settings.now)
          else s) := by
  unfold releaseMismatchedSlot
  dsimp only
  rw [demoteCandidate_liveStrategySessions]
  by_cases hgiven : idGiven item.liveStrategySessionId = true
  · rw [if_pos hgiven, session_update]
    simp only [eq_getD_iff_of_idGiven hgiven k]
  · rw [if_neg hgiven]
    show d.liveStrategySessions.get? k = _
    cases hrow : d.liveStrategySessions.get? k with
    | none => rfl
    | some s =>
      have hne : item.liveStrategySessionId ≠ some k := ne_some_of_not_idGiven hgiven hrow
      simp [hne]

@[simp] theorem releaseMismatchedSlot_livePositions (item : PositionSlot) :
    (releaseMismatchedSlot settings d item).livePositions = d.livePositions := by
  unfold releaseMismatchedSlot
  dsimp only
  rw [demoteCandidate_livePositions]
  split <;> rfl

theorem slot_repointReservedSlot (item : PositionSlot × LiveStrategySession) :
    (repointReservedSlot settings d item).positionSlots.get? k
      = (d.positionSlots.get? k).map
          (fun s => if k = item.1.id then s.repointed item.2.id settings.now else s) := by
  unfold repointReservedSlot
  dsimp only
  rw [stopSessionIf_positionSlots]
  exact Table.get?_modify d.positionSlots k item.1.id
    (fun s => s.repointed item.2.id settings.now) (fun _ => rfl)

theorem session_repointReservedSlot (item : PositionSlot × LiveStrategySession) :
    (repointReservedSlot settings d item).liveStrategySessions.get? k
      = (d.liveStrategySessions.get? k).map (fun s =>
          if item.1.liveStrategySessionId = some k
              ∧ ((s.status == .ready || s.status == .livePaused) && s.isIdle) then
            s.merge (stopSessionUpdates reservedSlotSessionPointerReason "REPLACED" settings.now)
          else s) := by
  unfold repointReservedSlot
  dsimp only
  rw [session_stopSessionIf]

@[simp] theorem repointReservedSlot_livePositions (item : PositionSlot × LiveStrategySession) :
    (repointReservedSlot settings d item).livePositions = d.livePositions := by
  unfold repointReservedSlot
  dsimp only
  rw [stopSessionIf_livePositions]

@[simp] theorem repointReservedSlot_orderReservations
    (item : PositionSlot × LiveStrategySession) :
    (repointReservedSlot settings d item).orderReservations = d.orderReservations := by
  unfold repointReservedSlot
  dsimp only
  rw [stopSessionIf_orderReservations]

end ItemRows

/-! ## What a repair does to a row -/

section RepairRows

variable (settings : ReconcilerSettings) (db : Database) (k : ℕ)

/-- **Stale**: a session that is stale gets its update. -/
theorem session_reconcileStale :
    (reconcileStaleLiveStrategySessions settings db).liveStrategySessions.get? k
      = (db.liveStrategySessions.get? k).map
          (fun s => if isStale db s then s.merge (staleUpdates settings db s) else s) := by
  unfold reconcileStaleLiveStrategySessions
  rw [get?_foldl Database.liveStrategySessions
    (fun d s => session_update d k s.id (staleUpdates settings db s))]
  cases hrow : db.liveStrategySessions.get? k with
  | none => rfl
  | some s =>
    have hmem : s ∈ db.liveStrategySessions.rows := Table.get?_some_mem hrow
    have hkey : s.id = k := Table.get?_some_rowId hrow
    -- the only item of the batch under the key is the row itself
    have hitem : ∀ x ∈ findStaleLiveStrategySessions db, x.id = k → x = s := by
      intro x hx hxk
      exact Table.eq_of_rowId_eq (Table.mem_select.mp hx).1 hmem (hxk.trans hkey.symm)
    have hunique := foldl_ite_unique (fun x : LiveStrategySession => k = x.id)
      (fun x r => r.merge (staleUpdates settings db x))
      (fun x hx hxk => hitem x hx hxk.symm) (fun r => LiveStrategySession.merge_merge r _) s
    refine congrArg some (hunique.trans (if_congr ?_ rfl rfl))
    constructor
    · rintro ⟨x, hx, hxk⟩
      rw [← hitem x hx hxk.symm]
      exact (Table.mem_select.mp hx).2
    · intro hstale
      exact ⟨s, Table.mem_select.mpr ⟨hmem, hstale⟩, hkey.symm⟩

/-- **Mismatched**: the slots that are listed are emptied. -/
theorem slot_reconcileMismatched :
    (reconcileMismatchedPositionSlotSessions settings db).positionSlots.get? k
      = (db.positionSlots.get? k).map (fun s =>
          if ∃ item ∈ findMismatchedPositionSlotSessions db, k = item.id then
            s.releasedMismatched settings.now else s) := by
  unfold reconcileMismatchedPositionSlotSessions
  exact get?_foldl_ite Database.positionSlots
    (fun d x => slot_releaseMismatchedSlot settings d k x) (fun _ => rfl) _ db

theorem reservation_reconcileMismatched :
    (reconcileMismatchedPositionSlotSessions settings db).orderReservations.get? k
      = (db.orderReservations.get? k).map (fun r =>
          if ∃ item ∈ findMismatchedPositionSlotSessions db, r.slotId = some item.id then
            r.closedAs .expired else r) := by
  unfold reconcileMismatchedPositionSlotSessions
  exact get?_foldl_ite Database.orderReservations
    (fun d x => reservation_releaseMismatchedSlot settings d k x)
    (fun r => OrderReservation.closedAs_closedAs .expired r) _ db

theorem session_reconcileMismatched :
    (reconcileMismatchedPositionSlotSessions settings db).liveStrategySessions.get? k
      = (db.liveStrategySessions.get? k).map (fun s =>
          if ∃ item ∈ findMismatchedPositionSlotSessions db,
              item.liveStrategySessionId = some k then
            s.merge (stopSessionUpdates mismatchedSlotReason "REPLACED" settings.now)
          else s) := by
  unfold reconcileMismatchedPositionSlotSessions
  exact get?_foldl_ite Database.liveStrategySessions
    (fun d x => session_releaseMismatchedSlot settings d k x)
    (fun s => LiveStrategySession.merge_merge s _) _ db

/-- **Releases**: the slots they name are emptied. -/
theorem slot_releaseAll (reason : String) (status : ReservationStatus) (rels : List SlotRelease) :
    (releaseAll settings db reason status rels).positionSlots.get? k
      = (db.positionSlots.get? k).map (fun s =>
          if ∃ rel ∈ rels, rel.slotId = some k then s.released reason settings.now else s) := by
  unfold releaseAll
  exact get?_foldl_ite Database.positionSlots
    (fun d rel => slot_releaseReservedSlot settings d k reason status rel)
    (fun _ => rfl) _ db

theorem reservation_releaseAll (reason : String) (status : ReservationStatus)
    (rels : List SlotRelease) :
    (releaseAll settings db reason status rels).orderReservations.get? k
      = (db.orderReservations.get? k).map (fun q =>
          if ∃ rel ∈ rels, rel.closes q = true then q.closedAs status else q) := by
  unfold releaseAll
  exact get?_foldl_ite Database.orderReservations
    (fun d rel => reservation_releaseReservedSlot settings d k reason status rel)
    (fun q => OrderReservation.closedAs_closedAs status q) _ db

theorem session_releaseAll (reason : String) (status : ReservationStatus)
    (rels : List SlotRelease) :
    (releaseAll settings db reason status rels).liveStrategySessions.get? k
      = (db.liveStrategySessions.get? k).map (fun s =>
          if ∃ rel ∈ rels, rel.sessionId = some k ∧ s.isIdle then
            s.merge (stopSessionUpdates reason status.text settings.now)
          else s) := by
  unfold releaseAll
  exact get?_foldl_ite Database.liveStrategySessions
    (fun d rel => session_releaseReservedSlot settings d k reason status rel)
    (fun s => LiveStrategySession.merge_merge s _) _ db

@[simp] theorem releaseAll_livePositions (reason : String) (status : ReservationStatus)
    (rels : List SlotRelease) :
    (releaseAll settings db reason status rels).livePositions = db.livePositions := by
  unfold releaseAll
  exact foldl_frame Database.livePositions (fun d x => by simp) _ db

@[simp] theorem releaseAll_liveOrderLogs (reason : String) (status : ReservationStatus)
    (rels : List SlotRelease) :
    (releaseAll settings db reason status rels).liveOrderLogs = db.liveOrderLogs := by
  unfold releaseAll
  refine foldl_frame Database.liveOrderLogs (fun d rel => ?_) _ db
  unfold releaseReservedSlot
  dsimp only
  rw [demoteCandidate_liveOrderLogs, stopSessionIf_liveOrderLogs]

/-- **Reserved pointer**: the waiting idle sessions slots are taken from are stopped. -/
theorem session_reconcileReservedSlotSessionPointer :
    (reconcileReservedSlotSessionPointer settings db).liveStrategySessions.get? k
      = (db.liveStrategySessions.get? k).map (fun s =>
          if ∃ item ∈ findReservedSlotSessionPointerMismatches db,
              item.1.liveStrategySessionId = some k
                ∧ ((s.status == .ready || s.status == .livePaused) && s.isIdle) then
            s.merge (stopSessionUpdates reservedSlotSessionPointerReason "REPLACED" settings.now)
          else s) := by
  unfold reconcileReservedSlotSessionPointer
  exact get?_foldl_ite Database.liveStrategySessions
    (fun d item => session_repointReservedSlot settings d k item)
    (fun s => LiveStrategySession.merge_merge s _) _ db

/-- **Duplicate**: the sessions that are listed are stopped and lose their pointers. -/
theorem session_reconcileDuplicate :
    (reconcileDuplicatePositionSessions settings db).liveStrategySessions.get? k
      = (db.liveStrategySessions.get? k).map (fun s =>
          if ∃ item ∈ findDuplicatePositionSessions db, k = item.id then
            s.merge (duplicateUpdates settings) else s) := by
  unfold reconcileDuplicatePositionSessions
  exact get?_foldl_ite Database.liveStrategySessions
    (fun d item => session_update d k item.id (duplicateUpdates settings))
    (fun s => LiveStrategySession.merge_merge s _) _ db

/-! What a repair leaves alone. -/

@[simp] theorem reconcileStale_positionSlots :
    (reconcileStaleLiveStrategySessions settings db).positionSlots = db.positionSlots := by
  unfold reconcileStaleLiveStrategySessions
  refine foldl_frame Database.positionSlots (fun d s => ?_) _ db
  rfl

@[simp] theorem reconcileStale_livePositions :
    (reconcileStaleLiveStrategySessions settings db).livePositions = db.livePositions := by
  unfold reconcileStaleLiveStrategySessions
  refine foldl_frame Database.livePositions (fun d s => ?_) _ db
  rfl

theorem reconcileOrphan_frame : ∃ candidates markets,
    reconcileOrphanLiveActiveCandidates settings db
      = { db with candidateStrategies := candidates, marketUniverse := markets } := by
  unfold reconcileOrphanLiveActiveCandidates
  refine foldl_invariant (P := fun d : Database => ∃ candidates markets,
    d = { db with candidateStrategies := candidates, marketUniverse := markets }) ?_
    ⟨db.candidateStrategies, db.marketUniverse, rfl⟩
  rintro d c - ⟨candidates, markets, hd⟩
  split
  · obtain ⟨candidates', markets', h⟩ :=
      promoteCandidateStrategy_frame d settings.allowedExchange c.id .liveEligible
    exact ⟨candidates', markets', by rw [h, hd]⟩
  · exact ⟨candidates, markets, hd⟩

@[simp] theorem reconcileOrphan_positionSlots :
    (reconcileOrphanLiveActiveCandidates settings db).positionSlots = db.positionSlots := by
  obtain ⟨candidates, markets, h⟩ := reconcileOrphan_frame settings db
  rw [h]

@[simp] theorem reconcileOrphan_livePositions :
    (reconcileOrphanLiveActiveCandidates settings db).livePositions = db.livePositions := by
  obtain ⟨candidates, markets, h⟩ := reconcileOrphan_frame settings db
  rw [h]

@[simp] theorem reconcileOrphan_liveStrategySessions :
    (reconcileOrphanLiveActiveCandidates settings db).liveStrategySessions
      = db.liveStrategySessions := by
  obtain ⟨candidates, markets, h⟩ := reconcileOrphan_frame settings db
  rw [h]

@[simp] theorem reconcileMismatched_livePositions :
    (reconcileMismatchedPositionSlotSessions settings db).livePositions = db.livePositions := by
  unfold reconcileMismatchedPositionSlotSessions
  exact foldl_frame Database.livePositions (fun d x => by simp) _ db

@[simp] theorem reconcileExpired_livePositions :
    (reconcileExpiredOrderReservations settings db).livePositions = db.livePositions := by
  unfold reconcileExpiredOrderReservations
  rw [releaseAll_livePositions]

@[simp] theorem reconcileReservedSlotSessionPointer_livePositions :
    (reconcileReservedSlotSessionPointer settings db).livePositions = db.livePositions := by
  unfold reconcileReservedSlotSessionPointer
  exact foldl_frame Database.livePositions (fun d x => by simp) _ db

@[simp] theorem reconcileEntryFill_livePositions :
    (reconcileEntryFillLifecycles settings db).livePositions = db.livePositions := by
  unfold reconcileEntryFillLifecycles
  exact foldl_frame Database.livePositions (fun d x => by simp) _ db

@[simp] theorem reconcileEntryFill_liveStrategySessions :
    (reconcileEntryFillLifecycles settings db).liveStrategySessions = db.liveStrategySessions := by
  unfold reconcileEntryFillLifecycles
  exact foldl_frame Database.liveStrategySessions (fun d x => by simp) _ db

@[simp] theorem reconcileDuplicate_livePositions :
    (reconcileDuplicatePositionSessions settings db).livePositions = db.livePositions := by
  unfold reconcileDuplicatePositionSessions
  refine foldl_frame Database.livePositions (fun d s => ?_) _ db
  rfl

end RepairRows

end AutoCoinBot
