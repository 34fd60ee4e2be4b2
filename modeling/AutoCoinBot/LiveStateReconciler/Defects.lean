/-
  LiveStateReconciler.Defects — the defects the live-state reconciler looks for.

  Every repair has a probe that lists what it will work on, and says of each item whether it is safe
  to repair.

  The order in which a probe lists its items is kept where a repair depends on it.
-/
import AutoCoinBot.Database.Candidates
import AutoCoinBot.Database.LiveOrderLogs
import AutoCoinBot.Database.PositionSlots

namespace AutoCoinBot

open Library

/-! ## Settings -/

/-- The clock of a call, and the environment it reads; the number of ticks is kept between
one and twenty. -/
structure ReconcilerSettings where
  now : UtcTime := 0
  allowedExchange : String := "bithumb"
  maxBlockedTicks : ℕ := 2
  releaseEnabled : Bool := true
  one_le_ticks : 1 ≤ maxBlockedTicks := by decide
  ticks_le : maxBlockedTicks ≤ 20 := by decide

def staleReason : String := "STALE_SESSION_POSITION_POINTER_RECONCILED"
def mismatchedSlotReason : String := "MISMATCHED_SLOT_SESSION_RECONCILED"
def expiredReservationReason : String := "EXPIRED_ORDER_RESERVATION_RECONCILED"
def reservedSlotSessionPointerReason : String := "RESERVED_SLOT_SESSION_POINTER_RECONCILED"
def reservedEntryBlockReason : String := "RESERVED_ENTRY_BLOCK_RECONCILED"
def duplicatePositionSessionReason : String := "DUPLICATE_POSITION_SESSION_RECONCILED"

def reservedEntryReleaseBlockers : List String :=
  ["PROFIT_ENGINE_BLOCKED_TREND_DOWN", "SMART_AGGRESSIVE_TREND_DOWN_BLOCKED",
    "SMART_MIN_REBALANCE_DELTA", "BLOCKED_EXPECTED_EDGE_BELOW_COST"]

/-- `ACTIVE_SESSION_STATUSES`. -/
def SessionStatus.isActive : SessionStatus → Bool
  | .ready | .running => true
  | _ => false

/-- `STALE_POINTER_SESSION_STATUSES`, `DUPLICATE_POSITION_SESSION_STATUSES`. -/
def SessionStatus.isPointing : SessionStatus → Bool
  | .ready | .running | .livePaused => true
  | _ => false

/-! ## Stale position pointers -/

section Probes

variable (db : Database)

/-- `ORDER BY updated_at DESC, id DESC`. -/
def LivePosition.latestUpdated (p q : LivePosition) : Prop :=
  q.updatedAt < p.updatedAt ∨ (q.updatedAt = p.updatedAt ∧ q.id ≤ p.id)

instance : DecidableRel LivePosition.latestUpdated := fun p q =>
  inferInstanceAs (Decidable (q.updatedAt < p.updatedAt ∨ (q.updatedAt = p.updatedAt ∧ q.id ≤ p.id)))

/-- `_replacement_open_position`: one of the session, else one of its candidate. -/
def replacementOpenPosition (s : LiveStrategySession) : Option LivePosition :=
  let exchange := orText s.exchange "bithumb"
  let first (match' : LivePosition → Bool) : Option LivePosition :=
    ((db.livePositions.select (fun p => p.exchange == exchange && p.market == s.market
      && p.status.isActive && match' p)).insertionSort LivePosition.latestUpdated).head?
  (first (fun p => p.sessionId == s.id)).or
    (first (fun p => p.candidateStrategyId == s.candidateStrategyId))

/-- The position a session points to is active. -/
def pointsToActive (s : LiveStrategySession) : Bool :=
  s.currentPositionId.any (fun id => (loadLivePosition db id).any (fun p => p.status.isActive))

/-- A session whose position pointer leads nowhere. -/
def isStale (s : LiveStrategySession) : Bool :=
  s.status.isPointing && s.currentPositionId.isSome && !pointsToActive db s

def findStaleLiveStrategySessions : List LiveStrategySession :=
  db.liveStrategySessions.select (isStale db)

/-- A stale session is stopped unless a position or an open order is left to it. -/
def stopsStale (s : LiveStrategySession) : Bool :=
  -- the uuid is stripped first, so one made of blanks is no order
  (replacementOpenPosition db s).isNone && blankText s.currentOpenOrderUuid

/-! ## Orphaned candidates -/

/-- What ties a candidate to the execution. -/
structure CandidateLinks where
  hadSlot : Bool
  hadReservation : Bool
  hadOpenPosition : Bool
  hadRunningSession : Bool
  hadActiveSelection : Bool

/-- `_orphan_candidate_state`. -/
def candidateLinks (candidateId : ℕ) (now : UtcTime) : CandidateLinks :=
  { hadSlot := db.positionSlots.rows.any (fun s =>
      s.candidateStrategyId == some candidateId && s.status.isActive)
    -- expires_at alone: expires_at_utc is not read here
    hadReservation := db.orderReservations.rows.any (fun r =>
      r.candidateStrategyId == candidateId && r.status.isActive
        && r.expiresAt.all (fun expiry => now < expiry))
    hadOpenPosition := db.livePositions.rows.any (fun p =>
      p.candidateStrategyId == candidateId && p.status.isActive)
    hadRunningSession := db.liveStrategySessions.rows.any (fun s =>
      s.candidateStrategyId == candidateId && s.status.isActive)
    hadActiveSelection := db.activeStrategySelection.rows.any (fun a =>
      a.candidateStrategyId == candidateId && a.status == .liveActive) }

def CandidateLinks.isOrphan (links : CandidateLinks) : Bool :=
  !(links.hadSlot || links.hadReservation || links.hadOpenPosition || links.hadRunningSession
    || links.hadActiveSelection)

/-! ## Slots of another session -/

def slotSession (slot : PositionSlot) : Option LiveStrategySession :=
  slot.liveStrategySessionId.bind (loadLiveStrategySession db)

/-- A slot and a session that name different markets or candidates. -/
def PositionSlot.differsFrom (slot : PositionSlot) (s : LiveStrategySession) : Bool :=
  toText slot.market != s.market || slot.candidateStrategyId.getD 0 != s.candidateStrategyId

/-- A slot that names no session there is, or one of another market or candidate. -/
def slotMismatched (slot : PositionSlot) : Bool :=
  -- LEFT JOIN: a slot whose session is not there is listed too
  slot.liveStrategySessionId.isSome && slot.status.isActive
    && (slotSession db slot).all (fun s => slot.differsFrom s)

/-- A reserved slot without a position and without an entry order. -/
def PositionSlot.isFree (slot : PositionSlot) : Bool :=
  slot.status == .reserved && !idGiven slot.livePositionId && !textGiven slot.entryOrderUuid

/-- `ORDER BY slot_number ASC, id ASC`. -/
def PositionSlot.numberedBefore (s t : PositionSlot) : Prop :=
  s.slotNumber < t.slotNumber ∨ (s.slotNumber = t.slotNumber ∧ s.id ≤ t.id)

instance : DecidableRel PositionSlot.numberedBefore := fun s t =>
  inferInstanceAs (Decidable (s.slotNumber < t.slotNumber
    ∨ (s.slotNumber = t.slotNumber ∧ s.id ≤ t.id)))

def slotsByNumber (p : PositionSlot → Bool) : List PositionSlot :=
  (db.positionSlots.select p).insertionSort PositionSlot.numberedBefore

/-- The items of `find_mismatched_position_slot_sessions` that are safe to release. -/
def findMismatchedPositionSlotSessions : List PositionSlot :=
  (slotsByNumber db (slotMismatched db)).filter PositionSlot.isFree

theorem PositionSlot.isFree_iff {slot : PositionSlot} : slot.isFree = true
    ↔ slot.status = .reserved ∧ idGiven slot.livePositionId = false
      ∧ textGiven slot.entryOrderUuid = false := by
  unfold PositionSlot.isFree
  rw [Bool.and_eq_true, Bool.and_eq_true, beq_iff_eq, Bool.not_eq_true', Bool.not_eq_true',
    and_assoc]

theorem mem_findMismatched_iff {slot : PositionSlot} :
    slot ∈ findMismatchedPositionSlotSessions db
      ↔ slot ∈ db.positionSlots.rows ∧ slot.isFree = true
        ∧ slot.liveStrategySessionId.isSome = true
        ∧ (slotSession db slot).all (fun s => slot.differsFrom s) = true := by
  unfold findMismatchedPositionSlotSessions slotsByNumber slotMismatched
  rw [List.mem_filter, List.mem_insertionSort, Table.mem_select]
  simp only [Bool.and_eq_true]
  constructor
  · rintro ⟨⟨hslot, ⟨hnames, -⟩, hdiffers⟩, hfree⟩
    exact ⟨hslot, hfree, hnames, hdiffers⟩
  · rintro ⟨hslot, hfree, hnames, hdiffers⟩
    have hactive : slot.status.isActive = true := by
      rw [(PositionSlot.isFree_iff.mp hfree).1]
      rfl
    exact ⟨⟨hslot, ⟨hnames, hactive⟩, hdiffers⟩, hfree⟩

/-! ## Expired reservations -/

def reservationSlot (r : OrderReservation) : Option PositionSlot :=
  r.slotId.bind db.positionSlots.get?

/-- A session without an open order and without a position. -/
def LiveStrategySession.isIdle (s : LiveStrategySession) : Bool :=
  !textGiven s.currentOpenOrderUuid && !idGiven s.currentPositionId

/-- `safe_to_release` of a reservation: its slot, if it has one, is free, and so is the
session of the slot. -/
def reservationSafe (r : OrderReservation) : Bool :=
  -- LEFT JOIN: without a slot there is nothing that could be in the way
  (reservationSlot db r).all (fun slot =>
    slot.isFree && (slotSession db slot).all LiveStrategySession.isIdle)

/-- `expires_at <= now_utc`. -/
def OrderReservation.isExpired (r : OrderReservation) (now : UtcTime) : Bool :=
  r.expiresAt.any (fun expiry => expiry ≤ now)

/-- `ORDER BY expires_at ASC, id ASC`. -/
def OrderReservation.expiresBefore (r q : OrderReservation) : Prop :=
  r.expiresAt.getD 0 < q.expiresAt.getD 0
    ∨ (r.expiresAt.getD 0 = q.expiresAt.getD 0 ∧ r.id ≤ q.id)

instance : DecidableRel OrderReservation.expiresBefore := fun r q =>
  inferInstanceAs (Decidable (r.expiresAt.getD 0 < q.expiresAt.getD 0
    ∨ (r.expiresAt.getD 0 = q.expiresAt.getD 0 ∧ r.id ≤ q.id)))

/-- The items of `find_expired_order_reservations` that are safe to release. -/
def findExpiredOrderReservations (now : UtcTime) : List OrderReservation :=
  ((db.orderReservations.select (fun r => r.status.isActive && r.isExpired now)).insertionSort
    OrderReservation.expiresBefore).filter (reservationSafe db)

/-! ## Session pointers of reserved slots -/

/-- `ORDER BY CASE status WHEN 'RUNNING' THEN 0 ELSE 1 END, updated_at DESC, id DESC`. -/
def LiveStrategySession.runsBefore (s t : LiveStrategySession) : Prop :=
  (s.status = .running ∧ t.status ≠ .running) ∨ ((s.status = .running ↔ t.status = .running)
    ∧ (t.updatedAt < s.updatedAt ∨ (t.updatedAt = s.updatedAt ∧ t.id ≤ s.id)))

instance : DecidableRel LiveStrategySession.runsBefore := fun s t =>
  inferInstanceAs (Decidable ((s.status = .running ∧ t.status ≠ .running)
    ∨ ((s.status = .running ↔ t.status = .running)
      ∧ (t.updatedAt < s.updatedAt ∨ (t.updatedAt = s.updatedAt ∧ t.id ≤ s.id)))))

def activeSessionForReservedSlot (slot : PositionSlot) : Option LiveStrategySession :=
  -- IS NULL twice: an empty uuid or a zero id rules a session out
  ((db.liveStrategySessions.select (fun s => s.exchange == orText slot.exchange "bithumb"
      && s.market == toText slot.market && s.candidateStrategyId == slot.candidateStrategyId.getD 0
      && s.status.isActive && s.autoEnabled && s.currentOpenOrderUuid == none
      && s.currentPositionId == none)).insertionSort LiveStrategySession.runsBefore).head?

/-- `current_ok`. -/
def currentSessionOk (slot : PositionSlot) : Bool :=
  idGiven slot.liveStrategySessionId
    && (slotSession db slot).any (fun s => s.status.isActive && !slot.differsFrom s)

/-- The session that takes a reserved slot over. -/
def replacementSession (slot : PositionSlot) : Option LiveStrategySession :=
  (activeSessionForReservedSlot db slot).filter
    (fun s => s.id != slot.liveStrategySessionId.getD 0)

/-- The items of `find_reserved_slot_session_pointer_mismatches` that are safe to update,
each with its new session. -/
def findReservedSlotSessionPointerMismatches : List (PositionSlot × LiveStrategySession) :=
  (slotsByNumber db (fun s => s.status == .reserved && s.candidateStrategyId.isSome)).filterMap
    (fun slot =>
      -- a slot keeps its session while that one runs for it
      if currentSessionOk db slot = false ∧ slot.isFree then
        (replacementSession db slot).map (fun s => (slot, s))
      else none)

/-! ## Entries without their position -/

/-- `JOIN live_positions`: an active position of the slot's session, market and
candidate. -/
def PositionSlot.entryOf (slot : PositionSlot) (p : LivePosition) : Bool :=
  p.exchange == slot.exchange && some p.market == slot.market
    && some p.candidateStrategyId == slot.candidateStrategyId
    && some p.sessionId == slot.liveStrategySessionId && p.status.isActive

/-- The positions of `find_entry_fill_lifecycle_gaps`; a position is listed once for every
active reservation of its slot, and once if there is none. The join makes every item safe
to finalize. -/
def findEntryFillLifecycleGaps : List LivePosition :=
  (slotsByNumber db (fun s => (s.status == .reserved || s.status == .entering)
      && s.candidateStrategyId.isSome)).flatMap (fun slot =>
    (db.livePositions.select (fun p => slot.entryOf p)).flatMap (fun p =>
      List.replicate (max 1 (db.orderReservations.select (fun r =>
        r.slotId == some slot.id && r.status.isActive)).length) p))

/-! ## Sessions of another session's position -/

/-- The session points to an active position that another session owns. -/
def pointsToForeign (s : LiveStrategySession) : Bool :=
  s.currentPositionId.any (fun id => (loadLivePosition db id).any (fun p =>
    p.status.isActive && s.id != p.sessionId))

/-- The items of `find_duplicate_position_sessions` that are safe to stop. -/
def findDuplicatePositionSessions : List LiveStrategySession :=
  db.liveStrategySessions.select (fun s => s.status.isPointing && pointsToForeign db s
    && !textGiven s.currentOpenOrderUuid)

/-! ## Reserved entries that stay blocked -/

/-- The results of the latest blocked entries of a slot, newest first. -/
def blockerResults (settings : ReconcilerSettings) (slot : PositionSlot) : List String :=
  (((db.liveOrderLogs.select (fun l =>
      l.candidateStrategyId == some (slot.candidateStrategyId.getD 0)
        && l.market == toText slot.market && l.orderPurpose == .entry
        && l.status == .blocked)).insertionSort LiveOrderLog.newer).take
    settings.maxBlockedTicks).map LiveOrderLog.riskResult

/-- `repeated`. -/
def blockedRepeatedly (settings : ReconcilerSettings) (slot : PositionSlot) : Bool :=
  -- fewer logs than ticks are not enough, whatever they say
  settings.maxBlockedTicks ≤ (blockerResults db settings slot).length
    && (blockerResults db settings slot).all reservedEntryReleaseBlockers.contains

/-- The items of `find_reserved_entry_blocked_slots` that are safe to release. -/
def findReservedEntryBlockedSlots (settings : ReconcilerSettings) : List PositionSlot :=
  (slotsByNumber db (fun s => s.status == .reserved && s.candidateStrategyId.isSome)).filter
    (fun slot => blockedRepeatedly db settings slot && slot.isFree
      && (slotSession db slot).all LiveStrategySession.isIdle)

end Probes

end AutoCoinBot
