/-
  ControlledAutoLive.PositionScope — which of the open positions
  app/controlled_auto_live.py takes for those of a protected session.

  A position is one of the session's when a query over the order logs finds an order for it, or
  when the session's strategy has opened it.
-/
import AutoCoinBot.Database.Values

namespace AutoCoinBot

/-! ## Rows -/

/-- A row of `live_positions`, as far as its classification reads it. -/
structure ScopedPosition where
  id : ℕ
  exchange : String := "bithumb"
  market : String
  status : String
  strategyName : String := ""
  openedAt : Option String := none
  createdAt : Option String := none
  entryOrderUuid : Option String := none
  sessionId : ℕ := 0
  candidateStrategyId : ℕ := 0

/-- A row of `live_order_logs`, as far as the marker reads it. -/
structure ScopedOrder where
  requestId : String
  exchange : String := "bithumb"
  market : String
  orderPurpose : String
  orderUuid : Option String := none
  positionId : Option ℕ := none

/-- A protected session: its id, and when it started. -/
structure ProtectedSession where
  protectedSessionId : String
  startedAt : String

/-- SQL `LIKE`, on characters: `%` stands for any text, `_` for any character, and ASCII letters
match in either case. -/
def likeMatch : List Char → List Char → Bool
  | [], text => text.isEmpty
  | p :: pattern, text =>
    if p = '%' then text.tails.any (likeMatch pattern)
    else
      match text with
      | [] => false
      | c :: text => (p == '_' || p.toLower == c.toLower) && likeMatch pattern text

/-- `text.replace("+00:00", "Z")`, on characters. -/
def replaceUtcOffset : List Char → List Char
  | '+' :: '0' :: '0' :: ':' :: '0' :: '0' :: text => 'Z' :: replaceUtcOffset text
  | c :: text => c :: replaceUtcOffset text
  | [] => []

def normalizeUtcText (value : Option String) : String :=
  String.ofList
    (replaceUtcOffset ((toText value).toList.map (fun c => if c = ' ' then 'T' else c)))

/-! ## The marker -/

/-- `CONTROLLED_ENTRY_V3_POSITION_RUN` and `PROTECTED_FULL_AUTO_LIVE_V1`. -/
def positionRunPurposes : List String :=
  ["CONTROLLED_ENTRY_V3_POSITION_RUN", "PROTECTED_FULL_AUTO_LIVE_V1"]

/-- `request_id LIKE ?` with the session's id. -/
def ScopedOrder.isOf (session : ProtectedSession) (log : ScopedOrder) : Bool :=
  likeMatch (session.protectedSessionId.toList ++ ['%']) log.requestId.toList

/-- `order_uuid = ?`; a position without one asks for the empty text. -/
def ScopedOrder.hasEntryUuid (position : ScopedPosition) (log : ScopedOrder) : Bool :=
  log.orderUuid == some (toText position.entryOrderUuid)

/-- `position_id = ?`. -/
def ScopedOrder.hasPositionId (position : ScopedPosition) (log : ScopedOrder) : Bool :=
  log.positionId == some position.id

def ScopedOrder.standsBeside (position : ScopedPosition) (log : ScopedOrder) : Bool :=
  log.exchange == position.exchange && log.market == position.market
    && positionRunPurposes.contains log.orderPurpose

def protectedPositionSessionMarker (logs : List ScopedOrder) (position : ScopedPosition)
    (session : ProtectedSession) : Bool :=
  logs.any (fun log => log.standsBeside position
    && (log.isOf session || log.hasEntryUuid position || log.hasPositionId position))

/-! ## The classification -/

/-- `POSITION_CLASSIFICATIONS`. -/
inductive PositionClassification where
  | protectedAutoPosition
  | legacyHolding
  | legacyExitOnly
  | manualOrExternal
  | unknown
  deriving DecidableEq

def protectedAllowedMarkets : List String := ["KRW-BTC", "KRW-ETH"]

def knownLegacyHoldingMarkets : List String := ["KRW-RE", "KRW-STRAX", "KRW-ID", "KRW-XLM"]

def maxOpenPositions : ℕ := 1

def controlledEntryV3Strategy : String := "controlled_entry_v3"

/-- `opened_at`, or else `created_at`. -/
def ScopedPosition.opened (position : ScopedPosition) : String :=
  normalizeUtcText (some (orText (toText position.openedAt) (toText position.createdAt)))

/-- Opened by the strategy of the session, since it started; the times are compared as texts. -/
def ScopedPosition.openedBy (session : ProtectedSession) (position : ScopedPosition) : Bool :=
  let started := normalizeUtcText (some session.startedAt)
  started != "" && decide (started ≤ position.opened)
    && position.strategyName.toLower == controlledEntryV3Strategy

def ScopedPosition.openedBefore (session : ProtectedSession) (position : ScopedPosition) : Bool :=
  let started := normalizeUtcText (some session.startedAt)
  started != "" && decide (position.opened < started)

def ScopedPosition.isAllowed (position : ScopedPosition) : Bool :=
  protectedAllowedMarkets.contains position.market

/-- The classification of what is no position of the session. -/
def classifyOther (session : Option ProtectedSession) (position : ScopedPosition) :
    PositionClassification :=
  if ["EXIT_CANDIDATE", "EXIT_PENDING", "CLOSING", "MANUAL_REVIEW_REQUIRED"].contains
      position.status.toUpper then .legacyExitOnly
  else if knownLegacyHoldingMarkets.contains position.market then .legacyHolding
  else if position.isAllowed && session.isNone then .legacyHolding
  else if position.isAllowed && session.any position.openedBefore then .legacyHolding
  else if (toText position.entryOrderUuid).toUpper == "IMPORTED_EXCHANGE_BALANCE" then
    .manualOrExternal
  else if position.sessionId == 0 || position.candidateStrategyId == 0 then .manualOrExternal
  else .unknown

def classifyLivePositionForProtectedAuto (logs : List ScopedOrder)
    (session : Option ProtectedSession) (position : ScopedPosition) : PositionClassification :=
  if position.isAllowed && session.any (fun session =>
      protectedPositionSessionMarker logs position session || position.openedBy session) then
    .protectedAutoPosition
  else classifyOther session position

/-- `protected_open_position_count` of `protected_position_scope_status`. -/
def protectedOpenPositionCount (logs : List ScopedOrder) (positions : List ScopedPosition)
    (session : Option ProtectedSession) : ℕ :=
  positions.countP (fun position =>
    classifyLivePositionForProtectedAuto logs session position == .protectedAutoPosition)

theorem classifyOther_ne_protected (session : Option ProtectedSession) (position : ScopedPosition) :
    classifyOther session position ≠ .protectedAutoPosition := by
  unfold classifyOther
  split_ifs <;> decide

theorem classify_protected_iff {logs : List ScopedOrder} {session : ProtectedSession}
    {position : ScopedPosition} :
    classifyLivePositionForProtectedAuto logs (some session) position = .protectedAutoPosition
      ↔ position.isAllowed = true
        ∧ (protectedPositionSessionMarker logs position session = true
          ∨ position.openedBy session = true) := by
  unfold classifyLivePositionForProtectedAuto
  simp only [Option.any_some, Bool.and_eq_true, Bool.or_eq_true]
  split_ifs with hprotected
  · exact ⟨fun _ => hprotected, fun _ => rfl⟩
  · constructor
    · intro h
      exact absurd h (classifyOther_ne_protected _ _)
    · intro h
      exact absurd h hprotected

theorem classifyOther_openedBefore {session : ProtectedSession} {position : ScopedPosition}
    (hallowed : position.isAllowed = true) (hbefore : position.openedBefore session = true) :
    classifyOther (some session) position = .legacyHolding
      ∨ classifyOther (some session) position = .legacyExitOnly := by
  unfold classifyOther
  split_ifs with hstatus hknown hnone hearlier
  · exact .inr rfl
  · exact .inl rfl
  · exact .inl rfl
  · exact .inl rfl
  all_goals simp [hallowed, hbefore] at hearlier

/-! ## Its own positions -/

/-- An order of the session that is linked to the position. -/
def ScopedOrder.links (session : ProtectedSession) (position : ScopedPosition) (log : ScopedOrder) :
    Bool :=
  log.isOf session
    && (log.hasPositionId position
      || (toText position.entryOrderUuid != "" && log.hasEntryUuid position))

/-- The session has traded it, or its strategy has opened it since the session started. -/
def ScopedPosition.IsOwn (logs : List ScopedOrder) (session : ProtectedSession)
    (position : ScopedPosition) : Prop :=
  (∃ log ∈ logs, log.links session position = true) ∨ position.openedBy session = true

instance (logs : List ScopedOrder) (session : ProtectedSession) (position : ScopedPosition) :
    Decidable (position.IsOwn logs session) :=
  inferInstanceAs (Decidable ((∃ log ∈ logs, log.links session position = true) ∨ _))

/-- **Only its own positions count as protected**, and an earlier holding keeps its
classification. -/
structure OwnPositions (logs : List ScopedOrder) (session : ProtectedSession)
    (position : ScopedPosition) : Prop where
  own : classifyLivePositionForProtectedAuto logs (some session) position = .protectedAutoPosition →
    position.isAllowed = true ∧ position.IsOwn logs session
  earlier : position.isAllowed = true → position.openedBefore session = true →
    ¬ position.IsOwn logs session →
    classifyLivePositionForProtectedAuto logs (some session) position = .legacyHolding
      ∨ classifyLivePositionForProtectedAuto logs (some session) position = .legacyExitOnly

/-- No order of a position run that stands in the market of a position is one of the session's,
has the same order uuid, an empty one too, or its position id. -/
def NoneBeside (logs : List ScopedOrder) (session : ProtectedSession) (position : ScopedPosition) :
    Prop :=
  ∀ log ∈ logs, log.standsBeside position = true →
    log.isOf session = false ∧ log.hasEntryUuid position = false
      ∧ log.hasPositionId position = false

theorem marker_eq_false_iff {logs : List ScopedOrder} {session : ProtectedSession}
    {position : ScopedPosition} :
    protectedPositionSessionMarker logs position session = false
      ↔ NoneBeside logs session position := by
  unfold protectedPositionSessionMarker NoneBeside
  rw [List.any_eq_false]
  refine forall₂_congr (fun log _ => ?_)
  cases hbeside : log.standsBeside position <;> simp [and_assoc]

/-- **Only its own positions count**, exactly where no position run's order stands beside a
holding of its markets that is not its own. -/
theorem ownPositions_iff (logs : List ScopedOrder) (positions : List ScopedPosition)
    (session : ProtectedSession) :
    (∀ position ∈ positions, OwnPositions logs session position)
      ↔ ∀ position ∈ positions, position.isAllowed = true → ¬ position.IsOwn logs session →
          NoneBeside logs session position := by
  refine forall₂_congr (fun position _ => ?_)
  constructor
  · intro hown hallowed hforeign
    rw [← marker_eq_false_iff, Bool.eq_false_iff]
    intro hmarker
    exact hforeign (hown.own (classify_protected_iff.mpr ⟨hallowed, .inl hmarker⟩)).2
  · intro hnone
    -- what is not its own has no marker
    have hforeign : position.isAllowed = true → ¬ position.IsOwn logs session →
        protectedPositionSessionMarker logs position session = false :=
      fun hallowed hother => marker_eq_false_iff.mpr (hnone hallowed hother)
    refine ⟨?_, ?_⟩
    · intro hclass
      obtain ⟨hallowed, hmarked⟩ := classify_protected_iff.mp hclass
      refine ⟨hallowed, ?_⟩
      by_contra hother
      rcases hmarked with hmarker | hopened
      · rw [hforeign hallowed hother] at hmarker
        cases hmarker
      · exact hother (.inr hopened)
    · intro hallowed hbefore hother
      have hopened : position.openedBy session = false :=
        Bool.eq_false_iff.mpr (fun h => hother (.inr h))
      have hclass : classifyLivePositionForProtectedAuto logs (some session) position
          = classifyOther (some session) position :=
        if_neg (by simp [hforeign hallowed hother, hopened])
      rw [hclass]
      exact classifyOther_openedBefore hallowed hbefore

def exampleEarlierHolding : ScopedPosition :=
  { id := 4, market := "KRW-BTC", status := "OPEN", strategyName := "ma_cross"
    openedAt := some "2026-07-01T00:00:00Z", entryOrderUuid := some "uuid-old"
    sessionId := 1, candidateStrategyId := 1 }

/-- An order of the session in its market, which neither an uuid nor a position id links to it. -/
def exampleOrderBeside : ScopedOrder :=
  { requestId := "posloop-20260702T000000-0a1b2c-trade-1-buy-1", market := "KRW-BTC"
    orderPurpose := "CONTROLLED_ENTRY_V3_POSITION_RUN", orderUuid := some "uuid-new" }

/-- **The holding counts** as one of the session's. -/
theorem earlierHolding_counts : ¬ ∀ (logs : List ScopedOrder) (positions : List ScopedPosition)
    (session : ProtectedSession), ∀ position ∈ positions, OwnPositions logs session position := by
  intro h
  have hown := (h [exampleOrderBeside] [exampleEarlierHolding]
    ⟨"posloop-20260702T000000-0a1b2c", "2026-07-02T00:00:00Z"⟩ exampleEarlierHolding
    (List.mem_singleton_self _)).own (by decide +kernel)
  exact absurd hown (by decide +kernel)

end AutoCoinBot
