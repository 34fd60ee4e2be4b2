/-
  TradingDiagnostics.RiskDiagnostics — `_risk_diagnostics`.

  The detectors look at the order rows of the period, whatever became of them.
-/
import AutoCoinBot.AccountingEpoch.EpochTimes

namespace AutoCoinBot

/-! ## Rows -/

/-- A row of `live_order_logs`, with the columns the detectors read. -/
structure DiagnosticOrder where
  id : ℕ
  sessionId : Option ℕ := none
  candidateStrategyId : Option ℕ := none
  market : String := ""
  side : OrderSide := .buy
  status : OrderStatus
  orderUuid : Option String := none
  createdAt : Option String := none
  candleTimeUtc : Option String := none
  candleCloseAtUtc : Option String := none
  signalGeneratedAtUtc : Option String := none
  orderRequestedAtUtc : Option String := none

/-- A row of `live_strategy_sessions`. -/
structure DiagnosticSession where
  id : ℕ
  stoppedAt : Option String := none

/-- A row of `order_reservations`. -/
structure DiagnosticReservation where
  id : ℕ
  candidateStrategyId : ℕ
  status : ReservationStatus := .pending
  createdAt : Option String := none
  expiresAt : Option String := none

/-- A row of `live_positions` that is open. -/
structure OpenPositionRow where
  id : ℕ
  market : String

/-- `summary`, as far as the detectors and the gate read it. -/
structure DiagnosticsSummary where
  tradeCount : ℕ := 0
  totalBuyAmountKrw : ℚ := 0
  totalSellAmountKrw : ℚ := 0
  totalFeeKrw : ℚ := 0
  totalPnlKrw : ℚ := 0
  startingAssetKrw : ℚ := 300000

/-- The rows of a report's period and the settings it reads. -/
structure DiagnosticsHistory where
  orders : List DiagnosticOrder := []
  sessions : List DiagnosticSession := []
  reservations : List DiagnosticReservation := []
  /-- The rows of the two queries that count what an exchange order or a fill is booked under. -/
  duplicateOrderUuids : ℕ := 0
  duplicateFillEvents : ℕ := 0
  openPositions : List OpenPositionRow := []
  activeOrders : ℕ := 0
  summary : DiagnosticsSummary := {}
  maxTradeCount : ℤ := 0
  feePressureWarningRate : ℚ := 2 / 1000

/-! ## Times -/

/-- `_parse_utc`; a time without one in the calendar of UTC is read as none. -/
def readUtc (value : Option String) : Option ClockTime := (parseUtc (toText value)).join

/-- `a and b and a > b`. -/
def isAfter (a b : Option ClockTime) : Bool :=
  match a, b with
  | some a, some b => b.moment < a.moment
  | _, _ => false

def timestampIsNonUtc (raw : String) : Bool :=
  raw != "" && !("Z".toList.isSuffixOf raw.toList) && !("+00:00".toList.isSuffixOf raw.toList)

/-! ## Detectors -/

/-- `str(order.get("status")) in {"SUBMITTED", "WAITING", "FILLED"}`. -/
def OrderStatus.isExecution : OrderStatus → Bool
  | .submitted | .waiting | .filled => true
  | _ => false

/-- `_group_orders`: the groups in the order in which they come, with their key. -/
def groupOrders {κ : Type} [DecidableEq κ] (key : DiagnosticOrder → κ)
    (predicate : List DiagnosticOrder → Bool) (orders : List DiagnosticOrder) :
    List (κ × List DiagnosticOrder) :=
  (((orders.map key).reverse.dedup.reverse).map
    (fun k => (k, orders.filter (fun order => key order = k)))).filter
      (fun group => predicate group.2)

/-- The predicate of both groupings: more than one row, of a session and a candle. -/
def severalOfCandle (grouped : List DiagnosticOrder) : Bool :=
  1 < grouped.length
    && grouped.head?.any (fun order => order.sessionId.isSome && textGiven order.candleTimeUtc)

/-- `("session_id", "market", "side", "candle_time_utc")`. -/
def DiagnosticOrder.slotKey (order : DiagnosticOrder) :
    Option ℕ × String × OrderSide × Option String :=
  (order.sessionId, order.market, order.side, order.candleTimeUtc)

/-- `("session_id", "market", "candle_time_utc")`. -/
def DiagnosticOrder.candleKey (order : DiagnosticOrder) : Option ℕ × String × Option String :=
  (order.sessionId, order.market, order.candleTimeUtc)

/-- `duplicate_session_orders`: rows of every status are grouped. -/
def duplicateSessionOrders (orders : List DiagnosticOrder) :
    List ((Option ℕ × String × OrderSide × Option String) × List DiagnosticOrder) :=
  groupOrders DiagnosticOrder.slotKey severalOfCandle orders

def duplicateCandleExecutions (orders : List DiagnosticOrder) :
    List ((Option ℕ × String × Option String) × List DiagnosticOrder) :=
  groupOrders DiagnosticOrder.candleKey severalOfCandle
    (orders.filter (fun order => order.status.isExecution))

def stoppedSessionTrades (sessions : List DiagnosticSession) (orders : List DiagnosticOrder) :
    List DiagnosticOrder :=
  orders.filter (fun order =>
    let session := sessions.reverse.find? (fun s => s.id = order.sessionId.getD 0)
    order.status.isExecution
      && isAfter (readUtc order.createdAt) (session.bind (fun s => readUtc s.stoppedAt)))

/-- `expired_reservation_executions`: the first reservation of the candidate, of whatever time and
status, that the order came after the expiry of. -/
def expiredReservationExecutions (reservations : List DiagnosticReservation)
    (orders : List DiagnosticOrder) : List (DiagnosticOrder × ℕ) :=
  orders.filterMap (fun order =>
    if order.status.isExecution then
      ((reservations.filter
          (fun r => r.candidateStrategyId = order.candidateStrategyId.getD 0)).find?
        (fun r => isAfter (readUtc order.createdAt) (readUtc r.expiresAt))).map
          (fun r => (order, r.id))
    else none)

/-- `incomplete_candle_usage`: the order came within the minute of its candle. -/
def incompleteCandleUsage (orders : List DiagnosticOrder) : List DiagnosticOrder :=
  orders.filter (fun order =>
    order.status.isExecution
      -- the candle's time a minute later
      && isAfter ((readUtc order.candleTimeUtc).bind (fun candle => candle.toUtc (-1)))
          (readUtc order.createdAt))

def timestampMismatches (orders : List DiagnosticOrder) : List DiagnosticOrder :=
  orders.filter (fun order =>
    [orText (toText order.candleCloseAtUtc) (toText order.candleTimeUtc),
      toText order.signalGeneratedAtUtc, toText order.orderRequestedAtUtc].any timestampIsNonUtc)

/-- `duplicate_symbols`. -/
def duplicateOpenSymbols (positions : List OpenPositionRow) : List (String × List ℕ) :=
  (((positions.map OpenPositionRow.market).reverse.dedup.reverse).map
    (fun market => (market, (positions.filter (fun p => p.market = market)).map
      OpenPositionRow.id))).filter (fun group => 1 < group.2.length)

/-- What `_risk_diagnostics` returns; the counts are the lengths of the lists. -/
structure RiskDiagnostics where
  duplicateOpenSymbols : List (String × List ℕ)
  duplicateSessionOrders :
    List ((Option ℕ × String × OrderSide × Option String) × List DiagnosticOrder)
  stoppedSessionTrades : List DiagnosticOrder
  expiredReservationExecutions : List (DiagnosticOrder × ℕ)
  duplicateCandleExecutions : List ((Option ℕ × String × Option String) × List DiagnosticOrder)
  incompleteCandleUsage : List DiagnosticOrder
  timestampMismatches : List DiagnosticOrder
  duplicateOrderUuid : ℕ
  duplicateFillEvents : ℕ
  activeOpenOrderCount : ℕ
  openPositionCount : ℕ
  overtradeLimit : ℤ
  overtradeTradeCount : ℕ
  overtradeBreached : Bool
  feeToTurnover : ℚ
  feePressureWarning : Bool

def riskDiagnostics (h : DiagnosticsHistory) : RiskDiagnostics :=
  let feeTurnover := h.summary.totalBuyAmountKrw + h.summary.totalSellAmountKrw
  let feeRate := if 0 < feeTurnover then h.summary.totalFeeKrw / feeTurnover else 0
  { duplicateOpenSymbols := AutoCoinBot.duplicateOpenSymbols h.openPositions
    duplicateSessionOrders := AutoCoinBot.duplicateSessionOrders h.orders
    stoppedSessionTrades := AutoCoinBot.stoppedSessionTrades h.sessions h.orders
    expiredReservationExecutions :=
      AutoCoinBot.expiredReservationExecutions h.reservations h.orders
    duplicateCandleExecutions := AutoCoinBot.duplicateCandleExecutions h.orders
    incompleteCandleUsage := AutoCoinBot.incompleteCandleUsage h.orders
    timestampMismatches := AutoCoinBot.timestampMismatches h.orders
    duplicateOrderUuid := h.duplicateOrderUuids
    duplicateFillEvents := h.duplicateFillEvents
    activeOpenOrderCount := h.activeOrders
    openPositionCount := h.openPositions.length
    overtradeLimit := h.maxTradeCount
    overtradeTradeCount := h.summary.tradeCount
    overtradeBreached := 0 < h.maxTradeCount ∧ h.maxTradeCount ≤ h.summary.tradeCount
    feeToTurnover := feeRate
    feePressureWarning := h.feePressureWarningRate ≤ feeRate }

/-! ## What two of them report -/

section Detectors

variable {κ : Type} [DecidableEq κ] {key : DiagnosticOrder → κ}
  {predicate : List DiagnosticOrder → Bool} {orders : List DiagnosticOrder}

theorem mem_groupOrders_iff {k : κ} {group : List DiagnosticOrder} :
    (k, group) ∈ groupOrders key predicate orders
      ↔ (∃ order ∈ orders, key order = k) ∧ group = orders.filter (fun order => key order = k)
        ∧ predicate group = true := by
  unfold groupOrders
  rw [List.mem_filter, List.mem_map]
  constructor
  · rintro ⟨⟨k', hk', heq⟩, hpredicate⟩
    obtain ⟨rfl, rfl⟩ := Prod.mk.inj heq
    rw [List.mem_reverse, List.mem_dedup, List.mem_reverse] at hk'
    exact ⟨List.mem_map.mp hk', rfl, hpredicate⟩
  · rintro ⟨hk, rfl, hpredicate⟩
    refine ⟨⟨k, ?_, rfl⟩, hpredicate⟩
    rw [List.mem_reverse, List.mem_dedup, List.mem_reverse]
    exact List.mem_map.mpr hk

/-- Two rows of one session, market, side and candle. -/
def SharesSlot (a b : DiagnosticOrder) : Prop :=
  a.slotKey = b.slotKey ∧ a.sessionId.isSome = true ∧ textGiven a.candleTimeUtc = true

theorem one_lt_length_filter_iff {α : Type*} {l : List α} {p : α → Bool} :
    1 < (l.filter p).length ↔ ∃ a b, [a, b].Sublist l ∧ p a = true ∧ p b = true := by
  constructor
  · intro hlength
    match hkept : l.filter p with
    | [] => simp [hkept] at hlength
    | [_] => simp [hkept] at hlength
    | a :: b :: rest =>
      have ha : a ∈ l.filter p := by simp [hkept]
      have hb : b ∈ l.filter p := by simp [hkept]
      have hsub : [a, b].Sublist (l.filter p) := by
        rw [hkept]
        exact .cons_cons a (.cons_cons b (List.nil_sublist rest))
      exact ⟨a, b, hsub.trans List.filter_sublist, (List.mem_filter.mp ha).2,
        (List.mem_filter.mp hb).2⟩
  · rintro ⟨a, b, hsub, ha, hb⟩
    have hkept := (hsub.filter p).length_le
    simp only [List.filter_cons_of_pos ha, List.filter_cons_of_pos hb, List.filter_nil] at hkept
    exact hkept

theorem duplicateSessionOrders_ne_nil_iff :
    duplicateSessionOrders orders ≠ [] ↔ ∃ a b, [a, b].Sublist orders ∧ SharesSlot a b := by
  constructor
  · intro hne
    obtain ⟨⟨k, group⟩, hmem⟩ := List.exists_mem_of_ne_nil _ hne
    obtain ⟨-, hgroup, hseveral⟩ := mem_groupOrders_iff.mp hmem
    have hparts := (Bool.and_eq_true _ _).mp hseveral
    have hlength : 1 < group.length := of_decide_eq_true hparts.1
    match hkept : group with
    | [] => simp at hlength
    | [_] => simp at hlength
    | a :: b :: rest =>
      have hslot : ∀ o ∈ a :: b :: rest, o.slotKey = k := by
        intro o ho
        rw [hgroup] at ho
        simpa using (List.mem_filter.mp ho).2
      have hsub : [a, b].Sublist (a :: b :: rest) :=
        .cons_cons a (.cons_cons b (List.nil_sublist rest))
      have hcandle := hparts.2
      simp only [List.head?_cons, Option.any_some, Bool.and_eq_true] at hcandle
      refine ⟨a, b, hsub.trans ?_, ?_, hcandle⟩
      · rw [hgroup]
        exact List.filter_sublist
      · rw [hslot a (by simp), hslot b (by simp)]
  · rintro ⟨a, b, hsub, hslot, hsession, hcandle⟩
    have ha : a ∈ orders := hsub.subset (by simp)
    have hlength : 1 < (orders.filter (fun order => order.slotKey = a.slotKey)).length :=
      one_lt_length_filter_iff.mpr ⟨a, b, hsub, by simp, by simp [hslot]⟩
    have hseveral : severalOfCandle (orders.filter (fun order => order.slotKey = a.slotKey))
        = true := by
      match hkept : orders.filter (fun order => order.slotKey = a.slotKey) with
      | [] => simp [hkept] at hlength
      | first :: rest =>
        have hfirst : first ∈ orders.filter (fun order => order.slotKey = a.slotKey) := by
          simp [hkept]
        have hkey : first.slotKey = a.slotKey := by simpa using (List.mem_filter.mp hfirst).2
        have hfields : first.sessionId = a.sessionId ∧ first.candleTimeUtc = a.candleTimeUtc := by
          simp only [DiagnosticOrder.slotKey, Prod.mk.injEq] at hkey
          exact ⟨hkey.1, hkey.2.2.2⟩
        unfold severalOfCandle
        rw [decide_eq_true hlength, Bool.true_and, hkept]
        simp [hfields.1, hfields.2, hsession, hcandle]
    have hmem : (a.slotKey, orders.filter (fun order => order.slotKey = a.slotKey))
        ∈ duplicateSessionOrders orders :=
      mem_groupOrders_iff.mpr ⟨⟨a, ha, rfl⟩, rfl, hseveral⟩
    exact List.ne_nil_of_mem hmem

variable {reservations : List DiagnosticReservation}

/-- The order was created after the reservation had expired. -/
def CreatedAfterExpiry (order : DiagnosticOrder) (r : DiagnosticReservation) : Prop :=
  isAfter (readUtc order.createdAt) (readUtc r.expiresAt) = true

instance (order : DiagnosticOrder) (r : DiagnosticReservation) :
    Decidable (CreatedAfterExpiry order r) := by
  unfold CreatedAfterExpiry
  infer_instance

theorem expiredReservationExecutions_ne_nil_iff :
    expiredReservationExecutions reservations orders ≠ []
      ↔ ∃ order ∈ orders, order.status.isExecution = true ∧ ∃ r ∈ reservations,
          r.candidateStrategyId = order.candidateStrategyId.getD 0
            ∧ CreatedAfterExpiry order r := by
  unfold expiredReservationExecutions
  rw [Ne, List.filterMap_eq_nil_iff]
  constructor
  · intro h
    simp only [not_forall] at h
    obtain ⟨order, horder, hreported⟩ := h
    by_cases hexecution : order.status.isExecution = true
    · rw [if_pos hexecution, Option.map_eq_none_iff, List.find?_eq_none] at hreported
      simp only [not_forall, not_not] at hreported
      obtain ⟨r, hr, hafter⟩ := hreported
      obtain ⟨hmem, hcandidate⟩ := List.mem_filter.mp hr
      exact ⟨order, horder, hexecution, r, hmem, of_decide_eq_true hcandidate, hafter⟩
    · rw [if_neg hexecution] at hreported
      exact absurd rfl hreported
  · rintro ⟨order, horder, hexecution, r, hr, hcandidate, hafter⟩ h
    have hnone := h order horder
    rw [if_pos hexecution, Option.map_eq_none_iff, List.find?_eq_none] at hnone
    exact hnone r (List.mem_filter.mpr ⟨hr, decide_eq_true hcandidate⟩) hafter

end Detectors

end AutoCoinBot
