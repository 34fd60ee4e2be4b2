/-
  CapitalAllocator.OpenOrders — what the capital snapshot counts of the open
  orders of the exchange.

  `_order_krw` takes the first of four fields that holds anything, and only without a positive
  number there the price times the remaining volume.
-/
import AutoCoinBot.CapitalAllocator.Snapshot

namespace AutoCoinBot

/-! ## Fields of a payload -/

/-- A field of a payload, as `dict.get` returns it. A text that is not empty is kept
as what `float` reads of it. -/
inductive RawField where
  | missing
  | number (x : ℚ)
  | emptyText
  | text (value : Option ℚ)

/-- `bool(x)`. -/
def RawField.truthy : RawField → Bool
  | .missing | .emptyText => false
  | .number x => x ≠ 0
  | .text _ => true

/-- `float(x)`; `none` where it raises. -/
def RawField.float : RawField → Option ℚ
  | .missing | .emptyText => none
  | .number x => some x
  | .text value => value

/-- `a or b`. -/
def RawField.or (a b : RawField) : RawField := if a.truthy then a else b

/-- `float(x or 0.0)`. -/
def RawField.floatOrZero (x : RawField) : Option ℚ := if x.truthy then x.float else some 0

/-! ## Open orders -/

/-- An open order as the exchange lists it. -/
structure OpenOrder where
  uuid : Option String := none
  identifier : Option String := none
  clientOrderId : Option String := none
  side : Option String := none
  price : RawField := .missing
  volume : RawField := .missing
  remainingVolume : RawField := .missing
  remainingFee : RawField := .missing
  reservedFee : RawField := .missing
  locked : RawField := .missing
  amountKrw : RawField := .missing

/-- `explicit`: the first field that holds anything. -/
def OpenOrder.explicit (order : OpenOrder) : RawField :=
  ((order.remainingFee.or order.reservedFee).or order.locked).or order.amountKrw

def OpenOrder.explicitValue (order : OpenOrder) : ℚ := toFloat order.explicit.float

def orderKrw (order : OpenOrder) : ℚ :=
  -- the first field that holds anything decides, also if float refuses it
  if 0 < order.explicitValue then order.explicitValue
  else
    -- price and volume are tried only now, in one try block
    match order.price.floatOrZero, (order.remainingVolume.or order.volume).floatOrZero with
    | some price, some volume => max (price * volume) 0
    | _, _ => 0

def isBuyOrder (order : OpenOrder) : Bool :=
  ["bid", "buy"].contains (toText order.side).toLower

/-- The identity an order is listed under; `ordinal` is the number of orders listed so
far. -/
def OpenOrder.orderId (order : OpenOrder) (market : String) (ordinal : ℕ) : String :=
  orText (orText (orText (toText order.uuid) (toText order.identifier))
    (toText order.clientOrderId)) (market ++ ":" ++ toString ordinal)

/-- The orders of one market, without those listed before. -/
def listOpenOrders (market : String) :
    List OpenOrder → List String × List OpenOrder → List String × List OpenOrder
  | [], st => st
  | order :: orders, (seen, listed) =>
    let id := order.orderId market listed.length
    if id ∈ seen then listOpenOrders market orders (seen, listed)
    else listOpenOrders market orders (seen ++ [id], listed ++ [order])

/-- `exchange_orders`, from the answers for the markets asked. -/
def exchangeOrders (responses : List (String × List OpenOrder)) : List OpenOrder :=
  (responses.foldl (fun st response => listOpenOrders response.1 response.2 st) ([], [])).2

/-- What the exchange answered, as the snapshot reads it. -/
structure ExchangeAnswer where
  snapshotError : String := ""
  availableKrw : Option ℚ
  responses : List (String × List OpenOrder)
  balanceMismatch : Bool := false
  openOrderMismatch : Bool := false

def ExchangeAnswer.openBuyOrders (answer : ExchangeAnswer) : List OpenOrder :=
  (exchangeOrders answer.responses).filter isBuyOrder

/-- The reading of an answer: its buy orders count at `_order_krw`. -/
def ExchangeAnswer.reading (answer : ExchangeAnswer) : ExchangeReading :=
  { snapshotError := answer.snapshotError
    availableKrw := answer.availableKrw
    openBuyOrdersKrw := answer.openBuyOrders.map orderKrw
    balanceMismatch := answer.balanceMismatch
    openOrderMismatch := answer.openOrderMismatch }

/-! ## The outstanding notional -/

/-- Price times remaining volume; an order without a remaining volume has all of its
volume outstanding, and a number that cannot be read counts as zero. -/
def OpenOrder.notional (order : OpenOrder) : ℚ :=
  let remaining :=
    match order.remainingVolume with
    | .missing | .emptyText => order.volume
    | given => given
  toFloat order.price.float * toFloat remaining.float

theorem RawField.floatOrZero_cases (x : RawField) :
    x.floatOrZero = some (toFloat x.float) ∨ (x.floatOrZero = none ∧ toFloat x.float = 0) := by
  cases x with
  | missing => exact .inl rfl
  | emptyText => exact .inl rfl
  | number q =>
    by_cases hq : q = 0
    · subst hq; exact .inl rfl
    · left
      unfold RawField.floatOrZero RawField.truthy
      simp [hq, RawField.float]
  | text value =>
    cases value with
    | none => exact .inr ⟨rfl, rfl⟩
    | some q => exact .inl rfl

theorem notional_le_orderKrw {order : OpenOrder} (h : ¬ 0 < order.explicitValue) :
    order.notional ≤ orderKrw order := by
  unfold orderKrw OpenOrder.notional
  rw [if_neg h]
  rcases order.price.floatOrZero_cases with hprice | ⟨hprice, hzero⟩
  · rw [hprice]
    -- the volume that is multiplied: the remaining one if it says anything
    have hvolume : ∀ x : RawField,
        (match x with | .missing | .emptyText => order.volume | given => given) = x.or order.volume
          ∨ (x = .number 0 ∧ x.or order.volume = order.volume) := by
      intro x
      cases x with
      | missing => exact .inl rfl
      | emptyText => exact .inl rfl
      | text value => exact .inl rfl
      | number q =>
        by_cases hq : q = 0
        · subst hq; exact .inr ⟨rfl, rfl⟩
        · left
          unfold RawField.or RawField.truthy
          simp [hq]
    rcases hvolume order.remainingVolume with hremaining | ⟨hremaining, -⟩
    · rw [hremaining]
      show toFloat order.price.float * toFloat (order.remainingVolume.or order.volume).float ≤ _
      rcases (order.remainingVolume.or order.volume).floatOrZero_cases with hread | ⟨hread, hzero⟩
      · rw [hread]
        exact le_max_left _ _
      · rw [hread, hzero, mul_zero]
    · -- a remaining volume of zero leaves nothing outstanding
      have hnotional : toFloat order.price.float * toFloat (RawField.number 0).float = 0 :=
        mul_zero _
      rw [hremaining]
      show toFloat order.price.float * toFloat (RawField.number 0).float ≤ _
      rw [hnotional]
      split
      · exact le_max_right _ _
      · exact le_rfl
  · rw [hprice, hzero, zero_mul]

/-- **When an order is counted at its notional or more**: when its first filled field is
no positive number, or one that covers the notional. -/
theorem orderKrw_ge_notional_iff (order : OpenOrder) :
    order.notional ≤ orderKrw order
      ↔ (0 < order.explicitValue → order.notional ≤ order.explicitValue) := by
  by_cases hexplicit : 0 < order.explicitValue
  · have hkrw : orderKrw order = order.explicitValue := if_pos hexplicit
    rw [hkrw]
    exact ⟨fun h _ => h, fun h => h hexplicit⟩
  · exact iff_of_true (notional_le_orderKrw hexplicit) (fun h => absurd h hexplicit)

/-! ## The snapshot -/

section Snapshot

variable (db : Database) (exchange : String) (config : SnapshotConfig)
  (policy : BotOperationPolicy) (answer : ExchangeAnswer) (now : UtcTime)

def ExchangeAnswer.outstandingNotional (answer : ExchangeAnswer) : ℚ :=
  (answer.openBuyOrders.map OpenOrder.notional).sum

/-- The snapshot counts every open buy order at its notional or more, so their sum, and
what is left below the exposure limit is left beside it. -/
structure CountsOpenOrders : Prop where
  order : ∀ order ∈ answer.openBuyOrders, order.notional ≤ orderKrw order
  total : answer.outstandingNotional
    ≤ (buildCapitalSnapshot db exchange config policy answer.reading now).pendingExchangeBuyOrderKrw
  exposure :
    let s := buildCapitalSnapshot db exchange config policy answer.reading now
    0 < s.remainingExposureKrw →
      s.dbOpenPositionValueKrw + s.pendingBuyReservedKrw + answer.outstandingNotional
        + s.remainingExposureKrw ≤ policy.maxTotalExposureKrw

/-- **When a snapshot counts the open orders**: exactly if every buy order whose first
filled field is a positive number has its notional covered by it. -/
theorem snapshot_counts_open_orders_iff :
    CountsOpenOrders db exchange config policy answer now
      ↔ ∀ order ∈ answer.openBuyOrders,
          0 < order.explicitValue → order.notional ≤ order.explicitValue := by
  constructor
  · intro h order horder
    exact (orderKrw_ge_notional_iff order).mp (h.order order horder)
  · intro h
    have horders : ∀ order ∈ answer.openBuyOrders, order.notional ≤ orderKrw order :=
      fun order horder => (orderKrw_ge_notional_iff order).mpr (h order horder)
    have htotal : answer.outstandingNotional ≤ (answer.openBuyOrders.map orderKrw).sum :=
      List.sum_le_sum horders
    refine ⟨horders, htotal, ?_⟩
    intro s hpositive
    have hremaining : s.remainingExposureKrw = max (policy.maxTotalExposureKrw
        - s.dbOpenPositionValueKrw - s.pendingBuyReservedKrw - s.pendingExchangeBuyOrderKrw) 0 := rfl
    have hpending : s.pendingExchangeBuyOrderKrw = (answer.openBuyOrders.map orderKrw).sum := rfl
    rcases max_choice (policy.maxTotalExposureKrw - s.dbOpenPositionValueKrw
        - s.pendingBuyReservedKrw - s.pendingExchangeBuyOrderKrw) 0 with hmax | hmax
    · rw [hmax] at hremaining
      rw [hpending] at hremaining
      linarith
    · rw [hmax] at hremaining
      exact absurd hpositive (by rw [hremaining]; exact lt_irrefl 0)

end Snapshot

theorem open_order_counted_at_its_fee :
    ¬ CountsOpenOrders {} "bithumb" {} {}
      { availableKrw := some 1000000
        responses := [("KRW-BTC",
          [{ uuid := some "C0101000000001", side := some "bid", price := .text (some 1000)
             volume := .text (some 100), remainingVolume := .text (some 100)
             reservedFee := .text (some 50) }])] } 0 := by
  intro h
  have hcounted := h.total
  revert hcounted
  decide +kernel

end AutoCoinBot
