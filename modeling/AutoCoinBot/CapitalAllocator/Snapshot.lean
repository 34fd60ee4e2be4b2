/-
  CapitalAllocator.Snapshot — the capital snapshot an allocator run
  starts from.

  What the exchange answers is an input; the figures derived from it are those of
  `build_capital_snapshot_async`.
-/
import AutoCoinBot.Database.PositionSlots

namespace AutoCoinBot

/-! ## The snapshot -/

/-- The figures of a snapshot that the allocator reads. -/
structure CapitalSnapshot where
  snapshotError : String
  maxTotalExposureKrw : ℚ
  availableKrwBalance : Option ℚ
  cashReserveKrw : ℚ
  dbOpenPositionValueKrw : ℚ
  pendingBuyReservedKrw : ℚ
  pendingExchangeBuyOrderKrw : ℚ
  remainingExposureKrw : ℚ
  availableBudgetKrw : ℚ
  balanceMismatchDetected : Bool
  openOrderMismatchDetected : Bool
  positions : List LivePosition
  slots : List PositionSlot

/-- What the exchange says: the KRW balance, unless balances could not be read, the
values of its open buy orders, and whether balances and orders match the database. -/
structure ExchangeReading where
  snapshotError : String := ""
  availableKrw : Option ℚ
  openBuyOrdersKrw : List ℚ := []
  balanceMismatch : Bool := false
  openOrderMismatch : Bool := false

theorem defaultReserve_nonneg : (0 : ℚ) ≤ 5 := by norm_num

/-- The environment numbers a snapshot reads; `_float_env` bounds the percentage from
below. -/
structure SnapshotConfig where
  maxSlots : ℕ := 5
  cashReservePct : ℚ := 5
  cashReservePct_nonneg : 0 ≤ cashReservePct := by
    first | exact defaultReserve_nonneg | norm_num

/-- `_position_value`; a position row has no `current_value_krw`. -/
def positionValue (p : LivePosition) : ℚ := orNum p.currentPrice p.entryPrice * p.entryVolume

def loadActiveOrderReservations (db : Database) (exchange : String) (now : UtcTime) :
    List OrderReservation :=
  db.orderReservations.select (fun r => r.exchange == exchange
    && [ReservationStatus.pending, .reserved, .orderSubmitted].contains r.status
    && r.effectiveExpiresAtUtc.all (fun expiry => now < expiry))

/-- The figures of `build_capital_snapshot_async`, read from a database whose slots are
reconciled. -/
def buildCapitalSnapshot (db : Database) (exchange : String) (config : SnapshotConfig)
    (policy : BotOperationPolicy) (reading : ExchangeReading) (now : UtcTime) :
    CapitalSnapshot :=
  let positions := loadOpenLivePositionsForExchange db exchange
  let maxTotal := policy.maxTotalExposureKrw
  let cashReserve := maxTotal * config.cashReservePct / 100
  let dbPositionValue := (positions.map positionValue).sum
  let pendingReserved :=
    ((loadActiveOrderReservations db exchange now).map OrderReservation.amountKrw).sum
  let pendingExchangeBuy := reading.openBuyOrdersKrw.sum
  let remainingExposure := max (maxTotal - dbPositionValue - pendingReserved - pendingExchangeBuy) 0
  let availableBudget :=
    match reading.availableKrw with
    | none => 0
    | some availableKrw => max (min remainingExposure (availableKrw - cashReserve)) 0
  { snapshotError := reading.snapshotError
    maxTotalExposureKrw := maxTotal
    availableKrwBalance := reading.availableKrw
    cashReserveKrw := cashReserve
    dbOpenPositionValueKrw := dbPositionValue
    pendingBuyReservedKrw := pendingReserved
    pendingExchangeBuyOrderKrw := pendingExchangeBuy
    remainingExposureKrw := remainingExposure
    availableBudgetKrw := availableBudget
    balanceMismatchDetected := reading.balanceMismatch
    openOrderMismatchDetected := reading.openOrderMismatch
    positions := positions
    slots := loadPositionSlotRows db config.maxSlots }

def CapitalSnapshot.cashAfterReserve (s : CapitalSnapshot) : ℚ :=
  max (toFloat s.availableKrwBalance - s.cashReserveKrw) 0

/-! ## The figures of a built snapshot -/

section Built

variable (db : Database) (exchange : String) (config : SnapshotConfig)
  (policy : BotOperationPolicy) (reading : ExchangeReading) (now : UtcTime)

/-- **The budget of a snapshot** is the smaller of its two limits. -/
theorem buildCapitalSnapshot_availableBudget :
    let s := buildCapitalSnapshot db exchange config policy reading now
    s.availableBudgetKrw = min s.remainingExposureKrw s.cashAfterReserve := by
  intro s
  have hremaining : 0 ≤ s.remainingExposureKrw := le_max_right _ _
  have hreserve : 0 ≤ s.cashReserveKrw := by
    have htotal := policy.maxTotalExposure_pos
    have hpct := config.cashReservePct_nonneg
    show 0 ≤ policy.maxTotalExposureKrw * config.cashReservePct / 100
    positivity
  unfold CapitalSnapshot.cashAfterReserve
  cases havailable : reading.availableKrw with
  | none =>
    have hbudget : s.availableBudgetKrw = 0 := by
      simp only [s, buildCapitalSnapshot, havailable]
    have hbalance : s.availableKrwBalance = none := havailable
    rw [hbudget, hbalance, toFloat_none, zero_sub, max_eq_right (neg_nonpos.mpr hreserve),
      min_eq_right hremaining]
  | some availableKrw =>
    have hbudget : s.availableBudgetKrw
        = max (min s.remainingExposureKrw (availableKrw - s.cashReserveKrw)) 0 := by
      simp only [s, buildCapitalSnapshot, havailable]
    have hbalance : s.availableKrwBalance = some availableKrw := havailable
    rw [hbudget, hbalance, toFloat_some, max_min_distrib_right, max_eq_left hremaining]

theorem buildCapitalSnapshot_budget_nonneg :
    0 ≤ (buildCapitalSnapshot db exchange config policy reading now).availableBudgetKrw := by
  rw [buildCapitalSnapshot_availableBudget]
  exact le_min (le_max_right _ _) (le_max_right _ _)

end Built

end AutoCoinBot
