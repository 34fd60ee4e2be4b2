/-
  AccountingEpoch.SmokeTestPreflight — `build_smoke_test_preflight`, and what it makes
  of the open-order audit.

  A smoke test is allowed when nothing blocks it.
-/
import AutoCoinBot.AccountingEpoch.EpochTimes
import AutoCoinBot.Database.RuntimeLocks
import AutoCoinBot.Database.Schema

namespace AutoCoinBot

/-! ## `build_smoke_test_preflight` -/

structure SmokeTestConfig where
  liveSmokeTestEnabled : Bool := false
  maxNotionalKrw : ℚ := 6000
  allowedSymbols : List String := ["BTC", "ETH"]
  maxOrders : ℤ := 2
  timeoutSeconds : ℤ := 300
  requireConfirmation : Bool := true
  autoStopAfterComplete : Bool := true
  disableReentry : Bool := true

def defaultBlockedSymbols : List String := ["WLD", "XLM", "RE"]

def defaultBlockedStrategies : List String := ["rsi"]

/-- What the preflight reads of the current epoch. -/
structure CurrentEpochDiagnostics where
  currentEpochExists : Bool := false
  currentEpochId : Option String := none
  currentEpochStartedAtUtc : Option String := none
  currentEpochTrustLevel : Option String := some "LOW"
  currentEpochAccountingPendingCount : ℕ := 0
  currentEpochAccountingFailedCount : ℕ := 0

/-- `code`. -/
inductive SmokeBlockerCode where
  | liveSmokeTestDisabled
  | dbAutoTradingMustRemainFalse
  | normalAutoRuntimeNotStopped
  | emergencyStopEnabled
  | currentEpochMissing
  | currentEpochTrustLow
  | currentEpochAccountingPending
  | currentEpochAccountingFailed
  | exchangeApiKeyMissing
  | liveTradingFeatureDisabled
  | smokeTestSymbolNotAllowed
  | smokeTestBlockedSymbol
  | smokeTestBlockedStrategy
  | smokeTestAmountExceedsLimit
  | smokeTestMaxOrdersTooHigh
  | duplicateSmokeTestIdempotencyKey
  | exchangeOpenOrderExists
  | currentEpochOpenOrderExists
  | unknownOpenOrderExists

/-- An entry of `smoke_test_blockers`. -/
structure SmokeBlocker where
  code : SmokeBlockerCode
  count : ℤ := 1

/-- The arguments of `build_smoke_test_preflight`, and what it loads. -/
structure PreflightRequest where
  exchange : String := "bithumb"
  symbol : String := "BTC"
  strategyName : String := "smoke_test"
  amountKrw : Option ℚ := none
  epoch : CurrentEpochDiagnostics := {}
  openOrderAudit : Option OpenOrderAudit := none
  config : SmokeTestConfig := {}
  policy : BotOperationPolicy := {}
  runtimeLock : Option RuntimeLock := none
  emergencyStopped : Bool := false
  apiKeyLoaded : Bool := false
  liveTradingEnabled : Bool := false
  /-- The keys of `live_order_idempotency`. -/
  idempotencyKeys : List String := []
  /-- The rows that an audit of its own loads. -/
  dbOrders : List OrderDict := []

namespace PreflightRequest

variable (p : PreflightRequest)

/-- `str(symbol or "BTC").upper()`. -/
def symbolUpper : String := (orText p.symbol "BTC").toUpper

def amount : ℚ := min (p.amountKrw.getD p.config.maxNotionalKrw) p.config.maxNotionalKrw

/-- `current_epoch_id or 'no-epoch'`. -/
def epochName : String := orText (toText p.epoch.currentEpochId) "no-epoch"

def clientOrderId : String :=
  String.ofList (("smoke-" ++ p.epochName ++ "-" ++ p.symbolUpper ++ "-buy").toList.take 36)

def idempotencyKey : String :=
  "smoke:" ++ p.exchange ++ ":" ++ p.symbolUpper ++ ":" ++ p.epochName ++ ":BUY"

/-- `blockers.append(…)` under a condition. -/
def blockIf (condition : Bool) (code : SmokeBlockerCode) (count : ℤ) : List SmokeBlocker :=
  if condition then [⟨code, count⟩] else []

def gateBlockers : List SmokeBlocker :=
  blockIf (!p.config.liveSmokeTestEnabled) .liveSmokeTestDisabled 1
    ++ blockIf p.policy.autoTradingEnabled .dbAutoTradingMustRemainFalse 1
    ++ blockIf (((p.runtimeLock.map RuntimeLock.status).getD "").toUpper != "STOPPED")
        .normalAutoRuntimeNotStopped 1
    ++ blockIf p.emergencyStopped .emergencyStopEnabled 1
    ++ blockIf (!p.epoch.currentEpochExists) .currentEpochMissing 1
    ++ blockIf ((toText p.epoch.currentEpochTrustLevel).toUpper == "LOW") .currentEpochTrustLow 1
    ++ blockIf (p.epoch.currentEpochAccountingPendingCount != 0) .currentEpochAccountingPending
        p.epoch.currentEpochAccountingPendingCount
    ++ blockIf (p.epoch.currentEpochAccountingFailedCount != 0) .currentEpochAccountingFailed
        p.epoch.currentEpochAccountingFailedCount
    ++ blockIf (!p.apiKeyLoaded) .exchangeApiKeyMissing 1
    ++ blockIf (!p.liveTradingEnabled) .liveTradingFeatureDisabled 1
    ++ blockIf (!p.config.allowedSymbols.contains p.symbolUpper) .smokeTestSymbolNotAllowed 1
    ++ blockIf (defaultBlockedSymbols.contains p.symbolUpper) .smokeTestBlockedSymbol 1
    ++ blockIf (defaultBlockedStrategies.contains p.strategyName.toLower)
        .smokeTestBlockedStrategy 1
    ++ blockIf (p.amount ≤ 0 ∨ p.config.maxNotionalKrw < p.amount) .smokeTestAmountExceedsLimit 1
    ++ blockIf (2 < p.config.maxOrders) .smokeTestMaxOrdersTooHigh p.config.maxOrders
    ++ blockIf (p.idempotencyKeys.contains p.idempotencyKey) .duplicateSmokeTestIdempotencyKey 1

/-- The blockers read off the audit's counts. -/
def openOrderBlockers (summary : AuditSummary) : List SmokeBlocker :=
  blockIf (summary.exchangeOpenOrderCount != 0) .exchangeOpenOrderExists
      summary.exchangeOpenOrderCount
    ++ blockIf (summary.currentEpochOpenOrderCount != 0) .currentEpochOpenOrderExists
        summary.currentEpochOpenOrderCount
    ++ blockIf (summary.unknownOpenOrderCount != 0) .unknownOpenOrderExists
        summary.unknownOpenOrderCount

/-- `open_order_audit or build_open_order_audit(…)`: an audit of its own has no exchange to read. -/
def audit : OpenOrderAudit :=
  p.openOrderAudit.getD
    (buildOpenOrderAudit { dbOrders := p.dbOrders, epochStart := p.epoch.currentEpochStartedAtUtc })

end PreflightRequest

/-- What `build_smoke_test_preflight` returns. -/
structure SmokeTestPreflight where
  smokeTestAllowed : Bool
  smokeTestBlockers : List SmokeBlocker
  exchange : String
  symbol : String
  market : String
  strategyName : String
  maxNotionalKrw : ℚ
  orderAmountKrw : ℚ
  maxOrders : ℤ
  timeoutSeconds : ℤ
  clientOrderIdPreview : String
  idempotencyKeyPreview : String
  confirmationRequired : String
  autoStopAfterComplete : Bool
  disableReentry : Bool
  openOrderAudit : OpenOrderAudit

def buildSmokeTestPreflight (p : PreflightRequest) : SmokeTestPreflight :=
  let blockers := p.gateBlockers ++ PreflightRequest.openOrderBlockers p.audit.summary
  { smokeTestAllowed := blockers.length == 0
    smokeTestBlockers := blockers
    exchange := p.exchange
    symbol := p.symbolUpper
    market := "KRW-" ++ p.symbolUpper
    strategyName := p.strategyName
    maxNotionalKrw := p.config.maxNotionalKrw
    orderAmountKrw := p.amount
    maxOrders := min p.config.maxOrders 2
    timeoutSeconds := p.config.timeoutSeconds
    clientOrderIdPreview := p.clientOrderId
    idempotencyKeyPreview := p.idempotencyKey
    confirmationRequired :=
      if p.config.requireConfirmation then "RUN ONE SHOT LIVE SMOKE TEST" else ""
    autoStopAfterComplete := p.config.autoStopAfterComplete
    disableReentry := p.config.disableReentry
    openOrderAudit := p.audit }

/-! ## When nothing blocks -/

section Blockers

variable {p : PreflightRequest} {r : AuditRequest}

open PreflightRequest

theorem blockIf_eq_nil_iff {condition : Bool} {code : SmokeBlockerCode} {count : ℤ} :
    blockIf condition code count = [] ↔ condition = false := by
  cases condition <;> simp [blockIf]

theorem smokeTestAllowed_iff :
    (buildSmokeTestPreflight p).smokeTestAllowed = true
      ↔ p.gateBlockers = [] ∧ openOrderBlockers p.audit.summary = [] := by
  show ((p.gateBlockers ++ openOrderBlockers p.audit.summary).length == 0) = true ↔ _
  rw [beq_iff_eq, List.length_eq_zero_iff, List.append_eq_nil_iff]

theorem openOrderBlockers_eq_nil_iff {summary : AuditSummary} :
    openOrderBlockers summary = []
      ↔ summary.exchangeOpenOrderCount = 0 ∧ summary.currentEpochOpenOrderCount = 0
        ∧ summary.unknownOpenOrderCount = 0 := by
  rw [openOrderBlockers, List.append_eq_nil_iff, List.append_eq_nil_iff, blockIf_eq_nil_iff,
    blockIf_eq_nil_iff, blockIf_eq_nil_iff, bne_eq_false_iff_eq, bne_eq_false_iff_eq,
    bne_eq_false_iff_eq, and_assoc]

end Blockers

/-! ## Orders that may be open -/

namespace AuditRequest

variable (r : AuditRequest)

/-- The exchange lists an order, or could not be read whole. -/
def MayBeOpen : Prop := r.exchangeOrders ≠ [] ∨ r.status ≠ .success

/-- An order is said to belong to the epoch just when it was created no earlier than the epoch
started, however either time is spelled. -/
def BelongsByInstant : Prop :=
  ∀ item ∈ (buildOpenOrderAudit r).openOrders, ∀ (start created : CandleTime) (s t : ClockTime),
    toText r.epochStart = start.text → item.createdAtUtc = some created.text →
      start.utc = some s → created.utc = some t →
        (item.belongsToCurrentEpoch = true ↔ s.moment ≤ t.moment)

/-- The clocks of the epoch's start and of an order's creation, as they are spelled, read in the
order of the instants. -/
def ClocksAgree : Prop :=
  ∀ d? e?, RealOrder r.dbOrders r.exchangeOrders d? e? →
    ∀ (start created : CandleTime) (s t : ClockTime),
      toText r.epochStart = start.text → createdAtOf d? e? = some created.text →
        start.utc = some s → created.utc = some t →
          (start.ReadsNoLater created ↔ s.moment ≤ t.moment)

/-- A row blocks although the exchange lists nothing: any row of an exchange that could not be read,
and one whose creation text is not below the epoch's start where some markets were read. -/
def RowBlocks : Prop :=
  match r.status with
  | .success => True
  | .someMarkets => ∃ d ∈ r.dbOrders,
      belongsToCurrentEpoch (createdAtOf (some d) none) (toText r.epochStart) = true
  | .unavailable => r.dbOrders ≠ []

end AuditRequest

def PreflightRequest.ofAudit (p : PreflightRequest) (r : AuditRequest) : PreflightRequest :=
  { p with openOrderAudit := some (buildOpenOrderAudit r) }

/-- Every order has its item, belongs to the epoch by its instant, and holds the smoke test back
while it may be open. -/
structure OpenOrdersAccounted (r : AuditRequest) (p : PreflightRequest) : Prop where
  joins : r.JoinsOrders
  byInstant : r.BelongsByInstant
  failsClosed : r.MayBeOpen → (buildSmokeTestPreflight (p.ofAudit r)).smokeTestAllowed = false

/-- The first identities are distinct and agree as the orders do, the clocks agree with the
instants, and something other than the exchange's list blocks where that list is empty and not
whole. -/
structure OpenOrdersLegible (r : AuditRequest) (p : PreflightRequest) : Prop where
  distinct : r.DistinctIdentities
  clocks : r.ClocksAgree
  blocked : p.gateBlockers ≠ [] ∨ r.exchangeOrders ≠ [] ∨ r.RowBlocks

section Accounted

variable {p : PreflightRequest} {r : AuditRequest}

theorem belongsByInstant_iff (h : r.DistinctIdentities) : r.BelongsByInstant ↔ r.ClocksAgree := by
  constructor
  · intro hbelongs d? e? hreal start created s t hstart hcreated hs ht
    obtain ⟨key, hkey, heq⟩ := List.mem_map.mp (AuditRequest.mem_auditPairs_of_realOrder h hreal)
    obtain ⟨rfl, rfl⟩ := Prod.mk.inj heq
    have hitem := hbelongs _ (AuditRequest.mem_items_iff.mpr ⟨key, hkey, rfl⟩) start created s t
      hstart hcreated hs ht
    rw [← hitem, AuditRequest.openOrderAuditItem_belongsToCurrentEpoch, hcreated, hstart,
      belongsToCurrentEpoch_text]
  · intro hclocks item hitem start created s t hstart hcreated hs ht
    obtain ⟨key, hkey, rfl⟩ := AuditRequest.mem_items_iff.mp hitem
    have hreal := AuditRequest.realOrder_of_mem_auditPairs h (List.mem_map.mpr ⟨key, hkey, rfl⟩)
    change createdAtOf _ _ = _ at hcreated
    rw [AuditRequest.openOrderAuditItem_belongsToCurrentEpoch, hcreated, hstart,
      belongsToCurrentEpoch_text]
    exact hclocks _ _ hreal start created s t hstart hcreated hs ht

theorem realOrder_nil_iff {dbOrders : List OrderDict} {d? e? : Option OrderDict} :
    RealOrder dbOrders [] d? e? ↔ e? = none ∧ ∃ d ∈ dbOrders, d? = some d := by
  constructor
  · intro h
    cases h with
    | both _ he _ => cases he
    | onlyRow hd _ => exact ⟨rfl, _, hd, rfl⟩
    | onlyExchange he _ => cases he
  · rintro ⟨rfl, d, hd, rfl⟩
    exact .onlyRow hd (fun e he => absurd he List.not_mem_nil)

theorem openOrderBlockers_of_unlisted (h : r.DistinctIdentities) (hnone : r.exchangeOrders = []) :
    (PreflightRequest.openOrderBlockers (buildOpenOrderAudit r).summary = []
      ↔ (∀ d ∈ r.dbOrders,
          belongsToCurrentEpoch (createdAtOf (some d) none) (toText r.epochStart) = false)
        ∧ (r.status.exchangeVerified = false → r.dbOrders = [])) := by
  have hepoch : (buildOpenOrderAudit r).summary.currentEpochOpenOrderCount = 0
      ↔ ∀ d ∈ r.dbOrders,
          belongsToCurrentEpoch (createdAtOf (some d) none) (toText r.epochStart) = false := by
    rw [AuditRequest.currentEpochOpenOrderCount_eq_zero_iff h, hnone]
    constructor
    · intro hall d hd
      exact hall (some d) none (realOrder_nil_iff.mpr ⟨rfl, d, hd, rfl⟩)
    · rintro hall d? e? hreal
      obtain ⟨rfl, d, hd, rfl⟩ := realOrder_nil_iff.mp hreal
      exact hall d hd
  rw [openOrderBlockers_eq_nil_iff, AuditRequest.exchangeOpenOrderCount_eq_zero_iff, hepoch]
  cases hverified : r.status.exchangeVerified with
  | true =>
    rw [AuditRequest.unknownOpenOrderCount_of_verified hnone hverified, hepoch]
    simp [hnone]
  | false =>
    rw [AuditRequest.unknownOpenOrderCount_of_unverified hverified,
      AuditRequest.dbOpenOrderCount_eq_zero_iff]
    simp [hnone]

theorem failsClosed_iff (h : r.DistinctIdentities) :
    (r.MayBeOpen → (buildSmokeTestPreflight (p.ofAudit r)).smokeTestAllowed = false)
      ↔ p.gateBlockers ≠ [] ∨ r.exchangeOrders ≠ [] ∨ r.RowBlocks := by
  have hallowed : (buildSmokeTestPreflight (p.ofAudit r)).smokeTestAllowed = true
      ↔ p.gateBlockers = []
        ∧ PreflightRequest.openOrderBlockers (buildOpenOrderAudit r).summary = [] :=
    smokeTestAllowed_iff
  rw [← Bool.not_eq_true, hallowed]
  by_cases hlisted : r.exchangeOrders = []
  · rw [openOrderBlockers_of_unlisted h hlisted]
    simp only [AuditRequest.MayBeOpen, AuditRequest.RowBlocks, hlisted]
    cases hstatus : r.status with
    | success => simp
    | someMarkets =>
      have hverified : OpenOrderStatus.someMarkets.exchangeVerified = true := rfl
      by_cases hgate : p.gateBlockers = [] <;> simp [hgate, hverified]
    | unavailable =>
      have hverified : OpenOrderStatus.unavailable.exchangeVerified = false := rfl
      by_cases hrows : r.dbOrders = [] <;> by_cases hgate : p.gateBlockers = [] <;>
        simp [hgate, hrows, hverified]
  · rw [openOrderBlockers_eq_nil_iff, AuditRequest.exchangeOpenOrderCount_eq_zero_iff]
    simp [hlisted]

end Accounted

/-- **Every open order is accounted for just when the orders are legible.** -/
theorem open_orders_accounted_iff (r : AuditRequest) (p : PreflightRequest) :
    OpenOrdersAccounted r p ↔ OpenOrdersLegible r p := by
  constructor
  · intro h
    have hdistinct := AuditRequest.joinsOrders_iff.mp h.joins
    exact ⟨hdistinct, (belongsByInstant_iff hdistinct).mp h.byInstant,
      (failsClosed_iff hdistinct).mp h.failsClosed⟩
  · intro h
    exact ⟨AuditRequest.joinsOrders_iff.mpr h.distinct,
      (belongsByInstant_iff h.distinct).mpr h.clocks, (failsClosed_iff h.distinct).mpr h.blocked⟩

/-- A row submitted under a client id before the exchange answered with its uuid. -/
def unansweredRow : OrderDict :=
  { id := some 7
    text := fun
      | .clientOrderId => some "smoke-buy-1"
      | .requestId => some "smoke-buy-1"
      | .market => some "KRW-BTC"
      | .side => some "BUY"
      | .status => some "SUBMITTED"
      | .createdAt => some "2026-06-26T00:01:00Z"
      | _ => none }

def listedClientOrder : OrderDict :=
  { text := fun
      | .uuid => some "C0101000003129835396"
      | .clientOrderId => some "smoke-buy-1"
      | .market => some "KRW-BTC"
      | .side => some "bid"
      | .state => some "wait"
      | .createdAt => some "2026-06-26T09:01:00+09:00"
      | _ => none }

def unansweredAudit : AuditRequest :=
  { dbOrders := [unansweredRow]
    exchangeOrders := [listedClientOrder]
    epochStart := some "2026-06-26T00:00:00Z"
    status := .success }

theorem listed_order_has_two_items :
    SharesIdentity unansweredRow listedClientOrder
      ∧ (buildOpenOrderAudit unansweredAudit).openOrders.map AuditItem.source
          = [.exchangeOpenOrder, .dbOpenOrder]
      ∧ ¬ OpenOrdersAccounted unansweredAudit {} := by
  refine ⟨by decide +kernel, by decide +kernel, fun h => ?_⟩
  have hagree := (AuditRequest.joinsOrders_iff.mp h.joins).agree _ List.mem_cons_self _
    List.mem_cons_self
  have hkey : identityOf false 0 unansweredRow ≠ identityOf true 0 listedClientOrder := by
    decide +kernel
  exact hkey (hagree.mpr (by decide +kernel))

end AutoCoinBot
