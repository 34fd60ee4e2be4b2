/-
  AccountingEpoch.OpenOrderAudit — `build_open_order_audit`.

  The unresolved rows and the open orders the exchange lists are each filed under their first
  identity, and read side by side under every identity found.
-/
import AutoCoinBot.Library.KeyedJoin
import AutoCoinBot.LiveStrategyPilot.Sizing

namespace AutoCoinBot

open Library

/-! ## Orders as the two sides give them -/

/-- The text fields the audit reads. -/
inductive OrderTextKey where
  | uuid
  | orderUuid
  | exchangeOrderUuid
  | identifier
  | clientOrderId
  | requestId
  | market
  | side
  | createdAt
  | createdAtUtc
  | orderRequestedAtUtc
  | updatedAt
  | updatedAtUtc
  | ordType
  | orderType
  | orderPurpose
  | status
  | state

/-- The figures the audit shows. -/
inductive OrderAmountKey where
  | amountKrw
  | requestedAmountKrw
  | price
  | volume
  | requestedQuantity
  | executedVolume
  | filledQuantity
  | remainingVolume
  | remainingQuantity

/-- The exchange writes figures as texts, the rows hold numbers. -/
inductive OrderAmount where
  | text (value : String)
  | number (value : ℚ)

/-- `value not in (None, "")`. -/
def OrderAmount.given : OrderAmount → Bool
  | .text value => value != ""
  | .number _ => true

/-- An order, whichever of its keys are there. -/
structure OrderDict where
  id : Option ℕ := none
  text : OrderTextKey → Option String := fun _ => none
  amount : OrderAmountKey → Option OrderAmount := fun _ => none

/-- `keys`, in the order in which they are tried. -/
def identityKeys : List OrderTextKey :=
  [.uuid, .orderUuid, .exchangeOrderUuid, .identifier, .clientOrderId, .requestId]

def OrderDict.ids (order : OrderDict) : List String :=
  (identityKeys.map (fun key => stripText (toText (order.text key)))).filter (· ≠ "")

/-- The key of `_orders_by_identity`. -/
def identityOf (exchangeOrder : Bool) (index : ℕ) (order : OrderDict) : String :=
  let key := order.ids.head?.getD ""
  if key = "" then
    let createdAt := orText (toText (order.text .createdAt)) (toText (order.text .createdAtUtc))
    (if exchangeOrder then "exchange" else "db") ++ ":" ++ toText (order.text .market) ++ ":"
      ++ toText (order.text .side) ++ ":" ++ createdAt ++ ":" ++ toString index
  else key

/-- `_orders_by_identity`: the entries of the dictionary, in the order in which they are written. -/
def ordersByIdentity (exchangeOrder : Bool) (orders : List OrderDict) :
    List (String × OrderDict) :=
  orders.mapIdx (fun index order => (identityOf exchangeOrder index order, order))

/-! ## `_open_order_audit_item` -/

def firstValue {ι ν : Type} (read : OrderDict → ι → Option ν) (given : ν → Bool)
    (rowA rowB : Option OrderDict) (keys : List ι) : Option ν :=
  ([rowA, rowB].flatMap (fun row => keys.filterMap (fun key => row.bind (read · key)))).find? given

def firstText : Option OrderDict → Option OrderDict → List OrderTextKey → Option String :=
  firstValue OrderDict.text (· != "")

def firstAmount : Option OrderDict → Option OrderDict → List OrderAmountKey → Option OrderAmount :=
  firstValue OrderDict.amount OrderAmount.given

/-- `value.replace("+00:00", "Z")`. -/
def utcOffsetToZ : List Char → List Char
  | '+' :: '0' :: '0' :: ':' :: '0' :: '0' :: rest => 'Z' :: utcOffsetToZ rest
  | c :: rest => c :: utcOffsetToZ rest
  | [] => []

def canonicalTimeText (value : String) : String := String.ofList (utcOffsetToZ value.toList)

/-- `created_at and epoch_start and …`: the epoch's start is not after the creation, as texts. -/
def belongsToCurrentEpoch (createdAt : Option String) (epochStart : String) : Bool :=
  textGiven createdAt && epochStart != ""
    && decide (canonicalTimeText epochStart ≤ canonicalTimeText (toText createdAt))

/-- `source`. -/
inductive AuditSource where
  | both
  | exchangeOpenOrder
  | dbStaleOnly
  | dbOpenOrder
  | unknown
  deriving DecidableEq

/-- `recommended_action` and `next_required_action`. -/
inductive AuditAction where
  | userConfirmCancelRequired
  | keepBlocked
  | markLegacyStaleCandidate
  | investigate
  | ignoreForCurrentEpochPrecheck
  | smokePreflightOpenOrderClear

def recommendedOpenOrderAction (source : AuditSource) (belongs : Bool) : AuditAction :=
  if source = .exchangeOpenOrder ∨ source = .both then .userConfirmCancelRequired
  else if belongs then .keepBlocked
  else if source = .dbStaleOnly then .markLegacyStaleCandidate
  else .investigate

/-- An item of `open_orders`. -/
structure AuditItem where
  source : AuditSource
  internalOrderId : Option ℕ
  liveOrderLogId : Option ℕ
  exchangeOrderUuid : Option String
  clientOrderId : Option String
  symbol : String
  market : Option String
  side : Option String
  orderType : Option String
  status : Option String
  requestedAmountKrw : Option OrderAmount
  requestedQuantity : Option OrderAmount
  filledQuantity : Option OrderAmount
  remainingQuantity : Option OrderAmount
  price : Option OrderAmount
  createdAtUtc : Option String
  updatedAtUtc : Option String
  exchangeStatus : Option String
  exchangeOpenOrderExists : Bool
  dbOpenOrderExists : Bool
  belongsToLegacyHistory : Bool
  belongsToCurrentEpoch : Bool
  recommendedAction : AuditAction
  auditKey : String

/-- `created_at`: what the row says, else what the exchange says. -/
def createdAtOf (dbOrder exchangeOrder : Option OrderDict) : Option String :=
  firstText dbOrder exchangeOrder [.createdAtUtc, .createdAt, .orderRequestedAtUtc]

/-- `source`. -/
def auditSource (dbExists exchangeExists belongs : Bool) : AuditSource :=
  if exchangeExists && dbExists then .both
  else if exchangeExists then .exchangeOpenOrder
  else if dbExists && !belongs then .dbStaleOnly
  else if dbExists then .dbOpenOrder
  else .unknown

def openOrderAuditItem (dbOrder exchangeOrder : Option OrderDict)
    (epochStart fallbackKey : String) : AuditItem :=
  let createdAt := createdAtOf dbOrder exchangeOrder
  let belongs := AutoCoinBot.belongsToCurrentEpoch createdAt epochStart
  let source := auditSource dbOrder.isSome exchangeOrder.isSome belongs
  -- an order of the exchange without a creation text is set apart again, as it was already
  let belongs := if source = .exchangeOpenOrder ∧ !textGiven createdAt then false else belongs
  { source := source
    internalOrderId := dbOrder.bind (·.id)
    liveOrderLogId := dbOrder.bind (·.id)
    exchangeOrderUuid := firstText dbOrder exchangeOrder [.orderUuid, .uuid, .exchangeOrderUuid]
    clientOrderId := firstText dbOrder exchangeOrder [.clientOrderId, .identifier]
    symbol := (symbolOf (toText (firstText dbOrder exchangeOrder [.market]))).toUpper
    market := firstText dbOrder exchangeOrder [.market]
    side := firstText dbOrder exchangeOrder [.side]
    orderType := firstText dbOrder exchangeOrder [.ordType, .orderType, .orderPurpose]
    status := dbOrder.bind (·.text .status)
    requestedAmountKrw :=
      firstAmount dbOrder exchangeOrder [.amountKrw, .requestedAmountKrw, .price]
    requestedQuantity := firstAmount dbOrder exchangeOrder [.volume, .requestedQuantity]
    filledQuantity := firstAmount dbOrder exchangeOrder [.executedVolume, .filledQuantity]
    remainingQuantity := firstAmount dbOrder exchangeOrder [.remainingVolume, .remainingQuantity]
    price := firstAmount dbOrder exchangeOrder [.price]
    createdAtUtc := createdAt
    updatedAtUtc := firstText dbOrder exchangeOrder [.updatedAtUtc, .updatedAt]
    exchangeStatus :=
      if textGiven (exchangeOrder.bind (·.text .state)) then exchangeOrder.bind (·.text .state)
      else exchangeOrder.bind (·.text .status)
    exchangeOpenOrderExists := exchangeOrder.isSome
    dbOpenOrderExists := dbOrder.isSome
    belongsToLegacyHistory := !belongs
    belongsToCurrentEpoch := belongs
    recommendedAction := recommendedOpenOrderAction source belongs
    auditKey := fallbackKey }

/-! ## `_open_order_audit_summary` -/

/-- `exchange_open_order_status`: how far the exchange could be read. -/
inductive OpenOrderStatus where
  | success
  | someMarkets
  | unavailable
  deriving DecidableEq

def OpenOrderStatus.text : OpenOrderStatus → String
  | .success => "SUCCESS"
  | .someMarkets => "PARTIAL"
  | .unavailable => "UNAVAILABLE"

def OpenOrderStatus.exchangeVerified (status : OpenOrderStatus) : Bool :=
  status = .success ∨ status = .someMarkets

/-- `open_order_audit_trust_level`. -/
inductive AuditTrust where
  | high
  | medium
  | low

/-- An entry of `exchange_open_order_errors`. -/
structure OpenOrderError where
  market : String
  error : String

/-- `open_order_audit_summary`. -/
structure AuditSummary where
  openLiveOrderCountTotal : ℕ
  exchangeOpenOrderCount : ℕ
  dbOpenOrderCount : ℕ
  dbStaleOpenOrderCount : ℕ
  currentEpochOpenOrderCount : ℕ
  legacyOpenOrderCount : ℕ
  unknownOpenOrderCount : ℕ
  smokeTestBlockingOpenOrderCount : ℕ
  openOrderAuditTrustLevel : AuditTrust
  exchangeOpenOrderAuditStatus : OpenOrderStatus
  exchangeOpenOrderErrorCount : ℕ
  nextRequiredAction : AuditAction

def nextOpenOrderAction (exchangeCount currentEpochCount unknownCount dbStaleCount : ℕ) :
    AuditAction :=
  if exchangeCount ≠ 0 then .userConfirmCancelRequired
  else if currentEpochCount ≠ 0 ∨ unknownCount ≠ 0 then .investigate
  else if dbStaleCount ≠ 0 then .ignoreForCurrentEpochPrecheck
  else .smokePreflightOpenOrderClear

/-- `source in {"UNKNOWN", "DB_OPEN_ORDER"}`. -/
def AuditItem.unknownSource (item : AuditItem) : Bool :=
  item.source = .unknown ∨ item.source = .dbOpenOrder

def openOrderAuditSummary (items : List AuditItem) (status : OpenOrderStatus)
    (errors : List OpenOrderError) : AuditSummary :=
  let exchangeCount := items.countP (·.exchangeOpenOrderExists)
  let dbCount := items.countP (·.dbOpenOrderExists)
  let currentEpochCount := items.countP (·.belongsToCurrentEpoch)
  let dbStaleCount := items.countP (·.source = .dbStaleOnly)
  let unknownCount :=
    if status.exchangeVerified then
      items.countP (fun item => item.unknownSource && !item.exchangeOpenOrderExists)
    else dbCount
  { openLiveOrderCountTotal := items.length
    exchangeOpenOrderCount := exchangeCount
    dbOpenOrderCount := dbCount
    dbStaleOpenOrderCount := dbStaleCount
    currentEpochOpenOrderCount := currentEpochCount
    legacyOpenOrderCount := items.countP (·.belongsToLegacyHistory)
    unknownOpenOrderCount := unknownCount
    smokeTestBlockingOpenOrderCount := items.countP (fun item =>
      item.exchangeOpenOrderExists || item.belongsToCurrentEpoch
        || (!status.exchangeVerified && item.dbOpenOrderExists) || item.unknownSource)
    openOrderAuditTrustLevel :=
      if status = .someMarkets ∧ exchangeCount = 0 then .medium
      else if status = .success then .high
      else .low
    exchangeOpenOrderAuditStatus := status
    exchangeOpenOrderErrorCount := errors.length
    nextRequiredAction :=
      nextOpenOrderAction exchangeCount currentEpochCount unknownCount dbStaleCount }

/-! ## `build_open_order_audit` -/

/-- The arguments of `build_open_order_audit`, and the rows it loads. -/
structure AuditRequest where
  dbOrders : List OrderDict
  exchangeOrders : List OrderDict := []
  /-- `current_epoch_started_at_utc`. -/
  epochStart : Option String
  status : OpenOrderStatus := .unavailable
  errors : List OpenOrderError := []

/-- What `build_open_order_audit` returns. -/
structure OpenOrderAudit where
  status : OpenOrderStatus
  summary : AuditSummary
  openOrders : List AuditItem
  errors : List OpenOrderError

namespace AuditRequest

variable (r : AuditRequest)

def exchangeByKey : List (String × OrderDict) := ordersByIdentity true r.exchangeOrders

def dbByKey : List (String × OrderDict) := ordersByIdentity false r.dbOrders

def allKeys : List String :=
  (r.exchangeByKey.map Prod.fst ++ r.dbByKey.map Prod.fst).dedup.insertionSort (· ≤ ·)

def items : List AuditItem :=
  r.allKeys.map (fun key =>
    openOrderAuditItem (lastOf r.dbByKey key) (lastOf r.exchangeByKey key) (toText r.epochStart)
      key)

end AuditRequest

def buildOpenOrderAudit (r : AuditRequest) : OpenOrderAudit :=
  { status := r.status
    summary := openOrderAuditSummary r.items r.status r.errors
    openOrders := r.items
    errors := r.errors }

/-! ## The items are the orders -/

theorem OrderDict.ne_of_mem_ids {order : OrderDict} {x : String} (h : x ∈ order.ids) : x ≠ "" := by
  have hfilter := (List.mem_filter.mp h).2
  simpa using hfilter

theorem identityOf_of_mem_ids {order : OrderDict} {x : String} (h : x ∈ order.ids)
    (exchangeOrder : Bool) (index : ℕ) :
    identityOf exchangeOrder index order = order.ids.head?.getD "" := by
  cases hids : order.ids with
  | nil =>
    rw [hids] at h
    cases h
  | cons y rest =>
    have hmem : y ∈ order.ids := by
      rw [hids]
      exact List.mem_cons_self
    have hy : y ≠ "" := OrderDict.ne_of_mem_ids hmem
    simp [identityOf, hids, hy]

/-- The row and the order of the exchange carry a common identity. -/
def SharesIdentity (dbOrder exchangeOrder : OrderDict) : Prop :=
  ∃ x ∈ dbOrder.ids, x ∈ exchangeOrder.ids

instance (dbOrder exchangeOrder : OrderDict) :
    Decidable (SharesIdentity dbOrder exchangeOrder) := by
  unfold SharesIdentity
  infer_instance

theorem map_snd_ordersByIdentity (exchangeOrder : Bool) (orders : List OrderDict) :
    (ordersByIdentity exchangeOrder orders).map Prod.snd = orders := by
  refine List.ext_getElem (by simp [ordersByIdentity]) (fun index _ _ => ?_)
  simp [ordersByIdentity]

theorem key_eq_of_mem_ids {exchangeOrder : Bool} {orders : List OrderDict} {order : OrderDict}
    {k k' x : String} (hx : x ∈ order.ids) (h : (k, order) ∈ ordersByIdentity exchangeOrder orders)
    (h' : (k', order) ∈ ordersByIdentity exchangeOrder orders) : k = k' := by
  have hkey : ∀ k, (k, order) ∈ ordersByIdentity exchangeOrder orders
      → k = order.ids.head?.getD "" := by
    intro k hk
    obtain ⟨index, hlt, heq⟩ := List.mem_mapIdx.mp hk
    obtain ⟨rfl, horder⟩ := Prod.mk.inj heq
    rw [horder]
    exact identityOf_of_mem_ids hx exchangeOrder index
  rw [hkey k h, hkey k' h']

namespace AuditRequest

variable {r : AuditRequest}

variable (r) in
/-- The orders an item is made of, item by item. -/
def auditPairs : List (Option OrderDict × Option OrderDict) :=
  joined r.dbByKey r.exchangeByKey r.allKeys

variable (r) in
/-- Every row and every order of the exchange has an item of its own, and a row shares its item with
just the order of the exchange that it is. -/
structure JoinsOrders : Prop where
  everyRow : (r.auditPairs.filterMap Prod.fst).Perm r.dbOrders
  everyOrder : (r.auditPairs.filterMap Prod.snd).Perm r.exchangeOrders
  together : ∀ d ∈ r.dbOrders, ∀ e ∈ r.exchangeOrders,
    SharesIdentity d e ↔ (some d, some e) ∈ r.auditPairs

variable (r) in
/-- The first identities are distinct on either side, and agree just where the orders are one. -/
structure DistinctIdentities : Prop where
  rows : (r.dbByKey.map Prod.fst).Nodup
  orders : (r.exchangeByKey.map Prod.fst).Nodup
  agree : ∀ p ∈ r.dbByKey, ∀ q ∈ r.exchangeByKey, p.1 = q.1 ↔ SharesIdentity p.2 q.2

theorem nodup_allKeys : r.allKeys.Nodup :=
  ((List.perm_insertionSort _ _).nodup_iff).mpr (List.nodup_dedup _)

theorem mem_allKeys {key : String} :
    key ∈ r.allKeys ↔ key ∈ r.exchangeByKey.map Prod.fst ∨ key ∈ r.dbByKey.map Prod.fst := by
  rw [allKeys, (List.perm_insertionSort _ _).mem_iff, List.mem_dedup, List.mem_append]

theorem dbKey_mem_allKeys : ∀ entry ∈ r.dbByKey, entry.1 ∈ r.allKeys :=
  fun _ h => mem_allKeys.mpr (.inr (List.mem_map_of_mem h))

theorem exchangeKey_mem_allKeys : ∀ entry ∈ r.exchangeByKey, entry.1 ∈ r.allKeys :=
  fun _ h => mem_allKeys.mpr (.inl (List.mem_map_of_mem h))

theorem map_snd_dbByKey : r.dbByKey.map Prod.snd = r.dbOrders := map_snd_ordersByIdentity _ _

theorem map_snd_exchangeByKey : r.exchangeByKey.map Prod.snd = r.exchangeOrders :=
  map_snd_ordersByIdentity _ _

theorem everyRow_iff :
    (r.auditPairs.filterMap Prod.fst).Perm r.dbOrders ↔ (r.dbByKey.map Prod.fst).Nodup := by
  rw [auditPairs, filterMap_fst_joined, ← map_snd_dbByKey]
  exact perm_filterMap_lastOf_iff nodup_allKeys dbKey_mem_allKeys

theorem everyOrder_iff :
    (r.auditPairs.filterMap Prod.snd).Perm r.exchangeOrders
      ↔ (r.exchangeByKey.map Prod.fst).Nodup := by
  rw [auditPairs, filterMap_snd_joined, ← map_snd_exchangeByKey]
  exact perm_filterMap_lastOf_iff nodup_allKeys exchangeKey_mem_allKeys

theorem together_iff (hrows : (r.dbByKey.map Prod.fst).Nodup)
    (horders : (r.exchangeByKey.map Prod.fst).Nodup) :
    (∀ d ∈ r.dbOrders, ∀ e ∈ r.exchangeOrders, SharesIdentity d e ↔ (some d, some e) ∈ r.auditPairs)
      ↔ ∀ p ∈ r.dbByKey, ∀ q ∈ r.exchangeByKey, p.1 = q.1 ↔ SharesIdentity p.2 q.2 := by
  have hlinks := links_iff (R := SharesIdentity) hrows horders (dbKey_mem_allKeys (r := r))
    (fun _ _ ⟨_, hd, _⟩ _ _ h h' => key_eq_of_mem_ids hd h h')
    (fun _ _ ⟨_, _, he⟩ _ _ h h' => key_eq_of_mem_ids he h h')
  rw [map_snd_dbByKey, map_snd_exchangeByKey] at hlinks
  exact hlinks

theorem joinsOrders_iff : r.JoinsOrders ↔ r.DistinctIdentities := by
  constructor
  · intro h
    have hrows := everyRow_iff.mp h.everyRow
    have horders := everyOrder_iff.mp h.everyOrder
    exact ⟨hrows, horders, (together_iff hrows horders).mp h.together⟩
  · intro h
    exact ⟨everyRow_iff.mpr h.rows, everyOrder_iff.mpr h.orders,
      (together_iff h.rows h.orders).mpr h.agree⟩

end AuditRequest

/-- An order that either side lists, with the row or the listing of it that the other side has. -/
inductive RealOrder (dbOrders exchangeOrders : List OrderDict) :
    Option OrderDict → Option OrderDict → Prop where
  | both {d e : OrderDict} (hd : d ∈ dbOrders) (he : e ∈ exchangeOrders)
      (hsame : SharesIdentity d e) :
      RealOrder dbOrders exchangeOrders (some d) (some e)
  | onlyRow {d : OrderDict} (hd : d ∈ dbOrders)
      (hnone : ∀ e ∈ exchangeOrders, ¬ SharesIdentity d e) :
      RealOrder dbOrders exchangeOrders (some d) none
  | onlyExchange {e : OrderDict} (he : e ∈ exchangeOrders)
      (hnone : ∀ d ∈ dbOrders, ¬ SharesIdentity d e) :
      RealOrder dbOrders exchangeOrders none (some e)

namespace AuditRequest

variable {r : AuditRequest} {d? e? : Option OrderDict}

theorem dbOrder_of_lastOf {key : String} {d : OrderDict} (h : lastOf r.dbByKey key = some d) :
    d ∈ r.dbOrders := by
  rw [← map_snd_dbByKey]
  exact List.mem_map_of_mem (mem_of_lastOf h)

theorem exchangeOrder_of_lastOf {key : String} {e : OrderDict}
    (h : lastOf r.exchangeByKey key = some e) : e ∈ r.exchangeOrders := by
  rw [← map_snd_exchangeByKey]
  exact List.mem_map_of_mem (mem_of_lastOf h)

theorem exists_dbKey {d : OrderDict} (h : d ∈ r.dbOrders) : ∃ key, (key, d) ∈ r.dbByKey := by
  rw [← map_snd_dbByKey] at h
  obtain ⟨⟨key, d'⟩, hmem, rfl⟩ := List.mem_map.mp h
  exact ⟨key, hmem⟩

theorem exists_exchangeKey {e : OrderDict} (h : e ∈ r.exchangeOrders) :
    ∃ key, (key, e) ∈ r.exchangeByKey := by
  rw [← map_snd_exchangeByKey] at h
  obtain ⟨⟨key, e'⟩, hmem, rfl⟩ := List.mem_map.mp h
  exact ⟨key, hmem⟩

theorem realOrder_of_mem_auditPairs (h : r.DistinctIdentities) (hmem : (d?, e?) ∈ r.auditPairs) :
    RealOrder r.dbOrders r.exchangeOrders d? e? := by
  obtain ⟨key, hkey, heq⟩ := List.mem_map.mp hmem
  obtain ⟨hd, he⟩ := Prod.mk.inj heq
  cases d? with
  | some d =>
    cases e? with
    | some e =>
      exact .both (dbOrder_of_lastOf hd) (exchangeOrder_of_lastOf he)
        ((h.agree _ (mem_of_lastOf hd) _ (mem_of_lastOf he)).mp rfl)
    | none =>
      refine .onlyRow (dbOrder_of_lastOf hd) (fun e hmem' hsame => ?_)
      obtain ⟨key', hkey'⟩ := exists_exchangeKey hmem'
      have hsameKey : key = key' := (h.agree _ (mem_of_lastOf hd) _ hkey').mpr hsame
      rw [hsameKey, (lastOf_eq_some_iff h.orders).mpr hkey'] at he
      cases he
  | none =>
    cases e? with
    | some e =>
      refine .onlyExchange (exchangeOrder_of_lastOf he) (fun d hmem' hsame => ?_)
      obtain ⟨key', hkey'⟩ := exists_dbKey hmem'
      have hsameKey : key' = key := (h.agree _ hkey' _ (mem_of_lastOf he)).mpr hsame
      rw [← hsameKey, (lastOf_eq_some_iff h.rows).mpr hkey'] at hd
      cases hd
    | none =>
      have hnot := mem_allKeys.mp hkey
      rw [← lastOf_isSome_iff, ← lastOf_isSome_iff, hd, he] at hnot
      rcases hnot with hnot | hnot <;> cases hnot

theorem mem_auditPairs_of_realOrder (h : r.DistinctIdentities)
    (hreal : RealOrder r.dbOrders r.exchangeOrders d? e?) : (d?, e?) ∈ r.auditPairs := by
  cases hreal with
  | both hd he hsame => exact ((joinsOrders_iff.mpr h).together _ hd _ he).mp hsame
  | @onlyRow d hd hnone =>
    obtain ⟨key, hkey⟩ := exists_dbKey hd
    refine List.mem_map.mpr ⟨key, dbKey_mem_allKeys _ hkey, ?_⟩
    rw [(lastOf_eq_some_iff h.rows).mpr hkey]
    cases he : lastOf r.exchangeByKey key with
    | none => rfl
    | some e =>
      exact absurd ((h.agree _ hkey _ (mem_of_lastOf he)).mp rfl)
        (hnone e (exchangeOrder_of_lastOf he))
  | @onlyExchange e he hnone =>
    obtain ⟨key, hkey⟩ := exists_exchangeKey he
    refine List.mem_map.mpr ⟨key, exchangeKey_mem_allKeys _ hkey, ?_⟩
    rw [(lastOf_eq_some_iff h.orders).mpr hkey]
    cases hd : lastOf r.dbByKey key with
    | none => rfl
    | some d =>
      exact absurd ((h.agree _ (mem_of_lastOf hd) _ hkey).mp rfl)
        (hnone d (dbOrder_of_lastOf hd))

/-! ## The counts -/

theorem openOrderAuditItem_belongsToCurrentEpoch (epochStart key : String) :
    (openOrderAuditItem d? e? epochStart key).belongsToCurrentEpoch
      = belongsToCurrentEpoch (createdAtOf d? e?) epochStart := by
  show (if _ ∧ _ then false else belongsToCurrentEpoch (createdAtOf d? e?) epochStart) = _
  split
  · rename_i hblank
    have hgiven : textGiven (createdAtOf d? e?) = false := by simpa using hblank.2
    simp [belongsToCurrentEpoch, hgiven]
  · rfl

theorem mem_items_iff {item : AuditItem} :
    item ∈ r.items ↔ ∃ key ∈ r.allKeys, openOrderAuditItem (lastOf r.dbByKey key)
      (lastOf r.exchangeByKey key) (toText r.epochStart) key = item := List.mem_map

theorem exchangeOpenOrderCount_eq_zero_iff :
    (buildOpenOrderAudit r).summary.exchangeOpenOrderCount = 0 ↔ r.exchangeOrders = [] := by
  show r.items.countP (·.exchangeOpenOrderExists) = 0 ↔ _
  rw [List.countP_eq_zero]
  constructor
  · intro h
    refine List.eq_nil_iff_forall_not_mem.mpr (fun e he => ?_)
    obtain ⟨key, hkey⟩ := exists_exchangeKey he
    have hshown := h _ (mem_items_iff.mpr ⟨key, exchangeKey_mem_allKeys _ hkey, rfl⟩)
    exact hshown (lastOf_isSome_iff.mpr (List.mem_map_of_mem hkey))
  · rintro h item hitem hshown
    obtain ⟨key, -, rfl⟩ := mem_items_iff.mp hitem
    obtain ⟨e, he⟩ := Option.isSome_iff_exists.mp hshown
    have hmem := exchangeOrder_of_lastOf he
    rw [h] at hmem
    cases hmem

theorem dbOpenOrderCount_eq_zero_iff :
    (buildOpenOrderAudit r).summary.dbOpenOrderCount = 0 ↔ r.dbOrders = [] := by
  show r.items.countP (·.dbOpenOrderExists) = 0 ↔ _
  rw [List.countP_eq_zero]
  constructor
  · intro h
    refine List.eq_nil_iff_forall_not_mem.mpr (fun d hd => ?_)
    obtain ⟨key, hkey⟩ := exists_dbKey hd
    have hshown := h _ (mem_items_iff.mpr ⟨key, dbKey_mem_allKeys _ hkey, rfl⟩)
    exact hshown (lastOf_isSome_iff.mpr (List.mem_map_of_mem hkey))
  · rintro h item hitem hshown
    obtain ⟨key, -, rfl⟩ := mem_items_iff.mp hitem
    obtain ⟨d, hd⟩ := Option.isSome_iff_exists.mp hshown
    have hmem := dbOrder_of_lastOf hd
    rw [h] at hmem
    cases hmem

theorem currentEpochOpenOrderCount_eq_zero_iff (h : r.DistinctIdentities) :
    (buildOpenOrderAudit r).summary.currentEpochOpenOrderCount = 0
      ↔ ∀ d? e?, RealOrder r.dbOrders r.exchangeOrders d? e? →
          belongsToCurrentEpoch (createdAtOf d? e?) (toText r.epochStart) = false := by
  show r.items.countP (·.belongsToCurrentEpoch) = 0 ↔ _
  rw [List.countP_eq_zero]
  constructor
  · intro hnone d? e? hreal
    obtain ⟨key, hkey, heq⟩ := List.mem_map.mp (mem_auditPairs_of_realOrder h hreal)
    obtain ⟨rfl, rfl⟩ := Prod.mk.inj heq
    have hitem := hnone _ (mem_items_iff.mpr ⟨key, hkey, rfl⟩)
    rw [openOrderAuditItem_belongsToCurrentEpoch] at hitem
    exact Bool.eq_false_iff.mpr hitem
  · intro hnone item hitem
    obtain ⟨key, hkey, rfl⟩ := mem_items_iff.mp hitem
    rw [openOrderAuditItem_belongsToCurrentEpoch]
    exact Bool.eq_false_iff.mp (hnone _ _ (realOrder_of_mem_auditPairs h
      (List.mem_map.mpr ⟨key, hkey, rfl⟩)))

theorem unknownOpenOrderCount_of_verified (hnone : r.exchangeOrders = [])
    (hverified : r.status.exchangeVerified = true) :
    (buildOpenOrderAudit r).summary.unknownOpenOrderCount
      = (buildOpenOrderAudit r).summary.currentEpochOpenOrderCount := by
  show (if _ then _ else _) = r.items.countP (·.belongsToCurrentEpoch)
  rw [if_pos hverified]
  refine List.countP_congr (fun item hitem => ?_)
  obtain ⟨key, hkey, rfl⟩ := mem_items_iff.mp hitem
  have hexchange : lastOf r.exchangeByKey key = none := by
    cases he : lastOf r.exchangeByKey key with
    | none => rfl
    | some e =>
      have hmem := exchangeOrder_of_lastOf he
      rw [hnone] at hmem
      cases hmem
  have hrow : (lastOf r.dbByKey key).isSome = true := by
    rcases mem_allKeys.mp hkey with hkey | hkey
    · rw [← lastOf_isSome_iff, hexchange] at hkey
      cases hkey
    · exact lastOf_isSome_iff.mpr hkey
  rw [openOrderAuditItem_belongsToCurrentEpoch]
  rw [hexchange]
  simp only [openOrderAuditItem, AuditItem.unknownSource, auditSource, hrow]
  cases belongsToCurrentEpoch (createdAtOf (lastOf r.dbByKey key) none) (toText r.epochStart) <;>
    simp

theorem unknownOpenOrderCount_of_unverified (h : r.status.exchangeVerified = false) :
    (buildOpenOrderAudit r).summary.unknownOpenOrderCount
      = (buildOpenOrderAudit r).summary.dbOpenOrderCount := by
  show (if _ then _ else _) = _
  rw [if_neg (by rw [h]; exact Bool.false_ne_true)]
  rfl

end AuditRequest

end AutoCoinBot
