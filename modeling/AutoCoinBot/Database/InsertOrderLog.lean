/-
  Database.InsertOrderLog — `insert_live_order_log`, and the idempotency claims of
  orders.

  The rows here have the columns that the duplicate guards compare, as the texts they are stored
  as. A row and its claim are written in one connection block, so both are or neither is.
-/
import AutoCoinBot.Database.CandleTimes
import AutoCoinBot.Library.Table

namespace AutoCoinBot

open Library

/-! ## Rows -/

/-- What `insert_live_order_log` is given. -/
structure OrderLogInsert where
  requestId : String
  clientOrderId : Option String := none
  orderUuid : Option String := none
  idempotencyKey : Option String := none
  exchange : String := "upbit"
  market : String := ""
  sessionId : Option ℕ := none
  candidateStrategyId : Option ℕ := none
  side : OrderSide := .buy
  status : OrderStatus := .previewed
  strategyName : Option String := none
  signalType : Option String := none
  candleTimeUtc : Option String := none
  candleCloseAtUtc : Option String := none

/-- A row of `live_order_logs`, with the columns the duplicate guards look at. -/
structure OrderLogRow where
  id : ℕ
  requestId : String
  clientOrderId : String
  orderUuid : Option String
  idempotencyKey : Option String
  exchange : String
  market : String
  sessionId : Option ℕ
  candidateStrategyId : Option ℕ
  side : OrderSide
  status : OrderStatus
  strategyName : Option String
  signalType : Option String
  candleTimeUtc : Option String
  candleCloseAtUtc : Option String

/-- `live_order_idempotency.status`. -/
inductive ClaimStatus where
  | claimed
  | order (status : OrderStatus)

/-- `live_order_idempotency`. -/
structure IdempotencyClaim where
  id : ℕ
  idempotencyKey : String
  requestId : String
  clientOrderId : String
  exchangeOrderUuid : Option String
  exchange : String
  market : String
  sessionId : Option ℕ
  strategyName : String
  signalType : String
  candleCloseAtUtc : String
  status : ClaimStatus := .claimed

instance : Row OrderLogRow := ⟨OrderLogRow.id⟩
instance : Row IdempotencyClaim := ⟨IdempotencyClaim.id⟩

theorem noRows_unique : (Table.empty : Table OrderLogRow).UniqueOn OrderLogRow.requestId :=
  List.nodup_nil

theorem noClaims_unique :
    (Table.empty : Table IdempotencyClaim).UniqueOn IdempotencyClaim.idempotencyKey :=
  List.nodup_nil

theorem noClaimedRequests_unique :
    (Table.empty : Table IdempotencyClaim).UniqueOn IdempotencyClaim.requestId :=
  List.nodup_nil

/-- The two tables, with their `UNIQUE` columns. -/
structure OrderLogs where
  logs : Table OrderLogRow := Table.empty
  claims : Table IdempotencyClaim := Table.empty
  requestId_unique : logs.UniqueOn OrderLogRow.requestId := by
    first | exact noRows_unique | decide
  key_unique : claims.UniqueOn IdempotencyClaim.idempotencyKey := by
    first | exact noClaims_unique | decide
  claimRequest_unique : claims.UniqueOn IdempotencyClaim.requestId := by
    first | exact noClaimedRequests_unique | decide

/-- There is a claim for the key: `live_order_idempotency_exists`. -/
def liveOrderIdempotencyExists (db : OrderLogs) (idempotencyKey : String) : Bool :=
  db.claims.rows.any (fun c => c.idempotencyKey == idempotencyKey)

/-! ## `insert_live_order_log` -/

/-- What `insert_live_order_log` raises. -/
inductive InsertError where
  | duplicateClientOrderId
  | duplicateExchangeOrderUuid
  | duplicateIdempotencyKey
  -- `sqlite3.IntegrityError`, from `UNIQUE(request_id)` of the logs
  | integrityError
  -- `OverflowError`, from `_canonical_utc`
  | overflowError
  deriving DecidableEq

def liveOrderShouldClaimIdempotency (log : OrderLogInsert) : Bool :=
  if toText log.idempotencyKey = "" then false
  else if isLiveOrderStatusEventRequest log.requestId then false
  else !([OrderStatus.blocked, .failed, .error].contains log.status)

/-- `_find_canonical_live_order_by_uuid`. -/
def findCanonicalOrderLog (db : OrderLogs) (orderUuid : String)
    (excludeRequestId : Option String) : Option OrderLogRow :=
  if orderUuid = "" then none
  else db.logs.rows.find? (fun r => r.orderUuid == some orderUuid
    && some r.requestId != excludeRequestId && !liveOrderEventRequestIdFilter r.requestId)

def insertedRow (log : OrderLogInsert) (clientOrderId : String)
    (candleTimeUtc candleCloseAtUtc : Option String) (id : ℕ) : OrderLogRow :=
  { id := id
    requestId := log.requestId
    clientOrderId := clientOrderId
    orderUuid := log.orderUuid
    idempotencyKey := log.idempotencyKey
    exchange := log.exchange
    market := log.market
    sessionId := log.sessionId
    candidateStrategyId := log.candidateStrategyId
    side := log.side
    status := log.status
    strategyName := log.strategyName
    signalType := log.signalType
    candleTimeUtc := candleTimeUtc
    candleCloseAtUtc := candleCloseAtUtc }

/-- `str(side)`. -/
def OrderSide.text : OrderSide → String
  | .buy => "BUY"
  | .sell => "SELL"
  | .bid => "BID"
  | .ask => "ASK"

def insertedClaim (log : OrderLogInsert) (clientOrderId : String)
    (candleCloseAtUtc : Option String) (nowUtc : String) (id : ℕ) : IdempotencyClaim :=
  { id := id
    idempotencyKey := toText log.idempotencyKey
    requestId := log.requestId
    clientOrderId := clientOrderId
    exchangeOrderUuid := if toText log.orderUuid = "" then none else log.orderUuid
    exchange := log.exchange
    market := log.market
    sessionId := log.sessionId
    strategyName := toText log.strategyName
    signalType := orText (toText log.signalType) log.side.text
    candleCloseAtUtc := orText (toText candleCloseAtUtc) nowUtc }

/-- The claim is taken, or one of its `UNIQUE` columns is: `DUPLICATE_IDEMPOTENCY_KEY`. -/
def claimTaken (db : OrderLogs) (log : OrderLogInsert) : Bool :=
  db.claims.rows.any (fun c =>
    c.idempotencyKey == toText log.idempotencyKey || c.requestId == log.requestId)

/-- `INSERT INTO live_order_idempotency …`, if the order claims its key. -/
def claimIdempotency (db : OrderLogs) (log : OrderLogInsert) (clientOrderId : String)
    (candleCloseAtUtc : Option String) (nowUtc : String) : Except InsertError OrderLogs :=
  if liveOrderShouldClaimIdempotency log then
    if h : claimTaken db log then .error .duplicateIdempotencyKey
    else
      have hfree : ∀ c ∈ db.claims.rows,
          c.idempotencyKey ≠ toText log.idempotencyKey ∧ c.requestId ≠ log.requestId := by
        intro c hc
        unfold claimTaken at h
        rw [Bool.not_eq_true, List.any_eq_false] at h
        simpa [not_or] using h c hc
      .ok { db with
        claims := db.claims.insert (insertedClaim log clientOrderId candleCloseAtUtc nowUtc)
          (fun _ => rfl)
        key_unique := db.key_unique.insert _ _ (fun c hc => (hfree c hc).1)
        claimRequest_unique := db.claimRequest_unique.insert _ _ (fun c hc => (hfree c hc).2) }
  else .ok db

/-- `INSERT INTO live_order_logs …`. -/
def insertRow (db : OrderLogs) (log : OrderLogInsert) (clientOrderId : String)
    (candleTimeUtc candleCloseAtUtc : Option String) : Except InsertError OrderLogs :=
  if h : db.logs.rows.any (fun r => r.requestId == log.requestId) then .error .integrityError
  else
    .ok { db with
      logs := db.logs.insert (insertedRow log clientOrderId candleTimeUtc candleCloseAtUtc)
        (fun _ => rfl)
      requestId_unique := db.requestId_unique.insert _ _ (fun r hr => by
        rw [Bool.not_eq_true, List.any_eq_false] at h
        exact fun heq => h r hr (beq_iff_eq.mpr heq)) }

/-- `insert_live_order_log`: one connection block, which commits at its end. -/
def insertLiveOrderLog (db : OrderLogs) (log : OrderLogInsert) (nowUtc : String) :
    Except InsertError OrderLogs :=
  let clientOrderId := orText (toText log.clientOrderId)
    (String.ofList (log.requestId.toList.take 36))
  let closing := if toText log.candleCloseAtUtc = "" then log.candleTimeUtc
    else log.candleCloseAtUtc
  match canonicalUtc closing log.candleTimeUtc,
      canonicalUtc log.candleTimeUtc log.candleTimeUtc with
  | some candleCloseAtUtc, some candleTimeUtc =>
    if db.logs.rows.any (fun r =>
          r.clientOrderId == clientOrderId && r.requestId != log.requestId)
        && !isLiveOrderStatusEventRequest log.requestId then
      .error .duplicateClientOrderId
    else if !isLiveOrderStatusEventRequest log.requestId
        && (findCanonicalOrderLog db (toText log.orderUuid) none).isSome then
      .error .duplicateExchangeOrderUuid
    else do
      let db ← claimIdempotency db log clientOrderId candleCloseAtUtc nowUtc
      insertRow db log clientOrderId candleTimeUtc candleCloseAtUtc
  | _, _ => .error .overflowError

/-! ## `update_live_order_log` -/

/-- The keys of an update that these columns know. -/
structure OrderLogRowUpdates where
  status : Option OrderStatus := none
  orderUuid : Option (Option String) := none

/-- Its read: `get_live_order_log`. -/
def readLiveOrderLog (db : OrderLogs) (requestId : String) : Option OrderLogRow :=
  db.logs.rows.find? (fun r => r.requestId == requestId)

/-- `{**current, **updates}`; `none` is an exception of `_canonical_utc`. -/
def mergedRow (db : OrderLogs) (current : OrderLogRow) (u : OrderLogRowUpdates) :
    Option OrderLogRow := do
  let candleTimeUtc ← canonicalUtc current.candleTimeUtc current.candleTimeUtc
  let closing := if toText current.candleCloseAtUtc = "" then candleTimeUtc
    else current.candleCloseAtUtc
  let candleCloseAtUtc ← canonicalUtc closing current.candleCloseAtUtc
  let merged := { current with
    status := u.status.getD current.status
    orderUuid := u.orderUuid.getD current.orderUuid
    candleTimeUtc := candleTimeUtc
    candleCloseAtUtc := candleCloseAtUtc }
  if !isLiveOrderStatusEventRequest current.requestId
      && (findCanonicalOrderLog db (toText merged.orderUuid) (some current.requestId)).isSome then
    some { merged with status := .failed, orderUuid := current.orderUuid }
  else some merged

def IdempotencyClaim.record (merged : OrderLogRow) (c : IdempotencyClaim) : IdempotencyClaim :=
  { c with
    exchangeOrderUuid := merged.orderUuid.or c.exchangeOrderUuid
    status := .order merged.status }

/-- Its write, one connection block: the row that was read, merged, and the claim of its key. -/
def writeLiveOrderLog (db : OrderLogs) (current : OrderLogRow) (u : OrderLogRowUpdates) :
    OrderLogs :=
  match mergedRow db current u with
  | none => db
  | some merged =>
    { logs := db.logs.modifyWhere (fun r => r.requestId == current.requestId)
        (fun r => { merged with id := r.id, requestId := r.requestId }) (fun _ => rfl)
      claims := db.claims.modifyWhere (fun c =>
          toText merged.idempotencyKey != "" && c.idempotencyKey == toText merged.idempotencyKey)
        (IdempotencyClaim.record merged) (fun _ => rfl)
      requestId_unique := db.requestId_unique.modifyWhere _ _ (fun _ => rfl)
      key_unique := db.key_unique.modifyWhere _ _ (fun _ => rfl)
      claimRequest_unique := db.claimRequest_unique.modifyWhere _ _ (fun _ => rfl) }

/-! ## What an insert does -/

section Inserts

variable {db db' : OrderLogs} {log : OrderLogInsert} {nowUtc clientOrderId : String}
  {candleTimeUtc candleCloseAtUtc : Option String}

def Claimed (db : OrderLogs) (key : String) : Prop :=
  ∃ c ∈ db.claims.rows, c.idempotencyKey = key

theorem insertLiveOrderLog_ok (h : insertLiveOrderLog db log nowUtc = .ok db') :
    ∃ clientOrderId candleTimeUtc candleCloseAtUtc claimed,
      canonicalUtc (if toText log.candleCloseAtUtc = "" then log.candleTimeUtc
          else log.candleCloseAtUtc) log.candleTimeUtc = some candleCloseAtUtc
        ∧ canonicalUtc log.candleTimeUtc log.candleTimeUtc = some candleTimeUtc
        ∧ claimIdempotency db log clientOrderId candleCloseAtUtc nowUtc = .ok claimed
        ∧ insertRow claimed log clientOrderId candleTimeUtc candleCloseAtUtc = .ok db' := by
  unfold insertLiveOrderLog at h
  dsimp only at h
  split at h
  · rename_i candleCloseAtUtc candleTimeUtc hclose htime
    split_ifs at h
    cases hclaimed : claimIdempotency db log (orText (toText log.clientOrderId)
        (String.ofList (log.requestId.toList.take 36))) candleCloseAtUtc nowUtc with
    | error exc => rw [hclaimed] at h; cases h
    | ok claimed =>
      rw [hclaimed] at h
      exact ⟨_, candleTimeUtc, candleCloseAtUtc, claimed, hclose, htime, hclaimed, h⟩
  · cases h

theorem insertRow_ok
    (h : insertRow db log clientOrderId candleTimeUtc candleCloseAtUtc = .ok db') :
    db'.claims = db.claims ∧ db'.logs.rows = db.logs.rows
      ++ [insertedRow log clientOrderId candleTimeUtc candleCloseAtUtc db.logs.nextId] := by
  unfold insertRow at h
  split_ifs at h
  cases h
  exact ⟨rfl, rfl⟩

theorem claimIdempotency_ok
    (h : claimIdempotency db log clientOrderId candleCloseAtUtc nowUtc = .ok db') :
    db'.logs = db.logs ∧ (∀ key, Claimed db key → Claimed db' key)
      ∧ (liveOrderShouldClaimIdempotency log = true →
        ¬ Claimed db (toText log.idempotencyKey) ∧ Claimed db' (toText log.idempotencyKey)) := by
  unfold claimIdempotency at h
  split_ifs at h with hshould htaken
  · cases h
    refine ⟨rfl, fun key hkey => ?_, fun _ => ⟨fun hkey => ?_, ?_⟩⟩
    · obtain ⟨c, hc, hsame⟩ := hkey
      exact ⟨c, List.mem_append_left _ hc, hsame⟩
    · obtain ⟨c, hc, hsame⟩ := hkey
      refine htaken (List.any_eq_true.mpr ⟨c, hc, ?_⟩)
      rw [hsame, beq_self_eq_true, Bool.true_or]
    · exact ⟨_, List.mem_append_right _ (List.mem_singleton_self _), rfl⟩
  · cases h
    exact ⟨rfl, fun _ hkey => hkey, fun hclaims => absurd hclaims hshould⟩

/-- **A key is claimed once**: an order that claims it goes in only where it was free, and claims
stay. -/
theorem insertLiveOrderLog_claims (h : insertLiveOrderLog db log nowUtc = .ok db') :
    (∀ key, Claimed db key → Claimed db' key)
      ∧ (liveOrderShouldClaimIdempotency log = true →
        ¬ Claimed db (toText log.idempotencyKey) ∧ Claimed db' (toText log.idempotencyKey)) := by
  obtain ⟨clientOrderId, candleTimeUtc, candleCloseAtUtc, claimed, -, -, hclaim, hrow⟩ :=
    insertLiveOrderLog_ok h
  obtain ⟨-, hkept, hfirst⟩ := claimIdempotency_ok hclaim
  have hclaims : ∀ key, Claimed claimed key → Claimed db' key := by
    intro key hkey
    unfold Claimed
    rw [(insertRow_ok hrow).1]
    exact hkey
  exact ⟨fun key hkey => hclaims key (hkept key hkey),
    fun hshould => ⟨(hfirst hshould).1, hclaims _ (hfirst hshould).2⟩⟩

theorem insertLiveOrderLog_row (h : insertLiveOrderLog db log nowUtc = .ok db') :
    ∃ clientOrderId candleTimeUtc candleCloseAtUtc id,
      canonicalUtc (if toText log.candleCloseAtUtc = "" then log.candleTimeUtc
          else log.candleCloseAtUtc) log.candleTimeUtc = some candleCloseAtUtc
        ∧ canonicalUtc log.candleTimeUtc log.candleTimeUtc = some candleTimeUtc
        ∧ insertedRow log clientOrderId candleTimeUtc candleCloseAtUtc id ∈ db'.logs.rows := by
  obtain ⟨clientOrderId, candleTimeUtc, candleCloseAtUtc, claimed, hclose, htime, -, hrow⟩ :=
    insertLiveOrderLog_ok h
  refine ⟨clientOrderId, candleTimeUtc, candleCloseAtUtc, claimed.logs.nextId, hclose, htime, ?_⟩
  rw [(insertRow_ok hrow).2]
  exact List.mem_append_right _ (List.mem_singleton_self _)

theorem claimed_writeLiveOrderLog (current : OrderLogRow) (u : OrderLogRowUpdates) {key : String}
    (h : Claimed db key) : Claimed (writeLiveOrderLog db current u) key := by
  unfold writeLiveOrderLog
  split
  · exact h
  · obtain ⟨c, hc, hsame⟩ := h
    refine ⟨_, List.mem_map_of_mem hc, ?_⟩
    split_ifs
    · exact hsame
    · exact hsame

end Inserts

end AutoCoinBot
