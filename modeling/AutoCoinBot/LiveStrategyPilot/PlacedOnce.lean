/-
  LiveStrategyPilot.PlacedOnce — at most one order per signal.

  A tick that may order looks for an order of its signal, asks the risk manager, writes the
  order's row with its idempotency claim, and places the order. It is cut between these, and
  wherever it waits; ticks of any number of processes may be anywhere in between, and one whose
  process stops is never heard of again.
-/
import AutoCoinBot.Library.Await
import AutoCoinBot.LiveRecovery.OrderCalls
import AutoCoinBot.RiskManager.DuplicateCandles

namespace AutoCoinBot

open Library

/-! ## Orders of a signal -/

/-- A character of `uuid.uuid4().hex`. -/
def isHexDigit (c : Char) : Bool := "0123456789abcdef".toList.contains c

/-- Some of `uuid.uuid4().hex`. -/
structure HexText where
  chars : List Char
  hex : chars.all isHexDigit = true := by decide

def exampleRequestHex : HexText := { chars := "0123456789abcdef01".toList }

/-- The ways of a tick to `broker.place_order`. -/
inductive SubmitPath where
  -- `_submit_entry_order`
  | entry
  -- `_submit_smart_intent_order`
  | smartBuy
  -- `_submit_smart_intent_sell_order`
  | smartSell
  deriving DecidableEq

/-- `order["side"]`. -/
def SubmitPath.side : SubmitPath → OrderSide
  | .entry | .smartBuy => .buy
  | .smartSell => .sell

/-- The session a tick is for, `KRW-BTC` where it has no market. -/
structure TickSession where
  id : ℕ
  candidateStrategyId : ℕ
  strategyName : Option String
  exchange : String := "bithumb"
  market : String

/-- A tick that may order: its signal, and the identifier it would give its order. -/
structure SignalTick where
  path : SubmitPath
  session : TickSession
  candleTimeUtc : Option String
  signal : Option String
  requestHex : HexText

def orderIdempotencyKey (session : TickSession) (market : String)
    (candleTimeUtc signalType : Option String) (side : OrderSide) : String :=
  (if session.id = 0 then "" else toString session.id) ++ ":" ++ (symbolOf market).toUpper ++ ":"
    ++ (toText session.strategyName).toLower ++ ":" ++ toText candleTimeUtc ++ ":"
    ++ (orText (toText signalType) side.text).toUpper

/-- `_is_smart_autonomous_session`. -/
def TickSession.isSmartAutonomous (session : TickSession) : Bool :=
  session.candidateStrategyId == 0 || (toText session.strategyName).toLower == "smart_autonomous"

namespace SignalTick

variable (t : SignalTick)

/-- `idempotency_key`. -/
def key : String :=
  orderIdempotencyKey t.session t.session.market t.candleTimeUtc t.signal t.path.side

def requestId : String :=
  match t.path with
  | .entry => String.ofList ("strategy-".toList ++ t.requestHex.chars)
  | .smartBuy | .smartSell => String.ofList ("smart-rehearsal-".toList ++ t.requestHex.chars)

/-- `_log_payload` of the order. -/
def logPayload (status : OrderStatus) : OrderLogInsert :=
  { requestId := t.requestId
    clientOrderId := some (String.ofList (t.requestId.toList.take 36))
    idempotencyKey := some t.key
    exchange := "bithumb"
    market := t.session.market
    sessionId := some t.session.id
    candidateStrategyId := some t.session.candidateStrategyId
    side := t.path.side
    status := status
    strategyName := t.session.strategyName
    signalType := some (orText (toText t.signal) t.path.side.text)
    candleTimeUtc := t.candleTimeUtc
    candleCloseAtUtc := t.candleTimeUtc }

/-- `_log_payload` of a tick that is blocked before there is an order. -/
def blockedPayload (hex : HexText) : OrderLogInsert :=
  let requestId := String.ofList ("strategy-blocked-".toList ++ hex.chars)
  { requestId := requestId
    clientOrderId := some (String.ofList (requestId.toList.take 36))
    exchange := t.session.exchange
    market := t.session.market
    sessionId := some t.session.id
    candidateStrategyId := some t.session.candidateStrategyId
    status := .blocked
    strategyName := t.session.strategyName
    signalType := some (orText (toText t.signal) "BUY")
    candleTimeUtc := t.candleTimeUtc
    candleCloseAtUtc := t.candleTimeUtc }

/-- An order of the signal is on record: the smart submitter asks for either side. -/
def alreadyOrdered (db : OrderLogs) : Option Bool :=
  let ordered := fun side => hasLiveStrategyOrderForSignal db t.session.id
    t.session.candidateStrategyId t.session.market t.candleTimeUtc t.signal side
  match t.path with
  | .entry => ordered .buy
  | .smartBuy | .smartSell => do
      let bought ← ordered .buy
      if bought then return true
      ordered .sell

def duplicateQuery : DuplicateQuery :=
  { exchange := "bithumb"
    market := t.session.market
    side := t.path.side
    requestId := t.requestId
    sessionId := some t.session.id
    candidateStrategyId :=
      if t.path ≠ .entry ∧ t.session.isSmartAutonomous then none
      else some t.session.candidateStrategyId
    candleTimeUtc := t.candleTimeUtc }

end SignalTick

/-! ## Ticks, cut where others may come between -/

/-- The tables, and the ticks that `broker.place_order` was called for. -/
structure Submissions where
  db : OrderLogs
  placed : List SignalTick := []

/-- Where a tick is: what it does next. -/
inductive TickTask where
  | looksUp (t : SignalTick)
  | checksRisk (t : SignalTick)
  | logs (t : SignalTick)
  | places (t : SignalTick)
  | records (t : SignalTick)
  | writes (current : OrderLogRow) (updates : OrderLogRowUpdates)

/-- How it goes there. -/
inductive TickReply where
  -- the rest of the code, and of the exchange, lets it
  | goesOn (hex : HexText) (nowUtc : String)
  -- `_insert_blocked_log`, with the order or without
  | blocked (withOrder : Bool) (hex : HexText) (nowUtc : String)
  -- it returns or raises, and writes nothing here
  | stops
  -- what `place_order` answers
  | answers (response : RawOrder)
  | fails (exc : ApiError)

/-- `insert_live_order_log` in a `try`. -/
def insertOrKeep (db : OrderLogs) (log : OrderLogInsert) (nowUtc : String) : OrderLogs :=
  match insertLiveOrderLog db log nowUtc with
  | .ok db' => db'
  | .error _ => db

/-- `_insert_blocked_log`. -/
def SignalTick.insertBlocked (t : SignalTick) (db : OrderLogs) (withOrder : Bool) (hex : HexText)
    (nowUtc : String) : OrderLogs :=
  insertOrKeep db (if withOrder then t.logPayload .blocked else t.blockedPayload hex) nowUtc

/-- What an order's row is told of an exception. -/
def SignalTick.failedUpdates (t : SignalTick) (exc : ApiError) : OrderLogRowUpdates :=
  if t.path = .entry ∧ isTimeoutException exc then { status := some .submitted }
  else { status := some .failed }

/-- `update_live_order_log`, up to its write. -/
def SignalTick.readsRow (t : SignalTick) (db : OrderLogs) (updates : OrderLogRowUpdates) :
    Option TickTask :=
  (readLiveOrderLog db t.requestId).map (fun current => .writes current updates)

section Stages

variable (t : SignalTick) (hex : HexText) (nowUtc : String) (s : Submissions)

def SignalTick.endsBlocked (withOrder : Bool) : Submissions × Option TickTask :=
  ({ s with db := t.insertBlocked s.db withOrder hex nowUtc }, none)

/-- The signal guard; a smart tick that is stopped by it writes no row. -/
def SignalTick.looksUp : Submissions × Option TickTask :=
  match t.alreadyOrdered s.db with
  | some false => (s, some (.checksRisk t))
  | some true => if t.path = .entry then t.endsBlocked hex nowUtc s false else (s, none)
  | none => (s, none)

def SignalTick.checksRisk : Submissions × Option TickTask :=
  match s.db.duplicateOrderExists t.duplicateQuery with
  | some _ => t.endsBlocked hex nowUtc s true
  | none => (s, some (.logs t))

def SignalTick.logs : Submissions × Option TickTask :=
  match insertLiveOrderLog s.db (t.logPayload .previewed) nowUtc with
  | .ok db => ({ s with db := db }, some (.places t))
  | .error _ => (s, none)

end Stages

def resumeTick : TickTask → TickReply → Submissions → Submissions × Option TickTask
  | .looksUp t, .goesOn hex nowUtc, s => t.looksUp hex nowUtc s
  | .looksUp t, .blocked _ hex nowUtc, s => t.endsBlocked hex nowUtc s false
  | .checksRisk t, .goesOn hex nowUtc, s => t.checksRisk hex nowUtc s
  | .checksRisk t, .blocked withOrder hex nowUtc, s => t.endsBlocked hex nowUtc s withOrder
  | .logs t, .goesOn _ nowUtc, s => t.logs nowUtc s
  | .logs t, .blocked withOrder hex nowUtc, s => t.endsBlocked hex nowUtc s withOrder
  | .places t, .goesOn _ _, s => ({ s with placed := s.placed ++ [t] }, some (.records t))
  | .records t, .answers response, s =>
    (s, t.readsRow s.db
      { status := some .submitted, orderUuid := some (some response.orderUuid) })
  | .records t, .fails exc, s => (s, t.readsRow s.db (t.failedUpdates exc))
  | .writes current updates, .goesOn _ _, s =>
    ({ s with db := writeLiveOrderLog s.db current updates }, none)
  | _, _, s => (s, none)

/-- What everything else does to the tables. -/
inductive LogsEvent where
  | inserts (log : OrderLogInsert) (nowUtc : String)
  | updates (current : OrderLogRow) (updates : OrderLogRowUpdates)

/-- Ticks, in any number and from any process. -/
def signalTicks : Awaiting Submissions TickTask LogsEvent SignalTick TickReply where
  move s
    | .inserts log nowUtc => { s with db := insertOrKeep s.db log nowUtc }
    | .updates current updates => { s with db := writeLiveOrderLog s.db current updates }
  begin _ t := some (.looksUp t)
  resume := resumeTick

/-! ## Every order claims its key -/

theorem containsChars_dash {rest word : List Char} (hword : '-' ∉ word) (tail : List Char) :
    containsChars ('-' :: rest) (word ++ '-' :: tail)
      = (rest.isPrefixOf tail || containsChars ('-' :: rest) tail) := by
  induction word with
  | nil =>
    show (('-' :: rest).isPrefixOf ('-' :: tail) || _) = _
    rw [List.isPrefixOf_cons_cons, beq_self_eq_true, Bool.true_and]
  | cons c word ih =>
    obtain ⟨hc, hword⟩ := not_or.mp (fun h => hword (List.mem_cons.mpr h))
    show (('-' :: rest).isPrefixOf (c :: (word ++ '-' :: tail))
      || containsChars ('-' :: rest) (word ++ '-' :: tail)) = _
    rw [List.isPrefixOf_cons_cons, beq_eq_false_iff_ne.mpr hc, Bool.false_and, Bool.false_or,
      ih hword]

theorem containsChars_no_dash {rest text : List Char} (htext : '-' ∉ text) :
    containsChars ('-' :: rest) text = false := by
  induction text with
  | nil => rfl
  | cons c text ih =>
    obtain ⟨hc, htext⟩ := not_or.mp (fun h => htext (List.mem_cons.mpr h))
    show (('-' :: rest).isPrefixOf (c :: text) || containsChars ('-' :: rest) text) = false
    rw [List.isPrefixOf_cons_cons, beq_eq_false_iff_ne.mpr hc, Bool.false_and, Bool.false_or,
      ih htext]

theorem containsChars_hex {rest word : List Char} (hrest : rest.all isHexDigit = false)
    (hword : '-' ∉ word) (hex : HexText) :
    containsChars ('-' :: rest) (word ++ '-' :: hex.chars) = false := by
  have hnone : '-' ∉ hex.chars := fun hmem =>
    absurd (List.all_eq_true.mp hex.hex '-' hmem) (by decide)
  have hprefix : rest.isPrefixOf hex.chars = false := by
    rw [← Bool.not_eq_true, List.isPrefixOf_iff_prefix]
    rintro ⟨tail, htail⟩
    refine Bool.eq_false_iff.mp hrest (List.all_eq_true.mpr fun c hc => ?_)
    exact List.all_eq_true.mp hex.hex c (htail ▸ List.mem_append_left tail hc)
  rw [containsChars_dash hword, hprefix, containsChars_no_dash hnone, Bool.or_self]

theorem map_toLower_hex (hex : HexText) : hex.chars.map Char.toLower = hex.chars := by
  have hlower : "0123456789abcdef".toList.all (fun c => c.toLower == c) = true := by decide
  refine (List.map_congr_left (fun c hc => ?_)).trans (List.map_id hex.chars)
  have hdigit := List.contains_iff_mem.mp (List.all_eq_true.mp hex.hex c hc)
  exact beq_iff_eq.mp (List.all_eq_true.mp hlower c hdigit)

theorem canonical_of_patterns {chars : List Char}
    (h : ∀ rest : List Char, rest.all isHexDigit = false → rest.head? ≠ some 'r' →
      containsChars ('-' :: rest) (chars.map Char.toLower) = false) :
    liveOrderEventRequestIdFilter (String.ofList chars) = false := by
  have hpatterns : ∀ pat ∈ ["-submitted", "-waiting-", "-partial", "-canceled-", "-filled-",
      "-failed-"], ∃ rest, pat.toList.map Char.toLower = '-' :: rest
        ∧ rest.all isHexDigit = false ∧ rest.head? ≠ some 'r' := by
    intro pat hpat
    refine ⟨(pat.toList.map Char.toLower).tail, ?_⟩
    revert pat
    decide +kernel
  unfold liveOrderEventRequestIdFilter
  rw [List.any_eq_false]
  intro pat hpat
  obtain ⟨rest, hpattern, hrest, hhead⟩ := hpatterns pat hpat
  rw [Bool.not_eq_true]
  unfold likeContains
  rw [hpattern, String.toList_ofList]
  exact h rest hrest hhead

theorem wordedId_canonical {word : List Char} (hlower : word.map Char.toLower = word)
    (hword : '-' ∉ word) (hex : HexText) :
    liveOrderEventRequestIdFilter (String.ofList (word ++ '-' :: hex.chars)) = false := by
  refine canonical_of_patterns (fun rest hrest _ => ?_)
  rw [List.map_append, List.map_cons, hlower, map_toLower_hex]
  exact containsChars_hex hrest hword hex

/-- **An order's own row is canonical.** -/
theorem requestId_canonical (t : SignalTick) :
    liveOrderEventRequestIdFilter t.requestId = false := by
  have hstrategy : liveOrderEventRequestIdFilter
      (String.ofList ("strategy-".toList ++ t.requestHex.chars)) = false :=
    @wordedId_canonical "strategy".toList (by decide +kernel) (by decide +kernel) t.requestHex
  have hsmart : liveOrderEventRequestIdFilter
      (String.ofList ("smart-rehearsal-".toList ++ t.requestHex.chars)) = false := by
    refine canonical_of_patterns (fun rest hrest hhead => ?_)
    have hfirst : rest.isPrefixOf ('r' :: ("ehearsal".toList ++ '-' :: t.requestHex.chars))
        = false := by
      cases rest with
      | nil => cases hrest
      | cons c rest =>
        rw [List.isPrefixOf_cons_cons, beq_eq_false_iff_ne.mpr (fun h => hhead (by rw [h]; rfl)),
          Bool.false_and]
    rw [List.map_append, map_toLower_hex]
    show containsChars ('-' :: rest)
      ("smart".toList ++ '-' :: ('r' :: ("ehearsal".toList ++ '-' :: t.requestHex.chars))) = false
    rw [containsChars_dash (by decide +kernel), hfirst, Bool.false_or]
    exact @containsChars_hex rest "rehearsal".toList hrest (by decide +kernel) t.requestHex
  unfold SignalTick.requestId
  cases t.path with
  | entry => exact hstrategy
  | smartBuy => exact hsmart
  | smartSell => exact hsmart

theorem requestId_not_event (t : SignalTick) :
    isLiveOrderStatusEventRequest t.requestId = false :=
  not_statusEvent_of_canonical (requestId_canonical t)

theorem key_ne_empty (t : SignalTick) : t.key ≠ "" := by
  intro hempty
  unfold SignalTick.key orderIdempotencyKey at hempty
  have hchars := congrArg String.toList hempty
  simp at hchars

theorem shouldClaim_logPayload (t : SignalTick) :
    liveOrderShouldClaimIdempotency (t.logPayload .previewed) = true := by
  have hkey : ¬ toText (t.logPayload .previewed).idempotencyKey = "" := key_ne_empty t
  have hevent : ¬ isLiveOrderStatusEventRequest (t.logPayload .previewed).requestId = true := by
    show ¬ isLiveOrderStatusEventRequest t.requestId = true
    rw [requestId_not_event t]
    decide
  unfold liveOrderShouldClaimIdempotency
  rw [if_neg hkey, if_neg hevent]
  rfl

/-! ## Claims as tokens -/

/-- The key of an order that is logged and not placed yet. -/
def TickTask.heldKeys : TickTask → List String
  | .places t => [t.key]
  | _ => []

/-- A claim is issued with its row, held by the tick that wrote it, and spent by
`place_order`. -/
def claimTokens : TokenView Submissions TickTask String where
  held := TickTask.heldKeys
  issued s key := Claimed s.db key
  spent s := s.placed.map SignalTick.key

theorem claimed_insertOrKeep {db : OrderLogs} (log : OrderLogInsert) (nowUtc : String)
    {key : String} (h : Claimed db key) : Claimed (insertOrKeep db log nowUtc) key := by
  unfold insertOrKeep
  cases hinsert : insertLiveOrderLog db log nowUtc with
  | ok db' => exact (insertLiveOrderLog_claims hinsert).1 key h
  | error exc => exact h

/-- What a reply does to claims and calls. -/
structure TickStep (s : Submissions) (task : TickTask) (after : Submissions × Option TickTask) :
    Prop where
  claims : ∀ key, Claimed s.db key → Claimed after.1.db key
  tokens : ∃ fresh : List String, fresh.Nodup ∧ (∀ key ∈ fresh, ¬ Claimed s.db key)
    ∧ (∀ key ∈ fresh, Claimed after.1.db key)
    ∧ (after.1.placed.map SignalTick.key
        ++ after.2.toList.flatMap TickTask.heldKeys).Subperm
      (s.placed.map SignalTick.key ++ task.heldKeys ++ fresh)

section Steps

variable {s : Submissions} {task : TickTask}

theorem TickStep.quiet {after : Submissions × Option TickTask}
    (hclaims : ∀ key, Claimed s.db key → Claimed after.1.db key) (hplaced : after.1.placed = s.placed)
    (hheld : after.2.toList.flatMap TickTask.heldKeys = []) : TickStep s task after := by
  refine ⟨hclaims, [], List.nodup_nil, fun _ h => (List.not_mem_nil h).elim,
    fun _ h => (List.not_mem_nil h).elim, ?_⟩
  rw [hplaced, hheld, List.append_nil, List.append_nil]
  exact (List.sublist_append_left _ _).subperm

theorem TickStep.stays (s : Submissions) (task : TickTask) : TickStep s task (s, none) :=
  .quiet (fun _ h => h) rfl rfl

theorem TickStep.blocked (t : SignalTick) (withOrder : Bool) (hex : HexText) (nowUtc : String) :
    TickStep s task (t.endsBlocked hex nowUtc s withOrder) :=
  .quiet (fun _ h => claimed_insertOrKeep _ nowUtc h) rfl rfl

theorem TickStep.looksUp (t : SignalTick) (hex : HexText) (nowUtc : String) :
    TickStep s (.looksUp t) (t.looksUp hex nowUtc s) := by
  unfold SignalTick.looksUp
  split
  · exact .quiet (fun _ h => h) rfl rfl
  · split_ifs
    · exact .blocked t false hex nowUtc
    · exact .stays s _
  · exact .stays s _

theorem TickStep.checksRisk (t : SignalTick) (hex : HexText) (nowUtc : String) :
    TickStep s (.checksRisk t) (t.checksRisk hex nowUtc s) := by
  unfold SignalTick.checksRisk
  split
  · exact .blocked t true hex nowUtc
  · exact .quiet (fun _ h => h) rfl rfl

theorem TickStep.reads (t : SignalTick) (updates : OrderLogRowUpdates) :
    TickStep s task (s, t.readsRow s.db updates) := by
  refine .quiet (fun _ h => h) rfl ?_
  unfold SignalTick.readsRow
  cases readLiveOrderLog s.db t.requestId with
  | none => rfl
  | some current => rfl

theorem TickStep.logs (t : SignalTick) (nowUtc : String) :
    TickStep s (.logs t) (t.logs nowUtc s) := by
  unfold SignalTick.logs
  split
  · rename_i db hinsert
    obtain ⟨hkept, hfirst⟩ := insertLiveOrderLog_claims hinsert
    obtain ⟨hfree, hclaimed⟩ := hfirst (shouldClaim_logPayload t)
    refine ⟨hkept, [t.key], List.nodup_singleton _, ?_, ?_, ?_⟩
    · intro key hkey
      rw [List.mem_singleton.mp hkey]
      exact hfree
    · intro key hkey
      rw [List.mem_singleton.mp hkey]
      exact hclaimed
    · show (s.placed.map SignalTick.key ++ [t.key]).Subperm
        (s.placed.map SignalTick.key ++ [] ++ [t.key])
      rw [List.append_nil]
  · exact .stays s _

theorem TickStep.places (t : SignalTick) :
    TickStep s (.places t) ({ s with placed := s.placed ++ [t] }, some (.records t)) := by
  refine ⟨fun _ h => h, [], List.nodup_nil, fun _ h => (List.not_mem_nil h).elim,
    fun _ h => (List.not_mem_nil h).elim, ?_⟩
  show ((s.placed ++ [t]).map SignalTick.key ++ []).Subperm
    (s.placed.map SignalTick.key ++ [t.key] ++ [])
  rw [List.map_append, List.map_singleton]

end Steps

theorem tickStep_resumeTick (task : TickTask) (reply : TickReply) (s : Submissions) :
    TickStep s task (resumeTick task reply s) := by
  cases task with
  | looksUp t =>
    cases reply with
    | goesOn hex nowUtc => exact .looksUp t hex nowUtc
    | blocked withOrder hex nowUtc => exact .blocked t false hex nowUtc
    | stops => exact .stays s _
    | answers response => exact .stays s _
    | fails exc => exact .stays s _
  | checksRisk t =>
    cases reply with
    | goesOn hex nowUtc => exact .checksRisk t hex nowUtc
    | blocked withOrder hex nowUtc => exact .blocked t withOrder hex nowUtc
    | stops => exact .stays s _
    | answers response => exact .stays s _
    | fails exc => exact .stays s _
  | logs t =>
    cases reply with
    | goesOn hex nowUtc => exact .logs t nowUtc
    | blocked withOrder hex nowUtc => exact .blocked t withOrder hex nowUtc
    | stops => exact .stays s _
    | answers response => exact .stays s _
    | fails exc => exact .stays s _
  | places t =>
    cases reply with
    | goesOn hex nowUtc => exact .places t
    | blocked withOrder hex nowUtc => exact .stays s _
    | stops => exact .stays s _
    | answers response => exact .stays s _
    | fails exc => exact .stays s _
  | records t =>
    cases reply with
    | goesOn hex nowUtc => exact .stays s _
    | blocked withOrder hex nowUtc => exact .stays s _
    | stops => exact .stays s _
    | answers response => exact .reads t _
    | fails exc => exact .reads t _
  | writes current updates =>
    cases reply with
    | goesOn hex nowUtc =>
      exact .quiet (fun _ h => claimed_writeLiveOrderLog current updates h) rfl rfl
    | blocked withOrder hex nowUtc => exact .stays s _
    | stops => exact .stays s _
    | answers response => exact .stays s _
    | fails exc => exact .stays s _

theorem oneShot_signalTicks : OneShot signalTicks claimTokens where
  move s event := by
    cases event with
    | inserts log nowUtc => exact ⟨rfl, fun _ h => claimed_insertOrKeep log nowUtc h⟩
    | updates current updates =>
      exact ⟨rfl, fun _ h => claimed_writeLiveOrderLog current updates h⟩
  begin s t task h := by
    cases h
    rfl
  resume s task reply :=
    have hstep := tickStep_resumeTick task reply s
    ⟨hstep.claims, hstep.tokens⟩

/-- **At most one order per signal reaches the exchange**: from any tables, whatever ticks begin
and however they, and everything else, are interleaved, go on, fail or stop. -/
theorem placed_key_le_one (db : OrderLogs)
    (es : List (Happening LogsEvent SignalTick TickReply)) (key : String) :
    ((run signalTicks.step { world := { db := db } } es).world.placed.map SignalTick.key).count key
      ≤ 1 := by
  have hsound : claimTokens.Sound { world := { db := db } } :=
    ⟨List.nodup_nil, fun _ h => (List.not_mem_nil h).elim⟩
  exact List.nodup_iff_count_le_one.mp (oneShot_signalTicks.nodup_spent hsound es) key

end AutoCoinBot
