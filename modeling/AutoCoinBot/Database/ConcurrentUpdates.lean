/-
  Database.ConcurrentUpdates — calls of `update_live_order_log` that run at once.

  A call reads the order's row on one connection, and on another writes all its columns, those it
  was not told to change as it has read them.
-/
import AutoCoinBot.Database.CandleTimes
import AutoCoinBot.Library.Await

namespace AutoCoinBot

open Library

/-! ## Columns -/

/-- The columns of `live_order_logs` that `update_live_order_log` writes, but `updated_at`. -/
inductive OrderColumn where
  | riskResult
  | exchangeRequestPayloadMasked
  | exchangeResponsePayload
  | status
  | errorMessage
  | sessionId
  | candidateStrategyId
  | orderUuid
  | executedVolume
  | remainingVolume
  | filledAmountKrw
  | paidFee
  | positionId
  | exitCandidateId
  | orderPurpose
  | exitReason
  | expectedPnl
  | actualPnl
  | isAutoExit
  | manualConfirmed
  | strategyName
  | signalReason
  | signalType
  | candleTimeUtc
  | clientOrderId
  | idempotencyKey
  | candleCloseAtUtc
  | signalGeneratedAtUtc
  | orderRequestedAtUtc
  | orderExecutedAtUtc

/-- What a column holds; a document is the text it is dumped to. -/
abbrev OrderColumn.Value : OrderColumn → Type
  | .status => OrderStatus
  | .sessionId | .candidateStrategyId | .positionId | .exitCandidateId => Option ℕ
  | .executedVolume | .remainingVolume | .filledAmountKrw | .paidFee | .expectedPnl | .actualPnl =>
    Option ℚ
  | .isAutoExit | .manualConfirmed => Bool
  | .riskResult | .exchangeRequestPayloadMasked | .exchangeResponsePayload | .errorMessage
  | .orderUuid | .orderPurpose | .exitReason | .strategyName | .signalReason | .signalType
  | .candleTimeUtc | .clientOrderId | .idempotencyKey | .candleCloseAtUtc | .signalGeneratedAtUtc
  | .orderRequestedAtUtc | .orderExecutedAtUtc => Option String

/-- The columns of one row. -/
abbrev OrderCells := (column : OrderColumn) → column.Value

/-- The keys of an update. -/
abbrev OrderUpdates := (column : OrderColumn) → Option column.Value

def OrderUpdates.names (u : OrderUpdates) (column : OrderColumn) : Bool := (u column).isSome

/-- `{**current, **updates}`. -/
def mergedCells (current : OrderCells) (u : OrderUpdates) : OrderCells :=
  fun column => (u column).getD (current column)

/-- The times through `_canonical_utc`; `none` is an exception. -/
def canonicalTimes (merged : OrderCells) : Option OrderCells := do
  let canonical := fun value : Option String => canonicalUtc value value
  let candleTimeUtc ← canonical (merged .candleTimeUtc)
  let closing : Option String :=
    if toText (merged .candleCloseAtUtc) = "" then candleTimeUtc else merged .candleCloseAtUtc
  let candleCloseAtUtc ← canonicalUtc closing (merged .candleCloseAtUtc)
  let signalGeneratedAtUtc ← canonical (merged .signalGeneratedAtUtc)
  let orderRequestedAtUtc ← canonical (merged .orderRequestedAtUtc)
  let orderExecutedAtUtc ← canonical (merged .orderExecutedAtUtc)
  return fun column =>
    match column with
    | .candleTimeUtc => candleTimeUtc
    | .candleCloseAtUtc => candleCloseAtUtc
    | .signalGeneratedAtUtc => signalGeneratedAtUtc
    | .orderRequestedAtUtc => orderRequestedAtUtc
    | .orderExecutedAtUtc => orderExecutedAtUtc
    | column => merged column

/-- A row as every writer leaves it: its times are canonical. -/
structure StoredOrder where
  requestId : String
  cells : OrderCells
  canonical : canonicalTimes cells = some cells

/-! ## Read and write -/

/-- `get_live_order_log`. -/
def storedOrder (rows : List StoredOrder) (requestId : String) : Option StoredOrder :=
  rows.find? (fun r => r.requestId == requestId)

/-- The row that has the order uuid already: `_find_canonical_live_order_by_uuid`. -/
def recordedElsewhere (rows : List StoredOrder) (requestId : String) (orderUuid : Option String) :
    Option String :=
  if toText orderUuid = "" ∨ isLiveOrderStatusEventRequest requestId then none
  else (rows.find? (fun r => r.cells .orderUuid == orderUuid && r.requestId != requestId
    && !liveOrderEventRequestIdFilter r.requestId)).map StoredOrder.requestId

/-- What is written of an order that another row has recorded. -/
def duplicateCells (current merged : OrderCells) (owner : String) : OrderCells :=
  fun column =>
    match column with
    | .status => OrderStatus.failed
    | .riskResult => some "DUPLICATE_EXCHANGE_ORDER_UUID"
    | .errorMessage =>
      some ("Duplicate exchange order uuid already recorded by request_id=" ++ owner)
    | .orderUuid => current .orderUuid
    | column => merged column

/-- A call of `update_live_order_log`. -/
structure UpdateCall where
  requestId : String
  updates : OrderUpdates

/-- A call that has read its row. -/
structure PendingUpdate extends UpdateCall where
  current : StoredOrder

/-- What the call writes; `none` is an exception. -/
def writtenCells (rows : List StoredOrder) (p : PendingUpdate) : Option OrderCells :=
  (canonicalTimes (mergedCells p.current.cells p.updates)).map (fun merged =>
    match recordedElsewhere rows p.requestId (merged .orderUuid) with
    | none => merged
    | some owner => duplicateCells p.current.cells merged owner)

section Canonical

variable {m stored : OrderCells}

/-- The five times of `stored`, and the other columns of `m`. -/
def withTimesOf (stored m : OrderCells) : OrderCells :=
  fun column =>
    match column with
    | .candleTimeUtc => stored .candleTimeUtc
    | .candleCloseAtUtc => stored .candleCloseAtUtc
    | .signalGeneratedAtUtc => stored .signalGeneratedAtUtc
    | .orderRequestedAtUtc => stored .orderRequestedAtUtc
    | .orderExecutedAtUtc => stored .orderExecutedAtUtc
    | column => m column

/-- The times are those that `_canonical_utc` makes of the times of `m`. -/
structure CanonicalOf (m stored : OrderCells) : Prop where
  candleTime : canonicalUtc (m .candleTimeUtc) (m .candleTimeUtc) = some (stored .candleTimeUtc)
  candleClose : canonicalUtc (if toText (m .candleCloseAtUtc) = "" then stored .candleTimeUtc
    else m .candleCloseAtUtc) (m .candleCloseAtUtc) = some (stored .candleCloseAtUtc)
  signalGenerated : canonicalUtc (m .signalGeneratedAtUtc) (m .signalGeneratedAtUtc)
    = some (stored .signalGeneratedAtUtc)
  orderRequested : canonicalUtc (m .orderRequestedAtUtc) (m .orderRequestedAtUtc)
    = some (stored .orderRequestedAtUtc)
  orderExecuted : canonicalUtc (m .orderExecutedAtUtc) (m .orderExecutedAtUtc)
    = some (stored .orderExecutedAtUtc)

theorem canonicalTimes_eq_some_iff :
    canonicalTimes m = some stored ↔ CanonicalOf m stored ∧ stored = withTimesOf stored m := by
  constructor
  · intro h
    unfold canonicalTimes at h
    simp only [Option.bind_eq_bind, Option.bind_eq_some_iff, Option.pure_def,
      Option.some.injEq] at h
    obtain ⟨candle, hcandle, close, hclose, signal, hsignal, requested, hrequested, executed,
      hexecuted, rfl⟩ := h
    exact ⟨⟨hcandle, hclose, hsignal, hrequested, hexecuted⟩, rfl⟩
  · rintro ⟨⟨hcandle, hclose, hsignal, hrequested, hexecuted⟩, hstored⟩
    unfold canonicalTimes
    simp only [hcandle, hclose, hsignal, hrequested, hexecuted, Option.bind_eq_bind,
      Option.bind_some, Option.pure_def]
    rw [hstored]
    rfl

theorem CanonicalOf.candleTime_empty (h : CanonicalOf m stored)
    (hclose : toText (stored .candleCloseAtUtc) = "") : toText (stored .candleTimeUtc) = "" := by
  by_contra htime
  by_cases hempty : toText (m .candleCloseAtUtc) = ""
  · have hcanonical := h.candleClose
    rw [if_pos hempty] at hcanonical
    exact canonicalUtc_ne htime hcanonical hclose
  · have hcanonical := h.candleClose
    rw [if_neg hempty] at hcanonical
    exact canonicalUtc_ne hempty hcanonical hclose

theorem CanonicalOf.self (h : CanonicalOf m stored) : CanonicalOf stored stored where
  candleTime := canonicalUtc_canonicalUtc h.candleTime
  signalGenerated := canonicalUtc_canonicalUtc h.signalGenerated
  orderRequested := canonicalUtc_canonicalUtc h.orderRequested
  orderExecuted := canonicalUtc_canonicalUtc h.orderExecuted
  candleClose := by
    by_cases hempty : toText (stored .candleCloseAtUtc) = ""
    · rw [if_pos hempty]
      exact if_pos (h.candleTime_empty hempty)
    · rw [if_neg hempty]
      have hcanonical := h.candleClose
      by_cases hgiven : toText (if toText (m .candleCloseAtUtc) = "" then stored .candleTimeUtc
          else m .candleCloseAtUtc) = ""
      · -- nothing to canonicalise: the closing time is the one of `m`, which is missing too
        exfalso
        have hdefault := hcanonical
        unfold canonicalUtc at hdefault
        rw [if_pos hgiven, Option.some.injEq] at hdefault
        rw [← hdefault] at hempty
        rw [if_neg hempty] at hgiven
        exact hempty hgiven
      · rw [canonicalUtc_of_ne hgiven _ (if toText (m .candleCloseAtUtc) = ""
          then stored .candleTimeUtc else m .candleCloseAtUtc)] at hcanonical
        exact canonicalUtc_canonicalUtc hcanonical

theorem withTimesOf_self (m : OrderCells) : withTimesOf m m = m := by
  funext column
  cases column <;> rfl

theorem canonicalTimes_of_times {m' : OrderCells} (h : CanonicalOf m m)
    (htimes : withTimesOf m m' = m') : canonicalTimes m' = some m' := by
  refine canonicalTimes_eq_some_iff.mpr ⟨?_, (withTimesOf_self m').symm⟩
  have htime := congrFun htimes .candleTimeUtc
  have hclose := congrFun htimes .candleCloseAtUtc
  have hsignal := congrFun htimes .signalGeneratedAtUtc
  have hrequested := congrFun htimes .orderRequestedAtUtc
  have hexecuted := congrFun htimes .orderExecutedAtUtc
  dsimp only [withTimesOf] at htime hclose hsignal hrequested hexecuted
  obtain ⟨h₁, h₂, h₃, h₄, h₅⟩ := h
  rw [htime, hclose] at h₂
  rw [htime] at h₁
  rw [hsignal] at h₃
  rw [hrequested] at h₄
  rw [hexecuted] at h₅
  exact ⟨h₁, h₂, h₃, h₄, h₅⟩

theorem canonicalTimes_writtenCells {rows : List StoredOrder} {p : PendingUpdate}
    {written : OrderCells} (h : writtenCells rows p = some written) :
    canonicalTimes written = some written := by
  obtain ⟨merged, hmerged, hwritten⟩ := Option.map_eq_some_iff.mp h
  obtain ⟨hcanonical, hother⟩ := canonicalTimes_eq_some_iff.mp hmerged
  cases howner : recordedElsewhere rows p.requestId (merged .orderUuid) with
  | none =>
    rw [howner] at hwritten
    rw [← hwritten]
    exact canonicalTimes_of_times hcanonical.self (withTimesOf_self merged)
  | some owner =>
    rw [howner] at hwritten
    rw [← hwritten]
    refine canonicalTimes_of_times hcanonical.self ?_
    funext column
    cases column <;> rfl

end Canonical

/-! ## Columns that a call does not name -/

section Unnamed

variable {rows : List StoredOrder} {p : PendingUpdate}

/-- A candle time that is named brings its closing time with it, if there is none. -/
def ClosingKept (p : PendingUpdate) : Prop :=
  p.updates.names .candleTimeUtc = true → p.updates.names .candleCloseAtUtc = true
    ∨ toText (p.current.cells .candleCloseAtUtc) ≠ ""

/-- The order uuid is on no other row, or the call names what is written in that case. -/
def SoleOwner (rows : List StoredOrder) (p : PendingUpdate) : Prop :=
  recordedElsewhere rows p.requestId (mergedCells p.current.cells p.updates .orderUuid) = none
    ∨ (p.updates.names .status = true ∧ p.updates.names .riskResult = true
      ∧ p.updates.names .errorMessage = true)

theorem mergedCells_unnamed {current : OrderCells} {u : OrderUpdates} {column : OrderColumn}
    (h : u.names column = false) : mergedCells current u column = current column := by
  unfold mergedCells
  rw [Option.not_isSome_iff_eq_none.mp (Bool.eq_false_iff.mp h)]
  rfl

theorem canonicalTimes_unnamed {merged : OrderCells}
    (h : canonicalTimes (mergedCells p.current.cells p.updates) = some merged)
    (hclosing : ClosingKept p) {column : OrderColumn} (hunnamed : p.updates.names column = false) :
    merged column = p.current.cells column := by
  obtain ⟨hcanonical, hother⟩ := canonicalTimes_eq_some_iff.mp h
  obtain ⟨hcurrent, -⟩ := canonicalTimes_eq_some_iff.mp p.current.canonical
  have hsame : mergedCells p.current.cells p.updates column = p.current.cells column :=
    mergedCells_unnamed hunnamed
  cases column with
  | candleTimeUtc =>
    have hnow := hcanonical.candleTime
    rw [hsame, hcurrent.candleTime] at hnow
    exact (Option.some.inj hnow).symm
  | signalGeneratedAtUtc =>
    have hnow := hcanonical.signalGenerated
    rw [hsame, hcurrent.signalGenerated] at hnow
    exact (Option.some.inj hnow).symm
  | orderRequestedAtUtc =>
    have hnow := hcanonical.orderRequested
    rw [hsame, hcurrent.orderRequested] at hnow
    exact (Option.some.inj hnow).symm
  | orderExecutedAtUtc =>
    have hnow := hcanonical.orderExecuted
    rw [hsame, hcurrent.orderExecuted] at hnow
    exact (Option.some.inj hnow).symm
  | candleCloseAtUtc =>
    have hnow := hcanonical.candleClose
    rw [hsame] at hnow
    by_cases hempty : toText (p.current.cells .candleCloseAtUtc) = ""
    · have htime : p.updates.names .candleTimeUtc = false := by
        by_contra hnamed
        rcases hclosing (Bool.not_eq_false _ ▸ hnamed) with hclose | hclose
        · rw [hunnamed] at hclose
          cases hclose
        · exact hclose hempty
      have hcandle := hcanonical.candleTime
      rw [mergedCells_unnamed htime, hcurrent.candleTime] at hcandle
      have hthen := hcurrent.candleClose
      rw [if_pos hempty] at hnow hthen
      rw [← Option.some.inj hcandle, hthen] at hnow
      exact (Option.some.inj hnow).symm
    · have hthen := hcurrent.candleClose
      rw [if_neg hempty] at hnow hthen
      rw [hthen] at hnow
      exact (Option.some.inj hnow).symm
  | _ => exact (congrFun hother _).trans hsame

theorem writtenCells_unnamed {written : OrderCells} (h : writtenCells rows p = some written)
    (hclosing : ClosingKept p) (hsole : SoleOwner rows p) {column : OrderColumn}
    (hunnamed : p.updates.names column = false) : written column = p.current.cells column := by
  obtain ⟨merged, hmerged, hwritten⟩ := Option.map_eq_some_iff.mp h
  obtain ⟨-, hother⟩ := canonicalTimes_eq_some_iff.mp hmerged
  have hkept := canonicalTimes_unnamed hmerged hclosing hunnamed
  cases howner : recordedElsewhere rows p.requestId (merged .orderUuid) with
  | none =>
    rw [howner] at hwritten
    rw [← hwritten]
    exact hkept
  | some owner =>
    rw [howner] at hwritten
    rw [← hwritten]
    have huuid : merged .orderUuid = mergedCells p.current.cells p.updates .orderUuid :=
      congrFun hother .orderUuid
    rw [huuid] at howner
    have hnamed := hsole.resolve_left (by rw [howner]; exact Option.some_ne_none _)
    obtain ⟨hstatus, hresult, hmessage⟩ := hnamed
    cases column with
    | status => rw [hunnamed] at hstatus; cases hstatus
    | riskResult => rw [hunnamed] at hresult; cases hresult
    | errorMessage => rw [hunnamed] at hmessage; cases hmessage
    | orderUuid => rfl
    | _ => exact hkept

end Unnamed

/-! ## Calls that run at once -/

/-- The table, and what the calls that are done have written. -/
structure OrderRows where
  rows : List StoredOrder
  done : List (UpdateCall × OrderCells) := []

/-- `UPDATE live_order_logs SET … WHERE request_id = ?`. -/
def writeRow (rows : List StoredOrder) (requestId : String) (written : OrderCells)
    (h : canonicalTimes written = some written) : List StoredOrder :=
  rows.map (fun r =>
    if r.requestId = requestId then { r with cells := written, canonical := h } else r)

def finishUpdate (s : OrderRows) (p : PendingUpdate) : OrderRows :=
  match h : writtenCells s.rows p with
  | none => s
  | some written =>
    { rows := writeRow s.rows p.requestId written (canonicalTimes_writtenCells h)
      done := s.done ++ [(p.toUpdateCall, written)] }

/-- Calls of `update_live_order_log`, and rows that are inserted meanwhile. -/
def orderUpdates : Awaiting OrderRows PendingUpdate StoredOrder UpdateCall Unit where
  move s row := if (storedOrder s.rows row.requestId).isSome then s
    else { s with rows := s.rows ++ [row] }
  begin s call := (storedOrder s.rows call.requestId).map (fun current =>
    { toUpdateCall := call, current := current })
  resume p _ s := (finishUpdate s p, none)

/-- **No update is lost**: every column that a call has named holds what some call that named it
has written. -/
def NamedKept (s : OrderRows) : Prop :=
  ∀ call ∈ s.done, ∀ column, call.1.updates.names column = true →
    ∃ r, storedOrder s.rows call.1.requestId = some r ∧
      ∃ other ∈ s.done, other.1.requestId = call.1.requestId
        ∧ other.1.updates.names column = true ∧ r.cells column = other.2 column

/-- The row is still as the call has read it, in the columns that the call does not name. -/
structure UpToDate (s : OrderRows) (p : PendingUpdate) : Prop where
  read : ∀ r, storedOrder s.rows p.requestId = some r →
    ∀ column, p.updates.names column = false → p.current.cells column = r.cells column
  closing : ClosingKept p
  sole : SoleOwner s.rows p

section Runs

variable {s : OrderRows} {p : PendingUpdate}

theorem storedOrder_writeRow (rows : List StoredOrder) (requestId requestId' : String)
    {written : OrderCells} (h : canonicalTimes written = some written) :
    storedOrder (writeRow rows requestId written h) requestId'
      = if requestId' = requestId then
          (storedOrder rows requestId).map (fun r => { r with cells := written, canonical := h })
        else storedOrder rows requestId' := by
  unfold storedOrder writeRow
  induction rows with
  | nil => split_ifs <;> rfl
  | cons r rows ih =>
    rw [List.map_cons, List.find?_cons, List.find?_cons, List.find?_cons, ih]
    by_cases hid : r.requestId = requestId
    · subst hid
      rw [if_pos rfl]
      by_cases hsame : requestId' = r.requestId
      · subst hsame
        rw [if_pos rfl, if_pos rfl, beq_self_eq_true]
        rfl
      · have hother : (r.requestId == requestId') = false :=
          beq_eq_false_iff_ne.mpr (fun heq => hsame heq.symm)
        rw [if_neg hsame, if_neg hsame, hother]
    · have hother : (r.requestId == requestId) = false := beq_eq_false_iff_ne.mpr hid
      rw [if_neg hid, hother]
      by_cases hsame : requestId' = requestId
      · rw [if_pos hsame, if_pos hsame, hsame, hother]
      · rw [if_neg hsame, if_neg hsame]

theorem namedKept_finishUpdate (hs : NamedKept s) (hrow : (storedOrder s.rows p.requestId).isSome)
    (hcurrent : UpToDate s p) : NamedKept (finishUpdate s p) := by
  obtain ⟨r, hr⟩ := Option.isSome_iff_exists.mp hrow
  unfold finishUpdate
  split
  · exact hs
  · rename_i written hwritten
    have hstored : ∀ requestId, storedOrder (writeRow s.rows p.requestId written
        (canonicalTimes_writtenCells hwritten)) requestId = if requestId = p.requestId then
          (storedOrder s.rows p.requestId).map (fun r => { r with
            cells := written, canonical := canonicalTimes_writtenCells hwritten })
        else storedOrder s.rows requestId :=
      fun requestId => storedOrder_writeRow s.rows p.requestId requestId _
    intro call hcall column hnamed
    dsimp only at hcall ⊢
    rw [hstored]
    by_cases hsame : call.1.requestId = p.requestId
    · rw [if_pos hsame, hr]
      refine ⟨_, rfl, ?_⟩
      by_cases hnames : p.updates.names column = true
      · exact ⟨(p.toUpdateCall, written),
          List.mem_append_right _ (List.mem_singleton_self _), hsame.symm, hnames, rfl⟩
      · -- the call has named none of it, so one before it has, and its value is written back
        have hunnamed : p.updates.names column = false := Bool.eq_false_iff.mpr hnames
        rcases List.mem_append.mp hcall with hold | hnew
        · obtain ⟨r', hr', other, hother, hid, hothers, hvalue⟩ := hs call hold column hnamed
          rw [hsame, hr] at hr'
          cases hr'
          refine ⟨other, List.mem_append_left _ hother, hid, hothers, ?_⟩
          rw [← hvalue, ← hcurrent.read r hr column hunnamed]
          exact writtenCells_unnamed hwritten hcurrent.closing hcurrent.sole hunnamed
        · rw [List.mem_singleton.mp hnew] at hnamed
          exact absurd hnamed hnames
    · rw [if_neg hsame]
      rcases List.mem_append.mp hcall with hold | hnew
      · obtain ⟨r', hr', other, hother, hrest⟩ := hs call hold column hnamed
        exact ⟨r', hr', other, List.mem_append_left _ hother, hrest⟩
      · rw [List.mem_singleton.mp hnew] at hsame
        exact absurd rfl hsame

theorem isSome_finishUpdate {requestId : String} (h : (storedOrder s.rows requestId).isSome) :
    (storedOrder (finishUpdate s p).rows requestId).isSome := by
  unfold finishUpdate
  split
  · exact h
  · dsimp only
    rw [storedOrder_writeRow]
    split_ifs with hsame
    · rw [Option.isSome_map, ← hsame]
      exact h
    · exact h

theorem storedOrder_move (row : StoredOrder) {requestId : String} {r : StoredOrder}
    (h : storedOrder s.rows requestId = some r) :
    storedOrder (orderUpdates.move s row).rows requestId = some r := by
  show storedOrder (if (storedOrder s.rows row.requestId).isSome then s
    else { s with rows := s.rows ++ [row] }).rows requestId = some r
  split_ifs
  · exact h
  · unfold storedOrder at h ⊢
    dsimp only
    rw [List.find?_append, h, Option.some_or]

theorem done_move (row : StoredOrder) : (orderUpdates.move s row).done = s.done := by
  show (if (storedOrder s.rows row.requestId).isSome then s
    else { s with rows := s.rows ++ [row] }).done = s.done
  split_ifs <;> rfl

theorem keeps_orderUpdates : orderUpdates.Keeps (fun s p _ => UpToDate s p) (fun _ => True)
    NamedKept (fun s p => (storedOrder s.rows p.requestId).isSome) where
  move s row hs := by
    refine ⟨?_, fun p hp => ?_⟩
    · intro call hcall column hnamed
      rw [done_move] at hcall ⊢
      obtain ⟨r, hr, hother⟩ := hs call hcall column hnamed
      exact ⟨r, storedOrder_move row hr, hother⟩
    · obtain ⟨r, hr⟩ := Option.isSome_iff_exists.mp hp
      rw [storedOrder_move row hr]
      rfl
  begin s call p _ _ h := by
    obtain ⟨current, hcurrent, rfl⟩ := Option.map_eq_some_iff.mp h
    show (storedOrder s.rows call.requestId).isSome
    rw [hcurrent]
    rfl
  resume s p reply hs hp hok :=
    ⟨namedKept_finishUpdate hs hp hok, fun _ h => isSome_finishUpdate h, fun _ h => by cases h⟩

/-- **No run of calls loses an update, if every write is up to date.** -/
theorem namedKept_of_upToDate (rows : List StoredOrder)
    (es : List (Happening StoredOrder UpdateCall Unit))
    (hes : StepsOk orderUpdates.step (Awaiting.Replies (fun s p _ => UpToDate s p))
      { world := { rows := rows } } es) :
    NamedKept (run orderUpdates.step { world := { rows := rows } } es).world := by
  refine (keeps_orderUpdates.run (s := { world := { rows := rows } }) ⟨?_, ?_⟩
    ((stepsOk_congr (fun s e => ?_) _ es).mp hes)).1
  · exact fun _ h => (List.not_mem_nil h).elim
  · exact fun _ h => (List.not_mem_nil h).elim
  · cases e with
    | moves row => exact ⟨fun _ => ⟨trivial, trivial⟩, fun _ => trivial⟩
    | begins call => exact ⟨fun _ => ⟨trivial, trivial⟩, fun _ => trivial⟩
    | replies i reply => exact ⟨fun h => ⟨trivial, h⟩, fun h => h.2⟩

end Runs

/-! ## Two calls -/

def OrderColumn.empty : (column : OrderColumn) → column.Value
  | .status => OrderStatus.waiting
  | .sessionId | .candidateStrategyId | .positionId | .exitCandidateId => none
  | .executedVolume | .remainingVolume | .filledAmountKrw | .paidFee | .expectedPnl | .actualPnl =>
    none
  | .isAutoExit | .manualConfirmed => false
  | .riskResult | .exchangeRequestPayloadMasked | .exchangeResponsePayload | .errorMessage
  | .orderUuid | .orderPurpose | .exitReason | .strategyName | .signalReason | .signalType
  | .candleTimeUtc | .clientOrderId | .idempotencyKey | .candleCloseAtUtc | .signalGeneratedAtUtc
  | .orderRequestedAtUtc | .orderExecutedAtUtc => none

def waitingOrder : StoredOrder where
  requestId := "strategy-1"
  cells := OrderColumn.empty
  canonical := canonicalTimes_eq_some_iff.mpr ⟨⟨rfl, rfl, rfl, rfl, rfl⟩, (withTimesOf_self _).symm⟩

def filledCall : UpdateCall where
  requestId := "strategy-1"
  updates
    | .status => some OrderStatus.filled
    | .executedVolume => some (some (1 : ℚ))
    | _ => none

/-- The exit manager: the order belongs to a position. -/
def positionCall : UpdateCall where
  requestId := "strategy-1"
  updates
    | .positionId => some (some (5 : ℕ))
    | _ => none

theorem upToDate_of_current {s : OrderRows} {p : PendingUpdate}
    (hcurrent : storedOrder s.rows p.requestId = some p.current)
    (htime : p.updates.names .candleTimeUtc = false)
    (huuid : toText (mergedCells p.current.cells p.updates .orderUuid) = "") : UpToDate s p where
  read r hr column _ := by
    rw [hcurrent] at hr
    cases hr
    rfl
  closing hnamed := by
    rw [htime] at hnamed
    cases hnamed
  sole := .inl (if_pos (.inl huuid))

theorem namedKept_successive :
    NamedKept (run orderUpdates.step { world := { rows := [waitingOrder] } }
      [.begins filledCall, .replies 0 (), .begins positionCall, .replies 0 ()]).world := by
  refine namedKept_of_upToDate _ _ ⟨trivial, ?_, trivial, ?_, trivial⟩
  · intro p hp
    cases hp
    exact upToDate_of_current rfl rfl rfl
  · intro p hp
    cases hp
    exact upToDate_of_current rfl rfl rfl

/-- What the table holds if the second call has read before the first writes. -/
def overlapped : OrderRows :=
  (run orderUpdates.step { world := { rows := [waitingOrder] } }
    [.begins filledCall, .begins positionCall, .replies 0 (), .replies 0 ()]).world

/-- **The fill is lost**: the order waits again, which no call has written that names it. -/
theorem not_namedKept_overlapped : ¬ NamedKept overlapped := by
  intro hkept
  have hrow : (storedOrder overlapped.rows "strategy-1").map (fun r => r.cells .status)
      = some OrderStatus.waiting := by decide +kernel
  have hnamed : overlapped.done.any (fun call =>
      call.1.requestId == "strategy-1" && call.1.updates.names .status) = true := by decide +kernel
  have hfilled : ∀ call ∈ overlapped.done, call.1.updates.names .status = true →
      call.2 .status = OrderStatus.filled := by decide +kernel
  obtain ⟨call, hcall, hnames⟩ := List.any_eq_true.mp hnamed
  rw [Bool.and_eq_true, beq_iff_eq] at hnames
  obtain ⟨r, hr, other, hother, -, hothers, hvalue⟩ := hkept call hcall .status hnames.2
  rw [hnames.1] at hr
  rw [hr, Option.map_some, hvalue, hfilled other hother hothers] at hrow
  cases hrow

end AutoCoinBot
