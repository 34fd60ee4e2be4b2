/-
  RiskManager.DuplicateCandles — the two guards against a second order for a candle.

  `has_live_strategy_order_for_signal` of app/database.py brings the candle time it is given into
  the form that rows are stored in; `duplicate_order_exists` of app/risk_manager.py compares it as
  it comes.
-/
import AutoCoinBot.Database.InsertOrderLog

namespace AutoCoinBot

open Library

/-! ## The guards -/

/-- The statuses of the signal guard; all but `STALE_CANCELED`. -/
def signalOrderStatuses : List OrderStatus :=
  [.blocked, .previewed, .submitted, .waiting, .partiallyFilled, .filled, .canceled, .failed, .error]

/-- The statuses of the risk manager's guard. -/
def candleOrderStatuses : List OrderStatus :=
  [.previewed, .submitted, .waiting, .partiallyFilled, .filled, .canceled, .failed]

/-- `has_live_strategy_order_for_signal`; `none` is an exception. -/
def hasLiveStrategyOrderForSignal (db : OrderLogs) (sessionId candidateStrategyId : ℕ)
    (market : String) (candleTimeUtc signal : Option String) (side : OrderSide) : Option Bool := do
  let normalizedCandle ← canonicalUtc candleTimeUtc candleTimeUtc
  return db.logs.rows.any (fun r =>
    r.sessionId == some sessionId && r.candidateStrategyId == some candidateStrategyId
      && r.market == market
      && (r.candleCloseAtUtc.or r.candleTimeUtc).isSome
      && r.candleCloseAtUtc.or r.candleTimeUtc == normalizedCandle
      && r.side == side && toText r.signalType == toText signal && r.strategyName.isSome
      && signalOrderStatuses.contains r.status && !liveOrderEventRequestIdFilter r.requestId)

/-- An order the risk manager asks about. -/
structure DuplicateQuery where
  exchange : String
  market : String
  side : OrderSide
  requestId : String
  sessionId : Option ℕ
  candidateStrategyId : Option ℕ
  candleTimeUtc : Option String

/-- `WHERE …` of the second query: a parameter that is `NULL` leaves its column open. -/
def DuplicateQuery.matchesRow (q : DuplicateQuery) (r : OrderLogRow) : Bool :=
  r.exchange == q.exchange && r.market == q.market && r.side == q.side
    && r.requestId != q.requestId && r.candleTimeUtc == q.candleTimeUtc
    && (q.sessionId.isNone || r.sessionId == q.sessionId)
    && (q.candidateStrategyId.isNone || r.candidateStrategyId == q.candidateStrategyId)
    && candleOrderStatuses.contains r.status

/-- `duplicate_order_exists`, on candle times as they are spelled; its `signal` is not looked
at. -/
def OrderLogs.duplicateOrderExists (db : OrderLogs) (q : DuplicateQuery) : Option String :=
  if q.requestId ≠ "" ∧ db.logs.rows.any (fun r =>
      r.requestId == q.requestId && r.status != .previewed) then some "BLOCKED_DUPLICATE_REQUEST"
  else if toText q.candleTimeUtc ≠ "" ∧ db.logs.rows.any q.matchesRow then
    some "BLOCKED_DUPLICATE_CANDLE"
  else none

section Guards

variable {db : OrderLogs} {q : DuplicateQuery}

theorem duplicateOrderExists_row (hfresh : ∀ r ∈ db.logs.rows, r.requestId ≠ q.requestId)
    (htime : toText q.candleTimeUtc ≠ "") {r : OrderLogRow} (hr : r ∈ db.logs.rows)
    (hmatch : q.matchesRow r = true) :
    db.duplicateOrderExists q = some "BLOCKED_DUPLICATE_CANDLE" := by
  have hrequest : ¬ (q.requestId ≠ "" ∧ db.logs.rows.any (fun r =>
      r.requestId == q.requestId && r.status != .previewed) = true) := by
    rintro ⟨-, hany⟩
    obtain ⟨r', hr', hsame⟩ := List.any_eq_true.mp hany
    rw [Bool.and_eq_true, beq_iff_eq] at hsame
    exact hfresh r' hr' hsame.1
  unfold OrderLogs.duplicateOrderExists
  rw [if_neg hrequest, if_pos ⟨htime, List.any_eq_true.mpr ⟨r, hr, hmatch⟩⟩]

theorem duplicateOrderExists_ne (hnone : ∀ r ∈ db.logs.rows, q.matchesRow r = false) :
    db.duplicateOrderExists q ≠ some "BLOCKED_DUPLICATE_CANDLE" := by
  unfold OrderLogs.duplicateOrderExists
  split_ifs with hrequest hmatch
  · decide
  · obtain ⟨r, hr, hmatches⟩ := List.any_eq_true.mp hmatch.2
    rw [hnone r hr] at hmatches
    cases hmatches
  · exact fun h => by cases h

end Guards

/-! ## When they agree -/

/-- **An order logged for a candle is a duplicate to both guards.** The order is one that
`insert_live_order_log` has written for the candle, in any spelling of its time; other rows may
have come since, and the request that the risk manager is asked about is a new one. -/
def GuardsAgree (candle : CandleTime) : Prop :=
  ∀ (before written db : OrderLogs) (log : OrderLogInsert) (spelled : CandleTime) (nowUtc : String)
    (sessionId candidateStrategyId : ℕ) (signal : Option String) (requestId : String),
    insertLiveOrderLog before log nowUtc = .ok written →
    log.sessionId = some sessionId → log.candidateStrategyId = some candidateStrategyId →
    log.candleTimeUtc = some spelled.text → spelled.utc = candle.utc →
    candleOrderStatuses.contains log.status = true →
    (∀ r ∈ written.logs.rows, r ∈ db.logs.rows) → (∀ r ∈ db.logs.rows, r.requestId ≠ requestId) →
    hasLiveStrategyOrderForSignal db sessionId candidateStrategyId log.market (some candle.text)
      signal log.side = some true →
    db.duplicateOrderExists
      { exchange := log.exchange, market := log.market, side := log.side, requestId := requestId
        sessionId := some sessionId, candidateStrategyId := some candidateStrategyId
        candleTimeUtc := some candle.text } = some "BLOCKED_DUPLICATE_CANDLE"

section Agreement

variable {candle : CandleTime}

theorem candleTime_text_ne (candle : CandleTime) : candle.text ≠ "" := by
  intro hempty
  have hread := parseUtc_text candle
  rw [hempty] at hread
  cases hutc : candle.utc <;> simp [hutc, parseUtc] at hread

theorem guardsAgree_of_overflow (hutc : candle.utc = none) : GuardsAgree candle := by
  intro before written db log spelled nowUtc sessionId candidateStrategyId signal requestId
    _ _ _ _ _ _ _ _ hhas
  unfold hasLiveStrategyOrderForSignal at hhas
  rw [canonicalUtc_text, hutc] at hhas
  cases hhas

theorem guardsAgree_of_z (hz : candle.zone = .z) : GuardsAgree candle := by
  intro before written db log spelled nowUtc sessionId candidateStrategyId signal requestId hinsert
    hsession hcandidate hspelled hsame hstatus hkept hfresh _
  obtain ⟨clock, hutc⟩ : ∃ clock, candle.utc = some clock := by
    unfold CandleTime.utc ClockTime.toUtc
    rw [hz]
    exact ⟨candle.clock, if_pos rfl⟩
  obtain ⟨clientOrderId, candleTimeUtc, candleCloseAtUtc, id, -, htime, hrow⟩ :=
    insertLiveOrderLog_row hinsert
  have hstored : candleTimeUtc = some candle.text := by
    rw [hspelled, canonicalUtc_text, hsame, hutc, Option.map_some, Option.some.injEq] at htime
    rw [← htime, (formatUtc_eq_text_iff candle hutc).mpr hz]
  refine duplicateOrderExists_row hfresh (candleTime_text_ne candle) (hkept _ hrow) ?_
  have hne := hfresh _ (hkept _ hrow)
  rw [hstored] at hne ⊢
  unfold DuplicateQuery.matchesRow
  unfold insertedRow at hne ⊢
  dsimp only at hne ⊢
  rw [hsession, hcandidate, hstatus, bne_iff_ne.mpr hne]
  simp

/-- An order for the candle, as the pilot logs one. -/
def loggedCandleOrder (candle : CandleTime) : OrderLogInsert :=
  { requestId := "strategy-0", exchange := "bithumb", market := "KRW-BTC", sessionId := some 1
    candidateStrategyId := some 7, strategyName := some "rsi", signalType := some "BUY"
    candleTimeUtc := some candle.text, candleCloseAtUtc := some candle.text }

def loggedCandle (candle : CandleTime) (clock : ClockTime) : OrderLogs where
  logs := Table.empty.insert (insertedRow (loggedCandleOrder candle) "strategy-0"
    (some (formatUtc clock)) (some (formatUtc clock))) (fun _ => rfl)
  requestId_unique := List.nodup_singleton _

theorem insertLiveOrderLog_loggedCandle {clock : ClockTime} (hutc : candle.utc = some clock) :
    insertLiveOrderLog {} (loggedCandleOrder candle) "" = .ok (loggedCandle candle clock) := by
  have hcanonical : ∀ default, canonicalUtc (some candle.text) default
      = some (some (formatUtc clock)) := by
    intro default
    rw [canonicalUtc_text, hutc]
    rfl
  have hclosing : (if toText (loggedCandleOrder candle).candleCloseAtUtc = ""
        then (loggedCandleOrder candle).candleTimeUtc
        else (loggedCandleOrder candle).candleCloseAtUtc) = some candle.text := ite_self _
  have hclient : orText (toText (loggedCandleOrder candle).clientOrderId)
      (String.ofList ((loggedCandleOrder candle).requestId.toList.take 36)) = "strategy-0" := by
    show orText (toText none) (String.ofList ("strategy-0".toList.take 36)) = "strategy-0"
    decide +kernel
  have hclaim : liveOrderShouldClaimIdempotency (loggedCandleOrder candle) = false := if_pos rfl
  unfold insertLiveOrderLog
  dsimp only
  rw [hclosing, hcanonical, show (loggedCandleOrder candle).candleTimeUtc = some candle.text from rfl,
    hcanonical, hclient]
  unfold claimIdempotency
  rw [hclaim]
  simp [Table.empty, findCanonicalOrderLog, loggedCandleOrder]
  rfl

theorem not_guardsAgree_of_ne (hz : candle.zone ≠ .z) {clock : ClockTime}
    (hutc : candle.utc = some clock) : ¬ GuardsAgree candle := by
  intro hagree
  have hne : formatUtc clock ≠ candle.text :=
    fun heq => hz ((formatUtc_eq_text_iff candle hutc).mp heq)
  have hasOrder : hasLiveStrategyOrderForSignal (loggedCandle candle clock) 1 7 "KRW-BTC"
      (some candle.text) (some "BUY") .buy = some true := by
    unfold hasLiveStrategyOrderForSignal
    rw [canonicalUtc_text, hutc]
    simp [loggedCandle, loggedCandleOrder, insertedRow, Table.insert, Table.empty]
    decide +kernel
  have hduplicate := hagree {} _ (loggedCandle candle clock) (loggedCandleOrder candle) candle "" 1
    7 (some "BUY") "strategy-1" (insertLiveOrderLog_loggedCandle hutc) rfl rfl rfl rfl rfl
    (fun _ hr => hr)
    (fun r hr => by
      rw [List.mem_singleton.mp hr]
      show "strategy-0" ≠ "strategy-1"
      decide)
    hasOrder
  refine duplicateOrderExists_ne (fun r hr => ?_) hduplicate
  rw [List.mem_singleton.mp hr]
  simp [DuplicateQuery.matchesRow, insertedRow, loggedCandleOrder, hne]

end Agreement

/-- **The guards agree on a candle time if and only if it ends in `Z`** (or is no time of the
calendar, which no order is logged for). -/
theorem guardsAgree_iff (candle : CandleTime) :
    GuardsAgree candle ↔ candle.zone = .z ∨ candle.utc = none := by
  constructor
  · intro hagree
    by_contra hnot
    obtain ⟨hz, hutc⟩ := not_or.mp hnot
    obtain ⟨clock, hclock⟩ := Option.ne_none_iff_exists'.mp hutc
    exact not_guardsAgree_of_ne hz hclock hagree
  · intro h
    rcases h with hz | hutc
    · exact guardsAgree_of_z hz
    · exact guardsAgree_of_overflow hutc

/-- The exchange's spelling of midnight, the 18th of June 2026. -/
def exampleCandle : CandleTime := ⟨⟨2026, 6, 18, 0, 0, 0⟩, .none, by decide, by decide⟩

/-- **On the exchange's spelling they do not.** -/
theorem not_guardsAgree_exampleCandle : ¬ GuardsAgree exampleCandle :=
  not_guardsAgree_of_ne (by decide) rfl

end AutoCoinBot
