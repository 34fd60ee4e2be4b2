/-
  ControlledAutoLive.LedgerVerdict — the ledger of a run, and its verdict: for the smoke
  test, the limited run and the controlled runs.

  `_persist_smoke_ledger` and `_persist_limited_ledger` build the fills of a run's orders from their
  stored payloads, and count what they then find in the ledger.
-/
import AutoCoinBot.ControlledAutoLive.PositionLoopReports
import AutoCoinBot.ExchangeFillsLedger.Ingestion

namespace AutoCoinBot

open Library

/-! ## Ledger rows -/

/-- `load_exchange_fills_ledger`; an empty time comes before all others. -/
def loadExchangeFillsLedger (ledger : FillsLedger) (exchange : String) (since : UtcTime) :
    List LedgerRow :=
  ledger.table.select (fun row =>
    row.exchangeName == exchange && row.executedAtUtc.any (fun time => decide (since ≤ time)))

/-- The keys that come up more than once: `duplicate_fill_key_count`. -/
def duplicateFillKeyCount (rows : List LedgerRow) : ℕ :=
  let keys := rows.map LedgerRow.key
  keys.dedup.countP (fun key => decide (1 < keys.count key))

/-- What of `summarize_ledger_rows` the verdict reads. -/
structure LedgerSummary where
  rowCount : ℕ
  missingCanonicalLogCount : ℕ
  duplicateFillKeyCount : ℕ
  ledgerFeeTotal : ℚ

def summarizeLedgerRows (rows : List LedgerRow) : LedgerSummary where
  rowCount := rows.length
  missingCanonicalLogCount := rows.countP (fun row => row.matchStatus == .missingCanonicalLog)
  duplicateFillKeyCount := AutoCoinBot.duplicateFillKeyCount rows
  ledgerFeeTotal := (rows.map LedgerRow.fee).sum

/-! ## A run's orders -/

/-- An order log of a run, with the payload that it has stored. -/
structure RunOrderLog extends DbOrder where
  status : OrderStatus := .filled
  exchangeResponsePayload : ExchangeOrder := {}

/-- A run at the end of its orders, the ledger as it is then, and the start of the epoch. The
ledger's `fill_key` is `NOT NULL`. -/
structure LedgerRun where
  exchange : String := "bithumb"
  ledger : FillsLedger := {}
  epochStartedAt : UtcTime := 0
  now : UtcTime := 0
  orderLogs : List RunOrderLog
  keyed : ∀ row ∈ ledger.table.rows, row.fillKey.isSome := by decide

namespace LedgerRun

variable (run : LedgerRun)

def exchangeOrders : List ExchangeOrder := run.orderLogs.map RunOrderLog.exchangeResponsePayload

def dbFills : List DbFill := (run.orderLogs.map RunOrderLog.toDbOrder).map normalizeDbFill

def fills : List ExchangeFill :=
  (normalizeExchangeFills run.exchangeOrders).filter
    (fun fill => run.epochStartedAt ≤ fill.executedAtUtc.getD run.epochStartedAt)

/-- The ledger after `load_or_build_ledger_rows` has persisted them. -/
def persisted : FillsLedger :=
  persistExchangeFillRecords run.now run.ledger
    (buildExchangeFillRecords run.exchange run.exchangeOrders
      (run.orderLogs.map RunOrderLog.toDbOrder) "exchange_api" (some run.epochStartedAt))

def orderSummaryFee : ℚ := (run.orderLogs.map (fun log => toFloat log.paidFee)).sum

def orderUuids : List String :=
  (run.orderLogs.map (fun log => toText log.orderUuid)).filter (· != "")

/-- `relevant_rows`: the rows of the run's orders, as they are loaded. -/
def relevantRows : List LedgerRow :=
  (loadExchangeFillsLedger run.persisted run.exchange run.epochStartedAt).filter
    (fun row => run.orderUuids.contains (toText row.exchangeOrderUuid))

end LedgerRun

/-- What the report is given of the ledger. -/
structure LedgerAssessment where
  exchangeFillCount : ℕ := 0
  ledgerFillCount : ℕ := 0
  missingLedgerFillCount : ℕ := 0
  duplicateFillCount : ℕ := 0
  feeFromExchange : ℚ := 0
  feeFromLedger : ℚ := 0
  feeDiff : ℚ := 0
  feeSource : FeeSource := .orderSummaryFee
  exchangeFeeTotalByFillRows : ℚ := 0
  exchangeFeeTotalByOrderSummary : ℚ := 0
  feeDoubleCountSuspected : Bool := false

/-- `_persist_smoke_ledger` and `_persist_limited_ledger`, with `_assess_smoke_ledger_rows`. -/
def LedgerRun.assessment (run : LedgerRun) : LedgerAssessment :=
  let rows := run.relevantRows
  let summary := summarizeLedgerRows rows
  let orderSummaryFee := run.orderSummaryFee
  let fillRows := rows.filter (fun row => row.feeSource == .fillRowFee)
  let fillRowFeeTotal := (fillRows.map LedgerRow.fee).sum
  let hasFillRowFee := rows.any (fun row => row.feeSource == .fillRowFee)
  let normalizedTotal := if hasFillRowFee then fillRowFeeTotal else orderSummaryFee
  { exchangeFillCount := rows.length
    ledgerFillCount := rows.length
    missingLedgerFillCount := summary.missingCanonicalLogCount
    duplicateFillCount := summary.duplicateFillKeyCount
    feeFromExchange := normalizedTotal
    feeFromLedger := summary.ledgerFeeTotal
    feeDiff := normalizedTotal - summary.ledgerFeeTotal
    feeSource := if hasFillRowFee then .fillRowFee else .orderSummaryFee
    exchangeFeeTotalByFillRows := fillRowFeeTotal
    exchangeFeeTotalByOrderSummary := orderSummaryFee
    feeDoubleCountSuspected :=
      orderSummaryFee != 0 && decide (orderSummaryFee + feeToleranceKrw < summary.ledgerFeeTotal)
        && !hasFillRowFee }

/-! ## The verdict -/

/-- The runs that have a `_pass_fail`; the number of orders that a controlled run may have depends
on its type. -/
inductive RunKind where
  | smoke
  | limited
  | controlled (runType : String)

/-- What else the verdict reads. -/
structure RunChecks where
  orderCount : ℕ := 0
  buyOrderFilled : Bool := false
  sellOrderFilled : Bool := false
  equityDiffAfter : Option ℚ := none
  currentEpochAccountingPendingCount : ℕ := 0
  currentEpochAccountingFailedCount : ℕ := 0
  openOrderCountAfter : ℕ := 0
  protectedSessionLossExceeded : Bool := false
  protectedSessionStopReason : String := ""
  runtimeStatus : String := "STOPPED"

/-- `TRADE_PROBE_MAX_ORDERS`, two for a position run, `MAX_ORDERS`. -/
def controlledMaxOrders (runType : String) : ℕ :=
  if runType = "CONTROLLED_ENTRY_V3_POSITION_RUN" then 2
  else if runType = "CONTROLLED_TRADE_PROBE" then 3
  else 5

/-- The checks of the ledger, which the three have in common. -/
def ledgerFailReasons (ledger : LedgerAssessment) : List String :=
  (if ledger.exchangeFillCount ≠ ledger.ledgerFillCount then
      ["EXCHANGE_LEDGER_FILL_COUNT_MISMATCH"] else [])
    ++ (if ledger.missingLedgerFillCount ≠ 0 then ["MISSING_LEDGER_FILL"] else [])
    ++ (if ledger.duplicateFillCount ≠ 0 then ["DUPLICATE_FILL"] else [])
    ++ (if |ledger.feeDiff| > feeToleranceKrw then ["FEE_DIFF_EXCEEDS_TOLERANCE"] else [])

def orderFailReasons (checks : RunChecks) : RunKind → List String
  | .smoke => filledReasons
  | .limited =>
    (if checks.orderCount > 3 then ["LIMITED_AUTO_MAX_ORDERS_EXCEEDED"] else []) ++ filledReasons
  | .controlled runType =>
    if checks.orderCount > controlledMaxOrders runType then
      ["CONTROLLED_AUTO_MAX_ORDERS_EXCEEDED"]
    else []
where
  filledReasons : List String :=
    (if !checks.buyOrderFilled then ["BUY_NOT_FILLED"] else [])
      ++ (if !checks.sellOrderFilled then ["SELL_NOT_FILLED"] else [])

def accountFailReasons (checks : RunChecks) (kind : RunKind) : List String :=
  (if checks.equityDiffAfter.any (fun diff => decide (|diff| > equityToleranceKrw)) then
      ["EQUITY_DIFF_EXCEEDS_TOLERANCE"] else [])
    ++ (if checks.currentEpochAccountingPendingCount ≠ 0 then
        ["CURRENT_EPOCH_ACCOUNTING_PENDING"] else [])
    ++ (if checks.currentEpochAccountingFailedCount ≠ 0 then
        ["CURRENT_EPOCH_ACCOUNTING_FAILED"] else [])
    ++ (match kind with
        | .controlled _ =>
          (if checks.openOrderCountAfter ≠ 0 then ["OPEN_ORDER_REMAINS_AFTER_RUN"] else [])
            ++ (if checks.protectedSessionLossExceeded then
                [orText checks.protectedSessionStopReason "PROTECTED_SESSION_LOSS_LIMIT_REACHED"]
              else [])
        | .smoke | .limited => [])
    ++ (if checks.runtimeStatus.toUpper ≠ "STOPPED" then ["RUNTIME_NOT_STOPPED"] else [])

/-- The reasons of `_pass_fail`; a run without any is `PASSED`. -/
def runFailReasons (kind : RunKind) (checks : RunChecks) (ledger : LedgerAssessment) :
    List String :=
  orderFailReasons checks kind ++ ledgerFailReasons ledger ++ accountFailReasons checks kind

/-- `_pass_fail`. -/
def runPassFail (kind : RunKind) (checks : RunChecks) (ledger : LedgerAssessment) : String :=
  if runFailReasons kind checks ledger = [] then "PASSED"
  else
    match kind with
    | .smoke => "PARTIAL"
    | .limited | .controlled _ => "STOPPED"

/-! ## The property -/

def ofOrder (rows : List LedgerRow) (uuid : String) (figure : LedgerRow → ℚ) : ℚ :=
  sumWhere rows (fun row => row.exchangeOrderUuid == some uuid) figure

/-- Rows have the order: its volume up to `1e-8`, and its fee up to `FEE_TOLERANCE_KRW`. -/
def RunOrderLog.InFull (log : RunOrderLog) (rows : List LedgerRow) : Prop :=
  |ofOrder rows (toText log.orderUuid) LedgerRow.quantity - toFloat log.executedVolume| ≤ 1 / 10 ^ 8
    ∧ |ofOrder rows (toText log.orderUuid) LedgerRow.fee - toFloat log.paidFee| ≤ feeToleranceKrw

instance (log : RunOrderLog) (rows : List LedgerRow) : Decidable (log.InFull rows) :=
  inferInstanceAs (Decidable (_ ∧ _))

def LedgerRun.AllInFull (run : LedgerRun) (rows : List LedgerRow) : Prop :=
  ∀ log ∈ run.orderLogs, log.status = .filled → log.InFull rows

instance (run : LedgerRun) (rows : List LedgerRow) : Decidable (run.AllInFull rows) :=
  inferInstanceAs (Decidable (∀ log ∈ run.orderLogs, log.status = .filled → log.InFull rows))

/-- **A run that passes is fully in the ledger.** -/
def PassedIsLedgered (kind : RunKind) (checks : RunChecks) (run : LedgerRun) : Prop :=
  runPassFail kind checks run.assessment = "PASSED" → run.AllInFull run.persisted.table.rows

/-! ## What is listed -/

/-- All columns of a row but its id and its times. -/
def LedgerRow.figures (row : LedgerRow) : LedgerRow :=
  { row with id := 0, createdAtUtc := 0, updatedAtUtc := 0 }

/-- The fees that rows are compared with, less the fees of the rows. -/
def feeDiffOf (orderSummaryFee : ℚ) (rows : List LedgerRow) : ℚ :=
  (if rows.any (fun row => row.feeSource == .fillRowFee) then
      sumWhere rows (fun row => row.feeSource == .fillRowFee) LedgerRow.fee
    else orderSummaryFee)
    - sumWhere rows (fun _ => true) LedgerRow.fee

namespace LedgerRun

variable (run : LedgerRun)

def rowOf (fill : ExchangeFill) : LedgerRow :=
  (recordOf run.exchange run.fills run.dbFills "exchange_api" fill).stored run.now 0

/-- What is listed when the run ends: the rows whose keys its payloads do not have, and a row for
the last fill of every key that they have. -/
def listed : List LedgerRow :=
  rowsAfter LedgerRow.tableKey (ExchangeFill.tableKey run.exchange) run.rowOf run.ledger.table
    run.fills

/-- The row is one of the run's orders, with a time in the epoch. -/
def counts (row : LedgerRow) : Bool :=
  row.exchangeName == run.exchange
    && row.executedAtUtc.any (fun time => decide (run.epochStartedAt ≤ time))
    && run.orderUuids.contains (toText row.exchangeOrderUuid)

/-- **Nothing is noticed**: every row that counts was matched with an order, and the fees that do
not agree are within the tolerance. -/
def Unnoticed : Prop :=
  (run.listed.filter run.counts).countP (fun row => row.matchStatus == .missingCanonicalLog) = 0
    ∧ |feeDiffOf run.orderSummaryFee (run.listed.filter run.counts)| ≤ feeToleranceKrw

instance : Decidable run.Unnoticed := inferInstanceAs (Decidable (_ ∧ _))

/-! ## The rows after a run -/

theorem writesRecord_figures (run : LedgerRun) :
    WritesRecord (writeRecord run.now (recordOf run.exchange run.fills run.dbFills "exchange_api"))
      LedgerRow.tableKey (ExchangeFill.tableKey run.exchange)
      (fun fill row => row.figures = (run.rowOf fill).figures) := by
  intro t fill row hrow
  rcases Table.mem_rows_upsert hrow with hold | rfl | ⟨old, -, hkey, rfl⟩
  · exact .inl hold
  · exact .inr rfl
  · -- a rewritten row keeps its key, which is the fill's
    obtain ⟨hname, hfillKey⟩ := Prod.mk.inj hkey
    refine .inr ?_
    unfold LedgerRow.rewritten LedgerRow.figures
    rw [hname, hfillKey]
    rfl

theorem persisted_table (run : LedgerRun) :
    run.persisted.table
      = run.fills.foldl
          (writeRecord run.now (recordOf run.exchange run.fills run.dbFills "exchange_api"))
          run.ledger.table :=
  persistExchangeFillRecords_table ..

theorem sumWhere_persisted {M : Type*} [AddCommMonoid M] (run : LedgerRun) {p : LedgerRow → Bool}
    {g : LedgerRow → M} (hp : ∀ row, p row.figures = p row) (hg : ∀ row, g row.figures = g row) :
    sumWhere run.persisted.table.rows p g = sumWhere run.listed p g := by
  have hafter := run.persisted.key_unique
  rw [persisted_table] at hafter ⊢
  refine sumWhere_rows_batch run.writesRecord_figures (keepsKeys_fill _ _ _ _ _) ?_
    run.ledger.key_unique hafter (fun _ => rfl) ?_
  · intro fill row hshow
    have hkey : row.figures.tableKey = (run.rowOf fill).figures.tableKey := congrArg _ hshow
    exact hkey
  · intro fill row hshow
    rw [← hp, ← hg, ← hshow, hp, hg]

theorem relevantRows_eq (run : LedgerRun) :
    run.relevantRows = run.persisted.table.rows.filter run.counts := by
  unfold relevantRows loadExchangeFillsLedger Table.select
  rw [List.filter_filter]
  refine List.filter_congr (fun row _ => ?_)
  exact Bool.and_comm ..

theorem sumWhere_relevantRows {M : Type*} [AddCommMonoid M] (run : LedgerRun)
    {p : LedgerRow → Bool} {g : LedgerRow → M} (hp : ∀ row, p row.figures = p row)
    (hg : ∀ row, g row.figures = g row) :
    sumWhere run.relevantRows p g = sumWhere (run.listed.filter run.counts) p g := by
  rw [relevantRows_eq, sumWhere_filter, sumWhere_filter]
  refine run.sumWhere_persisted (fun row => ?_) hg
  rw [hp]
  rfl

theorem countP_relevantRows (run : LedgerRun) {p : LedgerRow → Bool}
    (hp : ∀ row, p row.figures = p row) :
    run.relevantRows.countP p = (run.listed.filter run.counts).countP p := by
  have h := run.sumWhere_relevantRows (g := fun _ => 1) hp (fun _ => rfl)
  rwa [sumWhere_one, sumWhere_one] at h

theorem duplicateFillKeyCount_relevantRows (run : LedgerRun) :
    duplicateFillKeyCount run.relevantRows = 0 := by
  have hkeyed : ∀ row ∈ run.persisted.table.rows, row.fillKey.isSome := by
    intro row hrow
    rw [persisted_table] at hrow
    rcases mem_rows_batch run.writesRecord_figures hrow with ⟨hold, -⟩ | ⟨fill, -, hshow⟩
    · exact run.keyed row hold
    · have hkey : row.figures.fillKey = (run.rowOf fill).figures.fillKey := congrArg _ hshow
      have hrowKey : row.fillKey = some (fill.canonicalFillKey run.exchange) := hkey
      rw [hrowKey]
      rfl
  have hrows : ∀ row ∈ run.relevantRows, row.tableKey = (run.exchange, some row.key) := by
    intro row hrow
    rw [relevantRows_eq] at hrow
    obtain ⟨hmem, hcounts⟩ := List.mem_filter.mp hrow
    obtain ⟨key, hkey⟩ := Option.isSome_iff_exists.mp (hkeyed row hmem)
    simp only [counts, Bool.and_eq_true, beq_iff_eq] at hcounts
    unfold LedgerRow.tableKey LedgerRow.key
    rw [hcounts.1.1, hkey]
    rfl
  have hnodup : (run.relevantRows.map LedgerRow.key).Nodup := by
    have htable : (run.relevantRows.map LedgerRow.tableKey).Nodup := by
      rw [relevantRows_eq]
      exact (List.filter_sublist.map _).nodup run.persisted.key_unique
    rw [List.map_congr_left hrows] at htable
    refine List.Nodup.of_map (fun key => (run.exchange, some key)) ?_
    rwa [List.map_map]
  unfold duplicateFillKeyCount
  refine List.countP_eq_zero.mpr (fun key _ htwice => ?_)
  have hone : (run.relevantRows.map LedgerRow.key).count key ≤ 1 :=
    List.nodup_iff_count_le_one.mp hnodup key
  have htwo := of_decide_eq_true htwice
  omega

/-! ## What the verdict notices -/

theorem feeDiff_assessment (run : LedgerRun) :
    run.assessment.feeDiff = feeDiffOf run.orderSummaryFee (run.listed.filter run.counts) := by
  have hfills := run.sumWhere_relevantRows (p := fun row => row.feeSource == .fillRowFee)
    (g := LedgerRow.fee) (fun _ => rfl) (fun _ => rfl)
  have hall := run.sumWhere_relevantRows (p := fun _ => true) (g := LedgerRow.fee) (fun _ => rfl)
    (fun _ => rfl)
  have hcount := run.countP_relevantRows (p := fun row => row.feeSource == .fillRowFee)
    (fun _ => rfl)
  have hany : run.relevantRows.any (fun row => row.feeSource == .fillRowFee)
      = (run.listed.filter run.counts).any (fun row => row.feeSource == .fillRowFee) := by
    rw [Bool.eq_iff_iff, List.any_eq_true, List.any_eq_true, ← List.countP_pos_iff,
      ← List.countP_pos_iff, hcount]
  have hledger : (run.relevantRows.map LedgerRow.fee).sum
      = sumWhere run.relevantRows (fun _ => true) LedgerRow.fee := rfl
  show (if run.relevantRows.any (fun row => row.feeSource == .fillRowFee) then
      ((run.relevantRows.filter (fun row => row.feeSource == .fillRowFee)).map LedgerRow.fee).sum
    else run.orderSummaryFee) - (run.relevantRows.map LedgerRow.fee).sum = _
  rw [sum_filter_map, hledger, hany, hfills, hall]
  rfl

/-- **The checks of the ledger** find what is not matched, and fees: the fill counts are one count,
and no key comes up twice. -/
theorem ledgerFailReasons_eq_nil (run : LedgerRun) :
    ledgerFailReasons run.assessment = [] ↔ run.Unnoticed := by
  have hcounts : run.assessment.exchangeFillCount = run.assessment.ledgerFillCount := rfl
  have htwice : run.assessment.duplicateFillCount = 0 := run.duplicateFillKeyCount_relevantRows
  have hmissing : run.assessment.missingLedgerFillCount = (run.listed.filter run.counts).countP
      (fun row => row.matchStatus == .missingCanonicalLog) :=
    run.countP_relevantRows (fun _ => rfl)
  unfold ledgerFailReasons Unnoticed
  rw [hcounts, htwice, hmissing, feeDiff_assessment]
  simp

theorem allInFull_persisted (run : LedgerRun) :
    run.AllInFull run.persisted.table.rows ↔ run.AllInFull run.listed := by
  have hquantity : ∀ uuid, ofOrder run.persisted.table.rows uuid LedgerRow.quantity
      = ofOrder run.listed uuid LedgerRow.quantity :=
    fun _ => run.sumWhere_persisted (fun _ => rfl) (fun _ => rfl)
  have hfee : ∀ uuid, ofOrder run.persisted.table.rows uuid LedgerRow.fee
      = ofOrder run.listed uuid LedgerRow.fee :=
    fun _ => run.sumWhere_persisted (fun _ => rfl) (fun _ => rfl)
  unfold AllInFull RunOrderLog.InFull
  simp only [hquantity, hfee]

end LedgerRun

theorem runPassFail_eq_passed {kind : RunKind} {checks : RunChecks} {ledger : LedgerAssessment} :
    runPassFail kind checks ledger = "PASSED" ↔ runFailReasons kind checks ledger = [] := by
  unfold runPassFail
  split_ifs with h
  · simp [h]
  · cases kind <;> simp [h]

/-- **A run that passes is in the ledger** when another check fails it, when what is wrong is
noticed, or when every filled order is listed in full. -/
theorem passedIsLedgered_iff (kind : RunKind) (checks : RunChecks) (run : LedgerRun) :
    PassedIsLedgered kind checks run
      ↔ (orderFailReasons checks kind ≠ [] ∨ accountFailReasons checks kind ≠ [])
        ∨ ¬ run.Unnoticed ∨ run.AllInFull run.listed := by
  unfold PassedIsLedgered
  rw [runPassFail_eq_passed, run.allInFull_persisted]
  unfold runFailReasons
  rw [List.append_eq_nil_iff, List.append_eq_nil_iff, run.ledgerFailReasons_eq_nil]
  tauto

/-- The orders of a run, as they were executed and as the exchange lists them. -/
def listedOrder (id : ℕ) (uuid side : String) (trades : List FillSource) : RunOrderLog :=
  { id := id, orderUuid := some uuid, market := some "KRW-BTC", side := some side
    price := some 100, executedVolume := some 1, filledAmountKrw := some 100, paidFee := some 1
    exchangeResponsePayload :=
      { uuid := some uuid, market := some "KRW-BTC", side := some side, price := some 100
        executedVolume := some 1, paidFee := some 1, trades := some trades } }

/-- A BUY of one unit, of which the exchange lists a trade of 0.4, and a SELL listed in full. -/
def shortRun : LedgerRun where
  orderLogs :=
    [listedOrder 1 "C0101000000001" "bid" [tradeExample "T1" (2 / 5)],
      listedOrder 2 "C0101000000002" "ask" [tradeExample "T2" 1]]

/-- **An order with a missing fill passes.** -/
theorem shortFills_pass :
    ¬ PassedIsLedgered .limited
      { orderCount := 2, buyOrderFilled := true, sellOrderFilled := true } shortRun := by
  intro h
  have hpassed : runPassFail .limited
      { orderCount := 2, buyOrderFilled := true, sellOrderFilled := true }
      shortRun.assessment = "PASSED" := by
    decide +kernel
  have hfull := h hpassed
  revert hfull
  decide +kernel

end AutoCoinBot
