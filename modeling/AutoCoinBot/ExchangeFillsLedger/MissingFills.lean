/-
  ExchangeFillsLedger.MissingFills — what the trace of missing fills adds up to.

  The trace looks a row's result up by its order's uuid, among the trades that the report keeps.
-/
import AutoCoinBot.ExchangeFillsLedger.AccountingReport
import AutoCoinBot.ExchangeFillsLedger.TradeStatistics

namespace AutoCoinBot

open Library

/-! ## Sells in the trace of the matching -/

/-- A traced row is a sell that the matching realizes. -/
def FifoTraceRow.isSell (t : FifoTraceRow) : Bool := t.row.countsAs .sell

def FifoTraceRow.uuid (t : FifoTraceRow) : String := toText t.row.exchangeOrderUuid

/-- The sells that the matching of some rows realizes, in the order of execution. -/
def tracedSells (rows : List LedgerRow) : List FifoTraceRow :=
  (fifoState rows).fifoTrace.filter FifoTraceRow.isSell

def tracedOthers (rows : List LedgerRow) : List FifoTraceRow :=
  (fifoState rows).fifoTrace.filter (fun t => !t.isSell)

/-- What a lookup reads of a trade, and of the traced sell it is of. -/
def RealizedTrade.shown (t : RealizedTrade) : Option String × ℚ :=
  (t.exchangeOrderUuid, t.netPnlAfterFee)
def FifoTraceRow.shown (t : FifoTraceRow) : Option String × ℚ :=
  (t.row.exchangeOrderUuid, t.realizedPnlAfterFee)

theorem applyLedgerRow_traces (st : FifoState) (row : LedgerRow) :
    ∃ entry : FifoTraceRow, entry.row = row
      ∧ (applyLedgerRow st row).fifoTrace = st.fifoTrace ++ [entry]
      ∧ (applyLedgerRow st row).realizedTrades.map RealizedTrade.shown
        = st.realizedTrades.map RealizedTrade.shown
          ++ ([entry].filter FifoTraceRow.isSell).map FifoTraceRow.shown := by
  have htrace := @FifoState.open_fifoTrace st row
  have htrades := st.open_realizedTrades row
  unfold applyLedgerRow
  generalize st.open row = opened at *
  dsimp only
  rw [← htrace, ← htrades]
  by_cases hquantity : row.quantity ≤ 0
  · rw [if_pos hquantity]
    have hnot : ¬ 0 < row.quantity := not_lt.mpr hquantity
    refine ⟨_, rfl, rfl, ?_⟩
    simp [FifoTraceRow.isSell, LedgerRow.countsAs, hnot, FifoState.close]
  · rw [if_neg hquantity]
    have hpos : 0 < row.quantity := not_le.mp hquantity
    cases hside : row.side with
    | buy =>
      refine ⟨_, rfl, rfl, ?_⟩
      simp [FifoTraceRow.isSell, LedgerRow.countsAs, hside, FifoState.close, FifoState.buy]
    | sell =>
      refine ⟨_, rfl, rfl, ?_⟩
      simp [FifoTraceRow.isSell, LedgerRow.countsAs, hside, hpos, FifoState.close,
        FifoState.sell, realizedTrade, RealizedTrade.shown, FifoTraceRow.shown]
    | other text =>
      refine ⟨_, rfl, rfl, ?_⟩
      simp [FifoTraceRow.isSell, LedgerRow.countsAs, hside, FifoState.close]

theorem realizedTrades_shown (rows : List LedgerRow) :
    (fifoState rows).realizedTrades.map RealizedTrade.shown
      = (tracedSells rows).map FifoTraceRow.shown := by
  unfold tracedSells fifoState
  refine run_invariant (P := fun st : FifoState =>
    st.realizedTrades.map RealizedTrade.shown
      = (st.fifoTrace.filter FifoTraceRow.isSell).map FifoTraceRow.shown) ?_ rfl _
  intro st row h
  obtain ⟨entry, -, htrace, htrades⟩ := applyLedgerRow_traces st row
  rw [htrades, htrace, h, List.filter_append, List.map_append]

/-! ## Shown and hidden sells -/

/-- The sells behind the trades that the report keeps and that have a uuid. -/
def listedSells (rows : List LedgerRow) : List FifoTraceRow :=
  ((tracedSells rows).take reportedTrades).filter (fun t => t.uuid ≠ "")

/-- The sells that are shown under their uuid: the last of it. -/
def shownSells (rows : List LedgerRow) : List FifoTraceRow :=
  uncovered FifoTraceRow.uuid (listedSells rows)

/-- The sells that are shown for no row: a later one has their uuid, they have no uuid, or they
come after the trades that the report keeps. -/
def hiddenSells (rows : List LedgerRow) : List FifoTraceRow :=
  covered FifoTraceRow.uuid (listedSells rows)
    ++ ((tracedSells rows).take reportedTrades).filter (fun t => t.uuid = "")
    ++ (tracedSells rows).drop reportedTrades

/-- The result that the lookup finds under a uuid. -/
def pnlUnder (rows : List LedgerRow) (uuid : String) : ℚ :=
  toFloat ((lastOf (keyed FifoTraceRow.uuid (listedSells rows)) uuid).map
    FifoTraceRow.realizedPnlAfterFee)

theorem tracedSells_perm (rows : List LedgerRow) :
    (tracedSells rows).Perm (shownSells rows ++ hiddenSells rows) := by
  have hlisted := perm_uncovered_append_covered FifoTraceRow.uuid (listedSells rows)
  have hgiven : (listedSells rows
      ++ ((tracedSells rows).take reportedTrades).filter (fun t => t.uuid = "")).Perm
        ((tracedSells rows).take reportedTrades) := by
    have hsplit := List.filter_append_perm (fun t : FifoTraceRow => decide (t.uuid ≠ ""))
      ((tracedSells rows).take reportedTrades)
    simpa [listedSells] using hsplit
  unfold shownSells hiddenSells
  rw [← List.append_assoc, ← List.append_assoc]
  refine List.Perm.trans ?_ ((hlisted.symm.append_right _).append_right _)
  refine List.Perm.trans ?_ (hgiven.symm.append_right _)
  rw [List.take_append_drop]

theorem pnlUnder_shown {rows : List LedgerRow} {t : FifoTraceRow} (h : t ∈ shownSells rows) :
    pnlUnder rows t.uuid = t.realizedPnlAfterFee := by
  unfold pnlUnder
  rw [lastOf_of_mem_uncovered h]
  rfl

theorem lastOf_keyed_map {α β γ : Type} (f : α → γ) (g : β → γ) (as : List α) (bs : List β)
    (key : γ → String) (h : as.map f = bs.map g) (uuid : String) :
    (lastOf (keyed (fun a => key (f a)) as) uuid).map f
      = (lastOf (keyed (fun b => key (g b)) bs) uuid).map g := by
  have hboth : ∀ {δ : Type} (k : δ → γ) (l : List δ),
      (lastOf (keyed (fun d => key (k d)) l) uuid).map k
        = (l.map k).reverse.find? (fun c => key c = uuid) := by
    intro δ k l
    unfold lastOf keyed
    rw [← List.map_reverse, ← List.map_reverse, List.find?_map, List.find?_map, Option.map_map,
      Option.map_map]
    rfl
  rw [hboth f as, hboth g bs, h]

theorem pnlByUuid_realizedByUuid (rows : List LedgerRow) (valuationPrices : String → ℚ)
    (uuid : Option String) :
    pnlByUuid (realizedByUuid
        (computeRealizedPnlFromLedger rows valuationPrices ledgerFeeRate).realizedTrades) uuid
      = pnlUnder rows (toText uuid) := by
  let trades := (fifoState rows).realizedTrades.take reportedTrades
  have hshown : (trades.filter (fun t => textGiven t.exchangeOrderUuid)).map RealizedTrade.shown
      = (listedSells rows).map FifoTraceRow.shown := by
    have htake : trades.map RealizedTrade.shown
        = ((tracedSells rows).take reportedTrades).map FifoTraceRow.shown := by
      rw [List.map_take, List.map_take, realizedTrades_shown]
    have hleft : (trades.filter (fun t => textGiven t.exchangeOrderUuid)).map RealizedTrade.shown
        = (trades.map RealizedTrade.shown).filter (fun c => textGiven c.1) := by
      rw [List.filter_map]
      rfl
    have hright : (listedSells rows).map FifoTraceRow.shown
        = (((tracedSells rows).take reportedTrades).map FifoTraceRow.shown).filter
            (fun c => textGiven c.1) := by
      rw [List.filter_map]
      unfold listedSells
      congr 1
      refine List.filter_congr (fun t _ => ?_)
      exact Bool.eq_iff_iff.mpr (decide_eq_true_iff.trans bne_iff_ne.symm)
    rw [hleft, hright, htake]
  have hlast := lastOf_keyed_map RealizedTrade.shown FifoTraceRow.shown _ _
    (fun c : Option String × ℚ => toText c.1) hshown (toText uuid)
  have hsecond := congrArg (fun c => toFloat (Option.map Prod.snd c)) hlast
  simp only [Option.map_map] at hsecond
  exact hsecond

/-! ## What is traced and what is missing -/

section Report

variable (e : ReportEvidence) (ledgerRows : List LedgerRow) (valuationPrices : String → ℚ)

/-- The rows of the bot, as the report classifies them. -/
def botRows : List LedgerRow :=
  (buildExchangeFillAccountingReport e ledgerRows valuationPrices).botOwned.map ClassifiedFill.row

/-- A figure of the traced rows that lack an account. -/
def missingSum (traced : List FifoTraceRow) (figure : FifoTraceRow → ℚ) : ℚ :=
  sumWhere traced (fun t => e.lacksAccount t.row) figure

/-- The net result of the sells that lack an account. -/
def missingSellPnl (rows : List LedgerRow) : ℚ :=
  missingSum e (tracedSells rows) FifoTraceRow.realizedPnlAfterFee

/-- The results of sells without an account that the lookup shows for no row. -/
def droppedPnl (rows : List LedgerRow) : ℚ :=
  missingSum e (hiddenSells rows) FifoTraceRow.realizedPnlAfterFee

/-- The results that the lookup shows for rows without an account of which they are not. -/
def repeatedPnl (rows : List LedgerRow) : ℚ :=
  missingSum e (hiddenSells rows ++ tracedOthers rows) (fun t => pnlUnder rows t.uuid)

theorem missingSum_congr {traced : List FifoTraceRow} {f g : FifoTraceRow → ℚ}
    (h : ∀ t ∈ traced, f t = g t) : missingSum e traced f = missingSum e traced g := by
  unfold missingSum sumWhere
  congr 1
  refine List.map_congr_left (fun t ht => ?_)
  rw [h t ht]

theorem fifoTrace_row_perm (rows : List LedgerRow) :
    ((fifoState rows).fifoTrace.map FifoTraceRow.row).Perm rows := by
  unfold fifoState
  rw [fifoTrace_rows]
  exact List.perm_insertionSort _ rows

theorem estimatedPnlImpact_eq :
    (buildExchangeFillAccountingReport e ledgerRows
        valuationPrices).missingFillTrace.estimatedPnlImpact
      = missingSum e (fifoState (botRows e ledgerRows valuationPrices)).fifoTrace
          (fun t => pnlUnder (botRows e ledgerRows valuationPrices) t.uuid) := by
  let rows := botRows e ledgerRows valuationPrices
  let botOwned := (buildExchangeFillAccountingReport e ledgerRows valuationPrices).botOwned
  have himpact : (buildExchangeFillAccountingReport e ledgerRows
        valuationPrices).missingFillTrace.estimatedPnlImpact
      = ((botOwned.filter ClassifiedFill.isMissing).map
          (fun c => pnlUnder rows (toText c.row.exchangeOrderUuid))).sum := by
    show (List.map MissingFill.estimatedPnlImpact (List.map _ _)).sum = _
    rw [List.map_map]
    refine congrArg List.sum (List.map_congr_left (fun c _ => ?_))
    exact pnlByUuid_realizedByUuid rows valuationPrices c.row.exchangeOrderUuid
  have hmissing : ∀ c ∈ botOwned, c.isMissing = e.lacksAccount c.row := by
    intro c hc
    obtain ⟨row, -, rfl⟩ := List.mem_map.mp (List.mem_filter.mp hc).1
    rw [lacksAccount_classify, isMissing_classify]
  have hrows : ((botOwned.filter ClassifiedFill.isMissing).map
        (fun c => pnlUnder rows (toText c.row.exchangeOrderUuid))).sum
      = sumWhere rows e.lacksAccount (fun row => pnlUnder rows (toText row.exchangeOrderUuid)) := by
    rw [sum_filter_map]
    show sumWhere botOwned _ _ = sumWhere (botOwned.map ClassifiedFill.row) _ _
    unfold sumWhere
    rw [List.map_map]
    refine congrArg List.sum (List.map_congr_left (fun c hc => ?_))
    rw [hmissing c hc]
    rfl
  rw [himpact, hrows, ← sumWhere_perm (fifoTrace_row_perm rows)]
  unfold missingSum sumWhere
  rw [List.map_map]
  rfl

theorem missing_fill_impact_eq :
    (buildExchangeFillAccountingReport e ledgerRows
        valuationPrices).missingFillTrace.estimatedPnlImpact
        + droppedPnl e (botRows e ledgerRows valuationPrices)
      = missingSellPnl e (botRows e ledgerRows valuationPrices)
        + repeatedPnl e (botRows e ledgerRows valuationPrices) := by
  rw [estimatedPnlImpact_eq]
  generalize botRows e ledgerRows valuationPrices = rows
  have hsells : ∀ figure, missingSum e (tracedSells rows) figure
      = missingSum e (shownSells rows) figure + missingSum e (hiddenSells rows) figure := by
    intro figure
    unfold missingSum
    rw [sumWhere_perm (tracedSells_perm rows), sumWhere_append]
  have hall : ∀ figure, missingSum e (fifoState rows).fifoTrace figure
      = missingSum e (tracedSells rows) figure + missingSum e (tracedOthers rows) figure := by
    intro figure
    unfold missingSum tracedSells tracedOthers
    rw [← sumWhere_append]
    exact sumWhere_perm (List.filter_append_perm _ _).symm _ _
  have hshown : missingSum e (shownSells rows) (fun t => pnlUnder rows t.uuid)
      = missingSum e (shownSells rows) FifoTraceRow.realizedPnlAfterFee :=
    missingSum_congr e (fun _ => pnlUnder_shown)
  have hrepeated : repeatedPnl e rows
      = missingSum e (hiddenSells rows) (fun t => pnlUnder rows t.uuid)
        + missingSum e (tracedOthers rows) (fun t => pnlUnder rows t.uuid) :=
    sumWhere_append _ _ _ _
  rw [hall, hsells, hshown, hrepeated, missingSellPnl, hsells, droppedPnl]
  ring

/-- **When the trace adds up to the missing sells**: what the lookup shows again is as much
as what it shows for no row. -/
theorem missing_fill_impact_iff :
    (((buildExchangeFillAccountingReport e ledgerRows
          valuationPrices).missingFillTrace.items.map MissingFill.estimatedPnlImpact).sum
        = missingSellPnl e (botRows e ledgerRows valuationPrices))
      ↔ repeatedPnl e (botRows e ledgerRows valuationPrices)
        = droppedPnl e (botRows e ledgerRows valuationPrices) := by
  have heq := missing_fill_impact_eq e ledgerRows valuationPrices
  show (buildExchangeFillAccountingReport e ledgerRows
    valuationPrices).missingFillTrace.estimatedPnlImpact = _ ↔ _
  constructor
  · intro h
    linarith
  · intro h
    linarith

/-- An order sold in two fills, of which the database has the order row only. -/
def twoFillSale : List LedgerRow :=
  [{ exchangeOrderUuid := some "C0504000000407836245", market := "KRW-XLM", side := .buy
     quantity := 10, executedValue := 1000, executedAtUtc := some 0 },
   { exchangeOrderUuid := some "C0504000000407836246", market := "KRW-XLM", side := .sell
     quantity := 4, executedValue := 440, executedAtUtc := some 1 },
   { exchangeOrderUuid := some "C0504000000407836246", market := "KRW-XLM", side := .sell
     quantity := 6, executedValue := 720, executedAtUtc := some 2 }]

def orderRowsOnly : ReportEvidence :=
  { canonicalDbOrders := []
    allDbOrders :=
      [{ id := 1, orderUuid := some "C0504000000407836245", status := some "SUBMITTED" },
       { id := 2, orderUuid := some "C0504000000407836246", status := some "SUBMITTED" }]
    sessions := [], positionFillEvents := [], tradeOutcomeLogs := [] }

theorem two_fills_shown_twice :
    let trace := (buildExchangeFillAccountingReport orderRowsOnly twoFillSale
      (fun _ => 0)).missingFillTrace
    trace.items.map MissingFill.estimatedPnlImpact = [0, 120, 120]
      ∧ missingSellPnl orderRowsOnly (botRows orderRowsOnly twoFillSale (fun _ => 0)) = 160
      ∧ ¬ (trace.items.map MissingFill.estimatedPnlImpact).sum
        = missingSellPnl orderRowsOnly (botRows orderRowsOnly twoFillSale (fun _ => 0)) := by
  decide +kernel

/-! ## Rows with a uuid each -/

variable {e ledgerRows valuationPrices}

end Report

end AutoCoinBot
