/-
  ControlledAutoLive.PositionLoop — `run_controlled_position_loop`, with all its runs.

  A loop merges the report of a run that has ended `PASSED_POSITION_TRADE` into its own, and of no
  other run.
-/
import AutoCoinBot.ControlledAutoLive.FlatRuns

namespace AutoCoinBot

open Library

/-! ## The loop -/

namespace RunReport

def addTrade (report sub : RunReport) : RunReport :=
  let runRealizedPnl := report.runRealizedPnl + sub.runRealizedPnl
  let realizedPnl := report.protectedStrategyRealizedPnl + sub.protectedStrategyRealizedPnl
  let unrealizedPnl := report.protectedStrategyUnrealizedPnl + sub.protectedStrategyUnrealizedPnl
  { report with
    tradeCount := report.tradeCount + 1
    orderCount := report.orderCount + sub.orderCount
    buyFilledCount := report.buyFilledCount + sub.buyFilledCount
    sellFilledCount := report.sellFilledCount + sub.sellFilledCount
    grossPnl := report.grossPnl + sub.grossPnl
    netPnlAfterFee := report.netPnlAfterFee + sub.netPnlAfterFee
    runRealizedPnl := runRealizedPnl
    runPnl := runRealizedPnl
    protectedStrategyRealizedPnl := realizedPnl
    protectedStrategyUnrealizedPnl := unrealizedPnl
    protectedStrategyTotalPnl := realizedPnl + unrealizedPnl
    totalFee := report.totalFee + sub.totalFee
    exchangeFillCount := report.exchangeFillCount + sub.exchangeFillCount
    ledgerFillCount := report.ledgerFillCount + sub.ledgerFillCount
    missingLedgerFillCount := report.missingLedgerFillCount + sub.missingLedgerFillCount
    duplicateFillCount := report.duplicateFillCount + sub.duplicateFillCount
    duplicateClientOrderIdCount :=
      report.duplicateClientOrderIdCount + sub.duplicateClientOrderIdCount
    feeDiff := report.feeDiff + sub.feeDiff
    selectedSymbol := orText sub.selectedSymbol.toUpper report.selectedSymbol }

def mergePositionLoopSubrun (report sub : RunReport) : RunReport :=
  if sub.status ≠ .passedPositionTrade then report else report.addTrade sub

end RunReport

/-- The arguments of a loop. -/
structure LoopArgs where
  runId : String
  symbols : List String := ["BTC", "ETH"]
  notional : ℚ
  maxPositionTrades : ℕ := 3

/-- What one turn of the loop reads. -/
structure LoopTurn (ι : Type) where
  stopRequested : Bool := false
  -- with a baseline, before the run and after it
  lossExceeded : Except String Bool := .ok false
  lossExceededAfter : Except String Bool := .ok false
  noSecondsRemain : Bool := false
  -- of its run
  readings : ι
  -- `build_current_epoch_diagnostics`, after a trade
  epochRaises : Option String := none

/-- What a loop reads in the end. -/
structure LoopClosing where
  raises : Option String := none
  currentEpochAccountingPendingCount : ℕ := 0
  currentEpochAccountingFailedCount : ℕ := 0
  openOrderCountAfter : ℕ := 0
  lossExceeded : Bool := false
  runtimeStatus : String := "STOPPED"

/-- A loop so far: its report, `sub_runs`, the orders of its runs, and `traded_symbols`. -/
structure Loop where
  report : RunReport := {}
  subRuns : List RunReport := []
  requests : List OrderRequest := []
  tradedSymbols : List String := []

/-- How a turn ends. -/
inductive LoopTurnEnd where
  | goesOn (loop : Loop)
  | breaks (loop : Loop)
  | ends (loop : Loop) (status : ResultStatus) (reasons : List String)

namespace Loop

/-- `_finalize_position_loop`. -/
def finalize (loop : Loop) (status : ResultStatus) (reasons : List String) : Loop :=
  { loop with report := loop.report.finalize status reasons }

def exceptionReason (error : String) : String := "CONTROLLED_POSITION_LOOP_EXCEPTION:" ++ error

section Turns

variable {ι : Type} (runSub : String → List String → ι → RunOutcome) (args : LoopArgs)

def remainingSymbols (loop : Loop) : List String :=
  (positionSymbols args.symbols).filter (fun symbol => !loop.tradedSymbols.contains symbol)

/-- The run of a turn, which is appended to `sub_runs` and merged. -/
def withSub (loop : Loop) (sub : RunOutcome) : Loop :=
  { loop with
    report := loop.report.mergePositionLoopSubrun sub.report
    subRuns := loop.subRuns ++ [sub.report]
    requests := loop.requests ++ sub.requests }

/-- `traded_symbols.add`. -/
def noteTraded (loop : Loop) (symbol : String) : Loop :=
  if symbol = "" then loop else { loop with tradedSymbols := loop.tradedSymbols ++ [symbol] }

def afterSub (loop : Loop) (sub : RunReport) (turn : LoopTurn ι) : LoopTurnEnd :=
  match turn.lossExceededAfter with
  | .error error => .ends loop .failed [exceptionReason error]
  | .ok true => .ends loop .stopped [sessionLossLimitReached]
  | .ok false =>
    if sub.status = .passedPositionTrade then
      let loop := loop.noteTraded sub.selectedSymbol.toUpper
      match turn.epochRaises with
      | some error => .ends loop .failed [exceptionReason error]
      | none => .goesOn loop
    else if sub.status = .passIdle then .breaks loop
    else
      .ends loop .stopped
        (if sub.passFailReasons ≠ [] then sub.passFailReasons else [sub.status.text])

def turn (loop : Loop) (turn : LoopTurn ι) : LoopTurnEnd :=
  if args.maxPositionTrades ≤ loop.report.tradeCount ∨ turn.stopRequested then .breaks loop
  else
    match turn.lossExceeded with
    | .error error => .ends loop .failed [exceptionReason error]
    | .ok true => .ends loop .stopped [sessionLossLimitReached]
    | .ok false =>
      if loop.remainingSymbols args = [] ∨ turn.noSecondsRemain then .breaks loop
      else
        let sub := runSub (args.runId ++ "-trade-" ++ toString (loop.report.tradeCount + 1))
          (loop.remainingSymbols args) turn.readings
        (loop.withSub sub).afterSub sub.report turn

def turns : Loop → List (LoopTurn ι) → LoopTurnEnd
  | loop, [] => .goesOn loop
  | loop, t :: ts =>
    match loop.turn runSub args t with
    | .goesOn loop => turns loop ts
    | ending => ending

end Turns

def figures (report : RunReport) (closing : LoopClosing) : LoopFigures where
  tradeCount := report.tradeCount
  orderCount := report.orderCount
  exchangeFillCount := report.exchangeFillCount
  ledgerFillCount := report.ledgerFillCount
  missingLedgerFillCount := report.missingLedgerFillCount
  duplicateFillCount := report.duplicateFillCount
  duplicateClientOrderIdCount := report.duplicateClientOrderIdCount
  feeDiff := report.feeDiff
  equityDiffAfter := some 0
  currentEpochAccountingPendingCount := closing.currentEpochAccountingPendingCount
  currentEpochAccountingFailedCount := closing.currentEpochAccountingFailedCount
  openOrderCountAfter := closing.openOrderCountAfter

def close (loop : Loop) (closing : LoopClosing) : Loop :=
  match closing.raises with
  | some error => loop.finalize .failed [exceptionReason error]
  | none =>
    let report := { loop.report with
      protectedStrategyTotalPnl :=
        loop.report.protectedStrategyRealizedPnl + loop.report.protectedStrategyUnrealizedPnl }
    let loop := { loop with report := report }
    let reasons := positionLoopFailReasons (figures report closing) closing.lossExceeded
      closing.runtimeStatus
    if reasons ≠ [] then loop.finalize .stopped reasons
    else if report.tradeCount = 0 then loop.finalize .passIdle []
    else if 0 < report.protectedStrategyTotalPnl then loop.finalize .passedProfitablePosition []
    else loop.finalize .passedTechnicalPosition []

end Loop

/-- `run_controlled_position_loop`, whose runs are `runSub`. -/
def runControlledPositionLoop {ι : Type} (runSub : String → List String → ι → RunOutcome)
    (args : LoopArgs) (start : RunStart) (turns : List (LoopTurn ι)) (closing : LoopClosing) :
    Loop :=
  let loop : Loop := {}
  match start with
  | .aborts reasons => loop.finalize .aborted reasons
  | .raises error => loop.finalize .failed [Loop.exceptionReason error]
  | .enters =>
    match loop.turns runSub args turns with
    | .goesOn loop | .breaks loop => loop.close closing
    | .ends loop status reasons => loop.finalize status reasons

def positionLoopSubRun (exchange : Exchange) (notional : ℚ) (runId : String)
    (symbols : List String) (readings : PositionRunReadings) : RunOutcome :=
  runControlledEntryV3PositionRun exchange ⟨runId, symbols, notional⟩ readings

/-! ## One turn -/

section Turns

variable {ι : Type} {runSub : String → List String → ι → RunOutcome} {args : LoopArgs}

@[simp] theorem Loop.noteTraded_report (loop : Loop) (symbol : String) :
    (loop.noteTraded symbol).report = loop.report := by
  unfold Loop.noteTraded
  split <;> rfl

@[simp] theorem Loop.noteTraded_subRuns (loop : Loop) (symbol : String) :
    (loop.noteTraded symbol).subRuns = loop.subRuns := by
  unfold Loop.noteTraded
  split <;> rfl

@[simp] theorem Loop.noteTraded_requests (loop : Loop) (symbol : String) :
    (loop.noteTraded symbol).requests = loop.requests := by
  unfold Loop.noteTraded
  split <;> rfl

/-- What a turn does with a run: the loop goes on after a trade, ends well after an idle run, and
stops after any other. -/
inductive SubTurn (loop : Loop) (sub : RunOutcome) : LoopTurnEnd → Prop where
  | trades (h : sub.report.status = .passedPositionTrade) :
      SubTurn loop sub
        (.goesOn ((loop.withSub sub).noteTraded sub.report.selectedSymbol.toUpper))
  | idles (h : sub.report.status = .passIdle) : SubTurn loop sub (.breaks (loop.withSub sub))
  | ends (loop' : Loop) (status : ResultStatus) (reasons : List String)
      (hstatus : status.isPassing = false) (hreport : loop'.report = (loop.withSub sub).report)
      (hsubRuns : loop'.subRuns = (loop.withSub sub).subRuns) :
      SubTurn loop sub (.ends loop' status reasons)

theorem Loop.turn_cases (loop : Loop) (t : LoopTurn ι) :
    loop.turn runSub args t = .breaks loop
      ∨ (∃ status reasons, loop.turn runSub args t = .ends loop status reasons
          ∧ status.isPassing = false)
      ∨ ∃ runId, SubTurn loop (runSub runId (loop.remainingSymbols args) t.readings)
          (loop.turn runSub args t) := by
  unfold Loop.turn
  by_cases hover : args.maxPositionTrades ≤ loop.report.tradeCount ∨ t.stopRequested = true
  · rw [if_pos hover]
    exact .inl rfl
  rw [if_neg hover]
  split
  · exact .inr (.inl ⟨_, _, rfl, rfl⟩)
  · exact .inr (.inl ⟨_, _, rfl, rfl⟩)
  by_cases hremain : loop.remainingSymbols args = [] ∨ t.noSecondsRemain = true
  · rw [if_pos hremain]
    exact .inl rfl
  rw [if_neg hremain]
  refine .inr (.inr ⟨args.runId ++ "-trade-" ++ toString (loop.report.tradeCount + 1), ?_⟩)
  dsimp only
  generalize runSub _ (loop.remainingSymbols args) t.readings = sub
  unfold Loop.afterSub
  split
  · exact .ends _ _ _ rfl rfl rfl
  · exact .ends _ _ _ rfl rfl rfl
  split_ifs with htraded hidle
  · dsimp only
    split
    · exact .ends _ _ _ rfl (by simp) (by simp)
    · exact .trades htraded
  · exact .idles hidle
  · exact .ends _ _ _ rfl rfl rfl
  · exact .ends _ _ _ rfl rfl rfl

/-! ## What is merged -/

/-- A figure that a trade is added to, and that the end of a loop leaves as it is. -/
structure MergedFigure {M : Type*} [AddCommMonoid M] (f : RunReport → M) : Prop where
  empty : f {} = 0
  addTrade : ∀ report sub, f (report.addTrade sub) = f report + f sub
  finalize : ∀ report status reasons, f (report.finalize status reasons) = f report
  total : ∀ (report : RunReport) total,
    f { report with protectedStrategyTotalPnl := total } = f report

/-- **The merge** adds the figure of a run that has traded. -/
theorem MergedFigure.merge {M : Type*} [AddCommMonoid M] {f : RunReport → M} (hf : MergedFigure f)
    (report sub : RunReport) : f (report.mergePositionLoopSubrun sub)
      = f report + if sub.status == .passedPositionTrade then f sub else 0 := by
  unfold RunReport.mergePositionLoopSubrun
  by_cases hstatus : sub.status = .passedPositionTrade
  · rw [if_neg (not_not.mpr hstatus), if_pos (beq_iff_eq.mpr hstatus), hf.addTrade]
  · rw [if_pos hstatus, if_neg (by simpa using hstatus), add_zero]

/-- A loop whose figures are sums over the runs that have traded; at most one has not. -/
structure Merged (loop : Loop) : Prop where
  sums : ∀ {M : Type} [AddCommMonoid M] {f : RunReport → M}, MergedFigure f →
    f loop.report = sumWhere loop.subRuns (fun sub => sub.status == .passedPositionTrade) f
  others : (loop.subRuns.filter (fun sub => sub.status != .passedPositionTrade)).length ≤ 1

def AllTraded (loop : Loop) : Prop := ∀ sub ∈ loop.subRuns, sub.status = .passedPositionTrade

theorem Merged.withSub {loop : Loop} (h : Merged loop) (hall : AllTraded loop) (sub : RunOutcome) :
    Merged (loop.withSub sub) where
  sums := by
    intro M _ f hf
    show f (loop.report.mergePositionLoopSubrun sub.report) = sumWhere (loop.subRuns ++ [_]) _ f
    rw [hf.merge, sumWhere_append, h.sums hf, sumWhere_cons, sumWhere_nil, add_zero]
  others := by
    have hnone : loop.subRuns.filter (fun sub => sub.status != .passedPositionTrade) = [] := by
      refine List.filter_eq_nil_iff.mpr (fun sub hsub => ?_)
      rw [hall sub hsub]
      decide
    show ((loop.subRuns ++ [_]).filter _).length ≤ 1
    rw [List.filter_append, hnone, List.nil_append]
    exact (List.length_filter_le _ _).trans (le_refl 1)

def LoopTurnEnd.loop : LoopTurnEnd → Loop
  | .goesOn loop | .breaks loop | .ends loop _ _ => loop

theorem Merged.congr {loop loop' : Loop} (h : Merged loop) (hreport : loop'.report = loop.report)
    (hsubRuns : loop'.subRuns = loop.subRuns) : Merged loop' where
  sums := by
    intro M _ f hf
    rw [hreport, hsubRuns]
    exact h.sums hf
  others := by
    rw [hsubRuns]
    exact h.others

/-- **A turn** leaves the figures sums; while the loop goes on, all runs have traded. -/
theorem Merged.turn {loop : Loop} (h : Merged loop) (hall : AllTraded loop) (t : LoopTurn ι) :
    Merged (loop.turn runSub args t).loop
      ∧ ∀ loop', loop.turn runSub args t = .goesOn loop' → AllTraded loop' := by
  rcases loop.turn_cases t with hbreaks | ⟨status, reasons, hends, -⟩ | ⟨runId, hsub⟩
  · rw [hbreaks]
    exact ⟨h, fun _ hgoes => nomatch hgoes⟩
  · rw [hends]
    exact ⟨h, fun _ hgoes => nomatch hgoes⟩
  · have hwith := fun sub => h.withSub hall sub
    generalize loop.turn runSub args t = ending at hsub
    cases hsub with
    | trades htraded =>
      refine ⟨(hwith _).congr (Loop.noteTraded_report _ _) (Loop.noteTraded_subRuns _ _), ?_⟩
      intro loop' hgoes sub' hsub'
      obtain rfl := LoopTurnEnd.goesOn.inj hgoes
      rw [Loop.noteTraded_subRuns] at hsub'
      rcases List.mem_append.mp hsub' with hold | hnew
      · exact hall sub' hold
      · rw [List.mem_singleton.mp hnew]
        exact htraded
    | idles hidle => exact ⟨hwith _, fun _ hgoes => nomatch hgoes⟩
    | ends loop' status reasons hstatus hreport hsubRuns =>
      exact ⟨(hwith _).congr hreport hsubRuns, fun _ hgoes => nomatch hgoes⟩

/-- **All turns** leave the figures sums. -/
theorem Merged.turns {loop : Loop} (h : Merged loop) (hall : AllTraded loop)
    (ts : List (LoopTurn ι)) : Merged (loop.turns runSub args ts).loop := by
  induction ts generalizing loop with
  | nil => exact h
  | cons t ts ih =>
    obtain ⟨hturn, hgoes⟩ := @Merged.turn _ runSub args loop h hall t
    unfold Loop.turns
    split
    · rename_i loop' hloop
      rw [hloop] at hturn
      exact ih hturn (hgoes loop' hloop)
    · exact hturn

theorem Merged.finalize {loop : Loop} (h : Merged loop) (status : ResultStatus)
    (reasons : List String) : Merged (loop.finalize status reasons) where
  sums := by
    intro M _ f hf
    exact (hf.finalize loop.report status reasons).trans (h.sums hf)
  others := h.others

theorem Merged.close {loop : Loop} (h : Merged loop) (closing : LoopClosing) :
    Merged (loop.close closing) := by
  have htotal : Merged { loop with
      report := { loop.report with
        protectedStrategyTotalPnl :=
          loop.report.protectedStrategyRealizedPnl
            + loop.report.protectedStrategyUnrealizedPnl } } :=
    { sums := by
        intro M _ f hf
        exact (hf.total loop.report _).trans (h.sums hf)
      others := h.others }
  unfold Loop.close
  split
  · exact h.finalize _ _
  dsimp only
  split_ifs
  · exact htotal.finalize _ _
  · exact htotal.finalize _ _
  · exact htotal.finalize _ _
  · exact htotal.finalize _ _

theorem merged_runControlledPositionLoop (start : RunStart) (turns : List (LoopTurn ι))
    (closing : LoopClosing) :
    Merged (runControlledPositionLoop runSub args start turns closing) := by
  have hempty : Merged {} :=
    { sums := fun hf => hf.empty
      others := Nat.zero_le _ }
  have hturns : Merged (Loop.turns runSub args {} turns).loop :=
    hempty.turns (fun _ hsub => nomatch hsub) turns
  unfold runControlledPositionLoop
  dsimp only
  split
  · exact hempty.finalize _ _
  · exact hempty.finalize _ _
  split
  · rename_i hends
    rw [hends] at hturns
    exact hturns.close closing
  · rename_i hends
    rw [hends] at hturns
    exact hturns.close closing
  · rename_i hends
    rw [hends] at hturns
    exact hturns.finalize _ _

/-- **A figure is the sum over all runs** exactly if a run that has not traded has none of it. -/
theorem Merged.sum_iff {M : Type} [AddCommMonoid M] [IsLeftCancelAdd M] {f : RunReport → M}
    {loop : Loop} (h : Merged loop) (hf : MergedFigure f) :
    f loop.report = (loop.subRuns.map f).sum
      ↔ ∀ sub ∈ loop.subRuns, sub.status ≠ .passedPositionTrade → f sub = 0 := by
  have hall : (loop.subRuns.map f).sum = sumWhere loop.subRuns (fun _ => true) f := rfl
  have hothers := h.others
  rw [hall, sumWhere_split loop.subRuns (fun _ => true)
    (fun sub => sub.status == .passedPositionTrade), sumWhere_filter, sumWhere_filter, h.sums hf]
  simp only [Bool.and_true]
  rw [left_eq_add, ← sum_filter_map]
  have hmem : ∀ sub, sub ∈ loop.subRuns.filter (fun sub => sub.status != .passedPositionTrade)
      ↔ sub ∈ loop.subRuns ∧ sub.status ≠ .passedPositionTrade := by
    intro sub
    rw [List.mem_filter, bne_iff_ne]
  have hsame : loop.subRuns.filter (fun sub => !(sub.status == .passedPositionTrade))
      = loop.subRuns.filter (fun sub => sub.status != .passedPositionTrade) := rfl
  rw [hsame]
  generalize loop.subRuns.filter (fun sub => sub.status != .passedPositionTrade) = others
    at hothers hmem
  -- none or one of them has not traded
  match others with
  | [] =>
    have hnone : ∀ sub ∈ loop.subRuns, sub.status ≠ .passedPositionTrade → f sub = 0 :=
      fun sub hsub hstatus => nomatch (hmem sub).mpr ⟨hsub, hstatus⟩
    exact iff_of_true rfl hnone
  | [sub] =>
    have honly : (∀ sub' ∈ loop.subRuns, sub'.status ≠ .passedPositionTrade → f sub' = 0)
        ↔ f sub = 0 := by
      constructor
      · intro hzero
        obtain ⟨hsub, hstatus⟩ := (hmem sub).mp (List.mem_singleton_self sub)
        exact hzero sub hsub hstatus
      · intro hzero sub' hsub' hstatus
        rw [List.mem_singleton.mp ((hmem sub').mpr ⟨hsub', hstatus⟩)]
        exact hzero
    rw [honly]
    simp
  | _ :: _ :: _ => simp at hothers

end Turns

/-! ## Whether a report accounts for all runs -/

/-- **The report accounts for every run**: its figures are the sums over `sub_runs`. -/
structure AccountsForAll (loop : Loop) : Prop where
  orderCount : loop.report.orderCount = (loop.subRuns.map RunReport.orderCount).sum
  buyFilledCount : loop.report.buyFilledCount = (loop.subRuns.map RunReport.buyFilledCount).sum
  sellFilledCount : loop.report.sellFilledCount = (loop.subRuns.map RunReport.sellFilledCount).sum
  totalFee : loop.report.totalFee = (loop.subRuns.map RunReport.totalFee).sum
  netPnlAfterFee : loop.report.netPnlAfterFee = (loop.subRuns.map RunReport.netPnlAfterFee).sum
  protectedStrategyRealizedPnl : loop.report.protectedStrategyRealizedPnl
    = (loop.subRuns.map RunReport.protectedStrategyRealizedPnl).sum
  exchangeFillCount :
    loop.report.exchangeFillCount = (loop.subRuns.map RunReport.exchangeFillCount).sum
  ledgerFillCount : loop.report.ledgerFillCount = (loop.subRuns.map RunReport.ledgerFillCount).sum
  missingLedgerFillCount :
    loop.report.missingLedgerFillCount = (loop.subRuns.map RunReport.missingLedgerFillCount).sum
  duplicateFillCount :
    loop.report.duplicateFillCount = (loop.subRuns.map RunReport.duplicateFillCount).sum
  duplicateClientOrderIdCount : loop.report.duplicateClientOrderIdCount
    = (loop.subRuns.map RunReport.duplicateClientOrderIdCount).sum

/-- A report that has nothing to add. -/
structure RunReport.AddsNothing (report : RunReport) : Prop where
  orderCount : report.orderCount = 0
  buyFilledCount : report.buyFilledCount = 0
  sellFilledCount : report.sellFilledCount = 0
  totalFee : report.totalFee = 0
  netPnlAfterFee : report.netPnlAfterFee = 0
  protectedStrategyRealizedPnl : report.protectedStrategyRealizedPnl = 0
  exchangeFillCount : report.exchangeFillCount = 0
  ledgerFillCount : report.ledgerFillCount = 0
  missingLedgerFillCount : report.missingLedgerFillCount = 0
  duplicateFillCount : report.duplicateFillCount = 0
  duplicateClientOrderIdCount : report.duplicateClientOrderIdCount = 0

/-- **A loop's report accounts for every run** exactly if the runs that have not traded, and so were
not merged, have nothing to add. -/
theorem accountsForAll_iff {ι : Type} (runSub : String → List String → ι → RunOutcome)
    (args : LoopArgs) (start : RunStart) (turns : List (LoopTurn ι)) (closing : LoopClosing) :
    AccountsForAll (runControlledPositionLoop runSub args start turns closing)
      ↔ ∀ sub ∈ (runControlledPositionLoop runSub args start turns closing).subRuns,
          sub.status ≠ .passedPositionTrade → sub.AddsNothing := by
  have h := @merged_runControlledPositionLoop ι runSub args start turns closing
  generalize runControlledPositionLoop runSub args start turns closing = loop at h
  -- each of the figures is merged
  have horders := h.sum_iff (f := RunReport.orderCount)
    ⟨rfl, fun _ _ => rfl, fun _ _ _ => rfl, fun _ _ => rfl⟩
  have hbuys := h.sum_iff (f := RunReport.buyFilledCount)
    ⟨rfl, fun _ _ => rfl, fun _ _ _ => rfl, fun _ _ => rfl⟩
  have hsells := h.sum_iff (f := RunReport.sellFilledCount)
    ⟨rfl, fun _ _ => rfl, fun _ _ _ => rfl, fun _ _ => rfl⟩
  have hfees := h.sum_iff (f := RunReport.totalFee)
    ⟨rfl, fun _ _ => rfl, fun _ _ _ => rfl, fun _ _ => rfl⟩
  have hnet := h.sum_iff (f := RunReport.netPnlAfterFee)
    ⟨rfl, fun _ _ => rfl, fun _ _ _ => rfl, fun _ _ => rfl⟩
  have hrealized := h.sum_iff (f := RunReport.protectedStrategyRealizedPnl)
    ⟨rfl, fun _ _ => rfl, fun _ _ _ => rfl, fun _ _ => rfl⟩
  have hexchange := h.sum_iff (f := RunReport.exchangeFillCount)
    ⟨rfl, fun _ _ => rfl, fun _ _ _ => rfl, fun _ _ => rfl⟩
  have hledger := h.sum_iff (f := RunReport.ledgerFillCount)
    ⟨rfl, fun _ _ => rfl, fun _ _ _ => rfl, fun _ _ => rfl⟩
  have hmissing := h.sum_iff (f := RunReport.missingLedgerFillCount)
    ⟨rfl, fun _ _ => rfl, fun _ _ _ => rfl, fun _ _ => rfl⟩
  have hduplicates := h.sum_iff (f := RunReport.duplicateFillCount)
    ⟨rfl, fun _ _ => rfl, fun _ _ _ => rfl, fun _ _ => rfl⟩
  have hids := h.sum_iff (f := RunReport.duplicateClientOrderIdCount)
    ⟨rfl, fun _ _ => rfl, fun _ _ _ => rfl, fun _ _ => rfl⟩
  constructor
  · intro hall sub hsub hstatus
    exact ⟨horders.mp hall.orderCount sub hsub hstatus,
      hbuys.mp hall.buyFilledCount sub hsub hstatus,
      hsells.mp hall.sellFilledCount sub hsub hstatus,
      hfees.mp hall.totalFee sub hsub hstatus,
      hnet.mp hall.netPnlAfterFee sub hsub hstatus,
      hrealized.mp hall.protectedStrategyRealizedPnl sub hsub hstatus,
      hexchange.mp hall.exchangeFillCount sub hsub hstatus,
      hledger.mp hall.ledgerFillCount sub hsub hstatus,
      hmissing.mp hall.missingLedgerFillCount sub hsub hstatus,
      hduplicates.mp hall.duplicateFillCount sub hsub hstatus,
      hids.mp hall.duplicateClientOrderIdCount sub hsub hstatus⟩
  · intro hnothing
    exact
      { orderCount := horders.mpr (fun sub hsub hs => (hnothing sub hsub hs).orderCount)
        buyFilledCount := hbuys.mpr (fun sub hsub hs => (hnothing sub hsub hs).buyFilledCount)
        sellFilledCount := hsells.mpr (fun sub hsub hs => (hnothing sub hsub hs).sellFilledCount)
        totalFee := hfees.mpr (fun sub hsub hs => (hnothing sub hsub hs).totalFee)
        netPnlAfterFee := hnet.mpr (fun sub hsub hs => (hnothing sub hsub hs).netPnlAfterFee)
        protectedStrategyRealizedPnl :=
          hrealized.mpr (fun sub hsub hs => (hnothing sub hsub hs).protectedStrategyRealizedPnl)
        exchangeFillCount :=
          hexchange.mpr (fun sub hsub hs => (hnothing sub hsub hs).exchangeFillCount)
        ledgerFillCount := hledger.mpr (fun sub hsub hs => (hnothing sub hsub hs).ledgerFillCount)
        missingLedgerFillCount :=
          hmissing.mpr (fun sub hsub hs => (hnothing sub hsub hs).missingLedgerFillCount)
        duplicateFillCount :=
          hduplicates.mpr (fun sub hsub hs => (hnothing sub hsub hs).duplicateFillCount)
        duplicateClientOrderIdCount :=
          hids.mpr (fun sub hsub hs => (hnothing sub hsub hs).duplicateClientOrderIdCount) }

/-! A run whose BUY is not filled. -/

/-- An exchange that takes every order, and executes nothing. -/
def restingExchange : Exchange where
  encounter := fun request =>
    { placeOrder := .ok { uuid := some "C0101000000001", state := some "wait" }
      getOrder := [.ok { uuid := some "C0101000000001", state := some "wait"
                         volume := some request.volume, executedVolume := some 0
                         remainingVolume := some request.volume }]
      cancelOrder := .ok { uuid := some "C0101000000001", state := some "cancel" } }

def stoppedLoop : Loop :=
  runControlledPositionLoop (positionLoopSubRun restingExchange 10000)
    { runId := "posloop-20260702T000000-0a1b2c", notional := 10000 } .enters
    [{ readings :=
        { scans := [{ selected := .ok (some { symbol := "BTC", quote := .ok ⟨100, 99⟩ }) }] } }] {}

/-- **Its order is not counted.** -/
theorem stoppedRun_uncounted : ¬ AccountsForAll stoppedLoop := by
  intro h
  have horders := h.orderCount
  revert horders
  decide +kernel

/-! ## Loops that pass -/

section Flat

variable {exchange : Exchange} {requests requests' : List OrderRequest} {net net' : ℚ}

theorem Exchange.executedIn_eq_zero {market : String} (side : OrderSide)
    (h : ∀ request ∈ requests, request.market ≠ market) :
    exchange.executedIn requests market side = 0 := by
  unfold Exchange.executedIn
  induction requests with
  | nil => rfl
  | cons request requests ih =>
    have hother : (request.market == market) = false :=
      beq_eq_false_iff_ne.mpr (h request List.mem_cons_self)
    rw [sumWhere_cons, hother, Bool.false_and, if_neg Bool.false_ne_true, zero_add]
    exact ih (fun r hr => h r (List.mem_cons_of_mem _ hr))

/-- **Orders in other markets** keep a loop flat. -/
theorem Exchange.EndsFlat.append (h : exchange.EndsFlat requests net)
    (h' : exchange.EndsFlat requests' net')
    (hother : ∀ request ∈ requests, ∀ request' ∈ requests', request.market ≠ request'.market) :
    exchange.EndsFlat (requests ++ requests') (net + net') where
  flat := by
    intro market
    have hsplit : ∀ side, exchange.executedIn (requests ++ requests') market side
        = exchange.executedIn requests market side + exchange.executedIn requests' market side :=
      fun side => sumWhere_append _ _ _ _
    rw [hsplit, hsplit]
    by_cases hmarket : ∃ request' ∈ requests', request'.market = market
    · -- the market is one of the new orders
      obtain ⟨request', hrequest', rfl⟩ := hmarket
      have hnone : ∀ request ∈ requests, request.market ≠ request'.market :=
        fun request hrequest => hother request hrequest request' hrequest'
      rw [Exchange.executedIn_eq_zero _ hnone, Exchange.executedIn_eq_zero _ hnone, zero_add,
        zero_add]
      exact h'.flat _
    · have hnone : ∀ request' ∈ requests', request'.market ≠ market :=
        fun request' hrequest' heq => hmarket ⟨request', hrequest', heq⟩
      rw [Exchange.executedIn_eq_zero _ hnone, Exchange.executedIn_eq_zero _ hnone, add_zero,
        add_zero]
      exact h.flat _
  net := by
    rw [h.net, h'.net]
    unfold Exchange.netPnl
    rw [sumWhere_append, sumWhere_append, sumWhere_append, sumWhere_append]
    ring

/-- The loop has traded in the markets of its symbols, and is flat. -/
structure LoopFlat (exchange : Exchange) (loop : Loop) : Prop where
  flat : exchange.EndsFlat loop.requests loop.report.netPnlAfterFee
  markets : ∀ request ∈ loop.requests,
    ∃ symbol ∈ loop.tradedSymbols, request.market = "KRW-" ++ symbol

theorem Loop.mem_positionSymbols_remaining {args : LoopArgs} {loop : Loop} {symbol : String}
    (h : symbol ∈ positionSymbols (loop.remainingSymbols args)) :
    symbol ∉ loop.tradedSymbols ∧ symbol.toUpper = symbol ∧ symbol ≠ "" := by
  obtain ⟨hmap, -⟩ := List.mem_filter.mp h
  obtain ⟨remaining, hremaining, rfl⟩ := List.mem_map.mp hmap
  obtain ⟨hpositions, htraded⟩ := List.mem_filter.mp hremaining
  obtain ⟨-, hallowed⟩ := List.mem_filter.mp hpositions
  have hupper : remaining.toUpper = remaining ∧ remaining ≠ "" := by
    have hcases : remaining = "BTC" ∨ remaining = "ETH" := by simpa using hallowed
    rcases hcases with rfl | rfl <;> decide +kernel
  rw [hupper.1]
  exact ⟨by simpa using htraded, hupper.1, hupper.2⟩

theorem Traded.endsFlat {market : String} {report : RunReport}
    (h : Traded exchange market report requests) (hexchange : exchange.Truthful) :
    exchange.EndsFlat requests report.netPnlAfterFee
      ∧ ∀ request ∈ requests, request.market = market := by
  obtain ⟨buy, sell, bought, sold, hrequests, hmarket, htrip⟩ := h.trades
  rw [hrequests]
  refine ⟨htrip.endsFlat hexchange, ?_⟩
  intro request hrequest
  rcases List.mem_cons.mp hrequest with rfl | hrequest
  · exact hmarket
  · rw [List.mem_singleton.mp hrequest]
    exact htrip.market.trans hmarket

/-- What a turn's end has to be: a loop that is flat, or an end that does not pass. -/
def LoopTurnEnd.Flat (exchange : Exchange) : LoopTurnEnd → Prop
  | .goesOn loop | .breaks loop => LoopFlat exchange loop
  | .ends _ status _ => status.isPassing = false

/-- **A trade** leaves a loop flat. -/
theorem LoopFlat.trade {loop : Loop} {args : LoopArgs} {sub : RunOutcome}
    (h : LoopFlat exchange loop) (hexchange : exchange.Truthful)
    (hstatus : sub.report.status = .passedPositionTrade)
    (hsettled : Settled exchange
      (SelectsAmong (positionSymbols (loop.remainingSymbols args))) sub) :
    LoopFlat exchange ((loop.withSub sub).noteTraded sub.report.selectedSymbol.toUpper) := by
  have hmerged : (loop.report.mergePositionLoopSubrun sub.report).netPnlAfterFee
      = loop.report.netPnlAfterFee + sub.report.netPnlAfterFee := by
    unfold RunReport.mergePositionLoopSubrun
    rw [if_neg (not_not.mpr hstatus)]
    rfl
  -- the traded symbols are kept
  have hkept : ∀ symbol ∈ loop.tradedSymbols, symbol
      ∈ ((loop.withSub sub).noteTraded sub.report.selectedSymbol.toUpper).tradedSymbols := by
    intro symbol hsymbol
    unfold Loop.noteTraded
    split_ifs
    · exact hsymbol
    · exact List.mem_append_left _ hsymbol
  have hpassing : sub.report.status.isPassing = true := by rw [hstatus]; rfl
  rcases hsettled hpassing with hidle | ⟨-, market, ⟨hselected, rfl⟩, htraded⟩
  · refine ⟨?_, ?_⟩
    · rw [Loop.noteTraded_report, Loop.noteTraded_requests]
      show exchange.EndsFlat (loop.requests ++ sub.requests)
        (loop.report.mergePositionLoopSubrun sub.report).netPnlAfterFee
      rw [hmerged, hidle.requests, hidle.net, List.append_nil, add_zero]
      exact h.flat
    · intro request hrequest
      rw [Loop.noteTraded_requests] at hrequest
      have hold : request ∈ loop.requests ++ sub.requests := hrequest
      rw [hidle.requests, List.append_nil] at hold
      obtain ⟨symbol, hsymbol, hmarket⟩ := h.markets request hold
      exact ⟨symbol, hkept symbol hsymbol, hmarket⟩
  · obtain ⟨hfresh, hupper, hne⟩ := Loop.mem_positionSymbols_remaining hselected
    obtain ⟨hflat, hmarkets⟩ := htraded.endsFlat hexchange
    refine ⟨?_, ?_⟩
    · rw [Loop.noteTraded_report, Loop.noteTraded_requests]
      show exchange.EndsFlat (loop.requests ++ sub.requests)
        (loop.report.mergePositionLoopSubrun sub.report).netPnlAfterFee
      rw [hmerged]
      refine h.flat.append hflat (fun request hrequest request' hrequest' heq => ?_)
      -- the market of the trade is none of those before
      obtain ⟨symbol, hsymbol, hmarket⟩ := h.markets request hrequest
      rw [hmarket, hmarkets request' hrequest'] at heq
      rw [(String.append_right_inj _).mp heq] at hsymbol
      exact hfresh hsymbol
    · intro request hrequest
      rw [Loop.noteTraded_requests] at hrequest
      rcases List.mem_append.mp hrequest with hold | hnew
      · obtain ⟨symbol, hsymbol, hmarket⟩ := h.markets request hold
        exact ⟨symbol, hkept symbol hsymbol, hmarket⟩
      · refine ⟨sub.report.selectedSymbol, ?_, hmarkets request hnew⟩
        unfold Loop.noteTraded
        rw [hupper, if_neg hne]
        exact List.mem_append_right _ (List.mem_singleton_self _)

/-- **A turn** leaves a loop that goes on, or ends well, flat. -/
theorem LoopFlat.turn {loop : Loop} (h : LoopFlat exchange loop) (hexchange : exchange.Truthful)
    (args : LoopArgs) (t : LoopTurn PositionRunReadings) :
    (loop.turn (positionLoopSubRun exchange args.notional) args t).Flat exchange := by
  rcases @Loop.turn_cases _ (positionLoopSubRun exchange args.notional) args loop t with
    hbreaks | ⟨status, reasons, hends, hstatus⟩ | ⟨runId, hsub⟩
  · rw [hbreaks]
    exact h
  · rw [hends]
    exact hstatus
  · have hsettled : Settled exchange
        (SelectsAmong (positionSymbols (loop.remainingSymbols args)))
        (positionLoopSubRun exchange args.notional runId (loop.remainingSymbols args) t.readings) :=
      settled_positionRun _ _
    generalize positionLoopSubRun exchange args.notional runId (loop.remainingSymbols args)
      t.readings = sub at hsub hsettled
    generalize loop.turn (positionLoopSubRun exchange args.notional) args t = ending at hsub
    cases hsub with
    | trades htraded => exact h.trade hexchange htraded hsettled
    | idles hidle =>
      have hpassing : sub.report.status.isPassing = true := by rw [hidle]; rfl
      rcases hsettled hpassing with hnothing | ⟨hne, -⟩
      · have hreport : loop.report.mergePositionLoopSubrun sub.report = loop.report :=
          if_pos (by rw [hidle]; decide)
        have hrequests : loop.requests ++ sub.requests = loop.requests := by
          rw [hnothing.requests, List.append_nil]
        refine ⟨?_, ?_⟩
        · show exchange.EndsFlat (loop.requests ++ sub.requests)
            (loop.report.mergePositionLoopSubrun sub.report).netPnlAfterFee
          rw [hreport, hrequests]
          exact h.flat
        · show ∀ request ∈ loop.requests ++ sub.requests, _
          rw [hrequests]
          exact h.markets
      · exact absurd hidle hne
    | ends loop' status reasons hstatus _ _ => exact hstatus

/-- **All turns.** -/
theorem LoopFlat.turns {loop : Loop} (h : LoopFlat exchange loop) (hexchange : exchange.Truthful)
    (args : LoopArgs) (ts : List (LoopTurn PositionRunReadings)) :
    (loop.turns (positionLoopSubRun exchange args.notional) args ts).Flat exchange := by
  induction ts generalizing loop with
  | nil => exact h
  | cons t ts ih =>
    have hturn := h.turn hexchange args t
    unfold Loop.turns
    split
    · rename_i loop' hloop
      rw [hloop] at hturn
      exact ih hturn
    · exact hturn

theorem Loop.close_kept (loop : Loop) (closing : LoopClosing) :
    (loop.close closing).requests = loop.requests
      ∧ (loop.close closing).report.netPnlAfterFee = loop.report.netPnlAfterFee := by
  unfold Loop.close
  split
  · exact ⟨rfl, rfl⟩
  dsimp only
  split_ifs <;> exact ⟨rfl, rfl⟩

end Flat

/-! ## The runs and the loops -/

/-- A run of one of the runners, or of their loop. -/
inductive ControlledRun where
  | autoLive (run : AutoRun)
  | tradeProbe (run : TradeProbe)
  | positionRun (args : PositionRunArgs) (readings : PositionRunReadings)
  | positionLoop (args : LoopArgs) (start : RunStart) (turns : List (LoopTurn PositionRunReadings))
      (closing : LoopClosing)

def ControlledRun.outcome (exchange : Exchange) : ControlledRun → RunOutcome
  | .autoLive run => runControlledAutoLive exchange run
  | .tradeProbe run => runControlledTradeProbe exchange run
  | .positionRun args readings => runControlledEntryV3PositionRun exchange args readings
  | .positionLoop args start turns closing =>
    let loop := runControlledPositionLoop (positionLoopSubRun exchange args.notional) args start
      turns closing
    ⟨loop.report, loop.requests⟩

theorem positionLoop_passesFlat {exchange : Exchange} (hexchange : exchange.Truthful)
    (args : LoopArgs) (start : RunStart) (turns : List (LoopTurn PositionRunReadings))
    (closing : LoopClosing) :
    ((ControlledRun.positionLoop args start turns closing).outcome exchange).PassesFlat
      exchange := by
  have hempty : LoopFlat exchange {} :=
    { flat := ⟨fun market => by simp [Exchange.executedIn], by simp [Exchange.netPnl]⟩
      markets := fun _ hrequest => nomatch hrequest }
  have hturns := hempty.turns hexchange args turns
  unfold ControlledRun.outcome RunOutcome.PassesFlat runControlledPositionLoop
  dsimp only
  intro hpassing
  cases start with
  | aborts reasons => cases hpassing
  | raises error => cases hpassing
  | enters =>
    dsimp only at hpassing ⊢
    have hclose : ∀ loop, LoopFlat exchange loop → exchange.EndsFlat
        (loop.close closing).requests (loop.close closing).report.netPnlAfterFee := by
      intro loop hloop
      rw [(loop.close_kept closing).1, (loop.close_kept closing).2]
      exact hloop.flat
    generalize Loop.turns (positionLoopSubRun exchange args.notional) args {} turns = ending
      at hturns hpassing ⊢
    cases ending with
    | goesOn loop => exact hclose loop hturns
    | breaks loop => exact hclose loop hturns
    | ends loop status reasons =>
      have hstatus : status.isPassing = true := hpassing
      have hnot : status.isPassing = false := hturns
      rw [hnot] at hstatus
      cases hstatus

/-- **A run or a loop that passes ends flat**, and its P&L is that of its orders, where the exchange
answers truthfully. -/
theorem run_passesFlat (exchange : Exchange) (hexchange : exchange.Truthful) (run : ControlledRun) :
    (run.outcome exchange).PassesFlat exchange := by
  cases run with
  | autoLive run => exact (settled_autoLive run).passesFlat hexchange
  | tradeProbe run => exact (settled_tradeProbe run).passesFlat hexchange
  | positionRun args readings => exact (settled_positionRun args readings).passesFlat hexchange
  | positionLoop args start turns closing =>
    exact positionLoop_passesFlat hexchange args start turns closing

/-! An exchange that fills every order. -/

/-- It takes note of an order, and describes it as done when it is asked. -/
def fillingExchange : Exchange where
  encounter := fun request =>
    { placeOrder := .ok { uuid := some "C0101000000001", state := some "wait" }
      getOrder := [.ok { uuid := some "C0101000000001", state := some "done"
                         price := some request.price, volume := some request.volume
                         executedVolume := some request.volume, remainingVolume := some 0
                         paidFee := some (request.price * request.volume / 2500) }]
      cancelOrder := .error { message := "already_done" }
      finallyExecuted := request.volume }

theorem fillingExchange_truthful : fillingExchange.Truthful := by
  intro request
  refine ⟨le_refl _, fun raw hraw => ?_⟩
  have hanswers : (fillingExchange.encounter request).answers
      = [{ uuid := some "C0101000000001", state := some "wait" },
        { uuid := some "C0101000000001", state := some "done"
          price := some request.price, volume := some request.volume
          executedVolume := some request.volume, remainingVolume := some 0
          paidFee := some (request.price * request.volume / 2500) }] := rfl
  rw [hanswers] at hraw
  rcases List.mem_cons.mp hraw with rfl | hraw
  · exact .inl ⟨rfl, by decide +kernel⟩
  · rw [List.mem_singleton.mp hraw]
    refine .inr ⟨rfl, ?_, le_refl _, fun _ => rfl⟩
    show some (0 : ℚ) = some (request.volume - request.volume)
    rw [sub_self]

/-- A loop that buys BTC, and sells it again. -/
def tradingLoop : ControlledRun :=
  .positionLoop { runId := "posloop-20260702T000000-0a1b2c", notional := 10000 } .enters
    [{ readings :=
        { scans := [{ selected := .ok (some { symbol := "BTC", quote := .ok ⟨100, 99⟩ }) }]
          sellQuote := .ok ⟨100, 99⟩ } },
      { stopRequested := true, readings := {} }] {}

theorem tradingLoop_passesFlat :
    (tradingLoop.outcome fillingExchange).report.status = .passedTechnicalPosition
      ∧ fillingExchange.EndsFlat (tradingLoop.outcome fillingExchange).requests
          (tradingLoop.outcome fillingExchange).report.netPnlAfterFee :=
  ⟨by decide +kernel,
    run_passesFlat fillingExchange fillingExchange_truthful tradingLoop (by decide +kernel)⟩

end AutoCoinBot
