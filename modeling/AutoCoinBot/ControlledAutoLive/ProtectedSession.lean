/-
  ControlledAutoLive.ProtectedSession — the loss stop of a protected session, of
  app/controlled_auto_live.py.

  The baseline of a session takes its totals from the risk manager's day, and is updated with the
  diagnostics of the accounting epoch.
-/
import AutoCoinBot.Library.Run
import AutoCoinBot.RiskManager.State

namespace AutoCoinBot

open Library

/-! ## The baseline -/

def protectedSessionLossLimitRate : ℚ := 1 / 200

def protectedSessionMaxDailyLossKrw : ℚ := 1000

/-- `build_current_epoch_diagnostics`, and what the gate adds to it: the figures that the session
reads. There are none without an epoch. -/
structure EpochDiagnostics where
  currentEpochCurrentEquity : Option ℚ := none
  currentEquityFromExchange : Option ℚ := none
  currentEpochTotalPnl : Option ℚ := none

/-- `OK` or `EXCEEDED`. -/
inductive LossStatus where
  | ok
  | exceeded
  deriving DecidableEq

/-- A protected session's baseline, which its updates are written into. -/
structure ProtectedSessionBaseline where
  sessionStartEquity : ℚ
  sessionStartRealizedPnl : ℚ
  sessionStartUnrealizedPnl : ℚ
  sessionStartTotalPnl : ℚ
  globalDailyLossStatus : LossStatus
  sessionLossLimitKrw : ℚ
  protectedSessionLossStatus : LossStatus := .ok
  sessionPnlDelta : ℚ := 0
  sessionRealizedPnlDelta : ℚ := 0
  sessionUnrealizedPnlDelta : ℚ := 0
  sessionLossLimitRemaining : ℚ
  protectedSessionStopReason : Option String := none

def protectedSessionLossLimitKrw (currentEquity : ℚ) : ℚ :=
  if 0 < currentEquity then
    min protectedSessionMaxDailyLossKrw (currentEquity * protectedSessionLossLimitRate)
  else protectedSessionMaxDailyLossKrw

/-- `current_equity` of the session. -/
def EpochDiagnostics.currentEquity (epoch : EpochDiagnostics) : ℚ :=
  epoch.currentEpochCurrentEquity.getD (toFloat epoch.currentEquityFromExchange)

/-- `build_protected_session_baseline`; a risk state that is empty or unavailable is `none`. -/
def buildProtectedSessionBaseline (currentEpoch : EpochDiagnostics)
    (riskState : Option RiskState) : ProtectedSessionBaseline :=
  let startRealized := toFloat (riskState.map RiskState.dailyRealizedPnl)
  let startUnrealized := toFloat (riskState.map RiskState.dailyUnrealizedPnl)
  let startTotal := (riskState.map RiskState.dailyTotalPnl).getD (startRealized + startUnrealized)
  let sessionLimit := protectedSessionLossLimitKrw currentEpoch.currentEquity
  { sessionStartEquity := currentEpoch.currentEquity
    sessionStartRealizedPnl := startRealized
    sessionStartUnrealizedPnl := startUnrealized
    sessionStartTotalPnl := startTotal
    globalDailyLossStatus := if min startRealized startTotal ≤ -sessionLimit then .exceeded else .ok
    sessionLossLimitKrw := sessionLimit
    sessionLossLimitRemaining := sessionLimit }

/-- The risk state that `protected_session_gate_status` asks for, whose baseline the daemon starts
with; `raised` is an exception of `compute_risk_state`. -/
def protectedSessionRiskState (env : RiskEnvironment) (db : Database) (exchange : String)
    (raised : Bool) (currentEpoch : EpochDiagnostics) : Option RiskState :=
  let equity := currentEpoch.currentEquity
  if raised then none
  else some (computeRiskState env db exchange "KRW-BTC" none
    (if 0 < equity then some equity else none))

/-! ## The updates -/

/-- `update_protected_session_loss_status`, as the baseline that it leaves. -/
def updateProtectedSessionLossStatus (baseline : ProtectedSessionBaseline)
    (currentEpoch : EpochDiagnostics) (riskState : Option RiskState) : ProtectedSessionBaseline :=
  let currentTotal := (riskState.map RiskState.dailyTotalPnl).getD
    (currentEpoch.currentEpochTotalPnl.getD baseline.sessionStartTotalPnl)
  let currentRealized :=
    (riskState.map RiskState.dailyRealizedPnl).getD baseline.sessionStartRealizedPnl
  let currentUnrealized :=
    (riskState.map RiskState.dailyUnrealizedPnl).getD baseline.sessionStartUnrealizedPnl
  let totalDelta := currentTotal - baseline.sessionStartTotalPnl
  let limit := baseline.sessionLossLimitKrw
  let status := if totalDelta ≤ -limit then LossStatus.exceeded else .ok
  { baseline with
    protectedSessionLossStatus := status
    sessionPnlDelta := totalDelta
    sessionRealizedPnlDelta := currentRealized - baseline.sessionStartRealizedPnl
    sessionUnrealizedPnlDelta := currentUnrealized - baseline.sessionStartUnrealizedPnl
    sessionLossLimitRemaining := if totalDelta < 0 then limit + totalDelta else limit
    protectedSessionStopReason :=
      if status = .exceeded then some "PROTECTED_SESSION_LOSS_LIMIT_REACHED" else none }

/-- The session after updates with the diagnostics of the epoch, as the runs make them. -/
def sessionAfter (baseline : ProtectedSessionBaseline) (epochs : List EpochDiagnostics) :
    ProtectedSessionBaseline :=
  run (fun baseline epoch => updateProtectedSessionLossStatus baseline epoch none) baseline epochs

section Updates

variable (baseline : ProtectedSessionBaseline) (epoch : EpochDiagnostics)

theorem run_updates_start (epochs : List EpochDiagnostics) :
    (sessionAfter baseline epochs).sessionStartTotalPnl = baseline.sessionStartTotalPnl
      ∧ (sessionAfter baseline epochs).sessionLossLimitKrw = baseline.sessionLossLimitKrw := by
  unfold sessionAfter
  refine run_invariant (P := fun b : ProtectedSessionBaseline =>
    b.sessionStartTotalPnl = baseline.sessionStartTotalPnl
      ∧ b.sessionLossLimitKrw = baseline.sessionLossLimitKrw) ?_ ⟨rfl, rfl⟩ epochs
  intro b epoch hb
  exact hb

theorem sessionPnlDelta_update {total : ℚ} (htotal : epoch.currentEpochTotalPnl = some total) :
    (updateProtectedSessionLossStatus baseline epoch none).sessionPnlDelta
      = total - baseline.sessionStartTotalPnl := by
  unfold updateProtectedSessionLossStatus
  rw [htotal]
  rfl

theorem lossStatus_update_iff :
    (updateProtectedSessionLossStatus baseline epoch none).protectedSessionLossStatus = .exceeded
      ↔ (updateProtectedSessionLossStatus baseline epoch none).sessionPnlDelta
        ≤ -baseline.sessionLossLimitKrw := by
  unfold updateProtectedSessionLossStatus
  dsimp only
  split_ifs with hlimit
  · exact ⟨fun _ => hlimit, fun _ => rfl⟩
  · refine ⟨fun h => ?_, fun h => absurd h hlimit⟩
    cases h

end Updates

/-! ## The session's own loss -/

/-- **The stop measures the session's own loss**: after any updates, the change is that of the
epoch's total since the start, and the stop is hit when that change is a loss of the limit. -/
def MeasuresOwnLoss (start : EpochDiagnostics) (riskState : Option RiskState) : Prop :=
  ∀ (earlier : List EpochDiagnostics) (now : EpochDiagnostics) (startTotal nowTotal : ℚ),
    start.currentEpochTotalPnl = some startTotal → now.currentEpochTotalPnl = some nowTotal →
    let baseline := buildProtectedSessionBaseline start riskState
    let session := sessionAfter baseline (earlier ++ [now])
    session.sessionPnlDelta = nowTotal - startTotal
      ∧ (session.protectedSessionLossStatus = .exceeded
        ↔ nowTotal - startTotal ≤ -baseline.sessionLossLimitKrw)

/-- The day's total that the session starts from. -/
def startOfDayTotal (riskState : Option RiskState) : ℚ :=
  toFloat (riskState.map RiskState.dailyTotalPnl)

theorem sessionStartTotalPnl_build (start : EpochDiagnostics) (riskState : Option RiskState) :
    (buildProtectedSessionBaseline start riskState).sessionStartTotalPnl
      = startOfDayTotal riskState := by
  cases riskState with
  | none => exact add_zero 0
  | some state => rfl

/-- **Day and epoch have to agree at the start.** What was made that day before the session is
measured with it, whether it was lost or gained. -/
theorem measuresOwnLoss_iff (start : EpochDiagnostics) (riskState : Option RiskState) :
    MeasuresOwnLoss start riskState
      ↔ ∀ startTotal, start.currentEpochTotalPnl = some startTotal →
        startOfDayTotal riskState = startTotal := by
  constructor
  · intro hmeasures startTotal hstart
    have hdelta := (hmeasures [] start startTotal startTotal hstart hstart).1
    dsimp only [List.nil_append] at hdelta
    rw [show sessionAfter (buildProtectedSessionBaseline start riskState) [start]
        = updateProtectedSessionLossStatus (buildProtectedSessionBaseline start riskState) start none
      from rfl, sessionPnlDelta_update _ _ hstart, sessionStartTotalPnl_build] at hdelta
    linarith
  · intro hagree earlier now startTotal nowTotal hstart hnow
    obtain ⟨hkept, hlimit⟩ :=
      run_updates_start (buildProtectedSessionBaseline start riskState) earlier
    have hlast : sessionAfter (buildProtectedSessionBaseline start riskState) (earlier ++ [now])
        = updateProtectedSessionLossStatus
          (sessionAfter (buildProtectedSessionBaseline start riskState) earlier) now none :=
      run_append _ _ _
    have hdelta : (sessionAfter (buildProtectedSessionBaseline start riskState)
        (earlier ++ [now])).sessionPnlDelta = nowTotal - startTotal := by
      rw [hlast, sessionPnlDelta_update _ _ hnow, hkept, sessionStartTotalPnl_build,
        hagree startTotal hstart]
    refine ⟨hdelta, ?_⟩
    rw [← hdelta, ← hlimit, hlast]
    exact lossStatus_update_iff _ _

/-- 1,500 KRW lost in one position, closed within the day. -/
def lossBeforeStart : Database :=
  { livePositions := Table.empty.insert
      (fun k =>
        { id := k, market := "KRW-BTC", status := .closed, realizedPnl := -1500
          closedAt := some 0 })
      (fun _ => rfl) }

def exampleStart : EpochDiagnostics :=
  { currentEpochCurrentEquity := some 260000, currentEpochTotalPnl := some (-5000) }

/-- **The loss before the start is not left out**: nothing is lost since, and the stop is hit. -/
theorem not_measuresOwnLoss_example :
    ¬ MeasuresOwnLoss exampleStart
      (protectedSessionRiskState {} lossBeforeStart "bithumb" false exampleStart) := by
  intro hmeasures
  have hdelta := (hmeasures [] exampleStart (-5000) (-5000) rfl rfl).1
  revert hdelta
  decide +kernel

end AutoCoinBot
