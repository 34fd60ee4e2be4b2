/-
  LiveStrategyPilot.ProcessSession — what `_process_session` turns to.

  A session manages its open order, or works on the position it holds. A session with neither
  follows the active selector to another candidate, then adopts a position that is open in its
  market, and looks for an entry if there is none.
-/
import AutoCoinBot.LiveStrategyPilot.OpenOrders
import AutoCoinBot.LiveStrategyPilot.Sessions

namespace AutoCoinBot

open Library

/-! ## The active selector -/

/-- `ORDER BY selected_at DESC, id DESC`. -/
def ActiveStrategySelection.newer (a b : ActiveStrategySelection) : Prop :=
  b.selectedAt < a.selectedAt ∨ (b.selectedAt = a.selectedAt ∧ b.id ≤ a.id)

instance : DecidableRel ActiveStrategySelection.newer := fun a b =>
  inferInstanceAs (Decidable (b.selectedAt < a.selectedAt
    ∨ (b.selectedAt = a.selectedAt ∧ b.id ≤ a.id)))

def loadActiveStrategySelection (db : Database) : Option ActiveStrategySelection :=
  ((db.activeStrategySelection.select (fun a => a.status == .liveActive)).insertionSort
    ActiveStrategySelection.newer).head?

def activeSelectorCandidate (db : Database) : Option CandidateStrategy :=
  (loadActiveStrategySelection db).bind (fun a => loadCandidateStrategy db a.candidateStrategyId)

/-- The session after `_sync_session_to_active_selector` has pointed it to a candidate. -/
def LiveStrategySession.pointTo (session : LiveStrategySession) (candidate : CandidateStrategy) :
    LiveStrategySession :=
  { session with
    candidateStrategyId := candidate.id
    market := candidate.market
    strategyName := candidate.strategy
    lastRiskResult := some "ACTIVE_SELECTOR_SYNCED"
    lastOrderStatus := some "WAITING_NEXT_ENTRY" }

section Selector

variable (config : LiveStrategyConfig) (db : Database) (session : LiveStrategySession)

/-- The candidate that a session is pointed to. -/
def selectorTarget : Option CandidateStrategy :=
  let held := loadOpenLivePositionsForExchange db config.allowedExchange
  (activeSelectorCandidate db).filter (fun candidate =>
    candidate.id != session.candidateStrategyId
      && [CandidateStatus.liveEligible, .liveActive].contains candidate.status
      && marketIsLiveAllowed db config.allowedExchange candidate.market
      && decide ((held.length : ℤ) < config.maxOpenPositionCount)
      && !held.any (fun p => p.market == candidate.market))

def syncSessionToActiveSelector : Database × LiveStrategySession :=
  match selectorTarget config db session with
  | none => (db, session)
  | some candidate =>
    let sessions :=
      db.liveStrategySessions.modify session.id (fun row => row.pointTo candidate) (fun _ => rfl)
    ({ db with liveStrategySessions := sessions }, session.pointTo candidate)

/-! ## Positions -/

/-- The position that a session without one adopts, and what is noted of it. -/
def adoptedPosition : Option (LivePosition × String) :=
  let market := session.marketFor config
  -- the smart engine takes over what any session has bought
  let smartPosition :=
    if session.isSmartAutonomous then (loadOpenLivePositions db config.allowedExchange market).head?
    else none
  let strategyPosition :=
    loadOpenLivePositionForStrategy db config.allowedExchange market session.candidateStrategyId
  (smartPosition.map (fun p => (p, "POSITION_ADOPTED_BY_SMART_ENGINE"))).or
    (strategyPosition.map (fun p => (p, "POSITION_ADOPTED_FROM_STRATEGY")))

/-- What `_process_session` turns to, with the session as it is then. -/
inductive SessionPath where
  | emergency
  | openOrder
  | position (session : LiveStrategySession) (p : LivePosition)
  | adopted (session : LiveStrategySession) (p : LivePosition) (riskResult : String)
  | entry (session : LiveStrategySession)
  deriving DecidableEq

/-- The branches of `_process_session`. -/
def sessionPath (emergencyStopped : Bool) : SessionPath :=
  if emergencyStopped then .emergency
  else if textGiven session.currentOpenOrderUuid then .openOrder
  else
    match loadOpenLivePosition db session.id config.allowedExchange (session.marketFor config) with
    | some p => .position session p
    | none =>
      let (db, synced) := syncSessionToActiveSelector config db session
      match adoptedPosition config db synced with
      | some (p, riskResult) => .adopted synced p riskResult
      | none => .entry synced

/-- `_process_session`, up to where it turns to its path. -/
def enterSession (emergencyStopped : Bool) : Database :=
  match sessionPath config db session emergencyStopped with
  | .emergency | .openOrder | .position _ _ => db
  | .adopted _ p riskResult =>
    updateLiveStrategySession (syncSessionToActiveSelector config db session).1 session.id
      { status := some .running
        currentPositionId := some (some p.id)
        lastRiskResult := some riskResult
        lastOrderStatus := some "POSITION_OPEN" }
  | .entry _ => (syncSessionToActiveSelector config db session).1

/-! ## What is written to the session -/

/-- The candidate the session is pointed to before it turns to its path. -/
def enteredTarget (emergencyStopped : Bool) : Option CandidateStrategy :=
  match sessionPath config db session emergencyStopped with
  | .emergency | .openOrder | .position _ _ => none
  | .adopted _ _ _ | .entry _ => selectorTarget config db session

def enteredPosition (emergencyStopped : Bool) : Option (LivePosition × String) :=
  match sessionPath config db session emergencyStopped with
  | .adopted _ p riskResult => some (p, riskResult)
  | _ => none

/-- The row of a session that is pointed to a candidate and adopts a position. -/
def LiveStrategySession.enter (target : Option CandidateStrategy)
    (adopted : Option (LivePosition × String)) (row : LiveStrategySession) : LiveStrategySession :=
  let pointed := target.elim row row.pointTo
  adopted.elim pointed (fun (p, riskResult) => pointed.merge
    { status := some .running
      currentPositionId := some (some p.id)
      lastRiskResult := some riskResult
      lastOrderStatus := some "POSITION_OPEN" })

theorem get?_syncSessionToActiveSelector (i : ℕ) :
    (syncSessionToActiveSelector config db session).1.liveStrategySessions.get? i
      = (db.liveStrategySessions.get? i).map (fun row =>
          if i = session.id then (selectorTarget config db session).elim row row.pointTo
          else row) := by
  unfold syncSessionToActiveSelector
  cases selectorTarget config db session with
  | none =>
    simp only [Option.elim_none, ite_self, Option.map_id']
  | some candidate =>
    exact Table.get?_modify db.liveStrategySessions i session.id
      (fun row => row.pointTo candidate) (fun _ => rfl)

theorem get?_enterSession (emergencyStopped : Bool) (i : ℕ) :
    (enterSession config db session emergencyStopped).liveStrategySessions.get? i
      = (db.liveStrategySessions.get? i).map (fun row =>
          if i = session.id then row.enter (enteredTarget config db session emergencyStopped)
            (enteredPosition config db session emergencyStopped)
          else row) := by
  have hsynced := get?_syncSessionToActiveSelector config db session i
  have hid : ∀ row : Option LiveStrategySession,
      row.map (fun r => if i = session.id then r.enter none none else r) = row := by
    intro row
    cases row with
    | none => rfl
    | some r => exact congrArg some (ite_self r)
  unfold enterSession enteredTarget enteredPosition
  cases sessionPath config db session emergencyStopped with
  | emergency => exact (hid _).symm
  | openOrder => exact (hid _).symm
  | position s p => exact (hid _).symm
  | entry s => exact hsynced
  | adopted s p riskResult =>
    refine (loadLiveStrategySession_update _ session.id _ i).trans ?_
    unfold loadLiveStrategySession
    rw [hsynced, Option.map_map]
    refine congrArg (fun f => (db.liveStrategySessions.get? i).map f) (funext fun row => ?_)
    by_cases hi : i = session.id
    · simp only [hi, if_true, Function.comp_apply]
      rfl
    · simp only [hi, if_false, Function.comp_apply]

end Selector

end AutoCoinBot
