/-
  LiveStrategyPilot.DistinctSessions — which strategies and positions the running
  sessions have.

  `create_live_strategy_session` stops the sessions of the strategy it starts, so that no two run in
  one market.
-/
import AutoCoinBot.Library.Occupancy
import AutoCoinBot.LiveStrategyPilot.ProcessSession

namespace AutoCoinBot

open Library

/-! ## Running sessions -/

/-- `load_running_live_strategy_sessions` takes this row. -/
def LiveStrategySession.runs (s : LiveStrategySession) : Bool :=
  [SessionStatus.ready, .running].contains s.status && s.autoEnabled

/-- `ORDER BY created_at ASC, id ASC`. -/
def LiveStrategySession.older (s t : LiveStrategySession) : Prop :=
  s.createdAt < t.createdAt ∨ (s.createdAt = t.createdAt ∧ s.id ≤ t.id)

instance : DecidableRel LiveStrategySession.older := fun s t =>
  inferInstanceAs (Decidable (s.createdAt < t.createdAt ∨ (s.createdAt = t.createdAt ∧ s.id ≤ t.id)))

def loadRunningLiveStrategySessions (db : Database) : List LiveStrategySession :=
  (db.liveStrategySessions.select LiveStrategySession.runs).insertionSort LiveStrategySession.older

/-- The strategy and the market of a running session. -/
def LiveStrategySession.runningPair (s : LiveStrategySession) : Option (ℕ × String) :=
  if s.runs then some (s.candidateStrategyId, s.market) else none

def LiveStrategySession.runningPosition (s : LiveStrategySession) : Option ℕ :=
  if s.runs then s.currentPositionId else none

/-- No two running sessions trade one strategy in one market. -/
def DistinctPairs (db : Database) : Prop :=
  db.liveStrategySessions.CarriedOnce LiveStrategySession.runningPair

/-- No position is the current one of two running sessions. -/
def DistinctPositions (db : Database) : Prop :=
  db.liveStrategySessions.CarriedOnce LiveStrategySession.runningPosition

def DistinctSessions (db : Database) : Prop := DistinctPairs db ∧ DistinctPositions db

/-! ## Ticks -/

/-- What else is done to the sessions: an update, as every fill makes one of the session that
ordered, a new session, or nothing, whatever becomes of the other tables. -/
inductive OtherCall where
  | update (sessionId : ℕ) (updates : LiveStrategySessionUpdates)
  | create (session : LiveStrategySession) (now : UtcTime)
  | elsewhere (after : Database)

/-- The row of `create_live_strategy_session`. -/
def LiveStrategySession.created (session : LiveStrategySession) (k : ℕ) : LiveStrategySession :=
  { session with id := k, currentOpenOrderUuid := none, currentPositionId := none }

theorem LiveStrategySession.created_rowId (session : LiveStrategySession) (k : ℕ) :
    Row.rowId (session.created k) = k := rfl

def OtherCall.apply (db : Database) : OtherCall → Database
  | .update sessionId updates => updateLiveStrategySession db sessionId updates
  | .create session now => createLiveStrategySession db session.created session.created_rowId now
  | .elsewhere after => { after with liveStrategySessions := db.liveStrategySessions }

/-- One call that works on the sessions. -/
inductive SessionCall where
  | enter (config : LiveStrategyConfig) (session : LiveStrategySession) (emergencyStopped : Bool)
  | other (call : OtherCall)

def SessionCall.apply (db : Database) : SessionCall → Database
  | .enter config session emergencyStopped => enterSession config db session emergencyStopped
  | .other call => call.apply db

/-- The turn of one session in a tick: `_process_session` enters it, and then follows its path. -/
structure SessionTurn where
  emergencyStopped : Bool := false
  rest : List OtherCall := []

/-- `process_live_strategy_sessions`. The sessions are loaded first; a process that ends within
the tick has fewer turns than sessions. -/
structure PilotTick where
  config : LiveStrategyConfig := {}
  -- `sync_open_orders`
  synced : List OtherCall := []
  turns : List SessionTurn

def PilotTick.calls (db : Database) (tick : PilotTick) : List SessionCall :=
  tick.synced.map .other ++ ((loadRunningLiveStrategySessions db).zip tick.turns).flatMap
    (fun (session, turn) =>
      .enter tick.config session turn.emergencyStopped :: turn.rest.map .other)

/-- A tick, or a call between two ticks. -/
inductive PilotEvent where
  | tick (tick : PilotTick)
  | between (call : OtherCall)

def PilotEvent.calls (db : Database) : PilotEvent → List SessionCall
  | .tick t => t.calls db
  | .between call => [.other call]

def pilotCalls (db : Database) : List PilotEvent → List SessionCall
  | [] => []
  | event :: events =>
    let calls := event.calls db
    calls ++ pilotCalls (run SessionCall.apply db calls) events

/-! ## What one call takes -/

/-- A session takes a strategy or a position with a call only if no running session has it. -/
def SessionCall.Free (db : Database) : SessionCall → Prop
  | .enter config session emergencyStopped =>
    let enters := LiveStrategySession.enter (enteredTarget config db session emergencyStopped)
      (enteredPosition config db session emergencyStopped)
    db.liveStrategySessions.TakesFree LiveStrategySession.runningPair session.id enters
      ∧ db.liveStrategySessions.TakesFree LiveStrategySession.runningPosition session.id enters
  | .other (.update sessionId updates) =>
    db.liveStrategySessions.TakesFree LiveStrategySession.runningPair sessionId
        (fun s => s.merge updates)
      ∧ db.liveStrategySessions.TakesFree LiveStrategySession.runningPosition sessionId
        (fun s => s.merge updates)
  | .other (.create session _) =>
    -- the sessions of its own exchange are stopped
    session.runs = true → ∀ k s, loadLiveStrategySession db k = some s → s.runs = true →
      s.candidateStrategyId = session.candidateStrategyId → s.market = session.market →
      s.exchange = session.exchange
  | .other (.elsewhere _) => True

section Calls

variable {db : Database}

theorem runningPair_eq_some_iff {s : LiveStrategySession} {candidateStrategyId : ℕ}
    {market : String} : s.runningPair = some (candidateStrategyId, market)
      ↔ s.runs = true ∧ s.candidateStrategyId = candidateStrategyId ∧ s.market = market := by
  unfold LiveStrategySession.runningPair
  cases s.runs with
  | false => simp
  | true => simp

theorem runningPair_eq_none {s : LiveStrategySession} (h : s.runs = false) :
    s.runningPair = none := by
  unfold LiveStrategySession.runningPair
  rw [h]
  rfl

theorem runningPosition_eq_none {s : LiveStrategySession} (h : s.runs = false) :
    s.runningPosition = none := by
  unfold LiveStrategySession.runningPosition
  rw [h]
  rfl

/-! A new session. -/

/-- `create_live_strategy_session` stops this session. -/
def LiveStrategySession.stopsFor (session s : LiveStrategySession) : Bool :=
  [SessionStatus.ready, .running, .paused].contains s.status
    && s.exchange == session.exchange && s.market == session.market
    && s.candidateStrategyId == session.candidateStrategyId

theorem rowId_stopped (now : UtcTime) (s : LiveStrategySession) :
    Row.rowId { s with status := .stopped, autoEnabled := false, stoppedAt := some now }
      = Row.rowId s := rfl

def stoppedSessions (db : Database) (session : LiveStrategySession) (now : UtcTime) :
    Table LiveStrategySession :=
  db.liveStrategySessions.modifyWhere session.stopsFor
    (fun s => { s with status := .stopped, autoEnabled := false, stoppedAt := some now })
    (rowId_stopped now)

theorem create_eq (session : LiveStrategySession) (now : UtcTime) :
    ((OtherCall.create session now).apply db).liveStrategySessions
      = (stoppedSessions db session now).insert session.created session.created_rowId := rfl

theorem carriedOnce_stoppedSessions (session : LiveStrategySession) (now : UtcTime) {κ : Type}
    {key : LiveStrategySession → Option κ} (hkey : ∀ {s}, s.runs = false → key s = none)
    (h : db.liveStrategySessions.CarriedOnce key) :
    (stoppedSessions db session now).CarriedOnce key :=
  h.of_carries (fun _ _ => Table.carries_modifyWhere _ _ _ (fun _ => .inl (hkey rfl)))

theorem stopsFor_of_runs {session s : LiveStrategySession} (hruns : s.runs = true)
    (hexchange : s.exchange = session.exchange) (hmarket : s.market = session.market)
    (hcandidate : s.candidateStrategyId = session.candidateStrategyId) :
    session.stopsFor s = true := by
  unfold LiveStrategySession.runs at hruns
  obtain ⟨hstatus, -⟩ := Bool.and_eq_true_iff.mp hruns
  have hstoppable : [SessionStatus.ready, .running, .paused].contains s.status = true := by
    revert hstatus
    cases s.status <;> decide
  unfold LiveStrategySession.stopsFor
  rw [hstoppable, hexchange, hmarket, hcandidate]
  simp

theorem carries_stoppedSessions_iff (session : LiveStrategySession) (now : UtcTime) (k : ℕ) :
    (stoppedSessions db session now).Carries LiveStrategySession.runningPair k
        (session.candidateStrategyId, session.market)
      ↔ ∃ s, loadLiveStrategySession db k = some s ∧ s.runs = true
        ∧ s.candidateStrategyId = session.candidateStrategyId ∧ s.market = session.market
        ∧ s.exchange ≠ session.exchange := by
  unfold Table.Carries stoppedSessions
  rw [Table.get?_modifyWhere]
  constructor
  · rintro ⟨s', hs', hpair⟩
    obtain ⟨s, hs, heq⟩ := Option.map_eq_some_iff.mp hs'
    by_cases hstops : session.stopsFor s = true
    · rw [if_pos hstops] at heq
      rw [← heq, runningPair_eq_none rfl] at hpair
      cases hpair
    · rw [if_neg hstops] at heq
      subst heq
      obtain ⟨hruns, hcandidate, hmarket⟩ := runningPair_eq_some_iff.mp hpair
      exact ⟨s, hs, hruns, hcandidate, hmarket,
        fun hexchange => hstops (stopsFor_of_runs hruns hexchange hmarket hcandidate)⟩
  · rintro ⟨s, hs, hruns, hcandidate, hmarket, hexchange⟩
    have hkept : ¬ session.stopsFor s = true := by
      unfold LiveStrategySession.stopsFor
      simp [hexchange]
    refine ⟨s, ?_, runningPair_eq_some_iff.mpr ⟨hruns, hcandidate, hmarket⟩⟩
    rw [show db.liveStrategySessions.get? k = some s from hs, Option.map_some, if_neg hkept]

theorem distinctSessions_create_iff (h : DistinctSessions db) (session : LiveStrategySession)
    (now : UtcTime) : DistinctSessions ((OtherCall.create session now).apply db)
      ↔ SessionCall.Free db (.other (.create session now)) := by
  obtain ⟨hpairs, hpositions⟩ := h
  have hpositions' : DistinctPositions ((OtherCall.create session now).apply db) := by
    unfold DistinctPositions
    rw [create_eq, Table.carriedOnce_insert_iff
      (carriedOnce_stoppedSessions session now runningPosition_eq_none hpositions)]
    intro y hy
    -- it starts without a position
    rw [show (session.created _).runningPosition = none from ite_self _] at hy
    cases hy
  refine (and_iff_left hpositions').trans ?_
  unfold DistinctPairs
  rw [create_eq, Table.carriedOnce_insert_iff
    (carriedOnce_stoppedSessions session now runningPair_eq_none hpairs)]
  constructor
  · intro hfree hruns k s hs hsruns hcandidate hmarket
    by_contra hexchange
    have hpair : (session.created (stoppedSessions db session now).nextId).runningPair
        = some (session.candidateStrategyId, session.market) :=
      runningPair_eq_some_iff.mpr ⟨hruns, rfl, rfl⟩
    exact hfree _ hpair k ((carries_stoppedSessions_iff session now k).mpr
      ⟨s, hs, hsruns, hcandidate, hmarket, hexchange⟩)
  · rintro hfree ⟨candidateStrategyId, market⟩ hy k hcarried
    obtain ⟨hruns, rfl, rfl⟩ := runningPair_eq_some_iff.mp hy
    obtain ⟨s, hs, hsruns, hcandidate, hmarket, hexchange⟩ :=
      (carries_stoppedSessions_iff session now k).mp hcarried
    exact hexchange (hfree hruns k s hs hsruns hcandidate hmarket)

theorem callFree_iff (h : DistinctSessions db) (call : SessionCall) :
    DistinctSessions (call.apply db) ↔ call.Free db := by
  obtain ⟨hpairs, hpositions⟩ := h
  cases call with
  | enter config session emergencyStopped =>
    have hget := get?_enterSession config db session emergencyStopped
    exact and_congr (Table.carriedOnce_iff_takesFree hpairs hget)
      (Table.carriedOnce_iff_takesFree hpositions hget)
  | other call =>
    cases call with
    | update sessionId updates =>
      have hget := loadLiveStrategySession_update db sessionId updates
      exact and_congr (Table.carriedOnce_iff_takesFree hpairs hget)
        (Table.carriedOnce_iff_takesFree hpositions hget)
    | create session now => exact distinctSessions_create_iff ⟨hpairs, hpositions⟩ session now
    | elsewhere after => exact iff_of_true ⟨hpairs, hpositions⟩ trivial

/-- **When a run keeps the running sessions distinct**: no position is the current one of two of
them at its start, and no call takes what another running session has. -/
theorem runningSessions_distinct_iff (hpairs : DistinctPairs db) (events : List PilotEvent) :
    (∀ n, DistinctSessions (run SessionCall.apply db ((pilotCalls db events).take n)))
      ↔ DistinctPositions db
        ∧ StepsOk SessionCall.apply SessionCall.Free db (pilotCalls db events) := by
  have hstep : ∀ db call, DistinctSessions db →
      (DistinctSessions (SessionCall.apply db call) ↔ SessionCall.Free db call) :=
    fun db call h => callFree_iff h call
  have hruns : DistinctSessions db →
      ((∀ n, DistinctSessions (run SessionCall.apply db ((pilotCalls db events).take n)))
        ↔ StepsOk SessionCall.apply SessionCall.Free db (pilotCalls db events)) :=
    fun h => forall_prefix_iff hstep h (pilotCalls db events)
  constructor
  · intro hall
    have hstart : DistinctSessions db := hall 0
    exact ⟨hstart.2, (hruns hstart).mp hall⟩
  · rintro ⟨hpositions, hfree⟩
    exact (hruns ⟨hpairs, hpositions⟩).mpr hfree

end Calls

/-! ## Two sessions and one selector -/

/-- Two running sessions of two strategies, and a third strategy that the selector is at. -/
def exampleSelector : Database :=
  { liveStrategySessions :=
      (Table.empty.insert (fun k =>
        { id := k, market := "KRW-ETH", candidateStrategyId := 1, status := .running
          autoEnabled := true }) (fun _ => rfl)).insert (fun k =>
        { id := k, market := "KRW-XRP", candidateStrategyId := 2, status := .running
          autoEnabled := true }) (fun _ => rfl)
    candidateStrategies :=
      ((Table.empty.insert (fun k =>
        { id := k, market := "KRW-ETH", strategy := "ma_cross", status := .liveEligible })
        (fun _ => rfl)).insert (fun k =>
        { id := k, market := "KRW-XRP", strategy := "ma_cross", status := .liveEligible })
        (fun _ => rfl)).insert (fun k =>
        { id := k, market := "KRW-BTC", strategy := "ma_cross", status := .liveActive })
        (fun _ => rfl)
    activeStrategySelection := Table.empty.insert
      (fun k => { id := k, candidateStrategyId := 3 }) (fun _ => rfl) }

theorem runningSessions_distinct_exampleSelector :
    (∀ n, DistinctSessions (run SessionCall.apply exampleSelector
        ((pilotCalls exampleSelector [.tick { turns := [{}, {}] }]).take n)))
      ↔ DistinctPositions exampleSelector ∧ StepsOk SessionCall.apply SessionCall.Free
          exampleSelector (pilotCalls exampleSelector [.tick { turns := [{}, {}] }]) :=
  runningSessions_distinct_iff (Table.carriedOnce_iff_nodup.mpr (by decide)) _

/-- **A tick that points two sessions to one strategy.** -/
theorem runningSessions_converge :
    DistinctSessions exampleSelector
      ∧ ¬ ∀ (db : Database) (events : List PilotEvent), DistinctPairs db →
          DistinctSessions (run SessionCall.apply db (pilotCalls db events)) := by
  have hstart : DistinctSessions exampleSelector :=
    ⟨Table.carriedOnce_iff_nodup.mpr (by decide), Table.carriedOnce_iff_nodup.mpr (by decide)⟩
  refine ⟨hstart, fun hall => ?_⟩
  have hafter := (hall exampleSelector [.tick { turns := [{}, {}] }] hstart.1).1
  revert hafter
  unfold DistinctPairs
  rw [Table.carriedOnce_iff_nodup]
  decide +kernel

end AutoCoinBot
