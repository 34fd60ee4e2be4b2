/-
  Database.Candidates — candidate strategies and the markets they may
  trade live.

  Promoting a candidate to a live status also marks its market as allowed on the
  exchange the bot is configured for.
-/
import AutoCoinBot.Database.Schema

namespace AutoCoinBot

open Library

def defaultMarket : String := "KRW-BTC"

def loadCandidateStrategy (db : Database) (candidateId : ℕ) : Option CandidateStrategy :=
  db.candidateStrategies.get? candidateId

def loadMarketUniverseItem (db : Database) (exchange market : String) :
    Option MarketUniverseItem :=
  db.marketUniverse.rows.find? (fun m => m.exchange == exchange && m.market == market)

/-- `market_is_live_allowed`: a market the universe does not list is allowed only if it
is the default one. -/
def marketIsLiveAllowed (db : Database) (exchange market : String) : Bool :=
  match loadMarketUniverseItem db exchange market with
  | none => market == defaultMarket
  | some item => item.isEnabled && item.isLiveAllowed

def markMarketLiveAllowed (db : Database) (exchange market : String) : Database :=
  let rows := db.marketUniverse.modifyWhere
    (fun m => m.exchange == exchange && m.market == market && m.isEnabled)
    (fun m => { m with isLiveAllowed := true }) (fun _ => rfl)
  { db with marketUniverse := rows }

/-- `promote_candidate_strategy`; `allowedExchange` is `AUTO_ALLOWED_EXCHANGE`. -/
def promoteCandidateStrategy (db : Database) (allowedExchange : String) (candidateId : ℕ)
    (toStatus : CandidateStatus) : Database :=
  match loadCandidateStrategy db candidateId with
  | none => db
  | some current =>
    let rows := db.candidateStrategies.modify candidateId
      (fun c => { c with status := toStatus }) (fun _ => rfl)
    let updated : Database := { db with candidateStrategies := rows }
    if toStatus = .liveEligible ∨ toStatus = .liveActive then
      markMarketLiveAllowed updated allowedExchange (orText current.market defaultMarket)
    else updated

section Promotion

variable (db : Database) (allowedExchange : String) (candidateId : ℕ) (toStatus : CandidateStatus)

theorem promoteCandidateStrategy_frame : ∃ candidates markets,
    promoteCandidateStrategy db allowedExchange candidateId toStatus
      = { db with candidateStrategies := candidates, marketUniverse := markets } := by
  unfold promoteCandidateStrategy
  split
  -- an unknown candidate: nothing is written
  · exact ⟨db.candidateStrategies, db.marketUniverse, rfl⟩
  · dsimp only
    split
    · exact ⟨_, _, rfl⟩
    · exact ⟨_, db.marketUniverse, rfl⟩

@[simp] theorem promoteCandidateStrategy_positionSlots :
    (promoteCandidateStrategy db allowedExchange candidateId toStatus).positionSlots
      = db.positionSlots := by
  obtain ⟨candidates, markets, h⟩ :=
    promoteCandidateStrategy_frame db allowedExchange candidateId toStatus
  rw [h]

@[simp] theorem promoteCandidateStrategy_liveStrategySessions :
    (promoteCandidateStrategy db allowedExchange candidateId toStatus).liveStrategySessions
      = db.liveStrategySessions := by
  obtain ⟨candidates, markets, h⟩ :=
    promoteCandidateStrategy_frame db allowedExchange candidateId toStatus
  rw [h]

@[simp] theorem promoteCandidateStrategy_livePositions :
    (promoteCandidateStrategy db allowedExchange candidateId toStatus).livePositions
      = db.livePositions := by
  obtain ⟨candidates, markets, h⟩ :=
    promoteCandidateStrategy_frame db allowedExchange candidateId toStatus
  rw [h]

@[simp] theorem promoteCandidateStrategy_liveOrderLogs :
    (promoteCandidateStrategy db allowedExchange candidateId toStatus).liveOrderLogs
      = db.liveOrderLogs := by
  obtain ⟨candidates, markets, h⟩ :=
    promoteCandidateStrategy_frame db allowedExchange candidateId toStatus
  rw [h]

@[simp] theorem promoteCandidateStrategy_activeStrategySelection :
    (promoteCandidateStrategy db allowedExchange candidateId toStatus).activeStrategySelection
      = db.activeStrategySelection := by
  obtain ⟨candidates, markets, h⟩ :=
    promoteCandidateStrategy_frame db allowedExchange candidateId toStatus
  rw [h]

@[simp] theorem promoteCandidateStrategy_orderReservations :
    (promoteCandidateStrategy db allowedExchange candidateId toStatus).orderReservations
      = db.orderReservations := by
  obtain ⟨candidates, markets, h⟩ :=
    promoteCandidateStrategy_frame db allowedExchange candidateId toStatus
  rw [h]

theorem loadCandidateStrategy_promote (i : ℕ) :
    loadCandidateStrategy (promoteCandidateStrategy db allowedExchange candidateId toStatus) i
      = (loadCandidateStrategy db i).map
          (fun c => if i = candidateId then { c with status := toStatus } else c) := by
  unfold promoteCandidateStrategy
  cases hload : loadCandidateStrategy db candidateId with
  | none =>
    cases hi : loadCandidateStrategy db i with
    | none => rfl
    | some c =>
      have hne : i ≠ candidateId := by
        rintro rfl
        rw [hload] at hi
        cases hi
      simp [hne]
  | some current =>
    have hmodify := Table.get?_modify db.candidateStrategies i candidateId
      (fun c => { c with status := toStatus }) (fun _ => rfl)
    dsimp only
    split <;> exact hmodify

end Promotion

end AutoCoinBot
