/-
  RiskManager.DailyLoss — which positions the daily loss guard counts.

  The profit-and-loss query asks for positions created before the end of the day and for nothing
  else.
-/
import AutoCoinBot.RiskManager.Checks

namespace AutoCoinBot

open Library

/-! ## Positions of earlier days -/

def RiskEnvironment.dayStart (env : RiskEnvironment) : UtcTime :=
  (kstDayBoundsUtc (kstDate env.now)).1

def LivePosition.closedBefore (start : UtcTime) (p : LivePosition) : Bool :=
  p.status == .closed && p.closedAt.any (fun t => t < start)

/-- The tables of positions differ in positions closed before the day only. -/
def SameSinceDayStart (env : RiskEnvironment) (db db' : Database) : Prop :=
  (db.livePositions.rows.filter (fun p => !p.closedBefore env.dayStart)).Perm
    (db'.livePositions.rows.filter (fun p => !p.closedBefore env.dayStart))

instance (env : RiskEnvironment) (db db' : Database) : Decidable (SameSinceDayStart env db db') :=
  inferInstanceAs (Decidable (List.Perm _ _))

/-- What the market's positions closed before the day have realized. -/
def oldRealizedPnl (env : RiskEnvironment) (db : Database) (exchange market : String) : ℚ :=
  sumWhere (pnlPositions db exchange market env.dayEnd)
    (fun p => p.closedBefore env.dayStart) LivePosition.realizedPnl

section Figures

variable {env : RiskEnvironment} {db db' : Database} {exchange market : String}

theorem SameSinceDayStart.pnlPositions (h : SameSinceDayStart env db db') (exchange market : String) :
    ((AutoCoinBot.pnlPositions db exchange market env.dayEnd).filter
        (fun p => !p.closedBefore env.dayStart)).Perm
      ((AutoCoinBot.pnlPositions db' exchange market env.dayEnd).filter
        (fun p => !p.closedBefore env.dayStart)) :=
  perm_filter_select h _

theorem sumWhere_closedBefore (rows : List LivePosition) (start : UtcTime) (q : LivePosition → Bool)
    (v : LivePosition → ℚ) :
    sumWhere (rows.filter (fun p => !!p.closedBefore start)) q v
      = sumWhere rows (fun p => p.closedBefore start && q p) v := by
  simp only [Bool.not_not]
  exact sumWhere_filter rows q (fun p => p.closedBefore start) v

theorem realizedPnl_agree_iff (h : SameSinceDayStart env db db') :
    realizedPnl db exchange market env.dayEnd = realizedPnl db' exchange market env.dayEnd
      ↔ oldRealizedPnl env db exchange market = oldRealizedPnl env db' exchange market := by
  have hold : ∀ d : Database,
      sumWhere ((pnlPositions d exchange market env.dayEnd).filter
          (fun p => !!p.closedBefore env.dayStart))
        (fun p => p.status == .closed) LivePosition.realizedPnl
      = oldRealizedPnl env d exchange market := by
    intro d
    rw [sumWhere_closedBefore]
    refine congrArg (fun q => sumWhere _ q _) (funext (fun p => ?_))
    unfold LivePosition.closedBefore
    cases p.status == PositionStatus.closed <;> simp
  -- the positions that were not closed before the day are the same, so they cancel
  unfold realizedPnl
  rw [sumWhere_agree_iff (h.pnlPositions exchange market), hold, hold]

theorem unrealizedPnl_agree (h : SameSinceDayStart env db db') :
    unrealizedPnl db exchange market env.dayEnd = unrealizedPnl db' exchange market env.dayEnd := by
  have hnone : (fun p : LivePosition => p.closedBefore env.dayStart && p.status.isActive)
      = fun _ => false := by
    funext p
    unfold LivePosition.closedBefore
    cases p.status <;> simp [PositionStatus.isActive]
  unfold unrealizedPnl
  rw [sumWhere_agree_iff (h.pnlPositions exchange market), sumWhere_closedBefore,
    sumWhere_closedBefore, hnone]
  simp [sumWhere]

/-! ## The next day -/

theorem pnlPositions_later {env' : RiskEnvironment} (hlater : kstDate env.now ≤ kstDate env'.now)
    (hcreated : ∀ p ∈ db.livePositions.rows, p.exchange = exchange → p.market = market →
      p.createdAt < env.dayEnd) :
    pnlPositions db exchange market env'.dayEnd = pnlPositions db exchange market env.dayEnd := by
  -- the query is bounded by the end of the day only
  have hend : env.dayEnd ≤ env'.dayEnd := by
    show (kstDate env.now + 1) * 86400 - 9 * 3600 ≤ (kstDate env'.now + 1) * 86400 - 9 * 3600
    linarith
  unfold pnlPositions Table.select
  refine List.filter_congr (fun p hp => ?_)
  by_cases hmarket : (p.exchange == exchange && p.market == market) = true
  · obtain ⟨hexchange, hname⟩ := by simpa using hmarket
    -- created before the first day's end, hence before the later one's
    have hbefore := hcreated p hp hexchange hname
    simp [hbefore, hbefore.trans_le hend]
  · rw [Bool.not_eq_true] at hmarket
    rw [hmarket]
    rfl

def dailyLossBlocked (env : RiskEnvironment) (db : Database) (exchange market : String)
    (balanceMismatch : Option Bool) (accountEquityKrw : Option ℚ) : Bool :=
  let state := computeRiskState env db exchange market balanceMismatch accountEquityKrw
  dailyLossReached env.config state.dailyTotalPnl state.dailyLossPercent

theorem dailyLossBlocked_later {env' : RiskEnvironment} (hconfig : env'.config = env.config)
    (hlater : kstDate env.now ≤ kstDate env'.now)
    (hcreated : ∀ p ∈ db.livePositions.rows, p.exchange = exchange → p.market = market →
      p.createdAt < env.dayEnd) (balanceMismatch : Option Bool) (accountEquityKrw : Option ℚ) :
    dailyLossBlocked env' db exchange market balanceMismatch accountEquityKrw
      = dailyLossBlocked env db exchange market balanceMismatch accountEquityKrw := by
  have hrealized : realizedPnl db exchange market env'.dayEnd
      = realizedPnl db exchange market env.dayEnd := by
    unfold realizedPnl
    rw [pnlPositions_later hlater hcreated]
  have hunrealized : unrealizedPnl db exchange market env'.dayEnd
      = unrealizedPnl db exchange market env.dayEnd := by
    unfold unrealizedPnl
    rw [pnlPositions_later hlater hcreated]
  unfold dailyLossBlocked
  simp only [computeRiskState_totalPnl, computeRiskState_lossPercent, hrealized, hunrealized,
    hconfig]

end Figures

/-! ## The guard -/

/-- **When the daily figures ignore the earlier days**: exactly if what was closed then and
added or removed sums to the same. And an account the daily loss limit blocks is free on
a later day, with the same positions, exactly if it was not blocked. -/
theorem daily_loss_windowed_iff (env : RiskEnvironment) (db db' : Database)
    (exchange market : String) (balanceMismatch : Option Bool) (accountEquityKrw : Option ℚ)
    (hsame : SameSinceDayStart env db db') :
    let state := computeRiskState env db exchange market balanceMismatch accountEquityKrw
    let state' := computeRiskState env db' exchange market balanceMismatch accountEquityKrw
    ((state.dailyRealizedPnl = state'.dailyRealizedPnl
          ∧ state.dailyTotalPnl = state'.dailyTotalPnl
          ∧ state.dailyLossPercent = state'.dailyLossPercent)
        ↔ oldRealizedPnl env db exchange market = oldRealizedPnl env db' exchange market)
      ∧ ∀ later : RiskEnvironment, later.config = env.config →
          kstDate env.now < kstDate later.now →
          (∀ p ∈ db.livePositions.rows, p.exchange = exchange → p.market = market →
            p.createdAt < env.dayEnd) →
          ((0 ≤ state.dailyUnrealizedPnl
                ∧ dailyLossBlocked env db exchange market balanceMismatch accountEquityKrw = true →
              dailyLossBlocked later db exchange market balanceMismatch accountEquityKrw = false)
            ↔ ¬ (0 ≤ state.dailyUnrealizedPnl
                ∧ dailyLossBlocked env db exchange market balanceMismatch accountEquityKrw
                  = true)) := by
  intro state state'
  have hunrealized : unrealizedPnl db exchange market env.dayEnd
      = unrealizedPnl db' exchange market env.dayEnd := unrealizedPnl_agree hsame
  refine ⟨?_, fun later hconfig hlater hcreated => ?_⟩
  · rw [← realizedPnl_agree_iff hsame]
    constructor
    · exact fun h => h.1
    · intro h
      simp only [state, state', computeRiskState_realizedPnl, computeRiskState_totalPnl,
        computeRiskState_lossPercent, h, hunrealized, and_self]
  -- the same verdict on both days: free later exactly if it was free before
  · rw [dailyLossBlocked_later hconfig hlater.le hcreated]
    cases dailyLossBlocked env db exchange market balanceMismatch accountEquityKrw <;> simp

/-- One BTC position, closed with a realized profit at a time. -/
def exampleClosedDb (realizedPnl : ℚ) (closedAt : UtcTime) : Database :=
  { livePositions := Table.empty.insert
      (fun k =>
        { id := k, market := "KRW-BTC", status := .closed, realizedPnl := realizedPnl
          closedAt := some closedAt })
      (fun _ => rfl) }

def exampleDayTen : RiskEnvironment := { now := 10 * 86400 }

theorem daily_loss_windowed_iff_example :
    let state := computeRiskState exampleDayTen (exampleClosedDb 0 0) "bithumb" "KRW-BTC" none none
    let state' := computeRiskState exampleDayTen {} "bithumb" "KRW-BTC" none none
    state.dailyRealizedPnl = state'.dailyRealizedPnl ∧ state.dailyTotalPnl = state'.dailyTotalPnl
      ∧ state.dailyLossPercent = state'.dailyLossPercent :=
  (daily_loss_windowed_iff exampleDayTen (exampleClosedDb 0 0) {} "bithumb" "KRW-BTC" none none
    (by decide +kernel)).1.mpr (by decide +kernel)

/-- **A loss that is carried over.** A loss of 20,000 KRW closed on the first day counts on the
tenth: the day is not the same without it, and it blocks there and on the next. -/
theorem daily_loss_carried_over :
    kstDate 0 = 0 ∧ kstDate exampleDayTen.now = 10
      ∧ SameSinceDayStart exampleDayTen (exampleClosedDb (-20000) 0) {}
      ∧ (computeRiskState exampleDayTen (exampleClosedDb (-20000) 0) "bithumb" "KRW-BTC" none
          none).dailyRealizedPnl = -20000
      ∧ (computeRiskState exampleDayTen {} "bithumb" "KRW-BTC" none none).dailyRealizedPnl = 0
      ∧ dailyLossBlocked exampleDayTen (exampleClosedDb (-20000) 0) "bithumb" "KRW-BTC" none none
          = true
      ∧ dailyLossBlocked { exampleDayTen with now := 11 * 86400 } (exampleClosedDb (-20000) 0)
          "bithumb" "KRW-BTC" none none = true := by
  refine ⟨by decide, by decide, by decide +kernel, by decide +kernel, by decide +kernel,
    by decide +kernel, by decide +kernel⟩

end AutoCoinBot
