/-
  AdaptiveEdge.GroupStats — the figures of a group of outcomes, as
  `_build_group_stat` of app/adaptive_edge.py works them out.

  The columns that name the group are left out: they are copied from its key.
-/
import AutoCoinBot.TradeOutcomes.Outcomes

namespace AutoCoinBot

open Library

/-! ## Averages -/

/-- `_avg`: values that are missing do not count. -/
def avgOf (values : List (Option ℚ)) : ℚ :=
  let nums := values.filterMap id
  if nums = [] then 0 else round6 (nums.sum / nums.length)

theorem avgOf_alike {values : List (Option ℚ)} {x : ℚ} (hne : values ≠ [])
    (h : ∀ value ∈ values, value = some x) : avgOf values = round6 x := by
  have hvalues : values = List.replicate values.length (some x) := List.eq_replicate_of_mem h
  have hnums : values.filterMap id = List.replicate values.length x := by
    conv_lhs => rw [hvalues]
    exact List.filterMap_replicate_of_some rfl
  have hlength : (values.length : ℚ) ≠ 0 :=
    Nat.cast_ne_zero.mpr (List.length_pos_of_ne_nil hne).ne'
  have hsum : (values.filterMap id).sum / (values.filterMap id).length = x := by
    rw [hnums, List.sum_replicate, List.length_replicate, nsmul_eq_mul,
      mul_div_cancel_left₀ _ hlength]
  have hnums_ne : values.filterMap id ≠ [] := by
    rw [hnums]
    simpa using hne
  unfold avgOf
  dsimp only
  rw [if_neg hnums_ne, hsum]

def outcomeReturn (row : TradeOutcome) : Option ℚ :=
  row.realizedReturnPct.or
    (row.postFillReturn15m.or (row.postFillReturn5m.or row.postFillReturn1m))

/-! ## Confidence -/

def confidenceScore (sampleCount : ℕ) : ℚ :=
  if sampleCount = 0 then 0
  else if sampleCount ≤ 5 then min (sampleCount * 2) 10
  else if sampleCount ≤ 20 then 10 + ((sampleCount : ℚ) - 5) / 15 * 20
  else if sampleCount ≤ 50 then 30 + ((sampleCount : ℚ) - 20) / 30 * 35
  else min (65 + ((sampleCount : ℚ) - 50) / 50 * 35) 100

/-! ## The figures of a group -/

/-- `adaptive_edge_stats`, without the columns of the key. -/
structure GroupStat where
  sampleCount : ℕ
  winCount : ℕ
  lossCount : ℕ
  winRate : ℚ
  avgPostFillReturn1m : ℚ
  avgPostFillReturn5m : ℚ
  avgPostFillReturn15m : ℚ
  avgRealizedReturnPct : ℚ
  avgRealizedPnlKrw : ℚ
  profitFactor : ℚ
  avgAdverseSelectionPct : ℚ
  avgSlippagePct : ℚ
  avgFillTimeSeconds : ℚ
  maxDrawdownPct : ℚ
  confidenceScore : ℚ
  edgeScore : ℚ := 0

/-- `_edge_score`. -/
def GroupStat.score (stat : GroupStat) : ℚ :=
  let winRateComponent := (stat.winRate - 1 / 2) * 2
  let profitFactorComponent := min (max (stat.profitFactor - 1) (-1)) 2 * (1 / 2)
  let raw := stat.avgPostFillReturn5m * (35 / 100) + stat.avgPostFillReturn15m * (25 / 100)
    + stat.avgRealizedReturnPct * (30 / 100) + winRateComponent + profitFactorComponent
    - max stat.avgAdverseSelectionPct 0 * (30 / 100) - max stat.avgSlippagePct 0 * (20 / 100)
    + min stat.maxDrawdownPct 0 * (20 / 100)
  round6 (raw * (stat.confidenceScore / 100))

/-- `profit_factor` of `_build_group_stat`. -/
def groupProfitFactor (grossProfit grossLoss : ℚ) : ℚ :=
  if 0 < grossLoss then grossProfit / grossLoss
  else if 0 < grossProfit then grossProfit
  else 0

def buildGroupStat (rows : List TradeOutcome) : GroupStat :=
  let returns := rows.filterMap outcomeReturn
  let wins := returns.filter (0 < ·)
  let losses := returns.filter (· < 0)
  let stat : GroupStat :=
    { sampleCount := rows.length
      winCount := wins.length
      lossCount := losses.length
      winRate := if rows.length ≠ 0 then wins.length / rows.length else 0
      avgPostFillReturn1m := avgOf (rows.map TradeOutcome.postFillReturn1m)
      avgPostFillReturn5m := avgOf (rows.map TradeOutcome.postFillReturn5m)
      avgPostFillReturn15m := avgOf (rows.map TradeOutcome.postFillReturn15m)
      avgRealizedReturnPct := avgOf (rows.map TradeOutcome.realizedReturnPct)
      avgRealizedPnlKrw := avgOf (rows.map TradeOutcome.realizedPnlKrw)
      profitFactor := round6 (groupProfitFactor wins.sum |losses.sum|)
      avgAdverseSelectionPct := avgOf (rows.map TradeOutcome.adverseSelectionPct)
      avgSlippagePct := avgOf (rows.map TradeOutcome.slippagePct)
      avgFillTimeSeconds := avgOf (rows.map TradeOutcome.fillTimeSeconds)
      maxDrawdownPct := round6 (returns.min?.getD 0)
      confidenceScore := confidenceScore rows.length }
  { stat with edgeScore := stat.score }

/-- **Outcomes that show one return** have it on the average. -/
theorem avgRealizedReturnPct_of_alike {rows : List TradeOutcome} {x : ℚ} (hne : rows ≠ [])
    (h : ∀ row ∈ rows, row.realizedReturnPct = some x) :
    (buildGroupStat rows).avgRealizedReturnPct = round6 x := by
  refine avgOf_alike (by simpa using hne) (fun value hvalue => ?_)
  obtain ⟨row, hrow, rfl⟩ := List.mem_map.mp hvalue
  exact h row hrow

end AutoCoinBot
