/-
  LiveExit.SentVolumes — what a submitted exit order sells, beside what the exchange
  has to sell.

  An exit is sized twice: when it is previewed, and again while it is submitted.
-/
import AutoCoinBot.LiveExit.SoleSells

namespace AutoCoinBot

open Library

/-! ## What goes out -/

/-- `order`, as `submit_exit_order` hands it to the broker. -/
structure ExitOrderSent where
  requestId : String
  clientOrderId : String
  exchange : String
  market : String
  price : ℚ
  volume : ℚ
  amountKrw : ℚ

/-- The order of a preview: its own figures, whatever the evaluation says since. -/
def exitOrderOf (preview : LiveOrderLog) : ExitOrderSent where
  requestId := preview.requestId
  clientOrderId := String.ofList (preview.requestId.toList.take 36)
  exchange := preview.exchange
  market := preview.market
  price := toFloat preview.price
  volume := toFloat preview.volume
  amountKrw := toFloat preview.amountKrw

/-- The balance of the position's symbol that the snapshot shows available. -/
def availableFor (snapshot : ExitSnapshot) (position : LivePosition) : ℚ :=
  balanceAvailableFromSnapshot snapshot.balances (symbolOf position.market).toUpper

/-- No more is sold than is available, and no less than an order may be. -/
def FitsSnapshot (settings : ExitSettings) (snapshot : ExitSnapshot) (position : LivePosition)
    (volume amountKrw : ℚ) : Prop :=
  volume ≤ availableFor snapshot position + 1 / 10 ^ 12
    ∧ settings.liveConfig.minOrderKrw ≤ amountKrw

instance (settings : ExitSettings) (snapshot : ExitSnapshot) (position : LivePosition)
    (volume amountKrw : ℚ) : Decidable (FitsSnapshot settings snapshot position volume amountKrw) :=
  inferInstanceAs (Decidable (_ ∧ _))

/-! ## When an order goes out -/

section Placed

variable (w : SellWorld) (risk : RiskEnvironment) (job : ExitJob) (balances : Balances)
  (positions : List LivePosition) (snapshot : ExitSnapshot)

/-- What the evaluation finds on its snapshot. -/
def findingsOn (candidate : LoadedExitCandidate) (position : LivePosition) : ExitFindings :=
  let sized := draftWithin job.settings w.db candidate.terms position
    { snapshot with positions := positions }
  { draft := sized.1
    block := sized.2
    balances := some balances
    balanceMismatch := some false }

/-- The evaluation sizes an order on the snapshot, and the risk manager lets it pass. -/
def PassesOn (candidate : LoadedExitCandidate) (position : LivePosition) : Prop :=
  (findingsOn w job balances positions snapshot candidate position).block = none
    ∧ (checkOrderRisk risk w.db (exitRiskRequest job.query candidate
        (findingsOn w job balances positions snapshot candidate position))).allowed = true

variable {w risk job balances positions snapshot}

theorem placed_finish_iff {f : ExitFindings} {preview : LiveOrderLog}
    (hpreview : job.preview = some preview) {candidate : LoadedExitCandidate}
    (hcandidate : job.query.candidate = some candidate) :
    (job.finish w risk f).placed.isSome = true
      ↔ f.block = none
        ∧ (checkOrderRisk risk w.db (exitRiskRequest job.query candidate f)).allowed = true := by
  have hallowed : (finishExitEvaluation risk w.db job.query f).allowed
      = (checkOrderRisk risk w.db (exitRiskRequest job.query candidate f)).allowed := by
    unfold finishExitEvaluation
    rw [hcandidate]
  have hplaced : (job.finish w risk f).placed.isSome
      = (finishExitEvaluation risk w.db job.query f).allowed := by
    unfold ExitJob.finish
    simp only [hpreview]
    split_ifs with h
    · exact h.symm
    · exact (Bool.not_eq_true _ ▸ h).symm
  rw [hplaced]
  constructor
  · intro h
    obtain ⟨-, -, hblock, -⟩ := finishExitEvaluation_allowed h
    exact ⟨hblock, hallowed ▸ h⟩
  · rintro ⟨-, h⟩
    exact hallowed.trans h

theorem placed_snapshotted_iff {preview : LiveOrderLog} (hpreview : job.preview = some preview)
    {position : LivePosition} (hposition : job.query.position = some position) :
    (job.snapshotted w risk balances positions (.ok snapshot)).placed.isSome = true
      ↔ ∃ candidate, job.query.candidate = some candidate
        ∧ PassesOn w risk job balances positions snapshot candidate position := by
  unfold ExitJob.snapshotted
  cases hcandidate : job.query.candidate with
  | none =>
    refine iff_of_false Bool.false_ne_true ?_
    rintro ⟨candidate, hsome, -⟩
    cases hsome
  | some candidate =>
    rw [hposition]
    refine (placed_finish_iff hpreview hcandidate).trans ?_
    constructor
    · intro h
      exact ⟨candidate, rfl, h⟩
    · rintro ⟨candidate', hsame, h⟩
      obtain rfl := Option.some.inj hsame
      exact h

end Placed

/-! ## Whole histories -/

/-- **An exit order that goes out is within its snapshot.** -/
def SentWithinSnapshot (w : SellWorld) (task : SellTask) (reply : SellReply) : Prop :=
  match task, reply.answer with
  | .snapshotting job _ _, .snapshot (.ok snapshot) =>
    ∀ preview ∈ job.preview, ∀ position ∈ job.query.position,
      (task.run w reply).placed.isSome = true →
        FitsSnapshot job.settings snapshot position (exitOrderOf preview).volume
          (exitOrderOf preview).amountKrw
  | _, _ => True

/-- **When it is**: the balance still covers the volume the preview was written with, and the
amount it was written with is still enough, wherever the evaluation lets an exit pass. -/
def PreviewStillFits (w : SellWorld) (task : SellTask) (reply : SellReply) : Prop :=
  match task, reply.answer with
  | .snapshotting job balances positions, .snapshot (.ok snapshot) =>
    ∀ preview ∈ job.preview, ∀ candidate ∈ job.query.candidate,
      ∀ position ∈ job.query.position,
        PassesOn w reply.risk job balances positions snapshot candidate position →
          toFloat preview.volume ≤ availableFor snapshot position + 1 / 10 ^ 12
            ∧ job.settings.liveConfig.minOrderKrw ≤ toFloat preview.amountKrw
  | _, _ => True

instance (w : SellWorld) (task : SellTask) (reply : SellReply) :
    Decidable (SentWithinSnapshot w task reply) := by
  unfold SentWithinSnapshot
  split <;> infer_instance

theorem sentWithinSnapshot_iff (w : SellWorld) (task : SellTask) (reply : SellReply) :
    SentWithinSnapshot w task reply ↔ PreviewStillFits w task reply := by
  obtain ⟨risk, answer⟩ := reply
  unfold SentWithinSnapshot PreviewStillFits
  cases task with
  | snapshotting job balances positions =>
    cases answer with
    | snapshot read =>
      cases read with
      | error exc => exact Iff.rfl
      | ok snapshot =>
        dsimp only
        constructor
        · intro h preview hpreview candidate hcandidate position hposition hpasses
          refine h preview hpreview position hposition ?_
          exact (placed_snapshotted_iff hpreview hposition).mpr ⟨candidate, hcandidate, hpasses⟩
        · intro h preview hpreview position hposition hplaced
          obtain ⟨candidate, hcandidate, hpasses⟩ :=
            (placed_snapshotted_iff hpreview hposition).mp hplaced
          exact h preview hpreview candidate hcandidate position hposition hpasses
    | _ => exact Iff.rfl
  | _ => exact Iff.rfl

def shortBalances : Balances where
  balances := some [{ currency := "BTC", balance := some (995 / 100000) }]
  byCurrency := [("BTC", { currency := "BTC", balance := some (995 / 100000) })]

def shortAnswers : List SellReply :=
  [.scheduled {}, .reconciled { now := 1000000 } (some shortBalances),
    .chance (.ok shortBalances) none, .snapshot (.ok { balances := some shortBalances })].map
      (fun answer => { risk := { now := 1000000 }, answer := answer })

/-- A hundredth of a coin is previewed, and submitted when a little less is there. -/
def shortSubmission : List (Happening SellMove SellOperation SellReply) :=
  [.begins (.preview 2 true false otherHex)] ++ twiceAnswers.map (.replies 0)
    ++ [.begins (.submit "exit-b" "SUBMIT LIMIT EXIT ORDER")] ++ shortAnswers.map (.replies 0)

end AutoCoinBot
