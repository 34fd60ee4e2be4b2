/-
  LiveExit.SoleSells — at most one sell is open for a position.

  The guards look at the orders on record when a call comes by.
-/
import AutoCoinBot.LiveExit.SellReplies

namespace AutoCoinBot

open Library

/-! ## What a call places -/

section Placed

variable {w : SellWorld}

theorem placed_stopped {job : ExitJob} {risk : RiskEnvironment} {f : ExitFindings} {block : String}
    (hblock : f.block = some block) : (job.finish w risk f).placed = none := by
  unfold ExitJob.finish
  dsimp only
  cases job.preview with
  | none => cases job.query.candidate <;> rfl
  | some preview =>
    dsimp only
    split
    · rename_i hallowed
      obtain ⟨-, -, hnone, -⟩ := finishExitEvaluation_allowed hallowed
      rw [hblock] at hnone
      cases hnone
    · rfl

theorem resolved_finish (h : w.Traced) {job : ExitJob} (hjob : job.Traced w) (hpassed : job.Passed)
    {risk : RiskEnvironment} {f : ExitFindings} {sell : Sell}
    (hplaced : (job.finish w risk f).placed = some sell)
    (hblock : risk.config.blockOnOpenOrder = true) :
    hasUnresolvedLiveOrder w.db "bithumb" sell.market = false := by
  unfold ExitJob.finish at hplaced
  dsimp only at hplaced
  cases hpreview : job.preview with
  | none =>
    rw [hpreview] at hplaced
    cases hcandidate : job.query.candidate <;> rw [hcandidate] at hplaced <;> cases hplaced
  | some preview =>
    rw [hpreview] at hplaced
    dsimp only at hplaced
    split at hplaced
    case isFalse => cases hplaced
    case isTrue hallowed =>
      obtain rfl := Option.some.inj hplaced
      obtain ⟨candidate, hcandidate, -, hrisk⟩ := finishExitEvaluation_allowed hallowed
      obtain ⟨candidate', -, hcandidate', -, hexchange, -⟩ := hpassed
      rw [hcandidate] at hcandidate'
      obtain rfl := Option.some.inj hcandidate'
      obtain ⟨candidateId, hnamed, hid⟩ := hjob.named preview hpreview
      have hterms := h.previews _ _ candidateId (hjob.terms preview hpreview) hnamed
      have hmarket : candidate.terms.market = preview.market := by
        rw [hjob.candidate candidate hcandidate, hid candidate hcandidate]
        exact hterms.market.symm
      have hresolved := resolved_of_allowed hrisk hblock
      have hexchangeText : (exitRiskRequest job.query candidate f).order.exchangeText
          = "bithumb" := by
        show candidate.terms.exchange.toLower = "bithumb"
        rw [hexchange]
        decide +kernel
      rw [hexchangeText] at hresolved
      show hasUnresolvedLiveOrder w.db "bithumb" preview.market = false
      rw [← hmarket]
      exact hresolved

section Quiet

variable (w : SellWorld) (risk : RiskEnvironment) (job : ExitJob)

/-! What places nothing. -/

theorem placed_start : (job.start w risk).placed = none := by
  unfold ExitJob.start
  split
  · exact placed_stopped rfl
  · rfl

theorem placed_operationStart (operation : SellOperation) (settings : ExitSettings) :
    (operation.start w risk settings).placed = none := by
  cases operation with
  | preview candidateId manualConfirmed isAutoExit requestHex =>
    unfold SellOperation.start
    dsimp only
    split
    · rfl
    · exact placed_start w risk _
  | submit requestId finalConfirmation =>
    unfold SellOperation.start
    dsimp only
    split
    · rfl
    · split
      · rfl
      · split
        · rfl
        · split
          · rfl
          · exact placed_start w risk _
  | smart call =>
    unfold SellOperation.start
    dsimp only
    split <;> rfl

theorem placed_reconciled (env : SyncEnv) (balances : Option Balances) :
    (job.reconciled w risk env balances).placed = none := by
  unfold ExitJob.reconciled
  split
  · rfl
  · dsimp only
    split
    · exact placed_stopped rfl
    · rfl

theorem placed_asked (balances : Except ApiError Balances) (exception : Option ApiError) :
    (job.asked w risk balances exception).placed = none := by
  unfold ExitJob.asked
  split
  · exact placed_stopped rfl
  · exact placed_stopped rfl
  · rfl

theorem placed_awaitRecheck (preview : LiveOrderLog) (response : RawOrder) :
    (job.awaitRecheck w preview response).placed = none := by
  unfold ExitJob.awaitRecheck
  split
  · rfl
  · split <;> rfl

theorem placed_submitted (preview : LiveOrderLog) (response : RawOrder) :
    (job.submitted w risk preview response).placed = none := by
  unfold ExitJob.submitted
  dsimp only
  split
  · exact placed_awaitRecheck _ job preview response
  · split
    · exact placed_awaitRecheck _ job preview response
    · rfl

end Quiet

theorem placed_on_snapshot {task : SellTask} {reply : SellReply} {sell : Sell}
    (hplaced : (task.run w reply).placed = some sell) :
    (∃ job balances positions snapshot, task = .snapshotting job balances positions
        ∧ reply.answer = .snapshot (.ok snapshot))
      ∨ ∃ call position readings, task = .quoting call position
        ∧ reply.answer = .quoted readings := by
  obtain ⟨risk, answer⟩ := reply
  by_contra hother
  rw [not_or] at hother
  have hnothing : (task.run w ⟨risk, answer⟩).placed = none := by
    cases task with
    | ready operation =>
      cases answer with
      | scheduled settings => exact placed_operationStart w risk operation settings
      | _ => rfl
    | reconciling job =>
      cases answer with
      | reconciled env balances => exact placed_reconciled w risk job env balances
      | _ => rfl
    | asking job =>
      cases answer with
      | chance balances exception => exact placed_asked w risk job balances exception
      | _ => rfl
    | snapshotting job balances positions =>
      cases answer with
      | snapshot snapshot =>
        cases snapshot with
        | error exc =>
          show (job.chanceFailed w risk (some balances) exc).placed = none
          exact placed_stopped rfl
        | ok snapshot =>
          exact absurd ⟨job, balances, positions, snapshot, rfl, rfl⟩ hother.1
      | _ => rfl
    | placing i job preview =>
      cases answer with
      | placed response =>
        cases response with
        | error exc => rfl
        | ok response => exact placed_submitted (w.answer i) risk job preview response
      | _ => rfl
    | rechecking job preview log =>
      cases answer with
      | order raw => cases raw <;> rfl
      | _ => rfl
    | quoting call position =>
      cases answer with
      | quoted readings => exact absurd ⟨call, position, readings, rfl, rfl⟩ hother.2
      | _ => rfl
    | placingSmart i call position => cases answer <;> rfl
  rw [hnothing] at hplaced
  cases hplaced

theorem resolved_placed (h : w.Traced) {task : SellTask} (htask : task.Traced w)
    {reply : SellReply} {sell : Sell} (hplaced : (task.run w reply).placed = some sell)
    (hblock : reply.risk.config.blockOnOpenOrder = true) :
    hasUnresolvedLiveOrder w.db "bithumb" sell.market = false := by
  obtain ⟨risk, answer⟩ := reply
  rcases placed_on_snapshot hplaced with
    ⟨job, balances, positions, snapshot, rfl, hanswer⟩ | ⟨call, position, readings, rfl, hanswer⟩
  · obtain rfl : answer = .snapshot (.ok snapshot) := hanswer
    obtain ⟨hjob, hpassed, -⟩ := htask
    change (job.snapshotted w risk balances positions (.ok snapshot)).placed = some sell at hplaced
    unfold ExitJob.snapshotted at hplaced
    have hfailed : ∀ exc, (job.chanceFailed w risk (some balances) exc).placed = none :=
      fun _ => placed_stopped rfl
    split at hplaced
    · rw [hfailed] at hplaced
      cases hplaced
    · exact resolved_finish h hjob hpassed hplaced hblock
    · cases hplaced
  · obtain rfl : answer = .quoted readings := hanswer
    change (call.quoted w risk position readings).placed = some sell at hplaced
    unfold SmartSellCall.quoted at hplaced
    split at hplaced
    · cases hplaced
    · rename_i row hquote
      obtain ⟨balances, rfl, hallowed⟩ := smartSell_allowed hquote
      split at hplaced
      · cases hplaced
      · obtain rfl := Option.some.inj hplaced
        have hresolved := resolved_of_allowed hallowed hblock
        have hexchange : (call.riskRequest balances position).order.exchangeText
            = "bithumb" := by
          show "bithumb".toLower = "bithumb"
          decide +kernel
        rw [hexchange] at hresolved
        exact hresolved

theorem unresolved_of_answered (h : w.Traced) {s : Sell} (hs : s ∈ w.sells)
    (hphase : s.phase ≠ .closed) (hanswered : s.answered = true) :
    hasUnresolvedLiveOrder w.db "bithumb" s.market = true := by
  obtain ⟨hcanonical, ⟨t, ht, hexchange, hmarket⟩, -⟩ := h.sells s hs
  have hfound := (h.unresolved s hs hphase hanswered).hasUnresolvedLiveOrder hcanonical ht
  rwa [hexchange, hmarket] at hfound

theorem sole_of_careful (h : w.Traced) {task : SellTask} (htask : task.Traced w)
    {reply : SellReply} (hcareful : CarefulReply w task reply) {sell : Sell}
    (hplaced : (task.run w reply).placed = some sell) :
    ∀ other ∈ w.sells, other.phase = .opened → ¬ sell.Shares other := by
  intro other hother hopened hshares
  obtain ⟨hanswered, hblock⟩ := hcareful.seen sell hplaced other hother hopened hshares
  have hkeeps := keeps_run h htask hcareful
  have hphase : other.phase ≠ .closed := by
    rw [hopened]
    exact fun hno => by cases hno
  have hfree := resolved_placed h htask hplaced hblock
  have hseen := unresolved_of_answered h hother hphase hanswered
  cases hresult : task.run w reply with
  | ends w' =>
    rw [hresult] at hplaced
    cases hplaced
  | waits w' next =>
    rw [hresult] at hplaced
    cases hplaced
  | places w' sell' next =>
    rw [hresult] at hplaced hkeeps
    obtain rfl := Option.some.inj hplaced
    obtain ⟨-, honward, hsell, -, -⟩ := hkeeps
    -- the position they share is of the market of both
    obtain ⟨p, hp, hp'⟩ := hshares
    obtain ⟨q, hq, hmarket⟩ := hsell.positions p hp
    obtain ⟨q', hq', hmarket'⟩ := honward.positions _ p ((h.sells other hother).positions p hp')
    rw [hq] at hq'
    obtain rfl := Option.some.inj hq'
    rw [← hmarket', hmarket, hfree] at hseen
    cases hseen

end Placed

/-! ## Whole histories -/

/-- Where a history starts: previews there may be, and no sell is under way. -/
structure SellStart where
  db : Database
  exitTerms : ℕ → ExitTerms := fun _ => {}
  autoExits : List String := []
  own : OwnUuids db
  previews : ∀ requestId t candidateId, termsOf db requestId = some t →
    t.exitCandidateId = some candidateId →
      PreviewTerms { db := db, exitTerms := exitTerms } requestId t candidateId

def SellStart.waiting (start : SellStart) : Waiting SellWorld SellTask :=
  { world := { db := start.db, exitTerms := start.exitTerms, autoExits := start.autoExits } }

theorem SellStart.traced (start : SellStart) : start.waiting.world.Traced where
  own := start.own
  previews := by
    intro requestId t candidateId ht hc
    obtain ⟨hcanonical, hexchange, hmarket, haggregate⟩ := start.previews requestId t candidateId ht hc
    exact ⟨hcanonical, hexchange, hmarket, haggregate⟩
  sells := fun s hs => by cases hs
  unresolved := fun s hs => by cases hs

theorem sellers_keep : sellers.Keeps CarefulReply (fun _ => True) SellWorld.Traced
    (fun w task => task.Traced w) where
  move := by
    intro w event h
    obtain ⟨htraced, honward⟩ := h.move event
    exact ⟨htraced, fun task htask => htask.onward honward⟩
  begin := by
    intro w operation task _ _ hbegin
    obtain rfl := Option.some.inj hbegin
    trivial
  resume := by
    intro w task reply h htask hcareful
    obtain ⟨htraced, honward, hnext⟩ := (keeps_run h htask hcareful).outcome
    exact ⟨htraced, fun other hother => hother.onward honward, hnext⟩

/-- **No open order sells what is placed**, in a history of careful replies. -/
theorem soleSell_of_careful (start : SellStart)
    (history : List (Happening SellMove SellOperation SellReply))
    (hcareful : StepsOk sellers.step (Awaiting.Replies CarefulReply) start.waiting history) :
    StepsOk sellers.step SoleSell start.waiting history := by
  refine StepsOk.imp_of_kept (P := fun s : Waiting SellWorld SellTask =>
    s.world.Traced ∧ ∀ task ∈ s.tasks, task.Traced s.world) ?_ ?_ ?_ hcareful
  · intro s e hs hok
    refine sellers_keep.step hs ?_ hok
    cases e <;> trivial
  · intro s e hs hok
    cases e with
    | moves event => trivial
    | begins operation => trivial
    | replies i reply =>
      intro task htask sell hplaced
      exact sole_of_careful hs.1 (hs.2 task (List.mem_of_getElem? htask)) (hok task htask) hplaced
  · exact ⟨start.traced, fun task htask => by cases htask⟩

/-! ## Two previews of one position -/

/-- A coin in one position, and two candidates to sell it: the first was blocked once. -/
def twiceStart : SellStart where
  db :=
    { livePositions := Table.empty.insert
        (fun id =>
          { id := id, sessionId := 1, exchange := "bithumb", market := "KRW-BTC"
            status := .exitCandidate, entryPrice := 1000000, entryVolume := 1 / 100
            entryAmountKrw := 10000 }) (fun _ => rfl)
      exitCandidates := (Table.empty.insert
        (fun id => { id := id, positionId := 1, status := .blocked }) (fun _ => rfl)).insert
          (fun id => { id := id, positionId := 1, status := .pending }) (fun _ => rfl) }
  exitTerms := fun id =>
    { market := "KRW-BTC", targetExitPrice := 1010000, volume := 1 / 100
      expectedAmountKrw := 10100, expectedFee := 5, candleTimeUtc := some (60 * id) }
  own := fun a ha => by cases ha
  previews := by
    intro requestId t candidateId ht
    cases ht

def twiceBalances : Balances where
  balances := some [{ currency := "BTC", balance := some (1 / 100) }]
  byCurrency := [("BTC", { currency := "BTC", balance := some (1 / 100) })]

/-- What an evaluation is answered, one call after the other. -/
def twiceAnswers : List SellReply :=
  [.scheduled {}, .reconciled { now := 1000000 } (some twiceBalances),
    .chance (.ok twiceBalances) none, .snapshot (.ok { balances := some twiceBalances })].map
      (fun answer => { risk := { now := 1000000 }, answer := answer })

def otherHex : HexText := { chars := ['b'] }

def twicePreviewed : List (Happening SellMove SellOperation SellReply) :=
  [.begins (.preview 1 true false { chars := ['a'] })] ++ twiceAnswers.map (.replies 0)
    ++ [.begins (.preview 2 true false otherHex)] ++ twiceAnswers.map (.replies 0)

/-- **Both are submitted together**: each evaluation is over before an order is on record. -/
def twiceTogether : List (Happening SellMove SellOperation SellReply) :=
  twicePreviewed
    ++ [.begins (.submit "exit-a" "SUBMIT LIMIT EXIT ORDER"),
      .begins (.submit "exit-b" "SUBMIT LIMIT EXIT ORDER")]
    ++ (twiceAnswers.take 3).flatMap (fun reply => [.replies 0 reply, .replies 0 reply])
    ++ (twiceAnswers.drop 3).flatMap (fun reply =>
      [.replies 0 reply, .moves (.opens 0), .replies 0 reply])

/-- **Two orders sell one position**, of which there is one coin. -/
theorem sellTwice_not_sole :
    ¬ StepsOk sellers.step SoleSell twiceStart.waiting twiceTogether := by
  decide +kernel

theorem soleSell_of_careful_twice :
    let history := twicePreviewed
      ++ [.begins (.submit "exit-a" "SUBMIT LIMIT EXIT ORDER")] ++ twiceAnswers.map (.replies 0)
      ++ [.moves (.opens 0),
        .replies 0 { risk := { now := 1000000 }, answer := .placed (.ok { uuid := some "a" }) },
        .begins (.submit "exit-b" "SUBMIT LIMIT EXIT ORDER")]
      ++ twiceAnswers.map (.replies 1)
    StepsOk sellers.step SoleSell twiceStart.waiting history
      ∧ (run sellers.step twiceStart.waiting history).world.sells.length = 1 := by
  intro history
  exact ⟨soleSell_of_careful twiceStart history (by decide +kernel), by decide +kernel⟩

end AutoCoinBot
