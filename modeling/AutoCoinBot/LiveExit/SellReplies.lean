/-
  LiveExit.SellReplies — one reply to one of the sellers.

  Between two awaits a call reads the database and writes it once or twice; what it writes of
  other orders' rows is nothing, and of its own no more than a careful reply allows.
-/
import AutoCoinBot.LiveExit.TracedSells

namespace AutoCoinBot

open Library

/-! ## Rows that are written -/

section Rows

variable {w : SellWorld} {requestId : String}

/-- **A row is given a status**, and what follows writes none. -/
theorem SellWorld.Traced.writes (h : w.Traced)
    (hcanonical : liveOrderEventRequestIdFilter requestId = false)
    (hrow : ∃ t, termsOf w.db requestId = some t) {u : LiveOrderLogUpdates} {now : UtcTime}
    {db : Database} (hquiet : QuietWrites (updateLiveOrderLog w.db requestId u now) db)
    {status : OrderStatus} (hstatus : u.status = some status)
    (hfresh : FreshUuid w.db requestId u)
    (hopen : status.isUnresolved = true ∨ ¬ w.MayBeOpen requestId) :
    SellWorld.Traced { w with db := db } ∧ w.Onward { w with db := db }
      ∧ (Unresolved db requestId ∨ ¬ w.MayBeOpen requestId) := by
  have hkept : Kept (· = requestId) (fun _ _ => False) w.db (updateLiveOrderLog w.db requestId u now)
      := kept_updateLiveOrderLog h.own now hcanonical hfresh rfl
  have hall : Kept (· = requestId) (fun _ _ => False) w.db db :=
    hkept.trans (kept_quiet hkept.own hquiet)
  have hopen' : Unresolved db requestId ∨ ¬ w.MayBeOpen requestId := by
    refine hopen.imp_left (fun hun => ⟨status, ?_, hun⟩)
    obtain ⟨t, ht⟩ := hrow
    obtain ⟨log, hlog, -⟩ := Option.map_eq_some_iff.mp ht
    have hold : statusOf w.db requestId = some log.status := by
      unfold statusOf
      rw [hlog]
      rfl
    rw [statusOf_quiet hkept.own hquiet hcanonical,
      statusOf_updateLiveOrderLog h.own now hcanonical hfresh hold, hstatus, Option.getD_some]
  obtain ⟨htraced, honward⟩ := h.row hall hopen'
  exact ⟨htraced, honward, hopen'⟩

end Rows

/-! ## What is kept -/

def SellResult.Keeps (w : SellWorld) : SellResult → Prop
  | .ends w' => w'.Traced ∧ w.Onward w'
  | .waits w' task => w'.Traced ∧ w.Onward w' ∧ task.Traced w'
  | .places w' sell task => w'.Traced ∧ w.Onward w' ∧ sell.Traced w'.db ∧ sell.answered = false
      ∧ (task w'.sells.length).Traced { w' with sells := w'.sells ++ [sell] }

theorem SellResult.Keeps.of_onward {w mid : SellWorld} {result : SellResult}
    (hw : w.Onward mid) (h : result.Keeps mid) : result.Keeps w := by
  cases result with
  | ends w' => exact ⟨h.1, hw.trans h.2⟩
  | waits w' task => exact ⟨h.1, hw.trans h.2.1, h.2.2⟩
  | places w' sell task => exact ⟨h.1, hw.trans h.2.1, h.2.2⟩

/-- **The world after it**, and the call. -/
theorem SellResult.Keeps.outcome {w : SellWorld} {result : SellResult} (h : result.Keeps w) :
    result.outcome.1.Traced ∧ w.Onward result.outcome.1
      ∧ ∀ next, result.outcome.2 = some next → next.Traced result.outcome.1 := by
  cases result with
  | ends w' => exact ⟨h.1, h.2, fun next hnext => by cases hnext⟩
  | waits w' task =>
    obtain ⟨htraced, honward, htask⟩ := h
    exact ⟨htraced, honward, fun next hnext => Option.some.inj hnext ▸ htask⟩
  | places w' sell task =>
    obtain ⟨htraced, honward, hsell, hanswered, htask⟩ := h
    obtain ⟨htraced', honward'⟩ := htraced.send hsell hanswered
    exact ⟨htraced', honward.trans honward', fun next hnext => Option.some.inj hnext ▸ htask⟩

/-! ## Evaluations -/

section Evaluations

variable {w : SellWorld} {job : ExitJob} {risk : RiskEnvironment}

theorem aggregate_finishExitEvaluation {db : Database} {q : ExitQuery} {f : ExitFindings}
    {candidate : LoadedExitCandidate} (hcandidate : q.candidate = some candidate) :
    (finishExitEvaluation risk db q f).aggregateExitPositionIds
      = f.draft.aggregateExitPositionIds := by
  unfold finishExitEvaluation
  rw [hcandidate]

theorem traced_sellOf (h : w.Traced) (hjob : job.Traced w) (hpassed : job.Passed)
    {preview : LiveOrderLog} (hpreview : job.preview = some preview) :
    (ExitJob.sellOf preview).Traced w.db := by
  obtain ⟨candidate, position, hcandidate, hposition, hexchange, hmarket⟩ := hpassed
  obtain ⟨candidateId, hnamed, hid⟩ := hjob.named preview hpreview
  have hterms := hjob.terms preview hpreview
  obtain ⟨hcanonical, hsame, hsameMarket, haggregate⟩ :=
    h.previews preview.requestId preview.terms candidateId hterms hnamed
  have hcolumns : candidate.terms = w.exitTerms candidateId := by
    rw [← hid candidate hcandidate]
    exact hjob.candidate candidate hcandidate
  rw [← hcolumns] at hsame hsameMarket
  refine ⟨hcanonical, ⟨preview.terms, hterms, hsame.trans hexchange, rfl⟩, ?_⟩
  intro p hp
  rcases List.mem_append.mp hp with hdirect | hlisted
  · rw [Option.mem_toList, hjob.sold preview position hpreview hposition, Option.some.injEq]
      at hdirect
    have hin := hjob.position position hposition
    rw [← hmarket, ← hsameMarket, hdirect] at hin
    exact hin
  · obtain ⟨id, hid, hp⟩ := List.mem_filterMap.mp hlisted
    obtain ⟨q, hq, hin⟩ := haggregate id hid
    rw [hq] at hp
    exact Option.some.inj hp ▸ hin

theorem keeps_previewed (h : w.Traced) (hjob : job.Traced w) (hnone : job.preview = none)
    {candidate : LoadedExitCandidate} (hcandidate : job.query.candidate = some candidate)
    {f : ExitFindings}
    (hdraft : ∀ id ∈ f.draft.aggregateExitPositionIds, PositionIn w.db candidate.terms.market id) :
    (SellResult.ends (job.previewed w risk candidate
      (finishExitEvaluation risk w.db job.query f))).Keeps w := by
  show (job.previewed w risk candidate _).Traced ∧ w.Onward (job.previewed w risk candidate _)
  generalize hresult : finishExitEvaluation risk w.db job.query f = result
  have haggregate : result.aggregateExitPositionIds = f.draft.aggregateExitPositionIds :=
    hresult ▸ aggregate_finishExitEvaluation hcandidate
  unfold ExitJob.previewed
  cases hinsert : insertOrderRow w.db (job.previewRow candidate result) risk.now with
  | none => exact ⟨h, .refl w⟩
  | some db =>
    dsimp only
    generalize hafter : updateExitCandidate db candidate.row.id
      (if result.allowed then .approved else .blocked) result.riskResult = after
    have hinserted : Kept (fun _ => False) (fun requestId t => requestId = job.query.requestId
        ∧ t = (job.previewRow candidate result).terms) w.db db :=
      kept_insertOrderRow h.own hinsert rfl ⟨rfl, rfl⟩
    have hkept : Kept (fun _ => False) (fun requestId t => requestId = job.query.requestId
        ∧ t = (job.previewRow candidate result).terms) w.db after := by
      refine hinserted.trans (kept_quiet hinserted.own (QuietWrites.none.elsewhere ?_ ?_))
      · rw [← hafter]
        rfl
      · rw [← hafter]
        rfl
    refine ⟨h.kept hkept rfl rfl ?_ (fun _ hno => hno.elim), hkept.onward rfl rfl⟩
    rintro requestId t candidateId ⟨rfl, rfl⟩ hid
    have hsame : candidate.row.id = candidateId := Option.some.inj hid
    have hcolumns := hjob.candidate candidate hcandidate
    rw [hsame] at hcolumns
    refine ⟨hjob.built hnone, congrArg ExitTerms.exchange hcolumns,
      congrArg ExitTerms.market hcolumns, ?_⟩
    intro id hmem
    obtain ⟨p, hp, rfl⟩ := List.mem_map.mp hmem
    rw [haggregate] at hp
    exact ⟨p, rfl, hkept.positions _ p (hdraft p hp)⟩

theorem quietWrites_markCandidate {db db' : Database} (h : QuietWrites db db')
    (status : ExitCandidateStatus) (riskResult : String) :
    QuietWrites db (job.markCandidate db' status riskResult) := by
  unfold ExitJob.markCandidate
  split
  · exact h
  · exact h.elsewhere rfl rfl

theorem keeps_finish (h : w.Traced) (hjob : job.Traced w) {f : ExitFindings}
    (hdraft : ∀ candidate, job.query.candidate = some candidate →
      ∀ id ∈ f.draft.aggregateExitPositionIds, PositionIn w.db candidate.terms.market id)
    (hpassed : f.block = none → job.Passed)
    (honce : ∀ preview, job.preview = some preview → ¬ w.MayBeOpen preview.requestId) :
    (job.finish w risk f).Keeps w := by
  unfold ExitJob.finish
  dsimp only
  cases hpreview : job.preview with
  | none =>
    cases hcandidate : job.query.candidate with
    | none => exact ⟨h, .refl w⟩
    | some candidate =>
      exact keeps_previewed h hjob hpreview hcandidate (hdraft candidate hcandidate)
  | some preview =>
    dsimp only
    split
    · rename_i hallowed
      obtain ⟨-, -, hblock, -⟩ := finishExitEvaluation_allowed hallowed
      have hsell := traced_sellOf h hjob (hpassed hblock) hpreview
      obtain ⟨-, honward⟩ := h.send hsell rfl
      refine ⟨h, .refl w, hsell, rfl, hjob.onward honward, hpreview, ?_⟩
      exact ⟨ExitJob.sellOf preview, List.getElem?_concat_length, rfl⟩
    · obtain ⟨candidateId, hnamed, -⟩ := hjob.named preview hpreview
      have hterms := hjob.terms preview hpreview
      have hcanonical :=
        (h.previews preview.requestId preview.terms candidateId hterms hnamed).canonical
      generalize finishExitEvaluation risk w.db job.query f = result
      have hquiet : QuietWrites (updateLiveOrderLog w.db preview.requestId
          { status := some .blocked
            riskResult := some result.riskResult
            errorMessage := some (some result.blockedReason) } risk.now)
          (job.blocked risk w.db preview result) := quietWrites_markCandidate .none _ _
      obtain ⟨htraced, honward, -⟩ := h.writes hcanonical ⟨_, hterms⟩ hquiet rfl
        (freshUuid_of_none rfl) (.inr (honce preview hpreview))
      exact ⟨htraced, honward⟩

theorem aggregate_draft : job.draft.aggregateExitPositionIds = [] := by
  unfold ExitJob.draft
  cases job.query.candidate <;> rfl

theorem keeps_stopped (h : w.Traced) (hjob : job.Traced w) {f : ExitFindings} {block : String}
    (hblock : f.block = some block) (hdraft : f.draft = job.draft)
    (honce : ∀ preview, job.preview = some preview → ¬ w.MayBeOpen preview.requestId) :
    (job.finish w risk f).Keeps w := by
  refine keeps_finish h hjob (fun _ _ id hid => ?_) (fun hnone => ?_) honce
  · rw [hdraft, aggregate_draft] at hid
    cases hid
  · rw [hblock] at hnone
    cases hnone

theorem keeps_start {settings : ExitSettings} (hsettings : job.settings = settings)
    (h : w.Traced) (hjob : job.Traced w)
    (honce : ∀ preview, job.preview = some preview → ¬ w.MayBeOpen preview.requestId) :
    (job.start w risk).Keeps w := by
  unfold ExitJob.start
  rw [hsettings]
  cases hblock : exitBlock settings risk.emergencyStopped w.db job.query with
  | some block => exact keeps_stopped h hjob rfl rfl honce
  | none =>
    obtain ⟨candidate, position, hpassed⟩ := exitBlock_none hblock
    exact ⟨h, .refl w, hjob, candidate, position, hpassed⟩

theorem keeps_reconciled (h : w.Traced) (hjob : job.Traced w) (hpassed : job.Passed)
    (honce : ∀ preview, job.preview = some preview → ¬ w.MayBeOpen preview.requestId)
    (env : SyncEnv) (balances : Option Balances) :
    (job.reconciled w risk env balances).Keeps w := by
  unfold ExitJob.reconciled
  cases hcandidate : job.query.candidate with
  | none => exact ⟨h, .refl w⟩
  | some candidate =>
    dsimp only
    obtain ⟨htraced, honward⟩ := h.quiet (quietWrites_reconcileBalances w.db env
      candidate.terms.exchange candidate.terms.market balances)
    split
    · exact (keeps_stopped htraced (hjob.onward honward) rfl rfl honce).of_onward honward
    · exact ⟨htraced, honward, hjob.onward honward, hpassed⟩

theorem keeps_chanceFailed (h : w.Traced) (hjob : job.Traced w)
    (honce : ∀ preview, job.preview = some preview → ¬ w.MayBeOpen preview.requestId)
    (balances : Option Balances) (exc : ApiError) :
    (job.chanceFailed w risk balances exc).Keeps w :=
  keeps_stopped h hjob rfl rfl honce

theorem keeps_asked (h : w.Traced) (hjob : job.Traced w) (hpassed : job.Passed)
    (honce : ∀ preview, job.preview = some preview → ¬ w.MayBeOpen preview.requestId)
    (balances : Except ApiError Balances) (exception : Option ApiError) :
    (job.asked w risk balances exception).Keeps w := by
  unfold ExitJob.asked
  cases balances with
  | error exc => exact keeps_chanceFailed h hjob honce none exc
  | ok balances =>
    cases exception with
    | some exc => exact keeps_chanceFailed h hjob honce (some balances) exc
    | none =>
      refine ⟨h, .refl w, hjob, hpassed, ?_⟩
      intro p hp
      cases hcandidate : job.query.candidate with
      | none =>
        rw [hcandidate] at hp
        cases hp
      | some candidate =>
        rw [hcandidate] at hp
        exact ⟨p, (mem_selectActivePositions.mp hp).1, rfl⟩

theorem positionIn_draftWithin {settings : ExitSettings} {terms : ExitTerms}
    {position : LivePosition} {snapshot : ExitSnapshot}
    (hpositions : ∀ p ∈ snapshot.positions, PositionIn w.db p.market p.id) :
    ∀ id ∈ (draftWithin settings w.db terms position snapshot).1.aggregateExitPositionIds,
      PositionIn w.db terms.market id := by
  have hswept : ∀ p ∈ sweptPositions w.db terms snapshot, PositionIn w.db terms.market p.id := by
    intro p hp
    unfold sweptPositions at hp
    dsimp only at hp
    rw [List.mem_filter, Bool.and_eq_true, Bool.and_eq_true, beq_iff_eq, beq_iff_eq] at hp
    obtain ⟨hmem, ⟨-, hmarket⟩, -⟩ := hp
    rw [← hmarket]
    split at hmem
    · exact ⟨p, (mem_selectActivePositions.mp hmem).1, rfl⟩
    · exact hpositions p hmem
  have haggregate : ∀ id ∈ (aggregateSameMarketExitCandidate settings w.db terms position
      snapshot).aggregateExitPositionIds, PositionIn w.db terms.market id := by
    intro id hid
    unfold aggregateSameMarketExitCandidate at hid
    dsimp only at hid
    split_ifs at hid
    · cases hid
    · cases hid
    · cases hid
    · cases hid
    · obtain ⟨p, hp, rfl⟩ := List.mem_map.mp hid
      exact hswept p ((List.mem_insertionSort _).mp hp)
  have hdraft : (draftWithin settings w.db terms position snapshot).1.aggregateExitPositionIds = []
      ∨ (draftWithin settings w.db terms position snapshot).1.aggregateExitPositionIds
        = (aggregateSameMarketExitCandidate settings w.db terms position
            snapshot).aggregateExitPositionIds := by
    unfold draftWithin
    dsimp only
    split
    · exact .inl rfl
    · right
      generalize aggregateSameMarketExitCandidate settings w.db terms position snapshot = draft
      generalize (if draft.aggregateExitPositionIds ≠ [] then
        orNum draft.volume (sellableVolumeForPosition snapshot.balances position)
        else sellableVolumeForPosition snapshot.balances position) = sellable
      split_ifs
      · rfl
      · rfl
      · rfl
      · rfl
      · rfl
  intro id hid
  rcases hdraft with hnone | hsame
  · rw [hnone] at hid
    cases hid
  · exact haggregate id (hsame ▸ hid)

theorem keeps_snapshotted (h : w.Traced) (hjob : job.Traced w) (hpassed : job.Passed)
    (honce : ∀ preview, job.preview = some preview → ¬ w.MayBeOpen preview.requestId)
    (balances : Balances) {positions : List LivePosition}
    (hpositions : ∀ p ∈ positions, PositionIn w.db p.market p.id)
    (snapshot : Except ApiError ExitSnapshot) :
    (job.snapshotted w risk balances positions snapshot).Keeps w := by
  cases snapshot with
  | error exc => exact keeps_chanceFailed h hjob honce (some balances) exc
  | ok snapshot =>
    unfold ExitJob.snapshotted
    cases hcandidate : job.query.candidate with
    | none => exact ⟨h, .refl w⟩
    | some candidate =>
      cases hposition : job.query.position with
      | none => exact ⟨h, .refl w⟩
      | some position =>
        refine keeps_finish h hjob (fun candidate' hcandidate' => ?_) (fun _ => hpassed) honce
        rw [hcandidate] at hcandidate'
        obtain rfl := Option.some.inj hcandidate'
        exact positionIn_draftWithin (w := w) hpositions

end Evaluations

/-! ## Orders that were sent -/

section Sent

variable {w : SellWorld} {job : ExitJob} {risk : RiskEnvironment} {preview : LiveOrderLog}

theorem previewTerms_of_job (h : w.Traced) (hjob : job.Traced w)
    (hpreview : job.preview = some preview) :
    ∃ candidateId, PreviewTerms w preview.requestId preview.terms candidateId := by
  obtain ⟨candidateId, hnamed, -⟩ := hjob.named preview hpreview
  exact ⟨candidateId, h.previews _ _ candidateId (hjob.terms preview hpreview) hnamed⟩

theorem writes_failed (h : w.Traced) (hjob : job.Traced w) (hpreview : job.preview = some preview)
    {exc : ApiError}
    (hopen : isTimeoutException exc = true ∨ ¬ w.MayBeOpen preview.requestId) :
    SellWorld.Traced { w with db := job.failed risk w.db preview exc }
      ∧ w.Onward { w with db := job.failed risk w.db preview exc }
      ∧ (Unresolved (job.failed risk w.db preview exc) preview.requestId
        ∨ ¬ w.MayBeOpen preview.requestId) := by
  obtain ⟨candidateId, hterms⟩ := previewTerms_of_job h hjob hpreview
  have hrow := hjob.terms preview hpreview
  unfold ExitJob.failed
  split
  case isTrue =>
    exact h.writes hterms.canonical ⟨_, hrow⟩ (quietWrites_markCandidate .none _ _) rfl
      (freshUuid_of_none rfl) (.inl rfl)
  case isFalse hno =>
    have hclosed : ¬ w.MayBeOpen preview.requestId := hopen.resolve_left hno
    dsimp only
    split
    · exact h.writes hterms.canonical ⟨_, hrow⟩ .none rfl (freshUuid_of_none rfl) (.inr hclosed)
    · exact h.writes hterms.canonical ⟨_, hrow⟩ (QuietWrites.none.updateLivePosition _ _ _) rfl
        (freshUuid_of_none rfl) (.inr hclosed)

theorem quietWrites_closePositions {db db' : Database} (h : QuietWrites db db')
    (position : LivePosition) (orderUuid : String) :
    QuietWrites db (ExitJob.closePositions risk db' preview position orderUuid) := by
  unfold ExitJob.closePositions
  exact (h.updateLivePosition _ _ _).trans (quietWrites_foldl_updateLivePosition _ _ _ _)

theorem keeps_awaitRecheck {mid : SellWorld} (h : mid.Traced) (honward : w.Onward mid)
    (hjob : job.Traced w) (hpreview : job.preview = some preview) (response : RawOrder) :
    (job.awaitRecheck mid preview response).Keeps w := by
  unfold ExitJob.awaitRecheck
  split
  · exact ⟨h, honward⟩
  · cases hlog : submittedExitOrder mid.db preview.requestId with
    | none => exact ⟨h, honward⟩
    | some log =>
      obtain ⟨hrow, -⟩ := Option.filter_eq_some_iff.mp hlog
      exact ⟨h, honward, hjob.onward honward, hpreview, getLiveOrderLog_requestId _ _ hrow⟩

theorem keeps_submitted (h : w.Traced) (hjob : job.Traced w) (hpreview : job.preview = some preview)
    {i : ℕ} (hsends : w.Sends i preview.requestId) {response : RawOrder}
    (hfresh : ownedElsewhere w.db preview.requestId response.orderUuid = false) :
    (job.submitted (w.answer i) risk preview response).Keeps w := by
  obtain ⟨candidateId, hterms⟩ := previewTerms_of_job h hjob hpreview
  have hrow := hjob.terms preview hpreview
  have hids : preview.orderPreviewPayload.aggregateExitPositionIds.all Option.isSome = true := by
    refine List.all_eq_true.mpr (fun id hid => ?_)
    obtain ⟨p, rfl, -⟩ := hterms.aggregate id hid
    rfl
  have hbrings : FreshUuid w.db preview.requestId
      { submittedUpdates response with errorMessage := some none } := by
    intro uuid huuid
    rw [← Option.some.inj huuid]
    exact hfresh
  -- whatever is written after the row, the call is answered with an unresolved row
  have hanswered : ∀ db, QuietWrites (updateLiveOrderLog w.db preview.requestId
      { submittedUpdates response with errorMessage := some none } risk.now) db →
      SellWorld.Traced { w.answer i with db := db } ∧ w.Onward { w.answer i with db := db } := by
    intro db hquiet
    obtain ⟨htraced, honward, hun⟩ :=
      h.writes hterms.canonical ⟨_, hrow⟩ hquiet rfl hbrings (.inl rfl)
    obtain ⟨htraced', honward'⟩ := htraced.answer (honward.sends i _ hsends) hun
    exact ⟨htraced', honward.trans honward'⟩
  have hsubmitted : QuietWrites (updateLiveOrderLog w.db preview.requestId
      { submittedUpdates response with errorMessage := some none } risk.now)
      (job.submittedDb risk w.db preview response) := quietWrites_markCandidate .none _ _
  unfold ExitJob.submitted
  cases job.query.position with
  | none =>
    obtain ⟨htraced, honward⟩ := hanswered _ hsubmitted
    exact keeps_awaitRecheck htraced honward hjob hpreview response
  | some position =>
    dsimp only
    rw [if_pos hids]
    have hclosing := @quietWrites_closePositions risk preview _ _ hsubmitted position
      response.orderUuid
    have hquiet : QuietWrites (updateLiveOrderLog w.db preview.requestId
        { submittedUpdates response with errorMessage := some none } risk.now)
        (updateLiveStrategySession (ExitJob.closePositions risk
          (job.submittedDb risk w.db preview response) preview position response.orderUuid)
          position.sessionId
          { lastOrderStatus := some "SUBMITTED", lastRiskResult := some "EXIT_SUBMITTED" }) :=
      hclosing.elsewhere rfl rfl
    obtain ⟨htraced, honward⟩ := hanswered _ hquiet
    exact keeps_awaitRecheck htraced honward hjob hpreview response

theorem keeps_rechecked (h : w.Traced) {log : LiveOrderLog}
    (hcanonical : liveOrderEventRequestIdFilter log.requestId = false)
    (hrow : ∃ t, termsOf w.db log.requestId = some t) {raw : RawOrder} (now : UtcTime)
    (hopen : (normalizeExchangeOrder raw).status.isUnresolved = true
      ∨ ¬ w.MayBeOpen log.requestId) :
    SellWorld.Traced { w with db := recheckedExitOrder w.db log raw now }
      ∧ w.Onward { w with db := recheckedExitOrder w.db log raw now } := by
  have hmarked : ∀ db : Database, QuietWrites db
      (markExitCandidate db log (normalizeExchangeOrder raw)) := fun db =>
    QuietWrites.none.elsewhere (markExitCandidate_liveOrderLogs db log _)
      (markExitCandidate_livePositions db log _)
  obtain ⟨htraced, honward, -⟩ := h.writes hcanonical hrow
    ((hmarked _).trans (quietWrites_syncExitOrderPosition _
      { log with actualPnl := some (notedExitPnl w.db log (normalizeExchangeOrder raw)) }
      (normalizeExchangeOrder raw) now))
    (u := exitReconcileUpdates log (normalizeExchangeOrder raw)
      (notedExitPnl w.db log (normalizeExchangeOrder raw))) rfl (freshUuid_of_none rfl) hopen
  exact ⟨htraced, honward⟩

end Sent

/-! ## Smart sells -/

section Smart

variable {w : SellWorld} {c : SmartSellCall} {risk : RiskEnvironment} {position : LivePosition}

theorem positionIn_position (hposition : c.position w.db = some position) :
    PositionIn w.db c.market position.id := by
  have hmatch : ∀ {q : LivePosition → Bool}, (selectActivePositions w.db q).head? = some position →
      (q position = true → position.market = c.market) → PositionIn w.db c.market position.id := by
    intro q hhead hmarket
    obtain ⟨hload, -, hq⟩ := mem_selectActivePositions.mp (List.mem_of_head? hhead)
    exact ⟨position, hload, hmarket hq⟩
  rcases Option.or_eq_some_iff.mp hposition with hown | ⟨-, hany⟩
  · refine hmatch hown (fun hq => ?_)
    simp only [Bool.and_eq_true, beq_iff_eq] at hq
    exact hq.1.2
  · refine hmatch hany (fun hq => ?_)
    simp only [Bool.and_eq_true, beq_iff_eq] at hq
    exact hq.2

theorem keeps_quoted (h : w.Traced) (hposition : PositionIn w.db c.market position.id)
    (readings : SmartSellReadings) : (c.quoted w risk position readings).Keeps w := by
  unfold SmartSellCall.quoted
  cases hquote : c.quote { readings with risk := risk } w.db position with
  | none => exact ⟨h, .refl w⟩
  | some row =>
    obtain ⟨balances, rfl, -⟩ := smartSell_allowed hquote
    dsimp only
    cases hinsert : insertOrderRow w.db (c.orderRow balances position) risk.now with
    | none => exact ⟨h, .refl w⟩
    | some db =>
      have hkept : Kept (fun _ => False) (fun _ t => t.exitCandidateId = none) w.db db :=
        kept_insertOrderRow h.own hinsert rfl rfl
      have htraced : SellWorld.Traced { w with db := db } := by
        refine h.kept hkept rfl rfl (fun _ t _ hnone hsome => ?_) (fun _ hno => hno.elim)
        rw [hnone] at hsome
        cases hsome
      have honward : w.Onward { w with db := db } := hkept.onward rfl rfl
      have hcanonical := requestId_canonical c.tick
      have hterms : termsOf db c.tick.requestId = some (c.orderRow balances position).terms :=
        (termsOf_insertOrderRow hinsert c.tick.requestId).trans (if_pos rfl)
      have hsell : Sell.Traced db
          { requestId := c.tick.requestId, market := c.market, positions := [position.id] } := by
        refine ⟨hcanonical, ⟨_, hterms, rfl, rfl⟩, fun p hp => ?_⟩
        rw [List.mem_singleton.mp hp]
        exact hkept.positions _ _ hposition
      exact ⟨htraced, honward, hsell, rfl, ⟨_, List.getElem?_concat_length, rfl⟩, hcanonical,
        _, hterms⟩

theorem keeps_smartPlaced (h : w.Traced) {i : ℕ} (hsends : w.Sends i c.tick.requestId)
    (hcanonical : liveOrderEventRequestIdFilter c.tick.requestId = false)
    (hrow : ∃ t, termsOf w.db c.tick.requestId = some t) {response : Placed}
    (hanswers : (SellTask.placingSmart i c position).AnswersOpen w (.placed response)) :
    SellWorld.Traced { w.answer i with db := c.placed risk w.db position response }
      ∧ w.Onward { w.answer i with db := c.placed risk w.db position response } := by
  have hanswered : ∀ db, SellWorld.Traced { w with db := db } ∧ w.Onward { w with db := db }
      ∧ (Unresolved db c.tick.requestId ∨ ¬ w.MayBeOpen c.tick.requestId) →
      SellWorld.Traced { w.answer i with db := db } ∧ w.Onward { w.answer i with db := db } := by
    rintro db ⟨htraced, honward, hun⟩
    obtain ⟨htraced', honward'⟩ := htraced.answer (honward.sends i _ hsends) hun
    exact ⟨htraced', honward.trans honward'⟩
  cases response with
  | ok response =>
    have hbrings : FreshUuid w.db c.tick.requestId (submittedUpdates response) := by
      intro uuid huuid
      rw [← Option.some.inj huuid]
      exact hanswers
    exact hanswered _ (h.writes hcanonical hrow
      ((QuietWrites.none.updateLivePosition position.id _ risk.now).elsewhere rfl rfl) rfl hbrings
      (.inl rfl))
  | error exc =>
    exact hanswered _ (h.writes hcanonical hrow (QuietWrites.none.elsewhere rfl rfl) rfl
      (freshUuid_of_none rfl) (.inr hanswers))

end Smart

/-! ## One reply -/

section Reply

variable {w : SellWorld} {risk : RiskEnvironment}

theorem keeps_operation (h : w.Traced) (settings : ExitSettings) {operation : SellOperation}
    (honce : ∀ requestId, (SellTask.ready operation).evaluates w = some requestId →
      ¬ w.MayBeOpen requestId) : (operation.start w risk settings).Keeps w := by
  have hloaded : ∀ {candidateId : ℕ} {candidate : LoadedExitCandidate},
      w.loadExitCandidate candidateId = some candidate →
        candidate.row.id = candidateId ∧ candidate.terms = w.exitTerms candidateId := by
    intro candidateId candidate hload
    obtain ⟨row, hrow, rfl⟩ := Option.map_eq_some_iff.mp hload
    exact ⟨Table.get?_some_rowId hrow, rfl⟩
  have hfound : ∀ {positionId : ℕ} {p : LivePosition}, loadLivePosition w.db positionId = some p →
      p.id = positionId ∧ PositionIn w.db p.market p.id := by
    intro positionId p hload
    have hid := loadLivePosition_id w.db positionId hload
    exact ⟨hid, p, hid ▸ hload, rfl⟩
  cases operation with
  | preview candidateId manualConfirmed isAutoExit requestHex =>
    unfold SellOperation.start
    dsimp only
    cases hcandidate : w.loadExitCandidate candidateId with
    | none => exact ⟨h, .refl w⟩
    | some candidate =>
      obtain ⟨hid, hcolumns⟩ := hloaded hcandidate
      refine keeps_start rfl h ⟨?_, ?_, ?_, ?_, ?_, ?_⟩ (fun _ hno => by cases hno)
      · intro candidate' hcandidate'
        obtain rfl := Option.some.inj hcandidate'
        rw [hid]
        exact hcolumns
      · intro p hp
        exact (hfound (Option.filter_eq_some_iff.mp hp).1).2
      · exact fun _ => exitRequestId_canonical requestHex
      · exact fun _ hno => by cases hno
      · exact fun _ hno => by cases hno
      · exact fun _ _ hno => by cases hno
  | submit requestId finalConfirmation =>
    unfold SellOperation.start
    dsimp only
    split
    · exact ⟨h, .refl w⟩
    · cases hlog : getLiveOrderLog w.db requestId with
      | none => exact ⟨h, .refl w⟩
      | some log =>
        dsimp only
        split
        case isTrue => exact ⟨h, .refl w⟩
        case isFalse hready =>
          cases hcandidateId : log.exitCandidateId with
          | none => exact ⟨h, .refl w⟩
          | some candidateId =>
            have hrequest : log.requestId = requestId :=
              getLiveOrderLog_requestId w.db requestId hlog
            have hpreviewed : statusOf w.db requestId = some .previewed := by
              unfold statusOf
              rw [hlog, Option.map_some, not_not.mp (not_or.mp hready).1]
            have hclosed : ¬ w.MayBeOpen log.requestId := by
              rw [hrequest]
              exact honce requestId (if_pos hpreviewed)
            refine keeps_start rfl h ⟨?_, ?_, ?_, ?_, ?_, ?_⟩ ?_
            · intro candidate hcandidate
              obtain ⟨hid, hcolumns⟩ := hloaded hcandidate
              rw [hid]
              exact hcolumns
            · intro p hp
              obtain ⟨hbind, -⟩ := Option.filter_eq_some_iff.mp hp
              obtain ⟨positionId, -, hload⟩ := Option.bind_eq_some_iff.mp hbind
              exact (hfound hload).2
            · exact fun hno => by cases hno
            · intro preview hpreview
              obtain rfl := Option.some.inj hpreview
              unfold termsOf
              rw [hrequest, hlog]
              rfl
            · intro preview hpreview
              obtain rfl := Option.some.inj hpreview
              exact ⟨candidateId, hcandidateId, fun candidate hcandidate =>
                (hloaded hcandidate).1⟩
            · intro preview p hpreview hp
              obtain rfl := Option.some.inj hpreview
              obtain ⟨hbind, -⟩ := Option.filter_eq_some_iff.mp hp
              obtain ⟨positionId, hid, hload⟩ := Option.bind_eq_some_iff.mp hbind
              rw [hid, (hfound hload).1]
            · intro preview hpreview
              obtain rfl := Option.some.inj hpreview
              exact hclosed
  | smart call =>
    unfold SellOperation.start
    dsimp only
    cases hposition : call.position w.db with
    | none => exact ⟨h, .refl w⟩
    | some position => exact ⟨h, .refl w, positionIn_position hposition⟩

/-- **A careful reply keeps the sells traced**, whatever call it is for. -/
theorem keeps_run (h : w.Traced) {task : SellTask} (htask : task.Traced w) {reply : SellReply}
    (hcareful : CarefulReply w task reply) : (task.run w reply).Keeps w := by
  obtain ⟨-, honce, hanswers⟩ := hcareful
  obtain ⟨risk, answer⟩ := reply
  have hwaits : (SellResult.waits w task).Keeps w := ⟨h, .refl w, htask⟩
  cases task with
  | ready operation =>
    cases answer with
    | scheduled settings => exact keeps_operation h settings honce
    | _ => exact hwaits
  | reconciling job =>
    have hjob : ∀ preview, job.preview = some preview → ¬ w.MayBeOpen preview.requestId :=
      fun preview hpreview => honce _ (congrArg (Option.map LiveOrderLog.requestId) hpreview)
    cases answer with
    | reconciled env balances => exact keeps_reconciled h htask.1 htask.2 hjob env balances
    | _ => exact hwaits
  | asking job =>
    have hjob : ∀ preview, job.preview = some preview → ¬ w.MayBeOpen preview.requestId :=
      fun preview hpreview => honce _ (congrArg (Option.map LiveOrderLog.requestId) hpreview)
    cases answer with
    | chance balances exception => exact keeps_asked h htask.1 htask.2 hjob balances exception
    | _ => exact hwaits
  | snapshotting job balances positions =>
    have hjob : ∀ preview, job.preview = some preview → ¬ w.MayBeOpen preview.requestId :=
      fun preview hpreview => honce _ (congrArg (Option.map LiveOrderLog.requestId) hpreview)
    obtain ⟨htraced, hpassed, hpositions⟩ := htask
    cases answer with
    | snapshot snapshot =>
      exact keeps_snapshotted h htraced hpassed hjob balances hpositions snapshot
    | _ => exact hwaits
  | placing sell job preview =>
    obtain ⟨hjob, hpreview, hsends⟩ := htask
    cases answer with
    | placed response =>
      cases response with
      | ok response => exact keeps_submitted h hjob hpreview hsends hanswers
      | error exc =>
        obtain ⟨htraced, honward, hun⟩ := writes_failed h hjob hpreview hanswers
        obtain ⟨htraced', honward'⟩ := htraced.answer (honward.sends sell _ hsends) hun
        exact ⟨htraced', honward.trans honward'⟩
    | _ => exact hwaits
  | rechecking job preview log =>
    obtain ⟨hjob, hpreview, hlog⟩ := htask
    cases answer with
    | order raw =>
      cases raw with
      | ok raw =>
        obtain ⟨candidateId, hterms⟩ := previewTerms_of_job h hjob hpreview
        exact keeps_rechecked h (hlog ▸ hterms.canonical)
          ⟨_, hlog ▸ hjob.terms preview hpreview⟩ risk.now hanswers
      | error exc =>
        obtain ⟨htraced, honward, -⟩ := writes_failed h hjob hpreview hanswers
        exact ⟨htraced, honward⟩
    | _ => exact hwaits
  | quoting call position =>
    cases answer with
    | quoted readings => exact keeps_quoted h htask readings
    | _ => exact hwaits
  | placingSmart sell call position =>
    obtain ⟨hsends, hcanonical, hrow⟩ := htask
    cases answer with
    | placed response => exact keeps_smartPlaced h hsends hcanonical hrow hanswers
    | _ => exact hwaits

end Reply

end AutoCoinBot
