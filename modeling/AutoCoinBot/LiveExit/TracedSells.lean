/-
  LiveExit.TracedSells — what the database knows of the sells that were sent.

  Every sell has its row. Once its call is answered, the row is unresolved for as long as the order
  may be open: this is what the next evaluation sees of it.
-/
import AutoCoinBot.LiveExit.Sellers
import AutoCoinBot.LiveRecovery.KeptOrders

namespace AutoCoinBot

open Library

/-! ## Careful replies -/

/-- An order of the request is open, or may come to be. -/
def SellWorld.MayBeOpen (w : SellWorld) (requestId : String) : Prop :=
  ∃ s ∈ w.sells, s.requestId = requestId ∧ s.phase ≠ .closed

instance (w : SellWorld) (requestId : String) : Decidable (w.MayBeOpen requestId) :=
  inferInstanceAs (Decidable (∃ s ∈ w.sells, s.requestId = requestId ∧ s.phase ≠ .closed))

def SellTask.evaluates (w : SellWorld) : SellTask → Option String
  | .ready (.submit requestId _) =>
    if statusOf w.db requestId = some .previewed then some requestId else none
  | .reconciling job | .asking job | .snapshotting job _ _ =>
    job.preview.map LiveOrderLog.requestId
  | _ => none

/-- What is said of an order that may be open leaves its row unresolved. -/
def SellTask.AnswersOpen (w : SellWorld) : SellTask → SellAnswer → Prop
  -- the exchange gives no uuid twice
  | .placing _ _ preview, .placed (.ok response) =>
    ownedElsewhere w.db preview.requestId response.orderUuid = false
  | .placingSmart _ call _, .placed (.ok response) =>
    ownedElsewhere w.db call.tick.requestId response.orderUuid = false
  -- of an order that was taken, or may be, no other exception comes than a timeout
  | .placing _ _ preview, .placed (.error exc) =>
    isTimeoutException exc = true ∨ ¬ w.MayBeOpen preview.requestId
  | .rechecking _ preview _, .order (.error exc) =>
    isTimeoutException exc = true ∨ ¬ w.MayBeOpen preview.requestId
  -- and in a smart sell not even that
  | .placingSmart _ call _, .placed (.error _) => ¬ w.MayBeOpen call.tick.requestId
  | .rechecking _ _ log, .order (.ok raw) =>
    (normalizeExchangeOrder raw).status.isUnresolved = true ∨ ¬ w.MayBeOpen log.requestId
  | _, _ => True

/-- A reply that forgets no open order. -/
structure CarefulReply (w : SellWorld) (task : SellTask) (reply : SellReply) : Prop where
  -- what is open of the same position has been answered, and would be seen
  seen : ∀ sell, (task.run w reply).placed = some sell → ∀ other ∈ w.sells,
    other.phase = .opened → sell.Shares other →
    other.answered = true ∧ reply.risk.config.blockOnOpenOrder = true
  -- no preview is evaluated that may be open
  once : ∀ requestId, task.evaluates w = some requestId → ¬ w.MayBeOpen requestId
  answers : task.AnswersOpen w reply.answer

instance (w : SellWorld) : (task : SellTask) → (answer : SellAnswer) →
    Decidable (task.AnswersOpen w answer) := by
  intro task answer
  unfold SellTask.AnswersOpen
  split <;> infer_instance

instance (w : SellWorld) (task : SellTask) (reply : SellReply) :
    Decidable (CarefulReply w task reply) :=
  decidable_of_iff
    ((∀ sell ∈ (task.run w reply).placed, ∀ other ∈ w.sells,
        other.phase = .opened → sell.Shares other →
        other.answered = true ∧ reply.risk.config.blockOnOpenOrder = true)
      ∧ (∀ requestId ∈ task.evaluates w, ¬ w.MayBeOpen requestId)
      ∧ task.AnswersOpen w reply.answer)
    ⟨fun ⟨seen, once, answers⟩ => ⟨seen, once, answers⟩,
      fun ⟨seen, once, answers⟩ => ⟨seen, once, answers⟩⟩

/-! ## Traces -/

/-- The row of an exit order, beside the candidate it is for. -/
structure PreviewTerms (w : SellWorld) (requestId : String) (t : OrderTerms) (candidateId : ℕ) :
    Prop where
  canonical : liveOrderEventRequestIdFilter requestId = false
  exchange : t.exchange = (w.exitTerms candidateId).exchange
  market : t.market = (w.exitTerms candidateId).market
  aggregate : ∀ id ∈ t.aggregateExitPositionIds, ∃ p, id = some p ∧ PositionIn w.db t.market p

/-- The order has its row, and its positions are of the market. -/
structure Sell.Traced (db : Database) (s : Sell) : Prop where
  canonical : liveOrderEventRequestIdFilter s.requestId = false
  terms : ∃ t, termsOf db s.requestId = some t ∧ t.exchange = "bithumb" ∧ t.market = s.market
  positions : ∀ p ∈ s.positions, PositionIn db s.market p

def Unresolved (db : Database) (requestId : String) : Prop :=
  ∃ status, statusOf db requestId = some status ∧ status.isUnresolved = true

theorem Unresolved.hasUnresolvedLiveOrder {db : Database} {requestId : String} {t : OrderTerms}
    (h : Unresolved db requestId) (hcanonical : liveOrderEventRequestIdFilter requestId = false)
    (ht : termsOf db requestId = some t) :
    AutoCoinBot.hasUnresolvedLiveOrder db t.exchange t.market = true := by
  obtain ⟨status, hstatus, hun⟩ := h
  obtain ⟨log, hlog, rfl⟩ := Option.map_eq_some_iff.mp ht
  have hstatus' : log.status = status := by
    unfold statusOf at hstatus
    rw [hlog] at hstatus
    exact Option.some.inj hstatus
  have hrow : log.requestId = requestId := getLiveOrderLog_requestId db requestId hlog
  have hmem : log ∈ loadReconcilableLiveOrderLogs db log.exchange log.market := by
    refine Table.mem_select.mpr ⟨List.mem_of_find?_eq_some hlog, ?_⟩
    rw [Bool.and_eq_true, Bool.and_eq_true, Bool.and_eq_true, beq_iff_eq, beq_iff_eq, hrow,
      hcanonical, hstatus']
    exact ⟨⟨⟨rfl, rfl⟩, hun⟩, rfl⟩
  show AutoCoinBot.hasUnresolvedLiveOrder db log.exchange log.market = true
  unfold AutoCoinBot.hasUnresolvedLiveOrder
  rw [Bool.not_eq_true', List.isEmpty_eq_false_iff]
  exact List.ne_nil_of_mem hmem

/-- **What the database knows of the sells.** -/
structure SellWorld.Traced (w : SellWorld) : Prop where
  own : OwnUuids w.db
  previews : ∀ requestId t candidateId, termsOf w.db requestId = some t →
    t.exitCandidateId = some candidateId → PreviewTerms w requestId t candidateId
  sells : ∀ s ∈ w.sells, s.Traced w.db
  unresolved : ∀ s ∈ w.sells, s.phase ≠ .closed → s.answered = true → Unresolved w.db s.requestId

/-- What an evaluation remembers. -/
structure ExitJob.Traced (w : SellWorld) (job : ExitJob) : Prop where
  candidate : ∀ candidate, job.query.candidate = some candidate →
    candidate.terms = w.exitTerms candidate.row.id
  position : ∀ p, job.query.position = some p → PositionIn w.db p.market p.id
  built : job.preview = none → liveOrderEventRequestIdFilter job.query.requestId = false
  terms : ∀ preview, job.preview = some preview →
    termsOf w.db preview.requestId = some preview.terms
  named : ∀ preview, job.preview = some preview → ∃ candidateId,
    preview.exitCandidateId = some candidateId
      ∧ ∀ candidate, job.query.candidate = some candidate → candidate.row.id = candidateId
  sold : ∀ preview p, job.preview = some preview → job.query.position = some p →
    truthyId preview.positionId = some p.id

/-- An evaluation that has passed the guards. -/
def ExitJob.Passed (job : ExitJob) : Prop :=
  ∃ candidate position, job.query.candidate = some candidate ∧ job.query.position = some position
    ∧ candidate.terms.exchange = "bithumb" ∧ candidate.terms.market = position.market

def SellWorld.Sends (w : SellWorld) (sell : ℕ) (requestId : String) : Prop :=
  ∃ s, w.sells[sell]? = some s ∧ s.requestId = requestId

def SellTask.Traced (w : SellWorld) : SellTask → Prop
  | .ready _ => True
  | .reconciling job | .asking job => job.Traced w ∧ job.Passed
  | .snapshotting job _ positions =>
    job.Traced w ∧ job.Passed ∧ ∀ p ∈ positions, PositionIn w.db p.market p.id
  | .placing sell job preview =>
    job.Traced w ∧ job.preview = some preview ∧ w.Sends sell preview.requestId
  | .rechecking job preview log =>
    job.Traced w ∧ job.preview = some preview ∧ log.requestId = preview.requestId
  | .quoting call position => PositionIn w.db call.market position.id
  | .placingSmart sell call _ =>
    w.Sends sell call.tick.requestId
      ∧ liveOrderEventRequestIdFilter call.tick.requestId = false
      ∧ ∃ t, termsOf w.db call.tick.requestId = some t

/-! ## What lasts -/

/-- A world that comes later. -/
structure SellWorld.Onward (w w' : SellWorld) : Prop where
  exitTerms : w'.exitTerms = w.exitTerms
  terms : ∀ requestId t, termsOf w.db requestId = some t → termsOf w'.db requestId = some t
  positions : ∀ market positionId, PositionIn w.db market positionId →
    PositionIn w'.db market positionId
  sends : ∀ sell requestId, w.Sends sell requestId → w'.Sends sell requestId

section Onward

variable {w mid w' : SellWorld}

theorem SellWorld.Onward.refl (w : SellWorld) : w.Onward w where
  exitTerms := rfl
  terms := fun _ _ h => h
  positions := fun _ _ h => h
  sends := fun _ _ h => h

theorem SellWorld.Onward.trans (h : w.Onward mid) (h' : mid.Onward w') : w.Onward w' where
  exitTerms := h'.exitTerms.trans h.exitTerms
  terms := fun requestId t ht => h'.terms requestId t (h.terms requestId t ht)
  positions := fun market p hp => h'.positions market p (h.positions market p hp)
  sends := fun sell requestId hs => h'.sends sell requestId (h.sends sell requestId hs)

theorem Kept.onward {written : String → Prop} {added : String → OrderTerms → Prop}
    (h : Kept written added w.db w'.db) (hexit : w'.exitTerms = w.exitTerms)
    (hsells : w'.sells = w.sells) : w.Onward w' where
  exitTerms := hexit
  terms := h.terms
  positions := h.positions
  sends := by
    intro sell requestId hs
    unfold SellWorld.Sends
    rw [hsells]
    exact hs

theorem ExitJob.Traced.onward {job : ExitJob} (h : job.Traced w) (hw : w.Onward w') :
    job.Traced w' where
  candidate := by
    intro candidate hcandidate
    rw [hw.exitTerms]
    exact h.candidate candidate hcandidate
  position := fun p hp => hw.positions _ _ (h.position p hp)
  built := h.built
  terms := fun preview hpreview => hw.terms _ _ (h.terms preview hpreview)
  named := h.named
  sold := h.sold

/-- **What a call remembers stays true.** -/
theorem SellTask.Traced.onward {task : SellTask} (h : task.Traced w) (hw : w.Onward w') :
    task.Traced w' := by
  cases task with
  | ready operation => trivial
  | reconciling job => exact ⟨h.1.onward hw, h.2⟩
  | asking job => exact ⟨h.1.onward hw, h.2⟩
  | snapshotting job balances positions =>
    obtain ⟨hjob, hpassed, hpositions⟩ := h
    exact ⟨hjob.onward hw, hpassed, fun p hp => hw.positions _ _ (hpositions p hp)⟩
  | placing sell job preview =>
    obtain ⟨hjob, hpreview, hsends⟩ := h
    exact ⟨hjob.onward hw, hpreview, hw.sends sell _ hsends⟩
  | rechecking job preview log => exact ⟨h.1.onward hw, h.2⟩
  | quoting call position => exact hw.positions _ _ h
  | placingSmart sell call position =>
    obtain ⟨hsends, hcanonical, t, ht⟩ := h
    exact ⟨hw.sends sell _ hsends, hcanonical, t, hw.terms _ t ht⟩

end Onward

section Traced

variable {w w' : SellWorld} {written : String → Prop} {added : String → OrderTerms → Prop}

theorem Sell.Traced.kept {db db' : Database} {s : Sell} (h : s.Traced db)
    (hkept : Kept written added db db') : s.Traced db' where
  canonical := h.canonical
  terms := by
    obtain ⟨t, ht, hmarket⟩ := h.terms
    exact ⟨t, hkept.terms _ t ht, hmarket⟩
  positions := fun p hp => hkept.positions _ p (h.positions p hp)

theorem PreviewTerms.onward {requestId : String} {t : OrderTerms} {candidateId : ℕ}
    (h : PreviewTerms w requestId t candidateId) (hw : w.Onward w') :
    PreviewTerms w' requestId t candidateId where
  canonical := h.canonical
  exchange := by
    rw [hw.exitTerms]
    exact h.exchange
  market := by
    rw [hw.exitTerms]
    exact h.market
  aggregate := by
    intro id hid
    obtain ⟨p, hp, hin⟩ := h.aggregate id hid
    exact ⟨p, hp, hw.positions _ p hin⟩

/-- **Writes keep the sells traced**, if the rows they resolve are of no order that may be open. -/
theorem SellWorld.Traced.kept (h : w.Traced) (hkept : Kept written added w.db w'.db)
    (hexit : w'.exitTerms = w.exitTerms) (hsells : w'.sells = w.sells)
    (hadded : ∀ requestId t candidateId, added requestId t →
      t.exitCandidateId = some candidateId → PreviewTerms w' requestId t candidateId)
    (hwritten : ∀ requestId, written requestId →
      Unresolved w'.db requestId ∨ ¬ w.MayBeOpen requestId) : w'.Traced where
  own := hkept.own
  previews := by
    intro requestId t candidateId ht hcandidate
    rcases hkept.origin requestId t ht with hold | hnew
    · exact (h.previews requestId t candidateId hold hcandidate).onward (hkept.onward hexit hsells)
    · exact hadded requestId t candidateId hnew hcandidate
  sells := by
    intro s hs
    rw [hsells] at hs
    exact (h.sells s hs).kept hkept
  unresolved := by
    intro s hs hphase hanswered
    rw [hsells] at hs
    by_cases hrow : written s.requestId
    · rcases hwritten s.requestId hrow with hun | hclosed
      · exact hun
      · exact absurd ⟨s, hs, rfl, hphase⟩ hclosed
    · obtain ⟨status, hstatus, hun⟩ := h.unresolved s hs hphase hanswered
      exact ⟨status, hkept.status _ _ (h.sells s hs).canonical hrow hstatus, hun⟩

theorem SellWorld.Traced.quiet (h : w.Traced) {db : Database} (hquiet : QuietWrites w.db db) :
    SellWorld.Traced { w with db := db } ∧ w.Onward { w with db := db } := by
  have hkept : Kept (fun _ => False) (fun _ _ => False) w.db db := kept_quiet h.own hquiet
  exact ⟨h.kept hkept rfl rfl (fun _ _ _ hnew => hnew.elim) (fun _ hrow => hrow.elim),
    hkept.onward rfl rfl⟩

theorem SellWorld.Traced.row (h : w.Traced) {db : Database} {requestId : String}
    (hkept : Kept (· = requestId) (fun _ _ => False) w.db db)
    (hrow : Unresolved db requestId ∨ ¬ w.MayBeOpen requestId) :
    SellWorld.Traced { w with db := db } ∧ w.Onward { w with db := db } :=
  ⟨h.kept hkept rfl rfl (fun _ _ _ hnew => hnew.elim) (fun _ hsame => hsame ▸ hrow),
    hkept.onward rfl rfl⟩

theorem sends_modify {f : Sell → Sell} (hf : ∀ s, (f s).requestId = s.requestId) (i : ℕ)
    {sell : ℕ} {requestId : String} (h : w.Sends sell requestId) :
    SellWorld.Sends { w with sells := w.sells.modify i f } sell requestId := by
  obtain ⟨s, hs, hrequest⟩ := h
  by_cases hi : i = sell
  · subst hi
    exact ⟨f s, by rw [List.getElem?_modify_eq, hs]; rfl, (hf s).trans hrequest⟩
  · exact ⟨s, by rw [List.getElem?_modify_ne _ _ hi]; exact hs, hrequest⟩

theorem mem_modify {α : Type*} {f : α → α} {l : List α} {i : ℕ} {x : α} (h : x ∈ l.modify i f) :
    x ∈ l ∨ ∃ y, l[i]? = some y ∧ x = f y := by
  obtain ⟨k, hk⟩ := List.mem_iff_getElem?.mp h
  by_cases hi : i = k
  · subst hi
    rw [List.getElem?_modify_eq] at hk
    obtain ⟨y, hy, hx⟩ := Option.map_eq_some_iff.mp hk
    exact .inr ⟨y, hy, hx.symm⟩
  · rw [List.getElem?_modify_ne _ _ hi] at hk
    exact .inl (List.mem_of_getElem? hk)

/-- **A call is answered** whose row is unresolved by then. -/
theorem SellWorld.Traced.answer (h : w.Traced) {i : ℕ} {requestId : String}
    (hsends : w.Sends i requestId)
    (hrow : Unresolved w.db requestId ∨ ¬ w.MayBeOpen requestId) :
    (w.answer i).Traced ∧ w.Onward (w.answer i) := by
  obtain ⟨sent, hsent, hrequest⟩ := hsends
  have hsame : ∀ sell requestId, w.Sends sell requestId → (w.answer i).Sends sell requestId :=
    fun _ _ hs => sends_modify (f := fun s => { s with answered := true }) (fun _ => rfl) i hs
  refine ⟨⟨h.own, ?_, ?_, ?_⟩, ⟨rfl, fun _ _ ht => ht, fun _ _ hp => hp, hsame⟩⟩
  · intro r t c ht hc
    obtain ⟨hcanonical, hexchange, hmarket, haggregate⟩ := h.previews r t c ht hc
    exact ⟨hcanonical, hexchange, hmarket, haggregate⟩
  · intro s hs
    rcases mem_modify hs with hold | ⟨y, hy, rfl⟩
    · exact h.sells s hold
    · obtain ⟨hcanonical, hterms, hpositions⟩ := h.sells y (List.mem_of_getElem? hy)
      exact ⟨hcanonical, hterms, hpositions⟩
  · intro s hs hphase hanswered
    rcases mem_modify hs with hold | ⟨y, hy, rfl⟩
    · exact h.unresolved s hold hphase hanswered
    · rw [hsent] at hy
      obtain rfl := Option.some.inj hy
      show Unresolved w.db sent.requestId
      rw [hrequest]
      rcases hrow with hun | hclosed
      · exact hun
      · exact absurd ⟨sent, List.mem_of_getElem? hsent, hrequest, hphase⟩ hclosed

theorem SellWorld.Traced.move (h : w.Traced) (event : SellMove) :
    (w.move event).Traced ∧ w.Onward (w.move event) := by
  have hmodify : ∀ (f : Sell → Sell) (i : ℕ),
      (∀ s, ∃ phase, f s = { s with phase := phase } ∧ (phase ≠ .closed → s.phase ≠ .closed)) →
      SellWorld.Traced { w with sells := w.sells.modify i f }
        ∧ w.Onward { w with sells := w.sells.modify i f } := by
    intro f i hf
    have hrequest : ∀ s, (f s).requestId = s.requestId := by
      intro s
      obtain ⟨phase, hs, -⟩ := hf s
      rw [hs]
    refine ⟨⟨h.own, ?_, ?_, ?_⟩, ⟨rfl, fun _ _ ht => ht, fun _ _ hp => hp,
      fun _ _ => sends_modify hrequest i⟩⟩
    · intro r t c ht hc
      obtain ⟨hcanonical, hexchange, hmarket, haggregate⟩ := h.previews r t c ht hc
      exact ⟨hcanonical, hexchange, hmarket, haggregate⟩
    · intro s hs
      rcases mem_modify hs with hold | ⟨y, hy, rfl⟩
      · exact h.sells s hold
      · obtain ⟨phase, hphase, -⟩ := hf y
        obtain ⟨hcanonical, hterms, hpositions⟩ := h.sells y (List.mem_of_getElem? hy)
        rw [hphase]
        exact ⟨hcanonical, hterms, hpositions⟩
    · intro s hs hclosed hanswered
      rcases mem_modify hs with hold | ⟨y, hy, rfl⟩
      · exact h.unresolved s hold hclosed hanswered
      · obtain ⟨phase, hphase, hback⟩ := hf y
        rw [hphase] at hclosed hanswered ⊢
        exact h.unresolved y (List.mem_of_getElem? hy) (hback hclosed) hanswered
  cases event with
  | opens i =>
    refine hmodify _ i (fun s => ?_)
    by_cases hsent : s.phase = .sent
    · refine ⟨.opened, if_pos hsent, fun _ => ?_⟩
      rw [hsent]
      exact fun hno => by cases hno
    · exact ⟨s.phase, if_neg hsent, fun hphase => hphase⟩
  | closes i => exact hmodify _ i (fun s => ⟨.closed, rfl, fun hno => absurd rfl hno⟩)

theorem SellWorld.Traced.send (h : w.Traced) {sell : Sell} (hsell : sell.Traced w.db)
    (hanswered : sell.answered = false) :
    SellWorld.Traced { w with sells := w.sells ++ [sell] }
      ∧ w.Onward { w with sells := w.sells ++ [sell] } := by
  refine ⟨⟨h.own, ?_, ?_, ?_⟩, ⟨rfl, fun _ _ ht => ht, fun _ _ hp => hp, ?_⟩⟩
  · intro r t c ht hc
    obtain ⟨hcanonical, hexchange, hmarket, haggregate⟩ := h.previews r t c ht hc
    exact ⟨hcanonical, hexchange, hmarket, haggregate⟩
  · intro s hs
    rcases List.mem_append.mp hs with hold | hnew
    · exact h.sells s hold
    · exact List.mem_singleton.mp hnew ▸ hsell
  · intro s hs hphase hyes
    rcases List.mem_append.mp hs with hold | hnew
    · exact h.unresolved s hold hphase hyes
    · rw [List.mem_singleton.mp hnew, hanswered] at hyes
      cases hyes
  · rintro i requestId ⟨s, hs, hrequest⟩
    have hi : i < w.sells.length := (List.getElem?_eq_some_iff.mp hs).1
    exact ⟨s, by rw [List.getElem?_append_left hi]; exact hs, hrequest⟩

end Traced

end AutoCoinBot
