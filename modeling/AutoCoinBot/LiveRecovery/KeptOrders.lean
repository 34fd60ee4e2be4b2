/-
  LiveRecovery.KeptOrders — what the orders on record keep while other orders are
  written.

  Syncs and reconciliations write positions, and attach them to orders; to the row of no order do
  they give a status or a uuid.
-/
import AutoCoinBot.LiveRecovery.ClosedPositions
import AutoCoinBot.LiveRecovery.OrderCalls

namespace AutoCoinBot

open Library

/-! ## What an order keeps -/

/-- The columns of an order that no update writes. -/
structure OrderTerms where
  exchange : String
  market : String
  exitCandidateId : Option ℕ
  aggregateExitPositionIds : List (Option ℕ)

def LiveOrderLog.terms (log : LiveOrderLog) : OrderTerms where
  exchange := log.exchange
  market := log.market
  exitCandidateId := log.exitCandidateId
  aggregateExitPositionIds := log.orderPreviewPayload.aggregateExitPositionIds

def termsOf (db : Database) (requestId : String) : Option OrderTerms :=
  (getLiveOrderLog db requestId).map LiveOrderLog.terms

def statusOf (db : Database) (requestId : String) : Option OrderStatus :=
  (getLiveOrderLog db requestId).map LiveOrderLog.status

def orderUuids (db : Database) : List (String × Option String) :=
  db.liveOrderLogs.rows.map (fun r => (r.requestId, r.orderUuid))

def OwnUuids (db : Database) : Prop :=
  ∀ a ∈ orderUuids db, ∀ b ∈ orderUuids db,
    liveOrderEventRequestIdFilter a.1 = false → liveOrderEventRequestIdFilter b.1 = false →
    a.2 = b.2 → toText a.2 ≠ "" → a.1 = b.1

def PositionIn (db : Database) (market : String) (positionId : ℕ) : Prop :=
  ∃ p, loadLivePosition db positionId = some p ∧ p.market = market

/-- What writes keep of the orders and the positions, if they write the status of no order but
`written`, and add no row but `added`. -/
structure Kept (written : String → Prop) (added : String → OrderTerms → Prop)
    (db db' : Database) : Prop where
  own : OwnUuids db'
  terms : ∀ requestId t, termsOf db requestId = some t → termsOf db' requestId = some t
  origin : ∀ requestId t, termsOf db' requestId = some t →
    termsOf db requestId = some t ∨ added requestId t
  status : ∀ requestId status, liveOrderEventRequestIdFilter requestId = false →
    ¬ written requestId → statusOf db requestId = some status → statusOf db' requestId = some status
  positions : ∀ market positionId, PositionIn db market positionId →
    PositionIn db' market positionId

theorem Kept.trans {written : String → Prop} {added : String → OrderTerms → Prop}
    {db mid db' : Database} (h : Kept written added db mid) (h' : Kept written added mid db') :
    Kept written added db db' where
  own := h'.own
  terms := fun requestId t ht => h'.terms requestId t (h.terms requestId t ht)
  origin := by
    intro requestId t ht
    rcases h'.origin requestId t ht with hmid | hadded
    · exact h.origin requestId t hmid
    · exact .inr hadded
  status := fun requestId status hcanonical hwritten hstatus =>
    h'.status requestId status hcanonical hwritten
      (h.status requestId status hcanonical hwritten hstatus)
  positions := fun market positionId hin =>
    h'.positions market positionId (h.positions market positionId hin)

section Uuids

variable {db : Database} {requestId : String} {log : LiveOrderLog}

theorem mem_orderUuids {r : LiveOrderLog} (hr : r ∈ db.liveOrderLogs.rows) :
    (r.requestId, r.orderUuid) ∈ orderUuids db := List.mem_map_of_mem hr

theorem OwnUuids.ownedElsewhere_eq (hown : OwnUuids db)
    (hcanonical : liveOrderEventRequestIdFilter requestId = false)
    (hlog : getLiveOrderLog db requestId = some log) :
    ownedElsewhere db requestId (toText log.orderUuid) = false := by
  by_cases hempty : toText log.orderUuid = ""
  · rw [hempty]
    exact ownedElsewhere_empty
  · unfold ownedElsewhere
    rw [findCanonicalLiveOrderByUuid_isSome, Bool.and_eq_false_iff]
    right
    rw [Bool.and_eq_false_iff, List.any_eq_false]
    right
    intro q hq hfound
    simp only [Bool.and_eq_true, beq_iff_eq, bne_iff_ne, Bool.not_eq_true'] at hfound
    obtain ⟨⟨huuid, hne⟩, hq_canonical⟩ := hfound
    have hrow : log.requestId = requestId := getLiveOrderLog_requestId db requestId hlog
    have hsame : q.orderUuid = log.orderUuid := by
      cases hx : log.orderUuid with
      | none =>
        rw [hx] at hempty
        exact absurd rfl hempty
      | some x =>
        rw [huuid, hx]
        rfl
    have hq_text : toText q.orderUuid ≠ "" := by
      rw [hsame]
      exact hempty
    exact hne ((hown _ (mem_orderUuids hq) _ (mem_orderUuids (List.mem_of_find?_eq_some hlog))
      hq_canonical (hrow ▸ hcanonical) hsame hq_text).trans hrow)

end Uuids

/-! ## Updates of an order -/

section Update

variable {db : Database} {requestId : String} {u : LiveOrderLogUpdates}

theorem termsOf_updateLiveOrderLog (u : LiveOrderLogUpdates) (now : UtcTime) (other : String) :
    termsOf (updateLiveOrderLog db requestId u now) other = termsOf db other := by
  unfold termsOf
  by_cases hother : other = requestId
  · rw [hother]
    cases hlog : getLiveOrderLog db requestId with
    | none =>
      unfold updateLiveOrderLog
      rw [hlog]
      dsimp only
      rw [hlog]
    | some log =>
      rw [getLiveOrderLog_update_self db requestId u now hlog, Option.map_some, Option.map_some]
      unfold LiveOrderLog.terms LiveOrderLog.overwrite
      rw [mergedLiveOrderLog_exitCandidateId]
  · rw [getLiveOrderLog_update_ne db requestId u now hother]

/-- The uuid that an update brings is no other order's. -/
def FreshUuid (db : Database) (requestId : String) (u : LiveOrderLogUpdates) : Prop :=
  ∀ uuid, u.orderUuid = some uuid → ownedElsewhere db requestId (toText uuid) = false

theorem freshUuid_of_none (hu : u.orderUuid = none) : FreshUuid db requestId u := by
  intro uuid huuid
  rw [hu] at huuid
  cases huuid

theorem orderUuids_updateLiveOrderLog (now : UtcTime) {a : String × Option String}
    (ha : a ∈ orderUuids (updateLiveOrderLog db requestId u now)) :
    a ∈ orderUuids db
      ∨ a.1 = requestId ∧ ∃ uuid, u.orderUuid = some uuid ∧ a.2 = uuid := by
  cases hlog : getLiveOrderLog db requestId with
  | none =>
    have hsame : updateLiveOrderLog db requestId u now = db := by
      unfold updateLiveOrderLog
      rw [hlog]
    exact .inl (hsame ▸ ha)
  | some log =>
    unfold orderUuids at ha
    rw [rows_updateLiveOrderLog u now hlog, List.map_map] at ha
    obtain ⟨r, hr, hra⟩ := List.mem_map.mp ha
    rw [Function.comp_apply] at hra
    split_ifs at hra with hid
    · -- the row that was read
      have hsame : r = log := db.requestId_unique.eq_of_key hr (List.mem_of_find?_eq_some hlog)
        ((beq_iff_eq.mp hid).trans (getLiveOrderLog_requestId db _ hlog).symm)
      have hrequest : r.requestId = requestId := beq_iff_eq.mp hid
      have huuid : a.2 = (mergedLiveOrderLog db requestId log u now).orderUuid := by
        rw [← hra]
        rfl
      have hkey : a.1 = requestId := by
        rw [← hra]
        exact hrequest
      have hold : (mergedLiveOrderLog db requestId log u now).orderUuid = log.orderUuid →
          a ∈ orderUuids db := by
        intro hkept
        have heq : a = (r.requestId, r.orderUuid) := by
          refine Prod.ext ?_ ?_
          · rw [hkey, hrequest]
          · rw [huuid, hkept, hsame]
        exact heq ▸ mem_orderUuids hr
      rcases mergedLiveOrderLog_orderUuid db requestId log u now with hnew | hkept
      · cases hu : u.orderUuid with
        | none =>
          rw [hu, Option.getD_none] at hnew
          exact .inl (hold hnew)
        | some uuid =>
          rw [hu, Option.getD_some] at hnew
          exact .inr ⟨hkey, uuid, rfl, huuid.trans hnew⟩
      · exact .inl (hold hkept)
    · exact .inl (hra ▸ mem_orderUuids hr)

theorem FreshUuid.request_eq (hfresh : FreshUuid db requestId u) {uuid : Option String}
    (hu : u.orderUuid = some uuid)
    (hrequest_canonical : liveOrderEventRequestIdFilter requestId = false)
    {b : String × Option String} (hb : b ∈ orderUuids db)
    (hcanonical : liveOrderEventRequestIdFilter b.1 = false) (hsame : b.2 = uuid)
    (hne : toText uuid ≠ "") : b.1 = requestId := by
  obtain ⟨r, hr, hrb⟩ := List.mem_map.mp hb
  by_contra hother
  have hnot := hfresh uuid hu
  unfold ownedElsewhere at hnot
  rw [not_statusEvent_of_canonical hrequest_canonical, findCanonicalLiveOrderByUuid_isSome] at hnot
  simp only [Bool.not_false, Bool.true_and, Bool.and_eq_false_iff, Bool.not_eq_false',
    beq_iff_eq, List.any_eq_false] at hnot
  rcases hnot with hempty | hnone
  · exact hne hempty
  · refine hnone r hr ?_
    have hrequest : r.requestId = b.1 := congrArg Prod.fst hrb
    have huuid : r.orderUuid = uuid := (congrArg Prod.snd hrb).trans hsame
    have hsome : uuid = some (toText uuid) := by
      cases uuid with
      | none => exact absurd rfl hne
      | some x => rfl
    simp only [Bool.and_eq_true, beq_iff_eq, bne_iff_ne, Bool.not_eq_true']
    exact ⟨⟨huuid.trans hsome, hrequest ▸ hother⟩, hrequest ▸ hcanonical⟩

/-- **The uuids stay distinct** if the one that comes is new. -/
theorem OwnUuids.update (hown : OwnUuids db) (now : UtcTime)
    (hcanonical : liveOrderEventRequestIdFilter requestId = false)
    (hfresh : FreshUuid db requestId u) : OwnUuids (updateLiveOrderLog db requestId u now) := by
  intro a ha b hb hac hbc hsame hne
  rcases orderUuids_updateLiveOrderLog now ha with hold | ⟨hrequest, uuid, hu, huuid⟩
  · rcases orderUuids_updateLiveOrderLog now hb with hold' | ⟨hrequest', uuid', hu', huuid'⟩
    · exact hown a hold b hold' hac hbc hsame hne
    · have hauuid : a.2 = uuid' := hsame.trans huuid'
      rw [hrequest']
      exact hfresh.request_eq hu' hcanonical hold hac hauuid (hauuid ▸ hne)
  · rcases orderUuids_updateLiveOrderLog now hb with hold' | ⟨hrequest', -⟩
    · rw [hrequest]
      exact (hfresh.request_eq hu hcanonical hold' hbc (hsame.symm.trans huuid) (huuid ▸ hne)).symm
    · rw [hrequest, hrequest']

theorem ownUuids_of_shows {db' : Database} {owned : String → Bool} {v : OrderView}
    (hown : OwnUuids db) (hcanonical : liveOrderEventRequestIdFilter requestId = false)
    (hv : Shows requestId owned v db')
    (hothers : ∀ a ∈ orderUuids db', a.1 ≠ requestId → a ∈ orderUuids db) : OwnUuids db' := by
  obtain ⟨⟨log, hlog, -, huuid⟩, howned, hfree⟩ := hv
  -- another order does not have the uuid of the row
  have hself : ∀ a ∈ orderUuids db', ∀ b ∈ orderUuids db', a.1 = requestId →
      liveOrderEventRequestIdFilter b.1 = false → a.2 = b.2 → toText a.2 ≠ "" →
      b.1 = requestId := by
    intro a ha b hb hrequest hbc hsame hne
    obtain ⟨r, hr, rfl⟩ := List.mem_map.mp ha
    have hrow : r = log := db'.requestId_unique.eq_of_key hr (List.mem_of_find?_eq_some hlog)
      (hrequest.trans (getLiveOrderLog_requestId db' requestId hlog).symm)
    have hfresh : FreshUuid db' requestId { orderUuid := some log.orderUuid } := by
      intro uuid hu
      rw [← Option.some.inj hu, howned, huuid]
      exact hfree
    refine hfresh.request_eq rfl hcanonical hb hbc ?_ ?_
    · rw [← hrow]
      exact hsame.symm
    · rw [← hrow]
      exact hne
  intro a ha b hb hac hbc hsame hne
  by_cases harow : a.1 = requestId
  · rw [harow, hself a ha b hb harow hbc hsame hne]
  · by_cases hbrow : b.1 = requestId
    · exact absurd (hself b hb a ha hbrow hac hsame.symm (hsame ▸ hne)) harow
    · exact hown a (hothers a ha harow) b (hothers b hb hbrow) hac hbc hsame hne

/-- **What an update makes of its own row.** -/
theorem statusOf_updateLiveOrderLog (hown : OwnUuids db) (now : UtcTime)
    (hcanonical : liveOrderEventRequestIdFilter requestId = false)
    (hfresh : FreshUuid db requestId u) {status : OrderStatus}
    (hstatus : statusOf db requestId = some status) :
    statusOf (updateLiveOrderLog db requestId u now) requestId
      = some (u.status.getD status) := by
  obtain ⟨log, hlog, rfl⟩ := Option.map_eq_some_iff.mp hstatus
  have hnone : ownedElsewhere db requestId (toText (log.merge u).orderUuid) = false := by
    show ownedElsewhere db requestId (toText (u.orderUuid.getD log.orderUuid)) = false
    cases hu : u.orderUuid with
    | none => exact hown.ownedElsewhere_eq hcanonical hlog
    | some uuid => exact hfresh uuid hu
  unfold statusOf
  rw [getLiveOrderLog_update_self db requestId u now hlog, Option.map_some]
  show some (mergedLiveOrderLog db requestId log u now).status = _
  rw [mergedLiveOrderLog_status, duplicateOrderOwner_isSome, hnone, if_neg Bool.false_ne_true]

/-- **What an update keeps.** -/
theorem kept_updateLiveOrderLog {written : String → Prop} {added : String → OrderTerms → Prop}
    (hown : OwnUuids db) (now : UtcTime)
    (hcanonical : liveOrderEventRequestIdFilter requestId = false)
    (hfresh : FreshUuid db requestId u) (hwritten : written requestId) :
    Kept written added db (updateLiveOrderLog db requestId u now) where
  own := hown.update now hcanonical hfresh
  terms := fun other _ ht => (termsOf_updateLiveOrderLog u now other).trans ht
  origin := fun other _ ht => .inl ((termsOf_updateLiveOrderLog u now other).symm.trans ht)
  status := by
    intro other status _ hother hstatus
    have hne : other ≠ requestId := fun hsame => hother (hsame ▸ hwritten)
    rw [← hstatus]
    unfold statusOf
    rw [getLiveOrderLog_update_ne db requestId u now hne]
  positions := by
    rintro market positionId ⟨p, hp, hmarket⟩
    exact ⟨p, (loadLivePosition_congr (updateLiveOrderLog_livePositions db requestId u now)
      positionId).trans hp, hmarket⟩

end Update

/-! A new order. -/

section Inserted

variable {db db' : Database} {log : LiveOrderLog} {now : UtcTime}

theorem termsOf_insertOrderRow (h : insertOrderRow db log now = some db') (requestId : String) :
    termsOf db' requestId
      = if requestId = log.requestId then some log.terms else termsOf db requestId := by
  unfold termsOf
  rw [getLiveOrderLog_insertOrderRow h]
  split
  · rfl
  · rfl

theorem termsOf_of_insertOrderRow (h : insertOrderRow db log now = some db') :
    termsOf db log.requestId = none :=
  Option.map_eq_none_iff.mpr (getLiveOrderLog_of_insertOrderRow h)

theorem termsOf_insertOrderRow_of_some (h : insertOrderRow db log now = some db')
    {requestId : String} {t : OrderTerms} (ht : termsOf db requestId = some t) :
    termsOf db' requestId = some t := by
  rw [termsOf_insertOrderRow h, if_neg]
  · exact ht
  · rintro rfl
    rw [termsOf_of_insertOrderRow h] at ht
    cases ht

theorem statusOf_insertOrderRow (h : insertOrderRow db log now = some db') {requestId : String}
    {status : OrderStatus} (hstatus : statusOf db requestId = some status) :
    statusOf db' requestId = some status := by
  rw [← hstatus]
  unfold statusOf at hstatus ⊢
  rw [getLiveOrderLog_insertOrderRow h, if_neg]
  rintro rfl
  rw [getLiveOrderLog_of_insertOrderRow h] at hstatus
  cases hstatus

/-- **What a new order keeps**, that has no uuid yet. -/
theorem kept_insertOrderRow {written : String → Prop} {added : String → OrderTerms → Prop}
    (hown : OwnUuids db) (h : insertOrderRow db log now = some db') (huuid : log.orderUuid = none)
    (hadded : added log.requestId log.terms) : Kept written added db db' where
  own := by
    have huuids : ∀ a ∈ orderUuids db', a ∈ orderUuids db ∨ a.2 = none := by
      intro a ha
      unfold orderUuids at ha
      rw [rows_insertOrderRow h, List.map_append, List.mem_append] at ha
      rcases ha with hold | hnew
      · exact .inl hold
      · right
        rw [List.mem_map] at hnew
        obtain ⟨r, hr, rfl⟩ := hnew
        rw [List.mem_singleton.mp hr]
        exact huuid
    intro a ha b hb hac hbc hsame hne
    rcases huuids a ha with hold | hnone
    · rcases huuids b hb with hold' | hnone'
      · exact hown a hold b hold' hac hbc hsame hne
      · rw [hsame, hnone'] at hne
        exact absurd rfl hne
    · rw [hnone] at hne
      exact absurd rfl hne
  terms := fun _ _ ht => termsOf_insertOrderRow_of_some h ht
  origin := by
    intro requestId t ht
    rw [termsOf_insertOrderRow h] at ht
    split at ht
    · rename_i hnew
      rw [hnew, ← Option.some.inj ht]
      exact .inr hadded
    · exact .inl ht
  status := fun _ _ _ _ hstatus => statusOf_insertOrderRow h hstatus
  positions := by
    rintro market positionId ⟨p, hp, hmarket⟩
    exact ⟨p, (loadLivePosition_congr (insertOrderRow_livePositions h) positionId).trans hp,
      hmarket⟩

end Inserted

/-! ## Quiet writes -/

/-- Writes that give no order a status or a uuid. -/
inductive QuietWrites (db : Database) : Database → Prop
  | none : QuietWrites db db
  | elsewhere {mid db' : Database} : QuietWrites db mid →
      db'.liveOrderLogs = mid.liveOrderLogs → db'.livePositions = mid.livePositions →
      QuietWrites db db'
  | updateLiveOrderLog {mid : Database} (requestId : String) {u : LiveOrderLogUpdates}
      (now : UtcTime) : QuietWrites db mid → u.orderUuid = .none → u.status = .none →
      QuietWrites db (updateLiveOrderLog mid requestId u now)
  | updateLivePosition {mid : Database} (positionId : ℕ) (u : LivePositionUpdates)
      (now : UtcTime) : QuietWrites db mid →
      QuietWrites db (updateLivePosition mid positionId u now)
  | createLivePosition {mid : Database} (position : ℕ → LivePosition)
      (hid : ∀ k, (position k).id = k) : QuietWrites db mid →
      QuietWrites db (createLivePosition mid position hid)

section Quiet

variable {db mid db' : Database}

theorem QuietWrites.trans (h : QuietWrites db mid) (h' : QuietWrites mid db') :
    QuietWrites db db' := by
  induction h' with
  | none => exact h
  | elsewhere _ hlogs hpositions ih => exact ih.elsewhere hlogs hpositions
  | updateLiveOrderLog requestId now _ huuid hstatus ih =>
    exact ih.updateLiveOrderLog requestId now huuid hstatus
  | updateLivePosition positionId u now _ ih => exact ih.updateLivePosition positionId u now
  | createLivePosition position hid _ ih => exact ih.createLivePosition position hid

theorem orderUuids_quiet (h : QuietWrites db db') : ∀ a ∈ orderUuids db', a ∈ orderUuids db := by
  induction h with
  | none => exact fun a ha => ha
  | elsewhere _ hlogs _ ih =>
    intro a ha
    refine ih a ?_
    unfold orderUuids at ha ⊢
    rwa [hlogs] at ha
  | updateLiveOrderLog requestId now _ huuid _ ih =>
    intro a ha
    rcases orderUuids_updateLiveOrderLog now ha with hold | ⟨-, uuid, hu, -⟩
    · exact ih a hold
    · rw [huuid] at hu
      cases hu
  | updateLivePosition _ _ _ _ ih => exact ih
  | createLivePosition _ _ _ ih => exact ih

theorem OwnUuids.quiet (hown : OwnUuids db) (h : QuietWrites db db') : OwnUuids db' :=
  fun a ha b hb => hown a (orderUuids_quiet h a ha) b (orderUuids_quiet h b hb)

theorem statusOf_quiet (hown : OwnUuids db) (h : QuietWrites db db') {requestId : String}
    (hcanonical : liveOrderEventRequestIdFilter requestId = false) :
    statusOf db' requestId = statusOf db requestId := by
  induction h with
  | none => rfl
  | elsewhere _ hlogs _ ih =>
    refine Eq.trans ?_ ih
    unfold statusOf
    rw [getLiveOrderLog_congr hlogs]
  | @updateLiveOrderLog mid other u now hmid huuid hstatus ih =>
    rw [← ih]
    by_cases hother : requestId = other
    · subst hother
      cases hrow : statusOf mid requestId with
      | none =>
        have hnone : getLiveOrderLog mid requestId = none := Option.map_eq_none_iff.mp hrow
        unfold AutoCoinBot.updateLiveOrderLog
        rw [hnone]
        exact hrow
      | some status =>
        rw [statusOf_updateLiveOrderLog (hown.quiet hmid) now hcanonical
          (freshUuid_of_none huuid) hrow, hstatus, Option.getD_none]
    · unfold statusOf
      rw [getLiveOrderLog_update_ne mid other u now hother]
  | updateLivePosition _ _ _ _ ih => exact ih
  | createLivePosition _ _ _ ih => exact ih

theorem termsOf_quiet (h : QuietWrites db db') (requestId : String) :
    termsOf db' requestId = termsOf db requestId := by
  induction h with
  | none => rfl
  | elsewhere _ hlogs _ ih =>
    refine Eq.trans ?_ ih
    unfold termsOf
    rw [getLiveOrderLog_congr hlogs]
  | updateLiveOrderLog other now _ _ _ ih => exact (termsOf_updateLiveOrderLog _ now _).trans ih
  | updateLivePosition _ _ _ _ ih => exact ih
  | createLivePosition _ _ _ ih => exact ih

theorem positionIn_quiet (h : QuietWrites db db') {market : String} {positionId : ℕ}
    (hin : PositionIn db market positionId) : PositionIn db' market positionId := by
  induction h with
  | none => exact hin
  | elsewhere _ _ hpositions ih =>
    obtain ⟨p, hp, hmarket⟩ := ih
    exact ⟨p, (loadLivePosition_congr hpositions positionId).trans hp, hmarket⟩
  | updateLiveOrderLog other now _ _ _ ih =>
    obtain ⟨p, hp, hmarket⟩ := ih
    exact ⟨p, (loadLivePosition_congr (updateLiveOrderLog_livePositions _ _ _ _)
      positionId).trans hp, hmarket⟩
  | updateLivePosition other u now _ ih =>
    obtain ⟨p, hp, hmarket⟩ := ih
    refine ⟨_, (loadLivePosition_update _ other u now positionId).trans
      (congrArg _ hp), ?_⟩
    split
    · exact hmarket
    · exact hmarket
  | createLivePosition position hid _ ih =>
    obtain ⟨p, hp, hmarket⟩ := ih
    exact ⟨p, (Table.get?_insert_of_ne _ position hid
      (Nat.ne_of_lt (Table.get?_lt_nextId hp))).trans hp, hmarket⟩

/-- **What quiet writes keep.** -/
theorem kept_quiet {written : String → Prop} {added : String → OrderTerms → Prop}
    (hown : OwnUuids db) (h : QuietWrites db db') : Kept written added db db' where
  own := hown.quiet h
  terms := fun requestId _ ht => (termsOf_quiet h requestId).trans ht
  origin := fun requestId _ ht => .inl ((termsOf_quiet h requestId).symm.trans ht)
  status := fun _ _ hcanonical _ hstatus => (statusOf_quiet hown h hcanonical).trans hstatus
  positions := fun _ _ hin => positionIn_quiet h hin

end Quiet

/-! ## Which writes are quiet -/

section Syncs

variable (db : Database)

theorem quietWrites_apply (now : UtcTime) (w : SyncWrite) : QuietWrites db (w.apply now db) := by
  cases w with
  | createLivePosition p =>
    exact QuietWrites.none.createLivePosition (fun k => p.stored k now) (fun _ => rfl)
  | insertPositionFillEvent e => exact QuietWrites.none.elsewhere rfl rfl
  | updatePositionFillEvent i u => exact QuietWrites.none.elsewhere rfl rfl
  | upsertOrderApplicationLedger l => exact QuietWrites.none.elsewhere rfl rfl
  | updateLivePosition i u => exact QuietWrites.none.updateLivePosition i u now
  | attachLog r i => exact QuietWrites.none.updateLiveOrderLog r now rfl rfl
  | updateLiveStrategySession i u => exact QuietWrites.none.elsewhere rfl rfl
  | finalizeEntryLifecycle i =>
    exact QuietWrites.none.elsewhere (liveOrderLogs_apply_of_not_attachesLog now db rfl)
      (finalizeEntryLifecycleForPosition_livePositions ..)

theorem quietWrites_applyWrites (now : UtcTime) (ws : List SyncWrite) :
    QuietWrites db (applyWrites now db ws) := by
  induction ws generalizing db with
  | nil => exact .none
  | cons w ws ih =>
    rw [applyWrites_cons]
    exact (quietWrites_apply db now w).trans (ih _)

theorem quietWrites_ensureFilledEntryOrderPosition (env : SyncEnv) (log : LiveOrderLog)
    (source : String) : QuietWrites db (ensureFilledEntryOrderPosition env db log source) := by
  unfold ensureFilledEntryOrderPosition
  split
  · exact .none
  · rename_i call _
    have hsynced : QuietWrites db (syncFilledEntryOrderToPosition env db call).1 :=
      quietWrites_applyWrites db env.now _
    dsimp only
    split
    · exact hsynced.elsewhere (adoptPositionInRelevantSession_liveOrderLogs _ _ _ _)
        (adoptPositionInRelevantSession_livePositions _ _ _)
    · unfold recoverPosition
      dsimp only
      split
      · exact hsynced
      · exact ((hsynced.createLivePosition _ _).updateLiveOrderLog log.requestId env.now rfl
          rfl).elsewhere (adoptPositionInRelevantSession_liveOrderLogs _ _ _ _)
          (adoptPositionInRelevantSession_livePositions _ _ _)

theorem quietWrites_ensureFilledEntryOrderPositions (env : SyncEnv) (exchange market : String) :
    QuietWrites db (ensureFilledEntryOrderPositions env db exchange market) := by
  unfold ensureFilledEntryOrderPositions
  generalize loadFilledEntryOrderLogsWithoutPosition db exchange market = logs
  induction logs generalizing db with
  | nil => exact .none
  | cons log logs ih =>
    rw [List.foldl_cons]
    exact (quietWrites_ensureFilledEntryOrderPosition db env log _).trans (ih _)

/-- **Reconciling balances writes quietly.** -/
theorem quietWrites_reconcileBalances (env : SyncEnv) (exchange market : String)
    (balances : Option Balances) :
    QuietWrites db (reconcileBalances env db exchange market balances).1 := by
  cases balances with
  | none => exact .none
  | some read => exact quietWrites_ensureFilledEntryOrderPositions db env exchange market

theorem quietWrites_applyExitFill (position : LivePosition) (fill : ExitFill)
    (orderUuid : Option String) (stillWaiting : Bool) (now : UtcTime) :
    QuietWrites db (applyExitFill db position fill orderUuid stillWaiting now) :=
  (QuietWrites.none.updateLivePosition position.id
      (exitUpdates position fill orderUuid stillWaiting now) now).elsewhere
    (applyExitFill_liveOrderLogs _ _ _ _ _ _) (applyExitFill_livePositions _ _ _ _ _ _)

theorem quietWrites_foldl_updateLivePosition (positionIds : List ℕ) (u : LivePositionUpdates)
    (now : UtcTime) :
    QuietWrites db (positionIds.foldl
      (fun db positionId => updateLivePosition db positionId u now) db) := by
  induction positionIds generalizing db with
  | nil => exact .none
  | cons i ids ih =>
    rw [List.foldl_cons]
    exact (QuietWrites.none.updateLivePosition i u now).trans (ih _)

theorem quietWrites_aggregateExitLoop (fill : ExitFill) (orderUuid : Option String)
    (stillWaiting : Bool) (now : UtcTime) (positionIds : List ℕ) (s : AggregateExit) :
    QuietWrites s.db
      (positionIds.foldl (syncAggregateExitPosition fill orderUuid stillWaiting now) s).db := by
  have hround : ∀ (s : AggregateExit) (positionId : ℕ), QuietWrites s.db
      (syncAggregateExitPosition fill orderUuid stillWaiting now s positionId).db := by
    intro s positionId
    unfold syncAggregateExitPosition
    split
    · exact .none
    · dsimp only
      split_ifs
      · exact .none
      · exact QuietWrites.none.updateLivePosition _ _ now
      · exact .none
      · exact quietWrites_applyExitFill _ _ _ _ _ _
  induction positionIds generalizing s with
  | nil => exact .none
  | cons i ids ih =>
    rw [List.foldl_cons]
    exact (hround s i).trans (ih _)

/-- **So does the exit sync.** -/
theorem quietWrites_syncExitOrderPosition (log : ExitOrderLog) (status : ReconciledOrderStatus)
    (now : UtcTime) : QuietWrites db (syncExitOrderPosition db log status now) := by
  unfold syncExitOrderPosition
  split
  · exact .none
  · dsimp only
    split_ifs
    · unfold syncAggregateExitOrderPositions
      split_ifs
      · exact .none
      · exact (quietWrites_aggregateExitLoop _ _ _ now _ { db := db, remainingFill := _
          }).updateLiveOrderLog log.requestId now rfl rfl
    · exact quietWrites_foldl_updateLivePosition db _ _ now
    · exact .none
    · exact (QuietWrites.none.updateLiveOrderLog log.requestId now rfl rfl).trans
        (quietWrites_applyExitFill _ _ _ _ _ _)
    · exact QuietWrites.none.updateLivePosition _ _ now
    · exact .none

end Syncs

end AutoCoinBot
