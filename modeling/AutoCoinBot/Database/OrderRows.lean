/-
  Database.OrderRows — the row of one order, through the writes of others.

  Of a row of `live_order_logs` the guards look at the status and at the exchange uuid.
-/
import AutoCoinBot.Database.LiveOrderLogs

namespace AutoCoinBot

open Library

/-! ## Who has a uuid -/

theorem containsChars_iff {pat text : List Char} : containsChars pat text = true ↔ pat <:+: text := by
  induction text with
  | nil =>
    unfold containsChars
    rw [List.isEmpty_iff, List.infix_nil]
  | cons c cs ih =>
    unfold containsChars
    rw [Bool.or_eq_true, List.isPrefixOf_iff_prefix, ih, List.infix_cons_iff]

/-- **The row of a canonical order is no status event.** -/
theorem not_statusEvent_of_canonical {requestId : String}
    (hcanonical : liveOrderEventRequestIdFilter requestId = false) :
    isLiveOrderStatusEventRequest requestId = false := by
  have hpatterns : ∀ pat ∈ ["-submitted-", "-waiting-", "-partial", "-canceled-", "-filled-",
      "-failed-"], ∃ left ∈ ["-submitted", "-waiting-", "-partial", "-canceled-", "-filled-",
        "-failed-"], (left.toList.map Char.toLower).isPrefixOf (pat.toList.map Char.toLower)
          = true := by decide +kernel
  unfold isLiveOrderStatusEventRequest
  unfold liveOrderEventRequestIdFilter at hcanonical
  rw [List.any_eq_false] at hcanonical ⊢
  intro pat hpat hevent
  obtain ⟨left, hleft, hprefix⟩ := hpatterns pat hpat
  refine hcanonical left hleft ?_
  unfold containsText at hevent
  unfold likeContains
  rw [containsChars_iff] at hevent ⊢
  exact (List.isPrefixOf_iff_prefix.mp hprefix).isInfix.trans (hevent.map Char.toLower)

/-- A canonical row of another request has the uuid, and `requestId` minds. -/
def ownedElsewhere (db : Database) (requestId uuid : String) : Bool :=
  !isLiveOrderStatusEventRequest requestId
    && (findCanonicalLiveOrderByUuid db uuid requestId).isSome

section Owned

variable {db : Database} {requestId : String}

theorem findCanonicalLiveOrderByUuid_isSome (db : Database) (uuid requestId : String) :
    (findCanonicalLiveOrderByUuid db uuid requestId).isSome
      = (!(uuid == "") && db.liveOrderLogs.rows.any (fun r =>
          r.orderUuid == some uuid && r.requestId != requestId
            && !liveOrderEventRequestIdFilter r.requestId)) := by
  unfold findCanonicalLiveOrderByUuid
  by_cases huuid : uuid = ""
  · simp [huuid]
  · rw [if_neg huuid, List.isSome_find?, beq_eq_false_iff_ne.mpr huuid]
    rfl

@[simp] theorem ownedElsewhere_empty : ownedElsewhere db requestId "" = false := by
  unfold ownedElsewhere
  rw [findCanonicalLiveOrderByUuid_isSome]
  simp

theorem ownedElsewhere_own {uuid : String}
    (hown : ∀ r ∈ db.liveOrderLogs.rows, r.orderUuid = some uuid → r.requestId = requestId) :
    ownedElsewhere db requestId uuid = false := by
  unfold ownedElsewhere
  rw [findCanonicalLiveOrderByUuid_isSome, Bool.and_eq_false_iff]
  right
  rw [Bool.and_eq_false_iff, List.any_eq_false]
  right
  intro r hr h
  simp only [Bool.and_eq_true, beq_iff_eq, bne_iff_ne] at h
  exact h.1.2 (hown r hr h.1.1)

theorem duplicateOrderOwner_isSome (merged : LiveOrderLog) :
    (duplicateOrderOwner db requestId merged).isSome
      = ownedElsewhere db requestId (toText merged.orderUuid) := by
  unfold duplicateOrderOwner ownedElsewhere
  by_cases hempty : toText merged.orderUuid = ""
  · rw [hempty, findCanonicalLiveOrderByUuid_isSome]
    simp
  · cases isLiveOrderStatusEventRequest requestId <;> simp [hempty]

theorem ownedElsewhere_congr {db' : Database} (h : db.liveOrderLogs = db'.liveOrderLogs)
    (uuid : String) : ownedElsewhere db requestId uuid = ownedElsewhere db' requestId uuid := by
  unfold ownedElsewhere findCanonicalLiveOrderByUuid
  rw [h]

theorem ownedElsewhere_of_rows {db' : Database} {g : LiveOrderLog → LiveOrderLog}
    (hrows : db'.liveOrderLogs.rows = db.liveOrderLogs.rows.map g)
    (hrequest : ∀ r ∈ db.liveOrderLogs.rows, (g r).requestId = r.requestId)
    (huuid : ∀ r ∈ db.liveOrderLogs.rows, r.requestId ≠ requestId →
      (g r).orderUuid = r.orderUuid) (uuid : String) :
    ownedElsewhere db' requestId uuid = ownedElsewhere db requestId uuid := by
  have hany : ∀ r ∈ db.liveOrderLogs.rows,
      ((g r).orderUuid == some uuid && (g r).requestId != requestId
          && !liveOrderEventRequestIdFilter (g r).requestId)
        = (r.orderUuid == some uuid && r.requestId != requestId
            && !liveOrderEventRequestIdFilter r.requestId) := by
    intro r hr
    rw [hrequest r hr]
    by_cases hown : r.requestId = requestId
    · simp [hown]
    · rw [huuid r hr hown]
  unfold ownedElsewhere
  rw [findCanonicalLiveOrderByUuid_isSome, findCanonicalLiveOrderByUuid_isSome, hrows,
    List.any_map]
  congr 2
  rw [Bool.eq_iff_iff, List.any_eq_true, List.any_eq_true]
  constructor
  · rintro ⟨r, hr, h⟩
    exact ⟨r, hr, (hany r hr).symm.trans h⟩
  · rintro ⟨r, hr, h⟩
    exact ⟨r, hr, (hany r hr).trans h⟩

end Owned

/-! ## What a row shows -/

/-- What the guards see of an order's row. -/
structure OrderView where
  status : OrderStatus
  orderUuid : Option String

/-- `update_live_order_log`, where `owned` says which uuids other orders have. -/
def OrderView.update (owned : String → Bool) (u : LiveOrderLogUpdates) (v : OrderView) : OrderView :=
  if owned (toText (u.orderUuid.getD v.orderUuid)) then
    { status := .failed, orderUuid := v.orderUuid }
  else { status := u.status.getD v.status, orderUuid := u.orderUuid.getD v.orderUuid }

/-- The row of `requestId` shows `v`; `owned` are the uuids of the other orders, and the row's
own is none of them. -/
structure Shows (requestId : String) (owned : String → Bool) (v : OrderView) (db : Database) :
    Prop where
  row : ∃ log, getLiveOrderLog db requestId = some log ∧ log.status = v.status
    ∧ log.orderUuid = v.orderUuid
  others : ∀ uuid, ownedElsewhere db requestId uuid = owned uuid
  own : owned (toText v.orderUuid) = false

section Shows

variable {requestId : String} {owned : String → Bool} {v : OrderView} {db db' : Database}

theorem shows_congr (h : db'.liveOrderLogs = db.liveOrderLogs) (hv : Shows requestId owned v db) :
    Shows requestId owned v db' := by
  obtain ⟨⟨log, hlog, hstatus, huuid⟩, howned, hown⟩ := hv
  refine ⟨⟨log, (getLiveOrderLog_congr h requestId).trans hlog, hstatus, huuid⟩, fun uuid => ?_,
    hown⟩
  rw [ownedElsewhere_congr h]
  exact howned uuid

theorem rows_updateLiveOrderLog {requestId : String} {log : LiveOrderLog} (u : LiveOrderLogUpdates)
    (now : UtcTime) (hlog : getLiveOrderLog db requestId = some log) :
    (updateLiveOrderLog db requestId u now).liveOrderLogs.rows
      = db.liveOrderLogs.rows.map (fun r =>
          if r.requestId == requestId then
            r.overwrite (mergedLiveOrderLog db requestId log u now)
          else r) := by
  unfold updateLiveOrderLog
  rw [hlog]
  rfl

/-- **What an update does to the row it names.** -/
theorem shows_updateLiveOrderLog (u : LiveOrderLogUpdates) (now : UtcTime)
    (hv : Shows requestId owned v db) :
    Shows requestId owned (v.update owned u) (updateLiveOrderLog db requestId u now) := by
  obtain ⟨⟨log, hlog, hstatus, huuid⟩, howned, hown⟩ := hv
  refine ⟨⟨_, getLiveOrderLog_update_self db requestId u now hlog, ?_, ?_⟩, fun uuid => ?_, ?_⟩
  · show (mergedLiveOrderLog db requestId log u now).status = _
    rw [mergedLiveOrderLog_status, duplicateOrderOwner_isSome, howned]
    simp only [LiveOrderLog.merge, OrderView.update, huuid, hstatus]
    split <;> rfl
  · show (mergedLiveOrderLog db requestId log u now).orderUuid = _
    have howner := @duplicateOrderOwner_isSome db requestId (log.merge u)
    rw [howned] at howner
    simp only [LiveOrderLog.merge, huuid] at howner
    simp only [mergedLiveOrderLog, OrderView.update, ← howner]
    cases hdup : duplicateOrderOwner db requestId (log.merge u) with
    | none => simp_all [LiveOrderLog.merge]
    | some duplicate => simp_all [LiveOrderLog.merge]
  · rw [ownedElsewhere_of_rows (rows_updateLiveOrderLog u now hlog) (fun r _ => ?_)
      (fun r _ hne => ?_)]
    · exact howned uuid
    · split <;> rfl
    · rw [if_neg (by simpa using hne)]
  · unfold OrderView.update
    split
    · exact hown
    · rename_i hfree
      exact Bool.not_eq_true _ ▸ hfree

theorem shows_updateOther {requestId' : String} (hne : requestId' ≠ requestId)
    {u : LiveOrderLogUpdates} (hu : u.orderUuid = none) (now : UtcTime)
    (hv : Shows requestId owned v db) :
    Shows requestId owned v (updateLiveOrderLog db requestId' u now) := by
  cases hother : getLiveOrderLog db requestId' with
  | none =>
    refine shows_congr ?_ hv
    unfold updateLiveOrderLog
    rw [hother]
  | some other =>
    obtain ⟨⟨log, hlog, hstatus, huuid⟩, howned, hown⟩ := hv
    have hrows := rows_updateLiveOrderLog u now hother
    refine ⟨⟨log, ?_, hstatus, huuid⟩, fun uuid => ?_, hown⟩
    · exact (getLiveOrderLog_update_ne db requestId' u now hne.symm).trans hlog
    · rw [ownedElsewhere_of_rows hrows (fun r _ => ?_) (fun r hr _ => ?_)]
      · exact howned uuid
      · split <;> rfl
      · split
        · -- it is the row that was read, and that keeps its uuid
          rename_i hid
          have hsame : r = other := db.requestId_unique.eq_of_key hr
            (List.mem_of_find?_eq_some hother)
            ((beq_iff_eq.mp hid).trans (getLiveOrderLog_requestId db _ hother).symm)
          show (mergedLiveOrderLog db requestId' other u now).orderUuid = r.orderUuid
          rw [hsame]
          rcases mergedLiveOrderLog_orderUuid db requestId' other u now with h | h
          · rw [h, hu]
            rfl
          · exact h
        · rfl

theorem shows_updateQuiet (requestId' : String) {u : LiveOrderLogUpdates} (hu : u.orderUuid = none)
    (hstatus : u.status = none) (now : UtcTime)
    (hv : Shows requestId owned v db) :
    Shows requestId owned v (updateLiveOrderLog db requestId' u now) := by
  by_cases hne : requestId' = requestId
  · have hview : v.update owned u = v := by
      simp [OrderView.update, hu, hstatus, hv.own]
    rw [hne]
    exact hview ▸ shows_updateLiveOrderLog u now hv
  · exact shows_updateOther hne hu now hv

end Shows

/-! ## New rows -/

def LiveOrderLog.stored (log : LiveOrderLog) (now : UtcTime) (id : ℕ) : LiveOrderLog :=
  { log with id := id, createdAt := now, updatedAt := now }

/-- A new row, unless its request has one already. -/
def insertOrderRow (db : Database) (log : LiveOrderLog) (now : UtcTime) : Option Database :=
  if hnew : ∀ r ∈ db.liveOrderLogs.rows, r.requestId ≠ log.requestId then
    some { db with
      liveOrderLogs := db.liveOrderLogs.insert (log.stored now) (fun _ => rfl)
      requestId_unique := db.requestId_unique.insert (log.stored now) (fun _ => rfl) hnew }
  else none

section Inserted

variable {db db' : Database} {log : LiveOrderLog} {now : UtcTime}

theorem rows_insertOrderRow (h : insertOrderRow db log now = some db') :
    db'.liveOrderLogs.rows
      = db.liveOrderLogs.rows ++ [log.stored now db.liveOrderLogs.nextId] := by
  unfold insertOrderRow at h
  split at h
  case isTrue =>
    obtain rfl := Option.some.inj h
    exact Table.rows_insert _ _ (fun _ => rfl)
  case isFalse => cases h

theorem getLiveOrderLog_of_insertOrderRow (h : insertOrderRow db log now = some db') :
    getLiveOrderLog db log.requestId = none := by
  unfold insertOrderRow at h
  split at h
  case isTrue hnew =>
    refine List.find?_eq_none.mpr (fun r hr => ?_)
    rw [beq_iff_eq]
    exact hnew r hr
  case isFalse => cases h

/-- **The rows after a new one is inserted.** -/
theorem getLiveOrderLog_insertOrderRow (h : insertOrderRow db log now = some db')
    (requestId : String) :
    getLiveOrderLog db' requestId
      = if requestId = log.requestId then some (log.stored now db.liveOrderLogs.nextId)
        else getLiveOrderLog db requestId := by
  unfold getLiveOrderLog
  rw [rows_insertOrderRow h, List.find?_append, List.find?_singleton]
  have hstored : (log.stored now db.liveOrderLogs.nextId).requestId = log.requestId := rfl
  by_cases hid : requestId = log.requestId
  · have hnone := getLiveOrderLog_of_insertOrderRow h
    unfold getLiveOrderLog at hnone
    rw [if_pos hid, hid, hnone, hstored, beq_self_eq_true]
    rfl
  · rw [if_neg hid, hstored, beq_eq_false_iff_ne.mpr (Ne.symm hid)]
    exact Option.or_none

theorem insertOrderRow_livePositions (h : insertOrderRow db log now = some db') :
    db'.livePositions = db.livePositions := by
  unfold insertOrderRow at h
  split at h
  case isTrue => exact (Option.some.inj h) ▸ rfl
  case isFalse => cases h

end Inserted

end AutoCoinBot
