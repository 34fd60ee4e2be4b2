/-
  LiveStrategyPilot.FinalRows — when the row of an order may be final.

  The invariant ties the order's row to the volume that the positions have taken or given.
-/
import AutoCoinBot.LiveStrategyPilot.TrackedOrders

namespace AutoCoinBot

open Library Library.Awaiting

/-! ## The order's row -/

namespace TrackedOrder

variable (t : TrackedOrder)

def others : String → Bool := ownedElsewhere t.db t.requestId

/-- The order has a row of its own, with this status and this executed volume. -/
structure HasRow (db : Database) (status : OrderStatus) (executed : ℚ) : Prop where
  shows : Shows t.requestId t.others ⟨status, some t.uuid⟩ db
  columns : (getLiveOrderLog db t.requestId).map LiveOrderLog.columns
    = some ⟨t.requestId, some t.uuid, t.log.side, t.log.orderPurpose, executed⟩
  only : ∀ r ∈ db.liveOrderLogs.rows, r.orderUuid = some t.uuid → r.requestId = t.requestId

variable {t} {db db' : Database} {status : OrderStatus} {executed : ℚ}

theorem HasRow.of_same (h : t.HasRow db status executed)
    (hcolumns : orderColumns db' = orderColumns db)
    (hshows : Shows t.requestId t.others ⟨status, some t.uuid⟩ db') :
    t.HasRow db' status executed where
  shows := hshows
  columns := (columns_of_same hcolumns t.requestId).trans h.columns
  only := only_of_same hcolumns h.only

theorem HasRow.congr (h : t.HasRow db status executed)
    (hlogs : db'.liveOrderLogs = db.liveOrderLogs) : t.HasRow db' status executed :=
  h.of_same (orderColumns_congr hlogs) (shows_congr hlogs h.shows)

theorem HasRow.row (h : t.HasRow db status executed) :
    ∃ row, getLiveOrderLog db t.requestId = some row ∧ row.status = status
      ∧ row.orderUuid = some t.uuid ∧ row.side = t.log.side
      ∧ row.orderPurpose = t.log.orderPurpose ∧ row.executedVolume = executed := by
  obtain ⟨row, hrow, hstatus, huuid⟩ := h.shows.row
  have hcolumns := h.columns
  rw [hrow, Option.map_some, Option.some.injEq] at hcolumns
  exact ⟨row, hrow, hstatus, huuid, congrArg OrderColumns.side hcolumns,
    congrArg OrderColumns.orderPurpose hcolumns, congrArg OrderColumns.executedVolume hcolumns⟩

theorem HasRow.update (h : t.HasRow db status executed) {u : LiveOrderLogUpdates}
    (huuid : u.orderUuid.getD (some t.uuid) = some t.uuid) (now : UtcTime) :
    t.HasRow (updateLiveOrderLog db t.requestId u now) (u.status.getD status)
      (u.executedVolume.getD executed) := by
  obtain ⟨row, hrow, -, hrow_uuid, hside, hpurpose, hexecuted⟩ := h.row
  have hfree : t.others t.uuid = false := h.shows.own
  have hview : OrderView.update t.others u ⟨status, some t.uuid⟩
      = ⟨u.status.getD status, some t.uuid⟩ := by
    unfold OrderView.update
    rw [huuid, toText_some, hfree]
    rfl
  refine ⟨hview ▸ shows_updateLiveOrderLog u now h.shows, ?_, only_updateLiveOrderLog u now h.only⟩
  rw [columns_updateLiveOrderLog now hrow (by rw [hrow_uuid]; exact huuid)]
  unfold LiveOrderLog.columns
  rw [getLiveOrderLog_requestId db _ hrow, hrow_uuid, hside, hpurpose, hexecuted]

theorem HasRow.recent (h : t.HasRow db status executed) {row : LiveOrderLog}
    (hrecent : recentOrderLog db t.uuid = some row) : row.requestId = t.requestId := by
  have hmem : row ∈ loadLiveOrderLogs db 300 := List.mem_of_find?_eq_some hrecent
  have hstored : row ∈ db.liveOrderLogs.rows :=
    (List.mem_insertionSort _).mp (List.mem_of_mem_take hmem)
  have huuid := List.find?_some hrecent
  rw [Bool.and_eq_true, beq_iff_eq] at huuid
  exact h.only row hstored huuid.1

theorem HasRow.updateByUuid (h : t.HasRow db status executed) (status' : OrderStatus)
    (response : RawOrder) (now : UtcTime) :
    (recentOrderLog db t.uuid = none ∧ updateOrderByUuid db t.uuid status' response now = db)
      ∨ ((recentOrderLog db t.uuid).isSome
        ∧ t.HasRow (updateOrderByUuid db t.uuid status' response now) status'
          (toFloat response.executedVolume)) := by
  unfold updateOrderByUuid
  cases hrecent : recentOrderLog db t.uuid with
  | none => exact .inl ⟨rfl, rfl⟩
  | some row =>
    dsimp only
    rw [h.recent hrecent]
    exact .inr ⟨rfl, h.update (u := orderByUuidUpdates t.uuid status' response) rfl now⟩

theorem sameFills_updateOrderByUuid (orderUuid : String) (status' : OrderStatus)
    (response : RawOrder) (now : UtcTime) :
    SameFills (updateOrderByUuid db orderUuid status' response now) db := by
  unfold updateOrderByUuid
  split
  · exact SameFills.refl db
  · exact sameFills_updateLiveOrderLog _ _ _

/-! ## The invariant -/

/-- What is true of the order at all times: a final row has all fills behind it, a sale's row
shows no more than the positions have given, and a buy order that is booked is booked whole. -/
structure Tracks (t : TrackedOrder) (w : OrderWorld t.ordered) : Prop where
  row : ∃ status executed, t.HasRow w.db status executed
    ∧ (status.isFinal = true → w.order.phase ≠ .waiting ∧ w.order.executed ≤ t.booked w.db)
    ∧ (t.isExit = true → executed ≤ t.booked w.db)
  nonneg : 0 ≤ t.booked w.db
  entry : t.isExit = false → VolumesShown w.db
    ∧ (entryBooked w.db t.uuid = true → w.order.phase = .done ∧ t.ordered ≤ t.booked w.db)

/-- A database in which it is still true, and no volume has been taken back. -/
structure Advances (t : TrackedOrder) (w : OrderWorld t.ordered) (db : Database) : Prop where
  tracks : Tracks t { w with db := db }
  booked : t.booked w.db ≤ t.booked db

section Advances

variable {w : OrderWorld t.ordered}

theorem booked_congr (t : TrackedOrder) (h : db'.livePositions = db.livePositions) :
    t.booked db' = t.booked db := by
  unfold booked
  rw [heldVolume_congr h]

theorem Tracks.fillsIn (h : Tracks t w) : t.FillsIn w := by
  obtain ⟨status, executed, hrow, hfinal, -⟩ := h.row
  obtain ⟨row, hstored, hstatus, -⟩ := hrow.row
  intro row' hrow' hisFinal
  rw [hstored, Option.some.injEq] at hrow'
  rw [← hrow', hstatus] at hisFinal
  exact hfinal hisFinal

theorem Tracks.recorded_le (h : Tracks t w) : t.recorded w.db ≤ t.booked w.db := by
  unfold recorded
  by_cases hexit : t.isExit = true
  · obtain ⟨status, executed, hrow, -, hle⟩ := h.row
    obtain ⟨row, hstored, -, -, -, -, hexecuted⟩ := hrow.row
    rw [if_pos hexit, hstored, Option.elim_some, hexecuted]
    exact hle hexit
  · rw [if_neg hexit]
    split_ifs with hbooked
    · exact ((h.entry (by simpa using hexit)).2 hbooked).2
    · exact h.nonneg

theorem Tracks.final_of_complete (h : Tracks t w) (hcomplete : t.Complete w) :
    w.order.phase ≠ .waiting ∧ w.order.executed ≤ t.booked w.db :=
  ⟨hcomplete.1, hcomplete.2.trans h.recorded_le⟩

theorem Tracks.advances_of_row (h : Tracks t w) (hfills : SameFills db w.db)
    (hrow : t.HasRow db status executed)
    (hfinal : status.isFinal = true → w.order.phase ≠ .waiting ∧ w.order.executed ≤ t.booked w.db)
    (hexit : t.isExit = true → executed ≤ t.booked w.db) : Advances t w db := by
  have hbooked : t.booked db = t.booked w.db := booked_congr t hfills.livePositions
  refine ⟨⟨⟨status, executed, hrow, ?_, ?_⟩, ?_, fun hentry => ⟨?_, ?_⟩⟩, hbooked.ge⟩
  · rw [hbooked]; exact hfinal
  · rw [hbooked]; exact hexit
  · rw [hbooked]; exact h.nonneg
  · exact volumesShown_congr hfills.livePositions (h.entry hentry).1
  · show entryBooked db t.uuid = true → _
    rw [hbooked, entryBooked_congr hfills]
    exact (h.entry hentry).2

theorem Tracks.advances_self (h : Tracks t w) : Advances t w w.db := ⟨h, le_rfl⟩

theorem Advances.congr (h : Advances t w db) (hfills : SameFills db' db)
    (hlogs : db'.liveOrderLogs = db.liveOrderLogs) : Advances t w db' := by
  obtain ⟨status, executed, hrow, hfinal, hexit⟩ := h.tracks.row
  have hstep : Advances t { w with db := db } db' :=
    h.tracks.advances_of_row hfills (hrow.congr hlogs) hfinal hexit
  exact ⟨hstep.tracks, h.booked.trans hstep.booked⟩

theorem Advances.session (h : Advances t w db) (sessionId : ℕ) (u : LiveStrategySessionUpdates) :
    Advances t w (updateLiveStrategySession db sessionId u) := h.congr ⟨rfl, rfl, rfl⟩ rfl

theorem Tracks.advances_updateByUuid (h : Tracks t w) (hentry : t.isExit = false)
    {status : OrderStatus} (response : RawOrder) (now : UtcTime)
    (hfinal : status.isFinal = true → (recentOrderLog w.db t.uuid).isSome → t.Complete w) :
    Advances t w (updateOrderByUuid w.db t.uuid status response now) := by
  obtain ⟨status', executed, hrow, -⟩ := h.row
  rcases hrow.updateByUuid status response now with ⟨-, hsame⟩ | ⟨hrecent, hupdated⟩
  · rw [hsame]
    exact h.advances_self
  · refine h.advances_of_row (sameFills_updateOrderByUuid t.uuid status response now) hupdated
      (fun hisFinal => ?_) (fun hexit => ?_)
    · exact h.final_of_complete (hfinal hisFinal hrecent)
    · rw [hentry] at hexit
      cases hexit

/-! ## Filled buy orders -/

/-- **The sync of a done buy order**: it books the order, unless it is booked or writes nothing. -/
theorem Tracks.advances_of_sync (h : Tracks t w) (hentry : t.isExit = false)
    (hdone : w.order.phase = .done) (hfills : SameFills db w.db)
    (hrow : t.HasRow db' status executed) (hshown : VolumesShown db')
    (hle : heldVolume db ≤ heldVolume db')
    (hadds : entryBooked w.db t.uuid = false → heldVolume db' = heldVolume db + t.ordered
      ∨ (SameFills db' db ∧ (status.isFinal = true → w.order.executed ≤ t.booked w.db))) :
    Advances t w db' := by
  have hheld : heldVolume db = heldVolume w.db := heldVolume_congr hfills.livePositions
  have hmono : t.booked w.db ≤ t.booked db' := by
    unfold booked
    rw [hentry, if_neg (by decide), if_neg (by decide), ← hheld]
    exact sub_le_sub_right hle _
  have hclosed : w.order.phase ≠ .waiting := by rw [hdone]; decide
  have hall : w.order.executed = t.ordered := w.order.done_iff.mp hdone
  have hexecuted : entryBooked db' t.uuid = true ∨ status.isFinal = true →
      t.ordered ≤ t.booked db' := by
    intro hcase
    cases hbefore : entryBooked w.db t.uuid with
    | true => exact ((h.entry hentry).2 hbefore).2.trans hmono
    | false =>
      rcases hadds hbefore with hadded | ⟨hsame, hfinal⟩
      · have hgrown : t.booked db' = t.booked w.db + t.ordered := by
          unfold booked
          rw [hentry, if_neg (by decide), if_neg (by decide), hadded, hheld]
          ring
        rw [hgrown]
        exact le_add_of_nonneg_left h.nonneg
      · have hunbooked : entryBooked db' t.uuid = false := by
          rw [entryBooked_congr (hsame.trans hfills), hbefore]
        rw [hunbooked] at hcase
        exact hall ▸ (hfinal (hcase.resolve_left (by decide))).trans hmono
  refine ⟨⟨⟨status, executed, hrow, fun hfinal => ⟨hclosed, ?_⟩, fun hexit => ?_⟩,
    h.nonneg.trans hmono, fun _ => ⟨hshown, fun hbooked => ⟨hdone, ?_⟩⟩⟩, hmono⟩
  · rw [hall]
    exact hexecuted (.inr hfinal)
  · rw [hentry] at hexit
    cases hexit
  · exact hexecuted (.inl hbooked)

theorem syncOrderUuid_of_log {log : LiveOrderLog} (hlog : log.orderUuid = some t.uuid)
    (raw : RawOrder) (session : SyncSession) : syncOrderUuid (some log) raw session = t.uuid := by
  unfold syncOrderUuid
  rw [Option.bind_some, hlog, toText_some]
  exact if_neg t.uuid_ne

theorem syncOrderUuid_answered {raw : RawOrder} {session : SyncSession} {orderLog : Option LiveOrderLog}
    (hraw : raw.orderUuid = "" ∨ raw.orderUuid = t.uuid)
    (hsession : session.openOrderUuid = t.uuid)
    (hlog : ∀ log, orderLog = some log → log.orderUuid = some t.uuid) :
    syncOrderUuid orderLog raw session = t.uuid := by
  cases orderLog with
  | some log => exact syncOrderUuid_of_log (hlog log rfl) raw session
  | none =>
    have hnone : syncOrderUuid none raw session = orText raw.orderUuid session.openOrderUuid := by
      unfold syncOrderUuid RawOrder.orderUuid SyncSession.openOrderUuid orText
      simp only [Option.bind_none, toText_none, if_true]
      split_ifs <;> simp_all
    rw [hnone, hsession]
    rcases hraw with hraw | hraw
    · rw [hraw]
      rfl
    · rw [hraw]
      exact if_neg t.uuid_ne

theorem orderUuid_getLiveOrderLogByUuid {orderUuid : String} {log : LiveOrderLog}
    (h : getLiveOrderLogByUuid db orderUuid = some log) : log.orderUuid = some orderUuid := by
  have hmem := List.mem_of_mem_head? h
  rw [List.mem_insertionSort, Table.mem_select, Bool.and_eq_true, beq_iff_eq] at hmem
  exact hmem.2.1

theorem syncOrderUuid_filledEntryCall {raw : RawOrder} {session : SyncSession}
    (hraw : raw.orderUuid = "" ∨ raw.orderUuid = t.uuid)
    (hsession : session.openOrderUuid = t.uuid) (source : String) :
    syncOrderUuid (filledEntryCall db session raw source).orderLog raw session = t.uuid := by
  refine syncOrderUuid_answered hraw hsession (fun log hlog => ?_)
  have huuid : orText raw.orderUuid (toText session.currentOpenOrderUuid) = t.uuid := by
    have hopen : toText session.currentOpenOrderUuid = t.uuid := hsession
    rw [hopen]
    rcases hraw with hraw | hraw
    · rw [hraw]; rfl
    · rw [hraw]; exact if_neg t.uuid_ne
  unfold filledEntryCall at hlog
  dsimp only at hlog
  rw [huuid, if_neg t.uuid_ne] at hlog
  exact orderUuid_getLiveOrderLogByUuid hlog

theorem Tracks.advances_manageFilledOrder (h : Tracks t w) (hentry : t.isExit = false)
    {session : SyncSession} (hsession : session.openOrderUuid = t.uuid) {status : RawOrder}
    (hanswers : Answers t.uuid status w.order) (hdone : w.order.phase = .done) (env : PilotEnv)
    (hfits : t.FitsManaged w env session status) :
    Advances t w (manageFilledOrder env w.db session status) := by
  obtain ⟨before, executed, hbefore, hfinal, -⟩ := h.row
  have hvolume : toFloat status.executedVolume = t.ordered :=
    hanswers.executed.trans (w.order.done_iff.mp hdone)
  -- the database after the row is written, and the sync in it
  obtain ⟨db, hdb⟩ : ∃ db, db = updateOrderByUuid w.db t.uuid .filled status env.now := ⟨_, rfl⟩
  obtain ⟨call, hcall⟩ :
      ∃ call, call = filledEntryCall db session status "OPEN_ORDER_MANAGEMENT" := ⟨_, rfl⟩
  have huuid : syncOrderUuid call.orderLog call.rawOrder call.session = t.uuid := by
    rw [hcall]
    exact syncOrderUuid_filledEntryCall hanswers.uuid hsession _
  have hfills : SameFills db w.db := by
    rw [hdb]
    exact sameFills_updateOrderByUuid t.uuid .filled status env.now
  have hread : (normalizeExchangeOrder status).status = .filled :=
    hanswers.status_done t.ordered_pos hdone
  have hshown : VolumesShown db := volumesShown_congr hfills.livePositions (h.entry hentry).1
  have hunbooked : entryBooked w.db t.uuid = false → entryBooked db t.uuid = false := by
    rw [entryBooked_congr hfills]
    exact id
  have hrow : ∃ status' executed', t.HasRow db status' executed'
      ∧ (entryBooked w.db t.uuid = false → syncAccepts db call = false →
        status'.isFinal = true → w.order.executed ≤ t.booked w.db) := by
    rcases hbefore.updateByUuid .filled status env.now with ⟨-, hsame⟩ | ⟨hrecent, hupdated⟩
    · refine ⟨before, executed, by rw [hdb, hsame]; exact hbefore, fun _ _ hisFinal => ?_⟩
      exact (hfinal hisFinal).2
    · refine ⟨.filled, _, hdb ▸ hupdated, fun hnew hrefuses => ?_⟩
      have haccepts : syncAccepts db call = true := by
        rw [hcall, hdb]
        refine (hfits hread hrecent).resolve_left ?_
        rw [hnew]
        decide
      rw [haccepts] at hrefuses
      cases hrefuses
  obtain ⟨status', executed', hrow, hrefused⟩ := hrow
  have hsynced : Advances t w (syncFilledEntryOrderToPosition env.toSyncEnv db call).1 := by
    refine h.advances_of_sync hentry hdone hfills
      (hrow.of_same (orderColumns_applyWrites env.now _) (shows_applyWrites env.now _ hrow.shows))
      (volumesShown_sync env.toSyncEnv call hshown)
      (heldVolume_sync_le env.toSyncEnv call hshown) (fun hnew => ?_)
    cases haccepts : syncAccepts db call with
    | true =>
      exact .inl (sync_accepted env.toSyncEnv (hunbooked hnew) huuid
        (by rw [hcall]; exact hvolume) t.ordered_pos.ne' haccepts).1
    | false =>
      refine .inr ⟨?_, hrefused hnew haccepts⟩
      rw [(sync_refused env.toSyncEnv (hunbooked hnew) huuid haccepts).1]
      exact SameFills.refl db
  have hsessions : ∃ u, manageFilledOrder env w.db session status
      = updateLiveStrategySession (syncFilledEntryOrderToPosition env.toSyncEnv db call).1
        session.id u := by
    unfold manageFilledOrder manageOpenOrderFailed
    rw [hsession, ← hdb]
    dsimp only
    rw [← hcall]
    split
    · exact ⟨_, rfl⟩
    · exact ⟨_, rfl⟩
  obtain ⟨u, hsame⟩ := hsessions
  rw [hsame]
  exact hsynced.session session.id u

/-! ## The pilot's operations -/

theorem Tracks.advances_manageOpenOrder (h : Tracks t w) (hentry : t.isExit = false)
    {session : SyncSession} (hsession : session.openOrderUuid = t.uuid) {reply : BrokerReply}
    (htruthful : t.Truthful w (.manageOpenOrder session) reply)
    (haccepts : t.Acceptable w (.manageOpenOrder session) reply) :
    Advances t w (manageOpenOrder reply.env w.db session reply.answer).1 := by
  obtain ⟨answer, env⟩ := reply
  cases answer with
  | error exc => exact h.advances_self.session _ _
  | ok status =>
    obtain ⟨past, hbefore, hanswers⟩ := htruthful status rfl
    have hfits : t.FitsManaged w env session status := haccepts
    unfold manageOpenOrder
    dsimp only
    rw [hsession]
    split_ifs with hpart hreads
    · exact h.advances_updateByUuid hentry status env.now (fun hfinal => by cases hfinal)
    · -- the order was done when it was asked for, so it still is
      have hdone := hanswers.done_of_reads hreads t.ordered_pos
      have hsame : past = w.order := hbefore.eq_of_closed (by rw [hdone]; decide)
      exact h.advances_manageFilledOrder hentry hsession (hsame ▸ hanswers) (hsame ▸ hdone) env
        hfits
    · exact h.advances_self
    · exact (h.advances_updateByUuid hentry status env.now
        (fun hfinal => by cases hfinal)).session _ _

theorem Tracks.advances_manageCanceledOrder (h : Tracks t w) (hentry : t.isExit = false)
    {session : SyncSession} (hsession : session.openOrderUuid = t.uuid) (cancel : ManagedCancel)
    {reply : BrokerReply} (haccepts : t.Acceptable w (.manageCanceledOrder session cancel) reply) :
    Advances t w (manageCanceledOrder reply.env w.db session cancel reply.answer) := by
  obtain ⟨answer, env⟩ := reply
  unfold manageCanceledOrder
  cases cancel with
  | remainder status =>
    dsimp only
    rw [hsession]
    cases answer with
    | error exc => exact h.advances_self.session _ _
    | ok response =>
      exact (h.advances_updateByUuid hentry status env.now
        (fun hfinal => by cases hfinal)).session _ _
  | unfilled =>
    dsimp only
    rw [hsession]
    cases answer with
    | error exc => exact h.advances_self.session _ _
    | ok response =>
      exact (h.advances_updateByUuid hentry response env.now
        (fun _ hrecent => haccepts hrecent)).session _ _

theorem Tracks.advances_cancelLiveStrategyOpenOrder (h : Tracks t w) (hentry : t.isExit = false)
    {session : SyncSession} (hsession : session.openOrderUuid = t.uuid) {reply : BrokerReply}
    (haccepts : t.Acceptable w (.cancelLiveStrategyOpenOrder session) reply) :
    Advances t w (cancelLiveStrategyOpenOrder reply.env w.db session reply.answer) := by
  obtain ⟨answer, env⟩ := reply
  unfold cancelLiveStrategyOpenOrder
  dsimp only
  rw [hsession]
  cases answer with
  | error exc => exact h.advances_self.session _ _
  | ok response =>
    exact (h.advances_updateByUuid hentry response env.now
      (fun _ hrecent => haccepts hrecent)).session _ _

theorem Advances.markForReview (h : Advances t w db) (hentry : t.isExit = false)
    {position : LivePosition} (hload : loadLivePosition db position.id = some position)
    (hactive : position.status.isActive = true) (now : UtcTime) :
    Advances t w (updateLivePosition db position.id { status := some .manualReviewRequired } now) := by
  obtain ⟨⟨⟨status, executed, hrow, hfinal, hexit⟩, hnonneg, hbuy⟩, hmono⟩ := h
  have hopen : position.status ≠ .closed := by
    intro hclosed
    rw [hclosed] at hactive
    cases hactive
  have hheld : heldVolume (updateLivePosition db position.id
      { status := some .manualReviewRequired } now) = heldVolume db := by
    rw [heldVolume_update_of_load _ now hload, LivePosition.held_of_ne hopen,
      LivePosition.held_of_ne (fun hclosed => by cases hclosed), LivePosition.merge_entryVolume]
    simp
  have hbooked : t.booked (updateLivePosition db position.id
      { status := some .manualReviewRequired } now) = t.booked db := by
    unfold TrackedOrder.booked
    rw [hheld]
  refine ⟨⟨⟨status, executed, hrow.congr rfl, ?_, ?_⟩, ?_, fun _ => ⟨?_, ?_⟩⟩, ?_⟩
  · rw [hbooked]; exact hfinal
  · rw [hbooked]; exact hexit
  · rw [hbooked]; exact hnonneg
  · exact volumesShown_update rfl (by decide) now (hbuy hentry).1
  · rw [hbooked]
    show entryBooked (updateLivePosition db position.id _ now) t.uuid = true → _
    rw [entryBooked_updateLivePosition]
    exact (hbuy hentry).2
  · rw [hbooked]; exact hmono

theorem Tracks.advances_handleEmergency (h : Tracks t w) (hentry : t.isExit = false)
    {session : SyncSession} (hsession : session.openOrderUuid = t.uuid) {reply : BrokerReply}
    (haccepts : t.Acceptable w (.handleEmergency session) reply) :
    Advances t w (handleEmergency reply.env w.db session reply.answer) := by
  obtain ⟨answer, env⟩ := reply
  have hupdated : ∀ (status : OrderStatus) (response : RawOrder),
      Advances t w (updateOrderByUuid w.db t.uuid status response env.now) :=
    fun status response => h.advances_updateByUuid hentry response env.now
      (fun _ hrecent => haccepts hrecent)
  -- after the row of the order, the open position is marked
  have hmarked : ∀ {db : Database}, Advances t w db → ∀ position,
      loadOpenLivePosition db session.id session.exchange session.market = some position →
      Advances t w (updateLivePosition db position.id { status := some .manualReviewRequired }
        env.now) := by
    intro db hrow position hposition
    obtain ⟨hload, hactive, -⟩ := mem_selectActivePositions.mp (List.mem_of_mem_head? hposition)
    exact hrow.markForReview hentry hload hactive env.now
  unfold handleEmergency
  dsimp only
  rw [hsession]
  cases answer with
  | ok response =>
    refine Advances.session ?_ _ _
    dsimp only
    split
    · rename_i position hposition
      exact hmarked (hupdated .canceled response) position hposition
    · exact hupdated .canceled response
  | error exc =>
    refine Advances.session ?_ _ _
    dsimp only
    split
    · rename_i position hposition
      exact hmarked (hupdated .failed {}) position hposition
    · exact hupdated .failed {}

/-! ## The reconcilers -/

/-- A copy of the order's row, read at some time before. -/
structure Copies (t : TrackedOrder) (db : Database) (log : LiveOrderLog) : Prop where
  requestId : log.requestId = t.requestId
  orderUuid : log.orderUuid = some t.uuid
  side : log.side = t.log.side
  orderPurpose : log.orderPurpose = t.log.orderPurpose
  executed_le : t.isExit = true → log.executedVolume ≤ t.booked db

theorem Copies.isExitOrder {log : LiveOrderLog} (h : t.Copies db log) :
    isExitOrder log = t.isExit := by
  unfold isExit AutoCoinBot.isExitOrder
  rw [h.side, h.orderPurpose]

theorem Copies.mono {log : LiveOrderLog} (h : t.Copies db log)
    (hle : t.booked db ≤ t.booked db') : t.Copies db' log :=
  { h with executed_le := fun hexit => (h.executed_le hexit).trans hle }

theorem Copies.reconciledUuid {log : LiveOrderLog} (h : t.Copies db log) {raw : RawOrder}
    (hraw : raw.orderUuid = "" ∨ raw.orderUuid = t.uuid) :
    (if raw.orderUuid = "" then log.orderUuid else some raw.orderUuid) = some t.uuid := by
  split_ifs with hempty
  · exact h.orderUuid
  · rw [hraw.resolve_left hempty]

theorem HasRow.reconciled (h : t.HasRow db status executed) {log : LiveOrderLog}
    (hlog : t.Copies db log) {raw : RawOrder} (hraw : raw.orderUuid = "" ∨ raw.orderUuid = t.uuid)
    (now : UtcTime) :
    t.HasRow (updateLiveOrderLog db log.requestId
        (reconciledUpdates log (normalizeExchangeOrder raw)) now)
      (normalizeExchangeOrder raw).status (normalizeExchangeOrder raw).executedVolume := by
  rw [hlog.requestId]
  exact h.update (u := reconciledUpdates log (normalizeExchangeOrder raw))
    (hlog.reconciledUuid hraw) now

theorem Tracks.advances_applyReconciledEntry (h : Tracks t w) (hentry : t.isExit = false)
    {log : LiveOrderLog} (hlog : t.Copies w.db log) {raw : RawOrder}
    {past : OrderOnExchange t.ordered} (hbefore : past.Before w.order)
    (hanswers : Answers t.uuid raw past) (env : SyncEnv) (source : String)
    (hfits : t.Fits w env log (normalizeExchangeOrder raw) source) :
    Advances t w (applyReconciledOrderStatus env w.db log (normalizeExchangeOrder raw) source) := by
  obtain ⟨before, executed, hrow, -⟩ := h.row
  obtain ⟨read, hread⟩ : ∃ read, read = normalizeExchangeOrder raw := ⟨_, rfl⟩
  have hrow' := hrow.reconciled hlog hanswers.uuid env.now
  have hfinal := hanswers.final t.ordered_pos
  have hraw : read.raw = raw := by rw [hread]; rfl
  have hvolume : read.executedVolume = past.executed := by
    rw [hread]
    exact (normalizeExchangeOrder_executedVolume raw).trans hanswers.executed
  unfold Fits at hfits
  rw [if_neg (by rw [hentry]; decide)] at hfits
  rw [← hread] at hrow' hfinal hfits ⊢
  obtain ⟨db, hdb⟩ : ∃ db, db = updateLiveOrderLog w.db log.requestId
      (reconciledUpdates log read) env.now := ⟨_, rfl⟩
  have hfills : SameFills db w.db := by
    rw [hdb]
    exact sameFills_updateLiveOrderLog _ _ _
  rw [← hdb] at hrow' hfits
  have hbuy : isExitOrder (reconciledLog log read).toLiveOrderLog = false :=
    hlog.isExitOrder.trans hentry
  unfold applyReconciledOrderStatus
  dsimp only
  rw [hbuy, if_neg (by decide), ← hdb]
  split_ifs with hfilled
  · have hdone : past.phase = .done := by
      rcases hfinal (by rw [hfilled]; rfl) with ⟨-, hphase⟩ | ⟨hcanceled, -⟩
      · exact hphase
      · rw [hfilled] at hcanceled; cases hcanceled
    have hsame : past = w.order := hbefore.eq_of_closed (by rw [hdone]; decide)
    have hall : past.executed = t.ordered := past.done_iff.mp hdone
    have hshown : VolumesShown db := volumesShown_congr hfills.livePositions (h.entry hentry).1
    obtain ⟨hshown', hle⟩ := ensure_shown env (reconciledLog log read).toLiveOrderLog
      (source ++ "_POSITION_SYNC") hshown
    refine h.advances_of_sync hentry (hsame ▸ hdone) hfills
      (hrow'.of_same (orderColumns_ensureFilledEntryOrderPosition env _ _)
        (shows_ensureFilledEntryOrderPosition env _ _ hrow'.shows)) hshown' hle (fun hnew => ?_)
    have haccepts := (hfits hfilled).resolve_left (by rw [hnew]; decide)
    have hadded := @ensure_unbooked env db (reconciledLog log read).toLiveOrderLog
      (source ++ "_POSITION_SYNC") t.uuid t.ordered
      (by rw [entryBooked_congr hfills, hnew])
      (fun call hcall => ?_) (hvolume.trans hall) t.ordered_pos.ne'
    · rw [if_pos haccepts] at hadded
      exact .inl hadded
    · obtain ⟨hcallLog, hcallRaw⟩ := ensuredSyncCall_log hcall
      rw [hcallLog, hcallRaw]
      refine ⟨syncOrderUuid_of_log ?_ _ _, ?_⟩
      · show (if read.raw.orderUuid = "" then log.orderUuid else some read.raw.orderUuid) = _
        rw [hraw]
        exact hlog.reconciledUuid hanswers.uuid
      · show toFloat read.raw.executedVolume = t.ordered
        rw [hraw, hanswers.executed, hall]
  · refine h.advances_of_row hfills hrow' (fun hisFinal => ?_) (fun hexit => ?_)
    · rcases hfinal hisFinal with ⟨hstatus, -⟩ | ⟨-, hphase, hnone⟩
      · exact absurd hstatus hfilled
      · have hsame : past = w.order := hbefore.eq_of_closed (by rw [hphase]; decide)
        rw [hsame] at hphase hnone
        refine ⟨by rw [hphase]; decide, ?_⟩
        rw [hnone]
        exact h.nonneg
    · rw [hentry] at hexit
      cases hexit

theorem Tracks.advances_of_sold (h : Tracks t w) (hexit : t.isExit = true)
    (hrow : t.HasRow db status executed) (hle : heldVolume db ≤ heldVolume w.db)
    (hfinal : status.isFinal = true → w.order.phase ≠ .waiting ∧ w.order.executed ≤ t.booked db)
    (hexecuted : executed ≤ t.booked db) : Advances t w db := by
  have hmono : t.booked w.db ≤ t.booked db := by
    unfold booked
    rw [if_pos hexit, if_pos hexit]
    exact sub_le_sub_left hle _
  refine ⟨⟨⟨status, executed, hrow, hfinal, fun _ => hexecuted⟩, h.nonneg.trans hmono,
    fun hentry => ?_⟩, hmono⟩
  rw [hexit] at hentry
  cases hentry

theorem Tracks.advances_applyReconciledExit (h : Tracks t w) (hexit : t.isExit = true)
    {log : LiveOrderLog} (hlog : t.Copies w.db log) {raw : RawOrder}
    {past : OrderOnExchange t.ordered} (hbefore : past.Before w.order)
    (hanswers : Answers t.uuid raw past) (env : SyncEnv) (source : String)
    (hfits : t.Fits w env log (normalizeExchangeOrder raw) source) :
    Advances t w (applyReconciledOrderStatus env w.db log (normalizeExchangeOrder raw) source) := by
  obtain ⟨before, executed, hrow, -⟩ := h.row
  obtain ⟨read, hread⟩ : ∃ read, read = normalizeExchangeOrder raw := ⟨_, rfl⟩
  have hrow' := hrow.reconciled hlog hanswers.uuid env.now
  have hfinal := hanswers.final t.ordered_pos
  have hfillRead := @normalizeExchangeOrder_isFill raw
  have hraw : read.raw = raw := by rw [hread]; rfl
  have hvolume : read.executedVolume = past.executed := by
    rw [hread]
    exact (normalizeExchangeOrder_executedVolume raw).trans hanswers.executed
  unfold Fits at hfits
  rw [if_pos hexit] at hfits
  rw [← hread] at hrow' hfinal hfits hfillRead ⊢
  dsimp only at hfits
  obtain ⟨hfitsFill, hfitsCanceled⟩ := hfits
  obtain ⟨db, hdb⟩ : ∃ db, db = updateLiveOrderLog w.db log.requestId
      (reconciledUpdates log read) env.now := ⟨_, rfl⟩
  have hpositions : db.livePositions = w.db.livePositions := by
    rw [hdb]
    exact updateLiveOrderLog_livePositions _ _ _ _
  have hheld : heldVolume db = heldVolume w.db := heldVolume_congr hpositions
  have hsell : isExitOrder (reconciledLog log read).toLiveOrderLog = true :=
    hlog.isExitOrder.trans hexit
  have huuid : (reconciledLog log read).orderUuid = log.orderUuid := by
    show (if read.raw.orderUuid = "" then log.orderUuid else some read.raw.orderUuid) = _
    rw [hraw, hlog.reconciledUuid hanswers.uuid, hlog.orderUuid]
  obtain ⟨hopen, hholds⟩ := @exitRowsOpen_congr w.db log db
    (reconciledLog log read).toLiveOrderLog hpositions rfl huuid rfl rfl rfl
  obtain ⟨gives, htakes, hnonneg, hcovers⟩ := @exitSync_takes db (reconciledLog log read) read
    (fun hisFill hpos => (hholds _).mpr (hfitsFill hisFill hpos))
    (fun hcanceled => hopen.mpr (hfitsCanceled hcanceled)) env.now
  unfold applyReconciledOrderStatus
  dsimp only
  rw [hsell, if_pos rfl, ← hdb]
  rw [← hdb] at hrow'
  rw [hheld] at htakes
  -- what the answer shows is what the row showed, and the fill given since
  have hbooked : t.booked (syncExitOrderPosition db (reconciledLog log read) read env.now)
      = t.booked w.db + gives := by
    unfold booked
    rw [if_pos hexit, if_pos hexit, htakes]
    ring
  have hexecuted : read.executedVolume
      ≤ t.booked (syncExitOrderPosition db (reconciledLog log read) read env.now) := by
    rw [hbooked]
    rcases le_or_gt read.executedVolume 0 with hnone | hpos
    · exact hnone.trans (add_nonneg h.nonneg hnonneg)
    · have hfill : read.executedVolume - log.executedVolume ≤ gives :=
        (le_max_left _ 0).trans (hcovers (hfillRead hpos))
      linarith [hlog.executed_le hexit]
  refine h.advances_of_sold hexit
    (hrow'.of_same (orderColumns_syncExitOrderPosition _ read env.now)
      (shows_syncExitOrderPosition _ read env.now hrow'.shows))
    (by rw [htakes]; exact sub_le_self _ hnonneg) (fun hisFinal => ?_) hexecuted
  rw [hvolume] at hexecuted
  have hclosed : past.phase ≠ .waiting := by
    rcases hfinal hisFinal with ⟨-, hphase⟩ | ⟨-, hphase, -⟩
    · rw [hphase]; decide
    · rw [hphase]; decide
  rw [← hbefore.eq_of_closed hclosed]
  exact ⟨hclosed, hexecuted⟩

theorem Tracks.advances_applyReconciledOrderStatus (h : Tracks t w) {log : LiveOrderLog}
    (hlog : t.Copies w.db log) {raw : RawOrder}
    (hanswers : ∃ past : OrderOnExchange t.ordered, past.Before w.order ∧ Answers t.uuid raw past)
    (env : SyncEnv) (source : String)
    (hfits : t.Fits w env log (normalizeExchangeOrder raw) source) :
    Advances t w (applyReconciledOrderStatus env w.db log (normalizeExchangeOrder raw) source) := by
  obtain ⟨past, hbefore, hanswers⟩ := hanswers
  cases hexit : t.isExit with
  | true => exact h.advances_applyReconciledExit hexit hlog hbefore hanswers env source hfits
  | false => exact h.advances_applyReconciledEntry hexit hlog hbefore hanswers env source hfits

theorem Tracks.advances_reconcileOrderLog (h : Tracks t w) {log : LiveOrderLog}
    (hlog : t.Copies w.db log) (source : String) {reply : BrokerReply}
    (htruthful : t.Truthful w (.reconcileOrderLog log source) reply)
    (haccepts : t.Acceptable w (.reconcileOrderLog log source) reply) :
    Advances t w (reconcileOrderLog reply.env.toSyncEnv w.db log reply.answer source) := by
  obtain ⟨answer, env⟩ := reply
  have huuid : toText log.orderUuid ≠ "" := by
    rw [hlog.orderUuid, toText_some]
    exact t.uuid_ne
  unfold reconcileOrderLog
  rw [if_neg huuid]
  cases answer with
  | ok raw =>
    exact h.advances_applyReconciledOrderStatus hlog (htruthful raw rfl) env.toSyncEnv source
      haccepts
  | error exc =>
    dsimp only
    split_ifs with hmissing
    · -- the order is not found on the exchange
      obtain ⟨before, executed, hrow, -, hexit⟩ := h.row
      have hupdated := hrow.update (u := staleCanceledUpdates) rfl env.now
      rw [← hlog.requestId] at hupdated
      exact h.advances_of_row (sameFills_updateLiveOrderLog _ _ _) hupdated
        (fun _ => h.final_of_complete (haccepts hmissing)) hexit
    · exact h.advances_self

theorem heldVolume_releaseExitPosition {log : LiveOrderLog} (now : UtcTime)
    (hopen : ∀ positionId, truthyId log.positionId = some positionId →
      shownBeyondHeld db positionId = 0) :
    heldVolume (releaseExitPosition db log now) = heldVolume db := by
  unfold releaseExitPosition
  cases hposition : truthyId log.positionId with
  | none => rfl
  | some positionId =>
    have hshown := hopen positionId hposition
    dsimp only
    rw [heldVolume_update]
    cases hload : loadLivePosition db positionId with
    | none => exact add_zero _
    | some p =>
      have hreleased : (p.merge (canceledExitUpdates log) now).held = p.entryVolume := by
        rw [LivePosition.held_of_ne, LivePosition.merge_entryVolume]
        · rfl
        · rw [LivePosition.merge_status]
          unfold canceledExitUpdates
          dsimp only
          split_ifs <;> (intro h; cases h)
      rw [Option.elim_some, hreleased, held_of_shown hload hshown, sub_self, add_zero]

theorem Tracks.advances_cancelExitOrder (h : Tracks t w) {log : LiveOrderLog}
    (hlog : t.Copies w.db log) (hexit : t.isExit = true) {reply : BrokerReply}
    (haccepts : t.Acceptable w (.cancelExitOrder log) reply) :
    Advances t w (cancelExitOrderAnswered reply.env w.db log reply.answer) := by
  obtain ⟨answer, env⟩ := reply
  unfold cancelExitOrderAnswered
  cases answer with
  | error exc => exact h.advances_self
  | ok response =>
    obtain ⟨hcomplete, hopen⟩ := haccepts
    obtain ⟨hclosed, hexecuted⟩ := h.final_of_complete hcomplete
    obtain ⟨before, executed, hrow, -, hle⟩ := h.row
    dsimp only
    obtain ⟨canceled, hcanceled⟩ : ∃ canceled, canceled = updateLiveOrderLog w.db log.requestId
      { status := some .canceled, exchangeResponsePayload := some response } env.now := ⟨_, rfl⟩
    rw [← hcanceled]
    have hrow' : t.HasRow canceled .canceled executed := by
      rw [hcanceled, hlog.requestId]
      exact hrow.update (u := { status := some .canceled
                                exchangeResponsePayload := some response }) rfl env.now
    obtain ⟨retried, hretried⟩ :
        ∃ retried, retried = retryExitCandidate canceled log env.maxExitRetryCount := ⟨_, rfl⟩
    rw [← hretried]
    have hpositions : retried.livePositions = w.db.livePositions := by
      rw [hretried, retryExitCandidate_livePositions, hcanceled]
      exact updateLiveOrderLog_livePositions _ _ _ _
    have hheld : heldVolume (releaseExitSession (releaseExitPosition retried log env.now) log)
        = heldVolume w.db := by
      rw [heldVolume_congr (releaseExitSession_livePositions _ _),
        heldVolume_releaseExitPosition, heldVolume_congr hpositions]
      intro positionId hposition
      unfold shownBeyondHeld
      rw [loadLivePosition_congr hpositions]
      exact hopen positionId hposition
    have hbooked : t.booked (releaseExitSession (releaseExitPosition retried log env.now) log)
        = t.booked w.db := by
      unfold booked
      rw [hheld]
    have hlogs : (releaseExitSession (releaseExitPosition retried log env.now) log).liveOrderLogs
        = canceled.liveOrderLogs := by
      rw [hretried, releaseExitSession_liveOrderLogs, releaseExitPosition_liveOrderLogs,
        retryExitCandidate_liveOrderLogs]
    refine h.advances_of_sold hexit (hrow'.congr hlogs) hheld.le (fun _ => ?_) ?_
    · rw [hbooked]
      exact ⟨hclosed, hexecuted⟩
    · rw [hbooked]
      exact hle hexit

/-! ## Runs -/

def Remembers (t : TrackedOrder) (db : Database) : OrderTask → Prop
  | .manageOpenOrder session | .manageCanceledOrder session _ | .handleEmergency session
  | .cancelLiveStrategyOpenOrder session => t.isExit = false ∧ session.openOrderUuid = t.uuid
  | .cancelExitOrder log => t.isExit = true ∧ t.Copies db log
  | .reconcileOrderLog log _ | .syncOpenOrders log _ => t.Copies db log

theorem Remembers.mono {task : OrderTask} (h : t.Remembers db task)
    (hle : t.booked db ≤ t.booked db') : t.Remembers db' task := by
  cases task with
  | manageOpenOrder session => exact h
  | manageCanceledOrder session cancel => exact h
  | handleEmergency session => exact h
  | cancelLiveStrategyOpenOrder session => exact h
  | cancelExitOrder log => exact ⟨h.1, h.2.mono hle⟩
  | reconcileOrderLog log source => exact Copies.mono h hle
  | syncOpenOrders log source => exact Copies.mono h hle

theorem Tracks.move (h : Tracks t w) (event : ExchangeMove) :
    Tracks t { w with order := w.order.move event } := by
  have hstill : w.order.phase ≠ .waiting → w.order.move event = w.order :=
    fun hclosed => OrderOnExchange.move_of_closed hclosed event
  obtain ⟨status, executed, hrow, hfinal, hexit⟩ := h.row
  refine ⟨⟨status, executed, hrow, fun hisFinal => ?_, hexit⟩, h.nonneg, fun hentry => ?_⟩
  · have hended := hfinal hisFinal
    dsimp only
    rw [hstill hended.1]
    exact hended
  · obtain ⟨hshown, hwhole⟩ := h.entry hentry
    refine ⟨hshown, fun hbooked => ?_⟩
    have hdone := hwhole hbooked
    dsimp only
    rw [hstill (by rw [hdone.1]; decide)]
    exact hdone

theorem Tracks.copies (h : Tracks t w) {log : LiveOrderLog}
    (hlog : getLiveOrderLog w.db t.requestId = some log) : t.Copies w.db log := by
  obtain ⟨status, executed, hrow, -, hexit⟩ := h.row
  obtain ⟨row, hstored, -, huuid, hside, hpurpose, hexecuted⟩ := hrow.row
  have hsame : row = log := Option.some.inj (hstored.symm.trans hlog)
  rw [← hsame]
  refine ⟨getLiveOrderLog_requestId _ _ hstored, huuid, hside, hpurpose, fun hsells => ?_⟩
  rw [hexecuted]
  exact hexit hsells

theorem Tracks.begin (h : Tracks t w) {operation : OrderOperation} (hconcerns : t.Concerns operation)
    {task : OrderTask} (hbegin : t.begin w operation = some task) : t.Remembers w.db task := by
  cases operation with
  | manageOpenOrder session => cases hbegin; exact hconcerns
  | handleEmergency session => cases hbegin; exact hconcerns
  | cancelLiveStrategyOpenOrder session => cases hbegin; exact hconcerns
  | cancelExitOrder =>
    obtain ⟨log, hlog, rfl⟩ := Option.map_eq_some_iff.mp hbegin
    obtain ⟨hstored, hsubmitted⟩ := Option.filter_eq_some_iff.mp hlog
    have hcopies := h.copies hstored
    rw [Bool.and_eq_true] at hsubmitted
    refine ⟨?_, hcopies⟩
    rw [← hcopies.isExitOrder]
    unfold AutoCoinBot.isExitOrder
    rw [hsubmitted.1, Bool.true_or]
  | reconcileOrderLog source =>
    obtain ⟨log, hlog, rfl⟩ := Option.map_eq_some_iff.mp hbegin
    exact h.copies hlog
  | syncOpenOrders source =>
    obtain ⟨log, hlog, rfl⟩ := Option.map_eq_some_iff.mp hbegin
    exact h.copies hlog

/-- **A reply that may be acted on** keeps the invariant; where the operation waits on, it
remembers what it did. -/
theorem Tracks.resume (h : Tracks t w) {task : OrderTask} (hremembers : t.Remembers w.db task)
    {reply : BrokerReply} (htruthful : t.Truthful w task reply)
    (haccepts : t.Acceptable w task reply) :
    Advances t w (task.resume reply w.db).1
      ∧ ∀ next, (task.resume reply w.db).2 = some next →
        t.Remembers (task.resume reply w.db).1 next := by
  have hnothing : ∀ {db : Database} (next : OrderTask),
      (none : Option OrderTask) = some next → t.Remembers db next := fun next h => by cases h
  cases task with
  | manageOpenOrder session =>
    refine ⟨h.advances_manageOpenOrder hremembers.1 hremembers.2 htruthful haccepts, ?_⟩
    intro next hnext
    obtain ⟨cancel, -, rfl⟩ := Option.map_eq_some_iff.mp hnext
    exact hremembers
  | manageCanceledOrder session cancel =>
    exact ⟨h.advances_manageCanceledOrder hremembers.1 hremembers.2 cancel haccepts, hnothing⟩
  | handleEmergency session =>
    exact ⟨h.advances_handleEmergency hremembers.1 hremembers.2 haccepts, hnothing⟩
  | cancelLiveStrategyOpenOrder session =>
    exact ⟨h.advances_cancelLiveStrategyOpenOrder hremembers.1 hremembers.2 haccepts, hnothing⟩
  | cancelExitOrder log =>
    exact ⟨h.advances_cancelExitOrder hremembers.2 hremembers.1 haccepts, hnothing⟩
  | reconcileOrderLog log source =>
    exact ⟨h.advances_reconcileOrderLog hremembers source htruthful haccepts, hnothing⟩
  | syncOpenOrders log source =>
    obtain ⟨answer, env⟩ := reply
    cases answer with
    | error exc => exact ⟨h.advances_self, hnothing⟩
    | ok raw =>
      exact ⟨h.advances_applyReconciledOrderStatus hremembers (htruthful raw rfl)
        env.toSyncEnv source haccepts, hnothing⟩

theorem keeps (t : TrackedOrder) :
    t.operations.Keeps (fun w task reply => t.Truthful w task reply ∧ t.Acceptable w task reply)
      t.Concerns (Tracks t) (fun w task => t.Remembers w.db task) where
  move w event h := ⟨h.move event, fun _ hremembers => hremembers⟩
  begin w operation task h hconcerns hbegin := h.begin hconcerns hbegin
  resume w task reply h hremembers hok := by
    obtain ⟨hadvances, hnext⟩ := h.resume hremembers hok.1 hok.2
    exact ⟨hadvances.tracks, fun other hother => hother.mono hadvances.booked, hnext⟩

theorem tracks_start (t : TrackedOrder) : Tracks t t.start.world := by
  have hnone : t.booked t.db = 0 := by
    unfold booked
    split_ifs <;> exact sub_self _
  refine ⟨⟨t.log.status, t.log.executedVolume, ?_, fun hfinal => ?_, fun _ => ?_⟩, hnone.ge,
    fun _ => ⟨t.shown, fun hbooked => ?_⟩⟩
  · refine ⟨⟨⟨t.log, t.stored, rfl, t.has_uuid⟩, fun _ => rfl, ownedElsewhere_own t.own_uuid⟩, ?_,
      t.own_uuid⟩
    · show (getLiveOrderLog t.db t.log.requestId).map LiveOrderLog.columns = _
      rw [t.stored, Option.map_some]
      unfold LiveOrderLog.columns requestId
      rw [t.has_uuid]
  · rw [t.not_final] at hfinal
    cases hfinal
  · show t.log.executedVolume ≤ t.booked t.db
    rw [t.unfilled, hnone]
  · rw [show entryBooked t.start.world.db t.uuid = false from t.unbooked] at hbooked
    cases hbooked

end Advances

/-- **No row is final before its fills are in**, in any state of a run whose operations act on
no reply but acceptable ones. -/
theorem fillsIn_of_acceptable (t : TrackedOrder)
    (steps : List (Happening ExchangeMove OrderOperation BrokerReply))
    (hpossible : StepsOk t.operations.step
      (fun s e => Begins t.Concerns s e ∧ Replies t.Truthful s e) t.start steps)
    (hacceptable : StepsOk t.operations.step (Replies t.Acceptable) t.start steps) (n : ℕ) :
    t.FillsIn (run t.operations.step t.start (steps.take n)).world := by
  have hsteps : StepsOk t.operations.step (fun s e => Begins t.Concerns s e
      ∧ Replies (fun w task reply => t.Truthful w task reply ∧ t.Acceptable w task reply) s e)
      t.start steps := by
    refine (stepsOk_congr (fun s e => ?_) t.start steps).mp
      ((stepsOk_and t.start steps).mpr ⟨hpossible, hacceptable⟩)
    rw [and_assoc]
    refine and_congr_right (fun _ => ?_)
    cases e with
    | moves event => exact and_self_iff
    | begins operation => exact and_self_iff
    | replies i reply => exact forall₂_and.symm
  have hstart : Tracks t t.start.world
      ∧ ∀ task ∈ t.start.tasks, t.Remembers t.start.world.db task :=
    ⟨t.tracks_start, fun task htask => by cases htask⟩
  exact (t.keeps.run hstart (hsteps.take n)).1.fillsIn

/-! Runs of one order. -/

def exampleBuyOrder : TrackedOrder where
  db :=
    { liveOrderLogs := Table.empty.insert
        (fun id =>
          { id := id, requestId := "entry-1", exchange := "bithumb", market := "KRW-BTC"
            sessionId := some 1, candidateStrategyId := some 7, price := some 100, volume := some 2
            status := .waiting, orderUuid := some "entry-uuid" }) Eq.refl
      requestId_unique := by decide }
  log :=
    { id := 1, requestId := "entry-1", exchange := "bithumb", market := "KRW-BTC"
      sessionId := some 1, candidateStrategyId := some 7, price := some 100, volume := some 2
      status := .waiting, orderUuid := some "entry-uuid" }
  uuid := "entry-uuid"
  stored := by decide +kernel
  has_uuid := rfl
  uuid_ne := by decide
  own_uuid := by decide +kernel
  not_final := rfl
  ordered_pos := by decide +kernel
  unfilled := rfl
  unbooked := by decide +kernel
  shown := fun i p hload => by cases hload

def exampleOpenSession : SyncSession :=
  { id := 1, exchange := "bithumb", market := "KRW-BTC", candidateStrategyId := 7
    currentOpenOrderUuid := some "entry-uuid" }

def exampleAnswer (state : String) (executed : ℚ) : RawOrder :=
  { uuid := some "entry-uuid", state := some state, volume := some 2
    executedVolume := some executed, remainingVolume := some (2 - executed), price := some 100 }

/-- The order is done while its status is asked for. -/
def exampleFilledSteps : List (Happening ExchangeMove OrderOperation BrokerReply) :=
  [.begins (.reconcileOrderLog "RECHECK"), .moves .completes,
    .replies 0 ⟨.ok (exampleAnswer "done" 2), { now := 5 }⟩]

/-- It times out, and is executed before the cancel reaches it. -/
def exampleLateFillSteps : List (Happening ExchangeMove OrderOperation BrokerReply) :=
  [.begins (.manageOpenOrder exampleOpenSession),
    .replies 0 ⟨.ok (exampleAnswer "wait" 0), { now := 5, secondsSinceOrder := 90 }⟩,
    .moves (.executes 1), .moves .cancels, .replies 0 ⟨.ok {}, { now := 6 }⟩]

def exampleEmergencySteps : List (Happening ExchangeMove OrderOperation BrokerReply) :=
  [.begins (.handleEmergency exampleOpenSession), .replies 0 ⟨.error {}, { now := 6 }⟩]

theorem answers_example {state : String} {executed : ℚ} {o : OrderOnExchange 2}
    (hdone : doneStates.contains (exampleAnswer state executed).rawState = true ↔ o.phase = .done)
    (hcanceled : canceledStates.contains (exampleAnswer state executed).rawState = true
      ↔ o.phase = .canceled) (hexecuted : executed = o.executed) :
    Answers "entry-uuid" (exampleAnswer state executed) o where
  uuid := .inr rfl
  done := hdone
  canceled := hcanceled
  volume := rfl
  executed := hexecuted
  remaining := .inl (congrArg _ hexecuted)

theorem possible_exampleFilledSteps :
    StepsOk exampleBuyOrder.operations.step
      (fun s e => Begins exampleBuyOrder.Concerns s e ∧ Replies exampleBuyOrder.Truthful s e)
      exampleBuyOrder.start exampleFilledSteps := by
  refine ⟨⟨trivial, trivial⟩, ⟨trivial, trivial⟩, ⟨trivial, fun task htask => ?_⟩, trivial⟩
  cases htask
  intro raw hraw
  cases hraw
  exact ⟨_, .refl _, answers_example (by decide +kernel) (by decide +kernel) (by decide +kernel)⟩

theorem acceptable_exampleFilledSteps :
    StepsOk exampleBuyOrder.operations.step (Replies exampleBuyOrder.Acceptable)
      exampleBuyOrder.start exampleFilledSteps := by
  refine ⟨trivial, trivial, fun task htask => ?_, trivial⟩
  cases htask
  show exampleBuyOrder.Fits _ _ _ _ _
  unfold Fits
  rw [if_neg (by decide)]
  intro _
  exact .inr (by decide +kernel)

theorem fillsIn_exampleFilledSteps :
    (getLiveOrderLog (run exampleBuyOrder.operations.step exampleBuyOrder.start
        (exampleFilledSteps.take 3)).world.db "entry-1").map LiveOrderLog.status = some .filled
      ∧ exampleBuyOrder.FillsIn (run exampleBuyOrder.operations.step exampleBuyOrder.start
        (exampleFilledSteps.take 3)).world :=
  ⟨by decide +kernel, fillsIn_of_acceptable exampleBuyOrder exampleFilledSteps
    possible_exampleFilledSteps acceptable_exampleFilledSteps 3⟩

/-- **Rows become final too early**: the timed out order is canceled with a coin bought that is in
no position, and the one that an emergency could not cancel has failed while it waits. -/
theorem not_fillsIn_examples :
    (StepsOk exampleBuyOrder.operations.step
        (fun s e => Begins exampleBuyOrder.Concerns s e ∧ Replies exampleBuyOrder.Truthful s e)
        exampleBuyOrder.start exampleLateFillSteps
      ∧ ¬ exampleBuyOrder.FillsIn (run exampleBuyOrder.operations.step exampleBuyOrder.start
        exampleLateFillSteps).world)
    ∧ StepsOk exampleBuyOrder.operations.step
        (fun s e => Begins exampleBuyOrder.Concerns s e ∧ Replies exampleBuyOrder.Truthful s e)
        exampleBuyOrder.start exampleEmergencySteps
      ∧ ¬ exampleBuyOrder.FillsIn (run exampleBuyOrder.operations.step exampleBuyOrder.start
        exampleEmergencySteps).world := by
  have hconcerns : exampleBuyOrder.isExit = false
      ∧ exampleOpenSession.openOrderUuid = exampleBuyOrder.uuid := by decide
  refine ⟨⟨⟨⟨hconcerns, trivial⟩, ⟨trivial, fun task htask => ?_⟩, ⟨trivial, trivial⟩,
    ⟨trivial, trivial⟩, ⟨trivial, fun task htask => ?_⟩, trivial⟩, fun hfills => ?_⟩,
    ⟨⟨hconcerns, trivial⟩, ⟨trivial, fun task htask => ?_⟩, trivial⟩, fun hfills => ?_⟩
  · cases htask
    intro raw hraw
    cases hraw
    exact ⟨_, .refl _, answers_example (by decide +kernel) (by decide +kernel) (by decide +kernel)⟩
  · -- the operation has gone on to its cancel
    have hcancel : (manageOpenOrder { now := 5, secondsSinceOrder := 90 } exampleBuyOrder.db
        exampleOpenSession (.ok (exampleAnswer "wait" 0))).2 = some .unfilled := by decide +kernel
    have htasks : ((manageOpenOrder { now := 5, secondsSinceOrder := 90 } exampleBuyOrder.db
        exampleOpenSession (.ok (exampleAnswer "wait" 0))).2.map
          (OrderTask.manageCanceledOrder exampleOpenSession)).toList[0]? = some task := htask
    rw [hcancel] at htasks
    cases htasks
    trivial
  · -- one coin executed, none booked
    cases hrow : getLiveOrderLog (run exampleBuyOrder.operations.step exampleBuyOrder.start
        exampleLateFillSteps).world.db exampleBuyOrder.requestId with
    | none => exact absurd hrow (by decide +kernel)
    | some row =>
      have hstatus : (getLiveOrderLog (run exampleBuyOrder.operations.step exampleBuyOrder.start
          exampleLateFillSteps).world.db exampleBuyOrder.requestId).map LiveOrderLog.status
          = some .canceled := by decide +kernel
      rw [hrow, Option.map_some, Option.some.injEq] at hstatus
      exact absurd (hfills row hrow (by rw [hstatus]; rfl)).2 (by decide +kernel)
  · cases htask
    trivial
  · cases hrow : getLiveOrderLog (run exampleBuyOrder.operations.step exampleBuyOrder.start
        exampleEmergencySteps).world.db exampleBuyOrder.requestId with
    | none => exact absurd hrow (by decide +kernel)
    | some row =>
      have hstatus : (getLiveOrderLog (run exampleBuyOrder.operations.step exampleBuyOrder.start
          exampleEmergencySteps).world.db exampleBuyOrder.requestId).map LiveOrderLog.status
          = some .failed := by decide +kernel
      rw [hrow, Option.map_some, Option.some.injEq] at hstatus
      exact absurd (hfills row hrow (by rw [hstatus]; rfl)).1 (by decide +kernel)

end TrackedOrder

end AutoCoinBot
