/-
  LiveStrategyPilot.OrderWindow — the managers of app/live_strategy_pilot.py and
  app/live_exit.py that look for an order among the newest 300 rows.

  `_update_order_by_uuid` takes the newest row with the uuid, `manage_exit_order_timeout` the newest
  pending exit order of the position; both read no more than 300 rows.
-/
import AutoCoinBot.LiveStrategyPilot.OpenOrders

namespace AutoCoinBot

open Library

/-! ## The newest rows -/

/-- The place of a row in `ORDER BY created_at DESC, id DESC`. -/
def LiveOrderLog.place (r : LiveOrderLog) : ℤ ×ₗ ℕ := toLex (r.createdAt, r.id)

theorem LiveOrderLog.newer_iff (a b : LiveOrderLog) : a.newer b ↔ b.place ≤ a.place := by
  unfold LiveOrderLog.newer LiveOrderLog.place
  rw [Prod.Lex.le_iff]
  rfl

def newerRows (db : Database) (log : LiveOrderLog) : ℕ :=
  db.liveOrderLogs.rows.countP (fun r => decide (log.place < r.place))

theorem place_injOn {db : Database} {a b : LiveOrderLog} (ha : a ∈ db.liveOrderLogs.rows)
    (hb : b ∈ db.liveOrderLogs.rows) (h : a.place = b.place) : a = b :=
  Table.eq_of_rowId_eq ha hb (congrArg (fun p => (ofLex p).2) h)

/-- **The first of the newest 300 rows that is accepted**: no accepted row is newer, and fewer
than 300 rows are. -/
theorem find?_loadLiveOrderLogs_iff (db : Database) (q : LiveOrderLog → Bool)
    (log : LiveOrderLog) :
    (loadLiveOrderLogs db 300).find? q = some log
      ↔ log ∈ db.liveOrderLogs.rows ∧ q log = true
        ∧ (∀ r ∈ db.liveOrderLogs.rows, q r = true → r.place ≤ log.place)
        ∧ newerRows db log < 300 := by
  have hperm := List.perm_insertionSort LiveOrderLog.newer db.liveOrderLogs.rows
  have htotal : Std.Total LiveOrderLog.newer := by
    constructor
    intro a b
    rw [LiveOrderLog.newer_iff, LiveOrderLog.newer_iff]
    exact le_total _ _
  have htrans : IsTrans LiveOrderLog LiveOrderLog.newer := by
    constructor
    intro a b c
    rw [LiveOrderLog.newer_iff, LiveOrderLog.newer_iff, LiveOrderLog.newer_iff]
    exact fun hab hbc => le_trans hbc hab
  have hsorted : (db.liveOrderLogs.rows.insertionSort LiveOrderLog.newer).Pairwise
      (fun a b => b.place < a.place) := by
    have hle := List.pairwise_insertionSort LiveOrderLog.newer db.liveOrderLogs.rows
    have hnodup := hperm.nodup_iff.mpr (List.Nodup.of_map _ db.liveOrderLogs.nodup)
    refine (hle.and hnodup).imp_of_mem ?_
    intro a b ha hb hboth
    have ha' := (List.mem_insertionSort _).mp ha
    have hb' := (List.mem_insertionSort _).mp hb
    refine lt_of_le_of_ne ((LiveOrderLog.newer_iff a b).mp hboth.1) ?_
    exact fun h => hboth.2 (place_injOn ha' hb' h.symm)
  unfold loadLiveOrderLogs newerRows
  rw [Table.find?_take_of_sorted hsorted, hperm.countP_eq]
  simp only [List.mem_insertionSort]

/-! ## The rows that the managers find -/

/-- A row that is no status event to `_update_order_by_uuid`. -/
def hasUuid (orderUuid : String) (r : LiveOrderLog) : Bool :=
  r.orderUuid == some orderUuid && !isStrategyOrderEventRequest r.requestId

/-- An exit order of the position that waits. -/
def isPendingExit (positionId : ℕ) (r : LiveOrderLog) : Bool :=
  r.orderPurpose == .exit && r.positionId == some positionId
    && [OrderStatus.submitted, .waiting].contains r.status

theorem getLiveOrderLogByUuid_spec {db : Database} {orderUuid : String} {log : LiveOrderLog}
    (h : getLiveOrderLogByUuid db orderUuid = some log) :
    log ∈ db.liveOrderLogs.rows ∧ hasUuid orderUuid log = true := by
  have hmem := List.mem_of_mem_head? h
  rw [List.mem_insertionSort, Table.mem_select] at hmem
  obtain ⟨hrow, haccepted⟩ := hmem
  rw [Bool.and_eq_true, Bool.not_eq_true'] at haccepted
  refine ⟨hrow, ?_⟩
  unfold hasUuid
  rw [haccepted.1, Bool.true_and, Bool.not_eq_true']
  exact not_statusEvent_of_canonical haccepted.2

theorem recentOrderLog_iff {db : Database} {orderUuid : String} {log : LiveOrderLog}
    (h : getLiveOrderLogByUuid db orderUuid = some log) :
    recentOrderLog db orderUuid = some log
      ↔ newerRows db log < 300
        ∧ ∀ r ∈ db.liveOrderLogs.rows, hasUuid orderUuid r = true → r.place ≤ log.place := by
  obtain ⟨hrow, hhas⟩ := getLiveOrderLogByUuid_spec h
  have hfind := find?_loadLiveOrderLogs_iff db (hasUuid orderUuid) log
  unfold recentOrderLog
  constructor
  · intro hfound
    obtain ⟨-, -, hnewest, hcount⟩ := hfind.mp hfound
    exact ⟨hcount, hnewest⟩
  · intro hcondition
    exact hfind.mpr ⟨hrow, hhas, hcondition.2, hcondition.1⟩

theorem pendingExitOrder_iff {db : Database} {positionId : ℕ} {log : LiveOrderLog}
    (hrow : log ∈ db.liveOrderLogs.rows) (hpending : isPendingExit positionId log = true) :
    pendingExitOrder db positionId = some log
      ↔ newerRows db log < 300
        ∧ ∀ r ∈ db.liveOrderLogs.rows, isPendingExit positionId r = true → r.place ≤ log.place := by
  have hfind := find?_loadLiveOrderLogs_iff db (isPendingExit positionId) log
  unfold pendingExitOrder
  constructor
  · intro hfound
    obtain ⟨-, -, hnewest, hcount⟩ := hfind.mp hfound
    exact ⟨hcount, hnewest⟩
  · intro hcondition
    exact hfind.mpr ⟨hrow, hpending, hcondition.2, hcondition.1⟩

/-! ## Finding every order -/

/-- The request ids that `manage_exit_order_timeout` hands to `reconcile_exit_order`. -/
def reconciledExitOrders (db : Database) (positionId : ℕ) : List String :=
  (pendingExitOrder db positionId).toList.map LiveOrderLog.requestId

/-- Every order is found: an update by uuid writes the row that `get_live_order_log_by_uuid`
returns, and every exit order that waits is reconciled. -/
structure OrdersFound (db : Database) : Prop where
  byUuid : ∀ orderUuid log, getLiveOrderLogByUuid db orderUuid = some log →
    ∀ status response now, updateOrderByUuid db orderUuid status response now
      = updateLiveOrderLog db log.requestId (orderByUuidUpdates orderUuid status response) now
  exits : ∀ positionId, ∀ log ∈ db.liveOrderLogs.rows, isPendingExit positionId log = true →
    log.requestId ∈ reconciledExitOrders db positionId

/-- Every order is in the window, and no other one is in its way. -/
structure OrdersInWindow (db : Database) : Prop where
  byUuid : ∀ orderUuid log, getLiveOrderLogByUuid db orderUuid = some log →
    newerRows db log < 300
      ∧ ∀ r ∈ db.liveOrderLogs.rows, hasUuid orderUuid r = true → r.place ≤ log.place
  exits : ∀ positionId, ∀ log ∈ db.liveOrderLogs.rows, isPendingExit positionId log = true →
    newerRows db log < 300
      ∧ ∀ r ∈ db.liveOrderLogs.rows, isPendingExit positionId r = true → r = log

section Found

variable {db : Database}

theorem getLiveOrderLog_of_mem {log : LiveOrderLog} (h : log ∈ db.liveOrderLogs.rows) :
    getLiveOrderLog db log.requestId = some log := by
  have hsome : (getLiveOrderLog db log.requestId).isSome := by
    unfold getLiveOrderLog
    exact List.find?_isSome.mpr ⟨log, h, beq_self_eq_true _⟩
  obtain ⟨found, hfound⟩ := Option.isSome_iff_exists.mp hsome
  have hkey := getLiveOrderLog_requestId db _ hfound
  have hstored : found ∈ db.liveOrderLogs.rows := List.mem_of_find?_eq_some hfound
  rw [hfound, db.requestId_unique.eq_of_key hstored h hkey]

theorem updateOrderByUuid_eq_iff {orderUuid : String} {log : LiveOrderLog}
    (hrow : log ∈ db.liveOrderLogs.rows) :
    (∀ status response now, updateOrderByUuid db orderUuid status response now
        = updateLiveOrderLog db log.requestId (orderByUuidUpdates orderUuid status response) now)
      ↔ recentOrderLog db orderUuid = some log := by
  have hstored := getLiveOrderLog_of_mem hrow
  constructor
  · intro h
    -- an update that is later than the row shows in it
    have hlater := h .waiting {} (log.updatedAt + 1)
    have hwritten := getLiveOrderLog_update_self db log.requestId
      (orderByUuidUpdates orderUuid .waiting {}) (log.updatedAt + 1) hstored
    rw [← hlater] at hwritten
    have hnotSame : getLiveOrderLog (updateOrderByUuid db orderUuid .waiting {}
        (log.updatedAt + 1)) log.requestId ≠ some log := by
      intro hsame
      rw [hwritten] at hsame
      have htime := congrArg LiveOrderLog.updatedAt (Option.some.inj hsame)
      have hnow : log.updatedAt + 1 = log.updatedAt := htime
      exact absurd hnow (ne_of_gt (lt_add_one log.updatedAt))
    unfold updateOrderByUuid at hnotSame
    cases hrecent : recentOrderLog db orderUuid with
    | none =>
      rw [hrecent] at hnotSame
      exact absurd hstored hnotSame
    | some found =>
      rw [hrecent] at hnotSame
      by_cases hkey : log.requestId = found.requestId
      · have hfound : found ∈ db.liveOrderLogs.rows :=
          (List.mem_insertionSort _).mp (List.mem_of_mem_take (List.mem_of_find?_eq_some hrecent))
        rw [db.requestId_unique.eq_of_key hrow hfound hkey]
      · refine absurd ?_ hnotSame
        dsimp only
        rw [getLiveOrderLog_update_ne db _ _ _ hkey]
        exact hstored
  · intro h status response now
    unfold updateOrderByUuid
    rw [h]

theorem mem_reconciledExitOrders_iff {positionId : ℕ} {log : LiveOrderLog}
    (hrow : log ∈ db.liveOrderLogs.rows) :
    log.requestId ∈ reconciledExitOrders db positionId
      ↔ pendingExitOrder db positionId = some log := by
  unfold reconciledExitOrders
  cases hfound : pendingExitOrder db positionId with
  | none => simp
  | some found =>
    have hstored : found ∈ db.liveOrderLogs.rows :=
      (List.mem_insertionSort _).mp (List.mem_of_mem_take (List.mem_of_find?_eq_some hfound))
    rw [Option.toList_some, List.map_cons, List.map_nil, List.mem_singleton]
    constructor
    · intro hkey
      rw [db.requestId_unique.eq_of_key hrow hstored hkey]
    · intro hsame
      rw [Option.some.inj hsame]

theorem ordersFound_iff_inWindow (db : Database) : OrdersFound db ↔ OrdersInWindow db := by
  constructor
  · intro h
    refine ⟨?_, ?_⟩
    · intro orderUuid log hlog
      have hrow := (getLiveOrderLogByUuid_spec hlog).1
      exact (recentOrderLog_iff hlog).mp
        ((updateOrderByUuid_eq_iff hrow).mp (h.byUuid orderUuid log hlog))
    · intro positionId log hrow hpending
      have hfound := (mem_reconciledExitOrders_iff hrow).mp (h.exits positionId log hrow hpending)
      refine ⟨((pendingExitOrder_iff hrow hpending).mp hfound).1, ?_⟩
      intro r hr hpending'
      have hfound' := (mem_reconciledExitOrders_iff hr).mp (h.exits positionId r hr hpending')
      rw [hfound] at hfound'
      exact (Option.some.inj hfound').symm
  · intro h
    refine ⟨?_, ?_⟩
    · intro orderUuid log hlog
      have hrow := (getLiveOrderLogByUuid_spec hlog).1
      exact (updateOrderByUuid_eq_iff hrow).mpr
        ((recentOrderLog_iff hlog).mpr (h.byUuid orderUuid log hlog))
    · intro positionId log hrow hpending
      obtain ⟨hcount, honly⟩ := h.exits positionId log hrow hpending
      refine (mem_reconciledExitOrders_iff hrow).mpr
        ((pendingExitOrder_iff hrow hpending).mpr ⟨hcount, ?_⟩)
      intro r hr hpending'
      rw [honly r hr hpending']

end Found

/-! ## Blocked attempts -/

/-- The rows of blocked attempts, as they come with the ticks; none if one of them raises. -/
def insertAttempts : List (LiveOrderLog × UtcTime) → Database → Option Database
  | [], db => some db
  | attempt :: attempts, db =>
    (insertOrderRow db attempt.1 attempt.2).bind (insertAttempts attempts)

/-- A row that is `BLOCKED` and has no uuid. -/
def LiveOrderLog.IsAttempt (log : LiveOrderLog) : Prop :=
  log.status = .blocked ∧ log.orderUuid = none

section Attempts

variable {db db' : Database} {log : LiveOrderLog} {q : LiveOrderLog → Bool}

theorem newerRows_insertOrderRow {attempt : LiveOrderLog} {now : UtcTime}
    (h : insertOrderRow db attempt now = some db') (hrow : log ∈ db.liveOrderLogs.rows)
    (hnow : log.createdAt ≤ now) : newerRows db' log = newerRows db log + 1 := by
  have hid : log.id < db.liveOrderLogs.nextId := db.liveOrderLogs.rowId_lt log hrow
  have hnewer : log.place < (attempt.stored now db.liveOrderLogs.nextId).place := by
    unfold LiveOrderLog.place
    rw [Prod.Lex.lt_iff]
    rcases lt_or_eq_of_le hnow with hlt | heq
    · exact .inl hlt
    · exact .inr ⟨heq, hid⟩
  unfold newerRows
  rw [rows_insertOrderRow h, List.countP_append, List.countP_singleton, if_pos (by simpa using hnewer)]

/-- **Rows after blocked attempts**: a row stays, those that are accepted are the same, and each
attempt is in front of it. -/
theorem rows_insertAttempts {attempts : List (LiveOrderLog × UtcTime)}
    (h : insertAttempts attempts db = some db') (hrow : log ∈ db.liveOrderLogs.rows)
    (hlater : ∀ attempt ∈ attempts, log.createdAt ≤ attempt.2)
    (hq : ∀ attempt ∈ attempts, ∀ id, q (attempt.1.stored attempt.2 id) = false) :
    log ∈ db'.liveOrderLogs.rows
      ∧ (∀ r, q r = true → (r ∈ db'.liveOrderLogs.rows ↔ r ∈ db.liveOrderLogs.rows))
      ∧ newerRows db' log = newerRows db log + attempts.length := by
  induction attempts generalizing db with
  | nil =>
    rw [← Option.some.inj h]
    exact ⟨hrow, fun _ _ => Iff.rfl, rfl⟩
  | cons attempt attempts ih =>
    obtain ⟨mid, hinsert, hrest⟩ := Option.bind_eq_some_iff.mp h
    have hrows := rows_insertOrderRow hinsert
    have hmid : log ∈ mid.liveOrderLogs.rows := by
      rw [hrows]
      exact List.mem_append_left _ hrow
    have hcount := newerRows_insertOrderRow hinsert hrow (hlater attempt List.mem_cons_self)
    obtain ⟨hstored, hsame, hcounts⟩ := ih hrest hmid
      (fun a ha => hlater a (List.mem_cons_of_mem attempt ha))
      (fun a ha => hq a (List.mem_cons_of_mem attempt ha))
    refine ⟨hstored, ?_, ?_⟩
    · intro r hr
      rw [hsame r hr, hrows, List.mem_append, List.mem_singleton, or_iff_left_iff_imp]
      intro hnew
      rw [hnew, hq attempt List.mem_cons_self] at hr
      cases hr
    · rw [hcounts, hcount, List.length_cons]
      omega

/-- **What blocked attempts do to the window**: each pushes a row back by one, and none is found
in its place. -/
theorem find?_insertAttempts {attempts : List (LiveOrderLog × UtcTime)}
    (h : insertAttempts attempts db = some db') (hrow : log ∈ db.liveOrderLogs.rows)
    (hlater : ∀ attempt ∈ attempts, log.createdAt ≤ attempt.2)
    (hq : ∀ attempt ∈ attempts, ∀ id, q (attempt.1.stored attempt.2 id) = false) :
    (loadLiveOrderLogs db' 300).find? q = some log
      ↔ (loadLiveOrderLogs db 300).find? q = some log
        ∧ newerRows db log + attempts.length < 300 := by
  obtain ⟨hstored, hsame, hcount⟩ := rows_insertAttempts h hrow hlater hq
  have hnewest : (∀ r ∈ db'.liveOrderLogs.rows, q r = true → r.place ≤ log.place)
      ↔ ∀ r ∈ db.liveOrderLogs.rows, q r = true → r.place ≤ log.place := by
    constructor
    · intro hall r hr haccepted
      exact hall r ((hsame r haccepted).mpr hr) haccepted
    · intro hall r hr haccepted
      exact hall r ((hsame r haccepted).mp hr) haccepted
  rw [find?_loadLiveOrderLogs_iff, find?_loadLiveOrderLogs_iff, hnewest, hcount]
  constructor
  · intro hfound
    obtain ⟨-, haccepted, hall, hwindow⟩ := hfound
    exact ⟨⟨hrow, haccepted, hall, by omega⟩, hwindow⟩
  · intro hfound
    obtain ⟨⟨-, haccepted, hall, -⟩, hwindow⟩ := hfound
    exact ⟨hstored, haccepted, hall, hwindow⟩

theorem hasUuid_attempt {attempt : LiveOrderLog} (h : attempt.IsAttempt) (orderUuid : String)
    (now : UtcTime) (id : ℕ) : hasUuid orderUuid (attempt.stored now id) = false := by
  unfold hasUuid LiveOrderLog.stored
  rw [h.2]
  rfl

theorem isPendingExit_attempt {attempt : LiveOrderLog} (h : attempt.IsAttempt) (positionId : ℕ)
    (now : UtcTime) (id : ℕ) : isPendingExit positionId (attempt.stored now id) = false := by
  unfold isPendingExit LiveOrderLog.stored
  rw [h.1]
  exact Bool.and_false _

end Attempts

/-- **Orders and the newest 300 rows**: every order is found just if every order is in the window
and none in its way; and an order that a manager finds is lost to it as soon as the blocked
attempts since have pushed it out. -/
theorem ordersFound_iff (db : Database) :
    (OrdersFound db ↔ OrdersInWindow db)
      ∧ ∀ attempts db' log, insertAttempts attempts db = some db' →
        log ∈ db.liveOrderLogs.rows →
        (∀ attempt ∈ attempts, attempt.1.IsAttempt ∧ log.createdAt ≤ attempt.2) →
        (∀ orderUuid, recentOrderLog db' orderUuid = some log
          ↔ recentOrderLog db orderUuid = some log ∧ newerRows db log + attempts.length < 300)
        ∧ ∀ positionId, pendingExitOrder db' positionId = some log
          ↔ pendingExitOrder db positionId = some log
            ∧ newerRows db log + attempts.length < 300 := by
  refine ⟨ordersFound_iff_inWindow db, ?_⟩
  intro attempts db' log h hrow hattempts
  have hlater : ∀ attempt ∈ attempts, log.createdAt ≤ attempt.2 :=
    fun attempt hattempt => (hattempts attempt hattempt).2
  constructor
  · intro orderUuid
    exact find?_insertAttempts h hrow hlater
      (fun attempt hattempt id => hasUuid_attempt (hattempts attempt hattempt).1 orderUuid _ id)
  · intro positionId
    exact find?_insertAttempts h hrow hlater
      (fun attempt hattempt id =>
        isPendingExit_attempt (hattempts attempt hattempt).1 positionId _ id)

/-! ## Orders that are found, and orders that are not -/

theorem insertAttempts_isSome {db : Database} {attempts : List (LiveOrderLog × UtcTime)}
    (hfresh : ∀ attempt ∈ attempts, ∀ r ∈ db.liveOrderLogs.rows,
      r.requestId ≠ attempt.1.requestId)
    (hnodup : (attempts.map (fun attempt => attempt.1.requestId)).Nodup) :
    ∃ db', insertAttempts attempts db = some db' := by
  induction attempts generalizing db with
  | nil => exact ⟨db, rfl⟩
  | cons attempt attempts ih =>
    rw [List.map_cons, List.nodup_cons] at hnodup
    obtain ⟨mid, hmid⟩ : ∃ mid, insertOrderRow db attempt.1 attempt.2 = some mid := by
      unfold insertOrderRow
      rw [dif_pos (hfresh attempt List.mem_cons_self)]
      exact ⟨_, rfl⟩
    have hfresh' : ∀ a ∈ attempts, ∀ r ∈ mid.liveOrderLogs.rows,
        r.requestId ≠ a.1.requestId := by
      intro a ha r hr
      rw [rows_insertOrderRow hmid, List.mem_append, List.mem_singleton] at hr
      rcases hr with hold | hnew
      · exact hfresh a (List.mem_cons_of_mem attempt ha) r hold
      · intro hsame
        rw [hnew] at hsame
        refine hnodup.1 (List.mem_map.mpr ⟨a, ha, ?_⟩)
        exact hsame.symm
    obtain ⟨db', hdb'⟩ := ih hfresh' hnodup.2
    refine ⟨db', ?_⟩
    unfold insertAttempts
    rw [hmid]
    exact hdb'

def waitingExit : LiveOrderLog :=
  { id := 1, requestId := "exit-1", exchange := "bithumb", market := "KRW-BTC", side := .sell
    status := .waiting, orderUuid := some "uuid-1", positionId := some 7, orderPurpose := .exit }

def waitingExitDb : Database := (insertOrderRow {} waitingExit 0).getD {}

/-- Blocked attempts after it, each with a request id of its own. -/
def blockedAttempts (count : ℕ) : List (LiveOrderLog × UtcTime) :=
  (List.range count).map (fun k : ℕ =>
    ({ id := 0, requestId := String.ofList (List.replicate (k + 1) 'b'), status := .blocked },
      (k : ℤ)))

theorem length_blockedAttempts (count : ℕ) : (blockedAttempts count).length = count := by
  unfold blockedAttempts
  rw [List.length_map, List.length_range]

theorem blockedAttempts_spec (count : ℕ) : ∀ attempt ∈ blockedAttempts count,
    attempt.1.IsAttempt ∧ waitingExit.createdAt ≤ attempt.2 := by
  intro attempt hattempt
  obtain ⟨k, -, rfl⟩ := List.mem_map.mp hattempt
  exact ⟨⟨rfl, rfl⟩, Int.natCast_nonneg k⟩

theorem blockedAttempts_isSome (count : ℕ) :
    ∃ db', insertAttempts (blockedAttempts count) waitingExitDb = some db' := by
  have hrows : waitingExitDb.liveOrderLogs.rows = [waitingExit] := by decide +kernel
  refine insertAttempts_isSome ?_ ?_
  · intro attempt hattempt r hr
    obtain ⟨k, -, rfl⟩ := List.mem_map.mp hattempt
    rw [hrows, List.mem_singleton] at hr
    intro hsame
    have hchars := congrArg String.toList hsame
    rw [hr, String.toList_ofList, List.replicate_succ] at hchars
    -- 'e' is not 'b'
    have hhead := congrArg List.head? hchars
    rw [List.head?_cons] at hhead
    exact absurd hhead (by decide)
  · unfold blockedAttempts
    rw [List.map_map]
    refine List.Nodup.map ?_ List.nodup_range
    intro j k hjk
    have hchars := congrArg String.toList hjk
    simp only [Function.comp_apply, String.toList_ofList] at hchars
    have hlength := congrArg List.length hchars
    rw [List.length_replicate, List.length_replicate] at hlength
    omega

theorem waitingExit_found :
    ∃ db', insertAttempts (blockedAttempts 1) waitingExitDb = some db'
      ∧ recentOrderLog db' "uuid-1" = some waitingExit
      ∧ pendingExitOrder db' 7 = some waitingExit := by
  obtain ⟨db', hdb'⟩ := blockedAttempts_isSome 1
  have hfound := (ordersFound_iff waitingExitDb).2 (blockedAttempts 1) db' waitingExit hdb'
    (by decide +kernel) (blockedAttempts_spec 1)
  exact ⟨db', hdb', (hfound.1 "uuid-1").mpr (by decide +kernel),
    (hfound.2 7).mpr (by decide +kernel)⟩

theorem hidden_of_attempts {count : ℕ} {db' : Database} (hcount : 300 ≤ count)
    (h : insertAttempts (blockedAttempts count) waitingExitDb = some db') :
    waitingExit ∈ db'.liveOrderLogs.rows
      ∧ recentOrderLog db' "uuid-1" ≠ some waitingExit
      ∧ pendingExitOrder db' 7 ≠ some waitingExit := by
  have hrow : waitingExit ∈ waitingExitDb.liveOrderLogs.rows := by decide +kernel
  have hlength := length_blockedAttempts count
  have hspec := blockedAttempts_spec count
  generalize blockedAttempts count = attempts at h hlength hspec
  have hlater : ∀ attempt ∈ attempts, waitingExit.createdAt ≤ attempt.2 :=
    fun attempt hattempt => (hspec attempt hattempt).2
  have huuidFalse : ∀ attempt ∈ attempts, ∀ id,
      hasUuid "uuid-1" (attempt.1.stored attempt.2 id) = false :=
    fun attempt hattempt id => hasUuid_attempt (hspec attempt hattempt).1 "uuid-1" _ id
  have hpendingFalse : ∀ attempt ∈ attempts, ∀ id,
      isPendingExit 7 (attempt.1.stored attempt.2 id) = false :=
    fun attempt hattempt id => isPendingExit_attempt (hspec attempt hattempt).1 7 _ id
  refine ⟨(rows_insertAttempts h hrow hlater hpendingFalse).1, ?_, ?_⟩
  · intro hfound
    have hwindow := ((find?_insertAttempts h hrow hlater huuidFalse).mp hfound).2
    omega
  · intro hfound
    have hwindow := ((find?_insertAttempts h hrow hlater hpendingFalse).mp hfound).2
    omega

/-- **300 blocked attempts hide an order** from both managers. -/
theorem waitingExit_hidden :
    ∃ db', insertAttempts (blockedAttempts 300) waitingExitDb = some db'
      ∧ waitingExit ∈ db'.liveOrderLogs.rows
      ∧ recentOrderLog db' "uuid-1" ≠ some waitingExit
      ∧ pendingExitOrder db' 7 ≠ some waitingExit ∧ ¬ OrdersFound db' := by
  obtain ⟨db', hdb'⟩ := blockedAttempts_isSome 300
  obtain ⟨hstored, huuid, hhidden⟩ := hidden_of_attempts (le_refl 300) hdb'
  refine ⟨db', hdb', hstored, huuid, hhidden, ?_⟩
  intro h
  exact hhidden ((mem_reconciledExitOrders_iff hstored).mp
    (h.exits 7 waitingExit hstored (by decide +kernel)))

end AutoCoinBot
