/-
  LivePositionSync.BuyFillRuns — one entry and any number of scale-ins,
  synced in any order and any number of times.

  What the syncs read off the orders is a list of reports. A book keeps one report per order, and a
  later one replaces it only if its volume rose by more than the tolerance.
-/
import AutoCoinBot.Library.Book
import AutoCoinBot.LivePositionSync.Effects

namespace AutoCoinBot

open Library

/-! ## Runs of syncs and their reports -/

/-- A sync, or any change of the order logs between two syncs. -/
inductive BuyEvent where
  | sync (env : SyncEnv) (call : SyncCall)
  | orderLogs (table : Table LiveOrderLog) (unique : table.UniqueOn LiveOrderLog.requestId)

def BuyEvent.apply (db : Database) : BuyEvent → Database
  | .sync env call => (syncFilledEntryOrderToPosition env db call).1
  | .orderLogs table unique => { db with liveOrderLogs := table, requestId_unique := unique }

def BuyEvent.reports (db : Database) : BuyEvent → List FilledOrder
  | .sync _ call => (filledOrder db call.orderLog call.rawOrder call.session).toOption.toList
  | .orderLogs _ _ => []

def buyReports (db : Database) (events : List BuyEvent) : List FilledOrder :=
  outputs BuyEvent.apply BuyEvent.reports db events

/-- The figures of an order. -/
structure FillFigures where
  volume : ℚ
  amountKrw : ℚ
  fee : ℚ

/-- A report replaces another only if its volume rose by more than the tolerance. -/
def FillFigures.RisesOver (new old : FillFigures) : Prop :=
  deltaTolerance < new.volume - old.volume

instance : DecidableRel FillFigures.RisesOver := fun new old =>
  inferInstanceAs (Decidable (deltaTolerance < new.volume - old.volume))

def FilledOrder.fillFigures (f : FilledOrder) : FillFigures := ⟨f.volume, f.amount, f.fee⟩

def FilledOrder.report (f : FilledOrder) : String × FillFigures := (f.orderUuid, f.fillFigures)

def recordedFills (seen : List FilledOrder) : Book String FillFigures :=
  bookOf FillFigures.RisesOver (seen.map FilledOrder.report)

/-- No order's figure falls from one report to a later one. -/
def NonDecreasing (g : FilledOrder → ℚ) (seen : List FilledOrder) : Prop :=
  seen.Pairwise (fun f f' => f.orderUuid = f'.orderUuid → g f ≤ g f')

instance (g : FilledOrder → ℚ) (seen : List FilledOrder) : Decidable (NonDecreasing g seen) :=
  inferInstanceAs (Decidable (seen.Pairwise
    (fun f f' => f.orderUuid = f'.orderUuid → g f ≤ g f')))

/-- Whenever an order's volume or amount changes, its volume rises by more than the
tolerance. -/
def VisibleRises (seen : List FilledOrder) : Prop :=
  seen.Pairwise (fun f f' => f.orderUuid = f'.orderUuid →
    (f'.volume = f.volume ∧ f'.amount = f.amount) ∨ f'.fillFigures.RisesOver f.fillFigures)

/-- An entry order and the scale-ins that follow it. -/
structure BuyOrders where
  uuids : Finset String
  entry : String
  entry_mem : entry ∈ uuids

/-- No position, fill event or ledger row for the orders. -/
structure BuyOrders.Fresh (orders : BuyOrders) (db : Database) : Prop where
  position : ∀ p ∈ db.livePositions.rows, p.entryOrderUuid ≠ some orders.entry
  event : ∀ e ∈ db.positionFillEvents.rows, e.orderUuid ∉ orders.uuids
  ledger : ∀ l ∈ db.orderApplicationLedger.rows, l.orderUuid ∉ orders.uuids

/-- The order names no position and previews no scale-in. -/
def FilledOrder.PlainEntry (f : FilledOrder) : Prop :=
  truthyId (scalePreview f.canonicalLog).positionId = none
    ∧ (scalePreview f.canonicalLog).scaleIn = false
    ∧ truthyId (f.canonicalLog.bind LiveOrderLog.positionId) = none

instance (f : FilledOrder) : Decidable f.PlainEntry :=
  inferInstanceAs (Decidable (truthyId (scalePreview f.canonicalLog).positionId = none
    ∧ (scalePreview f.canonicalLog).scaleIn = false
    ∧ truthyId (f.canonicalLog.bind LiveOrderLog.positionId) = none))

/-- Cumulative reports of the orders, the entry's first; the others are scale-ins
previewed against the position. -/
structure BuyOrders.Reported (orders : BuyOrders) (positionId : ℕ) (seen : List FilledOrder) :
    Prop where
  mem : ∀ f ∈ seen, f.orderUuid ∈ orders.uuids
  entryFirst : ∀ f ∈ seen.head?, f.orderUuid = orders.entry ∧ f.PlainEntry
  scaleIn : ∀ f ∈ seen, f.orderUuid ≠ orders.entry →
    scalePreview f.canonicalLog = ⟨true, some positionId⟩
  volume : NonDecreasing FilledOrder.volume seen
  amount : NonDecreasing FilledOrder.amount seen

theorem BuyOrders.Reported.of_append {orders : BuyOrders} {positionId : ℕ}
    (seen rest : List FilledOrder) (h : orders.Reported positionId (seen ++ rest)) :
    orders.Reported positionId seen := by
  refine ⟨fun f hf => h.mem f (List.mem_append_left _ hf), fun f hf => h.entryFirst f ?_,
    fun f hf => h.scaleIn f (List.mem_append_left _ hf),
    (List.pairwise_append.mp h.volume).1, (List.pairwise_append.mp h.amount).1⟩
  rw [List.head?_append, Option.mem_def.mp hf]
  rfl

/-! ## The book of a list of reports -/

section Book

variable {seen : List FilledOrder} {f : FilledOrder} {uuid : String} {r : FillFigures}

theorem recordedFills_append :
    recordedFills (seen ++ [f])
      = (recordedFills seen).record FillFigures.RisesOver (f.orderUuid, f.fillFigures) := by
  unfold recordedFills
  rw [List.map_append]
  exact bookOf_append_singleton _

theorem recordedFills_mem (h : recordedFills seen uuid = some r) :
    ∃ f ∈ seen, f.orderUuid = uuid ∧ f.fillFigures = r := by
  obtain ⟨f, hf, hreport⟩ := List.mem_map.mp (bookOf_mem h)
  exact ⟨f, hf, Prod.mk.inj hreport⟩

theorem recordedFills_eq_none_iff :
    recordedFills seen uuid = none ↔ ∀ f ∈ seen, f.orderUuid ≠ uuid := by
  refine bookOf_eq_none_iff.trans ⟨fun h f hf huuid => ?_, fun h r hr => ?_⟩
  · exact h f.fillFigures (List.mem_map.mpr ⟨f, hf, by rw [FilledOrder.report, huuid]⟩)
  · obtain ⟨f, hf, hreport⟩ := List.mem_map.mp hr
    exact h f hf (Prod.mk.inj hreport).1

theorem volume_le_recordedFills (h : recordedFills seen uuid = some r) (hf : f ∈ seen)
    (huuid : f.orderUuid = uuid) : f.volume ≤ r.volume + deltaTolerance := by
  have htol := deltaTolerance_pos
  have hnot := bookOf_not_superseded (x := f.fillFigures)
    (fun a hrise => by unfold FillFigures.RisesOver at hrise; linarith)
    (fun a b c hab hbc => by unfold FillFigures.RisesOver at hab hbc ⊢; linarith) h
    (List.mem_map.mpr ⟨f, hf, by rw [FilledOrder.report, huuid]⟩)
  unfold FillFigures.RisesOver at hnot
  have hle := not_lt.mp hnot
  have : f.fillFigures.volume = f.volume := rfl
  linarith

theorem le_recordedFills {g : FillFigures → ℚ} (hg : NonDecreasing (fun f => g f.fillFigures) seen)
    (hvisible : seen.Pairwise (fun f f' => f.orderUuid = f'.orderUuid →
      g f'.fillFigures = g f.fillFigures ∨ f'.fillFigures.RisesOver f.fillFigures))
    (h : recordedFills seen uuid = some r) (hf : f ∈ seen) (huuid : f.orderUuid = uuid) :
    g f.fillFigures ≤ g r := by
  have hg' : (seen.map FilledOrder.report).Pairwise
      (fun x y => x.1 = y.1 → g x.2 ≤ g y.2) := List.pairwise_map.mpr hg
  have hvisible' : (seen.map FilledOrder.report).Pairwise
      (fun x y => x.1 = y.1 → g y.2 = g x.2 ∨ y.2.RisesOver x.2) := List.pairwise_map.mpr hvisible
  exact le_bookOf hg' hvisible' h (List.mem_map.mpr ⟨f, hf, by rw [FilledOrder.report, huuid]⟩)

end Book

/-! ## An order in the ledger and the fill events -/

/-- The order's ledger row and its only fill event show the figures; the event's fee is
left open. -/
structure ShowsFill (db : Database) (positionId : ℕ) (uuid : String) (r : FillFigures)
    (l : OrderApplication) (e : PositionFillEvent) : Prop where
  ledger : loadOrderApplicationLedger db uuid = some l
  event : ∀ ft, loadPositionFillEvent db uuid ft = if ft = l.fillType then some e else none
  ledgerPosition : l.positionId = positionId
  eventPosition : e.positionId = positionId
  ledgerFigures : (⟨l.appliedVolume, l.appliedAmountKrw, l.appliedFee⟩ : FillFigures) = r
  lastFigures : (⟨l.lastExchangeExecutedVolume, l.lastExchangeFilledAmountKrw,
    l.lastExchangePaidFee⟩ : FillFigures) = r
  eventVolume : e.appliedVolume = r.volume
  eventAmount : e.appliedAmountKrw = r.amountKrw

/-- Both databases know the same about an order. -/
structure SameOrder (db db' : Database) (uuid : String) : Prop where
  ledger : loadOrderApplicationLedger db uuid = loadOrderApplicationLedger db' uuid
  event : ∀ ft, loadPositionFillEvent db uuid ft = loadPositionFillEvent db' uuid ft

theorem SameFills.sameOrder {db db' : Database} (h : SameFills db db') (uuid : String) :
    SameOrder db db' uuid :=
  ⟨h.loadOrderApplicationLedger uuid, h.loadPositionFillEvent uuid⟩

theorem SameOrder.trans {db db' db'' : Database} {uuid : String} (h : SameOrder db db' uuid)
    (h' : SameOrder db' db'' uuid) : SameOrder db db'' uuid :=
  ⟨h.ledger.trans h'.ledger, fun ft => (h.event ft).trans (h'.event ft)⟩

theorem SameOrder.unknown {db db' : Database} {uuid : String} (h : SameOrder db db' uuid)
    (hnone : applicationOf db' uuid = none) : applicationOf db uuid = none := by
  rw [applicationOf_eq_none] at hnone ⊢
  exact ⟨h.ledger.trans hnone.1, fun ft => (h.event ft).trans (hnone.2 ft)⟩

theorem ShowsFill.congr {db db' : Database} {positionId : ℕ} {uuid : String} {r : FillFigures}
    {l : OrderApplication} {e : PositionFillEvent} (h : ShowsFill db' positionId uuid r l e)
    (hsame : SameOrder db db' uuid) : ShowsFill db positionId uuid r l e :=
  { h with
    ledger := hsame.ledger.trans h.ledger
    event := fun ft => (hsame.event ft).trans (h.event ft) }

section Records

variable (now : UtcTime) (db : Database) {uuid : String} (positionId : ℕ) (fillType : FillType)
  (source : String) (log : Option LiveOrderLog)

theorem showsFill_records (hnone : applicationOf db uuid = none) (v a fee : ℚ)
    (appliedAt : UtcTime) :
    ∃ l e, ShowsFill (applyWrites now db
        [fillEvent uuid positionId fillType source log v a fee appliedAt,
          recordLedger uuid positionId fillType source log v a fee])
        positionId uuid ⟨v, a, fee⟩ l e ∧ e.appliedFee = fee := by
  obtain ⟨hledger, hevents⟩ := (applicationOf_eq_none db).mp hnone
  -- the event is committed first and leaves the ledger alone
  set db' := (fillEvent uuid positionId fillType source log v a fee appliedAt).apply now db
  have hledger' : loadOrderApplicationLedger db' uuid = none := hledger
  set row : OrderApplication :=
    { orderUuid := uuid, positionId := positionId, fillType := fillType, appliedVolume := v
      appliedAmountKrw := a, appliedFee := fee, lastExchangeExecutedVolume := v
      lastExchangeFilledAmountKrw := a, lastExchangePaidFee := fee, source := source
      orderLogId := log.map LiveOrderLog.id, requestId := log.map LiveOrderLog.requestId }
  have hrow := loadOrderApplicationLedger_upsert db' row uuid
  rw [if_pos rfl, hledger', Option.elim_none] at hrow
  set event : PositionFillEvent :=
    { id := 0, orderUuid := uuid, positionId := positionId, fillType := fillType
      source := source, orderLogId := log.map LiveOrderLog.id
      requestId := log.map LiveOrderLog.requestId, appliedVolume := v, appliedAmountKrw := a
      appliedFee := fee, appliedAt := appliedAt }
  refine ⟨_, event.stored db.positionFillEvents.nextId now,
    { ledger := hrow, event := fun ft => ?_, ledgerPosition := rfl, eventPosition := rfl
      ledgerFigures := rfl, lastFigures := ?_, eventVolume := rfl, eventAmount := rfl }, rfl⟩
  -- the order had no event of any type, so the new one is its only one
  · have hload := loadPositionFillEvent_insert db (fun k => event.stored k now) (fun _ => rfl)
      uuid ft
    rw [hevents ft, Option.none_or] at hload
    refine hload.trans ?_
    show (if (uuid, fillType) = (uuid, ft) then _ else _) = if ft = fillType then _ else _
    by_cases hft : ft = fillType
    · rw [hft, if_pos rfl, if_pos rfl]
    · rw [if_neg (fun h => hft (Prod.mk.inj h).2.symm), if_neg hft]
  · simp [OrderApplication.excluded, row]

theorem sameOrder_records {u : String} (hu : u ≠ uuid) (v a fee : ℚ) (appliedAt : UtcTime) :
    SameOrder (applyWrites now db
        [fillEvent uuid positionId fillType source log v a fee appliedAt,
          recordLedger uuid positionId fillType source log v a fee]) db u := by
  refine ⟨?_, fun ft => ?_⟩
  · refine (loadOrderApplicationLedger_upsert _ _ u).trans (if_neg (Ne.symm hu))
  · refine (loadPositionFillEvent_insert db (fun k => (PositionFillEvent.stored _ k now))
      (fun _ => rfl) u ft).trans ?_
    show (loadPositionFillEvent db u ft).or (if (uuid, fillType) = (u, ft) then _ else _) = _
    rw [if_neg (fun h => hu (Prod.mk.inj h).1.symm), Option.or_none]

end Records

section Delta

variable (now : UtcTime) {db : Database} {positionId : ℕ} {f : FilledOrder} {r : FillFigures}
  {l : OrderApplication} {e : PositionFillEvent} (position : LivePosition) (source : String)

theorem ShowsFill.previous (h : ShowsFill db positionId f.orderUuid r l e) :
    l.previousVolume = r.volume ∧ l.previousAmount = r.amountKrw ∧ l.previousFee = r.fee := by
  obtain rfl := h.lastFigures
  have hboth := h.ledgerFigures
  simp only [FillFigures.mk.injEq] at hboth
  unfold OrderApplication.previousVolume OrderApplication.previousAmount
    OrderApplication.previousFee
  rw [hboth.1, hboth.2.1, hboth.2.2, orNum_self, orNum_self, orNum_self]
  exact ⟨rfl, rfl, rfl⟩

theorem ShowsFill.application (h : ShowsFill db positionId f.orderUuid r l e) :
    applicationOf db f.orderUuid = some l :=
  applicationOf_of_ledger db h.ledger

theorem showsFill_delta (h : ShowsFill db positionId f.orderUuid r l e)
    (hrises : f.fillFigures.RisesOver r) (hamount : r.amountKrw ≤ f.amount) :
    ∃ l' e', ShowsFill (applyWrites now db (deltaRecords db l position f source)) positionId
        f.orderUuid f.fillFigures l' e'
      ∧ (r.fee ≤ f.fee → e.appliedFee = r.fee → e'.appliedFee = f.fee) := by
  obtain ⟨hvolume, hprevAmount, hfee⟩ := h.previous
  have hevent : loadPositionFillEvent db f.orderUuid l.fillType = some e := by
    rw [h.event, if_pos rfl]
  set updates : PositionFillEventUpdates :=
    { source := source
      appliedVolume := e.appliedVolume + deltaVolume l f
      appliedAmountKrw := e.appliedAmountKrw + deltaAmount l f
      appliedFee := e.appliedFee + deltaFee l f } with hupdates
  -- position, event, ledger: the order has its event, so all three are written
  have hrecords : deltaRecords db l position f source
      = [.updateLivePosition l.positionId
          (deltaPositionUpdates position f (deltaVolume l f) (deltaAmount l f)),
        .updatePositionFillEvent e.id updates,
        recordLedger f.orderUuid l.positionId l.fillType source f.canonicalLog f.volume f.amount
          f.fee] := by
    unfold deltaRecords
    rw [hevent]
    rfl
  rw [hrecords]
  have hrow := loadOrderApplicationLedger_upsert
    ((SyncWrite.updatePositionFillEvent e.id updates).apply now
      ((SyncWrite.updateLivePosition l.positionId
        (deltaPositionUpdates position f (deltaVolume l f) (deltaAmount l f))).apply now db))
    { orderUuid := f.orderUuid, positionId := l.positionId, fillType := l.fillType
      appliedVolume := f.volume, appliedAmountKrw := f.amount, appliedFee := f.fee
      lastExchangeExecutedVolume := f.volume, lastExchangeFilledAmountKrw := f.amount
      lastExchangePaidFee := f.fee, source := source
      orderLogId := f.canonicalLog.map LiveOrderLog.id
      requestId := f.canonicalLog.map LiveOrderLog.requestId } f.orderUuid
  have hold : loadOrderApplicationLedger ((SyncWrite.updatePositionFillEvent e.id updates).apply now
      ((SyncWrite.updateLivePosition l.positionId
        (deltaPositionUpdates position f (deltaVolume l f) (deltaAmount l f))).apply now db))
      f.orderUuid = some l := h.ledger
  rw [if_pos rfl, hold, Option.elim_some] at hrow
  -- above the tolerance no difference is cut off at zero
  have hrise : 0 ≤ f.volume - r.volume := by
    exact (deltaTolerance_pos.trans hrises).le
  refine ⟨_, e.merge updates,
    { ledger := hrow, event := fun ft => ?_, ledgerPosition := h.ledgerPosition
      eventPosition := h.eventPosition, ledgerFigures := rfl, lastFigures := ?_
      eventVolume := ?_, eventAmount := ?_ }, fun hfees hexact => ?_⟩
  · refine (loadPositionFillEvent_update _ e.id updates f.orderUuid ft).trans ?_
    show (loadPositionFillEvent db f.orderUuid ft).map _ = if ft = l.fillType then _ else _
    rw [h.event]
    split <;> simp
  · simp [OrderApplication.excluded, OrderApplication.onConflict, FilledOrder.fillFigures]
  · show e.appliedVolume + deltaVolume l f = f.volume
    unfold deltaVolume
    rw [h.eventVolume, hvolume, max_eq_left hrise]
    ring
  · show e.appliedAmountKrw + deltaAmount l f = f.amount
    unfold deltaAmount
    rw [h.eventAmount, hprevAmount, max_eq_left (by linarith)]
    ring
  · show e.appliedFee + deltaFee l f = f.fee
    unfold deltaFee
    rw [hexact, hfee, max_eq_left (by linarith)]
    ring

theorem sameOrder_delta (h : ShowsFill db positionId f.orderUuid r l e) {u : String}
    (hu : u ≠ f.orderUuid) :
    SameOrder (applyWrites now db (deltaRecords db l position f source)) db u := by
  have hevent : loadPositionFillEvent db f.orderUuid l.fillType = some e := by
    rw [h.event, if_pos rfl]
  unfold deltaRecords
  rw [hevent]
  refine ⟨(loadOrderApplicationLedger_upsert _ _ u).trans (if_neg (Ne.symm hu)), fun ft => ?_⟩
  refine (loadPositionFillEvent_update _ e.id _ u ft).trans ?_
  show (loadPositionFillEvent db u ft).map _ = _
  cases hother : loadPositionFillEvent db u ft with
  | none => rfl
  | some e' =>
    -- another order's event has another key
    have hid : e'.id ≠ e.id := by
      intro hid
      have hmem : e ∈ db.positionFillEvents.rows := List.mem_of_find?_eq_some hevent
      have hmem' : e' ∈ db.positionFillEvents.rows := List.mem_of_find?_eq_some hother
      have heq : e' = e := List.inj_on_of_nodup_map db.positionFillEvents.nodup hmem' hmem hid
      refine hu ?_
      rw [← (loadPositionFillEvent_key db hother).1, heq]
      exact (loadPositionFillEvent_key db hevent).1
    simp [hid]

end Delta

/-! ## The tables follow the book -/

/-- The position, the ledger and the fill events show the book of the reports. -/
structure BuyOrders.Booked (orders : BuyOrders) (start db : Database) (seen : List FilledOrder) :
    Prop where
  before : seen = [] → db.livePositions = start.livePositions
  position : seen ≠ [] → ∃ p, loadLivePosition db start.livePositions.nextId = some p
    ∧ p.status = .opened
    ∧ p.entryVolume = (recordedFills seen).total orders.uuids FillFigures.volume
    ∧ p.entryAmountKrw = (recordedFills seen).total orders.uuids FillFigures.amountKrw
  unknown : ∀ u ∈ orders.uuids, recordedFills seen u = none → applicationOf db u = none
  shown : ∀ u ∈ orders.uuids, ∀ r, recordedFills seen u = some r →
    ∃ l e, ShowsFill db start.livePositions.nextId u r l e
      ∧ (NonDecreasing FilledOrder.fee seen → e.appliedFee = r.fee)

section Booked

variable {orders : BuyOrders} {start db db' : Database} {seen : List FilledOrder} {f : FilledOrder}

theorem BuyOrders.Booked.congr (h : orders.Booked start db' seen) (hsame : SameFills db db') :
    orders.Booked start db seen where
  before hnil := hsame.livePositions.trans (h.before hnil)
  position hseen := by rw [hsame.loadLivePosition]; exact h.position hseen
  unknown u hu hnone := (hsame.sameOrder u).unknown (h.unknown u hu hnone)
  shown u hu r hr := by
    obtain ⟨l, e, hshows, hfee⟩ := h.shown u hu r hr
    exact ⟨l, e, hshows.congr (hsame.sameOrder u), hfee⟩

theorem booked_start (hfresh : orders.Fresh start) : orders.Booked start start [] where
  before _ := rfl
  position h := absurd rfl h
  unknown u hu _ := by
    refine (applicationOf_eq_none start).mpr ⟨?_, fun ft => ?_⟩
    · refine List.find?_eq_none.mpr fun l hl huuid => hfresh.ledger l hl ?_
      rwa [of_decide_eq_true huuid]
    · refine List.find?_eq_none.mpr fun e he hkey => hfresh.event e he ?_
      have hkey' := (Prod.mk.inj (of_decide_eq_true hkey)).1
      rwa [hkey']
  shown u _ r hr := by cases hr

theorem recordedFills_self :
    recordedFills (seen ++ [f]) f.orderUuid
      = some (kept FillFigures.RisesOver (recordedFills seen f.orderUuid) f.fillFigures) := by
  rw [recordedFills_append]
  exact Book.record_self _ _

theorem recordedFills_of_ne {u : String} (hu : u ≠ f.orderUuid) :
    recordedFills (seen ++ [f]) u = recordedFills seen u := by
  rw [recordedFills_append]
  exact Book.record_of_ne _ _ hu

theorem BuyOrders.Booked.of_step (h : orders.Booked start db seen)
    (hother : ∀ u, u ≠ f.orderUuid → SameOrder db' db u)
    (hposition : ∃ p, loadLivePosition db' start.livePositions.nextId = some p
      ∧ p.status = .opened
      ∧ p.entryVolume = (recordedFills (seen ++ [f])).total orders.uuids FillFigures.volume
      ∧ p.entryAmountKrw
          = (recordedFills (seen ++ [f])).total orders.uuids FillFigures.amountKrw)
    (hown : ∃ l e, ShowsFill db' start.livePositions.nextId f.orderUuid
        (kept FillFigures.RisesOver (recordedFills seen f.orderUuid) f.fillFigures) l e
      ∧ (NonDecreasing FilledOrder.fee (seen ++ [f]) →
          e.appliedFee
            = (kept FillFigures.RisesOver (recordedFills seen f.orderUuid) f.fillFigures).fee)) :
    orders.Booked start db' (seen ++ [f]) where
  before hnil := absurd hnil (by simp)
  position _ := hposition
  unknown u hu hnone := by
    by_cases huuid : u = f.orderUuid
    · rw [huuid, recordedFills_self] at hnone
      cases hnone
    · rw [recordedFills_of_ne huuid] at hnone
      exact (hother u huuid).unknown (h.unknown u hu hnone)
  shown u hu r hr := by
    by_cases huuid : u = f.orderUuid
    · rw [huuid, recordedFills_self] at hr
      rw [huuid, ← Option.some.inj hr]
      exact hown
    · rw [recordedFills_of_ne huuid] at hr
      obtain ⟨l, e, hshows, hfee⟩ := h.shown u hu r hr
      exact ⟨l, e, hshows.congr (hother u huuid),
        fun hfees => hfee (List.pairwise_append.mp hfees).1⟩

theorem total_recordedFills (hmem : f.orderUuid ∈ orders.uuids) (g : FillFigures → ℚ) :
    (recordedFills (seen ++ [f])).total orders.uuids g
      = (recordedFills seen).total orders.uuids g
        + (g (kept FillFigures.RisesOver (recordedFills seen f.orderUuid) f.fillFigures)
          - (recordedFills seen f.orderUuid).elim 0 g) := by
  rw [recordedFills_append]
  exact Book.total_record _ hmem _ g

end Booked

/-! ## One accepted report -/

section Steps

variable {orders : BuyOrders} {start db : Database} {seen : List FilledOrder} {f : FilledOrder}
  {env : SyncEnv} {c : SyncCall}

theorem resolveScaleInTarget_plainEntry (session : SyncSession) (hplain : f.PlainEntry) :
    resolveScaleInTarget db session f.canonicalLog (scalePreview f.canonicalLog) = none := by
  obtain ⟨hid, hscale, hlog⟩ := hplain
  unfold resolveScaleInTarget
  simp only [hid, hscale, hlog, Option.none_or, Option.bind_none, Option.filter_none,
    Bool.false_eq_true, if_false, Option.map_none]

theorem resolveScaleInTarget_previewed (session : SyncSession) {positionId : ℕ}
    {p : LivePosition} (hload : loadLivePosition db positionId = some p)
    (hopened : p.status = .opened)
    (hpreview : scalePreview f.canonicalLog = ⟨true, some positionId⟩) :
    resolveScaleInTarget db session f.canonicalLog (scalePreview f.canonicalLog) = some p.id := by
  have hpos : positionId ≠ 0 := Nat.pos_iff_ne_zero.mp (Table.get?_pos hload)
  unfold resolveScaleInTarget
  rw [hpreview]
  simp only [truthyId_some hpos, Option.some_or, Option.bind_some, hload, Option.filter_some,
    hopened, beq_self_eq_true, if_true, Option.map_some]

theorem booked_create (h : orders.Booked start db []) (hfresh : orders.Fresh start)
    (hread : filledOrder db c.orderLog c.rawOrder c.session = .ok f)
    (hentry : f.orderUuid = orders.entry) (hplain : f.PlainEntry) :
    orders.Booked start (syncFilledEntryOrderToPosition env db c).1 ([] ++ [f]) := by
  have hmem : f.orderUuid ∈ orders.uuids := hentry ▸ orders.entry_mem
  have hpositions := h.before rfl
  have hunknown := h.unknown f.orderUuid hmem rfl
  -- no position carries the uuid, so the sync does not adopt one
  have hnew : loadLivePositionByEntryOrderUuid db c.session.exchange c.session.market f.orderUuid
      = none := by
    rw [Option.eq_none_iff_forall_ne_some]
    intro p hp
    obtain ⟨hload, -, huuid⟩ := loadLivePositionByEntryOrderUuid_mem hp
    refine hfresh.position p ?_ (huuid.trans (congrArg some hentry))
    rw [← hpositions]
    exact Table.get?_some_mem hload
  have hplan : (syncPlan env db c).1 = _ := syncPlan_create hread hunknown
    (resolveScaleInTarget_plainEntry c.session hplain) hnew
  have hfills := sameFills_sync hplan rfl rfl
    (by rw [List.filter_append, filter_recordsFill_attachLogs]; rfl)
  -- other orders, the position, the order's own records
  refine h.of_step (f := f) (fun u hu => (hfills.sameOrder u).trans ?_) ?_ ?_
  · exact (sameOrder_records env.now (withNewPosition env db f c.session)
      db.livePositions.nextId .entry c.source f.canonicalLog hu f.volume f.amount f.fee
      (f.appliedAt env)).trans ⟨rfl, fun _ => rfl⟩
  · refine ⟨(newPositionPayload env c.session f.canonicalLog f.orderUuid f.price f.volume
      f.amount).stored db.livePositions.nextId env.now, ?_, rfl, ?_, ?_⟩
    · rw [hfills.loadLivePosition, ← hpositions]
      exact Table.get?_insert_self db.livePositions _ (fun _ => rfl)
    · rw [total_recordedFills hmem]
      simp [recordedFills, Book.total, kept, newPositionPayload, LivePosition.stored,
        FilledOrder.fillFigures]
    · rw [total_recordedFills hmem]
      simp [recordedFills, Book.total, kept, newPositionPayload, LivePosition.stored,
        FilledOrder.fillFigures]
  · obtain ⟨l, e, hshows, hfee⟩ := showsFill_records env.now
      (withNewPosition env db f c.session) db.livePositions.nextId .entry c.source f.canonicalLog
      ((applicationOf_congr rfl rfl _).trans hunknown) f.volume f.amount f.fee (f.appliedAt env)
    rw [← hpositions]
    exact ⟨l, e, hshows.congr (hfills.sameOrder _), fun _ => hfee⟩

theorem booked_scaleIn (h : orders.Booked start db seen) (hseen : seen ≠ [])
    (hread : filledOrder db c.orderLog c.rawOrder c.session = .ok f)
    (hmem : f.orderUuid ∈ orders.uuids) (hfirst : recordedFills seen f.orderUuid = none)
    (hpreview : scalePreview f.canonicalLog = ⟨true, some start.livePositions.nextId⟩) :
    orders.Booked start (syncFilledEntryOrderToPosition env db c).1 (seen ++ [f]) := by
  obtain ⟨p, hload, hopened, hvolume, hamount⟩ := h.position hseen
  have hid : p.id = start.livePositions.nextId := loadLivePosition_id db _ hload
  have hunknown := h.unknown f.orderUuid hmem hfirst
  -- the previewed position is the one of the run, and it is open
  have htarget : scaleInTarget db c.session f = some p := by
    unfold scaleInTarget
    rw [resolveScaleInTarget_previewed c.session hload hopened hpreview, Option.bind_some, hid,
      hload, Option.filter_some, hopened]
    rfl
  have hplan : (syncPlan env db c).1 = _ := syncPlan_scaleIn hread hunknown htarget
  have hfills := sameFills_sync hplan rfl rfl
    (by rw [List.filter_append, filter_recordsFill_attachLogs]; rfl)
  refine h.of_step (fun u hu => (hfills.sameOrder u).trans ?_) ?_ ?_
  · refine SameOrder.trans ?_ (sameOrder_records env.now db p.id .scaleIn c.source
      f.canonicalLog hu f.volume f.amount f.fee (f.appliedAt env))
    exact ⟨rfl, fun _ => rfl⟩
  · refine ⟨p.merge (scaleInPositionUpdates env p f) env.now, ?_, rfl, ?_, ?_⟩
    · rw [hfills.loadLivePosition, ← hid]
      refine (loadLivePosition_update_self _ p.id _ env.now).trans ?_
      have hsame : loadLivePosition (applyWrites env.now db
          [fillEvent f.orderUuid p.id .scaleIn c.source f.canonicalLog f.volume f.amount f.fee
            (f.appliedAt env),
          recordLedger f.orderUuid p.id .scaleIn c.source f.canonicalLog f.volume f.amount f.fee])
          p.id = some p := hid ▸ hload
      exact congrArg (Option.map fun q => q.merge (scaleInPositionUpdates env p f) env.now) hsame
    · rw [total_recordedFills hmem, hfirst, ← hvolume]
      simp [kept, scaleInPositionUpdates, FilledOrder.fillFigures]
    · rw [total_recordedFills hmem, hfirst, ← hamount]
      simp [kept, scaleInPositionUpdates, FilledOrder.fillFigures]
  · obtain ⟨l, e, hshows, hfee⟩ := showsFill_records env.now db p.id .scaleIn c.source
      f.canonicalLog hunknown f.volume f.amount f.fee (f.appliedAt env)
    rw [hfirst, ← hid]
    refine ⟨l, e, hshows.congr ((hfills.sameOrder _).trans ⟨rfl, fun _ => rfl⟩), fun _ => hfee⟩

theorem booked_delta (h : orders.Booked start db seen)
    (hread : filledOrder db c.orderLog c.rawOrder c.session = .ok f)
    (hmem : f.orderUuid ∈ orders.uuids) {r : FillFigures}
    (hrecorded : recordedFills seen f.orderUuid = some r) (hamount : r.amountKrw ≤ f.amount)
    (hfee : NonDecreasing FilledOrder.fee (seen ++ [f]) → r.fee ≤ f.fee) :
    orders.Booked start (syncFilledEntryOrderToPosition env db c).1 (seen ++ [f]) := by
  have hseen : seen ≠ [] := by
    rintro rfl
    cases hrecorded
  obtain ⟨p, hload, hopened, hvolume, hamountKrw⟩ := h.position hseen
  obtain ⟨l, e, hshows, hexact⟩ := h.shown f.orderUuid hmem r hrecorded
  obtain ⟨hpreviousVolume, hpreviousAmount, -⟩ := hshows.previous
  have happlied := hshows.application
  -- the sync compares with the ledger row, the book with the recorded report: the same figures
  have hdelta : deltaTolerance < deltaVolume l f ↔ f.fillFigures.RisesOver r := by
    rw [deltaTolerance_lt_deltaVolume_iff, hpreviousVolume]
    rfl
  by_cases hrises : f.fillFigures.RisesOver r
  · have hload' : loadLivePosition db l.positionId = some p := by
      rw [hshows.ledgerPosition]; exact hload
    have hplan : (syncPlan env db c).1 = _ := syncPlan_delta hread happlied hload'
      (hdelta.mpr hrises)
    have hfills := sameFills_sync hplan (filter_recordsFill_attachLogs _ _)
      (filter_recordsFill_deltaRecords _ _ _ _ _)
      ((filter_recordsFill_cons_point _ _ _ _).trans (filter_recordsFill_finalizeIfEntry _ _))
    have hkept : kept FillFigures.RisesOver (recordedFills seen f.orderUuid) f.fillFigures
        = f.fillFigures := by
      rw [hrecorded]; exact if_pos hrises
    have hriseVolume : 0 ≤ f.volume - r.volume := by
      exact (deltaTolerance_pos.trans hrises).le
    refine h.of_step (fun u hu => (hfills.sameOrder u).trans ?_) ?_ ?_
    · exact sameOrder_delta env.now p c.source hshows hu
    · refine ⟨p.merge (deltaPositionUpdates p f (deltaVolume l f) (deltaAmount l f)) env.now, ?_,
        rfl, ?_, ?_⟩
      · rw [hfills.loadLivePosition, ← hshows.ledgerPosition]
        have hupdated := loadLivePosition_update_self db l.positionId
          (deltaPositionUpdates p f (deltaVolume l f) (deltaAmount l f)) env.now
        rw [hload'] at hupdated
        refine Eq.trans ?_ hupdated
        -- the event and the ledger leave the positions alone
        unfold deltaRecords
        cases loadPositionFillEvent db f.orderUuid l.fillType <;> rfl
      · rw [total_recordedFills hmem, hkept, hrecorded, ← hvolume]
        show p.entryVolume + deltaVolume l f = p.entryVolume + (f.volume - r.volume)
        unfold deltaVolume
        rw [hpreviousVolume, max_eq_left hriseVolume]
      · rw [total_recordedFills hmem, hkept, hrecorded, ← hamountKrw]
        show p.entryAmountKrw + deltaAmount l f = p.entryAmountKrw + (f.amount - r.amountKrw)
        unfold deltaAmount
        rw [hpreviousAmount, max_eq_left (sub_nonneg.mpr hamount)]
    · obtain ⟨l', e', hshows', hfee'⟩ := showsFill_delta env.now p c.source hshows hrises hamount
      rw [hkept]
      refine ⟨l', e', hshows'.congr (hfills.sameOrder _), fun hfees => ?_⟩
      exact hfee' (hfee hfees) (hexact (List.pairwise_append.mp hfees).1)
  · -- nothing is recorded
    have hkept : kept FillFigures.RisesOver (recordedFills seen f.orderUuid) f.fillFigures = r := by
      rw [hrecorded]; exact if_neg hrises
    have hplan : (syncPlan env db c).1.filter SyncWrite.recordsFill = [] := by
      unfold syncPlan
      rw [hread]
      simp only [syncFilledOrder, happlied]
      rw [filter_recordsFill_applyOrderUuidDelta, if_neg (fun hlt => hrises (hdelta.mp hlt))]
    have hfills : SameFills (syncFilledEntryOrderToPosition env db c).1 db := by
      have hsame := sameFills_applyWrites env.now db (syncPlan env db c).1
      rwa [hplan] at hsame
    refine h.of_step (fun u _ => hfills.sameOrder u) ⟨p, ?_, hopened, ?_, ?_⟩ ?_
    · rw [hfills.loadLivePosition]; exact hload
    · rw [total_recordedFills hmem, hkept, hrecorded, Option.elim_some, sub_self, add_zero]
      exact hvolume
    · rw [total_recordedFills hmem, hkept, hrecorded, Option.elim_some, sub_self, add_zero]
      exact hamountKrw
    · rw [hkept]
      exact ⟨l, e, hshows.congr (hfills.sameOrder _),
        fun hfees => hexact (List.pairwise_append.mp hfees).1⟩

theorem booked_report (hfresh : orders.Fresh start) (h : orders.Booked start db seen)
    (hreported : orders.Reported start.livePositions.nextId (seen ++ [f]))
    (hread : filledOrder db c.orderLog c.rawOrder c.session = .ok f) :
    orders.Booked start (syncFilledEntryOrderToPosition env db c).1 (seen ++ [f]) := by
  have hlast : f ∈ seen ++ [f] := List.mem_append_right _ List.mem_cons_self
  have hmem := hreported.mem f hlast
  by_cases hseen : seen = []
  · subst hseen
    obtain ⟨hentry, hplain⟩ := hreported.entryFirst f rfl
    exact booked_create h hfresh hread hentry hplain
  · cases hrecorded : recordedFills seen f.orderUuid with
    | none =>
      -- the entry has been seen, so this is another order
      refine booked_scaleIn h hseen hread hmem hrecorded (hreported.scaleIn f hlast ?_)
      obtain ⟨first, rest, rfl⟩ := List.exists_cons_of_ne_nil hseen
      have hentry := (hreported.entryFirst first rfl).1
      rw [← hentry]
      exact (recordedFills_eq_none_iff.mp hrecorded first List.mem_cons_self).symm
    | some r =>
      obtain ⟨earlier, hearlier, huuid, rfl⟩ := recordedFills_mem hrecorded
      refine booked_delta h hread hmem hrecorded ?_ (fun hfees => ?_)
      · exact (List.pairwise_append.mp hreported.amount).2.2 earlier hearlier f
          List.mem_cons_self huuid
      · exact (List.pairwise_append.mp hfees).2.2 earlier hearlier f List.mem_cons_self huuid

theorem booked_step (hfresh : orders.Fresh start) (event : BuyEvent)
    (h : orders.Booked start db seen)
    (hreported : orders.Reported start.livePositions.nextId (seen ++ event.reports db)) :
    orders.Booked start (event.apply db) (seen ++ event.reports db) := by
  cases event with
  | orderLogs table unique =>
    rw [show BuyEvent.reports db (.orderLogs table unique) = [] from rfl, List.append_nil]
    exact h.congr ⟨rfl, rfl, rfl⟩
  | sync env call =>
    cases hread : filledOrder db call.orderLog call.rawOrder call.session with
    -- a refused call writes nothing and reports nothing
    | error reason =>
      have hnone : BuyEvent.reports db (.sync env call) = [] := by
        show (filledOrder db call.orderLog call.rawOrder call.session).toOption.toList = []
        rw [hread]
        rfl
      have hsame : BuyEvent.apply db (.sync env call) = db := by
        show applyWrites env.now db (syncPlan env db call).1 = db
        unfold syncPlan
        rw [hread]
        rfl
      rw [hnone, List.append_nil, hsame]
      exact h
    | ok f =>
      have hone : BuyEvent.reports db (.sync env call) = [f] := by
        show (filledOrder db call.orderLog call.rawOrder call.session).toOption.toList = [f]
        rw [hread]
        rfl
      rw [hone] at hreported ⊢
      exact booked_report hfresh h hreported hread

end Steps

/-! ## Whole runs -/

/-- **Buy fills are applied once per order.** At every point of a run the position's
figures are the totals of the recorded reports, each order's ledger row and only fill
event show its recorded report, and the recorded report is one that was seen, of a
volume within the tolerance of the largest; where every change of the figures is
visible, it shows the largest figures seen. -/
theorem buyFills_applied_once (orders : BuyOrders) (db : Database) (events : List BuyEvent)
    (hfresh : orders.Fresh db)
    (hreported : orders.Reported db.livePositions.nextId (buyReports db events)) (n : ℕ) :
    let now := run BuyEvent.apply db (events.take n)
    let seen := buyReports db (events.take n)
    (seen ≠ [] → ∃ p, loadLivePosition now db.livePositions.nextId = some p
      ∧ p.entryVolume = (recordedFills seen).total orders.uuids FillFigures.volume
      ∧ p.entryAmountKrw = (recordedFills seen).total orders.uuids FillFigures.amountKrw)
    ∧ ∀ u ∈ orders.uuids, ∀ f ∈ seen, f.orderUuid = u →
        ∃ r l e, recordedFills seen u = some r
          ∧ loadOrderApplicationLedger now u = some l
          ∧ l.positionId = db.livePositions.nextId
          ∧ l.appliedVolume = r.volume ∧ l.appliedAmountKrw = r.amountKrw
          ∧ (∀ ft, loadPositionFillEvent now u ft = if ft = l.fillType then some e else none)
          ∧ e.positionId = l.positionId
          ∧ e.appliedVolume = l.appliedVolume ∧ e.appliedAmountKrw = l.appliedAmountKrw
          ∧ (NonDecreasing FilledOrder.fee seen → e.appliedFee = l.appliedFee)
          ∧ (∃ g ∈ seen, g.orderUuid = u ∧ g.fillFigures = r)
          ∧ f.volume ≤ r.volume + deltaTolerance
          ∧ (VisibleRises seen → f.volume ≤ r.volume ∧ f.amount ≤ r.amountKrw) := by
  intro now seen
  -- what is seen after `n` events begins what the run reports
  obtain ⟨rest, hrest⟩ := outputs_take_prefix BuyEvent.apply BuyEvent.reports db events n
  have hseen : orders.Reported db.livePositions.nextId seen :=
    BuyOrders.Reported.of_append seen rest (by rw [show seen ++ rest = _ from hrest]; exact hreported)
  have hbooked : orders.Booked db now seen :=
    run_outputs_invariant (orders.Reported db.livePositions.nextId)
      BuyOrders.Reported.of_append (fun _ _ event h hr => booked_step hfresh event h hr)
      (booked_start hfresh) hseen
  refine ⟨fun hne => ?_, fun u hu f hf huuid => ?_⟩
  · obtain ⟨p, hload, -, hvolume, hamount⟩ := hbooked.position hne
    exact ⟨p, hload, hvolume, hamount⟩
  · have hsome : recordedFills seen u ≠ none := by
      intro hnone
      exact recordedFills_eq_none_iff.mp hnone f hf huuid
    -- an order with a report has a recorded one, and its rows show it
    obtain ⟨r, hr⟩ := Option.ne_none_iff_exists'.mp hsome
    obtain ⟨l, e, hshows, hfee⟩ := hbooked.shown u hu r hr
    have hfigures := hshows.ledgerFigures
    obtain ⟨hv, ha, hf'⟩ : l.appliedVolume = r.volume ∧ l.appliedAmountKrw = r.amountKrw
        ∧ l.appliedFee = r.fee := by
      rw [← hfigures]
      exact ⟨rfl, rfl, rfl⟩
    refine ⟨r, l, e, hr, hshows.ledger, hshows.ledgerPosition, hv, ha, hshows.event, ?_, ?_, ?_,
      fun hfees => ?_, recordedFills_mem hr, volume_le_recordedFills hr hf huuid,
      fun hvisible => ⟨?_, ?_⟩⟩
    · rw [hshows.eventPosition, hshows.ledgerPosition]
    · rw [hshows.eventVolume, hv]
    · rw [hshows.eventAmount, ha]
    · rw [hfee hfees, hf']
    · refine le_recordedFills (g := FillFigures.volume) hseen.volume ?_ hr hf huuid
      exact hvisible.imp fun h huu => (h huu).imp_left And.left
    · refine le_recordedFills (g := FillFigures.amountKrw) hseen.amount ?_ hr hf huuid
      exact hvisible.imp fun h huu => (h huu).imp_left And.right

def exampleBuyOrders : BuyOrders where
  uuids := {"entry-uuid", "scale-uuid"}
  entry := "entry-uuid"
  entry_mem := by decide

/-- A sync that reads the executed figures off the raw order. -/
def exampleBuySync (uuid : String) (volume amount : ℚ) (preview : ScalePreview) : BuyEvent :=
  .sync { now := 10 }
    { orderLog := some (exampleBuyLog uuid volume amount preview)
      rawOrder := { executedVolume := some volume, executedFunds := some amount }
      source := "OPEN_ORDER_SYNC"
      session := exampleSession }

/-- A part of the entry, the scale-in, the rest of the entry, the scale-in once more. -/
def exampleBuys : List BuyEvent :=
  [exampleBuySync "entry-uuid" 1 100 {}, exampleBuySync "scale-uuid" 1 110 ⟨true, some 1⟩,
   exampleBuySync "entry-uuid" 2 201 {}, exampleBuySync "scale-uuid" 1 110 ⟨true, some 1⟩]

theorem buyFills_applied_once_example :
    ∃ p, loadLivePosition (run BuyEvent.apply {} (exampleBuys.take 4)) 1 = some p
      ∧ p.entryVolume = 3 ∧ p.entryAmountKrw = 311 := by
  have hrun := buyFills_applied_once exampleBuyOrders {} exampleBuys
    ⟨by decide, by decide, by decide⟩
    ⟨by decide +kernel, by decide +kernel, by decide +kernel, by decide +kernel,
      by decide +kernel⟩ 4
  obtain ⟨p, hload, hvolume, hamount⟩ := hrun.1 (by decide +kernel)
  exact ⟨p, hload, hvolume.trans (by decide +kernel), hamount.trans (by decide +kernel)⟩

/-- The entry seen twice with the same volume, the second time with a larger amount. -/
def exampleAmountRise : List BuyEvent :=
  [exampleBuySync "entry-uuid" 1 100 {}, exampleBuySync "entry-uuid" 1 110 {}]

/-- **The ignored amount.** The largest amount seen is 110, the position keeps 100. -/
theorem buyFills_amount_ignored :
    exampleBuyOrders.Fresh {}
      ∧ exampleBuyOrders.Reported 1 (buyReports {} exampleAmountRise)
      ∧ (buyReports {} exampleAmountRise).map FilledOrder.amount = [100, 110]
      ∧ (loadLivePosition (run BuyEvent.apply {} exampleAmountRise) 1).map
          LivePosition.entryAmountKrw = some 100 := by
  refine ⟨⟨by decide, by decide, by decide⟩,
    ⟨by decide +kernel, by decide +kernel, by decide +kernel, by decide +kernel,
      by decide +kernel⟩, by decide +kernel, by decide +kernel⟩

end AutoCoinBot
