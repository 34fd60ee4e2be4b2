/-
  LiveRecovery.FinishedOrders — what the status recheck makes of an order that has
  ended.

  An order that the exchange has executed in part and then canceled still reads as
  `PARTIALLY_FILLED`, and the status path leaves exit candidates alone.
-/
import AutoCoinBot.LiveRecovery.HeldVolume
import AutoCoinBot.LiveRecovery.OrderCalls

namespace AutoCoinBot

open Library

/-! ## Ended orders -/

/-- An order that has ended, as the exchange returns it. -/
structure FinishedDetail where
  raw : RawOrder
  ended : ["done", "filled", "completed"].contains raw.rawState = true
    ∨ canceledStates.contains raw.rawState = true
  ordered_pos : 0 < toFloat raw.volume
  executed_nonneg : 0 ≤ toFloat raw.executedVolume
  executed_le : toFloat raw.executedVolume ≤ toFloat raw.volume
  remaining : toFloat raw.remainingVolume = toFloat raw.volume - toFloat raw.executedVolume
    ∨ toFloat raw.remainingVolume = 0
  price_nonneg : 0 ≤ toFloat raw.price
  paidAmount_nonneg : 0 ≤ toFloat raw.paidAmount
  executedFunds_nonneg : 0 ≤ toFloat raw.executedFunds
  filledAmountKrw_nonneg : 0 ≤ toFloat raw.filledAmountKrw

namespace FinishedDetail

variable (o : FinishedDetail)

def executed : ℚ := toFloat o.raw.executedVolume

def ordered : ℚ := toFloat o.raw.volume

def PartlyExecuted : Prop := 0 < o.executed ∧ o.executed < o.ordered

def ReadsFilled : Prop :=
  ["done", "filled", "completed"].contains o.raw.rawState = true ∨ 0 < o.executed

instance : Decidable o.PartlyExecuted := by unfold PartlyExecuted; infer_instance
instance : Decidable o.ReadsFilled := by unfold ReadsFilled; infer_instance

theorem remaining_corrected (hpos : 0 < o.executed) :
    (if toFloat o.raw.remainingVolume ≤ 0 ∧ toFloat o.raw.volume > 0
        ∧ toFloat o.raw.executedVolume > 0
      then max (toFloat o.raw.volume - toFloat o.raw.executedVolume) 0
      else toFloat o.raw.remainingVolume) = o.ordered - o.executed := by
  split_ifs with h
  · exact max_eq_left (sub_nonneg.mpr o.executed_le)
  · rcases o.remaining with hrest | hrest
    · exact hrest
    · exact absurd ⟨hrest.le, o.ordered_pos, hpos⟩ h

/-- **What an ended order reads as.** -/
theorem status_normalizeExchangeOrder :
    (normalizeExchangeOrder o.raw).status
      = if o.PartlyExecuted then .partiallyFilled
        else if o.ReadsFilled then .filled else .canceled := by
  by_cases hpos : 0 < o.executed
  · have hrest := o.remaining_corrected hpos
    simp only [normalizeExchangeOrder, hrest]
    by_cases hpart : o.executed < o.ordered
    · have hboth : o.PartlyExecuted := ⟨hpos, hpart⟩
      rw [if_pos ⟨hpos, sub_pos.mpr hpart⟩, if_pos hboth]
    · have hdone : o.ordered - o.executed ≤ 0 := sub_nonpos.mpr (not_lt.mp hpart)
      have hnot : ¬ (toFloat o.raw.executedVolume > 0 ∧ o.ordered - o.executed > 0) :=
        fun h => absurd h.2 (not_lt.mpr hdone)
      have hwhole : ¬ o.PartlyExecuted := fun h => hpart h.2
      have hfilled : o.ReadsFilled := .inr hpos
      rw [if_neg hnot, if_pos (.inr ⟨hpos, hdone⟩), if_neg hwhole, if_pos hfilled]
  · -- nothing is executed: the state text decides
    have hzero : ¬ toFloat o.raw.executedVolume > 0 := hpos
    have hnone : ¬ o.PartlyExecuted := fun h => hpos h.1
    rw [if_neg hnone]
    simp only [normalizeExchangeOrder, hzero, false_and, if_false, or_false]
    by_cases hdone : ["done", "filled", "completed"].contains o.raw.rawState = true
    · have hfilled : o.ReadsFilled := .inl hdone
      rw [if_pos hdone, if_pos hfilled]
    · have hcanceled := o.ended.resolve_left hdone
      have hnot : ¬ o.ReadsFilled := fun h => h.elim hdone hpos
      rw [if_neg hdone, if_pos hcanceled, if_neg hnot]

end FinishedDetail

/-- The row of an order that is not resolved yet, and the order as it ended. -/
structure FinishedOrder extends FinishedDetail where
  db : Database
  log : LiveOrderLog
  stored : getLiveOrderLog db log.requestId = some log
  unresolved : log.status.isUnresolved = true
  kind : (log.side = .buy ∧ log.orderPurpose = .entry) ∨ log.orderPurpose = .exit
  own_uuid : ∀ r ∈ db.liveOrderLogs.rows, toText r.orderUuid ≠ "" →
    r.orderUuid = log.orderUuid → r.requestId = log.requestId
  same_order : raw.orderUuid = "" ∨ some raw.orderUuid = log.orderUuid
  same_volume : toFloat log.volume = toFloat raw.volume
  price_pos : 0 < toFloat log.price

/-! ## Resolved orders -/

/-- `str(exit_candidate.get("status")).upper() == "SUBMITTED"`. -/
def ExitCandidateStatus.isSubmitted : ExitCandidateStatus → Bool
  | .submitted | .order .submitted => true
  | _ => false

def namedExitCandidate (db : Database) (log : LiveOrderLog) : Option ExitCandidate :=
  (truthyId log.exitCandidateId).bind db.exitCandidates.get?

def hasOpenExitOrder (db : Database) (positionId : ℕ) : Bool :=
  db.liveOrderLogs.rows.any (fun r =>
    r.positionId == some positionId && r.orderPurpose == .exit && r.status.isUnresolved
      && !liveOrderEventRequestIdFilter r.requestId)

/-- The volume of a buy order that positions are known to have. -/
def entryRecorded (db : Database) (exchange market orderUuid : String) : ℚ :=
  match applicationOf db orderUuid with
  | some ledger =>
    if (loadLivePosition db ledger.positionId).isSome then ledger.previousVolume else 0
  | none =>
    ((loadLivePositionByEntryOrderUuid db exchange market orderUuid).map
      LivePosition.entryVolume).getD 0

namespace FinishedOrder

variable (o : FinishedOrder)

def uuid : String := toText o.log.orderUuid

/-- The executed volume that the positions do not show yet. The row of an exit order has what
they have given up. -/
def missing : ℚ :=
  max (o.executed
    - if isExitOrder o.log then o.log.executedVolume
      else entryRecorded o.db (orText o.log.exchange "bithumb") (orText o.log.market "KRW-BTC")
        o.uuid) 0

/-- A change of the volume held that is the missing volume, but for dust. -/
def Covers (change : ℚ) : Prop := |change - o.missing| ≤ balanceMismatchVolumeTolerance

/-- What the positions have got from a buy order, or given to a sale. -/
def changeTo (after : Database) : ℚ :=
  if isExitOrder o.log then heldVolume o.db - heldVolume after
  else heldVolume after - heldVolume o.db

/-- **The order is resolved**: its row, its volume and its exit candidate. -/
structure Resolved (after : Database) : Prop where
  row : ∃ row, getLiveOrderLog after o.log.requestId = some row
    ∧ row.status.isUnresolved = false
  volume : o.Covers (o.changeTo after)
  candidate : ∀ c ∈ namedExitCandidate after o.log, c.status.isSubmitted = false

end FinishedOrder

/-! ## What the recheck does to the volume -/

/-- The session a filled entry order is synced in, if its row lets it. -/
def entrySession (log : LiveOrderLog) (orderUuid : String) : Option SyncSession :=
  if (truthyId log.positionId).isSome ∧ log.orderPreviewPayload.scaleIn.scaleIn = false then none
  else
    match log.sessionId, log.candidateStrategyId with
    | some sessionId, some candidateStrategyId =>
      some
        { id := sessionId
          exchange := orText log.exchange "bithumb"
          market := orText log.market "KRW-BTC"
          candidateStrategyId := candidateStrategyId
          currentOpenOrderUuid := some orderUuid }
    | _, _ => none

namespace FinishedOrder

variable (o : FinishedOrder)

/-- What the rows of an exit order's positions give to a fill, or a cancel brings back. -/
def exitChange (fill : ℚ) : ℚ :=
  if o.ReadsFilled then exitGives o.db o.log fill else - exitReopens o.db o.log

/-- What the rows take of a buy order; the sync reads the ordered volume if none is executed. -/
def entryChange : ℚ :=
  if o.ReadsFilled then
    (entrySession o.log o.uuid).elim 0
      (fun session => entryGains o.db session o.log o.uuid (orNum o.executed o.ordered))
  else 0

/-- The change on the status path: an exit order sells what its row has not seen yet. -/
def statusChange : ℚ :=
  if isExitOrder o.log then o.exitChange (max (o.executed - o.log.executedVolume) 0)
  else o.entryChange

/-- The exit candidate is not `SUBMITTED` to begin with. -/
def CandidateFree : Prop := ∀ c ∈ namedExitCandidate o.db o.log, c.status.isSubmitted = false

end FinishedOrder

section Exit

variable {db db' : Database} {log log' : LiveOrderLog}

theorem positionForExitOrder_congr (hdb : db'.livePositions = db.livePositions)
    (hposition : log'.positionId = log.positionId) (huuid : log'.orderUuid = log.orderUuid)
    (hexchange : log'.exchange = log.exchange) (hmarket : log'.market = log.market) :
    positionForExitOrder db' log' = positionForExitOrder db log := by
  unfold positionForExitOrder loadOpenLivePositions selectActivePositions
  rw [funext (loadLivePosition_congr hdb), hdb, hposition, huuid, hexchange, hmarket]

theorem exitGives_congr (hdb : db'.livePositions = db.livePositions)
    (hposition : log'.positionId = log.positionId) (huuid : log'.orderUuid = log.orderUuid)
    (hexchange : log'.exchange = log.exchange) (hmarket : log'.market = log.market)
    (hpreview : log'.orderPreviewPayload = log.orderPreviewPayload) (fill : ℚ) :
    exitGives db' log' fill = exitGives db log fill
      ∧ exitReopens db' log' = exitReopens db log := by
  have hids : aggregateExitPositionIds log' = aggregateExitPositionIds log := by
    unfold aggregateExitPositionIds
    rw [hpreview]
  have hgives : ∀ ids rest, givesInTurn db' ids rest = givesInTurn db ids rest :=
    fun ids rest => givesInTurn_congr (fun i _ => loadLivePosition_congr hdb i) rest
  have hshown : shownBeyondHeld db' = shownBeyondHeld db := by
    funext i
    unfold shownBeyondHeld
    rw [loadLivePosition_congr hdb]
  unfold exitGives exitReopens
  rw [positionForExitOrder_congr hdb hposition huuid hexchange hmarket, hids, hshown]
  simp only [hgives, and_self]

end Exit

namespace FinishedOrder

variable (o : FinishedOrder)

theorem orderUuid_reconciled :
    (if o.raw.orderUuid = "" then o.log.orderUuid else some o.raw.orderUuid) = o.log.orderUuid := by
  split_ifs with h
  · rfl
  · exact o.same_order.resolve_left h

/-- **What an exit sync changes**, given the fill it is told of. -/
theorem heldVolume_exitSync (hwhole : ¬ o.PartlyExecuted) {db' : Database}
    (hdb : db'.livePositions = o.db.livePositions) {log' : ExitOrderLog}
    (hposition : log'.positionId = o.log.positionId) (huuid : log'.orderUuid = o.log.orderUuid)
    (hexchange : log'.exchange = o.log.exchange) (hmarket : log'.market = o.log.market)
    (hpreview : log'.orderPreviewPayload = o.log.orderPreviewPayload) (now : UtcTime) :
    heldVolume o.db
        - heldVolume (syncExitOrderPosition db' log' (normalizeExchangeOrder o.raw) now)
      = o.exitChange (exitFillDelta log' (normalizeExchangeOrder o.raw)).volume := by
  have hstatus := o.status_normalizeExchangeOrder
  rw [if_neg hwhole] at hstatus
  obtain ⟨hgives, hreopens⟩ := exitGives_congr hdb hposition huuid hexchange hmarket hpreview
    (exitFillDelta log' (normalizeExchangeOrder o.raw)).volume
  unfold exitChange
  split_ifs at hstatus ⊢ with hfilled
  · rw [heldVolume_syncExitOrderPosition_filled log' hstatus, hgives, heldVolume_congr hdb]
    ring
  · rw [heldVolume_syncExitOrderPosition_canceled log' hstatus, hreopens, heldVolume_congr hdb]
    ring

end FinishedOrder

/-! ## The entry sync of the order -/

theorem orNum_pos {a b : ℚ} (ha : 0 ≤ a) (hb : 0 < b) : 0 < orNum a b := by
  unfold orNum
  split_ifs with h
  · exact hb
  · exact lt_of_le_of_ne ha (Ne.symm h)

theorem canonicalLog_of_only {db : Database} (orderLog : Option LiveOrderLog) {uuid : String}
    (hne : uuid ≠ "") {row : LiveOrderLog} (hmem : row ∈ db.liveOrderLogs.rows)
    (huuid : row.orderUuid = some uuid)
    (honly : ∀ r ∈ db.liveOrderLogs.rows, r.orderUuid = some uuid → r = row) :
    (canonicalLog db orderLog uuid).1 = some row := by
  have hloaded : ∀ r, r ∈ loadLiveOrderLogsByUuid db uuid
      ↔ r ∈ db.liveOrderLogs.rows ∧ r.orderUuid = some uuid := by
    intro r
    unfold loadLiveOrderLogsByUuid
    rw [List.mem_insertionSort, Table.mem_select, beq_iff_eq]
  have hlogs : loadLiveOrderLogsByUuid db uuid ≠ [] :=
    List.ne_nil_of_mem ((hloaded row).mpr ⟨hmem, huuid⟩)
  obtain ⟨best, hbest, hcanonical, -⟩ := canonicalLog_spec db orderLog hne hlogs
  obtain ⟨hstored, hsame⟩ := (hloaded best).mp hbest
  rw [hcanonical, honly best hstored hsame]

theorem entryGains_congr {db db' : Database} (h : SameFills db' db) (session : SyncSession)
    {log log' : LiveOrderLog} (hposition : log'.positionId = log.positionId)
    (hexchange : log'.exchange = log.exchange) (hmarket : log'.market = log.market)
    (hcandidate : log'.candidateStrategyId = log.candidateStrategyId)
    (hpreview : log'.orderPreviewPayload = log.orderPreviewPayload) (uuid : String) (volume : ℚ) :
    entryGains db' session log' uuid volume = entryGains db session log uuid volume := by
  have htarget : resolveScaleInTarget db' session (some log') log'.orderPreviewPayload.scaleIn
      = resolveScaleInTarget db session (some log) log.orderPreviewPayload.scaleIn := by
    rw [h.resolveScaleInTarget, hpreview]
    unfold resolveScaleInTarget
    simp only [Option.bind_some, Option.map_some, hposition, hexchange, hmarket, hcandidate]
  unfold entryGains loadLivePositionByEntryOrderUuid
  rw [h.applicationOf, htarget]
  simp only [h.loadLivePosition, h.selectActivePositions]

namespace FinishedOrder

variable (o : FinishedOrder)

/-- The order's row after the status is written. -/
def updatedRow (now : UtcTime) : LiveOrderLog :=
  o.log.overwrite (mergedLiveOrderLog o.db o.log.requestId o.log
    (reconciledUpdates o.log (normalizeExchangeOrder o.raw)) now)

/-- The database after the status is written. -/
def updatedDb (now : UtcTime) : Database :=
  updateLiveOrderLog o.db o.log.requestId
    (reconciledUpdates o.log (normalizeExchangeOrder o.raw)) now

theorem sameFills_updatedDb (now : UtcTime) : SameFills (o.updatedDb now) o.db :=
  ⟨updateLiveOrderLog_livePositions _ _ _ _, updateLiveOrderLog_positionFillEvents _ _ _ _,
    updateLiveOrderLog_orderApplicationLedger _ _ _ _⟩

theorem updatedRow_orderUuid (now : UtcTime) : (o.updatedRow now).orderUuid = o.log.orderUuid := by
  unfold updatedRow
  rw [LiveOrderLog.overwrite_orderUuid]
  rcases mergedLiveOrderLog_orderUuid o.db o.log.requestId o.log
    (reconciledUpdates o.log (normalizeExchangeOrder o.raw)) now with h | h
  · exact h.trans o.orderUuid_reconciled
  · exact h

theorem canonicalLog_updatedDb (now : UtcTime) (orderLog : Option LiveOrderLog)
    (hne : o.uuid ≠ "") :
    (canonicalLog (o.updatedDb now) orderLog o.uuid).1 = some (o.updatedRow now) := by
  have hself : getLiveOrderLog (o.updatedDb now) o.log.requestId = some (o.updatedRow now) :=
    getLiveOrderLog_update_self o.db o.log.requestId _ now o.stored
  have hmem : o.updatedRow now ∈ (o.updatedDb now).liveOrderLogs.rows :=
    List.mem_of_find?_eq_some hself
  have huuid : o.log.orderUuid = some o.uuid := by
    unfold uuid at hne ⊢
    cases h : o.log.orderUuid with
    | none => exact absurd (by rw [h]; rfl) hne
    | some u => rfl
  refine canonicalLog_of_only orderLog hne hmem ((o.updatedRow_orderUuid now).trans huuid) ?_
  intro r hr hsame
  -- a row of the uuid is the order's own, before the update as well as after it
  have hrequest : r.requestId = o.log.requestId := by
    have hrows : (o.updatedDb now).liveOrderLogs.rows = o.db.liveOrderLogs.rows.map _ :=
      rows_updateLiveOrderLog _ now o.stored
    rw [hrows] at hr
    obtain ⟨q, hq, rfl⟩ := List.mem_map.mp hr
    split_ifs at hsame ⊢ with hid
    · exact beq_iff_eq.mp hid
    · refine o.own_uuid q hq ?_ (hsame.trans huuid.symm)
      rw [hsame]
      exact hne
  refine (o.updatedDb now).requestId_unique.eq_of_key hr hmem (hrequest.trans ?_)
  exact (getLiveOrderLog_requestId _ _ hself).symm

def reconciled : LiveOrderLog := (reconciledLog o.log (normalizeExchangeOrder o.raw)).toLiveOrderLog

theorem ensuredSyncCall_reconciled (hside : o.log.side = .buy) (hpurpose : o.log.orderPurpose = .entry)
    (hstatus : (normalizeExchangeOrder o.raw).status = .filled) (hne : o.uuid ≠ "")
    (source : String) :
    ensuredSyncCall o.reconciled source
      = (entrySession o.log o.uuid).map
          (fun session => ⟨some o.reconciled, o.raw, source, session⟩) := by
  have huuid : orText (toText o.reconciled.orderUuid) o.reconciled.exchangeResponsePayload.orderUuid
      = o.uuid := by
    have hsame : o.reconciled.orderUuid = o.log.orderUuid := o.orderUuid_reconciled
    unfold orText
    rw [hsame]
    exact if_neg hne
  unfold ensuredSyncCall entrySession
  simp only [huuid, if_neg hne]
  rw [if_neg (fun h => h hstatus), if_neg (fun h => h.elim (fun h => h hside) (fun h => h hpurpose))]
  show (if (truthyId o.log.positionId).isSome = true
      ∧ o.log.orderPreviewPayload.scaleIn.scaleIn = false then none else _) = _
  split_ifs
  · rfl
  · show (match o.log.sessionId, o.log.candidateStrategyId with
      | some sessionId, some candidateStrategyId => some _
      | _, _ => none) = _
    cases o.log.sessionId <;> cases o.log.candidateStrategyId <;> rfl

theorem filledOrder_updatedDb (hside : o.log.side = .buy) (hpurpose : o.log.orderPurpose = .entry)
    (hne : o.uuid ≠ "") (now : UtcTime) (session : SyncSession) :
    ∃ f, filledOrder (o.updatedDb now) (some o.reconciled) o.raw session = .ok f
      ∧ f.orderUuid = o.uuid ∧ f.canonicalLog = some (o.updatedRow now)
      ∧ f.volume = orNum o.executed o.ordered := by
  have hordered : (0 : ℚ) < o.ordered := o.ordered_pos
  have hprice : 0 < filledPrice (some (o.updatedRow now)) o.raw := orNum_pos o.price_nonneg o.price_pos
  have hvolume : filledVolume (some (o.updatedRow now)) o.raw = orNum o.executed o.ordered :=
    congrArg (orNum o.executed) (orNum_of_ne _ (ne_of_gt hordered))
  have hpos : 0 < orNum o.executed o.ordered := orNum_pos o.executed_nonneg hordered
  -- the amount the row is given is not negative
  have hamount : 0 ≤ (o.updatedRow now).filledAmountKrw := by
    have hrow : (o.updatedRow now).filledAmountKrw
        = filledAmountKrw o.raw o.executed (toFloat o.raw.price) := by
      unfold updatedRow
      rw [LiveOrderLog.overwrite_filledAmountKrw]
      exact mergedLiveOrderLog_filledAmountKrw o.db o.log.requestId o.log
        (reconciledUpdates o.log (normalizeExchangeOrder o.raw)) now
    rw [hrow]
    unfold filledAmountKrw
    dsimp only
    split_ifs with h h'
    · exact h.le
    · exact h'.le
    · exact mul_nonneg o.executed_nonneg o.price_nonneg
  have huuid : syncOrderUuid (some o.reconciled) o.raw session = o.uuid := by
    have hsame : o.reconciled.orderUuid = o.log.orderUuid := o.orderUuid_reconciled
    unfold syncOrderUuid
    rw [Option.bind_some, hsame]
    exact if_neg hne
  have hrowPurpose : (o.updatedRow now).orderPurpose = .entry :=
    (mergedLiveOrderLog_orderPurpose o.db o.log.requestId o.log _ now).trans hpurpose
  obtain ⟨f, hf, hfuuid, hfrow, hfvolume⟩ := filledOrder_of_canonical huuid hne
    (o.canonicalLog_updatedDb now (some o.reconciled) hne) hside hrowPurpose hprice
    (by rwa [hvolume])
    (orNum_pos o.executedFunds_nonneg (orNum_pos o.filledAmountKrw_nonneg (orNum_pos hamount
      (mul_pos hprice (by rwa [hvolume])))))
  exact ⟨f, hf, hfuuid, hfrow, hfvolume.trans hvolume⟩

theorem heldVolume_entrySync (hside : o.log.side = .buy) (hpurpose : o.log.orderPurpose = .entry)
    (hstatus : (normalizeExchangeOrder o.raw).status = .filled) (hne : o.uuid ≠ "")
    (env : SyncEnv) (source : String) :
    heldVolume (ensureFilledEntryOrderPosition env (o.updatedDb env.now) o.reconciled source)
        - heldVolume o.db
      = (entrySession o.log o.uuid).elim 0
          (fun session => entryGains o.db session o.log o.uuid (orNum o.executed o.ordered)) := by
  have hfills := o.sameFills_updatedDb env.now
  have hcall := o.ensuredSyncCall_reconciled hside hpurpose hstatus hne source
  cases hsession : entrySession o.log o.uuid with
  | none =>
    rw [hsession] at hcall
    unfold ensureFilledEntryOrderPosition
    rw [hcall, Option.elim_none]
    dsimp only [Option.map_none]
    rw [heldVolume_congr hfills.livePositions, sub_self]
  | some session =>
    rw [hsession] at hcall
    obtain ⟨f, hf, huuid, hrow, hvolume⟩ :=
      o.filledOrder_updatedDb hside hpurpose hne env.now session
    have hprice : 0 < entryPriceFromLog o.reconciled := by
      have hprice : 0 < toFloat o.reconciled.price := o.price_pos
      unfold entryPriceFromLog
      dsimp only
      rw [if_pos hprice]
      exact hprice
    have hrecovered : orNum o.reconciled.executedVolume (toFloat o.reconciled.volume) = f.volume := by
      rw [hvolume]
      exact congrArg (orNum o.executed) o.same_volume
    have hposition : (o.updatedRow env.now).positionId = o.log.positionId :=
      mergedLiveOrderLog_positionId o.db o.log.requestId o.log _ env.now
    have hcandidate : (o.updatedRow env.now).candidateStrategyId = o.log.candidateStrategyId :=
      mergedLiveOrderLog_candidateStrategyId o.db o.log.requestId o.log _ env.now
    have hgains : entryGains (o.updatedDb env.now) session (o.updatedRow env.now) o.uuid
        (orNum o.executed o.ordered)
          = entryGains o.db session o.log o.uuid (orNum o.executed o.ordered) :=
      entryGains_congr hfills session hposition rfl rfl hcandidate rfl _ _
    rw [heldVolume_ensureFilledEntryOrderPosition hcall hf hrow hprice hrecovered, huuid, hvolume,
      heldVolume_congr hfills.livePositions, Option.elim_some]
    show heldVolume o.db + entryGains (o.updatedDb env.now) session (o.updatedRow env.now) o.uuid
      (orNum o.executed o.ordered) - heldVolume o.db = _
    rw [hgains]
    ring

end FinishedOrder

/-! ## Exit candidates on the status path -/

section Candidates

variable (db : Database)

theorem updateLiveOrderLog_exitCandidates (requestId : String) (u : LiveOrderLogUpdates)
    (now : UtcTime) : (updateLiveOrderLog db requestId u now).exitCandidates = db.exitCandidates := by
  unfold updateLiveOrderLog; split <;> rfl

theorem applyWrites_exitCandidates (now : UtcTime) (ws : List SyncWrite) :
    (applyWrites now db ws).exitCandidates = db.exitCandidates := by
  induction ws generalizing db with
  | nil => rfl
  | cons w ws ih =>
    rw [applyWrites_cons, ih]
    cases w with
    | attachLog r i => exact updateLiveOrderLog_exitCandidates db r _ now
    | finalizeEntryLifecycle i =>
      obtain ⟨slots, reservations, h⟩ := finalizeEntryLifecycleForPosition_frame db i now
      show (finalizeEntryLifecycleForPosition db i now).exitCandidates = db.exitCandidates
      rw [h]
    | _ => rfl

theorem adoptPositionInRelevantSession_exitCandidates (log : LiveOrderLog) (positionId : ℕ)
    (riskResult : String) :
    (adoptPositionInRelevantSession db log positionId riskResult).exitCandidates
      = db.exitCandidates := by
  unfold adoptPositionInRelevantSession
  cases truthyId log.sessionId <;> (dsimp only; repeat' split) <;> rfl

theorem ensureFilledEntryOrderPosition_exitCandidates (env : SyncEnv) (log : LiveOrderLog)
    (source : String) :
    (ensureFilledEntryOrderPosition env db log source).exitCandidates = db.exitCandidates := by
  unfold ensureFilledEntryOrderPosition
  split
  · rfl
  · rename_i call _
    have hsynced : (syncFilledEntryOrderToPosition env db call).1.exitCandidates
        = db.exitCandidates := applyWrites_exitCandidates db env.now _
    dsimp only
    split
    · exact (adoptPositionInRelevantSession_exitCandidates _ _ _ _).trans hsynced
    · unfold recoverPosition
      dsimp only
      split
      · exact hsynced
      · exact (adoptPositionInRelevantSession_exitCandidates _ _ _ _).trans
          ((updateLiveOrderLog_exitCandidates _ _ _ _).trans hsynced)

theorem applyExitFill_exitCandidates (position : LivePosition) (fill : ExitFill)
    (orderUuid : Option String) (stillWaiting : Bool) (now : UtcTime) :
    (applyExitFill db position fill orderUuid stillWaiting now).exitCandidates
      = db.exitCandidates := by
  unfold applyExitFill repairClosedPositionSessionPointer
  split_ifs <;> rfl

theorem foldl_syncAggregateExitPosition_exitCandidates (fill : ExitFill)
    (orderUuid : Option String) (stillWaiting : Bool) (now : UtcTime) (ids : List ℕ)
    (s : AggregateExit) :
    (ids.foldl (syncAggregateExitPosition fill orderUuid stillWaiting now) s).db.exitCandidates
      = s.db.exitCandidates := by
  induction ids generalizing s with
  | nil => rfl
  | cons i ids ih =>
    rw [List.foldl_cons, ih]
    unfold syncAggregateExitPosition
    split
    · rfl
    · dsimp only
      split_ifs
      · rfl
      · rfl
      · rfl
      · exact applyExitFill_exitCandidates _ _ _ _ _ _

theorem foldl_updateLivePosition_exitCandidates (ids : List ℕ) (u : LivePositionUpdates)
    (now : UtcTime) :
    (ids.foldl (fun db i => updateLivePosition db i u now) db).exitCandidates
      = db.exitCandidates := by
  induction ids generalizing db with
  | nil => rfl
  | cons i ids ih => rw [List.foldl_cons, ih]; rfl

theorem syncExitOrderPosition_exitCandidates (log : ExitOrderLog) (status : ReconciledOrderStatus)
    (now : UtcTime) :
    (syncExitOrderPosition db log status now).exitCandidates = db.exitCandidates := by
  unfold syncExitOrderPosition
  split
  · rfl
  · dsimp only
    split_ifs
    · unfold syncAggregateExitOrderPositions aggregateExitLoop
      split_ifs
      · rfl
      · exact (updateLiveOrderLog_exitCandidates _ _ _ _).trans
          (foldl_syncAggregateExitPosition_exitCandidates _ _ _ _ _ _)
    · exact foldl_updateLivePosition_exitCandidates db _ _ _
    · rfl
    · exact (applyExitFill_exitCandidates _ _ _ _ _ _).trans
        (updateLiveOrderLog_exitCandidates _ _ _ _)
    · rfl
    · rfl

theorem applyReconciledOrderStatus_exitCandidates (env : SyncEnv) (log : LiveOrderLog)
    (status : ReconciledOrderStatus) (source : String) :
    (applyReconciledOrderStatus env db log status source).exitCandidates = db.exitCandidates := by
  have hupdated := updateLiveOrderLog_exitCandidates db log.requestId
    (reconciledUpdates log status) env.now
  unfold applyReconciledOrderStatus
  dsimp only
  split_ifs
  · exact (syncExitOrderPosition_exitCandidates _ _ _ _).trans hupdated
  · exact (ensureFilledEntryOrderPosition_exitCandidates _ _ _ _).trans hupdated
  · exact hupdated

end Candidates

/-! ## The status path -/

namespace FinishedOrder

variable (o : FinishedOrder)

theorem shows_stored :
    Shows o.log.requestId (ownedElsewhere o.db o.log.requestId) ⟨o.log.status, o.log.orderUuid⟩
      o.db where
  row := ⟨o.log, o.stored, rfl, rfl⟩
  others := fun _ => rfl
  own := by
    show ownedElsewhere o.db o.log.requestId o.uuid = false
    by_cases hne : o.uuid = ""
    · rw [hne]
      exact ownedElsewhere_empty
    · refine ownedElsewhere_own (fun r hr h => ?_)
      have huuid : r.orderUuid = o.log.orderUuid := by
        unfold uuid at h hne
        cases hlog : o.log.orderUuid with
        | none => exact absurd (by rw [hlog]; rfl) hne
        | some u => rw [h, hlog]; rfl
      exact o.own_uuid r hr (by rw [huuid]; exact hne) huuid

theorem row_of_shows {after : Database} {u : LiveOrderLogUpdates}
    (hstatus : u.status = some (normalizeExchangeOrder o.raw).status)
    (huuid : u.orderUuid.getD o.log.orderUuid = o.log.orderUuid)
    (hv : Shows o.log.requestId (ownedElsewhere o.db o.log.requestId)
      (OrderView.update (ownedElsewhere o.db o.log.requestId) u
        ⟨o.log.status, o.log.orderUuid⟩) after) :
    (∃ row, getLiveOrderLog after o.log.requestId = some row ∧ row.status.isUnresolved = false)
      ↔ ¬ o.PartlyExecuted := by
  have hview : OrderView.update (ownedElsewhere o.db o.log.requestId) u
      ⟨o.log.status, o.log.orderUuid⟩
        = ⟨(normalizeExchangeOrder o.raw).status, o.log.orderUuid⟩ := by
    unfold OrderView.update
    rw [huuid, o.shows_stored.own, hstatus]
    rfl
  rw [hview] at hv
  obtain ⟨row, hrow, hshown, -⟩ := hv.row
  have hread := o.status_normalizeExchangeOrder
  rw [hrow]
  constructor
  · rintro ⟨row', h, hresolved⟩ hpart
    cases h
    rw [hshown, hread, if_pos hpart] at hresolved
    cases hresolved
  · intro hwhole
    refine ⟨row, rfl, ?_⟩
    rw [hshown, hread, if_neg hwhole]
    split_ifs <;> rfl

theorem changeTo_applyReconciled (hwhole : ¬ o.PartlyExecuted) (hne : o.uuid ≠ "") (env : SyncEnv)
    (source : String) :
    o.changeTo (applyReconciledOrderStatus env o.db o.log (normalizeExchangeOrder o.raw) source)
      = o.statusChange := by
  have hsame : isExitOrder (reconciledLog o.log (normalizeExchangeOrder o.raw)).toLiveOrderLog
      = isExitOrder o.log := rfl
  unfold changeTo statusChange applyReconciledOrderStatus
  dsimp only
  rw [hsame]
  split_ifs with hexit hfilled
  · exact o.heldVolume_exitSync hwhole (o.sameFills_updatedDb env.now).livePositions rfl
      o.orderUuid_reconciled rfl rfl rfl env.now
  · -- a filled buy order
    have hkind := o.kind.resolve_right (fun h => hexit (by simp [isExitOrder, h]))
    have hreads : o.ReadsFilled := by
      by_contra hnot
      rw [o.status_normalizeExchangeOrder, if_neg hwhole, if_neg hnot] at hfilled
      cases hfilled
    unfold entryChange
    rw [if_pos hreads]
    exact o.heldVolume_entrySync hkind.1 hkind.2 hfilled hne env _
  · have hreads : ¬ o.ReadsFilled := by
      intro hreads
      rw [o.status_normalizeExchangeOrder, if_neg hwhole, if_pos hreads] at hfilled
      exact hfilled rfl
    unfold entryChange
    rw [if_neg hreads]
    exact sub_eq_zero.mpr (heldVolume_congr (o.sameFills_updatedDb env.now).livePositions)

theorem not_resolved_same : ¬ o.Resolved o.db := by
  rintro ⟨⟨row, hrow, hresolved⟩, -, -⟩
  rw [o.stored] at hrow
  cases hrow
  rw [o.unresolved] at hresolved
  cases hresolved

/-- **When `reconcile_order_log` resolves an ended order.** -/
theorem resolved_reconcileOrderLog_iff (env : SyncEnv) (source : String) :
    o.Resolved (reconcileOrderLog env o.db o.log (.ok o.raw) source)
      ↔ o.uuid ≠ "" ∧ ¬ o.PartlyExecuted ∧ o.Covers o.statusChange ∧ o.CandidateFree := by
  by_cases hne : o.uuid = ""
  · -- without a uuid nothing is asked, and the row stays as it is
    have hsame : reconcileOrderLog env o.db o.log (.ok o.raw) source = o.db := if_pos hne
    rw [hsame]
    exact iff_of_false o.not_resolved_same (fun h => h.1 hne)
  · have happly : reconcileOrderLog env o.db o.log (.ok o.raw) source
        = applyReconciledOrderStatus env o.db o.log (normalizeExchangeOrder o.raw) source :=
      if_neg hne
    have hrow := o.row_of_shows (u := reconciledUpdates o.log (normalizeExchangeOrder o.raw)) rfl
      o.orderUuid_reconciled (shows_applyReconciledOrderStatus env o.log
        (normalizeExchangeOrder o.raw) source o.shows_stored)
    have hcandidates : namedExitCandidate (applyReconciledOrderStatus env o.db o.log
        (normalizeExchangeOrder o.raw) source) o.log = namedExitCandidate o.db o.log := by
      unfold namedExitCandidate
      rw [applyReconciledOrderStatus_exitCandidates]
    rw [happly]
    constructor
    · rintro ⟨hresolved, hvolume, hcandidate⟩
      have hwhole := hrow.mp hresolved
      rw [o.changeTo_applyReconciled hwhole hne] at hvolume
      rw [hcandidates] at hcandidate
      exact ⟨hne, hwhole, hvolume, hcandidate⟩
    · rintro ⟨-, hwhole, hvolume, hcandidate⟩
      refine ⟨hrow.mpr hwhole, ?_, ?_⟩
      · rw [o.changeTo_applyReconciled hwhole hne]
        exact hvolume
      · rw [hcandidates]
        exact hcandidate

end FinishedOrder

end AutoCoinBot
