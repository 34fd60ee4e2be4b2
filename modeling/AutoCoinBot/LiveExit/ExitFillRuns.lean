/-
  LiveExit.ExitFillRuns — cumulative snapshots of an exit order,
  delivered along two paths.

  A snapshot reaches the exit sync through `apply_reconciled_order_status`, which hands over the
  row's old figures, or through `reconcile_exit_order`, which hands over none.
-/
import AutoCoinBot.LiveExit.ExitOrders
import AutoCoinBot.LiveRecovery.OrderFigures

namespace AutoCoinBot

open Library

/-! ## Deliveries -/

/-- The two paths of a snapshot. -/
inductive ExitPath where
  | statusReconciliation (source : String)
  | exitReconciliation
  deriving DecidableEq

/-- One delivery of an exchange snapshot. -/
structure ExitDelivery where
  path : ExitPath
  snapshot : RawOrder
  env : SyncEnv

/-- The figures the delivered snapshot reads as. -/
def ExitDelivery.figures (d : ExitDelivery) : OrderFigures :=
  (normalizeExchangeOrder d.snapshot).figures

/-- One delivery; the status path is called with the current order log row. -/
def deliverExitSnapshot (requestId : String) (db : Database) (d : ExitDelivery) : Database :=
  match d.path with
  | .statusReconciliation source =>
    match getLiveOrderLog db requestId with
    | none => db
    | some log =>
      applyReconciledOrderStatus d.env db log (normalizeExchangeOrder d.snapshot) source
  | .exitReconciliation => reconcileExitOrder db requestId (some d.snapshot) d.env.now

/-! ## The condition -/

/-- **When a delivery applies its snapshot exactly once**, given the order's row.
`reconcile_exit_order` only while the row has no executed volume; the filled
amount and the fee only rise together with the executed volume; and the first
executed volume finds a row without an amount or a fee when it comes on the status
path. -/
def LiveOrderLog.AppliesOnce (log : LiveOrderLog) (d : ExitDelivery) : Prop :=
  (d.path = .exitReconciliation → log.executedVolume = 0)
    ∧ log.RisesWithVolume d.figures
    ∧ (d.path ≠ .exitReconciliation → log.StartsUnpaid d.figures)

instance (log : LiveOrderLog) (d : ExitDelivery) : Decidable (log.AppliesOnce d) :=
  inferInstanceAs (Decidable ((d.path = .exitReconciliation → log.executedVolume = 0)
    ∧ log.RisesWithVolume d.figures
    ∧ (d.path ≠ .exitReconciliation → log.StartsUnpaid d.figures)))

/-- The delivery applies its snapshot once in the state it arrives in. -/
def AppliesSnapshotOnce (requestId : String) (db : Database) (d : ExitDelivery) : Prop :=
  ∀ log ∈ getLiveOrderLog db requestId, log.AppliesOnce d

instance (requestId : String) (db : Database) (d : ExitDelivery) :
    Decidable (AppliesSnapshotOnce requestId db d) :=
  inferInstanceAs (Decidable (∀ log ∈ getLiveOrderLog db requestId, log.AppliesOnce d))

/-! ## What an exit order does to its position -/

/-- An exit order of one position, and the position before the order's first fill. -/
structure ExitOrder where
  requestId : String
  positionId : ℕ
  volume : ℚ
  amountKrw : ℚ
  realizedPnl : ℚ
  volume_pos : 0 < volume
  amountKrw_nonneg : 0 ≤ amountKrw

/-- The order log row of the order. -/
structure ExitOrder.Row (o : ExitOrder) (log : LiveOrderLog) : Prop where
  purpose : log.orderPurpose = .exit
  positionId : log.positionId = some o.positionId
  orderUuid : toText log.orderUuid ≠ ""
  notAggregate : aggregateExitPositionIds log = []

/-- The position has absorbed the figures `a`: its profit is theirs, and it is
reduced by their volume unless they closed it. -/
structure ExitOrder.Absorbed (o : ExitOrder) (p : LivePosition) (a : OrderFigures) : Prop where
  realized : p.realizedPnl - o.realizedPnl
    = a.filled - o.amountKrw * a.executed / o.volume - a.fee
  reduced : (p.entryVolume = o.volume - a.executed
      ∧ p.entryAmountKrw = o.amountKrw * (1 - a.executed / o.volume))
    ∨ (p.status = .closed ∧ 0 < a.executed
        ∧ o.volume - a.executed ≤ balanceMismatchVolumeTolerance)

/-- Row and position agree on what has been absorbed. -/
structure ExitOrder.InStep (o : ExitOrder) (db : Database) (a : OrderFigures) : Prop where
  row : ∃ log, getLiveOrderLog db o.requestId = some log ∧ o.Row log ∧ log.Carries a
  position : ∃ p, loadLivePosition db o.positionId = some p ∧ o.Absorbed p a

section Absorb

variable {o : ExitOrder} {p : LivePosition} {a b : OrderFigures}

theorem entryBasis_since (hvolume : p.entryVolume = o.volume - a.executed)
    (hamount : p.entryAmountKrw = o.amountKrw * (1 - a.executed / o.volume))
    (hroom : 0 < o.volume - a.executed) (hle : b.executed ≤ o.volume) :
    entryBasis p (b.since a).volume
      = o.amountKrw * (b.executed - a.executed) / o.volume := by
  have hV : o.volume ≠ 0 := ne_of_gt o.volume_pos
  have hR : o.volume - a.executed ≠ 0 := ne_of_gt hroom
  have hshare : (b.executed - a.executed) / (o.volume - a.executed) ≤ 1 := by
    rw [div_le_one hroom]; linarith
  unfold entryBasis OrderFigures.since
  rw [hvolume, hamount, if_pos hroom, min_eq_left hshare]
  field_simp

/-- **Absorbing the difference.** A position reduced by `a` that takes what `b`
adds has absorbed `b`. -/
theorem ExitOrder.absorbed_exitUpdates (orderUuid : Option String) (stillWaiting : Bool)
    (now : UtcTime) (h : o.Absorbed p a)
    (hvolume : p.entryVolume = o.volume - a.executed)
    (hamount : p.entryAmountKrw = o.amountKrw * (1 - a.executed / o.volume))
    (hroom : 0 < o.volume - a.executed) (hle : b.executed ≤ o.volume)
    (hpos : 0 < b.executed) :
    o.Absorbed (p.merge (exitUpdates p (b.since a) orderUuid stillWaiting now) now) b := by
  have hV : o.volume ≠ 0 := ne_of_gt o.volume_pos
  -- both readings of the order draw on what is left after `a`
  have hbasis := entryBasis_since hvolume hamount hroom hle
  have hrest : remainingAfter p (b.since a).volume = o.volume - b.executed := by
    unfold remainingAfter OrderFigures.since
    rw [hvolume, max_eq_left (by linarith)]
    ring
  have hrealized : (p.merge (exitUpdates p (b.since a) orderUuid stillWaiting now) now).realizedPnl
      = p.realizedPnl + exitPnl p (b.since a) := by
    unfold exitUpdates
    split <;> rfl
  refine ⟨?_, ?_⟩
  · have hpnl : exitPnl p (b.since a)
        = (b.filled - a.filled) - o.amountKrw * (b.executed - a.executed) / o.volume
          - (b.fee - a.fee) := by
      unfold exitPnl
      rw [hbasis]
      rfl
    have hold := h.realized
    have hsplit : o.amountKrw * (b.executed - a.executed) / o.volume
        = o.amountKrw * b.executed / o.volume - o.amountKrw * a.executed / o.volume := by ring
    rw [hrealized, hpnl, hsplit]
    linarith
  · by_cases hclose : remainingAfter p (b.since a).volume ≤ balanceMismatchVolumeTolerance
    -- what remains is dust: the position closes
    · right
      refine ⟨?_, hpos, hrest ▸ hclose⟩
      simp only [LivePosition.merge_status, exitUpdates, if_pos hclose]
      rfl
    · left
      -- else volume and amount shrink in proportion
      have hamount' : o.amountKrw * (1 - a.executed / o.volume)
          - o.amountKrw * (b.executed - a.executed) / o.volume
            = o.amountKrw * (1 - b.executed / o.volume) := by
        field_simp
        ring
      have hnonneg : 0 ≤ o.amountKrw * (1 - b.executed / o.volume) := by
        refine mul_nonneg o.amountKrw_nonneg ?_
        rw [sub_nonneg, div_le_one o.volume_pos]
        exact hle
      constructor
      · simp only [LivePosition.merge_entryVolume, exitUpdates, if_neg hclose, reduceUpdates,
          Option.getD_some]
        exact hrest
      · simp only [LivePosition.merge_entryAmountKrw, exitUpdates, if_neg hclose, reduceUpdates,
          Option.getD_some]
        rw [hbasis, hamount, hamount', max_eq_left hnonneg]

theorem ExitOrder.absorbed_reopen (now : UtcTime) (h : o.Absorbed p a) (hzero : a.executed = 0) :
    o.Absorbed (p.merge reopenUpdates now) a := by
  refine ⟨h.realized, .inl ?_⟩
  rcases h.reduced with hred | ⟨_, hpos, _⟩
  · exact hred
  · exact absurd hzero (ne_of_gt hpos)

end Absorb

/-! ## One delivery -/

section Deliver

variable {o : ExitOrder} {db : Database} {a b : OrderFigures}

theorem ExitOrder.row_update {log : LiveOrderLog} (u : LiveOrderLogUpdates)
    (now : UtcTime) (hlog : getLiveOrderLog db o.requestId = some log) (h : o.Row log)
    (hposition : u.positionId = none) (huuid : toText (u.orderUuid.getD log.orderUuid) ≠ "") :
    ∃ log', getLiveOrderLog (updateLiveOrderLog db o.requestId u now) o.requestId = some log'
      ∧ o.Row log' ∧ log'.figures = (log.merge u).figures := by
  obtain ⟨log', hlog', hpurpose, hpid, hpreview, hu, hfigures⟩ :=
    row_updateLiveOrderLog u now hlog hposition
  refine ⟨log', hlog', ⟨hpurpose.trans h.purpose, hpid.trans h.positionId, ?_, ?_⟩, hfigures⟩
  · rcases hu with hu | hu
    · rw [hu]; exact huuid
    · rw [hu]; exact h.orderUuid
  · have hids := h.notAggregate
    unfold aggregateExitPositionIds at hids ⊢
    rw [hpreview]
    exact hids

/-- **One sync, whichever path it comes from.** The row already carries the new
figures; the log dict carries what the position has absorbed. -/
theorem ExitOrder.inStep_sync {log : ExitOrderLog} {status : ReconciledOrderStatus}
    {now : UtcTime} {p : LivePosition}
    (hrow : ∃ r, getLiveOrderLog db o.requestId = some r ∧ o.Row r
      ∧ r.figures = status.figures)
    (hload : loadLivePosition db o.positionId = some p) (habs : o.Absorbed p a)
    (hrequest : log.requestId = o.requestId) (hposition : log.positionId = some o.positionId)
    (hids : aggregateExitPositionIds log.toLiveOrderLog = [])
    (hfill : 0 < status.executedVolume → status.status.isFill = true)
    (hcanceled : status.status = .canceled → status.executedVolume ≤ 0)
    (hdelta : a.executed < status.executedVolume →
      exitFillDelta log status = status.figures.since a)
    (hsame : status.executedVolume = a.executed →
      (exitFillDelta log status).volume ≤ 0 ∧ status.figures = a)
    (hnonneg : 0 ≤ a.executed) (hmono : a.executed ≤ status.executedVolume)
    (hle : status.executedVolume ≤ o.volume)
    (hroom : a.executed < status.executedVolume →
      a.executed = 0 ∨ balanceMismatchVolumeTolerance < o.volume - a.executed) :
    o.InStep (syncExitOrderPosition db log status now) status.figures := by
  constructor
  -- the row keeps its figures, the position takes what is new
  · obtain ⟨r, hr, hrow, hfigures⟩ := hrow
    rcases syncExitOrderPosition_liveOrderLogs db log status now
      with heq | ⟨pnl, heq⟩
    · exact ⟨r, (getLiveOrderLog_congr heq _).trans hr, hrow,
        LiveOrderLog.carries_of_figures hfigures⟩
    · obtain ⟨r', hr', hrow', hfigures'⟩ := ExitOrder.row_update
        { actualPnl := some pnl } now hr hrow rfl hrow.orderUuid
      refine ⟨r', ?_, hrow', LiveOrderLog.carries_of_figures (hfigures'.trans hfigures)⟩
      rw [getLiveOrderLog_congr heq, hrequest]
      exact hr'
  · refine ⟨_, loadLivePosition_syncExitOrderPosition hposition hload hids, ?_⟩
    rcases lt_or_eq_of_le hmono with hlt | heq
    · -- new volume: the position takes the difference
      have hpos : 0 < status.executedVolume := lt_of_le_of_lt hnonneg hlt
      have hvolume : 0 < (exitFillDelta log status).volume := by
        rw [hdelta hlt]
        exact sub_pos.mpr hlt
      rw [if_pos ⟨hfill hpos, hvolume⟩, hdelta hlt]
      have htol := balanceMismatchVolumeTolerance_pos
      have hroom' : 0 < o.volume - a.executed := by
        rcases hroom hlt with hz | ht
        · rw [hz, sub_zero]; exact o.volume_pos
        · exact lt_trans htol ht
      rcases habs.reduced with ⟨hv, ha⟩ | ⟨_, hpos', hclosed⟩
      · exact ExitOrder.absorbed_exitUpdates _ _ _ habs hv ha hroom' hle hpos
      · -- a closed position has no room for another snapshot
        rcases hroom hlt with hz | ht
        · exact absurd hz (ne_of_gt hpos')
        · exact absurd hclosed (not_le.mpr ht)
    · -- no new volume: nothing to take
      obtain ⟨hvolume, hfigures⟩ := hsame heq.symm
      rw [if_neg (fun h => absurd h.2 (not_lt.mpr hvolume)), hfigures]
      split_ifs with hc
      · have hzero : a.executed = 0 :=
          le_antisymm (heq ▸ hcanceled hc) hnonneg
        exact ExitOrder.absorbed_reopen now habs hzero
      · exact habs

/-- What holds of a snapshot's figures where they are delivered. -/
structure ExitOrder.Admits (o : ExitOrder) (a : OrderFigures) (d : ExitDelivery) : Prop where
  mono : a.le d.figures
  le_volume : d.figures.executed ≤ o.volume
  room : a.executed < d.figures.executed →
    a.executed = 0 ∨ balanceMismatchVolumeTolerance < o.volume - a.executed

theorem deliverExitSnapshot_absorbs (d : ExitDelivery) (h : o.InStep db a)
    (hzero : a.executed = 0 → a = .zero) (hnonneg : 0 ≤ a.executed) (hd : o.Admits a d)
    (hok : AppliesSnapshotOnce o.requestId db d) :
    o.InStep (deliverExitSnapshot o.requestId db d) d.figures
      ∧ (d.figures.executed = 0 → d.figures = .zero) := by
  obtain ⟨⟨log, hlog, hrow, hcarries⟩, p, hload, habs⟩ := h
  obtain ⟨hexit, hrises, hfirst⟩ := hok log hlog
  have habsorbed := LiveOrderLog.absorbed_of_carries hcarries hzero
  have hrequest : log.requestId = o.requestId := getLiveOrderLog_requestId db _ hlog
  constructor
  · cases hpath : d.path with
    | statusReconciliation source =>
      have hupdate := ExitOrder.row_update
        (reconciledUpdates log (normalizeExchangeOrder d.snapshot)) d.env.now hlog hrow rfl
        (reconciledUpdates_orderUuid _ hrow.orderUuid)
      unfold deliverExitSnapshot
      simp only [hpath, hlog]
      rw [applyReconciledOrderStatus_exit _ _ _ _ _ hrow.purpose, hrequest]
      refine ExitOrder.inStep_sync (o := o) (a := a) hupdate
        ((loadLivePosition_congr (updateLiveOrderLog_livePositions _ _ _ _) _).trans hload) habs
        hrequest hrow.positionId hrow.notAggregate normalizeExchangeOrder_isFill
        normalizeExchangeOrder_canceled ?_ ?_ hnonneg hd.mono.1 hd.le_volume hd.room
      · exact exitFillDelta_of_carries hcarries hzero hnonneg hd.mono
          (hfirst (by rw [hpath]; exact fun h => by cases h))
      · exact fun heq => ⟨exitFillDelta_volume_nonpos hcarries heq,
          (hrises (heq.trans hcarries.1.symm)).trans habsorbed⟩
    | exitReconciliation =>
      have he : log.executedVolume = 0 := hexit hpath
      have ha : a = .zero := hzero (hcarries.1 ▸ he)
      have hsubmitted := submittedExitOrder_of_row hlog hrow.purpose hrow.orderUuid
      obtain ⟨r, hr, hrow', hfigures⟩ := ExitOrder.row_update
        (exitReconcileUpdates log (normalizeExchangeOrder d.snapshot)
          (notedExitPnl db log (normalizeExchangeOrder d.snapshot)))
        d.env.now hlog hrow rfl hrow.orderUuid
      have hall := exitFillDelta_noPrevious log (normalizeExchangeOrder d.snapshot)
        (some (notedExitPnl db log (normalizeExchangeOrder d.snapshot)))
      unfold deliverExitSnapshot
      simp only [hpath]
      rw [reconcileExitOrder_eq _ _ hsubmitted]
      refine ExitOrder.inStep_sync (o := o) (a := a)
        ⟨r, (getLiveOrderLog_congr (markExitCandidate_liveOrderLogs _ _ _) _).trans hr,
          hrow', hfigures⟩
        ((loadLivePosition_congr ((markExitCandidate_livePositions _ _ _).trans
          (updateLiveOrderLog_livePositions _ _ _ _)) _).trans hload) habs
        hrequest hrow.positionId hrow.notAggregate normalizeExchangeOrder_isFill
        normalizeExchangeOrder_canceled ?_ ?_ hnonneg hd.mono.1 hd.le_volume hd.room
      · -- everything is new, and nothing had been absorbed
        intro _
        refine hall.trans (Eq.trans ?_ (OrderFigures.since_of_le hd.mono))
        rw [ha]
        simp only [OrderFigures.zero, sub_zero]
        rfl
      · intro heq
        refine ⟨?_, (hrises (heq.trans hcarries.1.symm)).trans habsorbed⟩
        rw [hall]
        refine max_le ?_ (le_refl 0)
        rw [heq, ← hcarries.1, he]
  · exact hrises.zero hcarries hzero hnonneg hd.mono

end Deliver

/-! ## Whole runs -/

/-- The order before its first fill: the row has no executed volume and the
position is the one the order was placed for. -/
structure ExitOrder.Fresh (o : ExitOrder) (db : Database) : Prop where
  row : ∃ log, getLiveOrderLog db o.requestId = some log ∧ o.Row log ∧ log.executedVolume = 0
  position : ∃ p, loadLivePosition db o.positionId = some p ∧ p.entryVolume = o.volume
    ∧ p.entryAmountKrw = o.amountKrw ∧ p.realizedPnl = o.realizedPnl

def deliveredFigures (ds : List ExitDelivery) : List OrderFigures := ds.map ExitDelivery.figures

/-- Cumulative snapshots within the position's volume; what remains before the last
one stays above the tolerance. -/
structure ExitOrder.Snapshots (o : ExitOrder) (ds : List ExitDelivery) : Prop where
  cumulative : Cumulative o.volume (deliveredFigures ds)
  room : ∀ a ∈ deliveredFigures ds, a.executed < (lastFigures (deliveredFigures ds)).executed →
    balanceMismatchVolumeTolerance < o.volume - a.executed

section Runs

variable {o : ExitOrder} {db : Database}

theorem deliveredFigures_append (ds : List ExitDelivery) (d : ExitDelivery) :
    deliveredFigures (ds ++ [d]) = deliveredFigures ds ++ [d.figures] := by
  simp [deliveredFigures]

theorem ExitOrder.Snapshots.init {ds : List ExitDelivery} {d : ExitDelivery}
    (h : o.Snapshots (ds ++ [d])) : o.Snapshots ds := by
  obtain ⟨hcumulative, hroom⟩ := h
  rw [deliveredFigures_append] at hcumulative hroom
  refine ⟨hcumulative.init, fun a ha hlt => hroom a (List.mem_append_left _ ha) ?_⟩
  rw [lastFigures_append]
  exact lt_of_lt_of_le hlt hcumulative.lastFigures_le.1

theorem ExitOrder.Snapshots.take {ds : List ExitDelivery} (h : o.Snapshots ds) (n : ℕ) :
    o.Snapshots (ds.take n) := by
  induction ds using List.reverseRecOn with
  | nil => simpa using h
  | append_singleton ds d ih =>
    by_cases hn : n ≤ ds.length
    · rw [List.take_append_of_le_length hn]
      exact ih h.init
    · rw [List.take_of_length_le (by simp; omega)]
      exact h

theorem ExitOrder.Snapshots.admits {ds : List ExitDelivery} {d : ExitDelivery}
    (h : o.Snapshots (ds ++ [d])) : o.Admits (lastFigures (deliveredFigures ds)) d := by
  obtain ⟨hcumulative, hroom⟩ := h
  rw [deliveredFigures_append] at hcumulative hroom
  refine ⟨hcumulative.lastFigures_le, hcumulative.le_volume _ hcumulative.last_mem, ?_⟩
  intro hlt
  rcases lastFigures_cases (deliveredFigures ds) with hz | hmem
  · rw [hz]; exact .inl rfl
  · exact .inr (hroom _ (List.mem_append_left _ hmem) (by rw [lastFigures_append]; exact hlt))

theorem deliverExitSnapshots_absorb (hfresh : o.Fresh db) (ds : List ExitDelivery)
    (hds : o.Snapshots ds)
    (hok : StepsOk (deliverExitSnapshot o.requestId) (AppliesSnapshotOnce o.requestId) db ds) :
    o.InStep (run (deliverExitSnapshot o.requestId) db ds) (lastFigures (deliveredFigures ds))
      ∧ 0 ≤ (lastFigures (deliveredFigures ds)).executed
      ∧ ((lastFigures (deliveredFigures ds)).executed = 0 → lastFigures (deliveredFigures ds) = .zero) := by
  induction ds using List.reverseRecOn with
  | nil =>
    obtain ⟨⟨log, hlog, hrow, he⟩, p, hload, hv, ha, hr⟩ := hfresh
    refine ⟨⟨⟨log, hlog, hrow, he, fun h => absurd he h⟩, p, hload, ?_⟩, le_rfl,
      fun _ => rfl⟩
    refine ⟨?_, .inl ⟨?_, ?_⟩⟩
    · simp [deliveredFigures, OrderFigures.zero, hr]
    · simp [deliveredFigures, OrderFigures.zero, hv]
    · simp [deliveredFigures, OrderFigures.zero, ha]
  | append_singleton ds d ih =>
    rw [stepsOk_append] at hok
    obtain ⟨hin, hnonneg, hzero⟩ := ih hds.init hok.1
    obtain ⟨hstep, hzero'⟩ := deliverExitSnapshot_absorbs d hin hzero hnonneg hds.admits hok.2.1
    rw [run_append, deliveredFigures_append, lastFigures_append]
    exact ⟨hstep, hnonneg.trans hds.admits.mono.1, hzero'⟩

/-- **Exit fills are applied exactly once**, in every state of a run whose
deliveries each apply their snapshot once. -/
theorem exitFills_applied_once (o : ExitOrder) (db : Database) (ds : List ExitDelivery)
    (hfresh : o.Fresh db) (hds : o.Snapshots ds)
    (hok : StepsOk (deliverExitSnapshot o.requestId) (AppliesSnapshotOnce o.requestId) db ds)
    (n : ℕ) :
    ∃ p, loadLivePosition (run (deliverExitSnapshot o.requestId) db (ds.take n)) o.positionId
        = some p
      ∧ p.realizedPnl - o.realizedPnl
          = (lastFigures (deliveredFigures (ds.take n))).filled
            - o.amountKrw * (lastFigures (deliveredFigures (ds.take n))).executed / o.volume
            - (lastFigures (deliveredFigures (ds.take n))).fee
      ∧ (p.status ≠ .closed →
          p.entryVolume = o.volume - (lastFigures (deliveredFigures (ds.take n))).executed
          ∧ p.entryAmountKrw
              = o.amountKrw * (1 - (lastFigures (deliveredFigures (ds.take n))).executed / o.volume)) := by
  obtain ⟨⟨_, p, hload, habs⟩, _, _⟩ :=
    deliverExitSnapshots_absorb hfresh (ds.take n) (hds.take n) (hok.take n)
  refine ⟨p, hload, habs.realized, fun hopen => ?_⟩
  rcases habs.reduced with hred | ⟨hclosed, _, _⟩
  · exact hred
  · exact absurd hclosed hopen

end Runs

/-! ## One partial fill on two paths -/

def exampleExitPosition : LivePosition :=
  { id := 1, sessionId := 1, market := "KRW-BTC", status := .closing
    entryPrice := 100, entryVolume := 2, entryAmountKrw := 200, exitOrderUuid := some "exit-uuid" }

def exampleExitLog : LiveOrderLog :=
  { id := 1, requestId := "exit-1", exchange := "bithumb", market := "KRW-BTC", side := .sell
    status := .submitted, orderUuid := some "exit-uuid", positionId := some 1
    orderPurpose := .exit }

def exampleExitDb : Database :=
  { livePositions := Table.empty.insert (fun k => { exampleExitPosition with id := k })
      (fun _ => rfl)
    liveOrderLogs := Table.empty.insert (fun k => { exampleExitLog with id := k })
      (fun _ => rfl) }

theorem exampleVolume_pos : (0 : ℚ) < 2 := by norm_num

/-- The order and its position, before the first fill. -/
def exampleExitOrder : ExitOrder where
  requestId := "exit-1"
  positionId := 1
  volume := 2
  amountKrw := 200
  realizedPnl := 0
  volume_pos := exampleVolume_pos
  amountKrw_nonneg := by norm_num

/-- One coin sold for 120 with a fee of 1, then the other for 130. -/
def exampleSnapshot (executed remaining paidAmount fee : ℚ) (state : String) : RawOrder :=
  { uuid := some "exit-uuid", state := some state, executedVolume := some executed
    remainingVolume := some remaining, paidAmount := some paidAmount, paidFee := some fee }

/-- The snapshots, each seen twice on the status path. -/
def exampleDeliveries : List ExitDelivery :=
  let half := exampleSnapshot 1 1 120 1 "wait"
  let all := exampleSnapshot 2 0 250 2 "done"
  [⟨.statusReconciliation "OPEN_ORDER_SYNC", half, { now := 10 }⟩,
   ⟨.statusReconciliation "OPEN_ORDER_DETAIL_RECONCILED", half, { now := 20 }⟩,
   ⟨.statusReconciliation "OPEN_ORDER_SYNC", all, { now := 30 }⟩,
   ⟨.statusReconciliation "OPEN_ORDER_SYNC", all, { now := 40 }⟩]

theorem exampleExitOrder_fresh : exampleExitOrder.Fresh exampleExitDb :=
  ⟨⟨exampleExitLog, by decide +kernel,
      ⟨by decide, by decide, by decide, by decide +kernel⟩, by decide +kernel⟩,
    ⟨exampleExitPosition, by decide +kernel, by decide +kernel, by decide +kernel,
      by decide +kernel⟩⟩

theorem exitFills_applied_once_example :
    ∃ p, loadLivePosition
        (run (deliverExitSnapshot exampleExitOrder.requestId) exampleExitDb
          (exampleDeliveries.take 4)) exampleExitOrder.positionId = some p
      ∧ p.realizedPnl - exampleExitOrder.realizedPnl
          = (lastFigures (deliveredFigures (exampleDeliveries.take 4))).filled
            - exampleExitOrder.amountKrw * (lastFigures (deliveredFigures (exampleDeliveries.take 4))).executed
              / exampleExitOrder.volume
            - (lastFigures (deliveredFigures (exampleDeliveries.take 4))).fee
      ∧ (p.status ≠ .closed →
          p.entryVolume
            = exampleExitOrder.volume - (lastFigures (deliveredFigures (exampleDeliveries.take 4))).executed
          ∧ p.entryAmountKrw
            = exampleExitOrder.amountKrw
              * (1 - (lastFigures (deliveredFigures (exampleDeliveries.take 4))).executed
                / exampleExitOrder.volume)) :=
  exitFills_applied_once exampleExitOrder exampleExitDb exampleDeliveries
    exampleExitOrder_fresh
    ⟨⟨by decide +kernel, by decide +kernel, by decide +kernel⟩, by decide +kernel⟩
    (by decide +kernel) 4

/-- The first half, seen by the status path and then by the exit path. -/
def exampleTwoPaths : List ExitDelivery :=
  [⟨.statusReconciliation "OPEN_ORDER_SYNC", exampleSnapshot 1 1 120 1 "wait", { now := 10 }⟩,
   ⟨.exitReconciliation, exampleSnapshot 1 1 120 1 "wait", { now := 20 }⟩]

/-- **One partial fill, sold twice.** One coin of two has been executed; the
claimed profit is 19 and one coin should be left, but the second path sells the
other coin as well and closes the position. -/
theorem exitFills_applied_twice :
    exampleExitOrder.Fresh exampleExitDb ∧ exampleExitOrder.Snapshots exampleTwoPaths
      ∧ lastFigures (deliveredFigures exampleTwoPaths) = ⟨1, 120, 1⟩
      ∧ (loadLivePosition
            (run (deliverExitSnapshot exampleExitOrder.requestId) exampleExitDb exampleTwoPaths)
            exampleExitOrder.positionId).map (fun p => (p.status, p.realizedPnl))
          = some (.closed, 38)
      ∧ (120 : ℚ) - exampleExitOrder.amountKrw * 1 / exampleExitOrder.volume - 1 = 19 := by
  refine ⟨exampleExitOrder_fresh,
    ⟨⟨by decide +kernel, by decide +kernel, by decide +kernel⟩, by decide +kernel⟩,
    by decide +kernel, by decide +kernel, by decide +kernel⟩

end AutoCoinBot
