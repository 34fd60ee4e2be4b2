/-
  LiveRecovery.AggregateRuns — cumulative snapshots of an aggregate
  exit order, handed out over its positions.

  The loop gives each position what is left of the fill, up to its volume.
-/
import AutoCoinBot.LiveRecovery.OrderFigures
import AutoCoinBot.Library.Waterfall

namespace AutoCoinBot

open Library

/-! ## One run of the loop -/

/-- The volume a list of pieces takes from a position. -/
def appliedTo (pieces : List (ℕ × ℚ)) (positionId : ℕ) : ℚ :=
  ((pieces.filter (fun piece => piece.1 == positionId)).map Prod.snd).sum

@[simp] theorem appliedTo_nil (positionId : ℕ) : appliedTo [] positionId = 0 := rfl

theorem appliedTo_append (ps qs : List (ℕ × ℚ)) (positionId : ℕ) :
    appliedTo (ps ++ qs) positionId = appliedTo ps positionId + appliedTo qs positionId := by
  simp [appliedTo, List.filter_append]

theorem appliedTo_singleton (i : ℕ) (y : ℚ) (positionId : ℕ) :
    appliedTo [(i, y)] positionId = if i = positionId then y else 0 := by
  by_cases h : i = positionId
  · simp [appliedTo, h]
  · simp [appliedTo, h]

/-- A position after the loop gave it the share `y`. -/
def shareUpdates (fill : ExitFill) (orderUuid : Option String) (stillWaiting : Bool)
    (now : UtcTime) (p : LivePosition) (y : ℚ) : LivePosition :=
  if 0 < y then p.merge (exitUpdates p (fill.piece y) orderUuid stillWaiting now) now
  else if stillWaiting then
    p.merge { status := some .closing, exitOrderUuid := some orderUuid } now
  else p

section Loop

variable (fill : ExitFill) (orderUuid : Option String) (stillWaiting : Bool) (now : UtcTime)

theorem syncAggregateExitPosition_spec {s : AggregateExit} {p : LivePosition}
    (hload : loadLivePosition s.db p.id = some p) (hvolume : 0 < p.entryVolume)
    (hrest : 0 ≤ s.remainingFill) :
    let s' := syncAggregateExitPosition fill orderUuid stillWaiting now s p.id
    let y := min p.entryVolume s.remainingFill
    (∀ j, loadLivePosition s'.db j = (loadLivePosition s.db j).map (fun q =>
        if j = p.id then shareUpdates fill orderUuid stillWaiting now p y else q))
      ∧ s'.remainingFill = max (s.remainingFill - y) 0
      ∧ (∀ j, appliedTo s'.pieces j = appliedTo s.pieces j + if p.id = j then y else 0) := by
  have hmerge : ∀ (u : LivePositionUpdates) (j : ℕ),
      (loadLivePosition s.db j).map (fun q => if j = p.id then q.merge u now else q)
        = (loadLivePosition s.db j).map (fun q => if j = p.id then p.merge u now else q) := by
    intro u j
    by_cases hj : j = p.id
    · subst hj; simp [hload]
    · simp [hj]
  simp only
  unfold syncAggregateExitPosition
  simp only [hload, if_neg (not_le.mpr hvolume)]
  by_cases hy : min p.entryVolume s.remainingFill ≤ 0
  · -- nothing is left for this position
    have hzero : s.remainingFill = 0 := by
      rcases min_choice p.entryVolume s.remainingFill with h | h
      · rw [h] at hy; exact absurd hy (not_le.mpr hvolume)
      · rw [h] at hy; exact le_antisymm hy hrest
    have hmin : min p.entryVolume s.remainingFill = 0 := by
      rw [hzero, min_eq_right (le_of_lt hvolume)]
    rw [if_pos hy, hmin]
    simp only [shareUpdates, lt_self_iff_false, if_false, sub_zero, ite_self, add_zero,
      max_eq_left hrest]
    cases stillWaiting with
    | true =>
      simp only [if_true]
      refine ⟨fun j => ?_, trivial, fun _ => trivial⟩
      rw [loadLivePosition_update]
      exact hmerge _ j
    | false =>
      simp only [Bool.false_eq_true, if_false]
      refine ⟨fun j => ?_, trivial, fun _ => trivial⟩
      by_cases hj : j = p.id
      · subst hj; simp [hload]
      · simp [hj]
  · rw [if_neg hy]
    simp only [shareUpdates, if_pos (not_le.mp hy)]
    refine ⟨fun j => ?_, trivial, fun j => ?_⟩
    · rw [loadLivePosition_applyExitFill]
      exact hmerge _ j
    · rw [appliedTo_append, appliedTo_singleton]

theorem foldl_syncAggregateExitPosition {ι : Type*} (row : ι → LivePosition) (qs : List ι)
    (s : AggregateExit) (hnodup : (qs.map (fun q => (row q).id)).Nodup)
    (hload : ∀ q ∈ qs, loadLivePosition s.db (row q).id = some (row q))
    (hvolume : ∀ q ∈ qs, 0 < (row q).entryVolume) (hrest : 0 ≤ s.remainingFill) :
    let s' := (qs.map (fun q => (row q).id)).foldl
      (syncAggregateExitPosition fill orderUuid stillWaiting now) s
    (∀ qy ∈ qs.zip (waterfall (qs.map (fun q => (row q).entryVolume)) s.remainingFill),
        loadLivePosition s'.db (row qy.1).id
            = some (shareUpdates fill orderUuid stillWaiting now (row qy.1) qy.2)
          ∧ appliedTo s'.pieces (row qy.1).id = appliedTo s.pieces (row qy.1).id + qy.2)
      ∧ (∀ j, j ∉ qs.map (fun q => (row q).id) →
          loadLivePosition s'.db j = loadLivePosition s.db j
            ∧ appliedTo s'.pieces j = appliedTo s.pieces j) := by
  induction qs generalizing s with
  | nil => simp
  | cons q qs ih =>
    obtain ⟨hround, hleft, happlied⟩ := syncAggregateExitPosition_spec fill orderUuid
      stillWaiting now (hload q List.mem_cons_self) (hvolume q List.mem_cons_self) hrest
    simp only [List.map_cons, List.nodup_cons] at hnodup
    obtain ⟨hfresh, hnodup⟩ := hnodup
    set s₁ := syncAggregateExitPosition fill orderUuid stillWaiting now s (row q).id with hs₁
    have hne : ∀ q' ∈ qs, (row q').id ≠ (row q).id := fun q' hq' heq =>
      hfresh (List.mem_map.mpr ⟨q', hq', heq⟩)
    have hload₁ : ∀ q' ∈ qs, loadLivePosition s₁.db (row q').id = some (row q') := by
      intro q' hq'
      rw [hround, hload q' (List.mem_cons_of_mem _ hq')]
      simp [hne q' hq']
    obtain ⟨hzip, hframe⟩ := ih s₁ hnodup hload₁
      (fun q' hq' => hvolume q' (List.mem_cons_of_mem _ hq'))
      (by rw [hleft]; exact le_max_right _ _)
    simp only [List.map_cons, List.foldl_cons, ← hs₁, waterfall_cons, List.zip_cons_cons,
      List.mem_cons]
    refine ⟨?_, ?_⟩
    · rintro qy (rfl | hqy)
      · -- the head is not met again
        obtain ⟨hl, ha⟩ := hframe (row q).id hfresh
        rw [hl, ha, hround, happlied, hload q List.mem_cons_self]
        simp
      · rw [← hleft] at hqy
        obtain ⟨hl, ha⟩ := hzip qy hqy
        have hmem : qy.1 ∈ qs := (List.of_mem_zip hqy).1
        refine ⟨hl, ha.trans ?_⟩
        rw [happlied, if_neg (fun h => hne qy.1 hmem h.symm), add_zero]
    · rintro j hj
      push Not at hj
      obtain ⟨hl, ha⟩ := hframe j hj.2
      rw [hl, ha, hround, happlied, if_neg (fun h => hj.1 h.symm), add_zero]
      refine ⟨?_, rfl⟩
      cases loadLivePosition s.db j with
      | none => rfl
      | some _ => simp [hj.1]

end Loop

/-! ## Sums over a list and its shares -/

section Sums

variable {ι : Type*}

theorem map_eq_zipWith_shares (f g : ι → ℚ) (qs : List ι) (ys : List ℚ)
    (hlen : ys.length = qs.length) (h : ∀ x ∈ qs.zip ys, f x.1 = g x.1 + x.2) :
    qs.map f = List.zipWith (· + ·) (qs.map g) ys := by
  induction qs generalizing ys with
  | nil => simp
  | cons q qs ih =>
    cases ys with
    | nil => simp at hlen
    | cons y ys =>
      simp only [List.zip_cons_cons, List.mem_cons, forall_eq_or_imp] at h
      simp only [List.map_cons, List.zipWith_cons_cons, h.1]
      rw [ih ys (by simpa using hlen) h.2]

theorem exists_share {qs : List ι} {ys : List ℚ} (hlen : ys.length = qs.length) {q : ι}
    (hq : q ∈ qs) : ∃ y, (q, y) ∈ qs.zip ys := by
  induction qs generalizing ys with
  | nil => exact absurd hq List.not_mem_nil
  | cons q' qs ih =>
    cases ys with
    | nil => simp at hlen
    | cons y ys =>
      rcases List.mem_cons.mp hq with rfl | hq
      · exact ⟨y, by simp⟩
      · obtain ⟨z, hz⟩ := ih (by simpa using hlen) hq
        exact ⟨z, List.mem_cons_of_mem _ hz⟩

theorem sum_map_eq_add_shares (f g : ι → ℚ) (k : ℚ) (qs : List ι) (ys : List ℚ)
    (hlen : ys.length = qs.length) (h : ∀ x ∈ qs.zip ys, f x.1 = g x.1 + k * x.2) :
    (qs.map f).sum = (qs.map g).sum + k * ys.sum := by
  induction qs generalizing ys with
  | nil => simp [List.length_eq_zero_iff.mp hlen]
  | cons q qs ih =>
    cases ys with
    | nil => simp at hlen
    | cons y ys =>
      simp only [List.zip_cons_cons, List.mem_cons, forall_eq_or_imp] at h
      simp only [List.map_cons, List.sum_cons, h.1]
      rw [ih ys (by simpa using hlen) h.2]
      ring

end Sums

/-! ## The order and its positions -/

/-- A position of an aggregate order before the order's first fill. -/
structure AggregateMember where
  positionId : ℕ
  volume : ℚ
  amountKrw : ℚ
  realizedPnl : ℚ
  volume_pos : 0 < volume
  amountKrw_nonneg : 0 ≤ amountKrw

/-- An aggregate exit order: distinct positions, in the order the fills go. -/
structure AggregateOrder where
  requestId : String
  members : List AggregateMember
  nodup : (members.map AggregateMember.positionId).Nodup

def AggregateOrder.volumes (o : AggregateOrder) : List ℚ := o.members.map AggregateMember.volume

/-- The order log row of the order. -/
structure AggregateOrder.Row (o : AggregateOrder) (log : LiveOrderLog) : Prop where
  purpose : log.orderPurpose = .exit
  members : aggregateExitPositionIds log = o.members.map AggregateMember.positionId
  positionId : ∃ m ∈ o.members, log.positionId = some m.positionId

/-- A run's state: the database and the pieces taken so far. -/
structure AggregateRun where
  db : Database
  pieces : List (ℕ × ℚ) := []

/-- One delivery of a snapshot on the status path. -/
structure AggregateDelivery where
  snapshot : RawOrder
  source : String
  env : SyncEnv

/-- The figures the delivered snapshot reads as. -/
def AggregateDelivery.figures (d : AggregateDelivery) : OrderFigures :=
  (normalizeExchangeOrder d.snapshot).figures

/-- `apply_reconciled_order_status` with the current row, and the pieces it takes. -/
def deliverAggregateSnapshot (requestId : String) (s : AggregateRun) (d : AggregateDelivery) :
    AggregateRun :=
  match getLiveOrderLog s.db requestId with
  | none => s
  | some log =>
    let status := normalizeExchangeOrder d.snapshot
    let updated := updateLiveOrderLog s.db log.requestId (reconciledUpdates log status) d.env.now
    { db := applyReconciledOrderStatus d.env s.db log status d.source
      pieces := s.pieces
        ++ aggregateExitPieces updated (reconciledLog log status) status d.env.now }

def realizedPnlOf (db : Database) (positionId : ℕ) : ℚ :=
  ((loadLivePosition db positionId).map LivePosition.realizedPnl).getD 0

/-- The profit the order's positions have realized since the order was placed. -/
def AggregateOrder.realizedSince (o : AggregateOrder) (db : Database) : ℚ :=
  (o.members.map (fun m => realizedPnlOf db m.positionId - m.realizedPnl)).sum

/-- The entry cost of the volume that has been sold. -/
def AggregateOrder.soldBasis (o : AggregateOrder) (pieces : List (ℕ × ℚ)) : ℚ :=
  (o.members.map (fun m => m.amountKrw * appliedTo pieces m.positionId / m.volume)).sum

/-- The row of a position that has been sold `x` of. -/
structure AggregateMember.Reduced (m : AggregateMember) (p : LivePosition) (x : ℚ) : Prop where
  volume : p.entryVolume = m.volume - x
  amountKrw : p.entryAmountKrw = m.amountKrw * (1 - x / m.volume)
  pos : 0 < p.entryVolume

/-- What has been taken from the positions is what the figures `a` say. -/
structure AggregateOrder.Totals (o : AggregateOrder) (s : AggregateRun) (a : OrderFigures) :
    Prop where
  applied : o.members.map (fun m => appliedTo s.pieces m.positionId)
    = waterfall o.volumes a.executed
  profit : o.realizedSince s.db = a.filled - o.soldBasis s.pieces - a.fee
  rows : ∀ m ∈ o.members, ∃ p, loadLivePosition s.db m.positionId = some p
    ∧ (p.status ≠ .closed ∨ a.executed = 0 → m.Reduced p (appliedTo s.pieces m.positionId))

/-- Row and totals agree on the figures `a`. -/
structure AggregateOrder.InStep (o : AggregateOrder) (s : AggregateRun) (a : OrderFigures) :
    Prop where
  row : ∃ log, getLiveOrderLog s.db o.requestId = some log ∧ o.Row log ∧ log.Carries a
  totals : o.Totals s a

/-- **When a delivery sells nothing twice**: the amount and the fee rise with the
volume only, and new volume finds none of the order's positions closed. -/
def FindsNoneClosed (requestId : String) (s : AggregateRun) (d : AggregateDelivery) : Prop :=
  ∀ log ∈ getLiveOrderLog s.db requestId,
    log.RisesWithVolume d.figures ∧ log.StartsUnpaid d.figures
      ∧ (log.executedVolume < d.figures.executed →
          ∀ i ∈ aggregateExitPositionIds log, ∀ p ∈ loadLivePosition s.db i, p.status ≠ .closed)

instance (requestId : String) (s : AggregateRun) (d : AggregateDelivery) :
    Decidable (FindsNoneClosed requestId s d) :=
  inferInstanceAs (Decidable (∀ log ∈ getLiveOrderLog s.db requestId,
    log.RisesWithVolume d.figures ∧ log.StartsUnpaid d.figures
      ∧ (log.executedVolume < d.figures.executed →
          ∀ i ∈ aggregateExitPositionIds log, ∀ p ∈ loadLivePosition s.db i,
            p.status ≠ .closed)))

/-! ## One share -/

section Share

variable {m : AggregateMember} {p : LivePosition} {x y : ℚ}

theorem AggregateMember.entryBasis_share (h : m.Reduced p x) (hy : y ≤ p.entryVolume) :
    entryBasis p y = m.amountKrw * y / m.volume := by
  have hV : m.volume ≠ 0 := ne_of_gt m.volume_pos
  have hpos := h.pos
  have hshare : y / p.entryVolume ≤ 1 := by rw [div_le_one hpos]; exact hy
  unfold entryBasis
  rw [if_pos hpos, min_eq_left hshare, h.amountKrw, h.volume]
  rw [h.volume] at hpos
  have hR : m.volume - x ≠ 0 := ne_of_gt hpos
  field_simp

theorem AggregateMember.realizedPnl_share (fill : ExitFill) (orderUuid : Option String)
    (stillWaiting : Bool) (now : UtcTime) (h : m.Reduced p x) (hy0 : 0 ≤ y)
    (hy : y ≤ p.entryVolume) :
    (shareUpdates fill orderUuid stillWaiting now p y).realizedPnl
        + m.amountKrw * (x + y) / m.volume
      = p.realizedPnl + m.amountKrw * x / m.volume
        + (fill.amountKrw - fill.fee) / fill.volume * y := by
  unfold shareUpdates
  by_cases hpos : 0 < y
  · rw [if_pos hpos]
    have hrealized : (p.merge (exitUpdates p (fill.piece y) orderUuid stillWaiting now)
        now).realizedPnl = p.realizedPnl + exitPnl p (fill.piece y) := by
      unfold exitUpdates
      split <;> rfl
    have hpnl : exitPnl p (fill.piece y)
        = fill.amountKrw * (y / fill.volume) - m.amountKrw * y / m.volume
          - fill.fee * (y / fill.volume) := by
      unfold exitPnl
      rw [show (fill.piece y).volume = y from rfl, AggregateMember.entryBasis_share h hy]
      rfl
    rw [hrealized, hpnl]
    ring
  -- no share: at most the status and the order's uuid are written
  · have hzero : y = 0 := le_antisymm (not_lt.mp hpos) hy0
    rw [if_neg hpos, hzero]
    have hkeep : (if stillWaiting = true then
        p.merge { status := some .closing, exitOrderUuid := some orderUuid } now
        else p).realizedPnl = p.realizedPnl := by
      split <;> rfl
    rw [hkeep]
    ring

theorem AggregateMember.reduced_share {fill : ExitFill} {orderUuid : Option String}
    {stillWaiting : Bool} {now : UtcTime} (h : m.Reduced p x) (hy0 : 0 ≤ y)
    (hy : y ≤ p.entryVolume)
    (hopen : (shareUpdates fill orderUuid stillWaiting now p y).status ≠ .closed) :
    m.Reduced (shareUpdates fill orderUuid stillWaiting now p y) (x + y) := by
  have hV : m.volume ≠ 0 := ne_of_gt m.volume_pos
  unfold shareUpdates at hopen ⊢
  by_cases hpos : 0 < y
  · rw [if_pos hpos] at hopen ⊢
    have hbasis := AggregateMember.entryBasis_share h hy
    -- a row the share leaves as dust is closed, against `hopen`
    by_cases hclose : remainingAfter p (fill.piece y).volume ≤ balanceMismatchVolumeTolerance
    · simp only [exitUpdates, if_pos hclose] at hopen
      exact absurd rfl hopen
    · have hrest : remainingAfter p (fill.piece y).volume = m.volume - (x + y) := by
        show max (p.entryVolume - y) 0 = _
        rw [max_eq_left (by linarith), h.volume]
        ring
      have hleft : 0 < m.volume - (x + y) := by
        rw [← hrest]
        have htol := balanceMismatchVolumeTolerance_pos
        exact lt_trans htol (not_le.mp hclose)
      simp only [exitUpdates, if_neg hclose]
      refine ⟨hrest, ?_, ?_⟩
      · show max (p.entryAmountKrw - entryBasis p y) 0 = _
        have hamount : p.entryAmountKrw - entryBasis p y
            = m.amountKrw * (1 - (x + y) / m.volume) := by
          rw [hbasis, h.amountKrw]
          field_simp
          ring
        have hnonneg : 0 ≤ m.amountKrw * (1 - (x + y) / m.volume) := by
          refine mul_nonneg m.amountKrw_nonneg ?_
          rw [sub_nonneg, div_le_one m.volume_pos]
          linarith
        rw [hamount, max_eq_left hnonneg]
      · show 0 < remainingAfter p (fill.piece y).volume
        rw [hrest]
        exact hleft
  · have hzero : y = 0 := le_antisymm (not_lt.mp hpos) hy0
    rw [if_neg hpos, hzero, add_zero]
    split
    · exact ⟨h.volume, h.amountKrw, h.pos⟩
    · exact h

end Share

/-! ## One delivery -/

def memberRow (db : Database) (m : AggregateMember) : LivePosition :=
  (loadLivePosition db m.positionId).getD { id := m.positionId }

section Deliver

variable {o : AggregateOrder} {s : AggregateRun} {a b : OrderFigures}

theorem memberRow_of_load {db : Database} {m : AggregateMember} {p : LivePosition}
    (h : loadLivePosition db m.positionId = some p) : memberRow db m = p := by
  unfold memberRow; rw [h]; rfl

@[simp] theorem memberRow_id (db : Database) (m : AggregateMember) :
    (memberRow db m).id = m.positionId := by
  unfold memberRow
  cases h : loadLivePosition db m.positionId with
  | none => rfl
  | some p => exact loadLivePosition_id db _ h

theorem AggregateOrder.volumes_nonneg (o : AggregateOrder) : ∀ c ∈ o.volumes, 0 ≤ c := by
  intro c hc
  obtain ⟨m, _, rfl⟩ := List.mem_map.mp hc
  exact le_of_lt m.volume_pos

/-- **A fill handed out over open positions** takes the totals from `a` to `b`. -/
theorem AggregateOrder.Totals.fill (h : o.Totals s a) (log : ExitOrderLog)
    (status : ReconciledOrderStatus) (now : UtcTime)
    (hopen : ∀ m ∈ o.members, ∀ p ∈ loadLivePosition s.db m.positionId, p.status ≠ .closed)
    (hnonneg : 0 ≤ a.executed) (hlt : a.executed < b.executed)
    (hle : b.executed ≤ o.volumes.sum) :
    let loop := aggregateExitLoop s.db log status (o.members.map AggregateMember.positionId)
      (b.since a) now
    o.Totals ⟨loop.db, s.pieces ++ loop.pieces⟩ b := by
  intro loop
  have hreduced : ∀ m ∈ o.members, loadLivePosition s.db m.positionId = some (memberRow s.db m)
      ∧ m.Reduced (memberRow s.db m) (appliedTo s.pieces m.positionId) := by
    intro m hm
    obtain ⟨p, hload, hred⟩ := h.rows m hm
    rw [memberRow_of_load hload]
    exact ⟨hload, hred (.inl (hopen m hm p hload))⟩
  have hd : 0 ≤ b.executed - a.executed := by linarith
  -- the rooms left in the rows, as a list
  have hrooms : o.members.map (fun m => (memberRow s.db m).entryVolume)
      = List.zipWith (· - ·) o.volumes (waterfall o.volumes a.executed) := by
    rw [← h.applied, AggregateOrder.volumes, List.zipWith_map, List.zipWith_self]
    exact List.map_congr_left (fun m hm => (hreduced m hm).2.volume)
  set ys := waterfall (o.members.map (fun m => (memberRow s.db m).entryVolume))
    (b.executed - a.executed) with hys
  obtain ⟨hzip, -⟩ := foldl_syncAggregateExitPosition (b.since a) log.orderUuid
    status.stillWaiting now (memberRow s.db) o.members { db := s.db, remainingFill := b.executed - a.executed }
    (by simpa using o.nodup) (fun m hm => by simpa using (hreduced m hm).1)
    (fun m hm => (hreduced m hm).2.pos) hd
  simp only [memberRow_id, ← hys] at hzip
  have hlen : ys.length = o.members.length := by simp [hys]
  have happlied : ∀ x ∈ o.members.zip ys,
      appliedTo (s.pieces ++ loop.pieces) x.1.positionId
        = appliedTo s.pieces x.1.positionId + x.2 := by
    intro x hx
    have hpieces := (hzip x hx).2
    rw [appliedTo_nil, zero_add] at hpieces
    rw [appliedTo_append]
    exact congrArg _ hpieces
  have hy : ∀ x ∈ o.members.zip ys, 0 ≤ x.2 ∧ x.2 ≤ (memberRow s.db x.1).entryVolume := by
    intro x hx
    refine ⟨waterfall_nonneg _ _ hd ?_ _ (List.of_mem_zip hx).2,
      waterfall_le (fun m => (memberRow s.db m).entryVolume) _ _ x hx⟩
    intro c hc
    obtain ⟨m, hm, rfl⟩ := List.mem_map.mp hc
    exact le_of_lt (hreduced m hm).2.pos
  have hys_sum : ys.sum = b.executed - a.executed := by
    refine sum_waterfall _ _ hd ?_ ?_
    · intro c hc
      obtain ⟨m, hm, rfl⟩ := List.mem_map.mp hc
      exact le_of_lt (hreduced m hm).2.pos
    · -- room and sold volume add up to the volumes
      have hsold : (o.members.map (fun m => appliedTo s.pieces m.positionId)).sum
          = a.executed := by
        rw [h.applied]
        exact sum_waterfall _ _ hnonneg o.volumes_nonneg (by linarith)
      have hall : (o.members.map (fun m => (memberRow s.db m).entryVolume)).sum
          + (o.members.map (fun m => appliedTo s.pieces m.positionId)).sum = o.volumes.sum := by
        rw [← List.sum_map_add]
        refine congrArg List.sum (List.map_congr_left (fun m hm => ?_))
        rw [(hreduced m hm).2.volume]
        ring
      linarith
  refine ⟨?_, ?_, ?_⟩
  · refine (map_eq_zipWith_shares (fun m => appliedTo (s.pieces ++ loop.pieces) m.positionId)
      (fun m => appliedTo s.pieces m.positionId) o.members ys hlen happlied).trans ?_
    rw [h.applied, hys, hrooms, waterfall_add _ _ _ hnonneg hd o.volumes_nonneg]
    congr 1
    ring
  · -- each position's profit and sold basis grow in proportion to its share
    have hgrow := sum_map_eq_add_shares
      (fun m => realizedPnlOf loop.db m.positionId - m.realizedPnl
        + m.amountKrw * appliedTo (s.pieces ++ loop.pieces) m.positionId / m.volume)
      (fun m => realizedPnlOf s.db m.positionId - m.realizedPnl
        + m.amountKrw * appliedTo s.pieces m.positionId / m.volume)
      (((b.since a).amountKrw - (b.since a).fee) / (b.since a).volume) o.members ys hlen (by
        intro x hx
        have hm := (List.of_mem_zip hx).1
        have hshare := AggregateMember.realizedPnl_share (b.since a) log.orderUuid
          status.stillWaiting now (hreduced x.1 hm).2 (hy x hx).1 (hy x hx).2
        have hnew : realizedPnlOf loop.db x.1.positionId
            = (shareUpdates (b.since a) log.orderUuid status.stillWaiting now
                (memberRow s.db x.1) x.2).realizedPnl := by
          unfold realizedPnlOf
          rw [show loadLivePosition loop.db x.1.positionId = _ from (hzip x hx).1]
          rfl
        have hold : realizedPnlOf s.db x.1.positionId = (memberRow s.db x.1).realizedPnl := by
          unfold realizedPnlOf
          rw [(hreduced x.1 hm).1]
          rfl
        rw [happlied x hx, hnew, hold]
        linarith)
    rw [List.sum_map_add, List.sum_map_add, hys_sum] at hgrow
    have hproportion : ((b.since a).amountKrw - (b.since a).fee) / (b.since a).volume
        * (b.executed - a.executed) = (b.filled - a.filled) - (b.fee - a.fee) := by
      have hne : b.executed - a.executed ≠ 0 := ne_of_gt (by linarith)
      show ((b.filled - a.filled) - (b.fee - a.fee)) / (b.executed - a.executed)
        * (b.executed - a.executed) = _
      field_simp
    rw [hproportion] at hgrow
    have hprofit := h.profit
    unfold AggregateOrder.realizedSince AggregateOrder.soldBasis at hprofit ⊢
    linarith
  · intro m hm
    obtain ⟨y, hmy⟩ := exists_share hlen hm
    refine ⟨_, (hzip _ hmy).1, fun hcase => ?_⟩
    have hpos : b.executed ≠ 0 := ne_of_gt (lt_of_le_of_lt hnonneg hlt)
    rw [happlied _ hmy]
    exact AggregateMember.reduced_share (hreduced m hm).2 (hy _ hmy).1 (hy _ hmy).2
      (hcase.resolve_right hpos)

theorem AggregateOrder.Totals.congr {s' : AggregateRun} (h : o.Totals s a)
    (hdb : s'.db.livePositions = s.db.livePositions) (hpieces : s'.pieces = s.pieces) :
    o.Totals s' a := by
  have hload : ∀ j, loadLivePosition s'.db j = loadLivePosition s.db j := fun j =>
    loadLivePosition_congr hdb j
  refine ⟨by rw [hpieces]; exact h.applied, ?_, ?_⟩
  · have hprofit := h.profit
    unfold AggregateOrder.realizedSince realizedPnlOf at hprofit ⊢
    simp only [hload, hpieces]
    exact hprofit
  · simp only [hload, hpieces]
    exact h.rows

theorem AggregateOrder.Totals.reopen (h : o.Totals s a) (hzero : a.executed = 0)
    (positionIds : List ℕ) (now : UtcTime) :
    o.Totals ⟨positionIds.foldl
      (fun db positionId => updateLivePosition db positionId reopenUpdates now) s.db,
      s.pieces⟩ a := by
  have hload := loadLivePosition_foldl_update s.db now positionIds reopenUpdates
  refine ⟨h.applied, ?_, ?_⟩
  · have hprofit := h.profit
    have hsame : ∀ j, realizedPnlOf (positionIds.foldl
        (fun db positionId => updateLivePosition db positionId reopenUpdates now) s.db) j
          = realizedPnlOf s.db j := by
      intro j
      unfold realizedPnlOf
      rw [hload]
      -- reopening writes no profit
      cases loadLivePosition s.db j with
      | none => rfl
      | some p =>
        by_cases hj : j ∈ positionIds
        · simp [hj, reopenUpdates]
        · simp [hj]
    unfold AggregateOrder.realizedSince at hprofit ⊢
    simp only [hsame]
    exact hprofit
  · intro m hm
    obtain ⟨p, hp, hred⟩ := h.rows m hm
    -- nothing was sold yet, so even a closed row holds all of its volume
    have hred := hred (.inr hzero)
    refine ⟨_, by rw [hload, hp]; rfl, fun _ => ?_⟩
    split
    · exact ⟨hred.volume, hred.amountKrw, hred.pos⟩
    · exact hred

/-- **One delivery.** A snapshot that finds none of its positions closed leaves
row and totals in step. -/
theorem deliverAggregateSnapshot_inStep (d : AggregateDelivery) (h : o.InStep s a)
    (hzero : a.executed = 0 → a = .zero) (hnonneg : 0 ≤ a.executed) (hmono : a.le d.figures)
    (hle : d.figures.executed ≤ o.volumes.sum) (hok : FindsNoneClosed o.requestId s d) :
    o.InStep (deliverAggregateSnapshot o.requestId s d) d.figures
      ∧ (d.figures.executed = 0 → d.figures = .zero) := by
  obtain ⟨⟨log, hlog, hrow, hcarries⟩, htotals⟩ := h
  obtain ⟨hrises, hstarts, hopen⟩ := hok log hlog
  have habsorbed := LiveOrderLog.absorbed_of_carries hcarries hzero
  have hrequest : log.requestId = o.requestId := getLiveOrderLog_requestId s.db _ hlog
  refine ⟨?_, hrises.zero hcarries hzero hnonneg hmono⟩
  set status := normalizeExchangeOrder d.snapshot with hstatus
  set db₁ := updateLiveOrderLog s.db log.requestId (reconciledUpdates log status) d.env.now
    with hdb₁
  -- the log dict the sync receives names the same order and the same positions
  have hids : aggregateExitPositionIds (reconciledLog log status).toLiveOrderLog
      = o.members.map AggregateMember.positionId := hrow.members
  obtain ⟨m₀, hm₀, hpid⟩ := hrow.positionId
  have hne : aggregateExitPositionIds (reconciledLog log status).toLiveOrderLog ≠ [] := by
    rw [hids]
    intro hnil
    rw [List.map_eq_nil_iff] at hnil
    exact absurd (hnil ▸ hm₀) List.not_mem_nil
  have hload₁ : ∀ j, loadLivePosition db₁ j = loadLivePosition s.db j := fun j =>
    loadLivePosition_congr (updateLiveOrderLog_livePositions _ _ _ _) j
  obtain ⟨p₀, hp₀, -⟩ := htotals.rows m₀ hm₀
  have hposition : positionForExitOrder db₁ (reconciledLog log status).toLiveOrderLog = some p₀ :=
    positionForExitOrder_of_positionId hpid ((hload₁ _).trans hp₀)
  have htotals₁ : o.Totals ⟨db₁, s.pieces⟩ a :=
    htotals.congr (updateLiveOrderLog_livePositions _ _ _ _) rfl
  have hdeliver : deliverAggregateSnapshot o.requestId s d
      = ⟨syncExitOrderPosition db₁ (reconciledLog log status) status d.env.now,
          s.pieces ++ aggregateExitPieces db₁ (reconciledLog log status) status d.env.now⟩ := by
    unfold deliverAggregateSnapshot
    simp only [hlog]
    rw [applyReconciledOrderStatus_exit _ _ _ _ _ hrow.purpose]
  rw [hdeliver]
  constructor
  · -- the row carries the snapshot's figures
    obtain ⟨r, hr, hpurpose, hposid, hpreview, -, hfigures⟩ :=
      row_updateLiveOrderLog (reconciledUpdates log status) d.env.now hlog rfl
    have hkeep : ∀ r' : LiveOrderLog, r'.orderPurpose = log.orderPurpose →
        r'.positionId = log.positionId → r'.orderPreviewPayload = log.orderPreviewPayload →
        o.Row r' := by
      intro r' h1 h2 h3
      refine ⟨h1.trans hrow.purpose, ?_, m₀, hm₀, h2.trans hpid⟩
      have hmembers := hrow.members
      unfold aggregateExitPositionIds at hmembers ⊢
      rw [h3]
      exact hmembers
    rcases syncExitOrderPosition_liveOrderLogs db₁ (reconciledLog log status) status d.env.now
      with heq | ⟨pnl, heq⟩
    · refine ⟨r, ?_, hkeep r hpurpose hposid hpreview, LiveOrderLog.carries_of_figures hfigures⟩
      rw [getLiveOrderLog_congr heq, hdb₁, hrequest]
      exact hr
    · obtain ⟨r', hr', hpurpose', hposid', hpreview', -, hfigures'⟩ :=
        row_updateLiveOrderLog { actualPnl := some pnl } d.env.now hr rfl
      refine ⟨r', ?_, hkeep r' (hpurpose'.trans hpurpose) (hposid'.trans hposid)
        (hpreview'.trans hpreview), LiveOrderLog.carries_of_figures (hfigures'.trans hfigures)⟩
      rw [getLiveOrderLog_congr heq, show (reconciledLog log status).requestId = o.requestId
        from hrequest, hdb₁, hrequest]
      exact hr'
  · rw [syncExitOrderPosition_aggregate hposition hne]
    rcases lt_or_eq_of_le hmono.1 with hlt | heq
    · -- new volume, handed out over open positions
      have hpos : 0 < status.executedVolume := lt_of_le_of_lt hnonneg hlt
      have hfill : status.status.isFill = true := normalizeExchangeOrder_isFill hpos
      have hdelta : exitFillDelta (reconciledLog log status) status = d.figures.since a :=
        exitFillDelta_of_carries hcarries hzero hnonneg hmono hstarts hlt
      have hvolume : 0 < (d.figures.since a).volume := sub_pos.mpr hlt
      have hnone : ∀ m ∈ o.members, ∀ p ∈ loadLivePosition db₁ m.positionId,
          p.status ≠ .closed := by
        intro m hm p hp
        refine hopen (by rw [hcarries.1]; exact hlt) m.positionId ?_ p ?_
        · rw [hrow.members]; exact List.mem_map_of_mem hm
        · rw [hload₁] at hp; exact hp
      have hspread := htotals₁.fill (reconciledLog log status) status d.env.now hnone hnonneg
        hlt hle
      rw [if_pos hfill, hids, hdelta]
      unfold syncAggregateExitOrderPositions aggregateExitPieces
      rw [if_neg (not_le.mpr hvolume), hdelta, hids, hposition,
        if_pos ⟨rfl, hfill, hvolume⟩]
      exact hspread.congr (updateLiveOrderLog_livePositions _ _ _ _) rfl
    · -- no new volume, no pieces
      have hsame : d.figures = a := (hrises (heq.symm.trans hcarries.1.symm)).trans habsorbed
      have hvolume : ¬ 0 < (exitFillDelta (reconciledLog log status) status).volume :=
        not_lt.mpr (exitFillDelta_volume_nonpos hcarries heq.symm)
      have hpieces : aggregateExitPieces db₁ (reconciledLog log status) status d.env.now = [] := by
        unfold aggregateExitPieces
        exact if_neg (fun h => hvolume h.2.2)
      rw [hpieces, List.append_nil, hsame]
      split_ifs with hfill hcanceled
      · unfold syncAggregateExitOrderPositions
        rw [if_pos (not_lt.mp hvolume)]
        exact htotals₁
      · refine htotals₁.reopen ?_ _ _
        exact le_antisymm (heq ▸ normalizeExchangeOrder_canceled hcanceled) hnonneg
      · exact htotals₁

end Deliver

/-! ## Whole runs -/

/-- The order before its first fill: the row has no executed volume, the positions
are the ones the order was placed for. -/
structure AggregateOrder.Fresh (o : AggregateOrder) (db : Database) : Prop where
  row : ∃ log, getLiveOrderLog db o.requestId = some log ∧ o.Row log ∧ log.executedVolume = 0
  rows : ∀ m ∈ o.members, ∃ p, loadLivePosition db m.positionId = some p
    ∧ p.entryVolume = m.volume ∧ p.entryAmountKrw = m.amountKrw ∧ p.realizedPnl = m.realizedPnl

section Runs

variable {o : AggregateOrder} {db : Database}

theorem AggregateOrder.Fresh.inStep (h : o.Fresh db) : o.InStep ⟨db, []⟩ .zero := by
  obtain ⟨⟨log, hlog, hrow, he⟩, hrows⟩ := h
  refine ⟨⟨log, hlog, hrow, he, fun hne => absurd he hne⟩, ?_, ?_, ?_⟩
  · show o.members.map (fun _ => (0 : ℚ)) = waterfall o.volumes 0
    rw [waterfall_zero _ o.volumes_nonneg, AggregateOrder.volumes, List.map_map]
    rfl
  · have hnone : ∀ m ∈ o.members, realizedPnlOf db m.positionId - m.realizedPnl = 0 := by
      intro m hm
      obtain ⟨p, hp, _, _, hr⟩ := hrows m hm
      unfold realizedPnlOf
      rw [hp]
      simp [hr]
    have hbasis : o.soldBasis [] = 0 := by
      unfold AggregateOrder.soldBasis
      refine List.sum_eq_zero (fun x hx => ?_)
      obtain ⟨m, _, rfl⟩ := List.mem_map.mp hx
      simp
    have hrealized : o.realizedSince db = 0 := by
      unfold AggregateOrder.realizedSince
      refine List.sum_eq_zero (fun x hx => ?_)
      obtain ⟨m, hm, rfl⟩ := List.mem_map.mp hx
      exact hnone m hm
    show o.realizedSince db = 0 - o.soldBasis [] - 0
    rw [hrealized, hbasis]
    norm_num
  · intro m hm
    obtain ⟨p, hp, hv, ha, _⟩ := hrows m hm
    refine ⟨p, hp, fun _ => ⟨?_, ?_, ?_⟩⟩
    · rw [hv]; simp
    · rw [ha]; simp
    · rw [hv]; exact m.volume_pos

/-- **Every run of deliveries that find no closed position** keeps row and totals
in step with the last figures. -/
theorem deliverAggregateSnapshots_inStep (hfresh : o.Fresh db) (ds : List AggregateDelivery)
    (hds : Cumulative o.volumes.sum (ds.map AggregateDelivery.figures))
    (hok : StepsOk (deliverAggregateSnapshot o.requestId) (FindsNoneClosed o.requestId)
      ⟨db, []⟩ ds) :
    o.InStep (run (deliverAggregateSnapshot o.requestId) ⟨db, []⟩ ds)
        (lastFigures (ds.map AggregateDelivery.figures))
      ∧ ((lastFigures (ds.map AggregateDelivery.figures)).executed = 0 →
          lastFigures (ds.map AggregateDelivery.figures) = .zero) := by
  -- on the last delivery: the figures are cumulative, so the last ones bound the earlier
  induction ds using List.reverseRecOn with
  | nil => exact ⟨hfresh.inStep, fun _ => rfl⟩
  | append_singleton ds d ih =>
    rw [stepsOk_append] at hok
    rw [List.map_append, List.map_cons, List.map_nil] at hds ⊢
    obtain ⟨hin, hzero⟩ := ih hds.init hok.1
    rw [run_append, lastFigures_append]
    exact deliverAggregateSnapshot_inStep d hin hzero hds.init.lastFigures_nonneg.1
      hds.lastFigures_le (hds.le_volume _ hds.last_mem) hok.2.1

/-- **An aggregate order sells each position once**, in every state of a run whose
deliveries find none of the order's positions closed when they bring new volume. -/
theorem aggregateFills_distributed_once (o : AggregateOrder) (db : Database)
    (ds : List AggregateDelivery) (hfresh : o.Fresh db)
    (hds : Cumulative o.volumes.sum (ds.map AggregateDelivery.figures))
    (hok : StepsOk (deliverAggregateSnapshot o.requestId) (FindsNoneClosed o.requestId)
      ⟨db, []⟩ ds) (n : ℕ) :
    let s := run (deliverAggregateSnapshot o.requestId) ⟨db, []⟩ (ds.take n)
    let a := lastFigures ((ds.take n).map AggregateDelivery.figures)
    (∀ i m, o.members[i]? = some m →
        appliedTo s.pieces m.positionId
          = min m.volume (max (a.executed - (o.volumes.take i).sum) 0))
      ∧ (o.members.map (fun m => appliedTo s.pieces m.positionId)).sum = a.executed
      ∧ o.realizedSince s.db = a.filled - o.soldBasis s.pieces - a.fee
      ∧ (∀ m ∈ o.members, ∃ p, loadLivePosition s.db m.positionId = some p
          ∧ (p.status ≠ .closed →
              p.entryVolume = m.volume - appliedTo s.pieces m.positionId)) := by
  intro s a
  have htake : Cumulative o.volumes.sum ((ds.take n).map AggregateDelivery.figures) := by
    rw [List.map_take]
    exact hds.take n
  obtain ⟨⟨-, htotals⟩, -⟩ := deliverAggregateSnapshots_inStep hfresh (ds.take n) htake (hok.take n)
  have hnonneg : 0 ≤ a.executed := htake.lastFigures_nonneg.1
  refine ⟨?_, ?_, htotals.profit, ?_⟩
  · intro i m hm
    -- the pieces are the waterfall of the executed volume, read at `i`
    have hshare := congrArg (fun l => l[i]?) htotals.applied
    simp only [List.getElem?_map, hm, Option.map_some] at hshare
    rw [waterfall_getElem? _ _ hnonneg o.volumes_nonneg] at hshare
    have hvolume : o.volumes[i]? = some m.volume := by
      rw [AggregateOrder.volumes, List.getElem?_map, hm]
      rfl
    rw [hvolume] at hshare
    exact Option.some.inj hshare
  · rw [htotals.applied]
    refine sum_waterfall _ _ hnonneg o.volumes_nonneg ?_
    -- the volumes hold what was executed, so the waterfall spends all of it
    rcases lastFigures_cases ((ds.take n).map AggregateDelivery.figures) with hz | hmem
    · show a.executed ≤ _
      rw [show a = .zero from hz]
      exact List.sum_nonneg o.volumes_nonneg
    · exact htake.le_volume _ hmem
  · intro m hm
    obtain ⟨p, hp, hred⟩ := htotals.rows m hm
    exact ⟨p, hp, fun hopen => (hred (.inl hopen)).volume⟩

end Runs

/-! ## Two snapshots of one order -/

/-- One coin bought for 100 and two bought for 220, sold by one order. -/
def exampleAggregateOrder : AggregateOrder where
  requestId := "exit-agg"
  members :=
    [⟨1, 1, 100, 0, by norm_num, by norm_num⟩, ⟨2, 2, 220, 0, by norm_num, by norm_num⟩]
  nodup := by decide

def exampleAggregatePosition (volume amountKrw : ℚ) (id : ℕ) : LivePosition :=
  { id := id, sessionId := 1, market := "KRW-BTC", status := .closing
    entryPrice := amountKrw / volume, entryVolume := volume, entryAmountKrw := amountKrw
    exitOrderUuid := some "agg-uuid" }

def exampleAggregateLog (id : ℕ) : LiveOrderLog :=
  { id := id, requestId := "exit-agg", exchange := "bithumb", market := "KRW-BTC", side := .sell
    status := .submitted, orderUuid := some "agg-uuid", positionId := some 1
    orderPurpose := .exit
    orderPreviewPayload := { aggregateExitPositionIds := [some 1, some 2] } }

def exampleAggregateDb : Database :=
  { livePositions :=
      (Table.empty.insert (exampleAggregatePosition 1 100) (fun _ => rfl)).insert
        (exampleAggregatePosition 2 220) (fun _ => rfl)
    liveOrderLogs := Table.empty.insert exampleAggregateLog (fun _ => rfl) }

def exampleAggregateDelivery (executed remaining paidAmount fee : ℚ) (state : String) :
    AggregateDelivery :=
  { snapshot :=
      { uuid := some "agg-uuid", state := some state, executedVolume := some executed
        remainingVolume := some remaining, paidAmount := some paidAmount, paidFee := some fee }
    source := "OPEN_ORDER_SYNC"
    env := { now := 10 } }

theorem exampleAggregateOrder_fresh : exampleAggregateOrder.Fresh exampleAggregateDb := by
  refine ⟨⟨exampleAggregateLog 1, by decide +kernel,
    ⟨by decide, by decide +kernel, ⟨_, List.mem_cons_self, by decide⟩⟩, by decide +kernel⟩, ?_⟩
  intro m hm
  rcases List.mem_cons.mp hm with rfl | hm
  · exact ⟨exampleAggregatePosition 1 100 1, by decide +kernel, by decide +kernel,
      by decide +kernel, by decide +kernel⟩
  · rw [List.mem_singleton.mp hm]
    exact ⟨exampleAggregatePosition 2 220 2, by decide +kernel, by decide +kernel,
      by decide +kernel, by decide +kernel⟩

/-- Half of the first coin, then everything: no position is closed in between. -/
def exampleAggregateDeliveries : List AggregateDelivery :=
  [exampleAggregateDelivery (1 / 2) (5 / 2) 60 1 "wait",
   exampleAggregateDelivery 3 0 400 2 "done"]

/-- The first coin, then everything: the first position is closed in between. -/
def exampleAggregateTwice : List AggregateDelivery :=
  [exampleAggregateDelivery 1 2 120 1 "wait",
   exampleAggregateDelivery 3 0 400 2 "done"]

theorem aggregateFills_distributed_once_example :
    let s := run (deliverAggregateSnapshot exampleAggregateOrder.requestId)
      ⟨exampleAggregateDb, []⟩ (exampleAggregateDeliveries.take 2)
    let a := lastFigures ((exampleAggregateDeliveries.take 2).map AggregateDelivery.figures)
    (∀ i m, exampleAggregateOrder.members[i]? = some m →
        appliedTo s.pieces m.positionId
          = min m.volume (max (a.executed - (exampleAggregateOrder.volumes.take i).sum) 0))
      ∧ (exampleAggregateOrder.members.map (fun m => appliedTo s.pieces m.positionId)).sum
          = a.executed
      ∧ exampleAggregateOrder.realizedSince s.db
          = a.filled - exampleAggregateOrder.soldBasis s.pieces - a.fee
      ∧ (∀ m ∈ exampleAggregateOrder.members,
          ∃ p, loadLivePosition s.db m.positionId = some p
            ∧ (p.status ≠ .closed →
                p.entryVolume = m.volume - appliedTo s.pieces m.positionId)) :=
  aggregateFills_distributed_once exampleAggregateOrder exampleAggregateDb
    exampleAggregateDeliveries exampleAggregateOrder_fresh
    ⟨by decide +kernel, by decide +kernel, by decide +kernel⟩ (by decide +kernel) 2

/-- **The first coin is sold twice**, and one coin of the second position never.
All three coins have been executed: one of the first position and two of the second. -/
theorem aggregateFills_sold_twice :
    exampleAggregateOrder.Fresh exampleAggregateDb
      ∧ Cumulative exampleAggregateOrder.volumes.sum
          (exampleAggregateTwice.map AggregateDelivery.figures)
      ∧ (lastFigures (exampleAggregateTwice.map AggregateDelivery.figures)).executed = 3
      ∧ let s := run (deliverAggregateSnapshot exampleAggregateOrder.requestId)
          ⟨exampleAggregateDb, []⟩ exampleAggregateTwice
        appliedTo s.pieces 1 = 2 ∧ min (1 : ℚ) (max (3 - 0) 0) = 1
          ∧ appliedTo s.pieces 2 = 1 ∧ min (2 : ℚ) (max (3 - 1) 0) = 2
          ∧ (loadLivePosition s.db 2).map (fun p => (p.status, p.entryVolume))
              = some (.opened, 1) := by
  refine ⟨exampleAggregateOrder_fresh, ⟨by decide +kernel, by decide +kernel, by decide +kernel⟩,
    by decide +kernel, by decide +kernel, by decide +kernel, by decide +kernel,
    by decide +kernel, by decide +kernel⟩

end AutoCoinBot
