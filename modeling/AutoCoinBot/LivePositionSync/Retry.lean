/-
  LivePositionSync.Retry — a sync that stops between two of its writes
  and is run again, and a sync that is run twice.

  The branches record a fill in different orders: the scale-in branch writes the fill event and the
  ledger before the position, the delta branch the position before both.
-/
import AutoCoinBot.LivePositionSync.Effects
import AutoCoinBot.LivePositionSync.Readings

namespace AutoCoinBot

open Library

/-! ## Safe crash points -/

/-- The order as a retry reads it once the first `n` of its log rows are attached. -/
def rereadOrder (env : SyncEnv) (db : Database) (c : SyncCall) (f : FilledOrder)
    (positionId n : ℕ) : Option FilledOrder :=
  (filledOrder (applyWrites env.now db ((attachLogs f.logs positionId).take n)) c.orderLog
    c.rawOrder c.session).toOption

/-- **Safe crash points of the delta branch.** Before the position is written the
order must read with the same added amount; from then on until the ledger is written
it must not be read at all, unless the updated fill event stands in for the ledger. -/
def DeltaRetrySafe (env : SyncEnv) (db : Database) (c : SyncCall) (f : FilledOrder)
    (ledger : OrderApplication) (k : ℕ) : Prop :=
  let attached := (attachLogs f.logs ledger.positionId).length
  let events := (loadPositionFillEvent db f.orderUuid ledger.fillType).toList.length
  let reread := rereadOrder env db c f ledger.positionId k
  deltaTolerance < deltaVolume ledger f → (loadLivePosition db ledger.positionId).isSome →
    (k ≤ attached → reread.map (deltaAmount ledger) = some (deltaAmount ledger f))
      ∧ (attached < k → k < attached + 2 + events →
          reread = none
            ∨ (k = attached + 2 ∧ loadOrderApplicationLedger db f.orderUuid = none))

/-- **Safe crash points of the adopting branch.** Before the fill event is written the
order must not read as a scale-in; afterwards its volume must not exceed what the
position held. -/
def AdoptRetrySafe (env : SyncEnv) (db : Database) (c : SyncCall) (f : FilledOrder)
    (existing : LivePosition) (k : ℕ) : Prop :=
  let attached := (attachLogs f.logs existing.id).length
  let reread := rereadOrder env db c f existing.id k
  (k ≤ attached → ∀ f' ∈ reread, scaleInTarget db c.session f' = none)
    ∧ (attached < k → ¬ (deltaTolerance < f.volume - existing.entryVolume ∧ reread.isSome))

/-- **Safe crash points**, by the branch the sync takes. A scale-in has none between
its fill event and its position; a created position must not be found as a scale-in
target while nothing else is written. -/
def RetrySafe (env : SyncEnv) (db : Database) (c : SyncCall) (k : ℕ) : Prop :=
  ∀ f ∈ (filledOrder db c.orderLog c.rawOrder c.session).toOption,
    match applicationOf db f.orderUuid with
    | some ledger => DeltaRetrySafe env db c f ledger k
    | none =>
      if (resolveScaleInTarget db c.session f.canonicalLog
          (scalePreview f.canonicalLog)).isSome then
        (scaleInTarget db c.session f).isSome → k = 0 ∨ 3 ≤ k
      else
        match loadLivePositionByEntryOrderUuid db c.session.exchange c.session.market
            f.orderUuid with
        | some existing => AdoptRetrySafe env db c f existing k
        | none => k = 1 → scaleInTarget (withNewPosition env db f c.session) c.session f = none

/-! ## Half-written states -/

section Prefixes

variable {α : Type*} {p : α → Bool} {x y z : List α}

theorem filter_take_middle (hx : x.filter p = []) (hy : y.filter p = y)
    (hz : z.filter p = []) (k : ℕ) :
    ((x ++ y ++ z).take k).filter p = y.take (k - x.length) := by
  have hnone : ∀ {l : List α} (_ : l.filter p = []) (n : ℕ), (l.take n).filter p = [] := by
    intro l hl n
    rw [List.filter_eq_nil_iff] at hl ⊢
    exact fun a h => hl a (List.mem_of_mem_take h)
  rw [List.take_append, List.take_append, List.filter_append, List.filter_append, hnone hx,
    hnone hz, List.nil_append, List.append_nil, List.filter_eq_self]
  intro a h
  exact List.filter_eq_self.mp hy a (List.mem_of_mem_take h)

end Prefixes

section Crash

variable {env : SyncEnv} {db : Database} {c : SyncCall} {x y z : List SyncWrite}

theorem sameFills_syncCrashedAfter (hplan : (syncPlan env db c).1 = x ++ y ++ z)
    (hx : x.filter SyncWrite.recordsFill = []) (hy : y.filter SyncWrite.recordsFill = y)
    (hz : z.filter SyncWrite.recordsFill = []) (k : ℕ) :
    SameFills (syncCrashedAfter env db c k)
      (applyWrites env.now db (y.take (k - x.length))) := by
  unfold syncCrashedAfter
  rw [hplan, ← filter_take_middle hx hy hz k]
  exact sameFills_applyWrites env.now db _

theorem liveOrderLogs_syncCrashedAfter (hplan : (syncPlan env db c).1 = x ++ y ++ z)
    (hx : x.filter SyncWrite.attachesLog = []) (hy : y.filter SyncWrite.attachesLog = y)
    (hz : z.filter SyncWrite.attachesLog = []) (k : ℕ) :
    (syncCrashedAfter env db c k).liveOrderLogs
      = (applyWrites env.now db (y.take (k - x.length))).liveOrderLogs := by
  unfold syncCrashedAfter
  rw [hplan, ← filter_take_middle hx hy hz k]
  exact liveOrderLogs_applyWrites env.now db _

end Crash

/-! ## Effects compared -/

section Compare

variable {figures : ℕ → Option PositionFigures} {positionId n n' : ℕ} {x a b : PositionFigures}

theorem FillEffect.add_apply_ne (hx : figures positionId = some x) (ha : 0 < a.volume) :
    (FillEffect.add positionId a).apply n figures ≠ figures := by
  intro h
  have hat := congrFun h positionId
  simp only [FillEffect.apply, if_true, hx, Option.map_some, Option.some.injEq] at hat
  have hvolume := congrArg PositionFigures.volume hat
  simp only at hvolume
  linarith

theorem FillEffect.add_apply_eq_iff (hx : figures positionId = some x) :
    (FillEffect.add positionId a).apply n figures = (FillEffect.add positionId b).apply n' figures
      ↔ a = b := by
  constructor
  · intro h
    have hat := congrFun h positionId
    simp only [FillEffect.apply, if_true, hx, Option.map_some, Option.some.injEq,
      PositionFigures.mk.injEq, add_right_inj] at hat
    cases a
    cases b
    simpa using hat
  · rintro rfl; rfl

end Compare

section Retry

variable {env : SyncEnv} {db db' : Database} {c : SyncCall} {f : FilledOrder}

theorem callEffect_eq (db : Database) (c : SyncCall) :
    callEffect db c = ((filledOrder db c.orderLog c.rawOrder c.session).toOption).elim .nothing
      (fun f => fillEffect db f c.session) := by
  unfold callEffect
  cases filledOrder db c.orderLog c.rawOrder c.session <;> rfl

theorem Recorded.of_sameFills {db db' : Database} {uuid : String} {positionId : ℕ} {v : ℚ}
    (hfills : SameFills db db') (h : Recorded db' uuid positionId v) :
    Recorded db uuid positionId v := by
  obtain ⟨l, hl, hpos, hvol⟩ := h
  exact ⟨l, (hfills.applicationOf _).trans hl, hpos, hvol⟩

theorem callEffect_of_recorded (hread : ∀ f' ∈ (filledOrder db' c.orderLog c.rawOrder
      c.session).toOption, f'.orderUuid = f.orderUuid ∧ f'.volume = f.volume)
    {positionId : ℕ} (hrecorded : Recorded db' f.orderUuid positionId f.volume) :
    callEffect db' c = .nothing := by
  rw [callEffect_eq]
  cases hf' : (filledOrder db' c.orderLog c.rawOrder c.session).toOption with
  | none => rfl
  | some f' =>
    obtain ⟨huuid, hvolume⟩ := hread f' hf'
    obtain ⟨l, happlied, _, hprevious⟩ := hrecorded
    have hzero : ¬ deltaTolerance < deltaVolume l f' := by
      unfold deltaVolume deltaTolerance
      rw [hvolume, hprevious, sub_self, max_self]
      norm_num
    show fillEffect db' f' c.session = .nothing
    unfold fillEffect
    rw [huuid, happlied]
    exact if_neg hzero

theorem callEffect_of_application (hread : ∀ f' ∈ (filledOrder db' c.orderLog c.rawOrder
      c.session).toOption, f'.orderUuid = f.orderUuid ∧ f'.volume = f.volume)
    {ledger : OrderApplication} (happlied : applicationOf db' f.orderUuid = some ledger) :
    callEffect db' c = ((filledOrder db' c.orderLog c.rawOrder c.session).toOption).elim .nothing
      (fun f' => if deltaTolerance < deltaVolume ledger f then
        .add ledger.positionId ⟨deltaVolume ledger f, deltaAmount ledger f'⟩ else .nothing) := by
  rw [callEffect_eq]
  cases hf' : (filledOrder db' c.orderLog c.rawOrder c.session).toOption with
  | none => rfl
  | some f' =>
    obtain ⟨huuid, hvolume⟩ := hread f' hf'
    have hsame : deltaVolume ledger f' = deltaVolume ledger f := by
      unfold deltaVolume; rw [hvolume]
    show fillEffect db' f' c.session = _
    unfold fillEffect
    rw [huuid, happlied]
    simp only [hsame, FilledOrder.since]
    rfl

theorem reread_agrees (hf : filledOrder db c.orderLog c.rawOrder c.session = .ok f)
    (hsame : SameReadings db db') :
    ∀ f' ∈ (filledOrder db' c.orderLog c.rawOrder c.session).toOption,
      f'.orderUuid = f.orderUuid ∧ f'.volume = f.volume := by
  intro f' hf'
  cases hread : filledOrder db' c.orderLog c.rawOrder c.session with
  | error reason => rw [hread] at hf'; cases hf'
  | ok g =>
    rw [hread] at hf'
    cases hf'
    exact filledOrder_volume_eq hsame hf hread

end Retry

/-! ## The delta branch -/

section Delta

variable {env env' : SyncEnv} {db : Database} {c : SyncCall} {f : FilledOrder}
  {ledger : OrderApplication} {position : LivePosition}

theorem filter_attachesLog_deltaRecords (source : String) :
    (deltaRecords db ledger position f source).filter SyncWrite.attachesLog = [] := by
  unfold deltaRecords
  cases loadPositionFillEvent db f.orderUuid ledger.fillType <;> rfl

theorem filter_attachesLog_attachLogs (logs : List LiveOrderLog) (i : ℕ) :
    (attachLogs logs i).filter SyncWrite.attachesLog = attachLogs logs i := by
  unfold attachLogs
  rw [List.filter_eq_self]
  intro w hw
  obtain ⟨r, _, rfl⟩ := List.mem_map.mp hw
  rfl

theorem filter_attachesLog_finalizeIfEntry (fillType : FillType) (i : ℕ) :
    (finalizeIfEntry fillType i).filter SyncWrite.attachesLog = [] := by
  unfold finalizeIfEntry
  split <;> rfl

theorem delta_prefix (now : UtcTime) (source : String)
    (happlied : applicationOf db f.orderUuid = some ledger)
    (hload : loadLivePosition db ledger.positionId = some position)
    (hrises : deltaTolerance < deltaVolume ledger f) {k : ℕ} (hk : 0 < k) :
    let events := (loadPositionFillEvent db f.orderUuid ledger.fillType).toList.length
    let half := applyWrites now db ((deltaRecords db ledger position f source).take k)
    figuresOf half = (FillEffect.add ledger.positionId (f.since ledger)).apply
        db.livePositions.nextId (figuresOf db)
      ∧ (if k < 2 + events ∧ ¬ (k = 2 ∧ loadOrderApplicationLedger db f.orderUuid = none) then
          applicationOf half f.orderUuid = some ledger
        else Recorded half f.orderUuid ledger.positionId f.volume) := by
  have hfull : figuresOf (applyWrites now db (deltaRecords db ledger position f source))
      = (FillEffect.add ledger.positionId (f.since ledger)).apply db.livePositions.nextId
          (figuresOf db) := by
    funext i
    exact figuresOf_deltaRecords db f source now hload i
  have hvolume : ledger.previousVolume + deltaVolume ledger f = f.volume := by
    rw [deltaVolume_of_rises hrises, add_sub_cancel]
  intro events half
  cases hevent : loadPositionFillEvent db f.orderUuid ledger.fillType with
  | none =>
    -- without a fill event the order is known by its ledger row
    have hledger : loadOrderApplicationLedger db f.orderUuid ≠ none := by
      intro h
      obtain ⟨e, he, _⟩ := recorded_update db now h happlied
      rw [hevent] at he
      cases he
    have hevents : events = 0 := by simp only [events, hevent]; rfl
    have hrecords : deltaRecords db ledger position f source
        = [.updateLivePosition ledger.positionId
            (deltaPositionUpdates position f (deltaVolume ledger f) (deltaAmount ledger f)),
          recordLedger f.orderUuid ledger.positionId ledger.fillType source f.canonicalLog
            f.volume f.amount f.fee] := by
      unfold deltaRecords; rw [hevent]; rfl
    simp only [half, hevents, hledger, and_false, not_false_eq_true, and_true]
    rw [hrecords] at hfull ⊢
    rcases Nat.lt_or_ge k 2 with hk2 | hk2
    · obtain rfl : k = 1 := by omega
      exact ⟨hfull, (applicationOf_congr rfl rfl _).trans happlied⟩
    · rw [if_neg (by omega), List.take_of_length_le (by simpa using hk2)]
      exact ⟨hfull, recorded_upsert _ now f.orderUuid ledger.positionId ledger.fillType
        source f.canonicalLog f.volume f.amount f.fee⟩
  | some event =>
    have hevents : events = 1 := by simp only [events, hevent]; rfl
    have hrecords : deltaRecords db ledger position f source
        = [.updateLivePosition ledger.positionId
            (deltaPositionUpdates position f (deltaVolume ledger f) (deltaAmount ledger f)),
          .updatePositionFillEvent event.id
            { source := source
              appliedVolume := event.appliedVolume + deltaVolume ledger f
              appliedAmountKrw := event.appliedAmountKrw + deltaAmount ledger f
              appliedFee := event.appliedFee + deltaFee ledger f },
          recordLedger f.orderUuid ledger.positionId ledger.fillType source f.canonicalLog
            f.volume f.amount f.fee] := by
      unfold deltaRecords; rw [hevent]; rfl
    simp only [half, hevents]
    rw [hrecords] at hfull ⊢
    rcases Nat.lt_trichotomy k 2 with hk2 | rfl | hk2
    · obtain rfl : k = 1 := by omega
      exact ⟨hfull, (applicationOf_congr rfl rfl _).trans happlied⟩
    · refine ⟨hfull, ?_⟩
      by_cases hledger : loadOrderApplicationLedger db f.orderUuid = none
      · -- the event stands in for the ledger, and it is the one updated
        simp only [hledger]
        obtain ⟨e, he, hprevious, hrecorded⟩ := recorded_update
          ((SyncWrite.updateLivePosition ledger.positionId (deltaPositionUpdates position f
            (deltaVolume ledger f) (deltaAmount ledger f))).apply now db) now hledger
          ((applicationOf_congr rfl rfl _).trans happlied)
        obtain rfl : event = e := Option.some.inj (hevent.symm.trans he)
        have hnow : event.appliedVolume + deltaVolume ledger f = f.volume := by
          rw [hprevious, hvolume]
        simp only [and_self, not_true_eq_false, and_false, if_false]
        rw [hnow]
        exact hrecorded _
      · -- the ledger row still has the old figures
        obtain ⟨l, hl⟩ := Option.ne_none_iff_exists'.mp hledger
        have hl' : l = ledger :=
          Option.some.inj ((applicationOf_of_ledger db hl).symm.trans happlied)
        simp only [hledger, and_false, not_false_eq_true, and_true]
        exact applicationOf_of_ledger _ (hl' ▸ hl)
    · rw [if_neg (by omega), List.take_of_length_le (by simp; omega)]
      exact ⟨hfull, recorded_upsert _ now f.orderUuid ledger.positionId ledger.fillType
        source f.canonicalLog f.volume f.amount f.fee⟩

theorem figuresOf_sync (env : SyncEnv) (db : Database) (c : SyncCall) :
    figuresOf (syncFilledEntryOrderToPosition env db c).1
      = (callEffect db c).apply db.livePositions.nextId (figuresOf db) :=
  funext (figuresOf_syncFilledEntryOrderToPosition env db c)

theorem sameFills_of_noRecords (hplan : (syncPlan env db c).1.filter SyncWrite.recordsFill = [])
    (k : ℕ) : SameFills (syncCrashedAfter env db c k) db := by
  have hparts : (syncPlan env db c).1 = (syncPlan env db c).1 ++ [] ++ [] := by
    rw [List.append_nil, List.append_nil]
  have hfills := sameFills_syncCrashedAfter hparts hplan rfl rfl k
  rwa [List.take_nil, applyWrites_nil] at hfills

theorem sameFills_delta (k : ℕ) (hf : filledOrder db c.orderLog c.rawOrder c.session = .ok f)
    (happlied : applicationOf db f.orderUuid = some ledger)
    (hload : loadLivePosition db ledger.positionId = some position)
    (hrises : deltaTolerance < deltaVolume ledger f) :
    SameFills (syncCrashedAfter env db c k) (applyWrites env.now db
      ((deltaRecords db ledger position f c.source).take
        (k - (attachLogs f.logs ledger.positionId).length))) := by
  have hplan : (syncPlan env db c).1 = _ := syncPlan_delta hf happlied hload hrises
  exact sameFills_syncCrashedAfter hplan (filter_recordsFill_attachLogs _ _)
    (filter_recordsFill_deltaRecords _ _ _ _ _)
    ((filter_recordsFill_cons_point _ _ _ _).trans (filter_recordsFill_finalizeIfEntry _ _)) k

theorem reread_delta (k : ℕ) (hf : filledOrder db c.orderLog c.rawOrder c.session = .ok f)
    (happlied : applicationOf db f.orderUuid = some ledger)
    (hload : loadLivePosition db ledger.positionId = some position)
    (hrises : deltaTolerance < deltaVolume ledger f) :
    (filledOrder (syncCrashedAfter env db c k) c.orderLog c.rawOrder c.session).toOption
      = rereadOrder env db c f ledger.positionId k := by
  have hparts : (syncPlan env db c).1 = [] ++ attachLogs f.logs ledger.positionId
      ++ (deltaRecords db ledger position f c.source
        ++ pointSession c.session ledger.positionId "ORDER_UUID_DELTA_APPLIED"
          :: finalizeIfEntry ledger.fillType ledger.positionId) := by
    rw [syncPlan_delta hf happlied hload hrises, List.nil_append, List.append_assoc]
  have hlogs := liveOrderLogs_syncCrashedAfter hparts rfl
    (filter_attachesLog_attachLogs f.logs ledger.positionId)
    (by
      rw [List.filter_append, filter_attachesLog_deltaRecords, List.nil_append]
      exact filter_attachesLog_finalizeIfEntry _ _) k
  rw [filledOrder_congr hlogs]
  rfl

theorem retry_delta_small (k : ℕ) (hf : filledOrder db c.orderLog c.rawOrder c.session = .ok f)
    (happlied : applicationOf db f.orderUuid = some ledger)
    (hsmall : ¬ deltaTolerance < deltaVolume ledger f) :
    callEffect (syncCrashedAfter env db c k) c = .nothing
      ∧ SameFills (syncCrashedAfter env db c k) db := by
  have hagree := reread_agrees hf (sameReadings_applyWrites env.now db
    ((syncPlan env db c).1.take k))
  change ∀ f' ∈ (filledOrder (syncCrashedAfter env db c k) c.orderLog c.rawOrder
    c.session).toOption, _ at hagree
  have hplan : (syncPlan env db c).1.filter SyncWrite.recordsFill = [] := by
    unfold syncPlan
    rw [hf]
    simp only [syncFilledOrder, happlied]
    rw [filter_recordsFill_applyOrderUuidDelta, if_neg hsmall]
  have hfills := sameFills_of_noRecords hplan k
  refine ⟨?_, hfills⟩
  rw [callEffect_of_application hagree ((hfills.applicationOf _).trans happlied)]
  cases (filledOrder (syncCrashedAfter env db c k) c.orderLog c.rawOrder c.session).toOption with
  | none => rfl
  | some f' => exact if_neg hsmall

theorem retry_delta_iff (k : ℕ) (hf : filledOrder db c.orderLog c.rawOrder c.session = .ok f)
    (happlied : applicationOf db f.orderUuid = some ledger) :
    figuresOf (syncFilledEntryOrderToPosition env' (syncCrashedAfter env db c k) c).1
        = figuresOf (syncFilledEntryOrderToPosition env db c).1
      ↔ DeltaRetrySafe env db c f ledger k := by
  have hagree := reread_agrees hf (sameReadings_applyWrites env.now db
    ((syncPlan env db c).1.take k))
  change ∀ f' ∈ (filledOrder (syncCrashedAfter env db c k) c.orderLog c.rawOrder
    c.session).toOption, _ at hagree
  have honce : callEffect db c = if deltaTolerance < deltaVolume ledger f then
      .add ledger.positionId (f.since ledger) else .nothing := by
    unfold callEffect fillEffect
    rw [hf]
    simp only [happlied]
  -- both runs are the effect of one call, from the crashed and from the first state
  rw [figuresOf_sync, figuresOf_sync, honce]
  unfold DeltaRetrySafe
  by_cases hrises : deltaTolerance < deltaVolume ledger f
  · cases hload : loadLivePosition db ledger.positionId with
    | none =>
      -- the position is missing: no write is made, and the retry finds the same state
      refine iff_of_true ?_ (by simp)
      have hplan : (syncPlan env db c).1 = [] := by
        unfold syncPlan
        rw [hf]
        simp only [syncFilledOrder, happlied, applyOrderUuidDelta, hload]
      have hsame : syncCrashedAfter env db c k = db := by
        unfold syncCrashedAfter
        rw [hplan, List.take_nil, applyWrites_nil]
      rw [hsame, honce]
    | some position =>
      have hfills : SameFills (syncCrashedAfter env db c k) _ :=
        sameFills_delta k hf happlied hload hrises
      have hread : (filledOrder (syncCrashedAfter env db c k) _ _ _).toOption = _ :=
        reread_delta k hf happlied hload hrises
      rw [hread] at hagree
      have hpos : 0 < deltaVolume ledger f := deltaTolerance_pos.trans hrises
      have hfigures := figuresOf_of_load hload
      rw [if_pos hrises]
      simp only [hrises, Option.isSome_some, forall_const]
      -- the logs are attached first; the position is the first record
      rcases Nat.lt_or_ge (attachLogs f.logs ledger.positionId).length k with hk | hk
      · -- the position is written: the retry must add nothing
        obtain ⟨hhalf, hknown⟩ := delta_prefix env.now c.source happlied hload hrises
          (Nat.sub_pos_of_lt hk)
        have hcrashed := hfills.figuresOf.trans hhalf
        have hpresent : figuresOf (syncCrashedAfter env db c k) ledger.positionId = some
            ⟨position.entryVolume + deltaVolume ledger f,
              position.entryAmountKrw + deltaAmount ledger f⟩ := by
          rw [hcrashed]
          simp only [FillEffect.apply, if_true, hfigures]
          rfl
        rw [and_iff_right (fun h => absurd hk (not_lt.mpr h)), ← hcrashed]
        split_ifs at hknown with hbetween
        · -- neither event nor ledger stands for the new volume yet
          rw [callEffect_of_application (hread ▸ hagree)
            ((hfills.applicationOf _).trans hknown), hread]
          cases hreread : rereadOrder env db c f ledger.positionId k with
          | none => exact iff_of_true rfl (fun _ _ => .inl rfl)
          | some f' =>
            simp only [Option.elim_some, if_pos hrises]
            refine iff_of_false (FillEffect.add_apply_ne hpresent hpos) (fun h => ?_)
            rcases h hk (by omega) with h | h
            · cases h
            · exact hbetween.2 ⟨by omega, h.2⟩
        · -- the order is recorded with its whole volume: the retry takes it for a duplicate
          rw [callEffect_of_recorded (hread ▸ hagree) (hknown.of_sameFills hfills)]
          refine iff_of_true rfl (fun _ hlt => .inr ?_)
          by_contra hnot
          exact hbetween ⟨by omega, fun h => hnot ⟨by omega, h.2⟩⟩
      · -- only logs are attached: the retry must add what the run would have
        rw [Nat.sub_eq_zero_of_le hk, List.take_zero, applyWrites_nil] at hfills
        rw [callEffect_of_application (hread ▸ hagree)
          ((hfills.applicationOf _).trans happlied), hread, hfills.figuresOf]
        have hiff : (k ≤ (attachLogs f.logs ledger.positionId).length →
              (rereadOrder env db c f ledger.positionId k).map (deltaAmount ledger)
                = some (deltaAmount ledger f))
            ↔ (rereadOrder env db c f ledger.positionId k).map (deltaAmount ledger)
                = some (deltaAmount ledger f) := ⟨fun h => h hk, fun h _ => h⟩
        rw [hiff, and_iff_left (fun h => absurd h (not_lt.mpr hk))]
        cases rereadOrder env db c f ledger.positionId k with
        | none =>
          -- the order with the attached rows is refused: the delta is lost
          refine iff_of_false (fun h => ?_) (by simp)
          exact FillEffect.add_apply_ne hfigures hpos h.symm
        | some f' =>
          simp only [Option.elim_some, if_pos hrises, Option.map_some, Option.some.injEq]
          rw [FillEffect.add_apply_eq_iff hfigures, FilledOrder.since,
            PositionFigures.mk.injEq]
          exact and_iff_right rfl
  · refine iff_of_true ?_ (fun h => absurd h hrises)
    obtain ⟨hnothing, hfills⟩ := retry_delta_small k hf happlied hrises
    rw [hnothing, if_neg hrises]
    exact hfills.figuresOf

end Delta

/-! ## The other branches -/

section Others

variable {env env' : SyncEnv} {db : Database} {c : SyncCall} {f : FilledOrder}

theorem syncCrashedAfter_zero (env : SyncEnv) (db : Database) (c : SyncCall) :
    syncCrashedAfter env db c 0 = db := by
  unfold syncCrashedAfter
  rw [List.take_zero, applyWrites_nil]

theorem retry_of_noWrites (k : ℕ) (hplan : (syncPlan env db c).1 = []) :
    figuresOf (syncFilledEntryOrderToPosition env' (syncCrashedAfter env db c k) c).1
      = figuresOf (syncFilledEntryOrderToPosition env db c).1 := by
  have hsame : syncCrashedAfter env db c k = db := by
    unfold syncCrashedAfter
    rw [hplan, List.take_nil, applyWrites_nil]
  rw [hsame, figuresOf_sync, figuresOf_sync]

theorem retry_scaleIn_iff (k : ℕ) (hf : filledOrder db c.orderLog c.rawOrder c.session = .ok f)
    (happlied : applicationOf db f.orderUuid = none)
    (htarget : (resolveScaleInTarget db c.session f.canonicalLog
      (scalePreview f.canonicalLog)).isSome) :
    figuresOf (syncFilledEntryOrderToPosition env' (syncCrashedAfter env db c k) c).1
        = figuresOf (syncFilledEntryOrderToPosition env db c).1
      ↔ ((scaleInTarget db c.session f).isSome → k = 0 ∨ 3 ≤ k) := by
  have hagree := reread_agrees hf (sameReadings_applyWrites env.now db
    ((syncPlan env db c).1.take k))
  change ∀ f' ∈ (filledOrder (syncCrashedAfter env db c k) c.orderLog c.rawOrder
    c.session).toOption, _ at hagree
  have honce : callEffect db c
      = (scaleInTarget db c.session f).elim .nothing (fun p => .add p.id f.figures) := by
    unfold callEffect fillEffect
    rw [hf]
    simp only [happlied, htarget, if_true]
  cases hopened : scaleInTarget db c.session f with
  | none =>
    exact iff_of_true (retry_of_noWrites k (syncPlan_scaleIn_none hf happlied htarget hopened))
      (by simp)
  | some position =>
    have hload := (scaleInTarget_some hopened).2
    have hplan : (syncPlan env db c).1 = _ := syncPlan_scaleIn hf happlied hopened
    have hfills := sameFills_syncCrashedAfter hplan rfl rfl
      (by rw [List.filter_append, filter_recordsFill_attachLogs]; rfl) k
    have hpos : 0 < f.figures.volume := (filledOrder_ok_spec hf).2.2.2.2.2.1
    have hfigures : figuresOf db position.id = some position.positionFigures :=
      figuresOf_of_load hload
    rw [figuresOf_sync, figuresOf_sync, honce, hopened]
    simp only [Option.isSome_some, forall_const, Option.elim_some]
    -- recorded but not yet added: the retry takes the order for done
    have hlost : Recorded (syncCrashedAfter env db c k) f.orderUuid position.id f.volume →
        figuresOf (syncCrashedAfter env db c k) = figuresOf db →
        (callEffect (syncCrashedAfter env db c k) c).apply
            (syncCrashedAfter env db c k).livePositions.nextId
            (figuresOf (syncCrashedAfter env db c k))
          ≠ (FillEffect.add position.id f.figures).apply db.livePositions.nextId
            (figuresOf db) := by
      intro hrecorded hsame heq
      rw [callEffect_of_recorded hagree hrecorded, hsame] at heq
      exact FillEffect.add_apply_ne hfigures hpos heq.symm
    obtain rfl | rfl | rfl | hk : k = 0 ∨ k = 1 ∨ k = 2 ∨ 3 ≤ k := by omega
    · rw [syncCrashedAfter_zero, honce, hopened]
      exact iff_of_true rfl (.inl rfl)
    · refine iff_of_false (hlost (Recorded.of_sameFills hfills ?_) hfills.figuresOf) (by omega)
      exact recorded_insert db env.now happlied _ _ _ _ _ _ _ _
    · refine iff_of_false (hlost (Recorded.of_sameFills hfills ?_) hfills.figuresOf) (by omega)
      exact recorded_upsert _ env.now _ _ _ _ _ _ _ _
    · -- everything is recorded
      refine iff_of_true ?_ (.inr hk)
      rw [List.take_of_length_le (show (scaleInRecords env position f c.source).length
        ≤ k - ([] : List SyncWrite).length from hk)] at hfills
      have hrecorded : Recorded (syncCrashedAfter env db c k) f.orderUuid position.id
          f.volume := by
        refine Recorded.of_sameFills hfills ?_
        obtain ⟨l, hl, hrest⟩ := recorded_upsert
          ((fillEvent f.orderUuid position.id .scaleIn c.source f.canonicalLog f.volume
            f.amount f.fee (f.appliedAt env)).apply env.now db) env.now f.orderUuid position.id
          .scaleIn c.source f.canonicalLog f.volume f.amount f.fee
        exact ⟨l, (applicationOf_congr rfl rfl _).trans hl, hrest⟩
      rw [callEffect_of_recorded hagree hrecorded, hfills.figuresOf]
      funext i
      exact figuresOf_scaleIn env _ f env.now hload i

theorem retry_adopt_iff (k : ℕ) (hf : filledOrder db c.orderLog c.rawOrder c.session = .ok f)
    (happlied : applicationOf db f.orderUuid = none)
    (htarget : resolveScaleInTarget db c.session f.canonicalLog
      (scalePreview f.canonicalLog) = none) {existing : LivePosition}
    (hexisting : loadLivePositionByEntryOrderUuid db c.session.exchange c.session.market
      f.orderUuid = some existing) :
    figuresOf (syncFilledEntryOrderToPosition env' (syncCrashedAfter env db c k) c).1
        = figuresOf (syncFilledEntryOrderToPosition env db c).1
      ↔ AdoptRetrySafe env db c f existing k := by
  have hagree := reread_agrees hf (sameReadings_applyWrites env.now db
    ((syncPlan env db c).1.take k))
  change ∀ f' ∈ (filledOrder (syncCrashedAfter env db c k) c.orderLog c.rawOrder
    c.session).toOption, _ at hagree
  have honce : callEffect db c = .nothing := by
    unfold callEffect fillEffect
    rw [hf]
    simp only [happlied, htarget, hexisting, Option.isSome_none, Bool.false_eq_true, if_false,
      Option.isSome_some, if_true]
  have hplan : (syncPlan env db c).1 = _ := syncPlan_adopt hf happlied htarget hexisting
  have hfills := sameFills_syncCrashedAfter hplan (filter_recordsFill_attachLogs _ _) rfl rfl k
  have hparts : (syncPlan env db c).1 = [] ++ attachLogs f.logs existing.id
      ++ (adoptRecords env existing f c.source
        ++ [pointSession c.session existing.id "POSITION_OPEN_SYNCED",
          .finalizeEntryLifecycle existing.id]) := by
    rw [hplan, List.nil_append, List.append_assoc]
  have hlogs := liveOrderLogs_syncCrashedAfter hparts rfl
    (filter_attachesLog_attachLogs f.logs existing.id) rfl k
  have hread : (filledOrder (syncCrashedAfter env db c k) c.orderLog c.rawOrder
      c.session).toOption = rereadOrder env db c f existing.id k := by
    rw [filledOrder_congr hlogs]
    rfl
  have hload := (loadLivePositionByEntryOrderUuid_mem hexisting).1
  have hfigures : figuresOf db existing.id = some existing.positionFigures :=
    figuresOf_of_load hload
  rw [hread] at hagree
  rw [figuresOf_sync, figuresOf_sync, honce]
  unfold AdoptRetrySafe
  rcases Nat.lt_or_ge (attachLogs f.logs existing.id).length k with hk | hk
  · -- the position's own volume is recorded
    rw [and_iff_right (fun h => absurd hk (not_lt.mpr h))]
    have hrecorded : Recorded (syncCrashedAfter env db c k) f.orderUuid existing.id
        existing.entryVolume := by
      refine Recorded.of_sameFills hfills ?_
      obtain h1 | h2 : k - (attachLogs f.logs existing.id).length = 1
          ∨ 2 ≤ k - (attachLogs f.logs existing.id).length := by omega
      · rw [h1]
        exact recorded_insert db env.now happlied _ _ _ _ _ _ _ _
      · rw [List.take_of_length_le (show (adoptRecords env existing f c.source).length ≤ _ from h2)]
        exact recorded_upsert _ env.now _ _ _ _ _ _ _ _
    have hsame : figuresOf (syncCrashedAfter env db c k) = figuresOf db := by
      refine hfills.figuresOf.trans ?_
      obtain h1 | h2 : k - (attachLogs f.logs existing.id).length = 1
          ∨ 2 ≤ k - (attachLogs f.logs existing.id).length := by omega
      · rw [h1]; rfl
      · rw [List.take_of_length_le (show (adoptRecords env existing f c.source).length ≤ _ from h2)]; rfl
    obtain ⟨l, hl, hlpos, hlvol⟩ := hrecorded
    have hrises : deltaTolerance < deltaVolume l f
        ↔ deltaTolerance < f.volume - existing.entryVolume := by
      rw [deltaTolerance_lt_deltaVolume_iff, hlvol]
    rw [callEffect_of_application (hread ▸ hagree) hl, hread, hsame, hlpos]
    simp only [hrises]
    cases rereadOrder env db c f existing.id k with
    | none => exact iff_of_true rfl (by simp)
    | some f' =>
      simp only [Option.elim_some, Option.isSome_some, and_true]
      split_ifs with hadds
      · refine iff_of_false (FillEffect.add_apply_ne hfigures ?_) (fun h => h hk hadds)
        exact deltaTolerance_pos.trans (hrises.mpr hadds)
      · exact iff_of_true rfl (fun _ => hadds)
  · -- only logs are attached: the retry chooses its branch afresh
    rw [Nat.sub_eq_zero_of_le hk, List.take_zero, applyWrites_nil] at hfills
    rw [and_iff_left (fun h => absurd h (not_lt.mpr hk)), callEffect_eq, hread, hfills.figuresOf]
    simp only [hk, forall_const, hfills.fillEffect]
    cases hreread : rereadOrder env db c f existing.id k with
    | none => exact iff_of_true rfl (by simp)
    | some f' =>
      obtain ⟨huuid, hvolume⟩ := hagree f' hreread
      simp only [Option.elim_some, Option.mem_some_iff, forall_eq']
      unfold fillEffect
      rw [huuid, happlied]
      simp only [hexisting, Option.isSome_some, if_true]
      cases hscales : scaleInTarget db c.session f' with
      | none =>
        refine iff_of_true ?_ rfl
        split_ifs <;> rfl
      | some p =>
        obtain ⟨hresolved, hp⟩ := scaleInTarget_some hscales
        rw [if_pos hresolved]
        refine iff_of_false ?_ (by simp)
        have hpfigures : figuresOf db p.id = some p.positionFigures :=
          figuresOf_of_load hp
        refine FillEffect.add_apply_ne hpfigures ?_
        show 0 < f'.volume
        rw [hvolume]
        exact (filledOrder_ok_spec hf).2.2.2.2.2.1

theorem loadLivePositionByEntryOrderUuid_created (env : SyncEnv) (db : Database)
    (f : FilledOrder) (session : SyncSession) :
    (loadLivePositionByEntryOrderUuid (withNewPosition env db f session) session.exchange
      session.market f.orderUuid).isSome = true := by
  unfold loadLivePositionByEntryOrderUuid
  rw [List.isSome_head?]
  set created := (newPositionPayload env session f.canonicalLog f.orderUuid f.price f.volume
    f.amount).stored db.livePositions.nextId env.now with hcreated
  have hmem : created ∈ selectActivePositions (withNewPosition env db f session)
      (fun r => r.exchange == session.exchange && r.market == session.market
        && r.entryOrderUuid == some f.orderUuid) := by
    refine mem_selectActivePositions.mpr ⟨?_, rfl, ?_⟩
    · exact Table.get?_insert_self db.livePositions _ (fun _ => rfl)
    · simp [hcreated, newPositionPayload, LivePosition.stored]
  exact List.ne_nil_of_mem hmem

theorem retry_create_iff (k : ℕ) (hf : filledOrder db c.orderLog c.rawOrder c.session = .ok f)
    (happlied : applicationOf db f.orderUuid = none)
    (htarget : resolveScaleInTarget db c.session f.canonicalLog
      (scalePreview f.canonicalLog) = none)
    (hexisting : loadLivePositionByEntryOrderUuid db c.session.exchange c.session.market
      f.orderUuid = none) :
    figuresOf (syncFilledEntryOrderToPosition env' (syncCrashedAfter env db c k) c).1
        = figuresOf (syncFilledEntryOrderToPosition env db c).1
      ↔ (k = 1 → scaleInTarget (withNewPosition env db f c.session) c.session f = none) := by
  have hagree := reread_agrees hf (sameReadings_applyWrites env.now db
    ((syncPlan env db c).1.take k))
  change ∀ f' ∈ (filledOrder (syncCrashedAfter env db c k) c.orderLog c.rawOrder
    c.session).toOption, _ at hagree
  have honce : callEffect db c = .create f.figures := by
    unfold callEffect fillEffect
    rw [hf]
    simp only [happlied, htarget, hexisting, Option.isSome_none, Bool.false_eq_true, if_false]
  have hplan : (syncPlan env db c).1 = _ := syncPlan_create hf happlied htarget hexisting
  have hfills := sameFills_syncCrashedAfter hplan rfl rfl
    (by rw [List.filter_append, filter_recordsFill_attachLogs]; rfl) k
  have hpos : 0 < f.volume := (filledOrder_ok_spec hf).2.2.2.2.2.1
  set created := withNewPosition env db f c.session with hcreated
  have hfull : figuresOf created = (FillEffect.create f.figures).apply db.livePositions.nextId
      (figuresOf db) := by
    funext i
    exact figuresOf_createLivePosition env.now db i _
  have hunknown : applicationOf created f.orderUuid = none :=
    (applicationOf_congr rfl rfl _).trans happlied
  rw [figuresOf_sync, figuresOf_sync, honce, ← hfull]
  obtain rfl | rfl | rfl | hk : k = 0 ∨ k = 1 ∨ k = 2 ∨ 3 ≤ k := by omega
  · rw [syncCrashedAfter_zero, honce, ← hfull]
    exact iff_of_true rfl (fun h => by omega)
  · -- only the position is there
    have hstate : syncCrashedAfter env db c 1 = created := by
      unfold syncCrashedAfter
      rw [hplan]
      rfl
    rw [hstate]
    simp only [forall_const]
    have hread : filledOrder created c.orderLog c.rawOrder c.session = .ok f :=
      (filledOrder_congr rfl _ _ _).trans hf
    have hfound := loadLivePositionByEntryOrderUuid_created env db f c.session
    have heffect : callEffect created c = fillEffect created f c.session := by
      unfold callEffect
      rw [hread]
    rw [heffect]
    unfold fillEffect
    rw [hunknown]
    simp only
    rw [if_pos hfound]
    cases hscales : scaleInTarget created c.session f with
    | none =>
      refine iff_of_true ?_ rfl
      split_ifs <;> rfl
    | some p =>
      obtain ⟨hresolved, hp⟩ := scaleInTarget_some hscales
      rw [if_pos hresolved]
      refine iff_of_false ?_ (by simp)
      have hpfigures : figuresOf created p.id = some p.positionFigures :=
        figuresOf_of_load hp
      exact FillEffect.add_apply_ne hpfigures hpos
  · refine iff_of_true ?_ (fun h => by omega)
    have hrecorded : Recorded (syncCrashedAfter env db c 2) f.orderUuid db.livePositions.nextId
        f.volume :=
      Recorded.of_sameFills hfills (recorded_insert created env.now hunknown _ _ _ _ _ _ _ _)
    rw [callEffect_of_recorded hagree hrecorded]
    exact hfills.figuresOf
  · refine iff_of_true ?_ (fun h => by omega)
    rw [List.take_of_length_le (show (createRecords env db.livePositions.nextId f c.source
      c.session).length ≤ k - ([] : List SyncWrite).length from hk)] at hfills
    have hrecorded : Recorded (syncCrashedAfter env db c k) f.orderUuid db.livePositions.nextId
        f.volume :=
      Recorded.of_sameFills hfills (recorded_upsert _ env.now _ _ _ _ _ _ _ _)
    rw [callEffect_of_recorded hagree hrecorded]
    exact hfills.figuresOf

end Others

/-! ## Crashes and repetitions -/

/-- **A retry ends with the figures of one uninterrupted run exactly when the crash
point is safe.** -/
theorem retry_agrees_iff (env env' : SyncEnv) (db : Database) (c : SyncCall) (k : ℕ) :
    figuresOf (syncFilledEntryOrderToPosition env' (syncCrashedAfter env db c k) c).1
        = figuresOf (syncFilledEntryOrderToPosition env db c).1
      ↔ RetrySafe env db c k := by
  unfold RetrySafe
  cases hf : filledOrder db c.orderLog c.rawOrder c.session with
  | error reason =>
    refine iff_of_true (retry_of_noWrites k ?_) (by simp [Except.toOption])
    unfold syncPlan
    rw [hf]
  | ok f =>
    simp only [Except.toOption, Option.mem_some_iff, forall_eq']
    cases happlied : applicationOf db f.orderUuid with
    | some ledger => exact retry_delta_iff k hf happlied
    | none =>
      simp only
      split_ifs with htarget
      · exact retry_scaleIn_iff k hf happlied htarget
      · have hresolved : resolveScaleInTarget db c.session f.canonicalLog
            (scalePreview f.canonicalLog) = none := by simpa using htarget
        cases hexisting : loadLivePositionByEntryOrderUuid db c.session.exchange
            c.session.market f.orderUuid with
        | some existing => exact retry_adopt_iff k hf happlied hresolved hexisting
        | none => exact retry_create_iff k hf happlied hresolved hexisting

/-- **Buy-fill sync and crashes.** Stopped after `k` writes and run again, a sync
leaves every position with the figures of one uninterrupted run exactly when the crash
point is safe. -/
theorem syncCrash_consistent_iff (env env' : SyncEnv) (db : Database) (c : SyncCall) (k : ℕ) :
    (∀ i, figuresOf (syncFilledEntryOrderToPosition env' (syncCrashedAfter env db c k) c).1 i
        = figuresOf (syncFilledEntryOrderToPosition env db c).1 i)
      ↔ RetrySafe env db c k :=
  funext_iff.symm.trans (retry_agrees_iff env env' db c k)

/-- **When a repeated sync adds once more**: the first run adopted a position that held
less than the order's volume, and the order is still accepted once its log rows carry
the position's id. -/
def AdoptsShort (env : SyncEnv) (db : Database) (c : SyncCall) : Prop :=
  ∃ f ∈ (filledOrder db c.orderLog c.rawOrder c.session).toOption,
    applicationOf db f.orderUuid = none
      ∧ resolveScaleInTarget db c.session f.canonicalLog (scalePreview f.canonicalLog) = none
      ∧ ∃ existing ∈ loadLivePositionByEntryOrderUuid db c.session.exchange c.session.market
          f.orderUuid,
        deltaTolerance < f.volume - existing.entryVolume
          ∧ (rereadOrder env db c f existing.id (attachLogs f.logs existing.id).length).isSome

theorem retrySafe_completed (env : SyncEnv) (db : Database) (c : SyncCall) :
    RetrySafe env db c (syncPlan env db c).1.length ↔ ¬ AdoptsShort env db c := by
  unfold RetrySafe AdoptsShort
  cases hf : filledOrder db c.orderLog c.rawOrder c.session with
  | error reason => simp [Except.toOption]
  | ok f =>
    simp only [Except.toOption, Option.mem_some_iff, forall_eq', exists_eq_left']
    cases happlied : applicationOf db f.orderUuid with
    | some ledger =>
      -- a completed delta has written its ledger
      refine iff_of_true ?_ (by simp)
      intro hrises hload
      obtain ⟨position, hload⟩ := Option.isSome_iff_exists.mp hload
      have hlength : (deltaRecords db ledger position f c.source).length
          = 2 + (loadPositionFillEvent db f.orderUuid ledger.fillType).toList.length := by
        unfold deltaRecords
        cases loadPositionFillEvent db f.orderUuid ledger.fillType <;> rfl
      rw [syncPlan_delta hf happlied hload hrises, List.length_append, List.length_append,
        List.length_cons, hlength]
      exact ⟨fun h => by omega, fun _ h => by omega⟩
    | none =>
      simp only [true_and]
      cases hresolved : resolveScaleInTarget db c.session f.canonicalLog
          (scalePreview f.canonicalLog) with
      | some targetId =>
        refine iff_of_true ?_ (by simp)
        simp only [Option.isSome_some, if_true]
        intro hopened
        obtain ⟨position, hopened⟩ := Option.isSome_iff_exists.mp hopened
        rw [syncPlan_scaleIn hf happlied hopened, List.length_append, List.length_append]
        exact .inr (by simp only [scaleInRecords, List.length_cons]; omega)
      | none =>
        simp only [Option.isSome_none, Bool.false_eq_true, if_false, true_and]
        cases hexisting : loadLivePositionByEntryOrderUuid db c.session.exchange
            c.session.market f.orderUuid with
        | some existing =>
          have hlength : (syncPlan env db c).1.length
              = (attachLogs f.logs existing.id).length + 4 := by
            rw [syncPlan_adopt hf happlied hresolved hexisting, List.length_append,
              List.length_append]
            rfl
          -- all log rows are attached by then, and no more
          have hreread : rereadOrder env db c f existing.id (syncPlan env db c).1.length
              = rereadOrder env db c f existing.id
                  (attachLogs f.logs existing.id).length := by
            unfold rereadOrder
            rw [hlength, List.take_of_length_le (by omega), List.take_length]
          simp only [AdoptRetrySafe, hreread, Option.mem_some_iff, exists_eq_left']
          rw [and_iff_right (fun h => by omega), hlength]
          exact ⟨fun h => h (by omega), fun h _ => h⟩
        | none =>
          refine iff_of_true ?_ (by simp)
          intro hlength
          rw [syncPlan_create hf happlied hresolved hexisting, List.length_append,
            List.length_append] at hlength
          simp only [createRecords, List.length_cons, List.length_nil] at hlength
          omega

/-- **Re-syncing the same order.** A second run leaves every position with the figures
the first run left exactly when the first did not adopt a short position. -/
theorem syncTwice_agrees_iff (env env' : SyncEnv) (db : Database) (c : SyncCall) :
    (∀ i, figuresOf (syncFilledEntryOrderToPosition env'
            (syncFilledEntryOrderToPosition env db c).1 c).1 i
        = figuresOf (syncFilledEntryOrderToPosition env db c).1 i)
      ↔ ¬ AdoptsShort env db c := by
  have hcompleted : syncCrashedAfter env db c (syncPlan env db c).1.length
      = (syncFilledEntryOrderToPosition env db c).1 := by
    unfold syncCrashedAfter
    rw [List.take_length]
    rfl
  rw [← retrySafe_completed, ← retry_agrees_iff env env', hcompleted]
  exact funext_iff.symm

/-! ## A scale-in that is lost, an adopted position that grows -/

def exampleOpenPosition : LivePosition :=
  { id := 1, sessionId := 1, market := "KRW-BTC", candidateStrategyId := 7, status := .opened
    entryOrderUuid := some "entry-uuid", entryPrice := 100, entryVolume := 1
    entryAmountKrw := 100 }

/-- The database that holds the position and an order of it. -/
def exampleBuyDb (log : LiveOrderLog) : Database :=
  { livePositions := Table.empty.insert (fun k => { exampleOpenPosition with id := k })
      (fun _ => rfl)
    liveOrderLogs := Table.empty.insert (fun k => { log with id := k }) (fun _ => rfl)
    requestId_unique := by simp [Table.UniqueOn, Table.insert, Table.empty] }

/-- Another coin for 110, scaled into the position. -/
def exampleScaleIn : LiveOrderLog := exampleBuyLog "scale-uuid" 1 110 ⟨true, some 1⟩

/-- The entry order of two coins, of which the position holds one. -/
def exampleEntry : LiveOrderLog := exampleBuyLog "entry-uuid" 2 200 {}

def exampleSync (log : LiveOrderLog) : SyncCall :=
  { orderLog := some log, source := "OPEN_ORDER_SYNC", session := exampleSession }

/-- **The lost scale-in.** Stopped between the ledger and the position, the coin is
taken for added by every later sync. -/
theorem syncCrash_loses_scaleIn :
    let db := exampleBuyDb exampleScaleIn
    let call := exampleSync exampleScaleIn
    figuresOf (syncFilledEntryOrderToPosition { now := 10 } db call).1 1 = some ⟨2, 210⟩
      ∧ figuresOf (syncFilledEntryOrderToPosition { now := 20 }
          (syncCrashedAfter { now := 10 } db call 2) call).1 1 = some ⟨1, 100⟩ := by
  refine ⟨by decide +kernel, by decide +kernel⟩

/-- **The growing position.** The first sync records the one coin the position holds,
the second finds that the order has executed two. -/
theorem syncTwice_adds_again :
    let call := exampleSync exampleEntry
    let once := (syncFilledEntryOrderToPosition { now := 10 } (exampleBuyDb exampleEntry) call).1
    figuresOf once 1 = some ⟨1, 100⟩
      ∧ figuresOf (syncFilledEntryOrderToPosition { now := 20 } once call).1 1
          = some ⟨2, 200⟩ := by
  refine ⟨by decide +kernel, by decide +kernel⟩

end AutoCoinBot
