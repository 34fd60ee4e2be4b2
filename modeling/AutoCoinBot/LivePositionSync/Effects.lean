/-
  LivePositionSync.Effects — what a sync is for: the volume and the
  amount it adds to a position.

  Of the five branches of a sync two add to a position's figures and one creates a position; the
  others leave all figures alone.
-/
import AutoCoinBot.LivePositionSync.Fills

namespace AutoCoinBot

open Library

/-! ## Figures and effects -/

/-- A volume with the amount paid for it. -/
structure PositionFigures where
  volume : ℚ
  amountKrw : ℚ
  deriving DecidableEq

def LivePosition.positionFigures (p : LivePosition) : PositionFigures :=
  ⟨p.entryVolume, p.entryAmountKrw⟩

/-- The figures of a position, if there is one. -/
def figuresOf (db : Database) (positionId : ℕ) : Option PositionFigures :=
  (loadLivePosition db positionId).map LivePosition.positionFigures

theorem figuresOf_of_load {db : Database} {positionId : ℕ} {p : LivePosition}
    (h : loadLivePosition db positionId = some p) :
    figuresOf db positionId = some p.positionFigures := by
  unfold figuresOf
  rw [h]
  rfl

/-- What a sync does to the figures. -/
inductive FillEffect where
  | nothing
  | add (positionId : ℕ) (added : PositionFigures)
  | create (figures : PositionFigures)

/-- The figures after an effect; a created position takes the next key. -/
def FillEffect.apply (effect : FillEffect) (nextId : ℕ)
    (figures : ℕ → Option PositionFigures) (i : ℕ) : Option PositionFigures :=
  match effect with
  | .nothing => figures i
  | .add positionId added =>
    if i = positionId then
      (figures i).map (fun x => ⟨x.volume + added.volume, x.amountKrw + added.amountKrw⟩)
    else figures i
  | .create created => if i = nextId then some created else figures i

def FilledOrder.figures (f : FilledOrder) : PositionFigures := ⟨f.volume, f.amount⟩

/-- What a filled order adds to what a ledger row has recorded. -/
def FilledOrder.since (f : FilledOrder) (ledger : OrderApplication) : PositionFigures :=
  ⟨deltaVolume ledger f, deltaAmount ledger f⟩

/-- The open position a filled order scales into. -/
def scaleInTarget (db : Database) (session : SyncSession) (f : FilledOrder) :
    Option LivePosition :=
  ((resolveScaleInTarget db session f.canonicalLog (scalePreview f.canonicalLog)).bind
    (loadLivePosition db)).filter (fun p => p.status == .opened)

/-- The effect of a filled order, branch by branch. -/
def fillEffect (db : Database) (f : FilledOrder) (session : SyncSession) : FillEffect :=
  match applicationOf db f.orderUuid with
  | some ledger =>
    if deltaTolerance < deltaVolume ledger f then .add ledger.positionId (f.since ledger)
    else .nothing
  | none =>
    if (resolveScaleInTarget db session f.canonicalLog (scalePreview f.canonicalLog)).isSome then
      (scaleInTarget db session f).elim .nothing (fun p => .add p.id f.figures)
    else if (loadLivePositionByEntryOrderUuid db session.exchange session.market
      f.orderUuid).isSome then .nothing
    else .create f.figures

def callEffect (db : Database) (c : SyncCall) : FillEffect :=
  match filledOrder db c.orderLog c.rawOrder c.session with
  | .error _ => .nothing
  | .ok f => fillEffect db f c.session

/-! ## What the recording writes do to the figures -/

section Writes

variable (now : UtcTime) (db : Database) (i : ℕ)

theorem SameFills.figuresOf {db db' : Database} (h : SameFills db db') :
    AutoCoinBot.figuresOf db = AutoCoinBot.figuresOf db' := by
  funext i
  unfold AutoCoinBot.figuresOf
  rw [h.loadLivePosition]

theorem SameFills.fillEffect {db db' : Database} (h : SameFills db db') (f : FilledOrder)
    (session : SyncSession) :
    AutoCoinBot.fillEffect db f session = AutoCoinBot.fillEffect db' f session := by
  unfold AutoCoinBot.fillEffect scaleInTarget loadLivePositionByEntryOrderUuid
  simp only [h.applicationOf, h.resolveScaleInTarget, h.selectActivePositions,
    funext h.loadLivePosition]

theorem scaleInTarget_some {db : Database} {session : SyncSession} {f : FilledOrder}
    {p : LivePosition} (h : scaleInTarget db session f = some p) :
    (resolveScaleInTarget db session f.canonicalLog (scalePreview f.canonicalLog)).isSome
      ∧ loadLivePosition db p.id = some p := by
  obtain ⟨i, hi, hload⟩ := Option.bind_eq_some_iff.mp (Option.filter_eq_some_iff.mp h).1
  rw [hi, loadLivePosition_id db i hload]
  exact ⟨rfl, hload⟩

@[simp] theorem figuresOf_createLivePosition (p : LivePosition) :
    figuresOf ((SyncWrite.createLivePosition p).apply now db) i
      = if i = db.livePositions.nextId then some p.positionFigures else figuresOf db i := by
  unfold figuresOf
  by_cases hi : i = db.livePositions.nextId
  · have hself : loadLivePosition ((SyncWrite.createLivePosition p).apply now db) i
        = some (p.stored db.livePositions.nextId now) :=
      hi ▸ Table.get?_insert_self db.livePositions _ (fun _ => rfl)
    rw [hself, if_pos hi]
    rfl
  · have hother : loadLivePosition ((SyncWrite.createLivePosition p).apply now db) i
        = loadLivePosition db i :=
      Table.get?_insert_of_ne db.livePositions _ (fun _ => rfl) hi
    rw [hother, if_neg hi]

theorem figuresOf_updateLivePosition {p : LivePosition} {u : LivePositionUpdates} {v a : ℚ}
    (hload : loadLivePosition db p.id = some p) (hv : u.entryVolume = some v)
    (ha : u.entryAmountKrw = some a) :
    figuresOf ((SyncWrite.updateLivePosition p.id u).apply now db) i
      = if i = p.id then some ⟨v, a⟩ else figuresOf db i := by
  show (loadLivePosition (updateLivePosition db p.id u now) i).map _ = _
  rw [loadLivePosition_update]
  by_cases hi : i = p.id
  · rw [hi, hload]
    simp [LivePosition.positionFigures, hv, ha]
  · rw [if_neg hi]
    unfold figuresOf
    cases loadLivePosition db i with
    | none => rfl
    | some q => simp [hi]

end Writes

/-! ## The branches -/

section Branches

variable (env : SyncEnv) (db : Database) (f : FilledOrder) (source : String)
  (session : SyncSession)

theorem filter_recordsFill_applyOrderUuidDelta (ledger : OrderApplication) :
    (applyOrderUuidDelta db ledger f source session).1.filter SyncWrite.recordsFill
      = if deltaTolerance < deltaVolume ledger f then
          (loadLivePosition db ledger.positionId).toList.flatMap
            (fun position => deltaRecords db ledger position f source)
        else [] := by
  unfold applyOrderUuidDelta
  cases loadLivePosition db ledger.positionId with
  | none => simp
  | some position =>
    have hrecords : (deltaRecords db ledger position f source).filter SyncWrite.recordsFill
        = deltaRecords db ledger position f source := by
      unfold deltaRecords
      cases loadPositionFillEvent db f.orderUuid ledger.fillType <;> rfl
    simp only [Option.toList_some, List.flatMap_cons, List.flatMap_nil, List.append_nil]
    by_cases h : deltaVolume ledger f ≤ deltaTolerance
    · rw [if_pos h, if_neg (not_lt.mpr h)]
      simp only [List.filter_append, filter_recordsFill_attachLogs,
        filter_recordsFill_finalizeIfEntry, filter_recordsFill_cons_point, List.filter_nil,
        List.append_nil]
    · rw [if_neg h, if_pos (not_le.mp h)]
      simp only [List.filter_append, filter_recordsFill_attachLogs, hrecords,
        filter_recordsFill_finalizeIfEntry, filter_recordsFill_cons_point, List.filter_nil,
        List.append_nil, List.nil_append]

theorem filter_recordsFill_applyScaleIn (targetId : ℕ) :
    (applyScaleIn env db targetId f source session).1.filter SyncWrite.recordsFill
      = ((loadLivePosition db targetId).filter (fun p => p.status == .opened)).toList.flatMap
          (fun position =>
            [fillEvent f.orderUuid targetId .scaleIn source f.canonicalLog f.volume f.amount f.fee
              (f.appliedAt env),
            recordLedger f.orderUuid targetId .scaleIn source f.canonicalLog f.volume f.amount
              f.fee,
            .updateLivePosition targetId (scaleInPositionUpdates env position f)]) := by
  unfold applyScaleIn
  cases (loadLivePosition db targetId).filter (fun p => p.status == .opened) with
  | none => rfl
  | some position =>
    simp only [List.filter_append, filter_recordsFill_attachLogs, filter_recordsFill_cons_point,
      List.filter_nil, List.append_nil]
    rfl

theorem filter_recordsFill_adoptExisting (existing : LivePosition) :
    (adoptExisting env db existing f source session).1.filter SyncWrite.recordsFill
      = (if (loadPositionFillEvent db f.orderUuid .entry).isNone then
          [fillEvent f.orderUuid existing.id .entry (source ++ "_ADOPT_EXISTING") f.canonicalLog
            existing.entryVolume existing.entryAmountKrw f.fee (existing.openedAt.getD env.now)]
        else [])
        ++ [recordLedger f.orderUuid existing.id .entry (source ++ "_ADOPT_EXISTING")
              f.canonicalLog existing.entryVolume existing.entryAmountKrw f.fee] := by
  unfold adoptExisting
  simp only [List.filter_append, filter_recordsFill_attachLogs, List.nil_append]
  split <;> rfl

theorem filter_recordsFill_createPosition :
    (createPosition env db f source session).1.filter SyncWrite.recordsFill
      = [.createLivePosition (newPositionPayload env session f.canonicalLog f.orderUuid f.price
            f.volume f.amount),
          fillEvent f.orderUuid db.livePositions.nextId .entry source f.canonicalLog f.volume
            f.amount f.fee (f.appliedAt env),
          recordLedger f.orderUuid db.livePositions.nextId .entry source f.canonicalLog f.volume
            f.amount f.fee] := by
  unfold createPosition
  simp only [List.filter_append, filter_recordsFill_attachLogs, filter_recordsFill_cons_point,
    List.append_nil]
  rfl

theorem figuresOf_deltaRecords (now : UtcTime) {ledger : OrderApplication}
    {position : LivePosition} (hload : loadLivePosition db ledger.positionId = some position)
    (i : ℕ) :
    figuresOf (applyWrites now db (deltaRecords db ledger position f source)) i
      = (FillEffect.add ledger.positionId (f.since ledger)).apply db.livePositions.nextId
          (figuresOf db) i := by
  have hid : position.id = ledger.positionId := loadLivePosition_id db _ hload
  have hupdate : figuresOf ((SyncWrite.updateLivePosition ledger.positionId
        (deltaPositionUpdates position f (deltaVolume ledger f) (deltaAmount ledger f))).apply now
          db) i
      = if i = ledger.positionId then
          some ⟨position.entryVolume + deltaVolume ledger f,
            position.entryAmountKrw + deltaAmount ledger f⟩
        else figuresOf db i := by
    have h := figuresOf_updateLivePosition now db i (p := position)
      (u := deltaPositionUpdates position f (deltaVolume ledger f) (deltaAmount ledger f))
      (hid ▸ hload) rfl rfl
    rwa [hid] at h
  have heffect : (FillEffect.add ledger.positionId (f.since ledger)).apply
        db.livePositions.nextId (figuresOf db) i
      = if i = ledger.positionId then
          some ⟨position.entryVolume + deltaVolume ledger f,
            position.entryAmountKrw + deltaAmount ledger f⟩
        else figuresOf db i := by
    show (if i = ledger.positionId then _ else _) = _
    by_cases hi : i = ledger.positionId
    · rw [if_pos hi, if_pos hi, hi]
      unfold figuresOf
      rw [hload]
      rfl
    · rw [if_neg hi, if_neg hi]
  rw [heffect, ← hupdate]
  -- the writes after the position's leave the positions alone
  unfold deltaRecords recordLedger
  cases loadPositionFillEvent db f.orderUuid ledger.fillType <;> rfl

theorem figuresOf_scaleIn (now : UtcTime) {position : LivePosition}
    (hload : loadLivePosition db position.id = some position) (i : ℕ) :
    figuresOf ((SyncWrite.updateLivePosition position.id
        (scaleInPositionUpdates env position f)).apply now db) i
      = (FillEffect.add position.id f.figures).apply db.livePositions.nextId (figuresOf db) i := by
  rw [figuresOf_updateLivePosition now db i (p := position) hload rfl rfl]
  show _ = if i = position.id then _ else _
  by_cases hi : i = position.id
  · rw [if_pos hi, if_pos hi, hi]
    unfold figuresOf
    rw [hload]
    rfl
  · rw [if_neg hi, if_neg hi]

theorem figuresOf_syncFilledOrder (now : UtcTime) (i : ℕ) :
    figuresOf (applyWrites now db (syncFilledOrder env db f source session).1) i
      = (fillEffect db f session).apply db.livePositions.nextId (figuresOf db) i := by
  rw [(sameFills_applyWrites now db _).figuresOf]
  unfold syncFilledOrder fillEffect
  simp only
  cases happlied : applicationOf db f.orderUuid with
  | some ledger =>
    simp only
    rw [filter_recordsFill_applyOrderUuidDelta]
    split_ifs with hrises
    · cases hload : loadLivePosition db ledger.positionId with
      | none =>
        -- an update of a missing position changes nothing
        show figuresOf db i = if i = ledger.positionId then _ else _
        split_ifs with hi
        · unfold figuresOf; rw [hi, hload]; rfl
        · rfl
      | some position =>
        simp only [Option.toList_some, List.flatMap_cons, List.flatMap_nil, List.append_nil]
        exact figuresOf_deltaRecords db f source now hload i
    · rfl
  | none =>
    have hnew : ∀ ft, loadPositionFillEvent db f.orderUuid ft = none :=
      ((applicationOf_eq_none db).mp happlied).2
    simp only [hnew]
    unfold scaleInTarget
    cases htarget : resolveScaleInTarget db session f.canonicalLog
        (scalePreview f.canonicalLog) with
    | some targetId =>
      simp only [Option.isSome_some, if_true, Option.bind_some]
      rw [filter_recordsFill_applyScaleIn]
      cases hopened : (loadLivePosition db targetId).filter (fun p => p.status == .opened) with
      | none => rfl
      | some position =>
        have hload := (Option.filter_eq_some_iff.mp hopened).1
        have hid : position.id = targetId := loadLivePosition_id db _ hload
        rw [← hid] at hload ⊢
        exact figuresOf_scaleIn env _ f now hload i
    | none =>
      simp only [Option.isSome_none, Bool.false_eq_true, if_false]
      cases loadLivePositionByEntryOrderUuid db session.exchange session.market
        f.orderUuid with
      | some existing =>
        simp only [Option.isSome_some, if_true]
        rw [filter_recordsFill_adoptExisting]
        split_ifs <;> rfl
      | none =>
        simp only [Option.isSome_none, Bool.false_eq_true, if_false]
        rw [filter_recordsFill_createPosition]
        exact figuresOf_createLivePosition now db i _

end Branches

/-- **A sync has exactly the effect of its branch.** -/
theorem figuresOf_syncFilledEntryOrderToPosition (env : SyncEnv) (db : Database) (c : SyncCall)
    (i : ℕ) :
    figuresOf (syncFilledEntryOrderToPosition env db c).1 i
      = (callEffect db c).apply db.livePositions.nextId (figuresOf db) i := by
  show figuresOf (applyWrites env.now db (syncPlan env db c).1) i = _
  unfold syncPlan callEffect
  cases filledOrder db c.orderLog c.rawOrder c.session with
  | error reason => rfl
  | ok f => exact figuresOf_syncFilledOrder env db f c.source c.session env.now i

/-! ## The records of the branches -/

/-- The writes of a scale-in that record it: event, ledger, position. -/
def scaleInRecords (env : SyncEnv) (position : LivePosition) (f : FilledOrder)
    (source : String) : List SyncWrite :=
  [fillEvent f.orderUuid position.id .scaleIn source f.canonicalLog f.volume f.amount f.fee
      (f.appliedAt env),
    recordLedger f.orderUuid position.id .scaleIn source f.canonicalLog f.volume f.amount f.fee,
    .updateLivePosition position.id (scaleInPositionUpdates env position f)]

/-- The writes of an adoption that record it, for an order without a fill event. -/
def adoptRecords (env : SyncEnv) (existing : LivePosition) (f : FilledOrder)
    (source : String) : List SyncWrite :=
  [fillEvent f.orderUuid existing.id .entry (source ++ "_ADOPT_EXISTING") f.canonicalLog
      existing.entryVolume existing.entryAmountKrw f.fee (existing.openedAt.getD env.now),
    recordLedger f.orderUuid existing.id .entry (source ++ "_ADOPT_EXISTING") f.canonicalLog
      existing.entryVolume existing.entryAmountKrw f.fee]

/-- The writes of a creation that record it: position, event, ledger. -/
def createRecords (env : SyncEnv) (positionId : ℕ) (f : FilledOrder) (source : String)
    (session : SyncSession) : List SyncWrite :=
  [.createLivePosition (newPositionPayload env session f.canonicalLog f.orderUuid f.price f.volume
      f.amount),
    fillEvent f.orderUuid positionId .entry source f.canonicalLog f.volume f.amount f.fee
      (f.appliedAt env),
    recordLedger f.orderUuid positionId .entry source f.canonicalLog f.volume f.amount f.fee]

/-- The database with the order's new position in it and nothing else recorded. -/
def withNewPosition (env : SyncEnv) (db : Database) (f : FilledOrder) (session : SyncSession) :
    Database :=
  (SyncWrite.createLivePosition (newPositionPayload env session f.canonicalLog f.orderUuid
    f.price f.volume f.amount)).apply env.now db

/-! ## The plans -/

section Plans

variable {env : SyncEnv} {db : Database} {c : SyncCall} {f : FilledOrder}
  {ledger : OrderApplication} {position : LivePosition}

theorem syncPlan_delta (hf : filledOrder db c.orderLog c.rawOrder c.session = .ok f)
    (happlied : applicationOf db f.orderUuid = some ledger)
    (hload : loadLivePosition db ledger.positionId = some position)
    (hrises : deltaTolerance < deltaVolume ledger f) :
    (syncPlan env db c).1
      = attachLogs f.logs ledger.positionId ++ deltaRecords db ledger position f c.source
        ++ (pointSession c.session ledger.positionId "ORDER_UUID_DELTA_APPLIED"
            :: finalizeIfEntry ledger.fillType ledger.positionId) := by
  unfold syncPlan
  rw [hf]
  simp only [syncFilledOrder, happlied, applyOrderUuidDelta, hload, if_neg (not_le.mpr hrises),
    List.append_assoc, List.cons_append, List.nil_append]

theorem syncPlan_scaleIn (hf : filledOrder db c.orderLog c.rawOrder c.session = .ok f)
    (happlied : applicationOf db f.orderUuid = none) {position : LivePosition}
    (hopened : scaleInTarget db c.session f = some position) :
    (syncPlan env db c).1 = [] ++ scaleInRecords env position f c.source
      ++ (attachLogs f.logs position.id
        ++ [pointSession c.session position.id "SCALE_IN_POSITION_SYNCED"]) := by
  have hnew := ((applicationOf_eq_none db).mp happlied).2
  obtain ⟨targetId, hresolved⟩ := Option.isSome_iff_exists.mp (scaleInTarget_some hopened).1
  have hfilter : (loadLivePosition db targetId).filter (fun p => p.status == .opened)
      = some position := by
    unfold scaleInTarget at hopened
    rwa [hresolved, Option.bind_some] at hopened
  -- a row is stored under its own id
  obtain rfl : position.id = targetId :=
    loadLivePosition_id db _ (Option.filter_eq_some_iff.mp hfilter).1
  unfold syncPlan
  rw [hf]
  simp only [syncFilledOrder, happlied, hnew, hresolved, applyScaleIn, hfilter, scaleInRecords,
    List.nil_append, List.append_assoc]

theorem syncPlan_scaleIn_none (hf : filledOrder db c.orderLog c.rawOrder c.session = .ok f)
    (happlied : applicationOf db f.orderUuid = none)
    (htarget : (resolveScaleInTarget db c.session f.canonicalLog
      (scalePreview f.canonicalLog)).isSome)
    (hopened : scaleInTarget db c.session f = none) : (syncPlan env db c).1 = [] := by
  have hnew := ((applicationOf_eq_none db).mp happlied).2
  obtain ⟨targetId, hresolved⟩ := Option.isSome_iff_exists.mp htarget
  have hfilter : (loadLivePosition db targetId).filter (fun p => p.status == .opened) = none := by
    unfold scaleInTarget at hopened
    rwa [hresolved, Option.bind_some] at hopened
  unfold syncPlan
  rw [hf]
  simp only [syncFilledOrder, happlied, hnew, hresolved, applyScaleIn, hfilter]

theorem syncPlan_adopt (hf : filledOrder db c.orderLog c.rawOrder c.session = .ok f)
    (happlied : applicationOf db f.orderUuid = none)
    (htarget : resolveScaleInTarget db c.session f.canonicalLog
      (scalePreview f.canonicalLog) = none) {existing : LivePosition}
    (hexisting : loadLivePositionByEntryOrderUuid db c.session.exchange c.session.market
      f.orderUuid = some existing) :
    (syncPlan env db c).1 = attachLogs f.logs existing.id ++ adoptRecords env existing f c.source
      ++ [pointSession c.session existing.id "POSITION_OPEN_SYNCED",
          .finalizeEntryLifecycle existing.id] := by
  have hnew := ((applicationOf_eq_none db).mp happlied).2
  unfold syncPlan
  rw [hf]
  simp only [syncFilledOrder, happlied, hnew, htarget, hexisting, adoptExisting, adoptRecords,
    Option.isNone_none, if_true, List.append_assoc, List.cons_append, List.nil_append]

theorem syncPlan_create (hf : filledOrder db c.orderLog c.rawOrder c.session = .ok f)
    (happlied : applicationOf db f.orderUuid = none)
    (htarget : resolveScaleInTarget db c.session f.canonicalLog
      (scalePreview f.canonicalLog) = none)
    (hexisting : loadLivePositionByEntryOrderUuid db c.session.exchange c.session.market
      f.orderUuid = none) :
    (syncPlan env db c).1 = []
      ++ createRecords env db.livePositions.nextId f c.source c.session
      ++ (attachLogs f.logs db.livePositions.nextId
        ++ [pointSession c.session db.livePositions.nextId "POSITION_OPEN_SYNCED",
          .finalizeEntryLifecycle db.livePositions.nextId]) := by
  have hnew := ((applicationOf_eq_none db).mp happlied).2
  unfold syncPlan
  rw [hf]
  simp only [syncFilledOrder, happlied, hnew, htarget, hexisting, createPosition, createRecords,
    List.cons_append, List.nil_append]

end Plans

/-! ## Completed syncs -/

section Completed

variable {env : SyncEnv} {db : Database} {c : SyncCall} {x y z : List SyncWrite}

theorem filter_recordsFill_deltaRecords (db : Database) (ledger : OrderApplication) (position : LivePosition)
    (f : FilledOrder) (source : String) :
    (deltaRecords db ledger position f source).filter SyncWrite.recordsFill
      = deltaRecords db ledger position f source := by
  unfold deltaRecords
  cases loadPositionFillEvent db f.orderUuid ledger.fillType <;> rfl

/-- **A completed sync leaves the fills its records leave.** -/
theorem sameFills_sync (hplan : (syncPlan env db c).1 = x ++ y ++ z)
    (hx : x.filter SyncWrite.recordsFill = []) (hy : y.filter SyncWrite.recordsFill = y)
    (hz : z.filter SyncWrite.recordsFill = []) :
    SameFills (syncFilledEntryOrderToPosition env db c).1 (applyWrites env.now db y) := by
  have hfills := sameFills_applyWrites env.now db (syncPlan env db c).1
  rwa [hplan, List.filter_append, List.filter_append, hx, hy, hz, List.nil_append,
    List.append_nil, ← hplan] at hfills

end Completed

/-! ## A filled order to run the sync on -/

def exampleSession : SyncSession :=
  { id := 1, exchange := "bithumb", market := "KRW-BTC", candidateStrategyId := 7 }

def exampleBuyLog (uuid : String) (volume amount : ℚ) (preview : ScalePreview) : LiveOrderLog :=
  { id := 1, requestId := "buy-1", exchange := "bithumb", market := "KRW-BTC", side := .buy
    status := .filled, orderUuid := some uuid, price := some 100, executedVolume := volume
    filledAmountKrw := amount, orderPreviewPayload := { scaleIn := preview } }

end AutoCoinBot
