/-
  StrategyDiscovery.PeriodCandles — `_load_period_candles` of
  app/strategy_discovery_scheduler.py, with `fetch_minute_candles` of app/upbit.py.

  The period is fetched backwards from its end, stored, and read back as a range of texts from
  its start with `Z` to its end with `Z`. The exchange answers with what is before the end, no more
  than 20000 candles are fetched, and a time without a zone is before the same time with one.
-/
import AutoCoinBot.Database.CandleRows
import AutoCoinBot.Library.Paging

namespace AutoCoinBot

open Library

/-! ## The exchange -/

/-- A candle as the exchange sends it. -/
structure ApiCandle where
  market : String
  unit : Option ℕ := none
  time : SpelledTime
  data : CandleData
  deriving DecidableEq

def ApiCandle.seconds (c : ApiCandle) : UtcTime := c.time.seconds

/-- `{**candle, "unit": candle.get("unit", unit)}` -/
def ApiCandle.withUnit (unit : ℕ) (c : ApiCandle) : StoredCandle :=
  { market := c.market, unit := c.unit.getD unit, time := c.time, data := c.data }

/-- The candles of a market and a unit on the exchange. -/
structure ExchangeHistory (market : String) (unit : ℕ) where
  candles : List ApiCandle
  ascending : candles.Pairwise (fun a b => a.seconds < b.seconds)
  market_eq : ∀ c ∈ candles, c.market = market
  unit_eq : ∀ c ∈ candles, c.unit.getD unit = unit

/-- `/v1/candles/minutes/{unit}` with `market`, `count` and `to`. -/
abbrev CandleApi := ℕ → String → ℕ → Option UtcTime → List ApiCandle

/-- The newest `count` candles before `to`. -/
def CandleApi.Answers {market : String} {unit : ℕ} (api : CandleApi)
    (history : ExchangeHistory market unit) : Prop :=
  AnswersNewest ApiCandle.seconds history.candles.reverse
    (fun cursor count => api unit market count cursor)

/-! ## `fetch_minute_candles` -/

def supportedUnits : List ℕ := [1, 3, 5, 10, 15, 30, 60, 240]

/-- The cursor behind a page: the time of the text that is least, without a zone. -/
def nextCursor (batch : List ApiCandle) : Option UtcTime :=
  letI : Preorder ℤ := Int.instLinearOrder.toPreorder
  (batch.argmin (fun c => c.time.place)).map ApiCandle.seconds

/-- The order of `candle_date_time_utc`. -/
def ApiCandle.before (a b : ApiCandle) : Prop := a.time.place ≤ b.time.place

instance : DecidableRel ApiCandle.before := fun a b =>
  inferInstanceAs (Decidable (a.time.place ≤ b.time.place))

def fetchMinuteCandles (api : CandleApi) (market : String) (unit count : ℕ) (cursor : Option UtcTime) :
    Except String (List ApiCandle) :=
  if unit ∉ supportedUnits then .error "Unsupported minute candle unit."
  else if count < 1 ∨ 20000 < count then .error "Candle count must be between 1 and 20000."
  else
    .ok ((pages (fun cursor count => api unit market count cursor) nextCursor 200 count
      cursor).insertionSort ApiCandle.before)

/-- The newest `count` candles of the history before the cursor. -/
def ExchangeHistory.fetched {market : String} {unit : ℕ} (history : ExchangeHistory market unit)
    (count : ℕ) (cursor : UtcTime) : List ApiCandle :=
  history.candles.filter (fun c => decide (c.seconds < cursor
    ∧ history.candles.countP (fun d => decide (c.seconds < d.seconds ∧ d.seconds < cursor)) < count))

section Fetch

variable {market : String} {unit count : ℕ} {history : ExchangeHistory market unit}
  {api : CandleApi}

theorem followsOldest_nextCursor : FollowsOldest ApiCandle.seconds nextCursor := by
  intro batch hne
  unfold nextCursor
  cases hmin : batch.argmin (fun c => c.time.place) with
  | none => exact absurd (List.argmin_eq_none.mp hmin) hne
  | some x =>
    refine ⟨x, List.argmin_mem hmin, rfl, ?_⟩
    intro a ha
    have hplace := List.le_of_mem_argmin ha hmin
    rcases SpelledTime.place_le_iff.mp hplace with hlt | heq
    · exact hlt.le
    · exact heq.1.le

theorem ExchangeHistory.pairwise_reverse (history : ExchangeHistory market unit) :
    history.candles.reverse.Pairwise (fun a b => b.seconds < a.seconds) :=
  List.pairwise_reverse.mpr history.ascending

theorem ExchangeHistory.eq_of_seconds (history : ExchangeHistory market unit) {a b : ApiCandle}
    (ha : a ∈ history.candles) (hb : b ∈ history.candles) (h : a.seconds = b.seconds) : a = b := by
  have hnodup : (history.candles.map ApiCandle.seconds).Nodup :=
    List.pairwise_map.mpr (history.ascending.imp (fun hlt => ne_of_lt hlt))
  exact List.inj_on_of_nodup_map hnodup ha hb h

theorem ExchangeHistory.nodup (history : ExchangeHistory market unit) : history.candles.Nodup :=
  history.ascending.imp (fun hlt heq => absurd (congrArg ApiCandle.seconds heq) (ne_of_lt hlt))

theorem ExchangeHistory.mem_fetched {cursor : UtcTime} {c : ApiCandle} :
    c ∈ history.fetched count cursor
      ↔ c ∈ history.candles ∧ c.seconds < cursor
        ∧ history.candles.countP (fun d => decide (c.seconds < d.seconds ∧ d.seconds < cursor))
          < count := by
  unfold ExchangeHistory.fetched
  rw [List.mem_filter, decide_eq_true_iff]

theorem fetchMinuteCandles_perm (hapi : api.Answers history) {cursor : UtcTime}
    {fresh : List ApiCandle} (h : fetchMinuteCandles api market unit count (some cursor) = .ok fresh) :
    fresh.Perm (history.fetched count cursor) := by
  have hpages := pages_perm history.pairwise_reverse hapi followsOldest_nextCursor
    (show 0 < 200 by decide) count (some cursor)
  unfold fetchMinuteCandles at h
  split_ifs at h
  rw [← Except.ok.inj h]
  refine (List.perm_insertionSort _ _).trans (hpages.trans ?_)
  have hnodup : (newest ApiCandle.seconds history.candles.reverse (some cursor) count).Nodup :=
    ((List.nodup_reverse.mpr history.nodup).filter _).sublist (List.take_sublist _ _)
  refine (List.perm_ext_iff_of_nodup hnodup (history.nodup.filter _)).mpr ?_
  intro c
  rw [mem_newest_iff history.pairwise_reverse, List.mem_reverse, List.countP_reverse]
  exact ExchangeHistory.mem_fetched.symm

end Fetch

/-! ## `_load_period_candles` -/

/-- `datetime` in microseconds, without the fraction of its second. -/
def wholeSeconds (t : ℤ) : UtcTime := t / 1000000

/-- `_format_candle_time`, of a time in microseconds -/
def formatCandleTime (t : ℤ) : SpelledTime := { seconds := wholeSeconds t, zoned := true }

def fetchCount (unit : ℕ) (start finish : ℤ) : ℕ :=
  (min (max (⌈((finish - start : ℤ) : ℚ) / 1000000 / (unit * 60)⌉ + 5) 30) 20000).toNat

/-- `_load_period_candles`, of a start and an end in microseconds: the candle table after it, and
what it returns or raises -/
def loadPeriodCandles (api : CandleApi) (db : CandleTable) (market : String) (unit : ℕ)
    (start finish : ℤ) : CandleTable × Except String (List CandleRow) :=
  if finish ≤ start then (db, .error "end time must be later than start time")
  else if unit = 0 then (db, .error "float division by zero")
  else
    match fetchMinuteCandles api market unit (fetchCount unit start finish)
      (some (wholeSeconds finish)) with
    | .error e => (db, .error e)
    | .ok fresh =>
      let db' := insertCandles (fresh.map (ApiCandle.withUnit unit)) db
      let candles :=
        loadCandlesBetween db' market unit (formatCandleTime start) (formatCandleTime finish)
      if candles.length < 30 then (db', .error "not enough candles for scheduled validation")
      else (db', .ok candles)

/-- `start <= time <= end` -/
def InPeriod (start finish : ℤ) (seconds : UtcTime) : Prop :=
  start ≤ seconds * 1000000 ∧ seconds * 1000000 ≤ finish

instance (start finish : ℤ) (seconds : UtcTime) : Decidable (InPeriod start finish seconds) := by
  unfold InPeriod
  infer_instance

def ExchangeHistory.period {market : String} {unit : ℕ} (history : ExchangeHistory market unit)
    (start finish : ℤ) : List ApiCandle :=
  history.candles.filter (fun c => decide (InPeriod start finish c.seconds))

/-- The rows are exactly the exchange's candles of the period, in order, each once. -/
def PeriodExact {market : String} {unit : ℕ} (history : ExchangeHistory market unit)
    (start finish : ℤ) (rows : List CandleRow) : Prop :=
  rows.map (fun r => (r.time.seconds, r.data))
    = (history.period start finish).map (fun c => (c.seconds, c.data))

/-! ## What the range shows -/

section Period

variable {market : String} {unit : ℕ} (history : ExchangeHistory market unit) (db : CandleTable)
  (start finish : ℤ)

/-- The candles that are fetched for the period. -/
def periodFetched : List ApiCandle :=
  history.fetched (fetchCount unit start finish) (wholeSeconds finish)

/-- The fetched candles in the range of texts. -/
def periodSeen : List ApiCandle :=
  (periodFetched history start finish).filter (fun c =>
    decide ((formatCandleTime start).place ≤ c.time.place)
      && decide (c.time.place ≤ (formatCandleTime finish).place))

/-- The old rows in the range of texts that no fetched candle overwrites. -/
def periodKept : List CandleRow :=
  db.table.rows.filter (fun r =>
    r.inRange market unit (formatCandleTime start) (formatCandleTime finish)
      && decide (∀ c ∈ periodFetched history start finish, c.time ≠ r.time))

/-- A row that shows a candle, however its time is spelled. -/
def CandleRow.Shows (r : CandleRow) (c : ApiCandle) : Prop :=
  r.time.seconds = c.seconds ∧ r.data = c.data

instance (r : CandleRow) (c : ApiCandle) : Decidable (r.Shows c) := by
  unfold CandleRow.Shows
  infer_instance

/-- The range shows every candle of the period once, and no other. -/
structure PeriodStored : Prop where
  complete : ∀ c ∈ history.period start finish,
    c ∈ periodSeen history start finish
      ∨ ∃ r ∈ periodKept history db start finish, r.Shows c
  seen : ∀ c ∈ periodSeen history start finish, InPeriod start finish c.seconds
  kept : ∀ r ∈ periodKept history db start finish, ∃ c ∈ history.period start finish,
    r.Shows c ∧ c ∉ periodSeen history start finish
  once : ∀ r ∈ periodKept history db start finish, ∀ r' ∈ periodKept history db start finish,
    r.time.seconds = r'.time.seconds → r = r'

variable {history db start finish}

theorem mem_period {c : ApiCandle} :
    c ∈ history.period start finish ↔ c ∈ history.candles ∧ InPeriod start finish c.seconds := by
  unfold ExchangeHistory.period
  rw [List.mem_filter, decide_eq_true_iff]

theorem mem_periodSeen {c : ApiCandle} :
    c ∈ periodSeen history start finish
      ↔ c ∈ periodFetched history start finish
        ∧ (formatCandleTime start).place ≤ c.time.place
        ∧ c.time.place ≤ (formatCandleTime finish).place := by
  unfold periodSeen
  rw [List.mem_filter, Bool.and_eq_true, decide_eq_true_iff, decide_eq_true_iff]

theorem mem_periodKept {r : CandleRow} :
    r ∈ periodKept history db start finish
      ↔ r ∈ db.table.rows
        ∧ r.inRange market unit (formatCandleTime start) (formatCandleTime finish) = true
        ∧ ∀ c ∈ periodFetched history start finish, c.time ≠ r.time := by
  unfold periodKept
  rw [List.mem_filter, Bool.and_eq_true, decide_eq_true_iff]

theorem mem_candles_of_fetched {c : ApiCandle} (h : c ∈ periodFetched history start finish) :
    c ∈ history.candles :=
  (ExchangeHistory.mem_fetched.mp h).1

theorem withUnit_key {c : ApiCandle} (h : c ∈ history.candles) :
    (c.withUnit unit).key = (market, unit, c.time) := by
  unfold ApiCandle.withUnit StoredCandle.key
  rw [history.market_eq c h, history.unit_eq c h]

theorem nodup_withUnit_keys {fresh : List ApiCandle}
    (hfresh : fresh.Perm (periodFetched history start finish)) :
    ((fresh.map (ApiCandle.withUnit unit)).map StoredCandle.key).Nodup := by
  rw [List.map_map]
  have hnodup : fresh.Nodup := hfresh.nodup_iff.mpr (history.nodup.filter _)
  refine List.Nodup.map_on ?_ hnodup
  intro a ha b hb hkey
  have ha' := mem_candles_of_fetched (hfresh.mem_iff.mp ha)
  have hb' := mem_candles_of_fetched (hfresh.mem_iff.mp hb)
  simp only [Function.comp_apply] at hkey
  rw [withUnit_key ha', withUnit_key hb', Prod.mk.injEq, Prod.mk.injEq] at hkey
  exact history.eq_of_seconds ha' hb' (congrArg SpelledTime.seconds hkey.2.2)

/-- What is read back, once the fetched candles are stored. -/
abbrev periodRows (db : CandleTable) (market : String) (unit : ℕ) (start finish : ℤ)
    (fresh : List ApiCandle) : List CandleRow :=
  loadCandlesBetween (insertCandles (fresh.map (ApiCandle.withUnit unit)) db) market unit
    (formatCandleTime start) (formatCandleTime finish)

theorem exists_periodRows_iff {fresh : List ApiCandle}
    (hfresh : fresh.Perm (periodFetched history start finish)) {stored : StoredCandle} :
    (∃ r ∈ periodRows db market unit start finish fresh, r.toStoredCandle = stored)
      ↔ (∃ c ∈ periodSeen history start finish, c.withUnit unit = stored)
        ∨ ∃ r ∈ periodKept history db start finish, r.toStoredCandle = stored := by
  have hrows := @exists_insertCandles_iff _ db (nodup_withUnit_keys hfresh) stored
  have hmem : ∀ c, c ∈ fresh ↔ c ∈ periodFetched history start finish := fun c => hfresh.mem_iff
  constructor
  · intro h
    obtain ⟨r, hr, hsame⟩ := h
    obtain ⟨hrow, hrange⟩ := mem_loadCandlesBetween.mp hr
    rcases hrows.mp ⟨r, hrow, hsame⟩ with hwritten | hold
    · obtain ⟨c, hc, hstored⟩ := List.mem_map.mp hwritten
      refine .inl ⟨c, mem_periodSeen.mpr ⟨(hmem c).mp hc, ?_⟩, hstored⟩
      have hplace := (CandleRow.inRange_iff.mp hrange).2
      have htime : r.time = c.time := by
        rw [← hstored] at hsame
        exact congrArg StoredCandle.time hsame
      rw [htime] at hplace
      exact hplace
    · obtain ⟨⟨old, hold, hsame'⟩, hother⟩ := hold
      obtain ⟨⟨hmarket, hunit⟩, hplace⟩ := CandleRow.inRange_iff.mp hrange
      have hstored : old.toStoredCandle = r.toStoredCandle := hsame'.trans hsame.symm
      refine .inr ⟨old, mem_periodKept.mpr ⟨hold, ?_, ?_⟩, hsame'⟩
      · refine CandleRow.inRange_iff.mpr ?_
        rw [hstored]
        exact ⟨⟨hmarket, hunit⟩, hplace⟩
      · intro c hc htime
        refine hother (c.withUnit unit) (List.mem_map_of_mem ((hmem c).mpr hc)) ?_
        rw [withUnit_key (mem_candles_of_fetched hc), htime, hstored, ← hsame]
        unfold StoredCandle.key
        rw [hmarket, hunit]
  · intro h
    rcases h with hseen | hkept
    · obtain ⟨c, hc, hstored⟩ := hseen
      obtain ⟨hfetched, hplace⟩ := mem_periodSeen.mp hc
      have hwritten : stored ∈ fresh.map (ApiCandle.withUnit unit) :=
        List.mem_map.mpr ⟨c, (hmem c).mpr hfetched, hstored⟩
      obtain ⟨r, hr, hsame⟩ := hrows.mpr (.inl hwritten)
      have hcandle := mem_candles_of_fetched hfetched
      refine ⟨r, mem_loadCandlesBetween.mpr ⟨hr, CandleRow.inRange_iff.mpr ?_⟩, hsame⟩
      rw [hsame, ← hstored]
      exact ⟨⟨history.market_eq c hcandle, history.unit_eq c hcandle⟩, hplace⟩
    · obtain ⟨old, hold, hsame⟩ := hkept
      obtain ⟨hrow, hrange, hother⟩ := mem_periodKept.mp hold
      have hnot : ∀ written ∈ fresh.map (ApiCandle.withUnit unit), written.key ≠ stored.key := by
        intro written hwritten hkey
        obtain ⟨c, hc, rfl⟩ := List.mem_map.mp hwritten
        have hfetched := (hmem c).mp hc
        rw [withUnit_key (mem_candles_of_fetched hfetched), ← hsame] at hkey
        exact hother c hfetched (congrArg (fun key => key.2.2) hkey)
      obtain ⟨r, hr, hsame'⟩ := hrows.mpr (.inr ⟨⟨old, hrow, hsame⟩, hnot⟩)
      refine ⟨r, mem_loadCandlesBetween.mpr ⟨hr, CandleRow.inRange_iff.mpr ?_⟩, hsame'⟩
      rw [hsame', ← hsame]
      exact CandleRow.inRange_iff.mp hrange

theorem length_periodRows {fresh : List ApiCandle}
    (hfresh : fresh.Perm (periodFetched history start finish)) :
    (periodRows db market unit start finish fresh).length
      = (periodSeen history start finish).length + (periodKept history db start finish).length := by
  have hread : ((periodRows db market unit start finish fresh).map
      CandleRow.toStoredCandle).Nodup := by
    refine List.pairwise_map.mpr ((pairwise_loadCandlesBetween _ _ _ _ _).imp ?_)
    intro a b hlt hsame
    rw [congrArg StoredCandle.time hsame] at hlt
    exact absurd hlt (lt_irrefl _)
  have hseen : ((periodSeen history start finish).map (ApiCandle.withUnit unit)).Nodup := by
    refine List.Nodup.map_on ?_ ((history.nodup.filter _).filter _)
    intro a ha b hb hsame
    have ha' := mem_candles_of_fetched (mem_periodSeen.mp ha).1
    have hb' := mem_candles_of_fetched (mem_periodSeen.mp hb).1
    exact history.eq_of_seconds ha' hb' (congrArg (fun c => c.time.seconds) hsame)
  have hkept : ((periodKept history db start finish).map CandleRow.toStoredCandle).Nodup := by
    refine List.Nodup.map_on ?_ ((List.Nodup.of_map _ db.table.nodup).filter _)
    intro a ha b hb hsame
    exact db.unique.eq_of_key (mem_periodKept.mp ha).1 (mem_periodKept.mp hb).1
      (congrArg StoredCandle.key hsame)
  have hboth : ((periodSeen history start finish).map (ApiCandle.withUnit unit)
      ++ (periodKept history db start finish).map CandleRow.toStoredCandle).Nodup := by
    refine hseen.append hkept ?_
    intro stored hleft hright
    obtain ⟨c, hc, rfl⟩ := List.mem_map.mp hleft
    obtain ⟨r, hr, hsame⟩ := List.mem_map.mp hright
    refine (mem_periodKept.mp hr).2.2 c (mem_periodSeen.mp hc).1 ?_
    exact (congrArg StoredCandle.time hsame).symm
  have hperm := (List.perm_ext_iff_of_nodup hread hboth).mpr (fun stored => by
    rw [List.mem_map, exists_periodRows_iff hfresh, List.mem_append, List.mem_map, List.mem_map])
  have hlength := hperm.length_eq
  rw [List.length_map, List.length_append, List.length_map, List.length_map] at hlength
  exact hlength

/-! ## The rows and the candles of the period -/

section Exact

variable {fresh : List ApiCandle}

theorem periodRows_cases (hfresh : fresh.Perm (periodFetched history start finish))
    {r : CandleRow} (hr : r ∈ periodRows db market unit start finish fresh) :
    (∃ c ∈ periodSeen history start finish, r.time = c.time ∧ r.data = c.data)
      ∨ ∃ k ∈ periodKept history db start finish, r.time = k.time ∧ r.data = k.data := by
  rcases (exists_periodRows_iff hfresh).mp ⟨r, hr, rfl⟩ with hseen | hkept
  · obtain ⟨c, hc, hsame⟩ := hseen
    exact .inl ⟨c, hc, (congrArg StoredCandle.time hsame).symm,
      (congrArg StoredCandle.data hsame).symm⟩
  · obtain ⟨k, hk, hsame⟩ := hkept
    exact .inr ⟨k, hk, (congrArg StoredCandle.time hsame).symm,
      (congrArg StoredCandle.data hsame).symm⟩

theorem exists_row_of_seen (hfresh : fresh.Perm (periodFetched history start finish))
    (db : CandleTable) {c : ApiCandle} (hc : c ∈ periodSeen history start finish) :
    ∃ r ∈ periodRows db market unit start finish fresh, r.time = c.time ∧ r.data = c.data := by
  obtain ⟨r, hr, hsame⟩ := (exists_periodRows_iff hfresh).mpr (.inl ⟨c, hc, rfl⟩)
  exact ⟨r, hr, congrArg StoredCandle.time hsame, congrArg StoredCandle.data hsame⟩

theorem exists_row_of_kept (hfresh : fresh.Perm (periodFetched history start finish))
    {k : CandleRow} (hk : k ∈ periodKept history db start finish) :
    ∃ r ∈ periodRows db market unit start finish fresh, r.time = k.time ∧ r.data = k.data := by
  obtain ⟨r, hr, hsame⟩ := (exists_periodRows_iff hfresh).mpr (.inr ⟨k, hk, rfl⟩)
  exact ⟨r, hr, congrArg StoredCandle.time hsame, congrArg StoredCandle.data hsame⟩

theorem mem_candles_of_seen {c : ApiCandle} (hc : c ∈ periodSeen history start finish) :
    c ∈ history.candles :=
  mem_candles_of_fetched (mem_periodSeen.mp hc).1

theorem periodExact_iff_rows :
    PeriodExact history start finish (periodRows db market unit start finish fresh)
      ↔ (∀ c ∈ history.period start finish,
          ∃ r ∈ periodRows db market unit start finish fresh, r.Shows c)
        ∧ (∀ r ∈ periodRows db market unit start finish fresh,
          ∃ c ∈ history.period start finish, r.Shows c)
        ∧ ∀ a ∈ periodRows db market unit start finish fresh,
          ∀ b ∈ periodRows db market unit start finish fresh,
          a.time.seconds = b.time.seconds → a = b := by
  have hsorted := pairwise_loadCandlesBetween
    (insertCandles (fresh.map (ApiCandle.withUnit unit)) db) market unit (formatCandleTime start)
    (formatCandleTime finish)
  have hascending : (periodRows db market unit start finish fresh).Pairwise
      (fun a b => a.time.seconds ≤ b.time.seconds) := by
    refine hsorted.imp ?_
    intro a b hlt
    rcases SpelledTime.place_lt_iff.mp hlt with hearlier | hsame
    · exact hearlier.le
    · exact hsame.1.le
  have hnodup : (periodRows db market unit start finish fresh).Nodup := by
    refine hsorted.imp ?_
    intro a b hlt heq
    rw [heq] at hlt
    exact lt_irrefl _ hlt
  have hperiod : (history.period start finish).Pairwise (fun a b => a.seconds < b.seconds) :=
    history.ascending.sublist List.filter_sublist
  unfold PeriodExact CandleRow.Shows
  rw [map_eq_map_iff_of_sorted hascending hnodup hperiod]
  simp only [Prod.mk.injEq, eq_comm]

theorem periodStored_of_exact (hfresh : fresh.Perm (periodFetched history start finish))
    (h : PeriodExact history start finish (periodRows db market unit start finish fresh)) :
    PeriodStored history db start finish := by
  obtain ⟨hcomplete, hsound, honce⟩ := periodExact_iff_rows.mp h
  refine ⟨?_, ?_, ?_, ?_⟩
  · intro c hc
    obtain ⟨r, hr, hseconds, hdata⟩ := hcomplete c hc
    rcases periodRows_cases hfresh hr with hseen | hkept
    · obtain ⟨c', hc', htime, -⟩ := hseen
      have hsame : c'.seconds = c.seconds :=
        (congrArg SpelledTime.seconds htime).symm.trans hseconds
      rw [← history.eq_of_seconds (mem_candles_of_seen hc') (mem_period.mp hc).1 hsame]
      exact .inl hc'
    · obtain ⟨k, hk, htime, hdata'⟩ := hkept
      refine .inr ⟨k, hk, ?_, hdata'.symm.trans hdata⟩
      exact (congrArg SpelledTime.seconds htime).symm.trans hseconds
  · intro c hc
    obtain ⟨r, hr, htime, -⟩ := exists_row_of_seen hfresh db hc
    obtain ⟨c', hc', hseconds, -⟩ := hsound r hr
    have hsame : c.seconds = c'.seconds := (congrArg SpelledTime.seconds htime).symm.trans hseconds
    rw [hsame]
    exact (mem_period.mp hc').2
  · intro k hk
    obtain ⟨r, hr, htime, hdata⟩ := exists_row_of_kept hfresh hk
    obtain ⟨c, hc, hseconds, hdata'⟩ := hsound r hr
    refine ⟨c, hc, ⟨?_, hdata.symm.trans hdata'⟩, ?_⟩
    · exact (congrArg SpelledTime.seconds htime).symm.trans hseconds
    · -- a fetched candle of that time would be a second row
      intro hseen
      obtain ⟨r', hr', htime', -⟩ := exists_row_of_seen hfresh db hseen
      have hsame := honce r hr r' hr' (by rw [htime']; exact hseconds)
      refine (mem_periodKept.mp hk).2.2 c (mem_periodSeen.mp hseen).1 ?_
      rw [← htime, hsame, htime']
  · intro k hk k' hk' hseconds
    obtain ⟨r, hr, htime, -⟩ := exists_row_of_kept hfresh hk
    obtain ⟨r', hr', htime', -⟩ := exists_row_of_kept hfresh hk'
    have hsame := honce r hr r' hr' (by rw [htime, htime', hseconds])
    obtain ⟨hrow, hrange, -⟩ := mem_periodKept.mp hk
    obtain ⟨hrow', hrange', -⟩ := mem_periodKept.mp hk'
    exact db.eq_of_time hrow hrow' hrange hrange' (by rw [← htime, hsame, htime'])

theorem PeriodStored.seconds_ne (h : PeriodStored history db start finish) {c : ApiCandle}
    (hc : c ∈ periodSeen history start finish) {k : CandleRow}
    (hk : k ∈ periodKept history db start finish) : c.seconds ≠ k.time.seconds := by
  intro hseconds
  obtain ⟨c', hc', hshows, hnot⟩ := h.kept k hk
  have hsame := history.eq_of_seconds (mem_candles_of_seen hc) (mem_period.mp hc').1
    (hseconds.trans hshows.1)
  rw [← hsame] at hnot
  exact hnot hc

theorem PeriodStored.time_eq (h : PeriodStored history db start finish)
    (hfresh : fresh.Perm (periodFetched history start finish)) {a b : CandleRow}
    (ha : a ∈ periodRows db market unit start finish fresh)
    (hb : b ∈ periodRows db market unit start finish fresh)
    (hseconds : a.time.seconds = b.time.seconds) : a.time = b.time := by
  rcases periodRows_cases hfresh ha with hseen | hkept
  · obtain ⟨c, hc, htime, -⟩ := hseen
    rcases periodRows_cases hfresh hb with hseen' | hkept'
    · obtain ⟨c', hc', htime', -⟩ := hseen'
      rw [htime, htime'] at hseconds
      rw [htime, htime',
        history.eq_of_seconds (mem_candles_of_seen hc) (mem_candles_of_seen hc') hseconds]
    · obtain ⟨k, hk, htime', -⟩ := hkept'
      rw [htime, htime'] at hseconds
      exact absurd hseconds (h.seconds_ne hc hk)
  · obtain ⟨k, hk, htime, -⟩ := hkept
    rcases periodRows_cases hfresh hb with hseen' | hkept'
    · obtain ⟨c, hc, htime', -⟩ := hseen'
      rw [htime, htime'] at hseconds
      exact absurd hseconds.symm (h.seconds_ne hc hk)
    · obtain ⟨k', hk', htime', -⟩ := hkept'
      rw [htime, htime'] at hseconds
      rw [htime, htime', h.once k hk k' hk' hseconds]

theorem exact_of_periodStored (hfresh : fresh.Perm (periodFetched history start finish))
    (h : PeriodStored history db start finish) :
    PeriodExact history start finish (periodRows db market unit start finish fresh) := by
  refine periodExact_iff_rows.mpr ⟨?_, ?_, ?_⟩
  · intro c hc
    rcases h.complete c hc with hseen | hkept
    · obtain ⟨r, hr, htime, hdata⟩ := exists_row_of_seen hfresh db hseen
      exact ⟨r, hr, congrArg SpelledTime.seconds htime, hdata⟩
    · obtain ⟨k, hk, hseconds, hdata⟩ := hkept
      obtain ⟨r, hr, htime, hdata'⟩ := exists_row_of_kept hfresh hk
      exact ⟨r, hr, (congrArg SpelledTime.seconds htime).trans hseconds, hdata'.trans hdata⟩
  · intro r hr
    rcases periodRows_cases hfresh hr with hseen | hkept
    · obtain ⟨c, hc, htime, hdata⟩ := hseen
      exact ⟨c, mem_period.mpr ⟨mem_candles_of_seen hc, h.seen c hc⟩,
        congrArg SpelledTime.seconds htime, hdata⟩
    · obtain ⟨k, hk, htime, hdata⟩ := hkept
      obtain ⟨c, hc, hshows, -⟩ := h.kept k hk
      exact ⟨c, hc, (congrArg SpelledTime.seconds htime).trans hshows.1, hdata.trans hshows.2⟩
  · intro a ha b hb hseconds
    obtain ⟨harow, hain⟩ := mem_loadCandlesBetween.mp ha
    obtain ⟨hbrow, hbin⟩ := mem_loadCandlesBetween.mp hb
    exact CandleTable.eq_of_time _ harow hbrow hain hbin (h.time_eq hfresh ha hb hseconds)

end Exact

/-! ## What is returned -/

section Load

variable {api : CandleApi}

theorem fetchCount_bounds (unit : ℕ) (start finish : ℤ) :
    ¬ (fetchCount unit start finish < 1 ∨ 20000 < fetchCount unit start finish) := by
  unfold fetchCount
  omega

theorem fetchMinuteCandles_ok (api : CandleApi) (market : String) (hunit : unit ∈ supportedUnits)
    (start finish : ℤ) (cursor : Option UtcTime) :
    ∃ fresh, fetchMinuteCandles api market unit (fetchCount unit start finish) cursor
      = .ok fresh := by
  unfold fetchMinuteCandles
  rw [if_neg (not_not.mpr hunit), if_neg (fetchCount_bounds unit start finish)]
  exact ⟨_, rfl⟩

/-- What is asked for raises nothing: an end after the start, a unit that the exchange has, and 30
candles in the range. -/
structure PeriodAnswered {market : String} {unit : ℕ} (history : ExchangeHistory market unit)
    (db : CandleTable) (start finish : ℤ) : Prop where
  order : start < finish
  supported : unit ∈ supportedUnits
  enough : 30 ≤ (periodSeen history start finish).length
    + (periodKept history db start finish).length

theorem loadPeriodCandles_ok (hapi : api.Answers history)
    (h : PeriodAnswered history db start finish) :
    ∃ fresh, fresh.Perm (periodFetched history start finish)
      ∧ (loadPeriodCandles api db market unit start finish).2
        = .ok (periodRows db market unit start finish fresh) := by
  have hzero : unit ≠ 0 := fun hzero => absurd h.supported (by rw [hzero]; decide)
  obtain ⟨fresh, hfetch⟩ := fetchMinuteCandles_ok api market h.supported start finish
    (some (wholeSeconds finish))
  have hperm : fresh.Perm (periodFetched history start finish) :=
    fetchMinuteCandles_perm hapi hfetch
  refine ⟨fresh, hperm, ?_⟩
  unfold loadPeriodCandles
  rw [if_neg (not_le.mpr h.order), if_neg hzero, hfetch]
  dsimp only
  rw [if_neg]
  have henough := h.enough
  rw [← length_periodRows hperm] at henough
  exact not_lt.mpr henough

theorem loadPeriodCandles_error (hapi : api.Answers history)
    (h : ¬ PeriodAnswered history db start finish) :
    ∃ e, (loadPeriodCandles api db market unit start finish).2 = .error e := by
  unfold loadPeriodCandles
  by_cases horder : finish ≤ start
  · rw [if_pos horder]
    exact ⟨_, rfl⟩
  rw [if_neg horder]
  by_cases hzero : unit = 0
  · rw [if_pos hzero]
    exact ⟨_, rfl⟩
  rw [if_neg hzero]
  cases hfetch : fetchMinuteCandles api market unit (fetchCount unit start finish)
      (some (wholeSeconds finish)) with
  | error e => exact ⟨e, rfl⟩
  | ok fresh =>
    have hperm : fresh.Perm (periodFetched history start finish) :=
      fetchMinuteCandles_perm hapi hfetch
    have hsupported : unit ∈ supportedUnits := by
      unfold fetchMinuteCandles at hfetch
      by_contra hunit
      rw [if_pos hunit] at hfetch
      cases hfetch
    dsimp only
    rw [if_pos]
    · exact ⟨_, rfl⟩
    · by_contra hmany
      refine h ⟨not_le.mp horder, hsupported, ?_⟩
      rw [← length_periodRows hperm]
      exact not_lt.mp hmany

/-- The call raises, or returns exactly the exchange's candles of the period. -/
def SeesPeriod {market : String} {unit : ℕ} (api : CandleApi)
    (history : ExchangeHistory market unit) (db : CandleTable) (start finish : ℤ) : Prop :=
  (∃ e, (loadPeriodCandles api db market unit start finish).2 = .error e)
    ∨ ∃ rows, (loadPeriodCandles api db market unit start finish).2 = .ok rows
        ∧ PeriodExact history start finish rows

theorem stored_of_sees (hapi : api.Answers history) (h : SeesPeriod api history db start finish)
    (hanswered : PeriodAnswered history db start finish) : PeriodStored history db start finish := by
  obtain ⟨fresh, hperm, hok⟩ := loadPeriodCandles_ok hapi hanswered
  rcases h with herror | hexact
  · obtain ⟨e, he⟩ := herror
    rw [hok] at he
    cases he
  · obtain ⟨rows, hrows, hexact⟩ := hexact
    rw [hok] at hrows
    rw [← Except.ok.inj hrows] at hexact
    exact periodStored_of_exact hperm hexact

theorem sees_of_stored (hapi : api.Answers history)
    (h : PeriodAnswered history db start finish → PeriodStored history db start finish) :
    SeesPeriod api history db start finish := by
  by_cases hanswered : PeriodAnswered history db start finish
  · obtain ⟨fresh, hperm, hok⟩ := loadPeriodCandles_ok hapi hanswered
    exact .inr ⟨_, hok, exact_of_periodStored hperm (h hanswered)⟩
  · exact .inl (loadPeriodCandles_error hapi hanswered)

end Load

end Period

/-- **Validation sees the whole period** just if, where there is an answer, the fetched candles and
the rows that were stored before show each candle of the period once and no other. -/
theorem periodExact_iff (market : String) (unit : ℕ) (history : ExchangeHistory market unit)
    (api : CandleApi) (hapi : api.Answers history) (db : CandleTable) (start finish : ℤ) :
    SeesPeriod api history db start finish
      ↔ (PeriodAnswered history db start finish → PeriodStored history db start finish) := by
  constructor
  · intro h hanswered
    exact stored_of_sees hapi h hanswered
  · intro h
    exact sees_of_stored hapi h

/-! ## A period that is seen, and one that is not -/

def minuteHistory (count : ℕ) : ExchangeHistory "KRW-BTC" 1 where
  candles := (List.range count).map (fun k : ℕ =>
    { market := "KRW-BTC", unit := some 1, time := ⟨60 * (k : ℤ), false⟩
      data := { tradePrice := 100 } })
  ascending := by
    refine List.pairwise_map.mpr (List.pairwise_lt_range.imp ?_)
    intro j k hjk
    show 60 * (j : ℤ) < 60 * (k : ℤ)
    omega
  market_eq := by
    intro c hc
    obtain ⟨k, -, rfl⟩ := List.mem_map.mp hc
    rfl
  unit_eq := by
    intro c hc
    obtain ⟨k, -, rfl⟩ := List.mem_map.mp hc
    rfl

def minuteApi (count : ℕ) : CandleApi := fun _ _ size cursor =>
  newest ApiCandle.seconds (minuteHistory count).candles.reverse cursor size

theorem minuteApi_answers (count : ℕ) : (minuteApi count).Answers (minuteHistory count) :=
  fun _ _ => List.Perm.refl _

theorem periodExact_between :
    PeriodAnswered (minuteHistory 41) emptyCandles 30000000 2310000000
      ∧ SeesPeriod (minuteApi 41) (minuteHistory 41) emptyCandles 30000000 2310000000 := by
  refine ⟨⟨by decide, by decide, by decide +kernel⟩, ?_⟩
  refine (periodExact_iff "KRW-BTC" 1 (minuteHistory 41) (minuteApi 41) (minuteApi_answers 41)
    emptyCandles 30000000 2310000000).mpr ?_
  intro _
  exact ⟨by decide +kernel, by decide +kernel, by decide +kernel, by decide +kernel⟩

/-- **The candles at the start and at the end are missed**, where the period begins and ends on
the minute. -/
theorem period_misses_its_ends :
    ∃ rows, (loadPeriodCandles (minuteApi 41) emptyCandles "KRW-BTC" 1 0 2400000000).2 = .ok rows
      ∧ ¬ SeesPeriod (minuteApi 41) (minuteHistory 41) emptyCandles 0 2400000000 := by
  have hanswered : PeriodAnswered (minuteHistory 41) emptyCandles 0 2400000000 :=
    ⟨by decide, by decide, by decide +kernel⟩
  obtain ⟨fresh, -, hok⟩ := loadPeriodCandles_ok (minuteApi_answers 41) hanswered
  refine ⟨_, hok, ?_⟩
  intro h
  have hcomplete := (stored_of_sees (minuteApi_answers 41) h hanswered).complete
  revert hcomplete
  decide +kernel

end AutoCoinBot
