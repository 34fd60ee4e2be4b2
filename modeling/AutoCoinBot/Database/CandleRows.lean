/-
  Database.CandleRows — the candle table of app/database.py.

  A candle time is stored as the text that came in, with a `Z` or without a zone, and a range of
  times is a range of texts.
-/
import AutoCoinBot.AccountingEpoch.EpochTimes
import AutoCoinBot.Library.Upsert

namespace AutoCoinBot

open Library

/-! ## Spelled times -/

/-- A candle time as it is stored, spelled with `Z` or without a zone. -/
structure SpelledTime where
  seconds : UtcTime
  zoned : Bool
  deriving DecidableEq

namespace SpelledTime

def place (t : SpelledTime) : UtcTime ×ₗ Bool := toLex (t.seconds, t.zoned)

theorem place_injective : Function.Injective place := by
  intro a b h
  obtain ⟨seconds, zoned⟩ := a
  obtain ⟨seconds', zoned'⟩ := b
  have hpair : (seconds, zoned) = (seconds', zoned') := toLex.injective h
  cases hpair
  rfl

theorem place_lt_iff {a b : SpelledTime} :
    a.place < b.place ↔ a.seconds < b.seconds ∨ a.seconds = b.seconds ∧ a.zoned < b.zoned := by
  unfold place
  rw [Prod.Lex.lt_iff]
  rfl

theorem place_le_iff {a b : SpelledTime} :
    a.place ≤ b.place ↔ a.seconds < b.seconds ∨ a.seconds = b.seconds ∧ a.zoned ≤ b.zoned := by
  unfold place
  rw [Prod.Lex.le_iff]
  rfl

def zone (t : SpelledTime) : Zone := if t.zoned then .z else .none

/-- Its text, where `clock` reads a time. -/
def chars (clock : UtcTime → ClockTime) (t : SpelledTime) : List Char :=
  (clock t.seconds).chars ++ t.zone.chars

end SpelledTime

/-! ## The table -/

/-- What a candle shows besides its time. -/
structure CandleData where
  timeKst : String := ""
  openingPrice : ℚ := 0
  highPrice : ℚ := 0
  lowPrice : ℚ := 0
  tradePrice : ℚ := 0
  candleAccTradePrice : ℚ := 0
  candleAccTradeVolume : ℚ := 0
  timestamp : ℤ := 0
  deriving DecidableEq

/-- What `insert_candles` writes. -/
structure StoredCandle where
  market : String
  unit : ℕ
  time : SpelledTime
  data : CandleData
  deriving DecidableEq

/-- A row of `candles`. -/
structure CandleRow extends StoredCandle where
  id : ℕ
  deriving DecidableEq

instance : Row CandleRow := ⟨CandleRow.id⟩

/-- `UNIQUE(market, unit, candle_time_utc)` -/
def StoredCandle.key (c : StoredCandle) : String × ℕ × SpelledTime := (c.market, c.unit, c.time)

def CandleRow.key (r : CandleRow) : String × ℕ × SpelledTime := r.toStoredCandle.key

/-- The table `candles`. -/
structure CandleTable where
  table : Table CandleRow
  unique : table.UniqueOn CandleRow.key

def emptyCandles : CandleTable := ⟨Table.empty, List.nodup_nil⟩

def overwriteCandle (c : StoredCandle) (r : CandleRow) : CandleRow :=
  { r with data := c.data }

def writeCandle (t : Table CandleRow) (c : StoredCandle) : Table CandleRow :=
  t.upsert CandleRow.key (fun k => { toStoredCandle := c, id := k }) (fun _ => rfl)
    (overwriteCandle c) (fun _ => rfl)

theorem unique_writeCandle {t : Table CandleRow} (c : StoredCandle)
    (h : t.UniqueOn CandleRow.key) : (writeCandle t c).UniqueOn CandleRow.key :=
  h.upsert _ _ _ (fun _ => rfl)

theorem unique_writeCandles {t : Table CandleRow} (candles : List StoredCandle)
    (h : t.UniqueOn CandleRow.key) : (candles.foldl writeCandle t).UniqueOn CandleRow.key := by
  induction candles generalizing t with
  | nil => exact h
  | cons c candles ih => exact ih (unique_writeCandle c h)

def insertCandles (candles : List StoredCandle) (db : CandleTable) : CandleTable where
  table := candles.foldl writeCandle db.table
  unique := unique_writeCandles candles db.unique

theorem rows_insertCandles (candles : List StoredCandle) (db : CandleTable) :
    (insertCandles candles db).table.rows = (candles.foldl writeCandle db.table).rows := rfl

/-- The order of `candle_time_utc`. -/
def CandleRow.before (a b : CandleRow) : Prop := a.time.place ≤ b.time.place

instance : DecidableRel CandleRow.before := fun a b =>
  inferInstanceAs (Decidable (a.time.place ≤ b.time.place))

/-- `WHERE market = ? AND unit = ? AND candle_time_utc >= ? AND candle_time_utc <= ?` -/
def CandleRow.inRange (market : String) (unit : ℕ) (first last : SpelledTime) (r : CandleRow) :
    Bool :=
  r.market == market && r.unit == unit
    && decide (first.place ≤ r.time.place) && decide (r.time.place ≤ last.place)

def loadCandlesBetween (db : CandleTable) (market : String) (unit : ℕ) (first last : SpelledTime) :
    List CandleRow :=
  (db.table.rows.filter (CandleRow.inRange market unit first last)).insertionSort CandleRow.before

def firstCandleAtOrAfter (db : CandleTable) (market : String) (unit : ℕ) (target : SpelledTime) :
    Option CandleRow :=
  ((db.table.rows.filter (fun r => r.market == market && r.unit == unit
    && decide (target.place ≤ r.time.place))).insertionSort CandleRow.before).head?

/-! ## The candles after an upsert -/

section Insert

theorem writesRecord_candle : WritesRecord writeCandle CandleRow.key StoredCandle.key
    (fun c r => r.toStoredCandle = c) := by
  intro t c r hr
  rcases Table.mem_rows_upsert hr with hold | hnew | hconflict
  · exact .inl hold
  · rw [hnew]
    exact .inr rfl
  · obtain ⟨old, -, hkey, hsame⟩ := hconflict
    have hcandle : old.key = c.key := hkey
    unfold CandleRow.key StoredCandle.key at hcandle
    rw [Prod.mk.injEq, Prod.mk.injEq] at hcandle
    refine .inr ?_
    rw [hsame]
    unfold overwriteCandle
    obtain ⟨hmarket, hunit, htime⟩ := hcandle
    rw [hmarket, hunit, htime]

theorem keepsKeys_candle : KeepsKeys writeCandle CandleRow.key StoredCandle.key := by
  intro t c x h
  have hkey : ∀ r, (overwriteCandle c r).key = r.key := fun _ => rfl
  unfold writeCandle
  exact Table.exists_key_upsert hkey h

variable {candles : List StoredCandle} {db : CandleTable}

/-- **The candles after an upsert**: those that are written, and the old ones of other keys. -/
theorem exists_insertCandles_iff (hkeys : (candles.map StoredCandle.key).Nodup)
    {c : StoredCandle} :
    (∃ r ∈ (insertCandles candles db).table.rows, r.toStoredCandle = c)
      ↔ c ∈ candles
        ∨ (∃ r ∈ db.table.rows, r.toStoredCandle = c) ∧ ∀ written ∈ candles, written.key ≠ c.key := by
  rw [rows_insertCandles]
  constructor
  · intro h
    obtain ⟨r, hr, hrc⟩ := h
    rcases mem_rows_batch writesRecord_candle hr with hold | hwritten
    · obtain ⟨hmem, hother⟩ := hold
      refine .inr ⟨⟨r, hmem, hrc⟩, ?_⟩
      intro written hwritten hkey
      refine hother written hwritten ?_
      rw [hkey, ← hrc]
      rfl
    · obtain ⟨written, hmem, hsame⟩ := hwritten
      rw [← hrc, hsame]
      exact .inl hmem
  · intro h
    rcases h with hwritten | hold
    · obtain ⟨r, hr, hkey⟩ := exists_key_batch keepsKeys_candle (t := db.table)
        (.inl ⟨c, hwritten, rfl⟩)
      refine ⟨r, hr, ?_⟩
      rcases mem_rows_batch writesRecord_candle hr with hother | hshows
      · exact absurd hkey (hother.2 c hwritten)
      · obtain ⟨written, hmem, hsame⟩ := hshows
        rw [hsame]
        refine List.inj_on_of_nodup_map hkeys hmem hwritten ?_
        rw [← hkey, ← hsame]
        rfl
    · obtain ⟨⟨old, hold, hsame⟩, hother⟩ := hold
      obtain ⟨r, hr, hkey⟩ : ∃ r ∈ (candles.foldl writeCandle db.table).rows, r.key = old.key :=
        exists_key_batch keepsKeys_candle (.inr ⟨old, hold, rfl⟩)
      refine ⟨r, hr, ?_⟩
      rcases mem_rows_batch writesRecord_candle hr with hkept | hshows
      · rw [db.unique.eq_of_key hkept.1 hold hkey]
        exact hsame
      · obtain ⟨written, hmem, hshown⟩ := hshows
        refine absurd ?_ (hother written hmem)
        rw [← hsame, ← hshown]
        exact hkey

end Insert

/-! ## Ranges -/

section Ranges

variable {db : CandleTable} {market : String} {unit : ℕ} {first last : SpelledTime}

theorem CandleRow.inRange_iff {r : CandleRow} :
    r.inRange market unit first last = true
      ↔ (r.market = market ∧ r.unit = unit)
        ∧ first.place ≤ r.time.place ∧ r.time.place ≤ last.place := by
  unfold CandleRow.inRange
  simp only [Bool.and_eq_true, beq_iff_eq, decide_eq_true_eq]
  exact and_assoc

theorem mem_loadCandlesBetween {r : CandleRow} :
    r ∈ loadCandlesBetween db market unit first last
      ↔ r ∈ db.table.rows ∧ r.inRange market unit first last = true := by
  unfold loadCandlesBetween
  rw [List.mem_insertionSort, List.mem_filter]

theorem CandleTable.eq_of_time (db : CandleTable) {a b : CandleRow} (ha : a ∈ db.table.rows)
    (hb : b ∈ db.table.rows) (hain : a.inRange market unit first last = true)
    (hbin : b.inRange market unit first last = true) (htime : a.time = b.time) : a = b := by
  obtain ⟨⟨hamarket, haunit⟩, -⟩ := CandleRow.inRange_iff.mp hain
  obtain ⟨⟨hbmarket, hbunit⟩, -⟩ := CandleRow.inRange_iff.mp hbin
  refine db.unique.eq_of_key ha hb ?_
  unfold CandleRow.key StoredCandle.key
  rw [hamarket, hbmarket, haunit, hbunit, htime]

theorem CandleRow.total_before : Std.Total CandleRow.before :=
  ⟨fun a b => le_total a.time.place b.time.place⟩

theorem CandleRow.trans_before : IsTrans CandleRow CandleRow.before :=
  ⟨fun _ _ _ hab hbc => le_trans hab hbc⟩

/-- **A range comes in the order of its texts.** -/
theorem pairwise_loadCandlesBetween (db : CandleTable) (market : String) (unit : ℕ)
    (first last : SpelledTime) :
    (loadCandlesBetween db market unit first last).Pairwise
      (fun a b => a.time.place < b.time.place) := by
  have htotal := CandleRow.total_before
  have htrans := CandleRow.trans_before
  have hsorted := List.pairwise_insertionSort CandleRow.before
    (db.table.rows.filter (CandleRow.inRange market unit first last))
  have hnodup : (loadCandlesBetween db market unit first last).Nodup := by
    unfold loadCandlesBetween
    rw [(List.perm_insertionSort CandleRow.before _).nodup_iff]
    exact (List.Nodup.of_map _ db.table.nodup).filter _
  refine (List.Pairwise.and hsorted hnodup).imp_of_mem ?_
  intro a b ha hb hboth
  obtain ⟨hamem, hain⟩ := mem_loadCandlesBetween.mp ha
  obtain ⟨hbmem, hbin⟩ := mem_loadCandlesBetween.mp hb
  refine lt_of_le_of_ne hboth.1 ?_
  intro hplace
  exact hboth.2 (db.eq_of_time hamem hbmem hain hbin (SpelledTime.place_injective hplace))

/-- **The first candle from a time on**: it is stored, and no other one from there is before it. -/
theorem firstCandleAtOrAfter_spec {target : SpelledTime} {r : CandleRow}
    (h : firstCandleAtOrAfter db market unit target = some r) :
    (r ∈ db.table.rows ∧ r.market = market ∧ r.unit = unit ∧ target.place ≤ r.time.place)
      ∧ ∀ s ∈ db.table.rows, s.market = market → s.unit = unit → target.place ≤ s.time.place →
        r.time.place ≤ s.time.place := by
  have htotal := CandleRow.total_before
  have htrans := CandleRow.trans_before
  have haccepted : ∀ s, s ∈ db.table.rows.filter (fun r => r.market == market && r.unit == unit
      && decide (target.place ≤ r.time.place))
      ↔ s ∈ db.table.rows ∧ (s.market = market ∧ s.unit = unit) ∧ target.place ≤ s.time.place := by
    intro s
    rw [List.mem_filter]
    simp only [Bool.and_eq_true, beq_iff_eq, decide_eq_true_eq]
  unfold firstCandleAtOrAfter at h
  have hmem := (haccepted r).mp ((List.mem_insertionSort _).mp (List.mem_of_mem_head? h))
  refine ⟨⟨hmem.1, hmem.2.1.1, hmem.2.1.2, hmem.2.2⟩, ?_⟩
  intro s hs hmarket hunit hafter
  have hfind : ((db.table.rows.filter (fun r => r.market == market && r.unit == unit
      && decide (target.place ≤ r.time.place))).insertionSort CandleRow.before).find?
        (fun _ => true) = some r := by
    rw [← h]
    cases (db.table.rows.filter (fun r => r.market == market && r.unit == unit
      && decide (target.place ≤ r.time.place))).insertionSort CandleRow.before <;> rfl
  rcases Table.find?_insertionSort CandleRow.before hfind
    ((haccepted s).mpr ⟨hs, ⟨hmarket, hunit⟩, hafter⟩) rfl with hsame | hbefore
  · rw [hsame]
  · exact hbefore

end Ranges

end AutoCoinBot
