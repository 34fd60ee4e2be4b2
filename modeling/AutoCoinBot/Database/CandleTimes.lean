/-
  Database.CandleTimes — the texts of candle times, and what app/database.py makes of
  them.

  The exchange sends candle times without a zone; other writers end them in `Z` or in an offset.
  `_canonical_utc` reads all three and writes one.
-/
import AutoCoinBot.Database.Values

namespace AutoCoinBot

/-! ## Clock readings -/

/-- A date and a time of day. -/
structure ClockTime where
  year : ℕ
  month : ℕ
  day : ℕ
  hour : ℕ
  minute : ℕ
  second : ℕ
  deriving DecidableEq

namespace ClockTime

def isLeapYear (year : ℕ) : Bool := year % 4 = 0 ∧ (year % 100 ≠ 0 ∨ year % 400 = 0)

def daysInMonth (year month : ℕ) : ℕ :=
  if month = 2 then (if isLeapYear year then 29 else 28)
  else if [4, 6, 9, 11].contains month then 30
  else 31

/-- What `datetime(…)` accepts. -/
def Valid (c : ClockTime) : Prop :=
  (1 ≤ c.year ∧ c.year ≤ 9999) ∧ (1 ≤ c.month ∧ c.month ≤ 12)
    ∧ (1 ≤ c.day ∧ c.day ≤ daysInMonth c.year c.month)
    ∧ c.hour < 24 ∧ c.minute < 60 ∧ c.second < 60

instance : DecidablePred Valid := fun c => by unfold Valid; infer_instance

def nextDay (c : ClockTime) : Option ClockTime :=
  if c.day < daysInMonth c.year c.month then some { c with day := c.day + 1 }
  else if c.month < 12 then some { c with month := c.month + 1, day := 1 }
  else if c.year < 9999 then some { c with year := c.year + 1, month := 1, day := 1 }
  else none

def previousDay (c : ClockTime) : Option ClockTime :=
  if 1 < c.day then some { c with day := c.day - 1 }
  else if 1 < c.month then
    some { c with month := c.month - 1, day := daysInMonth c.year (c.month - 1) }
  else if 1 < c.year then some { c with year := c.year - 1, month := 12, day := 31 }
  else none

def atMinute (c : ClockTime) (minutes : ℤ) : ClockTime :=
  { c with hour := minutes.toNat / 60, minute := minutes.toNat % 60 }

/-- `astimezone(timezone.utc)` of a clock `offset` minutes ahead; `none` is `OverflowError`. -/
def toUtc (c : ClockTime) (offset : ℤ) : Option ClockTime :=
  let minutes : ℤ := c.hour * 60 + c.minute - offset
  if offset = 0 then some c
  else if minutes < 0 then c.previousDay.map (·.atMinute (minutes + 1440))
  else if minutes < 1440 then some (c.atMinute minutes)
  else c.nextDay.map (·.atMinute (minutes - 1440))

example : toUtc ⟨2024, 3, 1, 0, 30, 0⟩ 540 = some ⟨2024, 2, 29, 15, 30, 0⟩ := by decide

end ClockTime

/-! ## Texts -/

def digitText (d : ℕ) : Char := Char.ofNat ('0'.toNat + d % 10)

def readDigit (c : Char) : Option ℕ := if c.isDigit then some (c.toNat - '0'.toNat) else none

def twoDigits (n : ℕ) : List Char := [digitText (n / 10), digitText n]

def readTwo (a b : Char) : Option ℕ := do
  let tens ← readDigit a
  let ones ← readDigit b
  return 10 * tens + ones

/-- `YYYY-MM-DDTHH:MM:SS`. -/
def ClockTime.chars (c : ClockTime) : List Char :=
  twoDigits (c.year / 100) ++ twoDigits c.year ++ '-' :: twoDigits c.month ++ '-' :: twoDigits c.day
    ++ 'T' :: twoDigits c.hour ++ ':' :: twoDigits c.minute ++ ':' :: twoDigits c.second

/-- How a candle time names its zone. -/
inductive Zone where
  | none
  | z
  | offset (ahead : Bool) (hours minutes : ℕ)
  deriving DecidableEq

namespace Zone

def chars : Zone → List Char
  | .none => []
  | .z => ['Z']
  | .offset ahead hours minutes =>
    (if ahead then '+' else '-') :: twoDigits hours ++ ':' :: twoDigits minutes

/-- Minutes ahead of UTC; a time without a zone is one of UTC. -/
def minutesAhead : Zone → ℤ
  | .none | .z => 0
  | .offset ahead hours minutes =>
    (if ahead then 1 else -1) * (60 * (hours : ℤ) + (minutes : ℤ))

def Valid : Zone → Prop
  | .none | .z => True
  | .offset _ hours minutes => hours < 24 ∧ minutes < 60

instance : DecidablePred Valid
  | .none | .z => isTrue trivial
  | .offset _ hours minutes => inferInstanceAs (Decidable (hours < 24 ∧ minutes < 60))

end Zone

/-- A candle time as it is written. -/
structure CandleTime where
  clock : ClockTime
  zone : Zone
  clock_valid : clock.Valid
  zone_valid : zone.Valid

namespace CandleTime

def text (c : CandleTime) : String := String.ofList (c.clock.chars ++ c.zone.chars)

/-- The time it denotes, if `datetime` can represent it in UTC. -/
def utc (c : CandleTime) : Option ClockTime := c.clock.toUtc c.zone.minutesAhead

end CandleTime

/-! ## `_parse_utc`, `_format_utc` and `_canonical_utc` -/

/-- `datetime.fromisoformat`, of a text with an offset; `none` is `ValueError`. -/
def fromIsoFormat : List Char → Option (ClockTime × ℤ)
  | [y₁, y₂, y₃, y₄, '-', mo₁, mo₂, '-', d₁, d₂, 'T', h₁, h₂, ':', mi₁, mi₂, ':', s₁, s₂,
      sign, oh₁, oh₂, ':', om₁, om₂] => do
      let clock : ClockTime :=
        { year := 100 * (← readTwo y₁ y₂) + (← readTwo y₃ y₄)
          month := ← readTwo mo₁ mo₂
          day := ← readTwo d₁ d₂
          hour := ← readTwo h₁ h₂
          minute := ← readTwo mi₁ mi₂
          second := ← readTwo s₁ s₂ }
      let minutes : ℤ := 60 * ((← readTwo oh₁ oh₂ : ℕ) : ℤ) + ((← readTwo om₁ om₂ : ℕ) : ℤ)
      if clock.Valid ∧ minutes < 1440 ∧ (sign = '+' ∨ sign = '-') then
        some (clock, if sign = '+' then minutes else -minutes)
      else none
  | _ => none

/-- The text that `_parse_utc` hands to `fromisoformat`. -/
def normalizedUtc (value : List Char) : List Char :=
  let normalized := value.map (fun c => if c = ' ' then 'T' else c)
  let normalized :=
    if normalized.getLast? = some 'Z' then normalized.dropLast ++ "+00:00".toList else normalized
  let lastSix := normalized.drop (normalized.length - 6)
  if '+' ∉ lastSix ∧ '-' ∉ lastSix then normalized ++ "+00:00".toList else normalized

/-- `_parse_utc` of a text: `some none` is its `None`, and `none` the `OverflowError` that it lets
through. -/
def parseUtc (value : String) : Option (Option ClockTime) :=
  if value = "" then some none
  else
    match fromIsoFormat (normalizedUtc value.toList) with
    | none => some none
    | some (clock, offset) => (clock.toUtc offset).map some

def formatUtc (c : ClockTime) : String := String.ofList (c.chars ++ ['Z'])

/-- `_canonical_utc`; `none` is an exception. -/
def canonicalUtc (value default : Option String) : Option (Option String) :=
  if toText value = "" then some default
  else
    match parseUtc (toText value) with
    | none => none
    | some none => some value
    | some (some clock) => some (some (formatUtc clock))

/-! ## Spellings -/

section Spellings

theorem digitText_eq (d : ℕ) : digitText d = digitText (d % 10) := by
  unfold digitText
  rw [Nat.mod_mod]

theorem readDigit_digitText (d : ℕ) : readDigit (digitText d) = some (d % 10) := by
  have hall : ∀ e ∈ List.range 10, readDigit (digitText e) = some e := by decide
  rw [digitText_eq]
  exact hall (d % 10) (List.mem_range.mpr (Nat.mod_lt d (by decide)))

theorem digitText_ne {c : Char} (hc : c.isDigit = false) (d : ℕ) : digitText d ≠ c := by
  have hall : ∀ e ∈ List.range 10, (digitText e).isDigit = true := by decide
  have hdigit : (digitText d).isDigit = true := by
    rw [digitText_eq]
    exact hall (d % 10) (List.mem_range.mpr (Nat.mod_lt d (by decide)))
  intro heq
  rw [heq, hc] at hdigit
  cases hdigit

theorem readTwo_digitText (n : ℕ) :
    readTwo (digitText (n / 10)) (digitText n) = some (n % 100) := by
  unfold readTwo
  rw [readDigit_digitText, readDigit_digitText]
  show some (10 * (n / 10 % 10) + n % 10) = some (n % 100)
  rw [Option.some.injEq]
  omega

theorem readTwo_of_lt {n : ℕ} (hn : n < 100) :
    readTwo (digitText (n / 10)) (digitText n) = some n := by
  rw [readTwo_digitText, Nat.mod_eq_of_lt hn]

variable (c : CandleTime)

/-- The offset that `_parse_utc` reads. -/
def Zone.readChars : Zone → List Char
  | .none | .z => "+00:00".toList
  | .offset ahead hours minutes => (Zone.offset ahead hours minutes).chars

theorem Zone.readChars_none : Zone.none.readChars = "+00:00".toList := rfl

theorem Zone.readChars_z : Zone.z.readChars = "+00:00".toList := rfl

theorem Zone.readChars_offset (ahead : Bool) (hours minutes : ℕ) :
    (Zone.offset ahead hours minutes).readChars = (Zone.offset ahead hours minutes).chars := rfl

theorem normalizedUtc_chars (clock : ClockTime) (zone : Zone) :
    normalizedUtc (clock.chars ++ zone.chars) = clock.chars ++ zone.readChars := by
  have hspace : ∀ d, digitText d ≠ ' ' := digitText_ne (by decide)
  have hz : ∀ d, digitText d ≠ 'Z' := digitText_ne (by decide)
  have hplus : ∀ d, '+' ≠ digitText d := fun d => (digitText_ne (by decide) d).symm
  have hminus : ∀ d, '-' ≠ digitText d := fun d => (digitText_ne (by decide) d).symm
  cases zone with
  | none =>
    simp [normalizedUtc, ClockTime.chars, Zone.chars, Zone.readChars_none, twoDigits, hspace, hz,
      hplus, hminus]
  | z =>
    simp [normalizedUtc, ClockTime.chars, Zone.chars, Zone.readChars_z, twoDigits, hspace]
  | offset ahead hours minutes =>
    rw [Zone.readChars_offset]
    cases ahead with
    | true => simp [normalizedUtc, ClockTime.chars, Zone.chars, twoDigits, hspace, hz]
    | false => simp [normalizedUtc, ClockTime.chars, Zone.chars, twoDigits, hspace, hz]

theorem ClockTime.Valid.bounds {clock : ClockTime} (h : clock.Valid) :
    clock.year < 10000 ∧ clock.month < 100 ∧ clock.day < 100 ∧ clock.hour < 100
      ∧ clock.minute < 100 ∧ clock.second < 100 := by
  obtain ⟨⟨-, hyear⟩, ⟨-, hmonth⟩, ⟨-, hday⟩, hhour, hminute, hsecond⟩ := h
  have hdays : ClockTime.daysInMonth clock.year clock.month ≤ 31 := by
    unfold ClockTime.daysInMonth
    split_ifs <;> omega
  omega

theorem fromIsoFormat_chars {clock : ClockTime} (hclock : clock.Valid) {sign : Char}
    {hours minutes : ℕ} (hhours : hours < 24) (hminutes : minutes < 60)
    (hsign : sign = '+' ∨ sign = '-') :
    fromIsoFormat (clock.chars ++ sign :: twoDigits hours ++ ':' :: twoDigits minutes)
      = some (clock, if sign = '+' then 60 * (hours : ℤ) + (minutes : ℤ)
          else -(60 * (hours : ℤ) + (minutes : ℤ))) := by
  obtain ⟨hyear, hmonth, hday, hhour, hminute, hsecond⟩ := hclock.bounds
  have hcentury : readTwo (digitText (clock.year / 100 / 10)) (digitText (clock.year / 100))
      = some (clock.year / 100) := readTwo_of_lt (by omega)
  have hread : 100 * (clock.year / 100) + clock.year % 100 = clock.year := Nat.div_add_mod _ _
  have hoffset : 60 * (hours : ℤ) + (minutes : ℤ) < 1440 := by omega
  simp only [ClockTime.chars, twoDigits, List.cons_append, List.nil_append, fromIsoFormat,
    hcentury, readTwo_digitText clock.year, readTwo_of_lt hmonth, readTwo_of_lt hday,
    readTwo_of_lt hhour, readTwo_of_lt hminute, readTwo_of_lt hsecond,
    readTwo_of_lt (show hours < 100 by omega), readTwo_of_lt (show minutes < 100 by omega), hread,
    Option.bind_eq_bind, Option.bind_some]
  exact if_pos ⟨hclock, hoffset, hsign⟩

/-- **A candle time is read as the time it denotes**, however it is spelled. -/
theorem parseUtc_text : parseUtc c.text = c.utc.map some := by
  obtain ⟨clock, zone, hclock, hzone⟩ := c
  have hne : CandleTime.text ⟨clock, zone, hclock, hzone⟩ ≠ "" := by
    intro hempty
    have hchars := congrArg String.toList hempty
    rw [CandleTime.text, String.toList_ofList] at hchars
    simp [ClockTime.chars, twoDigits] at hchars
  have hzero : "+00:00".toList = '+' :: twoDigits 0 ++ ':' :: twoDigits 0 := by decide
  have hutc : fromIsoFormat (clock.chars ++ "+00:00".toList) = some (clock, 0) := by
    rw [hzero]
    exact @fromIsoFormat_chars clock hclock '+' 0 0 (by decide) (by decide) (.inl rfl)
  have hread : fromIsoFormat (clock.chars ++ zone.readChars) = some (clock, zone.minutesAhead) := by
    cases zone with
    | none => exact hutc
    | z => exact hutc
    | offset ahead hours minutes =>
      rw [Zone.readChars_offset]
      cases ahead with
      | true =>
        have hoffset := @fromIsoFormat_chars clock hclock '+' hours minutes hzone.1 hzone.2
          (.inl rfl)
        simpa [Zone.minutesAhead, Zone.chars] using hoffset
      | false =>
        have hoffset := @fromIsoFormat_chars clock hclock '-' hours minutes hzone.1 hzone.2
          (.inr rfl)
        simpa [Zone.minutesAhead, Zone.chars] using hoffset
  unfold parseUtc
  rw [if_neg hne]
  unfold CandleTime.text CandleTime.utc
  dsimp only
  rw [String.toList_ofList, normalizedUtc_chars, hread]

theorem canonicalUtc_text (default : Option String) :
    canonicalUtc (some c.text) default = c.utc.map (fun clock => some (formatUtc clock)) := by
  have hne : c.text ≠ "" := by
    intro hempty
    have hread := parseUtc_text c
    rw [hempty] at hread
    cases hutc : c.utc <;> simp [hutc, parseUtc] at hread
  unfold canonicalUtc
  rw [toText_some, if_neg hne, parseUtc_text]
  cases c.utc <;> rfl

/-- **Only the `Z` spelling is canonical.** -/
theorem formatUtc_eq_text_iff {clock : ClockTime} (hutc : c.utc = some clock) :
    formatUtc clock = c.text ↔ c.zone = .z := by
  obtain ⟨reading, zone, hclock, hzone⟩ := c
  have hz : ∀ d, digitText d ≠ 'Z' := digitText_ne (by decide)
  constructor
  · intro heq
    have hlast := congrArg (fun s => s.toList.getLast?) heq
    unfold formatUtc CandleTime.text at hlast
    simp only [String.toList_ofList] at hlast
    cases zone with
    | z => rfl
    | none => simp [ClockTime.chars, Zone.chars, twoDigits, (hz _).symm] at hlast
    | offset ahead hours minutes =>
      simp [ClockTime.chars, Zone.chars, twoDigits, (hz _).symm] at hlast
  · rintro rfl
    have hsame : reading = clock := by
      unfold CandleTime.utc ClockTime.toUtc at hutc
      simpa [Zone.minutesAhead] using hutc
    rw [← hsame]
    rfl

end Spellings

/-! ## Canonical texts -/

section Canonical

theorem one_le_daysInMonth (year month : ℕ) : 1 ≤ ClockTime.daysInMonth year month := by
  unfold ClockTime.daysInMonth
  split_ifs <;> omega

variable {clock later : ClockTime}

theorem ClockTime.Valid.nextDay (h : clock.Valid) (hnext : clock.nextDay = some later) :
    later.Valid := by
  obtain ⟨⟨hfirst, hyear⟩, ⟨hjanuary, hmonth⟩, ⟨hone, hday⟩, htime⟩ := h
  unfold ClockTime.nextDay at hnext
  split_ifs at hnext with hsame hsameYear hmore
  · cases hnext
    exact ⟨⟨hfirst, hyear⟩, ⟨hjanuary, hmonth⟩, ⟨Nat.le_add_left 1 _, hsame⟩, htime⟩
  · cases hnext
    exact ⟨⟨hfirst, hyear⟩, ⟨Nat.le_add_left 1 _, hsameYear⟩,
      ⟨Nat.le_refl 1, one_le_daysInMonth _ _⟩, htime⟩
  · cases hnext
    exact ⟨⟨Nat.le_add_left 1 _, hmore⟩, ⟨Nat.le_refl 1, show 1 ≤ 12 by decide⟩,
      ⟨Nat.le_refl 1, one_le_daysInMonth _ _⟩, htime⟩

theorem ClockTime.Valid.previousDay (h : clock.Valid) (hnext : clock.previousDay = some later) :
    later.Valid := by
  obtain ⟨⟨hfirst, hyear⟩, ⟨hjanuary, hmonth⟩, ⟨hone, hday⟩, htime⟩ := h
  unfold ClockTime.previousDay at hnext
  split_ifs at hnext with hsame hsameYear hmore
  · cases hnext
    exact ⟨⟨hfirst, hyear⟩, ⟨hjanuary, hmonth⟩, ⟨Nat.le_sub_one_of_lt hsame,
      (Nat.sub_le _ _).trans hday⟩, htime⟩
  · cases hnext
    exact ⟨⟨hfirst, hyear⟩, ⟨Nat.le_sub_one_of_lt hsameYear, (Nat.sub_le _ _).trans hmonth⟩,
      ⟨one_le_daysInMonth _ _, Nat.le_refl _⟩, htime⟩
  · cases hnext
    exact ⟨⟨Nat.le_sub_one_of_lt hmore, (Nat.sub_le _ _).trans hyear⟩,
      ⟨show 1 ≤ 12 by decide, Nat.le_refl 12⟩, ⟨show 1 ≤ 31 by decide, Nat.le_refl 31⟩, htime⟩

theorem ClockTime.Valid.atMinute (h : clock.Valid) {minutes : ℤ} (hminutes : minutes < 1440) :
    (clock.atMinute minutes).Valid := by
  obtain ⟨hyear, hmonth, hday, hhour, hminute, hsecond⟩ := h
  refine ⟨hyear, hmonth, hday, ?_, ?_, hsecond⟩
  · show minutes.toNat / 60 < 24
    omega
  · exact Nat.mod_lt _ (by decide)

theorem ClockTime.Valid.toUtc (h : clock.Valid) {offset : ℤ} (hoffset : -1440 < offset)
    (hutc : clock.toUtc offset = some later) : later.Valid := by
  have hhour := h.2.2.2.1
  have hminute := h.2.2.2.2.1
  unfold ClockTime.toUtc at hutc
  dsimp only at hutc
  split_ifs at hutc with hzero hbefore hsame
  · cases hutc
    exact h
  · obtain ⟨day, hday, rfl⟩ := Option.map_eq_some_iff.mp hutc
    exact (h.previousDay hday).atMinute (by omega)
  · cases hutc
    exact h.atMinute hsame
  · obtain ⟨day, hday, rfl⟩ := Option.map_eq_some_iff.mp hutc
    exact (h.nextDay hday).atMinute (by omega)

theorem fromIsoFormat_valid {text : List Char} {offset : ℤ}
    (h : fromIsoFormat text = some (clock, offset)) : clock.Valid ∧ -1440 < offset := by
  unfold fromIsoFormat at h
  split at h
  · -- the seven figures of a clock, then the two of an offset
    iterate 7 obtain ⟨_, -, h⟩ := Option.bind_eq_some_iff.mp h
    obtain ⟨hours, -, h⟩ := Option.bind_eq_some_iff.mp h
    obtain ⟨minutes, -, h⟩ := Option.bind_eq_some_iff.mp h
    dsimp only at h
    split_ifs at h with hvalid hahead
    · cases h
      exact ⟨hvalid.1, by omega⟩
    · cases h
      exact ⟨hvalid.1, by omega⟩
  · cases h

theorem parseUtc_valid {value : String} (h : parseUtc value = some (some clock)) :
    clock.Valid := by
  unfold parseUtc at h
  split_ifs at h
  · cases h
  · cases hread : fromIsoFormat (normalizedUtc value.toList) with
    | none => rw [hread] at h; cases h
    | some reading =>
      obtain ⟨reading, offset⟩ := reading
      rw [hread] at h
      obtain ⟨later, hlater, heq⟩ := Option.map_eq_some_iff.mp h
      obtain ⟨hvalid, hoffset⟩ := fromIsoFormat_valid hread
      cases heq
      exact hvalid.toUtc hoffset hlater

theorem canonicalUtc_formatUtc (h : clock.Valid) (default : Option String) :
    canonicalUtc (some (formatUtc clock)) default = some (some (formatUtc clock)) :=
  canonicalUtc_text ⟨clock, .z, h, trivial⟩ default

theorem canonicalUtc_of_ne {value : Option String} (h : toText value ≠ "")
    (default default' : Option String) :
    canonicalUtc value default = canonicalUtc value default' := by
  unfold canonicalUtc
  rw [if_neg h, if_neg h]

/-- **A canonical text stays as it is.** -/
theorem canonicalUtc_canonicalUtc {value stored : Option String}
    (h : canonicalUtc value value = some stored) : canonicalUtc stored stored = some stored := by
  unfold canonicalUtc at h
  split_ifs at h with hempty
  · cases h
    exact if_pos hempty
  · cases hparse : parseUtc (toText value) with
    | none => rw [hparse] at h; cases h
    | some reading =>
      rw [hparse] at h
      cases reading with
      | none =>
        cases h
        unfold canonicalUtc
        rw [if_neg hempty, hparse]
      | some clock =>
        cases h
        exact canonicalUtc_formatUtc (parseUtc_valid hparse) _

theorem canonicalUtc_ne {value default stored : Option String} (hvalue : toText value ≠ "")
    (h : canonicalUtc value default = some stored) : toText stored ≠ "" := by
  unfold canonicalUtc at h
  rw [if_neg hvalue] at h
  cases hparse : parseUtc (toText value) with
  | none => rw [hparse] at h; cases h
  | some reading =>
    rw [hparse] at h
    cases reading with
    | none =>
      cases h
      exact hvalue
    | some clock =>
      cases h
      intro hempty
      have hchars := congrArg String.toList hempty
      rw [toText_some, formatUtc, String.toList_ofList] at hchars
      exact List.append_ne_nil_of_right_ne_nil _ (List.cons_ne_nil _ _) hchars

end Canonical

end AutoCoinBot
