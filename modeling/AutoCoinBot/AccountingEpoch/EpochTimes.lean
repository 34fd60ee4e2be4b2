/-
  AccountingEpoch.EpochTimes — creation times and the epoch's start, compared as texts.

  `belongs_to_current_epoch` compares two texts of which only `+00:00` has been brought to `Z`.
-/
import AutoCoinBot.AccountingEpoch.OpenOrderAudit
import AutoCoinBot.Database.CandleTimes

namespace AutoCoinBot

/-! ## The order of texts -/

theorem cons_le_iff {α : Type*} [LinearOrder α] {a b : α} {xs ys : List α} :
    a :: xs ≤ b :: ys ↔ a < b ∨ a = b ∧ xs ≤ ys := by
  rw [le_iff_lt_or_eq, le_iff_lt_or_eq, List.cons_lt_cons_iff, List.cons.injEq]
  tauto

theorem digitText_lt_iff {d e : ℕ} (hd : d < 10) (he : e < 10) :
    digitText d < digitText e ↔ d < e := by
  have hall : ∀ d < 10, ∀ e < 10, digitText d < digitText e ↔ d < e := by decide
  exact hall d hd e he

theorem digitText_eq_iff {d e : ℕ} (hd : d < 10) (he : e < 10) :
    digitText d = digitText e ↔ d = e := by
  have hall : ∀ d < 10, ∀ e < 10, digitText d = digitText e ↔ d = e := by decide
  exact hall d hd e he

theorem twoDigits_le_iff {n m : ℕ} (hn : n < 100) (hm : m < 100) (xs ys : List Char) :
    twoDigits n ++ xs ≤ twoDigits m ++ ys ↔ n < m ∨ n = m ∧ xs ≤ ys := by
  show digitText (n / 10) :: digitText n :: xs ≤ digitText (m / 10) :: digitText m :: ys ↔ _
  rw [digitText_eq n, digitText_eq m, cons_le_iff, cons_le_iff,
    digitText_lt_iff (by omega) (by omega), digitText_lt_iff (by omega) (by omega),
    digitText_eq_iff (by omega) (by omega), digitText_eq_iff (by omega) (by omega)]
  have hdiv := Nat.div_add_mod n 10
  have hdiv' := Nat.div_add_mod m 10
  by_cases hxs : xs ≤ ys <;> simp only [hxs, and_true, and_false, or_false] <;> omega

theorem mark_le_iff (c : Char) (xs ys : List Char) : c :: xs ≤ c :: ys ↔ xs ≤ ys := by
  rw [cons_le_iff]
  simp

namespace ClockTime

/-- The figures of a clock, one after the other. -/
def moment (c : ClockTime) : ℕ :=
  ((((c.year * 100 + c.month) * 100 + c.day) * 100 + c.hour) * 100 + c.minute) * 100 + c.second

theorem figure_lt_or_eq {a a' b b' : ℕ} (hb : b < 100) (hb' : b' < 100) (p : Prop) :
    (a < a' ∨ a = a' ∧ (b < b' ∨ b = b' ∧ p))
      ↔ (a * 100 + b < a' * 100 + b' ∨ a * 100 + b = a' * 100 + b' ∧ p) := by
  by_cases hp : p <;> simp only [hp, and_true, and_false, or_false] <;> omega

theorem chars_le_iff {c c' : ClockTime} (h : c.Valid) (h' : c'.Valid) (xs ys : List Char) :
    c.chars ++ xs ≤ c'.chars ++ ys ↔ c.moment < c'.moment ∨ c.moment = c'.moment ∧ xs ≤ ys := by
  obtain ⟨hyear, hmonth, hday, hhour, hminute, hsecond⟩ := h.bounds
  obtain ⟨hyear', hmonth', hday', hhour', hminute', hsecond'⟩ := h'.bounds
  have hcentury : ∀ year, twoDigits year = twoDigits (year % 100) := by
    intro year
    rw [twoDigits, twoDigits, digitText_eq year, digitText_eq (year % 100),
      digitText_eq (year / 10), digitText_eq (year % 100 / 10),
      show year % 100 % 10 = year % 10 by omega, show year % 100 / 10 % 10 = year / 10 % 10 by omega]
  have hread : ∀ year, year / 100 * 100 + year % 100 = year := fun year => Nat.div_add_mod' _ _
  simp only [chars, List.append_assoc, List.cons_append, hcentury c.year, hcentury c'.year]
  rw [twoDigits_le_iff (by omega) (by omega),
    twoDigits_le_iff (Nat.mod_lt _ (by decide)) (Nat.mod_lt _ (by decide)), mark_le_iff,
    twoDigits_le_iff hmonth hmonth', mark_le_iff, twoDigits_le_iff hday hday', mark_le_iff,
    twoDigits_le_iff hhour hhour', mark_le_iff, twoDigits_le_iff hminute hminute', mark_le_iff,
    twoDigits_le_iff hsecond hsecond']
  rw [figure_lt_or_eq (Nat.mod_lt _ (by decide)) (Nat.mod_lt _ (by decide)), hread, hread,
    figure_lt_or_eq hmonth hmonth', figure_lt_or_eq hday hday', figure_lt_or_eq hhour hhour',
    figure_lt_or_eq hminute hminute', figure_lt_or_eq hsecond hsecond']
  rfl

end ClockTime

/-! ## Spelled times -/

/-- The zone, with `+00:00` brought to `Z`. -/
def Zone.canonical : Zone → Zone
  | .offset true 0 0 => .z
  | zone => zone

theorem utcOffsetToZ_cons {c : Char} (hc : c ≠ '+') (rest : List Char) :
    utcOffsetToZ (c :: rest) = c :: utcOffsetToZ rest := by
  rw [utcOffsetToZ]
  rintro rest' heq -
  exact hc heq

theorem utcOffsetToZ_append {xs : List Char} (hxs : '+' ∉ xs) (ys : List Char) :
    utcOffsetToZ (xs ++ ys) = xs ++ utcOffsetToZ ys := by
  induction xs with
  | nil => rfl
  | cons c rest ih =>
    rw [List.cons_append, utcOffsetToZ_cons (fun hc => hxs (by simp [hc])),
      ih (fun hmem => hxs (List.mem_cons_of_mem _ hmem)), List.cons_append]

theorem plus_not_mem_twoDigits (n : ℕ) : '+' ∉ twoDigits n := by
  have hne : ∀ d, '+' ≠ digitText d := fun d => (digitText_ne (by decide) d).symm
  simp [twoDigits, hne]

theorem plus_not_mem_chars (clock : ClockTime) : '+' ∉ clock.chars := by
  simp [ClockTime.chars, plus_not_mem_twoDigits]

theorem utcOffsetToZ_of_not_mem {xs : List Char} (hxs : '+' ∉ xs) : utcOffsetToZ xs = xs := by
  have happend := utcOffsetToZ_append hxs []
  rw [List.append_nil] at happend
  rw [happend]
  exact List.append_nil _

theorem mod_of_digitText_zero {d : ℕ} (h : digitText d = '0') : d % 10 = 0 := by
  rw [digitText_eq d] at h
  exact (digitText_eq_iff (Nat.mod_lt d (by decide)) (by decide : 0 < 10)).mp h

theorem utcOffsetToZ_chars {zone : Zone} (h : zone.Valid) :
    utcOffsetToZ zone.chars = zone.canonical.chars := by
  cases zone with
  | none => rfl
  | z => rfl
  | offset ahead hours minutes =>
    have htail : '+' ∉ twoDigits hours ++ ':' :: twoDigits minutes := by
      simp [plus_not_mem_twoDigits]
    cases ahead with
    | true =>
      by_cases hzero : hours = 0 ∧ minutes = 0
      · obtain ⟨rfl, rfl⟩ := hzero
        rfl
      have hcanonical : (Zone.offset true hours minutes).canonical
          = .offset true hours minutes := by
        unfold Zone.canonical
        split
        · next heq =>
            cases heq
            exact absurd ⟨rfl, rfl⟩ hzero
        · rfl
      rw [hcanonical]
      show utcOffsetToZ ('+' :: (twoDigits hours ++ ':' :: twoDigits minutes)) = _
      rw [utcOffsetToZ, utcOffsetToZ_of_not_mem htail]
      · rfl
      · -- an offset that is written in zeros is none
        intro rest _ heq
        simp only [twoDigits, List.cons_append, List.nil_append, List.cons.injEq] at heq
        obtain ⟨htens, hones, -, htens', hones', -⟩ := heq
        have hhours := mod_of_digitText_zero htens
        have hhours' := mod_of_digitText_zero hones
        have hminutes := mod_of_digitText_zero htens'
        have hminutes' := mod_of_digitText_zero hones'
        obtain ⟨hbelow, hbelow'⟩ := h
        exact hzero ⟨by omega, by omega⟩
    | false =>
      exact utcOffsetToZ_of_not_mem (by simp [Zone.chars, plus_not_mem_twoDigits])

theorem canonicalTimeText_text (c : CandleTime) :
    canonicalTimeText c.text = String.ofList (c.clock.chars ++ c.zone.canonical.chars) := by
  rw [canonicalTimeText, CandleTime.text, String.toList_ofList,
    utcOffsetToZ_append (plus_not_mem_chars c.clock), utcOffsetToZ_chars c.zone_valid]

namespace CandleTime

/-- The start's clock reads no later than the creation's; where they read the same, the name of its
zone is not behind. -/
def ReadsNoLater (start created : CandleTime) : Prop :=
  start.clock.moment < created.clock.moment
    ∨ start.clock.moment = created.clock.moment
      ∧ start.zone.canonical.chars ≤ created.zone.canonical.chars

theorem text_ne (c : CandleTime) : c.text ≠ "" := by
  intro hempty
  have hchars := congrArg String.toList hempty
  rw [CandleTime.text, String.toList_ofList] at hchars
  simp [ClockTime.chars, twoDigits] at hchars

end CandleTime

/-- **An order belongs to the epoch when its clock, as it is spelled, reads no earlier.** -/
theorem belongsToCurrentEpoch_text (start created : CandleTime) :
    belongsToCurrentEpoch (some created.text) start.text = true ↔ start.ReadsNoLater created := by
  have hgiven : textGiven (some created.text) = true := by
    simpa [textGiven, toText] using created.text_ne
  have hstart : (start.text != "") = true := by simpa using start.text_ne
  rw [belongsToCurrentEpoch, hgiven, hstart, Bool.true_and, Bool.true_and, decide_eq_true_iff]
  show canonicalTimeText start.text ≤ canonicalTimeText created.text ↔ _
  rw [canonicalTimeText_text, canonicalTimeText_text, String.le_iff_toList_le,
    String.toList_ofList, String.toList_ofList]
  exact ClockTime.chars_le_iff start.clock_valid created.clock_valid _ _

end AutoCoinBot
