/-
  Library.Base64 — the urlsafe base64 text of bytes, and how it is read back.

  Three bytes are written as four digits, and what is left at the end is filled up with `=`. The
  reader takes digits of both alphabets, passes over every other character, and stops at the
  padding of a group that is under way; a group without it, or with one digit alone, is refused.
-/
import Mathlib

namespace AutoCoinBot.Library.Base64

/-! ## Digits -/

/-- The digit of a value below 64. -/
def digit (n : ℕ) : Char :=
  if n < 26 then Char.ofNat (n + 65)
  else if n < 52 then Char.ofNat (n + 71)
  else if n < 62 then Char.ofNat (n - 4)
  else if n = 62 then '-' else '_'

/-- The value of a digit, `+` and `/` with the urlsafe ones. -/
def value? (c : Char) : Option ℕ :=
  let n := c.toNat
  if 65 ≤ n ∧ n ≤ 90 then some (n - 65)
  else if 97 ≤ n ∧ n ≤ 122 then some (n - 71)
  else if 48 ≤ n ∧ n ≤ 57 then some (n + 4)
  else if c = '-' ∨ c = '+' then some 62
  else if c = '_' ∨ c = '/' then some 63
  else none

theorem value?_digit : ∀ n < 64, value? (digit n) = some n := by decide

/-- A digit is none of the marks. -/
theorem digit_ne : ∀ n < 64, digit n ≠ '=' ∧ digit n ≠ '.' ∧ (digit n).toNat < 128 := by decide

/-! ## Writing and reading -/

/-- `base64.urlsafe_b64encode` -/
def encode : List UInt8 → List Char
  | a :: b :: c :: rest =>
    digit (a.toNat / 4) :: digit (a.toNat % 4 * 16 + b.toNat / 16)
      :: digit (b.toNat % 16 * 4 + c.toNat / 64) :: digit (c.toNat % 64) :: encode rest
  | [a, b] =>
    [digit (a.toNat / 4), digit (a.toNat % 4 * 16 + b.toNat / 16), digit (b.toNat % 16 * 4), '=']
  | [a] => [digit (a.toNat / 4), digit (a.toNat % 4 * 16), '=', '=']
  | [] => []

/-- The reader after `quad` digits of a group, which left these bits, and `pads` marks. -/
def decodeFrom (quad left pads : ℕ) : List Char → Option (List UInt8)
  | [] => if quad = 0 then some [] else none
  | c :: cs =>
    if c = '=' then
      if 2 ≤ quad then
        if 4 ≤ quad + (pads + 1) then some [] else decodeFrom quad left (pads + 1) cs
      else decodeFrom quad left pads cs
    else
      match value? c with
      | none => decodeFrom quad left pads cs
      | some v =>
        match quad with
        | 0 => decodeFrom 1 v 0 cs
        | 1 => (decodeFrom 2 (v % 16) 0 cs).map (UInt8.ofNat (left * 4 + v / 16) :: ·)
        | 2 => (decodeFrom 3 (v % 4) 0 cs).map (UInt8.ofNat (left * 16 + v / 4) :: ·)
        | _ => (decodeFrom 0 0 0 cs).map (UInt8.ofNat (left * 64 + v) :: ·)

/-- `base64.urlsafe_b64decode`; where it raises `binascii.Error`, there is nothing. -/
def decode (cs : List Char) : Option (List UInt8) := decodeFrom 0 0 0 cs

/-! ## The round trip -/

section Reading

variable {n : ℕ} (left pads : ℕ) (cs : List Char)

theorem decodeFrom_first (hn : n < 64) :
    decodeFrom 0 left pads (digit n :: cs) = decodeFrom 1 n 0 cs := by
  rw [decodeFrom, if_neg (digit_ne n hn).1, value?_digit n hn]
  rfl

theorem decodeFrom_second (hn : n < 64) :
    decodeFrom 1 left pads (digit n :: cs)
      = (decodeFrom 2 (n % 16) 0 cs).map (UInt8.ofNat (left * 4 + n / 16) :: ·) := by
  rw [decodeFrom, if_neg (digit_ne n hn).1, value?_digit n hn]
  rfl

theorem decodeFrom_third (hn : n < 64) :
    decodeFrom 2 left pads (digit n :: cs)
      = (decodeFrom 3 (n % 4) 0 cs).map (UInt8.ofNat (left * 16 + n / 4) :: ·) := by
  rw [decodeFrom, if_neg (digit_ne n hn).1, value?_digit n hn]
  rfl

theorem decodeFrom_fourth (hn : n < 64) :
    decodeFrom 3 left pads (digit n :: cs)
      = (decodeFrom 0 0 0 cs).map (UInt8.ofNat (left * 64 + n) :: ·) := by
  rw [decodeFrom, if_neg (digit_ne n hn).1, value?_digit n hn]
  rfl

end Reading

/-- A byte, from its bits. -/
theorem ofNat_eq {n : ℕ} {a : UInt8} (h : n = a.toNat) : UInt8.ofNat n = a := by
  rw [h]
  exact UInt8.ofNat_toNat

/-- **What was written is read back.** -/
theorem decode_encode (bytes : List UInt8) : decode (encode bytes) = some bytes := by
  unfold decode
  induction bytes using encode.induct with
  | case1 a b c rest ih =>
    have ha := a.toNat_lt
    have hb := b.toNat_lt
    have hc := c.toNat_lt
    rw [encode, decodeFrom_first _ _ _ (by omega), decodeFrom_second _ _ _ (by omega),
      decodeFrom_third _ _ _ (by omega), decodeFrom_fourth _ _ _ (by omega), ih,
      ofNat_eq (a := a) (by omega), ofNat_eq (a := b) (by omega), ofNat_eq (a := c) (by omega)]
    rfl
  | case2 a b =>
    have ha := a.toNat_lt
    have hb := b.toNat_lt
    have hend : ∀ left, decodeFrom 3 left 0 ['='] = some [] := fun left => rfl
    rw [encode, decodeFrom_first _ _ _ (by omega), decodeFrom_second _ _ _ (by omega),
      decodeFrom_third _ _ _ (by omega), hend, ofNat_eq (a := a) (by omega),
      ofNat_eq (a := b) (by omega)]
    rfl
  | case3 a =>
    have ha := a.toNat_lt
    have hend : ∀ left, decodeFrom 2 left 0 ['=', '='] = some [] := fun left => rfl
    rw [encode, decodeFrom_first _ _ _ (by omega), decodeFrom_second _ _ _ (by omega), hend,
      ofNat_eq (a := a) (by omega)]
    rfl
  | case4 => rfl

/-! ## The padding -/

/-- **A text is its digits and its padding**, up to whole groups. -/
theorem encode_eq_append (bytes : List UInt8) :
    ∃ (digits : List Char) (k : ℕ), encode bytes = digits ++ List.replicate k '='
      ∧ (∀ c ∈ digits, c ≠ '=' ∧ c ≠ '.' ∧ c.toNat < 128)
      ∧ k = (4 - digits.length % 4) % 4 := by
  induction bytes using encode.induct with
  | case1 a b c rest ih =>
    obtain ⟨digits, k, heq, hdigits, hk⟩ := ih
    have ha := a.toNat_lt
    have hb := b.toNat_lt
    have hc := c.toNat_lt
    refine ⟨digit (a.toNat / 4) :: digit (a.toNat % 4 * 16 + b.toNat / 16)
      :: digit (b.toNat % 16 * 4 + c.toNat / 64) :: digit (c.toNat % 64) :: digits, k, ?_, ?_, ?_⟩
    · rw [encode, heq]
      rfl
    · simp only [List.forall_mem_cons]
      exact ⟨digit_ne _ (by omega), digit_ne _ (by omega), digit_ne _ (by omega),
        digit_ne _ (by omega), hdigits⟩
    · rw [hk]
      simp only [List.length_cons]
      omega
  | case2 a b =>
    have ha := a.toNat_lt
    have hb := b.toNat_lt
    refine ⟨[digit (a.toNat / 4), digit (a.toNat % 4 * 16 + b.toNat / 16),
      digit (b.toNat % 16 * 4)], 1, rfl, ?_, rfl⟩
    simp only [List.forall_mem_cons]
    exact ⟨digit_ne _ (by omega), digit_ne _ (by omega), digit_ne _ (by omega),
      fun _ h => absurd h List.not_mem_nil⟩
  | case3 a =>
    have ha := a.toNat_lt
    refine ⟨[digit (a.toNat / 4), digit (a.toNat % 4 * 16)], 2, rfl, ?_, rfl⟩
    simp only [List.forall_mem_cons]
    exact ⟨digit_ne _ (by omega), digit_ne _ (by omega), fun _ h => absurd h List.not_mem_nil⟩
  | case4 => exact ⟨[], 0, rfl, fun _ h => absurd h List.not_mem_nil, rfl⟩

/-- `text.rstrip("=")` -/
def strip (cs : List Char) : List Char := (cs.reverse.dropWhile (· = '=')).reverse

/-- The padding that a text without it gets by its length. -/
def pad (cs : List Char) : List Char := cs ++ List.replicate ((4 - cs.length % 4) % 4) '='

theorem strip_append {digits : List Char} (h : ∀ c ∈ digits, c ≠ '=') (k : ℕ) :
    strip (digits ++ List.replicate k '=') = digits := by
  unfold strip
  have hpads : ∀ c ∈ List.replicate k '=', decide (c = '=') = true := by
    intro c hc
    rw [List.eq_of_mem_replicate hc]
    rfl
  rw [List.reverse_append, List.reverse_replicate, List.dropWhile_append_of_pos hpads]
  cases hlast : digits.reverse with
  | nil => rw [← List.reverse_reverse digits, hlast]; rfl
  | cons c cs =>
    have hmem : c ∈ digits := by
      rw [← List.mem_reverse, hlast]
      exact List.mem_cons_self
    rw [List.dropWhile_cons_of_neg (by simp [h c hmem]), ← hlast, List.reverse_reverse]

/-- **The padding is told by the length of the rest.** -/
theorem strip_encode (bytes : List UInt8) :
    pad (strip (encode bytes)) = encode bytes
      ∧ ∀ c ∈ strip (encode bytes), c ≠ '.' ∧ c.toNat < 128 := by
  obtain ⟨digits, k, heq, hdigits, hk⟩ := encode_eq_append bytes
  have hstrip : strip (encode bytes) = digits := by
    rw [heq]
    exact strip_append (fun c hc => (hdigits c hc).1) k
  constructor
  · rw [hstrip, heq, hk]
    rfl
  · rw [hstrip]
    exact fun c hc => (hdigits c hc).2

end AutoCoinBot.Library.Base64
