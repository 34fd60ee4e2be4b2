/-
  Strategies.Indicators — the columns of app/strategies.py and
  app/profit_strategies.py.

  A column has a number in each row, or none. Numbers are exact; a division by zero gives what
  floats give. Every comparison with a number that is missing is false.
-/
import AutoCoinBot.Backtest.RunBacktest
import AutoCoinBot.Library.Columns

namespace AutoCoinBot

open Library

/-! ## Numbers -/

/-- A float, with exact finite values; `pd.NA` is a `nan`, too. -/
inductive Number where
  | nan
  | inf (positive : Bool)
  | num (q : ℚ)
  deriving DecidableEq

namespace Number

def neg : Number → Number
  | nan => nan
  | inf p => inf (!p)
  | num q => num (-q)

def add : Number → Number → Number
  | num a, num b => num (a + b)
  | inf p, inf q => if p = q then inf p else nan
  | inf p, num _ => inf p
  | num _, inf p => inf p
  | _, _ => nan

def sub (a b : Number) : Number := a.add b.neg

def mul : Number → Number → Number
  | num a, num b => num (a * b)
  | inf p, inf q => inf (p == q)
  | inf p, num b => if b = 0 then nan else inf (p == decide (0 < b))
  | num a, inf q => if a = 0 then nan else inf (decide (0 < a) == q)
  | _, _ => nan

def div : Number → Number → Number
  | num a, num b =>
    if b = 0 then (if a = 0 then nan else inf (decide (0 < a))) else num (a / b)
  | inf p, num b => inf (p == decide (0 ≤ b))
  | num _, inf _ => num 0
  | _, _ => nan

instance : Neg Number := ⟨neg⟩
instance : Add Number := ⟨add⟩
instance : Sub Number := ⟨sub⟩
instance : Mul Number := ⟨mul⟩
instance : Div Number := ⟨div⟩

/-- `a <= b` -/
def le : Number → Number → Bool
  | nan, _ => false
  | _, nan => false
  | inf false, _ => true
  | _, inf true => true
  | inf true, _ => false
  | _, inf false => false
  | num a, num b => decide (a ≤ b)

def isNan : Number → Bool
  | nan => true
  | _ => false

/-- `a < b` -/
def lt (a b : Number) : Bool := !a.isNan && !b.isNan && !b.le a

/-- `a.clip(lower=0)` -/
def clipLower (a : Number) : Number := if a.lt (num 0) then num 0 else a

/-- `a.clip(upper=0)` -/
def clipUpper (a : Number) : Number := if (num 0).lt a then num 0 else a

/-- `a.replace(0, pd.NA)` -/
def replaceZero (a : Number) : Number := if a = num 0 then nan else a

def abs (a : Number) : Number := if a.lt (num 0) then -a else a

/-- The numbers of a window, unless one of them is missing. -/
def finite : List Number → Option (List ℚ)
  | [] => some []
  | num q :: xs => (finite xs).map (q :: ·)
  | _ :: _ => none

end Number

/-! ## Columns -/

/-- A row of `candles_to_frame`. -/
structure Candle where
  time : UtcTime
  openPrice : ℚ
  high : ℚ
  low : ℚ
  close : ℚ
  volume : ℚ
  deriving DecidableEq

/-- A column of numbers. -/
abbrev Series := List Number

def column (f : Candle → ℚ) (df : List Candle) : Series := df.map (fun c => .num (f c))

/-- `xs.shift(k)` -/
def shifted (k : ℕ) (xs : Series) : Series := shift k .nan xs

/-- `xs.diff()` -/
def diff (xs : Series) : Series := List.zipWith (· - ·) xs (shifted 1 xs)

def onWindow (f : List ℚ → Number) (window : List Number) : Number :=
  (Number.finite window).elim .nan f

def mean (qs : List ℚ) : ℚ := qs.sum / qs.length

/-- `xs.rolling(w).mean()` -/
def rollingMean (w : ℕ) : Series → Series := rolling w .nan (onWindow (fun qs => .num (mean qs)))

/-- `xs.rolling(w).max()` -/
def rollingMax (w : ℕ) : Series → Series :=
  rolling w .nan (onWindow (fun qs => qs.max?.elim .nan .num))

/-- `xs.rolling(w).min()` -/
def rollingMin (w : ℕ) : Series → Series :=
  rolling w .nan (onWindow (fun qs => qs.min?.elim .nan .num))

/-- `xs.pct_change(k)`; nothing is missing between the numbers it is taken of. -/
def pctChange (k : ℕ) (xs : Series) : Series :=
  List.zipWith (fun a b => a / b - .num 1) xs (shifted k xs)

/-- `100 - (100 / (1 + rs))` of the gains and losses in windows of `period`. -/
def relativeStrengthIndex (period : ℕ) (close : Series) : Series :=
  let delta := diff close
  let gain := rollingMean period (delta.map Number.clipLower)
  let loss := rollingMean period (delta.map (fun d => -d.clipUpper))
  List.zipWith (fun g l => .num 100 - .num 100 / (.num 1 + g / l.replaceZero)) gain loss

/-! ## The lower band -/

/-- `ma20 - std20 * 2`, by its mean and its variance. -/
structure Band where
  mean : ℚ
  variance : ℚ

/-- The variance of `std()`. -/
def sampleVariance (qs : List ℚ) : ℚ :=
  (qs.map (fun q => (q - mean qs) ^ 2)).sum / (qs.length - 1)

def lowerBand (w : ℕ) : Series → List (Option Band) :=
  rolling w none (fun window =>
    (Number.finite window).map (fun qs => ⟨AutoCoinBot.mean qs, sampleVariance qs⟩))

/-- `close < lower_band` -/
def Band.below (band : Band) (close : ℚ) : Bool :=
  decide (close < band.mean) && decide (4 * band.variance < (band.mean - close) ^ 2)

/-- `close < lower_band`, where both are there. -/
def belowBand : Number → Option Band → Bool
  | .num close, some band => band.below close
  | _, _ => false

/-- `close >= lower_band`, where both are there. -/
def notBelowBand : Number → Option Band → Bool
  | .num close, some band => !band.below close
  | _, _ => false

/-! ## How far columns look back -/

section LooksBack

variable {α : Type*} {m : ℕ} {op : List α → Series}

theorem looksBack_column (f : Candle → ℚ) : LooksBack 0 (column f) := looksBack_id.map _

theorem looksBack_shifted (h : LooksBack m op) (k : ℕ) :
    LooksBack (m + k) (fun xs => shifted k (op xs)) :=
  (looksBack_shift k Number.nan).comp h

theorem looksBack_diff (h : LooksBack m op) : LooksBack (m + 1) (fun xs => diff (op xs)) :=
  (h.mono (Nat.le_succ m)).zipWith (looksBack_shifted h 1) _

theorem looksBack_rollingMean (h : LooksBack m op) (w : ℕ) :
    LooksBack (m + (w - 1)) (fun xs => rollingMean w (op xs)) :=
  (looksBack_rolling w _ _).comp h

theorem looksBack_pctChange (h : LooksBack m op) (k : ℕ) :
    LooksBack (m + k) (fun xs => pctChange k (op xs)) :=
  (h.mono (Nat.le_add_right m k)).zipWith (looksBack_shifted h k) _

/-- **The index looks back over its period**, and one row more for the first change. -/
theorem looksBack_relativeStrengthIndex (h : LooksBack m op) (period : ℕ) :
    LooksBack (m + 1 + (period - 1)) (fun xs => relativeStrengthIndex period (op xs)) := by
  have hdelta : LooksBack (m + 1) (fun xs => diff (op xs)) := looksBack_diff h
  exact (looksBack_rollingMean (hdelta.map _) period).zipWith
    (looksBack_rollingMean (hdelta.map _) period) _

end LooksBack

end AutoCoinBot
