/-
  Database.Values — the Python values the code computes with.

  Amounts are exact rationals: a `float` column, an environment number and a
  parsed exchange field are all `ℚ`, and a field that is missing, empty or not
  a number is `none`. Times are UTC seconds; the ISO texts of the source
  (`…T…Z`, second resolution) order the same way.
-/
import Mathlib

namespace AutoCoinBot

/-- Seconds since the epoch, UTC. -/
abbrev UtcTime := ℤ

/-! ## Numbers and texts -/

/-- `_float`: a missing or unreadable value counts as zero. -/
def toFloat (x : Option ℚ) : ℚ := x.getD 0

/-- `a or b` on numbers: zero is falsy. -/
def orNum (a b : ℚ) : ℚ := if a = 0 then b else a

/-- `str(x or "")`. -/
def toText (x : Option String) : String := x.getD ""

/-- `a or b` on texts: the empty text is falsy. -/
def orText (a b : String) : String := if a = "" then b else a

/-- `market.split("-")[-1]`: what follows the last dash. -/
def symbolOf (market : String) : String :=
  String.ofList (market.toList.foldl (fun symbol c => if c = '-' then [] else symbol ++ [c]) [])

/-- `bool(x)` of a text column. -/
def textGiven (x : Option String) : Bool := toText x != ""

/-- `bool(x)` of an id column. -/
def idGiven (x : Option ℕ) : Bool := x.getD 0 != 0

/-- `c.isspace()`. -/
def isSpace (c : Char) : Bool :=
  let n := c.toNat
  (9 ≤ n && n ≤ 13) || (28 ≤ n && n ≤ 32) || n == 0x85 || n == 0xA0 || n == 0x1680
    || (0x2000 ≤ n && n ≤ 0x200A) || n == 0x2028 || n == 0x2029 || n == 0x202F || n == 0x205F
    || n == 0x3000

/-- `not str(x or "").strip()`. -/
def blankText (x : Option String) : Bool := (toText x).toList.all isSpace

theorem idGiven_some {k : ℕ} (h : 0 < k) : idGiven (some k) = true := by
  show (k != 0) = true
  simp only [bne_iff_ne, ne_eq]
  omega

theorem eq_getD_iff_of_idGiven {x : Option ℕ} (h : idGiven x = true) (k : ℕ) :
    k = x.getD 0 ↔ x = some k := by
  cases x with
  | none => cases h
  | some i => exact ⟨fun heq => congrArg some heq.symm, fun heq => (Option.some.inj heq).symm⟩

@[simp] theorem toFloat_some (x : ℚ) : toFloat (some x) = x := rfl
@[simp] theorem toFloat_none : toFloat none = 0 := rfl
@[simp] theorem toText_some (x : String) : toText (some x) = x := rfl
@[simp] theorem toText_none : toText none = "" := rfl
@[simp] theorem orNum_zero (b : ℚ) : orNum 0 b = b := rfl
theorem orNum_of_ne {a : ℚ} (b : ℚ) (h : a ≠ 0) : orNum a b = a := if_neg h
@[simp] theorem orNum_self (a : ℚ) : orNum a a = a := by
  unfold orNum; split <;> rfl

/-! ## Request-id patterns -/

/-- `pat in text`, on characters. -/
def containsChars (pat : List Char) : List Char → Bool
  | [] => pat.isEmpty
  | c :: cs => pat.isPrefixOf (c :: cs) || containsChars pat cs

/-- `pat in text`. -/
def containsText (pat text : String) : Bool := containsChars pat.toList text.toList

/-- SQL `text LIKE '%pat%'`: ASCII letters match in either case. -/
def likeContains (pat text : String) : Bool :=
  containsChars (pat.toList.map Char.toLower) (text.toList.map Char.toLower)

/-- The rows `LIVE_ORDER_EVENT_REQUEST_ID_FILTER` leaves out: status events
written beside the canonical row of an order. -/
def liveOrderEventRequestIdFilter (requestId : String) : Bool :=
  ["-submitted", "-waiting-", "-partial", "-canceled-", "-filled-", "-failed-"].any
    (fun pat => likeContains pat requestId)

def isLiveOrderStatusEventRequest (requestId : String) : Bool :=
  ["-submitted-", "-waiting-", "-partial", "-canceled-", "-filled-", "-failed-"].any
    (fun pat => containsText pat requestId)

example : isLiveOrderStatusEventRequest "exit-0a1b-filled-1" = true := by decide +kernel

/-! ## Status columns -/

/-- `live_positions.status`. -/
inductive PositionStatus where
  | opened
  | exitCandidate
  | exitPending
  | closing
  | manualReviewRequired
  | closed
  | error
  | duplicateReconciled
  deriving DecidableEq

/-- `status IN ('OPEN', 'EXIT_CANDIDATE', 'EXIT_PENDING', 'CLOSING',
'MANUAL_REVIEW_REQUIRED')`. -/
def PositionStatus.isActive : PositionStatus → Bool
  | .opened | .exitCandidate | .exitPending | .closing | .manualReviewRequired => true
  | .closed | .error | .duplicateReconciled => false

/-- `live_order_logs.status`. -/
inductive OrderStatus where
  | previewed
  | blocked
  | submitted
  | waiting
  | partiallyFilled
  | filled
  | canceled
  | failed
  | staleCanceled
  | error
  deriving DecidableEq

/-- `status IN ('SUBMITTED', 'WAITING', 'PARTIALLY_FILLED')`. -/
def OrderStatus.isUnresolved : OrderStatus → Bool
  | .submitted | .waiting | .partiallyFilled => true
  | _ => false

/-- `status in {"FILLED", "PARTIALLY_FILLED"}`. -/
def OrderStatus.isFill : OrderStatus → Bool
  | .filled | .partiallyFilled => true
  | _ => false

/-- The side of an order, as the exchange or the bot spells it. -/
inductive OrderSide where
  | buy
  | sell
  | bid
  | ask
  deriving DecidableEq

/-- `side in {"SELL", "ASK"}`. -/
def OrderSide.isSell : OrderSide → Bool
  | .sell | .ask => true
  | .buy | .bid => false

/-- `side in {"BUY", "BID"}`. -/
def OrderSide.isBuy : OrderSide → Bool
  | .buy | .bid => true
  | .sell | .ask => false

inductive OrderPurpose where
  | entry
  | exit
  deriving DecidableEq

inductive FillType where
  | entry
  | scaleIn
  deriving DecidableEq

/-- `live_strategy_sessions.status`. -/
inductive SessionStatus where
  | ready
  | running
  | paused
  | livePaused
  | stopped
  | emergencyStopped
  | error
  deriving DecidableEq

/-- `exit_candidates.status`; a reconciled order may leave its own status there. -/
inductive ExitCandidateStatus where
  | pending
  | approved
  | blocked
  | submitted
  | canceled
  | completed
  | order (status : OrderStatus)
  deriving DecidableEq

/-- `position_slots.status`; an occupied slot carries its position's status. -/
inductive SlotStatus where
  | empty
  | reserved
  | entering
  | held (status : PositionStatus)
  deriving DecidableEq

/-- `order_reservations.status`. -/
inductive ReservationStatus where
  | pending
  | reserved
  | orderSubmitted
  | consumed
  | expired
  | replaced
  | released
  | filled
  | canceled
  | failed
  deriving DecidableEq

/-- `active_strategy_selection.status`. -/
inductive SelectionStatus where
  | liveActive
  | replaced
  deriving DecidableEq

/-- `candidate_strategies.status`. -/
inductive CandidateStatus where
  | discovered
  | backtestRunning
  | backtestPassed
  | backtestFailed
  | shadowRunning
  | shadowPassed
  | liveEligible
  | liveActive
  | paused
  | rejected
  | active
  | inactive
  deriving DecidableEq

end AutoCoinBot
