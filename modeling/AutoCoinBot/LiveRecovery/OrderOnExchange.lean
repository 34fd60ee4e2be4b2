/-
  LiveRecovery.OrderOnExchange — exchange orders, and what the bot is told of them.

  An order waits while it is executed piece by piece, until it is done or canceled. What the
  exchange answers was so at some earlier time, and is normalized when it is read.
-/
import AutoCoinBot.Database.Schema

namespace AutoCoinBot

/-! ## Normalized orders -/

structure ReconciledOrderStatus where
  status : OrderStatus
  executedVolume : ℚ
  remainingVolume : ℚ
  filledAmountKrw : ℚ
  paidFee : ℚ
  raw : RawOrder

/-- `_order_uuid` of an exchange order. -/
def RawOrder.orderUuid (order : RawOrder) : String :=
  orText (toText order.uuid) (orText (toText order.orderId) (toText order.id))

/-- `str(order.get("state") or order.get("status") or "").lower()`. -/
def RawOrder.rawState (order : RawOrder) : String :=
  (orText (toText order.state) (toText order.status)).toLower

def canceledStates : List String := ["cancel", "canceled", "cancelled"]

/-- `_filled_amount_krw`: the explicit amount, else the trades, else the price. -/
def filledAmountKrw (order : RawOrder) (executedVolume price : ℚ) : ℚ :=
  let explicit := orNum (toFloat order.paidAmount) (toFloat order.executedFunds)
  let total := ((order.trades.getD []).map (fun t => toFloat t.price * toFloat t.volume)).sum
  if explicit > 0 then explicit
  else if total > 0 then total
  else executedVolume * price

def normalizeExchangeOrder (order : RawOrder) : ReconciledOrderStatus :=
  let executed := toFloat order.executedVolume
  let remaining := toFloat order.remainingVolume
  let requested := toFloat order.volume
  let price := toFloat order.price
  let remaining :=
    if remaining ≤ 0 ∧ requested > 0 ∧ executed > 0 then max (requested - executed) 0
    else remaining
  let filled := filledAmountKrw order executed price
  let fee := orNum (toFloat order.paidFee) (toFloat order.reservedFee)
  let status : OrderStatus :=
    if executed > 0 ∧ remaining > 0 then .partiallyFilled
    else if ["done", "filled", "completed"].contains order.rawState
        ∨ (executed > 0 ∧ remaining ≤ 0) then .filled
    else if canceledStates.contains order.rawState then .canceled
    else if ["wait", "waiting", "watch"].contains order.rawState ∨ remaining > 0 then .waiting
    else .submitted
  ⟨status, executed, remaining, filled, fee, order⟩

@[simp] theorem normalizeExchangeOrder_executedVolume (order : RawOrder) :
    (normalizeExchangeOrder order).executedVolume = toFloat order.executedVolume := rfl

/-- **Executed volume reads as a fill.** -/
theorem normalizeExchangeOrder_isFill {order : RawOrder}
    (h : 0 < (normalizeExchangeOrder order).executedVolume) :
    (normalizeExchangeOrder order).status.isFill = true := by
  rw [normalizeExchangeOrder_executedVolume] at h
  simp only [normalizeExchangeOrder]
  split_ifs with h1 h2 h3 h4 h5
  -- all but the first two branches need an order without executed volume
  all_goals first | rfl | skip
  all_goals exact absurd h (by
    push Not at *
    grind)

theorem normalizeExchangeOrder_canceled {order : RawOrder}
    (h : (normalizeExchangeOrder order).status = .canceled) :
    (normalizeExchangeOrder order).executedVolume ≤ 0 := by
  by_contra hpos
  have hfill := normalizeExchangeOrder_isFill (not_le.mp hpos)
  rw [h] at hfill
  exact absurd hfill (by decide)

/-! ## The order -/

inductive OrderPhase where
  | waiting
  | done
  | canceled
  deriving DecidableEq

theorem OrderPhase.waiting_ne_done : OrderPhase.waiting ≠ .done := by decide

theorem OrderPhase.canceled_ne_done : OrderPhase.canceled ≠ .done := by decide

/-- An order for `ordered` coins. -/
structure OrderOnExchange (ordered : ℚ) where
  phase : OrderPhase
  executed : ℚ
  nonneg : 0 ≤ executed
  le_ordered : executed ≤ ordered
  done_iff : phase = .done ↔ executed = ordered

/-- What the exchange does with an order. -/
inductive ExchangeMove where
  | executes (volume : ℚ)
  | completes
  | cancels

namespace OrderOnExchange

variable {ordered : ℚ} {a b c : OrderOnExchange ordered}

theorem nothing_nonneg : (0 : ℚ) ≤ 0 := le_rfl

def placed (h : 0 < ordered) : OrderOnExchange ordered where
  phase := .waiting
  executed := 0
  nonneg := nothing_nonneg
  le_ordered := h.le
  done_iff := iff_of_false OrderPhase.waiting_ne_done h.ne

/-- An order that does not wait any more stays as it is. -/
def move (o : OrderOnExchange ordered) : ExchangeMove → OrderOnExchange ordered
  | .executes volume =>
    if h : o.phase = .waiting ∧ 0 < volume ∧ o.executed + volume < ordered then
      { phase := .waiting
        executed := o.executed + volume
        nonneg := add_nonneg o.nonneg h.2.1.le
        le_ordered := h.2.2.le
        done_iff := iff_of_false OrderPhase.waiting_ne_done h.2.2.ne }
    else o
  | .completes =>
    if o.phase = .waiting then
      { phase := .done
        executed := ordered
        nonneg := o.nonneg.trans o.le_ordered
        le_ordered := le_rfl
        done_iff := ⟨fun _ => rfl, fun _ => rfl⟩ }
    else o
  | .cancels =>
    if h : o.phase = .waiting then
      { phase := .canceled
        executed := o.executed
        nonneg := o.nonneg
        le_ordered := o.le_ordered
        done_iff := iff_of_false OrderPhase.canceled_ne_done
          (fun hall => OrderPhase.waiting_ne_done (h.symm.trans (o.done_iff.mpr hall))) }
    else o

/-- `a` may have become `b`. -/
def Before (a b : OrderOnExchange ordered) : Prop :=
  a = b ∨ (a.phase = .waiting ∧ a.executed ≤ b.executed)

theorem Before.refl (a : OrderOnExchange ordered) : a.Before a := .inl rfl

/-- **An order that has ended is as it was.** -/
theorem Before.eq_of_closed (h : a.Before b) (hclosed : a.phase ≠ .waiting) : a = b :=
  h.resolve_right (fun hwaiting => hclosed hwaiting.1)

theorem before_move (o : OrderOnExchange ordered) (event : ExchangeMove) :
    o.Before (o.move event) := by
  cases event with
  | executes volume =>
    simp only [move]
    split_ifs with h
    · exact .inr ⟨h.1, le_add_of_nonneg_right h.2.1.le⟩
    · exact .inl rfl
  | completes =>
    simp only [move]
    split_ifs with h
    · exact .inr ⟨h, o.le_ordered⟩
    · exact .inl rfl
  | cancels =>
    simp only [move]
    split_ifs with h
    · exact .inr ⟨h, le_rfl⟩
    · exact .inl rfl

theorem move_of_closed {o : OrderOnExchange ordered} (hclosed : o.phase ≠ .waiting)
    (event : ExchangeMove) : o.move event = o :=
  ((o.before_move event).eq_of_closed hclosed).symm

end OrderOnExchange

/-! ## Answers -/

def doneStates : List String := ["done", "filled", "completed"]

/-- The order `o`, as the exchange returns it. -/
structure Answers {ordered : ℚ} (uuid : String) (raw : RawOrder) (o : OrderOnExchange ordered) :
    Prop where
  uuid : raw.orderUuid = "" ∨ raw.orderUuid = uuid
  done : doneStates.contains raw.rawState = true ↔ o.phase = .done
  canceled : canceledStates.contains raw.rawState = true ↔ o.phase = .canceled
  volume : toFloat raw.volume = ordered
  executed : toFloat raw.executedVolume = o.executed
  remaining : toFloat raw.remainingVolume = ordered - o.executed ∨ toFloat raw.remainingVolume = 0

def OrderStatus.isFinal : OrderStatus → Bool
  | .filled | .canceled | .failed | .staleCanceled => true
  | _ => false

namespace Answers

variable {ordered : ℚ} {uuid : String} {raw : RawOrder} {o : OrderOnExchange ordered}

theorem remainingVolume_eq (h : Answers uuid raw o) (hpos : 0 < o.executed) :
    (normalizeExchangeOrder raw).remainingVolume = ordered - o.executed := by
  have hordered : 0 < ordered := hpos.trans_le o.le_ordered
  show (if toFloat raw.remainingVolume ≤ 0 ∧ toFloat raw.volume > 0
      ∧ toFloat raw.executedVolume > 0 then _ else _) = _
  rw [h.volume, h.executed]
  split_ifs with hcorrected
  · exact max_eq_left (sub_nonneg.mpr o.le_ordered)
  · rcases h.remaining with hrest | hrest
    · exact hrest
    · exact absurd ⟨hrest.le, hordered, hpos⟩ hcorrected

theorem status_partly (h : Answers uuid raw o) (hpos : 0 < o.executed)
    (hlt : o.executed < ordered) : (normalizeExchangeOrder raw).status = .partiallyFilled := by
  have hrest := h.remainingVolume_eq hpos
  unfold normalizeExchangeOrder at hrest ⊢
  dsimp only at hrest ⊢
  rw [hrest, h.executed]
  exact if_pos ⟨hpos, sub_pos.mpr hlt⟩

theorem status_done (h : Answers uuid raw o) (hordered : 0 < ordered) (hdone : o.phase = .done) :
    (normalizeExchangeOrder raw).status = .filled := by
  have hall : o.executed = ordered := o.done_iff.mp hdone
  have hrest := h.remainingVolume_eq (hordered.trans_eq hall.symm)
  unfold normalizeExchangeOrder at hrest ⊢
  dsimp only at hrest ⊢
  rw [hrest, h.executed, hall, sub_self]
  rw [if_neg (fun hpart => absurd hpart.2 (lt_irrefl 0))]
  exact if_pos (.inr ⟨hordered, le_rfl⟩)

theorem status_untouched (h : Answers uuid raw o) (hordered : 0 < ordered)
    (hzero : o.executed = 0) :
    (normalizeExchangeOrder raw).status = .canceled ∧ o.phase = .canceled
      ∨ (normalizeExchangeOrder raw).status = .waiting
      ∨ (normalizeExchangeOrder raw).status = .submitted := by
  have hnotDone : ¬ doneStates.contains raw.rawState = true := fun hdone =>
    absurd (o.done_iff.mp (h.done.mp hdone)) (by rw [hzero]; exact hordered.ne)
  have hnone : ¬ toFloat raw.executedVolume > 0 := by rw [h.executed, hzero]; exact lt_irrefl 0
  unfold doneStates at hnotDone
  simp only [normalizeExchangeOrder, hnone, false_and, and_false, if_false, or_false,
    if_neg hnotDone]
  split_ifs with hcanceled
  · exact .inl ⟨rfl, h.canceled.mp hcanceled⟩
  · exact .inr (.inl rfl)
  · exact .inr (.inr rfl)

theorem filled_iff (h : Answers uuid raw o) (hordered : 0 < ordered) :
    (normalizeExchangeOrder raw).status = .filled ↔ o.phase = .done := by
  refine ⟨fun hfilled => ?_, h.status_done hordered⟩
  by_contra hnot
  rcases o.nonneg.eq_or_lt with hzero | hpos
  · rcases h.status_untouched hordered hzero.symm with hread | hread | hread
    · rw [hread.1] at hfilled; cases hfilled
    · rw [hread] at hfilled; cases hfilled
    · rw [hread] at hfilled; cases hfilled
  · have hlt : o.executed < ordered :=
      lt_of_le_of_ne o.le_ordered (fun hall => hnot (o.done_iff.mpr hall))
    rw [h.status_partly hpos hlt] at hfilled
    cases hfilled

theorem done_of_reads (h : Answers uuid raw o)
    (hreads : (normalizeExchangeOrder raw).status = .filled
      ∨ ["done", "filled"].contains raw.rawState = true
      ∨ ((normalizeExchangeOrder raw).executedVolume > 0
        ∧ (normalizeExchangeOrder raw).remainingVolume ≤ 0)) (hordered : 0 < ordered) :
    o.phase = .done := by
  rcases hreads with hfilled | hstate | ⟨hpos, hrest⟩
  · exact (h.filled_iff hordered).mp hfilled
  · refine h.done.mp ?_
    unfold doneStates
    simp only [List.contains_cons, List.contains_nil, Bool.or_false, Bool.or_eq_true] at hstate ⊢
    exact hstate.imp_right .inl
  · rw [normalizeExchangeOrder_executedVolume, h.executed] at hpos
    rw [h.remainingVolume_eq hpos] at hrest
    exact o.done_iff.mpr (le_antisymm o.le_ordered (sub_nonpos.mp hrest))

/-- **An order that reads as final has ended**, all executed or not at all. -/
theorem final (h : Answers uuid raw o) (hordered : 0 < ordered)
    (hfinal : (normalizeExchangeOrder raw).status.isFinal = true) :
    ((normalizeExchangeOrder raw).status = .filled ∧ o.phase = .done)
      ∨ ((normalizeExchangeOrder raw).status = .canceled ∧ o.phase = .canceled
        ∧ o.executed = 0) := by
  rcases o.nonneg.eq_or_lt with hzero | hpos
  · rcases h.status_untouched hordered hzero.symm with hread | hread | hread
    · exact .inr ⟨hread.1, hread.2, hzero.symm⟩
    · rw [hread] at hfinal; cases hfinal
    · rw [hread] at hfinal; cases hfinal
  · rcases o.le_ordered.eq_or_lt with hall | hlt
    · have hdone : o.phase = .done := o.done_iff.mpr hall
      exact .inl ⟨h.status_done hordered hdone, hdone⟩
    · rw [h.status_partly hpos hlt] at hfinal; cases hfinal

end Answers

end AutoCoinBot
