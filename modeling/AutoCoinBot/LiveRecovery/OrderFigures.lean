/-
  LiveRecovery.OrderFigures — the cumulative figures of an order, and
  what a row, a snapshot and a position say about them.
-/
import AutoCoinBot.LiveRecovery.Reconcile

namespace AutoCoinBot

open Library

/-! ## Figures -/

/-- The cumulative figures of an order. -/
structure OrderFigures where
  executed : ℚ
  filled : ℚ
  fee : ℚ
  deriving DecidableEq

def OrderFigures.le (a b : OrderFigures) : Prop :=
  a.executed ≤ b.executed ∧ a.filled ≤ b.filled ∧ a.fee ≤ b.fee

instance : DecidableRel OrderFigures.le := fun a b =>
  inferInstanceAs (Decidable (a.executed ≤ b.executed ∧ a.filled ≤ b.filled ∧ a.fee ≤ b.fee))

/-- The figures of an order nothing of which has been executed. -/
def OrderFigures.zero : OrderFigures := ⟨0, 0, 0⟩

/-- What the figures `b` add to `a`, as a fill. -/
def OrderFigures.since (b a : OrderFigures) : ExitFill :=
  ⟨b.executed - a.executed, b.filled - a.filled, b.fee - a.fee⟩

def LiveOrderLog.figures (log : LiveOrderLog) : OrderFigures :=
  ⟨log.executedVolume, log.filledAmountKrw, log.paidFee⟩

def ReconciledOrderStatus.figures (status : ReconciledOrderStatus) : OrderFigures :=
  ⟨status.executedVolume, status.filledAmountKrw, status.paidFee⟩

theorem OrderFigures.le_refl (a : OrderFigures) : a.le a := ⟨le_rfl, le_rfl, le_rfl⟩

theorem OrderFigures.since_of_le {a b : OrderFigures} (h : a.le b) :
    (⟨max (b.executed - a.executed) 0, max (b.filled - a.filled) 0, max (b.fee - a.fee) 0⟩
      : ExitFill) = b.since a := by
  obtain ⟨h1, h2, h3⟩ := h
  unfold OrderFigures.since
  rw [max_eq_left (by linarith), max_eq_left (by linarith), max_eq_left (by linarith)]

/-! ## What has been absorbed -/

/-- The figures that have been absorbed when the row carries `log`. -/
def LiveOrderLog.absorbed (log : LiveOrderLog) : OrderFigures :=
  if log.executedVolume = 0 then .zero else log.figures

/-- The row stands for the figures `a`; before the first fill its amount and fee
are left open. -/
def LiveOrderLog.Carries (log : LiveOrderLog) (a : OrderFigures) : Prop :=
  log.executedVolume = a.executed ∧ (log.executedVolume ≠ 0 → log.figures = a)

/-- The filled amount and the fee rise together with the executed volume only. -/
def LiveOrderLog.RisesWithVolume (log : LiveOrderLog) (b : OrderFigures) : Prop :=
  b.executed = log.executedVolume → b = log.absorbed

/-- The first executed volume finds a row without an amount or a fee. -/
def LiveOrderLog.StartsUnpaid (log : LiveOrderLog) (b : OrderFigures) : Prop :=
  log.executedVolume = 0 → 0 < b.executed → log.filledAmountKrw = 0 ∧ log.paidFee = 0

instance (log : LiveOrderLog) (b : OrderFigures) : Decidable (log.RisesWithVolume b) :=
  inferInstanceAs (Decidable (b.executed = log.executedVolume → b = log.absorbed))

instance (log : LiveOrderLog) (b : OrderFigures) : Decidable (log.StartsUnpaid b) :=
  inferInstanceAs (Decidable (log.executedVolume = 0 → 0 < b.executed →
    log.filledAmountKrw = 0 ∧ log.paidFee = 0))

section Carries

variable {log : LiveOrderLog} {a : OrderFigures} {status : ReconciledOrderStatus}

theorem LiveOrderLog.carries_of_figures (h : log.figures = a) : log.Carries a :=
  ⟨by rw [← h]; rfl, fun _ => h⟩

theorem LiveOrderLog.absorbed_of_carries (h : log.Carries a)
    (hzero : a.executed = 0 → a = .zero) : log.absorbed = a := by
  unfold LiveOrderLog.absorbed
  by_cases he : log.executedVolume = 0
  · rw [if_pos he, hzero (h.1 ▸ he)]
  · rw [if_neg he, h.2 he]

/-- **The status path hands over what the snapshot adds.** -/
theorem exitFillDelta_of_carries (hcarries : log.Carries a) (hzero : a.executed = 0 → a = .zero)
    (hnonneg : 0 ≤ a.executed) (hmono : a.le status.figures)
    (hstart : log.StartsUnpaid status.figures) (hlt : a.executed < status.executedVolume) :
    exitFillDelta (reconciledLog log status) status = status.figures.since a := by
  have hfigures : log.figures = a := by
    by_cases he : log.executedVolume = 0
    · have hpos : 0 < status.executedVolume := lt_of_le_of_lt hnonneg hlt
      obtain ⟨hf, hg⟩ := hstart he hpos
      rw [hzero (hcarries.1 ▸ he)]
      simp [LiveOrderLog.figures, OrderFigures.zero, he, hf, hg]
    · exact hcarries.2 he
  rw [← OrderFigures.since_of_le hmono, ← hfigures]
  exact exitFillDelta_reconciledLog log _

theorem exitFillDelta_volume_nonpos (hcarries : log.Carries a)
    (heq : status.executedVolume = a.executed) :
    (exitFillDelta (reconciledLog log status) status).volume ≤ 0 := by
  rw [exitFillDelta_reconciledLog]
  exact max_le (by rw [heq, hcarries.1, sub_self]) (le_refl 0)

theorem LiveOrderLog.RisesWithVolume.zero {b : OrderFigures} (h : log.RisesWithVolume b)
    (hcarries : log.Carries a) (hzero : a.executed = 0 → a = .zero) (hnonneg : 0 ≤ a.executed)
    (hmono : a.le b) (he : b.executed = 0) : b = .zero := by
  have hsame : b.executed = log.executedVolume :=
    le_antisymm (by rw [he, hcarries.1]; exact hnonneg) (by rw [hcarries.1]; exact hmono.1)
  rw [h hsame, LiveOrderLog.absorbed_of_carries hcarries hzero]
  exact hzero (by rw [← hcarries.1, ← hsame]; exact he)

end Carries

/-! ## Cumulative snapshots -/

/-- The last figures of a sequence, zero before the first. -/
def lastFigures (fs : List OrderFigures) : OrderFigures := fs.getLast?.getD .zero

/-- Cumulative figures: none decreases, and no more than `volume` is executed. -/
structure Cumulative (volume : ℚ) (fs : List OrderFigures) : Prop where
  mono : fs.Pairwise OrderFigures.le
  nonneg : ∀ a ∈ fs, OrderFigures.zero.le a
  le_volume : ∀ a ∈ fs, a.executed ≤ volume

section Cumulative

variable {volume : ℚ} {fs : List OrderFigures} {b : OrderFigures}

@[simp] theorem lastFigures_nil : lastFigures [] = .zero := rfl

@[simp] theorem lastFigures_append (fs : List OrderFigures) (b : OrderFigures) :
    lastFigures (fs ++ [b]) = b := by
  simp [lastFigures]

theorem lastFigures_cases (fs : List OrderFigures) :
    lastFigures fs = .zero ∨ lastFigures fs ∈ fs := by
  unfold lastFigures
  cases h : fs.getLast? with
  | none => exact .inl rfl
  | some a => exact .inr (List.mem_of_getLast? h)

theorem Cumulative.init (h : Cumulative volume (fs ++ [b])) : Cumulative volume fs :=
  ⟨(List.pairwise_append.mp h.mono).1, fun a ha => h.nonneg a (List.mem_append_left _ ha),
    fun a ha => h.le_volume a (List.mem_append_left _ ha)⟩

theorem Cumulative.take (h : Cumulative volume fs) (n : ℕ) : Cumulative volume (fs.take n) :=
  ⟨h.mono.sublist (List.take_sublist n fs), fun a ha => h.nonneg a (List.mem_of_mem_take ha),
    fun a ha => h.le_volume a (List.mem_of_mem_take ha)⟩

theorem Cumulative.last_mem (_ : Cumulative volume (fs ++ [b])) : b ∈ fs ++ [b] :=
  List.mem_append_right _ (List.mem_singleton_self b)

theorem Cumulative.lastFigures_le (h : Cumulative volume (fs ++ [b])) :
    (lastFigures fs).le b := by
  rcases lastFigures_cases fs with hz | hmem
  · rw [hz]; exact h.nonneg b h.last_mem
  · exact (List.pairwise_append.mp h.mono).2.2 _ hmem b (List.mem_singleton_self b)

theorem Cumulative.lastFigures_nonneg (h : Cumulative volume fs) :
    OrderFigures.zero.le (lastFigures fs) := by
  rcases lastFigures_cases fs with hz | hmem
  · rw [hz]; exact OrderFigures.le_refl _
  · exact h.nonneg _ hmem

end Cumulative

/-! ## The row -/

theorem row_updateLiveOrderLog {db : Database} {requestId : String} {log : LiveOrderLog}
    (u : LiveOrderLogUpdates) (now : UtcTime)
    (hlog : getLiveOrderLog db requestId = some log) (hposition : u.positionId = none) :
    ∃ log', getLiveOrderLog (updateLiveOrderLog db requestId u now) requestId = some log'
      ∧ log'.orderPurpose = log.orderPurpose ∧ log'.positionId = log.positionId
      ∧ log'.orderPreviewPayload = log.orderPreviewPayload
      ∧ (log'.orderUuid = u.orderUuid.getD log.orderUuid ∨ log'.orderUuid = log.orderUuid)
      ∧ log'.figures = (log.merge u).figures := by
  refine ⟨_, getLiveOrderLog_update_self db requestId u now hlog, ?_, ?_, rfl, ?_, ?_⟩
  · exact mergedLiveOrderLog_orderPurpose db requestId log u now
  · refine (mergedLiveOrderLog_positionId db requestId log u now).trans ?_
    rw [hposition]
    rfl
  · exact mergedLiveOrderLog_orderUuid db requestId log u now
  · simp [LiveOrderLog.figures, LiveOrderLog.overwrite, LiveOrderLog.merge]

theorem reconciledUpdates_orderUuid {log : LiveOrderLog} (status : ReconciledOrderStatus)
    (h : toText log.orderUuid ≠ "") :
    toText ((reconciledUpdates log status).orderUuid.getD log.orderUuid) ≠ "" := by
  unfold reconciledUpdates
  by_cases hraw : status.raw.orderUuid = ""
  · simp only [if_pos hraw, Option.getD_some]; exact h
  · simp only [if_neg hraw, Option.getD_some, toText_some]; exact hraw

end AutoCoinBot
