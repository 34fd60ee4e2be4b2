/-
  Library.Fifo — drawing a demand from a queue of lots, oldest first.

  A draw cuts the head lot into a piece handed out and a rest. A rest that counts
  as exhausted is dropped with what it still holds, and the draw goes on with the
  next lot; any other rest stays at the head of the queue. What is handed out, what
  is dropped and what stays add up to the queue drawn from, in every figure that a
  cut splits.
-/
import Mathlib

namespace AutoCoinBot.Library

/-! ## A draw -/

/-- How a lot is cut: its size, the piece and the rest of a cut, and when a rest counts
as exhausted. -/
structure LotCut (K ρ τ : Type*) where
  size : ρ → K
  piece : K → ρ → τ
  rest : K → ρ → ρ
  exhausted : ρ → Prop

/-- What a draw leaves. -/
structure Draw (K ρ τ : Type*) where
  taken : List τ
  dropped : List ρ
  queue : List ρ
  unmet : K

variable {K ρ τ : Type*} [Field K] [LinearOrder K] (cut : LotCut K ρ τ)
  [DecidablePred cut.exhausted]

/-- Draws a demand from the queue, oldest lot first. -/
def draw : K → List ρ → Draw K ρ τ
  | demand, [] => ⟨[], [], [], demand⟩
  | demand, lot :: lots =>
    if 0 < demand then
      let used := min demand (cut.size lot)
      if cut.exhausted (cut.rest used lot) then
        let next := draw (demand - used) lots
        ⟨cut.piece used lot :: next.taken, cut.rest used lot :: next.dropped, next.queue,
          next.unmet⟩
      else ⟨[cut.piece used lot], [], cut.rest used lot :: lots, demand - used⟩
    else ⟨[], [], lot :: lots, demand⟩

/-! ## What a draw conserves -/

section Conservation

variable {cut}

/-- **No figure is lost or made by a draw**, if a cut splits it. -/
theorem draw_conserves {M : Type*} [AddCommMonoid M] {g : ρ → M} {h : τ → M}
    (hsplit : ∀ used lot, h (cut.piece used lot) + g (cut.rest used lot) = g lot) (demand : K)
    (lots : List ρ) :
    ((draw cut demand lots).taken.map h).sum + ((draw cut demand lots).dropped.map g).sum
      + ((draw cut demand lots).queue.map g).sum = (lots.map g).sum := by
  induction lots generalizing demand with
  | nil => simp [draw]
  | cons lot lots ih =>
    unfold draw
    by_cases hdemand : 0 < demand
    · rw [if_pos hdemand]
      dsimp only
      by_cases hout : cut.exhausted (cut.rest (min demand (cut.size lot)) lot)
      · -- the head is used up, the rest of the demand goes to the tail
        rw [if_pos hout]
        have htail := ih (demand - min demand (cut.size lot))
        have hhead := hsplit (min demand (cut.size lot)) lot
        simp only [List.map_cons, List.sum_cons]
        rw [← htail, ← hhead]
        abel
      · rw [if_neg hout]
        have hhead := hsplit (min demand (cut.size lot)) lot
        simp only [List.map_cons, List.map_nil, List.sum_cons, List.sum_nil, add_zero]
        rw [← add_assoc, hhead]
    · rw [if_neg hdemand]
      simp

/-- The pieces add up to the demand that was met. -/
theorem draw_demand {h : τ → K} (hpiece : ∀ used lot, h (cut.piece used lot) = used) (demand : K)
    (lots : List ρ) :
    ((draw cut demand lots).taken.map h).sum + (draw cut demand lots).unmet = demand := by
  induction lots generalizing demand with
  | nil => simp [draw]
  | cons lot lots ih =>
    unfold draw
    by_cases hdemand : 0 < demand
    · rw [if_pos hdemand]
      dsimp only
      by_cases hout : cut.exhausted (cut.rest (min demand (cut.size lot)) lot)
      · rw [if_pos hout]
        simp only [List.map_cons, List.sum_cons, hpiece]
        rw [add_assoc, ih]
        abel
      · rw [if_neg hout]
        simp only [List.map_cons, List.map_nil, List.sum_cons, List.sum_nil, add_zero, hpiece]
        abel
    · rw [if_neg hdemand]
      simp

/-- What is dropped is the exhausted rest of a cut. -/
theorem exhausted_of_mem_dropped (demand : K) (lots : List ρ) :
    ∀ lot ∈ (draw cut demand lots).dropped, cut.exhausted lot := by
  induction lots generalizing demand with
  | nil => simp [draw]
  | cons lot lots ih =>
    unfold draw
    by_cases hdemand : 0 < demand
    · rw [if_pos hdemand]
      dsimp only
      by_cases hout : cut.exhausted (cut.rest (min demand (cut.size lot)) lot)
      · rw [if_pos hout]
        intro x hx
        rcases List.mem_cons.mp hx with rfl | hx
        · exact hout
        · exact ih _ x hx
      · rw [if_neg hout]
        simp
    · rw [if_neg hdemand]
      simp

end Conservation

section Met

variable {K ρ τ : Type*} [AddGroup K] [LinearOrder K] {cut : LotCut K ρ τ}

/-- **A lot stays cut only if the demand was met.** -/
theorem draw_met {demand : K} {lot : ρ}
    (hwhole : ∀ x, cut.size x ≤ demand → cut.exhausted (cut.rest (cut.size x) x))
    (hcut : ¬ cut.exhausted (cut.rest (min demand (cut.size lot)) lot)) :
    demand - min demand (cut.size lot) = 0 := by
  rcases le_total demand (cut.size lot) with h | h
  · rw [min_eq_left h, sub_self]
  · rw [min_eq_right h] at hcut
    exact absurd (hwhole lot h) hcut

end Met

section Unmet

variable [IsStrictOrderedRing K] {cut}

theorem draw_unmet_nonneg {demand : K} (hdemand : 0 ≤ demand) (lots : List ρ) :
    0 ≤ (draw cut demand lots).unmet := by
  induction lots generalizing demand with
  | nil => exact hdemand
  | cons lot lots ih =>
    have hrest : 0 ≤ demand - min demand (cut.size lot) := sub_nonneg.mpr (min_le_left _ _)
    unfold draw
    by_cases hpos : 0 < demand
    · rw [if_pos hpos]
      dsimp only
      by_cases hout : cut.exhausted (cut.rest (min demand (cut.size lot)) lot)
      · rw [if_pos hout]
        exact ih hrest
      · rw [if_neg hout]
        exact hrest
    · rw [if_neg hpos]
      exact hdemand

/-- A demand that is not met has used up the queue. -/
theorem draw_queue_of_unmet (hwhole : ∀ x, cut.exhausted (cut.rest (cut.size x) x)) {demand : K}
    {lots : List ρ} (hunmet : 0 < (draw cut demand lots).unmet) :
    (draw cut demand lots).queue = [] := by
  induction lots generalizing demand with
  | nil => rfl
  | cons lot lots ih =>
    unfold draw at hunmet ⊢
    by_cases hpos : 0 < demand
    · rw [if_pos hpos] at hunmet ⊢
      dsimp only at hunmet ⊢
      by_cases hout : cut.exhausted (cut.rest (min demand (cut.size lot)) lot)
      · rw [if_pos hout] at hunmet ⊢
        exact ih hunmet
      · rw [if_neg hout, draw_met (fun x _ => hwhole x) hout] at hunmet
        exact absurd hunmet (lt_irrefl 0)
    · rw [if_neg hpos] at hunmet
      exact absurd hunmet hpos

end Unmet

/-! ## What every lot of a draw satisfies -/

section Lots

variable {cut} {P : ρ → Prop} {Q : K → Prop}

/-- A property of the queue's lots that cuts keep holds of every rest, dropped or not. -/
theorem draw_forall (hcut : ∀ demand lot, 0 < demand → Q demand → P lot →
      P (cut.rest (min demand (cut.size lot)) lot) ∧ Q (demand - min demand (cut.size lot)))
    {demand : K} (hdemand : Q demand) {lots : List ρ} (hlots : ∀ lot ∈ lots, P lot) :
    (∀ lot ∈ (draw cut demand lots).dropped, P lot)
      ∧ (∀ lot ∈ (draw cut demand lots).queue, P lot)
      ∧ Q (draw cut demand lots).unmet := by
  induction lots generalizing demand with
  | nil => exact ⟨by simp [draw], by simp [draw], hdemand⟩
  | cons lot lots ih =>
    have hhead : P lot := hlots lot List.mem_cons_self
    have htail : ∀ x ∈ lots, P x := fun x hx => hlots x (List.mem_cons_of_mem _ hx)
    unfold draw
    by_cases hpos : 0 < demand
    · rw [if_pos hpos]
      obtain ⟨hrest, hleft⟩ := hcut demand lot hpos hdemand hhead
      dsimp only
      -- the rest of the first lot is dropped, or it heads the queue that is left
      by_cases hout : cut.exhausted (cut.rest (min demand (cut.size lot)) lot)
      · rw [if_pos hout]
        obtain ⟨hdropped, hqueue, hunmet⟩ := ih hleft htail
        refine ⟨?_, hqueue, hunmet⟩
        intro x hx
        rcases List.mem_cons.mp hx with rfl | hx
        · exact hrest
        · exact hdropped x hx
      · rw [if_neg hout]
        refine ⟨by simp, ?_, hleft⟩
        intro x hx
        rcases List.mem_cons.mp hx with rfl | hx
        · exact hrest
        · exact htail x hx
    · rw [if_neg hpos]
      exact ⟨by simp, hlots, hdemand⟩

end Lots

section Subgroup

variable {cut}

/-- **Sizes in an additive subgroup stay in it.** -/
theorem draw_mem_subgroup {H : AddSubgroup K}
    (hrest : ∀ used lot, cut.size (cut.rest used lot) = cut.size lot - used) {demand : K}
    (hdemand : demand ∈ H) {lots : List ρ} (hlots : ∀ lot ∈ lots, cut.size lot ∈ H) :
    (∀ lot ∈ (draw cut demand lots).dropped, cut.size lot ∈ H)
      ∧ (∀ lot ∈ (draw cut demand lots).queue, cut.size lot ∈ H)
      ∧ (draw cut demand lots).unmet ∈ H := by
  refine draw_forall (P := fun lot => cut.size lot ∈ H) (Q := fun d => d ∈ H) ?_ hdemand hlots
  intro d lot _ hd hlot
  have hused : min d (cut.size lot) ∈ H := by
    rcases min_choice d (cut.size lot) with h | h
    · rw [h]; exact hd
    · rw [h]; exact hlot
  rw [hrest]
  exact ⟨H.sub_mem hlot hused, H.sub_mem hd hused⟩

variable [IsStrictOrderedRing K]

/-- A multiple of a step that lies between zero and the step is zero. -/
theorem eq_zero_of_mem_zmultiples {x step : K} (hx : x ∈ AddSubgroup.zmultiples step)
    (hnonneg : 0 ≤ x) (hlt : x < step) : x = 0 := by
  obtain ⟨n, rfl⟩ := AddSubgroup.mem_zmultiples_iff.mp hx
  have hstep : 0 < step := lt_of_le_of_lt hnonneg hlt
  rw [zsmul_eq_mul] at hnonneg hlt ⊢
  have hn0 : (0 : K) ≤ n := nonneg_of_mul_nonneg_left hnonneg hstep
  have hn1 : (n : K) < 1 := lt_of_mul_lt_mul_right (by rwa [one_mul]) hstep.le
  have hn : n = 0 := by
    have h0 : 0 ≤ n := Int.cast_nonneg_iff.mp hn0
    have h1 : n < 1 := by exact_mod_cast hn1
    omega
  rw [hn, Int.cast_zero, zero_mul]

end Subgroup

end AutoCoinBot.Library
