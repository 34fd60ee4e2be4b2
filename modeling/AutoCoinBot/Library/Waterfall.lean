/-
  Library.Waterfall — spreading a quantity over capacities in order.

  `waterfall caps q` fills the capacities one after the other: each takes what
  is left of `q`, up to its own size. The closed form of the `i`-th share is
  `min cᵢ (max (q − Σ_{j<i} cⱼ) 0)`; the shares add up to `q` whenever the
  capacities can hold it.
-/
import Mathlib

namespace AutoCoinBot.Library

variable {α : Type*} [Field α] [LinearOrder α]

/-- The shares of `q` handed to the capacities, first come first served. -/
def waterfall : List α → α → List α
  | [], _ => []
  | c :: cs, q => min c q :: waterfall cs (max (q - min c q) 0)

@[simp] theorem waterfall_nil (q : α) : waterfall [] q = [] := rfl

@[simp] theorem waterfall_cons (c : α) (cs : List α) (q : α) :
    waterfall (c :: cs) q = min c q :: waterfall cs (max (q - min c q) 0) := rfl

@[simp] theorem length_waterfall (cs : List α) (q : α) :
    (waterfall cs q).length = cs.length := by
  induction cs generalizing q with
  | nil => rfl
  | cons c cs ih => simp [ih]

theorem waterfall_nonneg (cs : List α) (q : α) (hq : 0 ≤ q) (hcs : ∀ c ∈ cs, 0 ≤ c) :
    ∀ x ∈ waterfall cs q, 0 ≤ x := by
  induction cs generalizing q with
  | nil => simp
  | cons c cs ih =>
    intro x hx
    rcases List.mem_cons.mp hx with h | h
    · rw [h]; exact le_min (hcs c List.mem_cons_self) hq
    · exact ih _ (le_max_right _ _)
        (fun c' hc' => hcs c' (List.mem_cons_of_mem _ hc')) x h

/-- No share exceeds its capacity. -/
theorem waterfall_le {ι : Type*} (f : ι → α) (qs : List ι) (q : α) :
    ∀ x ∈ qs.zip (waterfall (qs.map f) q), x.2 ≤ f x.1 := by
  induction qs generalizing q with
  | nil => simp
  | cons i qs ih =>
    intro x hx
    simp only [List.map_cons, waterfall_cons, List.zip_cons_cons, List.mem_cons] at hx
    rcases hx with rfl | hx
    · exact min_le_left _ _
    · exact ih _ x hx

/-- Nothing handed out, nothing received. -/
theorem waterfall_zero (cs : List α) (hcs : ∀ c ∈ cs, 0 ≤ c) :
    waterfall cs 0 = cs.map (fun _ => 0) := by
  induction cs with
  | nil => rfl
  | cons c cs ih =>
    have hc : 0 ≤ c := hcs c List.mem_cons_self
    rw [waterfall_cons, min_eq_right hc, sub_zero, max_self,
      ih (fun c' hc' => hcs c' (List.mem_cons_of_mem _ hc'))]
    rfl

variable [IsStrictOrderedRing α]

/-- What is left after the head took its share. -/
theorem residual_eq (c q : α) : max (q - min c q) 0 = max (q - c) 0 := by
  rcases le_total c q with h | h
  · rw [min_eq_left h]
  · rw [min_eq_right h, sub_self, max_self, max_eq_right (by linarith)]

/-- **The closed form of a share.** -/
theorem waterfall_getElem? (cs : List α) (q : α) (hq : 0 ≤ q) (hcs : ∀ c ∈ cs, 0 ≤ c)
    (i : ℕ) :
    (waterfall cs q)[i]? = cs[i]?.map (fun c => min c (max (q - (cs.take i).sum) 0)) := by
  induction cs generalizing q i with
  | nil => simp
  | cons c cs ih =>
    have htail : ∀ c' ∈ cs, 0 ≤ c' := fun c' hc' => hcs c' (List.mem_cons_of_mem _ hc')
    cases i with
    | zero => simp [max_eq_left hq]
    | succ i =>
      have hsum : 0 ≤ (cs.take i).sum :=
        List.sum_nonneg (fun c' hc' => htail c' (List.mem_of_mem_take hc'))
      simp only [waterfall_cons, List.getElem?_cons_succ, List.take_succ_cons,
        List.sum_cons, residual_eq]
      rw [ih (max (q - c) 0) (le_max_right _ _) htail i]
      congr 1
      funext c'
      congr 1
      rcases le_total c q with h | h
      · rw [max_eq_left (show (0 : α) ≤ q - c by linarith), sub_sub]
      · rw [max_eq_right (show q - c ≤ 0 by linarith),
          max_eq_right (by linarith), max_eq_right (by linarith)]

/-- **Nothing is lost while the capacities suffice.** -/
theorem sum_waterfall (cs : List α) (q : α) (hq : 0 ≤ q) (hcs : ∀ c ∈ cs, 0 ≤ c)
    (hle : q ≤ cs.sum) : (waterfall cs q).sum = q := by
  induction cs generalizing q with
  | nil =>
    simp only [List.sum_nil] at hle
    simp [le_antisymm hle hq]
  | cons c cs ih =>
    rw [waterfall_cons, List.sum_cons, residual_eq]
    rw [List.sum_cons] at hle
    have htail : ∀ c' ∈ cs, 0 ≤ c' := fun c' hc' => hcs c' (List.mem_cons_of_mem _ hc')
    have hsum : 0 ≤ cs.sum := List.sum_nonneg htail
    rw [ih (max (q - c) 0) (le_max_right _ _) htail (max_le (by linarith) hsum)]
    rcases le_total c q with h | h
    · rw [min_eq_left h, max_eq_left (by linarith)]; ring
    · rw [min_eq_right h, max_eq_right (by linarith)]; ring

/-- **Filling in two rounds.** Handing out `d` over the room that `q` left tops
the shares of `q` up to the shares of `q + d`. -/
theorem waterfall_add (cs : List α) (q d : α) (hq : 0 ≤ q) (hd : 0 ≤ d)
    (hcs : ∀ c ∈ cs, 0 ≤ c) :
    List.zipWith (· + ·) (waterfall cs q)
        (waterfall (List.zipWith (· - ·) cs (waterfall cs q)) d)
      = waterfall cs (q + d) := by
  induction cs generalizing q d with
  | nil => rfl
  | cons c cs ih =>
    have hc : 0 ≤ c := hcs c List.mem_cons_self
    have htail : ∀ c' ∈ cs, 0 ≤ c' := fun c' hc' => hcs c' (List.mem_cons_of_mem _ hc')
    simp only [waterfall_cons, List.zipWith_cons_cons, residual_eq]
    rw [ih (max (q - c) 0) _ (le_max_right _ _) (le_max_right _ _) htail]
    rcases le_total c q with h | h
    · -- the first round filled the head
      rw [min_eq_left h, sub_self, min_eq_left hd, min_eq_left (by linarith),
        max_eq_left (show (0 : α) ≤ q - c by linarith), max_eq_left (show 0 ≤ d - 0 by linarith),
        max_eq_left (show 0 ≤ q + d - c by linarith)]
      congr 1
      · ring
      · congr 1; ring
    · -- the head still has room for `c - q`
      rw [min_eq_right h, max_eq_right (show q - c ≤ 0 by linarith)]
      congr 1
      · rcases le_total (c - q) d with h' | h'
        · rw [min_eq_left h', min_eq_left (by linarith)]; ring
        · rw [min_eq_right h', min_eq_right (by linarith)]
      · congr 1
        rw [zero_add]
        congr 1
        ring

end AutoCoinBot.Library
