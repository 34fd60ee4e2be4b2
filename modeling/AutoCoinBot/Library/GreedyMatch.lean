/-
  Library.GreedyMatch — requests that come one by one, each given one resource.

  A request takes the resource that is picked for it, given what the earlier requests have
  taken, and keeps it. `Greedy` says what a pick has to do: give only what fits and is free, and
  give something as long as anything that fits is free.
-/
import AutoCoinBot.Library.Run

namespace AutoCoinBot.Library

variable {ε ρ : Type*}

/-- A request takes the resource that is picked for it. -/
def matchNext (pick : List ρ → ε → Option ρ) (pairs : List (ε × ρ)) (e : ε) : List (ε × ρ) :=
  match pick (pairs.map Prod.snd) e with
  | some r => (e, r) :: pairs
  | none => pairs

/-- What a pick has to do. -/
structure Greedy (pick : List ρ → ε → Option ρ) (fits : ε → ρ → Prop) : Prop where
  sound : ∀ taken e r, pick taken e = some r → r ∉ taken ∧ fits e r
  complete : ∀ taken e r, pick taken e = none → fits e r → r ∈ taken

section Pairs

variable {pick : List ρ → ε → Option ρ} {fits : ε → ρ → Prop} {pairs : List (ε × ρ)} {e : ε}

/-- What a request does to the pairs. -/
theorem matchNext_cases (hpick : Greedy pick fits) (pairs : List (ε × ρ)) (e : ε) :
    (∃ r, r ∉ pairs.map Prod.snd ∧ fits e r ∧ matchNext pick pairs e = (e, r) :: pairs)
      ∨ ((∀ r, fits e r → r ∈ pairs.map Prod.snd) ∧ matchNext pick pairs e = pairs) := by
  unfold matchNext
  cases hr : pick (pairs.map Prod.snd) e with
  | some r =>
    obtain ⟨hfree, hfits⟩ := hpick.sound _ _ _ hr
    exact .inl ⟨r, hfree, hfits, rfl⟩
  | none => exact .inr ⟨fun r hfits => hpick.complete _ _ _ hr hfits, rfl⟩

/-- A pair stays. -/
theorem matchNext_subset (pick : List ρ → ε → Option ρ) (pairs : List (ε × ρ)) (e : ε) :
    pairs ⊆ matchNext pick pairs e := by
  unfold matchNext
  split
  · exact List.subset_cons_self _ _
  · exact List.Subset.refl _

theorem matched_subset (pick : List ρ → ε → Option ρ) (pairs : List (ε × ρ)) (es : List ε) :
    pairs ⊆ run (matchNext pick) pairs es :=
  run_invariant (P := fun pairs' : List (ε × ρ) => pairs ⊆ pairs')
    (fun _ e h => List.Subset.trans h (matchNext_subset pick _ e)) (List.Subset.refl _) es

/-- **The pairs fit.** -/
theorem matched_fits (hpick : Greedy pick fits) (es : List ε) :
    ∀ p ∈ run (matchNext pick) [] es, fits p.1 p.2 := by
  refine run_invariant (P := fun pairs : List (ε × ρ) => ∀ p ∈ pairs, fits p.1 p.2) ?_ (by simp) es
  intro pairs e h
  obtain ⟨r, -, hfits, hnext⟩ | ⟨-, hnext⟩ := matchNext_cases hpick pairs e
  · rw [hnext]
    exact List.forall_mem_cons.mpr ⟨hfits, h⟩
  · rwa [hnext]

/-- **No resource is given twice.** -/
theorem matched_resources_nodup (hpick : Greedy pick fits) (es : List ε) :
    ((run (matchNext pick) [] es).map Prod.snd).Nodup := by
  refine run_invariant (P := fun pairs : List (ε × ρ) => (pairs.map Prod.snd).Nodup) ?_ (by simp) es
  intro pairs e h
  obtain ⟨r, hfree, -, hnext⟩ | ⟨-, hnext⟩ := matchNext_cases hpick pairs e
  · rw [hnext]
    exact List.nodup_cons.mpr ⟨hfree, h⟩
  · rwa [hnext]

/-- The requests of the pairs, the latest first. -/
theorem matched_requests_sublist (pick : List ρ → ε → Option ρ) (es : List ε) :
    List.Sublist ((run (matchNext pick) [] es).map Prod.fst) es.reverse := by
  induction es using List.reverseRecOn with
  | nil => exact List.Sublist.refl _
  | append_singleton es e ih =>
    rw [run_append, List.reverse_append]
    show List.Sublist ((matchNext pick (run (matchNext pick) [] es) e).map Prod.fst)
      (e :: es.reverse)
    unfold matchNext
    split
    · exact ih.cons_cons e
    · exact ih.cons e

/-- **What fits a request without a resource has been given away.** -/
theorem matched_maximal (hpick : Greedy pick fits) {es : List ε} (he : e ∈ es)
    (hnone : e ∉ (run (matchNext pick) pairs es).map Prod.fst) :
    ∀ r, fits e r → r ∈ (run (matchNext pick) pairs es).map Prod.snd := by
  induction es generalizing pairs with
  | nil => cases he
  | cons e' es ih =>
    rw [run_cons] at hnone ⊢
    rcases List.mem_cons.mp he with rfl | he
    · have hkeep := matched_subset pick (matchNext pick pairs e) es
      obtain ⟨r, -, -, hnext⟩ | ⟨htaken, hnext⟩ := matchNext_cases hpick pairs e
      · -- the request has its pair from here on
        rw [hnext] at hkeep hnone
        exact absurd (List.mem_map_of_mem (hkeep List.mem_cons_self)) hnone
      · rw [hnext] at hkeep ⊢
        exact fun r hfits => List.map_subset _ hkeep (htaken r hfits)
    · exact ih he hnone

end Pairs

end AutoCoinBot.Library
