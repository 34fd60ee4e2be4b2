/-
  Library.KeyedJoin — two lists put together by a key.

  Each list is filled into a table entry by entry, a later entry over an earlier one of its key;
  the tables are read side by side under every key that either has.
-/
import Mathlib

namespace AutoCoinBot.Library

variable {κ α β : Type*} [DecidableEq κ]

/-! ## One table -/

/-- The entry a table filled in order has under a key. -/
def lastOf (entries : List (κ × α)) (key : κ) : Option α :=
  (entries.reverse.find? (fun entry => entry.1 = key)).map Prod.snd

section Table

variable {entries : List (κ × α)} {key : κ} {a : α}

theorem mem_of_lastOf (h : lastOf entries key = some a) : (key, a) ∈ entries := by
  obtain ⟨⟨k, b⟩, hfind, hb⟩ := Option.map_eq_some_iff.mp h
  have hk : k = key := by simpa using List.find?_some hfind
  have hmem := List.mem_reverse.mp (List.mem_of_find?_eq_some hfind)
  subst hk
  subst hb
  exact hmem

theorem lastOf_isSome_iff : (lastOf entries key).isSome ↔ key ∈ entries.map Prod.fst := by
  simp [lastOf, List.find?_isSome]

theorem lastOf_eq_none_iff : lastOf entries key = none ↔ key ∉ entries.map Prod.fst := by
  rw [← lastOf_isSome_iff]
  cases lastOf entries key <;> simp

/-- Under distinct keys every entry is the last of its key. -/
theorem lastOf_eq_some_iff (hnodup : (entries.map Prod.fst).Nodup) :
    lastOf entries key = some a ↔ (key, a) ∈ entries := by
  constructor
  · exact mem_of_lastOf
  · intro hmem
    have hsome : (lastOf entries key).isSome :=
      lastOf_isSome_iff.mpr (List.mem_map.mpr ⟨(key, a), hmem, rfl⟩)
    obtain ⟨b, hb⟩ := Option.isSome_iff_exists.mp hsome
    have heq : (key, b) = (key, a) :=
      List.inj_on_of_nodup_map hnodup (mem_of_lastOf hb) hmem rfl
    rw [hb, (Prod.mk.inj heq).2]

/-- A table read under all its keys shows every entry just when no key comes twice. -/
theorem perm_filterMap_lastOf_iff {keys : List κ} (hkeys : keys.Nodup)
    (hall : ∀ entry ∈ entries, entry.1 ∈ keys) :
    (keys.filterMap (lastOf entries)).Perm (entries.map Prod.snd)
      ↔ (entries.map Prod.fst).Nodup := by
  constructor
  · intro hperm
    have hshown : (keys.filterMap (lastOf entries)).length
        = (keys.filter (fun k => k ∈ entries.map Prod.fst)).length := by
      rw [List.length_filterMap_eq_countP, List.countP_eq_length_filter]
      congr 1
      refine List.filter_congr (fun k _ => ?_)
      rw [Bool.eq_iff_iff, lastOf_isSome_iff, decide_eq_true_iff]
    have hsame : (keys.filter (fun k => k ∈ entries.map Prod.fst)).Perm
        (entries.map Prod.fst).dedup := by
      refine (List.perm_ext_iff_of_nodup (hkeys.filter _) (List.nodup_dedup _)).mpr (fun k => ?_)
      rw [List.mem_filter, List.mem_dedup, decide_eq_true_iff, and_iff_right_iff_imp]
      intro hk
      obtain ⟨entry, hentry, rfl⟩ := List.mem_map.mp hk
      exact hall entry hentry
    have hlength : (entries.map Prod.fst).dedup.length = (entries.map Prod.fst).length := by
      rw [← hsame.length_eq, ← hshown, hperm.length_eq, List.length_map, List.length_map]
    rw [← List.dedup_eq_self]
    exact (List.dedup_sublist _).eq_of_length hlength
  · intro hnodup
    -- read with their keys, the entries are the same ones
    have hpairs : (keys.filterMap (fun k => (lastOf entries k).map (Prod.mk k))).Perm entries := by
      refine (List.perm_ext_iff_of_nodup ?_ (List.Nodup.of_map _ hnodup)).mpr ?_
      · refine hkeys.filterMap (fun k k' entry hk hk' => ?_)
        obtain ⟨b, -, rfl⟩ := Option.map_eq_some_iff.mp hk
        obtain ⟨b', -, hb'⟩ := Option.map_eq_some_iff.mp hk'
        exact (Prod.mk.inj hb').1.symm
      · rintro ⟨k, b⟩
        rw [List.mem_filterMap]
        constructor
        · rintro ⟨k', -, hk'⟩
          obtain ⟨b', hb', heq⟩ := Option.map_eq_some_iff.mp hk'
          rw [← heq]
          exact mem_of_lastOf hb'
        · intro hmem
          refine ⟨k, hall _ hmem, ?_⟩
          rw [(lastOf_eq_some_iff hnodup).mpr hmem]
          rfl
    have hmap := hpairs.map Prod.snd
    rw [List.map_filterMap] at hmap
    refine (List.Perm.of_eq (List.filterMap_congr (fun k _ => ?_))).trans hmap
    cases lastOf entries k <;> rfl

end Table

/-! The entries that a table shows. -/

section Covered

variable (keyOf : α → κ)

/-- The values that no later one of their key covers. -/
def uncovered : List α → List α
  | [] => []
  | a :: as => if keyOf a ∈ as.map keyOf then uncovered as else a :: uncovered as

/-- The values that a later one of their key covers. -/
def covered : List α → List α
  | [] => []
  | a :: as => if keyOf a ∈ as.map keyOf then a :: covered as else covered as

theorem perm_uncovered_append_covered (l : List α) :
    (uncovered keyOf l ++ covered keyOf l).Perm l := by
  induction l with
  | nil => exact List.Perm.refl _
  | cons a as ih =>
    unfold uncovered covered
    split
    · exact List.perm_middle.trans (ih.cons a)
    · exact ih.cons a

/-- The values of a list, under their keys. -/
def keyed (l : List α) : List (κ × α) := l.map (fun a => (keyOf a, a))

variable {keyOf}

/-- **What a table shows** under the key of an uncovered value is the value. -/
theorem lastOf_of_mem_uncovered {l : List α} {a : α} (h : a ∈ uncovered keyOf l) :
    lastOf (keyed keyOf l) (keyOf a) = some a := by
  induction l with
  | nil => cases h
  | cons b l ih =>
    have hlast : lastOf (keyed keyOf (b :: l)) (keyOf a)
        = (lastOf (keyed keyOf l) (keyOf a)).or
            (if keyOf b = keyOf a then some b else none) := by
      unfold lastOf keyed
      rw [List.map_cons, List.reverse_cons, List.find?_append]
      by_cases hkey : keyOf b = keyOf a
      · cases (l.map (fun a => (keyOf a, a))).reverse.find? _ <;> simp [hkey]
      · cases (l.map (fun a => (keyOf a, a))).reverse.find? _ <;> simp [hkey]
    rw [hlast]
    unfold uncovered at h
    split at h
    · rw [ih h, Option.some_or]
    · rename_i hnew
      rcases List.mem_cons.mp h with rfl | h
      · -- no later value has the key
        have hnone : lastOf (keyed keyOf l) (keyOf a) = none := by
          refine lastOf_eq_none_iff.mpr (fun hmem => hnew ?_)
          unfold keyed at hmem
          rwa [List.map_map] at hmem
        rw [hnone, if_pos rfl, Option.none_or]
      · rw [ih h, Option.some_or]

end Covered

/-! ## Two tables -/

variable (as : List (κ × α)) (bs : List (κ × β)) (keys : List κ)

/-- The two tables side by side. -/
def joined : List (Option α × Option β) := keys.map (fun k => (lastOf as k, lastOf bs k))

variable {as bs keys} {a : α} {b : β}

theorem filterMap_fst_joined :
    (joined as bs keys).filterMap Prod.fst = keys.filterMap (lastOf as) := by
  rw [joined, List.filterMap_map]
  rfl

theorem filterMap_snd_joined :
    (joined as bs keys).filterMap Prod.snd = keys.filterMap (lastOf bs) := by
  rw [joined, List.filterMap_map]
  rfl

theorem mem_joined_iff (ha : (as.map Prod.fst).Nodup) (hb : (bs.map Prod.fst).Nodup)
    (hall : ∀ entry ∈ as, entry.1 ∈ keys) :
    (some a, some b) ∈ joined as bs keys ↔ ∃ k, (k, a) ∈ as ∧ (k, b) ∈ bs := by
  simp only [joined, List.mem_map, Prod.mk.injEq]
  constructor
  · rintro ⟨k, -, hka, hkb⟩
    exact ⟨k, mem_of_lastOf hka, mem_of_lastOf hkb⟩
  · rintro ⟨k, hka, hkb⟩
    exact ⟨k, hall _ hka, (lastOf_eq_some_iff ha).mpr hka, (lastOf_eq_some_iff hb).mpr hkb⟩

/-- The join puts together just what a relation links if and only if the keys say what the relation
says. `hown`: related entries take their keys from themselves. -/
theorem links_iff {R : α → β → Prop} (ha : (as.map Prod.fst).Nodup) (hb : (bs.map Prod.fst).Nodup)
    (hall : ∀ entry ∈ as, entry.1 ∈ keys)
    (hown : ∀ a b, R a b → ∀ k k', (k, a) ∈ as → (k', a) ∈ as → k = k')
    (hown' : ∀ a b, R a b → ∀ k k', (k, b) ∈ bs → (k', b) ∈ bs → k = k') :
    (∀ a ∈ as.map Prod.snd, ∀ b ∈ bs.map Prod.snd, R a b ↔ (some a, some b) ∈ joined as bs keys)
      ↔ ∀ p ∈ as, ∀ q ∈ bs, p.1 = q.1 ↔ R p.2 q.2 := by
  constructor
  · rintro h ⟨k, a⟩ hp ⟨k', b⟩ hq
    rw [h a (List.mem_map.mpr ⟨_, hp, rfl⟩) b (List.mem_map.mpr ⟨_, hq, rfl⟩)]
    constructor
    · intro hkk
      change k = k' at hkk
      subst hkk
      exact (mem_joined_iff ha hb hall).mpr ⟨k, hp, hq⟩
    · intro hjoined
      have hR := (h a (List.mem_map.mpr ⟨_, hp, rfl⟩) b (List.mem_map.mpr ⟨_, hq, rfl⟩)).mpr hjoined
      obtain ⟨k'', hka, hkb⟩ := (mem_joined_iff ha hb hall).mp hjoined
      rw [hown a b hR k k'' hp hka, hown' a b hR k' k'' hq hkb]
  · intro h a hmem b hmem'
    obtain ⟨⟨k, a⟩, hp, rfl⟩ := List.mem_map.mp hmem
    obtain ⟨⟨k', b⟩, hq, rfl⟩ := List.mem_map.mp hmem'
    rw [mem_joined_iff ha hb hall]
    constructor
    · intro hR
      have hkk : k = k' := (h _ hp _ hq).mpr hR
      subst hkk
      exact ⟨k, hp, hq⟩
    · rintro ⟨k'', hka, hkb⟩
      exact (h _ hka _ hkb).mp rfl

end AutoCoinBot.Library
