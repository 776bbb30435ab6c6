import Mathlib.Tactic.Lemma
import MergeQueue.Sorted.Set

namespace MergeQueue

variable {κ ν : Type} [LE κ] [LT κ] [Std.LawfulOrderLT κ]

lemma nodup_of_ascending {α : Type} {f : α → κ} {l : List α}
    (h : l.Pairwise fun a b => f a < f b) : l.Nodup := by
  apply h.imp
  rintro a _ hab rfl
  exact Std.Irrefl.irrefl _ hab

lemma eq_of_ascending {α : Type} {f : α → κ} {l l' : List α}
    (h : l.Pairwise fun a b => f a < f b) (h' : l'.Pairwise fun a b => f a < f b)
    (hmem : ∀ a, a ∈ l ↔ a ∈ l') : l = l' := by
  have hperm : l.Perm l' :=
    (List.perm_ext_iff_of_nodup (nodup_of_ascending h) (nodup_of_ascending h')).mpr hmem
  exact hperm.eq_of_pairwise (fun a b _ _ hab hba => absurd hba (Std.Asymm.asymm _ _ hab)) h h'

lemma SortedSet.ext_elements {s s' : SortedSet κ} (h : ∀ k, k ∈ s.elements ↔ k ∈ s'.elements) :
    s = s' := by
  obtain ⟨elements, hs⟩ := s
  obtain ⟨elements', hs'⟩ := s'
  congr 1
  exact eq_of_ascending (f := id) hs hs' h

lemma SortedSet.distinct_congr [Std.IsLinearOrder κ] [DecidableLT κ] {ks ks' : List κ}
    (h : ∀ k, k ∈ ks ↔ k ∈ ks') : distinct ks = distinct ks' := by
  apply eq_of_ascending (f := id) (ofList ks).ascending (ofList ks').ascending
  intro k
  exact (mem_distinct ks k).trans ((h k).trans (mem_distinct ks' k).symm)

namespace SortedMap

lemma ascending_nodup {l : List κ} (h : l.Pairwise (· < ·)) : l.Nodup :=
  nodup_of_ascending (f := id) h

lemma keys_nodup (m : SortedMap κ ν) : m.keys.Nodup := ascending_nodup m.keys_ascending

variable [DecidableEq κ]

lemma find?_eq_some_iff (m : SortedMap κ ν) (k : κ) (v : ν) :
    m.find? k = some v ↔ (k, v) ∈ m.entries := by
  have hn : (m.entries.map (·.1)).Nodup := m.keys_nodup
  rw [find?]
  generalize m.entries = entries at hn ⊢
  induction entries with
  | nil => simp
  | cons e rest ih =>
    obtain ⟨he, hr⟩ := List.nodup_cons.mp hn
    by_cases hk : e.1 = k
    · subst hk
      have hne : (e.1, v) ∉ rest := fun h => he (List.mem_map.mpr ⟨_, h, rfl⟩)
      simp only [List.find?_cons, decide_true, Option.map_some, Option.some.injEq, List.mem_cons,
        hne, or_false]
      exact ⟨fun h => by rw [← h], fun h => congrArg Prod.snd h.symm⟩
    · simp only [List.find?_cons, hk, decide_false, ih hr, List.mem_cons]
      constructor
      · exact .inr
      · rintro (rfl | h)
        · exact absurd rfl hk
        · exact h

lemma find?_filter (m : SortedMap κ ν) (keep : κ → ν → Bool) (k : κ) :
    (m.filter keep).find? k = (m.find? k).filter (keep k) := by
  apply Option.ext
  intro v
  rw [find?_eq_some_iff, Option.filter_eq_some_iff, find?_eq_some_iff]
  simp [filter]

omit [LE κ] [Std.LawfulOrderLT κ] in
lemma keys_erase (m : SortedMap κ ν) (k : κ) : (m.erase k).keys = m.keys.filter (· ≠ k) := by
  simp only [keys, erase, filter, List.filter_map, Function.comp_def]

lemma ext_find? {m m' : SortedMap κ ν} (h : ∀ k, m.find? k = m'.find? k) : m = m' := by
  have hmem (e : κ × ν) : e ∈ m.entries ↔ e ∈ m'.entries := by
    rw [← find?_eq_some_iff, ← find?_eq_some_iff, h]
  obtain ⟨entries, hm⟩ := m
  obtain ⟨entries', hm'⟩ := m'
  congr 1
  exact eq_of_ascending hm hm' hmem

lemma erase_eq_erase_iff {m m' : SortedMap κ ν} {k : κ} :
    m.erase k = m'.erase k ↔ ∀ k', k' ≠ k → m.find? k' = m'.find? k' := by
  constructor
  · intro h k' hk
    have hfind := congrArg (find? · k') h
    simpa only [find?_erase, if_neg hk] using hfind
  · intro h
    apply ext_find?
    intro k'
    rw [find?_erase, find?_erase]
    split
    · rfl
    · next hk => exact h k' hk

lemma erase_modify_self (m : SortedMap κ ν) (k : κ) (f : ν → ν) :
    (m.modify k f).erase k = m.erase k := by
  apply ext_find?
  intro k'
  by_cases h : k' = k <;> simp [find?_erase, find?_modify, h]

lemma erase_modify (m : SortedMap κ ν) {k k' : κ} (h : k ≠ k') (f : ν → ν) :
    (m.modify k f).erase k' = (m.erase k').modify k f := by
  apply ext_find?
  intro a
  by_cases ha : a = k
  · subst ha
    simp [find?_erase, find?_modify, h]
  · simp [find?_erase, find?_modify, ha]

variable [Std.IsLinearOrder κ] [DecidableLT κ]

lemma erase_insert_self (m : SortedMap κ ν) (k : κ) (v : ν) :
    (m.insert k v).erase k = m.erase k := by
  apply ext_find?
  intro k'
  by_cases h : k' = k <;> simp [find?_erase, find?_insert, h]

lemma erase_insert (m : SortedMap κ ν) {k k' : κ} (h : k ≠ k') (v : ν) :
    (m.insert k v).erase k' = (m.erase k').insert k v := by
  apply ext_find?
  intro a
  by_cases ha : a = k
  · subst ha
    simp [find?_erase, find?_insert, h]
  · simp [find?_erase, find?_insert, ha]

lemma find?_ofList (es : List (κ × ν)) (k : κ) :
    (ofList es).find? k = (es.reverse.find? fun e => e.1 = k).map (·.2) := by
  have hfold (m : SortedMap κ ν) :
      (es.foldl (fun m e => m.insert e.1 e.2) m).find? k =
        ((es.reverse.find? fun e => e.1 = k).map (·.2)).or (m.find? k) := by
    induction es generalizing m with
    | nil => rfl
    | cons e rest ih =>
      rw [List.foldl_cons, ih, find?_insert, List.reverse_cons, List.find?_append]
      by_cases hk : k = e.1
      · cases rest.reverse.find? fun e => e.1 = k <;> simp [hk]
      · cases rest.reverse.find? fun e => e.1 = k <;> simp [hk, Ne.symm hk]
  rw [ofList, hfold]
  exact Option.or_none

lemma find?_ofList_eq_none_iff (es : List (κ × ν)) (k : κ) :
    (ofList es).find? k = none ↔ ∀ e ∈ es, e.1 ≠ k := by
  rw [find?_ofList]
  simp

lemma erase_ofList (es : List (κ × ν)) (k : κ) :
    (ofList es).erase k = ofList (es.filter fun e => e.1 ≠ k) := by
  have hfold (m : SortedMap κ ν) :
      (es.foldl (fun m e => m.insert e.1 e.2) m).erase k =
        (es.filter fun e => e.1 ≠ k).foldl (fun m e => m.insert e.1 e.2) (m.erase k) := by
    induction es generalizing m with
    | nil => rfl
    | cons e rest ih =>
      rw [List.foldl_cons, ih]
      by_cases he : e.1 = k
      · simp [← he, erase_insert_self]
      · simp [he, erase_insert]
  rw [ofList, hfold]
  rfl

end SortedMap

end MergeQueue
