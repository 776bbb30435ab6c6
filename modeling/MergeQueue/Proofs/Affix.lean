import Mathlib.Data.List.Infix
import Mathlib.Data.List.TakeWhile
import MergeQueue.PullRequest

namespace MergeQueue

namespace Text

lemma after?_eq_some_iff {lead text rest : String} :
    after? lead text = some rest ↔ text = lead ++ rest := by
  rw [after?, Option.map_eq_some_iff]
  constructor
  · rintro ⟨cs, hcs, rfl⟩
    have happend := List.isPrefixOf?_eq_some_iff_append_eq.mp hcs
    rw [← String.toList_inj, String.toList_append, String.toList_ofList, happend]
  · rintro rfl
    refine ⟨rest.toList, List.isPrefixOf?_eq_some_iff_append_eq.mpr ?_, String.ofList_toList⟩
    exact String.toList_append.symm

lemma splitLast_eq_none_iff {sep : Char} {text : List Char} :
    splitLast sep text = none ↔ sep ∉ text := by
  induction text with
  | nil => simp [splitLast]
  | cons c rest ih =>
    rw [splitLast]
    cases hrest : splitLast sep rest with
    | none =>
      have hnot := ih.mp hrest
      by_cases hc : c = sep
      · simp [hc]
      · simp [hc, hnot, Ne.symm hc]
    | some =>
      have hmem : sep ∈ rest := by
        by_contra hnot
        rw [ih.mpr hnot] at hrest
        cases hrest
      simp [hmem]

lemma splitLast_append {sep : Char} (front : List Char) {back : List Char} (h : sep ∉ back) :
    splitLast sep (front ++ sep :: back) = some (front, back) := by
  induction front with
  | nil => simp [splitLast, splitLast_eq_none_iff.mpr h]
  | cons c front ih => rw [List.cons_append, splitLast, ih]

lemma splitLast_eq_some_iff {sep : Char} {text front back : List Char} :
    splitLast sep text = some (front, back) ↔ text = front ++ sep :: back ∧ sep ∉ back := by
  constructor
  · intro h
    induction text generalizing front with
    | nil => cases h
    | cons c rest ih =>
      rw [splitLast] at h
      split at h
      · next front' back' hrest =>
        cases h
        obtain ⟨rfl, hnot⟩ := ih hrest
        exact ⟨rfl, hnot⟩
      · next hrest =>
        split at h
        · next hc =>
          cases h
          exact ⟨by rw [hc, List.nil_append], splitLast_eq_none_iff.mp hrest⟩
        · cases h
  · rintro ⟨rfl, hnot⟩
    exact splitLast_append front hnot

lemma splitFirst_eq_none {sep : Char} {text : List Char} (h : sep ∉ text) :
    splitFirst sep text = none := by
  induction text with
  | nil => rfl
  | cons c rest ih =>
    rw [List.mem_cons, not_or] at h
    rw [splitFirst, if_neg (Ne.symm h.1), ih h.2]
    rfl

lemma splitFirst_append {sep : Char} (text : List Char) {rest : List Char} (h : sep ∉ rest) :
    splitFirst sep (text ++ rest) =
      (splitFirst sep text).map fun (front, back) => (front, back ++ rest) := by
  induction text with
  | nil => exact splitFirst_eq_none h
  | cons c text ih =>
    rw [List.cons_append, splitFirst, splitFirst, ih]
    split
    · rfl
    · cases splitFirst sep text <;> rfl

lemma append_cons_eq_iff {sep : Char} {front back front' back' : List Char} :
    front ++ sep :: back = front' ++ sep :: back' ↔
      (front = front' ∧ back = back') ∨
      (∃ mid, front' = front ++ sep :: mid ∧ back = mid ++ sep :: back') ∨
      ∃ mid, front = front' ++ sep :: mid ∧ back' = mid ++ sep :: back := by
  constructor
  · intro h
    rcases List.append_eq_append_iff.mp h with ⟨mid, rfl, hback⟩ | ⟨mid, rfl, hback⟩
    · cases mid with
      | nil => exact .inl ⟨by simp, (List.cons.inj hback).2⟩
      | cons c mid =>
        obtain ⟨rfl, rfl⟩ := List.cons.inj hback
        exact .inr (.inl ⟨mid, rfl, rfl⟩)
    · cases mid with
      | nil => exact .inl ⟨by simp, (List.cons.inj hback).2.symm⟩
      | cons c mid =>
        obtain ⟨rfl, rfl⟩ := List.cons.inj hback
        exact .inr (.inr ⟨mid, rfl, rfl⟩)
  · rintro (⟨rfl, rfl⟩ | ⟨mid, rfl, rfl⟩ | ⟨mid, rfl, rfl⟩) <;> simp

lemma getLast?_trimTrailing_ne (c : Char) (text : String) :
    (trimTrailing c text).toList.getLast? ≠ some c := by
  intro hlast
  have hhead : (text.toList.reverse.dropWhile (· == c)).head? = some c := by
    simpa [trimTrailing] using hlast
  have hnot := List.head?_dropWhile_not (· == c) text.toList.reverse
  rw [hhead] at hnot
  simp at hnot

lemma exists_eq_trimTrailing (c : Char) (text : String) :
    ∃ n, text.toList = (trimTrailing c text).toList ++ List.replicate n c := by
  have hsplit := List.takeWhile_append_dropWhile (p := (· == c)) (l := text.toList.reverse)
  have hrun : (text.toList.reverse.takeWhile (· == c)).reverse =
      List.replicate (text.toList.reverse.takeWhile (· == c)).length c := by
    rw [List.eq_replicate_iff]
    refine ⟨List.length_reverse, fun d hd => ?_⟩
    have hsame := List.mem_takeWhile_imp (List.mem_reverse.mp hd)
    exact eq_of_beq hsame
  refine ⟨(text.toList.reverse.takeWhile (· == c)).length, ?_⟩
  rw [trimTrailing, String.toList_ofList, ← hrun, ← List.reverse_append, hsplit,
    List.reverse_reverse]

lemma joined_eq_intercalate (sep : String) (texts : List String) :
    joined sep texts = sep.intercalate texts := by
  induction texts with
  | nil => rfl
  | cons text rest ih =>
    cases rest with
    | nil => rw [joined, String.intercalate_singleton]
    | cons next rest =>
      have hne : next :: rest ≠ [] := List.cons_ne_nil next rest
      rw [String.intercalate_cons_of_ne_nil hne, ← ih]
      rfl

end Text

lemma branchName_append (branch : String) : branchName ("refs/heads/" ++ branch) = branch := by
  rw [branchName, Text.after?_eq_some_iff.mpr rfl, Option.getD_some]

lemma branchName_of_ne {reference : String} (h : ∀ rest, reference ≠ "refs/heads/" ++ rest) :
    branchName reference = reference := by
  have hnone : Text.after? "refs/heads/" reference = none := by
    apply Option.eq_none_iff_forall_ne_some.mpr
    intro rest hrest
    exact h rest (Text.after?_eq_some_iff.mp hrest)
  rw [branchName, hnone, Option.getD_none]

end MergeQueue
