import MergeQueue.Pool.Evaluation
import MergeQueue.Proofs.Policy.Checks

namespace MergeQueue

def Specific (text : String) : Prop := ∃ c, text.toList.head? = some c ∧ c ≠ 'N' ∧ c ≠ 'I'

namespace Specific

variable {text : String}

lemma append (h : Specific text) (rest : String) : Specific (text ++ rest) := by
  obtain ⟨c, hc, hn⟩ := h
  refine ⟨c, ?_, hn⟩
  rw [String.toList_append, List.head?_append, hc]
  rfl

lemma joined {sep : String} {texts : List String} (hne : texts ≠ [])
    (h : ∀ text ∈ texts, Specific text) : Specific (Text.joined sep texts) := by
  obtain ⟨first, rest, rfl⟩ := List.exists_cons_of_ne_nil hne
  have hfirst := h first List.mem_cons_self
  cases rest with
  | nil => exact hfirst
  | cons second rest => exact (hfirst.append sep).append _

lemma ne_note (h : Specific text) : text ≠ notMergeableNote := by
  obtain ⟨c, hc, hn⟩ := h
  rintro rfl
  exact hn.1 (Option.some.inj hc).symm

lemma ne_empty (h : Specific text) : text ≠ "" := by
  obtain ⟨c, hc, _⟩ := h
  rintro rfl
  cases hc

lemma ne_inMergePool (h : Specific text) : text ≠ inMergePoolNote := by
  obtain ⟨c, hc, hn⟩ := h
  rintro rfl
  exact hn.2 (Option.some.inj hc).symm

lemma notMergeable_ne (h : Specific text) : notMergeable text ≠ notMergeableNote := by
  have hempty : text.isEmpty = false := by
    rw [Bool.eq_false_iff]
    exact fun he => h.ne_empty (String.isEmpty_iff.mp he)
  intro heq
  rw [notMergeable, hempty] at heq
  have hlength := congrArg String.length heq
  have hblank : " ".length = 1 := rfl
  simp only [Bool.false_eq_true, if_false, String.length_append] at hlength
  omega

end Specific

lemma inMergePool_ne : inMergePoolNote ≠ notMergeableNote := by decide

lemma head?_notMergeable (message : String) :
    (notMergeable message).toList.head? = some 'N' := by
  rw [notMergeable]
  split
  · rfl
  · rw [String.toList_append, String.toList_append, List.append_assoc, List.head?_append]
    rfl

namespace Policy

lemma specific_of_violations {query : MergeQuery} {pr : PullRequest} {text : String}
    (h : text ∈ violations query pr) : Specific text := by
  have hliteral {lead name rest : String} (c : Char) (hc : lead.toList.head? = some c)
      (hn : c ≠ 'N' ∧ c ≠ 'I') (h : text ∈ [lead ++ name ++ rest]) : Specific text := by
    rw [List.mem_singleton.mp h]
    exact (Specific.append ⟨c, hc, hn⟩ name).append rest
  simp only [violations, labelViolations, authorViolations, branchViolations, List.mem_append] at h
  rcases h with ((h | h) | h) | h
  · split at h
    · cases h
    · exact hliteral 'L' rfl (by decide) h
  · split at h
    · cases h
    · exact hliteral 'L' rfl (by decide) h
  · split at h
    · exact hliteral 'A' rfl (by decide) h
    · split at h
      · exact hliteral 'A' rfl (by decide) h
      · cases h
  · split at h
    · exact hliteral 'B' rfl (by decide) h
    · split at h
      · exact hliteral 'B' rfl (by decide) h
      · cases h

lemma specific_checkSimple {query : MergeQuery} {pr : PullRequest}
    (h : (checkSimple query pr).passed = false) : Specific (checkSimple query pr).message :=
  .joined (fun hnil => by simp [checkSimple, hnil] at h) fun _ => specific_of_violations

lemma specific_checkStatuses {query : MergeQuery} {statuses : Statuses} {own : String}
    (h : (checkStatuses query statuses own).passed = false) :
    Specific (checkStatuses query statuses own).message := by
  obtain ⟨contexts, _, _, htext⟩ := listsUnmet_of_failed h
  rw [htext]
  exact (Specific.append ⟨'C', rfl, by decide⟩ _).append _

lemma passed_iff_message (query : MergeQuery) (pr : PullRequest) :
    (checkSimple query pr).passed = true ↔ (checkSimple query pr).message = "" := by
  constructor
  · intro hpassed
    rw [checkSimple, List.isEmpty_iff] at hpassed
    rw [checkSimple, hpassed]
    rfl
  · intro hempty
    by_contra hpassed
    exact (specific_checkSimple (Bool.eq_false_iff.mpr hpassed)).ne_empty hempty

lemma isEmpty_checkStatuses (query : MergeQuery) (statuses : Statuses) (own : String) :
    (checkStatuses query statuses own).message.isEmpty =
      (checkStatuses query statuses own).passed := by
  cases hpassed : (checkStatuses query statuses own).passed with
  | true => rw [message_checkStatuses_of_passed hpassed, String.isEmpty_iff.mpr rfl]
  | false =>
    rw [Bool.eq_false_iff]
    exact mt String.isEmpty_iff.mp (specific_checkStatuses hpassed).ne_empty

lemma evaluate_of_simple_passed {query : MergeQuery} {pr : PullRequest} (statuses : Statuses)
    (own : String) (h : (checkSimple query pr).passed = true) :
    evaluate query pr statuses own =
      ⟨pr.mergeable && (checkStatuses query statuses own).passed, false, Text.joined " "
        ((if pr.mergeable then [] else ["Merge conflicts exist."]) ++
          if (checkStatuses query statuses own).passed then []
          else [(checkStatuses query statuses own).message])⟩ := by
  have hsimple : (checkSimple query pr).message.isEmpty = true :=
    String.isEmpty_iff.mpr ((passed_iff_message query pr).mp h)
  simp only [evaluate, h, hsimple, isEmpty_checkStatuses, if_true, List.append_nil]

lemma evaluate_of_simple_failed {query : MergeQuery} {pr : PullRequest} (statuses : Statuses)
    (own : String) (h : (checkSimple query pr).passed = false) :
    evaluate query pr statuses own = ⟨false, true, (checkSimple query pr).message⟩ := by
  unfold evaluate
  dsimp only
  rw [if_neg (by simp [h])]

lemma remove_evaluate (query : MergeQuery) (pr : PullRequest) (statuses : Statuses)
    (own : String) : (evaluate query pr statuses own).remove = !(checkSimple query pr).passed := by
  cases hp : (checkSimple query pr).passed with
  | false => rw [evaluate_of_simple_failed statuses own hp]; rfl
  | true => rw [evaluate_of_simple_passed statuses own hp]; rfl

lemma failed_of_remove {query : MergeQuery} {pr : PullRequest} {statuses : Statuses}
    {own : String} (h : (evaluate query pr statuses own).remove = true) :
    (evaluate query pr statuses own).passed = false := by
  rw [remove_evaluate] at h
  rw [evaluate_of_simple_failed statuses own (by simpa using h)]

lemma specific_evaluate {query : MergeQuery} {pr : PullRequest} {statuses : Statuses}
    {own : String} (h : (evaluate query pr statuses own).passed = false) :
    Specific (evaluate query pr statuses own).message := by
  cases hsimple : (checkSimple query pr).passed with
  | true =>
    rw [evaluate_of_simple_passed statuses own hsimple] at h ⊢
    dsimp only at h ⊢
    refine .joined (fun hnil => ?_) fun text htext => ?_
    · obtain ⟨hconflicts, hchecks⟩ := List.append_eq_nil_iff.mp hnil
      have hmergeable : pr.mergeable = true := by simpa using hconflicts
      have hpassed : (checkStatuses query statuses own).passed = true := by simpa using hchecks
      simp [hmergeable, hpassed] at h
    · rcases List.mem_append.mp htext with htext | htext
      · split at htext
        · cases htext
        · rw [List.mem_singleton.mp htext]
          exact ⟨'M', rfl, by decide⟩
      · split at htext
        · cases htext
        · next hchecks =>
          rw [List.mem_singleton.mp htext]
          exact specific_checkStatuses (by simpa using hchecks)
  | false =>
    rw [evaluate_of_simple_failed statuses own hsimple]
    exact specific_checkSimple hsimple

end Policy

end MergeQueue
