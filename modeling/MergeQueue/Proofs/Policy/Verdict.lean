import MergeQueue.Proofs.Policy.Rules

namespace MergeQueue

namespace Policy

inductive Note (due : Prop) (worded : String → Prop) : List String → Prop where
  | none (h : ¬due) : Note due worded []
  | said {text : String} (h : due) (hworded : worded text) : Note due worded [text]

lemma Note.of_ite {due : Prop} {worded : String → Prop} {b : Bool} {text : String}
    (hdue : b = false ↔ due) (hworded : due → worded text) :
    Note due worded (if b then [] else [text]) := by
  cases b with
  | true => exact .none fun h => Bool.noConfusion (hdue.mpr h)
  | false => exact .said (hdue.mp rfl) (hworded (hdue.mp rfl))

variable {query : MergeQuery} {pr : PullRequest} {statuses : Statuses} {own : String}

lemma passed_evaluate_iff :
    (evaluate query pr statuses own).passed = true ↔
      (checkSimple query pr).passed = true ∧ pr.mergeable = true ∧
        (checkStatuses query statuses own).passed = true := by
  cases hsimple : (checkSimple query pr).passed with
  | false => simp [evaluate_of_simple_failed statuses own hsimple]
  | true => simp [evaluate_of_simple_passed statuses own hsimple]

lemma message_evaluate_of_passed (h : (evaluate query pr statuses own).passed = true) :
    (evaluate query pr statuses own).message = "" := by
  obtain ⟨hsimple, hmergeable, hchecks⟩ := passed_evaluate_iff.mp h
  simp [evaluate_of_simple_passed statuses own hsimple, hmergeable, hchecks, Text.joined]

lemma failed_checkStatuses_iff :
    (checkStatuses query statuses own).passed = false ↔
      ∃ context, Unmet query statuses own context := by
  rw [← Bool.not_eq_true, passed_checkStatuses_iff, not_forall_not]

lemma noted_evaluate (h : (checkSimple query pr).passed = true) :
    ∃ conflicts unmet,
      Note (pr.mergeable = false) (· = "Merge conflicts exist.") conflicts ∧
      Note (∃ context, Unmet query statuses own context)
        (fun text => text = (checkStatuses query statuses own).message ∧
          ListsUnmet (Unmet query statuses own) text) unmet ∧
      (evaluate query pr statuses own).message = " ".intercalate (conflicts ++ unmet) := by
  have hmessage : (evaluate query pr statuses own).message =
      " ".intercalate ((if pr.mergeable then [] else ["Merge conflicts exist."]) ++
        if (checkStatuses query statuses own).passed then []
        else [(checkStatuses query statuses own).message]) := by
    rw [evaluate_of_simple_passed statuses own h]
    exact Text.joined_eq_intercalate ..
  refine ⟨_, _, .of_ite .rfl fun _ => rfl, .of_ite failed_checkStatuses_iff ?_, hmessage⟩
  intro hunmet
  exact ⟨rfl, listsUnmet_of_failed (failed_checkStatuses_iff.mpr hunmet)⟩

lemma remove_evaluate_iff :
    (evaluate query pr statuses own).remove = true ↔ (checkSimple query pr).passed = false := by
  rw [remove_evaluate, Bool.not_eq_true']

lemma passed_iff_silent :
    (evaluate query pr statuses own).passed = true ↔
      (evaluate query pr statuses own).message = "" := by
  refine ⟨message_evaluate_of_passed, fun hempty => ?_⟩
  by_contra hfailed
  exact (specific_evaluate (Bool.eq_false_iff.mpr hfailed)).ne_empty hempty

lemma evaluate_of_remove (h : (evaluate query pr statuses own).remove = true) (mergeable : Bool)
    (statuses' : Statuses) (own' : String) :
    evaluate query { pr with mergeable } statuses' own' = evaluate query pr statuses own := by
  have hsimple := remove_evaluate_iff.mp h
  -- The simple rules do not look at conflicts.
  have hother : (checkSimple query { pr with mergeable }).passed = false := hsimple
  rw [evaluate_of_simple_failed statuses own hsimple,
    evaluate_of_simple_failed statuses' own' hother]
  rfl

/-- A pull request leaves the merge pool exactly if it violates a simple rule, and passes exactly if
it violates none, merges without conflicts and has no unmet check; it passes exactly if nothing is
said. Where a simple rule is violated, that alone is said, whatever conflicts or statuses there are.
Otherwise it is said that there are conflicts, and which checks are unmet. -/
theorem full_rules (query : MergeQuery) (pr : PullRequest) (statuses : Statuses) (own : String) :
    let verdict := evaluate query pr statuses own
    (verdict.remove = true ↔ (checkSimple query pr).passed = false) ∧
    (verdict.passed = true ↔
      (checkSimple query pr).passed = true ∧ pr.mergeable = true ∧
        (checkStatuses query statuses own).passed = true) ∧
    ¬(verdict.passed = true ∧ verdict.remove = true) ∧
    (verdict.passed = true ↔ verdict.message = "") ∧
    (verdict.remove = true → verdict.message = (checkSimple query pr).message ∧
      ∀ (mergeable : Bool) (statuses' : Statuses) (own' : String),
        evaluate query { pr with mergeable } statuses' own' = verdict) ∧
    (verdict.remove = false → ∃ conflicts unmet,
      Note (pr.mergeable = false) (· = "Merge conflicts exist.") conflicts ∧
      Note (∃ context, Unmet query statuses own context)
        (fun text => text = (checkStatuses query statuses own).message ∧
          ListsUnmet (Unmet query statuses own) text) unmet ∧
      verdict.message = " ".intercalate (conflicts ++ unmet)) := by
  dsimp only
  refine ⟨remove_evaluate_iff, passed_evaluate_iff, fun ⟨hpassed, hremoved⟩ => ?_,
    passed_iff_silent, fun hremoved => ⟨?_, evaluate_of_remove hremoved⟩, fun hkept => ?_⟩
  · rw [failed_of_remove hremoved] at hpassed
    cases hpassed
  · rw [evaluate_of_simple_failed statuses own (remove_evaluate_iff.mp hremoved)]
  · apply noted_evaluate
    rw [remove_evaluate, Bool.not_eq_false'] at hkept
    exact hkept

theorem full_rules_demo :
    let statuses := statusesOf [("build", .pending), ("lint", .failure)]
    let query := { MergeQuery.default with checks := ["test", "build"] }
    let strict := { query with labels := ["lgtm"] }
    let pr := { guardedPull ["wip"] "main" with mergeable := false }
    evaluate query pr statuses "queue" =
      ⟨false, false, "Merge conflicts exist. Checks [build,test] are not successful."⟩ ∧
    (∃ conflicts unmet,
      Note (pr.mergeable = false) (· = "Merge conflicts exist.") conflicts ∧
      Note (∃ context, Unmet query statuses "queue" context)
        (fun text => text = (checkStatuses query statuses "queue").message ∧
          ListsUnmet (Unmet query statuses "queue") text) unmet ∧
      (evaluate query pr statuses "queue").message = " ".intercalate (conflicts ++ unmet)) ∧
    evaluate strict { pr with mergeable := true }
        (statusesOf [("build", .success), ("test", .success)]) "queue" =
      ⟨false, true, "Label [lgtm] is required."⟩ := by
  intro statuses query strict pr
  obtain ⟨_, _, _, _, _, hkept⟩ := full_rules query pr statuses "queue"
  obtain ⟨_, _, _, _, hremoved, _⟩ := full_rules strict pr statuses "queue"
  refine ⟨by decide +kernel, hkept (by decide +kernel), ?_⟩
  obtain ⟨_, hsame⟩ := hremoved (by decide +kernel)
  rw [hsame]
  decide +kernel

end Policy

end MergeQueue
