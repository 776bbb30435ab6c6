import MergeQueue.Proofs.Affix
import MergeQueue.Proofs.Sorted
import MergeQueue.Policy

/-! The rules on statuses, said without lists: which checks count, and which of those are unmet. -/

namespace MergeQueue

namespace Policy

def Succeeds (statuses : Statuses) (context : String) : Prop :=
  ∃ status, statuses.find? context = some status ∧ status.state = .success

/-- Named checks count whether or not they are reported. Where none is named, those reported count
that are not optional. -/
def Counts (query : MergeQuery) (statuses : Statuses) (own context : String) : Prop :=
  context ≠ own ∧
    (context ∈ query.checks ∨
      query.checks = [] ∧ context ∉ query.optionalChecks ∧
        ∃ status, statuses.find? context = some status)

def Unmet (query : MergeQuery) (statuses : Statuses) (own context : String) : Prop :=
  Counts query statuses own context ∧ ¬Succeeds statuses context

def ListsUnmet (unmet : String → Prop) (text : String) : Prop :=
  ∃ contexts : List String, contexts.Pairwise (· < ·) ∧
    (∀ context, context ∈ contexts ↔ unmet context) ∧
    text = "Checks [" ++ ",".intercalate contexts ++ "] are not successful."

variable {query : MergeQuery} {statuses statuses' : Statuses} {own : String}

lemma succeeded_iff {context : String} :
    succeeded statuses context = true ↔ Succeeds statuses context := by
  simp only [succeeded, Option.any_eq_true, decide_eq_true_eq, Succeeds]

lemma mem_unmetAmong_iff {reported : List String} {context : String}
    (h : context ∈ reported ↔ context ∈ statuses.keys) :
    context ∈ unmetAmong reported query statuses own ↔ Unmet query statuses own context := by
  rw [← SortedMap.find?_isSome_iff, Option.isSome_iff_exists] at h
  rw [Unmet, Counts, ← succeeded_iff, ← h, unmetAmong]
  by_cases hnamed : query.checks = []
  · simp [hnamed]
    tauto
  · simp [hnamed]
    tauto

lemma checksVerdict_congr {unmet unmet' : List String}
    (h : ∀ context, context ∈ unmet ↔ context ∈ unmet') :
    checksVerdict unmet = checksVerdict unmet' := by
  have hempty : unmet.isEmpty = unmet'.isEmpty := by
    rw [Bool.eq_iff_iff, List.isEmpty_iff, List.isEmpty_iff]
    simp only [List.eq_nil_iff_forall_not_mem, h]
  rw [checksVerdict, checksVerdict, hempty, listing, listing, SortedSet.distinct_congr h]

lemma passed_checkStatuses_iff :
    (checkStatuses query statuses own).passed = true ↔
      ∀ context, ¬Unmet query statuses own context := by
  have hpassed (unmet : List String) : (checksVerdict unmet).passed = true ↔ unmet = [] := by
    cases unmet <;> simp [checksVerdict]
  rw [checkStatuses, hpassed, unmetChecks, List.eq_nil_iff_forall_not_mem]
  exact forall_congr' fun _ => not_congr (mem_unmetAmong_iff .rfl)

lemma message_checkStatuses_of_passed (h : (checkStatuses query statuses own).passed = true) :
    (checkStatuses query statuses own).message = "" := by
  rw [checkStatuses, checksVerdict] at h ⊢
  split at h
  · next hnone => rw [if_pos hnone]
  · cases h

lemma exists_listing (names : List String) :
    ∃ sorted : List String, sorted.Pairwise (· < ·) ∧ (∀ name, name ∈ sorted ↔ name ∈ names) ∧
      listing names = ",".intercalate sorted :=
  ⟨_, (SortedSet.ofList names).ascending, SortedSet.mem_distinct names,
    Text.joined_eq_intercalate ..⟩

lemma listsUnmet_of_failed (h : (checkStatuses query statuses own).passed = false) :
    ListsUnmet (Unmet query statuses own) (checkStatuses query statuses own).message := by
  rw [checkStatuses, checksVerdict] at h ⊢
  split at h
  · cases h
  · next hsome =>
    obtain ⟨contexts, hascending, hmem, htext⟩ := exists_listing (unmetChecks query statuses own)
    rw [if_neg hsome, htext]
    exact ⟨contexts, hascending, fun context => (hmem context).trans (mem_unmetAmong_iff .rfl), rfl⟩

lemma checkStatuses_congr
    (h : ∀ context, Unmet query statuses own context ↔ Unmet query statuses' own context) :
    checkStatuses query statuses own = checkStatuses query statuses' own := by
  apply checksVerdict_congr
  intro context
  rw [unmetChecks, unmetChecks, mem_unmetAmong_iff .rfl, mem_unmetAmong_iff .rfl, h]

lemma checkStatuses_of_agree
    (h : ∀ context, context ≠ own → statuses.find? context = statuses'.find? context) :
    checkStatuses query statuses own = checkStatuses query statuses' own := by
  apply checkStatuses_congr
  intro context
  by_cases hown : context = own
  · exact iff_of_false (fun hunmet => hunmet.1.1 hown) fun hunmet => hunmet.1.1 hown
  · rw [Unmet, Unmet, Counts, Counts, Succeeds, Succeeds, h context hown]

lemma Unmet.of_insert {context name : String} {status : CommitStatus}
    (hsuccess : status.state = .success)
    (h : Unmet query (statuses.insert context status) own name) :
    Unmet query statuses own name := by
  by_cases hname : name = context
  · refine absurd ⟨status, ?_, hsuccess⟩ h.2
    rw [SortedMap.find?_insert, if_pos hname]
  · have hfind := SortedMap.find?_insert statuses context status name
    rw [if_neg hname] at hfind
    rwa [Unmet, Counts, Succeeds, hfind] at h

lemma passed_iff_of_named (h : query.checks ≠ []) :
    (checkStatuses query statuses own).passed = true ↔
      ∀ context ∈ query.checks, context ≠ own → Succeeds statuses context := by
  rw [passed_checkStatuses_iff]
  constructor
  · intro hmet context hcontext hown
    by_contra hnot
    exact hmet context ⟨⟨hown, .inl hcontext⟩, hnot⟩
  · rintro hall context ⟨⟨hown, hcontext | ⟨hnone, _⟩⟩, hnot⟩
    · exact hnot (hall context hcontext hown)
    · exact h hnone

lemma passed_iff_of_unnamed (h : query.checks = []) :
    (checkStatuses query statuses own).passed = true ↔
      ∀ context status, statuses.find? context = some status → context ≠ own →
        context ∉ query.optionalChecks → status.state = .success := by
  rw [passed_checkStatuses_iff]
  constructor
  · intro hmet context status hstatus hown hoptional
    by_contra hnot
    refine hmet context ⟨⟨hown, .inr ⟨h, hoptional, status, hstatus⟩⟩, ?_⟩
    rintro ⟨status', hstatus', hsuccess⟩
    rw [hstatus, Option.some.injEq] at hstatus'
    exact hnot (hstatus' ▸ hsuccess)
  · rintro hall context ⟨⟨hown, hcontext | ⟨_, hoptional, status, hstatus⟩⟩, hnot⟩
    · rw [h] at hcontext
      cases hcontext
    · exact hnot ⟨status, hstatus, hall context status hstatus hown hoptional⟩

lemma checksVerdict_reordered {reported : List String} (h : reported.Perm statuses.keys) :
    checksVerdict (unmetAmong reported query statuses own) = checkStatuses query statuses own := by
  apply checksVerdict_congr
  intro context
  rw [unmetChecks, mem_unmetAmong_iff h.mem_iff, mem_unmetAmong_iff .rfl]

lemma checkStatuses_insert_own (status : CommitStatus) :
    checkStatuses query (statuses.insert own status) own = checkStatuses query statuses own := by
  apply checkStatuses_of_agree
  intro context hown
  rw [SortedMap.find?_insert, if_neg hown]

lemma checkStatuses_erase_own :
    checkStatuses query (statuses.erase own) own = checkStatuses query statuses own := by
  apply checkStatuses_of_agree
  intro context hown
  rw [SortedMap.find?_erase, if_neg hown]

lemma passed_insert_success {context : String} {status : CommitStatus}
    (hsuccess : status.state = .success) (h : (checkStatuses query statuses own).passed = true) :
    (checkStatuses query (statuses.insert context status) own).passed = true := by
  rw [passed_checkStatuses_iff] at h ⊢
  exact fun name hunmet => h name (hunmet.of_insert hsuccess)

/-- The checks pass exactly if all that count are successful: the named ones, or else the reported
ones but the optional, and never the one of the queue. Otherwise the unmet ones are listed. The
verdict is the same in whatever order the reported contexts are met and whatever is reported under
the context of the queue, and what passes goes on to pass when a status turns to success. -/
theorem check_evaluation (query : MergeQuery) (statuses : Statuses) (own : String) :
    let verdict := checkStatuses query statuses own
    (query.checks ≠ [] →
      (verdict.passed = true ↔ ∀ context ∈ query.checks, context ≠ own →
        Succeeds statuses context)) ∧
    (query.checks = [] →
      (verdict.passed = true ↔ ∀ context status, statuses.find? context = some status →
        context ≠ own → context ∉ query.optionalChecks → status.state = .success)) ∧
    (verdict.passed = true → verdict.message = "") ∧
    (verdict.passed = false → ListsUnmet (Unmet query statuses own) verdict.message) ∧
    (∀ reported : List String, reported.Perm statuses.keys →
      checksVerdict (unmetAmong reported query statuses own) = verdict) ∧
    (∀ status, checkStatuses query (statuses.insert own status) own = verdict) ∧
    checkStatuses query (statuses.erase own) own = verdict ∧
    ∀ context status, status.state = .success → verdict.passed = true →
      (checkStatuses query (statuses.insert context status) own).passed = true := by
  dsimp only
  refine ⟨passed_iff_of_named, passed_iff_of_unnamed, message_checkStatuses_of_passed,
    listsUnmet_of_failed, ?_, checkStatuses_insert_own, checkStatuses_erase_own, ?_⟩
  · exact fun _ => checksVerdict_reordered
  · exact fun _ _ => passed_insert_success

def statusesOf (states : List (String × CommitState)) : Statuses :=
  .ofList (states.map fun (context, state) => (context, ⟨context, state, "", ""⟩))

theorem check_evaluation_demo :
    let statuses := statusesOf
      [("test", .success), ("queue", .failure), ("build", .pending), ("lint", .error)]
    let named := { MergeQuery.default with checks := ["docs", "build", "queue", "build", "test"] }
    let lenient := { MergeQuery.default with optionalChecks := ["lint", "build"] }
    (checkStatuses named statuses "queue").message =
      "Checks [build,docs] are not successful." ∧
    ListsUnmet (Unmet named statuses "queue") (checkStatuses named statuses "queue").message ∧
    checksVerdict (unmetAmong ["test", "queue", "lint", "build"] .default statuses "queue") =
      ⟨false, "Checks [build,lint] are not successful."⟩ ∧
    checkStatuses named (statuses.insert "queue" ⟨"queue", .success, "", ""⟩) "queue" =
      checkStatuses named statuses "queue" ∧
    (checkStatuses lenient (statuses.insert "docs" ⟨"docs", .success, "", ""⟩) "queue").passed =
      true := by
  intro statuses named lenient
  obtain ⟨hnamed, _, _, hlisted, _, hown, _⟩ := check_evaluation named statuses "queue"
  obtain ⟨_, _, _, _, horder, _⟩ := check_evaluation .default statuses "queue"
  obtain ⟨_, _, _, _, _, _, _, hsuccess⟩ := check_evaluation lenient statuses "queue"
  have hunmet : ¬Succeeds statuses "docs" := by
    rw [← succeeded_iff]
    decide +kernel
  refine ⟨by decide +kernel, hlisted ?_, ?_, hown _, hsuccess _ _ rfl (by decide +kernel)⟩
  · rw [← Bool.not_eq_true, hnamed (by decide)]
    exact fun hall => hunmet (hall "docs" (by decide) (by decide))
  · rw [horder _ (by decide +kernel)]
    decide +kernel

end Policy

end MergeQueue
