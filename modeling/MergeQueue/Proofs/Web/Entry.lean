import Mathlib.Data.List.Forall2
import MergeQueue.Web.GitHub
import MergeQueue.Web.GitLab

namespace MergeQueue.Web

namespace GitLab

structure MergeRequest.Stands (mr : MergeRequest) (pr : PullRequest) : Prop where
  id : pr.id = mr.iid
  title : pr.title = mr.title
  opened : pr.state = .opened ↔ mr.state = "opened"
  author : pr.author = ⟨mr.author.id, mr.author.username, ""⟩
  url : pr.url = mr.webUrl
  base : pr.base.reference = mr.targetBranch
  head : pr.head.reference = mr.sourceBranch
  baseSha : ∀ refs, mr.diffRefs = some refs → ∀ sha, refs.baseSha = some sha → pr.base.sha = sha
  noBaseSha : (∀ refs, mr.diffRefs = some refs → refs.baseSha = none) → pr.base.sha = ""
  headSha : ∀ sha, mr.sha = some sha → pr.head.sha = sha
  noHeadSha : mr.sha = none → pr.head.sha = ""
  labels : pr.labels = mr.labels
  mergeable : pr.mergeable = true ↔ mr.mergeStatus = "can_be_merged"

lemma MergeRequest.stands_toPullRequest (mr : MergeRequest) : mr.Stands mr.toPullRequest where
  id := rfl
  title := rfl
  opened := by
    rw [toPullRequest]
    by_cases h : mr.state = "opened"
    · simp [h]
    · simp [h]
  author := rfl
  url := rfl
  base := rfl
  head := rfl
  baseSha refs hrefs sha hsha := by simp [toPullRequest, hrefs, hsha]
  noBaseSha h := by
    have hnone : mr.diffRefs.bind (·.baseSha) = none := Option.bind_eq_none_iff.mpr h
    simp [toPullRequest, hnone]
  headSha sha h := by simp [toPullRequest, h]
  noHeadSha h := by simp [toPullRequest, h]
  labels := rfl
  mergeable := by simp [toPullRequest]

structure PipelineStatus.Stands (s : PipelineStatus) (status : CommitStatus) : Prop where
  context : status.context = s.name
  success : status.state = .success ↔ s.status = "success"
  failure : status.state = .failure ↔ s.status = "failed" ∨ s.status = "canceled"
  noError : status.state ≠ .error
  description : status.description = s.description.getD ""
  targetUrl : status.targetUrl = s.targetUrl.getD ""

lemma stateOf_eq (status : String) : stateOf status = if status = "success" then .success
    else if status = "failed" ∨ status = "canceled" then .failure else .pending := by
  unfold stateOf
  split
  · rfl
  · rfl
  · rfl
  · next hsuccess hfailed hcanceled =>
    rw [if_neg hsuccess, if_neg (not_or.mpr ⟨hfailed, hcanceled⟩)]

lemma PipelineStatus.stands_toCommitStatus (s : PipelineStatus) : s.Stands s.toCommitStatus where
  context := rfl
  success := by
    rw [toCommitStatus, stateOf_eq]
    split
    · simp [*]
    · split <;> simp [*]
  failure := by
    rw [toCommitStatus, stateOf_eq]
    split
    · simp [*]
    · split <;> simp [*]
  noError := by
    rw [toCommitStatus, stateOf_eq]
    split
    · simp
    · split <;> simp
  description := rfl
  targetUrl := rfl

end GitLab

structure GitHub.Report.Stands (report : GitHub.Report) (status : CommitStatus) : Prop where
  context : status.context = report.context
  state : status.state = report.state
  description : status.description = report.description.getD ""
  targetUrl : status.targetUrl = report.targetUrl.getD ""

lemma GitHub.Report.stands_toCommitStatus (report : GitHub.Report) :
    report.Stands report.toCommitStatus :=
  ⟨rfl, rfl, rfl, rfl⟩

lemma forall₂_map {α β : Type} {R : α → β → Prop} {f : α → β} (h : ∀ a, R a (f a)) (as : List α) :
    List.Forall₂ R as (as.map f) :=
  List.forall₂_map_right_iff.mpr (List.forall₂_same.mpr fun a _ => h a)

lemma map_eq_of_forall₂ {α β γ : Type} {R : α → β → Prop} {f : α → γ} {g : β → γ} {as : List α}
    {bs : List β} (h : List.Forall₂ R as bs) (heq : ∀ a b, R a b → g b = f a) :
    bs.map g = as.map f := by
  induction h with
  | nil => rfl
  | cons hab _ ih => rw [List.map_cons, List.map_cons, heq _ _ hab, ih]

end MergeQueue.Web
