import MergeQueue.Config.Json
import MergeQueue.Job.Json
import MergeQueue.Proofs.Json.Record

namespace MergeQueue

open Json

instance : LawfulJson String where
  decodes
    | _, _, .same _ => rfl

instance : Shallow String := ⟨0, fun _ => .string⟩

instance : LawfulJson Bool where
  decodes
    | _, _, .same _ => rfl

instance : Shallow Bool := ⟨0, fun _ => .bool⟩

instance : Shallow UInt64 := ⟨0, fun _ => .integer⟩

instance : LawfulJson UInt64 where
  decodes n j h := by
    cases h
    have hn : (0 : Int) ≤ n.toNat ∧ (n.toNat : Int) < 18446744073709551616 := by
      have hlt := n.toNat_lt
      omega
    change (if _ then some (UInt64.ofNat (n.toNat : Int).toNat) else none) = some n
    rw [if_pos hn, Int.toNat_natCast, UInt64.ofNat_toNat]

lemma mapM_decodes {α : Type} [ToJson α] [FromJson α] [LawfulJson α] {as : List α}
    {items : List Json} (h : List.Forall₂ Widened (as.map toJson) items) :
    items.mapM fromJson? = some as := by
  induction as generalizing items with
  | nil =>
    cases h
    rfl
  | cons a as ih =>
    cases h with
    | cons ha has =>
      rw [List.mapM_cons, LawfulJson.decodes a _ ha, ih has]
      rfl

instance {α : Type} [ToJson α] [FromJson α] [LawfulJson α] : LawfulJson (List α) where
  decodes as j h := by
    cases h with
    | same => exact mapM_decodes (List.forall₂_same.mpr fun _ _ => .same _)
    | array hitems => exact mapM_decodes hitems

instance {α : Type} [ToJson α] [Shallow α] : Shallow (List α) where
  depth := Shallow.depth α + 1
  within as := .array fun j hj => by
    obtain ⟨a, _, rfl⟩ := List.mem_map.mp hj
    exact Shallow.within a

class NeverNull (α : Type) [ToJson α] : Prop where
  ne_null : ∀ x : α, toJson x ≠ .null

instance {α : Type} [ToJson α] [FromJson α] [LawfulJson α] [NeverNull α] :
    LawfulJson (Option α) where
  decodes x j h := by
    cases x with
    | none =>
      cases h
      rfl
    | some a =>
      have hdecodes := LawfulJson.decodes a j h
      cases j with
      | null =>
        generalize hj : toJson (some a) = written at h
        cases h
        exact absurd hj (NeverNull.ne_null a)
      | _ => exact congrArg (Option.map some) hdecodes

instance {α : Type} [ToJson α] [Shallow α] : Shallow (Option α) where
  depth := Shallow.depth α
  within x := by
    cases x with
    | none => exact .null
    | some a => exact Shallow.within a

instance {α : Type} [ToJson α] [FromJson α] [Record α] : NeverNull α where
  ne_null x h := by
    rw [Record.written x] at h
    cases h

instance : NeverNull String := ⟨by rintro _ ⟨⟩⟩

instance : NeverNull MergeMethod := ⟨by rintro _ ⟨⟩⟩

instance : Shallow PullState := ⟨0, fun _ => .string⟩

instance : Shallow CommitState := ⟨0, fun _ => .string⟩

instance : Shallow MergeMethod := ⟨0, fun _ => .string⟩

instance : Shallow HostKind := ⟨0, fun _ => .string⟩

instance : LawfulJson PullState where
  decodes s j h := by
    cases s <;> cases h <;> rfl

instance : LawfulJson CommitState where
  decodes s j h := by
    cases s <;> cases h <;> rfl

instance : LawfulJson MergeMethod where
  decodes m j h := by
    cases m <;> cases h <;> rfl

instance : LawfulJson HostKind where
  decodes k j h := by
    cases k <;> cases h <;> rfl

instance : Record User where
  fields := [.required "id" (·.id), .required "name" (·.name), .optional "email" "" (·.email)]
  nodup := by decide
  written _ := rfl
  complete object := by simp [fromJson?]
  read object x := by
    cases x
    simp [fromJson?, Option.bind_eq_some_iff]

instance : Record GitRef where
  fields := [.required "ref" (·.reference), .required "sha" (·.sha)]
  nodup := by decide
  written _ := rfl
  complete object := by simp [fromJson?]
  read object x := by
    cases x
    simp [fromJson?, Option.bind_eq_some_iff]

instance : Record PullRequest where
  fields := [
    .required "id" (·.id), .required "title" (·.title), .required "state" (·.state),
    .required "author" (·.author), .required "url" (·.url), .required "base" (·.base),
    .required "head" (·.head), .required "labels" (·.labels), .required "mergeable" (·.mergeable)]
  nodup := by decide
  written _ := rfl
  complete object := by simp [fromJson?]
  read object x := by
    cases x
    simp [fromJson?, Option.bind_eq_some_iff, -Bool.exists_bool]

instance : Record Branch where
  fields := [.required "name" (·.name), .required "commit_id" (·.commit)]
  nodup := by decide
  written _ := rfl
  complete object := by simp [fromJson?]
  read object x := by
    cases x
    simp [fromJson?, Option.bind_eq_some_iff]

instance : Record CommitStatus where
  fields := [
    .required "context" (·.context), .required "state" (·.state),
    .optional "description" "" (·.description), .optional "target_url" "" (·.targetUrl)]
  nodup := by decide
  written _ := rfl
  complete object := by simp [fromJson?]
  read object x := by
    cases x
    simp [fromJson?, Option.bind_eq_some_iff]

instance : Record Token where
  fields := [.optional "value" none (·.value), .optional "env" none (·.variableName)]
  nodup := by decide
  written _ := rfl
  complete object := by simp [fromJson?]
  read object x := by
    cases x
    simp [fromJson?, Option.bind_eq_some_iff]

instance : Record GitConfig where
  fields := [
    .optional "type" .github (·.kind), .optional "api_url" none (·.apiUrl),
    .required "repository" (·.repository), .optional "token" none (·.token)]
  nodup := by decide
  written _ := rfl
  complete object := by simp [fromJson?]
  read object x := by
    cases x
    simp [fromJson?, Option.bind_eq_some_iff]

instance : Record MergeQuery where
  fields := [
    .fromWhole .default "labels" (·.labels), .fromWhole .default "block_labels" (·.blockLabels),
    .fromWhole .default "authors" (·.authors), .fromWhole .default "skip_authors" (·.skipAuthors),
    .fromWhole .default "branches" (·.branches),
    .fromWhole .default "skip_branches" (·.skipBranches), .fromWhole .default "checks" (·.checks),
    .fromWhole .default "optional_checks" (·.optionalChecks),
    .fromWhole .default "approve_required" (·.approveRequired)]
  nodup := by decide
  written _ := rfl
  complete object := by simp [fromJson?, MergeQuery.default]
  read object x := by
    cases x
    simp [fromJson?, Option.bind_eq_some_iff, MergeQuery.default, -Bool.exists_bool]

instance : Record MergeConfig where
  fields := [
    .optional "method" none (·.method), .optional "commit_template" none (·.commitTemplate),
    .optional "query" .default (·.query)]
  nodup := by decide
  written _ := rfl
  complete object := by simp [fromJson?]
  read object x := by
    cases x
    simp [fromJson?, Option.bind_eq_some_iff]

instance : Record JobWhen where
  fields := [
    .fromWhole .default "branch" (·.branch), .fromWhole .default "skip_branch" (·.skipBranch),
    .fromWhole .default "tag" (·.tag), .fromWhole .default "skip_tag" (·.skipTag)]
  nodup := by decide
  written _ := rfl
  complete object := by simp [fromJson?, JobWhen.default]
  read object x := by
    cases x
    simp [fromJson?, Option.bind_eq_some_iff, JobWhen.default]

instance : Record JobSpec where
  fields := [.required "name" (·.name), .optional "when" none (·.applies)]
  nodup := by decide
  written _ := rfl
  complete object := by simp [fromJson?]
  read object x := by
    cases x
    simp [fromJson?, Option.bind_eq_some_iff]

instance : Record JobsConfig where
  fields := [.fromWhole .default "pre_submit" (·.preSubmit)]
  nodup := by decide
  written _ := rfl
  complete object := by simp [fromJson?, JobsConfig.default]
  read object x := by
    cases x
    simp [fromJson?, JobsConfig.default]

instance : Record RepoConfig where
  fields := [
    .required "namespace" (·.ns), .required "name" (·.name), .required "git" (·.git),
    .optional "merge" none (·.merge), .optional "jobs" .default (·.jobs)]
  nodup := by decide
  written _ := rfl
  complete object := by simp [fromJson?]
  read object x := by
    cases x
    simp [fromJson?, Option.bind_eq_some_iff]

instance : Record Settings where
  fields := [
    .fromWhole .default "sync_period_secs" (·.syncPeriodSecs),
    .fromWhole .default "jitter_secs" (·.jitterSecs),
    .fromWhole .default "block_label" (·.blockLabel),
    .fromWhole .default "squash_label" (·.squashLabel),
    .fromWhole .default "merge_label" (·.mergeLabel),
    .fromWhole .default "max_batch_size" (·.maxBatchSize),
    .fromWhole .default "merge_delay_ms" (·.mergeDelayMs),
    .fromWhole .default "status_addr" (·.statusAddr),
    .fromWhole .default "status_context" (·.statusContext),
    .fromWhole .default "status_target_url" (·.statusTargetUrl),
    .fromWhole .default "bot_name" (·.botName), .fromWhole .default "bot_email" (·.botEmail)]
  nodup := by decide
  written _ := rfl
  complete object := by simp [fromJson?]
  read object x := by
    cases x
    simp [fromJson?, Option.bind_eq_some_iff]

instance : Record JobStoreSettings where
  fields := [.required "url" (·.url)]
  nodup := by decide
  written _ := rfl
  complete object := by simp [fromJson?]
  read object x := by
    cases x
    simp [fromJson?]

instance : Record ConfigFile where
  fields := [
    .fromWhole .default "blocker" (·.settings), .fromWhole .default "job_store" (·.jobStore),
    .fromWhole .default "repositories" (·.repositories)]
  nodup := by decide
  written _ := rfl
  complete object := by simp [fromJson?, ConfigFile.default]
  read object x := by
    cases x
    simp [fromJson?, Option.bind_eq_some_iff, ConfigFile.default]

instance : Record JobRef where
  fields := [.required "namespace" (·.ns), .required "name" (·.name)]
  nodup := by decide
  written _ := rfl
  complete object := by simp [fromJson?]
  read object x := by
    cases x
    simp [fromJson?, Option.bind_eq_some_iff]

instance : Record JobSender where
  fields := [.required "name" (·.name), .required "email" (·.email)]
  nodup := by decide
  written _ := rfl
  complete object := by simp [fromJson?]
  read object x := by
    cases x
    simp [fromJson?, Option.bind_eq_some_iff]

instance : Record JobBase where
  fields := [.required "ref" (·.reference), .required "sha" (·.sha)]
  nodup := by decide
  written _ := rfl
  complete object := by simp [fromJson?]
  read object x := by
    cases x
    simp [fromJson?, Option.bind_eq_some_iff]

instance : Record JobPull where
  fields := [
    .required "id" (·.id), .required "ref" (·.reference), .required "sha" (·.sha),
    .required "link" (·.link), .required "author" (·.author)]
  nodup := by decide
  written _ := rfl
  complete object := by simp [fromJson?]
  read object x := by
    cases x
    simp [fromJson?, Option.bind_eq_some_iff]

instance : Record JobRequest where
  fields := [
    .required "name" (·.name), .required "namespace" (·.ns), .required "config_name" (·.configName),
    .required "jobs" (·.jobs), .required "repository" (·.repository), .required "sender" (·.sender),
    .required "base" (·.base), .required "pulls" (·.pulls)]
  nodup := by decide
  written _ := rfl
  complete object := by simp [fromJson?]
  read object x := by
    cases x
    simp [fromJson?, Option.bind_eq_some_iff]

/-- All data of the queue: what is written is read back, from its text as well, and what is read
from an object that has more fields, or lacks one, goes by the fields of the record. -/
theorem json_laws :
    JsonLaws PullState ∧ JsonLaws CommitState ∧ JsonLaws MergeMethod ∧
    RecordLaws User ∧ RecordLaws GitRef ∧ RecordLaws PullRequest ∧
    RecordLaws Branch ∧ RecordLaws CommitStatus ∧ RecordLaws Token ∧
    RecordLaws GitConfig ∧ RecordLaws MergeQuery ∧ RecordLaws MergeConfig ∧
    RecordLaws JobWhen ∧ RecordLaws JobSpec ∧ RecordLaws JobsConfig ∧
    RecordLaws RepoConfig ∧ RecordLaws Settings ∧ RecordLaws JobStoreSettings ∧
    RecordLaws ConfigFile ∧ RecordLaws JobRef ∧ RecordLaws JobSender ∧
    RecordLaws JobBase ∧ RecordLaws JobPull ∧ RecordLaws JobRequest :=
  ⟨LawfulJson.laws _ (by decide), LawfulJson.laws _ (by decide), LawfulJson.laws _ (by decide),
    Record.laws _ (by decide), Record.laws _ (by decide), Record.laws _ (by decide),
    Record.laws _ (by decide), Record.laws _ (by decide), Record.laws _ (by decide),
    Record.laws _ (by decide), Record.laws _ (by decide), Record.laws _ (by decide),
    Record.laws _ (by decide), Record.laws _ (by decide), Record.laws _ (by decide),
    Record.laws _ (by decide), Record.laws _ (by decide), Record.laws _ (by decide),
    Record.laws _ (by decide), Record.laws _ (by decide), Record.laws _ (by decide),
    Record.laws _ (by decide), Record.laws _ (by decide), Record.laws _ (by decide)⟩

end MergeQueue
