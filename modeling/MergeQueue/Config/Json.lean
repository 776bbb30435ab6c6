import MergeQueue.Config.Basic
import MergeQueue.PullRequest.Json

namespace MergeQueue

open Json

def HostKind.name : HostKind → String
  | .github => "github"
  | .gitlab => "gitlab"

instance : ToJson HostKind := ⟨fun k => .string k.name⟩

instance : FromJson HostKind where
  fromJson? := choice [("github", .github), ("gitlab", .gitlab)]

instance : ToJson Token where
  toJson t := .object [("value", toJson t.value), ("env", toJson t.variableName)]

instance : FromJson Token where
  fromJson? := record do
    return { value := ← optional "value" none, variableName := ← optional "env" none }

instance : ToJson GitConfig where
  toJson g := .object [
    ("type", toJson g.kind), ("api_url", toJson g.apiUrl), ("repository", toJson g.repository),
    ("token", toJson g.token)]

instance : FromJson GitConfig where
  fromJson? := record do
    return {
      kind := ← optional "type" .github
      apiUrl := ← optional "api_url" none
      repository := ← required "repository"
      token := ← optional "token" none }

instance : ToJson MergeQuery where
  toJson q := .object [
    ("labels", toJson q.labels), ("block_labels", toJson q.blockLabels),
    ("authors", toJson q.authors), ("skip_authors", toJson q.skipAuthors),
    ("branches", toJson q.branches), ("skip_branches", toJson q.skipBranches),
    ("checks", toJson q.checks), ("optional_checks", toJson q.optionalChecks),
    ("approve_required", toJson q.approveRequired)]

instance : FromJson MergeQuery where
  fromJson? := record do
    return {
      labels := ← optional "labels" []
      blockLabels := ← optional "block_labels" []
      authors := ← optional "authors" []
      skipAuthors := ← optional "skip_authors" []
      branches := ← optional "branches" []
      skipBranches := ← optional "skip_branches" []
      checks := ← optional "checks" []
      optionalChecks := ← optional "optional_checks" []
      approveRequired := ← optional "approve_required" false }

instance : ToJson MergeConfig where
  toJson m := .object [
    ("method", toJson m.method), ("commit_template", toJson m.commitTemplate),
    ("query", toJson m.query)]

instance : FromJson MergeConfig where
  fromJson? := record do
    return {
      method := ← optional "method" none
      commitTemplate := ← optional "commit_template" none
      query := ← optional "query" .default }

instance : ToJson JobWhen where
  toJson w := .object [
    ("branch", toJson w.branch), ("skip_branch", toJson w.skipBranch), ("tag", toJson w.tag),
    ("skip_tag", toJson w.skipTag)]

instance : FromJson JobWhen where
  fromJson? := record do
    return {
      branch := ← optional "branch" []
      skipBranch := ← optional "skip_branch" []
      tag := ← optional "tag" []
      skipTag := ← optional "skip_tag" [] }

instance : ToJson JobSpec where
  toJson j := .object [("name", toJson j.name), ("when", toJson j.applies)]

instance : FromJson JobSpec where
  fromJson? := record do
    return { name := ← required "name", applies := ← optional "when" none }

instance : ToJson JobsConfig where
  toJson j := .object [("pre_submit", toJson j.preSubmit)]

instance : FromJson JobsConfig where
  fromJson? := record do
    return { preSubmit := ← optional "pre_submit" [] }

instance : ToJson RepoConfig where
  toJson c := .object [
    ("namespace", toJson c.ns), ("name", toJson c.name), ("git", toJson c.git),
    ("merge", toJson c.merge), ("jobs", toJson c.jobs)]

instance : FromJson RepoConfig where
  fromJson? := record do
    return {
      ns := ← required "namespace"
      name := ← required "name"
      git := ← required "git"
      merge := ← optional "merge" none
      jobs := ← optional "jobs" .default }

instance : ToJson Settings where
  toJson s := .object [
    ("sync_period_secs", toJson s.syncPeriodSecs), ("jitter_secs", toJson s.jitterSecs),
    ("block_label", toJson s.blockLabel), ("squash_label", toJson s.squashLabel),
    ("merge_label", toJson s.mergeLabel), ("max_batch_size", toJson s.maxBatchSize),
    ("merge_delay_ms", toJson s.mergeDelayMs), ("status_addr", toJson s.statusAddr),
    ("status_context", toJson s.statusContext), ("status_target_url", toJson s.statusTargetUrl),
    ("bot_name", toJson s.botName), ("bot_email", toJson s.botEmail)]

instance : FromJson Settings where
  fromJson? := record do
    return {
      syncPeriodSecs := ← optional "sync_period_secs" Settings.default.syncPeriodSecs
      jitterSecs := ← optional "jitter_secs" Settings.default.jitterSecs
      blockLabel := ← optional "block_label" Settings.default.blockLabel
      squashLabel := ← optional "squash_label" Settings.default.squashLabel
      mergeLabel := ← optional "merge_label" Settings.default.mergeLabel
      maxBatchSize := ← optional "max_batch_size" Settings.default.maxBatchSize
      mergeDelayMs := ← optional "merge_delay_ms" Settings.default.mergeDelayMs
      statusAddr := ← optional "status_addr" Settings.default.statusAddr
      statusContext := ← optional "status_context" Settings.default.statusContext
      statusTargetUrl := ← optional "status_target_url" Settings.default.statusTargetUrl
      botName := ← optional "bot_name" Settings.default.botName
      botEmail := ← optional "bot_email" Settings.default.botEmail }

instance : ToJson JobStoreSettings where
  toJson s := .object [("url", toJson s.url)]

instance : FromJson JobStoreSettings where
  fromJson? := record do
    return { url := ← required "url" }

instance : ToJson ConfigFile where
  toJson f := .object [
    ("blocker", toJson f.settings), ("job_store", toJson f.jobStore),
    ("repositories", toJson f.repositories)]

instance : FromJson ConfigFile where
  fromJson? := record do
    return {
      settings := ← optional "blocker" .default
      jobStore := ← optional "job_store" none
      repositories := ← optional "repositories" [] }

end MergeQueue
