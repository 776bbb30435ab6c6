import MergeQueue.Json.Record
import MergeQueue.PullRequest

namespace MergeQueue

open Json

instance : ToJson User where
  toJson u := .object [("id", toJson u.id), ("name", toJson u.name), ("email", toJson u.email)]

instance : FromJson User where
  fromJson? := record do
    return {
      id := ← required "id"
      name := ← required "name"
      email := ← optional "email" "" }

instance : ToJson GitRef where
  toJson r := .object [("ref", toJson r.reference), ("sha", toJson r.sha)]

instance : FromJson GitRef where
  fromJson? := record do
    return { reference := ← required "ref", sha := ← required "sha" }

instance : ToJson PullState := ⟨fun s => .string s.name⟩

instance : FromJson PullState where
  fromJson? := choice [("open", .opened), ("closed", .closed)]

instance : ToJson PullRequest where
  toJson pr := .object [
    ("id", toJson pr.id), ("title", toJson pr.title), ("state", toJson pr.state),
    ("author", toJson pr.author), ("url", toJson pr.url), ("base", toJson pr.base),
    ("head", toJson pr.head), ("labels", toJson pr.labels), ("mergeable", toJson pr.mergeable)]

instance : FromJson PullRequest where
  fromJson? := record do
    return {
      id := ← required "id"
      title := ← required "title"
      state := ← required "state"
      author := ← required "author"
      url := ← required "url"
      base := ← required "base"
      head := ← required "head"
      labels := ← required "labels"
      mergeable := ← required "mergeable" }

instance : ToJson Branch where
  toJson b := .object [("name", toJson b.name), ("commit_id", toJson b.commit)]

instance : FromJson Branch where
  fromJson? := record do
    return { name := ← required "name", commit := ← required "commit_id" }

instance : ToJson CommitState := ⟨fun s => .string s.name⟩

instance : FromJson CommitState where
  fromJson? := choice [("pending", .pending), ("success", .success), ("failure", .failure),
    ("error", .error)]

instance : ToJson CommitStatus where
  toJson s := .object [
    ("context", toJson s.context), ("state", toJson s.state),
    ("description", toJson s.description), ("target_url", toJson s.targetUrl)]

instance : FromJson CommitStatus where
  fromJson? := record do
    return {
      context := ← required "context"
      state := ← required "state"
      description := ← optional "description" ""
      targetUrl := ← optional "target_url" "" }

instance : ToJson MergeMethod := ⟨fun m => .string m.name⟩

instance : FromJson MergeMethod where
  fromJson? := choice [("merge", .merge), ("squash", .squash)]

end MergeQueue
