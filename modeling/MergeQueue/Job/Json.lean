import MergeQueue.Job.Basic
import MergeQueue.Json.Record

namespace MergeQueue

open Json

instance : ToJson JobRef where
  toJson j := .object [("namespace", toJson j.ns), ("name", toJson j.name)]

instance : FromJson JobRef where
  fromJson? := record do
    return { ns := ← required "namespace", name := ← required "name" }

instance : ToJson JobSender where
  toJson s := .object [("name", toJson s.name), ("email", toJson s.email)]

instance : FromJson JobSender where
  fromJson? := record do
    return { name := ← required "name", email := ← required "email" }

instance : ToJson JobBase where
  toJson b := .object [("ref", toJson b.reference), ("sha", toJson b.sha)]

instance : FromJson JobBase where
  fromJson? := record do
    return { reference := ← required "ref", sha := ← required "sha" }

instance : ToJson JobPull where
  toJson p := .object [
    ("id", toJson p.id), ("ref", toJson p.reference), ("sha", toJson p.sha),
    ("link", toJson p.link), ("author", toJson p.author)]

instance : FromJson JobPull where
  fromJson? := record do
    return {
      id := ← required "id"
      reference := ← required "ref"
      sha := ← required "sha"
      link := ← required "link"
      author := ← required "author" }

instance : ToJson JobRequest where
  toJson r := .object [
    ("name", toJson r.name), ("namespace", toJson r.ns), ("config_name", toJson r.configName),
    ("jobs", toJson r.jobs), ("repository", toJson r.repository), ("sender", toJson r.sender),
    ("base", toJson r.base), ("pulls", toJson r.pulls)]

instance : FromJson JobRequest where
  fromJson? := record do
    return {
      name := ← required "name"
      ns := ← required "namespace"
      configName := ← required "config_name"
      jobs := ← required "jobs"
      repository := ← required "repository"
      sender := ← required "sender"
      base := ← required "base"
      pulls := ← required "pulls" }

end MergeQueue
