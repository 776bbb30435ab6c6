import MergeQueue.Engine.Cycle
import MergeQueue.Json.Printer
import MergeQueue.Json.Record
import MergeQueue.Web.Http

/-! What the status server shows: a list of all queues, each queue by itself, the progress of the
cycle, and a sign of life. It changes nothing. -/

namespace MergeQueue

structure PoolSummary where
  key : String
  pullRequestCount : Nat
  retesting : Bool

structure PoolDetail where
  pullRequests : List UInt64
  success : List UInt64
  pending : List UInt64
  retesting : Bool
  batch : List UInt64

def Pool.detail (pool : Pool) : PoolDetail where
  pullRequests := pool.ids
  success := pool.mergePool.bucket .success
  pending := pool.mergePool.bucket .pending
  retesting := pool.batch.isSome
  batch := (pool.batch.map (·.ids)).getD []

def Table.summaries (table : Table) : List PoolSummary :=
  table.entries.map fun (key, queue) =>
    ⟨key, queue.pool.ids.length, queue.pool.batch.isSome⟩

def Table.detail? (table : Table) (key : String) : Option PoolDetail :=
  (table.pool? key).map Pool.detail

instance : ToJson PoolSummary where
  toJson s := .object [("key", toJson s.key), ("pull_request_length", .integer s.pullRequestCount),
    ("retesting", toJson s.retesting)]

instance : ToJson PoolDetail where
  toJson d := .object [
    ("pull_requests", toJson d.pullRequests), ("merge_pool_success", toJson d.success),
    ("merge_pool_pending", toJson d.pending), ("retesting", toJson d.retesting),
    ("retesting_batch", toJson d.batch)]

namespace StatusPage

structure View where
  table : Table
  progress : Progress
  finishedAt : Option String

inductive Page where
  | list
  | queue (key : List Char)
  | cycle
  | health

def page? (path : List Char) : Option Page :=
  match String.ofList (path.takeWhile (· ≠ '?')) with
  | "/status" => some .list
  | "/cycle" => some .cycle
  | "/healthz" => some .health
  | plain =>
    match "/status/".toList.isPrefixOf? plain.toList with
    | some (c :: key) => some (.queue (c :: key))
    | _ => none

def reply (status : Nat) (body : String) : Web.WrittenReply := ⟨status, [], body⟩

def queueReply (table : Table) (key : List Char) : Web.WrittenReply :=
  match Web.Percent.decode? (String.ofList key) with
  | none => reply 400 "Invalid URL: Invalid UTF-8 in \x60key\x60"
  | some key =>
    match table.detail? key with
    | some detail => reply 200 (toJson detail).render
    | none =>
      let message := "there is no pr pool for " ++ key
      reply 404 (Json.object [("message", .string message)]).render

def cycleJson (view : View) : Json :=
  .object [
    ("cycle", .integer view.progress.cycle), ("stage", toJson (view.progress.stage.map Stage.name)),
    ("finished_at", toJson view.finishedAt)]

def answer (view : View) (method path : String) : Web.WrittenReply :=
  match page? path.toList with
  | none => reply 404 ""
  | some page =>
    if method ≠ "GET" && method ≠ "HEAD" then reply 405 ""
    else
      let full := match page with
        | .list => reply 200 (toJson view.table.summaries).render
        | .queue key => queueReply view.table key
        | .cycle => reply 200 (cycleJson view).render
        | .health => reply 200 "ok"
      if method = "HEAD" then { full with body := "" } else full

end StatusPage

end MergeQueue
