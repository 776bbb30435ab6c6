import MergeQueue.Job.Basic
import MergeQueue.Policy
import MergeQueue.Pool.MergePool

/-! The queue of one repository: its open pull requests with what is known about them, the merge
pool, and the batch that is being tested. -/

namespace MergeQueue

def inMergePoolNote : String := "In merge pool."

def notMergeableNote : String := "Not mergeable."

def notMergeable (message : String) : String :=
  if message.isEmpty then notMergeableNote else notMergeableNote ++ " " ++ message

/-- A pull request as the queue sees it. The status and description are those to be shown on its
head commit; the record is dirty while they wait for that. -/
structure Tracked where
  pullRequest : PullRequest
  status : CommitState
  description : String
  bucket : Bucket
  statuses : Statuses
  dirty : Bool

namespace Tracked

def new (pr : PullRequest) : Tracked := ⟨pr, .pending, notMergeableNote, .unknown, ∅, false⟩

def showing (t : Tracked) (status : CommitState) (description : String) : Bool :=
  t.status = status && t.description = description

def setBlocker (t : Tracked) (status : CommitState) (description : String) : Tracked :=
  if t.showing status description then t else { t with status, description, dirty := true }

def published (t : Tracked) : Tracked := { t with dirty := false }

end Tracked

structure Batch where
  branch : String
  pullRequests : List PullRequest
  job : Option JobRef

namespace Batch

def ids (batch : Batch) : List UInt64 := batch.pullRequests.map (·.id)

def contains (batch : Batch) (id : UInt64) : Bool := batch.ids.contains id

end Batch

structure Pool where
  tracked : SortedMap UInt64 Tracked
  mergePool : MergePool
  batch : Option Batch

namespace Pool

def empty : Pool := ⟨∅, .empty, none⟩

def find? (pool : Pool) (id : UInt64) : Option Tracked := pool.tracked.find? id

def ids (pool : Pool) : List UInt64 := pool.tracked.keys

def modify (pool : Pool) (id : UInt64) (f : Tracked → Tracked) : Pool :=
  { pool with tracked := pool.tracked.modify id f }

def inBatch (pool : Pool) (id : UInt64) : Bool := pool.batch.any fun batch => batch.contains id

def setBatch (pool : Pool) (batch : Batch) : Pool := { pool with batch := some batch }

def clearBatch (pool : Pool) : Pool := { pool with batch := none }

def track (pool : Pool) (pr : PullRequest) : Pool :=
  match pool.find? pr.id with
  | some t => { pool with tracked := pool.tracked.insert pr.id { t with pullRequest := pr } }
  | none => { pool with tracked := pool.tracked.insert pr.id (.new pr) }

def enqueue (pool : Pool) (id : UInt64) (bucket : Bucket) : Pool :=
  if pool.tracked.contains id then
    { pool.modify id ({ · with bucket }) with mergePool := pool.mergePool.add id bucket }
  else pool

def dequeue (pool : Pool) (id : UInt64) : Pool :=
  { pool.modify id ({ · with bucket := .unknown }) with mergePool := pool.mergePool.delete id }

def untrack (pool : Pool) (id : UInt64) : Pool :=
  { pool with tracked := pool.tracked.erase id, mergePool := pool.mergePool.delete id }

def setBlocker (pool : Pool) (id : UInt64) (status : CommitState) (description : String) : Pool :=
  pool.modify id (·.setBlocker status description)

end Pool

end MergeQueue
