import MergeQueue.Sorted.Set

/-! The merge pool: pull requests sorted into buckets by how far they are from being merged. Looking
for a pull request goes through the buckets in a fixed order. -/

namespace MergeQueue

inductive Bucket where
  | unknown
  | pending
  | success
  | failure
  deriving DecidableEq

def Bucket.all : List Bucket := [.unknown, .pending, .success, .failure]

def Bucket.name : Bucket → String
  | .unknown => "unknown"
  | .pending => "pending"
  | .success => "success"
  | .failure => "failure"

structure MergePool where
  unknown : SortedSet UInt64
  pending : SortedSet UInt64
  success : SortedSet UInt64
  failure : SortedSet UInt64

namespace MergePool

def empty : MergePool := ⟨∅, ∅, ∅, ∅⟩

def members (pool : MergePool) : Bucket → SortedSet UInt64
  | .unknown => pool.unknown
  | .pending => pool.pending
  | .success => pool.success
  | .failure => pool.failure

def change (pool : MergePool) (bucket : Bucket) (f : SortedSet UInt64 → SortedSet UInt64) :
    MergePool :=
  match bucket with
  | .unknown => { pool with unknown := f pool.unknown }
  | .pending => { pool with pending := f pool.pending }
  | .success => { pool with success := f pool.success }
  | .failure => { pool with failure := f pool.failure }

theorem members_change (pool : MergePool) (bucket : Bucket)
    (f : SortedSet UInt64 → SortedSet UInt64) (other : Bucket) :
    (pool.change bucket f).members other =
      if other = bucket then f (pool.members bucket) else pool.members other := by
  cases bucket <;> cases other <;> rfl

def search (pool : MergePool) (id : UInt64) : Option Bucket :=
  Bucket.all.find? fun bucket => (pool.members bucket).contains id

def contains (pool : MergePool) (id : UInt64) : Bool := (pool.search id).isSome

def delete (pool : MergePool) (id : UInt64) : MergePool :=
  match pool.search id with
  | some bucket => pool.change bucket (·.erase id)
  | none => pool

def take (pool : MergePool) (id : UInt64) : Option Bucket × MergePool :=
  match pool.search id with
  | some bucket => (some bucket, pool.change bucket (·.erase id))
  | none => (none, pool)

theorem take_eq (pool : MergePool) (id : UInt64) : pool.take id = (pool.search id, pool.delete id) := by
  rw [take, delete]
  cases pool.search id <;> rfl

def add (pool : MergePool) (id : UInt64) (bucket : Bucket) : MergePool :=
  (pool.delete id).change bucket (·.insert id)

def bucket (pool : MergePool) (bucket : Bucket) : List UInt64 := (pool.members bucket).elements

def ids (pool : MergePool) : List UInt64 := SortedSet.distinct (Bucket.all.flatMap pool.bucket)

def size (pool : MergePool) : Nat :=
  Bucket.all.foldl (fun n bucket => n + (pool.members bucket).size) 0

def isEmpty (pool : MergePool) : Bool := pool.size = 0

end MergePool

end MergeQueue
