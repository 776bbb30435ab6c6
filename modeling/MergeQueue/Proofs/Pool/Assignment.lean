import Mathlib.Data.Finmap
import MergeQueue.Proofs.Pool.MergePool

namespace MergeQueue

abbrev Assignment := Finmap fun _ : UInt64 => Bucket

namespace MergePool

inductive Operation where
  | add (id : UInt64) (bucket : Bucket)
  | delete (id : UInt64)

def apply (pool : MergePool) : Operation → MergePool
  | .add id bucket => pool.add id bucket
  | .delete id => (pool.take id).2

end MergePool

def Assignment.apply (m : Assignment) : MergePool.Operation → Assignment
  | .add id bucket => m.insert id bucket
  | .delete id => m.erase id

namespace MergePool

structure Represents (pool : MergePool) (m : Assignment) : Prop where
  disjoint : pool.Disjoint
  search : ∀ id, pool.search id = m.lookup id

lemma represents_empty : MergePool.empty.Represents ∅ :=
  ⟨disjoint_empty, fun id => by rw [search_empty, Finmap.lookup_empty]⟩

lemma size_eq_length_ids {pool : MergePool} (h : pool.Disjoint) : pool.size = pool.ids.length := by
  have hsize : pool.size = (Bucket.all.flatMap pool.bucket).length := by
    simp [size, Bucket.all, bucket, SortedSet.size, Nat.add_assoc]
  have hapart : Bucket.all.Pairwise fun b c => (pool.bucket b).Disjoint (pool.bucket c) := by
    have hne : Bucket.all.Pairwise (· ≠ ·) := by decide
    apply hne.imp
    intro b c hbc id hb hc
    rw [bucket, SortedSet.mem_elements_iff] at hb hc
    exact hbc (h id b c hb hc)
  have hnodup : (Bucket.all.flatMap pool.bucket).Nodup :=
    List.nodup_flatMap.mpr
      ⟨fun b _ => SortedMap.ascending_nodup (pool.bucket_ascending b), hapart⟩
  rw [hsize]
  apply List.Perm.length_eq
  apply (List.perm_ext_iff_of_nodup hnodup pool.ids_nodup).mpr
  exact fun id => (SortedSet.mem_distinct _ id).symm

namespace Represents

variable {pool : MergePool} {m : Assignment}

lemma apply (h : pool.Represents m) (op : Operation) :
    (pool.apply op).Represents (m.apply op) := by
  cases op with
  | add id bucket =>
    refine ⟨disjoint_add h.disjoint id bucket, fun x => ?_⟩
    rw [MergePool.apply, Assignment.apply, search_add h.disjoint, h.search]
    by_cases hx : x = id
    · rw [if_pos hx, hx, Finmap.lookup_insert]
    · rw [if_neg hx, Finmap.lookup_insert_of_ne m hx]
  | delete id =>
    rw [MergePool.apply, Assignment.apply, take_eq]
    refine ⟨disjoint_delete h.disjoint id, fun x => ?_⟩
    rw [search_delete h.disjoint, h.search]
    by_cases hx : x = id
    · rw [if_pos hx, hx, Finmap.lookup_erase]
    · rw [if_neg hx, Finmap.lookup_erase_ne hx]

lemma foldl_apply (h : pool.Represents m) (ops : List Operation) :
    (ops.foldl MergePool.apply pool).Represents (ops.foldl Assignment.apply m) := by
  induction ops generalizing pool m with
  | nil => exact h
  | cons op rest ih => exact ih (h.apply op)

lemma contains_iff (h : pool.Represents m) (id : UInt64) : pool.contains id = true ↔ id ∈ m := by
  rw [contains, h.search, Finmap.lookup_isSome]

lemma mem_bucket_iff (h : pool.Represents m) (b : Bucket) (id : UInt64) :
    id ∈ pool.bucket b ↔ m.lookup id = some b := by
  rw [MergePool.mem_bucket_iff h.disjoint, h.search]

lemma mem_ids_iff (h : pool.Represents m) (id : UInt64) : id ∈ pool.ids ↔ id ∈ m := by
  rw [MergePool.mem_ids_iff, h.contains_iff]

lemma size_eq (h : pool.Represents m) : pool.size = m.keys.card := by
  have hkeys : pool.ids.toFinset = m.keys := by
    ext id
    rw [List.mem_toFinset, h.mem_ids_iff, Finmap.mem_keys]
  rw [size_eq_length_ids h.disjoint, ← hkeys, List.toFinset_card_of_nodup pool.ids_nodup]

lemma isEmpty_iff (h : pool.Represents m) : pool.isEmpty = true ↔ m = ∅ := by
  rw [isEmpty, decide_eq_true_eq, h.size_eq, Finset.card_eq_zero, Finset.eq_empty_iff_forall_notMem]
  simp only [Finmap.mem_keys]
  constructor
  · intro hnone
    apply Finmap.ext_lookup
    intro id
    rw [Finmap.lookup_eq_none.mpr (hnone id), Finmap.lookup_empty]
  · rintro rfl
    exact fun id => Finmap.notMem_empty

end Represents

/-- What has been added and deleted is all that a pool tells of, and what it tells is told of the
map: where a pull request is looked for, what is deleted, which ones there are, in one bucket or in
any, in ascending order, and how many. -/
theorem answers_as_assignment (ops : List Operation) :
    let pool := ops.foldl apply .empty
    let m := ops.foldl Assignment.apply ∅
    (∀ id, pool.search id = m.lookup id ∧ (pool.take id).1 = m.lookup id ∧
      (pool.contains id = true ↔ id ∈ m)) ∧
    (∀ b, (pool.bucket b).Pairwise (· < ·) ∧ ∀ id, id ∈ pool.bucket b ↔ m.lookup id = some b) ∧
    (pool.ids.Pairwise (· < ·) ∧ ∀ id, id ∈ pool.ids ↔ id ∈ m) ∧
    pool.size = m.keys.card ∧ (pool.isEmpty = true ↔ m = ∅) := by
  intro pool m
  have h : pool.Represents m := represents_empty.foldl_apply ops
  refine ⟨fun id => ⟨h.search id, ?_, h.contains_iff id⟩,
    fun b => ⟨pool.bucket_ascending b, h.mem_bucket_iff b⟩,
    ⟨pool.ids_ascending, h.mem_ids_iff⟩, h.size_eq, h.isEmpty_iff⟩
  rw [take_eq]
  exact h.search id

end MergePool

end MergeQueue
