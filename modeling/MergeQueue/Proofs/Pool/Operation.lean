import MergeQueue.Proofs.Pool.Evaluation
import MergeQueue.Proofs.Pool.Listing

/-! The representation of a pool. A pull request is in the merge pool by the index of the buckets,
and by the bucket that its record names; the operations keep both in step. -/

namespace MergeQueue

@[simp] lemma Tracked.bucket_setBlocker (t : Tracked) (status : CommitState)
    (description : String) : (t.setBlocker status description).bucket = t.bucket := by
  rw [setBlocker]
  split <;> rfl

namespace Member

def Agrees (m : Member) : Prop := ∀ t, m.tracked = some t → t.bucket = m.bucket.getD .unknown

def Filed (id : UInt64) (m : Member) : Prop := ∀ t, m.tracked = some t → t.pullRequest.id = id

lemma agrees_absent : Member.absent.Agrees := by
  rintro _ ⟨⟩

lemma Agrees.change {m : Member} (h : m.Agrees) {f : Tracked → Tracked}
    (hf : ∀ t, (f t).bucket = t.bucket) : (m.change f).Agrees := by
  intro t' ht'
  obtain ⟨t, ht, rfl⟩ := Option.map_eq_some_iff.mp ht'
  rw [hf]
  exact h t ht

lemma Agrees.track {m : Member} (h : m.Agrees) (hb : m.bucket.isSome → m.tracked.isSome)
    (pr : PullRequest) : (m.track pr).Agrees := by
  rintro t' ⟨⟩
  cases ht : m.tracked with
  | none =>
    have hnone : m.bucket = none := by
      rw [ht] at hb
      simpa using hb
    simp [Member.track, Tracked.new, hnone]
  | some t => exact h t ht

lemma agrees_dequeue (m : Member) : m.dequeue.Agrees := by
  intro t' ht'
  obtain ⟨t, _, rfl⟩ := Option.map_eq_some_iff.mp ht'
  rfl

lemma Agrees.enqueue {m : Member} (h : m.Agrees) (bucket : Bucket) : (m.enqueue bucket).Agrees := by
  rw [Member.enqueue]
  split
  · intro t' ht'
    obtain ⟨t, _, rfl⟩ := Option.map_eq_some_iff.mp ht'
    rfl
  · exact h

lemma filed_absent (id : UInt64) : Member.absent.Filed id := by
  rintro _ ⟨⟩

lemma Filed.of_map {id : UInt64} {m m' : Member} (h : m.Filed id)
    (hm : m'.tracked.map (·.pullRequest) = m.tracked.map (·.pullRequest)) : m'.Filed id := by
  intro t' ht'
  rw [ht'] at hm
  obtain ⟨t, ht, hpr⟩ := Option.map_eq_some_iff.mp hm.symm
  exact (congrArg PullRequest.id hpr).symm.trans (h t ht)

lemma Filed.enqueue {id : UInt64} {m : Member} (h : m.Filed id) (bucket : Bucket) :
    (m.enqueue bucket).Filed id := by
  apply h.of_map
  rw [Member.enqueue]
  split <;> simp [Function.comp_def]

lemma filed_track (pr : PullRequest) (m : Member) : (m.track pr).Filed pr.id := by
  rintro t' ⟨⟩
  cases m.tracked <;> rfl

end Member

namespace Pool

inductive Operation where
  | track (pr : PullRequest)
  | enqueue (id : UInt64) (bucket : Bucket)
  | dequeue (id : UInt64)
  | untrack (id : UInt64)
  | setBlocker (id : UInt64) (status : CommitState) (description : String)
  | setBatch (batch : Batch)
  | clearBatch

def apply (pool : Pool) : Operation → Pool
  | .track pr => pool.track pr
  | .enqueue id bucket => pool.enqueue id bucket
  | .dequeue id => pool.dequeue id
  | .untrack id => pool.untrack id
  | .setBlocker id status description => pool.setBlocker id status description
  | .setBatch batch => pool.setBatch batch
  | .clearBatch => pool.clearBatch

/-- What is in the merge pool is tracked and in a single bucket, each record names the bucket that
is found for it, and is stored under the number of its pull request. -/
structure WellFormed (pool : Pool) : Prop where
  held : ∀ id ∈ pool.mergePool.ids, (pool.find? id).isSome ∧
    ∃ bucket, ∀ b, id ∈ pool.mergePool.bucket b ↔ b = bucket
  bucket : ∀ id t, pool.find? id = some t → t.bucket = (pool.mergePool.search id).getD .unknown
  filed : ∀ id t, pool.find? id = some t → t.pullRequest.id = id

lemma wellFormed_iff (pool : Pool) : pool.WellFormed ↔
    pool.Sound ∧ (∀ id, (pool.member id).Agrees) ∧ ∀ id, (pool.member id).Filed id := by
  constructor
  · intro h
    have hheld {id : UInt64} {b : Bucket} (hb : (pool.mergePool.members b).contains id) :
        id ∈ pool.mergePool.ids :=
      (MergePool.mem_ids_iff _ _).mpr ((MergePool.contains_iff _ _).mpr ⟨b, hb⟩)
    refine ⟨⟨fun id b c hb hc => ?_, fun id hb => ?_⟩, h.bucket, h.filed⟩
    · obtain ⟨_, bucket, hone⟩ := h.held id (hheld hb)
      rw [(hone b).mp ((SortedSet.mem_elements_iff _ _).mpr hb),
        (hone c).mp ((SortedSet.mem_elements_iff _ _).mpr hc)]
    · exact (h.held id ((MergePool.mem_ids_iff _ _).mpr hb)).1
  · rintro ⟨hs, hagrees, hfiled⟩
    refine ⟨fun id hid => ?_, hagrees, hfiled⟩
    have hb : (pool.mergePool.search id).isSome := (MergePool.mem_ids_iff _ _).mp hid
    refine ⟨hs.tracked id hb, ?_⟩
    obtain ⟨bucket, hsearch⟩ := Option.isSome_iff_exists.mp hb
    refine ⟨bucket, fun b => ?_⟩
    rw [MergePool.mem_bucket_iff hs.disjoint, hsearch, Option.some.injEq, eq_comm]

lemma wellFormed_empty : Pool.empty.WellFormed := by
  rw [wellFormed_iff]
  refine ⟨sound_empty, fun id => ?_, fun id => ?_⟩
  · rw [member_empty]
    exact Member.agrees_absent
  · rw [member_empty]
    exact Member.filed_absent id

lemma WellFormed.change_one {pool pool' : Pool} (h : pool.WellFormed) (hs : pool'.Sound)
    {k : UInt64} {f : Member → Member}
    (hmember : ∀ id, pool'.member id = if id = k then f (pool.member id) else pool.member id)
    (hagrees : (f (pool.member k)).Agrees) (hfiled : (f (pool.member k)).Filed k) :
    pool'.WellFormed := by
  obtain ⟨_, hagrees', hfiled'⟩ := (wellFormed_iff pool).mp h
  refine (wellFormed_iff pool').mpr ⟨hs, fun id => ?_, fun id => ?_⟩
  · rw [hmember]
    split
    · next hid =>
      rw [hid]
      exact hagrees
    · exact hagrees' id
  · rw [hmember]
    split
    · next hid =>
      rw [hid]
      exact hfiled
    · exact hfiled' id

lemma WellFormed.apply {pool : Pool} (h : pool.WellFormed) (op : Operation) :
    (pool.apply op).WellFormed := by
  obtain ⟨hs, hagrees, hfiled⟩ := (wellFormed_iff pool).mp h
  cases op with
  | track pr =>
    exact h.change_one (hs.track pr) (member_track pool pr)
      ((hagrees pr.id).track (hs.tracked pr.id) pr) (Member.filed_track pr _)
  | enqueue id bucket =>
    exact h.change_one (hs.enqueue id bucket) (member_enqueue hs.disjoint id bucket)
      ((hagrees id).enqueue bucket) ((hfiled id).enqueue bucket)
  | dequeue id =>
    exact h.change_one (hs.dequeue id) (member_dequeue hs.disjoint id) (Member.agrees_dequeue _)
      ((hfiled id).of_map (Member.Kept.dequeue _).1)
  | untrack id =>
    exact h.change_one (f := fun _ => .absent) (hs.untrack id) (member_untrack hs.disjoint id)
      Member.agrees_absent (Member.filed_absent id)
  | setBlocker id status description =>
    exact h.change_one (hs.modify id _) (member_setBlocker pool id status description)
      ((hagrees id).change (by simp)) ((hfiled id).of_map (by simp [Member.change, Function.comp_def]))
  | setBatch batch => exact (wellFormed_iff _).mpr ⟨hs.setBatch batch, hagrees, hfiled⟩
  | clearBatch => exact (wellFormed_iff _).mpr ⟨hs.clearBatch, hagrees, hfiled⟩

lemma wellFormed_foldl {pool : Pool} (h : pool.WellFormed) (ops : List Operation) :
    (ops.foldl apply pool).WellFormed := by
  induction ops generalizing pool with
  | nil => exact h
  | cons op rest ih => exact ih (h.apply op)

end Pool

end MergeQueue
