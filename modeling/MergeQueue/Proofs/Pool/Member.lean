import MergeQueue.Pool.Evaluation
import MergeQueue.Pool.Listing
import MergeQueue.Proofs.Pool.MergePool

/-! One pull request of a pool: its record, and the bucket that holds it. Every operation on a pool
acts on each pull request on its own, and keeps the pool sound. -/

namespace MergeQueue

@[simp] lemma Tracked.pullRequest_setBlocker (t : Tracked) (status : CommitState)
    (description : String) : (t.setBlocker status description).pullRequest = t.pullRequest := by
  rw [setBlocker]
  split <;> rfl

structure Member where
  tracked : Option Tracked
  bucket : Option Bucket

namespace Member

def absent : Member := ⟨none, none⟩

def change (f : Tracked → Tracked) (m : Member) : Member := { m with tracked := m.tracked.map f }

def track (pr : PullRequest) (m : Member) : Member :=
  { m with tracked := some (m.tracked.elim (.new pr) ({ · with pullRequest := pr })) }

def enqueue (bucket : Bucket) (m : Member) : Member :=
  if m.tracked.isSome then ⟨m.tracked.map ({ · with bucket }), some bucket⟩ else m

def dequeue (m : Member) : Member := ⟨m.tracked.map ({ · with bucket := .unknown }), none⟩

@[simp] lemma dequeue_dequeue (m : Member) : m.dequeue.dequeue = m.dequeue := by
  simp [dequeue, Function.comp_def]

def absorb (query : MergeQuery) (batched : Bool) (m : Member) (pr : PullRequest) : Member :=
  let verdict := Policy.checkSimple query pr
  let m := m.track pr
  if verdict.passed || batched then if m.bucket.isSome then m else m.enqueue .pending
  else m.dequeue.change (·.setBlocker .pending (notMergeable verdict.message))

def record (e : Evaluation) (status : CommitState) (description : String) (m : Member) : Member :=
  m.change fun t =>
    { t with pullRequest := e.pullRequest, statuses := e.statuses }.setBlocker status description

def settle (batched : Bool) (m : Member) (e : Evaluation) : Member :=
  if m.bucket.isSome then
    if e.verdict.remove && !batched then
      m.dequeue.record e .pending (notMergeable e.verdict.message)
    else if e.verdict.passed then (m.enqueue .success).record e .success inMergePoolNote
    else (m.enqueue .pending).record e .pending e.verdict.message
  else m

def Kept (m m' : Member) : Prop :=
  m'.tracked.map (·.pullRequest) = m.tracked.map (·.pullRequest) ∧
    (m'.bucket = m.bucket ∨ m'.bucket = none)

lemma Kept.refl (m : Member) : m.Kept m := ⟨rfl, .inl rfl⟩

lemma Kept.dequeue (m : Member) : m.Kept m.dequeue :=
  ⟨by simp [Member.dequeue, Function.comp_def], .inr rfl⟩

lemma Kept.record {m m' : Member} (h : m.Kept m') {t' : Tracked} (ht : m'.tracked = some t') :
    ∃ t, m.tracked = some t ∧ t.pullRequest = t'.pullRequest := by
  have hm := h.1
  rw [ht] at hm
  obtain ⟨t, ht, hpr⟩ := Option.map_eq_some_iff.mp hm.symm
  exact ⟨t, ht, hpr⟩

lemma Kept.bucket {m m' : Member} (h : m.Kept m') {b : Bucket} (hb : m'.bucket = some b) :
    m.bucket = some b := by
  rcases h.2 with hm | hm
  · rw [← hm, hb]
  · rw [hm] at hb
    cases hb

end Member

namespace Pool

def member (pool : Pool) (id : UInt64) : Member := ⟨pool.find? id, pool.mergePool.search id⟩

structure Sound (pool : Pool) : Prop where
  disjoint : pool.mergePool.Disjoint
  tracked : ∀ id, (pool.member id).bucket.isSome → (pool.member id).tracked.isSome

lemma mem_ids_iff (pool : Pool) (id : UInt64) : id ∈ pool.ids ↔ (pool.find? id).isSome :=
  (SortedMap.find?_isSome_iff _ _).symm

@[simp] lemma member_empty (id : UInt64) : Pool.empty.member id = .absent := by
  simp [member, Pool.empty, find?, Member.absent]

lemma sound_empty : Pool.empty.Sound :=
  ⟨MergePool.disjoint_empty, fun id h => by simp [Member.absent] at h⟩

@[simp] lemma member_setBatch (pool : Pool) (batch : Batch) (id : UInt64) :
    (pool.setBatch batch).member id = pool.member id := rfl

@[simp] lemma member_clearBatch (pool : Pool) (id : UInt64) :
    pool.clearBatch.member id = pool.member id := rfl

lemma member_modify (pool : Pool) (k : UInt64) (f : Tracked → Tracked) (id : UInt64) :
    (pool.modify k f).member id = if id = k then (pool.member id).change f else pool.member id := by
  simp only [member, modify, find?, SortedMap.find?_modify, Member.change]
  split
  · next h => rw [h]
  · rfl

lemma member_setBlocker (pool : Pool) (k : UInt64) (status : CommitState) (description : String)
    (id : UInt64) : (pool.setBlocker k status description).member id =
      if id = k then (pool.member id).change (·.setBlocker status description)
      else pool.member id :=
  member_modify pool k _ id

lemma member_record (pool : Pool) (k : UInt64) (e : Evaluation) (status : CommitState)
    (description : String) (id : UInt64) : (pool.record k e status description).member id =
      if id = k then (pool.member id).record e status description else pool.member id :=
  member_modify pool k _ id

lemma member_track (pool : Pool) (pr : PullRequest) (id : UInt64) :
    (pool.track pr).member id = if id = pr.id then (pool.member id).track pr else pool.member id := by
  rw [track]
  by_cases h : id = pr.id
  · subst h
    cases hf : pool.find? pr.id <;> simp only [find?] at hf <;>
      simp [member, Member.track, find?, SortedMap.find?_insert, hf]
  · cases hf : pool.find? pr.id <;> simp [member, find?, SortedMap.find?_insert, h]

lemma member_enqueue {pool : Pool} (h : pool.mergePool.Disjoint) (k : UInt64) (bucket : Bucket)
    (id : UInt64) : (pool.enqueue k bucket).member id =
      if id = k then (pool.member id).enqueue bucket else pool.member id := by
  rw [enqueue]
  by_cases hk : pool.tracked.contains k
  · simp only [hk, if_true, member, modify, find?, SortedMap.find?_modify,
      MergePool.search_add h, Member.enqueue]
    split
    · next hid =>
      subst hid
      simp only [SortedMap.contains] at hk
      simp [hk]
    · rfl
  · simp only [hk, Bool.false_eq_true, if_false]
    split
    · next hid =>
      subst hid
      simp only [SortedMap.contains] at hk
      simp [member, Member.enqueue, find?, hk]
    · rfl

lemma member_dequeue {pool : Pool} (h : pool.mergePool.Disjoint) (k id : UInt64) :
    (pool.dequeue k).member id = if id = k then (pool.member id).dequeue else pool.member id := by
  simp only [dequeue, member, modify, find?, SortedMap.find?_modify, MergePool.search_delete h,
    Member.dequeue]
  split
  · next hid => rw [hid]
  · rfl

lemma member_untrack {pool : Pool} (h : pool.mergePool.Disjoint) (k id : UInt64) :
    (pool.untrack k).member id = if id = k then .absent else pool.member id := by
  simp only [untrack, member, find?, SortedMap.find?_erase, MergePool.search_delete h,
    Member.absent]
  split <;> rfl

@[simp] lemma batch_modify (pool : Pool) (k : UInt64) (f : Tracked → Tracked) :
    (pool.modify k f).batch = pool.batch := rfl

@[simp] lemma batch_track (pool : Pool) (pr : PullRequest) :
    (pool.track pr).batch = pool.batch := by
  rw [track]
  split <;> rfl

@[simp] lemma batch_enqueue (pool : Pool) (k : UInt64) (bucket : Bucket) :
    (pool.enqueue k bucket).batch = pool.batch := by
  rw [enqueue]
  split <;> rfl

@[simp] lemma batch_dequeue (pool : Pool) (k : UInt64) : (pool.dequeue k).batch = pool.batch := rfl

@[simp] lemma batch_untrack (pool : Pool) (k : UInt64) : (pool.untrack k).batch = pool.batch := rfl

@[simp] lemma batch_setBlocker (pool : Pool) (k : UInt64) (status : CommitState)
    (description : String) : (pool.setBlocker k status description).batch = pool.batch := rfl

@[simp] lemma batch_record (pool : Pool) (k : UInt64) (e : Evaluation) (status : CommitState)
    (description : String) : (pool.record k e status description).batch = pool.batch := rfl

lemma inBatch_congr {pool pool' : Pool} (h : pool'.batch = pool.batch) (id : UInt64) :
    pool'.inBatch id = pool.inBatch id := by
  simp only [inBatch, h]

namespace Sound

variable {pool : Pool}

lemma bucket_eq_none (h : pool.Sound) {id : UInt64} (ht : (pool.member id).tracked = none) :
    (pool.member id).bucket = none := by
  cases hb : (pool.member id).bucket with
  | none => rfl
  | some b =>
    have hsome := h.tracked id (by simp [hb])
    simp [ht] at hsome

lemma setBatch (h : pool.Sound) (batch : Batch) : (pool.setBatch batch).Sound := ⟨h.1, h.2⟩

lemma clearBatch (h : pool.Sound) : pool.clearBatch.Sound := ⟨h.1, h.2⟩

lemma modify (h : pool.Sound) (k : UInt64) (f : Tracked → Tracked) : (pool.modify k f).Sound := by
  refine ⟨h.disjoint, fun id hb => ?_⟩
  rw [member_modify] at hb ⊢
  split at hb
  · next hid =>
    rw [if_pos hid]
    simpa [Member.change] using h.tracked id hb
  · next hid =>
    rw [if_neg hid]
    exact h.tracked id hb

lemma track (h : pool.Sound) (pr : PullRequest) : (pool.track pr).Sound := by
  refine ⟨?_, fun id hb => ?_⟩
  · have hm : (pool.track pr).mergePool = pool.mergePool := by
      rw [Pool.track]
      split <;> rfl
    rw [hm]
    exact h.disjoint
  · rw [member_track] at hb ⊢
    split at hb
    · next hid => simp [hid, Member.track]
    · next hid =>
      rw [if_neg hid]
      exact h.tracked id hb

lemma enqueue (h : pool.Sound) (k : UInt64) (bucket : Bucket) : (pool.enqueue k bucket).Sound := by
  refine ⟨?_, fun id hb => ?_⟩
  · rw [Pool.enqueue]
    split
    · exact MergePool.disjoint_add h.disjoint k bucket
    · exact h.disjoint
  · rw [member_enqueue h.disjoint] at hb ⊢
    split at hb
    · next hid =>
      rw [if_pos hid]
      rw [Member.enqueue] at hb ⊢
      split at hb
      · next ht => simp [ht]
      · next ht => exact absurd (h.tracked id hb) ht
    · next hid =>
      rw [if_neg hid]
      exact h.tracked id hb

lemma dequeue (h : pool.Sound) (k : UInt64) : (pool.dequeue k).Sound := by
  refine ⟨MergePool.disjoint_delete h.disjoint k, fun id hb => ?_⟩
  rw [member_dequeue h.disjoint] at hb ⊢
  split at hb
  · simp [Member.dequeue] at hb
  · next hid =>
    rw [if_neg hid]
    exact h.tracked id hb

lemma untrack (h : pool.Sound) (k : UInt64) : (pool.untrack k).Sound := by
  refine ⟨MergePool.disjoint_delete h.disjoint k, fun id hb => ?_⟩
  rw [member_untrack h.disjoint] at hb ⊢
  split at hb
  · simp [Member.absent] at hb
  · next hid =>
    rw [if_neg hid]
    exact h.tracked id hb

end Sound

lemma ext_member {pool pool' : Pool} (h : pool.Sound) (h' : pool'.Sound)
    (hm : ∀ id, pool.member id = pool'.member id) (hb : pool.batch = pool'.batch) :
    pool = pool' := by
  have htracked : pool.tracked = pool'.tracked :=
    SortedMap.ext_find? fun id => congrArg Member.tracked (hm id)
  have hmerge : pool.mergePool = pool'.mergePool :=
    MergePool.ext_search h.disjoint h'.disjoint fun id => congrArg Member.bucket (hm id)
  cases pool
  cases pool'
  simp only at htracked hmerge hb
  rw [htracked, hmerge, hb]

structure Left (pool : Pool) (gone : List UInt64) (pool' : Pool) : Prop where
  sound : pool'.Sound
  member : ∀ id, pool'.member id =
    if id ∈ gone then (pool.member id).dequeue else pool.member id

namespace Left

variable {pool pool' pool'' : Pool} {gone gone' : List UInt64}

lemma refl (h : pool.Sound) : pool.Left [] pool := ⟨h, fun _ => rfl⟩

lemma trans (h : pool.Left gone pool') (h' : pool'.Left gone' pool'') :
    pool.Left (gone ++ gone') pool'' := by
  refine ⟨h'.sound, fun id => ?_⟩
  rw [h'.member, h.member]
  by_cases hg : id ∈ gone <;> by_cases hg' : id ∈ gone' <;> simp [hg, hg']

lemma setBatch (h : pool.Sound) (batch : Batch) : pool.Left [] (pool.setBatch batch) :=
  ⟨h.setBatch batch, fun _ => rfl⟩

lemma clearBatch (h : pool.Sound) : pool.Left [] pool.clearBatch := ⟨h.clearBatch, fun _ => rfl⟩

lemma dequeue (h : pool.Sound) (k : UInt64) : pool.Left [k] (pool.dequeue k) := by
  refine ⟨h.dequeue k, fun id => ?_⟩
  rw [member_dequeue h.disjoint]
  simp only [List.mem_singleton]

lemma find? (h : pool.Left gone pool') (id : UInt64) :
    (pool'.find? id).map (·.pullRequest) = (pool.find? id).map (·.pullRequest) := by
  have hm := congrArg (·.tracked.map (·.pullRequest)) (h.member id)
  apply hm.trans
  split
  · exact (Member.Kept.dequeue _).1
  · rfl

end Left

structure Rest (pool pool' : Pool) : Prop where
  sound : pool'.Sound
  member : ∀ id, (pool.member id).Kept (pool'.member id)

lemma Left.rest {pool pool' : Pool} {gone : List UInt64} (h : pool.Left gone pool') :
    pool.Rest pool' := by
  refine ⟨h.sound, fun id => ?_⟩
  rw [h.member]
  split
  · exact .dequeue _
  · exact .refl _

lemma Rest.find? {pool pool' : Pool} (h : pool.Rest pool') {id : UInt64} {t : Tracked}
    (ht : pool.find? id = some t) :
    ∃ t', pool'.find? id = some t' ∧ t'.pullRequest = t.pullRequest := by
  have hmap : (pool'.find? id).map (·.pullRequest) = some t.pullRequest := by
    rw [← Option.map_some (f := Tracked.pullRequest), ← ht]
    exact (h.member id).1
  exact Option.map_eq_some_iff.mp hmap

end Pool

end MergeQueue
