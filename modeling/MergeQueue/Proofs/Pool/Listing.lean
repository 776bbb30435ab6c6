import MergeQueue.Proofs.Pool.Member

namespace MergeQueue

def openEntries (listed : List PullRequest) (id : UInt64) : List PullRequest :=
  (listed.filter fun pr => pr.state = .opened).filter fun pr => pr.id = id

lemma mem_openEntries_iff {listed : List PullRequest} {id : UInt64} {pr : PullRequest} :
    pr ∈ openEntries listed id ↔ pr ∈ listed ∧ pr.state = .opened ∧ pr.id = id := by
  simp only [openEntries, List.mem_filter, decide_eq_true_eq, and_assoc]

lemma openEntries_eq_nil_iff {listed : List PullRequest} {id : UInt64} :
    openEntries listed id = [] ↔ ∀ pr ∈ listed, pr.state = .opened → pr.id ≠ id := by
  simp only [List.eq_nil_iff_forall_not_mem, mem_openEntries_iff, not_and, ne_eq]

namespace Member

lemma bucket_absorb {query : MergeQuery} {batched : Bool} {m : Member} {pr : PullRequest}
    (h : (m.absorb query batched pr).bucket = some .success) :
    m.bucket = some .success ∧ ((Policy.checkSimple query pr).passed ∨ batched) := by
  unfold absorb at h
  dsimp only at h
  split at h
  · next hp =>
    split at h
    · exact ⟨h, by simpa using hp⟩
    · simp [enqueue, track] at h
  · simp [dequeue, change] at h

lemma tracked_absorb (query : MergeQuery) (batched : Bool) (m : Member) (pr : PullRequest) :
    ∃ t, (m.absorb query batched pr).tracked = some t ∧ t.pullRequest = pr := by
  have ht : ∃ t, (m.track pr).tracked = some t ∧ t.pullRequest = pr := by
    cases hm : m.tracked <;> simp [track, hm, Tracked.new]
  obtain ⟨t, ht, hpr⟩ := ht
  unfold absorb
  dsimp only
  split
  · split
    · exact ⟨t, ht, hpr⟩
    · exact ⟨{ t with bucket := .pending }, by simp [enqueue, ht], hpr⟩
  · exact ⟨_, by simp [dequeue, change, ht]; rfl, by simpa using hpr⟩

lemma bucket_foldl_absorb {query : MergeQuery} {batched : Bool} {entries : List PullRequest}
    {m : Member} (h : (entries.foldl (absorb query batched) m).bucket = some .success) :
    m.bucket = some .success ∧
      ∀ pr ∈ entries, (Policy.checkSimple query pr).passed ∨ batched := by
  induction entries generalizing m with
  | nil => exact ⟨h, by simp⟩
  | cons pr rest ih =>
    obtain ⟨hb, hr⟩ := ih h
    obtain ⟨hm, hp⟩ := bucket_absorb hb
    refine ⟨hm, fun pr' hpr => ?_⟩
    rcases List.mem_cons.mp hpr with rfl | hpr
    · exact hp
    · exact hr pr' hpr

lemma tracked_foldl_absorb (query : MergeQuery) (batched : Bool) {entries : List PullRequest}
    {last : PullRequest} (h : entries.getLast? = some last) (m : Member) :
    ∃ t, (entries.foldl (absorb query batched) m).tracked = some t ∧ t.pullRequest = last := by
  obtain ⟨front, rfl⟩ := List.getLast?_eq_some_iff.mp h
  rw [List.foldl_append]
  exact tracked_absorb query batched _ last

end Member

namespace Pool

variable {pool : Pool}

@[simp] lemma batch_absorbOne (query : MergeQuery) (pool : Pool) (pr : PullRequest) :
    (absorbOne query pool pr).batch = pool.batch := by
  unfold absorbOne
  dsimp only
  split
  · split <;> simp
  · simp

lemma Sound.absorbOne (h : pool.Sound) (query : MergeQuery) (pr : PullRequest) :
    (absorbOne query pool pr).Sound := by
  unfold Pool.absorbOne
  dsimp only
  split
  · split
    · exact h.track pr
    · exact (h.track pr).enqueue pr.id .pending
  · exact ((h.track pr).dequeue pr.id).modify pr.id _

lemma member_absorbOne (h : pool.Sound) (query : MergeQuery) (pr : PullRequest) (id : UInt64) :
    (absorbOne query pool pr).member id = if id = pr.id
      then (pool.member id).absorb query (pool.inBatch id) pr else pool.member id := by
  have ht := h.track pr
  have hi : (pool.track pr).inBatch pr.id = pool.inBatch pr.id := inBatch_congr (by simp) _
  have hb (hid : id = pr.id) : (pool.track pr).mergePool.contains pr.id =
      ((pool.member id).track pr).bucket.isSome := by
    have hm := congrArg (·.bucket.isSome) (member_track pool pr id)
    rw [if_pos hid, hid] at hm
    rw [hid]
    exact hm
  rw [absorbOne, Member.absorb]
  by_cases hid : id = pr.id
  · simp only [hi, if_pos hid, hb hid]
    rw [← hid]
    split
    · split
      · rw [member_track, if_pos hid]
      · rw [member_enqueue ht.disjoint, if_pos rfl, member_track, if_pos hid]
    · rw [member_setBlocker, if_pos rfl, member_dequeue ht.disjoint, if_pos rfl, member_track,
        if_pos hid]
  · simp only [if_neg hid]
    split
    · split
      · rw [member_track, if_neg hid]
      · rw [member_enqueue ht.disjoint, if_neg hid, member_track, if_neg hid]
    · rw [member_setBlocker, if_neg hid, member_dequeue ht.disjoint, if_neg hid, member_track,
        if_neg hid]

@[simp] lemma batch_foldl_absorbOne (query : MergeQuery) (prs : List PullRequest) (pool : Pool) :
    (prs.foldl (absorbOne query) pool).batch = pool.batch := by
  induction prs generalizing pool with
  | nil => rfl
  | cons pr rest ih => rw [List.foldl_cons, ih, batch_absorbOne]

lemma Sound.foldl_absorbOne (h : pool.Sound) (query : MergeQuery) (prs : List PullRequest) :
    (prs.foldl (Pool.absorbOne query) pool).Sound := by
  induction prs generalizing pool with
  | nil => exact h
  | cons pr rest ih => exact ih (h.absorbOne query pr)

lemma member_foldl_absorbOne (h : pool.Sound) (query : MergeQuery) (prs : List PullRequest)
    (id : UInt64) : (prs.foldl (absorbOne query) pool).member id =
      (prs.filter fun pr => pr.id = id).foldl (Member.absorb query (pool.inBatch id))
        (pool.member id) := by
  induction prs generalizing pool with
  | nil => rfl
  | cons pr rest ih =>
    rw [List.foldl_cons, ih (h.absorbOne query pr), member_absorbOne h,
      inBatch_congr (batch_absorbOne query pool pr)]
    by_cases hid : id = pr.id
    · simp [hid]
    · simp [hid, Ne.symm hid]

@[simp] lemma batch_foldl_untrack (ids : List UInt64) (pool : Pool) :
    (ids.foldl untrack pool).batch = pool.batch := by
  induction ids generalizing pool with
  | nil => rfl
  | cons id rest ih => rw [List.foldl_cons, ih, batch_untrack]

lemma Sound.foldl_untrack (h : pool.Sound) (ids : List UInt64) :
    (ids.foldl Pool.untrack pool).Sound := by
  induction ids generalizing pool with
  | nil => exact h
  | cons id rest ih => exact ih (h.untrack id)

lemma member_foldl_untrack (h : pool.Sound) (ids : List UInt64) (id : UInt64) :
    (ids.foldl untrack pool).member id = if id ∈ ids then .absent else pool.member id := by
  induction ids generalizing pool with
  | nil => rfl
  | cons k rest ih =>
    rw [List.foldl_cons, ih (h.untrack k), member_untrack h.disjoint]
    by_cases hr : id ∈ rest
    · simp [hr]
    · simp [hr, List.mem_cons]

@[simp] lemma batch_absorb (query : MergeQuery) (listed : List PullRequest) (pool : Pool) :
    (pool.absorb query listed).batch = pool.batch := by
  simp [absorb]

lemma Sound.absorb (h : pool.Sound) (query : MergeQuery) (listed : List PullRequest) :
    (pool.absorb query listed).Sound :=
  (h.foldl_absorbOne query _).foldl_untrack _

lemma member_absorb (h : pool.Sound) (query : MergeQuery) (listed : List PullRequest)
    (id : UInt64) : (pool.absorb query listed).member id =
      if openEntries listed id = [] then .absent
      else (openEntries listed id).foldl (Member.absorb query (pool.inBatch id))
        (pool.member id) := by
  have hs := h.foldl_absorbOne query (listed.filter fun pr => pr.state = .opened)
  have hm := member_foldl_absorbOne h query (listed.filter fun pr => pr.state = .opened) id
  change _ = (openEntries listed id).foldl _ _ at hm
  simp only [absorb]
  rw [member_foldl_untrack hs, hm]
  by_cases hn : openEntries listed id = []
  · have hnone := openEntries_eq_nil_iff.mp hn
    rw [hn, List.foldl_nil] at hm ⊢
    simp only [if_true, ite_eq_left_iff]
    intro hg
    -- a pull request without an open entry is spared only where it was not tracked
    have ht : (pool.member id).tracked = none := by
      cases ht : (pool.member id).tracked with
      | none => rfl
      | some t =>
        refine absurd (List.mem_filter.mpr ⟨?_, ?_⟩) hg
        · rw [mem_ids_iff]
          rw [← hm] at ht
          exact Option.isSome_iff_exists.mpr ⟨t, ht⟩
        · simpa using hnone
    have hb := h.bucket_eq_none ht
    calc pool.member id = ⟨(pool.member id).tracked, (pool.member id).bucket⟩ := rfl
      _ = .absent := by rw [ht, hb]; rfl
  · rw [if_neg hn, if_neg]
    rw [openEntries_eq_nil_iff] at hn
    simpa using fun _ => hn

end Pool

end MergeQueue
