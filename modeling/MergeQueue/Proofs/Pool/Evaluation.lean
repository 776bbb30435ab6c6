import MergeQueue.Proofs.Pool.Member

namespace MergeQueue

lemma filter_key_of_nodup {α : Type} {es : List (UInt64 × α)} (h : (es.map (·.1)).Nodup)
    (id : UInt64) :
    (id ∉ es.map (·.1) ∧ es.filter (fun e => e.1 = id) = []) ∨
      ∃ e, (id, e) ∈ es ∧ es.filter (fun e => e.1 = id) = [(id, e)] := by
  by_cases hid : id ∈ es.map (·.1)
  · refine .inr ?_
    induction es with
    | nil => cases hid
    | cons first rest ih =>
      obtain ⟨hnot, hr⟩ := List.nodup_cons.mp h
      rcases List.mem_cons.mp hid with rfl | hid
      · refine ⟨first.2, List.mem_cons_self, ?_⟩
        have hnone : rest.filter (fun e => e.1 = first.1) = [] := by
          refine List.filter_eq_nil_iff.mpr fun e he hd => hnot (List.mem_map.mpr ⟨e, he, ?_⟩)
          exact of_decide_eq_true hd
        rw [List.filter_cons, if_pos (decide_eq_true rfl), hnone]
      · obtain ⟨e, hin, hone⟩ := ih hr hid
        have hne : first.1 ≠ id := by
          rintro rfl
          exact hnot hid
        refine ⟨e, List.mem_cons_of_mem _ hin, ?_⟩
        rw [List.filter_cons, if_neg (by simpa using hne), hone]
  · refine .inl ⟨hid, List.filter_eq_nil_iff.mpr fun e he hd => hid (List.mem_map.mpr ⟨e, he, ?_⟩)⟩
    exact of_decide_eq_true hd

namespace Member

lemma tracked_record (e : Evaluation) (status : CommitState) (description : String) (m : Member) :
    (m.record e status description).tracked = m.tracked.map fun t =>
      { t with pullRequest := e.pullRequest, statuses := e.statuses }.setBlocker status description :=
  rfl

lemma bucket_settle {batched : Bool} {e : Evaluation} {m : Member} (hm : m.bucket.isSome)
    (ht : m.tracked.isSome) (h : (m.settle batched e).bucket = some .success) :
    e.verdict.passed = true := by
  rw [settle] at h
  rw [if_pos hm] at h
  split at h
  · simp [record, change, dequeue] at h
  · split at h
    · next hp => exact hp
    · simp [record, change, enqueue, ht] at h

lemma record_settle {batched : Bool} {e : Evaluation} {m : Member} {t : Tracked}
    (hm : m.bucket.isSome) (ht : m.tracked = some t) :
    ∃ bucket status description, (m.settle batched e).tracked =
      some (Tracked.setBlocker { t with bucket, pullRequest := e.pullRequest, statuses := e.statuses }
        status description) := by
  rw [settle, if_pos hm]
  split
  · exact ⟨.unknown, _, _, by rw [tracked_record]; simp [dequeue, ht]; rfl⟩
  · split
    · exact ⟨.success, _, _, by rw [tracked_record]; simp [enqueue, ht]; rfl⟩
    · exact ⟨.pending, _, _, by rw [tracked_record]; simp [enqueue, ht]; rfl⟩

lemma tracked_settle {batched : Bool} {e : Evaluation} {m : Member} {t : Tracked}
    (hm : m.bucket.isSome) (ht : m.tracked = some t) :
    ∃ t', (m.settle batched e).tracked = some t' ∧ t'.pullRequest = e.pullRequest := by
  obtain ⟨bucket, status, description, hsettled⟩ := record_settle hm ht
  exact ⟨_, hsettled, by simp⟩

end Member

namespace Pool

variable {pool : Pool}

@[simp] lemma batch_settle (pool : Pool) (id : UInt64) (e : Evaluation) :
    (pool.settle id e).batch = pool.batch := by
  rw [settle]
  split
  · split
    · simp
    · split <;> simp
  · rfl

lemma Sound.settle (h : pool.Sound) (id : UInt64) (e : Evaluation) : (pool.settle id e).Sound := by
  rw [Pool.settle]
  split
  · split
    · exact (h.dequeue id).modify id _
    · split
      · exact (h.enqueue id .success).modify id _
      · exact (h.enqueue id .pending).modify id _
  · exact h

lemma member_settle (h : pool.Sound) (k : UInt64) (e : Evaluation) (id : UInt64) :
    (pool.settle k e).member id = if id = k
      then (pool.member id).settle (pool.inBatch id) e else pool.member id := by
  rw [settle, Member.settle]
  by_cases hid : id = k
  · subst hid
    simp only [if_true]
    have hc : pool.mergePool.contains id = (pool.member id).bucket.isSome := rfl
    rw [hc]
    split
    · split
      · rw [member_record, if_pos rfl, member_dequeue h.disjoint, if_pos rfl]
      · split <;> rw [member_record, if_pos rfl, member_enqueue h.disjoint, if_pos rfl]
    · rfl
  · simp only [if_neg hid]
    split
    · split
      · rw [member_record, if_neg hid, member_dequeue h.disjoint, if_neg hid]
      · split <;> rw [member_record, if_neg hid, member_enqueue h.disjoint, if_neg hid]
    · rfl

def settleAll (pool : Pool) (evaluations : List (UInt64 × Evaluation)) : Pool :=
  evaluations.foldl (fun pool (id, e) => pool.settle id e) pool

@[simp] lemma batch_settleAll (pool : Pool) (evaluations : List (UInt64 × Evaluation)) :
    (pool.settleAll evaluations).batch = pool.batch := by
  induction evaluations generalizing pool with
  | nil => rfl
  | cons first rest ih => exact (ih _).trans (batch_settle pool first.1 first.2)

@[simp] lemma ids_settle (pool : Pool) (id : UInt64) (e : Evaluation) :
    (pool.settle id e).ids = pool.ids := by
  have henqueue (bucket : Bucket) : (pool.enqueue id bucket).ids = pool.ids := by
    rw [enqueue]
    split <;> simp [ids, modify]
  rw [settle]
  split
  · split
    · simp [record, dequeue, ids, modify]
    · split
      · exact (SortedMap.keys_modify _ _ _).trans (henqueue .success)
      · exact (SortedMap.keys_modify _ _ _).trans (henqueue .pending)
  · rfl

@[simp] lemma ids_settleAll (pool : Pool) (evaluations : List (UInt64 × Evaluation)) :
    (pool.settleAll evaluations).ids = pool.ids := by
  induction evaluations generalizing pool with
  | nil => rfl
  | cons first rest ih => exact (ih _).trans (ids_settle pool first.1 first.2)

lemma Sound.settleAll (h : pool.Sound) (evaluations : List (UInt64 × Evaluation)) :
    (pool.settleAll evaluations).Sound := by
  induction evaluations generalizing pool with
  | nil => exact h
  | cons first rest ih => exact ih (h.settle first.1 first.2)

lemma member_settleAll (h : pool.Sound) (evaluations : List (UInt64 × Evaluation)) (id : UInt64) :
    (pool.settleAll evaluations).member id =
      ((evaluations.filter fun e => e.1 = id).map (·.2)).foldl
        (Member.settle (pool.inBatch id)) (pool.member id) := by
  induction evaluations generalizing pool with
  | nil => rfl
  | cons first rest ih =>
    have hrest := ih (h.settle first.1 first.2)
    rw [inBatch_congr (batch_settle pool first.1 first.2), member_settle h] at hrest
    apply hrest.trans
    by_cases hid : id = first.1
    · simp [hid]
    · simp [hid, Ne.symm hid]

lemma member_settleAll_cases (h : pool.Sound) {es : List (UInt64 × Evaluation)}
    (hn : (es.map (·.1)).Nodup) (id : UInt64) :
    (id ∉ es.map (·.1) ∧ (pool.settleAll es).member id = pool.member id) ∨
      ∃ e, (id, e) ∈ es ∧
        (pool.settleAll es).member id = (pool.member id).settle (pool.inBatch id) e := by
  rw [member_settleAll h]
  rcases filter_key_of_nodup hn id with ⟨hnot, hnone⟩ | ⟨e, hin, hone⟩
  · rw [hnone]
    exact .inl ⟨hnot, rfl⟩
  · rw [hone]
    exact .inr ⟨e, hin, rfl⟩

end Pool

end MergeQueue
