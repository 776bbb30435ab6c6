import MergeQueue.Pool.MergePool
import MergeQueue.Proofs.Sorted

namespace MergeQueue

lemma SortedSet.mem_elements_iff (s : SortedSet UInt64) (id : UInt64) :
    id ∈ s.elements ↔ s.contains id := by
  simp [SortedSet.contains]

namespace MergePool

def Disjoint (pool : MergePool) : Prop :=
  ∀ id b c, (pool.members b).contains id → (pool.members c).contains id → b = c

lemma disjoint_empty : MergePool.empty.Disjoint := by
  intro id b c hb
  cases b <;> simp [members, empty, EmptyCollection.emptyCollection, SortedSet.empty,
    SortedSet.contains] at hb

lemma mem_of_search {pool : MergePool} {id : UInt64} {b : Bucket} (h : pool.search id = some b) :
    (pool.members b).contains id := by
  rw [search] at h
  simpa using List.find?_some h

lemma search_eq_none_iff (pool : MergePool) (id : UInt64) :
    pool.search id = none ↔ ∀ b, (pool.members b).contains id = false := by
  simp only [search, List.find?_eq_none, Bool.not_eq_true]
  constructor
  · intro h b
    exact h b (by cases b <;> decide)
  · intro h b _
    exact h b

lemma search_eq_some_iff {pool : MergePool} (h : pool.Disjoint) (id : UInt64) (b : Bucket) :
    pool.search id = some b ↔ (pool.members b).contains id := by
  constructor
  · exact mem_of_search
  · intro hb
    cases hs : pool.search id with
    | none =>
      have hnone := (search_eq_none_iff pool id).mp hs b
      simp [hb] at hnone
    | some c => rw [h id c b (mem_of_search hs) hb]

lemma contains_iff (pool : MergePool) (id : UInt64) :
    pool.contains id ↔ ∃ b, (pool.members b).contains id := by
  rw [contains, ← Option.ne_none_iff_isSome, ne_eq, search_eq_none_iff]
  simp

lemma mem_bucket_iff {pool : MergePool} (h : pool.Disjoint) (id : UInt64) (b : Bucket) :
    id ∈ pool.bucket b ↔ pool.search id = some b := by
  rw [search_eq_some_iff h, bucket, SortedSet.mem_elements_iff]

lemma mem_ids_iff (pool : MergePool) (id : UInt64) : id ∈ pool.ids ↔ pool.contains id := by
  simp only [ids, SortedSet.mem_distinct, List.mem_flatMap, bucket, SortedSet.mem_elements_iff,
    contains_iff]
  constructor
  · rintro ⟨b, _, h⟩
    exact ⟨b, h⟩
  · rintro ⟨b, h⟩
    exact ⟨b, by cases b <;> decide, h⟩

lemma bucket_ascending (pool : MergePool) (bucket : Bucket) :
    (pool.bucket bucket).Pairwise (· < ·) :=
  (pool.members bucket).ascending

lemma ids_ascending (pool : MergePool) : pool.ids.Pairwise (· < ·) :=
  (SortedSet.ofList _).ascending

lemma ids_nodup (pool : MergePool) : pool.ids.Nodup :=
  SortedMap.ascending_nodup pool.ids_ascending

lemma members_delete {pool : MergePool} (h : pool.Disjoint) (id : UInt64) (b : Bucket)
    (x : UInt64) : ((pool.delete id).members b).contains x =
      (decide (x ≠ id) && (pool.members b).contains x) := by
  rw [delete]
  cases hs : pool.search id with
  | none =>
    by_cases hx : x = id
    · subst hx
      simp [(search_eq_none_iff pool x).mp hs b]
    · simp [hx]
  | some c =>
    simp only [members_change]
    split
    · next hc =>
      subst hc
      rw [SortedSet.contains_erase]
    · next hc =>
      by_cases hx : x = id
      · subst hx
        have hnot : (pool.members b).contains x = false := by
          apply Bool.eq_false_iff.mpr
          intro hb
          exact hc (h x b c hb (mem_of_search hs))
        simp [hnot]
      · simp [hx]

lemma members_add {pool : MergePool} (h : pool.Disjoint) (id : UInt64) (c b : Bucket)
    (x : UInt64) : ((pool.add id c).members b).contains x =
      if x = id then decide (b = c) else (pool.members b).contains x := by
  simp only [add, members_change]
  split
  · next hb =>
    subst hb
    rw [SortedSet.contains_insert, members_delete h]
    by_cases hx : x = id <;> simp [hx]
  · next hb =>
    rw [members_delete h]
    by_cases hx : x = id <;> simp [hx, hb]

lemma disjoint_delete {pool : MergePool} (h : pool.Disjoint) (id : UInt64) :
    (pool.delete id).Disjoint := by
  intro x b c hb hc
  rw [members_delete h] at hb hc
  simp only [Bool.and_eq_true] at hb hc
  exact h x b c hb.2 hc.2

lemma disjoint_add {pool : MergePool} (h : pool.Disjoint) (id : UInt64) (bucket : Bucket) :
    (pool.add id bucket).Disjoint := by
  intro x b c hb hc
  rw [members_add h] at hb hc
  by_cases hx : x = id
  · simp only [hx, if_true, decide_eq_true_eq] at hb hc
    rw [hb, hc]
  · simp only [hx, if_false] at hb hc
    exact h x b c hb hc

lemma search_delete {pool : MergePool} (h : pool.Disjoint) (id x : UInt64) :
    (pool.delete id).search x = if x = id then none else pool.search x := by
  simp only [search, members_delete h]
  by_cases hx : x = id <;> simp [hx]

lemma search_add {pool : MergePool} (h : pool.Disjoint) (id : UInt64) (b : Bucket) (x : UInt64) :
    (pool.add id b).search x = if x = id then some b else pool.search x := by
  split
  · next hx =>
    rw [search_eq_some_iff (disjoint_add h id b), members_add h]
    simp [hx]
  · next hx => simp only [search, members_add h, hx, if_false]

@[simp] lemma search_empty (id : UInt64) : MergePool.empty.search id = none := by
  rw [search_eq_none_iff]
  intro b
  cases b <;> rfl

lemma ext_search {pool pool' : MergePool} (h : pool.Disjoint) (h' : pool'.Disjoint)
    (hs : ∀ id, pool.search id = pool'.search id) : pool = pool' := by
  have hmembers (b : Bucket) : pool.members b = pool'.members b := by
    apply SortedSet.ext_elements
    intro id
    rw [SortedSet.mem_elements_iff, SortedSet.mem_elements_iff, ← search_eq_some_iff h,
      ← search_eq_some_iff h', hs]
  obtain ⟨_, _, _, _⟩ := pool
  obtain ⟨_, _, _, _⟩ := pool'
  have hunknown := hmembers .unknown
  have hpending := hmembers .pending
  have hsuccess := hmembers .success
  have hfailure := hmembers .failure
  simp only [members] at hunknown hpending hsuccess hfailure
  rw [hunknown, hpending, hsuccess, hfailure]

end MergePool

end MergeQueue
