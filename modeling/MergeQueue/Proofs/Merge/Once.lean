import MergeQueue.Proofs.Merge.Batch

/-! A pull request that is merged leaves the merge pool. It comes back by a listing alone, and to
where it can be merged by an evaluation that passes it. -/

namespace MergeQueue

open Engine

variable {setup : Setup} {key : String} {id : UInt64}

namespace Visit

structure Lists (id : UInt64) (v : Visit) : Prop where
  stage : v.stage = .poolSync
  entry : ∃ listed ∈ v.said.filterMap Said.listed?, ∃ pr ∈ listed, pr.state = .opened ∧ pr.id = id

structure Passes (settings : Settings) (id : UInt64) (v : Visit) : Prop where
  stage : v.stage = .statusSync
  passed : ∃ e ∈ evaluationsOf settings id v.said, e.verdict.passed = true

lemma lists_of_views {settings : Settings} {v : Visit} {held : Bool} {pr : PullRequest}
    (h : .listed held pr ∈ v.views settings id) : v.Lists id := by
  obtain ⟨before, stage, said⟩ := v
  cases stage with
  | poolSync =>
    obtain ⟨listed, hl, hpr⟩ := List.mem_flatMap.mp h
    obtain ⟨pr, hpr, _⟩ := List.mem_map.mp hpr
    exact ⟨rfl, listed, hl, pr, mem_openEntries_iff.mp hpr⟩
  | statusSync => simp [views] at h
  | merge => cases h

lemma passes_of_views {settings : Settings} {v : Visit} {held : Bool} {e : Evaluation}
    (h : .evaluated held e ∈ v.views settings id) (hp : e.verdict.passed = true) :
    v.Passes settings id := by
  obtain ⟨before, stage, said⟩ := v
  cases stage with
  | poolSync => simp [views] at h
  | statusSync =>
    obtain ⟨e, he, heq⟩ := List.mem_map.mp h
    cases heq
    exact ⟨rfl, e, he, hp⟩
  | merge => cases h

end Visit

/-- The pull request is listed as open, and evaluated as passing after that. -/
def Renewed (settings : Settings) (id : UInt64) (visits : List Visit) : Prop :=
  ∃ front listing mid review back, visits = front ++ listing :: mid ++ review :: back ∧
    listing.Lists id ∧ review.Passes settings id

lemma Renewed.append {settings : Settings} {visits : List Visit}
    (h : Renewed settings id visits) (more : List Visit) : Renewed settings id (visits ++ more) := by
  obtain ⟨front, listing, mid, review, back, rfl, hl, hp⟩ := h
  exact ⟨front, listing, mid, review, back ++ more, by simp, hl, hp⟩

lemma renewed_concat {settings : Settings} {visits : List Visit} {review : Visit}
    (h : ∃ v ∈ visits, v.Lists id) (hp : review.Passes settings id) :
    Renewed settings id (visits ++ [review]) := by
  obtain ⟨listing, hin, hl⟩ := h
  obtain ⟨front, mid, rfl⟩ := List.append_of_mem hin
  exact ⟨front, listing, mid, review, [], rfl, hl, hp⟩

lemma Fate.listed_of_bucket {consulted : RepoConfig → Prop} {held : Bool} {merged : Prop}
    {m m' : Member} {views : List View} {acks : List CommitStatus}
    (h : Fate setup consulted held merged m views acks m') (hb : m'.bucket.isSome) :
    m.bucket.isSome ∨ ∃ held pr, .listed held pr ∈ views := by
  cases h with
  | gone => cases hb
  | left => cases hb
  | @listed config merge m entries _ _ hne =>
    obtain ⟨pr, hpr⟩ := List.exists_mem_of_ne_nil entries hne
    exact .inr ⟨held, pr, List.mem_map_of_mem hpr⟩
  | reviewed hlook htold =>
    rw [htold.bucket] at hb
    cases hlook with
    | past => exact .inl hb
    | evaluated _ _ hb' => exact .inl hb'

lemma Fate.passed_of_bucket {consulted : RepoConfig → Prop} {held : Bool} {merged : Prop}
    {m m' : Member} {views : List View} {acks : List CommitStatus}
    (h : Fate setup consulted held merged m views acks m') (hb : m'.bucket = some .success) :
    m.bucket = some .success ∨
      (m.bucket.isSome ∧ ∃ held e, .evaluated held e ∈ views ∧ e.verdict.passed = true) := by
  cases h with
  | gone => cases hb
  | left => cases hb
  | listed => exact .inl (Member.bucket_foldl_absorb hb).1
  | reviewed hlook htold =>
    rw [htold.bucket] at hb
    cases hlook with
    | past => exact .inl hb
    | evaluated _ _ hm ht =>
      exact .inr ⟨hm, held, _, List.mem_singleton.mpr rfl, Member.bucket_settle hm ht hb⟩

structure Spent (settings : Settings) (id : UInt64) (since : List Visit) (pool : Pool) : Prop where
  listed : (pool.member id).bucket.isSome → ∃ v ∈ since, v.Lists id
  passed : (pool.member id).bucket = some .success → Renewed settings id since
  batched : pool.inBatch id = true → Renewed settings id since

lemma Spent.renewed {settings : Settings} {since : List Visit} {pool : Pool}
    (h : Spent settings id since pool) (hs : pool.Sound) (hid : id ∈ pool.mergeOrder) :
    Renewed settings id since := by
  rcases Pool.mem_mergeOrder hs hid with hb | hin
  · exact h.passed hb
  · exact h.batched hin

lemma QueueStep.spent_next {stage : Stage} {q q' : Option Queue} {said : List Said}
    (hstep : QueueStep setup key stage q said q') {since : List Visit}
    (h : Spent setup.settings id since (poolOf q)) (hs : (poolOf q).Sound)
    (hfiled : (poolOf q).Filed) :
    Spent setup.settings id (since ++ [⟨q, stage, said⟩]) (poolOf q') := by
  have hfate := hstep.fate hs id
  refine ⟨fun hb => ?_, fun hb => ?_, fun hin => ?_⟩
  · rcases hfate.listed_of_bucket hb with hb | ⟨held, pr, hview⟩
    · obtain ⟨v, hv, hl⟩ := h.listed hb
      exact ⟨v, List.mem_append_left _ hv, hl⟩
    · exact ⟨_, List.mem_append_right _ List.mem_cons_self, Visit.lists_of_views hview⟩
  · rcases hfate.passed_of_bucket hb with hb | ⟨hb, held, e, hview, hp⟩
    · exact (h.passed hb).append _
    · exact renewed_concat (h.listed hb) (Visit.passes_of_views hview hp)
  · rcases (hstep.carried hs).reformed.inBatch hs hin with hin | ⟨k, t, ht, hbucket, hk⟩
    · exact (h.batched hin).append _
    · obtain rfl := (hfiled ht).symm.trans hk
      exact (h.passed hbucket).append _

lemma Engine.Departed.merged_eq {pool pool' : Pool} {gone : List UInt64} {said : List Said}
    (h : Departed pool gone said pool') (hfiled : pool.Filed) : mergedIds said = gone := by
  have hnumber : gone.map pool.number? = gone.map some := by
    apply List.map_congr_left
    intro k hk
    have hmem : pool.number? k ∈ gone.map pool.number? := List.mem_map_of_mem hk
    rw [← h.merged] at hmem
    obtain ⟨n, _, hn⟩ := List.mem_map.mp hmem
    obtain ⟨t, ht, rfl⟩ := Option.map_eq_some_iff.mp hn.symm
    rw [← hn, hfiled ht]
  have hmap := h.merged.trans hnumber
  exact (List.map_inj_right fun _ _ => Option.some.inj).mp hmap

lemma Pool.mergeOrder_ascending {settings : Settings} {pool : Pool}
    (h : ∀ batch, pool.batch = some batch → batch.Proper settings) :
    pool.mergeOrder.Pairwise (· < ·) := by
  cases hb : pool.batch with
  | none =>
    rw [mergeOrder_of_none hb]
    exact MergePool.bucket_ascending _ _
  | some batch =>
    rw [mergeOrder_of_batch hb]
    exact (h batch hb).ascending

lemma Engine.Merged.merged_sublist {queue : Queue} {l : List Said} {pool : Pool}
    (h : Merged setup key queue l pool) (hs : queue.pool.Sound) (hfiled : queue.pool.Filed) :
    (mergedIds l).Sublist queue.pool.mergeOrder := by
  obtain ⟨gone, hd, hsub⟩ := h.departed hs
  rwa [hd.merged_eq hfiled]

lemma Engine.Merged.spent {queue : Queue} {l : List Said} {pool : Pool}
    (h : Merged setup key queue l pool) (hs : queue.pool.Sound) (hfiled : queue.pool.Filed)
    (hid : id ∈ mergedIds l) : Spent setup.settings id [] pool := by
  obtain ⟨gone, hd, _⟩ := h.departed hs
  have hmember := hd.left.member id
  rw [hd.merged_eq hfiled] at hid
  rw [if_pos hid] at hmember
  have hbatch : pool.batch = none := Decidable.byContradiction fun hb => by
    rw [← hd.merged_eq hfiled, h.unmerged hs hb] at hid
    cases hid
  refine ⟨?_, ?_, ?_⟩
  · rw [hmember]
    rintro ⟨⟩
  · rw [hmember]
    rintro ⟨⟩
  · rw [Pool.inBatch, hbatch]
    rintro ⟨⟩

lemma QueueRun.spent {visits : List Visit} {q : Option Queue} (run : QueueRun setup key none visits q)
    (honest : ∀ s ∈ visits.flatMap (·.said), s.Honest) {front since : List Visit} {v : Visit}
    (h : visits = front ++ v :: since) (hid : id ∈ mergedIds v.said) :
    Spent setup.settings id since (poolOf q) := by
  induction run generalizing since with
  | start => simp at h
  | next run hstep ih =>
    rw [List.flatMap_append] at honest
    have honest' := fun s hs => honest s (List.mem_append_left _ hs)
    have hfiled := run.filed honest'
    rcases cut_concat h with ⟨_, rfl, rfl⟩ | ⟨rest, rfl, hvisits⟩
    · obtain ⟨queue, pool, rfl, rfl, rfl, hm⟩ := hstep.merged_of_mem run.sound hid
      exact hm.spent run.sound hfiled hid
    · exact hstep.spent_next (ih honest' hvisits) run.sound hfiled

lemma QueueRun.merged_nodup {visits : List Visit} {q : Option Queue}
    (run : QueueRun setup key none visits q) (honest : ∀ s ∈ visits.flatMap (·.said), s.Honest)
    {v : Visit} (hv : v ∈ visits) : (mergedIds v.said).Nodup := by
  obtain ⟨front, back, rfl⟩ := List.append_of_mem hv
  rw [List.flatMap_append] at honest
  have honest' := fun s hs => honest s (List.mem_append_left _ hs)
  obtain ⟨run', q', hstep, _⟩ := run.cut rfl
  cases hids : mergedIds v.said with
  | nil => exact List.nodup_nil
  | cons id rest =>
    obtain ⟨queue, pool, _, hq, _, hm⟩ :=
      hstep.merged_of_mem run'.sound (hids ▸ List.mem_cons_self)
    have hs := run'.sound
    have hfiled := run'.filed honest'
    have hproper := (run'.batch honest').1
    rw [hq] at hs hfiled hproper
    have hasc := (Pool.mergeOrder_ascending hproper).sublist (hm.merged_sublist hs hfiled)
    rw [← hids]
    exact hasc.imp UInt64.ne_of_lt

/-- Between two merges of a pull request that the host accepts it is listed as open, and after that
evaluated as passing. -/
theorem merged_again_renewed {turns : List Turn} {table : Table} (run : Run setup ∅ turns table)
    (honest : ∀ s ∈ heardIn key turns, s.Honest) :
    (∀ t ∈ turns, (mergedIds (heard key t.log)).Nodup) ∧
    ∀ front first mid second back id, turns = front ++ first :: mid ++ second :: back →
      id ∈ mergedIds (heard key first.log) → id ∈ mergedIds (heard key second.log) →
        Renewed setup.settings id (mid.map (Turn.visit key)) := by
  have hrun := run.queue key
  rw [heardIn_eq] at honest
  refine ⟨fun t ht => hrun.merged_nodup honest (List.mem_map_of_mem ht), ?_⟩
  rintro front first mid second back id rfl hfirst hsecond
  simp only [List.map_append, List.map_cons] at hrun honest
  obtain ⟨hbefore, q', hstep, _⟩ := hrun.cut rfl
  rw [List.flatMap_append] at honest
  have honest' := fun s hs => honest s (List.mem_append_left _ hs)
  have hspent := hbefore.spent honest' rfl hfirst
  have hs := hbefore.sound
  have hfiled := hbefore.filed honest'
  obtain ⟨queue, pool, _, hq, _, hm⟩ := hstep.merged_of_mem hs hsecond
  rw [hq] at hspent hs hfiled
  exact hspent.renewed hs ((hm.merged_sublist hs hfiled).subset hsecond)

theorem merged_again_renewed_demo :
    let w := demoWorld (demoPull 1 "aaa" [])
    let cycle := [(.poolSync, w), (.statusSync, w), (.merge, w)]
    ∃ front first mid second back,
      (play demoSetup (cycle ++ cycle)).1 = front ++ first :: mid ++ second :: back ∧
      1 ∈ mergedIds (heard demo.poolKey first.log) ∧
      1 ∈ mergedIds (heard demo.poolKey second.log) ∧
      Renewed demoSetup.settings 1 (mid.map (Turn.visit demo.poolKey)) := by
  intro w cycle
  have hmerged : (play demoSetup (cycle ++ cycle)).1.map
      (fun t => mergedIds (heard demo.poolKey t.log)) = [[], [], [1], [], [], [1]] := by
    decide +kernel
  have honest : ∀ s ∈ heardIn demo.poolKey (play demoSetup (cycle ++ cycle)).1, s.Honest := by
    decide +kernel
  obtain ⟨a, b, first, d, e, second, hturns⟩ : ∃ a b first d e second,
      (play demoSetup (cycle ++ cycle)).1 = [a, b] ++ first :: [d, e] ++ second :: [] :=
    ⟨_, _, _, _, _, _, rfl⟩
  rw [hturns] at hmerged
  simp only [List.cons_append, List.nil_append, List.map_cons, List.cons.injEq] at hmerged
  obtain ⟨_, _, hfirst, _, _, hsecond, _⟩ := hmerged
  replace hfirst : 1 ∈ mergedIds (heard demo.poolKey first.log) :=
    hfirst ▸ List.mem_singleton.mpr rfl
  replace hsecond : 1 ∈ mergedIds (heard demo.poolKey second.log) :=
    hsecond ▸ List.mem_singleton.mpr rfl
  exact ⟨[a, b], first, [d, e], second, [], hturns, hfirst, hsecond,
    (merged_again_renewed (run_play demoSetup _) honest).2 _ _ _ _ _ 1 hturns hfirst hsecond⟩

end MergeQueue
