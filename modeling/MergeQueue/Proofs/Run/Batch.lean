import MergeQueue.Proofs.Run.Account
import MergeQueue.Proofs.Run.Retest

namespace MergeQueue

open Engine Dialogue

variable {setup : Setup} {key : String}

lemma filterMap_sublist_map {α β : Type} {f : α → Option β} {g : α → β} {l : List α}
    (h : ∀ a ∈ l, ∀ b, f a = some b → b = g a) : (l.filterMap f).Sublist (l.map g) := by
  induction l with
  | nil => exact .refl _
  | cons a rest ih =>
    have hrest := ih fun a ha => h a (List.mem_cons_of_mem _ ha)
    cases hf : f a with
    | none =>
      rw [List.filterMap_cons_none hf]
      exact hrest.cons _
    | some b =>
      rw [List.filterMap_cons_some hf, List.map_cons, h a List.mem_cons_self b hf]
      exact hrest.cons_cons _

inductive Reformed (settings : Settings) (pool : Pool) : Option Batch → Prop
  | none : Reformed settings pool none
  | kept {old batch : Batch} : pool.batch = some old → batch.branch = old.branch →
      batch.pullRequests = old.pullRequests → Reformed settings pool (some batch)
  | shrunk {old batch : Batch} : pool.batch = some old → 1 < old.pullRequests.length →
      batch.branch = old.branch → batch.pullRequests = old.pullRequests.dropLast →
      Reformed settings pool (some batch)
  | formed {first t} {batch : Batch} : pool.batch = .none →
      (pool.mergePool.bucket .success).head? = some first → pool.find? first = some t →
      batch.branch = t.pullRequest.target →
      batch.pullRequests = batched settings pool (pool.mergePool.bucket .success)
        t.pullRequest.target →
      Reformed settings pool (some batch)

lemma Reformed.same (settings : Settings) (pool : Pool) : Reformed settings pool pool.batch := by
  cases hb : pool.batch with
  | none => exact .none
  | some batch => exact .kept hb rfl rfl

lemma mem_batched {settings : Settings} {pool : Pool} {candidates : List UInt64}
    {branch : String} {pr : PullRequest} (h : pr ∈ batched settings pool candidates branch) :
    ∃ id ∈ candidates, ∃ t, pool.find? id = some t ∧ t.pullRequest = pr := by
  obtain ⟨id, hid, hpr⟩ :=
    List.mem_filterMap.mp (List.mem_filter.mp (List.mem_of_mem_take h)).1
  obtain ⟨t, ht, hpr⟩ := Option.map_eq_some_iff.mp hpr
  exact ⟨id, hid, t, ht, hpr⟩

lemma batched_ne_nil {settings : Settings} {pool : Pool} {candidates : List UInt64}
    {first : UInt64} {t : Tracked} (hf : candidates.head? = some first)
    (ht : pool.find? first = some t) :
    batched settings pool candidates t.pullRequest.target ≠ [] := by
  obtain ⟨rest, rfl⟩ := List.head?_eq_some_iff.mp hf
  simp only [batched, List.filterMap_cons, ht, Option.map_some, List.filter_cons, decide_true,
    if_true, ne_eq, List.take_eq_nil_iff, reduceCtorEq, or_false]
  omega

lemma Reformed.nonempty {settings : Settings} {pool : Pool} {b : Option Batch}
    (h : Reformed settings pool b)
    (hold : ∀ old, pool.batch = some old → old.pullRequests ≠ []) :
    ∀ batch, b = some batch → batch.pullRequests ≠ [] := by
  rintro batch rfl
  cases h with
  | kept hb _ hprs =>
    rw [hprs]
    exact hold _ hb
  | shrunk _ hmore _ hprs =>
    rw [hprs]
    apply List.ne_nil_of_length_pos
    rw [List.length_dropLast]
    omega
  | formed _ hf ht _ hprs =>
    rw [hprs]
    exact batched_ne_nil hf ht

lemma Reformed.target {settings : Settings} {pool : Pool} {b : Option Batch}
    (h : Reformed settings pool b)
    (hold : ∀ old, pool.batch = some old → ∀ pr ∈ old.pullRequests, pr.target = old.branch) :
    ∀ batch, b = some batch → ∀ pr ∈ batch.pullRequests, pr.target = batch.branch := by
  rintro batch rfl pr hpr
  cases h with
  | kept hb hbranch hprs =>
    rw [hbranch]
    exact hold _ hb pr (hprs ▸ hpr)
  | shrunk hb _ hbranch hprs =>
    rw [hbranch]
    exact hold _ hb pr ((List.dropLast_sublist _).subset (hprs ▸ hpr))
  | formed _ _ _ hbranch hprs =>
    rw [hprs] at hpr
    rw [hbranch]
    exact of_decide_eq_true (List.mem_filter.mp (List.mem_of_mem_take hpr)).2

lemma Reformed.member {settings : Settings} {pool : Pool} {b : Option Batch}
    (h : Reformed settings pool b) (hs : pool.Sound) :
    ∀ batch, b = some batch → ∀ pr ∈ batch.pullRequests,
      (∃ old, pool.batch = some old ∧ pr ∈ old.pullRequests) ∨
        ∃ id t, pool.find? id = some t ∧ (pool.member id).bucket = some .success ∧
          t.pullRequest = pr := by
  rintro batch rfl pr hpr
  cases h with
  | kept hb _ hprs => exact .inl ⟨_, hb, hprs ▸ hpr⟩
  | shrunk hb _ _ hprs => exact .inl ⟨_, hb, (List.dropLast_sublist _).subset (hprs ▸ hpr)⟩
  | formed _ _ _ _ hprs =>
    obtain ⟨id, hid, t, ht, htpr⟩ := mem_batched (hprs ▸ hpr)
    exact .inr ⟨id, t, ht, (MergePool.mem_bucket_iff hs.disjoint _ _).mp hid, htpr⟩

structure Carried (settings : Settings) (pool : Pool) (said : List Said) (pool' : Pool) : Prop where
  reformed : Reformed settings pool pool'.batch
  job : ∀ batch job, pool'.batch = some batch → batch.job = some job →
    (createdJobs said = [] ∧ pool.batch = some batch) ∨
      ∃ request, createdJobs said = [(request, job)] ∧ request.Tests batch

lemma Carried.none {settings : Settings} {pool pool' : Pool} {said : List Said}
    (h : pool'.batch = none) : Carried settings pool said pool' :=
  ⟨by rw [h]; exact .none, by simp [h]⟩

lemma Reformed.inBatch {settings : Settings} {pool pool' : Pool}
    (h : Reformed settings pool pool'.batch) (hs : pool.Sound) {id : UInt64}
    (hin : pool'.inBatch id = true) :
    pool.inBatch id = true ∨ ∃ k t, pool.find? k = some t ∧
      (pool.member k).bucket = some .success ∧ t.pullRequest.id = id := by
  obtain ⟨batch, hb, pr, hpr, hid⟩ := inBatch_iff.mp hin
  rcases h.member hs batch hb pr hpr with ⟨old, hold, hpr⟩ | ⟨k, t, ht, hbucket, rfl⟩
  · exact .inl (inBatch_iff.mpr ⟨old, hold, pr, hpr, hid⟩)
  · exact .inr ⟨k, t, ht, hbucket, hid⟩

lemma Reformed.after {settings : Settings} {pool : Pool} {old : Batch}
    (hb : pool.batch = some old) (r : Except Error JobState) :
    Reformed settings pool (old.after r) := by
  unfold Batch.after
  split
  · exact .none
  · rw [Batch.shrunk]
    split
    · next hlen => exact .shrunk hb hlen rfl rfl
    · exact .none
  · exact .kept hb rfl rfl
  · exact .kept hb rfl rfl

lemma Batch.after_of_job {old batch : Batch} {r : Except Error JobState} {job : JobRef}
    (h : old.after r = some batch) (hj : batch.job = some job) : batch = old := by
  unfold Batch.after at h
  split at h
  · cases h
  · rw [Batch.shrunk] at h
    split at h
    · cases h
      cases hj
    · cases h
  · cases h
    cases hj
  · cases h
    rfl

lemma Commissioned.kept {batch batch' : Batch} {talk : List Said}
    (h : Commissioned batch talk batch') :
    batch'.branch = batch.branch ∧ batch'.pullRequests = batch.pullRequests := by
  cases h <;> exact ⟨rfl, rfl⟩

lemma Commissioned.job {batch batch' : Batch} {talk : List Said} {job : JobRef}
    (h : Commissioned batch talk batch') (hnone : batch.job = none) (hj : batch'.job = some job) :
    ∃ request, createdJobs talk = [(request, job)] ∧ request.Tests batch' := by
  cases h with
  | created ht =>
    cases hj
    exact ⟨_, rfl, ht.base, ht.pulls⟩
  | _ => rw [hnone] at hj; cases hj

lemma Retest.reformed {settings : Settings} {pool : Pool} {talk : List Said} {b : Option Batch}
    (h : Retest settings pool talk b) : Reformed settings pool b := by
  cases h with
  | kept => exact .same settings pool
  | formed hb hf ht hc => exact .formed hb hf ht hc.kept.1 hc.kept.2
  | resumed hb _ hc => exact .kept hb hc.kept.1 hc.kept.2
  | polled hb => exact .after hb _

lemma Retest.job {settings : Settings} {pool : Pool} {talk : List Said} {b : Option Batch}
    (h : Retest settings pool talk b) {batch : Batch} {job : JobRef} (hb : b = some batch)
    (hj : batch.job = some job) : (createdJobs talk = [] ∧ pool.batch = some batch) ∨
      ∃ request, createdJobs talk = [(request, job)] ∧ request.Tests batch := by
  cases h with
  | kept => exact .inl ⟨rfl, hb⟩
  | formed _ _ _ hc =>
    cases hb
    exact .inr (hc.job rfl hj)
  | resumed _ hnone hc =>
    cases hb
    exact .inr (hc.job hnone hj)
  | polled hold =>
    obtain rfl := Batch.after_of_job hb hj
    exact .inl ⟨rfl, hold⟩

lemma Retest.carried {settings : Settings} {pool pool' : Pool} {said : List Said}
    (h : Retest settings pool (jobTalk said) pool'.batch) : Carried settings pool said pool' := by
  refine ⟨h.reformed, fun batch job hb hj => ?_⟩
  rw [← createdJobs_jobTalk said]
  exact h.job hb hj

namespace Engine

lemma Merged.carried {queue : Queue} {l : List Said} {pool : Pool}
    (h : Merged setup key queue l pool) (hs : queue.pool.Sound) :
    Carried setup.settings queue.pool l pool :=
  (h.retest hs).carried

lemma Merged.unmerged {queue : Queue} {l : List Said} {pool : Pool}
    (h : Merged setup key queue l pool) (hs : queue.pool.Sound) (hb : pool.batch ≠ none) :
    mergedIds l = [] := by
  obtain ⟨l, out, l', r, hstart, hfin, rfl⟩ := h
  cases hstart with
  | unread => cases hfin; simp [Said.merged?]
  | off => cases hfin; simp [Said.merged?]
  | unconnected _ hc => cases hfin; simp [Said.merged?, mergedIds_connect hc]
  | direct _ hc hnone ho =>
    cases hfin
    cases ho with
    | rejected _ _ _ ha => simp [Said.merged?, mergedIds_connect hc, ha.merged]
    | merged => exact absurd hnone hb
    | batched _ _ _ ha =>
      have hd := (ha.departed (hs.setBatch _)).merged
      simp only [List.map_nil, List.map_eq_nil_iff] at hd
      simp [Said.merged?, mergedIds_connect hc, hd]
    | _ => simp [Said.merged?, mergedIds_connect hc]
  | held _ hc _ ha =>
    cases hfin
    have hd := (ha.departed hs).merged
    simp only [List.map_nil, List.map_eq_nil_iff] at hd
    simp [Said.merged?, mergedIds_connect hc, hd]
  | @tested config merge lc c _ job ls out hm hc hbatch hj hst =>
    have hall : Finished setup key (queue.pool, .paused ⟨c, merge⟩) (ls ++ l') pool r :=
      .paused hst hfin
    exact absurd (hall.spec.2 _ _ _ rfl hs hbatch).1 hb

end Engine

lemma QueueStep.carried {stage : Stage} {q q' : Option Queue} {l : List Said}
    (h : QueueStep setup key stage q l q') (hs : (poolOf q).Sound) :
    Carried setup.settings (poolOf q) l (poolOf q') := by
  cases q' with
  | none => exact .none rfl
  | some queue => exact (h.retest hs (Option.some_ne_none queue)).carried

lemma QueueStep.merged_of_mem {stage : Stage} {q q' : Option Queue} {l : List Said}
    (h : QueueStep setup key stage q l q') (hs : (poolOf q).Sound) {id : UInt64}
    (hid : id ∈ mergedIds l) : ∃ queue pool, stage = .merge ∧ q = some queue ∧
      q' = some { queue with pool } ∧ Merged setup key queue l pool := by
  by_cases hstage : stage = .merge
  · subst hstage
    cases h with
    | passed => cases hid
    | merged hm => exact ⟨_, _, rfl, rfl, rfl, hm⟩
  · rw [mergedIds_unasked (h.synced hs hstage).1] at hid
    cases hid

lemma QueueRun.nonempty {visits : List Visit} {q : Option Queue}
    (h : QueueRun setup key none visits q) :
    ∀ batch, (poolOf q).batch = some batch → batch.pullRequests ≠ [] := by
  induction h with
  | start => rintro _ ⟨⟩
  | next hrun hstep ih => exact (hstep.carried hrun.sound).reformed.nonempty ih

lemma QueueRun.target {visits : List Visit} {q : Option Queue} (run : QueueRun setup key none visits q) :
    ∀ batch, (poolOf q).batch = some batch → ∀ pr ∈ batch.pullRequests, pr.target = batch.branch := by
  induction run with
  | start => rintro _ ⟨⟩
  | next run hstep ih => exact (hstep.carried run.sound).reformed.target ih

lemma QueueRun.commissioned {visits : List Visit} {q : Option Queue}
    (h : QueueRun setup key none visits q) : ∀ batch job, (poolOf q).batch = some batch →
      batch.job = some job → ∃ request,
        (createdJobs (visits.flatMap (·.said))).getLast? = some (request, job) ∧
          request.Tests batch := by
  induction h with
  | start => rintro _ _ ⟨⟩
  | next hrun hstep ih =>
    intro batch job hb hj
    rw [List.flatMap_append, List.flatMap_singleton, createdJobs_append]
    rcases (hstep.carried hrun.sound).job batch job hb hj with ⟨hjobs, hold⟩ | ⟨request, hjobs, ht⟩
    · rw [hjobs, List.append_nil]
      exact ih batch job hold hj
    · rw [hjobs]
      exact ⟨request, List.getLast?_concat, ht⟩

lemma QueueRun.job {visits : List Visit} {q : Option Queue} (h : QueueRun setup key none visits q) :
    ∀ batch job, (poolOf q).batch = some batch → batch.job = some job →
      ∃ request, (createdJobs (visits.flatMap (·.said))).getLast? = some (request, job) ∧
        request.pulls = batch.pullRequests.map (·.toJobPull) := by
  intro batch job hb hj
  obtain ⟨request, hlast, ht⟩ := h.commissioned batch job hb hj
  exact ⟨request, hlast, forall₂_jobPull_iff.mp ht.pulls⟩

end MergeQueue
