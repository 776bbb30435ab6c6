import MergeQueue.Proofs.Merge.Batch
import MergeQueue.Proofs.Run.Pause
import MergeQueue.Proofs.Run.Retest

namespace MergeQueue

open Engine Dialogue

variable {setup : Setup} {key : String}

namespace Pool

variable {pool : Pool}

structure First (pool : Pool) (m : UInt64) (t : Tracked) : Prop where
  record : pool.find? m = some t
  success : pool.mergePool.search m = some .success
  least : ∀ id, pool.mergePool.search id = some .success → m ≤ id

def peers (pool : Pool) (branch : String) : List UInt64 :=
  (pool.mergePool.bucket .success).filter fun id =>
    (pool.find? id).any (·.pullRequest.target = branch)

lemma first_of_head? (hs : pool.Sound) {m : UInt64} {t : Tracked}
    (hf : (pool.mergePool.bucket .success).head? = some m) (ht : pool.find? m = some t) :
    pool.First m t := by
  obtain ⟨rest, hlist⟩ := List.head?_eq_some_iff.mp hf
  have hmem (id : UInt64) := MergePool.mem_bucket_iff hs.disjoint id .success
  have hascending := MergePool.bucket_ascending pool.mergePool .success
  refine ⟨ht, (hmem m).mp (List.mem_of_mem_head? hf), fun id hid => ?_⟩
  have hin := (hmem id).mpr hid
  rw [hlist] at hin hascending
  rcases List.mem_cons.mp hin with rfl | hin
  · exact UInt64.le_refl _
  · exact UInt64.le_of_lt ((List.pairwise_cons.mp hascending).1 id hin)

lemma peers_ascending (pool : Pool) (branch : String) : (pool.peers branch).Pairwise (· < ·) :=
  (MergePool.bucket_ascending pool.mergePool .success).filter _

lemma mem_peers_iff (hs : pool.Sound) {branch : String} {id : UInt64} :
    id ∈ pool.peers branch ↔ pool.mergePool.search id = some .success ∧
      ∃ t, pool.find? id = some t ∧ t.pullRequest.target = branch := by
  rw [peers, List.mem_filter, MergePool.mem_bucket_iff hs.disjoint]
  simp [Option.any_eq_true]

lemma head?_peers {m : UInt64} {t : Tracked}
    (hf : (pool.mergePool.bucket .success).head? = some m) (ht : pool.find? m = some t) :
    (pool.peers t.pullRequest.target).head? = some m := by
  obtain ⟨rest, hlist⟩ := List.head?_eq_some_iff.mp hf
  rw [peers, hlist, List.filter_cons, if_pos (by simp [ht])]
  rfl

lemma ids_batched (hfiled : pool.Filed) (settings : Settings) (branch : String) :
    (batched settings pool (pool.mergePool.bucket .success) branch).map (·.id) =
      (pool.peers branch).take (max settings.maxBatchSize.toNat 1) := by
  have hids (candidates : List UInt64) :
      ((candidates.filterMap fun id => (pool.find? id).map (·.pullRequest)).filter
        fun pr => pr.target = branch).map (·.id) =
      candidates.filter fun id => (pool.find? id).any (·.pullRequest.target = branch) := by
    induction candidates with
    | nil => rfl
    | cons id rest ih =>
      rw [List.filterMap_cons, List.filter_cons]
      cases ht : pool.find? id with
      | none => simpa using ih
      | some t =>
        simp only [Option.map_some, List.filter_cons, Option.any_some]
        split
        · rw [List.map_cons, ih, hfiled ht]
        · exact ih
  rw [batched, List.map_take, hids, peers]

lemma tracked_batched (hfiled : pool.Filed) {settings : Settings} {candidates : List UInt64}
    {branch : String} {pr : PullRequest} (h : pr ∈ batched settings pool candidates branch) :
    ∃ t, pool.find? pr.id = some t ∧ t.pullRequest = pr := by
  obtain ⟨id, _, t, ht, rfl⟩ := mem_batched h
  exact ⟨t, (hfiled ht).symm ▸ ht, rfl⟩

end Pool

/-- What a merge pass without a batch does. It does nothing only where it fails, there is nothing to
do, or merging is switched off. -/
inductive Prioritized (setup : Setup) (pool : Pool) (said : List Said) (pool' : Pool)
    (r : Except Error Unit) : Prop
  | idle : mergeCalls said = [] → jobTalk said = [] → pool'.batch = none →
      ((∃ e, r = .error e) ∨ pool.mergePool.bucket .success = [] ∨
        ∃ name config, ⟨.getConfig name, .ok config⟩ ∈ said ∧ config.merge = none) →
      Prioritized setup pool said pool' r
  | merged {m t c} : pool.First m t → mergeCalls said = [⟨c, m, t.pullRequest.head.sha⟩] →
      jobTalk said = [] → pool'.batch = none → Prioritized setup pool said pool' r
  | batched {m t batch c tip} : pool.First m t → mergeCalls said = [] →
      pool'.batch = some batch → batch.branch = t.pullRequest.target →
      batch.ids = (pool.peers batch.branch).take (max setup.settings.maxBatchSize.toNat 1) →
      batch.ids.head? = some m →
      (∀ pr ∈ batch.pullRequests, ∃ t, pool.find? pr.id = some t ∧ t.pullRequest = pr) →
      ⟨.host c (.getBranch batch.branch), .ok tip⟩ ∈ said →
      (jobTalk said = [] ∨ ∃ request reply, jobTalk said = [⟨.createJob request, reply⟩] ∧
        List.Forall₂ JobPull.Of request.pulls batch.pullRequests ∧
        request.base = ⟨batch.branch, tip.commit⟩) →
      Prioritized setup pool said pool' r

lemma Prioritized.mono {pool pool' : Pool} {said said' : List Said} {r : Except Error Unit}
    (h : Prioritized setup pool said pool' r) (hsub : said ⊆ said')
    (hcalls : mergeCalls said' = mergeCalls said) (htalk : jobTalk said' = jobTalk said) :
    Prioritized setup pool said' pool' r := by
  cases h with
  | idle hc ht hb hwhy =>
    refine .idle (hcalls.trans hc) (htalk.trans ht) hb (hwhy.imp_right (Or.imp_right ?_))
    rintro ⟨name, config, hget, hoff⟩
    exact ⟨name, config, hsub hget, hoff⟩
  | merged hf hc ht hb => exact .merged hf (hcalls.trans hc) (htalk.trans ht) hb
  | batched hf hc hb hbranch hids hhead hrecords htip hjob =>
    exact .batched hf (hcalls.trans hc) hb hbranch hids hhead hrecords (hsub htip) (htalk ▸ hjob)

namespace Engine

lemma MergeAsked.prioritized {task : MergeTask} {pool pool' : Pool} {m : UInt64} {t : Tracked}
    {l : List Said} {r : Except Error Unit}
    (h : MergeAsked setup task t.pullRequest t.pullRequest.head.sha l r) (hf : pool.First m t)
    (hfiled : pool.Filed) (hb : pool'.batch = none) : Prioritized setup pool l pool' r := by
  cases h with
  | unrendered => exact .idle rfl rfl hb (.inl ⟨_, rfl⟩)
  | replied =>
    refine .merged (c := task.connection) hf ?_ rfl hb
    rw [← hfiled hf.record]
    rfl

lemma JobAsked.request {config : RepoConfig} {tip : String} {pool pool' : Pool} {l : List Said}
    {r : Except Error Unit} {batch : Batch} (h : JobAsked setup config tip pool l pool' r)
    (hb : pool.batch = some batch) :
    (∃ job, pool'.batch = some { batch with job }) ∧
    (jobTalk l = [] ∨ ∃ request reply, jobTalk l = [⟨.createJob request, reply⟩] ∧
      List.Forall₂ JobPull.Of request.pulls batch.pullRequests ∧
      request.base = ⟨batch.branch, tip⟩) := by
  cases h with
  | none hn => cases hb.symm.trans hn
  | inapplicable => exact ⟨⟨batch.job, hb⟩, .inl rfl⟩
  | refused hb' hj =>
    cases hb.symm.trans hb'
    exact ⟨⟨batch.job, hb⟩, .inr ⟨_, _, rfl, jobRequest_spec hj _⟩⟩
  | created hb' hj =>
    cases hb.symm.trans hb'
    exact ⟨⟨_, rfl⟩, .inr ⟨_, _, rfl, jobRequest_spec hj _⟩⟩

lemma Oldest.prioritized {task : MergeTask} {pool pool' : Pool} {l : List Said}
    {r : Except Error Unit} (h : Oldest setup task pool l pool' r) (hs : pool.Sound)
    (hfiled : pool.Filed) (hb : pool.batch = none) : Prioritized setup pool l pool' r := by
  cases h with
  | idle hf => exact .idle rfl rfl hb (.inr (.inl (List.head?_eq_none_iff.mp hf)))
  | untracked => exact .idle rfl rfl hb (.inl ⟨_, rfl⟩)
  | lost => exact .idle rfl rfl hb (.inl ⟨_, rfl⟩)
  | rejected hf ht _ ha =>
    have hmerged := ha.prioritized (Pool.first_of_head? hs hf ht) hfiled hb
    exact hmerged.mono (List.subset_cons_self _ _) rfl rfl
  | @merged m t l tip hf ht _ ha =>
    have hb' : (pool.dequeue m).batch = none := hb
    have hmerged := ha.prioritized (Pool.first_of_head? hs hf ht) hfiled hb'
    exact hmerged.mono (List.subset_cons_self _ _) rfl rfl
  | @batched m t l pool' r tip hf ht _ ha =>
    obtain ⟨⟨job, hbatch⟩, htalk⟩ := ha.request rfl
    have hids := Pool.ids_batched hfiled setup.settings t.pullRequest.target
    refine .batched (Pool.first_of_head? hs hf ht) ?_ hbatch rfl hids ?_ ?_ List.mem_cons_self htalk
    · exact ha.calls
    · rw [Batch.ids, hids, List.head?_take, if_neg (by omega), Pool.head?_peers hf ht]
    · exact fun pr hpr => Pool.tracked_batched hfiled hpr

lemma Merged.prioritized {queue : Queue} {l : List Said} {pool : Pool}
    (h : Merged setup key queue l pool) (hs : queue.pool.Sound) (hfiled : queue.pool.Filed)
    (hb : queue.pool.batch = none) : ∃ said r, l = said ++ noted (.mergePass key) r ∧
      Prioritized setup queue.pool said pool r := by
  obtain ⟨l, out, l', r, hstart, hfin, rfl⟩ := h
  refine ⟨l ++ l', r, rfl, ?_⟩
  cases hstart with
  | unread =>
    cases hfin
    exact .idle rfl rfl hb (.inl ⟨_, rfl⟩)
  | off hm =>
    cases hfin
    exact .idle rfl rfl hb (.inr (.inr ⟨_, _, List.mem_singleton.mpr rfl, hm⟩))
  | unconnected _ hc =>
    cases hfin
    refine .idle ?_ ?_ hb (.inl ⟨_, rfl⟩)
    · simp [Said.mergeCall?, mergeCalls_connect hc]
    · simp [Question.ofJobs, jobTalk_connect hc]
  | direct _ hc _ ho =>
    cases hfin
    refine (ho.prioritized hs hfiled hb).mono (fun s hs => ?_) ?_ ?_
    · simp [hs]
    · simp [Said.mergeCall?, mergeCalls_connect hc]
    · simp [Question.ofJobs, jobTalk_connect hc]
  | held _ _ hb' => cases hb.symm.trans hb'
  | tested _ _ hb' => cases hb.symm.trans hb'

end Engine

/-- Without a batch, a merge pass merges the oldest pull request of the success bucket, or starts a
batch with it and the next ones that go into its branch; or it does neither. -/
theorem oldest_first {turns : List Turn} {table table' : Table} {log : List Exchange}
    {pauses : Nat} {queue : Queue} (moment : Moment setup turns table)
    (honest : ∀ s ∈ heardIn key turns, s.Honest)
    (h : (mergePass setup table).Course log (table', pauses)) (hq : table.find? key = some queue)
    (hb : queue.pool.batch = none) :
    (∀ branch, (queue.pool.peers branch).Pairwise (· < ·) ∧
      ∀ id, id ∈ queue.pool.peers branch ↔ queue.pool.mergePool.search id = some .success ∧
        ∃ t, queue.pool.find? id = some t ∧ t.pullRequest.target = branch) ∧
    ∃ said pool r, heard key log = said ++ noted (.mergePass key) r ∧
      table'.find? key = some { queue with pool } ∧
      Prioritized setup queue.pool said pool r := by
  obtain ⟨before, gone, hrun, hleft⟩ := moment.queue hq
  rw [heardIn_eq] at honest
  have hfiled : queue.pool.Filed := by
    intro id t ht
    obtain ⟨_, t₀, hrun₀, ht₀, hpr⟩ := moment.recorded hq ht
    rw [← hpr]
    exact hrun₀.filed honest ht₀
  obtain ⟨pool, hmerged, hq'⟩ := (mergePass_course h key).2 queue hq
  obtain ⟨said, r, hl, hprioritized⟩ := hmerged.prioritized hleft.sound hfiled hb
  refine ⟨fun branch => ⟨Pool.peers_ascending _ _, fun id => ?_⟩, said, pool, r, hl, hq', ?_⟩
  · exact Pool.mem_peers_iff hleft.sound
  · exact hprioritized

def threePulls : World :=
  let release := { demoPull 5 "bbb" [] with base := ⟨"refs/heads/release", ""⟩ }
  jobsWorld [demoPull 7 "ccc" [], release, demoPull 3 "aaa" []]
    [(3, demoPull 3 "aaa" []), (5, release), (7, demoPull 7 "ccc" [])] .pending

theorem oldest_first_demo :
    let run := play pairSetup [(.poolSync, threePulls), (.statusSync, threePulls)]
    let out := (mergePass pairSetup run.2).record fun a : Addressed => threePulls.reply a.question
    ∃ queue said pool r, run.2.find? demoJobs.poolKey = some queue ∧
      out.2.1.find? demoJobs.poolKey = some { queue with pool } ∧
      queue.pool.peers "main" = [3, 7] ∧ pool.batch.map Batch.ids = some [3, 7] ∧
      Prioritized pairSetup queue.pool said pool r := by
  intro run out
  have hbefore : (run.2.find? demoJobs.poolKey).any (fun queue =>
      queue.pool.batch.isNone && queue.pool.peers "main" = [3, 7]) = true := by
    decide +kernel
  have hafter : (out.2.1.find? demoJobs.poolKey).any (fun queue =>
      queue.pool.batch.map Batch.ids = some [3, 7]) = true := by
    decide +kernel
  have honest : ∀ s ∈ heardIn demoJobs.poolKey run.1, s.Honest := by decide +kernel
  have moment : Moment pairSetup run.1 run.2 := .between (run_play pairSetup _)
  have hmerge : (mergePass pairSetup run.2).Course out.1 (out.2.1, out.2.2) := course_record _ _
  obtain ⟨queue, hq, hqueue⟩ := (Option.any_eq_true _ _).mp hbefore
  obtain ⟨hb, hpeers⟩ := Bool.and_eq_true_iff.mp hqueue
  obtain ⟨_, said, pool, r, _, hq', hprioritized⟩ :=
    oldest_first moment honest hmerge hq (Option.isNone_iff_eq_none.mp hb)
  rw [hq'] at hafter
  exact ⟨queue, said, pool, r, hq, hq', of_decide_eq_true hpeers, of_decide_eq_true hafter,
    hprioritized⟩

end MergeQueue
