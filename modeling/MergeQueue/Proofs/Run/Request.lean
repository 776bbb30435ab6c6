import MergeQueue.Proofs.Run.Asked
import MergeQueue.Proofs.Run.Batch
import MergeQueue.Proofs.Run.Failure

namespace MergeQueue

open Engine Dialogue

variable {setup : Setup} {key : String}

def Batch.LedBy (batch : Batch) (pr : PullRequest) : Prop :=
  batch.pullRequests.head? = some pr ∧ pr.target = batch.branch

structure JobRequest.Names (request : JobRequest) (config : RepoConfig) (batch : Batch) : Prop where
  tests : request.Tests batch
  jobs : request.jobs = (config.jobs.applicable batch.branch).map (·.name)

def RepoConfig.RunsFor (config : RepoConfig) (branch : String) : Prop :=
  ∃ job ∈ config.jobs.preSubmit, job.appliesTo branch = true

namespace Engine

lemma jobRequest_names {config : RepoConfig} {settings : Settings} {batch : Batch} {tip : String}
    {request : String → JobRequest}
    (h : config.jobRequest? settings batch.branch tip batch.pullRequests = .ok request)
    (suffix : String) : (request suffix).Names config batch := by
  refine ⟨jobRequest_tests h suffix, ?_⟩
  unfold RepoConfig.jobRequest? at h
  dsimp only at h
  split at h
  · cases h
  · cases h
    rfl

lemma jobRequest_inapplicable {config : RepoConfig} {settings : Settings} {branch tip : String}
    {prs : List PullRequest} {e : Error}
    (h : config.jobRequest? settings branch tip prs = .error e) :
    config.jobs.applicable branch = [] := by
  unfold RepoConfig.jobRequest? at h
  dsimp only at h
  split at h
  · next hnil => exact List.map_eq_nil_iff.mp (List.isEmpty_iff.mp hnil)
  · cases h

lemma batched_head? {settings : Settings} {pool : Pool} {candidates : List UInt64}
    {first : UInt64} {t : Tracked} (hf : candidates.head? = some first)
    (ht : pool.find? first = some t) :
    (batched settings pool candidates t.pullRequest.target).head? = some t.pullRequest := by
  obtain ⟨rest, rfl⟩ := List.head?_eq_some_iff.mp hf
  have hsome : max settings.maxBatchSize.toNat 1 ≠ 0 := by omega
  simp only [batched, List.filterMap_cons, ht, Option.map_some, List.filter_cons, decide_true,
    if_true, List.head?_take, hsome, if_false, List.head?_cons]

/-! The requests. -/

lemma JobAsked.names {config : RepoConfig} {tip : String} {pool pool' : Pool} {l : List Said}
    {r : Except Error Unit} (h : JobAsked setup config tip pool l pool' r) {batch : Batch}
    (hb : pool.batch = some batch) {request : JobRequest} {reply : Except Error JobRef}
    (hs : ⟨.createJob request, reply⟩ ∈ l) : request.Names config batch := by
  cases h with
  | none => cases hs
  | inapplicable => cases hs
  | refused hb' hj =>
    cases hb.symm.trans hb'
    rcases List.mem_cons.mp hs with hs | hs
    · cases hs
    · cases List.mem_singleton.mp hs
      exact jobRequest_names hj _
  | created hb' hj =>
    cases hb.symm.trans hb'
    rcases List.mem_cons.mp hs with hs | hs
    · cases hs
    · cases List.mem_singleton.mp hs
      exact jobRequest_names hj _

lemma Oldest.names {task : MergeTask} {pool pool' : Pool} {l : List Said}
    {r : Except Error Unit} (h : Oldest setup task pool l pool' r) {request : JobRequest}
    {reply : Except Error JobRef} (hs : ⟨.createJob request, reply⟩ ∈ l) :
    ∃ batch pr, batch.LedBy pr ∧ request.Names task.connection.config batch := by
  have hmerge {pr sha l r} (ha : MergeAsked setup task pr sha l r) :
      (⟨.createJob request, reply⟩ : Said) ∉ l := by
    cases ha <;> simp
  cases h with
  | idle => cases hs
  | untracked => cases hs
  | lost => cases List.mem_singleton.mp hs
  | rejected _ _ _ ha =>
    rcases List.mem_cons.mp hs with hs | hs
    · cases hs
    · exact absurd hs (hmerge ha)
  | merged _ _ _ ha =>
    rcases List.mem_cons.mp hs with hs | hs
    · cases hs
    · exact absurd hs (hmerge ha)
  | @batched first t _ _ _ _ hf ht _ ha =>
    rcases List.mem_cons.mp hs with hs | hs
    · cases hs
    · exact ⟨_, t.pullRequest, ⟨batched_head? hf ht, rfl⟩, ha.names rfl hs⟩

lemma Advanced.names {c : Connection} {batch : Batch} {pool pool' : Pool} {l : List Said}
    {r : Except Error Bool} (h : Advanced setup key c batch pool l pool' r)
    (hb : pool.batch = some batch) {request : JobRequest} {reply : Except Error JobRef}
    (hs : ⟨.createJob request, reply⟩ ∈ l) : request.Names c.config batch := by
  cases h with
  | asked _ ha =>
    rcases List.mem_cons.mp hs with hs | hs
    · cases hs
    · exact ha.names hb hs
  | _ => simp at hs

lemma Merged.names {queue : Queue} {l : List Said} {pool : Pool}
    (h : Merged setup key queue l pool)
    (hold : ∀ batch, queue.pool.batch = some batch → ∃ pr, batch.LedBy pr) {request : JobRequest}
    {reply : Except Error JobRef} (hs : ⟨.createJob request, reply⟩ ∈ l) :
    ∃ config batch pr, ⟨.getConfig queue.owner, .ok config⟩ ∈ l ∧ batch.LedBy pr ∧
      request.Names config batch := by
  have hjobs : ⟨.createJob request, reply⟩ ∈ jobTalk l := List.mem_filter.mpr ⟨hs, rfl⟩
  obtain ⟨l, out, l', r, hstart, hfin, rfl⟩ := h
  simp only [jobTalk_append, hfin.jobTalk, jobTalk_noted, List.append_nil] at hjobs
  cases hstart with
  | unread => cases hjobs
  | off => cases hjobs
  | unconnected _ hc => simp [Question.ofJobs, jobTalk_connect hc] at hjobs
  | @direct config merge lc c lo pool r _ hc _ ho =>
    obtain rfl := (connect_course hc).2 c rfl
    simp only [List.cons_append, jobTalk_cons, jobTalk_append, jobTalk_connect hc] at hjobs
    obtain ⟨batch, pr, hled, hnames⟩ := ho.names (List.mem_filter.mp hjobs).1
    exact ⟨c.config, batch, pr, by simp, hled, hnames⟩
  | @held config merge lc c batch la pool r _ hc hb ha _ =>
    obtain rfl := (connect_course hc).2 c rfl
    simp only [List.cons_append, jobTalk_cons, jobTalk_append, jobTalk_connect hc] at hjobs
    obtain ⟨pr, hled⟩ := hold batch hb
    exact ⟨c.config, batch, pr, by simp, hled, ha.names hb (List.mem_filter.mp hjobs).1⟩
  | tested _ hc _ _ hst => simp [Question.ofJobs, jobTalk_connect hc, hst.jobTalk] at hjobs

/-! The batch that is formed. -/

lemma runsFor_of_stale {config : RepoConfig} {t : Tracked} {tip : String}
    (h : isFresh config t tip = false) : config.RunsFor t.pullRequest.target := by
  rw [isFresh, List.all_eq_false] at h
  obtain ⟨job, hjob, _⟩ := h
  obtain ⟨hmem, happlies⟩ := List.mem_filter.mp hjob
  exact ⟨job, hmem, happlies⟩

lemma Oldest.runsFor {task : MergeTask} {pool pool' : Pool} {l : List Said}
    {r : Except Error Unit} (h : Oldest setup task pool l pool' r) (hb : pool.batch = none)
    {batch : Batch} (hb' : pool'.batch = some batch) :
    task.connection.config.RunsFor batch.branch := by
  cases h with
  | batched _ _ hstale ha =>
    obtain ⟨_, hnew, hcom⟩ := ha.commissioned rfl
    cases hb'.symm.trans hnew
    rw [hcom.kept.1]
    exact runsFor_of_stale hstale
  | merged =>
    rw [Pool.batch_dequeue, hb] at hb'
    cases hb'
  | _ => rw [hb] at hb'; cases hb'

lemma Merged.runsFor {queue : Queue} {l : List Said} {pool : Pool}
    (h : Merged setup key queue l pool) (hb : queue.pool.batch = none)
    {batch : Batch} (hb' : pool.batch = some batch) :
    ∃ config : RepoConfig, ⟨.getConfig queue.owner, .ok config⟩ ∈ l ∧
      config.RunsFor batch.branch := by
  obtain ⟨l, out, l', r, hstart, hfin, rfl⟩ := h
  cases hstart with
  | @direct config merge lc c lo pool r _ hc _ ho =>
    obtain rfl := (connect_course hc).2 c rfl
    cases hfin
    exact ⟨c.config, by simp, ho.runsFor hb hb'⟩
  | held _ _ hb₁ => cases hb.symm.trans hb₁
  | tested _ _ hb₁ => cases hb.symm.trans hb₁
  | _ =>
    cases hfin
    cases hb.symm.trans hb'

/-! No applicable job. -/

lemma connect_applicable {config : RepoConfig} {l : List Said} {b : String}
    (h : (connect setup config).Course l (.error (.noApplicableJobs b))) :
    Replied l (.noApplicableJobs b) := by
  rw [connect] at h
  split at h
  · obtain ⟨_, he⟩ := h
    cases he
  · obtain ⟨reply, _, rfl, hr⟩ := h
    cases reply with
    | error e =>
      obtain ⟨rfl, he⟩ := hr
      cases he
      exact ⟨_, List.mem_singleton.mpr rfl, rfl⟩
    | ok _ =>
      obtain ⟨_, he⟩ := hr
      cases he

lemma MergeAsked.applicable {task : MergeTask} {pr : PullRequest} {sha : String} {l : List Said}
    {b : String} (h : MergeAsked setup task pr sha l (.error (.noApplicableJobs b))) :
    Replied l (.noApplicableJobs b) := by
  cases h with
  | replied => exact ⟨_, List.mem_singleton.mpr rfl, rfl⟩

def OutOfJobs (config : RepoConfig) (pool : Pool) (branch : String) : Prop :=
  ∃ batch, pool.batch = some batch ∧ batch.branch = branch ∧ config.jobs.applicable branch = []

lemma JobAsked.outOfJobs {config : RepoConfig} {tip : String} {pool pool' : Pool} {l : List Said}
    {b : String} (h : JobAsked setup config tip pool l pool' (.error (.noApplicableJobs b))) :
    Replied l (.noApplicableJobs b) ∨ OutOfJobs config pool' b := by
  cases h with
  | @inapplicable batch _ hb hj =>
    have hbranch : Error.noApplicableJobs b = .noApplicableJobs batch.branch := jobRequest_error hj
    cases hbranch
    exact .inr ⟨batch, hb, rfl, jobRequest_inapplicable hj⟩
  | refused => exact .inl ⟨_, List.mem_cons_of_mem _ (List.mem_singleton.mpr rfl), rfl⟩

lemma Oldest.outOfJobs {task : MergeTask} {pool pool' : Pool} {l : List Said} {b : String}
    (h : Oldest setup task pool l pool' (.error (.noApplicableJobs b))) :
    Replied l (.noApplicableJobs b) ∨ OutOfJobs task.connection.config pool' b := by
  cases h with
  | lost => exact .inl ⟨_, List.mem_singleton.mpr rfl, rfl⟩
  | rejected _ _ _ ha => exact .inl (ha.applicable.mono (List.subset_cons_self _ _))
  | batched _ _ _ ha =>
    exact ha.outOfJobs.imp_left fun hr => hr.mono (List.subset_cons_self _ _)

lemma Advanced.outOfJobs {c : Connection} {batch : Batch} {pool pool' : Pool} {l : List Said}
    {b : String} (h : Advanced setup key c batch pool l pool' (.error (.noApplicableJobs b))) :
    Replied l (.noApplicableJobs b) ∨ OutOfJobs c.config pool' b := by
  generalize hr : (Except.error (Error.noApplicableJobs b) : Except Error Bool) = r at h
  cases h with
  | lost => cases hr; exact .inl ⟨_, List.mem_singleton.mpr rfl, rfl⟩
  | @asked _ _ _ r _ ha =>
    cases r with
    | error e =>
      cases hr
      exact ha.outOfJobs.imp_left fun hr => hr.mono (List.subset_cons_self _ _)
    | ok _ => cases hr
  | unpolled => cases hr; exact .inl ⟨_, List.mem_singleton.mpr rfl, rfl⟩
  | _ => cases hr

lemma Stepped.applicable {task : MergeTask} {pool : Pool} {l : List Said} {out : Pool × MergeState}
    {b : String} (h : Stepped setup key task pool l out)
    (hr : out.2.result = .error (.noApplicableJobs b)) : Replied l (.noApplicableJobs b) := by
  cases h with
  | empty => cases hr
  | dropped hn =>
    rw [result_goOn task hn] at hr
    cases hr
  | rejected _ _ _ ha =>
    cases hr
    exact ha.applicable.mono (List.subset_append_left _ _)
  | merged hn =>
    rw [result_goOn task (head?_dequeue hn _)] at hr
    cases hr

lemma Finished.applicable {out : Pool × MergeState} {l : List Said} {pool : Pool}
    {r : Except Error Unit} {b : String} (h : Finished setup key out l pool r)
    (hr : r = .error (.noApplicableJobs b)) :
    out.2.result = .error (.noApplicableJobs b) ∨ Replied l (.noApplicableJobs b) := by
  induction h with
  | ended => exact .inl hr
  | paused hst _ ih =>
    rcases ih hr with hout | hreplied
    · exact .inr ((hst.applicable hout).mono (List.subset_append_left _ _))
    · exact .inr (hreplied.mono (List.subset_append_right _ _))

lemma Started.outOfJobs {queue : Queue} {l : List Said} {pool : Pool} {b : String}
    (h : Started setup key queue l (pool, .ended (.error (.noApplicableJobs b)))) :
    Replied l (.noApplicableJobs b) ∨
      ∃ config, ⟨.getConfig queue.owner, .ok config⟩ ∈ l ∧ OutOfJobs config pool b := by
  generalize ho : (pool, MergeState.ended (.error (Error.noApplicableJobs b))) = out at h
  have hbehind {s : Said} {lc lo : List Said} (hr : Replied lo (.noApplicableJobs b)) :
      Replied (s :: lc ++ lo) (.noApplicableJobs b) := hr.mono (List.subset_append_right _ _)
  cases h with
  | unread =>
    cases ho
    exact .inl ⟨_, List.mem_singleton.mpr rfl, rfl⟩
  | off => cases ho
  | unconnected _ hc =>
    cases ho
    exact .inl ((connect_applicable hc).mono (List.subset_cons_self _ _))
  | @direct config merge lc c lo pool r _ hc _ hold =>
    cases ho
    obtain rfl := (connect_course hc).2 c rfl
    exact hold.outOfJobs.imp hbehind fun hout => ⟨c.config, by simp, hout⟩
  | @held config merge lc c batch la pool r _ hc _ ha _ =>
    obtain rfl := (connect_course hc).2 c rfl
    cases r with
    | error e =>
      cases ho
      exact ha.outOfJobs.imp hbehind fun hout => ⟨c.config, by simp, hout⟩
    | ok _ => cases ho
  | tested _ _ _ _ hst =>
    subst ho
    exact .inl (hbehind ((hst.applicable rfl).mono (List.subset_cons_self _ _)))

lemma Merged.outOfJobs {queue : Queue} {l : List Said} {pool : Pool}
    (h : Merged setup key queue l pool) {b : String}
    (hw : ⟨.warn (.mergePass key (.noApplicableJobs b)), ()⟩ ∈ l) :
    Replied l (.noApplicableJobs b) ∨
      ∃ config, ⟨.getConfig queue.owner, .ok config⟩ ∈ l ∧ OutOfJobs config pool b := by
  obtain ⟨l, ⟨pool₁, state⟩, l', r, hstart, hfin, rfl, hresult⟩ := h.result
  rw [List.append_assoc]
  rcases hfin.applicable (hresult _ hw) with hout | hreplied
  · cases state with
    | ended r₁ =>
      cases hout
      cases hfin
      refine hstart.outOfJobs.imp (fun hr => hr.mono (List.subset_append_left _ _)) ?_
      rintro ⟨config, hget, hbatch⟩
      exact ⟨config, List.mem_append_left _ hget, hbatch⟩
    | _ => cases hout
  · have hbehind := hreplied.mono (List.subset_append_left l' (noted (.mergePass key) r))
    exact .inl (hbehind.mono (List.subset_append_right _ _))

end Engine

lemma QueueRun.led {visits : List Visit} {q : Option Queue} (h : QueueRun setup key none visits q) :
    ∀ batch, (poolOf q).batch = some batch → ∃ pr, batch.LedBy pr := by
  intro batch hb
  obtain ⟨pr, hpr⟩ := Option.ne_none_iff_exists'.mp
    (mt List.head?_eq_none_iff.mp (h.nonempty batch hb))
  exact ⟨pr, hpr, h.target batch hb pr (List.mem_of_mem_head? hpr)⟩

end MergeQueue
