import Mathlib.Data.List.Forall2
import MergeQueue.Proofs.Run.Fate

/-! What a pass asks of the job system, and what it makes of the batch by the answers. -/

namespace MergeQueue

open Engine Dialogue

variable {setup : Setup} {key : String}

def Question.promotes : Question → Bool
  | .host _ (.mergePullRequest _ _ _ _) => true
  | .createJob _ => true
  | .jobState _ => true
  | _ => false

def Question.ofJobs : Question → Bool
  | .createJob _ => true
  | .jobState _ => true
  | _ => false

def jobTalk (said : List Said) : List Said := said.filter fun s => s.1.ofJobs

@[simp] lemma jobTalk_nil : jobTalk [] = [] := rfl

@[simp] lemma jobTalk_append (front back : List Said) :
    jobTalk (front ++ back) = jobTalk front ++ jobTalk back := List.filter_append _ _

@[simp] lemma jobTalk_cons (s : Said) (rest : List Said) :
    jobTalk (s :: rest) = if s.1.ofJobs then s :: jobTalk rest else jobTalk rest :=
  List.filter_cons

@[simp] lemma jobTalk_noted {α : Type} (warning : Error → Warning) (r : Except Error α) :
    jobTalk (noted warning r) = [] := by
  cases r <;> rfl

lemma jobTalk_connect {config : RepoConfig} {l : List Said} {r : Except Error Connection}
    (h : (connect setup config).Course l r) : jobTalk l = [] := by
  apply List.filter_eq_nil_iff.mpr
  intro s hs
  obtain ⟨c, reply, rfl⟩ := (connect_course h).1 s hs
  exact Bool.false_ne_true

@[simp] lemma createdJobs_jobTalk (said : List Said) :
    createdJobs (jobTalk said) = createdJobs said := by
  have hf : (fun s : Said => if s.1.ofJobs then s.created? else none) = Said.created? := by
    funext ⟨q, r⟩
    cases q <;> rfl
  rw [createdJobs, jobTalk, List.filterMap_filter, hf]
  rfl

section Unasked

variable {l : List Said} (h : ∀ s ∈ l, s.1.promotes = false)

include h

lemma filterMap_unasked {β : Type} {f : Said → Option β}
    (hf : ∀ s : Said, s.1.promotes = false → f s = none) : l.filterMap f = [] :=
  List.filterMap_eq_nil_iff.mpr fun s hs => hf s (h s hs)

lemma mergedIds_unasked : mergedIds l = [] := by
  apply filterMap_unasked h
  intro s hs
  unfold Said.merged?
  split
  · cases hs
  · rfl

lemma mergeCalls_unasked : mergeCalls l = [] := by
  apply filterMap_unasked h
  intro s hs
  unfold Said.mergeCall?
  split
  · cases hs
  · rfl

lemma jobTalk_unasked : jobTalk l = [] := by
  apply List.filter_eq_nil_iff.mpr
  rintro ⟨q, r⟩ hs hj
  cases q with
  | createJob => cases h _ hs
  | jobState => cases h _ hs
  | _ => cases hj

end Unasked

structure JobPull.Of (pull : JobPull) (pr : PullRequest) : Prop where
  id : pull.id = pr.id
  reference : pull.reference = pr.head.reference
  sha : pull.sha = pr.head.sha
  link : pull.link = pr.url
  author : pull.author = pr.author.name

lemma jobPull_of_iff {pull : JobPull} {pr : PullRequest} : pull.Of pr ↔ pull = pr.toJobPull := by
  constructor
  · rintro ⟨hid, hreference, hsha, hlink, hauthor⟩
    simp [PullRequest.toJobPull, ← hid, ← hreference, ← hsha, ← hlink, ← hauthor]
  · rintro rfl
    exact ⟨rfl, rfl, rfl, rfl, rfl⟩

lemma forall₂_jobPull_iff {pulls : List JobPull} {prs : List PullRequest} :
    List.Forall₂ JobPull.Of pulls prs ↔ pulls = prs.map (·.toJobPull) := by
  have hof : JobPull.Of = fun pull pr => pull = pr.toJobPull := by
    funext pull pr
    exact propext jobPull_of_iff
  rw [hof, ← List.forall₂_map_right_iff, List.forall₂_eq_eq_eq]

structure JobRequest.Tests (request : JobRequest) (batch : Batch) : Prop where
  base : request.base.reference = batch.branch
  pulls : List.Forall₂ JobPull.Of request.pulls batch.pullRequests

def Batch.shrunk (batch : Batch) : Option Batch :=
  if batch.pullRequests.length > 1 then
    some { batch with pullRequests := batch.pullRequests.dropLast, job := none }
  else none

def Batch.after (batch : Batch) : Except Error JobState → Option Batch
  | .ok .completed => none
  | .ok .failed => batch.shrunk
  | .error (.jobNotFound _) => some { batch with job := none }
  | _ => some batch

inductive Commissioned (batch : Batch) : List Said → Batch → Prop
  | unasked : Commissioned batch [] batch
  | refused {request e} : Commissioned batch [⟨.createJob request, .error e⟩] batch
  | created {request : JobRequest} {job} : request.Tests batch →
      Commissioned batch [⟨.createJob request, .ok job⟩] { batch with job := some job }

inductive Retest (settings : Settings) (pool : Pool) : List Said → Option Batch → Prop
  | kept : Retest settings pool [] pool.batch
  | formed {first t talk batch} : pool.batch = none →
      (pool.mergePool.bucket .success).head? = some first → pool.find? first = some t →
      Commissioned ⟨t.pullRequest.target, batched settings pool (pool.mergePool.bucket .success)
        t.pullRequest.target, none⟩ talk batch → Retest settings pool talk (some batch)
  | resumed {old talk batch} : pool.batch = some old → old.job = none →
      Commissioned old talk batch → Retest settings pool talk (some batch)
  | polled {old job r} : pool.batch = some old → old.job = some job →
      Retest settings pool [⟨.jobState job, r⟩] (old.after r)

namespace Engine

lemma jobRequest_spec {config : RepoConfig} {settings : Settings} {branch tip : String}
    {pulls : List PullRequest} {request : String → JobRequest}
    (h : config.jobRequest? settings branch tip pulls = .ok request) (suffix : String) :
    List.Forall₂ JobPull.Of (request suffix).pulls pulls ∧
      (request suffix).base = ⟨branch, tip⟩ := by
  unfold RepoConfig.jobRequest? at h
  dsimp only at h
  split at h
  · cases h
  · cases h
    exact ⟨forall₂_jobPull_iff.mpr rfl, rfl⟩

lemma jobRequest_tests {config : RepoConfig} {settings : Settings} {batch : Batch} {tip : String}
    {request : String → JobRequest}
    (h : config.jobRequest? settings batch.branch tip batch.pullRequests = .ok request)
    (suffix : String) : (request suffix).Tests batch := by
  obtain ⟨hpulls, hbase⟩ := jobRequest_spec h suffix
  exact ⟨congrArg (·.reference) hbase, hpulls⟩

lemma Pool.batch_shrinkBatch (pool : Pool) (batch : Batch) :
    (Pool.shrinkBatch pool batch).batch = batch.shrunk := by
  rw [Pool.shrinkBatch, Batch.shrunk]
  split <;> rfl

lemma JobAsked.commissioned {config : RepoConfig} {tip : String} {pool pool' : Pool}
    {l : List Said} {r : Except Error Unit} (h : JobAsked setup config tip pool l pool' r)
    {batch : Batch} (hb : pool.batch = some batch) :
    ∃ batch', pool'.batch = some batch' ∧ Commissioned batch (jobTalk l) batch' := by
  cases h with
  | none => exact ⟨batch, hb, .unasked⟩
  | inapplicable => exact ⟨batch, hb, .unasked⟩
  | refused => exact ⟨batch, hb, .refused⟩
  | created hb' hj =>
    cases hb.symm.trans hb'
    exact ⟨_, rfl, .created (jobRequest_tests hj _)⟩

lemma Advanced.retest {settings : Settings} {c : Connection} {batch : Batch} {pool pool' : Pool}
    {l : List Said} {r : Except Error Bool} (h : Advanced setup key c batch pool l pool' r)
    (hb : pool.batch = some batch) (hr : ∀ done, r = .ok done → done = false) :
    Retest settings pool (jobTalk l) pool'.batch := by
  cases h with
  | lost => exact .kept
  | asked hj ha =>
    obtain ⟨batch', hb', hcom⟩ := ha.commissioned hb
    rw [hb']
    exact .resumed hb hj hcom
  | vanished hj => exact .polled hb hj
  | @unpolled job e hj he =>
    have hafter : batch.after (.error e) = some batch := by
      rw [Batch.after]
      · simp
      · simp
      · simpa using he
    rw [hb, ← hafter]
    exact .polled hb hj
  | completed => cases hr true rfl
  | shrunk hj =>
    rw [Pool.batch_shrinkBatch]
    exact .polled hb hj
  | @waiting job state hj hc hf =>
    have hafter : batch.after (.ok state) = some batch := by
      rw [Batch.after]
      · simpa using hc
      · simpa using hf
      · simp
    rw [hb, ← hafter]
    exact .polled hb hj

lemma MergeAsked.jobTalk {task : MergeTask} {pr : PullRequest} {sha : String} {l : List Said}
    {r : Except Error Unit} (h : MergeAsked setup task pr sha l r) : jobTalk l = [] := by
  cases h <;> rfl

lemma Oldest.retest {task : MergeTask} {pool pool' : Pool} {l : List Said}
    {r : Except Error Unit} (h : Oldest setup task pool l pool' r) (hb : pool.batch = none) :
    Retest setup.settings pool (jobTalk l) pool'.batch := by
  cases h with
  | rejected _ _ _ ha =>
    rw [jobTalk_cons, ha.jobTalk]
    exact .kept
  | merged _ _ _ ha =>
    rw [jobTalk_cons, ha.jobTalk]
    exact .kept
  | batched hf ht _ ha =>
    obtain ⟨batch', hb', hcom⟩ := ha.commissioned rfl
    rw [hb']
    exact .formed hb hf ht hcom
  | _ => exact .kept

lemma Stepped.jobTalk {task : MergeTask} {pool : Pool} {l : List Said}
    {out : Pool × MergeState} (h : Stepped setup key task pool l out) : jobTalk l = [] := by
  cases h with
  | empty => rfl
  | dropped => rfl
  | rejected _ _ _ ha => rw [jobTalk_append, ha.jobTalk]; rfl
  | merged _ _ _ ha => exact ha.jobTalk

lemma Finished.jobTalk {out : Pool × MergeState} {l : List Said} {pool : Pool}
    {r : Except Error Unit} (h : Finished setup key out l pool r) : jobTalk l = [] := by
  induction h with
  | ended => rfl
  | paused hst _ ih => rw [jobTalk_append, hst.jobTalk, ih]; rfl

lemma Merged.retest {queue : Queue} {l : List Said} {pool : Pool}
    (h : Merged setup key queue l pool) (hs : queue.pool.Sound) :
    Retest setup.settings queue.pool (jobTalk l) pool.batch := by
  obtain ⟨l, out, l', r, hstart, hfin, rfl⟩ := h
  cases hstart with
  | unread => cases hfin; simpa [Question.ofJobs] using Retest.kept
  | off => cases hfin; simpa [Question.ofJobs] using Retest.kept
  | unconnected _ hc =>
    cases hfin
    simpa [Question.ofJobs, jobTalk_connect hc] using Retest.kept
  | direct _ hc hb ho =>
    cases hfin
    simpa [Question.ofJobs, jobTalk_connect hc] using ho.retest hb
  | held _ hc hb ha hr =>
    cases hfin
    simpa [Question.ofJobs, jobTalk_connect hc] using ha.retest hb hr
  | @tested config merge lc c batch job ls out hm hc hb hj hst =>
    -- the steps before and after the pauses go through the batch as one sequence of steps
    have hall : Finished setup key (queue.pool, .paused ⟨c, merge⟩) (ls ++ l') pool r :=
      .paused hst hfin
    have hnone : pool.batch = none := (hall.spec.2 _ _ _ rfl hs hb).1
    have htalk := hall.jobTalk
    rw [jobTalk_append, List.append_eq_nil_iff] at htalk
    have hpolled : Retest setup.settings queue.pool [⟨.jobState job, .ok .completed⟩] none :=
      .polled hb hj
    rw [hnone]
    simpa [Question.ofJobs, jobTalk_connect hc, htalk] using hpolled

lemma connect_unasked {config : RepoConfig} {l : List Said} {r : Except Error Connection}
    (h : (connect setup config).Course l r) : ∀ s ∈ l, s.1.promotes = false := by
  intro s hs
  obtain ⟨c, reply, rfl⟩ := (connect_course h).1 s hs
  rfl

lemma Refreshed.unasked {config : RepoConfig} {q q' : Option Queue} {l : List Said}
    (h : Refreshed setup key config q l q') : ∀ s ∈ l, s.1.promotes = false := by
  cases h with
  | unconnected hc =>
    exact List.forall_mem_append.mpr ⟨connect_unasked hc, List.forall_mem_singleton.mpr rfl⟩
  | unlisted hc => exact List.forall_mem_append.mpr ⟨connect_unasked hc, by simp [Question.promotes]⟩
  | listed _ hc =>
    exact List.forall_mem_append.mpr ⟨connect_unasked hc, List.forall_mem_singleton.mpr rfl⟩

lemma Reviewed.unasked {queue : Queue} {l : List Said} {pool : Pool}
    (h : Reviewed setup key queue l pool) (hs : queue.pool.Sound) :
    ∀ s ∈ l, s.1.promotes = false := by
  have hwarned {front : List Said} {w : Warning} (hf : ∀ s ∈ front, s.1.promotes = false) :
      ∀ s ∈ front ++ [⟨.warn w, ()⟩], s.1.promotes = false :=
    List.forall_mem_append.mpr ⟨hf, List.forall_mem_singleton.mpr rfl⟩
  cases h with
  | unread => simp [Question.promotes]
  | off => simp [Question.promotes]
  | unconnected _ hc => exact hwarned (List.forall_mem_cons.mpr ⟨rfl, connect_unasked hc⟩)
  | failed _ hc he =>
    have hread := List.forall_mem_append.mpr
      ⟨connect_unasked hc, evaluateAll_forall he (fun _ _ => rfl) fun _ _ => rfl⟩
    exact hwarned (List.forall_mem_cons.mpr ⟨rfl, hread⟩)
  | @published config merge lc c l' es lp pool r _ hc he hp =>
    obtain ⟨shown, left, hpub⟩ := publish_course hp (hs.settleAll es) (SortedMap.keys_nodup _)
    have hread : ∀ s ∈ lc ++ l', s.1.promotes = false := List.forall_mem_append.mpr
      ⟨connect_unasked hc, evaluateAll_forall he (fun _ _ => rfl) fun _ _ => rfl⟩
    have hlp : ∀ s ∈ lp, s.1.promotes = false := by
      intro s hs'
      obtain ⟨sha, status, reply, rfl⟩ := hpub.hosts s hs'
      rfl
    have hall : ∀ s ∈ ⟨.getConfig queue.owner, .ok config⟩ :: lc ++ l' ++ lp,
        s.1.promotes = false :=
      List.forall_mem_append.mpr ⟨List.forall_mem_cons.mpr ⟨rfl, hread⟩, hlp⟩
    cases r with
    | error e => exact hwarned hall
    | ok _ =>
      rw [noted, List.append_nil]
      exact hall

end Engine

lemma QueueStep.synced {stage : Stage} {q q' : Option Queue} {l : List Said}
    (h : QueueStep setup key stage q l q') (hs : (poolOf q).Sound) (hstage : stage ≠ .merge) :
    (∀ s ∈ l, s.1.promotes = false) ∧ (q' ≠ none → (poolOf q').batch = (poolOf q).batch) := by
  cases h with
  | unlisted => exact ⟨List.forall_mem_singleton.mpr rfl, fun _ => rfl⟩
  | dropped => exact ⟨List.forall_mem_singleton.mpr rfl, fun hq => absurd rfl hq⟩
  | refreshed hc hr =>
    exact ⟨List.forall_mem_cons.mpr ⟨rfl, hr.unasked⟩, fun _ => (hr.step hs hc).1⟩
  | passed => exact ⟨by simp, fun _ => rfl⟩
  | reviewed hr => exact ⟨hr.unasked hs, fun _ => (hr.step hs).1⟩
  | merged => exact absurd rfl hstage

lemma QueueStep.retest {stage : Stage} {q q' : Option Queue} {l : List Said}
    (h : QueueStep setup key stage q l q') (hs : (poolOf q).Sound) (hq : q' ≠ none) :
    Retest setup.settings (poolOf q) (jobTalk l) (poolOf q').batch := by
  by_cases hstage : stage = .merge
  · subst hstage
    cases h with
    | passed => exact absurd rfl hq
    | merged hm => exact hm.retest hs
  · obtain ⟨hl, hb⟩ := h.synced hs hstage
    rw [jobTalk_unasked hl, hb hq]
    exact .kept

end MergeQueue
