import MergeQueue.Proofs.Merge.Once
import MergeQueue.Proofs.Run.Asked
import MergeQueue.Proofs.Run.Failure

/-! A merge pass loses nothing. What leaves the merge pool has been merged, and where the pass fails
the queue is left as it was, but for a batch that waits for its job or is put away. -/

namespace MergeQueue

open Engine Dialogue

variable {setup : Setup} {key : String}

def Said.lookup? : Said → Option (Connection × String × Branch)
  | ⟨.host c (.getBranch name), .ok tip⟩ => some (c, name, tip)
  | _ => none

def lookups (said : List Said) : List (Connection × String × Branch) := said.filterMap Said.lookup?

@[simp] lemma lookups_nil : lookups [] = [] := rfl

@[simp] lemma lookups_append (front back : List Said) :
    lookups (front ++ back) = lookups front ++ lookups back := List.filterMap_append

@[simp] lemma lookups_cons (s : Said) (rest : List Said) :
    lookups (s :: rest) = s.lookup?.toList ++ lookups rest := by
  cases h : s.lookup? <;> simp [lookups, h]

@[simp] lemma lookups_noted {α : Type} (warning : Error → Warning) (r : Except Error α) :
    lookups (noted warning r) = [] := by
  cases r <;> rfl

lemma lookups_connect {config : RepoConfig} {l : List Said} {r : Except Error Connection}
    (h : (connect setup config).Course l r) : lookups l = [] :=
  filterMap_connect h fun _ _ => rfl

lemma Engine.MergeAsked.lookups {task : MergeTask} {pr : PullRequest} {sha : String}
    {l : List Said} {r : Except Error Unit} (h : MergeAsked setup task pr sha l r) :
    lookups l = [] := by
  cases h <;> rfl

lemma Engine.JobAsked.lookups {config : RepoConfig} {tip : String} {pool pool' : Pool}
    {l : List Said} {r : Except Error Unit} (h : JobAsked setup config tip pool l pool' r) :
    lookups l = [] := by
  cases h <;> rfl

structure Stale (pool : Pool) (said : List Said) (c : Connection) (t : Tracked) (tip : Branch) :
    Prop where
  oldest : ∃ first, (pool.mergePool.bucket .success).head? = some first ∧
    pool.find? first = some t
  looked : (c, t.pullRequest.target, tip) ∈ lookups said
  stale : isFresh c.config t tip.commit = false

def Uncommissioned (settings : Settings) (config : RepoConfig) (tip : String) (batch : Batch)
    (said : List Said) (e : Error) : Prop :=
  config.jobRequest? settings batch.branch tip batch.pullRequests = .error e ∨
    ∃ request, ⟨.createJob request, .error e⟩ ∈ said

/-- What a merge pass leaves of a pool when it fails. -/
inductive Failed (setup : Setup) (pool : Pool) (said : List Said) (e : Error) : Pool → Prop
  | unbatched : pool.batch = none → (∀ c t tip, ¬ Stale pool said c t tip) →
      Failed setup pool said e pool
  | uncommissioned {c t tip batch} : pool.batch = none → Stale pool said c t tip →
      batch = ⟨t.pullRequest.target, batched setup.settings pool (pool.mergePool.bucket .success)
        t.pullRequest.target, none⟩ →
      Uncommissioned setup.settings c.config tip.commit batch said e →
      Failed setup pool said e (pool.setBatch batch)
  | held {batch} : pool.batch = some batch → Failed setup pool said e pool
  | rejected {batch job pool'} : pool.batch = some batch → batch.job = some job →
      ⟨.jobState job, .ok .completed⟩ ∈ said → pool'.batch = none → Failed setup pool said e pool'

lemma Failed.of_unlooked {pool : Pool} {said : List Said} {e : Error} (h : lookups said = []) :
    Failed setup pool said e pool := by
  cases hb : pool.batch with
  | none =>
    refine .unbatched hb fun c t tip hstale => ?_
    have hlooked := hstale.looked
    rw [h] at hlooked
    cases hlooked
  | some batch => exact .held hb

namespace Engine

lemma JobAsked.failed {config : RepoConfig} {tip : String} {pool pool' : Pool} {l : List Said}
    {e : Error} (h : JobAsked setup config tip pool l pool' (.error e)) {batch : Batch}
    (hb : pool.batch = some batch) :
    pool' = pool ∧ Uncommissioned setup.settings config tip batch l e := by
  cases h with
  | none hn => cases hb.symm.trans hn
  | inapplicable hb' hj =>
    cases hb.symm.trans hb'
    exact ⟨rfl, .inl hj⟩
  | refused => exact ⟨rfl, .inr ⟨_, List.mem_cons_of_mem _ List.mem_cons_self⟩⟩

lemma Advanced.failed {c : Connection} {batch : Batch} {pool pool' : Pool} {l : List Said}
    {e : Error} (h : Advanced setup key c batch pool l pool' (.error e))
    (hb : pool.batch = some batch) : pool' = pool := by
  generalize hr : (Except.error e : Except Error Bool) = r at h
  cases h with
  | lost => rfl
  | @asked branch l pool' r _ ha =>
    cases r with
    | error e' => exact (ha.failed hb).1
    | ok _ => cases hr
  | unpolled => rfl
  | _ => cases hr

lemma Oldest.failed {task : MergeTask} {pool pool' : Pool} {l : List Said} {e : Error}
    (h : Oldest setup task pool l pool' (.error e)) (hb : pool.batch = none) {said : List Said}
    (hsub : l ⊆ said) (hlookups : lookups said = lookups l) :
    Failed setup pool said e pool' := by
  cases h with
  | @untracked first hf hn =>
    refine .unbatched hb ?_
    rintro c t tip ⟨⟨first', hf', ht⟩, _, _⟩
    cases hf.symm.trans hf'
    cases hn.symm.trans ht
  | lost => exact .of_unlooked (by rw [hlookups]; rfl)
  | @rejected first t l _ tip hf ht hfresh ha =>
    refine .unbatched hb ?_
    rintro c t' tip' ⟨⟨first', hf', ht'⟩, hlooked, hstale⟩
    cases hf.symm.trans hf'
    cases ht.symm.trans ht'
    rw [hlookups, lookups_cons, ha.lookups, List.append_nil] at hlooked
    cases List.mem_singleton.mp hlooked
    cases hfresh.symm.trans hstale
  | @batched first t l _ _ tip hf ht hstale ha =>
    obtain ⟨rfl, hrefused⟩ := ha.failed rfl
    refine .uncommissioned hb ⟨⟨first, hf, ht⟩, ?_, hstale⟩ rfl ?_
    · rw [hlookups, lookups_cons]
      exact List.mem_append_left _ (List.mem_singleton.mpr rfl)
    · refine hrefused.imp_right ?_
      rintro ⟨request, hr⟩
      exact ⟨request, hsub (List.mem_cons_of_mem _ hr)⟩

lemma Merged.failed {queue : Queue} {said : List Said} {pool : Pool}
    (h : Merged setup key queue said pool) (hs : queue.pool.Sound) {e : Error}
    (he : ⟨.warn (.mergePass key e), ()⟩ ∈ said) : Failed setup queue.pool said e pool := by
  obtain ⟨l, out, l', r, hstart, hfin, rfl, hresult⟩ := h.result
  obtain rfl := hresult e he
  cases hstart with
  | unread =>
    cases hfin
    exact .of_unlooked rfl
  | off => cases hfin
  | unconnected _ hc =>
    cases hfin
    exact .of_unlooked (by simp [lookups_connect hc, Said.lookup?])
  | direct _ hc hb ho =>
    cases hfin
    refine ho.failed hb (fun s hs => ?_) (by simp [lookups_connect hc, Said.lookup?])
    simp [hs]
  | @held config merge lc c batch la pool r _ _ hb ha _ =>
    cases r with
    | error e' =>
      cases hfin
      rw [ha.failed hb]
      exact .held hb
    | ok _ => cases hfin
  | @tested config merge lc c batch job ls out _ _ hb hj hst =>
    -- the first merge and those behind the pauses are one sequence, and it ends without the batch
    have hall : Finished setup key (queue.pool, .paused ⟨c, merge⟩) (ls ++ l') pool (.error e) :=
      .paused hst hfin
    exact .rejected hb hj (by simp) (hall.spec.2 _ _ _ rfl hs hb).1

lemma Merged.lossless {queue : Queue} {l : List Said} {pool : Pool}
    (h : Merged setup key queue l pool) (hs : queue.pool.Sound) (hfiled : queue.pool.Filed)
    (hholds : queue.pool.Holds) (id : UInt64) :
    (queue.pool.mergePool.contains id ∧ ¬ pool.mergePool.contains id ↔ id ∈ mergedIds l) ∧
    (id ∉ mergedIds l → pool.mergePool.search id = queue.pool.mergePool.search id) ∧
    pool.find? id = (queue.pool.find? id).map fun t =>
      if id ∈ mergedIds l then { t with bucket := .unknown } else t := by
  obtain ⟨gone, hd, hsub⟩ := h.departed hs
  have hmember := hd.left.member id
  rw [← hd.merged_eq hfiled] at hmember hsub
  by_cases hid : id ∈ mergedIds l
  · rw [if_pos hid] at hmember
    have hleft : pool.mergePool.search id = none := congrArg Member.bucket hmember
    have htracked : (queue.pool.find? id).isSome := by
      have hgone : id ∈ gone := hd.merged_eq hfiled ▸ hid
      have hnumber : queue.pool.number? id ∈ gone.map queue.pool.number? := List.mem_map_of_mem hgone
      rw [← hd.merged] at hnumber
      obtain ⟨n, _, hn⟩ := List.mem_map.mp hnumber
      obtain ⟨t, ht, _⟩ := Option.map_eq_some_iff.mp hn.symm
      exact Option.isSome_of_mem ht
    -- it was in the success bucket, or in the batch, which holds its members there while tracked
    have hwas : queue.pool.mergePool.contains id := by
      rcases Pool.mem_mergeOrder hs (hsub.subset hid) with hb | hin
      · exact Option.isSome_of_mem hb
      · exact hholds id hin htracked
    refine ⟨⟨fun _ => hid, fun _ => ⟨hwas, ?_⟩⟩, fun hnot => absurd hid hnot, ?_⟩
    · simp [MergePool.contains, hleft]
    · simp only [hid, if_true]
      exact congrArg Member.tracked hmember
  · rw [if_neg hid] at hmember
    have hbucket : pool.mergePool.search id = queue.pool.mergePool.search id :=
      congrArg Member.bucket hmember
    have hrecord : pool.find? id = queue.pool.find? id := congrArg Member.tracked hmember
    have hcontains : pool.mergePool.contains id = queue.pool.mergePool.contains id :=
      congrArg Option.isSome hbucket
    refine ⟨⟨fun hgone => ?_, fun h => absurd h hid⟩, fun _ => hbucket, ?_⟩
    · rw [hcontains] at hgone
      exact absurd hgone.1 hgone.2
    · simp [hid, hrecord]

end Engine

/-- A merge pass lets go of what it has merged, and of nothing else; the bucket of a record that was
merged is all that it changes in the records. Where it fails without a batch nothing is changed, or
a batch is left that has no job because none could be created. -/
theorem merge_pass_lossless {turns : List Turn} {table table' : Table} {log : List Exchange}
    (run : Run setup ∅ turns table) (honest : ∀ s ∈ heardIn key turns, s.Honest)
    (h : (Stage.merge.pass setup table).Course log table') {queue : Queue}
    (hq : table.find? key = some queue) :
    ∃ pool, table'.find? key = some { queue with pool } ∧
      (∀ id, queue.pool.mergePool.contains id ∧ ¬ pool.mergePool.contains id ↔
        id ∈ mergedIds (heard key log)) ∧
      (∀ id, id ∉ mergedIds (heard key log) →
        pool.mergePool.search id = queue.pool.mergePool.search id) ∧
      (∀ id, pool.find? id = (queue.pool.find? id).map fun t =>
        if id ∈ mergedIds (heard key log) then { t with bucket := .unknown } else t) ∧
      ∀ e, ⟨.warn (.mergePass key e), ()⟩ ∈ heard key log →
        Failed setup queue.pool (heard key log) e pool := by
  obtain ⟨pauses, hpass⟩ := (course_fst _ _ _).mp h
  obtain ⟨pool, hmerged, hq'⟩ := (mergePass_course hpass key).2 queue hq
  have hrun := run.queue key
  rw [heardIn_eq] at honest
  have hfiled := hrun.filed honest
  have hholds := (hrun.batch honest).2
  have hs := hrun.sound
  rw [hq] at hfiled hholds hs
  have hlossless := hmerged.lossless hs hfiled hholds
  exact ⟨pool, hq', fun id => (hlossless id).1, fun id => (hlossless id).2.1,
    fun id => (hlossless id).2.2, fun e he => hmerged.failed hs he⟩

def Said.failure? : Said → Option (String × Error)
  | ⟨.warn (.mergePass key e), _⟩ => some (key, e)
  | _ => none

lemma Said.eq_of_failure {s : Said} {e : Error} (h : s.failure? = some (key, e)) :
    s = ⟨.warn (.mergePass key e), ()⟩ := by
  unfold failure? at h
  split at h
  · cases h
    rfl
  · cases h

def refusedWorld (e : Error) : (q : Question) → q.Reply
  | .createJob _ => .error e
  | q => (jobsWorld [] [] .pending).reply q

theorem merge_pass_lossless_demo :
    let full := Error.jobStore (.other "full")
    let ready := play pairSetup (twoPulls.take 2)
    let refused := (Stage.merge.pass pairSetup ready.2).record
      fun a : Addressed => refusedWorld full a.question
    let tested := play pairSetup twoPulls
    let merged := Stage.merge.play pairSetup completedWorld tested.2
    (∃ queue pool, ready.2.find? demoJobs.poolKey = some queue ∧
      refused.2.find? demoJobs.poolKey = some { queue with pool } ∧
        Failed pairSetup queue.pool (heard demoJobs.poolKey refused.1) full pool) ∧
    ∃ queue pool, tested.2.find? demoJobs.poolKey = some queue ∧
      merged.2.find? demoJobs.poolKey = some { queue with pool } ∧
        queue.pool.mergePool.contains 7 ∧ ¬ pool.mergePool.contains 7 := by
  intro full ready refused tested merged
  have hready : (ready.2.find? demoJobs.poolKey).isSome = true := by decide +kernel
  have htested : (tested.2.find? demoJobs.poolKey).isSome = true := by decide +kernel
  obtain ⟨queue, hq⟩ := Option.isSome_iff_exists.mp hready
  obtain ⟨queue', hq'⟩ := Option.isSome_iff_exists.mp htested
  have hwarned : ∃ s ∈ heard demoJobs.poolKey refused.1,
      s.failure? = some (demoJobs.poolKey, full) := by
    decide +kernel
  obtain ⟨s, hs, hfailure⟩ := hwarned
  rw [Said.eq_of_failure hfailure] at hs
  have hmerged : 7 ∈ mergedIds (heard demoJobs.poolKey merged.1) := by decide +kernel
  obtain ⟨pool, hpool, _, _, _, hfailed⟩ := merge_pass_lossless (run_play pairSetup _)
    (by decide +kernel) (course_record _ _) hq
  obtain ⟨pool', hpool', hleft, _⟩ := merge_pass_lossless (run_play pairSetup _)
    (by decide +kernel) (play_course pairSetup .merge completedWorld tested.2) hq'
  exact ⟨⟨queue, pool, hq, hpool, hfailed full hs⟩, queue', pool', hq', hpool',
    (hleft 7).mpr hmerged⟩

end MergeQueue
