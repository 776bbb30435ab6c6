import MergeQueue.Proofs.Affix
import MergeQueue.Proofs.Merge.Allowed
import MergeQueue.Proofs.Merge.Freshness
import MergeQueue.Proofs.Run.Request

/-! The jobs consulted before a merge go by the target as the host has it, those that run again by
the branch of the batch, from which the lead is gone already. -/

namespace MergeQueue

open Engine

variable {setup : Setup} {key : String}

def Plain (branch : String) : Prop := ∀ rest, branch ≠ "refs/heads/" ++ rest

lemma applicable_target (jobs : JobsConfig) {pr : PullRequest} (h : Plain pr.target) :
    jobs.applicable pr.target = jobs.applicable pr.base.reference := by
  have hname : branchName pr.target = branchName pr.base.reference := branchName_of_ne h
  rw [JobsConfig.applicable, JobsConfig.applicable, hname]

/-- Both go by these jobs: a pull request is fresh if those of them that have reported ran against
the tip, and it is they who are asked to run again. -/
structure GoBy (settings : Settings) (config : RepoConfig) (t : Tracked) (tip : String)
    (pulls : List PullRequest) (jobs : List JobSpec) : Prop where
  fresh : isFresh config t tip = true ↔ ∀ job ∈ jobs, ∀ status,
    t.statuses.find? job.name = some status → testedBase? status.description = some tip
  none : jobs = [] → config.jobRequest? settings t.pullRequest.target tip pulls =
    .error (.noApplicableJobs t.pullRequest.target)
  some : jobs ≠ [] → ∃ request,
    config.jobRequest? settings t.pullRequest.target tip pulls = .ok request ∧
      ∀ suffix, (request suffix).jobs = jobs.map (·.name)

lemma goBy_applicable (settings : Settings) (config : RepoConfig) (t : Tracked) (tip : String)
    (pulls : List PullRequest) (h : Plain t.pullRequest.target) :
    GoBy settings config t tip pulls (config.jobs.applicable t.pullRequest.base.reference) := by
  have happlicable := applicable_target config.jobs h
  refine ⟨isFresh_iff, fun hnil => ?_, fun hne => ?_⟩
  · rw [RepoConfig.jobRequest?, happlicable, hnil]
    rfl
  · unfold RepoConfig.jobRequest?
    dsimp only
    rw [happlicable, if_neg (by simpa using hne)]
    exact ⟨_, rfl, fun suffix => rfl⟩

lemma QueueRun.runsFor {configs : List RepoConfig} {config : RepoConfig} {visits : List Visit}
    {q : Option Queue} (run : QueueRun setup key none visits q)
    (names : ∀ c ∈ configs, ∀ c' ∈ configs, c.id = c'.id → c = c')
    (fixed : ∀ s ∈ visits.flatMap (·.said), s.fixedBy configs = true)
    (hc : configFor setup configs key = some config) :
    ∀ batch, (poolOf q).batch = some batch → config.RunsFor batch.branch := by
  induction run with
  | start => rintro _ ⟨⟩
  | @next visits q stage said q' run hstep ih =>
    rw [List.flatMap_append, List.flatMap_singleton] at fixed
    have fixed₁ := fun s hs => fixed s (List.mem_append_left _ hs)
    have fixed₂ := fun s hs => fixed s (List.mem_append_right _ hs)
    have hold := ih fixed₁
    intro batch hb
    have hreformed := (hstep.carried run.sound).reformed
    rw [hb] at hreformed
    cases hreformed with
    | kept hb₁ hbranch => rw [hbranch]; exact hold _ hb₁
    | shrunk hb₁ _ hbranch => rw [hbranch]; exact hold _ hb₁
    | formed hnone =>
      by_cases hstage : stage = .merge
      · subst hstage
        cases hstep with
        | passed => cases hb
        | merged hm =>
          obtain ⟨config', hget, hruns⟩ := hm.runsFor hnone hb
          have hc' := consulted_fixed run names fixed₁ fixed₂ (.inr ⟨_, rfl, hget⟩)
          cases hc.symm.trans hc'
          exact hruns
      · have hq : q' ≠ none := by
          rintro rfl
          cases hb
        rw [(hstep.synced run.sound hstage).2 hq, hnone] at hb
        cases hb

lemma fixed_visits {configs : List RepoConfig} {turns : List Turn}
    (fixed : ∀ t ∈ turns, ∀ e ∈ t.log, e.said.fixedBy configs = true) (key : String) :
    ∀ s ∈ (turns.map (Turn.visit key)).flatMap (·.said), s.fixedBy configs = true := by
  intro s hs
  rw [← heardIn_eq] at hs
  obtain ⟨t, ht, hs⟩ := List.mem_flatMap.mp hs
  exact fixed_heard (fixed t ht) key s hs

lemma merged_of_heard {table table' : Table} {log : List Exchange}
    (h : (Stage.merge.pass setup table).Course log table') {s : Said} (hs : s ∈ heard key log) :
    ∃ queue pool, table.find? key = some queue ∧ Merged setup key queue (heard key log) pool ∧
      table'.find? key = some { queue with pool } := by
  obtain ⟨pauses, hpass⟩ := (course_fst _ _ _).mp h
  obtain ⟨hnone, hsome⟩ := mergePass_course hpass key
  cases hq : table.find? key with
  | none =>
    rw [(hnone hq).1] at hs
    cases hs
  | some queue =>
    obtain ⟨pool, hmerged, hq'⟩ := hsome queue hq
    exact ⟨queue, pool, rfl, hmerged, hq'⟩

def JobRequest.Agrees (request : JobRequest) (config : RepoConfig) : Prop :=
  ∃ (pr : PullRequest) (rest : List PullRequest),
    List.Forall₂ JobPull.Of request.pulls (pr :: rest) ∧ request.base.reference = pr.target ∧
    (Plain pr.target → request.jobs = (config.jobs.applicable pr.base.reference).map (·.name))

lemma request_agrees {turns : List Turn} {table table' : Table} {log : List Exchange}
    (run : Run setup ∅ turns table) (h : (Stage.merge.pass setup table).Course log table')
    {request : JobRequest} {reply : Except Error JobRef}
    (hs : ⟨.createJob request, reply⟩ ∈ heard key log) :
    ∃ queue config, table.find? key = some queue ∧
      ⟨.getConfig queue.owner, .ok config⟩ ∈ heard key log ∧ request.Agrees config := by
  obtain ⟨queue, pool, hq, hmerged, _⟩ := merged_of_heard h hs
  have hrun := run.queue key
  rw [hq] at hrun
  obtain ⟨config, batch, pr, hget, ⟨hhead, htarget⟩, htests, hjobs⟩ := hmerged.names hrun.led hs
  obtain ⟨rest, hrest⟩ := List.head?_eq_some_iff.mp hhead
  refine ⟨queue, config, hq, hget, pr, rest, ?_, htests.base.trans htarget.symm, fun hplain => ?_⟩
  · exact hrest ▸ htests.pulls
  · rw [hjobs, ← htarget, applicable_target config.jobs hplain]

lemma not_plain_of_outOfJobs {config : RepoConfig} {pool : Pool} {b : String}
    (h : OutOfJobs config pool b)
    (hruns : ∀ batch, pool.batch = some batch → config.RunsFor batch.branch) :
    ∃ rest, b = "refs/heads/" ++ rest := by
  obtain ⟨batch, hb, rfl, hnil⟩ := h
  obtain ⟨job, hmem, happlies⟩ := hruns batch hb
  by_contra hplain
  rw [JobsConfig.applicable, branchName_of_ne (not_exists.mp hplain)] at hnil
  have hjob : job ∈ config.jobs.preSubmit.filter fun job => job.appliesTo batch.branch :=
    List.mem_filter.mpr ⟨hmem, happlies⟩
  rw [hnil] at hjob
  cases hjob

/-- The jobs by which a pull request is consulted are those that a batch into its branch is tested
by, unless its target has the lead of branches twice. So with fixed configurations a batch is formed
only for a branch to which some job applies, and that none applies comes up for such targets alone. -/
theorem freshness_retest_agree (setup : Setup) :
    (∀ (config : RepoConfig) (t : Tracked) (tip : String) (pulls : List PullRequest),
      Plain t.pullRequest.target → GoBy setup.settings config t tip pulls
        (config.jobs.applicable t.pullRequest.base.reference)) ∧
    ∀ (turns : List Turn) (table table' : Table) (log : List Exchange), Run setup ∅ turns table →
      (Stage.merge.pass setup table).Course log table' →
      (∀ key request reply, ⟨.createJob request, reply⟩ ∈ heard key log →
        ∃ queue config, table.find? key = some queue ∧
          ⟨.getConfig queue.owner, .ok config⟩ ∈ heard key log ∧ request.Agrees config) ∧
      ∀ configs : List RepoConfig, (∀ c ∈ configs, ∀ c' ∈ configs, c.id = c'.id → c = c') →
        (∀ t ∈ turns, ∀ e ∈ t.log, e.said.fixedBy configs = true) →
        (∀ e ∈ log, e.said.fixedBy configs = true) →
        (∀ key queue batch, table'.find? key = some queue → queue.pool.batch = some batch →
          ∃ config, configFor setup configs key = some config ∧ config.RunsFor batch.branch) ∧
        ∀ key b, ⟨.warn (.mergePass key (.noApplicableJobs b)), ()⟩ ∈ heard key log →
          Replied (heard key log) (.noApplicableJobs b) ∨ ∃ rest, b = "refs/heads/" ++ rest := by
  refine ⟨goBy_applicable setup.settings, fun turns table table' log run h =>
    ⟨fun key request reply => request_agrees run h, fun configs names fixed fixed' => ?_⟩⟩
  have hall : ∀ t ∈ turns ++ [⟨table, .merge, log⟩], ∀ e ∈ t.log, e.said.fixedBy configs = true :=
    List.forall_mem_append.mpr ⟨fixed, List.forall_mem_singleton.mpr fixed'⟩
  have hrun' := (run.next h).queue
  have hruns {key : String} {config : RepoConfig} (hc : configFor setup configs key = some config) :=
    (hrun' key).runsFor names (fixed_visits hall key) hc
  constructor
  · intro key queue batch hq hb
    have hqueue := hrun' key
    rw [hq] at hqueue
    obtain ⟨config, hc, _⟩ := hqueue.owner_fixed (fixed_visits hall key)
    refine ⟨config, hc, hruns hc batch ?_⟩
    rw [hq]
    exact hb
  · intro key b hw
    obtain ⟨queue, pool, hq, hmerged, hq'⟩ := merged_of_heard h hw
    refine (hmerged.outOfJobs hw).imp_right ?_
    rintro ⟨config, hget, hout⟩
    have hc := consulted_fixed (run.queue key) names (fixed_visits fixed key)
      (fixed_heard fixed' key) (.inr ⟨queue, hq, hget⟩)
    apply not_plain_of_outOfJobs hout
    intro batch hb
    apply hruns hc batch
    rw [hq']
    exact hb

def patterned (pattern : String) : RepoConfig :=
  { demo with jobs := ⟨[⟨"test", some { JobWhen.default with branch := [pattern] }⟩,
    ⟨"docs", some { JobWhen.default with branch := ["^docs/"] }⟩]⟩ }

def staleWorld (pattern target : String) : World :=
  let pr := { demoPull 1 "aaa" [] with base := ⟨target, ""⟩ }
  ⟨[patterned pattern], [pr], [(1, pr)], [⟨"test", .success, "", ""⟩], "base", .pending⟩

def staleRun (pattern target : String) : List Turn × Table :=
  play demoSetup
    [(.poolSync, staleWorld pattern target), (.statusSync, staleWorld pattern target)]

def stalePass (pattern target : String) : List Exchange × Table :=
  Stage.merge.play demoSetup (staleWorld pattern target) (staleRun pattern target).2

theorem freshness_retest_agree_demo :
    let key := demo.poolKey
    let pass := stalePass "^main$" "refs/heads/main"
    ∃ request job queue config queue' batch,
      ⟨.createJob request, .ok job⟩ ∈ heard key pass.1 ∧ request.jobs = ["test"] ∧
      (staleRun "^main$" "refs/heads/main").2.find? key = some queue ∧
      ⟨.getConfig queue.owner, .ok config⟩ ∈ heard key pass.1 ∧ request.Agrees config ∧
      pass.2.find? key = some queue' ∧ queue'.pool.batch = some batch ∧
      (patterned "^main$").RunsFor batch.branch := by
  intro key pass
  have hpass : (Stage.merge.pass demoSetup (staleRun "^main$" "refs/heads/main").2).Course pass.1
      pass.2 := play_course _ _ _ _
  have hcreated : (createdJobs (heard key pass.1)).map (·.1.jobs) = [["test"]] := by decide +kernel
  have hbatch : ((pass.2.find? key).bind (·.pool.batch)).isSome = true := by decide +kernel
  have hconfig : configFor demoSetup [patterned "^main$"] key = some (patterned "^main$") := by
    decide +kernel
  obtain ⟨⟨request, job⟩, hmem, hjobs⟩ := List.mem_map.mp (hcreated ▸ List.mem_singleton.mpr rfl)
  obtain ⟨s, hs, hsaid⟩ := List.mem_filterMap.mp hmem
  have hs : ⟨.createJob request, .ok job⟩ ∈ heard key pass.1 := by
    unfold Said.created? at hsaid
    split at hsaid <;> cases hsaid
    exact hs
  obtain ⟨batch, hb⟩ := Option.isSome_iff_exists.mp hbatch
  obtain ⟨queue', hq', hb⟩ := Option.bind_eq_some_iff.mp hb
  obtain ⟨_, hruns⟩ := freshness_retest_agree demoSetup
  obtain ⟨hrequests, hfixed⟩ := hruns _ _ _ _ (run_play demoSetup _) hpass
  obtain ⟨queue, config, hq, hget, hagrees⟩ := hrequests key request (.ok job) hs
  obtain ⟨hbatches, _⟩ := hfixed [patterned "^main$"] (by decide +kernel) (by decide +kernel)
    (by decide +kernel)
  obtain ⟨config', hc, happlies⟩ := hbatches key queue' batch hq' hb
  cases hconfig.symm.trans hc
  exact ⟨request, job, queue, config, queue', batch, hs, hjobs, hq, hget, hagrees, hq', hb, happlies⟩

def Said.stuck? : Said → Option (String × String)
  | ⟨.warn (.mergePass key (.noApplicableJobs b)), _⟩ => some (key, b)
  | _ => none

theorem stale_without_jobs :
    (¬ ∀ (config : RepoConfig) (settings : Settings) (t : Tracked) (tip : String)
      (pulls : List PullRequest), GoBy settings config t tip pulls
        (config.jobs.applicable t.pullRequest.base.reference)) ∧
    ¬ ∀ (setup : Setup) (configs : List RepoConfig) (turns : List Turn) (table table' : Table)
      (log : List Exchange), (∀ c ∈ configs, ∀ c' ∈ configs, c.id = c'.id → c = c') →
      Run setup ∅ turns table → (Stage.merge.pass setup table).Course log table' →
      (∀ t ∈ turns, ∀ e ∈ t.log, e.said.fixedBy configs = true) →
      (∀ e ∈ log, e.said.fixedBy configs = true) →
      ∀ key b, ⟨.warn (.mergePass key (.noApplicableJobs b)), ()⟩ ∈ heard key log →
        Replied (heard key log) (.noApplicableJobs b) := by
  constructor
  · intro h
    let t := Tracked.new
      { demoPull 1 "aaa" [] with base := ⟨"refs/heads/refs/heads/main", ""⟩ }
    have hjobs : (patterned "^refs/heads/").jobs.applicable t.pullRequest.base.reference ≠ [] := by
      decide +kernel
    have hnone : (patterned "^refs/heads/").jobs.applicable t.pullRequest.target = [] := by
      decide +kernel
    obtain ⟨request, hrequest, _⟩ :=
      (h (patterned "^refs/heads/") Settings.default t "base" []).some hjobs
    rw [RepoConfig.jobRequest?, hnone] at hrequest
    cases hrequest
  · intro h
    let pass := stalePass "^refs/heads/" "refs/heads/refs/heads/main"
    have hstuck : (heard demo.poolKey pass.1).filterMap Said.stuck? =
        [(demo.poolKey, "refs/heads/main")] := by
      decide +kernel
    have hquiet : (heard demo.poolKey pass.1).all (fun s => s.error?.isNone) = true := by
      decide +kernel
    obtain ⟨s, hs, hsaid⟩ := List.mem_filterMap.mp (hstuck ▸ List.mem_singleton.mpr rfl)
    have hs : ⟨.warn (.mergePass demo.poolKey (.noApplicableJobs "refs/heads/main")), ()⟩ ∈
        heard demo.poolKey pass.1 := by
      unfold Said.stuck? at hsaid
      split at hsaid <;> cases hsaid
      exact hs
    obtain ⟨s', hs', herror⟩ := h demoSetup [patterned "^refs/heads/"] _ _ _ _
      (by decide +kernel) (run_play demoSetup _) (play_course _ _ _ _) (by decide +kernel)
      (by decide +kernel) demo.poolKey "refs/heads/main" hs
    have hnone := List.all_eq_true.mp hquiet s' hs'
    rw [herror] at hnone
    cases hnone

end MergeQueue
