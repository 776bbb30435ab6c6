import MergeQueue.Proofs.Policy.Verdict
import MergeQueue.Proofs.Run.Account
import MergeQueue.Proofs.Run.World

/-! A job that is not among the statuses of the last evaluation is passed over, unless the query of
that evaluation names it. -/

namespace MergeQueue

open Engine

variable {setup : Setup} {key : String}

lemma Engine.isFresh_iff {config : RepoConfig} {t : Tracked} {tip : String} :
    isFresh config t tip = true ↔
      ∀ job ∈ config.jobs.applicable t.pullRequest.base.reference, ∀ status,
        t.statuses.find? job.name = some status → testedBase? status.description = some tip := by
  simp only [isFresh, List.all_eq_true, Option.all_eq_true, decide_eq_true_eq]

lemma Statuses.find?_ofReports_eq_none_iff {reports : List CommitStatus} {context : String} :
    (Statuses.ofReports reports).find? context = none ↔
      ∀ status ∈ reports, status.context ≠ context := by
  rw [Statuses.ofReports, SortedMap.find?_ofList_eq_none_iff]
  simp

namespace Policy

lemma named_of_passed {query : MergeQuery} {pr : PullRequest} {statuses : Statuses}
    {own context : String} (h : (evaluate query pr statuses own).passed = true)
    (hnamed : context ∈ query.checks) (hown : context ≠ own) :
    ∃ status, statuses.find? context = some status ∧ status.state = .success := by
  obtain ⟨_, _, hchecks⟩ := passed_evaluate_iff.mp h
  have hsome : query.checks ≠ [] := List.ne_nil_of_mem hnamed
  exact (passed_iff_of_named hsome).mp hchecks context hnamed hown

end Policy

@[simp] lemma Tracked.statuses_setBlocker (t : Tracked) (status : CommitState)
    (description : String) : (t.setBlocker status description).statuses = t.statuses := by
  rw [setBlocker]
  split <;> rfl

namespace Member

def statuses (m : Member) : Option Statuses := m.tracked.map (·.statuses)

lemma statuses_absorb (query : MergeQuery) (batched : Bool) {m : Member} (pr : PullRequest)
    (ht : m.tracked.isSome) : (m.absorb query batched pr).statuses = m.statuses := by
  obtain ⟨t, ht⟩ := Option.isSome_iff_exists.mp ht
  unfold absorb
  dsimp only
  split
  · split
    · simp [statuses, track, ht]
    · simp [statuses, track, enqueue, ht]
  · simp [statuses, track, dequeue, change, ht]

lemma statuses_foldl_absorb (query : MergeQuery) (batched : Bool) (entries : List PullRequest)
    {m : Member} (ht : m.tracked.isSome) :
    (entries.foldl (absorb query batched) m).statuses = m.statuses := by
  induction entries generalizing m with
  | nil => rfl
  | cons pr rest ih =>
    obtain ⟨t, ht', _⟩ := tracked_absorb query batched m pr
    rw [List.foldl_cons, ih (Option.isSome_iff_exists.mpr ⟨t, ht'⟩), statuses_absorb _ _ _ ht]

lemma statuses_settle {batched : Bool} {e : Evaluation} {m : Member} (hb : m.bucket.isSome)
    (ht : m.tracked.isSome) : (m.settle batched e).statuses = some e.statuses := by
  obtain ⟨t, ht⟩ := Option.isSome_iff_exists.mp ht
  rw [settle, if_pos hb]
  split
  · simp [statuses, tracked_record, dequeue, ht]
  · split <;> simp [statuses, tracked_record, enqueue, ht]

end Member

lemma Told.statuses {settings : Settings} {m m' : Member} {acks : List CommitStatus}
    (h : Told settings m acks m') : m'.statuses = m.statuses := by
  cases h with
  | quiet => rfl
  | shown ht => simp [Member.statuses, Member.change, ht, Tracked.published]

lemma Fate.success {consulted : RepoConfig → Prop} {held : Bool} {merged : Prop} {m m' : Member}
    {views : List View} {acks : List CommitStatus}
    (h : Fate setup consulted held merged m views acks m')
    (hs : m.bucket.isSome → m.tracked.isSome) (hb : m'.bucket = some .success) :
    (m.bucket = some .success ∧ m'.statuses = m.statuses ∧
      ∀ v ∈ views, ∃ held pr, v = .listed held pr) ∨
    ∃ config merge pr reports, consulted config ∧ config.merge = some merge ∧
      views = [.evaluated held (.of (setup.settings.effectiveQuery merge)
        setup.settings.statusContext pr reports)] ∧
      (Policy.evaluate (setup.settings.effectiveQuery merge) pr (.ofReports reports)
        setup.settings.statusContext).passed = true ∧
      m'.statuses = some (.ofReports reports) := by
  cases h with
  | gone => cases hb
  | left => cases hb
  | @listed config merge m entries =>
    have hm := (Member.bucket_foldl_absorb hb).1
    have ht : m.tracked.isSome := hs (by simp [hm])
    refine .inl ⟨hm, Member.statuses_foldl_absorb _ _ _ ht, fun v hv => ?_⟩
    obtain ⟨pr, _, rfl⟩ := List.mem_map.mp hv
    exact ⟨held, pr, rfl⟩
  | reviewed hlook htold =>
    rw [htold.bucket] at hb
    rw [htold.statuses]
    cases hlook with
    | past => exact .inl ⟨hb, rfl, by simp⟩
    | @evaluated config merge m pr reports hc hm hbucket ht =>
      have hpassed := Member.bucket_settle hbucket ht hb
      exact .inr ⟨config, merge, pr, reports, hc, hm, rfl, hpassed,
        Member.statuses_settle hbucket ht⟩

def LastPassed (setup : Setup) (key : String) (visits : List Visit) (id : UInt64)
    (merge : MergeConfig) (reports : List CommitStatus) : Prop :=
  ∃ front visit back config held pr, visits = front ++ visit :: back ∧
    Consulted setup key visit.before visit.said config ∧ config.merge = some merge ∧
    visit.views setup.settings id = [.evaluated held (.of (setup.settings.effectiveQuery merge)
      setup.settings.statusContext pr reports)] ∧
    (Policy.evaluate (setup.settings.effectiveQuery merge) pr (.ofReports reports)
      setup.settings.statusContext).passed = true ∧
    ∀ v ∈ views setup.settings id back, ∃ held pr, v = .listed held pr

lemma LastPassed.concat {visits : List Visit} {id : UInt64} {merge : MergeConfig}
    {reports : List CommitStatus} (h : LastPassed setup key visits id merge reports) {v : Visit}
    (hv : ∀ view ∈ v.views setup.settings id, ∃ held pr, view = .listed held pr) :
    LastPassed setup key (visits ++ [v]) id merge reports := by
  obtain ⟨front, visit, back, config, held, pr, rfl, hc, hm, hviews, hp, hback⟩ := h
  refine ⟨front, visit, back ++ [v], config, held, pr, by simp, hc, hm, hviews, hp, ?_⟩
  rw [views_concat]
  exact List.forall_mem_append.mpr ⟨hback, hv⟩

lemma QueueRun.lastPassed {visits : List Visit} {q : Option Queue}
    (run : QueueRun setup key none visits q) {id : UInt64}
    (hb : ((poolOf q).member id).bucket = some .success) :
    ∃ merge reports, LastPassed setup key visits id merge reports ∧
      ((poolOf q).member id).statuses = some (.ofReports reports) := by
  induction run with
  | start =>
    have hm : (poolOf none).member id = .absent := Pool.member_empty id
    rw [hm] at hb
    cases hb
  | @next visits q stage said q' run hstep ih =>
    rcases (hstep.fate run.sound id).success (run.sound.tracked id) hb with
      ⟨hbefore, hstatuses, hviews⟩ | ⟨config, merge, pr, reports, hc, hm, hviews, hp, hstatuses⟩
    · obtain ⟨merge, reports, hlast, hold⟩ := ih hbefore
      exact ⟨merge, reports, hlast.concat hviews, hstatuses.trans hold⟩
    · refine ⟨merge, reports, ?_, hstatuses⟩
      exact ⟨visits, _, [], config, _, pr, rfl, hc, hm, hviews, hp, by simp [views]⟩

lemma LastPassed.named {visits : List Visit} {id : UInt64} {merge : MergeConfig}
    {reports : List CommitStatus} (h : LastPassed setup key visits id merge reports)
    {context : String} (hnamed : context ∈ (setup.settings.effectiveQuery merge).checks)
    (hown : context ≠ setup.settings.statusContext) :
    ∃ status, (Statuses.ofReports reports).find? context = some status ∧
      status.state = .success := by
  obtain ⟨_, _, _, _, _, _, _, _, _, _, hp, _⟩ := h
  exact Policy.named_of_passed hp hnamed hown

/-- How a merge call rests on the jobs that apply to the branch of the pull request. A job that was
reported at the last evaluation ran against the tip of the branch, which is looked up in the same
pass. A job that was not reported is passed over; the query of that evaluation does not name it, other
than as the status of the queue itself. -/
def RestsOnTip (setup : Setup) (key : String) (visits : List Visit) (said : List Said)
    (queue : Queue) (call : MergeCall) : Prop :=
  ∃ id t tip merge reports, queue.pool.find? id = some t ∧ call.id = t.pullRequest.id ∧
    call.sha = t.pullRequest.head.sha ∧
    ⟨.getConfig queue.owner, .ok call.connection.config⟩ ∈ said ∧
    ⟨.host call.connection (.getBranch t.pullRequest.target), .ok tip⟩ ∈ said ∧
    LastPassed setup key visits id merge reports ∧ t.statuses = .ofReports reports ∧
    ∀ job ∈ call.connection.config.jobs.applicable t.pullRequest.base.reference,
      (∃ status, t.statuses.find? job.name = some status ∧
        testedBase? status.description = some tip.commit) ∨
      ((∀ status ∈ reports, status.context ≠ job.name) ∧
        (job.name ∈ (setup.settings.effectiveQuery merge).checks →
          job.name = setup.settings.statusContext))

theorem direct_merge_restsOnTip {turns : List Turn} {table table' : Table} {log : List Exchange}
    (run : Run setup ∅ turns table) (h : (Stage.merge.pass setup table).Course log table')
    {k : Option String} {call : MergeCall} (hcall : (k, call) ∈ mergesAsked log) :
    ∃ key queue, k = some key ∧ table.find? key = some queue ∧ (queue.pool.batch = none →
      RestsOnTip setup key (turns.map (Turn.visit key)) (heard key log) queue call) := by
  obtain ⟨pauses, hpass⟩ := (course_fst _ _ _).mp h
  obtain ⟨key, queue, pool, hk, hq, _, hmerged, hcalls⟩ := mergePass_asked hpass hcall
  refine ⟨key, queue, hk, hq, fun hb => ?_⟩
  have hrun := run.queue key
  rw [hq] at hrun
  obtain ⟨hget, id, t, tip, ht, hbucket, hid, hsha, htip, hfresh⟩ :=
    hmerged.fresh hrun.sound hb hcalls
  obtain ⟨merge, reports, hlast, hstatuses⟩ := hrun.lastPassed hbucket
  have hmember : ((poolOf (some queue)).member id).statuses = some t.statuses :=
    congrArg (Option.map Tracked.statuses) ht
  have hreports : t.statuses = .ofReports reports := Option.some.inj (hmember.symm.trans hstatuses)
  refine ⟨id, t, tip, merge, reports, ht, hid, hsha, hget, htip, hlast, hreports, fun job hjob => ?_⟩
  cases hfind : t.statuses.find? job.name with
  | some status => exact .inl ⟨status, rfl, isFresh_iff.mp hfresh job hjob status hfind⟩
  | none =>
    rw [hreports] at hfind
    refine .inr ⟨Statuses.find?_ofReports_eq_none_iff.mp hfind, fun hnamed => ?_⟩
    apply Decidable.byContradiction
    intro hown
    obtain ⟨status, hsome, _⟩ := hlast.named hnamed hown
    rw [hfind] at hsome
    cases hsome

def reportingWorld (reports : List CommitStatus) : World :=
  { jobsWorld [demoPull 1 "aaa" []] [(1, demoPull 1 "aaa" [])] .pending with
    reports, tip := "abcdef" }

def reported (reports : List CommitStatus) : List (Stage × World) :=
  [(.poolSync, reportingWorld reports), (.statusSync, reportingWorld reports)]

theorem direct_merge_restsOnTip_demo :
    let script := reported [⟨"test", .success, "ok BaseSHA:abcdef", ""⟩]
    let turns := play demoSetup script
    let pass := Stage.merge.play demoSetup
      (reportingWorld [⟨"test", .success, "ok BaseSHA:abcdef", ""⟩]) turns.2
    ∃ key queue, some demoJobs.poolKey = some key ∧ turns.2.find? key = some queue ∧
      queue.pool.batch = none ∧ RestsOnTip demoSetup key (turns.1.map (Turn.visit key))
        (heard key pass.1) queue ⟨⟨demoJobs, "t"⟩, 1, "aaa"⟩ := by
  intro script turns pass
  have hcall : (some demoJobs.poolKey, ⟨⟨demoJobs, "t"⟩, 1, "aaa"⟩) ∈ mergesAsked pass.1 := by
    decide +kernel
  obtain ⟨key, queue, hkey, hq, hrests⟩ := direct_merge_restsOnTip (run_play demoSetup script)
    (play_course demoSetup .merge (reportingWorld _) turns.2) hcall
  obtain rfl := Option.some.inj hkey
  have hfree : (turns.2.find? demoJobs.poolKey).all (·.pool.batch.isNone) = true := by
    decide +kernel
  rw [hq, Option.all_some, Option.isNone_iff_eq_none] at hfree
  exact ⟨_, queue, rfl, hq, hfree, hrests hfree⟩

theorem unreported_job_skipped :
    ¬ ∀ (setup : Setup) (turns : List Turn) (table table' : Table) (log : List Exchange),
      Run setup ∅ turns table → (Stage.merge.pass setup table).Course log table' →
      ∀ key queue call, (some key, call) ∈ mergesAsked log → table.find? key = some queue →
        queue.pool.batch = none → ∃ id t tip, queue.pool.find? id = some t ∧
          call.id = t.pullRequest.id ∧
          ⟨.host call.connection (.getBranch t.pullRequest.target), .ok tip⟩ ∈ heard key log ∧
          ∀ job ∈ call.connection.config.jobs.applicable t.pullRequest.base.reference,
            ∃ status, t.statuses.find? job.name = some status ∧
              testedBase? status.description = some tip.commit := by
  intro h
  have hqueue : ((play demoSetup (reported [])).2.find? demoJobs.poolKey).any (fun queue =>
      queue.pool.batch.isNone && queue.pool.tracked.entries.all
        fun entry => (entry.2.statuses.find? "test").isNone) = true := by
    decide +kernel
  obtain ⟨queue, hq, hpool⟩ := (Option.any_eq_true _ _).mp hqueue
  obtain ⟨hb, hnone⟩ := Bool.and_eq_true_iff.mp hpool
  obtain ⟨id, t, tip, ht, _, _, hjobs⟩ := h demoSetup _ _ _ _ (run_play demoSetup (reported []))
    (play_course demoSetup .merge (reportingWorld []) _) demoJobs.poolKey queue
    ⟨⟨demoJobs, "t"⟩, 1, "aaa"⟩ (by decide +kernel) hq (Option.isNone_iff_eq_none.mp hb)
  have happlies : ⟨"test", none⟩ ∈ demoJobs.jobs.applicable t.pullRequest.base.reference :=
    List.mem_filter.mpr ⟨List.mem_cons_self, rfl⟩
  obtain ⟨status, hsome, _⟩ := hjobs _ happlies
  have hmem := (SortedMap.find?_eq_some_iff _ _ _).mp ht
  have hunreported := List.all_eq_true.mp hnone _ hmem
  rw [hsome] at hunreported
  cases hunreported

end MergeQueue
