import MergeQueue.Proofs.Web.Statuses
import MergeQueue.Proofs.Merge.Freshness
import MergeQueue.Web.Provider

/-! Repeated statuses. A host tells the newest first, and of each context the first is kept. -/

namespace MergeQueue

namespace Statuses

lemma find?_ofReports (reports : List CommitStatus) (context : String) :
    (ofReports reports).find? context = reports.reverse.find? (·.context = context) := by
  rw [ofReports, SortedMap.find?_ofList, ← List.map_reverse, List.find?_map, Option.map_map]
  exact Option.map_id'

lemma find?_ofReports_latest (statuses : List CommitStatus) (context : String) :
    (ofReports (CommitStatus.latest statuses)).find? context =
      statuses.find? (·.context = context) := by
  rw [find?_ofReports, CommitStatus.find?_reverse_of_nodup (CommitStatus.nodup_latest statuses),
    CommitStatus.find?_latest]

end Statuses

namespace Policy

structure MetBy (query : MergeQuery) (own : String) (statuses : List CommitStatus) : Prop where
  named : ∀ context ∈ query.checks, context ≠ own →
    ∃ s : CommitStatus, s.NewestIn statuses ∧ s.context = context ∧ s.state = .success
  reported : query.checks = [] → ∀ s : CommitStatus, s.NewestIn statuses → s.context ≠ own →
    s.context ∉ query.optionalChecks → s.state = .success

lemma succeeds_latest_iff {statuses : List CommitStatus} {context : String} :
    Succeeds (.ofReports (CommitStatus.latest statuses)) context ↔
      ∃ s : CommitStatus, s.NewestIn statuses ∧ s.context = context ∧ s.state = .success := by
  simp only [Succeeds, Statuses.find?_ofReports_latest, CommitStatus.find?_eq_some_iff, and_assoc]

lemma passed_latest_iff {query : MergeQuery} {own : String} {statuses : List CommitStatus} :
    (checkStatuses query (.ofReports (CommitStatus.latest statuses)) own).passed = true ↔
      MetBy query own statuses := by
  by_cases hchecks : query.checks = []
  · rw [passed_iff_of_unnamed hchecks]
    simp only [Statuses.find?_ofReports_latest, CommitStatus.find?_eq_some_iff]
    constructor
    · intro h
      refine ⟨by simp [hchecks], fun _ s hs hown hoptional => ?_⟩
      exact h s.context s ⟨hs, rfl⟩ hown hoptional
    · rintro h context s ⟨hs, rfl⟩ hown hoptional
      exact h.reported hchecks s hs hown hoptional
  · rw [passed_iff_of_named hchecks]
    simp only [succeeds_latest_iff]
    exact ⟨fun h => ⟨h, fun hnone => absurd hnone hchecks⟩, MetBy.named⟩

end Policy

lemma Engine.isFresh_latest_iff {config : RepoConfig} {t : Tracked} {tip : String}
    {statuses : List CommitStatus} (h : t.statuses = .ofReports (CommitStatus.latest statuses)) :
    isFresh config t tip = true ↔
      ∀ job ∈ config.jobs.applicable t.pullRequest.base.reference, ∀ s : CommitStatus,
        s.NewestIn statuses → s.context = job.name → testedBase? s.description = some tip := by
  simp only [isFresh_iff, h, Statuses.find?_ofReports_latest, CommitStatus.find?_eq_some_iff,
    and_imp]

namespace Web.Provider

open Dialogue

def Tells (log : Trace) (statuses : List CommitStatus) : Provider → Prop
  | .github _ => ∃ pages : List GitHub.StatusPage,
      List.Forall₂ (fun s page => Gives s.2 page) log pages ∧
        List.Forall₂ GitHub.Report.Stands (pages.flatMap (·.statuses)) statuses
  | .gitlab _ => ∃ pages : List (List GitLab.PipelineStatus),
      List.Forall₂ (fun s page => Gives s.2 page) log pages ∧
        List.Forall₂ GitLab.PipelineStatus.Stands pages.flatten statuses

def statuses (provider : Provider) (reference : String) : Http (Except Error (List CommitStatus)) :=
  provider.call (.listCommitStatuses reference)

lemma statuses_latest {provider : Provider} {reference : String} {log : Trace}
    {reports : List CommitStatus}
    (h : (provider.statuses reference).Course log (.ok reports)) :
    ∃ statuses, provider.Tells log statuses ∧ reports = CommitStatus.latest statuses := by
  cases provider with
  | github client =>
    have hall := GitHub.listCommitStatuses_allOrNothing client reference
    change (client.listCommitStatuses reference).run.Course log (.ok reports) at h
    generalize client.listCommitStatuses reference = listing at hall h
    obtain ⟨pages, -, hpages, statuses, hstands, hreports⟩ := hall.complete h
    exact ⟨statuses, ⟨pages, hpages, hstands⟩, hreports⟩
  | gitlab client =>
    have hall := GitLab.listCommitStatuses_allOrNothing client reference
    change (client.listCommitStatuses reference).run.Course log (.ok reports) at h
    generalize client.listCommitStatuses reference = listing at hall h
    obtain ⟨pages, -, hpages, statuses, hstands, hreports⟩ := hall.complete h
    exact ⟨statuses, ⟨pages, hpages, hstands⟩, hreports⟩

end Web.Provider

open Engine Dialogue

variable {setup : Setup} {key : String}

lemma mem_evaluationsOf {settings : Settings} {id : UInt64} {said : List Said} {e : Evaluation}
    (h : e ∈ evaluationsOf settings id said) :
    ∃ s ∈ said, ∃ reports, s.reported? = some (e.pullRequest.head.sha, reports) ∧
      e.statuses = .ofReports reports := by
  induction said with
  | nil => cases h
  | cons s rest ih =>
    cases rest with
    | nil => cases h
    | cons next rest =>
      rcases List.mem_append.mp h with h | h
      · simp only [Said.evaluation?, Option.mem_toList, Option.bind_eq_bind,
          Option.bind_eq_some_iff] at h
        obtain ⟨⟨c, k, pr⟩, _, ⟨sha, reports⟩, hreported, merge, _, h⟩ := h
        split at h
        · next hk =>
          cases h
          obtain ⟨_, rfl⟩ := hk
          exact ⟨next, by simp, reports, hreported, rfl⟩
        · cases h
      · obtain ⟨s, hs, hreported⟩ := ih h
        exact ⟨s, List.mem_cons_of_mem _ hs, hreported⟩

lemma Visit.evaluated_of_views {settings : Settings} {id : UInt64} {visit : Visit} {held : Bool}
    {e : Evaluation} (h : visit.views settings id = [.evaluated held e]) :
    e ∈ evaluationsOf settings id visit.said := by
  have hmem : View.evaluated held e ∈ MergeQueue.views settings id [visit] := by
    rw [MergeQueue.views, List.flatMap_singleton, h]
    exact List.mem_singleton_self _
  rcases mem_views hmem with ⟨_, _, hlisted, _⟩ | ⟨visit', hvisit, _, e', he, hevaluated⟩
  · cases hlisted
  · obtain rfl := List.mem_singleton.mp hvisit
    cases hevaluated
    exact he

/-- The statuses with which the pull request was last evaluated, as the host has told them for the
head at the time. After that the pull request was only listed. -/
def LastReported (settings : Settings) (visits : List Visit) (id : UInt64)
    (reports : List CommitStatus) : Prop :=
  ∃ front visit back held e, visits = front ++ visit :: back ∧
    visit.views settings id = [.evaluated held e] ∧ e.statuses = .ofReports reports ∧
    (∃ s ∈ visit.said, s.reported? = some (e.pullRequest.head.sha, reports)) ∧
    ∀ v ∈ views settings id back, ∃ held pr, v = .listed held pr

lemma QueueRun.lastReported {visits : List Visit} {q : Option Queue}
    (run : QueueRun setup key none visits q) {id : UInt64}
    (hb : ((poolOf q).member id).bucket = some .success) :
    ∃ reports, LastReported setup.settings visits id reports ∧
      ((poolOf q).member id).statuses = some (.ofReports reports) := by
  obtain ⟨merge, _, hlast, hstatuses⟩ := run.lastPassed hb
  obtain ⟨front, visit, back, _, held, pr, hvisits, _, _, hviews, _, hback⟩ := hlast
  obtain ⟨s, hs, reports, hreported, hsame⟩ := mem_evaluationsOf (Visit.evaluated_of_views hviews)
  refine ⟨reports, ⟨front, visit, back, held, _, hvisits, hviews, hsame, ⟨s, hs, hreported⟩, hback⟩,
    ?_⟩
  rw [hstatuses, ← hsame]
  rfl

structure CommitStatus.TakenFrom (latest statuses : List CommitStatus) : Prop where
  contexts : latest.map (·.context) = (statuses.map (·.context)).eraseDups
  newest : ∀ s, s ∈ latest ↔ s.NewestIn statuses
  again : CommitStatus.latest latest = latest
  found : ∀ context, (Statuses.ofReports latest).find? context =
    statuses.find? (·.context = context)
  known : ∀ context, context ∈ (Statuses.ofReports latest).keys ↔ context ∈ statuses.map (·.context)

lemma CommitStatus.takenFrom_latest (statuses : List CommitStatus) :
    TakenFrom (latest statuses) statuses where
  contexts := contexts_latest statuses
  newest _ := mem_latest
  again := latest_latest statuses
  found := Statuses.find?_ofReports_latest statuses
  known context := by
    rw [← SortedMap.find?_isSome_iff, Statuses.find?_ofReports_latest, List.find?_isSome,
      List.mem_map]
    simp

structure Evaluation.ByNewest (e : Evaluation) (setup : Setup) (query : MergeQuery)
    (pr : PullRequest) (statuses : List CommitStatus) : Prop where
  found : ∀ context, e.statuses.find? context = statuses.find? (·.context = context)
  passed : e.verdict.passed = true ↔ (Policy.checkSimple query pr).passed = true ∧
    pr.mergeable = true ∧ Policy.MetBy query setup.settings.statusContext statuses

/-- Of the statuses that a host tells, the newest of each context is the one that counts. -/
structure NewestCount (setup : Setup) : Prop where
  latest : ∀ statuses, CommitStatus.TakenFrom (CommitStatus.latest statuses) statuses
  told : ∀ (provider : Web.Provider) (reference : String) (log : Web.Trace)
    (reports : List CommitStatus), (provider.statuses reference).Course log (.ok reports) →
      ∃ statuses, provider.Tells log statuses ∧ reports = CommitStatus.latest statuses
  evaluated : ∀ (c : Connection) (query : MergeQuery) (id : UInt64) (said : List Said)
    (e : Evaluation), (evaluate setup c query id).Course said (.ok e) → ∃ pr reports,
      said = [⟨.host c (.getPullRequest id), .ok pr⟩,
        ⟨.host c (.listCommitStatuses pr.head.sha), .ok reports⟩] ∧
      ∀ statuses, reports = CommitStatus.latest statuses → e.ByNewest setup query pr statuses
  fresh : ∀ (turns : List Turn) (table : Table) (key : String) (queue : Queue) (id : UInt64)
    (t : Tracked), Run setup ∅ turns table → table.find? key = some queue →
      queue.pool.find? id = some t → queue.pool.mergePool.search id = some .success →
      ∃ reports, LastReported setup.settings (turns.map (Turn.visit key)) id reports ∧
        ∀ statuses, reports = CommitStatus.latest statuses → ∀ config tip,
          (isFresh config t tip = true ↔
            ∀ job ∈ config.jobs.applicable t.pullRequest.base.reference, ∀ s : CommitStatus,
              s.NewestIn statuses → s.context = job.name →
                testedBase? s.description = some tip)

theorem newest_statuses_count (setup : Setup) : NewestCount setup where
  latest := CommitStatus.takenFrom_latest
  told _ _ _ _ := Web.Provider.statuses_latest
  evaluated c query id said e h := by
    generalize hr : Except.ok e = result at h
    cases evaluate_course h with
    | unfetched => cases hr
    | unreported => cases hr
    | @reported pr reports =>
      cases hr
      refine ⟨pr, reports, rfl, ?_⟩
      rintro statuses rfl
      refine ⟨Statuses.find?_ofReports_latest statuses, ?_⟩
      rw [← Policy.passed_latest_iff]
      exact Policy.passed_evaluate_iff
  fresh turns table key queue id t run hq ht hb := by
    have hrun := run.queue key
    rw [hq] at hrun
    obtain ⟨reports, hlast, hstatuses⟩ := hrun.lastReported hb
    have hmember : ((poolOf (some queue)).member id).statuses = some t.statuses :=
      congrArg (Option.map Tracked.statuses) ht
    have hreports : t.statuses = .ofReports reports :=
      Option.some.inj (hmember.symm.trans hstatuses)
    refine ⟨reports, hlast, ?_⟩
    rintro statuses rfl config tip
    exact isFresh_latest_iff hreports

def testedAgain : List CommitStatus :=
  [⟨"test", .success, "BaseSHA:abcdef", ""⟩, ⟨"lint", .success, "", ""⟩,
    ⟨"test", .failure, "BaseSHA:00000", ""⟩]

def testedAgainWorld : World := reportingWorld (CommitStatus.latest testedAgain)

theorem newest_statuses_count_demo :
    let log := Web.asked Web.dividedHost (Web.demoGitHub.pageRequest Web.statusesUrl) 2
    let talk := (evaluate demoSetup ⟨demoJobs, "t"⟩ .default 1).record testedAgainWorld.reply
    let table := (play demoSetup (reported (CommitStatus.latest testedAgain))).2
    (∃ statuses, (Web.Provider.github Web.demoGitHub).Tells log statuses ∧
      [⟨"test", .success, "", ""⟩, ⟨"lint", .pending, "", ""⟩] = CommitStatus.latest statuses) ∧
    (∃ e, talk.2 = .ok e ∧
      e.statuses.find? "test" = some ⟨"test", .success, "BaseSHA:abcdef", ""⟩ ∧
      e.ByNewest demoSetup .default (demoPull 1 "aaa" []) testedAgain) ∧
    ∃ queue t reports, table.find? demoJobs.poolKey = some queue ∧ queue.pool.find? 1 = some t ∧
      reports = CommitStatus.latest testedAgain ∧
      (isFresh demoJobs t "abcdef" = true ↔
        ∀ job ∈ demoJobs.jobs.applicable t.pullRequest.base.reference, ∀ s : CommitStatus,
          s.NewestIn testedAgain → s.context = job.name →
            testedBase? s.description = some "abcdef") := by
  intro log talk table
  have hcount := newest_statuses_count demoSetup
  refine ⟨?_, ?_, ?_⟩
  · have hcourse := course_record Web.dividedHost (Web.demoGitHub.listCommitStatuses "aaa").run
    rw [Web.divided_dividedHost.record Web.reaches_dividedHost (by decide)] at hcourse
    exact hcount.told (.github Web.demoGitHub) "aaa" log _ hcourse
  · have hresult : ∃ e, talk.2 = .ok e := ⟨_, rfl⟩
    obtain ⟨e, he⟩ := hresult
    have hcourse : (evaluate demoSetup ⟨demoJobs, "t"⟩ .default 1).Course talk.1 (.ok e) :=
      he ▸ course_record _ _
    obtain ⟨pr, reports, hsaid, hnewest⟩ := hcount.evaluated _ _ _ _ _ hcourse
    have hfetched := answer_of_mem_record (show _ ∈ talk.1 by rw [hsaid]; exact List.mem_cons_self)
    have hlisted := answer_of_mem_record
      (show _ ∈ talk.1 by rw [hsaid]; exact List.mem_cons_of_mem _ List.mem_cons_self)
    cases hfetched
    cases hlisted
    have hby := hnewest testedAgain rfl
    exact ⟨e, he, hby.found "test", hby⟩
  · have hpool : (table.find? demoJobs.poolKey).any (fun queue =>
        (queue.pool.find? 1).isSome && queue.pool.mergePool.search 1 = some .success) = true := by
      decide +kernel
    obtain ⟨queue, hq, hmember⟩ := (Option.any_eq_true _ _).mp hpool
    obtain ⟨htracked, hbucket⟩ := Bool.and_eq_true_iff.mp hmember
    obtain ⟨t, ht⟩ := Option.isSome_iff_exists.mp htracked
    obtain ⟨reports, hlast, hfresh⟩ := hcount.fresh _ table demoJobs.poolKey queue 1 t
      (run_play demoSetup _) hq ht (of_decide_eq_true hbucket)
    have hreports : reports = CommitStatus.latest testedAgain := by
      obtain ⟨front, visit, back, held, e, hvisits, -, -, ⟨s, hs, hreported⟩, -⟩ := hlast
      have htold : ∀ visit ∈ (play demoSetup (reported (CommitStatus.latest testedAgain))).1.map
          (Turn.visit demoJobs.poolKey), ∀ s ∈ visit.said, ∀ report ∈ s.reported?,
            report.2 = CommitStatus.latest testedAgain := by
        decide +kernel
      exact htold visit (by simp [hvisits]) s hs _ hreported
    exact ⟨queue, t, reports, hq, ht, hreports, hfresh testedAgain hreports demoJobs "abcdef"⟩

end MergeQueue
