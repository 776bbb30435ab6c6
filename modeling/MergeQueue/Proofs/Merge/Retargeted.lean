import MergeQueue.Proofs.Run.Batch
import MergeQueue.Proofs.Run.World

/-! The branch that a tested batch is merged into. The job has tested the batch on its branch, but
the pull requests are merged by their records, and these may go into another branch by then. -/

namespace MergeQueue

open Engine

variable {setup : Setup} {key : String}

structure FormedAt (forming : Visit) (since : List Visit) (batch : Batch) : Prop where
  stage : forming.stage = .merge
  before : (poolOf forming.before).batch = none
  since : ∀ v ∈ since, (poolOf v.before).batch ≠ none
  taken : ∀ pr ∈ batch.pullRequests, ∃ id t, (poolOf forming.before).find? id = some t ∧
    t.pullRequest = pr

lemma FormedAt.concat {forming v : Visit} {since : List Visit} {old batch : Batch}
    (h : FormedAt forming since old) (hv : (poolOf v.before).batch = some old)
    (hprs : ∀ pr ∈ batch.pullRequests, pr ∈ old.pullRequests) :
    FormedAt forming (since ++ [v]) batch := by
  refine ⟨h.stage, h.before, ?_, fun pr hpr => h.taken pr (hprs pr hpr)⟩
  have hlast : (poolOf v.before).batch ≠ none := by
    rw [hv]
    exact Option.some_ne_none old
  exact List.forall_mem_append.mpr ⟨h.since, List.forall_mem_singleton.mpr hlast⟩

lemma QueueRun.formed {visits : List Visit} {q : Option Queue} (run : QueueRun setup key none visits q) :
    ∀ batch, (poolOf q).batch = some batch → ∃ before forming since,
      visits = before ++ forming :: since ∧ FormedAt forming since batch := by
  induction run with
  | start => rintro _ ⟨⟩
  | @next visits q stage said q' run hstep ih =>
    intro batch hb
    have hreformed := (hstep.carried run.sound).reformed
    have hgrown {old : Batch} (hold : (poolOf q).batch = some old)
        (hprs : ∀ pr ∈ batch.pullRequests, pr ∈ old.pullRequests) : ∃ before forming since,
          visits ++ [⟨q, stage, said⟩] = before ++ forming :: since ∧
            FormedAt forming since batch := by
      obtain ⟨before, forming, since, rfl, hformed⟩ := ih old hold
      exact ⟨before, forming, since ++ [⟨q, stage, said⟩], by simp, hformed.concat hold hprs⟩
    rw [hb] at hreformed
    cases hreformed with
    | kept hold _ hprs => exact hgrown hold fun pr hpr => hprs ▸ hpr
    | shrunk hold _ _ hprs =>
      exact hgrown hold fun pr hpr => (List.dropLast_sublist _).subset (hprs ▸ hpr)
    | formed hnone _ _ _ hprs =>
      refine ⟨visits, _, [], rfl, ?_, hnone, by simp, fun pr hpr => ?_⟩
      · apply Decidable.byContradiction
        intro hstage
        have hq' : q' ≠ none := by
          rintro rfl
          cases hb
        rw [(hstep.synced run.sound hstage).2 hq', hnone] at hb
        cases hb
      · obtain ⟨id, _, t, ht, htpr⟩ := mem_batched (hprs ▸ hpr)
        exact ⟨id, t, ht, htpr⟩

lemma QueueRun.record_target {before since : List Visit} {forming : Visit} {q : Option Queue}
    (run : QueueRun setup key none (before ++ forming :: since) q) {batch : Batch}
    (hformed : FormedAt forming since batch) {pr : PullRequest} (hpr : pr ∈ batch.pullRequests)
    (htarget : pr.target = batch.branch) {t : Tracked} (ht : (poolOf q).find? pr.id = some t)
    (honest : ∀ s ∈ (before ++ forming :: since).flatMap (·.said), s.Honest) :
    t.pullRequest.target = batch.branch ↔
      ∀ v, (views setup.settings pr.id since).getLast? = some v →
        v.pullRequest.target = batch.branch := by
  obtain ⟨run₀, _⟩ := run.cut rfl
  obtain ⟨last, hlast, hshown⟩ := (run.account pr.id).shown t ht
  have hmerge : forming.views setup.settings pr.id = [] := by
    rw [Visit.views, hformed.stage]
  have hviews : views setup.settings pr.id (before ++ forming :: since) =
      views setup.settings pr.id before ++ views setup.settings pr.id since := by
    simp [views, hmerge]
  rw [hviews, List.getLast?_append] at hlast
  cases hsince : (views setup.settings pr.id since).getLast? with
  | some v =>
    rw [hsince, Option.some_or, Option.some.injEq] at hlast
    subst hlast
    rw [← hshown]
    exact ⟨fun h v' hv' => by cases hv'; exact h, fun h => h _ rfl⟩
  | none =>
    rw [hsince, Option.none_or] at hlast
    refine ⟨by simp, fun _ => ?_⟩
    -- without a view since then the record is the one that the batch was put together from
    obtain ⟨id, t₀, ht₀, htpr⟩ := hformed.taken pr hpr
    have honest₀ : ∀ s ∈ before.flatMap (·.said), s.Honest := by
      intro s hs
      apply honest
      rw [List.flatMap_append]
      exact List.mem_append_left _ hs
    obtain rfl : pr.id = id := by
      rw [← htpr]
      exact run₀.filed honest₀ ht₀
    obtain ⟨last₀, hlast₀, hshown₀⟩ := (run₀.account pr.id).shown t₀ ht₀
    rw [hlast] at hlast₀
    cases hlast₀
    rw [← hshown, hshown₀, htpr]
    exact htarget

/-- How a merge call of a tested batch rests on the branch that the job was asked to test it on. Its
pull request went into that branch when the batch was put together, and the record by which it is
merged still does, unless the last view of it since then says otherwise. -/
def RestsOnBranch (settings : Settings) (visits : List Visit) (said : List Said) (queue : Queue)
    (batch : Batch) (call : MergeCall) : Prop :=
  ∃ job request pr t before forming since, batch.job = some job ∧
    ⟨.jobState job, .ok .completed⟩ ∈ said ∧
    (createdJobs (visits.flatMap (·.said))).getLast? = some (request, job) ∧
    request.base.reference = batch.branch ∧
    pr ∈ batch.pullRequests ∧ pr.target = batch.branch ∧ queue.pool.find? pr.id = some t ∧
    call.id = t.pullRequest.id ∧ call.sha = t.pullRequest.head.sha ∧ call.sha = pr.head.sha ∧
    visits = before ++ forming :: since ∧ FormedAt forming since batch ∧
    ((∀ s ∈ visits.flatMap (·.said), s.Honest) → (t.pullRequest.target = batch.branch ↔
      ∀ v, (views settings pr.id since).getLast? = some v → v.pullRequest.target = batch.branch))

theorem batch_merge_restsOnBranch {turns : List Turn} {table table' : Table} {log : List Exchange}
    (run : Run setup ∅ turns table) (h : (Stage.merge.pass setup table).Course log table')
    {k : Option String} {call : MergeCall} (hcall : (k, call) ∈ mergesAsked log) :
    ∃ key queue, k = some key ∧ table.find? key = some queue ∧ ∀ batch,
      queue.pool.batch = some batch → RestsOnBranch setup.settings
        (turns.map (Turn.visit key)) (heard key log) queue batch call := by
  obtain ⟨pauses, hpass⟩ := (course_fst _ _ _).mp h
  obtain ⟨key, queue, pool, hk, hq, _, hmerged, hcalls⟩ := mergePass_asked hpass hcall
  refine ⟨key, queue, hk, hq, fun batch hb => ?_⟩
  have hrun := run.queue key
  rw [hq] at hrun
  obtain ⟨job, c, hjob, hpolled, _, _, hsub⟩ :=
    hmerged.tested hrun.sound hb (List.ne_nil_of_mem hcalls)
  obtain ⟨pr, hpr, hoffer⟩ := List.mem_filterMap.mp (hsub.subset hcalls)
  obtain ⟨t, ht, hsha, rfl⟩ := offer_eq_some_iff.mp hoffer
  obtain ⟨request, hlast, htests⟩ := hrun.commissioned batch job hb hjob
  obtain ⟨before, forming, since, hvisits, hformed⟩ := hrun.formed batch hb
  have htarget := hrun.target batch hb pr hpr
  refine ⟨job, request, pr, t, before, forming, since, hjob, hpolled, hlast, htests.base, hpr,
    htarget, ht, rfl, hsha.symm, rfl, hvisits, hformed, fun honest => ?_⟩
  rw [hvisits] at hrun honest
  exact hrun.record_target hformed hpr htarget ht honest

theorem batch_merge_restsOnBranch_demo :
    let turns := play pairSetup twoPulls
    let pass := Stage.merge.play pairSetup completedWorld turns.2
    ∃ key queue batch, some demoJobs.poolKey = some key ∧ turns.2.find? key = some queue ∧
      queue.pool.batch = some batch ∧ RestsOnBranch pairSetup.settings
        (turns.1.map (Turn.visit key)) (heard key pass.1) queue batch ⟨⟨demoJobs, "t"⟩, 7, "aaa"⟩ := by
  intro turns pass
  have hcall : (some demoJobs.poolKey, ⟨⟨demoJobs, "t"⟩, 7, "aaa"⟩) ∈ mergesAsked pass.1 := by
    decide +kernel
  obtain ⟨key, queue, hkey, hq, hrests⟩ := batch_merge_restsOnBranch (run_play pairSetup twoPulls)
    (play_course pairSetup .merge completedWorld turns.2) hcall
  obtain rfl := Option.some.inj hkey
  have hheld : (turns.2.find? demoJobs.poolKey).all (·.pool.batch.isSome) = true := by
    decide +kernel
  rw [hq, Option.all_some] at hheld
  obtain ⟨batch, hb⟩ := Option.isSome_iff_exists.mp hheld
  exact ⟨_, queue, batch, rfl, hq, hb, hrests batch hb⟩

def retargeted : List (Stage × World) :=
  let moved := { demoPull 3 "aaa" [] with base := ⟨"release", ""⟩ }
  twoPulls ++ [(.poolSync, jobsWorld [moved] [(3, moved)] .pending)]

theorem retargeted_member_merged :
    ¬ ∀ (setup : Setup) (turns : List Turn) (table table' : Table) (log : List Exchange),
      Run setup ∅ turns table → (Stage.merge.pass setup table).Course log table' →
      ∀ key queue batch call, (some key, call) ∈ mergesAsked log → table.find? key = some queue →
        queue.pool.batch = some batch → ∃ t, queue.pool.find? call.id = some t ∧
          t.pullRequest.target = batch.branch := by
  intro h
  have hqueue : ((play pairSetup retargeted).2.find? demoJobs.poolKey).any (fun queue =>
      queue.pool.batch.any fun batch => batch.branch = "main" ∧
        (queue.pool.find? 3).map (·.pullRequest.target) = some "release") = true := by
    decide +kernel
  obtain ⟨queue, hq, hb⟩ := (Option.any_eq_true _ _).mp hqueue
  obtain ⟨batch, hb, hbranch⟩ := (Option.any_eq_true _ _).mp hb
  obtain ⟨hmain, hrelease⟩ := of_decide_eq_true hbranch
  obtain ⟨t, ht, htarget⟩ := h pairSetup _ _ _ _ (run_play pairSetup retargeted)
    (play_course pairSetup .merge completedWorld _) demoJobs.poolKey queue batch
    ⟨⟨demoJobs, "t"⟩, 3, "aaa"⟩ (by decide +kernel) hq hb
  rw [ht, Option.map_some, htarget, hmain] at hrelease
  exact absurd (Option.some.inj hrelease) (by decide)

end MergeQueue
