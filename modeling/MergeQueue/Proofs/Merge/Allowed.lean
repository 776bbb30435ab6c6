import MergeQueue.Proofs.Policy.Verdict
import MergeQueue.Proofs.Run.Batch
import MergeQueue.Proofs.Run.World

/-! Simple rules are enforced by taking pull requests out of the merge pool, which does not happen
to those the batch holds. -/

namespace MergeQueue

open Engine

variable {setup : Setup} {key : String}

def Said.fixedBy (configs : List RepoConfig) : Said → Bool
  | ⟨.listConfigs, .ok listed⟩ => listed = configs
  | ⟨.getConfig name, .ok config⟩ => config ∈ configs && config.id = name
  | _ => true

lemma QueueRun.owner_fixed {configs : List RepoConfig} {visits : List Visit} {queue : Queue}
    (run : QueueRun setup key none visits (some queue))
    (fixed : ∀ s ∈ visits.flatMap (·.said), s.fixedBy configs = true) :
    ∃ config, configFor setup configs key = some config ∧ queue.owner = config.id := by
  obtain ⟨before, configs', config, rest, after, rfl, hc, howner, _⟩ := run.opened rfl
  have hlisted : Said.fixedBy configs ⟨.listConfigs, .ok configs'⟩ = true :=
    fixed _ (List.mem_flatMap.mpr ⟨_, List.mem_append_right _ List.mem_cons_self,
      List.mem_cons_self⟩)
  obtain rfl : configs' = configs := of_decide_eq_true hlisted
  exact ⟨config, hc, howner⟩

lemma consulted_fixed {configs : List RepoConfig} {visits : List Visit} {q : Option Queue}
    {said : List Said} {config : RepoConfig} (run : QueueRun setup key none visits q)
    (names : ∀ c ∈ configs, ∀ c' ∈ configs, c.id = c'.id → c = c')
    (fixed : ∀ s ∈ visits.flatMap (·.said), s.fixedBy configs = true)
    (fixed' : ∀ s ∈ said, s.fixedBy configs = true) (hc : Consulted setup key q said config) :
    configFor setup configs key = some config := by
  rcases hc with ⟨configs', hlist, hc⟩ | ⟨queue, rfl, hget⟩
  · obtain rfl : configs' = configs := of_decide_eq_true (fixed' _ hlist)
    exact hc
  · obtain ⟨config', hc', howner⟩ := run.owner_fixed fixed
    have hreply := fixed' _ hget
    simp only [Said.fixedBy, Bool.and_eq_true, decide_eq_true_eq] at hreply
    obtain rfl := names _ hreply.1 _ (configFor_eq_some hc').1 (hreply.2.trans howner)
    exact hc'

def Ruled (query : MergeQuery) (views : List View) (m : Member) : Prop :=
  ∀ t, m.tracked = some t → (Policy.checkSimple query t.pullRequest).passed = true ∨
    ∃ v, views.getLast? = some v ∧ v.held = true

lemma Ruled.kept {query : MergeQuery} {views : List View} {m m' : Member}
    (h : Ruled query views m) (hk : m.Kept m') : Ruled query views m' := by
  intro t' ht'
  obtain ⟨t, ht, hpr⟩ := hk.record ht'
  rw [← hpr]
  exact h t ht

lemma Ruled.success {consulted : RepoConfig → Prop} {held : Bool} {query : MergeQuery}
    {views new : List View} {m m' : Member} (h : m.bucket = some .success → Ruled query views m)
    (hstep : MemberStep setup consulted held m new m')
    (hquery : ∀ config merge, consulted config → config.merge = some merge →
      setup.settings.effectiveQuery merge = query) :
    m'.bucket = some .success → Ruled query (views ++ new) m' := by
  intro hb t ht
  cases hstep with
  | kept hk =>
    rw [List.append_nil]
    exact (h (hk.bucket hb)).kept hk t ht
  | gone => cases ht
  | @listed config merge m entries hc hm hne =>
    rw [hquery config merge hc hm] at hb ht
    obtain ⟨last, hlast⟩ := Option.ne_none_iff_exists'.mp (mt List.getLast?_eq_none_iff.mp hne)
    obtain ⟨t', ht', rfl⟩ := Member.tracked_foldl_absorb query held hlast m
    cases ht'.symm.trans ht
    rcases (Member.bucket_foldl_absorb hb).2 _ (List.mem_of_getLast? hlast) with hp | hheld
    · exact .inl hp
    · exact .inr ⟨.listed held t.pullRequest, by simp [hlast], hheld⟩
  | @evaluated config merge m m' pr reports hc hm hbucket htracked hk =>
    obtain ⟨t₀, ht₀⟩ := Option.isSome_iff_exists.mp htracked
    obtain ⟨t₁, ht₁, hpr₁⟩ := hk.record ht
    obtain ⟨t₂, ht₂, hpr₂⟩ := Member.tracked_settle hbucket ht₀
    cases ht₂.symm.trans ht₁
    have hp := Member.bucket_settle hbucket htracked (hk.bucket hb)
    rw [← hpr₁, hpr₂, ← hquery config merge hc hm]
    exact .inl (Policy.passed_evaluate_iff.mp hp).1

lemma Ruled.batch {consulted : RepoConfig → Prop} {query : MergeQuery} {views new : List View}
    {m m' : Member} (h : Ruled query views m) (hstep : MemberStep setup consulted true m new m') :
    Ruled query (views ++ new) m' := by
  cases hstep with
  | kept hk =>
    rw [List.append_nil]
    exact h.kept hk
  | gone =>
    rintro _ ⟨⟩
  | @listed config merge m entries hc hm hne =>
    obtain ⟨last, hlast⟩ := Option.ne_none_iff_exists'.mp (mt List.getLast?_eq_none_iff.mp hne)
    intro t ht
    exact .inr ⟨.listed true last, by simp [hlast], rfl⟩
  | evaluated =>
    intro t ht
    exact .inr ⟨_, List.getLast?_concat, rfl⟩

lemma QueueRun.ruled {configs : List RepoConfig} {config : RepoConfig} {merge : MergeConfig}
    {visits : List Visit} {q : Option Queue} (run : QueueRun setup key none visits q)
    (names : ∀ c ∈ configs, ∀ c' ∈ configs, c.id = c'.id → c = c')
    (hc : configFor setup configs key = some config) (hm : config.merge = some merge)
    (fixed : ∀ s ∈ visits.flatMap (·.said), s.fixedBy configs = true) (id : UInt64) :
    ((poolOf q).member id).bucket = some .success →
      Ruled (setup.settings.effectiveQuery merge) (views setup.settings id visits)
        ((poolOf q).member id) := by
  induction run with
  | start =>
    intro hb
    have hm : (poolOf none).member id = .absent := Pool.member_empty id
    rw [hm] at hb
    cases hb
  | next run hstep ih =>
    rw [List.flatMap_append, List.flatMap_singleton] at fixed
    have fixed₁ := fun s hs => fixed s (List.mem_append_left _ hs)
    have fixed₂ := fun s hs => fixed s (List.mem_append_right _ hs)
    rw [views_concat]
    apply Ruled.success (ih fixed₁) (hstep.member run.sound id)
    intro config' merge' hc' hm'
    cases (consulted_fixed run names fixed₁ fixed₂ hc').symm.trans hc
    cases hm'.symm.trans hm
    rfl

/-- The host has answered with a pull request of this number when it was asked for another. -/
def Misnumbered (settings : Settings) (visits : List Visit) (id : UInt64) : Prop :=
  ∃ k v, k ≠ id ∧ v ∈ views settings k visits ∧ v.pullRequest.id = id

lemma Misnumbered.append {settings : Settings} {visits : List Visit} {id : UInt64}
    (h : Misnumbered settings visits id) (later : List Visit) :
    Misnumbered settings (visits ++ later) id := by
  obtain ⟨k, v, hk, hv, hid⟩ := h
  refine ⟨k, v, hk, ?_, hid⟩
  rw [views_append]
  exact List.mem_append_left _ hv

lemma QueueRun.ruled_batch {configs : List RepoConfig} {config : RepoConfig} {merge : MergeConfig}
    {visits : List Visit} {q : Option Queue} (run : QueueRun setup key none visits q)
    (names : ∀ c ∈ configs, ∀ c' ∈ configs, c.id = c'.id → c = c')
    (hc : configFor setup configs key = some config) (hm : config.merge = some merge)
    (fixed : ∀ s ∈ visits.flatMap (·.said), s.fixedBy configs = true) (id : UInt64) :
    (poolOf q).inBatch id = true → Misnumbered setup.settings visits id ∨
      Ruled (setup.settings.effectiveQuery merge) (views setup.settings id visits)
        ((poolOf q).member id) := by
  induction run with
  | start => rintro ⟨⟩
  | @next visits q stage said q' run hstep ih =>
    rw [List.flatMap_append, List.flatMap_singleton] at fixed
    have fixed₁ := fun s hs => fixed s (List.mem_append_left _ hs)
    have hmember := hstep.member run.sound id
    intro hin
    rw [views_concat]
    -- a pass that leaves the batch alone views what the batch holds as held
    have hsync (hbatch : (poolOf q').batch = (poolOf q).batch) :
        Misnumbered setup.settings (visits ++ [⟨q, stage, said⟩]) id ∨
        Ruled (setup.settings.effectiveQuery merge)
          (views setup.settings id visits ++ Visit.views setup.settings id ⟨q, stage, said⟩)
          ((poolOf q').member id) := by
      rw [Pool.inBatch_congr hbatch] at hin
      rw [hin] at hmember
      rcases ih fixed₁ hin with hmis | hruled
      · exact .inl (hmis.append _)
      · exact .inr (hruled.batch hmember)
    cases hstep with
    | unlisted => exact hsync rfl
    | dropped => cases hin
    | refreshed hc' hr => exact hsync (hr.step run.sound hc').1
    | passed => exact hsync rfl
    | reviewed hr => exact hsync (hr.step run.sound).1
    | merged hmerged =>
      have hkept := (hmerged.rest run.sound).member id
      rw [Visit.views_merge, List.append_nil]
      rcases (hmerged.carried run.sound).reformed.inBatch run.sound hin with
        hin' | ⟨k, t, ht, hbucket, hid⟩
      · rcases ih fixed₁ hin' with hmis | hruled
        · exact .inl (hmis.append _)
        · exact .inr (hruled.kept hkept)
      · by_cases hk : k = id
        · subst hk
          exact .inr ((run.ruled names hc hm fixed₁ k hbucket).kept hkept)
        · obtain ⟨v, hv, hshown⟩ := (run.account k).shown t ht
          have hmis : Misnumbered setup.settings visits id :=
            ⟨k, v, hk, List.mem_of_getLast? hv, by rw [hshown, hid]⟩
          exact .inl (hmis.append _)

lemma fixed_heard {configs : List RepoConfig} {log : List Exchange}
    (fixed : ∀ e ∈ log, e.said.fixedBy configs = true) (key : String) :
    ∀ s ∈ heard key log, s.fixedBy configs = true := by
  intro s hs
  obtain ⟨e, he, rfl⟩ := mem_of_mem_heard hs
  exact fixed e he

/-- Each merge call goes by a record that the whole pass leaves as it is. With fixed configurations
the record meets the simple rules, unless the batch held it in its last view, or has it by a wrong
answer of the host. -/
theorem merge_meets_rules (configs : List RepoConfig) {turns : List Turn} {table table' : Table}
    {log : List Exchange} (names : ∀ c ∈ configs, ∀ c' ∈ configs, c.id = c'.id → c = c')
    (run : Run setup ∅ turns table) (h : (Stage.merge.pass setup table).Course log table')
    (fixed : ∀ t ∈ turns, ∀ e ∈ t.log, e.said.fixedBy configs = true)
    (fixed' : ∀ e ∈ log, e.said.fixedBy configs = true) {k : Option String} {call : MergeCall}
    (hcall : (k, call) ∈ mergesAsked log) :
    ∃ key queue queue' merge id t t', k = some key ∧ table.find? key = some queue ∧
      table'.find? key = some queue' ∧ call.connection.config.merge = some merge ∧
      queue.pool.find? id = some t ∧ queue'.pool.find? id = some t' ∧
      t'.pullRequest = t.pullRequest ∧ call.id = t.pullRequest.id ∧
      call.sha = t.pullRequest.head.sha ∧
      (queue.pool.batch = none ∨ queue.pool.inBatch id = true) ∧
      ((Policy.checkSimple (setup.settings.effectiveQuery merge) t.pullRequest).passed = true ∨
        (∃ v, (views setup.settings id (turns.map (Turn.visit key))).getLast? = some v ∧
          v.held = true) ∨
        (queue.pool.inBatch id = true ∧
          Misnumbered setup.settings (turns.map (Turn.visit key)) id)) := by
  obtain ⟨pauses, hpass⟩ := (course_fst _ _ _).mp h
  obtain ⟨key, queue, pool, hk, hq, hq', hmerged, hcalls⟩ := mergePass_asked hpass hcall
  have hrun := run.queue key
  rw [hq] at hrun
  have hfixed : ∀ s ∈ (turns.map (Turn.visit key)).flatMap (·.said), s.fixedBy configs = true := by
    intro s hs
    rw [← heardIn_eq] at hs
    obtain ⟨t, ht, hs⟩ := List.mem_flatMap.mp hs
    exact fixed_heard (fixed t ht) key s hs
  obtain ⟨hget, id, t, ht, hid, hsha, hwhy⟩ := hmerged.record hrun.sound hcalls
  have hconf := consulted_fixed hrun names hfixed (fixed_heard fixed' key)
    (.inr ⟨queue, rfl, hget⟩)
  obtain ⟨_, henabled, _⟩ := configFor_eq_some hconf
  simp only [RepoConfig.automationEnabled, Bool.and_eq_true] at henabled
  obtain ⟨merge, hm⟩ := Option.isSome_iff_exists.mp henabled.1
  obtain ⟨t', ht', hpr⟩ := (hmerged.rest hrun.sound).find? ht
  refine ⟨key, queue, _, merge, id, t, t', hk, hq, hq', hm, ht, ht', hpr, hid, hsha, ?_⟩
  rcases hwhy with ⟨hb, hbucket⟩ | ⟨_, hin⟩
  · refine ⟨.inl hb, ?_⟩
    rcases hrun.ruled names hconf hm hfixed id hbucket t ht with hpassed | hheld
    · exact .inl hpassed
    · exact .inr (.inl hheld)
  · refine ⟨.inr hin, ?_⟩
    rcases hrun.ruled_batch names hconf hm hfixed id hin with hmis | hruled
    · exact .inr (.inr ⟨hin, hmis⟩)
    · rcases hruled t ht with hpassed | hheld
      · exact .inl hpassed
      · exact .inr (.inl hheld)

theorem merge_meets_rules_demo :
    let turns := play demoSetup [(.poolSync, demoWorld (demoPull 1 "aaa" [])),
      (.statusSync, demoWorld (demoPull 1 "aaa" []))]
    let pass := Stage.merge.play demoSetup (demoWorld (demoPull 1 "aaa" [])) turns.2
    ∃ key queue queue' merge id t t', some demo.poolKey = some key ∧
      turns.2.find? key = some queue ∧ pass.2.find? key = some queue' ∧
      demo.merge = some merge ∧ queue.pool.find? id = some t ∧ queue'.pool.find? id = some t' ∧
      t'.pullRequest = t.pullRequest ∧ 1 = t.pullRequest.id ∧ "aaa" = t.pullRequest.head.sha ∧
      (queue.pool.batch = none ∨ queue.pool.inBatch id = true) ∧
      ((Policy.checkSimple (Settings.default.effectiveQuery merge) t.pullRequest).passed = true ∨
        (∃ v, (views .default id (turns.1.map (Turn.visit key))).getLast? = some v ∧
          v.held = true) ∨
        (queue.pool.inBatch id = true ∧
          Misnumbered .default (turns.1.map (Turn.visit key)) id)) :=
  have hcall : (some demo.poolKey, ⟨⟨demo, "t"⟩, 1, "aaa"⟩) ∈ mergesAsked
      (Stage.merge.play demoSetup (demoWorld (demoPull 1 "aaa" []))
        (play demoSetup [(.poolSync, demoWorld (demoPull 1 "aaa" [])),
          (.statusSync, demoWorld (demoPull 1 "aaa" []))]).2).1 := by
    decide +kernel
  merge_meets_rules [demo] (by decide +kernel) (run_play demoSetup _)
    (play_course demoSetup .merge (demoWorld (demoPull 1 "aaa" [])) _) (by decide +kernel)
    (by decide +kernel) hcall

def blocked : List (Stage × World) :=
  [(.poolSync, jobsWorld [demoPull 1 "aaa" []] [(1, demoPull 1 "aaa" [])] .pending),
    (.statusSync, jobsWorld [demoPull 1 "aaa" []] [(1, demoPull 1 "aaa" [])] .pending),
    (.merge, jobsWorld [demoPull 1 "aaa" []] [(1, demoPull 1 "aaa" [])] .pending),
    (.poolSync, jobsWorld [demoPull 1 "aaa" ["ci/hold"]] [] .pending)]

theorem blocked_member_merged :
    ¬ ∀ (setup : Setup) (configs : List RepoConfig) (turns : List Turn) (table table' : Table)
      (log : List Exchange), (∀ c ∈ configs, ∀ c' ∈ configs, c.id = c'.id → c = c') →
      Run setup ∅ turns table → (Stage.merge.pass setup table).Course log table' →
      (∀ t ∈ turns, ∀ e ∈ t.log, e.said.fixedBy configs = true) →
      (∀ e ∈ log, e.said.fixedBy configs = true) →
      ∀ key queue call, (some key, call) ∈ mergesAsked log → table.find? key = some queue →
        ∃ merge id t, call.connection.config.merge = some merge ∧ queue.pool.find? id = some t ∧
          (Policy.checkSimple (setup.settings.effectiveQuery merge) t.pullRequest).passed = true := by
  intro h
  have hqueue : ((play demoSetup blocked).2.find? demoJobs.poolKey).any (fun queue =>
      queue.pool.tracked.entries.all fun e => !(Policy.checkSimple
        (Settings.default.effectiveQuery .default) e.2.pullRequest).passed) = true := by
    decide +kernel
  obtain ⟨queue, hq, hall⟩ := (Option.any_eq_true _ _).mp hqueue
  obtain ⟨merge, id, t, hm, ht, hpassed⟩ := h demoSetup [demoJobs] _ _ _ _ (by decide +kernel)
    (run_play demoSetup blocked) (play_course demoSetup .merge completedWorld _)
    (by decide +kernel) (by decide +kernel) demoJobs.poolKey queue ⟨⟨demoJobs, "t"⟩, 1, "aaa"⟩
    (by decide +kernel) hq
  cases hm
  have hmem := (SortedMap.find?_eq_some_iff _ _ _).mp ht
  have hfails := List.all_eq_true.mp hall _ hmem
  simp only [Bool.not_eq_true'] at hfails
  exact absurd (hfails.symm.trans hpassed) (by decide)

end MergeQueue
