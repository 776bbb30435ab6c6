import MergeQueue.Proofs.Run.MergeEffect
import MergeQueue.Proofs.Run.MergeTalk
import MergeQueue.Proofs.Run.Queue

namespace MergeQueue

open Engine Dialogue

variable {setup : Setup} {key : String}

def Said.connection? : Said → Option Connection
  | ⟨.host c _, _⟩ => some c
  | _ => none

def Question.config? : Question → Option RepoConfig
  | .connect c => some c.config
  | .host c _ => some c.config
  | _ => none

def Question.repository? (q : Question) : Option String := q.config?.map (·.poolKey)

lemma Said.config_of_connection {s : Said} {c : Connection} (h : s.connection? = some c) :
    s.1.config? = some c.config := by
  unfold connection? at h
  split at h
  · cases h
    rfl
  · cases h

namespace Engine

def By (given : Except Error RepoConfig) (s : Said) : Prop :=
  ∀ config, s.1.config? = some config → given = .ok config

lemma by_quiet {given : Except Error RepoConfig} {s : Said} (h : s.1.config? = none) :
    By given s := by
  intro config hc
  rw [h] at hc
  cases hc

lemma by_noted {α : Type} (given : Except Error RepoConfig) (warning : Error → Warning)
    (r : Except Error α) : ∀ s ∈ noted warning r, By given s := by
  cases r with
  | error e => exact List.forall_mem_singleton.mpr (by_quiet rfl)
  | ok _ => simp [noted]

lemma by_host {config : RepoConfig} (c : Connection) (hc : c.config = config) (call : HostCall)
    (r : Except Error call.Answer) : By (.ok config) ⟨.host c call, r⟩ := by
  rintro _ ⟨⟩
  rw [hc]

lemma mergeLaw_by (key : String) (config : RepoConfig) :
    MergeLaw key config (By (.ok config)) where
  connect _ _ _ h := congrArg Except.ok (Option.some.inj h)
  branch _ _ _ := by_host _ rfl _ _
  merge _ _ _ _ _ _ := by_host _ rfl _ _
  suffix _ := by_quiet rfl
  create _ _ := by_quiet rfl
  state _ _ := by_quiet rfl
  vanished _ := by_quiet rfl
  rejected _ _ := by_quiet rfl

lemma connect_by {config : RepoConfig} {l : List Said} {r : Except Error Connection}
    (h : (connect setup config).Course l r) : ∀ s ∈ l, By (.ok config) s :=
  (mergeLaw_by "" config).connecting h

lemma By.repository {config : RepoConfig} {s : Said} (h : By (.ok config) s) {repo : String}
    (hr : s.1.repository? = some repo) : repo = config.poolKey := by
  obtain ⟨config', hc, rfl⟩ := Option.map_eq_some_iff.mp hr
  cases h config' hc
  rfl

lemma Refreshed.by {config : RepoConfig} {q q' : Option Queue} {l : List Said}
    (h : Refreshed setup key config q l q') : ∀ s ∈ l, By (.ok config) s := by
  have hlisting {c : Connection} {lc : List Said} (hc : (connect setup config).Course lc (.ok c))
      (r : Except Error (List PullRequest)) :
      By (.ok config) ⟨.host c (.listPullRequests true), r⟩ :=
    by_host c ((connect_course hc).2 c rfl) _ _
  cases h with
  | unconnected hc =>
    exact List.forall_mem_append.mpr ⟨connect_by hc, List.forall_mem_singleton.mpr (by_quiet rfl)⟩
  | unlisted hc =>
    refine List.forall_mem_append.mpr ⟨connect_by hc, List.forall_mem_cons.mpr ⟨hlisting hc _, ?_⟩⟩
    exact List.forall_mem_singleton.mpr (by_quiet rfl)
  | listed _ hc =>
    exact List.forall_mem_append.mpr ⟨connect_by hc, List.forall_mem_singleton.mpr (hlisting hc _)⟩

def Guided (name : ConfigName) (l : List Said) : Prop :=
  ∃ given rest, l = ⟨.getConfig name, given⟩ :: rest ∧ ∀ s ∈ rest, By given s

lemma Merged.guided {queue : Queue} {l : List Said} {pool : Pool}
    (h : Merged setup key queue l pool) : Guided queue.owner l := by
  obtain ⟨given, rest, r, rfl, hall⟩ := h.all
  refine ⟨given, rest ++ noted (.mergePass key) r, by simp, ?_⟩
  refine List.forall_mem_append.mpr ⟨hall (By given) ?_, by_noted _ _ _⟩
  rintro config rfl
  exact mergeLaw_by key config

lemma Reviewed.guided {queue : Queue} {l : List Said} {pool : Pool}
    (h : Reviewed setup key queue l pool) (hs : queue.pool.Sound) : Guided queue.owner l := by
  have hevaluated {c : Connection} {query : MergeQuery} {ids : List UInt64} {le : List Said}
      {out : List (UInt64 × Evaluation) × Except Error Unit}
      (he : (evaluateAll setup c query ids).Course le out) : ∀ s ∈ le, By (.ok c.config) s :=
    evaluateAll_forall he (fun _ _ => by_host c rfl _ _) fun _ _ => by_host c rfl _ _
  cases h with
  | unread => exact ⟨_, _, rfl, List.forall_mem_singleton.mpr (by_quiet rfl)⟩
  | off => exact ⟨_, _, rfl, by simp⟩
  | @unconnected config merge lc e _ hc =>
    refine ⟨_, _, rfl, List.forall_mem_append.mpr ⟨connect_by hc, ?_⟩⟩
    exact List.forall_mem_singleton.mpr (by_quiet rfl)
  | @failed config merge lc c le es e _ hc he =>
    obtain rfl := (connect_course hc).2 c rfl
    refine ⟨_, _, rfl, List.forall_mem_append.mpr ⟨List.forall_mem_append.mpr ⟨?_, ?_⟩, ?_⟩⟩
    · exact connect_by hc
    · exact hevaluated he
    · exact List.forall_mem_singleton.mpr (by_quiet rfl)
  | @published config merge lc c le es lp pool r _ hc he hp =>
    obtain rfl := (connect_course hc).2 c rfl
    obtain ⟨shown, left, hpub⟩ := publish_course hp (hs.settleAll es) (SortedMap.keys_nodup _)
    have hpublished : ∀ s ∈ lp, By (.ok c.config) s := by
      intro s hs'
      obtain ⟨sha, status, reply, rfl⟩ := hpub.hosts s hs'
      exact by_host c rfl _ _
    refine ⟨_, _, rfl, List.forall_mem_append.mpr ⟨?_, by_noted _ _ _⟩⟩
    exact List.forall_mem_append.mpr
      ⟨List.forall_mem_append.mpr ⟨connect_by hc, hevaluated he⟩, hpublished⟩

def Hosted (name : ConfigName) (l : List Said) : Prop :=
  ∀ s ∈ l, ∀ c, s.connection? = some c → ⟨.getConfig name, .ok c.config⟩ ∈ l

lemma Guided.hosted {name : ConfigName} {l : List Said} (h : Guided name l) : Hosted name l := by
  obtain ⟨given, rest, rfl, hrest⟩ := h
  intro s hs c hc
  rcases List.mem_cons.mp hs with rfl | hs
  · cases hc
  · rw [hrest s hs c.config (Said.config_of_connection hc)]
    exact List.mem_cons_self

lemma Guided.repository {name : ConfigName} {l : List Said} (h : Guided name l)
    (hkept : ∀ config, ⟨.getConfig name, .ok config⟩ ∈ l → config.poolKey = key) :
    ∀ s ∈ l, ∀ repo, s.1.repository? = some repo → repo = key := by
  obtain ⟨given, rest, rfl, hrest⟩ := h
  intro s hs repo hr
  rcases List.mem_cons.mp hs with rfl | hs
  · cases hr
  · have hby := hrest s hs
    obtain ⟨config, hc, _⟩ := Option.map_eq_some_iff.mp hr
    obtain rfl := hby config hc
    exact (hby.repository hr).trans (hkept config List.mem_cons_self)

end Engine

lemma QueueStep.guided {stage : Stage} {queue : Queue} {said : List Said} {q' : Option Queue}
    (h : QueueStep setup key stage (some queue) said q') (hs : queue.pool.Sound)
    (hstage : stage ≠ .poolSync) : Guided queue.owner said := by
  cases h with
  | unlisted => exact absurd rfl hstage
  | dropped => exact absurd rfl hstage
  | refreshed => exact absurd rfl hstage
  | reviewed hr => exact hr.guided hs
  | merged hm => exact hm.guided

lemma QueueStep.hosted {stage : Stage} {queue : Queue} {said : List Said} {q' : Option Queue}
    (h : QueueStep setup key stage (some queue) said q') (hs : queue.pool.Sound)
    (hstage : stage ≠ .poolSync) : Hosted queue.owner said := (h.guided hs hstage).hosted

lemma QueueStep.repository {stage : Stage} {q q' : Option Queue} {l : List Said}
    (h : QueueStep setup key stage q l q') (hs : (poolOf q).Sound)
    (hkept : ∀ queue, q = some queue →
      ∀ config, ⟨.getConfig queue.owner, .ok config⟩ ∈ l → config.poolKey = key) :
    ∀ s ∈ l, ∀ repo, s.1.repository? = some repo → repo = key := by
  have hlist (s : Said) (hs : s.1 = .listConfigs) (repo : String)
      (hr : s.1.repository? = some repo) : repo = key := by
    rw [hs] at hr
    cases hr
  cases h with
  | unlisted => exact List.forall_mem_singleton.mpr (hlist _ rfl)
  | dropped => exact List.forall_mem_singleton.mpr (hlist _ rfl)
  | refreshed hc hr =>
    refine List.forall_mem_cons.mpr ⟨hlist _ rfl, fun s hs repo hrepo => ?_⟩
    exact ((hr.by s hs).repository hrepo).trans (configFor_eq_some hc).2.2
  | passed => simp
  | reviewed hr => exact (hr.guided hs).repository (hkept _ rfl)
  | merged hm => exact hm.guided.repository (hkept _ rfl)

end MergeQueue
