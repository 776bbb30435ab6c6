import MergeQueue.Engine.PoolSync
import MergeQueue.Proofs.Course
import MergeQueue.Proofs.Sorted

namespace MergeQueue

namespace Engine

open Dialogue

variable {setup : Setup}

lemma connect_course {config : RepoConfig} {l : List Said} {r : Except Error Connection}
    (h : (connect setup config).Course l r) :
    (∀ s ∈ l, ∃ c reply, s = ⟨.connect c, reply⟩) ∧ ∀ c, r = .ok c → c.config = config := by
  rw [connect] at h
  split at h
  · obtain ⟨rfl, rfl⟩ := h
    simp
  · next token _ =>
    obtain ⟨reply, rest, rfl, h⟩ := h
    refine ⟨fun s hs => ?_, fun c hc => ?_⟩
    · cases reply <;> obtain ⟨rfl, rfl⟩ := h <;>
        exact ⟨_, _, List.mem_singleton.mp hs⟩
    · cases reply <;> obtain ⟨rfl, rfl⟩ := h <;> cases hc
      rfl

lemma connect_asks {config : RepoConfig} {l : List Said} {r : Except Error Connection}
    (h : (connect setup config).Course l r) :
    (config.git.resolveToken setup.env = none ∧ l = [] ∧ ∃ e, r = .error e) ∨
    ∃ token reply, config.git.resolveToken setup.env = some token ∧
      l = [⟨.connect ⟨config, token⟩, reply⟩] ∧ r = reply.map fun () => ⟨config, token⟩ := by
  rw [connect] at h
  split at h
  · next hnone =>
    obtain ⟨rfl, rfl⟩ := h
    exact .inl ⟨hnone, rfl, _, rfl⟩
  · next token hsome =>
    obtain ⟨reply, _, rfl, h⟩ := h
    refine .inr ⟨token, reply, hsome, ?_⟩
    cases reply <;> obtain ⟨rfl, rfl⟩ := h <;> exact ⟨rfl, rfl⟩

lemma filterMap_connect {β : Type} {f : Said → Option β} {config : RepoConfig} {l : List Said}
    {r : Except Error Connection} (h : (connect setup config).Course l r)
    (hf : ∀ c reply, f ⟨.connect c, reply⟩ = none) : l.filterMap f = [] := by
  apply List.filterMap_eq_nil_iff.mpr
  intro s hs
  obtain ⟨c, reply, rfl⟩ := (connect_course h).1 s hs
  exact hf c reply

def configFor (setup : Setup) (configs : List RepoConfig) (key : String) : Option RepoConfig :=
  configs.find? fun config => config.automationEnabled setup.env && config.poolKey = key

lemma configFor_eq_some {configs : List RepoConfig} {key : String} {config : RepoConfig}
    (h : configFor setup configs key = some config) :
    config ∈ configs ∧ config.automationEnabled setup.env ∧ config.poolKey = key := by
  have hp := List.find?_some h
  simp only [Bool.and_eq_true, decide_eq_true_eq] at hp
  exact ⟨List.mem_of_find?_eq_some h, hp⟩

lemma configFor_of_mem {configs : List RepoConfig} {config : RepoConfig} (h : config ∈ configs)
    (he : config.automationEnabled setup.env) :
    ∃ first, configFor setup configs config.poolKey = some first := by
  apply Option.isSome_iff_exists.mp
  exact List.find?_isSome.mpr ⟨config, h, by simp [he]⟩

inductive Refreshed (setup : Setup) (key : String) (config : RepoConfig) :
    Option Queue → List Said → Option Queue → Prop
  | unconnected {q l e} : (connect setup config).Course l (.error e) →
      Refreshed setup key config q (l ++ [⟨.warn (.poolSync key e), ()⟩]) q
  | unlisted {q l c e} : (connect setup config).Course l (.ok c) →
      Refreshed setup key config q
        (l ++ [⟨.host c (.listPullRequests true), .error e⟩, ⟨.warn (.poolSync key e), ()⟩])
        (some (q.getD ⟨config.id, .empty⟩))
  | listed {q l c merge} {listed : List PullRequest} : config.merge = some merge →
      (connect setup config).Course l (.ok c) →
      Refreshed setup key config q (l ++ [⟨.host c (.listPullRequests true), .ok listed⟩])
        (some { q.getD ⟨config.id, .empty⟩ with
          pool := (q.getD ⟨config.id, .empty⟩).pool.absorb (setup.settings.effectiveQuery merge)
            listed })

lemma Refreshed.owner_new {key : String} {config : RepoConfig} {l : List Said} {queue : Queue}
    (h : Refreshed setup key config none l (some queue)) : queue.owner = config.id := by
  cases h <;> rfl

lemma Refreshed.owner_kept {key : String} {config : RepoConfig} {l : List Said}
    {queue queue' : Queue} (h : Refreshed setup key config (some queue) l (some queue')) :
    queue'.owner = queue.owner := by
  cases h <;> rfl

lemma find?_opened (table : Table) (key : String) (config : RepoConfig) (k : String) :
    (table.opened key config).find? k =
      if k = key then some ((table.find? key).getD ⟨config.id, .empty⟩) else table.find? k := by
  rw [Table.opened]
  split
  · next hc =>
    split
    · next hk =>
      obtain ⟨q, hq⟩ := Option.isSome_iff_exists.mp hc
      rw [hk, hq]
      rfl
    · rfl
  · next hc =>
    rw [SortedMap.find?_insert]
    simp only [SortedMap.contains, Option.not_isSome_iff_eq_none] at hc
    rw [hc]
    rfl

inductive Synced (setup : Setup) (config : RepoConfig) :
    Option Queue → List Said → Option Queue → Except Error Unit → Prop
  | off {q e} : config.merge = none → Synced setup config q [] q (.error e)
  | unconnected {q l e} : (connect setup config).Course l (.error e) →
      Synced setup config q l q (.error e)
  | unlisted {q l c e} : (connect setup config).Course l (.ok c) →
      Synced setup config q (l ++ [⟨.host c (.listPullRequests true), .error e⟩])
        (some (q.getD ⟨config.id, .empty⟩)) (.error e)
  | listed {q l c merge} {listed : List PullRequest} : config.merge = some merge →
      (connect setup config).Course l (.ok c) →
      Synced setup config q (l ++ [⟨.host c (.listPullRequests true), .ok listed⟩])
        (some { q.getD ⟨config.id, .empty⟩ with
          pool := (q.getD ⟨config.id, .empty⟩).pool.absorb (setup.settings.effectiveQuery merge)
            listed }) (.ok ())

lemma syncPool_course {table table' : Table} {key : String} {config : RepoConfig} {l : List Said}
    {r : Except Error Unit} (h : (syncPool setup table key config).Course l (table', r)) :
    Synced setup config (table.find? key) l (table'.find? key) r ∧
      ∀ k, k ≠ key → table'.find? k = table.find? k := by
  rw [syncPool] at h
  cases hm : config.merge with
  | none =>
    simp only [hm] at h
    obtain ⟨rfl, ho⟩ := h
    cases ho
    exact ⟨.off hm, fun _ _ => rfl⟩
  | some merge =>
    simp only [hm] at h
    obtain ⟨l, r, _, rfl, hc, hd⟩ := (course_bind _ _ _ _).mp h
    cases r with
    | error e =>
      obtain ⟨rfl, ho⟩ := hd
      cases ho
      rw [List.append_nil]
      exact ⟨.unconnected hc, fun _ _ => rfl⟩
    | ok c =>
      obtain ⟨reply, _, rfl, hr⟩ := course_host_bind.mp hd
      cases reply with
      | error e =>
        obtain ⟨rfl, ho⟩ := hr
        cases ho
        refine ⟨?_, fun k hk => ?_⟩
        · rw [find?_opened, if_pos rfl]
          exact .unlisted hc
        · rw [find?_opened, if_neg hk]
      | ok listed =>
        obtain ⟨rfl, ho⟩ := hr
        cases ho
        refine ⟨?_, fun k hk => ?_⟩
        · rw [SortedMap.find?_modify, if_pos rfl, find?_opened, if_pos rfl]
          exact .listed hm hc
        · rw [SortedMap.find?_modify, if_neg hk, find?_opened, if_neg hk]

namespace Synced

variable {key : String} {config : RepoConfig} {q q' : Option Queue} {l : List Said}

lemma refreshed (h : Synced setup config q l q' (.ok ())) :
    Refreshed setup key config q l q' := by
  cases h with
  | listed hm hc => exact .listed hm hc

lemma refreshed_warned {e : Error} (h : Synced setup config q l q' (.error e))
    (hm : config.merge.isSome) :
    Refreshed setup key config q (l ++ [⟨.warn (.poolSync key e), ()⟩]) q' := by
  cases h with
  | off hnone => simp [hnone] at hm
  | unconnected hc => exact .unconnected hc
  | unlisted hc =>
    rw [List.append_assoc]
    exact .unlisted hc

end Synced

lemma visitPool_course {table table' : Table} {key : String} {config : RepoConfig} {l : List Said}
    (he : config.automationEnabled setup.env)
    (h : (visitPool setup table key config).Course l table') :
    Refreshed setup key config (table.find? key) l (table'.find? key) ∧
      ∀ k, k ≠ key → table'.find? k = table.find? k := by
  have hm : config.merge.isSome := (Bool.and_eq_true_iff.mp he).1
  obtain ⟨l, ⟨synced, r⟩, _, rfl, hs, hd⟩ := (course_bind _ _ _ _).mp h
  obtain ⟨hsynced, hothers⟩ := syncPool_course hs
  cases r with
  | error e =>
    obtain ⟨_, rfl, rfl, rfl⟩ := course_warn_bind.mp hd
    exact ⟨hsynced.refreshed_warned hm, hothers⟩
  | ok _ =>
    obtain ⟨rfl, rfl⟩ := hd
    rw [List.append_nil]
    exact ⟨hsynced.refreshed, hothers⟩

lemma syncConfigs_course {configs : List RepoConfig} {met met' : SortedSet String}
    {table table' : Table} {log : List Exchange}
    (h : (syncConfigs setup configs met table).Course log (table', met')) (key : String) :
    met'.contains key = (met.contains key || (configFor setup configs key).isSome) ∧
    (met.contains key = true ∨ configFor setup configs key = none →
      heard key log = [] ∧ table'.find? key = table.find? key) ∧
    (∀ config, met.contains key = false → configFor setup configs key = some config →
      Refreshed setup key config (table.find? key) (heard key log) (table'.find? key)) := by
  induction configs generalizing met table log with
  | nil =>
    obtain ⟨rfl, h⟩ := h
    obtain ⟨rfl, rfl⟩ := Prod.mk.inj h
    simp [configFor]
  | cons config rest ih =>
    rw [syncConfigs] at h
    by_cases hn : config.automationEnabled setup.env && !met.contains config.poolKey
    · simp only [hn, if_true] at h
      obtain ⟨l, between, back, rfl, hv, hs⟩ := course_about_bind.mp h
      simp only [Bool.and_eq_true, Bool.not_eq_true'] at hn
      obtain ⟨hr, hother⟩ := visitPool_course hn.1 hv
      obtain ⟨hmet, hnone, hsome⟩ := ih hs
      rw [SortedSet.contains_insert] at hmet hnone hsome
      by_cases hk : config.poolKey = key
      · subst hk
        have hf : configFor setup (config :: rest) config.poolKey = some config := by
          simp [configFor, hn.1]
        obtain ⟨hh, ht⟩ := hnone (by simp)
        rw [hf, heard_append, heard_own, hh, ht, List.append_nil]
        refine ⟨by simpa using hmet, ?_, ?_⟩
        · rintro (h | h)
          · exact absurd h (by simp [hn.2])
          · cases h
        · rintro _ _ ⟨⟩
          exact hr
      · have hf : configFor setup (config :: rest) key = configFor setup rest key := by
          simp [configFor, hk]
        have hk' : decide (key = config.poolKey) = false := by simpa using Ne.symm hk
        rw [hk', Bool.false_or] at hmet hnone hsome
        rw [hf, heard_append, heard_other hk, List.nil_append, ← hother key (Ne.symm hk)]
        exact ⟨hmet, hnone, hsome⟩
    · simp only [hn] at h
      obtain ⟨hmet, hnone, hsome⟩ := ih h
      by_cases hk : config.automationEnabled setup.env && config.poolKey = key
      · -- the key of an enabled configuration that is passed over was met before
        have hf : configFor setup (config :: rest) key = some config := by
          simp [configFor, hk]
        simp only [Bool.and_eq_true, decide_eq_true_eq] at hk
        have hc : met.contains key = true := by
          rw [← hk.2]
          simpa [hk.1] using hn
        rw [hf, hc]
        refine ⟨by simpa [hc] using hmet, fun _ => hnone (.inl hc), ?_⟩
        intro _ h
        cases h
      · have hf : configFor setup (config :: rest) key = configFor setup rest key := by
          simp only [configFor, List.find?_cons, hk]
        rw [hf]
        exact ⟨hmet, hnone, hsome⟩

lemma poolPass_error {table table' : Table} {log : List Exchange} {e : Error}
    (h : (poolPass setup table).Course log (table', .error e)) :
    table' = table ∧ log = [⟨⟨none, .listConfigs⟩, .error e⟩] := by
  obtain ⟨l, r, back, rfl, hq, hd⟩ := course_about_bind.mp h
  obtain rfl := (course_question _ _ _).mp hq
  cases r with
  | error e' =>
    obtain ⟨rfl, he⟩ := hd
    cases he
    exact ⟨rfl, rfl⟩
  | ok configs =>
    obtain ⟨_, _, _, rfl, _, rfl, he⟩ := (course_bind _ _ _ _).mp hd
    cases he

lemma poolPass_ok {table table' : Table} {log : List Exchange}
    (h : (poolPass setup table).Course log (table', .ok ())) :
    ∃ configs rest, log = ⟨⟨none, .listConfigs⟩, .ok configs⟩ :: rest ∧ ∀ key,
      (configFor setup configs key = none → heard key rest = [] ∧ table'.find? key = none) ∧
      ∀ config, configFor setup configs key = some config →
        Refreshed setup key config (table.find? key) (heard key rest) (table'.find? key) := by
  obtain ⟨l, r, back, rfl, hq, hd⟩ := course_about_bind.mp h
  obtain rfl := (course_question _ _ _).mp hq
  cases r with
  | error e =>
    obtain ⟨_, he⟩ := hd
    cases he
  | ok configs =>
    obtain ⟨rest, ⟨synced, met⟩, _, rfl, hs, rfl, he⟩ := (course_bind _ _ _ _).mp hd
    cases he
    refine ⟨configs, rest, by simp [Said.addressed], fun key => ?_⟩
    obtain ⟨hmet, hnone, hsome⟩ := syncConfigs_course hs key
    have hempty : (∅ : SortedSet String).contains key = false := rfl
    rw [hempty, Bool.false_or] at hmet
    rw [SortedMap.find?_filter, hmet]
    refine ⟨fun hf => ⟨(hnone (.inr hf)).1, by simp [hf]⟩, fun config hf => ?_⟩
    have hk : (synced.find? key).filter (fun _ => (configFor setup configs key).isSome) =
        synced.find? key := by
      cases synced.find? key <;> simp [hf]
    rw [hk]
    exact hsome config hempty hf

end Engine

end MergeQueue
