import MergeQueue.Proofs.Table.Ownership

/-! The table behind a pool sync. Each repository goes by its first enabled configuration, and what
fails for one of them makes no difference to the others. -/

namespace MergeQueue

open Engine Dialogue

variable {setup : Setup} {key : String}

namespace Engine

inductive Contacted (setup : Setup) (key : String) (c : Connection) (merge : MergeConfig) :
    Option Queue → List Said → Option Queue → Prop
  | unconnected {q e} : Contacted setup key c merge q
      [⟨.connect c, .error e⟩, ⟨.warn (.poolSync key e), ()⟩] q
  | unlisted {q e} : Contacted setup key c merge q
      [⟨.connect c, .ok ()⟩, ⟨.host c (.listPullRequests true), .error e⟩,
        ⟨.warn (.poolSync key e), ()⟩]
      (some (q.getD ⟨c.config.id, .empty⟩))
  | listed {q} {listed : List PullRequest} : Contacted setup key c merge q
      [⟨.connect c, .ok ()⟩, ⟨.host c (.listPullRequests true), .ok listed⟩]
      (some { q.getD ⟨c.config.id, .empty⟩ with
        pool := (q.getD ⟨c.config.id, .empty⟩).pool.absorb (setup.settings.effectiveQuery merge)
          listed })

lemma connect_enabled {config : RepoConfig} {token : String}
    (ht : config.git.resolveToken setup.env = some token) {l : List Said}
    {r : Except Error Connection} (h : (connect setup config).Course l r) :
    ∃ reply : Except Error Unit, l = [⟨.connect ⟨config, token⟩, reply⟩] ∧
      r = reply.map fun () => ⟨config, token⟩ := by
  rcases connect_asks h with ⟨hnone, _⟩ | ⟨token', reply, ht', rfl, rfl⟩
  · cases ht.symm.trans hnone
  · cases ht.symm.trans ht'
    exact ⟨reply, rfl, rfl⟩

lemma Refreshed.contacted {config : RepoConfig} {q q' : Option Queue} {l : List Said}
    (h : Refreshed setup key config q l q') (he : config.automationEnabled setup.env) :
    ∃ token merge, config.git.resolveToken setup.env = some token ∧ config.merge = some merge ∧
      Contacted setup key ⟨config, token⟩ merge q l q' := by
  obtain ⟨hmerge, htoken⟩ := Bool.and_eq_true_iff.mp he
  obtain ⟨merge, hm⟩ := Option.isSome_iff_exists.mp hmerge
  obtain ⟨token, ht⟩ := Option.isSome_iff_exists.mp htoken
  refine ⟨token, merge, ht, hm, ?_⟩
  cases h with
  | unconnected hc =>
    obtain ⟨reply, rfl, hr⟩ := connect_enabled ht hc
    cases reply with
    | error e =>
      cases hr
      exact .unconnected
    | ok _ => cases hr
  | unlisted hc =>
    obtain ⟨reply, rfl, hr⟩ := connect_enabled ht hc
    cases reply with
    | error e => cases hr
    | ok _ =>
      cases hr
      exact .unlisted
  | listed hm' hc =>
    cases hm.symm.trans hm'
    obtain ⟨reply, rfl, hr⟩ := connect_enabled ht hc
    cases reply with
    | error e => cases hr
    | ok _ =>
      cases hr
      exact .listed

lemma Contacted.connects {c : Connection} {merge : MergeConfig} {q q' : Option Queue}
    {l : List Said} (h : Contacted setup key c merge q l q') :
    ∃ reply : Except Error Unit, ⟨.connect c, reply⟩ ∈ l := by
  cases h <;> exact ⟨_, List.mem_cons_self⟩

lemma Contacted.kept_iff {c : Connection} {merge : MergeConfig} {q q' : Option Queue}
    {l : List Said} (h : Contacted setup key c merge q l q') :
    q'.isSome ↔ q.isSome ∨ ∃ token, ⟨.connect ⟨c.config, token⟩, .ok ()⟩ ∈ l := by
  cases h with
  | unconnected => simp
  | unlisted =>
    simp only [Option.isSome_some, true_iff]
    exact .inr ⟨c.token, List.mem_cons_self⟩
  | listed =>
    simp only [Option.isSome_some, true_iff]
    exact .inr ⟨c.token, List.mem_cons_self⟩

lemma keyed_syncConfigs (configs : List RepoConfig) (met : SortedSet String) (table : Table) :
    Keyed (syncConfigs setup configs met table) := by
  induction configs generalizing met table with
  | nil => exact .done _
  | cons config rest ih =>
    rw [syncConfigs]
    split
    · exact (keyed_about _ _).bind fun _ => ih _ _
    · exact ih _ _

lemma keyed_poolPass {table table' : Table} {r : Except Error Unit} {configs : List RepoConfig}
    {rest : List Exchange} (h : (poolPass setup table).Course
      (⟨⟨none, .listConfigs⟩, .ok configs⟩ :: rest) (table', r)) : ∀ e ∈ rest, e.1.key.isSome := by
  obtain ⟨l, reply, back, hlog, hq, hd⟩ := course_about_bind.mp h
  obtain rfl := (course_question _ _ _).mp hq
  obtain ⟨hfirst, rfl⟩ := List.cons.inj hlog
  cases hfirst
  obtain ⟨front, _, _, rfl, hs, rfl, _⟩ := (course_bind _ _ _ _).mp hd
  rw [List.append_nil]
  exact keyed_syncConfigs _ _ _ _ _ hs

end Engine

/-- A pool sync that cannot list the configurations does nothing. Any other keeps the queues of the
repositories that have an enabled configuration, opens those it could connect to, and asks nothing
but to connect and to list the open pull requests, by the first enabled configuration of each. -/
theorem table_update {table table' : Table} {log : List Exchange} {r : Except Error Unit}
    (h : (poolPass setup table).Course log (table', r)) :
    (∃ e, log = [⟨⟨none, .listConfigs⟩, .error e⟩] ∧ r = .error e ∧ table' = table) ∨
    ∃ configs rest, log = ⟨⟨none, .listConfigs⟩, .ok configs⟩ :: rest ∧ r = .ok () ∧
      (∀ e ∈ rest, ∃ key config, e.1.key = some key ∧
        configFor setup configs key = some config) ∧
      ∀ key,
        ((table'.find? key).isSome ↔ ∃ config, configFor setup configs key = some config ∧
          ((table.find? key).isSome ∨
            ∃ token, ⟨.connect ⟨config, token⟩, .ok ()⟩ ∈ heard key rest)) ∧
        ∀ config, configFor setup configs key = some config → ∃ token merge,
          config.git.resolveToken setup.env = some token ∧ config.merge = some merge ∧
            Contacted setup key ⟨config, token⟩ merge (table.find? key) (heard key rest)
              (table'.find? key) := by
  cases r with
  | error e =>
    obtain ⟨rfl, rfl⟩ := poolPass_error h
    exact .inl ⟨e, rfl, rfl, rfl⟩
  | ok _ =>
    obtain ⟨configs, rest, rfl, hkeys⟩ := poolPass_ok h
    refine .inr ⟨configs, rest, rfl, rfl, fun e he => ?_, fun key => ?_⟩
    · obtain ⟨key, hkey⟩ := Option.isSome_iff_exists.mp (keyed_poolPass h e he)
      cases hc : configFor setup configs key with
      | some config => exact ⟨key, config, hkey, hc⟩
      | none =>
        have hheard := mem_heard he hkey
        rw [((hkeys key).1 hc).1] at hheard
        cases hheard
    · obtain ⟨hnone, hsome⟩ := hkeys key
      have hcontacted (config : RepoConfig) (hc : configFor setup configs key = some config) :=
        (hsome config hc).contacted (configFor_eq_some hc).2.1
      refine ⟨?_, hcontacted⟩
      cases hc : configFor setup configs key with
      | none =>
        rw [(hnone hc).2]
        simp
      | some config =>
        obtain ⟨token, merge, _, _, hq⟩ := hcontacted config hc
        rw [hq.kept_iff]
        simp

def demoAt (repository : String) : RepoConfig := { demo with git := { demo.git with repository } }

def World.shutting (w : World) (repository : String) : (q : Question) → q.Reply
  | .connect c =>
    if c.config.git.repository = repository then .error (.config (.noToken c.config.id)) else .ok ()
  | q => w.reply q

theorem table_update_demo :
    let before := (play demoSetup [(.poolSync, storeWorld [demoAt "octo/old"])]).2
    let w := storeWorld [{ demo with merge := none }, demoAt "octo/shut", demo, renamed]
    let out := (poolPass demoSetup before).record fun a : Addressed =>
      w.shutting "octo/shut" a.question
    before.keys = [(demoAt "octo/old").poolKey] ∧ out.2.1.keys = [demo.poolKey] ∧
    ∃ configs rest, out.1 = ⟨⟨none, .listConfigs⟩, .ok configs⟩ :: rest ∧
      ∀ key config, configFor demoSetup configs key = some config → ∃ token merge,
        Contacted demoSetup key ⟨config, token⟩ merge (before.find? key) (heard key rest)
          (out.2.1.find? key) := by
  intro before w out
  have hkeys : out.2.1.keys = [demo.poolKey] := by decide +kernel
  have hended : out.2.2.isOk = true := by decide +kernel
  have h : (poolPass demoSetup before).Course out.1 (out.2.1, out.2.2) := course_record _ _
  rcases table_update h with ⟨e, _, hr, _⟩ | ⟨configs, rest, hlog, _, _, hall⟩
  · rw [hr] at hended
    cases hended
  · refine ⟨by decide +kernel, hkeys, configs, rest, hlog, fun key config hc => ?_⟩
    obtain ⟨token, merge, _, _, hcontacted⟩ := (hall key).2 config hc
    exact ⟨token, merge, hcontacted⟩

end MergeQueue
