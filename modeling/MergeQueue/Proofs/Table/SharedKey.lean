import MergeQueue.Proofs.Config.Acceptance
import MergeQueue.Proofs.Table.Update

/-! The keys of queues. A key is the address of a host without its scheme, then a slash, then the
text of a repository. -/

namespace MergeQueue

open Engine Dialogue

def schemes : List String := ["https://", "http://", ""]

def SameAddress (url url' : String) : Prop :=
  ∃ scheme ∈ schemes, ∃ scheme' ∈ schemes, ∃ rest, url = scheme ++ rest ∧ url' = scheme' ++ rest

namespace GitConfig

variable {git git' : GitConfig}

def host (git : GitConfig) : String :=
  ((Text.after? "https://" git.effectiveUrl).orElse fun _ =>
    Text.after? "http://" git.effectiveUrl).getD git.effectiveUrl

lemma effectiveUrl_eq_append (git : GitConfig) :
    ∃ scheme ∈ schemes, git.effectiveUrl = scheme ++ git.host := by
  rw [host]
  cases hsecure : Text.after? "https://" git.effectiveUrl with
  | some rest =>
    exact ⟨"https://", by simp [schemes], Text.after?_eq_some_iff.mp hsecure⟩
  | none =>
    cases hplain : Text.after? "http://" git.effectiveUrl with
    | some rest => exact ⟨"http://", by simp [schemes], Text.after?_eq_some_iff.mp hplain⟩
    | none => exact ⟨"", by simp [schemes], by simp⟩

lemma effectiveUrl_getLast?_ne (git : GitConfig) :
    git.effectiveUrl.toList.getLast? ≠ some '/' := by
  rw [effectiveUrl]
  split
  · exact Text.getLast?_trimTrailing_ne '/' _
  · cases git.kind <;> decide

lemma path_ne_empty {base path : String} (h : git.host = base ++ "/" ++ path) : path ≠ "" := by
  -- an address does not end in a slash
  rintro rfl
  obtain ⟨scheme, -, hurl⟩ := git.effectiveUrl_eq_append
  apply git.effectiveUrl_getLast?_ne
  simp [hurl, h]

structure Same (git git' : GitConfig) : Prop where
  host : git.host = git'.host
  repository : git.repository = git'.repository

lemma Same.address (h : git.Same git') : SameAddress git.effectiveUrl git'.effectiveUrl := by
  obtain ⟨scheme, hscheme, hurl⟩ := git.effectiveUrl_eq_append
  obtain ⟨scheme', hscheme', hurl'⟩ := git'.effectiveUrl_eq_append
  exact ⟨scheme, hscheme, scheme', hscheme', git.host, hurl, h.host ▸ hurl'⟩

/-- The second host is at a path of the first, and in a group of that name the first host has a
repository whose text goes on as that of the second. -/
def Encloses (git git' : GitConfig) : Prop :=
  ∃ path, path ≠ "" ∧ git'.host = git.host ++ "/" ++ path ∧
    git.repository = path ++ "/" ++ git'.repository

lemma Encloses.slash (h : git.Encloses git') : '/' ∈ git'.host.toList := by
  obtain ⟨path, -, hhost, -⟩ := h
  simp [hhost]

lemma Encloses.count_lt (h : git.Encloses git') :
    git'.repository.toList.count '/' < git.repository.toList.count '/' := by
  obtain ⟨path, -, -, hpath⟩ := h
  have hslash : "/".toList.count '/' = 1 := rfl
  rw [hpath, String.toList_append, String.toList_append, List.count_append, List.count_append]
  omega

lemma Encloses.not_same (h : git.Encloses git') : ¬git.Same git' := by
  intro hsame
  have hcount := h.count_lt
  rw [hsame.repository] at hcount
  exact Nat.lt_irrefl _ hcount

lemma NamesOwner.count_pos (h : git.NamesOwner) : 0 < git.repository.toList.count '/' := by
  obtain ⟨owner, repo, hsplit⟩ := h
  exact List.count_pos_iff.mpr (by simp [hsplit.text])

lemma same_iff : git.Same git' ↔
    git.host.toList = git'.host.toList ∧ git.repository.toList = git'.repository.toList := by
  rw [String.toList_inj, String.toList_inj]
  exact ⟨fun h => ⟨h.host, h.repository⟩, fun h => ⟨h.1, h.2⟩⟩

lemma encloses_iff : git.Encloses git' ↔ ∃ path,
    git'.host.toList = git.host.toList ++ '/' :: path ∧
      git.repository.toList = path ++ '/' :: git'.repository.toList := by
  constructor
  · rintro ⟨path, -, hhost, hrepository⟩
    exact ⟨path.toList, by simp [hhost], by simp [hrepository]⟩
  · rintro ⟨path, hhost, hrepository⟩
    have hhost' : git'.host = git.host ++ "/" ++ String.ofList path := by
      simp [← String.toList_inj, hhost]
    refine ⟨String.ofList path, path_ne_empty hhost', hhost', ?_⟩
    simp [← String.toList_inj, hrepository]

end GitConfig

namespace RepoConfig

variable {config config' : RepoConfig}

lemma poolKey_eq (config : RepoConfig) :
    config.poolKey = config.git.host ++ "/" ++ config.git.repository := rfl

lemma poolKey_eq_iff : config.poolKey = config'.poolKey ↔
    config.git.Same config'.git ∨ config.git.Encloses config'.git ∨
      config'.git.Encloses config.git := by
  have hkeys : config.poolKey = config'.poolKey ↔
      config.git.host.toList ++ '/' :: config.git.repository.toList =
        config'.git.host.toList ++ '/' :: config'.git.repository.toList := by
    simp [poolKey_eq, ← String.toList_inj]
  rw [hkeys, Text.append_cons_eq_iff, GitConfig.same_iff, GitConfig.encloses_iff,
    GitConfig.encloses_iff]

lemma same_of_poolKey_eq (h : config.poolKey = config'.poolKey)
    (hcount : config.git.repository.toList.count '/' = config'.git.repository.toList.count '/') :
    config.git.Same config'.git := by
  rcases poolKey_eq_iff.mp h with hsame | henc | henc
  · exact hsame
  · exact absurd hcount henc.count_lt.ne'
  · exact absurd hcount henc.count_lt.ne

end RepoConfig

variable {setup : Setup}

lemma contacted_iff_first {table table' : Table} {configs : List RepoConfig}
    {rest : List Exchange} (h : (poolPass setup table).Course
      (⟨⟨none, .listConfigs⟩, .ok configs⟩ :: rest) (table', .ok ())) (config : RepoConfig) :
    (∃ e ∈ rest, e.1.question.config? = some config) ↔
      configFor setup configs config.poolKey = some config := by
  obtain ⟨_, _, hlog, hkeys⟩ := poolPass_ok h
  obtain ⟨hfirst, rfl⟩ := List.cons.inj hlog
  cases hfirst
  constructor
  · rintro ⟨e, he, hconfig⟩
    obtain ⟨key, hkey⟩ := Option.isSome_iff_exists.mp (keyed_poolPass h e he)
    have hheard := mem_heard he hkey
    cases hc : configFor setup configs key with
    | none =>
      rw [((hkeys key).1 hc).1] at hheard
      cases hheard
    | some first =>
      obtain rfl := Except.ok.inj (((hkeys key).2 first hc).by _ hheard config hconfig)
      rwa [(configFor_eq_some hc).2.2]
  · intro hc
    obtain ⟨token, _, -, -, hcontacted⟩ :=
      ((hkeys _).2 config hc).contacted (configFor_eq_some hc).2.1
    obtain ⟨reply, hconnect⟩ := hcontacted.connects
    obtain ⟨e, he, hsaid⟩ := mem_of_mem_heard hconnect
    refine ⟨e, he, ?_⟩
    have hasked : e.1.question = .connect ⟨config, token⟩ := congrArg Sigma.fst hsaid
    rw [hasked]
    rfl

structure ByFirst (setup : Setup) (configs : List RepoConfig) (rest : List Exchange) : Prop where
  contacted : ∀ config, (∃ e ∈ rest, e.1.question.config? = some config) ↔
    configFor setup configs config.poolKey = some config
  shared : ∀ config ∈ configs, config.automationEnabled setup.env = true →
    ∃ first, configFor setup configs config.poolKey = some first ∧
      (first.git.Same config.git ∨ first.git.Encloses config.git ∨
        config.git.Encloses first.git)

/-- Two configurations have one key exactly if they are of the same repository, or one encloses the
other, which none does if both repositories have as many slashes. Among accepted ones, an enclosed host
has a path, and the repository that encloses is in a group below the top of its host. -/
structure KeySharing (setup : Setup) (log : List Exchange) : Prop where
  shared : ∀ config config' : RepoConfig, config.poolKey = config'.poolKey ↔
    config.git.Same config'.git ∨ config.git.Encloses config'.git ∨
      config'.git.Encloses config.git
  address : ∀ git git' : GitConfig, git.Same git' →
    SameAddress git.effectiveUrl git'.effectiveUrl
  same : ∀ config config' : RepoConfig, config.poolKey = config'.poolKey →
    config.git.repository.toList.count '/' = config'.git.repository.toList.count '/' →
      config.git.Same config'.git
  enclosing : ∀ file : ConfigFile, file.Acceptable →
    ∀ config ∈ file.repositories, ∀ config' ∈ file.repositories,
      config.git.Encloses config'.git → ¬config.git.Same config'.git ∧
        '/' ∈ config'.git.host.toList ∧ 2 ≤ config.git.repository.toList.count '/'
  synced : ∃ configs rest, log = ⟨⟨none, .listConfigs⟩, .ok configs⟩ :: rest ∧
    ByFirst setup configs rest

theorem keys_shared_if_enclosed {table table' : Table} {log : List Exchange}
    (h : (poolPass setup table).Course log (table', .ok ())) : KeySharing setup log where
  shared _ _ := RepoConfig.poolKey_eq_iff
  address _ _ := GitConfig.Same.address
  same _ _ := RepoConfig.same_of_poolKey_eq
  enclosing file hfile config _ config' hconfig' henc := by
    have hcount := henc.count_lt
    have hpos := (hfile.entries.owned config' hconfig').count_pos
    exact ⟨henc.not_same, henc.slash, by omega⟩
  synced := by
    obtain ⟨configs, rest, rfl, -⟩ := poolPass_ok h
    refine ⟨configs, rest, rfl, contacted_iff_first h, fun config hmem he => ?_⟩
    obtain ⟨first, hfirst⟩ := configFor_of_mem hmem he
    exact ⟨first, hfirst, RepoConfig.poolKey_eq_iff.mp (configFor_eq_some hfirst).2.2⟩

def insideHost : RepoConfig :=
  { demo with
    name := "inside"
    git := ⟨.gitlab, some "https://git.example/team", "core/app", demo.git.token⟩ }

def outsideHost : RepoConfig :=
  { demo with
    name := "outside"
    git := ⟨.gitlab, some "https://git.example", "team/core/app", demo.git.token⟩ }

lemma outsideHost_encloses : outsideHost.git.Encloses insideHost.git :=
  ⟨"team", by decide, by decide +kernel, by decide +kernel⟩

def threeHosts : List RepoConfig := [demo, insideHost, outsideHost]

lemma World.configs_of_poolSync {w : World} {table : Table} {configs : List RepoConfig}
    {rest : List Exchange}
    (h : (w.poolSync setup table).1 = ⟨⟨none, .listConfigs⟩, .ok configs⟩ :: rest) :
    configs = w.configs := by
  have hmem : (⟨⟨none, .listConfigs⟩, .ok configs⟩ : Exchange) ∈ (w.poolSync setup table).1 :=
    h ▸ List.mem_cons_self
  exact Except.ok.inj (answer_of_mem_record hmem)

theorem keys_shared_if_enclosed_demo :
    let sync := (storeWorld threeHosts).poolSync demoSetup ∅
    sync.2.1.keys = [demo.poolKey, insideHost.poolKey] ∧
    (∀ config, (∃ e ∈ sync.1.tail, e.1.question.config? = some config) ↔
      configFor demoSetup threeHosts config.poolKey = some config) ∧
    ∃ first, configFor demoSetup threeHosts outsideHost.poolKey = some first ∧
      (first.git.Same outsideHost.git ∨ first.git.Encloses outsideHost.git ∨
        outsideHost.git.Encloses first.git) := by
  intro sync
  have hok : ((storeWorld threeHosts).poolSync demoSetup ∅).2.2 = .ok () := by decide +kernel
  obtain ⟨configs, rest, hlog, hfirst⟩ := (keys_shared_if_enclosed (poolSync_course hok)).synced
  obtain rfl := World.configs_of_poolSync hlog
  refine ⟨by decide +kernel, ?_, hfirst.shared outsideHost (by decide) (by decide +kernel)⟩
  rw [hlog]
  exact hfirst.contacted

theorem enclosing_repository_passed_over :
    ¬(∀ file : ConfigFile, file.Acceptable →
      ∀ config ∈ file.repositories, ∀ config' ∈ file.repositories,
        config.poolKey = config'.poolKey → config.git.repository = config'.git.repository ∧
          SameAddress config.git.effectiveUrl config'.git.effectiveUrl) ∧
    let sync := (storeWorld [insideHost, outsideHost]).poolSync demoSetup ∅
    sync.2.1.keys = [insideHost.poolKey] ∧
      ∀ e ∈ sync.1, e.1.question.config? ≠ some outsideHost := by
  refine ⟨fun h => ?_, by decide +kernel, by decide +kernel⟩
  have hfile : (⟨.default, none, [insideHost, outsideHost]⟩ : ConfigFile).Acceptable :=
    ConfigFile.fault?_eq_none_iff.mp (by decide +kernel)
  have hkeys : insideHost.poolKey = outsideHost.poolKey :=
    RepoConfig.poolKey_eq_iff.mpr (.inr (.inr outsideHost_encloses))
  obtain ⟨hrepository, -⟩ := h _ hfile insideHost (by simp) outsideHost (by simp) hkeys
  exact absurd hrepository (by decide)

end MergeQueue
