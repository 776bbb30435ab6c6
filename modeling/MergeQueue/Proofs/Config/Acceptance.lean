import Mathlib.Data.List.Nodup
import MergeQueue.Proofs.Affix
import MergeQueue.Service

namespace MergeQueue

structure GitConfig.Splits (git : GitConfig) (owner repo : String) : Prop where
  text : git.repository = owner ++ "/" ++ repo
  last : '/' ∉ repo.toList
  owner_ne : owner ≠ ""
  repo_ne : repo ≠ ""

def GitConfig.NamesOwner (git : GitConfig) : Prop := ∃ owner repo, git.Splits owner repo

lemma GitConfig.ownerAndRepo_eq_some_iff {git : GitConfig} {owner repo : String} :
    git.ownerAndRepo = some (owner, repo) ↔ git.Splits owner repo := by
  rw [ownerAndRepo]
  constructor
  · intro h
    split at h
    · next front back hcut =>
      obtain ⟨htext, hnot⟩ := Text.splitLast_eq_some_iff.mp hcut
      split at h
      · cases h
      · next hne =>
        simp only [Bool.or_eq_true, List.isEmpty_iff, not_or] at hne
        cases h
        refine ⟨?_, by simpa using hnot, by simpa using hne.1, by simpa using hne.2⟩
        simp [← String.toList_inj, htext]
    · cases h
  · rintro ⟨htext, hlast, howner, hrepo⟩
    have hcut : Text.splitLast '/' git.repository.toList = some (owner.toList, repo.toList) := by
      apply Text.splitLast_eq_some_iff.mpr
      exact ⟨by simp [htext], hlast⟩
    simp [hcut, howner, hrepo]

lemma GitConfig.isNone_ownerAndRepo_iff (git : GitConfig) :
    git.ownerAndRepo.isNone = true ↔ ¬git.NamesOwner := by
  rw [Option.isNone_iff_eq_none, Option.eq_none_iff_forall_ne_some]
  simp only [NamesOwner, not_exists, Prod.forall, ne_eq, ownerAndRepo_eq_some_iff]

structure Distinguished (configs : List RepoConfig) : Prop where
  owned : ∀ config ∈ configs, config.git.NamesOwner
  distinct : (configs.map (·.id)).Nodup

lemma Distinguished.unique {configs : List RepoConfig} (h : Distinguished configs)
    {config config' : RepoConfig} (hc : config ∈ configs) (hc' : config' ∈ configs)
    (hid : config.id = config'.id) : config = config' :=
  List.inj_on_of_nodup_map h.distinct hc hc' hid

inductive Faulty (earlier : List ConfigName) (config : RepoConfig) : ConfigFault → Prop
  | malformed : ¬config.git.NamesOwner →
      Faulty earlier config (.malformedRepository config.id config.git.repository)
  | duplicate : config.git.NamesOwner → config.id ∈ earlier → Faulty earlier config (.duplicate config.id)

namespace ConfigFile

structure Acceptable (file : ConfigFile) : Prop where
  batches : 1 ≤ file.settings.maxBatchSize
  entries : Distinguished file.repositories

inductive Offence (file : ConfigFile) : ConfigFault → Prop
  | emptyBatches : file.settings.maxBatchSize = 0 → Offence file .emptyBatches
  | entry {before config after fault} : file.settings.maxBatchSize ≠ 0 →
      file.repositories = before ++ config :: after → Distinguished before →
      Faulty (before.map (·.id)) config fault → Offence file fault

variable {seen : List ConfigName} {config : RepoConfig} {configs : List RepoConfig}
  {fault : ConfigFault}

lemma firstFault?_faulty (h : Faulty seen config fault) (rest : List RepoConfig) :
    firstFault? seen (config :: rest) = some fault := by
  rw [firstFault?]
  cases h with
  | malformed hnot => rw [if_pos ((GitConfig.isNone_ownerAndRepo_iff _).mpr hnot)]
  | duplicate howned hmem =>
    rw [if_neg fun hnone => (GitConfig.isNone_ownerAndRepo_iff _).mp hnone howned,
      if_pos (List.contains_iff_mem.mpr hmem)]

lemma firstFault?_sound (howned : config.git.NamesOwner) (hnew : config.id ∉ seen)
    (rest : List RepoConfig) :
    firstFault? seen (config :: rest) = firstFault? (config.id :: seen) rest := by
  rw [firstFault?, if_neg fun hnone => (GitConfig.isNone_ownerAndRepo_iff _).mp hnone howned,
    if_neg fun hmem => hnew (List.contains_iff_mem.mp hmem)]

lemma faulty_or_sound (seen : List ConfigName) (config : RepoConfig) :
    (∃ fault, Faulty seen config fault) ∨ config.git.NamesOwner ∧ config.id ∉ seen := by
  by_cases howned : config.git.NamesOwner
  · by_cases hmem : config.id ∈ seen
    · exact .inl ⟨_, .duplicate howned hmem⟩
    · exact .inr ⟨howned, hmem⟩
  · exact .inl ⟨_, .malformed howned⟩

lemma faulty_congr {seen' : List ConfigName} (h : Faulty seen config fault)
    (hseen : ∀ name, name ∈ seen ↔ name ∈ seen') : Faulty seen' config fault := by
  cases h with
  | malformed hnot => exact .malformed hnot
  | duplicate howned hmem => exact .duplicate howned ((hseen _).mp hmem)

lemma firstFault?_append (h : Distinguished configs) (hnew : ∀ c ∈ configs, c.id ∉ seen)
    (rest : List RepoConfig) :
    firstFault? seen (configs ++ rest) = firstFault? ((configs.map (·.id)).reverse ++ seen) rest := by
  induction configs generalizing seen with
  | nil => rfl
  | cons first others ih =>
    obtain ⟨howned, hothers⟩ := List.forall_mem_cons.mp h.owned
    obtain ⟨hfirst, hdistinct⟩ := List.nodup_cons.mp h.distinct
    obtain ⟨hn, hnew⟩ := List.forall_mem_cons.mp hnew
    rw [List.cons_append, firstFault?_sound howned hn, ih ⟨hothers, hdistinct⟩ ?_]
    · simp
    · intro c hc hmem
      rcases List.mem_cons.mp hmem with hid | hmem
      · exact hfirst (List.mem_map.mpr ⟨c, hc, hid⟩)
      · exact hnew c hc hmem

lemma distinguished_or_faulty (configs : List RepoConfig) :
    Distinguished configs ∨ ∃ before config after fault, configs = before ++ config :: after ∧
      Distinguished before ∧ Faulty (before.map (·.id)) config fault := by
  -- from the end: what is wrong with the last entry only counts where nothing is wrong before it
  induction configs using List.reverseRecOn with
  | nil => exact .inl ⟨by simp, by simp⟩
  | append_singleton front last ih =>
    rcases ih with h | ⟨before, config, after, fault, rfl, hbefore, hfault⟩
    · rcases faulty_or_sound (front.map (·.id)) last with ⟨fault, hfault⟩ | ⟨howned, hnew⟩
      · exact .inr ⟨front, last, [], fault, rfl, h, hfault⟩
      · refine .inl ⟨List.forall_mem_append.mpr ⟨h.owned, List.forall_mem_singleton.mpr howned⟩, ?_⟩
        rw [List.map_append, List.nodup_append_comm]
        exact List.nodup_cons.mpr ⟨hnew, h.distinct⟩
    · exact .inr ⟨before, config, after ++ [last], fault, by simp, hbefore, hfault⟩

lemma firstFault?_of_faulty {before after : List RepoConfig} (h : Distinguished before)
    (hfault : Faulty (before.map (·.id)) config fault) :
    firstFault? [] (before ++ config :: after) = some fault := by
  rw [firstFault?_append h (by simp)]
  exact firstFault?_faulty (faulty_congr hfault (by simp)) after

variable {file : ConfigFile}

lemma fault?_of_acceptable (h : file.Acceptable) : file.fault? = none := by
  have hpositive : file.settings.maxBatchSize ≠ 0 := by
    intro hzero
    have hbatches := h.batches
    rw [hzero] at hbatches
    exact absurd hbatches (by decide)
  have hentries : firstFault? [] (file.repositories ++ []) = none :=
    firstFault?_append h.entries (by simp) []
  rw [fault?, if_neg hpositive, ← hentries, List.append_nil]

lemma fault?_of_offence (h : file.Offence fault) : file.fault? = some fault := by
  rw [fault?]
  cases h with
  | emptyBatches hzero => exact if_pos hzero
  | entry hpositive hfile hbefore hfault =>
    rw [if_neg hpositive, hfile, firstFault?_of_faulty hbefore hfault]

lemma acceptable_or_offence (file : ConfigFile) :
    file.Acceptable ∨ ∃ fault, file.Offence fault := by
  by_cases hzero : file.settings.maxBatchSize = 0
  · exact .inr ⟨_, .emptyBatches hzero⟩
  · rcases distinguished_or_faulty file.repositories with h | ⟨_, _, _, fault, hfile, hbefore, hfault⟩
    · refine .inl ⟨?_, h⟩
      rw [UInt64.le_iff_toNat_le]
      have hne : file.settings.maxBatchSize.toNat ≠ 0 := fun hn => hzero (UInt64.toNat_inj.mp hn)
      exact Nat.one_le_iff_ne_zero.mpr hne
    · exact .inr ⟨fault, .entry hzero hfile hbefore hfault⟩

lemma fault?_eq_none_iff : file.fault? = none ↔ file.Acceptable := by
  refine ⟨fun hnone => ?_, fault?_of_acceptable⟩
  rcases acceptable_or_offence file with h | ⟨fault, h⟩
  · exact h
  · rw [fault?_of_offence h] at hnone
    cases hnone

lemma fault?_eq_some_iff : file.fault? = some fault ↔ file.Offence fault := by
  refine ⟨fun hsome => ?_, fault?_of_offence⟩
  rcases acceptable_or_offence file with h | ⟨fault', h⟩
  · rw [fault?_of_acceptable h] at hsome
    cases hsome
  · rw [fault?_of_offence h] at hsome
    cases hsome
    exact h

variable {path content : String}

lemma load_eq_ok_iff (h : ofToml? content = some file) :
    load path (.ok content) = .ok file ↔ file.Acceptable := by
  rw [load, h, ← fault?_eq_none_iff]
  cases hfault : file.fault? <;> simp [hfault]

lemma load_eq_error_iff (h : ofToml? content = some file) (e : Error) :
    load path (.ok content) = .error e ↔ ∃ fault, e = .config fault ∧ file.Offence fault := by
  rw [load, h]
  simp only [← fault?_eq_some_iff]
  cases file.fault? <;> simp [eq_comm]

lemma lookup_eq_ok_iff (h : Distinguished file.repositories) (name : ConfigName)
    (config : RepoConfig) :
    file.lookup name = .ok config ↔ config ∈ file.repositories ∧ config.id = name := by
  rw [lookup]
  split
  · next found hfound =>
    have hid : found.id = name := by simpa using List.find?_some hfound
    have hmem := List.mem_of_find?_eq_some hfound
    constructor
    · rintro ⟨⟩
      exact ⟨hmem, hid⟩
    · rintro ⟨hc, hname⟩
      rw [h.unique hmem hc (hid.trans hname.symm)]
  · next hnone =>
    simp only [List.find?_eq_none, decide_eq_true_eq] at hnone
    simpa using fun hc => hnone config hc

lemma lookup_eq_error_iff (file : ConfigFile) (name : ConfigName) (e : Error) :
    file.lookup name = .error e ↔
      e = .configNotFound name ∧ ∀ config ∈ file.repositories, config.id ≠ name := by
  rw [lookup]
  split
  · next found hfound =>
    have hid : found.id = name := by simpa using List.find?_some hfound
    simpa using fun _ => ⟨found, List.mem_of_find?_eq_some hfound, hid⟩
  · next hnone =>
    simp only [List.find?_eq_none, decide_eq_true_eq] at hnone
    constructor
    · rintro ⟨⟩
      exact ⟨rfl, hnone⟩
    · rintro ⟨rfl, -⟩
      rfl

end ConfigFile

namespace Web.Provider

lemma create_invalid_iff (config : RepoConfig) (token : String) :
    (∃ name repository, create config token = .error (.config (.invalidRepository name repository)))
      ↔ ¬config.git.NamesOwner := by
  rw [← GitConfig.isNone_ownerAndRepo_iff]
  cases h : config.git.ownerAndRepo with
  | none => simp [create, h]
  | some split =>
    obtain ⟨owner, repo⟩ := split
    cases hkind : config.git.kind with
    | gitlab => simp [create, h, hkind]
    | github =>
      simp only [create, h, hkind, GitHub.create]
      split
      · simp [Except.map]
      · split <;> simp [Except.map]

lemma create_ne_invalid {config : RepoConfig} (h : config.git.NamesOwner) (token : String)
    (name : ConfigName) (repository : String) :
    create config token ≠ .error (.config (.invalidRepository name repository)) := fun herror =>
  (create_invalid_iff config token).mp ⟨name, repository, herror⟩ h

end Web.Provider

lemma Service.answer_getConfig {m : Type → Type} [Monad m] [LawfulMonad m] {out : Surroundings m}
    {service : Service} {content : String} {file : ConfigFile}
    (hcontent : out.fileContent service.path = pure (.ok content))
    (hload : ConfigFile.load service.path (.ok content) = .ok file) (name : ConfigName) :
    service.answer out (.getConfig name) = pure (file.lookup name) := by
  simp [answer, loadFile, hcontent, hload]

namespace ConfigFile

/-- What is accepted, for which fault the rest is refused, and what holds of an accepted file: an
entry is found by its name, has an owner and a repository, and is not refused for them later. -/
theorem configuration_acceptance {content : String} {file : ConfigFile}
    (h : ofToml? content = some file) (path : String) :
    (load path (.ok content) = .ok file ↔ file.Acceptable) ∧
    (∀ e, load path (.ok content) = .error e ↔
      ∃ fault, e = .config fault ∧ file.Offence fault) ∧
    (file.Acceptable →
      (∀ {m : Type → Type} [Monad m] [LawfulMonad m] (out : Surroundings m) (jobs : Web.JobStore)
        (name : ConfigName), out.fileContent path = pure (.ok content) →
          Service.answer out ⟨path, jobs⟩ (.getConfig name) = pure (file.lookup name)) ∧
      (∀ name config, file.lookup name = .ok config ↔
        config ∈ file.repositories ∧ config.id = name) ∧
      (∀ name e, file.lookup name = .error e ↔
        e = .configNotFound name ∧ ∀ config ∈ file.repositories, config.id ≠ name) ∧
      ∀ config ∈ file.repositories,
        (∃ owner repo, config.git.ownerAndRepo = some (owner, repo) ∧
          owner ++ "/" ++ repo = config.git.repository ∧ '/' ∉ repo.toList) ∧
        ∀ token name repository,
          Web.Provider.create config token ≠ .error (.config (.invalidRepository name repository)))
    := by
  refine ⟨load_eq_ok_iff h, load_eq_error_iff h, fun hfile => ⟨?_, ?_, ?_, ?_⟩⟩
  · intro m _ _ out jobs name hcontent
    exact Service.answer_getConfig hcontent ((load_eq_ok_iff h).mpr hfile) name
  · exact lookup_eq_ok_iff hfile.entries
  · exact lookup_eq_error_iff file
  · intro config hconfig
    have howned := hfile.entries.owned config hconfig
    obtain ⟨owner, repo, hsplit⟩ := howned
    refine ⟨⟨owner, repo, ?_, hsplit.text.symm, hsplit.last⟩, ?_⟩
    · exact GitConfig.ownerAndRepo_eq_some_iff.mpr hsplit
    · exact Web.Provider.create_ne_invalid ⟨owner, repo, hsplit⟩

def twoRepositories : String :=
  "[[repositories]]\nnamespace = \"ci\"\nname = \"app\"\n" ++
  "git.type = \"github\"\ngit.repository = \"tools/app\"\n" ++
  "[[repositories]]\nnamespace = \"ci\"\nname = \"nested\"\n" ++
  "git.type = \"gitlab\"\ngit.repository = \"tools/web/app\"\n"

def ofContent (content : String) : Surroundings Id where
  fileContent _ := .ok content
  exchange _ := none
  drawSuffix := ""
  note _ := ()

theorem twoRepositories_accepted : ∃ file, ofToml? twoRepositories = some file ∧
    load "queue.toml" (.ok twoRepositories) = .ok file ∧
    (∀ e, load "queue.toml" (.ok twoRepositories) ≠ .error e) ∧
    ∃ config ∈ file.repositories,
      Service.answer (ofContent twoRepositories) ⟨"queue.toml", ⟨""⟩⟩ (.getConfig ⟨"ci", "nested"⟩) =
        .ok config ∧
      config.git.ownerAndRepo = some ("tools/web", "app") ∧
      config.git.repository = "tools/web" ++ "/" ++ "app" := by
  have hsome : (ofToml? twoRepositories).any (fun file => file.fault? = none ∧
      ∃ config ∈ file.repositories, config.id = ⟨"ci", "nested"⟩ ∧
        config.git.ownerAndRepo = some ("tools/web", "app")) = true := by decide +kernel
  obtain ⟨file, hfile, hgood⟩ := (Option.any_eq_true _ _).mp hsome
  obtain ⟨hnone, config, hconfig, hid, hsplit⟩ := of_decide_eq_true hgood
  obtain ⟨haccepted, -, hconsequences⟩ := configuration_acceptance hfile "queue.toml"
  have hfile' : file.Acceptable := fault?_eq_none_iff.mp hnone
  obtain ⟨hstore, hlookup, -, hsplits⟩ := hconsequences hfile'
  refine ⟨file, hfile, haccepted.mpr hfile', ?_, config, hconfig, ?_, hsplit, ?_⟩
  · intro e herror
    rw [haccepted.mpr hfile'] at herror
    cases herror
  · rw [hstore (ofContent twoRepositories) ⟨""⟩ _ rfl, (hlookup _ _).mpr ⟨hconfig, hid⟩]
    rfl
  · obtain ⟨⟨owner, repo, hsplit', htext, -⟩, -⟩ := hsplits config hconfig
    rw [hsplit] at hsplit'
    cases hsplit'
    exact htext.symm

end ConfigFile

end MergeQueue
