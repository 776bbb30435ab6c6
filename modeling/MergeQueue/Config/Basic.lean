import MergeQueue.PullRequest

namespace MergeQueue

inductive HostKind where
  | github
  | gitlab
  deriving DecidableEq

structure Token where
  value : Option String
  variableName : Option String
  deriving DecidableEq

structure GitConfig where
  kind : HostKind
  apiUrl : Option String
  repository : String
  token : Option Token
  deriving DecidableEq

structure MergeQuery where
  labels : List String
  blockLabels : List String
  authors : List String
  skipAuthors : List String
  branches : List String
  skipBranches : List String
  checks : List String
  optionalChecks : List String
  approveRequired : Bool
  deriving DecidableEq

structure MergeConfig where
  method : Option MergeMethod
  commitTemplate : Option String
  query : MergeQuery
  deriving DecidableEq

structure JobWhen where
  branch : List String
  skipBranch : List String
  tag : List String
  skipTag : List String
  deriving DecidableEq

structure JobSpec where
  name : String
  applies : Option JobWhen
  deriving DecidableEq

structure JobsConfig where
  preSubmit : List JobSpec
  deriving DecidableEq

structure ConfigName where
  ns : String
  name : String
  deriving DecidableEq

structure RepoConfig where
  ns : String
  name : String
  git : GitConfig
  merge : Option MergeConfig
  jobs : JobsConfig
  deriving DecidableEq

structure Settings where
  syncPeriodSecs : UInt64
  jitterSecs : UInt64
  blockLabel : String
  squashLabel : String
  mergeLabel : String
  maxBatchSize : UInt64
  mergeDelayMs : UInt64
  statusAddr : String
  statusContext : String
  statusTargetUrl : String
  botName : String
  botEmail : String
  deriving DecidableEq

structure JobStoreSettings where
  url : String
  deriving DecidableEq

structure ConfigFile where
  settings : Settings
  jobStore : Option JobStoreSettings
  repositories : List RepoConfig
  deriving DecidableEq

abbrev Environment := String → Option String

def MergeQuery.default : MergeQuery := ⟨[], [], [], [], [], [], [], [], false⟩

def MergeConfig.default : MergeConfig := ⟨none, none, .default⟩

def JobWhen.default : JobWhen := ⟨[], [], [], []⟩

def JobsConfig.default : JobsConfig := ⟨[]⟩

def Settings.default : Settings where
  syncPeriodSecs := 60
  jitterSecs := 5
  blockLabel := "ci/hold"
  squashLabel := "ci/merge-squash"
  mergeLabel := "ci/merge-merge"
  maxBatchSize := 1
  mergeDelayMs := 5000
  statusAddr := "0.0.0.0:8808"
  statusContext := "blocker"
  statusTargetUrl := ""
  botName := "blocker"
  botEmail := ""

def ConfigFile.default : ConfigFile := ⟨.default, none, []⟩

def nonempty? (text : String) : Option String := if text.isEmpty then none else some text

/-- An empty value counts as none, in the configuration and in the environment. -/
def Token.resolve (env : Environment) (token : Token) : Option String :=
  match token.value.bind nonempty? with
  | some value => some value
  | none => (token.variableName.bind env).bind nonempty?

def HostKind.defaultUrl : HostKind → String
  | .github => "https://api.github.com"
  | .gitlab => "https://gitlab.com"

def GitConfig.effectiveUrl (git : GitConfig) : String :=
  match git.apiUrl.bind nonempty? with
  | some url => Text.trimTrailing '/' url
  | none => git.kind.defaultUrl

/-- Owner and repository; the owner may itself hold slashes, the repository none. -/
def GitConfig.ownerAndRepo (git : GitConfig) : Option (String × String) :=
  match Text.splitLast '/' git.repository.toList with
  | some (owner, repo) =>
    if owner.isEmpty || repo.isEmpty then none else some (String.ofList owner, String.ofList repo)
  | none => none

def GitConfig.resolveToken (env : Environment) (git : GitConfig) : Option String :=
  git.token.bind (Token.resolve env)

def RepoConfig.id (config : RepoConfig) : ConfigName := ⟨config.ns, config.name⟩

def ConfigName.text (name : ConfigName) : String := name.ns ++ "/" ++ name.name

def RepoConfig.automationEnabled (env : Environment) (config : RepoConfig) : Bool :=
  config.merge.isSome && (config.git.resolveToken env).isSome

def RepoConfig.poolKey (config : RepoConfig) : String :=
  let url := config.git.effectiveUrl
  let host := ((Text.after? "https://" url).orElse fun _ => Text.after? "http://" url).getD url
  host ++ "/" ++ config.git.repository

def Settings.syncPeriodMs (s : Settings) : Nat := s.syncPeriodSecs.toNat * 1000

def Settings.jitterMs (s : Settings) : Nat := s.jitterSecs.toNat * 1000

end MergeQueue
