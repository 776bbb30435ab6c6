import MergeQueue.Web.GitHub
import MergeQueue.Web.GitLab

namespace MergeQueue.Web

inductive Provider where
  | github (client : GitHub)
  | gitlab (client : GitLab)

namespace Provider

def create (config : RepoConfig) (token : String) : Except MergeQueue.Error Provider :=
  let git := config.git
  match git.ownerAndRepo with
  | none => .error (.config (.invalidRepository config.id git.repository))
  | some (owner, repo) =>
    match git.kind with
    | .github => (GitHub.create token owner repo git.effectiveUrl).map .github
    | .gitlab => .ok (.gitlab ⟨token, git.repository, git.effectiveUrl⟩)

def call (provider : Provider) (call : HostCall) : Http (Except MergeQueue.Error call.Answer) :=
  match provider with
  | .github client => client.call call
  | .gitlab client => client.call call

end Provider

end MergeQueue.Web
