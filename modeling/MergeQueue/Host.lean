import MergeQueue.Config.Basic

namespace MergeQueue

inductive HostCall where
  | listPullRequests (openOnly : Bool)
  | getPullRequest (id : UInt64)
  | getBranch (name : String)
  | listCommitStatuses (reference : String)
  | setCommitStatus (sha : String) (status : CommitStatus)
  | mergePullRequest (id : UInt64) (sha : String) (method : MergeMethod) (message : String)
  | mayWrite (user : User)
  | comment (thread : Thread) (id : UInt64) (body : String)
  | addLabel (thread : Thread) (id : UInt64) (label : String)
  | removeLabel (thread : Thread) (id : UInt64) (label : String)
  deriving DecidableEq

@[reducible] def HostCall.Answer : HostCall → Type
  | .listPullRequests _ => List PullRequest
  | .getPullRequest _ => PullRequest
  | .getBranch _ => Branch
  | .listCommitStatuses _ => List CommitStatus
  | .setCommitStatus _ _ => Unit
  | .mergePullRequest _ _ _ _ => Unit
  | .mayWrite _ => Bool
  | .comment _ _ _ => Unit
  | .addLabel _ _ _ => Unit
  | .removeLabel _ _ _ => Unit

structure Connection where
  config : RepoConfig
  token : String
  deriving DecidableEq

end MergeQueue
