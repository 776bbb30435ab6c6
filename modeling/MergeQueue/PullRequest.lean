import MergeQueue.Sorted.Map
import MergeQueue.Text.Affix

namespace MergeQueue

structure User where
  id : UInt64
  name : String
  email : String
  deriving DecidableEq

structure GitRef where
  reference : String
  sha : String
  deriving DecidableEq

inductive PullState where
  | opened
  | closed
  deriving DecidableEq

structure PullRequest where
  id : UInt64
  title : String
  state : PullState
  author : User
  url : String
  base : GitRef
  head : GitRef
  labels : List String
  mergeable : Bool
  deriving DecidableEq

structure Branch where
  name : String
  commit : String
  deriving DecidableEq

inductive CommitState where
  | pending
  | success
  | failure
  | error
  deriving DecidableEq

structure CommitStatus where
  context : String
  state : CommitState
  description : String
  targetUrl : String
  deriving DecidableEq

inductive MergeMethod where
  | merge
  | squash
  deriving DecidableEq

inductive Thread where
  | issue
  | pullRequest
  deriving DecidableEq

def branchName (reference : String) : String :=
  (Text.after? "refs/heads/" reference).getD reference

def PullRequest.hasLabel (pr : PullRequest) (label : String) : Bool := pr.labels.contains label

def PullRequest.target (pr : PullRequest) : String := branchName pr.base.reference

namespace CommitStatus

/-- What a list of statuses has been found to hold: the first of each context, and the contexts in
the order they were met. -/
structure Met where
  seen : SortedMap String CommitStatus
  order : List String

def Met.add (met : Met) (status : CommitStatus) : Met :=
  if met.seen.contains status.context then met
  else ⟨met.seen.insert status.context status, met.order ++ [status.context]⟩

def takeOut : List String → SortedMap String CommitStatus → List CommitStatus
  | [], _ => []
  | context :: rest, seen =>
    match seen.find? context with
    | some status => status :: takeOut rest (seen.erase context)
    | none => takeOut rest seen

/-- One status of each context, the first of a list in which the newest come first. -/
def latest (statuses : List CommitStatus) : List CommitStatus :=
  let met := statuses.foldl Met.add ⟨∅, []⟩
  takeOut met.order met.seen

end CommitStatus

def CommitState.name : CommitState → String
  | .pending => "pending"
  | .success => "success"
  | .failure => "failure"
  | .error => "error"

def MergeMethod.name : MergeMethod → String
  | .merge => "merge"
  | .squash => "squash"

def PullState.name : PullState → String
  | .opened => "open"
  | .closed => "closed"

end MergeQueue
