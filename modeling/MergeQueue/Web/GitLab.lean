import MergeQueue.Error
import MergeQueue.Host
import MergeQueue.PullRequest.Json
import MergeQueue.Web.Http

namespace MergeQueue.Web

open Json

structure GitLab where
  token : String
  project : String
  apiUrl : String

namespace GitLab

abbrev Attempt := ExceptT MergeQueue.Error Http

structure Author where
  id : UInt64
  username : String

instance : FromJson Author where
  fromJson? := record do
    return { id := ← required "id", username := ← required "username" }

structure DiffRefs where
  baseSha : Option String

instance : FromJson DiffRefs where
  fromJson? := record do
    return { baseSha := ← optional "base_sha" none }

structure MergeRequest where
  iid : UInt64
  title : String
  state : String
  author : Author
  webUrl : String
  sourceBranch : String
  targetBranch : String
  sha : Option String
  diffRefs : Option DiffRefs
  labels : List String
  mergeStatus : String

instance : FromJson MergeRequest where
  fromJson? := record do
    return {
      iid := ← required "iid"
      title := ← required "title"
      state := ← required "state"
      author := ← required "author"
      webUrl := ← required "web_url"
      sourceBranch := ← required "source_branch"
      targetBranch := ← required "target_branch"
      sha := ← optional "sha" none
      diffRefs := ← optional "diff_refs" none
      labels := ← optional "labels" []
      mergeStatus := ← optional "merge_status" "" }

def MergeRequest.toPullRequest (mr : MergeRequest) : PullRequest where
  id := mr.iid
  title := mr.title
  state := if mr.state = "opened" then .opened else .closed
  author := ⟨mr.author.id, mr.author.username, ""⟩
  url := mr.webUrl
  base := ⟨mr.targetBranch, (mr.diffRefs.bind (·.baseSha)).getD ""⟩
  head := ⟨mr.sourceBranch, mr.sha.getD ""⟩
  labels := mr.labels
  mergeable := mr.mergeStatus = "can_be_merged"

structure Commit where
  id : String

instance : FromJson Commit where
  fromJson? := record do
    return { id := ← required "id" }

structure BranchReply where
  name : String
  commit : Commit

instance : FromJson BranchReply where
  fromJson? := record do
    return { name := ← required "name", commit := ← required "commit" }

structure PipelineStatus where
  name : String
  status : String
  description : Option String
  targetUrl : Option String

instance : FromJson PipelineStatus where
  fromJson? := record do
    return {
      name := ← required "name"
      status := ← required "status"
      description := ← optional "description" none
      targetUrl := ← optional "target_url" none }

def stateOf (status : String) : CommitState :=
  match status with
  | "success" => .success
  | "failed" | "canceled" => .failure
  | _ => .pending

def stateName : CommitState → String
  | .pending => "pending"
  | .success => "success"
  | .failure | .error => "failed"

def PipelineStatus.toCommitStatus (s : PipelineStatus) : CommitStatus where
  context := s.name
  state := stateOf s.status
  description := s.description.getD ""
  targetUrl := s.targetUrl.getD ""

structure Member where
  accessLevel : UInt32

instance : FromJson Member where
  fromJson? := record do
    return { accessLevel := ← required "access_level" }

def developerAccess : UInt32 := 30

def pageSize : Nat := 100

def pageLimit : Nat := 2147483647

def address (gitlab : GitLab) (path : String) : String :=
  gitlab.apiUrl ++ "/api/v4/projects/" ++ Percent.encode gitlab.project ++ path

def request (gitlab : GitLab) (method : Method) (path : String)
    (query : List (String × String)) (body : Option Json) : Attempt Received := do
  let draft : Draft :=
    ⟨method, gitlab.address path, query, [("private-token", gitlab.token)], body⟩
  match ← send draft with
  | .ok received => return received
  | .error fault => throw (.host (.request fault))

def accepted (fault : Fault → ServiceFault) (r : Received) : Attempt Received :=
  match r.accepted with
  | .ok r => return r
  | .error f => throw (.gitlab (fault f))

def decoded {α : Type} [FromJson α] (r : Received) : Attempt α :=
  match (r.decoded : Except Fault α) with
  | .ok a => return a
  | .error fault => throw (.host (.request fault))

def fetch {α : Type} [FromJson α] (gitlab : GitLab) (path : String)
    (query : List (String × String)) : Attempt α := do
  let received ← gitlab.request .get path query none
  let received ← accepted .request received
  decoded received

def submit (gitlab : GitLab) (method : Method) (path : String)
    (fields : List (String × Json)) (fault : Fault → ServiceFault) : Attempt Unit := do
  let received ← gitlab.request method path [] (some (.object fields))
  let _ ← accepted fault received

def mergeRequestPages (gitlab : GitLab) (state : String) : Nat → Nat → Attempt (List MergeRequest)
  | 0, _ => throw (.host (.request .undecoded))
  | limit + 1, page => do
    let query := [("state", state), ("per_page", Nat.repr pageSize), ("page", Nat.repr page)]
    let listed : List MergeRequest ← gitlab.fetch "/merge_requests" query
    if listed.length < pageSize then return listed
    else return listed ++ (← mergeRequestPages gitlab state limit (page + 1))

def listPullRequests (gitlab : GitLab) (openOnly : Bool) : Attempt (List PullRequest) := do
  let state := if openOnly then "opened" else "all"
  return (← gitlab.mergeRequestPages state pageLimit 1).map (·.toPullRequest)

def requestPath (id : UInt64) : String := "/merge_requests/" ++ Nat.repr id.toNat

def getPullRequest (gitlab : GitLab) (id : UInt64) : Attempt PullRequest := do
  let mr : MergeRequest ← gitlab.fetch (requestPath id) []
  return mr.toPullRequest

def getBranch (gitlab : GitLab) (name : String) : Attempt Branch := do
  let branch : BranchReply ← gitlab.fetch ("/repository/branches/" ++ Percent.encode name) []
  return ⟨branch.name, branch.commit.id⟩

def listCommitStatuses (gitlab : GitLab) (reference : String) : Attempt (List CommitStatus) := do
  let statuses : List PipelineStatus ←
    gitlab.fetch ("/repository/commits/" ++ reference ++ "/statuses")
      [("per_page", Nat.repr pageSize)]
  return CommitStatus.latest (statuses.map (·.toCommitStatus))

def setCommitStatus (gitlab : GitLab) (sha : String) (status : CommitStatus) : Attempt Unit :=
  let target := if status.targetUrl.isEmpty then [] else [("target_url", toJson status.targetUrl)]
  gitlab.submit .post ("/statuses/" ++ sha)
    ([("description", toJson status.description), ("name", toJson status.context),
      ("state", .string (stateName status.state))] ++ target)
    (.attempt "failed to set commit status")

def mergePullRequest (gitlab : GitLab) (id : UInt64) (sha : String) (method : MergeMethod)
    (message : String) : Attempt Unit :=
  let messageField := match method with
    | .squash => "squash_commit_message"
    | .merge => "merge_commit_message"
  gitlab.submit .put (requestPath id ++ "/merge")
    ([("sha", toJson sha), ("squash", toJson (decide (method = .squash)))] ++
      if message.isEmpty then [] else [(messageField, toJson message)])
    (.attempt "Merge failed")

def mayWrite (gitlab : GitLab) (user : User) : Attempt Bool := do
  let received ← gitlab.request .get ("/members/all/" ++ Nat.repr user.id.toNat) [] none
  if received.reply.status = 404 then return false
  let received ← accepted .request received
  let member : Member ← decoded received
  return member.accessLevel ≥ developerAccess

def threadPath (thread : Thread) (id : UInt64) : String :=
  let kind := match thread with
    | .issue => "issues"
    | .pullRequest => "merge_requests"
  "/" ++ kind ++ "/" ++ Nat.repr id.toNat

def call (gitlab : GitLab) : (call : HostCall) → Attempt call.Answer
  | .listPullRequests openOnly => gitlab.listPullRequests openOnly
  | .getPullRequest id => gitlab.getPullRequest id
  | .getBranch name => gitlab.getBranch name
  | .listCommitStatuses reference => gitlab.listCommitStatuses reference
  | .setCommitStatus sha status => gitlab.setCommitStatus sha status
  | .mergePullRequest id sha method message => gitlab.mergePullRequest id sha method message
  | .mayWrite user => gitlab.mayWrite user
  | .comment thread id body =>
    gitlab.submit .post (threadPath thread id ++ "/notes") [("body", toJson body)] .request
  | .addLabel thread id label =>
    gitlab.submit .put (threadPath thread id) [("add_labels", toJson label)] .request
  | .removeLabel thread id label =>
    gitlab.submit .put (threadPath thread id) [("remove_labels", toJson label)] .request

end GitLab

end MergeQueue.Web
