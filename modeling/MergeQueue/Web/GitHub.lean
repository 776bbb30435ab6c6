import MergeQueue.Error
import MergeQueue.Host
import MergeQueue.PullRequest.Json
import MergeQueue.Web.ApiAddress
import MergeQueue.Web.Http

/-! Pull requests, comments and labels go through an API client, which has few words for what goes
wrong; branches, statuses and permissions are asked for by plain requests. -/

namespace MergeQueue.Web

open Json

structure GitHub where
  token : String
  owner : String
  repo : String
  apiUrl : String

namespace GitHub

abbrev Attempt := ExceptT MergeQueue.Error Http

def create (token owner repo apiUrl : String) : Except MergeQueue.Error GitHub :=
  let apiUrl := Text.trimTrailing '/' apiUrl
  if !ApiAddress.isAddress apiUrl then .error (.github (.request .badAddress))
  else if !isHeaderText token then .error (.github (.request .unsendableToken))
  else .ok ⟨token, owner, repo, apiUrl⟩

/-! Plain requests. -/

structure Commit where
  sha : String

instance : FromJson Commit where
  fromJson? := record do
    return { sha := ← required "sha" }

structure BranchReply where
  name : String
  commit : Commit

instance : FromJson BranchReply where
  fromJson? := record do
    return { name := ← required "name", commit := ← required "commit" }

structure Report where
  state : CommitState
  context : String
  description : Option String
  targetUrl : Option String

instance : FromJson Report where
  fromJson? := record do
    return {
      state := ← required "state"
      context := ← required "context"
      description := ← optional "description" none
      targetUrl := ← optional "target_url" none }

def Report.toCommitStatus (r : Report) : CommitStatus where
  context := r.context
  state := r.state
  description := r.description.getD ""
  targetUrl := r.targetUrl.getD ""

structure StatusPage where
  totalCount : UInt64
  statuses : List Report

instance : FromJson StatusPage where
  fromJson? := record do
    return {
      totalCount := ← optional "total_count" 0
      statuses := ← optional "statuses" [] }

structure Permission where
  permission : String

instance : FromJson Permission where
  fromJson? := record do
    return { permission := ← required "permission" }

def statusPageLimit : Nat := 4294967295

def path (github : GitHub) : String := "/repos/" ++ github.owner ++ "/" ++ github.repo

def request (github : GitHub) (what : String) (method : Method) (path : String)
    (query : List (String × String)) (body : Option Json) : Attempt Received := do
  let draft : Draft := ⟨method, github.apiUrl ++ github.path ++ path, query, [
    ("authorization", "Bearer " ++ github.token), ("accept", "application/vnd.github+json"),
    ("x-github-api-version", "2022-11-28")], body⟩
  match ← send draft with
  | .ok received => return received
  | .error fault => throw (.github (.attempt what fault))

def accepted (what : String) (r : Received) : Attempt Received :=
  match r.accepted with
  | .ok r => return r
  | .error fault => throw (.github (.attempt what fault))

def decoded {α : Type} [FromJson α] (what : String) (r : Received) : Attempt α :=
  match (r.decoded : Except Fault α) with
  | .ok a => return a
  | .error fault => throw (.github (.attempt what fault))

def getBranch (github : GitHub) (name : String) : Attempt Branch := do
  let received ←
    github.request "Failed to fetch branch" .get ("/branches/" ++ Percent.encode name) [] none
  let received ← accepted "Failed to fetch branch" received
  let branch : BranchReply ← decoded "Failed to parse branch" received
  return ⟨branch.name, branch.commit.sha⟩

def statusPage (github : GitHub) (reference : String) (page : Nat) : Attempt StatusPage := do
  let received ← github.request "Failed to fetch commit statuses" .get
    ("/commits/" ++ reference ++ "/status") [("per_page", "100"), ("page", Nat.repr page)] none
  let received ← accepted "Failed to fetch commit statuses" received
  decoded "Failed to parse commit statuses" received

/-- The statuses from a page on, where `before` are known already: up to the page with which all are
known, or one that has none. -/
def statusPages (github : GitHub) (reference : String) : Nat → Nat → Nat → Attempt (List Report)
  | 0, _, _ => throw (.github (.attempt "Failed to fetch commit statuses" .unbuilt))
  | limit + 1, page, before => do
    let found ← github.statusPage reference page
    let known := before + found.statuses.length
    if found.statuses.isEmpty || known ≥ found.totalCount.toNat then return found.statuses
    else return found.statuses ++ (← statusPages github reference limit (page + 1) known)

def listCommitStatuses (github : GitHub) (reference : String) : Attempt (List CommitStatus) := do
  let reports ← github.statusPages reference statusPageLimit 1 0
  return CommitStatus.latest (reports.map (·.toCommitStatus))

def setCommitStatus (github : GitHub) (sha : String) (status : CommitStatus) : Attempt Unit := do
  let target := if status.targetUrl.isEmpty then [] else [("target_url", toJson status.targetUrl)]
  let body := Json.object ([
    ("state", toJson status.state), ("context", toJson status.context),
    ("description", toJson status.description)] ++ target)
  let received ←
    github.request "Failed to set commit status" .post ("/statuses/" ++ sha) [] (some body)
  let _ ← accepted "Failed to set commit status" received

def mayWrite (github : GitHub) (user : User) : Attempt Bool := do
  let received ← github.request "Failed to fetch permission" .get
    ("/collaborators/" ++ Percent.encode user.name ++ "/permission") [] none
  if received.reply.status = 404 then return false
  let received ← accepted "Failed to fetch permission" received
  let granted : Permission ← decoded "Failed to parse permission" received
  return ["admin", "maintain", "write"].contains granted.permission

/-! Requests through the API client. -/

def hasFields (names : List String) (j : Json) : Bool :=
  names.all fun name => match j.field? name with
    | none | some .null => false
    | some _ => true

structure Account where
  login : String
  id : UInt64

def accountFields : List String := [
  "login", "id", "node_id", "avatar_url", "gravatar_id", "url", "html_url", "followers_url",
  "following_url", "gists_url", "starred_url", "subscriptions_url", "organizations_url",
  "repos_url", "events_url", "received_events_url", "type", "site_admin"]

instance : FromJson Account where
  fromJson? j :=
    if hasFields accountFields j then
      record (do return { login := ← required "login", id := ← required "id" }) j
    else none

structure Label where
  name : String

instance : FromJson Label where
  fromJson? j :=
    if hasFields ["id", "node_id", "url", "name", "color", "default"] j then
      record (do return { name := ← required "name" }) j
    else none

structure PageAddress where
  text : String

instance : FromJson PageAddress where
  fromJson?
    | .string s =>
      match Url.parse s with
      | .ok url => some ⟨if url.isHttp then url.text else s⟩
      | .error _ => none
    | _ => none

structure PullReply where
  url : String
  id : UInt64
  number : UInt64
  title : Option String
  state : Option PullState
  user : Option Account
  htmlUrl : Option PageAddress
  base : GitRef
  head : GitRef
  labels : Option (List Label)
  mergeable : Option Bool

instance : FromJson PullReply where
  fromJson? := record do
    return {
      url := ← required "url"
      id := ← required "id"
      number := ← required "number"
      title := ← optional "title" none
      state := ← optional "state" none
      user := ← optional "user" none
      htmlUrl := ← optional "html_url" none
      base := ← required "base"
      head := ← required "head"
      labels := ← optional "labels" none
      mergeable := ← optional "mergeable" none }

def PullReply.toPullRequest (pr : PullReply) : PullRequest where
  id := pr.number
  title := pr.title.getD ""
  state := pr.state.getD .closed
  author := (pr.user.map fun u => ⟨u.id, u.login, ""⟩).getD ⟨0, "", ""⟩
  url := (pr.htmlUrl.map (·.text)).getD ""
  base := pr.base
  head := pr.head
  labels := (pr.labels.getD []).map (·.name)
  mergeable := pr.mergeable.getD false

structure MergeReply where
  merged : Bool
  message : Option String

instance : FromJson MergeReply where
  fromJson? := record do
    return { merged := ← required "merged", message := ← optional "message" none }

structure CommentReply where
  id : UInt64

instance : FromJson CommentReply where
  fromJson? j :=
    if hasFields ["id", "node_id", "url", "html_url", "author_association", "user", "created_at"] j
    then record (do return { id := ← required "id" }) j
    else none

def listingLimit : Nat := 4294967296

def nextPage? (reply : Reply) : Option String :=
  let links := (reply.headers.lookup "link").getD ""
  (HostName.splitOn ',' links.toList).findSome? fun link =>
    match HostName.splitOn ';' (link.dropWhile (· = ' ')) with
    | ('<' :: address) :: attributes =>
      if attributes.any fun a => a.filter (fun c => c ≠ ' ' && c ≠ '"') = "rel=next".toList then
        (Text.splitLast '>' address).map fun parts => String.ofList parts.1
      else none
    | _ => none

def exchange (github : GitHub) (method : Method) (address : String) (body : Option Json) :
    Http (Except Fault Reply) := do
  let contentType := (body.map fun _ => ("content-type", "application/json")).toList
  let headers := ("authorization", "Bearer " ++ github.token) :: contentType
  match ← Dialogue.question (Request.mk method address headers body) with
  | none => return .error .unserved
  | some reply =>
    if 200 ≤ reply.status && reply.status < 300 then return .ok reply
    else
      match reply.body.bind (·.field? "message") with
      | some (.string _) => return .error .declined
      | _ => return .error .unexplained

def api {α : Type} [FromJson α] (github : GitHub) (fault : Fault → ServiceFault) (unread : Fault)
    (method : Method) (route : String) (body : Option Json) : Attempt (α × Reply) := do
  if !ApiAddress.isRoute route.toList then throw (.github (fault .badAddress))
  match ← github.exchange method (github.apiUrl ++ route) body with
  | .error f => throw (.github (fault f))
  | .ok reply =>
    match reply.body.bind fromJson? with
    | some a => return (a, reply)
    | none => throw (.github (fault unread))

def followPages (github : GitHub) : Nat → Option String → Attempt (List PullReply)
  | _, none => return []
  | 0, some _ => throw (.github (.request .unserved))
  | limit + 1, some address => do
    match ← github.exchange .get address none with
    | .error f => throw (.github (.request f))
    | .ok reply =>
      match reply.body.bind fromJson? with
      | some (found : List PullReply) => return found ++ (← followPages github limit (nextPage? reply))
      | none => throw (.github (.request .unexplained))

def listPullRequests (github : GitHub) (openOnly : Bool) : Attempt (List PullRequest) := do
  let state := if openOnly then "open" else "all"
  let route := github.path ++ "/pulls?state=" ++ state ++ "&per_page=100"
  let (first, reply) : List PullReply × Reply ←
    github.api .request .unexplained .get route none
  let rest ← github.followPages listingLimit (nextPage? reply)
  return (first ++ rest).map (·.toPullRequest)

def getPullRequest (github : GitHub) (id : UInt64) : Attempt PullRequest := do
  let (pr, _) : PullReply × Reply ←
    github.api .request .misshapen .get (github.path ++ "/pulls/" ++ Nat.repr id.toNat) none
  return pr.toPullRequest

def mergePullRequest (github : GitHub) (id : UInt64) (sha : String) (method : MergeMethod)
    (message : String) : Attempt Unit := do
  let body := Json.object ((if message.isEmpty then [] else [("commit_message", toJson message)]) ++
    [("sha", toJson sha), ("merge_method", toJson method)])
  let (result, _) : MergeReply × Reply ← github.api (.attempt "Merge failed") .misshapen .put
    (github.path ++ "/pulls/" ++ Nat.repr id.toNat ++ "/merge") (some body)
  if !result.merged then throw (.github (.notMerged id (result.message.getD "")))

def threadRoute (github : GitHub) (id : UInt64) : String :=
  github.path ++ "/issues/" ++ Nat.repr id.toNat

def comment (github : GitHub) (id : UInt64) (body : String) : Attempt Unit := do
  let _ : CommentReply × Reply ← github.api .request .misshapen .post
    (github.threadRoute id ++ "/comments") (some (.object [("body", toJson body)]))

def addLabel (github : GitHub) (id : UInt64) (label : String) : Attempt Unit := do
  let _ : List Label × Reply ← github.api .request .misshapen .post
    (github.threadRoute id ++ "/labels") (some (.object [("labels", toJson [label])]))

def removeLabel (github : GitHub) (id : UInt64) (label : String) : Attempt Unit := do
  let _ : List Label × Reply ← github.api .request .misshapen .delete
    (github.threadRoute id ++ "/labels/" ++ Percent.encodeAll label) none

def call (github : GitHub) : (call : HostCall) → Attempt call.Answer
  | .listPullRequests openOnly => github.listPullRequests openOnly
  | .getPullRequest id => github.getPullRequest id
  | .getBranch name => github.getBranch name
  | .listCommitStatuses reference => github.listCommitStatuses reference
  | .setCommitStatus sha status => github.setCommitStatus sha status
  | .mergePullRequest id sha method message => github.mergePullRequest id sha method message
  | .mayWrite user => github.mayWrite user
  | .comment _ id body => github.comment id body
  | .addLabel _ id label => github.addLabel id label
  | .removeLabel _ id label => github.removeLabel id label

end GitHub

end MergeQueue.Web
