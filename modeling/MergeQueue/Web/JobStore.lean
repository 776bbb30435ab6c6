import MergeQueue.Error
import MergeQueue.Job.Json
import MergeQueue.Web.Http

namespace MergeQueue.Web

open Json

structure JobStore where
  address : String
  deriving DecidableEq

namespace JobStore

abbrev Attempt := ExceptT MergeQueue.Error Http

structure JobStatus where
  state : String

instance : FromJson JobStatus where
  fromJson? := record do
    return { state := ← optional "state" "" }

structure JobReply where
  status : JobStatus

instance : FromJson JobReply where
  fromJson? := record do
    return { status := ← optional "status" ⟨""⟩ }

def create (url : String) : Except MergeQueue.Error JobStore :=
  match Url.parse url with
  | .error fault => .error (.config (.jobStoreAddress url fault))
  | .ok parsed =>
    if parsed.isHttp then .ok ⟨Text.trimTrailing '/' url⟩
    else .error (.config (.jobStoreScheme url))

def collection (store : JobStore) (ns : String) : String :=
  store.address ++ "/namespaces/" ++ Percent.encode ns ++ "/jobs"

def jobAddress (store : JobStore) (job : JobRef) : String :=
  store.collection job.ns ++ "/" ++ Percent.encode job.name

def request (draft : Draft) : Attempt Received := do
  match ← send draft with
  | .ok received => return received
  | .error fault => throw (.jobStore (.request fault))

def accepted (what : String) (r : Received) : Attempt Received :=
  match r.accepted with
  | .ok r => return r
  | .error fault => throw (.jobStore (.attempt what fault))

def createJob (store : JobStore) (job : JobRequest) : Attempt JobRef := do
  let received ← request ⟨.post, store.collection job.ns, [], [], some (toJson job)⟩
  let _ ← accepted "create failed" received
  return ⟨job.ns, job.name⟩

def jobState (store : JobStore) (job : JobRef) : Attempt JobState := do
  let received ← request ⟨.get, store.jobAddress job, [], [], none⟩
  if received.reply.status = 404 then throw (.jobNotFound job)
  let received ← accepted "get failed" received
  match (received.decoded : Except Fault JobReply) with
  | .ok reply => return JobState.ofText reply.status.state
  | .error fault => throw (.jobStore (.attempt "failed to parse job" fault))

end JobStore

end MergeQueue.Web
