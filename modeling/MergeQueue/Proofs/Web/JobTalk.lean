import MergeQueue.Proofs.Web.Paging
import MergeQueue.Proofs.Web.Url
import MergeQueue.Web.JobStore

namespace MergeQueue.Web

open Dialogue Json

def Url.request (url : Url) (method : Method) (body : Option Json) : Request :=
  ⟨method, url.text, (body.map fun _ => ("content-type", "application/json")).toList, body⟩

lemma request?_eq (method : Method) (address : String) (body : Option Json) :
    (∃ url, Url.Reads address url ∧
      Draft.request? ⟨method, address, [], [], body⟩ = some (url.request method body)) ∨
    (¬ ∃ url, Url.Reads address url) ∧ Draft.request? ⟨method, address, [], [], body⟩ = none := by
  rw [Draft.request?]
  cases hparse : Url.parse address with
  | error fault =>
    refine .inr ⟨?_, rfl⟩
    rintro ⟨url, hurl, -⟩
    cases hparse.symm.trans hurl
  | ok url =>
    cases hhttp : url.isHttp with
    | false =>
      refine .inr ⟨?_, by simp [hhttp]⟩
      rintro ⟨url', hurl', hhttp'⟩
      obtain rfl := Except.ok.inj (hparse.symm.trans hurl')
      rw [hhttp] at hhttp'
      cases hhttp'
    | true =>
      have hquery : url.withQuery [] = url := rfl
      exact .inl ⟨url, ⟨hparse, hhttp⟩, by simp [hhttp, hquery, Url.request]⟩

lemma asking_course {α : Type} {method : Method} {address : String} {body : Option Json}
    {unbuilt : Error} {read : Request → Option Reply → Except Error α} {log : Trace}
    {result : Except Error α} :
    (asking (Draft.request? ⟨method, address, [], [], body⟩) unbuilt read).run.Course log result ↔
      (∃ url reply, Url.Reads address url ∧ log = [⟨url.request method body, reply⟩] ∧
        result = read (url.request method body) reply) ∨
      (¬ ∃ url, Url.Reads address url) ∧ log = [] ∧ result = .error unbuilt := by
  rcases request?_eq method address body with ⟨url, hurl, hrequest⟩ | ⟨hnone, hrequest⟩
  · rw [hrequest]
    constructor
    · rintro ⟨reply, rest, rfl, rfl, rfl⟩
      exact .inl ⟨url, reply, hurl, rfl, rfl⟩
    · rintro (⟨url', reply, hurl', rfl, rfl⟩ | ⟨hnone, -, -⟩)
      · obtain rfl := Except.ok.inj (hurl.1.symm.trans hurl'.1)
        exact ⟨reply, [], rfl, rfl, rfl⟩
      · exact absurd ⟨url, hurl⟩ hnone
  · rw [hrequest]
    constructor
    · rintro ⟨rfl, rfl⟩
      exact .inr ⟨hnone, rfl, rfl⟩
    · rintro (⟨url, reply, hurl, -, -⟩ | ⟨-, rfl, rfl⟩)
      · exact absurd ⟨url, hurl⟩ hnone
      · exact ⟨rfl, rfl⟩

namespace JobStore

def readCreated (job : JobRequest) (q : Request) : Option Reply → Except Error JobRef
  | none => .error (.jobStore (.request (.unsent q.url)))
  | some reply =>
    if 400 ≤ reply.status && reply.status < 600 then
      .error (.jobStore (.attempt "create failed" (.refused reply.status q.url)))
    else .ok ⟨job.ns, job.name⟩

lemma createJob_eq_asking (store : JobStore) (job : JobRequest) :
    store.createJob job = asking
      (Draft.request? ⟨.post, store.collection job.ns, [], [], some (toJson job)⟩)
      (.jobStore (.request .unbuilt)) (readCreated job) := by
  rw [createJob, request, send]
  cases Draft.request? ⟨.post, store.collection job.ns, [], [], some (toJson job)⟩ with
  | none => rfl
  | some q =>
    refine congrArg (Dialogue.ask q) (funext fun reply => ?_)
    cases reply with
    | none => rfl
    | some reply =>
      change (accepted "create failed" ⟨q.url, reply⟩ >>= fun _ => _ : Attempt JobRef) =
        .done (readCreated job q (some reply))
      rw [accepted, Received.accepted]
      by_cases h : (400 ≤ reply.status && reply.status < 600) = true
      · rw [readCreated, if_pos h, if_pos h]
        rfl
      · rw [readCreated, if_neg h, if_neg h]
        rfl

def readState (job : JobRef) (q : Request) : Option Reply → Except Error JobState
  | none => .error (.jobStore (.request (.unsent q.url)))
  | some reply =>
    if reply.status = 404 then .error (.jobNotFound job)
    else if 400 ≤ reply.status && reply.status < 600 then
      .error (.jobStore (.attempt "get failed" (.refused reply.status q.url)))
    else
      match reply.body.bind fromJson? with
      | some (r : JobReply) => .ok (JobState.ofText r.status.state)
      | none => .error (.jobStore (.attempt "failed to parse job" .undecoded))

lemma jobState_eq_asking (store : JobStore) (job : JobRef) :
    store.jobState job = asking (Draft.request? ⟨.get, store.jobAddress job, [], [], none⟩)
      (.jobStore (.request .unbuilt)) (readState job) := by
  rw [jobState, request, send]
  cases Draft.request? ⟨.get, store.jobAddress job, [], [], none⟩ with
  | none => rfl
  | some q =>
    refine congrArg (Dialogue.ask q) (funext fun reply => ?_)
    cases reply with
    | none => rfl
    | some reply =>
      change ite (reply.status = 404) _ _ = Dialogue.done (readState job q (some reply))
      by_cases hmissing : reply.status = 404
      · rw [readState, if_pos hmissing, if_pos hmissing]
        rfl
      · rw [readState, if_neg hmissing, if_neg hmissing, accepted, Received.accepted]
        by_cases h : (400 ≤ reply.status && reply.status < 600) = true
        · rw [if_pos h, if_pos h]
          rfl
        · rw [if_neg h, if_neg h]
          dsimp only
          rw [pure_bind, Received.decoded]
          cases (reply.body.bind fromJson? : Option JobReply) with
          | none => rfl
          | some r => rfl

lemma createJob_course {store : JobStore} {request : JobRequest} {log : Trace} {job : JobRef} :
    (store.createJob request).run.Course log (.ok job) ↔ job = ⟨request.ns, request.name⟩ ∧
      ∃ created reply, Url.Reads (store.collection request.ns) created ∧
        log = [⟨created.request .post (some (toJson request)), some reply⟩] ∧
        ¬(400 ≤ reply.status ∧ reply.status < 600) := by
  rw [createJob_eq_asking, asking_course]
  constructor
  · rintro (⟨created, reply, hcreated, rfl, hread⟩ | ⟨-, -, hread⟩)
    · cases reply with
      | none => cases hread
      | some reply =>
        rw [readCreated] at hread
        split at hread
        · cases hread
        · next haccepted =>
          exact ⟨Except.ok.inj hread, created, reply, hcreated, rfl, by simpa using haccepted⟩
    · cases hread
  · rintro ⟨rfl, created, reply, hcreated, rfl, haccepted⟩
    refine .inl ⟨created, some reply, hcreated, rfl, ?_⟩
    rw [readCreated, if_neg (by simpa using haccepted)]

lemma jobState_course {store : JobStore} {job : JobRef} {log : Trace}
    {result : Except Error JobState} : (store.jobState job).run.Course log result ↔
      (∃ polled reply, Url.Reads (store.jobAddress job) polled ∧
        log = [⟨polled.request .get none, reply⟩] ∧
        result = readState job (polled.request .get none) reply) ∨
      (¬ ∃ polled, Url.Reads (store.jobAddress job) polled) ∧ log = [] ∧
        result = .error (.jobStore (.request .unbuilt)) := by
  rw [jobState_eq_asking, asking_course]

end JobStore

end MergeQueue.Web
