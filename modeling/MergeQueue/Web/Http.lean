import MergeQueue.Dialogue
import MergeQueue.Json.Parser
import MergeQueue.Json.Record
import MergeQueue.Web.Url

/-! Requests to network services and their replies. A request goes out only if its address and its
headers can be sent; whether something is there to reply is up to the network. -/

namespace MergeQueue.Web

inductive Method where
  | get
  | post
  | put
  | delete
  deriving DecidableEq

structure Request where
  method : Method
  url : String
  headers : List (String × String)
  body : Option Json

structure WrittenReply where
  status : Nat
  headers : List (String × String)
  body : String

structure Reply where
  status : Nat
  headers : List (String × String)
  body : Option Json

def WrittenReply.read (reply : WrittenReply) : Reply :=
  ⟨reply.status, reply.headers, Json.parse? reply.body⟩

abbrev Http := Dialogue Request fun _ => Option Reply

structure Received where
  url : String
  reply : Reply

def isHeaderText (text : String) : Bool :=
  text.toList.all fun c => c = '\t' || (c.toNat ≥ 0x20 && c.toNat ≠ 0x7F)

structure Draft where
  method : Method
  address : String
  query : List (String × String)
  headers : List (String × String)
  body : Option Json

def Draft.request? (draft : Draft) : Option Request :=
  match Url.parse draft.address with
  | .error _ => none
  | .ok url =>
    if url.isHttp && draft.headers.all fun header => isHeaderText header.2 then
      let contentType := draft.body.map fun _ => ("content-type", "application/json")
      some ⟨draft.method, (url.withQuery draft.query).text, draft.headers ++ contentType.toList,
        draft.body⟩
    else none

def send (draft : Draft) : Http (Except Fault Received) := do
  match draft.request? with
  | none => return .error .unbuilt
  | some request =>
    match ← Dialogue.question request with
    | none => return .error (.unsent request.url)
    | some reply => return .ok ⟨request.url, reply⟩

def Received.accepted (r : Received) : Except Fault Received :=
  if 400 ≤ r.reply.status && r.reply.status < 600 then .error (.refused r.reply.status r.url)
  else .ok r

def Received.decoded {α : Type} [FromJson α] (r : Received) : Except Fault α :=
  match r.reply.body.bind fromJson? with
  | some a => .ok a
  | none => .error .undecoded

end MergeQueue.Web
