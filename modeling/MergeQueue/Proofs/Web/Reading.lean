import Mathlib.Tactic.Lemma
import MergeQueue.Error
import MergeQueue.Web.Http

namespace MergeQueue.Web

open Dialogue Json

def asking {α : Type} (request? : Option Request) (unbuilt : Error)
    (read : Request → Option Reply → Except Error α) : ExceptT Error Http α :=
  match request? with
  | none => throw unbuilt
  | some request => ExceptT.mk do return read request (← question request)

def Gives {α : Type} [FromJson α] (reply : Option Reply) (a : α) : Prop :=
  ∃ r, reply = some r ∧ ¬(400 ≤ r.status ∧ r.status < 600) ∧ r.body.bind fromJson? = some a

def served (j : Json) : Option Reply := some ⟨200, [], some j⟩

lemma gives_served {α : Type} [FromJson α] {j : Json} {a : α} (h : fromJson? j = some a) :
    Gives (served j) a :=
  ⟨_, rfl, by simp, h⟩

structure Reaches (address token : String) (url : Url) : Prop where
  parsed : Url.parse address = .ok url
  http : url.isHttp = true
  token : isHeaderText token = true

def reading {α : Type} [FromJson α] (unsent refused undecoded : Fault → Error) (q : Request)
    (reply : Option Reply) : Except Error α :=
  match reply with
  | none => .error (unsent (.unsent q.url))
  | some reply =>
    if 400 ≤ reply.status && reply.status < 600 then
      .error (refused (.refused reply.status q.url))
    else
      match reply.body.bind fromJson? with
      | some a => .ok a
      | none => .error (undecoded .undecoded)

lemma decode_map {α β : Type} [FromJson β] {write : α → Json} {read : α → β}
    (h : ∀ a, fromJson? (write a) = some (read a)) (as : List α) :
    fromJson? (Json.array (as.map write)) = some (as.map read) := by
  change (as.map write).mapM fromJson? = some (as.map read)
  rw [List.mapM_map, show fromJson? ∘ write = fun a => pure (read a) from funext h]
  exact List.mapM_pure

lemma reading_eq_ok_iff {α : Type} [FromJson α] {unsent refused undecoded : Fault → Error}
    {q : Request} {reply : Option Reply} {a : α} :
    reading unsent refused undecoded q reply = .ok a ↔ Gives reply a := by
  cases reply with
  | none => simp [reading, Gives]
  | some r =>
    simp only [reading, Gives, Option.some.injEq, exists_eq_left']
    by_cases hstatus : 400 ≤ r.status ∧ r.status < 600
    · rw [if_pos (by simpa using hstatus)]
      exact iff_of_false (by simp) fun h => h.1 hstatus
    · rw [if_neg (by simpa using hstatus), and_iff_right hstatus]
      cases (r.body.bind fromJson? : Option α) <;> simp

def judged {α : Type} [FromJson α] (refused undecoded : Fault → Error) (r : Received) :
    ExceptT Error Http α := do
  let r ← show ExceptT Error Http Received from
    match r.accepted with
    | .ok r => return r
    | .error fault => throw (refused fault)
  match (r.decoded : Except Fault α) with
  | .ok a => return a
  | .error fault => throw (undecoded fault)

lemma judged_eq_reading {α : Type} [FromJson α] (unsent refused undecoded : Fault → Error)
    (q : Request) (reply : Reply) :
    (judged refused undecoded ⟨q.url, reply⟩ : ExceptT Error Http α).run =
      .done (reading unsent refused undecoded q (some reply)) := by
  rw [judged, reading, Received.accepted]
  by_cases hstatus : (400 ≤ reply.status && reply.status < 600) = true
  · rw [if_pos hstatus, if_pos hstatus]
    rfl
  · rw [if_neg hstatus, if_neg hstatus]
    change ExceptT.run (match (Received.decoded ⟨q.url, reply⟩ : Except Fault α) with
      | .ok a => pure a
      | .error fault => throw (undecoded fault)) = _
    rw [Received.decoded]
    cases (reply.body.bind fromJson? : Option α) with
    | none => rfl
    | some a => rfl

def exchanging {α : Type} [FromJson α] (draft : Draft) (unsent refused undecoded : Fault → Error) :
    ExceptT Error Http α := do
  let r ← show ExceptT Error Http Received from do
    match ← send draft with
    | .ok r => return r
    | .error fault => throw (unsent fault)
  judged refused undecoded r

lemma exchanging_eq_asking {α : Type} [FromJson α] (draft : Draft)
    (unsent refused undecoded : Fault → Error) :
    (exchanging draft unsent refused undecoded : ExceptT Error Http α) =
      asking draft.request? (unsent .unbuilt) (reading unsent refused undecoded) := by
  rw [exchanging, send]
  cases draft.request? with
  | none => rfl
  | some q =>
    refine congrArg (Dialogue.ask q) (funext fun reply => ?_)
    cases reply with
    | none => rfl
    | some reply => exact judged_eq_reading unsent refused undecoded q reply

lemma Reaches.request? {address token : String} {url : Url} (h : Reaches address token url)
    {headers : List (String × String)} (hheaders : ∀ header ∈ headers, isHeaderText header.2 = true)
    (query : List (String × String)) :
    Draft.request? ⟨.get, address, query, headers, none⟩ =
      some ⟨.get, (url.withQuery query).text, headers, none⟩ := by
  have hall : (url.isHttp && headers.all fun header => isHeaderText header.2) = true := by
    rw [h.http, Bool.true_and, List.all_eq_true]
    exact hheaders
  simp only [Draft.request?, h.parsed, hall, if_true, Option.map_none, Option.toList_none,
    List.append_nil]

end MergeQueue.Web
