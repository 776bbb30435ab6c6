import Mathlib.Data.List.Forall2
import MergeQueue.Proofs.CommitMessage.Split

namespace MergeQueue

namespace CommitMessage

/-- The fields a template may name, and what stands for each in a message. -/
inductive Field (pr : PullRequest) : String → String → Prop
  | id : Field pr "ID" pr.id.toNat.repr
  | title : Field pr "Title" pr.title
  | url : Field pr "URL" pr.url
  | author : Field pr "Author.Name" pr.author.name
  | authorEmail : Field pr "Author.Email" pr.author.email
  | sender : Field pr "Sender.Name" pr.author.name
  | senderEmail : Field pr "Sender.Email" pr.author.email
  | head : Field pr "Head.Ref" pr.head.reference
  | headSha : Field pr "Head.Sha" pr.head.sha
  | base : Field pr "Base.Ref" pr.base.reference
  | baseSha : Field pr "Base.Sha" pr.base.sha

lemma value?_eq_some_iff {pr : PullRequest} {field value : String} :
    value? pr field = some value ↔ Field pr field value := by
  constructor
  · intro h
    unfold value? at h
    split at h <;> cases h <;> constructor
  · rintro ⟨⟩ <;> rfl

def Unknown (pr : PullRequest) (name : List Char) : Prop :=
  ∀ value, ¬Field pr (String.ofList name) value

lemma value?_eq_none_iff {pr : PullRequest} {name : List Char} :
    value? pr (String.ofList name) = none ↔ Unknown pr name := by
  simp only [Option.eq_none_iff_forall_ne_some, ne_eq, value?_eq_some_iff, Unknown]

inductive Inserts (pr : PullRequest) : Segment → String → Prop where
  | literal (text : List Char) : Inserts pr (.literal text) (String.ofList text)
  | field {name : List Char} {value : String} (h : Field pr (String.ofList name) value) :
      Inserts pr (.field name) value

def FirstUnknown (pr : PullRequest) (segments : List Segment) (name : List Char) : Prop :=
  ∃ front behind, segments = front ++ .field name :: behind ∧ Unknown pr name ∧
    ∀ other, .field other ∈ front → ¬Unknown pr other

section

variable {α β ε : Type} {f : α → Except ε β} {a : α} {as : List α} {e : ε}

lemma mapM_cons_of_ok {b : β} (h : f a = .ok b) :
    (a :: as).mapM f = (as.mapM f).map (b :: ·) := by
  rw [List.mapM_cons, h]
  cases as.mapM f <;> rfl

lemma mapM_cons_of_error (h : f a = .error e) : (a :: as).mapM f = .error e := by
  rw [List.mapM_cons, h]
  rfl

lemma mapM_eq_ok_iff {bs : List β} :
    as.mapM f = .ok bs ↔ List.Forall₂ (fun a b => f a = .ok b) as bs := by
  induction as generalizing bs with
  | nil =>
    rw [List.forall₂_nil_left_iff, List.mapM_nil]
    exact (Except.ok.injEq [] bs).to_iff.trans eq_comm
  | cons a as ih =>
    rw [List.forall₂_cons_left_iff]
    cases h : f a with
    | error e => simp [mapM_cons_of_error h]
    | ok b =>
      rw [mapM_cons_of_ok h]
      simp only [← ih, Except.ok.injEq, exists_and_left, exists_eq_left']
      cases as.mapM f <;> simp [Except.map, eq_comm]

def errorOf? : Except ε β → Option ε
  | .ok _ => none
  | .error e => some e

lemma errorOf?_eq_some_iff {r : Except ε β} : errorOf? r = some e ↔ r = .error e := by
  cases r <;> simp [errorOf?]

lemma errorOf?_eq_none_iff {r : Except ε β} : errorOf? r = none ↔ ∃ b, r = .ok b := by
  cases r <;> simp [errorOf?]

lemma mapM_eq_error_iff_findSome? :
    as.mapM f = .error e ↔ as.findSome? (fun a => errorOf? (f a)) = some e := by
  induction as with
  | nil => constructor <;> exact fun h => nomatch h
  | cons a as ih =>
    rw [List.findSome?_cons]
    cases h : f a with
    | error e' => simp [mapM_cons_of_error h, errorOf?]
    | ok b =>
      rw [mapM_cons_of_ok h, errorOf?, ← ih]
      cases as.mapM f <;> simp [Except.map]

lemma mapM_eq_error_iff :
    as.mapM f = .error e ↔
      ∃ front a behind, as = front ++ a :: behind ∧ f a = .error e ∧
        ∀ b ∈ front, ∃ c, f b = .ok c := by
  rw [mapM_eq_error_iff_findSome?, List.findSome?_eq_some_iff]
  simp only [errorOf?_eq_some_iff, errorOf?_eq_none_iff]

end

def Segment.pieces : Segment → List Piece
  | .literal text => text.map .literal
  | .field name => [.placeholder name]

def Segment.text (pr : PullRequest) : Segment → Except String String
  | .literal text => .ok (String.ofList text)
  | .field name => Piece.text pr (.placeholder name)

lemma Split.pieces_eq {template : List Char} {segments : List Segment}
    (h : Split template segments) :
    CommitMessage.pieces template = segments.flatMap Segment.pieces := by
  induction h with
  | text hclear =>
    have hpieces := pieces_clear hclear
    rw [List.append_nil, CommitMessage.pieces] at hpieces
    simp [hpieces, Segment.pieces]
  | placeholder hlead htoken hrest ih =>
    rw [pieces_clear hlead, pieces_token htoken, ih]
    rfl

def fill (pr : PullRequest) (ps : List Piece) : Except String String :=
  (ps.mapM (Piece.text pr)).map String.join

variable {pr : PullRequest}

lemma fill_append (ps qs : List Piece) :
    fill pr (ps ++ qs) = do return (← fill pr ps) ++ (← fill pr qs) := by
  rw [fill, fill, fill, List.mapM_append]
  cases ps.mapM (Piece.text pr) with
  | error name => rfl
  | ok texts =>
    cases qs.mapM (Piece.text pr) with
    | error name => rfl
    | ok texts' => exact congrArg Except.ok String.join_append

lemma join_toString (text : List Char) :
    String.join (text.map Char.toString) = String.ofList text := by
  induction text with
  | nil => rfl
  | cons c text ih => simp [ih]

lemma fill_pieces (segment : Segment) : fill pr segment.pieces = segment.text pr := by
  cases segment with
  | literal text =>
    have htexts : (text.map Piece.literal).mapM (Piece.text pr) = .ok (text.map Char.toString) := by
      rw [List.mapM_map]
      exact List.mapM_pure
    rw [Segment.pieces, fill, htexts]
    exact congrArg Except.ok (join_toString text)
  | field name =>
    rw [Segment.pieces, fill, Segment.text]
    cases h : Piece.text pr (.placeholder name) with
    | error name' =>
      rw [mapM_cons_of_error h]
      rfl
    | ok value =>
      have hvalue : String.join [value] = value := by simp
      rw [mapM_cons_of_ok h]
      exact congrArg Except.ok hvalue

lemma fill_segments (segments : List Segment) :
    fill pr (segments.flatMap Segment.pieces) =
      (segments.mapM (Segment.text pr)).map String.join := by
  induction segments with
  | nil => rfl
  | cons segment segments ih =>
    rw [List.flatMap_cons, fill_append, fill_pieces, ih]
    cases h : segment.text pr with
    | error name => rw [mapM_cons_of_error h]; rfl
    | ok text =>
      rw [mapM_cons_of_ok h]
      cases segments.mapM (Segment.text pr) with
      | error name => rfl
      | ok texts => exact congrArg Except.ok String.join_cons.symm

lemma render_eq {template : String} {segments : List Segment}
    (h : Split template.toList segments) :
    render template pr = (segments.mapM (Segment.text pr)).map String.join := by
  rw [← fill_segments, ← h.pieces_eq]
  rw [render, fill]
  cases (pieces template.toList).mapM (Piece.text pr) <;> rfl

lemma text_eq_ok_iff {segment : Segment} {text : String} :
    segment.text pr = .ok text ↔ Inserts pr segment text := by
  constructor
  · intro h
    cases segment with
    | literal cs =>
      obtain rfl := Except.ok.inj h
      exact .literal cs
    | field name =>
      rw [Segment.text, Piece.text] at h
      split at h
      · next value hvalue =>
        obtain rfl := Except.ok.inj h
        exact .field (value?_eq_some_iff.mp hvalue)
      · cases h
  · rintro (cs | hvalue)
    · rfl
    · rw [Segment.text, Piece.text, value?_eq_some_iff.mpr hvalue]

lemma text_eq_error_iff {segment : Segment} {field : String} :
    segment.text pr = .error field ↔
      ∃ name, segment = .field name ∧ Unknown pr name ∧ field = String.ofList name := by
  constructor
  · intro h
    cases segment with
    | literal cs => cases h
    | field name =>
      rw [Segment.text, Piece.text] at h
      split at h
      · cases h
      · next hnone =>
        exact ⟨name, rfl, value?_eq_none_iff.mp hnone, (Except.error.inj h).symm⟩
  · rintro ⟨name, rfl, hnone, rfl⟩
    rw [Segment.text, Piece.text, value?_eq_none_iff.mpr hnone]

lemma exists_text_iff {segment : Segment} :
    (∃ text, segment.text pr = .ok text) ↔
      ∀ name, segment = .field name → ¬Unknown pr name := by
  constructor
  · rintro ⟨text, htext⟩ name rfl hnone
    rw [text_eq_error_iff.mpr ⟨name, rfl, hnone, rfl⟩] at htext
    cases htext
  · intro hknown
    cases h : segment.text pr with
    | ok text => exact ⟨text, rfl⟩
    | error field =>
      obtain ⟨name, hname, hnone, _⟩ := text_eq_error_iff.mp h
      exact absurd hnone (hknown name hname)

lemma render_eq_ok_iff {template message : String} {segments : List Segment}
    (h : Split template.toList segments) :
    render template pr = .ok message ↔
      ∃ texts, List.Forall₂ (Inserts pr) segments texts ∧ message = String.join texts := by
  have htexts (texts : List String) :
      segments.mapM (Segment.text pr) = .ok texts ↔ List.Forall₂ (Inserts pr) segments texts := by
    simp only [mapM_eq_ok_iff, text_eq_ok_iff]
  simp only [render_eq h, ← htexts]
  cases segments.mapM (Segment.text pr) <;> simp [Except.map, eq_comm]

lemma render_eq_error_iff {template field : String} {segments : List Segment}
    (h : Split template.toList segments) :
    render template pr = .error field ↔
      ∃ name, FirstUnknown pr segments name ∧ field = String.ofList name := by
  have herror : render template pr = .error field ↔
      segments.mapM (Segment.text pr) = .error field := by
    rw [render_eq h]
    cases segments.mapM (Segment.text pr) <;> simp [Except.map]
  rw [herror, mapM_eq_error_iff]
  constructor
  · rintro ⟨front, _, behind, rfl, hsegment, hfront⟩
    obtain ⟨name, rfl, hnone, rfl⟩ := text_eq_error_iff.mp hsegment
    refine ⟨name, ⟨front, behind, rfl, hnone, fun other hother => ?_⟩, rfl⟩
    exact exists_text_iff.mp (hfront _ hother) other rfl
  · rintro ⟨name, ⟨front, behind, rfl, hnone, hknown⟩, rfl⟩
    refine ⟨front, _, behind, rfl, text_eq_error_iff.mpr ⟨name, rfl, hnone, rfl⟩, ?_⟩
    intro segment hsegment
    refine exists_text_iff.mpr fun other hother => ?_
    exact hknown other (hother ▸ hsegment)

lemma exists_inserted {segments : List Segment} {texts : List String} {segment : Segment}
    (h : List.Forall₂ (Inserts pr) segments texts) (hmem : segment ∈ segments) :
    ∃ text, Inserts pr segment text := by
  induction h with
  | nil => cases hmem
  | cons hinserts _ ih =>
    rcases List.mem_cons.mp hmem with rfl | hmem
    · exact ⟨_, hinserts⟩
    · exact ih hmem

lemma exists_error_iff {template : String} {segments : List Segment}
    (h : Split template.toList segments) :
    (∃ field, render template pr = .error field) ↔
      ∃ name, .field name ∈ segments ∧ Unknown pr name := by
  constructor
  · rintro ⟨field, hfield⟩
    obtain ⟨name, ⟨front, behind, rfl, hnone, _⟩, _⟩ := (render_eq_error_iff h).mp hfield
    exact ⟨name, by simp, hnone⟩
  · rintro ⟨name, hname, hnone⟩
    cases hrender : render template pr with
    | error field => exact ⟨field, rfl⟩
    | ok message =>
      obtain ⟨texts, htexts, _⟩ := (render_eq_ok_iff h).mp hrender
      obtain ⟨_, hinserts⟩ := exists_inserted htexts hname
      cases hinserts with
      | field hvalue => exact (hnone _ hvalue).elim

lemma render_of_clear {template : String} (h : Scan.Clear Opens template.toList []) :
    render template pr = .ok template := by
  rw [render_eq_ok_iff (.text h)]
  exact ⟨[template], .cons (by simpa using Inserts.literal template.toList) .nil, by simp⟩

/-- Every template has one split, whatever it is filled in for. Filling in fails exactly if a field
of it is unknown, and the first such field is the error. Otherwise the texts of the split stay as
they are, with the values of the fields in between; they are not looked at again. A template without
placeholders is the message itself. -/
theorem template_rendering (template : String) :
    ∃ segments, Split template.toList segments ∧
      (∀ segments', Split template.toList segments' → segments' = segments) ∧
      ∀ pr,
        ((∃ field, render template pr = .error field) ↔
          ∃ name, .field name ∈ segments ∧ Unknown pr name) ∧
        (∀ field, render template pr = .error field ↔
          ∃ name, FirstUnknown pr segments name ∧ field = String.ofList name) ∧
        (∀ message, render template pr = .ok message ↔
          ∃ texts, List.Forall₂ (Inserts pr) segments texts ∧ message = String.join texts) ∧
        (Scan.Clear Opens template.toList [] → render template pr = .ok template) := by
  obtain ⟨segments, hsplit⟩ := Split.exists_segments template.toList
  refine ⟨segments, hsplit, fun _ => hsplit.unique, fun pr => ⟨exists_error_iff hsplit, ?_, ?_, ?_⟩⟩
  · exact fun field => render_eq_error_iff hsplit
  · exact fun message => render_eq_ok_iff hsplit
  · exact render_of_clear

def braced (content : String) : String := "\x7b\x7b" ++ content ++ "\x7d\x7d"

def titledPull (title : String) : PullRequest :=
  ⟨7, title, .opened, ⟨1, "alice", ""⟩, "u", ⟨"main", "b"⟩, ⟨"feat", "aaa"⟩, [], true⟩

theorem template_rendering_demo :
    let pr := titledPull (braced ".URL" ++ braced ".None")
    let text := "\x7b.ID\x7d\x7d" ++ braced "ID" ++ braced ". ID" ++ "\x7b\x7b.ID\x7d"
    render ("\x7b" ++ braced ".Title" ++ "\x7d #" ++ braced "\t.ID ") pr =
      .ok ("\x7b" ++ braced ".URL" ++ braced ".None" ++ "\x7d #7") ∧
    render (braced ".ID" ++ braced ".Nope" ++ braced ".None") pr = .error "Nope" ∧
    Scan.Clear Opens text.toList [] ∧ render text pr = .ok text := by
  intro pr text
  have hread : ∀ n < text.toList.length,
      ¬(reading (placeholder? ((text.toList ++ []).drop n))).isSome := by decide +kernel
  have hclear : Scan.Clear Opens text.toList [] :=
    Scan.clear_of_drop fun n hn => opens_iff.not.mpr (hread n hn)
  obtain ⟨_, _, _, hfilled⟩ := template_rendering text
  exact ⟨by decide +kernel, by decide +kernel, hclear, (hfilled pr).2.2.2 hclear⟩

end CommitMessage

end MergeQueue
