import MergeQueue.Config.Basic
import MergeQueue.Text.Category

/-! How a pull request is merged: the method, and the commit message. -/

namespace MergeQueue

def Settings.methodAsked (settings : Settings) (label : String) : Option MergeMethod :=
  if !settings.squashLabel.isEmpty && label = settings.squashLabel then some .squash
  else if !settings.mergeLabel.isEmpty && label = settings.mergeLabel then some .merge
  else none

def Settings.methodFor (settings : Settings) (merge : MergeConfig) (pr : PullRequest) :
    MergeMethod :=
  ((pr.labels.findSome? settings.methodAsked).orElse fun _ => merge.method).getD .merge

namespace CommitMessage

inductive Piece where
  | literal (c : Char)
  | placeholder (field : List Char)

def isFieldChar (c : Char) : Bool := c.isAlpha || c = '.'

def closing? (text : List Char) : Option { rest : List Char // rest.length < text.length } :=
  match h : text.dropWhile Text.isSpace with
  | '\x7d' :: '\x7d' :: rest => some ⟨rest, by
      have := (List.dropWhile_suffix (l := text) Text.isSpace).length_le
      rw [h] at this
      simp at this
      omega⟩
  | _ => none

def field? (text : List Char) :
    Option (List Char × { rest : List Char // rest.length < text.length }) :=
  match text with
  | c :: more =>
    if c.isAlpha then
      match closing? (more.dropWhile isFieldChar) with
      | some ⟨rest, h⟩ => some (c :: more.takeWhile isFieldChar, ⟨rest, by
          have := (List.dropWhile_suffix (l := more) isFieldChar).length_le
          simp
          omega⟩)
      | none => none
    else none
  | [] => none

def placeholder? (text : List Char) :
    Option (List Char × { rest : List Char // rest.length < text.length }) :=
  match text with
  | '\x7b' :: '\x7b' :: inner =>
    match h : inner.dropWhile Text.isSpace with
    | '.' :: named =>
      match field? named with
      | some (field, ⟨rest, hr⟩) => some (field, ⟨rest, by
          have := (List.dropWhile_suffix (l := inner) Text.isSpace).length_le
          rw [h] at this
          simp at this ⊢
          omega⟩)
      | none => none
    | _ => none
  | _ => none

def pieces (template : List Char) : List Piece :=
  match template with
  | [] => []
  | c :: text =>
    match placeholder? (c :: text) with
    | some (field, ⟨rest, _⟩) => .placeholder field :: pieces rest
    | none => .literal c :: pieces text
termination_by template.length
decreasing_by all_goals simp_all

def value? (pr : PullRequest) (field : String) : Option String :=
  match field with
  | "ID" => some (toString pr.id.toNat)
  | "Title" => some pr.title
  | "URL" => some pr.url
  | "Author.Name" | "Sender.Name" => some pr.author.name
  | "Author.Email" | "Sender.Email" => some pr.author.email
  | "Head.Ref" => some pr.head.reference
  | "Head.Sha" => some pr.head.sha
  | "Base.Ref" => some pr.base.reference
  | "Base.Sha" => some pr.base.sha
  | _ => none

def Piece.text (pr : PullRequest) : Piece → Except String String
  | .literal c => .ok c.toString
  | .placeholder field =>
    match value? pr (String.ofList field) with
    | some value => .ok value
    | none => .error (String.ofList field)

def render (template : String) (pr : PullRequest) : Except String String := do
  let texts ← (pieces template.toList).mapM (Piece.text pr)
  return String.join texts

end CommitMessage

def MergeConfig.message (merge : MergeConfig) (pr : PullRequest) : Except String String :=
  match merge.commitTemplate.bind nonempty? with
  | some template => CommitMessage.render template pr
  | none => .ok ""

end MergeQueue
