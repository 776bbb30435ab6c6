import MergeQueue.Text.Affix

/-! Which texts an API client takes for the address of its service, and which for a route behind it.
It does not mend what it is given: a sign that has no place there makes the text unusable. -/

namespace MergeQueue.Web.ApiAddress

def isUriChar (c : Char) : Bool :=
  c.isAlphanum || "!#$&'()*+,-./:;=?@[]_~".toList.contains c

def isSchemeChar (c : Char) : Bool := c.isAlphanum || c = '+' || c = '-' || c = '.'

def isPathChar (c : Char) : Bool :=
  c.isAlphanum || "!$%&'()*+,-./:;=@[\\]^_|~\"\x7b\x7d".toList.contains c || c.toNat ≥ 0x7F

def isQueryChar (c : Char) : Bool :=
  c.toNat = 0x21 || (0x24 ≤ c.toNat && c.toNat ≤ 0x3B) || c = '=' || c.toNat ≥ 0x3F

def isRoute (text : List Char) : Bool :=
  let main := text.takeWhile (· ≠ '#')
  let path := main.takeWhile (· ≠ '?')
  path.all isPathChar && ((main.dropWhile (· ≠ '?')).drop 1).all isQueryChar

structure Scan where
  colons : Nat
  opened : Bool
  closed : Bool
  percent : Bool
  endsAtSign : Bool

def Scan.initial : Scan := ⟨0, false, false, false, false⟩

def Scan.step (s : Scan) (c : Char) : Option Scan :=
  let s := { s with endsAtSign := false }
  match c with
  | ':' => if s.colons ≥ 8 then none else some { s with colons := s.colons + 1 }
  | '[' => if s.percent || s.opened then none else some { s with opened := true }
  | ']' =>
    if !s.opened || s.closed then none
    else some { s with closed := true, colons := 0, percent := false }
  | '@' => some { s with colons := 0, percent := false, endsAtSign := true }
  | '%' => some { s with percent := true }
  | c => if isUriChar c then some s else none

def isAuthority (text : List Char) : Bool :=
  match text.foldlM Scan.step .initial with
  | some s => s.opened == s.closed && s.colons ≤ 1 && !s.endsAtSign && !s.percent
  | none => false

def endsAuthority (c : Char) : Bool := c = '/' || c = '?' || c = '#'

def afterScheme? (text : List Char) : Option (List Char) :=
  match text.dropWhile isSchemeChar with
  | ':' :: '/' :: '/' :: rest => if text.head? = some ':' then none else some rest
  | _ => none

def isAddress (text : String) : Bool :=
  match text.toList with
  | [] => false
  | ['*'] => true
  | '/' :: route => isRoute ('/' :: route)
  | chars =>
    match afterScheme? chars with
    | none => isAuthority chars && !chars.any endsAuthority
    | some rest =>
      let authority := rest.takeWhile (!endsAuthority ·)
      !authority.isEmpty && isAuthority authority && isRoute (rest.dropWhile (!endsAuthority ·))

end MergeQueue.Web.ApiAddress
