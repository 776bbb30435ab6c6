import MergeQueue.Pattern.Basic
import MergeQueue.Text.Affix

namespace MergeQueue.Pattern

structure Flags where
  ignoreCase : Bool
  multiLine : Bool
  dotAll : Bool
  extended : Bool
  unicode : Bool
  crlf : Bool

def Flags.initial : Flags := ⟨false, false, false, false, true, false⟩

abbrev Reader := StateT (List Char) Option

def peek? : Reader (Option Char) := fun text => some (text.head?, text)

def drop (n : Nat) : Reader Unit := fun text => some ((), text.drop n)

def skipBlanks : Bool → List Char → List Char
  | _, [] => []
  | true, c :: rest => skipBlanks (c ≠ '\n') rest
  | false, c :: rest =>
    if Text.isSpace c then skipBlanks false rest
    else if c = '#' then skipBlanks true rest
    else c :: rest

def blanks (flags : Flags) : Reader Unit := fun text =>
  some ((), if flags.extended then skipBlanks false text else text)

def take : Reader Char
  | c :: rest => some (c, rest)
  | [] => none

def takeIf (expected : List Char) : Reader Bool := fun text =>
  match expected.isPrefixOf? text with
  | some rest => some (true, rest)
  | none => some (false, text)

inductive Escaped where
  | char (c : Char)
  | set (s : CharSet)
  | assertion (a : Assertion)

def hexValue? (c : Char) : Option Nat :=
  if c.isDigit then some (c.toNat - '0'.toNat)
  else if 'a' ≤ c && c ≤ 'f' then some (c.toNat - 'a'.toNat + 10)
  else if 'A' ≤ c && c ≤ 'F' then some (c.toNat - 'A'.toNat + 10)
  else none

def scalar? (n : Nat) : Option Char := if n.isValidChar then some (Char.ofNat n) else none

def hexDigits (flags : Flags) : Nat → Nat → Reader Nat
  | 0, value => return value
  | n + 1, value => do
    let digit ← hexValue? (← take)
    blanks flags
    hexDigits flags n (16 * value + digit)

def untilBrace (flags : Flags) : Nat → Reader (List Char)
  | 0 => failure
  | fuel + 1 => do
    blanks flags
    let c ← take
    if c = '\x7d' then return []
    return c :: (← untilBrace flags fuel)

def braced (flags : Flags) : Reader (List Char) := fun text =>
  untilBrace flags (text.length + 1) text

def hexChar (flags : Flags) (digits : Nat) : Reader Char := do
  blanks flags
  if ← takeIf ['\x7b'] then
    let signs ← braced flags
    if signs.isEmpty then failure
    let values ← signs.mapM fun c => (hexValue? c : Option Nat)
    let c ← scalar? (values.foldl (fun n d => 16 * n + d) 0)
    blanks flags
    return c
  else
    let c ← scalar? (← hexDigits flags digits 0)
    return c

/-- Bytes above the basic characters stand for themselves where the full character set is off, and
no pattern may match one of them alone. -/
def staysAscii (s : CharSet) : Bool :=
  (List.range 128).all fun n => !s (Char.ofNat (128 + n))

def closed (flags : Flags) (negated : Bool) (s : CharSet) : CharSet :=
  let s := if !flags.ignoreCase then s
    else if flags.unicode then s.folded else s.foldedAscii
  if negated then s.compl else s

def property (flags : Flags) (negated : Bool) : Reader CharSet := do
  if !flags.unicode then failure
  blanks flags
  if ← takeIf ['\x7b'] then
    let name ← braced flags
    blanks flags
    let cut (sep : Char) : Option (List Char × List Char) := Text.splitFirst sep name
    match cut '!' with
    | some (key, '=' :: value) =>
      let s ← CharSet.valued? key value
      return closed flags (!negated) s
    | _ =>
      match (cut ':').orElse fun _ => cut '=' with
      | some (key, value) =>
        let s ← CharSet.valued? key value
        return closed flags negated s
      | none =>
        let s ← CharSet.named? name
        return closed flags negated s
  else
    let c ← take
    if c = '\\' then failure
    blanks flags
    let s ← CharSet.named? [c]
    return closed flags negated s

def lettered? (flags : Flags) (c : Char) : Option CharSet :=
  let limited (s : CharSet) : CharSet := fun c => (flags.unicode || Text.isAscii c) && s c
  match c with
  | 'd' => some (limited Text.isDecimalDigit)
  | 's' => some (limited Text.isSpace)
  | 'w' => some (limited Text.isWord)
  | 'D' => some (CharSet.compl (limited Text.isDecimalDigit))
  | 'S' => some (CharSet.compl (limited Text.isSpace))
  | 'W' => some (CharSet.compl (limited Text.isWord))
  | _ => none

def alphabet (flags : Flags) : Alphabet := if flags.unicode then .full else .ascii

def boundary (flags : Flags) : Reader Assertion := fun text =>
  let plain := Assertion.wordBoundary (alphabet flags)
  let isNameChar (c : Char) : Bool := c.isAlpha || c = '-'
  match text with
  | '\x7b' :: rest =>
    match (if flags.extended then skipBlanks false rest else rest) with
    | [] => none
    | c :: rest =>
      if isNameChar c then do
        let (name, rest) ← braced flags (c :: rest)
        match String.ofList name with
        | "start" => some (.wordStart (alphabet flags), rest)
        | "end" => some (.wordEnd (alphabet flags), rest)
        | "start-half" => some (.wordStartHalf (alphabet flags), rest)
        | "end-half" => some (.wordEndHalf (alphabet flags), rest)
        | _ => none
      else some (plain, text)
  | _ => some (plain, text)

def isMeta (c : Char) : Bool := "\\.+*?()|[]\x7b\x7d^$#&-~".toList.contains c

def escape (flags : Flags) : Reader Escaped := do
  let c ← take
  match c with
  | 'x' => return .char (← hexChar flags 2)
  | 'u' => return .char (← hexChar flags 4)
  | 'U' => return .char (← hexChar flags 8)
  | 'p' => return .set (← property flags false)
  | 'P' => return .set (← property flags true)
  | 'a' => return .char '\x07'
  | 'f' => return .char '\x0c'
  | 't' => return .char '\t'
  | 'n' => return .char '\n'
  | 'r' => return .char '\r'
  | 'v' => return .char '\x0b'
  | 'A' => return .assertion .textStart
  | 'z' => return .assertion .textEnd
  | 'b' => return .assertion (← boundary flags)
  | 'B' => return .assertion (.noWordBoundary (alphabet flags))
  | '<' => return .assertion (.wordStart (alphabet flags))
  | '>' => return .assertion (.wordEnd (alphabet flags))
  | c =>
    match lettered? flags c with
    | some s => return .set s
    | none =>
      if isMeta c || (Text.isAscii c && !c.isAlphanum) then return .char c
      failure

end MergeQueue.Pattern
