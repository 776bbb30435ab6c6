import MergeQueue.Pattern.Bracket

namespace MergeQueue.Pattern

structure Part where
  pattern : Pattern
  depth : Nat

inductive Piece where
  | part (part : Part)
  | setting

def Piece.depth : Piece → Nat
  | .part p => p.depth
  | .setting => 0

def sequence (pieces : List Piece) : Part where
  pattern := pieces.foldl (fun behind piece => match piece, behind with
    | .part part, .empty => part.pattern
    | .part part, q => .seq part.pattern q
    | .setting, q => q) .empty
  depth := depthOf (pieces.map Piece.depth)

def lastOf : List Part → Pattern → Pattern
  | [], p => p
  | part :: earlier, p => .alt (lastOf earlier part.pattern) p

def choice (last : Part) (earlier : List Part) : Part where
  pattern := lastOf earlier last.pattern
  depth := depthOf (last.depth :: earlier.map Part.depth)

def single (flags : Flags) (s : CharSet) : Option Pattern :=
  if flags.unicode || staysAscii s then some (.char s) else none

def literal (flags : Flags) (c : Char) : Option Pattern :=
  if flags.unicode || Text.isAscii c then some (.char (closed flags false (.single c))) else none

def dot (flags : Flags) : Option Pattern :=
  single flags fun c =>
    flags.dotAll || (c ≠ '\n' && !(flags.crlf && c = '\r'))

def lineStart (flags : Flags) : Pattern :=
  .assertion (if flags.multiLine then .lineStart flags.crlf else .textStart)

def lineEnd (flags : Flags) : Pattern :=
  .assertion (if flags.multiLine then .lineEnd flags.crlf else .textEnd)

def Flags.set? (flags : Flags) (value : Bool) : Char → Option Flags
  | 'i' => some { flags with ignoreCase := value }
  | 'm' => some { flags with multiLine := value }
  | 's' => some { flags with dotAll := value }
  | 'x' => some { flags with extended := value }
  | 'u' => some { flags with unicode := value }
  | 'R' => some { flags with crlf := value }
  | 'U' => some flags
  | _ => none

inductive Opening where
  | setting (flags : Flags)
  | group (flags : Flags)

/-- The flags of a group up to the sign that ends them. Each stands at most once, and a hyphen turns
off those behind it, of which there is one at least. -/
def openingFlags : Nat → Flags → List Char → Bool → Reader Opening
  | 0, _, _, _ => failure
  | fuel + 1, flags, seen, dangling => do
    let c ← take
    match c with
    | ')' => if seen.isEmpty || dangling then failure else return .setting flags
    | ':' => if dangling then failure else return .group flags
    | '-' => if seen.contains '-' then failure else openingFlags fuel flags ('-' :: seen) true
    | c =>
      if seen.contains c then failure
      let changed ← flags.set? (!seen.contains '-') c
      openingFlags fuel changed (c :: seen) false

def isNameStart (c : Char) : Bool := c = '_' || Text.isAlphabetic c

def isNameChar (c : Char) : Bool :=
  c = '_' || c = '.' || c = '[' || c = ']' || Text.isAlphabetic c ||
    [.Nd, .Nl, .No].contains (Text.Category.of c)

def groupName : Reader (List Char) := do
  let text ← get
  let name := text.takeWhile (· ≠ '>')
  match text.dropWhile (· ≠ '>'), name with
  | '>' :: rest, c :: more =>
    if isNameStart c && more.all isNameChar then
      set rest
      return name
    failure
  | _, _ => failure

def opening (flags : Flags) : Reader (Opening × Option (List Char)) := do
  blanks flags
  let lookAround ← [['?', '='], ['?', '!'], ['?', '<', '='], ['?', '<', '!']].anyM fun signs =>
    do let text ← get; return signs.isPrefixOf text
  if lookAround then failure
  if (← takeIf ['?', 'P', '<']) || (← takeIf ['?', '<']) then
    return (.group flags, some (← groupName))
  if ← takeIf ['?'] then
    let text ← get
    return (← openingFlags (text.length + 1) flags [] false, none)
  return (.group flags, none)

def spaces : Reader Unit := fun text => some ((), text.dropWhile Text.isSpace)

def digitRun (flags : Flags) : Nat → Reader (List Char)
  | 0 => return []
  | fuel + 1 => do
    match ← peek? with
    | some c =>
      if c.isDigit then
        drop 1
        blanks flags
        return c :: (← digitRun flags fuel)
      return []
    | none => return []

def count (flags : Flags) : Reader (Option Nat) := do
  spaces
  let text ← get
  let digits ← digitRun flags text.length
  spaces
  if digits.isEmpty then return none
  let n := digits.foldl (fun n c => 10 * n + (c.toNat - '0'.toNat)) 0
  if n < 4294967296 then return some n
  failure

def counts (flags : Flags) : Reader (Nat × Option Nat) := do
  blanks flags
  let text ← get
  if text.isEmpty then failure
  let least ← count flags
  let range ← if ← takeIf [','] then do
      blanks flags
      match least, ← peek? with
      | some n, some '\x7d' => pure (n, none)
      | some n, _ =>
        match ← count flags with
        | some m => if n ≤ m then pure (n, some m) else failure
        | none => failure
      | none, _ => failure
    else match least with
      | some n => pure (n, some n)
      | none => failure
  if ← takeIf ['\x7d'] then
    blanks flags
    let _ ← takeIf ['?']
    return range
  failure

def repeated (part : Part) (range : Nat × Option Nat) : Part where
  pattern := match range with
    | (least, none) => .atLeast part.pattern least
    | (least, some most) => .between part.pattern least most
  depth := part.depth + 1

/-- Reads the branches of a group, or of the whole pattern, which then has to end the text. The
flags are those in force, the branch being read is given by its pieces in reverse, as are the
branches before it, and the names are those of the groups before. -/
def branches : Nat → Bool → Flags → List (List Char) → List Part → List Piece →
    Reader (Part × List (List Char))
  | 0, _, _, _, _, _ => failure
  | fuel + 1, nested, flags, names, earlier, pieces => do
    let addPart (part : Part) := branches fuel nested flags names earlier (.part part :: pieces)
    let add (p : Pattern) := addPart ⟨p, 0⟩
    let repeatLast (range : Nat × Option Nat) := match pieces with
      | .part part :: rest =>
        branches fuel nested flags names earlier (.part (repeated part range) :: rest)
      | _ => failure
    let lazily : Reader Unit := do let _ ← takeIf ['?']
    blanks flags
    match ← peek? with
    | none => if nested then failure else return (choice (sequence pieces) earlier, names)
    | some c =>
      drop 1
      match c with
      | ')' => if nested then return (choice (sequence pieces) earlier, names) else failure
      | '|' => branches fuel nested flags names (sequence pieces :: earlier) []
      | '(' =>
        let (how, name) ← opening flags
        if name.any names.contains then failure
        let names := name.toList ++ names
        match how with
        | .setting flags => branches fuel nested flags names earlier (.setting :: pieces)
        | .group inner =>
          let (part, names) ← branches fuel true inner names [] []
          let group : Part := { part with depth := part.depth + 1 }
          branches fuel nested flags names earlier (.part group :: pieces)
      | '[' =>
        let text ← get
        let (s, depth) ← bracket flags (text.length + 1)
        addPart ⟨← single flags s, depth⟩
      | '?' => lazily; repeatLast (0, some 1)
      | '*' => lazily; repeatLast (0, none)
      | '+' => lazily; repeatLast (1, none)
      | '\x7b' =>
        match pieces with
        | .part _ :: _ => repeatLast (← counts flags)
        | _ => failure
      | '.' => add (← dot flags)
      | '^' => add (lineStart flags)
      | '$' => add (lineEnd flags)
      | '\\' =>
        match ← escape flags with
        | .char c => add (← literal flags c)
        | .set s => add (← single flags s)
        | .assertion a => add (.assertion a)
      | c => add (← literal flags c)

def nestLimit : Nat := 250

/-- The steps a pattern may have at most with its repetitions written out. The matcher bounds a
compiled pattern by 10 MiB, in which some 26 bytes stand for a step. A large set takes several of its
steps, so it has less room for these. -/
def sizeLimit : Nat := 400000

def parse? (text : String) : Option Pattern :=
  match branches (text.length + 1) false .initial [] [] [] text.toList with
  | some ((part, _), _) =>
    if part.depth ≤ nestLimit && part.pattern.steps ≤ sizeLimit then some part.pattern else none
  | none => none

end MergeQueue.Pattern
