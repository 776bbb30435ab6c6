import MergeQueue.Pattern.Escape

namespace MergeQueue.Pattern

inductive SetOp where
  | inter
  | diff
  | symmDiff

def SetOp.apply : SetOp → CharSet → CharSet → CharSet
  | .inter => .inter
  | .diff => .diff
  | .symmDiff => .symmDiff

/-- How deep a list of parts nests in which each nests as deep as given. A list of one is that part. -/
def depthOf : List Nat → Nat
  | [] => 0
  | [depth] => depth
  | depths => depths.foldl max 0 + 1

structure Items where
  set : CharSet
  depths : List Nat

namespace Items

def none : Items := ⟨.none, []⟩

def add (items : Items) (s : CharSet) (depth : Nat) : Items :=
  ⟨items.set.union s, depth :: items.depths⟩

def depth (items : Items) : Nat := depthOf items.depths

end Items

def posixClass? (flags : Flags) : List Char → Option (CharSet × List Char)
  | '[' :: ':' :: rest =>
    let (negated, rest) := match rest with
      | '^' :: rest => (true, rest)
      | rest => (false, rest)
    match rest.dropWhile (· ≠ ':') with
    | ':' :: ']' :: after =>
      (CharSet.posix? (String.ofList (rest.takeWhile (· ≠ ':')))).map
        fun s => (closed flags negated s, after)
    | _ => none
  | _ => none

def literalOf : Escaped → Option Char
  | .char c => some c
  | _ => none

def classItem (flags : Flags) : Reader Escaped := do
  let c ← take
  let item ← if c = '\\' then escape flags else pure (.char c)
  if !flags.unicode && (literalOf item).any (!Text.isAscii ·) then failure
  blanks flags
  return item

def setOf : Escaped → Option CharSet
  | .char c => some (.single c)
  | .set s => some s
  | .assertion _ => none

def second? (flags : Flags) (text : List Char) : Option Char :=
  match text with
  | _ :: rest => (if flags.extended then skipBlanks false rest else rest).head?
  | [] => none

def classRange (flags : Flags) : Reader CharSet := do
  let first ← classItem flags
  let text ← get
  match text with
  | [] => failure
  | c :: _ =>
    let next := second? flags text
    if c ≠ '-' || next = some ']' || next = some '-' then
      let s ← setOf first
      return s
    drop 1
    blanks flags
    let lo ← literalOf first
    let hi ← literalOf (← classItem flags)
    if lo ≤ hi then return .range lo hi
    failure

def leadingHyphens (flags : Flags) : Nat → Items → Reader Items
  | 0, items => return items
  | fuel + 1, items => do
    blanks flags
    if ← takeIf ['-'] then leadingHyphens flags fuel (items.add (.single '-') 0)
    else return items

mutual

def bracket (flags : Flags) : Nat → Reader (CharSet × Nat)
  | 0 => failure
  | fuel + 1 => do
    blanks flags
    let negated ← takeIf ['^']
    let rest ← get
    let hyphens ← leadingHyphens flags rest.length .none
    blanks flags
    let first ← if rest.head? = some '-' then pure hyphens
      else if ← takeIf [']'] then pure (hyphens.add (.single ']') 0) else pure hyphens
    let (s, depth) ← classItems flags fuel none first
    return (closed flags negated s, depth + 1)

def classItems (flags : Flags) :
    Nat → Option (SetOp × CharSet × Nat) → Items → Reader (CharSet × Nat)
  | 0, _, _ => failure
  | fuel + 1, pending, items => do
    let sofar : CharSet × Nat := match pending with
      | some (op, left, depth) =>
        (op.apply (closed flags false left) (closed flags false items.set),
          depthOf [depth, items.depth])
      | none => (items.set, items.depth)
    blanks flags
    let text ← get
    match text with
    | [] => failure
    | ']' :: rest => set rest; return sofar
    | '&' :: '&' :: rest => set rest; classItems flags fuel (some (.inter, sofar)) .none
    | '-' :: '-' :: rest => set rest; classItems flags fuel (some (.diff, sofar)) .none
    | '~' :: '~' :: rest => set rest; classItems flags fuel (some (.symmDiff, sofar)) .none
    | '[' :: rest =>
      match posixClass? flags text with
      | some (s, rest) => set rest; classItems flags fuel pending (items.add s 0)
      | none =>
        set rest
        let (s, depth) ← bracket flags fuel
        classItems flags fuel pending (items.add s depth)
    | _ =>
      let s ← classRange flags
      classItems flags fuel pending (items.add s 0)

end

end MergeQueue.Pattern
