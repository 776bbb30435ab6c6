import MergeQueue.Pattern.CharSet

/-! Patterns and the texts they occur in. A pattern moves a reader through a text; what it does is
told by the positions it can lead to from given ones. -/

namespace MergeQueue

inductive Pattern.Alphabet where
  | full
  | ascii

inductive Pattern.Assertion where
  | textStart
  | textEnd
  | lineStart (crlf : Bool)
  | lineEnd (crlf : Bool)
  | wordBoundary (alphabet : Alphabet)
  | noWordBoundary (alphabet : Alphabet)
  | wordStart (alphabet : Alphabet)
  | wordEnd (alphabet : Alphabet)
  | wordStartHalf (alphabet : Alphabet)
  | wordEndHalf (alphabet : Alphabet)

inductive Pattern where
  | empty
  | char (set : Pattern.CharSet)
  | assertion (assertion : Pattern.Assertion)
  | seq (p q : Pattern)
  | alt (p q : Pattern)
  | atLeast (p : Pattern) (least : Nat)
  | between (p : Pattern) (least most : Nat)

namespace Pattern

def Alphabet.isWord : Alphabet → Option Char → Bool
  | _, none => false
  | .full, some c => Text.isWord c
  | .ascii, some c => Text.isAscii c && Text.isWord c

def Assertion.holds (before after : Option Char) : Assertion → Bool
  | .textStart => before.isNone
  | .textEnd => after.isNone
  | .lineStart false => before.isNone || before = some '\n'
  | .lineStart true =>
    before.isNone || before = some '\n' || (before = some '\r' && after ≠ some '\n')
  | .lineEnd false => after.isNone || after = some '\n'
  | .lineEnd true =>
    after.isNone || after = some '\r' || (after = some '\n' && before ≠ some '\r')
  | .wordBoundary a => a.isWord before != a.isWord after
  | .noWordBoundary a => a.isWord before == a.isWord after
  | .wordStart a => !a.isWord before && a.isWord after
  | .wordEnd a => a.isWord before && !a.isWord after
  | .wordStartHalf a => !a.isWord before
  | .wordEndHalf a => !a.isWord after

def before (text : Array Char) : Nat → Option Char
  | 0 => none
  | n + 1 => text[n]?

def join : List Nat → List Nat → List Nat
  | [], t => t
  | s, [] => s
  | a :: s, b :: t =>
    if a < b then a :: join s (b :: t)
    else if b < a then b :: join (a :: s) t
    else a :: join s t
termination_by s t => s.length + t.length

def spread (step : List Nat → List Nat) : Nat → List Nat → List Nat
  | 0, s => s
  | n + 1, s =>
    let s' := join s (step s)
    if s' = s then s else spread step n s'

def iterate (step : List Nat → List Nat) : Nat → List Nat → List Nat
  | 0, s => s
  | n + 1, s =>
    let s' := step s
    if s' = s then s else iterate step n s'

/-- The positions, ascending, that a pattern leads to from ascending positions. -/
def advance (text : Array Char) : Pattern → List Nat → List Nat
  | .empty, s => s
  | .char set, s => s.filterMap fun i => if text[i]?.any set then some (i + 1) else none
  | .assertion a, s => s.filter fun i => a.holds (before text i) text[i]?
  | .seq p q, s => advance text q (advance text p s)
  | .alt p q, s => join (advance text p s) (advance text q s)
  | .atLeast p least, s =>
    spread (advance text p) (text.size + 1) (iterate (advance text p) least s)
  | .between p least most, s =>
    spread (advance text p) (most - least) (iterate (advance text p) least s)

def occursIn (p : Pattern) (text : String) : Bool :=
  let chars := text.toList.toArray
  !(advance chars p (List.range (chars.size + 1))).isEmpty

def steps : Pattern → Nat
  | .empty => 1
  | .char _ => 1
  | .assertion _ => 1
  | .seq p q => steps p + steps q
  | .alt p q => steps p + steps q + 1
  | .atLeast p least => steps p * max least 1 + 1
  | .between p _ most => steps p * most + 1

end Pattern

end MergeQueue
