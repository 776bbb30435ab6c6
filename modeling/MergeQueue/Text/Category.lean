import MergeQueue.Text.Category.Other
import MergeQueue.Text.Category.Runs

namespace MergeQueue.Text

inductive Category where
  | Lu | Ll | Lt | Lm | Lo
  | Mn | Mc | Me
  | Nd | Nl | No
  | Pc | Pd | Ps | Pe | Pi | Pf | Po
  | Sm | Sc | Sk | So
  | Zs | Zl | Zp
  | Cc | Cf | Cs | Co | Cn
  deriving DecidableEq

namespace Category

def all : List (String × Category) := [
  ("Lu", Lu), ("Ll", Ll), ("Lt", Lt), ("Lm", Lm), ("Lo", Lo), ("Mn", Mn), ("Mc", Mc), ("Me", Me),
  ("Nd", Nd), ("Nl", Nl), ("No", No), ("Pc", Pc), ("Pd", Pd), ("Ps", Ps), ("Pe", Pe), ("Pi", Pi),
  ("Pf", Pf), ("Po", Po), ("Sm", Sm), ("Sc", Sc), ("Sk", Sk), ("So", So), ("Zs", Zs), ("Zl", Zl),
  ("Zp", Zp), ("Cc", Cc), ("Cf", Cf), ("Cs", Cs), ("Co", Co), ("Cn", Cn)]

def ofName? (name : String) : Option Category := all.lookup name

def name (c : Category) : String := ((all.find? (·.2 = c)).map (·.1)).getD ""

def readRuns : Option Category → Nat → List Char → List (Category × Nat)
  | some c, n, [] => [(c, n)]
  | none, _, [] => []
  | current, n, a :: rest =>
    if a.isDigit then readRuns current (10 * n + (a.toNat - '0'.toNat)) rest
    else match rest with
      | b :: rest' =>
        let next := ofName? (String.ofList [a, b])
        match current with
        | some c => (c, n) :: readRuns next 0 rest'
        | none => readRuns next 0 rest'
      | [] => []

def table : List (Category × Nat) := runs.flatMap fun line => readRuns none 0 line.toList

def lookupRun : Nat → List (Category × Nat) → Category
  | _, [] => Cn
  | n, (c, size) :: rest => if n < size then c else lookupRun (n - size) rest

def of (c : Char) : Category := lookupRun c.toNat table

end Category

def inRanges (ranges : List (Nat × Nat)) (c : Char) : Bool :=
  ranges.any fun (lo, hi) => lo ≤ c.toNat && c.toNat ≤ hi

def isSpace (c : Char) : Bool :=
  inRanges [(0x9, 0xD), (0x20, 0x20), (0x85, 0x85), (0xA0, 0xA0), (0x1680, 0x1680),
    (0x2000, 0x200A), (0x2028, 0x2029), (0x202F, 0x202F), (0x205F, 0x205F), (0x3000, 0x3000)] c

def isAscii (c : Char) : Bool := c.toNat < 0x80

def isDecimalDigit (c : Char) : Bool :=
  if isAscii c then c.isDigit else Category.of c = .Nd

def isAlphabetic (c : Char) : Bool :=
  if isAscii c then c.isAlpha
  else match Category.of c with
    | .Lu | .Ll | .Lt | .Lm | .Lo | .Nl => true
    | .Mn | .Mc | .Me => inRanges Category.alphabeticMarks c
    | _ => inRanges Category.otherAlphabetic c

def isUppercase (c : Char) : Bool :=
  if isAscii c then c.isUpper
  else Category.of c = .Lu || inRanges Category.otherUppercase c

def isLowercase (c : Char) : Bool :=
  if isAscii c then c.isLower
  else Category.of c = .Ll || inRanges Category.otherLowercase c

def isWord (c : Char) : Bool :=
  if isAscii c then c.isAlphanum || c = '_'
  else match Category.of c with
    | .Mn | .Mc | .Me | .Nd | .Pc => true
    | _ => isAlphabetic c || c.toNat = 0x200C || c.toNat = 0x200D

def isGraphemeExtend (c : Char) : Bool :=
  if isAscii c then false
  else match Category.of c with
    | .Mn | .Me => true
    | _ => inRanges Category.otherGraphemeExtend c

def isPrintable (c : Char) : Bool :=
  if isAscii c then 0x20 ≤ c.toNat && c.toNat < 0x7F
  else match Category.of c with
    | .Zs | .Zl | .Zp | .Cc | .Cf | .Cs | .Co | .Cn => false
    | _ => true

end MergeQueue.Text
