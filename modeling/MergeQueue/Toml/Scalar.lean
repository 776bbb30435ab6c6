import MergeQueue.Json.Parser
import MergeQueue.Toml.Basic

namespace MergeQueue.Toml

open Json (hexValue? digitsValue)

def isBlank (c : Char) : Bool := c = ' ' || c = '\t'

def skipBlanks (cs : List Char) : List Char := cs.dropWhile isBlank

def isVisible (c : Char) : Bool := c = '\t' || (0x20 ≤ c.toNat && c.toNat ≠ 0x7F)

def newline? : List Char → Option (List Char)
  | '\n' :: rest => some rest
  | '\r' :: '\n' :: rest => some rest
  | _ => none

def skipBlankLines : List Char → List Char
  | '\r' :: '\n' :: rest => skipBlankLines rest
  | c :: rest => if isBlank c || c = '\n' then skipBlankLines rest else c :: rest
  | [] => []

def hexNumber? (ds : List Char) : Option Nat :=
  ds.foldlM (fun n c => (hexValue? c).map (16 * n + ·)) 0

def codePoint? (count : Nat) (cs : List Char) : Option (Char × List Char) :=
  if cs.length < count then none
  else
    match hexNumber? (cs.take count) with
    | some n =>
      if n < 0xD800 || (0xDFFF < n && n < 0x110000) then some (Char.ofNat n, cs.drop count)
      else none
    | none => none

def escape? : List Char → Option (Char × List Char)
  | 'b' :: rest => some ('\x08', rest)
  | 't' :: rest => some ('\t', rest)
  | 'n' :: rest => some ('\n', rest)
  | 'f' :: rest => some ('\x0c', rest)
  | 'r' :: rest => some ('\r', rest)
  | '"' :: rest => some ('"', rest)
  | '\\' :: rest => some ('\\', rest)
  | 'u' :: rest => codePoint? 4 rest
  | 'U' :: rest => codePoint? 8 rest
  | _ => none

def basic? : Nat → List Char → List Char → Option (List Char × List Char)
  | 0, _, _ => none
  | fuel + 1, acc, cs =>
    match cs with
    | '"' :: rest => some (acc.reverse, rest)
    | '\\' :: rest =>
      match escape? rest with
      | some (c, rest) => basic? fuel (c :: acc) rest
      | none => none
    | c :: rest => if isVisible c then basic? fuel (c :: acc) rest else none
    | [] => none

def basicLines? : Nat → List Char → List Char → Option (List Char × List Char)
  | 0, _, _ => none
  | fuel + 1, acc, cs =>
    match cs with
    | '"' :: '"' :: '"' :: '"' :: '"' :: rest => some (('"' :: '"' :: acc).reverse, rest)
    | '"' :: '"' :: '"' :: '"' :: rest => some (('"' :: acc).reverse, rest)
    | '"' :: '"' :: '"' :: rest => some (acc.reverse, rest)
    | '\\' :: rest =>
      match newline? (skipBlanks rest) with
      | some rest => basicLines? fuel acc (skipBlankLines rest)
      | none =>
        match escape? rest with
        | some (c, rest) => basicLines? fuel (c :: acc) rest
        | none => none
    | c :: rest =>
      match newline? (c :: rest) with
      | some rest => basicLines? fuel ('\n' :: acc) rest
      | none => if isVisible c then basicLines? fuel (c :: acc) rest else none
    | [] => none

def literal? : List Char → List Char → Option (List Char × List Char)
  | acc, '\'' :: rest => some (acc.reverse, rest)
  | acc, c :: rest => if isVisible c then literal? (c :: acc) rest else none
  | _, [] => none

def literalLines? : List Char → List Char → Option (List Char × List Char)
  | acc, '\'' :: '\'' :: '\'' :: '\'' :: '\'' :: rest => some (('\'' :: '\'' :: acc).reverse, rest)
  | acc, '\'' :: '\'' :: '\'' :: '\'' :: rest => some (('\'' :: acc).reverse, rest)
  | acc, '\'' :: '\'' :: '\'' :: rest => some (acc.reverse, rest)
  | acc, '\r' :: '\n' :: rest => literalLines? ('\n' :: acc) rest
  | acc, '\n' :: rest => literalLines? ('\n' :: acc) rest
  | acc, c :: rest => if isVisible c then literalLines? (c :: acc) rest else none
  | _, [] => none

def dropFirstNewline (cs : List Char) : List Char := (newline? cs).getD cs

def string? : List Char → Option (String × List Char)
  | '"' :: '"' :: '"' :: rest =>
    (basicLines? (rest.length + 1) [] (dropFirstNewline rest)).map
      fun (s, rest) => (String.ofList s, rest)
  | '"' :: rest => (basic? (rest.length + 1) [] rest).map fun (s, rest) => (String.ofList s, rest)
  | '\'' :: '\'' :: '\'' :: rest =>
    (literalLines? [] (dropFirstNewline rest)).map fun (s, rest) => (String.ofList s, rest)
  | '\'' :: rest => (literal? [] rest).map fun (s, rest) => (String.ofList s, rest)
  | _ => none

def grouped? (isDigit : Char → Bool) : List Char → Option (List Char × List Char)
  | c :: '_' :: rest =>
    if isDigit c then (grouped? isDigit rest).map fun (ds, rest) => (c :: ds, rest) else none
  | c :: rest =>
    if isDigit c then
      match grouped? isDigit rest with
      | some (ds, rest) => some (c :: ds, rest)
      | none => some ([c], rest)
    else none
  | [] => none

def sign? : List Char → Option Char × List Char
  | '+' :: rest => (some '+', rest)
  | '-' :: rest => (some '-', rest)
  | cs => (none, cs)

def decimalDigits? (cs : List Char) : Option (List Char × List Char) :=
  match cs with
  | '0' :: rest => some (['0'], rest)
  | cs => grouped? Char.isDigit cs

def inInt64 (n : Int) : Bool := -9223372036854775808 ≤ n && n < 9223372036854775808

def radix? (base : Nat) (isDigit : Char → Bool) (cs : List Char) : Option (Int × List Char) :=
  match grouped? isDigit cs with
  | some (ds, rest) =>
    let n := ds.foldl (fun n c => base * n + (hexValue? c).getD 0) 0
    if inInt64 n then some (n, rest) else none
  | none => none

def isOctal (c : Char) : Bool := '0' ≤ c && c ≤ '7'

def isBinary (c : Char) : Bool := c = '0' || c = '1'

def integer? (cs : List Char) : Option (Int × List Char) :=
  match cs with
  | '0' :: 'x' :: rest => radix? 16 (fun c => (hexValue? c).isSome) rest
  | '0' :: 'o' :: rest => radix? 8 isOctal rest
  | '0' :: 'b' :: rest => radix? 2 isBinary rest
  | cs =>
    let (sign, cs) := sign? cs
    match decimalDigits? cs with
    | some (ds, rest) =>
      let n : Int := digitsValue ds
      let n := if sign = some '-' then -n else n
      if inInt64 n then some (n, rest) else none
    | none => none

def fraction? : List Char → Option (List Char × List Char)
  | '.' :: rest => (grouped? Char.isDigit rest).map fun (ds, rest) => ('.' :: ds, rest)
  | _ => none

def exponent? : List Char → Option (List Char × List Char)
  | c :: rest =>
    if c = 'e' || c = 'E' then
      let (sign, rest) := sign? rest
      (grouped? Char.isDigit rest).map fun (ds, rest) => ('e' :: sign.toList ++ ds, rest)
    else none
  | [] => none

def float? (cs : List Char) : Option (String × List Char) :=
  let (sign, cs) := sign? cs
  let lead := sign.toList
  match cs with
  | 'i' :: 'n' :: 'f' :: rest => some (String.ofList (lead ++ "inf".toList), rest)
  | 'n' :: 'a' :: 'n' :: rest => some (String.ofList (lead ++ "nan".toList), rest)
  | cs =>
    match decimalDigits? cs with
    | none => none
    | some (ds, rest) =>
      match fraction? rest with
      | some (frac, rest) =>
        match exponent? rest with
        | some (exp, rest) => some (String.ofList (lead ++ ds ++ frac ++ exp), rest)
        | none => some (String.ofList (lead ++ ds ++ frac), rest)
      | none =>
        (exponent? rest).map fun (exp, rest) => (String.ofList (lead ++ ds ++ exp), rest)

def twoDigits? (count lo hi : Nat) (cs : List Char) : Option (Nat × List Char) :=
  let ds := cs.take count
  if ds.length = count && ds.all Char.isDigit then
    let n := digitsValue ds
    if lo ≤ n && n ≤ hi then some (n, cs.drop count) else none
  else none

def expect? (c : Char) : List Char → Option (List Char)
  | d :: rest => if d = c then some rest else none
  | [] => none

def daysInMonth (year month : Nat) : Nat :=
  if month = 2 then
    if (year % 4 = 0 && year % 100 ≠ 0) || year % 400 = 0 then 29 else 28
  else if month = 4 || month = 6 || month = 9 || month = 11 then 30
  else 31

def date? (cs : List Char) : Option (List Char) := do
  let (year, cs) ← twoDigits? 4 0 9999 cs
  let cs ← expect? '-' cs
  let (month, cs) ← twoDigits? 2 1 12 cs
  let cs ← expect? '-' cs
  let (_, cs) ← twoDigits? 2 1 (daysInMonth year month) cs
  return cs

def time? (cs : List Char) : Option (List Char) := do
  let (_, cs) ← twoDigits? 2 0 23 cs
  let cs ← expect? ':' cs
  let (_, cs) ← twoDigits? 2 0 59 cs
  let cs ← expect? ':' cs
  let (_, cs) ← twoDigits? 2 0 60 cs
  match cs with
  | '.' :: c :: rest => if c.isDigit then return rest.dropWhile Char.isDigit else none
  | cs => return cs

def offset? : List Char → Option (List Char)
  | 'Z' :: rest => some rest
  | 'z' :: rest => some rest
  | '+' :: rest => hours rest
  | '-' :: rest => hours rest
  | cs => some cs
where
  hours (cs : List Char) : Option (List Char) := do
    let (_, cs) ← twoDigits? 2 0 23 cs
    let cs ← expect? ':' cs
    let (_, cs) ← twoDigits? 2 0 59 cs
    return cs

def startsDatetime (cs : List Char) : Bool :=
  match cs with
  | a :: b :: c :: d :: rest =>
    a.isDigit && b.isDigit && (c = ':' || (c.isDigit && d.isDigit && rest.head? = some '-'))
  | a :: b :: c :: [] => a.isDigit && b.isDigit && c = ':'
  | _ => false

def datetime? (cs : List Char) : Option (String × List Char) := do
  let rest ←
    match cs with
    | _ :: _ :: ':' :: _ => time? cs
    | cs =>
      match date? cs with
      | some (sep :: rest) =>
        if sep = 'T' || sep = 't' then (time? rest).bind offset?
        else if sep = ' ' then
          match time? rest with
          | some rest => offset? rest
          | none => some (sep :: rest)
        else some (sep :: rest)
      | other => other
  return (String.ofList (cs.take (cs.length - rest.length)), rest)

end MergeQueue.Toml
