import MergeQueue.Toml.Scalar
import MergeQueue.Toml.Table

namespace MergeQueue.Toml

def isBareKey (c : Char) : Bool := c.isAlphanum || c = '_' || c = '-'

def simpleKey? (cs : List Char) : Option (String × List Char) :=
  match cs with
  | '"' :: rest => (basic? (rest.length + 1) [] rest).map fun (s, rest) => (String.ofList s, rest)
  | '\'' :: rest => (literal? [] rest).map fun (s, rest) => (String.ofList s, rest)
  | cs =>
    match cs.takeWhile isBareKey with
    | [] => none
    | key => some (String.ofList key, cs.dropWhile isBareKey)

def key? : Nat → List Char → Option (List String × List Char)
  | 0, _ => none
  | fuel + 1, cs =>
    match simpleKey? (skipBlanks cs) with
    | none => none
    | some (key, rest) =>
      match skipBlanks rest with
      | '.' :: rest => (key? fuel rest).map fun (keys, rest) => (key :: keys, rest)
      | rest => some ([key], rest)

def comment? : List Char → Option (List Char)
  | '#' :: rest =>
    let rest := rest.dropWhile isVisible
    match rest with
    | [] => some []
    | _ => (newline? rest).map fun _ => rest
  | cs => some cs

def skipGaps? : Nat → List Char → Option (List Char)
  | 0, _ => none
  | fuel + 1, cs =>
    match skipBlankLines cs with
    | '#' :: rest => (comment? ('#' :: rest)).bind (skipGaps? fuel)
    | cs => some cs

def number? (cs : List Char) : Option (Toml × List Char) :=
  if startsDatetime cs then (datetime? cs).map fun (t, rest) => (.datetime t, rest)
  else
    match float? cs with
    | some (t, rest) => some (.float t, rest)
    | none => (integer? cs).map fun (n, rest) => (.integer n, rest)

mutual

def value? : Nat → Nat → List Char → Option (Toml × List Char)
  | 0, _, _ => none
  | fuel + 1, depth, cs =>
    match cs with
    | '"' :: _ => (string? cs).map fun (s, rest) => (.string s, rest)
    | '\'' :: _ => (string? cs).map fun (s, rest) => (.string s, rest)
    | 't' :: 'r' :: 'u' :: 'e' :: rest => some (.bool true, rest)
    | 'f' :: 'a' :: 'l' :: 's' :: 'e' :: rest => some (.bool false, rest)
    | '[' :: rest =>
      match depth with
      | 0 => none
      | depth + 1 => (items? fuel depth [] rest).map fun (items, rest) => (.array items, rest)
    | '\x7b' :: rest =>
      match depth, skipBlanks rest with
      | 0, _ => none
      | _, '\x7d' :: rest => some (.table [], rest)
      | depth + 1, rest =>
        (pairs? fuel depth [] rest).map fun (entries, rest) => (.table (closeEntries entries), rest)
    | cs => number? cs

def items? : Nat → Nat → List Toml → List Char → Option (List Toml × List Char)
  | 0, _, _, _ => none
  | fuel + 1, depth, acc, cs =>
    match skipGaps? (cs.length + 1) cs with
    | none => none
    | some (']' :: rest) => some (acc.reverse, rest)
    | some cs =>
      match value? fuel depth cs with
      | none => none
      | some (v, rest) =>
        match skipGaps? (rest.length + 1) rest with
        | some (',' :: rest) => items? fuel depth (v :: acc) rest
        | some (']' :: rest) => some ((v :: acc).reverse, rest)
        | _ => none

def pairs? : Nat → Nat → Entries → List Char → Option (Entries × List Char)
  | 0, _, _, _ => none
  | fuel + 1, depth, entries, cs =>
    match key? (cs.length + 1) cs with
    | some (keys, '=' :: rest) =>
      match value? fuel depth (skipBlanks rest) with
      | none => none
      | some (v, rest) =>
        match bindDotted keys.dropLast (keys.getLast?.getD "") v entries with
        | none => none
        | some entries =>
          match skipBlanks rest with
          | ',' :: rest => pairs? fuel depth entries rest
          | '\x7d' :: rest => some (entries, rest)
          | _ => none
    | _ => none

end

def maxDepth : Nat := 79

def lineEnd? (cs : List Char) : Option (List Char) :=
  match comment? (skipBlanks cs) with
  | some [] => some []
  | some rest => newline? rest
  | none => none

structure Draft where
  entries : Entries
  current : List String

def Draft.header (open? : String → Entries → Option Entries) (keys : List String) (d : Draft) :
    Option Draft :=
  (alongHeader (open? (keys.getLast?.getD "")) keys.dropLast d.entries).map fun entries =>
    ⟨entries, keys⟩

def line? (d : Draft) (cs : List Char) : Option (Draft × List Char) :=
  match cs with
  | '[' :: '[' :: rest => do
    let (keys, rest) ← key? (rest.length + 1) rest
    match rest with
    | ']' :: ']' :: rest => return (← d.header openElement keys, rest)
    | _ => none
  | '[' :: rest => do
    let (keys, rest) ← key? (rest.length + 1) rest
    match rest with
    | ']' :: rest => return (← d.header openTable keys, rest)
    | _ => none
  | cs => do
    let (keys, rest) ← key? (cs.length + 1) cs
    match rest with
    | '=' :: rest =>
      let (v, rest) ← value? (2 * rest.length + 2) maxDepth (skipBlanks rest)
      let entries ←
        alongHeader (bindDotted keys.dropLast (keys.getLast?.getD "") v) d.current d.entries
      return ({ d with entries := entries }, rest)
    | _ => none

def lines? : Nat → Draft → List Char → Option Draft
  | 0, _, _ => none
  | fuel + 1, d, cs =>
    match skipBlankLines cs with
    | [] => some d
    | '#' :: rest => (lineEnd? ('#' :: rest)).bind (lines? fuel d)
    | cs =>
      match line? d cs with
      | none => none
      | some (d, rest) => (lineEnd? rest).bind (lines? fuel d)

def parse? (text : String) : Option Toml :=
  let cs := match text.toList with
    | '\ufeff' :: rest => rest
    | cs => cs
  (lines? (cs.length + 1) ⟨[], []⟩ cs).map fun d => .table (closeEntries d.entries)

end MergeQueue.Toml
