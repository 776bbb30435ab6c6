import MergeQueue.Text.Affix
import MergeQueue.Web.Fault
import MergeQueue.Web.Percent

namespace MergeQueue.Web.HostName

def splitOn (sep : Char) (text : List Char) : List (List Char) :=
  text.foldr (fun c parts => match parts with
    | part :: rest => if c = sep then [] :: part :: rest else (c :: part) :: rest
    | [] => []) [[]]

def number (radix : Nat) (digits : List Char) : Option Nat :=
  digits.foldlM (fun n c => (Percent.hexValue? c).bind fun d =>
    if d < radix then some (radix * n + d) else none) 0

def addressPart? (text : List Char) : Option Nat :=
  match text with
  | [] => none
  | '0' :: 'x' :: digits => number 16 digits
  | '0' :: 'X' :: digits => number 16 digits
  | '0' :: c :: digits => number 8 (c :: digits)
  | digits => number 10 digits

def withoutTrailingEmpty (parts : List (List Char)) : List (List Char) :=
  match parts.reverse with
  | [] :: rest => rest.reverse
  | _ => parts

def endsInNumber (name : List Char) : Bool :=
  match (withoutTrailingEmpty (splitOn '.' name)).getLast? with
  | some last => (!last.isEmpty && last.all Char.isDigit) || (addressPart? last).isSome
  | none => false

def ipv4? (name : List Char) : Option Nat := do
  let parts := withoutTrailingEmpty (splitOn '.' name)
  let numbers ← parts.mapM addressPart?
  let last ← numbers.getLast?
  let front := numbers.dropLast
  if front.length > 3 || front.any (· > 255) || last ≥ Nat.pow 256 (4 - front.length) then none
  else
    let lead := front.foldl (fun n part => 256 * n + part) 0
    some (lead * Nat.pow 256 (4 - front.length) + last)

def ipv4Text (n : Nat) : List Char :=
  (Nat.repr (n / 16777216) ++ "." ++ Nat.repr (n / 65536 % 256) ++ "." ++
    Nat.repr (n / 256 % 256) ++ "." ++ Nat.repr (n % 256)).toList

def ipv6Group? (text : List Char) : Option Nat :=
  if text.isEmpty || text.length > 4 then none else number 16 text

def embedded? (text : List Char) : Option (List Nat) := do
  let parts := splitOn '.' text
  if parts.length ≠ 4 then none
  let bytes ← parts.mapM fun part =>
    if part.isEmpty || (part.length > 1 && part.head? = some '0') then none
    else (number 10 part).filter (· ≤ 255)
  match bytes with
  | [a, b, c, d] => some [256 * a + b, 256 * c + d]
  | _ => none

def ipv6Groups? : List (List Char) → Option (List Nat)
  | [] => some []
  | [last] =>
    if last.contains '.' then embedded? last else (ipv6Group? last).map ([·])
  | part :: rest => do
    let group ← ipv6Group? part
    return group :: (← ipv6Groups? rest)

def splitDouble : List Char → Option (List Char × List Char)
  | ':' :: ':' :: rest => some ([], rest)
  | c :: rest => (splitDouble rest).map fun (front, back) => (c :: front, back)
  | [] => none

def groupsOf (text : List Char) : Option (List Nat) :=
  if text.isEmpty then some [] else ipv6Groups? (splitOn ':' text)

def ipv6? (text : List Char) : Option (List Nat) :=
  match splitDouble text with
  | none => (groupsOf text).filter (·.length = 8)
  | some (front, back) => do
    let lead ← groupsOf front
    let rest ← groupsOf back
    if front.contains '.' || lead.length + rest.length > 7 then none
    else some (lead ++ List.replicate (8 - lead.length - rest.length) 0 ++ rest)

def longestZeros (groups : List Nat) : Nat × Nat :=
  let runs := (List.range groups.length).map fun start =>
    (start, ((groups.drop start).takeWhile (· = 0)).length)
  runs.foldl (fun best run => if run.2 > best.2 then run else best) (0, 0)

def colonJoined (groups : List Nat) : String :=
  Text.joined ":" (groups.map fun g => String.ofList (Nat.toDigits 16 g))

def ipv6Text (groups : List Nat) : List Char :=
  let (start, length) := longestZeros groups
  let inner := if length < 2 then colonJoined groups
    else colonJoined (groups.take start) ++ "::" ++ colonJoined (groups.drop (start + length))
  ("[" ++ inner ++ "]").toList

def bracketed (text : List Char) : Except AddressFault (List Char) :=
  match text.getLast?, ipv6? text.dropLast with
  | some ']', some groups => .ok (ipv6Text groups)
  | _, _ => .error .ipv6

def isForbidden (c : Char) : Bool :=
  c.toNat ≤ 0x20 || c.toNat = 0x7F || "#/:<>?@[\\]^|%".toList.contains c

def parse (text : List Char) : Except AddressFault (List Char) :=
  match text with
  | [] => .error .emptyHost
  | '[' :: rest => bracketed rest
  | _ =>
    match Percent.decode? (String.ofList text) with
    | none => .error .domainName
    | some name =>
      let name := (Text.toLowerAscii name).toList
      if name.any isForbidden || (splitOn '.' name).contains "xn--".toList then
        .error .domainName
      else if name.isEmpty then .error .emptyHost
      else if endsInNumber name then
        match ipv4? name with
        | some n => .ok (ipv4Text n)
        | none => .error .ipv4
      else .ok name

def isForbiddenOpaque (c : Char) : Bool :=
  c = '\x00' || " #/:<>?@[\\]^|".toList.contains c

def parseOpaque (text : List Char) : Except AddressFault (List Char) :=
  match text with
  | '[' :: rest => bracketed rest
  | _ => if text.any isForbiddenOpaque then .error .domainCharacter else .ok text

end MergeQueue.Web.HostName
