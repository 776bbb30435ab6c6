import MergeQueue.Json.Basic

namespace MergeQueue.Json

def hexDigit (n : Nat) : Char := Nat.digitChar n

def escaped (c : Char) : List Char :=
  match c with
  | '"' => ['\\', '"']
  | '\\' => ['\\', '\\']
  | '\n' => ['\\', 'n']
  | '\r' => ['\\', 'r']
  | '\t' => ['\\', 't']
  | '\x08' => ['\\', 'b']
  | '\x0c' => ['\\', 'f']
  | c =>
    if c.toNat < 0x20 then ['\\', 'u', '0', '0', hexDigit (c.toNat / 16), hexDigit (c.toNat % 16)]
    else [c]

def writeString (s : String) (out : String) : String :=
  (s.foldl (fun acc c => (escaped c).foldl String.push acc) (out.push '"')).push '"'

mutual

def write : Json → String → String
  | .null, out => out ++ "null"
  | .bool b, out => out ++ (if b then "true" else "false")
  | .integer n, out => out ++ toString n
  | .decimal t, out => out ++ t
  | .string s, out => writeString s out
  | .array items, out => (writeItems items true (out.push '[')).push ']'
  | .object fields, out => (writeFields fields true (out.push '\x7b')).push '\x7d'

def writeItems : List Json → Bool → String → String
  | [], _, out => out
  | j :: rest, first, out =>
    writeItems rest false (write j (if first then out else out.push ','))

def writeFields : List (String × Json) → Bool → String → String
  | [], _, out => out
  | (name, j) :: rest, first, out =>
    let out := writeString name (if first then out else out.push ',')
    writeFields rest false (write j (out.push ':'))

end

def render (j : Json) : String := write j ""

end MergeQueue.Json
