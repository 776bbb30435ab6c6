import MergeQueue.Web.HostName

/-! Reading an address brings it to its normal form. -/

namespace MergeQueue.Web

structure Authority where
  userInfo : List Char
  host : List Char
  port : Option Nat
  deriving DecidableEq

structure Url where
  scheme : String
  authority : Authority
  path : List Char
  query : Option (List Char)
  fragment : Option (List Char)
  deriving DecidableEq

namespace Url

def defaultPort? (scheme : String) : Option Nat :=
  match scheme with
  | "http" | "ws" => some 80
  | "https" | "wss" => some 443
  | "ftp" => some 21
  | _ => none

def isControl (c : Char) : Bool := c.toNat < 0x20 || c.toNat ≥ 0x7F

def keepsInFragment (c : Char) : Bool := !isControl c && !" \"<>\x60".toList.contains c

def keepsInPath (c : Char) : Bool := keepsInFragment c && !"#?\x7b\x7d".toList.contains c

def keepsInUserInfo (c : Char) : Bool := keepsInPath c && !"/:;=@[\\]^|".toList.contains c

def keepsInQuery (c : Char) : Bool := !isControl c && !" \"#<>'".toList.contains c

def tidy (text : List Char) : List Char :=
  let blank (c : Char) : Bool := c.toNat ≤ 0x20
  let trimmed := ((text.dropWhile blank).reverse.dropWhile blank).reverse
  trimmed.filter fun c => c ≠ '\t' && c ≠ '\n' && c ≠ '\r'

def isSchemeChar (c : Char) : Bool := c.isAlphanum || c = '+' || c = '-' || c = '.'

def scheme? (text : List Char) : Option (String × List Char) :=
  let name := text.takeWhile isSchemeChar
  match name, text.dropWhile isSchemeChar with
  | c :: _, ':' :: rest =>
    if c.isAlpha then some (Text.toLowerAscii (String.ofList name), rest) else none
  | _, _ => none

def endsAuthority (c : Char) : Bool := c = '/' || c = '\\' || c = '?' || c = '#'

def hostEnd : Bool → List Char → List Char × List Char
  | _, [] => ([], [])
  | bracketed, c :: rest =>
    if c = ':' && !bracketed then ([], c :: rest)
    else
      let (host, behind) := hostEnd (c = '[' || (bracketed && c ≠ ']')) rest
      (c :: host, behind)

def readPort (scheme : String) (text : List Char) : Except AddressFault (Option Nat) :=
  let digits := text.takeWhile (!endsAuthority ·)
  if digits.all Char.isDigit then
    if digits.isEmpty then .ok none
    else
      let n := digits.foldl (fun n c => 10 * n + (c.toNat - '0'.toNat)) 0
      if n > 65535 then .error .port
      else .ok (if defaultPort? scheme = some n then none else some n)
  else .error .port

def readUserInfo (text : List Char) : List Char :=
  match Text.splitFirst ':' text with
  | some (user, password) =>
    let secret := Percent.encodeWith keepsInUserInfo password
    Percent.encodeWith keepsInUserInfo user ++ (if secret.isEmpty then [] else ':' :: secret)
  | none => Percent.encodeWith keepsInUserInfo text

def readAuthority (readHost : List Char → Except AddressFault (List Char)) (scheme : String)
    (text : List Char) : Except AddressFault Authority := do
  let (info, place) := match Text.splitLast '@' text with
    | some (info, place) => (readUserInfo info, place)
    | none => ([], text)
  let (host, behind) := hostEnd false place
  let host ← readHost host
  if host.isEmpty && !(info ++ behind).isEmpty then .error .emptyHost
  else return ⟨info, host, ← readPort scheme (behind.drop 1)⟩

def isParent (step : List Char) : Bool :=
  ["..", ".%2e", "%2e.", "%2e%2e"].contains (Text.toLowerAscii (String.ofList step))

def isCurrent (step : List Char) : Bool :=
  [".", "%2e"].contains (Text.toLowerAscii (String.ofList step))

def walk : List (List Char) → List (List Char) → List (List Char)
  | folders, [] => folders.reverse
  | folders, step :: rest =>
    if isParent step then
      walk (if rest.isEmpty then [] :: folders.tail else folders.tail) rest
    else if isCurrent step then walk (if rest.isEmpty then [] :: folders else folders) rest
    else walk (step :: folders) rest

def normalPath (text : List Char) : List Char :=
  let steps := HostName.splitOn '/' (text.map fun c => if c = '\\' then '/' else c)
  let steps := match steps with
    | [] :: next :: rest => next :: rest
    | steps => steps
  (walk [] (steps.map (Percent.encodeWith keepsInPath))).flatMap ('/' :: ·)

def readRest (scheme : String) (text : List Char) : Except AddressFault Url := do
  let text := text.dropWhile fun c => c = '/' || c = '\\'
  let authority ← readAuthority HostName.parse scheme (text.takeWhile (!endsAuthority ·))
  let behind := text.dropWhile (!endsAuthority ·)
  let (main, fragment) := match Text.splitFirst '#' behind with
    | some (main, fragment) => (main, some (Percent.encodeWith keepsInFragment fragment))
    | none => (behind, none)
  let (path, query) := match Text.splitFirst '?' main with
    | some (path, query) => (path, some (Percent.encodeWith keepsInQuery query))
    | none => (main, none)
  return ⟨scheme, authority, normalPath path, query, fragment⟩

def isDrive : List Char → Bool
  | [c, d] => c.isAlpha && (d = ':' || d = '|')
  | _ => false

def foreignAuthority (scheme : String) (text : List Char) : Except AddressFault Authority :=
  let missing : Authority := ⟨[], [], none⟩
  if scheme = "file" then
    match text with
    | c :: d :: rest =>
      let host := rest.takeWhile (!endsAuthority ·)
      if !(c = '/' || c = '\\') || !(d = '/' || d = '\\') || host.isEmpty || isDrive host then
        .ok missing
      else do return { missing with host := ← HostName.parse host }
    | _ => .ok missing
  else
    match text with
    | '/' :: '/' :: rest =>
      readAuthority HostName.parseOpaque scheme
        (rest.takeWhile fun c => c ≠ '/' && c ≠ '?' && c ≠ '#')
    | _ => .ok missing

/-- Of an address whose scheme is no network scheme only the authority is looked at; all that follows
the scheme is kept as its path. -/
def parse (text : String) : Except AddressFault Url :=
  match scheme? (tidy text.toList) with
  | none => .error .relative
  | some (scheme, text) =>
    if (defaultPort? scheme).isSome then readRest scheme text
    else do return ⟨scheme, ← foreignAuthority scheme text, text, none, none⟩

def isHttp (url : Url) : Bool := url.scheme = "http" || url.scheme = "https"

def withQuery (url : Url) (fields : List (String × String)) : Url :=
  if fields.isEmpty then url
  else
    let added := Text.joined "&" (fields.map fun (name, value) => name ++ "=" ++ value)
    let query := match url.query with
      | some (c :: query) => c :: query ++ '&' :: added.toList
      | _ => added.toList
    { url with query := some query }

def text (url : Url) : String :=
  let port := match url.authority.port with
    | some n => ":" ++ Nat.repr n
    | none => ""
  let query := match url.query with
    | some query => '?' :: query
    | none => []
  let fragment := match url.fragment with
    | some fragment => '#' :: fragment
    | none => []
  url.scheme ++ "://" ++ String.ofList url.authority.host ++ port ++
    String.ofList (url.path ++ query ++ fragment)

end Url

end MergeQueue.Web
