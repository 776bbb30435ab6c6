import MergeQueue.Text.CaseFolding
import MergeQueue.Text.Category
import MergeQueue.Text.Script

namespace MergeQueue.Pattern

abbrev CharSet := Char → Bool

namespace CharSet

def single (c : Char) : CharSet := fun d => d = c

def range (lo hi : Char) : CharSet := fun c => lo ≤ c && c ≤ hi

def none : CharSet := fun _ => false

def union (s t : CharSet) : CharSet := fun c => s c || t c

def inter (s t : CharSet) : CharSet := fun c => s c && t c

def diff (s t : CharSet) : CharSet := fun c => s c && !t c

def symmDiff (s t : CharSet) : CharSet := fun c => s c != t c

def compl (s : CharSet) : CharSet := fun c => !s c

def folded (s : CharSet) : CharSet := fun c => (Text.CaseFolding.variants c).any s

def foldedAscii (s : CharSet) : CharSet := fun c => s c || s c.toLower || s c.toUpper

def posix? (name : String) : Option CharSet :=
  match name with
  | "alnum" => some Char.isAlphanum
  | "alpha" => some Char.isAlpha
  | "ascii" => some Text.isAscii
  | "blank" => some fun c => c = '\t' || c = ' '
  | "cntrl" => some fun c => c.toNat < 0x20 || c.toNat = 0x7F
  | "digit" => some Char.isDigit
  | "graph" => some fun c => 0x21 ≤ c.toNat && c.toNat ≤ 0x7E
  | "lower" => some Char.isLower
  | "print" => some fun c => 0x20 ≤ c.toNat && c.toNat ≤ 0x7E
  | "punct" => some fun c => 0x21 ≤ c.toNat && c.toNat ≤ 0x7E && !c.isAlphanum
  | "space" => some fun c => (0x9 ≤ c.toNat && c.toNat ≤ 0xD) || c = ' '
  | "upper" => some Char.isUpper
  | "word" => some fun c => c.isAlphanum || c = '_'
  | "xdigit" => some fun c => c.isDigit || ('a' ≤ c && c ≤ 'f') || ('A' ≤ c && c ≤ 'F')
  | _ => Option.none

def propertyName (name : List Char) : String :=
  let bare := match name with
    | i :: s :: rest => if i.toLower = 'i' && s.toLower = 's' then rest else name
    | _ => name
  String.ofList
    ((bare.filter fun c => Text.isAscii c && c ≠ ' ' && c ≠ '_' && c ≠ '-').map Char.toLower)

def categoryNames : List (String × String) := [
  ("letter", "l"), ("uppercaseletter", "lu"), ("lowercaseletter", "ll"), ("titlecaseletter", "lt"),
  ("modifierletter", "lm"), ("otherletter", "lo"), ("mark", "m"), ("combiningmark", "m"),
  ("nonspacingmark", "mn"), ("spacingmark", "mc"), ("enclosingmark", "me"), ("number", "n"),
  ("decimalnumber", "nd"), ("digit", "nd"), ("letternumber", "nl"), ("othernumber", "no"),
  ("punctuation", "p"), ("punct", "p"), ("connectorpunctuation", "pc"), ("dashpunctuation", "pd"),
  ("openpunctuation", "ps"), ("closepunctuation", "pe"), ("initialpunctuation", "pi"),
  ("finalpunctuation", "pf"), ("otherpunctuation", "po"), ("symbol", "s"), ("mathsymbol", "sm"),
  ("currencysymbol", "sc"), ("modifiersymbol", "sk"), ("othersymbol", "so"), ("separator", "z"),
  ("spaceseparator", "zs"), ("lineseparator", "zl"), ("paragraphseparator", "zp"), ("other", "c"),
  ("control", "cc"), ("cntrl", "cc"), ("format", "cf"), ("privateuse", "co"), ("unassigned", "cn"),
  ("casedletter", "lc")]

def category? (name : String) : Option CharSet :=
  match (categoryNames.lookup name).getD name with
  | "any" => some fun _ => true
  | "ascii" => some Text.isAscii
  | "assigned" => some fun c => Text.Category.of c ≠ .Cn
  | "lc" => some fun c => [.Lu, .Ll, .Lt].contains (Text.Category.of c)
  | "cs" => Option.none
  | short =>
    match short.toList with
    | [group] =>
      if "lmnpszc".toList.contains group then
        some fun c => (Text.Category.of c).name.toList.head? = some group.toUpper
      else Option.none
    | [group, kind] =>
      (Text.Category.ofName? (String.ofList [group.toUpper, kind])).map
        fun category c => Text.Category.of c = category
    | _ => Option.none

def property? (name : String) : Option CharSet :=
  match name with
  | "alphabetic" | "alpha" => some Text.isAlphabetic
  | "uppercase" | "upper" => some Text.isUppercase
  | "lowercase" | "lower" => some Text.isLowercase
  | "whitespace" | "wspace" | "space" => some Text.isSpace
  | "asciihexdigit" | "ahex" => posix? "xdigit"
  | _ => Option.none

def script? (name : String) : Option CharSet :=
  match name with
  | "latin" | "latn" => some (Text.inRanges Text.Script.latin)
  | "greek" | "grek" => some (Text.inRanges Text.Script.greek)
  | "cyrillic" | "cyrl" => some (Text.inRanges Text.Script.cyrillic)
  | "hebrew" | "hebr" => some (Text.inRanges Text.Script.hebrew)
  | "arabic" | "arab" => some (Text.inRanges Text.Script.arabic)
  | "hiragana" | "hira" => some (Text.inRanges Text.Script.hiragana)
  | "katakana" | "kana" => some (Text.inRanges Text.Script.katakana)
  | "han" | "hani" => some (Text.inRanges Text.Script.han)
  | _ => Option.none

def named? (name : List Char) : Option CharSet :=
  let name := propertyName name
  (property? name).orElse fun _ => (category? name).orElse fun _ => script? name

def valued? (name value : List Char) : Option CharSet :=
  match propertyName name with
  | "gc" | "generalcategory" => category? (propertyName value)
  | "sc" | "script" | "scx" | "scriptextensions" => script? (propertyName value)
  | _ => Option.none

end CharSet

end MergeQueue.Pattern
