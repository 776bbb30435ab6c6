/-! The base commit a job ran against, which its status description tells as a token: a key and then
a commit name of five to forty lower-case hexadecimal digits. -/

namespace MergeQueue

namespace TestedBase

def key : List Char := "BaseSHA:".toList

def isShaDigit (c : Char) : Bool := c.isDigit || ('a' ≤ c && c ≤ 'f')

def atStart? (text : List Char) : Option (List Char) :=
  match key.isPrefixOf? text with
  | some rest =>
    let sha := (rest.take 40).takeWhile isShaDigit
    if 5 ≤ sha.length then some sha else none
  | none => none

def first? : List Char → Option (List Char)
  | [] => none
  | c :: rest =>
    match atStart? (c :: rest) with
    | some sha => some sha
    | none => first? rest

end TestedBase

def testedBase? (description : String) : Option String :=
  (TestedBase.first? description.toList).map String.ofList

end MergeQueue
