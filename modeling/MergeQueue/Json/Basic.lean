/-! JSON values. Integers are kept exactly; a number written with a fraction or an exponent, and
minus zero, is kept as its text and counts as no integer. -/

namespace MergeQueue

inductive Json where
  | null
  | bool (b : Bool)
  | integer (n : Int)
  | decimal (text : String)
  | string (s : String)
  | array (items : List Json)
  | object (fields : List (String × Json))

namespace Json

def field? (name : String) : Json → Option Json
  | .object fields => fields.lookup name
  | _ => none

end Json

end MergeQueue
