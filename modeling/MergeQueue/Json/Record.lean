import MergeQueue.Json.Basic

/-! Data as JSON. A record is an object that has its fields by name, in any order and among others,
or an array that has them by position; a field may have a value for when it is missing. -/

namespace MergeQueue

class ToJson (α : Type) where
  toJson : α → Json

class FromJson (α : Type) where
  fromJson? : Json → Option α

export ToJson (toJson)
export FromJson (fromJson?)

namespace Json

inductive Fields where
  | named (fields : List (String × Json))
  | positional (items : List Json)

abbrev FieldReader := StateT Fields Option

variable {α : Type}

def Fields.named? (name : String) (fields : List (String × Json)) : Option (Option Json) :=
  match fields.filter (fun f => f.1 == name) with
  | [] => some none
  | [f] => some (some f.2)
  | _ => none

def required [FromJson α] (name : String) : FieldReader α
  | .named fields =>
    match Fields.named? name fields with
    | some (some j) => (fromJson? j).map (·, .named fields)
    | _ => none
  | .positional (j :: rest) => (fromJson? j).map (·, .positional rest)
  | .positional [] => none

def optional [FromJson α] (name : String) (missing : α) : FieldReader α
  | .named fields =>
    match Fields.named? name fields with
    | some (some j) => (fromJson? j).map (·, .named fields)
    | some none => some (missing, .named fields)
    | none => none
  | .positional (j :: rest) => (fromJson? j).map (·, .positional rest)
  | .positional [] => some (missing, .positional [])

def record (read : FieldReader α) : Json → Option α
  | .object fields => (read (.named fields)).map (·.1)
  | .array items =>
    match read (.positional items) with
    | some (a, .positional []) => some a
    | _ => none
  | _ => none

def choice (names : List (String × α)) : Json → Option α
  | .string s => names.lookup s
  | .object [(s, .null)] => names.lookup s
  | _ => none

end Json

open Json

instance : ToJson String := ⟨.string⟩

instance : ToJson Bool := ⟨.bool⟩

instance : ToJson UInt64 := ⟨fun n => .integer n.toNat⟩

instance {α : Type} [ToJson α] : ToJson (Option α) where
  toJson
    | none => .null
    | some a => toJson a

instance {α : Type} [ToJson α] : ToJson (List α) := ⟨fun as => .array (as.map toJson)⟩

instance : FromJson String where
  fromJson?
    | .string s => some s
    | _ => none

instance : FromJson Bool where
  fromJson?
    | .bool b => some b
    | _ => none

instance : FromJson UInt64 where
  fromJson?
    | .integer n => if 0 ≤ n ∧ n < 18446744073709551616 then some (UInt64.ofNat n.toNat) else none
    | _ => none

instance : FromJson UInt32 where
  fromJson?
    | .integer n => if 0 ≤ n ∧ n < 4294967296 then some (UInt32.ofNat n.toNat) else none
    | _ => none

instance {α : Type} [FromJson α] : FromJson (Option α) where
  fromJson?
    | .null => some none
    | j => (fromJson? j).map some

instance {α : Type} [FromJson α] : FromJson (List α) where
  fromJson?
    | .array items => items.mapM fromJson?
    | _ => none

end MergeQueue
