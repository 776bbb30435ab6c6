import MergeQueue.Json.Basic

namespace MergeQueue

inductive Toml where
  | string (s : String)
  | integer (n : Int)
  | float (text : String)
  | bool (b : Bool)
  | datetime (text : String)
  | array (items : List Toml)
  | table (entries : List (String × Toml))

namespace Toml

mutual

def toJson : Toml → Json
  | .string s => .string s
  | .integer n => .integer n
  | .float text => .decimal text
  | .bool b => .bool b
  | .datetime text => .object [("$datetime", .string text)]
  | .array items => .array (toJsonItems items)
  | .table entries => .object (toJsonEntries entries)

def toJsonItems : List Toml → List Json
  | [] => []
  | t :: rest => toJson t :: toJsonItems rest

def toJsonEntries : List (String × Toml) → List (String × Json)
  | [] => []
  | (name, t) :: rest => (name, toJson t) :: toJsonEntries rest

end

end Toml

end MergeQueue
