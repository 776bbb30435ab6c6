import MergeQueue.Toml.Basic

/-! How a table came to be decides how it may grow. -/

namespace MergeQueue.Toml

/-- `passing` tables were only named on the way to others, `dotted` ones by a dotted key. -/
inductive Origin where
  | passing
  | header
  | dotted
  deriving DecidableEq

inductive Node where
  | value (v : Toml)
  | table (origin : Origin) (entries : List (String × Node))
  | tables (items : List (List (String × Node)))

abbrev Entries := List (String × Node)

def setEntry (key : String) (node : Node) : Entries → Entries
  | [] => [(key, node)]
  | (k, n) :: rest => if k = key then (k, node) :: rest else (k, n) :: setEntry key node rest

def onLast (change : Entries → Option Entries) : List Entries → Option (List Entries)
  | [] => none
  | [last] => (change last).map ([·])
  | t :: rest => (onLast change rest).map (t :: ·)

def alongHeader (change : Entries → Option Entries) : List String → Entries → Option Entries
  | [], entries => change entries
  | key :: path, entries =>
    match entries.lookup key with
    | none => (alongHeader change path []).map fun t => setEntry key (.table .passing t) entries
    | some (.value _) => none
    | some (.table origin t) =>
      (alongHeader change path t).map fun t => setEntry key (.table origin t) entries
    | some (.tables ts) =>
      (onLast (alongHeader change path) ts).map fun ts => setEntry key (.tables ts) entries

def bind (key : String) (v : Toml) (entries : Entries) : Option Entries :=
  match entries.lookup key with
  | some _ => none
  | none => some (setEntry key (.value v) entries)

def bindDotted : List String → String → Toml → Entries → Option Entries
  | [], key, v, entries => bind key v entries
  | k :: path, key, v, entries =>
    match entries.lookup k with
    | none => (bindDotted path key v []).map fun t => setEntry k (.table .dotted t) entries
    | some (.table .dotted t) =>
      (bindDotted path key v t).map fun t => setEntry k (.table .dotted t) entries
    | some (.table .passing t) =>
      if path.isEmpty then none
      else (bindDotted path key v t).map fun t => setEntry k (.table .passing t) entries
    | some (.tables ts) =>
      if path.isEmpty then none
      else (onLast (bindDotted path key v) ts).map fun ts => setEntry k (.tables ts) entries
    | _ => none

def openTable (key : String) (entries : Entries) : Option Entries :=
  match entries.lookup key with
  | none => some (setEntry key (.table .header []) entries)
  | some (.table .passing t) => some (setEntry key (.table .header t) entries)
  | _ => none

def openElement (key : String) (entries : Entries) : Option Entries :=
  match entries.lookup key with
  | none => some (setEntry key (.tables [[]]) entries)
  | some (.tables ts) => some (setEntry key (.tables (ts ++ [[]])) entries)
  | _ => none

mutual

def Node.close : Node → Toml
  | .value v => v
  | .table _ entries => .table (closeEntries entries)
  | .tables items => .array (closeTables items)

def closeEntries : List (String × Node) → List (String × Toml)
  | [] => []
  | (key, node) :: rest => (key, node.close) :: closeEntries rest

def closeTables : List (List (String × Node)) → List Toml
  | [] => []
  | entries :: rest => .table (closeEntries entries) :: closeTables rest

end

end MergeQueue.Toml
