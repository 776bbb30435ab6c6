import MergeQueue.Pool.Basic

namespace MergeQueue

structure Queue where
  owner : ConfigName
  pool : Pool

abbrev Table := SortedMap String Queue

namespace Table

def opened (table : Table) (key : String) (config : RepoConfig) : Table :=
  if table.contains key then table else table.insert key ⟨config.id, .empty⟩

def setPool (table : Table) (key : String) (pool : Pool) : Table :=
  table.modify key ({ · with pool })

def pool? (table : Table) (key : String) : Option Pool := (table.find? key).map (·.pool)

end Table

end MergeQueue
