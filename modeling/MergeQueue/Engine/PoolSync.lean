import MergeQueue.Engine.Table
import MergeQueue.Engine.Talk
import MergeQueue.Pool.Listing

/-! The first pass: every repository with a configuration gets a queue, which takes over the open
pull requests of its host. Queues without a configuration are dropped. -/

namespace MergeQueue.Engine

def syncPool (setup : Setup) (table : Table) (key : String) (config : RepoConfig) :
    Talk (Table × Except Error Unit) := do
  match config.merge with
  | none => return (table, .error (.internal (.automationDisabled key)))
  | some merge =>
    match ← connect setup config with
    | .error e => return (table, .error e)
    | .ok connection =>
      let table := table.opened key config
      match ← host connection (.listPullRequests true) with
      | .error e => return (table, .error e)
      | .ok listed =>
        let query := setup.settings.effectiveQuery merge
        return (table.modify key fun q => { q with pool := q.pool.absorb query listed }, .ok ())

def visitPool (setup : Setup) (table : Table) (key : String) (config : RepoConfig) : Talk Table := do
  let (table, result) ← syncPool setup table key config
  match result with
  | .error e => warn (.poolSync key e)
  | .ok () => pure ()
  return table

/-- Goes through configurations; of those with one key only the first counts. The keys met are
returned with the table. -/
def syncConfigs (setup : Setup) : List RepoConfig → SortedSet String → Table →
    TableTalk (Table × SortedSet String)
  | [], met, table => return (table, met)
  | config :: rest, met, table => do
    let key := config.poolKey
    if config.automationEnabled setup.env && !met.contains key then
      let table ← about (some key) (visitPool setup table key config)
      syncConfigs setup rest (met.insert key) table
    else syncConfigs setup rest met table

def poolPass (setup : Setup) (table : Table) : TableTalk (Table × Except Error Unit) := do
  match ← about none (ask .listConfigs) with
  | .error e => return (table, .error e)
  | .ok configs =>
    let (table, met) ← syncConfigs setup configs ∅ table
    return (table.filter fun key _ => met.contains key, .ok ())

def syncPools (setup : Setup) (table : Table) : Talk (Table × Except Error Unit) :=
  plain (poolPass setup table)

end MergeQueue.Engine
