import MergeQueue.Engine.Table
import MergeQueue.Engine.Talk
import MergeQueue.Pool.Evaluation

/-! The second pass: the members of each merge pool are evaluated by the full rules, and statuses
that have changed are shown on the head commits. -/

namespace MergeQueue.Engine

def evaluate (setup : Setup) (connection : Connection) (query : MergeQuery) (id : UInt64) :
    Talk (Except Error Evaluation) := do
  match ← host connection (.getPullRequest id) with
  | .error e => return .error e
  | .ok pr =>
    match ← host connection (.listCommitStatuses pr.head.sha) with
    | .error e => return .error e
    | .ok reports => return .ok (.of query setup.settings.statusContext pr reports)

def evaluateAll (setup : Setup) (connection : Connection) (query : MergeQuery) :
    List UInt64 → Talk (List (UInt64 × Evaluation) × Except Error Unit)
  | [] => return ([], .ok ())
  | id :: rest => do
    match ← evaluate setup connection query id with
    | .error e => return ([], .error e)
    | .ok evaluation =>
      let (evaluations, result) ← evaluateAll setup connection query rest
      return ((id, evaluation) :: evaluations, result)

def publication (settings : Settings) (t : Tracked) : CommitStatus where
  context := settings.statusContext
  state := t.status
  description := t.description
  targetUrl := settings.statusTargetUrl

def publish (setup : Setup) (connection : Connection) : List UInt64 → Pool →
    Talk (Pool × Except Error Unit)
  | [], pool => return (pool, .ok ())
  | id :: rest, pool => do
    match (pool.find? id).filter (·.dirty) with
    | none => publish setup connection rest pool
    | some t =>
      let status := publication setup.settings t
      match ← host connection (.setCommitStatus t.pullRequest.head.sha status) with
      | .error e => return (pool, .error e)
      | .ok () => publish setup connection rest (pool.modify id Tracked.published)

def syncStatus (setup : Setup) (queue : Queue) : Talk (Pool × Except Error Unit) := do
  match ← ask (.getConfig queue.owner) with
  | .error e => return (queue.pool, .error e)
  | .ok config =>
    match config.merge with
    | none => return (queue.pool, .ok ())
    | some merge =>
      match ← connect setup config with
      | .error e => return (queue.pool, .error e)
      | .ok connection =>
        let query := setup.settings.effectiveQuery merge
        let (evaluations, result) ← evaluateAll setup connection query queue.pool.mergePool.ids
        let pool := evaluations.foldl (fun pool (id, e) => pool.settle id e) queue.pool
        match result with
        | .error e => return (pool, .error e)
        | .ok () => publish setup connection pool.ids pool

def visitStatus (setup : Setup) (key : String) (queue : Queue) : Talk Pool := do
  let (pool, result) ← syncStatus setup queue
  match result with
  | .error e => warn (.statusSync key e)
  | .ok () => pure ()
  return pool

def syncStatusesOf (setup : Setup) : List String → Table → TableTalk Table
  | [], table => return table
  | key :: rest, table => do
    match table.find? key with
    | none => syncStatusesOf setup rest table
    | some queue =>
      let pool ← about (some key) (visitStatus setup key queue)
      syncStatusesOf setup rest (table.setPool key pool)

def statusPass (setup : Setup) (table : Table) : TableTalk Table :=
  syncStatusesOf setup table.keys table

def syncStatuses (setup : Setup) (table : Table) : Talk Table := plain (statusPass setup table)

end MergeQueue.Engine
