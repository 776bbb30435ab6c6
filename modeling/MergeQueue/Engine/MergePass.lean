import MergeQueue.CommitMessage
import MergeQueue.Engine.Table
import MergeQueue.Engine.Talk
import MergeQueue.Job.Request
import MergeQueue.Job.TestedBase

/-! The third pass: of each queue the oldest pull request that meets all rules is merged, if its
jobs ran against the tip of its branch. -/

namespace MergeQueue.Engine

def isFresh (config : RepoConfig) (t : Tracked) (tip : String) : Bool :=
  (config.jobs.applicable t.pullRequest.base.reference).all fun job =>
    (t.statuses.find? job.name).all fun status => testedBase? status.description = some tip

structure MergeTask where
  connection : Connection
  merge : MergeConfig

def MergeTask.mergeAt (task : MergeTask) (setup : Setup) (pr : PullRequest) (sha : String) :
    Talk (Except Error Unit) :=
  match task.merge.message pr with
  | .error field => return .error (.unknownField field)
  | .ok message =>
    host task.connection
      (.mergePullRequest pr.id sha (setup.settings.methodFor task.merge pr) message)

/-- What a merge pass makes of a queue: it is broken off where a pull request is to be removed from
a batch that has none. -/
inductive MergeState where
  | ended (result : Except Error Unit)
  | paused (task : MergeTask)
  | broken

def createBatchJob (setup : Setup) (config : RepoConfig) (tip : String) (pool : Pool) :
    Talk (Pool × Except Error Unit) := do
  match pool.batch with
  | none => return (pool, .error (.internal .noBatch))
  | some batch =>
    match config.jobRequest? setup.settings batch.branch tip batch.pullRequests with
    | .error e => return (pool, .error e)
    | .ok request =>
      let suffix ← ask .drawSuffix
      match ← ask (.createJob (request suffix)) with
      | .error e => return (pool, .error e)
      | .ok job => return (pool.setBatch { batch with job := some job }, .ok ())

def Pool.shrinkBatch (pool : Pool) (batch : Batch) : Pool :=
  if batch.pullRequests.length > 1 then
    pool.setBatch { batch with pullRequests := batch.pullRequests.dropLast, job := none }
  else pool.clearBatch

def advanceBatch (setup : Setup) (key : String) (connection : Connection) (batch : Batch)
    (pool : Pool) : Talk (Pool × Except Error Bool) := do
  match batch.job with
  | none =>
    match ← host connection (.getBranch batch.branch) with
    | .error e => return (pool, .error e)
    | .ok branch =>
      let (pool, result) ← createBatchJob setup connection.config branch.commit pool
      return (pool, result.map fun () => false)
  | some job =>
    match ← ask (.jobState job) with
    | .error (.jobNotFound missing) =>
      warn (.jobVanished key missing)
      return (pool.setBatch { batch with job := none }, .ok false)
    | .error e => return (pool, .error e)
    | .ok .completed => return (pool, .ok true)
    | .ok .failed => return (Pool.shrinkBatch pool batch, .ok false)
    | .ok _ => return (pool, .ok false)

def removeFirst? (batch : Batch) : Option Batch :=
  match batch.pullRequests with
  | [] => none
  | _ :: rest => some { batch with pullRequests := rest }

def goOn (task : MergeTask) (pool : Pool) : Pool × MergeState :=
  match pool.batch with
  | none => (pool.clearBatch, .ended (.ok ()))
  | some batch =>
    match removeFirst? batch with
    | none => (pool, .broken)
    | some batch =>
      if batch.pullRequests.isEmpty then (pool.clearBatch, .ended (.ok ()))
      else (pool.setBatch batch, .paused task)

/-- Merges the first pull request of the batch, or drops it where its head has moved since the test
or it is closed. A rejected merge ends the batch. -/
def mergeNext (setup : Setup) (key : String) (task : MergeTask) (pool : Pool) :
    Talk (Pool × MergeState) := do
  match pool.batch.bind (·.pullRequests.head?) with
  | none => return (pool.clearBatch, .ended (.ok ()))
  | some next =>
    match pool.find? next.id with
    | none => return goOn task pool
    | some t =>
      if t.pullRequest.head.sha ≠ next.head.sha then return goOn task pool
      else
        match ← task.mergeAt setup t.pullRequest next.head.sha with
        | .error e =>
          warn (.mergeRejected key next.id e)
          return (pool.clearBatch, .ended (.error e))
        | .ok () => return goOn task (pool.dequeue next.id)

def batched (settings : Settings) (pool : Pool) (candidates : List UInt64) (branch : String) :
    List PullRequest :=
  ((candidates.filterMap fun id => (pool.find? id).map (·.pullRequest)).filter
    fun pr => pr.target = branch).take (max settings.maxBatchSize.toNat 1)

def mergeOldest (setup : Setup) (task : MergeTask) (pool : Pool) :
    Talk (Pool × Except Error Unit) := do
  let candidates := pool.mergePool.bucket .success
  match candidates.head? with
  | none => return (pool, .ok ())
  | some first =>
    match pool.find? first with
    | none => return (pool, .error (.internal (.untrackedMember first)))
    | some t =>
      let branch := t.pullRequest.target
      match ← host task.connection (.getBranch branch) with
      | .error e => return (pool, .error e)
      | .ok tip =>
        if isFresh task.connection.config t tip.commit then
          match ← task.mergeAt setup t.pullRequest t.pullRequest.head.sha with
          | .error e => return (pool, .error e)
          | .ok () => return (pool.dequeue first, .ok ())
        else
          let batch := ⟨branch, batched setup.settings pool candidates branch, none⟩
          createBatchJob setup task.connection.config tip.commit (pool.setBatch batch)

def startMerge (setup : Setup) (key : String) (queue : Queue) : Talk (Pool × MergeState) := do
  let pool := queue.pool
  match ← ask (.getConfig queue.owner) with
  | .error e => return (pool, .ended (.error e))
  | .ok config =>
    match config.merge with
    | none => return (pool, .ended (.ok ()))
    | some merge =>
      match ← connect setup config with
      | .error e => return (pool, .ended (.error e))
      | .ok connection =>
        let task := ⟨connection, merge⟩
        match pool.batch with
        | none =>
          let (pool, result) ← mergeOldest setup task pool
          return (pool, .ended result)
        | some batch =>
          let (pool, result) ← advanceBatch setup key connection batch pool
          match result with
          | .error e => return (pool, .ended (.error e))
          | .ok false => return (pool, .ended (.ok ()))
          | .ok true => mergeNext setup key task pool

/-- A queue whose merge pass has paused. Its pool is in the table, unless the queue was dropped from
there in the meantime. -/
structure Paused where
  key : String
  task : MergeTask
  dropped : Option Pool

structure Merging where
  table : Table
  results : SortedMap String (Except Error Unit)
  paused : List Paused

namespace Merging

def poolOf (m : Merging) (p : Paused) : Pool :=
  (p.dropped.orElse fun _ => m.table.pool? p.key).getD .empty

def settle (m : Merging) (key : String) (dropped : Option Pool) (pool : Pool)
    (state : MergeState) : Merging :=
  let (table, dropped) := match dropped with
    | some _ => (m.table, some pool)
    | none => (m.table.setPool key pool, none)
  match state with
  | .ended result => { m with table, results := m.results.insert key result }
  | .paused task => { m with table, paused := m.paused ++ [⟨key, task, dropped⟩] }
  | .broken => { m with table }

def startEach (setup : Setup) : List String → Merging → TableTalk Merging
  | [], m => return m
  | key :: rest, m => do
    match m.table.find? key with
    | none => startEach setup rest m
    | some queue =>
      let (pool, state) ← about (some key) (startMerge setup key queue)
      startEach setup rest (m.settle key none pool state)

def resumeEach (setup : Setup) : List Paused → Merging → TableTalk Merging
  | [], m => return m
  | p :: rest, m => do
    let (pool, state) ← about (some p.key) (mergeNext setup p.key p.task (m.poolOf p))
    resumeEach setup rest (m.settle p.key p.dropped pool state)

def startOn (setup : Setup) (keys : List String) (table : Table) : TableTalk Merging :=
  startEach setup keys ⟨table, ∅, []⟩

def start (setup : Setup) (keys : List String) (table : Table) : Talk Merging :=
  plain (startOn setup keys table)

def resume (setup : Setup) (m : Merging) : TableTalk Merging :=
  resumeEach setup m.paused { m with paused := [] }

def remaining (m : Merging) : Nat :=
  m.paused.foldl (fun n p => n + ((m.poolOf p).batch.map (·.pullRequests.length)).getD 0) 0

def finishWithin (setup : Setup) : Nat → Merging → TableTalk (Merging × Nat)
  | 0, m => return (m, 0)
  | n + 1, m => do
    if m.paused.isEmpty then return (m, 0)
    else
      let (m, pauses) ← finishWithin setup n (← m.resume setup)
      return (m, pauses + 1)

def finishAll (setup : Setup) (m : Merging) : TableTalk (Merging × Nat) :=
  finishWithin setup (m.remaining + 1) m

def finish (setup : Setup) (m : Merging) : Talk (Merging × Nat) := plain (m.finishAll setup)

def warnAll : List (String × Except Error Unit) → TableTalk Unit
  | [] => return ()
  | (key, .error e) :: rest => do
    about (some key) (warn (.mergePass key e))
    warnAll rest
  | (_, .ok ()) :: rest => warnAll rest

def report (m : Merging) : Talk Unit := plain (warnAll m.results.entries)

end Merging

def mergePass (setup : Setup) (table : Table) : TableTalk (Table × Nat) := do
  let m ← Merging.startOn setup table.keys table
  let (m, pauses) ← m.finishAll setup
  Merging.warnAll m.results.entries
  return (m.table, pauses)

def mergeAll (setup : Setup) (table : Table) : Talk (Table × Nat) := plain (mergePass setup table)

end MergeQueue.Engine
