import MergeQueue.Pool.Basic

namespace MergeQueue

structure Evaluation where
  pullRequest : PullRequest
  statuses : Statuses
  verdict : FullVerdict

def Statuses.ofReports (reports : List CommitStatus) : Statuses :=
  .ofList (reports.map fun status => (status.context, status))

def Evaluation.of (query : MergeQuery) (own : String) (pr : PullRequest)
    (reports : List CommitStatus) : Evaluation :=
  let statuses := Statuses.ofReports reports
  ⟨pr, statuses, Policy.evaluate query pr statuses own⟩

namespace Pool

def record (pool : Pool) (id : UInt64) (e : Evaluation) (status : CommitState)
    (description : String) : Pool :=
  pool.modify id fun t =>
    { t with pullRequest := e.pullRequest, statuses := e.statuses }.setBlocker status description

/-- Moves a member of the merge pool to the bucket it belongs to; one that violates a simple rule
leaves the merge pool, unless the batch holds it. -/
def settle (pool : Pool) (id : UInt64) (e : Evaluation) : Pool :=
  if pool.mergePool.contains id then
    if e.verdict.remove && !pool.inBatch id then
      (pool.dequeue id).record id e .pending (notMergeable e.verdict.message)
    else if e.verdict.passed then
      (pool.enqueue id .success).record id e .success inMergePoolNote
    else (pool.enqueue id .pending).record id e .pending e.verdict.message
  else pool

end Pool

end MergeQueue
