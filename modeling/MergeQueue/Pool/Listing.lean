import MergeQueue.Pool.Basic

/-! Taking over the pull requests that a host lists. Those that meet the simple rules join the merge
pool; those of the batch stay in it until the batch is settled. -/

namespace MergeQueue.Pool

def absorbOne (query : MergeQuery) (pool : Pool) (pr : PullRequest) : Pool :=
  let verdict := Policy.checkSimple query pr
  let pool := pool.track pr
  if verdict.passed || pool.inBatch pr.id then
    if pool.mergePool.contains pr.id then pool else pool.enqueue pr.id .pending
  else (pool.dequeue pr.id).setBlocker pr.id .pending (notMergeable verdict.message)

def absorb (query : MergeQuery) (listed : List PullRequest) (pool : Pool) : Pool :=
  let opened := listed.filter fun pr => pr.state = .opened
  let pool := opened.foldl (absorbOne query) pool
  let gone := pool.ids.filter fun id => !(opened.map (·.id)).contains id
  gone.foldl untrack pool

end MergeQueue.Pool
