import MergeQueue.Engine.MergePass
import MergeQueue.Engine.PoolSync
import MergeQueue.Engine.StatusSync

namespace MergeQueue

inductive Stage where
  | poolSync
  | statusSync
  | merge
  deriving DecidableEq

def Stage.name : Stage → String
  | .poolSync => "pool_sync"
  | .statusSync => "status_sync"
  | .merge => "merge"

structure Progress where
  cycle : Nat
  stage : Option Stage

def Progress.initial : Progress := ⟨0, none⟩

def jittered (period jitter draw : Nat) : Nat :=
  if jitter = 0 then period else period + draw % (jitter + 1)

namespace Engine

def runCycle (setup : Setup) (progress : Progress) (table : Table) :
    Talk (Progress × Table × Nat) := do
  let cycle := progress.cycle + 1
  let (table, result) ← syncPools setup table
  match result with
  | .error e => warn (.listing e)
  | .ok () => pure ()
  let table ← syncStatuses setup table
  let (table, pauses) ← mergeAll setup table
  return (⟨cycle, some .merge⟩, table, pauses)

def cycleMs (settings : Settings) (pauses draw : Nat) : Nat :=
  pauses * settings.mergeDelayMs.toNat + jittered settings.syncPeriodMs settings.jitterMs draw

/-- Runs the cycles that start within a time, where all but the pauses takes no time. Each cycle
uses up one unit of fuel. -/
def runWithin (setup : Setup) : Nat → Nat → Progress → Table → Talk (Progress × Table)
  | 0, _, progress, table => return (progress, table)
  | fuel + 1, time, progress, table => do
    let (progress, table, pauses) ← runCycle setup progress table
    let spent := cycleMs setup.settings pauses 0
    if spent ≤ time then runWithin setup fuel (time - spent) progress table
    else return (progress, table)

end Engine

end MergeQueue
