import MergeQueue.CommandLine.Run

/-! The command. It has no connection to the network of its own: every request finds nothing there,
and what follows from that is noted on standard error. -/

namespace MergeQueue.CommandLine

def suffixSigns : List Char := "abcdefghijklmnopqrstuvwxyz0123456789".toList

def drawSign : IO Char := do
  return suffixSigns.getD (← IO.rand 0 (suffixSigns.length - 1)) 'a'

def reasonOf (e : IO.Error) : String :=
  match e with
  | .noFileOrDirectory _ _ _ => "No such file or directory (os error 2)"
  | e => toString e

def noteOf : Warning → String
  | .listing e => "pool sync failed: " ++ e.message
  | .poolSync key e => key ++ ": pool sync failed: " ++ e.message
  | .statusSync key e => key ++ ": status sync failed: " ++ e.message
  | .mergePass key e => key ++ ": merge pass failed: " ++ e.message
  | .mergeRejected key id e =>
    key ++ ": merge of #" ++ Nat.repr id.toNat ++ " rejected, abandoning batch: " ++ e.message
  | .jobVanished key job =>
    key ++ ": retest job " ++ job.text ++ " vanished, recreating next pass"

def surroundings : Surroundings IO where
  fileContent path := do
    try return .ok (← IO.FS.readFile path)
    catch e => return .error (reasonOf e)
  exchange _ := return none
  drawSuffix := do
    let signs ← (List.range 5).mapM fun _ => drawSign
    return String.ofList signs
  note warning := IO.eprintln (noteOf warning)

partial def runForever (service : Service) (setup : Setup) (progress : Progress) (table : Table) :
    IO Unit := do
  let (progress, table, pauses) ←
    (Engine.runCycle setup progress table).run (service.answer surroundings)
  let draw ← IO.rand 0 setup.settings.jitterMs
  IO.sleep (UInt32.ofNat (Engine.cycleMs setup.settings pauses draw))
  runForever service setup progress table

def variablesOf (file : ConfigFile) : List String :=
  file.repositories.filterMap fun config => config.git.token.bind (·.variableName)

def readEnvironment (names : List String) : IO Environment := do
  let values ← names.mapM fun name => do return (name, ← IO.getEnv name)
  return fun name => (values.lookup name).bind id

def environmentFor (arguments : List String) : IO Environment := do
  match readArguments .initial arguments with
  | .error _ => return fun _ => none
  | .ok arguments =>
    match ← Service.loadFile surroundings arguments.path with
    | .error _ => return fun _ => none
    | .ok file => readEnvironment (variablesOf file)

end MergeQueue.CommandLine

open MergeQueue MergeQueue.CommandLine in
def main (arguments : List String) : IO UInt32 := do
  let env ← environmentFor arguments
  let outcome ← CommandLine.run surroundings env arguments
  match outcome with
  | .stopped .help => IO.println helpText
  | .stopped .version => IO.println versionText
  | .stopped .usage => IO.eprintln "Usage: blocker [OPTIONS]\n\nFor more information, try '--help'."
  | .failed errors => IO.eprintln ("Error: " ++ Text.joined "\n\nCaused by: " errors)
  | .done => pure ()
  | .endless service setup => runForever service setup .initial ∅
  return outcome.status
