import MergeQueue.CommandLine.Arguments
import MergeQueue.Service

namespace MergeQueue.CommandLine

def versionText : String := "blocker 0.1.0"

def helpText : String := Text.joined "\n" [
  "Merge queue for GitHub/GitLab pull requests",
  "",
  "Usage: blocker [OPTIONS]",
  "",
  "Options:",
  "  -c, --config <CONFIG>            Configuration file [default: blocker.toml]",
  "      --status-addr <STATUS_ADDR>  Status server bind address (overrides the config file)",
  "      --sync-period <SYNC_PERIOD>  Pipeline period in seconds (overrides the config file)",
  "      --log-level <LOG_LEVEL>      Log filter [default: info]",
  "      --log-format <LOG_FORMAT>    Log output format [default: text] [possible values: text, json]",
  "      --once                       Run a single pipeline cycle and exit",
  "  -h, --help                       Print help",
  "  -V, --version                    Print version"]

inductive Outcome where
  | stopped (stop : Stop)
  | failed (errors : List String)
  | done
  | endless (service : Service) (setup : Setup)

def Outcome.status : Outcome → UInt32
  | .stopped .usage => 2
  | .stopped .help | .stopped .version => 0
  | .failed _ => 1
  | .done => 0
  | .endless _ _ => 0

def listenFault? (address : String) : Option String :=
  match Text.splitLast ':' address.toList with
  | none => some "invalid socket address"
  | some (_, port) =>
    match number? (String.ofList port) with
    | some n => if n < 65536 then none else some "invalid port value"
    | none => some "invalid port value"

def Arguments.overrides (a : Arguments) (settings : Settings) : Settings :=
  let settings := match a.statusAddr with
    | some statusAddr => { settings with statusAddr }
    | none => settings
  match a.syncPeriod with
  | some syncPeriodSecs => { settings with syncPeriodSecs }
  | none => settings

def prepare (arguments : Arguments) (env : Environment) (loaded : Except Error ConfigFile) :
    Except (List String) (Service × Setup) :=
  match loaded with
  | .error e => .error ["failed to load " ++ arguments.path, e.message]
  | .ok file =>
    match (file.jobStore.map (·.url)).bind nonempty? with
    | none => .error ["[job_store] url is required"]
    | some url =>
      match Web.JobStore.create url with
      | .error e => .error ["failed to create job store client", e.message]
      | .ok jobs => .ok (⟨arguments.path, jobs⟩, ⟨arguments.overrides file.settings, env⟩)

def runWith {m : Type → Type} [Monad m] (out : Surroundings m) (env : Environment)
    (arguments : Arguments) : m Outcome := do
  match prepare arguments env (← Service.loadFile out arguments.path) with
  | .error errors => return .failed errors
  | .ok (service, setup) =>
    if arguments.once then
      let _ ← (Engine.runCycle setup .initial ∅).run (service.answer out)
      return .done
    else
      let address := setup.settings.statusAddr
      match listenFault? address with
      | some fault => return .failed ["failed to bind " ++ address, fault]
      | none => return .endless service setup

def run {m : Type → Type} [Monad m] (out : Surroundings m) (env : Environment)
    (arguments : List String) : m Outcome :=
  match readArguments .initial arguments with
  | .error stop => return .stopped stop
  | .ok arguments => runWith out env arguments

end MergeQueue.CommandLine
