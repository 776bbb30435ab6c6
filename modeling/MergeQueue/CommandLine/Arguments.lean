import MergeQueue.Text.Affix

namespace MergeQueue.CommandLine

inductive LogFormat where
  | text
  | json
  deriving DecidableEq

structure Arguments where
  config : Option String
  statusAddr : Option String
  syncPeriod : Option UInt64
  logLevel : Option String
  logFormat : Option LogFormat
  once : Bool
  deriving DecidableEq

def Arguments.initial : Arguments := ⟨none, none, none, none, none, false⟩

def Arguments.path (arguments : Arguments) : String := arguments.config.getD "blocker.toml"

inductive Stop where
  | usage
  | help
  | version
  deriving DecidableEq

inductive Setting where
  | config
  | statusAddr
  | syncPeriod
  | logLevel
  | logFormat
  deriving DecidableEq

def Setting.ofName? (name : String) : Option Setting :=
  match name with
  | "config" => some .config
  | "status-addr" => some .statusAddr
  | "sync-period" => some .syncPeriod
  | "log-level" => some .logLevel
  | "log-format" => some .logFormat
  | _ => none

def number? (text : String) : Option UInt64 :=
  let digits := match text.toList with
    | '+' :: rest => rest
    | digits => digits
  if digits.isEmpty || !digits.all Char.isDigit then none
  else
    let n := digits.foldl (fun n c => 10 * n + (c.toNat - '0'.toNat)) 0
    if n < 18446744073709551616 then some (UInt64.ofNat n) else none

def Arguments.set (a : Arguments) (setting : Setting) (value : String) : Except Stop Arguments :=
  match setting with
  | .config =>
    if a.config.isSome || value.isEmpty then .error .usage
    else .ok { a with config := some value }
  | .statusAddr =>
    if a.statusAddr.isSome then .error .usage else .ok { a with statusAddr := some value }
  | .syncPeriod =>
    match a.syncPeriod, number? value with
    | none, some n => .ok { a with syncPeriod := some n }
    | _, _ => .error .usage
  | .logLevel =>
    if a.logLevel.isSome then .error .usage else .ok { a with logLevel := some value }
  | .logFormat =>
    match a.logFormat, value with
    | none, "text" => .ok { a with logFormat := some .text }
    | none, "json" => .ok { a with logFormat := some .json }
    | _, _ => .error .usage

def Arguments.setOnce (a : Arguments) : Except Stop Arguments :=
  if a.once then .error .usage else .ok { a with once := true }

def isValue (argument : String) : Bool :=
  match argument.toList with
  | '-' :: _ :: _ => false
  | _ => true

inductive Read where
  | done (a : Arguments)
  | expects (setting : Setting)

def readLong (a : Arguments) (name : String) (value : Option String) : Except Stop Read :=
  match Setting.ofName? name with
  | some setting =>
    match value with
    | some value => do return .done (← a.set setting value)
    | none => .ok (.expects setting)
  | none =>
    match name, value with
    | "once", none => do return .done (← a.setOnce)
    | "help", none => .error .help
    | "version", none => .error .version
    | _, _ => .error .usage

def readShort (a : Arguments) (letters : List Char) : Except Stop Read :=
  match letters with
  | 'h' :: _ => .error .help
  | 'V' :: _ => .error .version
  | ['c'] => .ok (.expects .config)
  | 'c' :: '=' :: value => do return .done (← a.set .config (String.ofList value))
  | 'c' :: value => do return .done (← a.set .config (String.ofList value))
  | _ => .error .usage

def readOne (a : Arguments) (argument : String) : Except Stop Read :=
  match argument.toList with
  | '-' :: '-' :: option =>
    match Text.splitFirst '=' option with
    | some (name, value) => readLong a (String.ofList name) (some (String.ofList value))
    | none => readLong a (String.ofList option) none
  | '-' :: c :: letters => readShort a (c :: letters)
  | _ => .error .usage

def readArguments : Arguments → List String → Except Stop Arguments
  | a, [] => .ok a
  | a, argument :: rest =>
    if argument = "--" then if rest.isEmpty then .ok a else .error .usage
    else
      match readOne a argument with
      | .error stop => .error stop
      | .ok (.done a) => readArguments a rest
      | .ok (.expects setting) =>
        match rest with
        | [] => .error .usage
        | value :: rest =>
          if isValue value then
            match a.set setting value with
            | .ok a => readArguments a rest
            | .error stop => .error stop
          else .error .usage

end MergeQueue.CommandLine
