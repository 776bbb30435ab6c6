import MergeQueue.Config.Json
import MergeQueue.Error
import MergeQueue.Toml.Parser

/-! Configuration files. A file is accepted if batches may hold at least one pull request, every
repository names an owner, and no two configurations share a name. -/

namespace MergeQueue

namespace ConfigFile

def firstFault? (seen : List ConfigName) : List RepoConfig → Option ConfigFault
  | [] => none
  | config :: rest =>
    if config.git.ownerAndRepo.isNone then
      some (.malformedRepository config.id config.git.repository)
    else if seen.contains config.id then some (.duplicate config.id)
    else firstFault? (config.id :: seen) rest

def fault? (file : ConfigFile) : Option ConfigFault :=
  if file.settings.maxBatchSize = 0 then some .emptyBatches else firstFault? [] file.repositories

def ofToml? (content : String) : Option ConfigFile :=
  (Toml.parse? content).bind fun table => fromJson? table.toJson

def load (path : String) (content : Except String String) : Except Error ConfigFile :=
  match content with
  | .error reason => .error (.config (.unreadable path reason))
  | .ok content =>
    match ofToml? content with
    | none => .error (.config (.malformed path))
    | some file =>
      match file.fault? with
      | some fault => .error (.config fault)
      | none => .ok file

def lookup (file : ConfigFile) (name : ConfigName) : Except Error RepoConfig :=
  match file.repositories.find? fun config => config.id = name with
  | some config => .ok config
  | none => .error (.configNotFound name)

end ConfigFile

end MergeQueue
