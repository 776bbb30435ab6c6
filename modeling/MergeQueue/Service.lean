import MergeQueue.Config.File
import MergeQueue.Engine.Cycle
import MergeQueue.Web.JobStore
import MergeQueue.Web.Provider

namespace MergeQueue

structure Surroundings (m : Type → Type) where
  fileContent : String → m (Except String String)
  exchange : Web.Request → m (Option Web.WrittenReply)
  drawSuffix : m String
  note : Warning → m Unit

structure Service where
  path : String
  jobs : Web.JobStore

namespace Service

variable {m : Type → Type} [Monad m]

def loadFile (out : Surroundings m) (path : String) : m (Except Error ConfigFile) := do
  return ConfigFile.load path (← out.fileContent path)

def hold {α : Type} (out : Surroundings m) (http : Web.Http α) : m α :=
  http.run fun request => do return (← out.exchange request).map (·.read)

def answer (out : Surroundings m) (service : Service) : (q : Question) → m q.Reply
  | .listConfigs => do return (← loadFile out service.path).map (·.repositories)
  | .getConfig name => do
    match ← loadFile out service.path with
    | .ok file => return file.lookup name
    | .error e => return .error e
  | .connect connection =>
    return (Web.Provider.create connection.config connection.token).map fun _ => ()
  | .host connection call =>
    match Web.Provider.create connection.config connection.token with
    | .ok provider => hold out (provider.call call)
    | .error e => return .error e
  | .drawSuffix => out.drawSuffix
  | .createJob request => hold out (service.jobs.createJob request)
  | .jobState job => hold out (service.jobs.jobState job)
  | .warn warning => out.note warning

end Service

end MergeQueue
