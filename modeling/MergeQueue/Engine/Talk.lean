import MergeQueue.Dialogue
import MergeQueue.Error
import MergeQueue.Host
import MergeQueue.Pool.Basic

/-! What the engine asks its surroundings: the configuration store, the git hosts, the job system, a
source of random names, and someone who takes note of failures that a pass gets over. -/

namespace MergeQueue

inductive Warning where
  | listing (error : Error)
  | poolSync (key : String) (error : Error)
  | statusSync (key : String) (error : Error)
  | mergePass (key : String) (error : Error)
  | mergeRejected (key : String) (id : UInt64) (error : Error)
  | jobVanished (key : String) (job : JobRef)

inductive Question where
  | listConfigs
  | getConfig (name : ConfigName)
  | connect (connection : Connection)
  | host (connection : Connection) (call : HostCall)
  | drawSuffix
  | createJob (request : JobRequest)
  | jobState (job : JobRef)
  | warn (warning : Warning)

@[reducible] def Question.Reply : Question → Type
  | .listConfigs => Except Error (List RepoConfig)
  | .getConfig _ => Except Error RepoConfig
  | .connect _ => Except Error Unit
  | .host _ call => Except Error call.Answer
  | .drawSuffix => String
  | .createJob _ => Except Error JobRef
  | .jobState _ => Except Error JobState
  | .warn _ => Unit

abbrev Talk := Dialogue Question Question.Reply

/-- A question with the key of the queue it is asked for, or without one if it is for all queues. -/
structure Addressed where
  key : Option String
  question : Question

@[reducible] def Addressed.Reply (a : Addressed) : Type := a.question.Reply

abbrev TableTalk := Dialogue Addressed Addressed.Reply

structure Setup where
  settings : Settings
  env : Environment

namespace Engine

variable {α : Type}

def about (key : Option String) : Talk α → TableTalk α
  | .done a => .done a
  | .ask q next => .ask ⟨key, q⟩ fun r => about key (next r)

def plain : TableTalk α → Talk α
  | .done a => .done a
  | .ask a next => .ask a.question fun r => plain (next r)

def ask (q : Question) : Talk q.Reply := Dialogue.question q

def warn (warning : Warning) : Talk Unit := ask (.warn warning)

def host (connection : Connection) (call : HostCall) : Talk (Except Error call.Answer) :=
  ask (.host connection call)

def connect (setup : Setup) (config : RepoConfig) : Talk (Except Error Connection) :=
  match config.git.resolveToken setup.env with
  | none => return .error (.config (.noToken config.id))
  | some token => do
    match ← ask (.connect ⟨config, token⟩) with
    | .ok () => return .ok ⟨config, token⟩
    | .error e => return .error e

end Engine

end MergeQueue
