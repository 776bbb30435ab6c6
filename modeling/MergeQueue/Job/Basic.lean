import MergeQueue.Text.Affix

namespace MergeQueue

structure JobRef where
  ns : String
  name : String
  deriving DecidableEq

def JobRef.text (job : JobRef) : String := job.ns ++ "/" ++ job.name

inductive JobState where
  | pending
  | running
  | completed
  | failed
  | other (text : String)
  deriving DecidableEq

def JobState.ofText (text : String) : JobState :=
  match Text.toLowerAscii text with
  | "pending" => .pending
  | "running" => .running
  | "completed" => .completed
  | "failed" => .failed
  | _ => .other text

structure JobSender where
  name : String
  email : String
  deriving DecidableEq

structure JobBase where
  reference : String
  sha : String
  deriving DecidableEq

structure JobPull where
  id : UInt64
  reference : String
  sha : String
  link : String
  author : String
  deriving DecidableEq

structure JobRequest where
  name : String
  ns : String
  configName : String
  jobs : List String
  repository : String
  sender : JobSender
  base : JobBase
  pulls : List JobPull
  deriving DecidableEq

end MergeQueue
