import MergeQueue.Config.Basic
import MergeQueue.Job.Basic
import MergeQueue.Text.Quoted
import MergeQueue.Web.Fault

namespace MergeQueue

inductive ServiceFault where
  | request (fault : Web.Fault)
  | attempt (what : String) (fault : Web.Fault)
  | notMerged (id : UInt64) (reason : String)
  | other (text : String)
  deriving DecidableEq

inductive ConfigFault where
  | unreadable (path reason : String)
  | malformed (path : String)
  | emptyBatches
  | malformedRepository (config : ConfigName) (repository : String)
  | duplicate (config : ConfigName)
  | noToken (config : ConfigName)
  | invalidRepository (config : ConfigName) (repository : String)
  | jobStoreAddress (url : String) (fault : Web.AddressFault)
  | jobStoreScheme (url : String)
  | other (text : String)
  deriving DecidableEq

/-- States of a queue that its operations never lead to. -/
inductive Inconsistency where
  | untrackedMember (id : UInt64)
  | noBatch
  | automationDisabled (key : String)
  deriving DecidableEq

inductive Error where
  | github (fault : ServiceFault)
  | gitlab (fault : ServiceFault)
  | host (fault : ServiceFault)
  | config (fault : ConfigFault)
  | configNotFound (config : ConfigName)
  | jobStore (fault : ServiceFault)
  | jobNotFound (job : JobRef)
  | noApplicableJobs (branch : String)
  | unknownField (field : String)
  | internal (inconsistency : Inconsistency)
  deriving DecidableEq

def ServiceFault.message : ServiceFault → String
  | .request fault => fault.message
  | .attempt what fault => what ++ ": " ++ fault.message
  | .notMerged id reason => "PR #" ++ Nat.repr id.toNat ++ " was not merged: " ++ reason
  | .other text => text

def ConfigFault.message : ConfigFault → String
  | .unreadable path reason => "failed to read " ++ path ++ ": " ++ reason
  | .malformed path => "failed to parse " ++ path
  | .emptyBatches => "max_batch_size must be at least 1"
  | .malformedRepository config repository =>
    config.text ++ ": repository must be owner/repo, got " ++ Text.quoted repository
  | .duplicate config => "duplicate repository configuration " ++ config.text
  | .noToken config => config.text ++ ": no access token"
  | .invalidRepository config repository =>
    config.text ++ ": invalid repository " ++ Text.quoted repository
  | .jobStoreAddress url fault =>
    "invalid job store url " ++ Text.quoted url ++ ": " ++ fault.message
  | .jobStoreScheme url => "job store url must be http(s), got " ++ Text.quoted url
  | .other text => text

def Inconsistency.message : Inconsistency → String
  | .untrackedMember id => "PR #" ++ Nat.repr id.toNat ++ " in merge pool but not tracked"
  | .noBatch => "no batch to create a job for"
  | .automationDisabled key => key ++ ": merge automation disabled"

def Error.message : Error → String
  | .github fault => "GitHub API error: " ++ fault.message
  | .gitlab fault => "GitLab API error: " ++ fault.message
  | .host fault => "platform error: " ++ fault.message
  | .config fault => "configuration error: " ++ fault.message
  | .configNotFound name => "configuration " ++ name.text ++ " not found"
  | .jobStore fault => "job store error: " ++ fault.message
  | .jobNotFound job => "job " ++ job.text ++ " not found"
  | .noApplicableJobs branch => "no pre-submit jobs apply to branch " ++ branch
  | .unknownField field => "template error: unknown field ." ++ field
  | .internal inconsistency => "internal error: " ++ inconsistency.message

end MergeQueue
