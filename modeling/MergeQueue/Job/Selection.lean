import MergeQueue.Config.Basic
import MergeQueue.Pattern.Parser

namespace MergeQueue

def anyOccurs (patterns : List String) (text : String) : Bool :=
  (patterns.filterMap Pattern.parse?).any fun p => p.occursIn text

def JobWhen.includes (rule : JobWhen) (branch : String) : Bool :=
  rule.tag.isEmpty && rule.skipTag.isEmpty &&
    (rule.branch.isEmpty || anyOccurs rule.branch branch) && !anyOccurs rule.skipBranch branch

def JobSpec.appliesTo (job : JobSpec) (branch : String) : Bool :=
  job.applies.all fun rule => rule.includes branch

def JobsConfig.applicable (jobs : JobsConfig) (reference : String) : List JobSpec :=
  jobs.preSubmit.filter fun job => job.appliesTo (branchName reference)

end MergeQueue
