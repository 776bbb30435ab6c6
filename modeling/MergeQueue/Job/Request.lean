import MergeQueue.Error
import MergeQueue.Job.Selection

namespace MergeQueue

def jobName (config : String) (pulls : List PullRequest) (suffix : String) : String :=
  let middle := match pulls with
    | [pr] => String.ofList (pr.head.sha.toList.take 5)
    | _ => "batch"
  config ++ "-" ++ middle ++ "-" ++ suffix

def PullRequest.toJobPull (pr : PullRequest) : JobPull :=
  ⟨pr.id, pr.head.reference, pr.head.sha, pr.url, pr.author.name⟩

def RepoConfig.jobRequest? (config : RepoConfig) (settings : Settings) (branch base : String)
    (pulls : List PullRequest) : Except Error (String → JobRequest) :=
  let jobs := (config.jobs.applicable branch).map (·.name)
  if jobs.isEmpty then .error (.noApplicableJobs branch)
  else .ok fun suffix => {
    name := jobName config.name pulls suffix
    ns := config.ns
    configName := config.name
    jobs
    repository := config.git.repository
    sender := ⟨settings.botName, settings.botEmail⟩
    base := ⟨branch, base⟩
    pulls := pulls.map (·.toJobPull) }

end MergeQueue
