import MergeQueue.Config.Basic
import MergeQueue.Sorted.Set

/-! The rules a pull request has to meet. The simple rules look at its labels, author and target
branch alone; the full rules also look at conflicts and at the statuses of its head commit. -/

namespace MergeQueue

abbrev Statuses := SortedMap String CommitStatus

structure Verdict where
  passed : Bool
  message : String
  deriving DecidableEq

structure FullVerdict where
  passed : Bool
  remove : Bool
  message : String
  deriving DecidableEq

namespace Policy

def approvedLabel : String := "approved"

def listing (names : List String) : String := Text.joined "," (SortedSet.distinct names)

def requiredLabels (query : MergeQuery) : List String :=
  query.labels ++ if query.approveRequired then [approvedLabel] else []

def missingLabels (query : MergeQuery) (labels : List String) : List String :=
  (requiredLabels query).filter fun label => !labels.contains label

def blockingLabels (query : MergeQuery) (labels : List String) : List String :=
  query.blockLabels.filter fun label => labels.contains label

def labelViolations (query : MergeQuery) (labels : List String) : List String :=
  let missing := missingLabels query labels
  let blocking := blockingLabels query labels
  (if missing.isEmpty then [] else ["Label [" ++ listing missing ++ "] is required."]) ++
    (if blocking.isEmpty then [] else ["Label [" ++ listing blocking ++ "] is blocking the merge."])

def authorViolations (query : MergeQuery) (author : String) : List String :=
  if query.skipAuthors.contains author then
    ["Author [" ++ author ++ "] is in skipAuthors query."]
  else if !query.authors.isEmpty && !query.authors.contains author then
    ["Author [" ++ author ++ "] is not in authors query."]
  else []

def branchViolations (query : MergeQuery) (branch : String) : List String :=
  if query.skipBranches.contains branch then
    ["Branch [" ++ branch ++ "] is in skipBranches query."]
  else if !query.branches.isEmpty && !query.branches.contains branch then
    ["Branch [" ++ branch ++ "] is not in branches query."]
  else []

def violations (query : MergeQuery) (pr : PullRequest) : List String :=
  labelViolations query pr.labels ++ authorViolations query pr.author.name ++
    branchViolations query pr.target

def checkSimple (query : MergeQuery) (pr : PullRequest) : Verdict :=
  let found := violations query pr
  ⟨found.isEmpty, Text.joined " " found⟩

def succeeded (statuses : Statuses) (context : String) : Bool :=
  (statuses.find? context).any fun status => status.state = .success

/-- The checks without success: the named ones where the query names any, and otherwise those
reported, in the given order, but the optional. The queue's own status is never among them. -/
def unmetAmong (reported : List String) (query : MergeQuery) (statuses : Statuses) (own : String) :
    List String :=
  if query.checks.isEmpty then
    reported.filter fun context =>
      context ≠ own && !query.optionalChecks.contains context && !succeeded statuses context
  else query.checks.filter fun context => context ≠ own && !succeeded statuses context

def unmetChecks (query : MergeQuery) (statuses : Statuses) (own : String) : List String :=
  unmetAmong statuses.keys query statuses own

def checksVerdict (unmet : List String) : Verdict :=
  if unmet.isEmpty then ⟨true, ""⟩
  else ⟨false, "Checks [" ++ listing unmet ++ "] are not successful."⟩

def checkStatuses (query : MergeQuery) (statuses : Statuses) (own : String) : Verdict :=
  checksVerdict (unmetChecks query statuses own)

def evaluate (query : MergeQuery) (pr : PullRequest) (statuses : Statuses) (own : String) :
    FullVerdict :=
  let simple := checkSimple query pr
  if simple.passed then
    let checks := checkStatuses query statuses own
    let messages := (if pr.mergeable then [] else ["Merge conflicts exist."]) ++
      (if checks.message.isEmpty then [] else [checks.message]) ++
      (if simple.message.isEmpty then [] else [simple.message])
    ⟨pr.mergeable && checks.passed, false, Text.joined " " messages⟩
  else ⟨false, true, simple.message⟩

end Policy

def Settings.effectiveQuery (settings : Settings) (merge : MergeConfig) : MergeQuery :=
  let label := settings.blockLabel
  if label.isEmpty || merge.query.blockLabels.contains label then merge.query
  else { merge.query with blockLabels := merge.query.blockLabels ++ [label] }

end MergeQueue
