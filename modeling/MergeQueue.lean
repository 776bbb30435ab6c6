import MergeQueue.Main
import MergeQueue.StatusPage
import MergeQueue.Proofs.Sorted
import MergeQueue.Proofs.Course
import MergeQueue.Proofs.Affix
import MergeQueue.Proofs.Scan
import MergeQueue.Proofs.Pool.MergePool
import MergeQueue.Proofs.Pool.Assignment
import MergeQueue.Proofs.Pool.Member
import MergeQueue.Proofs.Pool.Listing
import MergeQueue.Proofs.Pool.Evaluation
import MergeQueue.Proofs.Pool.Operation
import MergeQueue.Proofs.Pool.Representation
import MergeQueue.Proofs.Pool.Closed
import MergeQueue.Proofs.Pool.Relisting
import MergeQueue.Proofs.Run.PoolPass
import MergeQueue.Proofs.Run.StatusPass
import MergeQueue.Proofs.Run.MergeStep
import MergeQueue.Proofs.Run.MergePass
import MergeQueue.Proofs.Run.MergeTalk
import MergeQueue.Proofs.Run.Basic
import MergeQueue.Proofs.Run.Queue
import MergeQueue.Proofs.Run.MergeEffect
import MergeQueue.Proofs.Run.View
import MergeQueue.Proofs.Run.Fate
import MergeQueue.Proofs.Run.Asked
import MergeQueue.Proofs.Run.Account
import MergeQueue.Proofs.Run.Retest
import MergeQueue.Proofs.Run.Batch
import MergeQueue.Proofs.Run.Apart
import MergeQueue.Proofs.Run.Connections
import MergeQueue.Proofs.Run.Failure
import MergeQueue.Proofs.Run.Pause
import MergeQueue.Proofs.Run.Request
import MergeQueue.Proofs.Run.World
import MergeQueue.Proofs.Merge.Evaluated
import MergeQueue.Proofs.Merge.Tested
import MergeQueue.Proofs.Merge.Allowed
import MergeQueue.Proofs.Merge.Batch
import MergeQueue.Proofs.Merge.Once
import MergeQueue.Proofs.Merge.Lossless
import MergeQueue.Proofs.Merge.Freshness
import MergeQueue.Proofs.Merge.Retargeted
import MergeQueue.Proofs.Merge.Isolation
import MergeQueue.Proofs.Merge.Outstanding
import MergeQueue.Proofs.Merge.Manner
import MergeQueue.Proofs.Merge.InOrder
import MergeQueue.Proofs.Merge.OldestFirst
import MergeQueue.Proofs.Merge.Applicable
import MergeQueue.Proofs.Table.Ownership
import MergeQueue.Proofs.Table.Separation
import MergeQueue.Proofs.Table.Update
import MergeQueue.Proofs.Table.SharedKey
import MergeQueue.Proofs.Status.Description
import MergeQueue.Proofs.Status.Publication
import MergeQueue.Proofs.Status.Agreement
import MergeQueue.Proofs.Status.Head
import MergeQueue.Proofs.Status.Repeated
import MergeQueue.Proofs.Status.Interrupted
import MergeQueue.Proofs.Status.Glimpse
import MergeQueue.Proofs.Status.Page
import MergeQueue.Proofs.Json.Text
import MergeQueue.Proofs.Json.Record
import MergeQueue.Proofs.Json.DataModel
import MergeQueue.Proofs.Policy.Rules
import MergeQueue.Proofs.Policy.Checks
import MergeQueue.Proofs.Policy.Verdict
import MergeQueue.Proofs.Config.Acceptance
import MergeQueue.Proofs.Job.TestedBase
import MergeQueue.Proofs.CommitMessage.Split
import MergeQueue.Proofs.CommitMessage.Rendering
import MergeQueue.Proofs.Web.Percent
import MergeQueue.Proofs.Web.Reading
import MergeQueue.Proofs.Web.Paging
import MergeQueue.Proofs.Web.Entry
import MergeQueue.Proofs.Web.Listing
import MergeQueue.Proofs.Web.Statuses
import MergeQueue.Proofs.Status.Latest
import MergeQueue.Proofs.Status.Newest
import MergeQueue.Proofs.Web.Url
import MergeQueue.Proofs.Web.Path
import MergeQueue.Proofs.Web.JobTalk
import MergeQueue.Proofs.Web.JobAddress
