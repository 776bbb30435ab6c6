import MergeQueue.Proofs.Run.Batch
import MergeQueue.Proofs.Run.World

/-! The form of a batch. It is taken from the success bucket in ascending order and loses pull
requests at its ends only; those it has stay in the merge pool for as long as they are tracked. -/

namespace MergeQueue

open Engine Dialogue

variable {setup : Setup} {key : String}

structure Batch.Proper (settings : Settings) (batch : Batch) : Prop where
  nonempty : batch.pullRequests ≠ []
  length : batch.pullRequests.length ≤ max 1 settings.maxBatchSize.toNat
  ascending : batch.ids.Pairwise (· < ·)
  target : ∀ pr ∈ batch.pullRequests, branchName pr.base.reference = batch.branch

def Pool.Holds (pool : Pool) : Prop :=
  ∀ id, pool.inBatch id = true → (pool.find? id).isSome → pool.mergePool.contains id

lemma batched_sublist {settings : Settings} {pool : Pool} {candidates : List UInt64}
    (hfiled : pool.Filed) (branch : String) :
    ((batched settings pool candidates branch).map (·.id)).Sublist candidates := by
  have hids : ((candidates.filterMap fun id => (pool.find? id).map (·.pullRequest)).map
      (·.id)).Sublist (candidates.map id) := by
    rw [List.map_filterMap]
    apply filterMap_sublist_map
    intro id _ n hn
    obtain ⟨pr, hpr, rfl⟩ := Option.map_eq_some_iff.mp hn
    obtain ⟨t, ht, rfl⟩ := Option.map_eq_some_iff.mp hpr
    exact hfiled ht
  rw [List.map_id] at hids
  exact (((List.take_sublist _ _).trans List.filter_sublist).map _).trans hids

lemma Reformed.proper {settings : Settings} {pool : Pool} {b : Option Batch}
    (h : Reformed settings pool b)
    (hold : ∀ old, pool.batch = some old → old.Proper settings) (hfiled : pool.Filed) :
    ∀ batch, b = some batch → batch.Proper settings := by
  rintro batch rfl
  have hne := h.nonempty (fun old hb => (hold old hb).nonempty) batch rfl
  have htarget := h.target (fun old hb => (hold old hb).target) batch rfl
  cases h with
  | @kept old batch hb hbranch hprs =>
    obtain ⟨_, hlen, hasc, _⟩ := hold old hb
    refine ⟨hne, ?_, ?_, htarget⟩
    · rwa [hprs]
    · rwa [Batch.ids, hprs]
  | @shrunk old batch hb hmore hbranch hprs =>
    obtain ⟨_, hlen, hasc, _⟩ := hold old hb
    have hshort : batch.pullRequests.length = old.pullRequests.length - 1 := by
      rw [hprs, List.length_dropLast]
    refine ⟨hne, by omega, ?_, htarget⟩
    rw [Batch.ids, hprs]
    exact hasc.sublist ((List.dropLast_sublist _).map _)
  | @formed first t batch _ hf ht hbranch hprs =>
    refine ⟨hne, ?_, ?_, htarget⟩
    · rw [hprs, batched, List.length_take]
      omega
    · rw [Batch.ids, hprs]
      exact (MergePool.bucket_ascending _ _).sublist (batched_sublist hfiled _)

namespace Member

lemma bucket_absorb_held (query : MergeQuery) (m : Member) (pr : PullRequest) :
    (m.absorb query true pr).bucket.isSome := by
  unfold absorb
  dsimp only
  rw [Bool.or_true, if_pos rfl]
  split
  · next hb => exact hb
  · simp [enqueue, track]

lemma bucket_settle_held (e : Evaluation) {m : Member} (hb : m.bucket.isSome)
    (ht : m.tracked.isSome) : (m.settle true e).bucket.isSome := by
  rw [settle, if_pos hb, Bool.not_true, Bool.and_false]
  simp only [Bool.false_eq_true, if_false]
  split <;> simp [record, change, enqueue, ht]

end Member

lemma Fate.held {consulted : RepoConfig → Prop} {merged : Prop} {m m' : Member}
    {views : List View} {acks : List CommitStatus}
    (h : Fate setup consulted true merged m views acks m') (hleft : ¬ merged)
    (hm : m.tracked.isSome → m.bucket.isSome) : m'.tracked.isSome → m'.bucket.isSome := by
  cases h with
  | gone => simp [Member.absent]
  | left hl => exact absurd hl hleft
  | @listed config merge m entries _ _ hne =>
    intro _
    obtain ⟨front, last, rfl⟩ := (List.eq_nil_or_concat entries).resolve_left hne
    rw [List.concat_eq_append, List.foldl_append]
    exact Member.bucket_absorb_held _ _ last
  | @reviewed _ _ m₁ _ _ hlook htold =>
    have hsettled : m₁.tracked.isSome → m₁.bucket.isSome := by
      cases hlook with
      | past => exact hm
      | evaluated _ _ hb ht => exact fun _ => Member.bucket_settle_held _ hb ht
    cases htold with
    | quiet => exact hsettled
    | shown => simpa [Member.change] using hsettled

lemma Engine.Merged.holds {queue : Queue} {l : List Said} {pool : Pool}
    (h : Merged setup key queue l pool) (hs : queue.pool.Sound) (hfiled : queue.pool.Filed)
    (hold : queue.pool.Holds) : pool.Holds := by
  intro id hin ht
  have hb : pool.batch ≠ none := by
    obtain ⟨batch, hb, _⟩ := inBatch_iff.mp hin
    simp [hb]
  obtain ⟨gone, ⟨hleft, hmerged⟩, _⟩ := h.departed hs
  rw [h.unmerged hs hb] at hmerged
  obtain rfl : gone = [] := List.map_eq_nil_iff.mp hmerged.symm
  have hmember := hleft.member id
  rw [if_neg List.not_mem_nil] at hmember
  change (pool.member id).bucket.isSome
  replace ht : (pool.member id).tracked.isSome := ht
  rw [hmember] at ht ⊢
  rcases (h.carried hs).reformed.inBatch hs hin with hin | ⟨k, t, hk, hbucket, hid⟩
  · exact hold id hin ht
  · rw [← hid, hfiled hk, hbucket]
    rfl

lemma QueueStep.holds {stage : Stage} {q q' : Option Queue} {l : List Said}
    (h : QueueStep setup key stage q l q') (hs : (poolOf q).Sound) (hfiled : (poolOf q).Filed)
    (hold : (poolOf q).Holds) : (poolOf q').Holds := by
  have hsync (hstage : stage ≠ .merge) (hbatch : (poolOf q').batch = (poolOf q).batch) :
      (poolOf q').Holds := by
    intro id hin
    rw [Pool.inBatch_congr hbatch] at hin
    have hfate := h.fate hs id
    rw [hin] at hfate
    exact hfate.held (fun hm => hstage hm.stage) (hold id hin)
  cases h with
  | unlisted => exact hold
  | dropped => rintro id ⟨⟩
  | refreshed hc hr => exact hsync (by simp) (hr.step hs hc).1
  | passed => exact hold
  | reviewed hr => exact hsync (by simp) (hr.step hs).1
  | merged hm => exact hm.holds hs hfiled hold

lemma QueueRun.batch {visits : List Visit} {q : Option Queue} (run : QueueRun setup key none visits q)
    (honest : ∀ s ∈ visits.flatMap (·.said), s.Honest) :
    (∀ batch, (poolOf q).batch = some batch → batch.Proper setup.settings) ∧ (poolOf q).Holds := by
  induction run with
  | start => exact ⟨by rintro _ ⟨⟩, by rintro _ ⟨⟩⟩
  | next run hstep ih =>
    rw [List.flatMap_append] at honest
    have honest' := fun s hs => honest s (List.mem_append_left _ hs)
    obtain ⟨hproper, hholds⟩ := ih honest'
    have hfiled := run.filed honest'
    exact ⟨(hstep.carried run.sound).reformed.proper hproper hfiled,
      hstep.holds run.sound hfiled hholds⟩

theorem batch_wellFormed {turns : List Turn} {table : Table} (run : Run setup ∅ turns table)
    {queue : Queue} {batch : Batch} (hq : table.find? key = some queue)
    (hb : queue.pool.batch = some batch) (honest : ∀ s ∈ heardIn key turns, s.Honest) :
    batch.Proper setup.settings ∧
      ∀ id ∈ batch.ids, (queue.pool.find? id).isSome → queue.pool.mergePool.contains id := by
  have hrun := run.queue key
  rw [hq] at hrun
  rw [heardIn_eq] at honest
  obtain ⟨hproper, hholds⟩ := hrun.batch honest
  refine ⟨hproper batch hb, fun id hid => hholds id ?_⟩
  obtain ⟨pr, hpr, rfl⟩ := List.mem_map.mp hid
  exact inBatch_iff.mpr ⟨batch, hb, pr, hpr, rfl⟩

theorem batch_wellFormed_reopened :
    let live := [(3, demoPull 3 "aaa" []), (7, demoPull 7 "aaa" [])]
    let reopened := [(.poolSync, jobsWorld [demoPull 3 "aaa" []] live .pending),
      (.poolSync, jobsWorld [demoPull 3 "aaa" [], demoPull 7 "aaa" []] live .pending)]
    let turns := play pairSetup (batchedPulls live ++ reopened)
    ∃ queue batch, turns.2.find? demoJobs.poolKey = some queue ∧ queue.pool.batch = some batch ∧
      batch.ids = [3, 7] ∧ (∀ s ∈ heardIn demoJobs.poolKey turns.1, s.Honest) ∧
      batch.Proper pairSetup.settings ∧ ∀ id ∈ batch.ids, (queue.pool.find? id).isSome →
        queue.pool.mergePool.contains id := by
  intro live reopened turns
  have hqueue : (turns.2.find? demoJobs.poolKey).any
      (fun queue => queue.pool.batch.any fun batch => batch.ids = [3, 7]) = true := by
    decide +kernel
  obtain ⟨queue, hq, hb⟩ := (Option.any_eq_true _ _).mp hqueue
  obtain ⟨batch, hb, hids⟩ := (Option.any_eq_true _ _).mp hb
  have honest : ∀ s ∈ heardIn demoJobs.poolKey turns.1, s.Honest := by
    decide +kernel
  exact ⟨queue, batch, hq, hb, of_decide_eq_true hids, honest,
    batch_wellFormed (run_play pairSetup _) hq hb honest⟩

end MergeQueue
