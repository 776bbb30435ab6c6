import Mathlib.Data.List.Flatten
import MergeQueue.Proofs.Run.Batch
import MergeQueue.Proofs.Run.World

/-! Each failure of its job takes the last pull request out of a batch, and until a job completes
nothing else takes one out. -/

namespace MergeQueue

open Engine

variable {setup : Setup} {key : String}

namespace Said

def failed : Said → Bool
  | ⟨.jobState _, .ok .failed⟩ => true
  | _ => false

def completed : Said → Bool
  | ⟨.jobState _, .ok .completed⟩ => true
  | _ => false

lemma failed_eq_false {job : JobRef} {r : Except Error JobState} (h : r ≠ .ok .failed) :
    failed ⟨.jobState job, r⟩ = false := by
  unfold failed
  split
  · next heq =>
    cases heq
    exact absurd rfl h
  · rfl

end Said

lemma countP_failed_jobTalk (said : List Said) :
    (jobTalk said).countP Said.failed = said.countP Said.failed := by
  rw [jobTalk, List.countP_filter]
  apply List.countP_congr
  rintro ⟨q, r⟩ _
  cases q <;> simp [Said.failed, Question.ofJobs]

inductive Attended (batch : Batch) : List Said → Option Batch → Prop
  | left : Attended batch [] (some batch)
  | commissioned {talk batch'} : batch.job = none → Commissioned batch talk batch' →
      Attended batch talk (some batch')
  | polled {job r} : batch.job = some job →
      Attended batch [⟨.jobState job, r⟩] (batch.after r)

lemma Retest.attended {settings : Settings} {pool : Pool} {talk : List Said} {b : Option Batch}
    {batch : Batch} (h : Retest settings pool talk b) (hb : pool.batch = some batch) :
    Attended batch talk b := by
  cases h with
  | kept =>
    rw [hb]
    exact .left
  | formed hnone =>
    rw [hb] at hnone
    cases hnone
  | resumed hb' hj hc =>
    cases hb.symm.trans hb'
    exact .commissioned hj hc
  | polled hb' hj =>
    cases hb.symm.trans hb'
    exact .polled hj

structure Remains (first : Batch) (failures : Nat) (b : Option Batch) : Prop where
  bound : failures ≤ first.pullRequests.length
  rest : failures < first.pullRequests.length → ∃ batch, b = some batch ∧
    batch.branch = first.branch ∧
      batch.pullRequests = first.pullRequests.take (first.pullRequests.length - failures)
  gone : failures = first.pullRequests.length → b = none

namespace Remains

variable {first batch : Batch} {failures : Nat}

lemma start (h : first.pullRequests ≠ []) : Remains first 0 (some first) := by
  have hpos : 0 < first.pullRequests.length := List.length_pos_iff.mpr h
  refine ⟨by omega, fun _ => ⟨first, rfl, rfl, ?_⟩, fun hall => by omega⟩
  rw [Nat.sub_zero, List.take_length]

lemma lt_length (h : Remains first failures (some batch)) :
    failures < first.pullRequests.length := by
  apply Nat.lt_of_le_of_ne h.bound
  intro hall
  cases h.gone hall

lemma prs (h : Remains first failures (some batch)) : batch.branch = first.branch ∧
    batch.pullRequests = first.pullRequests.take (first.pullRequests.length - failures) := by
  obtain ⟨batch', hb, hrest⟩ := h.rest h.lt_length
  cases hb
  exact hrest

lemma kept {batch' : Batch} (h : Remains first failures (some batch))
    (hbranch : batch'.branch = batch.branch)
    (hprs : batch'.pullRequests = batch.pullRequests) : Remains first failures (some batch') := by
  refine ⟨h.bound, fun _ => ⟨batch', rfl, hbranch.trans h.prs.1, hprs.trans h.prs.2⟩, fun hall => ?_⟩
  exact absurd hall (Nat.ne_of_lt h.lt_length)

lemma shrunk (h : Remains first failures (some batch)) :
    Remains first (failures + 1) batch.shrunk := by
  have hlt := h.lt_length
  obtain ⟨hbranch, hprs⟩ := h.prs
  have hlen : batch.pullRequests.length = first.pullRequests.length - failures := by
    rw [hprs, List.length_take]
    omega
  refine ⟨hlt, fun hmore => ?_, fun hall => ?_⟩
  · rw [Batch.shrunk, if_pos (by omega)]
    refine ⟨_, rfl, hbranch, ?_⟩
    change batch.pullRequests.dropLast = _
    rw [List.dropLast_eq_take, hlen, hprs, List.take_take]
    congr 1
    omega
  · rw [Batch.shrunk, if_neg (by omega)]

end Remains

lemma Attended.remains {first batch : Batch} {failures : Nat} {talk : List Said}
    {b : Option Batch} (h : Attended batch talk b) (hrem : Remains first failures (some batch))
    (hopen : ∀ s ∈ talk, s.completed = false) :
    Remains first (failures + talk.countP Said.failed) b := by
  cases h with
  | left => exact hrem
  | commissioned _ hc =>
    have hnone : talk.countP Said.failed = 0 := by
      cases hc <;> rfl
    rw [hnone]
    exact hrem.kept hc.kept.1 hc.kept.2
  | @polled job r _ =>
    have hr := hopen _ List.mem_cons_self
    unfold Batch.after
    split
    · cases hr
    · exact hrem.shrunk
    · exact hrem.kept rfl rfl
    · next hf _ =>
      rw [List.countP_singleton, Said.failed_eq_false hf]
      exact hrem

lemma QueueStep.unmerged {stage : Stage} {q q' : Option Queue} {l : List Said}
    (h : QueueStep setup key stage q l q') (hs : (poolOf q).Sound) {batch : Batch}
    (hb : (poolOf q).batch = some batch) (hopen : ∀ s ∈ l, s.completed = false) :
    mergeCalls l = [] := by
  by_cases hstage : stage = .merge
  · subst hstage
    cases h with
    | passed => rfl
    | merged hm =>
      apply Decidable.byContradiction
      intro hcalls
      obtain ⟨job, _, _, hmem, _⟩ := hm.tested hs hb hcalls
      cases hopen _ hmem
  · exact mergeCalls_unasked (h.synced hs hstage).1

/-- A batch that has only failed so far, and of which nothing was merged. -/
structure Dwindles (first : Batch) (said : List Said) (b : Option Batch) : Prop where
  remains : Remains first (said.countP Said.failed) b
  unmerged : mergeCalls said = []

lemma Dwindles.step {stage : Stage} {q q' : Option Queue} {first : Batch} {said l : List Said}
    (h : Dwindles first said (poolOf q).batch) (hstep : QueueStep setup key stage q l q')
    (hs : (poolOf q).Sound) (hb : (poolOf q).batch ≠ none) (hq : q' ≠ none)
    (hopen : ∀ s ∈ l, s.completed = false) : Dwindles first (said ++ l) (poolOf q').batch := by
  obtain ⟨batch, hbatch⟩ := Option.ne_none_iff_exists'.mp hb
  have hrem := h.remains
  rw [hbatch] at hrem
  have hattended := (hstep.retest hs hq).attended hbatch
  have hrem' := hattended.remains hrem fun s hmem => hopen s (List.mem_filter.mp hmem).1
  refine ⟨?_, ?_⟩
  · rw [List.countP_append, ← countP_failed_jobTalk l]
    exact hrem'
  · rw [mergeCalls_append, h.unmerged, hstep.unmerged hs hbatch hopen]
    rfl

variable {first : Batch} {q₀ q : Option Queue} {visits : List Visit}

lemma QueueRun.dwindles (h : QueueRun setup key q₀ visits q) (hs : (poolOf q₀).Sound)
    (hb : (poolOf q₀).batch = some first) (hne : first.pullRequests ≠ [])
    (hheld : ∀ v ∈ visits, (poolOf v.before).batch ≠ none) (hq : q ≠ none)
    (hopen : ∀ s ∈ visits.flatMap (·.said), s.completed = false) :
    Dwindles first (visits.flatMap (·.said)) (poolOf q).batch := by
  induction h with
  | start =>
    rw [hb]
    exact ⟨.start hne, rfl⟩
  | @next visits q stage said q' hpasses hstep ih =>
    rw [List.flatMap_append, List.flatMap_singleton] at hopen ⊢
    have hlast : (poolOf q).batch ≠ none := hheld _ (List.mem_append_right _ List.mem_cons_self)
    -- a queue that is gone has no batch
    have hstay : q ≠ none := by
      rintro rfl
      exact hlast rfl
    have hd := ih (fun v hv => hheld v (List.mem_append_left _ hv)) hstay
      fun s hmem => hopen s (List.mem_append_left _ hmem)
    exact hd.step hstep (hpasses.sound_of hs) hlast hq fun s hmem => hopen s (List.mem_append_right _ hmem)

lemma QueueRun.held (h : QueueRun setup key q₀ visits q) (hs : (poolOf q₀).Sound)
    (hb : (poolOf q₀).batch = some first) (hstay : ∀ v ∈ visits, v.before ≠ none)
    (hopen : ∀ s ∈ visits.flatMap (·.said), s.completed = false)
    (hfew : (visits.dropLast.flatMap (·.said)).countP Said.failed < first.pullRequests.length) :
    ∀ v ∈ visits, (poolOf v.before).batch ≠ none := by
  have hne : first.pullRequests ≠ [] := List.ne_nil_of_length_pos (by omega)
  induction h with
  | start => simp
  | @next visits q stage said q' hpasses hstep ih =>
    rw [List.dropLast_concat] at hfew
    rw [List.flatMap_append, List.flatMap_singleton] at hopen
    have hopen' : ∀ s ∈ visits.flatMap (·.said), s.completed = false :=
      fun s hmem => hopen s (List.mem_append_left _ hmem)
    have hfewer : (visits.dropLast.flatMap (·.said)).countP Said.failed ≤
        (visits.flatMap (·.said)).countP Said.failed :=
      ((List.dropLast_sublist visits).flatMap _).countP_le
    -- the bound is on the failures before the last visit, so what is left then is not nothing
    have hheld := ih (fun v hv => hstay v (List.mem_append_left _ hv)) hopen' (by omega)
    have hq : q ≠ none := hstay _ (List.mem_append_right _ List.mem_cons_self)
    obtain ⟨batch, hbatch, _⟩ := (hpasses.dwindles hs hb hne hheld hq hopen').remains.rest hfew
    have hlast : (poolOf q).batch ≠ none := by
      rw [hbatch]
      exact Option.some_ne_none batch
    exact List.forall_mem_append.mpr ⟨hheld, List.forall_mem_singleton.mpr hlast⟩

structure Handles (batch : Batch) (stage : Stage) (said : List Said) (b : Option Batch) : Prop where
  polled : ∀ job r, ⟨.jobState job, r⟩ ∈ said →
    stage = .merge ∧ batch.job = some job ∧ b = batch.after r
  unpolled : (∀ job r, ⟨.jobState job, r⟩ ∉ said) → ∃ batch', b = some batch' ∧
    batch'.branch = batch.branch ∧ batch'.pullRequests = batch.pullRequests ∧
      (batch.job.isSome → batch' = batch)
  synced : stage ≠ .merge → b = some batch

lemma Attended.of_poll {batch : Batch} {talk : List Said} {b : Option Batch} {job : JobRef}
    {r : Except Error JobState} (h : Attended batch talk b) (hmem : ⟨.jobState job, r⟩ ∈ talk) :
    batch.job = some job ∧ b = batch.after r := by
  cases h with
  | left => cases hmem
  | commissioned _ hc =>
    cases hc with
    | unasked => cases hmem
    | refused => cases List.mem_singleton.mp hmem
    | created => cases List.mem_singleton.mp hmem
  | polled hj =>
    cases List.mem_singleton.mp hmem
    exact ⟨hj, rfl⟩

lemma Attended.of_unpolled {batch : Batch} {talk : List Said} {b : Option Batch}
    (h : Attended batch talk b) (hnone : ∀ job r, ⟨.jobState job, r⟩ ∉ talk) :
    ∃ batch', b = some batch' ∧ batch'.branch = batch.branch ∧
      batch'.pullRequests = batch.pullRequests ∧ (batch.job.isSome → batch' = batch) := by
  cases h with
  | left => exact ⟨batch, rfl, rfl, rfl, fun _ => rfl⟩
  | commissioned hj hc =>
    refine ⟨_, rfl, hc.kept.1, hc.kept.2, fun hsome => ?_⟩
    rw [hj] at hsome
    cases hsome
  | polled => exact absurd List.mem_cons_self (hnone _ _)

lemma QueueStep.handles {stage : Stage} {q q' : Option Queue} {l : List Said}
    (h : QueueStep setup key stage q l q') (hs : (poolOf q).Sound) (hq : q' ≠ none)
    {batch : Batch} (hb : (poolOf q).batch = some batch) :
    Handles batch stage l (poolOf q').batch := by
  have hattended := (h.retest hs hq).attended hb
  refine ⟨fun job r hmem => ?_, fun hnone => ?_, fun hstage => ?_⟩
  · have htalk : ⟨.jobState job, r⟩ ∈ jobTalk l := List.mem_filter.mpr ⟨hmem, rfl⟩
    refine ⟨?_, hattended.of_poll htalk⟩
    apply Decidable.byContradiction
    intro hstage
    rw [jobTalk_unasked (h.synced hs hstage).1] at htalk
    cases htalk
  · exact hattended.of_unpolled fun job r hmem => hnone job r (List.mem_filter.mp hmem).1
  · rw [(h.synced hs hstage).2 hq, hb]

/-- What a pass makes of a batch that is there, and what is left of it after any number of passes. The
passes are those in which there is still this batch: before the last of them there are fewer failures
than pull requests, or it is known to be there. -/
theorem failed_batch_dwindles {turns : List Turn} {table : Table} (run : Run setup ∅ turns table)
    {queue : Queue} {first : Batch} (hq : table.find? key = some queue)
    (hb : queue.pool.batch = some first) :
    (∀ stage log table', (stage.pass setup table).Course log table' → (table'.find? key).isSome →
      Handles first stage (heard key log) (poolOf (table'.find? key)).batch) ∧
    ∀ since table', Run setup table since table' →
      (∀ t ∈ since, (t.before.find? key).isSome) → (table'.find? key).isSome →
      (∀ s ∈ heardIn key since, s.completed = false) →
      ((heardIn key since.dropLast).countP Said.failed < first.pullRequests.length ∨
        ∀ t ∈ since, (poolOf (t.before.find? key)).batch ≠ none) →
      Dwindles first (heardIn key since) (poolOf (table'.find? key)).batch := by
  have hrun := run.queue key
  have hs := hrun.sound
  have hbatch : (poolOf (table.find? key)).batch = some first := by
    rw [hq]
    exact hb
  refine ⟨fun stage log table' h hq' => ?_, fun since table' h hstay hq' hopen hor => ?_⟩
  · exact (pass_course h key).handles hs (Option.isSome_iff_ne_none.mp hq') hbatch
  · have hpasses := h.queue_from key
    have hstay' : ∀ v ∈ since.map (Turn.visit key), v.before ≠ none := by
      intro v hv
      obtain ⟨t, ht, rfl⟩ := List.mem_map.mp hv
      exact Option.isSome_iff_ne_none.mp (hstay t ht)
    rw [heardIn_eq] at hopen ⊢
    have hheld : ∀ v ∈ since.map (Turn.visit key), (poolOf v.before).batch ≠ none := by
      rcases hor with hfew | hheld
      · rw [heardIn_eq, List.map_dropLast] at hfew
        exact hpasses.held hs hbatch hstay' hopen hfew
      · intro v hv
        obtain ⟨t, ht, rfl⟩ := List.mem_map.mp hv
        exact hheld t ht
    exact hpasses.dwindles hs hbatch (hrun.nonempty first hbatch) hheld
      (Option.isSome_iff_ne_none.mp hq') hopen

theorem failed_batch_dwindles_demo :
    let start := play pairSetup twoPulls
    let later := playFrom pairSetup failingTwice [] start.2
    ∃ queue first, start.2.find? demoJobs.poolKey = some queue ∧ queue.pool.batch = some first ∧
      first.ids = [3, 7] ∧ (heardIn demoJobs.poolKey later.1).countP Said.failed = 2 ∧
      Dwindles first (heardIn demoJobs.poolKey later.1)
        (poolOf (later.2.find? demoJobs.poolKey)).batch := by
  intro start later
  have hqueue : (start.2.find? demoJobs.poolKey).any
      (fun queue => queue.pool.batch.any fun batch => batch.ids = [3, 7]) = true := by
    decide +kernel
  obtain ⟨queue, hq, hb⟩ := (Option.any_eq_true _ _).mp hqueue
  obtain ⟨first, hb, hids⟩ := (Option.any_eq_true _ _).mp hb
  have hids := of_decide_eq_true hids
  have hlen : first.pullRequests.length = 2 := by
    rw [← List.length_map (f := PullRequest.id)]
    exact congrArg List.length hids
  have hlaw := (failed_batch_dwindles (run_play pairSetup twoPulls) hq hb).2
  refine ⟨queue, first, hq, hb, hids, by decide +kernel, ?_⟩
  apply hlaw later.1 later.2 (Run.start.playFrom failingTwice) (by decide +kernel)
    (by decide +kernel) (by decide +kernel)
  rw [hlen]
  exact .inl (by decide +kernel)

end MergeQueue
