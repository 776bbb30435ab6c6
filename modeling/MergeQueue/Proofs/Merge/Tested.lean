import MergeQueue.Proofs.Run.Batch
import MergeQueue.Proofs.Run.World

/-! Merges of a batch. They wait for the job of the batch to complete, and merge the commits that
this very job was asked to test, in the same order. -/

namespace MergeQueue

open Engine

variable {setup : Setup} {key : String}

/-- How the merge calls of a queue rest on the job of its batch: the job has completed, it is the
last one that was created, and the calls follow the pull requests that it was asked to test, for the
commits that were tested and by the records under their numbers. Where the host is honest, these are
the records of those very numbers. -/
def RestsOnJob (history said : List Said) (queue : Queue) (batch : Batch) : Prop :=
  ∃ job request c, batch.job = some job ∧ ⟨.jobState job, .ok .completed⟩ ∈ said ∧
    (createdJobs history).getLast? = some (request, job) ∧
    (mergeCalls said).Sublist
      (request.pulls.filterMap fun pull => offer c queue.pool pull.id pull.sha) ∧
    ((∀ s ∈ history, s.Honest) → ((mergeCalls said).map fun call => (call.id, call.sha)).Sublist
      (request.pulls.map fun pull => (pull.id, pull.sha)))

theorem batch_merge_restsOnJob {turns : List Turn} {table table' : Table} {log : List Exchange}
    (run : Run setup ∅ turns table) (h : (Stage.merge.pass setup table).Course log table')
    {k : Option String} {call : MergeCall} (hcall : (k, call) ∈ mergesAsked log) :
    ∃ key queue queue', k = some key ∧ table.find? key = some queue ∧
      table'.find? key = some queue' ∧ call ∈ mergeCalls (heard key log) ∧
      ∀ batch, queue.pool.batch = some batch →
        RestsOnJob (heardIn key turns) (heard key log) queue batch ∧ queue'.pool.batch = none := by
  obtain ⟨pauses, hpass⟩ := (course_fst _ _ _).mp h
  obtain ⟨key, queue, pool, hk, hq, hq', hmerged, hcalls⟩ := mergePass_asked hpass hcall
  refine ⟨key, queue, _, hk, hq, hq', hcalls, fun batch hb => ?_⟩
  have hrun := run.queue key
  rw [hq] at hrun
  obtain ⟨job, c, hjob, hpolled, _, hnone, hsub⟩ :=
    hmerged.tested hrun.sound hb (List.ne_nil_of_mem hcalls)
  obtain ⟨request, hlast, hpulls⟩ := hrun.job batch job hb hjob
  rw [← heardIn_eq] at hlast
  refine ⟨⟨job, request, c, hjob, hpolled, hlast, ?_, fun honest => ?_⟩, hnone⟩
  · rw [hpulls, List.filterMap_map]
    exact hsub
  · rw [heardIn_eq] at honest
    have hpairs := hsub.map fun call => (call.id, call.sha)
    rw [offers, List.map_filterMap] at hpairs
    rw [hpulls, List.map_map]
    apply hpairs.trans
    apply filterMap_sublist_map
    intro pr _ b hb
    obtain ⟨call, hoffer, rfl⟩ := Option.map_eq_some_iff.mp hb
    obtain ⟨t, ht, _, rfl⟩ := offer_eq_some_iff.mp hoffer
    rw [hrun.filed honest ht]
    rfl

theorem batch_merge_restsOnJob_demo :
    let turns := play demoSetup (batchedPulls [(3, demoPull 3 "aaa" []), (7, demoPull 7 "aaa" [])])
    let pass := Stage.merge.play demoSetup completedWorld turns.2
    ∃ key queue queue', some demoJobs.poolKey = some key ∧ turns.2.find? key = some queue ∧
      pass.2.find? key = some queue' ∧ ⟨⟨demoJobs, "t"⟩, 3, "aaa"⟩ ∈ mergeCalls (heard key pass.1) ∧
      ∀ batch, queue.pool.batch = some batch →
        RestsOnJob (heardIn key turns.1) (heard key pass.1) queue batch ∧
          queue'.pool.batch = none :=
  batch_merge_restsOnJob (run_play demoSetup _) (play_course demoSetup .merge completedWorld _)
    (by decide +kernel)

def swappedPulls : List (Stage × World) :=
  batchedPulls [(3, demoPull 7 "aaa" []), (7, demoPull 9 "aaa" [])]

theorem untested_number_merged :
    ¬ ∀ (setup : Setup) (turns : List Turn) (table table' : Table) (log : List Exchange),
      Run setup ∅ turns table → (Stage.merge.pass setup table).Course log table' →
      ∀ key queue batch call, (some key, call) ∈ mergesAsked log → table.find? key = some queue →
        queue.pool.batch = some batch → ∃ job request, batch.job = some job ∧
          ⟨.jobState job, .ok .completed⟩ ∈ heard key log ∧
          (request, job) ∈ createdJobs (heardIn key turns) ∧
          (call.id, call.sha) ∈ request.pulls.map fun pull => (pull.id, pull.sha) := by
  intro h
  have hqueue : ((play demoSetup swappedPulls).2.find? demoJobs.poolKey).any
      (fun queue => queue.pool.batch.isSome) = true := by
    decide +kernel
  obtain ⟨queue, hq, hb⟩ := (Option.any_eq_true _ _).mp hqueue
  obtain ⟨batch, hb⟩ := Option.isSome_iff_exists.mp hb
  obtain ⟨job, request, _, _, hmem, hpulls⟩ := h demoSetup _ _ _ _ (run_play demoSetup swappedPulls)
    (play_course demoSetup .merge completedWorld _) demoJobs.poolKey queue batch
    ⟨⟨demoJobs, "t"⟩, 9, "aaa"⟩ (by decide +kernel) hq hb
  have hall : ∀ created ∈ createdJobs (heardIn demoJobs.poolKey (play demoSetup swappedPulls).1),
      (9, "aaa") ∉ created.1.pulls.map fun pull => (pull.id, pull.sha) := by
    decide +kernel
  exact hall _ hmem hpulls

end MergeQueue
