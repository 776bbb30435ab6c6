import MergeQueue.Proofs.Run.Account
import MergeQueue.Proofs.Run.Retest
import MergeQueue.Proofs.Run.World

/-! Jobs of a queue run one at a time. The batch holds on to its job until the job system says that
the job is over, and only for a batch without one is a job asked for. -/

namespace MergeQueue

open Engine

variable {setup : Setup} {key : String}

def jobOver : Except Error JobState → Bool
  | .ok .completed => true
  | .ok .failed => true
  | .error (.jobNotFound _) => true
  | _ => false

namespace Said

def ends (job : JobRef) : Said → Bool
  | ⟨.jobState polled, reply⟩ => polled = job && jobOver reply
  | _ => false

def creates : Said → Bool
  | ⟨.createJob _, _⟩ => true
  | _ => false

lemma ofJobs_of_creates {s : Said} (h : s.creates = true) : s.1.ofJobs = true := by
  obtain ⟨q, r⟩ := s
  cases q with
  | createJob => rfl
  | _ => cases h

end Said

def Outstanding (said : List Said) (job : JobRef) : Prop :=
  ∃ before request after, said = before ++ ⟨.createJob request, .ok job⟩ :: after ∧
    ∀ s ∈ after, s.ends job = false

/-- Whenever a job is asked for, no earlier one is outstanding. -/
def OneAtATime (said : List Said) : Prop :=
  ∀ before s after, said = before ++ s :: after → s.creates = true → ∀ job, ¬ Outstanding before job

lemma not_outstanding_nil (job : JobRef) : ¬ Outstanding [] job := by
  rintro ⟨before, request, after, h, _⟩
  simp at h

lemma outstanding_concat {said : List Said} {s : Said} {job : JobRef}
    (h : Outstanding (said ++ [s]) job) :
    (∃ request, s = ⟨.createJob request, .ok job⟩) ∨
      (Outstanding said job ∧ s.ends job = false) := by
  obtain ⟨before, request, after, heq, hafter⟩ := h
  rcases cut_concat heq with ⟨_, hs, _⟩ | ⟨rest, rfl, rfl⟩
  · exact .inl ⟨request, hs⟩
  · have hend : s.ends job = false := hafter s (List.mem_append_right _ List.mem_cons_self)
    exact .inr ⟨⟨before, request, rest, rfl, fun x hx => hafter x (List.mem_append_left _ hx)⟩, hend⟩

lemma OneAtATime.concat {said : List Said} {s : Said} (h : OneAtATime said)
    (hs : s.creates = true → ∀ job, ¬ Outstanding said job) : OneAtATime (said ++ [s]) := by
  intro before s' after heq hcreates job
  rcases cut_concat heq with ⟨rfl, rfl, _⟩ | ⟨rest, _, rfl⟩
  · exact hs hcreates job
  · exact h before s' rest rfl hcreates job

lemma Outstanding.jobTalk {said : List Said} {job : JobRef} (h : Outstanding said job) :
    Outstanding (jobTalk said) job := by
  obtain ⟨before, request, after, rfl, hafter⟩ := h
  refine ⟨MergeQueue.jobTalk before, request, MergeQueue.jobTalk after, ?_, fun s hs => ?_⟩
  · simp [Question.ofJobs]
  · exact hafter s (List.mem_filter.mp hs).1

lemma OneAtATime.of_jobTalk {said : List Said} (h : OneAtATime (jobTalk said)) :
    OneAtATime said := by
  rintro before s after rfl hcreates job hout
  refine h (jobTalk before) s (jobTalk after) ?_ hcreates job hout.jobTalk
  simp [Said.ofJobs_of_creates hcreates]

lemma Commissioned.outstanding {batch batch' : Batch} {talk said : List Said}
    (h : Commissioned batch talk batch') (hone : OneAtATime said)
    (hnone : ∀ job, ¬ Outstanding said job) :
    OneAtATime (said ++ talk) ∧
      ∀ job, Outstanding (said ++ talk) job → batch'.job = some job := by
  cases h with
  | unasked =>
    rw [List.append_nil]
    exact ⟨hone, fun job hjob => absurd hjob (hnone job)⟩
  | refused =>
    refine ⟨hone.concat fun _ => hnone, fun job hjob => ?_⟩
    rcases outstanding_concat hjob with ⟨request, hs⟩ | ⟨hjob, _⟩
    · cases hs
    · exact absurd hjob (hnone job)
  | created =>
    refine ⟨hone.concat fun _ => hnone, fun job hjob => ?_⟩
    rcases outstanding_concat hjob with ⟨request, hs⟩ | ⟨hjob, _⟩
    · cases hs
      rfl
    · exact absurd hjob (hnone job)

lemma Batch.job_after {batch : Batch} {r : Except Error JobState} (h : jobOver r = false) :
    batch.after r = some batch := by
  unfold jobOver at h
  split at h
  · cases h
  · cases h
  · cases h
  · next hc hf hn =>
    rw [Batch.after]
    · exact hc
    · exact hf
    · exact hn

lemma Retest.outstanding {settings : Settings} {pool : Pool} {talk said : List Said}
    {b : Option Batch} (h : Retest settings pool talk b) (hone : OneAtATime said)
    (hjob : ∀ job, Outstanding said job → ∃ batch, pool.batch = some batch ∧ batch.job = some job) :
    OneAtATime (said ++ talk) ∧
      ∀ job, Outstanding (said ++ talk) job → ∃ batch, b = some batch ∧ batch.job = some job := by
  cases h with
  | kept =>
    rw [List.append_nil]
    exact ⟨hone, hjob⟩
  | formed hb _ _ hc =>
    have hnone : ∀ job, ¬ Outstanding said job := by
      intro job hout
      obtain ⟨batch, hb', _⟩ := hjob job hout
      rw [hb] at hb'
      cases hb'
    obtain ⟨hone', hjob'⟩ := hc.outstanding hone hnone
    exact ⟨hone', fun job hout => ⟨_, rfl, hjob' job hout⟩⟩
  | resumed hb hfree hc =>
    have hnone : ∀ job, ¬ Outstanding said job := by
      intro job hout
      obtain ⟨batch, hb', hj⟩ := hjob job hout
      cases hb.symm.trans hb'
      rw [hfree] at hj
      cases hj
    obtain ⟨hone', hjob'⟩ := hc.outstanding hone hnone
    exact ⟨hone', fun job hout => ⟨_, rfl, hjob' job hout⟩⟩
  | @polled old job r hb hj =>
    refine ⟨hone.concat fun hcreates => ?_, fun job' hout => ?_⟩
    · cases hcreates
    · rcases outstanding_concat hout with ⟨request, hs⟩ | ⟨hout, hends⟩
      · cases hs
      · -- an outstanding job is the one that was asked for, and by the answer it goes on
        obtain ⟨batch, hb', hj'⟩ := hjob job' hout
        cases hb.symm.trans hb'
        cases hj.symm.trans hj'
        have hover : jobOver r = false := by simpa [Said.ends] using hends
        exact ⟨old, Batch.job_after hover, hj⟩

lemma Retest.length_talk {settings : Settings} {pool : Pool} {talk : List Said}
    {b : Option Batch} (h : Retest settings pool talk b) : talk.length ≤ 1 := by
  have hcom {batch batch' : Batch} {talk : List Said} (h : Commissioned batch talk batch') :
      talk.length ≤ 1 := by
    cases h <;> simp
  cases h with
  | kept => simp
  | formed _ _ _ hc => exact hcom hc
  | resumed _ _ hc => exact hcom hc
  | polled => simp

lemma QueueStep.jobTalk_dropped {stage : Stage} {q : Option Queue} {l : List Said}
    (h : QueueStep setup key stage q l none) (hs : (poolOf q).Sound) : jobTalk l = [] := by
  by_cases hstage : stage = .merge
  · subst hstage
    cases h
    rfl
  · exact jobTalk_unasked (h.synced hs hstage).1

lemma QueueStep.length_jobTalk {stage : Stage} {q q' : Option Queue} {l : List Said}
    (h : QueueStep setup key stage q l q') (hs : (poolOf q).Sound) : (jobTalk l).length ≤ 1 := by
  cases q' with
  | none => simp [h.jobTalk_dropped hs]
  | some queue => exact (h.retest hs (Option.some_ne_none queue)).length_talk

lemma QueueRun.outstanding {first q : Option Queue} {visits : List Visit}
    (h : QueueRun setup key first visits q) (hs : (poolOf first).Sound)
    (hstay : ∀ v ∈ visits, v.before ≠ none) :
    OneAtATime (jobTalk (visits.flatMap (·.said))) ∧
      (q ≠ none → ∀ job, Outstanding (jobTalk (visits.flatMap (·.said))) job →
        ∃ batch, (poolOf q).batch = some batch ∧ batch.job = some job) := by
  induction h with
  | start =>
    refine ⟨?_, fun _ job hout => absurd hout (not_outstanding_nil job)⟩
    rintro before s after heq
    simp at heq
  | @next visits q stage said q' hpasses hstep ih =>
    obtain ⟨hone, hjob⟩ := ih fun v hv => hstay v (List.mem_append_left _ hv)
    have hq : q ≠ none := hstay _ (List.mem_append_right _ List.mem_cons_self)
    have hsound := hpasses.sound_of hs
    rw [List.flatMap_append, List.flatMap_singleton, jobTalk_append]
    cases q' with
    -- the pass in which the queue is dropped does not turn to the job system
    | none =>
      rw [hstep.jobTalk_dropped hsound, List.append_nil]
      exact ⟨hone, fun hq' => absurd rfl hq'⟩
    | some queue =>
      have hretest := hstep.retest hsound (Option.some_ne_none queue)
      obtain ⟨hone', hjob'⟩ := hretest.outstanding hone (hjob hq)
      exact ⟨hone', fun _ => hjob'⟩

lemma countP_creates_le (said : List Said) :
    said.countP Said.creates ≤ (jobTalk said).length := by
  rw [jobTalk, ← List.countP_eq_length_filter]
  exact List.countP_mono_left fun s _ hs => Said.ofJobs_of_creates hs

theorem one_job_outstanding {front life : List Turn} {table : Table}
    (run : Run setup ∅ (front ++ life) table)
    (hstay : ∀ t ∈ life, (t.before.find? key).isSome) :
    (∀ t ∈ front ++ life, (heard key t.log).countP Said.creates ≤ 1) ∧
      OneAtATime (heardIn key life) := by
  constructor
  · intro t ht
    obtain ⟨before, after, hsplit⟩ := List.append_of_mem ht
    rw [hsplit] at run
    have hturns : (before ++ t :: after).map (Turn.visit key) =
        before.map (Turn.visit key) ++ t.visit key :: after.map (Turn.visit key) := by simp
    obtain ⟨hrun, q', hstep, _⟩ := (run.queue key).cut hturns
    calc (heard key t.log).countP Said.creates ≤ (jobTalk (heard key t.log)).length :=
          countP_creates_le _
      _ ≤ 1 := hstep.length_jobTalk hrun.sound
  · obtain ⟨first, hrun, hpasses⟩ := run.split
    have hstay' : ∀ v ∈ life.map (Turn.visit key), v.before ≠ none := by
      intro v hv
      obtain ⟨t, ht, rfl⟩ := List.mem_map.mp hv
      exact Option.isSome_iff_ne_none.mp (hstay t ht)
    have hone := ((hpasses.queue_from key).outstanding (hrun.queue key).sound hstay').1
    rw [← heardIn_eq] at hone
    exact hone.of_jobTalk

theorem one_job_outstanding_demo :
    let turns := (play pairSetup (twoPulls ++ failingTwice)).1
    (∀ t ∈ turns.drop 1, (t.before.find? demoJobs.poolKey).isSome) ∧
      (heardIn demoJobs.poolKey (turns.drop 1)).countP Said.creates = 2 ∧
      (∀ t ∈ turns.take 1 ++ turns.drop 1, (heard demoJobs.poolKey t.log).countP Said.creates ≤ 1) ∧
      OneAtATime (heardIn demoJobs.poolKey (turns.drop 1)) := by
  intro turns
  have hstay : ∀ t ∈ turns.drop 1, (t.before.find? demoJobs.poolKey).isSome := by
    decide +kernel
  have run : Run pairSetup ∅ (turns.take 1 ++ turns.drop 1)
      (play pairSetup (twoPulls ++ failingTwice)).2 := by
    rw [List.take_append_drop]
    exact run_play pairSetup _
  exact ⟨hstay, by decide +kernel, one_job_outstanding run hstay⟩

end MergeQueue
