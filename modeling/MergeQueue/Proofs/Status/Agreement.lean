import MergeQueue.Proofs.Merge.Once
import MergeQueue.Proofs.Run.Asked
import MergeQueue.Proofs.Run.Failure
import MergeQueue.Proofs.Run.Pause
import MergeQueue.Proofs.Run.World
import MergeQueue.Proofs.Status.Description

namespace MergeQueue

open Engine Dialogue

variable {setup : Setup} {key : String}

structure Worded (status : CommitState) (description : String) : Prop where
  state : status = .pending ∨ status = .success
  nonempty : description ≠ ""
  note : status = .success ↔ description = inMergePoolNote

lemma worded_pending {description : String} (hempty : description ≠ "")
    (hnote : description ≠ inMergePoolNote) : Worded .pending description :=
  ⟨.inl rfl, hempty, by simp [hnote]⟩

lemma worded_inMergePool : Worded .success inMergePoolNote :=
  ⟨.inr rfl, by decide, by simp⟩

lemma worded_notMergeable (message : String) : Worded .pending (notMergeable message) := by
  have hhead := head?_notMergeable message
  refine worded_pending (fun hempty => ?_) fun hnote => ?_
  · rw [hempty] at hhead
    cases hhead
  · rw [hnote] at hhead
    exact absurd hhead (by decide)

lemma Specific.worded {text : String} (h : Specific text) : Worded .pending text :=
  worded_pending h.ne_empty h.ne_inMergePool

lemma Tracked.setBlocker_shows (t : Tracked) (status : CommitState) (description : String) :
    (t.setBlocker status description).status = status ∧
      (t.setBlocker status description).description = description := by
  rw [setBlocker]
  split
  · next h => simpa [showing] using h
  · exact ⟨rfl, rfl⟩

namespace Member

structure Consistent (m : Member) : Prop where
  worded : ∀ t, m.tracked = some t → Worded t.status t.description
  success : m.bucket = some .success → ∀ t, m.tracked = some t → t.status = .success

variable {m : Member}

lemma consistent_absent : Member.absent.Consistent := by
  refine ⟨?_, by rintro ⟨⟩⟩
  rintro _ ⟨⟩

lemma Consistent.dequeue (h : m.Consistent) : m.dequeue.Consistent := by
  refine ⟨fun t' ht' => ?_, by rintro ⟨⟩⟩
  obtain ⟨t, ht, rfl⟩ := Option.map_eq_some_iff.mp ht'
  exact h.worded t ht

lemma Consistent.track (h : m.Consistent) (ht : m.bucket.isSome → m.tracked.isSome)
    (pr : PullRequest) : (m.track pr).Consistent := by
  obtain ⟨_ | t, bucket⟩ := m
  · refine ⟨?_, fun hb => ?_⟩
    · rintro _ ⟨⟩
      exact worded_notMergeable ""
    · obtain rfl : bucket = some .success := hb
      exact absurd (ht rfl) (by decide)
  · refine ⟨?_, fun hb => ?_⟩
    · rintro _ ⟨⟩
      exact h.worded t rfl
    · rintro _ ⟨⟩
      exact h.success hb t rfl

lemma Consistent.enqueue_pending (h : m.Consistent) : (m.enqueue .pending).Consistent := by
  rw [Member.enqueue]
  split
  · refine ⟨fun t' ht' => ?_, by rintro ⟨⟩⟩
    obtain ⟨t, ht, rfl⟩ := Option.map_eq_some_iff.mp ht'
    exact h.worded t ht
  · exact h

lemma consistent_change {f : Tracked → Tracked} {status : CommitState} {description : String}
    (hf : ∀ t, (f t).status = status ∧ (f t).description = description)
    (hw : Worded status description) (hb : m.bucket = some .success → status = .success) :
    (m.change f).Consistent := by
  refine ⟨fun t' ht' => ?_, fun hsuccess t' ht' => ?_⟩
  all_goals
    obtain ⟨t, _, rfl⟩ := Option.map_eq_some_iff.mp ht'
    obtain ⟨hstatus, hdescription⟩ := hf t
    rw [hstatus]
  · rwa [hdescription]
  · exact hb hsuccess

lemma Consistent.absorb (h : m.Consistent) (ht : m.bucket.isSome → m.tracked.isSome)
    (query : MergeQuery) (batched : Bool) (pr : PullRequest) :
    (m.absorb query batched pr).Consistent := by
  unfold Member.absorb
  dsimp only
  split
  · split
    · exact h.track ht pr
    · exact (h.track ht pr).enqueue_pending
  · exact consistent_change (fun t => t.setBlocker_shows _ _) (worded_notMergeable _) (by rintro ⟨⟩)

lemma Consistent.settle (h : m.Consistent) (ht : m.tracked.isSome) (batched : Bool)
    (query : MergeQuery) (own : String) (pr : PullRequest) (reports : List CommitStatus) :
    (m.settle batched (.of query own pr reports)).Consistent := by
  rw [Member.settle]
  split
  · split
    · exact consistent_change (fun t => Tracked.setBlocker_shows _ _ _) (worded_notMergeable _)
        (by rintro ⟨⟩)
    · split
      · exact consistent_change (fun t => Tracked.setBlocker_shows _ _ _) worded_inMergePool
          fun _ => rfl
      · next hfailed =>
        have hspecific := Policy.specific_evaluate (Bool.eq_false_iff.mpr hfailed)
        refine consistent_change (fun t => Tracked.setBlocker_shows _ _ _) hspecific.worded ?_
        simp [Member.enqueue, ht]
  · exact h

lemma Consistent.published (h : m.Consistent) : (m.change Tracked.published).Consistent := by
  refine ⟨fun t' ht' => ?_, fun hb t' ht' => ?_⟩
  all_goals
    obtain ⟨t, ht, rfl⟩ := Option.map_eq_some_iff.mp ht'
  · exact h.worded t ht
  · exact h.success hb t ht

lemma consistent_invariant : Invariant Consistent where
  absent := consistent_absent
  dequeue h := h.dequeue
  absorb query batched pr ht h := h.absorb ht query batched pr
  settle batched query own pr reports ht h := h.settle ht batched query own pr reports
  published h := h.published

end Member

lemma QueueRun.passed_since {visits : List Visit} {q : Option Queue}
    (run : QueueRun setup key none visits q) {id : UInt64}
    (hb : ((poolOf q).member id).bucket = some .success) : ∃ front v back,
      visits = front ++ v :: back ∧ v.Passes setup.settings id ∧
        ∀ w ∈ back, ((poolOf w.before).member id).bucket = some .success := by
  induction run with
  | start =>
    rw [show (poolOf none).member id = .absent from Pool.member_empty id] at hb
    cases hb
  | @next visits q stage said q' run hstep ih =>
    rcases (hstep.fate run.sound id).passed_of_bucket hb with hb | ⟨_, held, e, hview, hp⟩
    · obtain ⟨front, v, back, rfl, hpasses, hback⟩ := ih hb
      refine ⟨front, v, back ++ [_], List.append_assoc _ _ _, hpasses, ?_⟩
      exact List.forall_mem_append.mpr ⟨hback, List.forall_mem_singleton.mpr hb⟩
    · exact ⟨visits, _, [], rfl, Visit.passes_of_views hview hp, by simp⟩

lemma QueueRun.mem_success {visits : List Visit} {q : Option Queue}
    (run : QueueRun setup key none visits q) (id : UInt64) :
    id ∈ (poolOf q).mergePool.bucket .success ↔ ((poolOf q).member id).bucket = some .success :=
  MergePool.mem_bucket_iff run.sound.disjoint id .success

lemma QueueStep.published_worded {stage : Stage} {q q' : Option Queue} {l : List Said}
    (h : QueueStep setup key stage q l q') {visits : List Visit} (run : QueueRun setup key none visits q)
    {p : Publication} (hp : p ∈ publications l) : Worded p.status.state p.status.description := by
  obtain ⟨rfl, w, hw, heq⟩ := h.published run.sound hp
  obtain ⟨_, ht, _⟩ := mem_waiting_iff.mp hw
  have hfate : Fate setup _ _ False _ _ [] _ := .reviewed (h.looked run.sound w.1) .quiet
  have hconsistent := run.keeps Member.consistent_invariant w.1
  have hsettled := hfate.keeps Member.consistent_invariant (run.sound.tracked w.1) hconsistent
  rw [heq]
  exact hsettled.worded w.2 ht

lemma publications_heard {log : List Exchange} {p : Publication}
    (h : p ∈ publications (log.map Exchange.said)) : ∃ key, p ∈ publications (heard key log) := by
  obtain ⟨s, hs, hp⟩ := List.mem_filterMap.mp h
  obtain ⟨key, hheard⟩ := mem_heard_exists hs
  exact ⟨key, List.mem_filterMap.mpr ⟨s, hheard, hp⟩⟩

/-- At every moment the records are worded, and those of the success bucket are successes. A pull
request comes to that bucket by a status sync that evaluates it as passing, and by nothing else; and
what the engine publishes is worded as well. -/
theorem status_agrees :
    (∀ setup turns table, Moment setup turns table → ∀ key queue, table.find? key = some queue →
      (∀ id t, queue.pool.find? id = some t → Worded t.status t.description) ∧
      ∀ id ∈ queue.pool.mergePool.bucket .success,
        ∃ t, queue.pool.find? id = some t ∧ t.status = .success) ∧
    (∀ setup turns table, Run setup ∅ turns table → ∀ key,
      (∀ id ∈ (poolOf (table.find? key)).mergePool.bucket .success, ∃ front v back,
        turns.map (Turn.visit key) = front ++ v :: back ∧ v.Passes setup.settings id ∧
          ∀ w ∈ back, id ∈ (poolOf w.before).mergePool.bucket .success) ∧
      ∀ m, Pausing setup table m → ∀ id ∈ (poolOf (m.table.find? key)).mergePool.bucket .success,
        id ∈ (poolOf (table.find? key)).mergePool.bucket .success) ∧
    ∀ setup turns table, Run setup ∅ turns table → ∀ turn ∈ turns,
      ∀ p ∈ publications (turn.log.map Exchange.said),
        Worded p.status.state p.status.description := by
  refine ⟨fun setup turns table moment key queue hq => ?_,
    fun setup turns table run key => ⟨fun id hid => ?_, fun m hpause id hid => ?_⟩,
    fun setup turns table run turn hturn p hp => ?_⟩
  · obtain ⟨before, gone, hrun, hleft⟩ := moment.queue hq
    have hconsistent := moment.keeps Member.consistent_invariant hq
    refine ⟨fun id => (hconsistent id).worded, fun id hid => ?_⟩
    have hb := (MergePool.mem_bucket_iff hleft.sound.disjoint id .success).mp hid
    obtain ⟨t, ht⟩ := Option.isSome_iff_exists.mp
      (hleft.sound.tracked id (Option.isSome_of_mem hb))
    exact ⟨t, ht, (hconsistent id).success hb t ht⟩
  · have hrun := run.queue key
    obtain ⟨front, v, back, hvisits, hpasses, hback⟩ :=
      hrun.passed_since ((hrun.mem_success id).mp hid)
    refine ⟨front, v, back, hvisits, hpasses, fun w hw => ?_⟩
    obtain ⟨mid, rest, rfl⟩ := List.append_of_mem hw
    rw [← List.cons_append, ← List.append_assoc] at hvisits
    obtain ⟨hbefore, _⟩ := hrun.cut hvisits
    exact (hbefore.mem_success id).mpr (hback w hw)
  · have hrun := run.queue key
    cases hq : m.table.find? key with
    | none =>
      rw [hq] at hid
      cases hid
    | some queue =>
      rw [hq] at hid
      obtain ⟨before, gone, hb, hleft⟩ := hpause.left hrun.sound hq
      have hbucket := (MergePool.mem_bucket_iff hleft.sound.disjoint id .success).mp hid
      rw [hrun.mem_success, hb]
      exact (hleft.rest.member id).bucket hbucket
  · obtain ⟨key, hp⟩ := publications_heard hp
    obtain ⟨front, back, hvisits⟩ := List.append_of_mem (List.mem_map_of_mem hturn)
    obtain ⟨hbefore, _, hstep, _⟩ := (run.queue key).cut hvisits
    exact hstep.published_worded hbefore hp

theorem status_agrees_demo :
    let run := play pairSetup twoPulls
    let m := ((Merging.startOn pairSetup run.2.keys run.2).record
      fun a : Addressed => completedWorld.reply a.question).2
    (∃ queue t, m.table.find? demoJobs.poolKey = some queue ∧ queue.pool.find? 7 = some t ∧
      t.status = .success ∧ Worded t.status t.description) ∧
    7 ∈ (poolOf (run.2.find? demoJobs.poolKey)).mergePool.bucket .success ∧
    (∃ front v back, run.1.map (Turn.visit demoJobs.poolKey) = front ++ v :: back ∧
      v.Passes pairSetup.settings 7) ∧
    ∃ turn ∈ run.1, ∃ p ∈ publications (turn.log.map Exchange.said),
      Worded p.status.state p.status.description := by
  intro run m
  have hrun : Run pairSetup ∅ run.1 run.2 := run_play pairSetup _
  have hpause : Pausing pairSetup run.2 m := .start (course_record _ _)
  have hqueue : (m.table.find? demoJobs.poolKey).any
      (fun queue => queue.pool.mergePool.bucket .success = [7]) = true := by
    decide +kernel
  obtain ⟨queue, hq, hbucket⟩ := (Option.any_eq_true _ _).mp hqueue
  have hin : 7 ∈ queue.pool.mergePool.bucket .success := by
    rw [of_decide_eq_true hbucket]
    exact List.mem_singleton.mpr rfl
  have hpublished : ∃ turn ∈ run.1, ∃ p, p ∈ publications (turn.log.map Exchange.said) := by
    refine ⟨run.1[1], List.getElem_mem _, (publications (run.1[1].log.map Exchange.said))[0], ?_⟩
    exact List.getElem_mem _
  obtain ⟨turn, hturn, p, hp⟩ := hpublished
  obtain ⟨hworded, hsuccess⟩ :=
    status_agrees.1 pairSetup run.1 m.table (.within hrun hpause) demoJobs.poolKey queue hq
  obtain ⟨hsince, hkept⟩ := status_agrees.2.1 pairSetup run.1 run.2 hrun demoJobs.poolKey
  obtain ⟨t, ht, hstatus⟩ := hsuccess 7 hin
  have hbefore := hkept m hpause 7 (by rwa [hq])
  obtain ⟨front, v, back, hvisits, hpasses, _⟩ := hsince 7 hbefore
  exact ⟨⟨queue, t, hq, ht, hstatus, hworded 7 t ht⟩, hbefore, ⟨front, v, back, hvisits, hpasses⟩,
    turn, hturn, p, hp, status_agrees.2.2 pairSetup run.1 run.2 hrun turn hturn p hp⟩

end MergeQueue
