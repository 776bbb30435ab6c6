import MergeQueue.Proofs.Pool.Operation
import MergeQueue.Proofs.Run.Account
import MergeQueue.Proofs.Run.Failure
import MergeQueue.Proofs.Run.Pause
import MergeQueue.Proofs.Run.World

/-! The representation of a pool in every run. All that the passes do to a pull request keeps its
record and the buckets in step, and uses two of the buckets only. -/

namespace MergeQueue

open Engine Dialogue

variable {setup : Setup} {key : String}

namespace Member

structure Orderly (m : Member) : Prop where
  agrees : m.Agrees
  active : ∀ b, m.bucket = some b → b = .pending ∨ b = .success

variable {m : Member}

lemma orderly_absent : Member.absent.Orderly := ⟨agrees_absent, by rintro _ ⟨⟩⟩

lemma orderly_dequeue (m : Member) : m.dequeue.Orderly := ⟨agrees_dequeue m, by rintro _ ⟨⟩⟩

lemma Orderly.change (h : m.Orderly) {f : Tracked → Tracked} (hf : ∀ t, (f t).bucket = t.bucket) :
    (m.change f).Orderly :=
  ⟨h.agrees.change hf, h.active⟩

lemma Orderly.enqueue (h : m.Orderly) {bucket : Bucket}
    (hb : bucket = .pending ∨ bucket = .success) : (m.enqueue bucket).Orderly := by
  refine ⟨h.agrees.enqueue bucket, ?_⟩
  rw [Member.enqueue]
  split
  · rintro _ ⟨⟩
    exact hb
  · exact h.active

lemma Orderly.absorb (h : m.Orderly) (ht : m.bucket.isSome → m.tracked.isSome)
    (query : MergeQuery) (batched : Bool) (pr : PullRequest) :
    (m.absorb query batched pr).Orderly := by
  have htrack : (m.track pr).Orderly := ⟨h.agrees.track ht pr, h.active⟩
  unfold Member.absorb
  dsimp only
  split
  · split
    · exact htrack
    · exact htrack.enqueue (.inl rfl)
  · exact (orderly_dequeue _).change (by simp)

lemma Orderly.settle (h : m.Orderly) (batched : Bool) (e : Evaluation) :
    (m.settle batched e).Orderly := by
  rw [Member.settle]
  split
  · split
    · exact (orderly_dequeue m).change (by simp)
    · split
      · exact (h.enqueue (.inr rfl)).change (by simp)
      · exact (h.enqueue (.inl rfl)).change (by simp)
  · exact h

lemma orderly_invariant : Invariant Orderly where
  absent := orderly_absent
  dequeue _ := orderly_dequeue _
  absorb query batched pr ht h := h.absorb ht query batched pr
  settle batched _ _ _ _ _ h := h.settle batched _
  published h := h.change fun _ => rfl

end Member

lemma Pool.Sound.bucket_eq_nil {pool : Pool} (h : pool.Sound) {bucket : Bucket}
    (hb : ∀ id, (pool.member id).bucket ≠ some bucket) : pool.mergePool.bucket bucket = [] := by
  apply List.eq_nil_iff_forall_not_mem.mpr
  intro id hid
  exact hb id ((MergePool.mem_bucket_iff h.disjoint id bucket).mp hid)

lemma Moment.wellFormed {turns : List Turn} {table : Table} (moment : Moment setup turns table)
    {queue : Queue} (hq : table.find? key = some queue)
    (honest : ∀ s ∈ heardIn key turns, s.Honest) :
    queue.pool.WellFormed ∧ queue.pool.mergePool.bucket .unknown = [] ∧
      queue.pool.mergePool.bucket .failure = [] := by
  obtain ⟨before, gone, hrun, hleft⟩ := moment.queue hq
  rw [heardIn_eq] at honest
  have horderly := moment.keeps Member.orderly_invariant hq
  have hfiled (id : UInt64) : (queue.pool.member id).Filed id := by
    have hbefore : (before.pool.member id).Filed id := fun t ht => hrun.filed honest ht
    exact hbefore.of_map (hleft.find? id)
  refine ⟨(Pool.wellFormed_iff _).mpr ⟨hleft.sound, fun id => (horderly id).agrees, hfiled⟩,
    hleft.sound.bucket_eq_nil fun id hb => ?_, hleft.sound.bucket_eq_nil fun id hb => ?_⟩
  · simpa using (horderly id).active _ hb
  · simpa using (horderly id).active _ hb

/-- The operations of a pool keep its representation, in whichever order they are called. At every
moment of a run the pools are so represented, and no pass comes upon one that is not: it warns of an
internal error, or ends with an error, only if that was replied to it. -/
theorem representation_kept :
    (∀ ops : List Pool.Operation, (ops.foldl Pool.apply .empty).WellFormed) ∧
    (∀ setup turns table, Moment setup turns table → ∀ key queue, table.find? key = some queue →
      (∀ s ∈ heardIn key turns, s.Honest) → queue.pool.WellFormed ∧
        queue.pool.mergePool.bucket .unknown = [] ∧ queue.pool.mergePool.bucket .failure = []) ∧
    (∀ setup turns table, Run setup ∅ turns table → ∀ stage log table',
      (Stage.pass setup stage table).Course log table' →
        ∀ s ∈ log.map Exchange.said, ∀ i, s.warned? = some (.internal i) →
          Replied (log.map Exchange.said) (.internal i)) ∧
    ∀ setup table log table' e, (poolPass setup table).Course log (table', .error e) →
      Replied (log.map Exchange.said) e := by
  refine ⟨Pool.wellFormed_foldl Pool.wellFormed_empty, fun setup turns table moment key queue hq =>
    moment.wellFormed hq, fun setup turns table run stage log table' h => pass_founded run h,
    fun setup table log table' e h => ?_⟩
  obtain ⟨_, rfl⟩ := poolPass_error h
  exact ⟨_, List.mem_singleton.mpr rfl, rfl⟩

theorem representation_kept_demo :
    let turns := play pairSetup (batchedPulls [(3, demoPull 3 "aaa" []), (7, demoPull 7 "aaa" [])])
    let m := ((Merging.startOn pairSetup turns.2.keys turns.2).record
      fun a : Addressed => completedWorld.reply a.question).2
    let told : (a : Addressed) → a.Reply := fun a => outage (.internal .noBatch) a.question
    ([.track (demoPull 3 "aaa" []), .enqueue 3 .failure, .setBlocker 3 .error "", .untrack 3].foldl
      Pool.apply .empty).WellFormed ∧
    (m.paused.length = 1 ∧ ∃ queue, m.table.find? demoJobs.poolKey = some queue ∧
      queue.pool.WellFormed ∧ queue.pool.mergePool.bucket .unknown = [] ∧
        queue.pool.mergePool.bucket .failure = []) ∧
    Replied ((((Stage.merge.pass pairSetup turns.2).record told).1).map Exchange.said)
      (.internal .noBatch) ∧
    Replied ((((poolPass pairSetup turns.2).record told).1).map Exchange.said)
      (.internal .noBatch) := by
  intro turns m told
  have hqueue : (m.table.find? demoJobs.poolKey).isSome = true := by
    decide +kernel
  obtain ⟨queue, hq⟩ := Option.isSome_iff_exists.mp hqueue
  have moment : Moment pairSetup turns.1 m.table :=
    .within (run_play pairSetup _) (.start (course_record _ _))
  have hwarned : ∃ s ∈ ((Stage.merge.pass pairSetup turns.2).record told).1.map Exchange.said,
      s.warned? = some (.internal .noBatch) := by
    decide +kernel
  obtain ⟨s, hs, hwarned⟩ := hwarned
  refine ⟨representation_kept.1 _, ⟨by decide +kernel, queue, hq, ?_⟩, ?_, ?_⟩
  · exact representation_kept.2.1 pairSetup turns.1 m.table moment demoJobs.poolKey queue hq
      (by decide +kernel)
  · exact representation_kept.2.2.1 pairSetup turns.1 turns.2 (run_play pairSetup _) .merge _ _
      (course_record _ _) s hs .noBatch hwarned
  · exact representation_kept.2.2.2 pairSetup turns.2 _ _ _ (course_record _ _)

end MergeQueue
