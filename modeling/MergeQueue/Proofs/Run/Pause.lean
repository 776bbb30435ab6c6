import MergeQueue.Proofs.Run.Fate

/-! The moments of a run at which its queues can be looked at: between two passes, and in the pauses
of a merge pass. -/

namespace MergeQueue

open Engine Dialogue

variable {setup : Setup} {key : String}

inductive Pausing (setup : Setup) (table : Table) : Merging → Prop
  | start {log m} : (Merging.startOn setup table.keys table).Course log m → Pausing setup table m
  | resume {m log m'} : Pausing setup table m → (m.resume setup).Course log m' →
      Pausing setup table m'

structure Engine.Share.Behind (s : Share) (key : String) (queue : Queue) : Prop where
  queue : ∃ pool gone, s.queue = some { queue with pool } ∧ queue.pool.Left gone pool
  paused : s.paused = [] ∨ ∃ task, s.paused = [⟨key, task, none⟩]

lemma Engine.Share.behind_after {queue : Queue} {pool : Pool} {gone : List UInt64}
    (h : queue.pool.Left gone pool) (q : Option Queue) (result : Option (Except Error Unit))
    (state : MergeState) :
    (Share.after ⟨q, result, []⟩ key { queue with pool } state).Behind key queue := by
  cases state with
  | ended r => exact ⟨⟨pool, gone, rfl, h⟩, .inl rfl⟩
  | paused task => exact ⟨⟨pool, gone, rfl, h⟩, .inr ⟨task, rfl⟩⟩
  | broken => exact ⟨⟨pool, gone, rfl, h⟩, .inl rfl⟩

lemma Pausing.share {table : Table} {m : Merging} (h : Pausing setup table m) (key : String) :
    (table.find? key = none → m.share key = ⟨none, none, []⟩) ∧
    ∀ queue, table.find? key = some queue → queue.pool.Sound →
      (m.share key).Behind key queue := by
  induction h with
  | start h =>
    obtain ⟨hnone, hsome⟩ := startEach_course h table.keys_nodup key
    refine ⟨fun hq => ?_, fun queue hq hs => ?_⟩
    · rw [(hnone (.inr hq)).2]
      exact congrArg (Share.mk · none []) hq
    · have hmem : key ∈ table.keys := by
        rw [← SortedMap.find?_isSome_iff, hq]
        rfl
      obtain ⟨pool, state, hstart, hshare⟩ := hsome queue hmem hq
      obtain ⟨gone, hd, _⟩ := hstart.departed hs
      rw [hshare]
      exact Share.behind_after hd.left _ _ state
  | @resume m log m' _ h ih =>
    obtain ⟨hnone, hsome⟩ := resumeEach_course h key
    refine ⟨fun hq => ?_, fun queue hq hs => ?_⟩
    · have hshare := ih.1 hq
      rw [(hnone (congrArg Share.paused hshare)).2]
      exact congrArg (fun s : Share => Share.mk s.queue s.result []) hshare
    · obtain ⟨⟨pool, gone, hpool, hleft⟩, hpaused⟩ := ih.2 queue hq hs
      rcases hpaused with hp | ⟨task, hp⟩
      · rw [(hnone hp).2]
        exact ⟨⟨pool, gone, hpool, hleft⟩, .inl rfl⟩
      · obtain ⟨pool', state, hstep, hshare⟩ := hsome task _ hp hpool
        obtain ⟨gone', hd, _⟩ := hstep.departed hleft.sound
        rw [hshare]
        exact Share.behind_after (hleft.trans hd.left) _ _ state

lemma Pausing.left {table : Table} {m : Merging} (h : Pausing setup table m)
    (hs : (poolOf (table.find? key)).Sound) {queue : Queue} (hq : m.table.find? key = some queue) :
    ∃ before gone, table.find? key = some before ∧ before.pool.Left gone queue.pool := by
  obtain ⟨hnone, hsome⟩ := h.share key
  cases hb : table.find? key with
  | none =>
    have hgone : m.table.find? key = none := congrArg Share.queue (hnone hb)
    rw [hgone] at hq
    cases hq
  | some before =>
    rw [hb] at hs
    obtain ⟨pool, gone, hpool, hleft⟩ := (hsome before hb hs).queue
    cases hq.symm.trans hpool
    exact ⟨before, gone, rfl, hleft⟩

inductive Moment (setup : Setup) : List Turn → Table → Prop
  | between {turns table} : Run setup ∅ turns table → Moment setup turns table
  | within {turns table m} : Run setup ∅ turns table → Pausing setup table m →
      Moment setup turns m.table

lemma Moment.run {turns : List Turn} {table : Table} (h : Moment setup turns table) :
    ∃ table', Run setup ∅ turns table' := by
  cases h with
  | between run => exact ⟨_, run⟩
  | within run => exact ⟨_, run⟩

lemma Moment.queue {turns : List Turn} {table : Table} (h : Moment setup turns table)
    {queue : Queue} (hq : table.find? key = some queue) :
    ∃ before gone, QueueRun setup key none (turns.map (Turn.visit key)) (some before) ∧
      before.pool.Left gone queue.pool := by
  cases h with
  | between run =>
    have hrun := run.queue key
    rw [hq] at hrun
    exact ⟨queue, [], hrun, .refl hrun.sound⟩
  | @within table m run hpause =>
    have hrun := run.queue key
    obtain ⟨before, gone, hb, hleft⟩ := hpause.left hrun.sound hq
    rw [hb] at hrun
    exact ⟨before, gone, hrun, hleft⟩

lemma Moment.recorded {turns : List Turn} {table : Table} (h : Moment setup turns table)
    {queue : Queue} (hq : table.find? key = some queue) {id : UInt64} {t : Tracked}
    (ht : queue.pool.find? id = some t) : ∃ before t₀,
      QueueRun setup key none (turns.map (Turn.visit key)) (some before) ∧
        before.pool.find? id = some t₀ ∧ t₀.pullRequest = t.pullRequest := by
  obtain ⟨before, gone, hrun, hleft⟩ := h.queue hq
  have hfind : (before.pool.find? id).map (·.pullRequest) = some t.pullRequest := by
    rw [← hleft.find?, ht]
    rfl
  obtain ⟨t₀, ht₀, hpr⟩ := Option.map_eq_some_iff.mp hfind
  exact ⟨before, t₀, hrun, ht₀, hpr⟩

lemma Moment.keeps {turns : List Turn} {table : Table} (h : Moment setup turns table)
    {P : Member → Prop} (inv : Member.Invariant P) {queue : Queue}
    (hq : table.find? key = some queue) (id : UInt64) : P (queue.pool.member id) := by
  obtain ⟨before, gone, hrun, hleft⟩ := h.queue hq
  have hbefore : P (before.pool.member id) := hrun.keeps inv id
  rw [hleft.member]
  split
  · exact inv.dequeue hbefore
  · exact hbefore

end MergeQueue
