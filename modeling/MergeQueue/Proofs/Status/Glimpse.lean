import MergeQueue.Proofs.Merge.Batch
import MergeQueue.Proofs.Merge.InOrder
import MergeQueue.Proofs.Pool.Representation

namespace MergeQueue

open Engine Dialogue

variable {setup : Setup} {key : String}

def Batch.Lasting (P : Batch → Prop) : Prop :=
  ∀ batch rest, P batch → rest ≠ [] → rest <:+ batch.pullRequests →
    P { batch with pullRequests := rest }

lemma Batch.lasting_nonempty : Lasting fun batch => batch.pullRequests ≠ [] :=
  fun _ _ _ hne _ => hne

lemma Batch.lasting_proper (settings : Settings) : Lasting (Batch.Proper settings) := by
  intro batch rest h hne hsuffix
  refine ⟨hne, Nat.le_trans hsuffix.length_le h.length, ?_, fun pr hpr => h.target pr (hsuffix.subset hpr)⟩
  exact h.ascending.sublist (hsuffix.sublist.map _)

namespace Engine

variable {P : Batch → Prop}

lemma Stepped.batch {task : MergeTask} {pool pool' : Pool} {l : List Said} {state : MergeState}
    (h : Stepped setup key task pool l (pool', state)) (hlast : Batch.Lasting P)
    (hP : ∀ batch, pool.batch = some batch → P batch) :
    ∀ batch, pool'.batch = some batch → P batch := by
  intro batch' hb'
  cases state with
  | ended r =>
    rw [h.unbatched] at hb'
    cases hb'
  | paused task' =>
    cases hb : pool.batch with
    | none =>
      generalize ho : (pool', MergeState.paused task') = out at h
      cases h with
      | empty => cases ho
      | _ hn => simp [hb] at hn
    | some batch =>
      obtain ⟨-, pr, rest, mid, hlist, hne, -, rfl⟩ := h.turned hb
      cases hb'
      exact hlast batch rest (hP batch hb) hne (hlist ▸ List.suffix_cons pr rest)
  | broken => exact absurd rfl h.ne_broken

lemma Started.batch {queue : Queue} {l : List Said} {pool : Pool} {state : MergeState}
    (h : Started setup key queue l (pool, state)) (hs : queue.pool.Sound)
    (hlast : Batch.Lasting P)
    (hP : ∀ b, Reformed setup.settings queue.pool b → ∀ batch, b = some batch → P batch) :
    ∀ batch, pool.batch = some batch → P batch := by
  cases state with
  | ended r =>
    have hmerged : Merged setup key queue (l ++ [] ++ noted (.mergePass key) r) pool :=
      ⟨l, _, [], r, h, .ended, rfl⟩
    exact hP _ (hmerged.carried hs).reformed
  | paused task =>
    generalize ho : (pool, MergeState.paused task) = out at h
    cases h with
    | tested _ _ _ _ hst =>
      subst ho
      exact hst.batch hlast (hP _ (.same _ _))
    | _ => cases ho
  | broken => exact absurd rfl h.ne_broken

lemma Merging.find?_of_share {m : Merging} {s : Share} {queue queue' : Queue} {state : MergeState}
    (hshare : m.share key = s.after key queue state) (hq : m.table.find? key = some queue') :
    queue' = queue := by
  have hqueue : m.table.find? key = some queue := by
    cases state <;> exact congrArg Share.queue hshare
  exact Option.some.inj (hq.symm.trans hqueue)

end Engine

lemma Pausing.batch {table : Table} {m : Merging} (h : Pausing setup table m) {P : Batch → Prop}
    (hlast : Batch.Lasting P) {before : Queue} (hbefore : table.find? key = some before)
    (hs : before.pool.Sound)
    (hP : ∀ b, Reformed setup.settings before.pool b → ∀ batch, b = some batch → P batch)
    {queue : Queue} (hq : m.table.find? key = some queue) :
    ∀ batch, queue.pool.batch = some batch → P batch := by
  induction h generalizing queue with
  | start h =>
    have hmem : key ∈ table.keys := by
      rw [← SortedMap.find?_isSome_iff, hbefore]
      rfl
    obtain ⟨pool, state, hstart, hshare⟩ :=
      (startEach_course h table.keys_nodup key).2 before hmem hbefore
    obtain rfl := Merging.find?_of_share hshare hq
    exact hstart.batch hs hlast hP
  | @resume m log m' hpausing h ih =>
    obtain ⟨hnone, hsome⟩ := resumeEach_course h key
    obtain ⟨⟨pool, gone, hpool, hleft⟩, hpaused⟩ := (hpausing.share key).2 before hbefore hs
    rcases hpaused with hp | ⟨task, hp⟩
    · have hkept : m'.table.find? key = m.table.find? key := congrArg Share.queue (hnone hp).2
      exact ih (hkept.symm.trans hq)
    · obtain ⟨pool', state, hstep, hshare⟩ := hsome task _ hp hpool
      obtain rfl := Merging.find?_of_share hshare hq
      exact hstep.batch hlast (ih hpool)

lemma Moment.batch {turns : List Turn} {table : Table} (h : Moment setup turns table)
    {P : Batch → Prop} (hlast : Batch.Lasting P)
    (hP : ∀ q, QueueRun setup key none (turns.map (Turn.visit key)) q →
      ∀ b, Reformed setup.settings (MergeQueue.poolOf q) b → ∀ batch, b = some batch → P batch)
    {queue : Queue} (hq : table.find? key = some queue) :
    ∀ batch, queue.pool.batch = some batch → P batch := by
  cases h with
  | between run =>
    have hrun := run.queue key
    rw [hq] at hrun
    exact hP _ hrun _ (.same _ _)
  | within run hpause =>
    have hrun := run.queue key
    obtain ⟨before, -, hbefore, -⟩ := hpause.left hrun.sound hq
    rw [hbefore] at hrun
    exact hpause.batch hlast hbefore hrun.sound (hP _ hrun) hq

lemma Moment.batch_nonempty {turns : List Turn} {table : Table} (h : Moment setup turns table)
    {queue : Queue} (hq : table.find? key = some queue) :
    ∀ batch, queue.pool.batch = some batch → batch.pullRequests ≠ [] :=
  h.batch Batch.lasting_nonempty (fun _ hrun _ hb => hb.nonempty hrun.nonempty) hq

lemma Moment.batch_proper {turns : List Turn} {table : Table} (h : Moment setup turns table)
    {queue : Queue} (hq : table.find? key = some queue)
    (honest : ∀ s ∈ heardIn key turns, s.Honest) :
    ∀ batch, queue.pool.batch = some batch → batch.Proper setup.settings := by
  rw [heardIn_eq] at honest
  exact h.batch (Batch.lasting_proper _)
    (fun _ hrun _ hb => hb.proper (hrun.batch honest).1 (hrun.filed honest)) hq

inductive Glimpse (setup : Setup) (key : String) : List Turn → Queue → Prop
  | moment {turns table queue} : Moment setup turns table → table.find? key = some queue →
      Glimpse setup key turns queue
  | opened {turns} {config : RepoConfig} : config.poolKey = key →
      Glimpse setup key turns ⟨config.id, .empty⟩

namespace Glimpse

variable {turns : List Turn} {queue : Queue}

lemma sound (h : Glimpse setup key turns queue) : queue.pool.Sound := by
  cases h with
  | moment moment hq =>
    obtain ⟨_, _, _, hleft⟩ := moment.queue hq
    exact hleft.sound
  | opened => exact Pool.sound_empty

lemma orderly (h : Glimpse setup key turns queue) (id : UInt64) :
    (queue.pool.member id).Orderly := by
  cases h with
  | moment moment hq => exact moment.keeps Member.orderly_invariant hq id
  | opened => exact (Pool.member_empty id) ▸ Member.orderly_absent

lemma batch_nonempty (h : Glimpse setup key turns queue) :
    ∀ batch, queue.pool.batch = some batch → batch.pullRequests ≠ [] := by
  cases h with
  | moment moment hq => exact moment.batch_nonempty hq
  | opened => rintro _ ⟨⟩

lemma batch_proper (h : Glimpse setup key turns queue)
    (honest : ∀ s ∈ heardIn key turns, s.Honest) :
    ∀ batch, queue.pool.batch = some batch → batch.Proper setup.settings := by
  cases h with
  | moment moment hq => exact moment.batch_proper hq honest
  | opened => rintro _ ⟨⟩

lemma exists_poolKey (h : Glimpse setup key turns queue) :
    ∃ config : RepoConfig, config.poolKey = key := by
  cases h with
  | moment moment hq =>
    obtain ⟨before, _, hrun, _⟩ := moment.queue hq
    obtain ⟨_, _, config, _, _, _, hconfig, _⟩ := hrun.opened rfl
    exact ⟨config, (configFor_eq_some hconfig).2.2⟩
  | opened hkey => exact ⟨_, hkey⟩

lemma key_ne_empty (h : Glimpse setup key turns queue) : key ≠ "" := by
  obtain ⟨config, rfl⟩ := h.exists_poolKey
  intro hempty
  have hlength := congrArg String.length hempty
  simp [RepoConfig.poolKey] at hlength

end Glimpse

end MergeQueue
