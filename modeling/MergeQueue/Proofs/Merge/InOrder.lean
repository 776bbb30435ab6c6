import MergeQueue.Proofs.Merge.Manner
import MergeQueue.Proofs.Run.Fate
import MergeQueue.Proofs.Run.World

namespace MergeQueue

open Engine Dialogue

namespace Engine

variable {setup : Setup} {key : String} {task : MergeTask} {pause : Pool → Pool → Prop}

/-- The turn of one pull request: what is said, what comes of the pool but for its batch, and whether
the next may have its turn. -/
inductive Handled (setup : Setup) (key : String) (task : MergeTask) (pool : Pool)
    (pr : PullRequest) : List Said → Pool → Except Error Unit → Prop
  | dropped : (∀ t, pool.find? pr.id = some t → t.pullRequest.head.sha ≠ pr.head.sha) →
      Handled setup key task pool pr [] pool (.ok ())
  | merged {t method message} : pool.find? pr.id = some t →
      t.pullRequest.head.sha = pr.head.sha → setup.settings.Method task.merge t.pullRequest method →
      task.merge.Message t.pullRequest (.ok message) →
      Handled setup key task pool pr
        [⟨.host task.connection
          (.mergePullRequest t.pullRequest.id pr.head.sha method message), .ok ()⟩]
        (pool.dequeue pr.id) (.ok ())
  | refused {t method message e} : pool.find? pr.id = some t →
      t.pullRequest.head.sha = pr.head.sha → setup.settings.Method task.merge t.pullRequest method →
      task.merge.Message t.pullRequest (.ok message) →
      Handled setup key task pool pr
        [⟨.host task.connection
          (.mergePullRequest t.pullRequest.id pr.head.sha method message), .error e⟩,
          ⟨.warn (.mergeRejected key pr.id e), ()⟩] pool (.error e)
  | unrendered {t field} : pool.find? pr.id = some t → t.pullRequest.head.sha = pr.head.sha →
      task.merge.Message t.pullRequest (.error field) →
      Handled setup key task pool pr
        [⟨.warn (.mergeRejected key pr.id (.unknownField field)), ()⟩] pool
        (.error (.unknownField field))

/-- The turns of a tested batch, all of them or up to a failure. In the pauses between them the pool
may change as `pause` allows. -/
inductive Emptied (setup : Setup) (key : String) (task : MergeTask) (pause : Pool → Pool → Prop) :
    Pool → List PullRequest → List Said → Pool → Except Error Unit → Prop
  | empty {pool} : Emptied setup key task pause pool [] [] pool.clearBatch (.ok ())
  | stopped {pool pr rest l left e} : Handled setup key task pool pr l left (.error e) →
      Emptied setup key task pause pool (pr :: rest) l left.clearBatch (.error e)
  | last {pool pr l left} : Handled setup key task pool pr l left (.ok ()) →
      Emptied setup key task pause pool [pr] l left.clearBatch (.ok ())
  | paused {pool pr rest batch l left found l' pool' r} :
      Handled setup key task pool pr l left (.ok ()) → rest ≠ [] → pool.batch = some batch →
      pause (left.setBatch { batch with pullRequests := rest }) found →
      Emptied setup key task pause found rest l' pool' r →
      Emptied setup key task pause pool (pr :: rest) (l ++ l') pool' r

lemma Emptied.batch {pool pool' : Pool} {prs : List PullRequest} {l : List Said}
    {r : Except Error Unit} (h : Emptied setup key task pause pool prs l pool' r) :
    pool'.batch = none := by
  induction h with
  | empty => rfl
  | stopped => rfl
  | last => rfl
  | paused _ _ _ _ _ ih => exact ih

def turnOver (task : MergeTask) (batch : Batch) (rest : List PullRequest) (left : Pool) :
    Except Error Unit → Pool × MergeState
  | .error e => (left.clearBatch, .ended (.error e))
  | .ok () =>
    match rest with
    | [] => (left.clearBatch, .ended (.ok ()))
    | rest => (left.setBatch { batch with pullRequests := rest }, .paused task)

lemma goOn_eq_turnOver {pool : Pool} {next : PullRequest}
    (hn : pool.batch.bind (·.pullRequests.head?) = some next) :
    ∃ batch rest, pool.batch = some batch ∧ batch.pullRequests = next :: rest ∧
      goOn task pool = turnOver task batch rest pool (.ok ()) := by
  obtain ⟨batch, rest, hb, hlist, ⟨rfl, ho⟩ | ⟨hne, ho⟩⟩ := goOn_cases task hn
  · exact ⟨batch, [], hb, hlist, ho⟩
  · refine ⟨batch, rest, hb, hlist, ho.trans ?_⟩
    cases rest with
    | nil => exact absurd rfl hne
    | cons => rfl

lemma Stepped.handled {pool : Pool} {l : List Said} {out : Pool × MergeState}
    (h : Stepped setup key task pool l out) {batch : Batch} (hb : pool.batch = some batch) :
    (batch.pullRequests = [] ∧ l = [] ∧ out = (pool.clearBatch, .ended (.ok ()))) ∨
    ∃ pr rest left r, batch.pullRequests = pr :: rest ∧
      Handled setup key task pool pr l left r ∧ out = turnOver task batch rest left r := by
  have hmethod (pr : PullRequest) : setup.settings.Method task.merge pr
      (setup.settings.methodFor task.merge pr) := methodFor_eq_iff.mp rfl
  cases h with
  | empty hn =>
    rw [hb] at hn
    exact .inl ⟨List.head?_eq_none_iff.mp hn, rfl, rfl⟩
  | dropped hn hmoved =>
    obtain ⟨batch', rest, hb', hlist, ho⟩ := goOn_eq_turnOver hn
    cases hb.symm.trans hb'
    exact .inr ⟨_, rest, _, _, hlist, .dropped hmoved, ho⟩
  | rejected hn ht hsha ha =>
    rw [hb] at hn
    obtain ⟨rest, hlist⟩ := List.head?_eq_some_iff.mp hn
    cases ha with
    | unrendered hm =>
      exact .inr ⟨_, rest, _, _, hlist, .unrendered ht hsha (message_eq_iff.mp hm), rfl⟩
    | replied hm =>
      have hmessage := message_eq_iff.mp hm
      exact .inr ⟨_, rest, _, _, hlist, .refused ht hsha (hmethod _) hmessage, rfl⟩
  | @merged next t l hn ht hsha ha =>
    obtain ⟨batch', rest, hb', hlist, ho⟩ := goOn_eq_turnOver (head?_dequeue hn next.id)
    cases hb.symm.trans hb'
    cases ha with
    | replied hm =>
      have hmessage := message_eq_iff.mp hm
      exact .inr ⟨_, rest, _, _, hlist, .merged ht hsha (hmethod _) hmessage, ho⟩

lemma Stepped.emptied {pool pool' : Pool} {l : List Said} {r : Except Error Unit}
    (h : Stepped setup key task pool l (pool', .ended r)) {batch : Batch}
    (hb : pool.batch = some batch) :
    Emptied setup key task pause pool batch.pullRequests l pool' r := by
  rcases h.handled hb with ⟨hlist, rfl, ho⟩ | ⟨pr, rest, left, r', hlist, hh, ho⟩
  · cases ho
    rw [hlist]
    exact .empty
  · rw [hlist]
    cases r' with
    | error e =>
      cases ho
      exact .stopped hh
    | ok _ =>
      cases rest with
      | nil =>
        cases ho
        exact .last hh
      | cons => cases ho

lemma Stepped.turned {pool left : Pool} {l : List Said} {task' : MergeTask}
    (h : Stepped setup key task pool l (left, .paused task')) {batch : Batch}
    (hb : pool.batch = some batch) :
    task' = task ∧ ∃ pr rest mid, batch.pullRequests = pr :: rest ∧ rest ≠ [] ∧
      Handled setup key task pool pr l mid (.ok ()) ∧
      left = mid.setBatch { batch with pullRequests := rest } := by
  rcases h.handled hb with ⟨_, _, ho⟩ | ⟨pr, rest, mid, r', hlist, hh, ho⟩
  · cases ho
  · cases r' with
    | error e => cases ho
    | ok _ =>
      cases rest with
      | nil => cases ho
      | cons next rest =>
        cases ho
        exact ⟨rfl, pr, next :: rest, mid, hlist, by simp, hh, rfl⟩

lemma Stepped.unbatched {pool pool' : Pool} {l : List Said} {r : Except Error Unit}
    (h : Stepped setup key task pool l (pool', .ended r)) : pool'.batch = none := by
  cases hb : pool.batch with
  | some batch =>
    have hemptied : Emptied setup key task Eq pool batch.pullRequests l pool' r := h.emptied hb
    exact hemptied.batch
  | none =>
    generalize ho : (pool', MergeState.ended r) = out at h
    cases h with
    | empty =>
      cases ho
      rfl
    | _ hn => simp [hb] at hn

inductive Rounds (setup : Setup) (key : String) (pause : Pool → Pool → Prop) :
    MergeTask → Pool → Nat → List Said → Pool → MergeState → Prop
  | one {task pool l pool' state} : (mergeNext setup key task pool).Course l (pool', state) →
      Rounds setup key pause task pool 1 l pool' state
  | more {task pool l left task' found n l' pool' state} :
      (mergeNext setup key task pool).Course l (left, .paused task') → pause left found →
      Rounds setup key pause task' found n l' pool' state →
      Rounds setup key pause task pool (n + 1) (l ++ l') pool' state

namespace Rounds

variable {pool pool' : Pool} {n : Nat} {l : List Said} {state : MergeState}

lemma ne_broken (h : Rounds setup key pause task pool n l pool' state) : state ≠ .broken := by
  induction h with
  | one h => exact (mergeNext_course h).ne_broken
  | more _ _ _ ih => exact ih

lemma unbatched (h : Rounds setup key pause task pool n l pool' state) {r : Except Error Unit}
    (hended : state = .ended r) : pool'.batch = none := by
  induction h with
  | one h =>
    subst hended
    exact (mergeNext_course h).unbatched
  | more _ _ _ ih => exact ih hended

variable {batch : Batch} (hpause : ∀ left found, pause left found → found.batch = left.batch)
include hpause

lemma count_le (h : Rounds setup key pause task pool n l pool' state)
    (hb : pool.batch = some batch) : n ≤ max 1 batch.pullRequests.length := by
  induction h generalizing batch with
  | one => exact Nat.le_max_left _ _
  | more h hp _ ih =>
    obtain ⟨_, pr, rest, mid, hlist, hne, _, rfl⟩ := (mergeNext_course h).turned hb
    have hcount : _ ≤ max 1 rest.length := ih (hpause _ _ hp)
    have hpos : 0 < rest.length := List.length_pos_iff.mpr hne
    rw [hlist, List.length_cons]
    omega

lemma emptied (h : Rounds setup key pause task pool n l pool' state)
    (hb : pool.batch = some batch) {r : Except Error Unit} (hended : state = .ended r) :
    Emptied setup key task pause pool batch.pullRequests l pool' r := by
  induction h generalizing batch with
  | one h =>
    subst hended
    exact (mergeNext_course h).emptied hb
  | more h hp _ ih =>
    obtain ⟨rfl, pr, rest, mid, hlist, hne, hh, rfl⟩ := (mergeNext_course h).turned hb
    rw [hlist]
    exact .paused hh hne hb hp (ih (hpause _ _ hp) hended)

end Rounds

lemma Finished.emptied {out : Pool × MergeState} {l : List Said} {pool' : Pool}
    {r : Except Error Unit} (h : Finished setup key out l pool' r) {pool : Pool} {batch : Batch}
    (ho : out = (pool, .paused task)) (hb : pool.batch = some batch) :
    Emptied setup key task Eq pool batch.pullRequests l pool' r := by
  induction h generalizing pool batch with
  | ended => cases ho
  | @paused _ _ l out l' pool' r hst hfin ih =>
    cases ho
    obtain ⟨left, state⟩ := out
    cases state with
    | ended r =>
      cases hfin
      rw [List.append_nil]
      exact hst.emptied hb
    | paused task' =>
      obtain ⟨rfl, pr, rest, mid, hlist, hne, hh, rfl⟩ := hst.turned hb
      rw [hlist]
      exact .paused hh hne hb rfl (ih rfl rfl)
    | broken => exact absurd rfl hst.ne_broken

lemma Advanced.unfinished {c : Connection} {batch : Batch} {pool pool' : Pool} {l : List Said}
    {r : Except Error Bool} (h : Advanced setup key c batch pool l pool' r)
    (hr : ∀ done, r = .ok done → done = false) (job : JobRef) :
    ⟨.jobState job, .ok .completed⟩ ∉ l := by
  cases h with
  | asked _ ha => cases ha <;> simp
  | completed => exact absurd (hr true rfl) (by decide)
  | waiting _ hne _ => simpa using fun _ => hne.symm
  | _ => simp

lemma Started.of_completed {queue : Queue} {l l' : List Said} {out : Pool × MergeState}
    {pool : Pool} {r : Except Error Unit} (h : Started setup key queue l out)
    (hfin : Finished setup key out l' pool r) {batch : Batch} (hb : queue.pool.batch = some batch)
    {job : JobRef} (hj : batch.job = some job)
    (hin : ⟨.jobState job, .ok .completed⟩ ∈ l ++ l' ++ noted (.mergePass key) r) :
    ∃ config merge lc c ls, config.merge = some merge ∧ (connect setup config).Course lc (.ok c) ∧
      Stepped setup key ⟨c, merge⟩ queue.pool ls out ∧
      l = ⟨.getConfig queue.owner, .ok config⟩ :: lc ++ ⟨.jobState job, .ok .completed⟩ :: ls := by
  have hconnect {config : RepoConfig} {lc : List Said} {rc : Except Error Connection}
      (hc : (connect setup config).Course lc rc) : ⟨.jobState job, .ok .completed⟩ ∉ lc := by
    intro hmem
    obtain ⟨_, _, heq⟩ := (connect_course hc).1 _ hmem
    cases heq
  have hnoted : ⟨.jobState job, .ok .completed⟩ ∉ noted (.mergePass key) r := by
    cases r <;> simp [noted]
  cases h with
  | tested hm hc hb' hj' hst =>
    cases hb.symm.trans hb'
    cases hj.symm.trans hj'
    exact ⟨_, _, _, _, _, hm, hc, hst, rfl⟩
  | direct _ _ hb' => cases hb.symm.trans hb'
  | unread =>
    cases hfin
    simp [hnoted] at hin
  | off =>
    cases hfin
    simp [hnoted] at hin
  | unconnected _ hc =>
    cases hfin
    simp [hnoted, hconnect hc] at hin
  | held _ hc _ ha hr =>
    cases hfin
    simp [hnoted, hconnect hc, ha.unfinished hr] at hin

end Engine

/-- When the job of a batch has completed, its pull requests have their turns in order, by the pool
that is found at each, up to the first that cannot be merged; the batch is put away in any case. -/
theorem batch_merged_in_order :
    (∀ setup key pause task pool n said pool' state,
      Rounds setup key pause task pool n said pool' state →
        state ≠ .broken ∧ (∀ r, state = .ended r → pool'.batch = none) ∧
        ∀ batch, (∀ left found, pause left found → found.batch = left.batch) →
          pool.batch = some batch → n ≤ max 1 batch.pullRequests.length ∧
          ∀ r, state = .ended r →
            Emptied setup key task pause pool batch.pullRequests said pool' r) ∧
    ∀ setup table table' log pauses, (mergePass setup table).Course log (table', pauses) →
      ∀ key queue batch job, table.find? key = some queue → queue.pool.batch = some batch →
        batch.job = some job → ⟨.jobState job, .ok .completed⟩ ∈ heard key log →
        ∃ config merge l c said pool r, config.merge = some merge ∧
          (connect setup config).Course l (.ok c) ∧
          heard key log = ⟨.getConfig queue.owner, .ok config⟩ :: l ++
            ⟨.jobState job, .ok .completed⟩ :: said ++ noted (.mergePass key) r ∧
          Emptied setup key ⟨c, merge⟩ Eq queue.pool batch.pullRequests said pool r ∧
          table'.find? key = some { queue with pool } ∧ pool.batch = none ∧
          (queue.pool.Sound → ∃ gone, Departed queue.pool gone (heard key log) pool ∧
            gone.Sublist batch.ids) := by
  refine ⟨fun setup key pause task pool n said pool' state h =>
    ⟨h.ne_broken, fun r => h.unbatched, ?_⟩, ?_⟩
  · exact fun batch hpause hb => ⟨h.count_le hpause hb, fun r => h.emptied hpause hb⟩
  · intro setup table table' log pauses h key queue batch job hq hb hj hin
    obtain ⟨pool, hmerged, hq'⟩ := (mergePass_course h key).2 queue hq
    obtain ⟨l, out, l', r, hstart, hfin, hl⟩ := id hmerged
    rw [hl] at hin
    obtain ⟨config, merge, lc, c, ls, hm, hc, hst, rfl⟩ := hstart.of_completed hfin hb hj hin
    -- the first turn and those after the pauses are one sequence of turns
    have hturns : Emptied setup key ⟨c, merge⟩ Eq queue.pool batch.pullRequests (ls ++ l') pool r :=
      (Finished.paused hst hfin).emptied rfl hb
    refine ⟨config, merge, lc, c, ls ++ l', pool, r, hm, hc, ?_, hturns, hq', hturns.batch, ?_⟩
    · rw [hl]
      simp
    · intro hs
      rw [← Pool.mergeOrder_of_batch hb]
      exact hmerged.departed hs

theorem batch_merged_in_order_demo :
    let table := (play pairSetup twoPulls).2
    let pool := poolOf (table.find? demoJobs.poolKey)
    let merged := (mergePass pairSetup table).record
      fun a : Addressed => completedWorld.reply a.question
    let task : MergeTask := ⟨⟨demoJobs, "t"⟩, .default⟩
    let next (pool : Pool) := (mergeNext pairSetup demoJobs.poolKey task pool).record
      completedWorld.reply
    let first := next pool
    let second := next (first.2.1.track (demoPull 7 "ccc" []))
    ∃ batch c merge said pool' r, pool.batch = some batch ∧
      Emptied pairSetup demoJobs.poolKey ⟨c, merge⟩ Eq pool batch.pullRequests said pool' r ∧
      mergedIds (heard demoJobs.poolKey merged.1) = [3, 7] ∧
      Emptied pairSetup demoJobs.poolKey task (fun left found => found.batch = left.batch) pool
        batch.pullRequests (first.1 ++ second.1) second.2.1 (.ok ()) ∧
      mergedIds (first.1 ++ second.1) = [3] := by
  intro table pool merged task next first second
  have hrun : Run pairSetup ∅ _ table := run_play pairSetup twoPulls
  have hsome : (table.find? demoJobs.poolKey).any (·.pool.batch.isSome) = true := by decide +kernel
  have hcalls : mergedIds (heard demoJobs.poolKey merged.1) = [3, 7] := by decide +kernel
  have hpushed : mergedIds (first.1 ++ second.1) = [3] := by decide +kernel
  obtain ⟨queue, hq, hbatch⟩ := (Option.any_eq_true _ _).mp hsome
  obtain ⟨batch, hb⟩ := Option.isSome_iff_exists.mp hbatch
  have hpool : pool = queue.pool := congrArg poolOf hq
  have hs : queue.pool.Sound := hpool ▸ (hrun.queue demoJobs.poolKey).sound
  have hmerge : (mergePass pairSetup table).Course merged.1 merged.2 := course_record _ _
  have hfirst : (mergeNext pairSetup demoJobs.poolKey task pool).Course first.1
      (first.2.1, .paused task) := course_record _ _
  have hsecond : (mergeNext pairSetup demoJobs.poolKey task
      (first.2.1.track (demoPull 7 "ccc" []))).Course second.1
      (second.2.1, .ended (.ok ())) := course_record _ _
  have hrounds : Rounds pairSetup demoJobs.poolKey (fun left found => found.batch = left.batch)
      task pool 2 (first.1 ++ second.1) second.2.1 (.ended (.ok ())) :=
    .more hfirst (Pool.batch_track _ _) (.one hsecond)
  obtain ⟨pool', hmerged, hq'⟩ := (mergePass_course hmerge demoJobs.poolKey).2 queue hq
  have hne : mergeCalls (heard demoJobs.poolKey merged.1) ≠ [] := by decide +kernel
  obtain ⟨job, _, hj, hin, _⟩ := hmerged.tested hs hb hne
  obtain ⟨config, merge, l, c, said, pool', r, _, _, _, hemptied, _⟩ :=
    batch_merged_in_order.2 _ _ _ _ _ hmerge _ _ _ _ hq hb hj hin
  have hdisturbed := (batch_merged_in_order.1 _ _ _ _ _ _ _ _ _ hrounds).2.2 batch (fun _ _ h => h)
    (hpool ▸ hb)
  exact ⟨batch, c, merge, said, pool', r, hpool ▸ hb, hpool ▸ hemptied, hcalls,
    hdisturbed.2 _ rfl, hpushed⟩

end MergeQueue
