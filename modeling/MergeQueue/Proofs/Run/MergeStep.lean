import MergeQueue.Proofs.Run.StatusPass
import MergeQueue.Engine.MergePass

namespace MergeQueue.Engine

open Dialogue

variable {setup : Setup}

inductive MergeAsked (setup : Setup) (task : MergeTask) (pr : PullRequest) (sha : String) :
    List Said → Except Error Unit → Prop
  | unrendered {field} : task.merge.message pr = .error field →
      MergeAsked setup task pr sha [] (.error (.unknownField field))
  | replied {message} {r : Except Error Unit} : task.merge.message pr = .ok message →
      MergeAsked setup task pr sha [⟨.host task.connection
        (.mergePullRequest pr.id sha (setup.settings.methodFor task.merge pr) message), r⟩] r

lemma mergeAt_course {task : MergeTask} {pr : PullRequest} {sha : String} {l : List Said}
    {r : Except Error Unit} (h : (task.mergeAt setup pr sha).Course l r) :
    MergeAsked setup task pr sha l r := by
  rw [MergeTask.mergeAt] at h
  split at h
  · next hm =>
    obtain ⟨rfl, rfl⟩ := h
    exact .unrendered hm
  · next hm =>
    obtain rfl := (course_question _ _ _).mp h
    exact .replied hm

inductive JobAsked (setup : Setup) (config : RepoConfig) (tip : String) (pool : Pool) :
    List Said → Pool → Except Error Unit → Prop
  | none : pool.batch = none → JobAsked setup config tip pool [] pool (.error (.internal .noBatch))
  | inapplicable {batch e} : pool.batch = some batch →
      config.jobRequest? setup.settings batch.branch tip batch.pullRequests = .error e →
      JobAsked setup config tip pool [] pool (.error e)
  | refused {batch request suffix e} : pool.batch = some batch →
      config.jobRequest? setup.settings batch.branch tip batch.pullRequests = .ok request →
      JobAsked setup config tip pool
        [⟨.drawSuffix, suffix⟩, ⟨.createJob (request suffix), .error e⟩] pool (.error e)
  | created {batch request suffix} {job : JobRef} : pool.batch = some batch →
      config.jobRequest? setup.settings batch.branch tip batch.pullRequests = .ok request →
      JobAsked setup config tip pool
        [⟨.drawSuffix, suffix⟩, ⟨.createJob (request suffix), .ok job⟩]
        (pool.setBatch { batch with job := some job }) (.ok ())

lemma createBatchJob_course {config : RepoConfig} {tip : String} {pool pool' : Pool}
    {l : List Said} {r : Except Error Unit}
    (h : (createBatchJob setup config tip pool).Course l (pool', r)) :
    JobAsked setup config tip pool l pool' r := by
  rw [createBatchJob] at h
  split at h
  · next hb =>
    obtain ⟨rfl, hr⟩ := h
    cases hr
    exact .none hb
  · next batch hb =>
    split at h
    · next hj =>
      obtain ⟨rfl, hr⟩ := h
      cases hr
      exact .inapplicable hb hj
    · next request hj =>
      obtain ⟨suffix, _, rfl, hd⟩ := course_ask_bind.mp h
      obtain ⟨reply, _, rfl, hr⟩ := course_ask_bind.mp hd
      cases reply with
      | error e =>
        obtain ⟨rfl, hr⟩ := hr
        cases hr
        exact .refused hb hj
      | ok job =>
        obtain ⟨rfl, hr⟩ := hr
        cases hr
        exact .created hb hj

inductive Advanced (setup : Setup) (key : String) (c : Connection) (batch : Batch) (pool : Pool) :
    List Said → Pool → Except Error Bool → Prop
  | lost {e} : batch.job = none → Advanced setup key c batch pool
      [⟨.host c (.getBranch batch.branch), .error e⟩] pool (.error e)
  | asked {branch : Branch} {l pool' r} : batch.job = none →
      JobAsked setup c.config branch.commit pool l pool' r → Advanced setup key c batch pool
        (⟨.host c (.getBranch batch.branch), .ok branch⟩ :: l) pool' (r.map fun () => false)
  | vanished {job missing} : batch.job = some job → Advanced setup key c batch pool
      [⟨.jobState job, .error (.jobNotFound missing)⟩, ⟨.warn (.jobVanished key missing), ()⟩]
      (pool.setBatch { batch with job := none }) (.ok false)
  | unpolled {job e} : batch.job = some job → (∀ missing, e ≠ .jobNotFound missing) →
      Advanced setup key c batch pool [⟨.jobState job, .error e⟩] pool (.error e)
  | completed {job} : batch.job = some job →
      Advanced setup key c batch pool [⟨.jobState job, .ok .completed⟩] pool (.ok true)
  | shrunk {job} : batch.job = some job → Advanced setup key c batch pool
      [⟨.jobState job, .ok .failed⟩] (Pool.shrinkBatch pool batch) (.ok false)
  | waiting {job} {state : JobState} : batch.job = some job → state ≠ .completed →
      state ≠ .failed → Advanced setup key c batch pool [⟨.jobState job, .ok state⟩] pool (.ok false)

lemma advanceBatch_course {key : String} {c : Connection} {batch : Batch} {pool pool' : Pool}
    {l : List Said} {r : Except Error Bool}
    (h : (advanceBatch setup key c batch pool).Course l (pool', r)) :
    Advanced setup key c batch pool l pool' r := by
  rw [advanceBatch] at h
  split at h
  · next hj =>
    obtain ⟨reply, _, rfl, hd⟩ := course_host_bind.mp h
    cases reply with
    | error e =>
      obtain ⟨rfl, hr⟩ := hd
      cases hr
      exact .lost hj
    | ok branch =>
      obtain ⟨l, ⟨pool₁, r₁⟩, _, rfl, hc, rfl, hr⟩ := (course_bind _ _ _ _).mp hd
      cases hr
      rw [List.append_nil]
      exact .asked hj (createBatchJob_course hc)
  · next job hj =>
    obtain ⟨reply, _, rfl, hd⟩ := course_ask_bind.mp h
    split at hd
    · next missing =>
      obtain ⟨_, rfl, rfl, hr⟩ := course_warn_bind.mp hd
      cases hr
      exact .vanished hj
    · next e he =>
      obtain ⟨rfl, hr⟩ := hd
      cases hr
      exact .unpolled hj he
    · obtain ⟨rfl, hr⟩ := hd
      cases hr
      exact .completed hj
    · obtain ⟨rfl, hr⟩ := hd
      cases hr
      exact .shrunk hj
    · next state hc hf =>
      obtain ⟨rfl, hr⟩ := hd
      cases hr
      exact .waiting hj hc hf

inductive Stepped (setup : Setup) (key : String) (task : MergeTask) (pool : Pool) :
    List Said → Pool × MergeState → Prop
  | empty : pool.batch.bind (·.pullRequests.head?) = none →
      Stepped setup key task pool [] (pool.clearBatch, .ended (.ok ()))
  | dropped {next} : pool.batch.bind (·.pullRequests.head?) = some next →
      (∀ t, pool.find? next.id = some t → t.pullRequest.head.sha ≠ next.head.sha) →
      Stepped setup key task pool [] (goOn task pool)
  | rejected {next t l e} : pool.batch.bind (·.pullRequests.head?) = some next →
      pool.find? next.id = some t → t.pullRequest.head.sha = next.head.sha →
      MergeAsked setup task t.pullRequest next.head.sha l (.error e) →
      Stepped setup key task pool (l ++ [⟨.warn (.mergeRejected key next.id e), ()⟩])
        (pool.clearBatch, .ended (.error e))
  | merged {next t l} : pool.batch.bind (·.pullRequests.head?) = some next →
      pool.find? next.id = some t → t.pullRequest.head.sha = next.head.sha →
      MergeAsked setup task t.pullRequest next.head.sha l (.ok ()) →
      Stepped setup key task pool l (goOn task (pool.dequeue next.id))

lemma goOn_cases (task : MergeTask) {pool : Pool} {next : PullRequest}
    (h : pool.batch.bind (·.pullRequests.head?) = some next) :
    ∃ batch rest, pool.batch = some batch ∧ batch.pullRequests = next :: rest ∧
      (rest = [] ∧ goOn task pool = (pool.clearBatch, .ended (.ok ())) ∨
        rest ≠ [] ∧ goOn task pool =
          (pool.setBatch { batch with pullRequests := rest }, .paused task)) := by
  obtain ⟨batch, hb, hh⟩ := Option.bind_eq_some_iff.mp h
  obtain ⟨rest, hlist⟩ := List.head?_eq_some_iff.mp hh
  have hremoved : removeFirst? batch = some { batch with pullRequests := rest } := by
    rw [removeFirst?, hlist]
  refine ⟨batch, rest, hb, hlist, ?_⟩
  cases rest with
  | nil => exact .inl ⟨rfl, by simp [goOn, hb, hremoved]⟩
  | cons => exact .inr ⟨by simp, by simp [goOn, hb, hremoved]⟩

lemma head?_dequeue {pool : Pool} {next : PullRequest}
    (h : pool.batch.bind (·.pullRequests.head?) = some next) (id : UInt64) :
    (pool.dequeue id).batch.bind (·.pullRequests.head?) = some next := h

lemma goOn_ne_broken (task : MergeTask) {pool : Pool} {next : PullRequest}
    (h : pool.batch.bind (·.pullRequests.head?) = some next) : (goOn task pool).2 ≠ .broken := by
  obtain ⟨_, _, _, _, ⟨_, ho⟩ | ⟨_, ho⟩⟩ := goOn_cases task h <;> simp [ho]

lemma Stepped.ne_broken {key : String} {task : MergeTask} {pool : Pool} {l : List Said}
    {out : Pool × MergeState} (h : Stepped setup key task pool l out) : out.2 ≠ .broken := by
  cases h with
  | empty => simp
  | dropped hn => exact goOn_ne_broken task hn
  | rejected => simp
  | merged hn => exact goOn_ne_broken task (head?_dequeue hn _)

lemma mergeNext_course {key : String} {task : MergeTask} {pool : Pool} {l : List Said}
    {out : Pool × MergeState} (h : (mergeNext setup key task pool).Course l out) :
    Stepped setup key task pool l out := by
  rw [mergeNext] at h
  split at h
  · next hb =>
    obtain ⟨rfl, rfl⟩ := h
    exact .empty hb
  · next next hb =>
    split at h
    · next hn =>
      obtain ⟨rfl, rfl⟩ := h
      exact .dropped hb (by simp [hn])
    · next t ht =>
      split at h
      · next hne =>
        obtain ⟨rfl, rfl⟩ := h
        apply Stepped.dropped hb
        intro t' ht'
        cases ht.symm.trans ht'
        exact hne
      · next heq =>
        obtain ⟨l, r, rest, rfl, hm, hd⟩ := (course_bind _ _ _ _).mp h
        have ha := mergeAt_course hm
        cases r with
        | error e =>
          obtain ⟨_, rfl, rfl, rfl⟩ := course_warn_bind.mp hd
          exact .rejected hb ht (Decidable.not_not.mp heq) ha
        | ok _ =>
          obtain ⟨rfl, rfl⟩ := hd
          rw [List.append_nil]
          exact .merged hb ht (Decidable.not_not.mp heq) ha

inductive Oldest (setup : Setup) (task : MergeTask) (pool : Pool) :
    List Said → Pool → Except Error Unit → Prop
  | idle : (pool.mergePool.bucket .success).head? = none → Oldest setup task pool [] pool (.ok ())
  | untracked {first} : (pool.mergePool.bucket .success).head? = some first →
      pool.find? first = none →
      Oldest setup task pool [] pool (.error (.internal (.untrackedMember first)))
  | lost {first t e} : (pool.mergePool.bucket .success).head? = some first →
      pool.find? first = some t → Oldest setup task pool
        [⟨.host task.connection (.getBranch t.pullRequest.target), .error e⟩] pool (.error e)
  | rejected {first t l e} {tip : Branch} : (pool.mergePool.bucket .success).head? = some first →
      pool.find? first = some t → isFresh task.connection.config t tip.commit →
      MergeAsked setup task t.pullRequest t.pullRequest.head.sha l (.error e) →
      Oldest setup task pool
        (⟨.host task.connection (.getBranch t.pullRequest.target), .ok tip⟩ :: l) pool (.error e)
  | merged {first t l} {tip : Branch} : (pool.mergePool.bucket .success).head? = some first →
      pool.find? first = some t → isFresh task.connection.config t tip.commit →
      MergeAsked setup task t.pullRequest t.pullRequest.head.sha l (.ok ()) →
      Oldest setup task pool
        (⟨.host task.connection (.getBranch t.pullRequest.target), .ok tip⟩ :: l)
        (pool.dequeue first) (.ok ())
  | batched {first t l pool' r} {tip : Branch} :
      (pool.mergePool.bucket .success).head? = some first → pool.find? first = some t →
      isFresh task.connection.config t tip.commit = false →
      JobAsked setup task.connection.config tip.commit
        (pool.setBatch ⟨t.pullRequest.target,
          batched setup.settings pool (pool.mergePool.bucket .success) t.pullRequest.target, none⟩)
        l pool' r →
      Oldest setup task pool
        (⟨.host task.connection (.getBranch t.pullRequest.target), .ok tip⟩ :: l) pool' r

lemma mergeOldest_course {task : MergeTask} {pool pool' : Pool} {l : List Said}
    {r : Except Error Unit} (h : (mergeOldest setup task pool).Course l (pool', r)) :
    Oldest setup task pool l pool' r := by
  rw [mergeOldest] at h
  dsimp only at h
  split at h
  · next hf =>
    obtain ⟨rfl, hr⟩ := h
    cases hr
    exact .idle hf
  · next first hf =>
    split at h
    · next hn =>
      obtain ⟨rfl, hr⟩ := h
      cases hr
      exact .untracked hf hn
    · next t ht =>
      obtain ⟨reply, _, rfl, hd⟩ := course_host_bind.mp h
      cases reply with
      | error e =>
        obtain ⟨rfl, hr⟩ := hd
        cases hr
        exact .lost hf ht
      | ok tip =>
        dsimp only at hd
        split at hd
        · next hfresh =>
          obtain ⟨l, r₁, rest, rfl, hm, hr⟩ := (course_bind _ _ _ _).mp hd
          have ha := mergeAt_course hm
          cases r₁ with
          | error e =>
            obtain ⟨rfl, hr⟩ := hr
            cases hr
            rw [List.append_nil]
            exact .rejected hf ht hfresh ha
          | ok _ =>
            obtain ⟨rfl, hr⟩ := hr
            cases hr
            rw [List.append_nil]
            exact .merged hf ht hfresh ha
        · next hfresh => exact .batched hf ht (by simpa using hfresh) (createBatchJob_course hd)

inductive Started (setup : Setup) (key : String) (queue : Queue) :
    List Said → Pool × MergeState → Prop
  | unread {e} : Started setup key queue [⟨.getConfig queue.owner, .error e⟩]
      (queue.pool, .ended (.error e))
  | off {config : RepoConfig} : config.merge = none →
      Started setup key queue [⟨.getConfig queue.owner, .ok config⟩] (queue.pool, .ended (.ok ()))
  | unconnected {config : RepoConfig} {merge l e} : config.merge = some merge →
      (connect setup config).Course l (.error e) →
      Started setup key queue (⟨.getConfig queue.owner, .ok config⟩ :: l)
        (queue.pool, .ended (.error e))
  | direct {config : RepoConfig} {merge l c l' pool r} : config.merge = some merge →
      (connect setup config).Course l (.ok c) → queue.pool.batch = none →
      Oldest setup ⟨c, merge⟩ queue.pool l' pool r →
      Started setup key queue (⟨.getConfig queue.owner, .ok config⟩ :: l ++ l') (pool, .ended r)
  | held {config : RepoConfig} {merge l c batch l' pool r} : config.merge = some merge →
      (connect setup config).Course l (.ok c) → queue.pool.batch = some batch →
      Advanced setup key c batch queue.pool l' pool r → (∀ done, r = .ok done → done = false) →
      Started setup key queue (⟨.getConfig queue.owner, .ok config⟩ :: l ++ l')
        (pool, .ended (r.map fun _ => ()))
  | tested {config : RepoConfig} {merge l c batch job l' out} : config.merge = some merge →
      (connect setup config).Course l (.ok c) → queue.pool.batch = some batch →
      batch.job = some job → Stepped setup key ⟨c, merge⟩ queue.pool l' out →
      Started setup key queue
        (⟨.getConfig queue.owner, .ok config⟩ :: l ++ ⟨.jobState job, .ok .completed⟩ :: l') out

lemma Started.ne_broken {key : String} {queue : Queue} {l : List Said} {out : Pool × MergeState}
    (h : Started setup key queue l out) : out.2 ≠ .broken := by
  cases h with
  | tested _ _ _ _ hst => exact hst.ne_broken
  | _ => simp

lemma Advanced.completed_of_ok {key : String} {c : Connection} {batch : Batch}
    {pool pool' : Pool} {l : List Said}
    (h : Advanced setup key c batch pool l pool' (.ok true)) :
    ∃ job, batch.job = some job ∧ l = [⟨.jobState job, .ok .completed⟩] ∧ pool' = pool := by
  generalize hr : Except.ok true = r at h
  cases h with
  | completed hj => exact ⟨_, hj, rfl, rfl⟩
  | @asked branch l pool' r hj ha => cases r <;> cases hr
  | _ => cases hr

lemma startMerge_course {key : String} {queue : Queue} {l : List Said} {out : Pool × MergeState}
    (h : (startMerge setup key queue).Course l out) : Started setup key queue l out := by
  rw [startMerge] at h
  obtain ⟨reply, _, rfl, hd⟩ := course_ask_bind.mp h
  cases reply with
  | error e =>
    obtain ⟨rfl, rfl⟩ := hd
    exact .unread
  | ok config =>
    cases hm : config.merge with
    | none =>
      simp only [hm] at hd
      obtain ⟨rfl, rfl⟩ := hd
      exact .off hm
    | some merge =>
      simp only [hm] at hd
      obtain ⟨l, r, rest, rfl, hc, hd⟩ := (course_bind _ _ _ _).mp hd
      cases r with
      | error e =>
        obtain ⟨rfl, rfl⟩ := hd
        rw [List.append_nil]
        exact .unconnected hm hc
      | ok c =>
        cases hb : queue.pool.batch with
        | none =>
          simp only [hb] at hd
          obtain ⟨l', ⟨pool, r⟩, _, rfl, ho, rfl, rfl⟩ := (course_bind _ _ _ _).mp hd
          rw [List.append_nil]
          exact .direct hm hc hb (mergeOldest_course ho)
        | some batch =>
          simp only [hb] at hd
          obtain ⟨l', ⟨pool, r⟩, rest, rfl, ha, hs⟩ := (course_bind _ _ _ _).mp hd
          have ha := advanceBatch_course ha
          rcases r with e | _ | _
          · obtain ⟨rfl, rfl⟩ := hs
            rw [List.append_nil]
            exact .held hm hc hb ha (by simp)
          · obtain ⟨rfl, rfl⟩ := hs
            rw [List.append_nil]
            exact .held hm hc hb ha (by simp)
          · obtain ⟨job, hj, rfl, rfl⟩ := ha.completed_of_ok
            exact .tested hm hc hb hj (mergeNext_course hs)

end MergeQueue.Engine
