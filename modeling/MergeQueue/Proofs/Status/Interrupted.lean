import Mathlib.Data.List.Nodup
import MergeQueue.Proofs.Merge.Allowed
import MergeQueue.Proofs.Pool.Relisting
import MergeQueue.Proofs.Status.Repeated

/-! A status sync that is interrupted. Its first loop fetches, and a failure there ends it before
anything is shown; the second loop shows what is dirty, and stops at the first refusal. -/

namespace MergeQueue

open Engine Dialogue

variable {setup : Setup} {query : MergeQuery} {own : String} {held : Bool}

structure Fetched where
  id : UInt64
  pullRequest : PullRequest
  reports : List CommitStatus

namespace Fetched

def said (c : Connection) (f : Fetched) : List Said :=
  [⟨.host c (.getPullRequest f.id), .ok f.pullRequest⟩,
    ⟨.host c (.listCommitStatuses f.pullRequest.head.sha), .ok f.reports⟩]

def verdict (query : MergeQuery) (own : String) (f : Fetched) : FullVerdict :=
  Policy.evaluate query f.pullRequest (.ofReports f.reports) own

def evaluation (query : MergeQuery) (own : String) (f : Fetched) : UInt64 × Evaluation :=
  (f.id, .of query own f.pullRequest f.reports)

end Fetched

lemma Engine.EvaluatedAll.split {c : Connection} {ids : List UInt64} {l : List Said}
    {es : List (UInt64 × Evaluation)} {r : Except Error Unit}
    (h : EvaluatedAll setup c query ids l es r) : ∃ fetched : List Fetched,
      es = fetched.map (·.evaluation query setup.settings.statusContext) ∧
      ((r = .ok () ∧ ids = fetched.map (·.id) ∧ l = fetched.flatMap (·.said c)) ∨
        ∃ id rest l' e, r = .error e ∧ ids = fetched.map (·.id) ++ id :: rest ∧
          Evaluated setup c query id l' (.error e) ∧ l = fetched.flatMap (·.said c) ++ l') := by
  induction h with
  | none => exact ⟨[], rfl, .inl ⟨rfl, rfl, rfl⟩⟩
  | @failed id rest l e he => exact ⟨[], rfl, .inr ⟨id, rest, l, e, rfl, rfl, he, rfl⟩⟩
  | @next id rest l e l' es r he _ ih =>
    obtain ⟨fetched, rfl, hend⟩ := ih
    cases he with
    | @reported pr reports =>
      refine ⟨⟨id, pr, reports⟩ :: fetched, rfl, ?_⟩
      rcases hend with ⟨rfl, rfl, rfl⟩ | ⟨id', rest', last, e, rfl, rfl, hlast, rfl⟩
      · exact .inl ⟨rfl, rfl, rfl⟩
      · exact .inr ⟨id', rest', last, e, rfl, rfl, hlast, rfl⟩

structure Tracked.Judged (query : MergeQuery) (own : String) (held : Bool) (f : Fetched)
    (t t' : Tracked) (bucket : Option Bucket) : Prop where
  pullRequest : t'.pullRequest = f.pullRequest
  statuses : t'.statuses = .ofReports f.reports
  removed : ¬ Admitted query held f.pullRequest → bucket = none ∧ t'.status = .pending ∧
    t'.description = "Not mergeable. " ++ (Policy.checkSimple query f.pullRequest).message
  passed : (f.verdict query own).passed →
    bucket = some .success ∧ t'.status = .success ∧ t'.description = inMergePoolNote
  waits : Admitted query held f.pullRequest → (f.verdict query own).passed = false →
    bucket = some .pending ∧ t'.status = .pending ∧
      t'.description = (f.verdict query own).message
  bucket : t'.bucket = bucket.getD .unknown
  dirty : t'.dirty ↔ t.dirty ∨ ¬ t.showing t'.status t'.description

namespace Tracked

lemma marked_setBlocker (t : Tracked) (status : CommitState) (description : String) :
    (t.setBlocker status description).dirty ↔ t.dirty ∨ ¬ t.showing status description := by
  rw [setBlocker]
  split
  · next hs => simp [hs]
  · next hs => simp [hs]

-- it is enough to know where the pull request is put, and how that is worded
lemma judged_setBlocker {f : Fetched} {t : Tracked} (bucket : Option Bucket)
    {status : CommitState} {description : String}
    (hremoved : ¬ Admitted query held f.pullRequest → bucket = none ∧ status = .pending ∧
      description = "Not mergeable. " ++ (Policy.checkSimple query f.pullRequest).message)
    (hpassed : (f.verdict query own).passed →
      bucket = some .success ∧ status = .success ∧ description = inMergePoolNote)
    (hwaits : Admitted query held f.pullRequest → (f.verdict query own).passed = false →
      bucket = some .pending ∧ status = .pending ∧ description = (f.verdict query own).message) :
    t.Judged query own held f
      (setBlocker { t with
        bucket := bucket.getD .unknown
        pullRequest := f.pullRequest
        statuses := .ofReports f.reports } status description) bucket := by
  obtain ⟨hstatus, hdescription⟩ := setBlocker_shows { t with
    bucket := bucket.getD .unknown
    pullRequest := f.pullRequest
    statuses := .ofReports f.reports } status description
  refine ⟨by simp, by simp, ?_, ?_, ?_, by simp, ?_⟩
  all_goals rw [hstatus, hdescription]
  · exact hremoved
  · exact hpassed
  · exact hwaits
  · exact marked_setBlocker _ status description

end Tracked

lemma Member.judged_settle (query : MergeQuery) (own : String) (held : Bool) {m : Member}
    {t : Tracked} (f : Fetched) (hb : m.bucket.isSome) (ht : m.tracked = some t) :
    ∃ t', (m.settle held (f.evaluation query own).2).tracked = some t' ∧
      t.Judged query own held f t' (m.settle held (f.evaluation query own).2).bucket := by
  have hremove : ((f.evaluation query own).2.verdict.remove && !held) = true ↔
      ¬ Admitted query held f.pullRequest := by
    change ((Policy.evaluate query f.pullRequest _ own).remove && !held) = true ↔ _
    rw [Policy.remove_evaluate]
    simp [Admitted]
  by_cases hin : Admitted query held f.pullRequest
  · have hstays : ((f.evaluation query own).2.verdict.remove && !held) = false :=
      Bool.eq_false_iff.mpr fun hr => hremove.mp hr hin
    have hplace (bucket : Bucket) (status : CommitState) (description : String) :
        (m.enqueue bucket).record (f.evaluation query own).2 status description =
          ⟨some (Tracked.setBlocker { t with
            bucket
            pullRequest := f.pullRequest
            statuses := .ofReports f.reports } status description), some bucket⟩ := by
      simp only [record, change, enqueue, ht, Option.isSome_some, if_true, Option.map_some]
      rfl
    rw [settle_stays hb hstays, hplace]
    refine ⟨_, rfl, Tracked.judged_setBlocker (some _) (absurd hin) ?_ ?_⟩
    · intro hp
      have hsuccess : place (f.evaluation query own).2.verdict =
          (.success, .success, inMergePoolNote) := if_pos hp
      rw [hsuccess]
      exact ⟨rfl, rfl, rfl⟩
    · intro _ hf
      have hpending : place (f.evaluation query own).2.verdict =
          (.pending, .pending, (f.verdict query own).message) := if_neg (Bool.eq_false_iff.mp hf)
      rw [hpending]
      exact ⟨rfl, rfl, rfl⟩
  · have hfailed : (Policy.checkSimple query f.pullRequest).passed = false :=
      Bool.eq_false_iff.mpr fun hp => hin (.inl hp)
    have hverdict : f.verdict query own =
        ⟨false, true, (Policy.checkSimple query f.pullRequest).message⟩ :=
      Policy.evaluate_of_simple_failed _ own hfailed
    have hmessage : notMergeable (f.evaluation query own).2.verdict.message =
        rejection query f.pullRequest := by
      change notMergeable (f.verdict query own).message = _
      rw [hverdict]
      rfl
    rw [settle, if_pos hb, if_pos (hremove.mpr hin), tracked_record, dequeue, ht, hmessage]
    refine ⟨_, rfl, Tracked.judged_setBlocker none ?_ ?_ fun ha => absurd ha hin⟩
    · exact fun _ => ⟨rfl, rfl, rejection_eq hin⟩
    · rw [hverdict]
      rintro ⟨⟩

namespace Pool

variable {pool pool' : Pool} {fetched : List Fetched}

structure Judged (query : MergeQuery) (own : String) (fetched : List Fetched)
    (pool pool' : Pool) : Prop where
  ids : pool'.ids = pool.ids
  batch : pool'.batch = pool.batch
  judged : ∀ f ∈ fetched, ∃ t t', pool.find? f.id = some t ∧ pool'.find? f.id = some t' ∧
    t.Judged query own (pool.inBatch f.id) f t' (pool'.mergePool.search f.id)
  others : ∀ id ∉ fetched.map (·.id), pool'.find? id = pool.find? id ∧
    pool'.mergePool.search id = pool.mergePool.search id

lemma judged_settleAll (h : pool.Sound) (hn : (fetched.map (·.id)).Nodup)
    (hm : ∀ f ∈ fetched, pool.mergePool.contains f.id) :
    pool.Judged query own fetched (pool.settleAll (fetched.map (·.evaluation query own))) := by
  have hkeys : (fetched.map (·.evaluation query own)).map (·.1) = fetched.map (·.id) := by
    rw [List.map_map]
    rfl
  have hcases := member_settleAll_cases h (hkeys ▸ hn)
  rw [hkeys] at hcases
  refine ⟨ids_settleAll _ _, batch_settleAll _ _, fun f hf => ?_, fun id hid => ?_⟩
  · rcases hcases f.id with ⟨hnot, _⟩ | ⟨e, he, hmember⟩
    · exact absurd (List.mem_map_of_mem hf) hnot
    · obtain ⟨g, hg, heq⟩ := List.mem_map.mp he
      obtain ⟨hid, rfl⟩ := Prod.mk.inj heq
      obtain rfl : g = f := List.inj_on_of_nodup_map hn hg hf hid
      have hb : (pool.member g.id).bucket.isSome := hm g hg
      obtain ⟨t, ht⟩ := Option.isSome_iff_exists.mp (h.tracked g.id hb)
      obtain ⟨t', ht', hjudged⟩ := Member.judged_settle query own (pool.inBatch g.id) g hb ht
      change _ = (pool.member g.id).settle _ (g.evaluation query own).2 at hmember
      rw [← hmember] at ht' hjudged
      exact ⟨t, t', ht, ht', hjudged⟩
  · rcases hcases id with ⟨_, hmember⟩ | ⟨e, he, _⟩
    · exact ⟨congrArg Member.tracked hmember, congrArg Member.bucket hmember⟩
    · exact absurd (hkeys ▸ List.mem_map_of_mem (f := (·.1)) he) hid

end Pool

inductive Engine.Progressed (setup : Setup) (queue : Queue) :
    List Said → Pool → Except Error Unit → Prop
  | unread {e} : Progressed setup queue [⟨.getConfig queue.owner, .error e⟩] queue.pool (.error e)
  | off {config : RepoConfig} : config.merge = none →
      Progressed setup queue [⟨.getConfig queue.owner, .ok config⟩] queue.pool (.ok ())
  | unconnected {config : RepoConfig} {merge l e} : config.merge = some merge →
      (connect setup config).Course l (.error e) →
      Progressed setup queue (⟨.getConfig queue.owner, .ok config⟩ :: l) queue.pool (.error e)
  | unfetched {config : RepoConfig} {merge l c fetched id rest last e pool} :
      config.merge = some merge → (connect setup config).Course l (.ok c) →
      queue.pool.mergePool.ids = fetched.map Fetched.id ++ id :: rest →
      Evaluated setup c (setup.settings.effectiveQuery merge) id last (.error e) →
      queue.pool.Judged (setup.settings.effectiveQuery merge) setup.settings.statusContext fetched
        pool →
      Progressed setup queue
        (⟨.getConfig queue.owner, .ok config⟩ :: l ++ (fetched.flatMap (Fetched.said c) ++ last))
        pool (.error e)
  | fetched {config : RepoConfig} {merge l c fetched pool shown left l' pool' r} :
      config.merge = some merge → (connect setup config).Course l (.ok c) →
      queue.pool.mergePool.ids = fetched.map Fetched.id →
      queue.pool.Judged (setup.settings.effectiveQuery merge) setup.settings.statusContext fetched
        pool →
      (∀ id t, (id, t) ∈ shown ++ left ↔ pool.find? id = some t ∧ t.dirty) →
      ((shown ++ left).map Prod.fst).Pairwise (· < ·) →
      Published setup.settings c pool.ids pool l' pool' r shown left →
      Progressed setup queue
        (⟨.getConfig queue.owner, .ok config⟩ :: l ++ fetched.flatMap (Fetched.said c) ++ l')
        pool' r

lemma Engine.Published.dirty {settings : Settings} {c : Connection} {pool pool' : Pool}
    {said : List Said} {r : Except Error Unit} {front left : List (UInt64 × Tracked)}
    (h : Published settings c pool.ids pool said pool' r front left) :
    (∀ id t, (id, t) ∈ front ++ left ↔ pool.find? id = some t ∧ t.dirty) ∧
      ((front ++ left).map Prod.fst).Pairwise (· < ·) := by
  rw [← h.waiting]
  refine ⟨fun id t => ?_, pool.tracked.keys_ascending.sublist (waiting_sublist _ _)⟩
  rw [mem_waiting_iff, and_iff_right_of_imp]
  rintro ⟨ht, _⟩
  exact (pool.mem_ids_iff id).mpr (Option.isSome_of_mem ht)

lemma Engine.Attempted.progressed {queue : Queue} {said : List Said} {pool : Pool}
    {r : Except Error Unit} (h : Attempted setup queue said pool r) (hs : queue.pool.Sound) :
    Progressed setup queue said pool r := by
  have hn := queue.pool.mergePool.ids_nodup
  have hmem (id : UInt64) := queue.pool.mergePool.mem_ids_iff id
  cases h with
  | unread => exact .unread
  | off hm => exact .off hm
  | unconnected hm hc => exact .unconnected hm hc
  | failed hm hc he =>
    obtain ⟨fetched, rfl, ⟨hr, _⟩ | ⟨id, rest, last, e, hr, hids, hlast, rfl⟩⟩ :=
      (evaluateAll_course he).split
    · cases hr
    · cases hr
      refine .unfetched hm hc hids hlast (Pool.judged_settleAll hs ?_ fun f hf => ?_)
      · rw [hids] at hn
        exact (List.nodup_append.mp hn).1
      · rw [← hmem, hids]
        exact List.mem_append_left _ (List.mem_map_of_mem hf)
  | published hm hc he hp =>
    obtain ⟨fetched, rfl, ⟨_, hids, rfl⟩ | ⟨_, _, _, _, hr, _⟩⟩ := (evaluateAll_course he).split
    · obtain ⟨shown, left, hpublished⟩ :=
        publish_course hp (hs.settleAll _) (SortedMap.keys_nodup _)
      obtain ⟨hdirty, hascending⟩ := hpublished.dirty
      refine .fetched hm hc hids ?_ hdirty hascending hpublished
      apply Pool.judged_settleAll hs (hids ▸ hn)
      intro f hf
      rw [← hmem, hids]
      exact List.mem_map_of_mem hf
    · cases hr

def World.refusing (w : World) (sha : String) : (q : Question) → q.Reply
  | .host c (.setCommitStatus s status) =>
    if s = sha then .error (.host (.other "forbidden"))
    else w.reply (.host c (.setCommitStatus s status))
  | q => w.reply q

/-- A status sync takes over the members of the merge pool in ascending order up to the first that
it cannot fetch, and then nothing is shown; if there is none, the dirty records are shown in
ascending order, up to the first that is refused. -/
theorem status_sync_stops :
    (∀ setup turns table, Moment setup turns table → ∀ key queue, table.find? key = some queue →
      queue.pool.Sound) ∧
    ∀ setup queue said pool r, queue.pool.Sound →
      (syncStatus setup queue).Course said (pool, r) →
        queue.pool.mergePool.ids.Pairwise (· < ·) ∧
        (∀ id, id ∈ queue.pool.mergePool.ids ↔ queue.pool.mergePool.contains id) ∧
        Progressed setup queue said pool r := by
  refine ⟨fun setup turns table moment key queue hq => ?_,
    fun setup queue said pool r hs h => ⟨?_, fun id => ?_, ?_⟩⟩
  · obtain ⟨_, _, _, hleft⟩ := moment.queue hq
    exact hleft.sound
  · exact MergePool.ids_ascending _
  · exact MergePool.mem_ids_iff _ id
  · exact (syncStatus_course h).progressed hs

theorem status_sync_stops_demo :
    let w := jobsWorld [demoPull 3 "aaa" [], demoPull 7 "bbb" []]
      [(3, demoPull 3 "aaa" []), (7, demoPull 7 "bbb" [])] .pending
    let table := (play pairSetup [(.poolSync, w)]).2
    let queue := (table.find? demoJobs.poolKey).getD ⟨demoJobs.id, .empty⟩
    let out (reply : (q : Question) → q.Reply) := (syncStatus pairSetup queue).record reply
    let unfetched := out { w with live := [(3, demoPull 3 "aaa" [])] }.reply
    let refused := out (w.refusing "bbb")
    Progressed pairSetup queue unfetched.1 unfetched.2.1 unfetched.2.2 ∧
      publications unfetched.1 = [] ∧
      Progressed pairSetup queue refused.1 refused.2.1 refused.2.2 ∧
      (publications refused.1).map (fun p => (p.sha, p.acknowledged)) =
        [("aaa", true), ("bbb", false)] := by
  intro w table queue out unfetched refused
  have moment : Moment pairSetup _ table := .between (run_play pairSetup [(.poolSync, w)])
  have hqueue : (table.find? demoJobs.poolKey).isSome = true := by decide +kernel
  have hq : table.find? demoJobs.poolKey = some queue := by
    obtain ⟨q, hq⟩ := Option.isSome_iff_exists.mp hqueue
    simp only [queue, hq, Option.getD_some]
  have hsilent : publications unfetched.1 = [] := by decide +kernel
  have hshown : (publications refused.1).map (fun p => (p.sha, p.acknowledged)) =
      [("aaa", true), ("bbb", false)] := by
    decide +kernel
  clear_value queue table
  have hs : queue.pool.Sound := status_sync_stops.1 _ _ _ moment _ _ hq
  have hout (reply : (q : Question) → q.Reply) :
      Progressed pairSetup queue (out reply).1 (out reply).2.1 (out reply).2.2 :=
    (status_sync_stops.2 _ _ _ _ _ hs (course_record _ _)).2.2
  exact ⟨hout _, hsilent, hout _, hshown⟩

end MergeQueue
