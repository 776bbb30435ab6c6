import Mathlib.Data.List.Forall2
import MergeQueue.Proofs.Run.Failure
import MergeQueue.Proofs.Run.Pause
import MergeQueue.Proofs.Run.World
import MergeQueue.Proofs.Status.Description

/-! What the hosts have been shown of the pull requests. The status of a clean record is the last
one that was acknowledged, or the one it started with. -/

namespace MergeQueue

open Engine Dialogue

variable {setup : Setup} {key : String} {settings : Settings}

namespace Tracked

lemma setBlocker_cases (t : Tracked) (status : CommitState) (description : String) :
    (t.setBlocker status description).dirty = true ∨
      (t.setBlocker status description = t ∧ t.description = description) := by
  rw [setBlocker]
  split
  · next h =>
    rw [showing, Bool.and_eq_true] at h
    exact .inr ⟨rfl, of_decide_eq_true h.2⟩
  · exact .inl rfl

def Initial (t : Tracked) : Prop := t.status = .pending ∧ t.description = notMergeableNote

end Tracked

/-- How a record stands with the host, by what was acknowledged since it is tracked. One of which
nothing was acknowledged, and nothing is waiting, has not been evaluated yet, or has been merged
before that. -/
inductive Standing (settings : Settings) (acks : List CommitStatus) (evaluated merged : Prop) :
    Member → Prop
  | absent {bucket} : Standing settings acks evaluated merged ⟨none, bucket⟩
  | dirty {t bucket} : t.dirty = true → Standing settings acks evaluated merged ⟨some t, bucket⟩
  | shown {t bucket} : acks.getLast? = some (publication settings t) →
      Standing settings acks evaluated merged ⟨some t, bucket⟩
  | fresh {t bucket} : t.Initial → acks = [] → ¬ evaluated →
      bucket = some .pending ∨ (bucket = none ∧ merged) →
      Standing settings acks evaluated merged ⟨some t, bucket⟩

namespace Standing

variable {acks : List CommitStatus} {evaluated evaluated' merged merged' : Prop} {m : Member}

lemma mono (h : Standing settings acks evaluated merged m) (he : evaluated' → evaluated)
    (hm : merged → merged') : Standing settings acks evaluated' merged' m := by
  cases h with
  | absent => exact .absent
  | dirty hd => exact .dirty hd
  | shown hl => exact .shown hl
  | fresh hi ha hev hb =>
    exact .fresh hi ha (fun h => hev (he h)) (hb.imp_right fun h => ⟨h.1, hm h.2⟩)

lemma setBlocker {t t' : Tracked} {bucket bucket' : Option Bucket}
    (h : Standing settings acks evaluated merged ⟨some t, bucket⟩) (hstatus : t'.status = t.status)
    (hdescription : t'.description = t.description) (hdirty : t'.dirty = t.dirty)
    {status : CommitState} {description : String} (hd : description ≠ notMergeableNote) :
    Standing settings acks evaluated' merged' ⟨some (t'.setBlocker status description), bucket'⟩ := by
  rcases t'.setBlocker_cases status description with hdirty' | ⟨heq, hsame⟩
  · exact .dirty hdirty'
  · rw [heq]
    cases h with
    | dirty hd => exact .dirty (hdirty.trans hd)
    | shown hl =>
      refine .shown (hl.trans (congrArg some ?_))
      rw [publication, publication, hstatus, hdescription]
    | fresh hi => exact absurd (hsame.symm.trans (hdescription.trans hi.2)) hd

lemma absorb (h : Standing settings acks evaluated merged m)
    (hnew : m.tracked = none → m.bucket = none ∧ acks = [] ∧ ¬ evaluated) (query : MergeQuery)
    (batched : Bool) (pr : PullRequest) :
    Standing settings acks evaluated merged (m.absorb query batched pr) := by
  unfold Member.absorb
  dsimp only
  split
  · cases h with
    | absent =>
      obtain ⟨rfl, hacks, hev⟩ := hnew rfl
      exact .fresh ⟨rfl, rfl⟩ hacks hev (.inl rfl)
    | dirty hd => split <;> exact .dirty hd
    | shown hl => split <;> exact .shown hl
    | fresh hi ha hev hb =>
      split
      · next hsome =>
        refine .fresh hi ha hev (hb.imp_right fun hnone => ?_)
        simp [Member.track, hnone.1] at hsome
      · exact .fresh hi ha hev (.inl rfl)
  · next hp =>
    have hfailed : (Policy.checkSimple query pr).passed = false := by
      cases hpassed : (Policy.checkSimple query pr).passed <;> simp_all
    have hne := (Policy.specific_checkSimple hfailed).notMergeable_ne
    obtain ⟨_ | t, bucket⟩ := m
    · rcases (Tracked.new pr).setBlocker_cases .pending _ with hdirty | ⟨_, hsame⟩
      · exact .dirty hdirty
      · exact absurd hsame.symm hne
    · have hstatus : { t with pullRequest := pr, bucket := Bucket.unknown }.status = t.status := rfl
      exact h.setBlocker hstatus rfl rfl hne

lemma foldl_absorb (h : Standing settings acks evaluated merged m)
    (hnew : m.tracked = none → m.bucket = none ∧ acks = [] ∧ ¬ evaluated) (query : MergeQuery)
    (batched : Bool) (entries : List PullRequest) :
    Standing settings acks evaluated merged (entries.foldl (Member.absorb query batched) m) := by
  induction entries generalizing m with
  | nil => exact h
  | cons pr rest ih =>
    refine ih (h.absorb hnew query batched pr) fun hnone => ?_
    obtain ⟨t, ht, _⟩ := Member.tracked_absorb query batched m pr
    rw [ht] at hnone
    cases hnone

lemma settle (h : Standing settings acks evaluated merged m) (hb : m.bucket.isSome)
    (ht : m.tracked.isSome) (batched : Bool) (query : MergeQuery) (own : String) (pr : PullRequest)
    (reports : List CommitStatus) :
    Standing settings acks evaluated' merged' (m.settle batched (.of query own pr reports)) := by
  obtain ⟨_ | t, bucket⟩ := m
  · cases ht
  · let statuses := Statuses.ofReports reports
    have hstatus (b : Bucket) :
        { t with bucket := b, pullRequest := pr, statuses := statuses }.status = t.status := rfl
    rw [Member.settle, if_pos hb]
    split
    · next hremove =>
      have hfailed := Policy.failed_of_remove (Bool.and_eq_true_iff.mp hremove).1
      have hspecific := Policy.specific_evaluate hfailed
      exact h.setBlocker (hstatus .unknown) rfl rfl hspecific.notMergeable_ne
    · split
      · exact h.setBlocker (hstatus .success) rfl rfl inMergePool_ne
      · next hfailed =>
        have hspecific := Policy.specific_evaluate (Bool.eq_false_iff.mpr hfailed)
        exact h.setBlocker (hstatus .pending) rfl rfl hspecific.ne_note

lemma dequeue (h : Standing settings acks evaluated merged m)
    (hb : m.bucket = some .pending → merged) :
    Standing settings acks evaluated merged m.dequeue := by
  cases h with
  | absent => exact .absent
  | dirty hd => exact .dirty hd
  | shown hl => exact .shown hl
  | fresh hi ha hev hbucket => exact .fresh hi ha hev (.inr ⟨rfl, hbucket.elim hb (·.2)⟩)

end Standing

section Fates

variable {consulted : RepoConfig → Prop} {held : Bool} {accepted : Prop} {m m' : Member}
  {views : List View} {new : List CommitStatus}

lemma Fate.standing (h : Fate setup consulted held accepted m views new m')
    (ht : m.tracked.isSome) {acks : List CommitStatus} {evaluated merged merged' : Prop}
    (hm : Standing setup.settings acks evaluated merged m) (hmerged : merged → merged')
    (haccepted : accepted → m.bucket = some .pending → merged') :
    Standing setup.settings (acks ++ new) (evaluated ∨ ∃ held e, .evaluated held e ∈ views) merged'
      m' := by
  cases h with
  | gone => exact .absent
  | left ha =>
    rw [List.append_nil]
    exact (hm.mono (by simp) hmerged).dequeue (haccepted ha)
  | @listed _ _ _ entries _ _ _ =>
    rw [List.append_nil]
    have hlisted : (evaluated ∨ ∃ held' e, View.evaluated held' e ∈ entries.map (.listed held)) →
        evaluated := by
      simp
    refine (hm.mono hlisted hmerged).foldl_absorb (fun hnone => ?_) _ _ _
    rw [hnone] at ht
    cases ht
  | @reviewed _ _ m₁ _ _ hlook htold =>
    have hlooked : Standing setup.settings acks
        (evaluated ∨ ∃ held e, .evaluated held e ∈ views) merged' m₁ := by
      cases hlook with
      | past => exact hm.mono (by simp) hmerged
      | evaluated _ _ hb => exact hm.settle hb ht _ _ _ _ _
    cases htold with
    | quiet => rwa [List.append_nil]
    | @shown t ht₁ _ =>
      obtain ⟨tracked, bucket⟩ := m₁
      obtain rfl : tracked = some t := ht₁
      exact .shown List.getLast?_concat

lemma Fate.standing_new (h : Fate setup consulted held accepted m views new m')
    (ht : m.tracked = none) (hb : m.bucket = none) : Standing setup.settings [] False False m' := by
  have hm : Standing setup.settings [] False False m := by
    obtain ⟨_, bucket⟩ := m
    cases ht
    exact .absent
  cases h with
  | gone => exact .absent
  | left => exact hm.dequeue fun hpending => by simp [hb] at hpending
  | listed => exact hm.foldl_absorb (fun _ => ⟨hb, rfl, id⟩) _ _ _
  | reviewed hlook htold =>
    cases hlook with
    | evaluated _ _ hsome => simp [hb] at hsome
    | past =>
      cases htold with
      | quiet => exact hm
      | shown hsome => simp [ht] at hsome

end Fates

def sinceTracked (id : UInt64) (visits : List Visit) : List Visit :=
  (visits.reverse.takeWhile fun v => ((poolOf v.before).find? id).isSome).reverse

lemma sinceTracked_concat (id : UInt64) (visits : List Visit) (v : Visit) :
    sinceTracked id (visits ++ [v]) =
      if ((poolOf v.before).find? id).isSome then sinceTracked id visits ++ [v] else [] := by
  rw [sinceTracked, List.reverse_append, List.reverse_singleton, List.singleton_append,
    List.takeWhile_cons]
  split <;> simp [sinceTracked]

def acknowledgedSince (settings : Settings) (id : UInt64) (visits : List Visit) :
    List CommitStatus :=
  (sinceTracked id visits).flatMap (Visit.acknowledged settings id)

def EvaluatedSince (settings : Settings) (id : UInt64) (visits : List Visit) : Prop :=
  ∃ v ∈ sinceTracked id visits, ∃ held e, .evaluated held e ∈ v.views settings id

def MergedSince (id : UInt64) (visits : List Visit) : Prop :=
  ∃ v ∈ sinceTracked id visits, v.Merges id ∧ (poolOf v.before).inBatch id = true

lemma Visit.Merges.inBatch {v : Visit} {id : UInt64} (h : v.Merges id)
    (hs : (poolOf v.before).Sound) (hb : ((poolOf v.before).member id).bucket = some .pending) :
    (poolOf v.before).inBatch id = true := by
  refine (Pool.mem_mergeOrder hs h.next).resolve_left fun hsuccess => ?_
  cases hb.symm.trans hsuccess

lemma QueueRun.standing {visits : List Visit} {q : Option Queue}
    (run : QueueRun setup key none visits q) (id : UInt64) :
    Standing setup.settings (acknowledgedSince setup.settings id visits)
      (EvaluatedSince setup.settings id visits) (MergedSince id visits) ((poolOf q).member id) := by
  induction run with
  | start => exact .absent
  | @next visits q stage said q' run hstep ih =>
    have hfate := hstep.fate run.sound id
    rw [acknowledgedSince, EvaluatedSince, MergedSince, sinceTracked_concat]
    split
    · next ht =>
      rw [List.flatMap_append, List.flatMap_singleton]
      have hmerged : MergedSince id visits → ∃ v ∈ sinceTracked id visits ++ [⟨q, stage, said⟩],
          v.Merges id ∧ (poolOf v.before).inBatch id = true := by
        rintro ⟨v, hv, hm⟩
        exact ⟨v, List.mem_append_left _ hv, hm⟩
      refine (hfate.standing ht ih hmerged fun hm hb => ?_).mono ?_ (fun hm => hm)
      · exact ⟨_, List.mem_append_right _ List.mem_cons_self, hm, hm.inBatch run.sound hb⟩
      · rintro ⟨v, hv, held, e, he⟩
        rcases List.mem_append.mp hv with hv | hv
        · exact .inl ⟨v, hv, held, e, he⟩
        · obtain rfl := List.mem_singleton.mp hv
          exact .inr ⟨held, e, he⟩
    · next ht =>
      have hnone : ((poolOf q).member id).tracked = none := Option.not_isSome_iff_eq_none.mp ht
      refine (hfate.standing_new hnone (run.sound.bucket_eq_none hnone)).mono ?_ ?_ <;> simp

lemma Standing.of_clean {acks : List CommitStatus} {evaluated merged : Prop} {m : Member}
    (h : Standing settings acks evaluated merged m) {t : Tracked} (ht : m.tracked = some t)
    (hd : t.dirty = false) : acks.getLast? = some (publication settings t) ∨
      (t.Initial ∧ acks = [] ∧ ¬ evaluated ∧
        (m.bucket = some .pending ∨ (m.bucket = none ∧ merged))) := by
  cases h with
  | absent => cases ht
  | dirty hdirty =>
    cases ht
    cases hd.symm.trans hdirty
  | shown hl =>
    cases ht
    exact .inl hl
  | fresh hi ha hev hb =>
    cases ht
    exact .inr ⟨hi, ha, hev, hb⟩

lemma Engine.Reviewed.completed {queue : Queue} {l : List Said} {pool : Pool}
    (h : Reviewed setup key queue l pool) (hs : queue.pool.Sound)
    (hv : Visit.Completes key ⟨some queue, .statusSync, l⟩) {id : UInt64} {t : Tracked}
    (ht : pool.find? id = some t) :
    t.dirty = false ∧ ((pool.member id).bucket.isSome →
      (queue.pool.find? id).isSome ∧ evaluationsOf setup.settings id l ≠ []) := by
  obtain ⟨es, shown, refused, left, hev, hrep, hall⟩ := h.reported hs
  obtain ⟨hkeys, rfl, rfl⟩ := hall hv
  refine ⟨?_, fun hb => ?_⟩
  · rw [(hrep.published id).2] at ht
    obtain ⟨t₀, _, rfl⟩ := Option.map_eq_some_iff.mp ht
    rfl
  · have hbucket : (pool.member id).bucket = ((queue.pool.settleAll es).member id).bucket := by
      rw [hrep.member]
      split <;> rfl
    have hevaluated : evaluationsOf setup.settings id l ≠ [] := by
      intro hnone
      rw [hbucket, Pool.member_settleAll hs, ← hev.heard, hnone] at hb
      have hids : id ∈ es.map (·.1) := by
        rw [hkeys]
        exact (MergePool.mem_ids_iff _ _).mpr hb
      obtain ⟨⟨_, e⟩, he, rfl⟩ := List.mem_map.mp hids
      rw [hev.heard, List.map_eq_nil_iff, List.filter_eq_nil_iff] at hnone
      exact hnone _ he (decide_eq_true rfl)
    have htracked : (queue.pool.settleAll es).find? id |>.isSome :=
      (hs.settleAll es).tracked id (hbucket ▸ hb)
    rw [← Pool.mem_ids_iff, Pool.ids_settleAll, Pool.mem_ids_iff] at htracked
    exact ⟨htracked, hevaluated⟩

/-- What was merged with a batch before a status sync has evaluated it: it is out of the merge pool,
and its record is as records are at the start. -/
structure Overtaken (settings : Settings) (id : UInt64) (visits : List Visit) (pool : Pool)
    (t : Tracked) : Prop where
  outside : (pool.member id).bucket = none
  initial : t.Initial
  unshown : acknowledgedSince settings id visits = []
  unevaluated : ¬ EvaluatedSince settings id visits
  merged : MergedSince id visits

lemma QueueRun.completed {visits front : List Visit} {last : Visit} {queue : Queue}
    (run : QueueRun setup key none visits (some queue)) (h : visits = front ++ [last])
    (hv : last.Completes key) {id : UInt64} {t : Tracked} (ht : queue.pool.find? id = some t) :
    t.dirty = false ∧
      ((acknowledgedSince setup.settings id visits).getLast? = some (publication setup.settings t) ∨
        Overtaken setup.settings id visits queue.pool t) := by
  have hstanding := run.standing id
  obtain ⟨run', _, hstep, hlast⟩ := run.cut h
  obtain rfl := hlast rfl
  obtain ⟨q, stage, said⟩ := last
  have hs := run'.sound
  cases hstep with
  | @reviewed before _ pool hr =>
    obtain ⟨hclean, hall⟩ := hr.completed hs hv ht
    refine ⟨hclean, (hstanding.of_clean ht hclean).imp_right ?_⟩
    rintro ⟨hi, hacks, hev, hb | ⟨hb, hm⟩⟩
    · -- a member of the merge pool has been evaluated just now
      refine absurd ?_ hev
      replace hb : (pool.member id).bucket = some .pending := hb
      obtain ⟨htracked, hevaluated⟩ := hall (by rw [hb]; rfl)
      obtain ⟨e, he⟩ := List.exists_mem_of_ne_nil _ hevaluated
      have hsince : sinceTracked id visits =
          sinceTracked id front ++ [⟨some before, .statusSync, said⟩] := by
        rw [h, sinceTracked_concat]
        exact if_pos htracked
      rw [EvaluatedSince, hsince]
      exact ⟨_, List.mem_append_right _ List.mem_cons_self, _, e, List.mem_map_of_mem he⟩
    · exact ⟨hb, hi, hacks, hev, hm⟩
  | _ => cases hv.stage

structure CommitStatus.Shows (settings : Settings) (t : Tracked) (status : CommitStatus) :
    Prop where
  context : status.context = settings.statusContext
  state : status.state = t.status
  description : status.description = t.description
  targetUrl : status.targetUrl = settings.statusTargetUrl

lemma shows_publication (settings : Settings) (t : Tracked) :
    (publication settings t).Shows settings t := ⟨rfl, rfl, rfl, rfl⟩

lemma QueueStep.publications_waiting {stage : Stage} {q q' : Option Queue} {l : List Said}
    (h : QueueStep setup key stage q l q') (hs : (poolOf q).Sound) (hstage : stage = .statusSync) :
    ∃ front, front <+: Visit.waiting setup.settings ⟨q, stage, l⟩ ∧
      List.Forall₂ (fun p w => p.sha = w.2.pullRequest.head.sha ∧
        p.status.Shows setup.settings w.2) (publications l) front := by
  cases h with
  | passed => exact ⟨[], List.nil_prefix, .nil⟩
  | reviewed hr =>
    obtain ⟨es, shown, refused, left, hev, hrep, _⟩ := hr.reported hs
    rw [hev.waiting hs, hrep.waiting, hrep.asked]
    have hattempts (acknowledged : Bool) (ws : List (UInt64 × Tracked)) :
        List.Forall₂ (fun p w => p.sha = w.2.pullRequest.head.sha ∧
          p.status.Shows setup.settings w.2)
          (ws.map (·.2.attempt setup.settings acknowledged)) ws :=
      List.forall₂_map_left_iff.mpr (List.forall₂_same.mpr fun w _ => ⟨rfl, shows_publication _ _⟩)
    exact ⟨shown ++ refused, List.prefix_append _ _,
      List.rel_append (hattempts true shown) (hattempts false refused)⟩
  | _ => cases hstage

lemma Pool.Left.record {pool pool' : Pool} {gone : List UInt64} (h : pool.Left gone pool')
    {id : UInt64} {t : Tracked} (ht : pool'.find? id = some t) :
    ∃ t₀, pool.find? id = some t₀ ∧ (t = t₀ ∨ t = { t₀ with bucket := .unknown }) ∧
      ((pool.member id).bucket = none → (pool'.member id).bucket = none) := by
  have hmember := h.member id
  split at hmember
  · have htracked : (some t : Option Tracked) =
        (pool.find? id).map ({ · with bucket := .unknown }) :=
      ht.symm.trans (congrArg Member.tracked hmember)
    obtain ⟨t₀, ht₀, rfl⟩ := Option.map_eq_some_iff.mp htracked.symm
    exact ⟨t₀, ht₀, .inr rfl, fun _ => by rw [hmember]; rfl⟩
  · have hfind : pool.find? id = some t := (congrArg Member.tracked hmember).symm.trans ht
    exact ⟨t, hfind, .inl rfl, fun hb => by rw [hmember, hb]⟩

/-- At every moment the status and description of a clean record are those that were acknowledged
last, or if none were since it is tracked, those it started with. After a status sync that completes
no record is dirty, and of each some were acknowledged, unless its pull request was merged with a
batch before it was evaluated. -/
theorem statuses_shown {turns : List Turn} {table : Table} (moment : Moment setup turns table)
    {queue : Queue} (hq : table.find? key = some queue) {id : UInt64} {t : Tracked}
    (ht : queue.pool.find? id = some t) :
    let visits := turns.map (Turn.visit key)
    let acks := acknowledgedSince setup.settings id visits
    (t.dirty = false →
      (∃ status, acks.getLast? = some status ∧ status.Shows setup.settings t) ∨
        (acks = [] ∧ t.Initial)) ∧
    (∀ front last, turns = front ++ [last] → (last.visit key).Completes key → t.dirty = false ∧
      ((∃ status, acks.getLast? = some status ∧ status.Shows setup.settings t) ∨
        Overtaken setup.settings id visits queue.pool t)) ∧
    ∀ v ∈ visits, v.stage = .statusSync → ∃ front, front <+: v.waiting setup.settings ∧
      List.Forall₂ (fun p w => p.sha = w.2.pullRequest.head.sha ∧
        p.status.Shows setup.settings w.2) (publications v.said) front := by
  intro visits acks
  obtain ⟨before, gone, hrun, hleft⟩ := moment.queue hq
  obtain ⟨t₀, ht₀, hsame, hbucket⟩ := hleft.record ht
  have hdirty : t₀.dirty = t.dirty := by
    rcases hsame with rfl | rfl <;> rfl
  have hshown : publication setup.settings t₀ = publication setup.settings t := by
    rcases hsame with rfl | rfl <;> rfl
  have hinitial : t₀.Initial → t.Initial := by
    rcases hsame with rfl | rfl <;> exact fun h => h
  refine ⟨fun hd => ?_, fun front last hturns hv => ?_, fun v hv hstage => ?_⟩
  · rcases (hrun.standing id).of_clean ht₀ (hdirty.trans hd) with hlast | ⟨hi, hacks, _⟩
    · exact .inl ⟨_, hlast, hshown ▸ shows_publication _ _⟩
    · exact .inr ⟨hacks, hinitial hi⟩
  · have hvisits : visits = front.map (Turn.visit key) ++ [last.visit key] := by
      simp [visits, hturns]
    obtain ⟨hclean, hlast | hover⟩ := hrun.completed hvisits hv ht₀
    · exact ⟨hdirty.symm.trans hclean, .inl ⟨_, hlast, hshown ▸ shows_publication _ _⟩⟩
    · exact ⟨hdirty.symm.trans hclean, .inr ⟨hbucket hover.outside, hinitial hover.initial,
        hover.unshown, hover.unevaluated, hover.merged⟩⟩
  · obtain ⟨front, back, hvisits⟩ := List.append_of_mem hv
    obtain ⟨run', q', hstep, _⟩ := hrun.cut hvisits
    exact hstep.publications_waiting run'.sound hstage

def Said.configured? : Said → Option (ConfigName × RepoConfig)
  | ⟨.getConfig name, .ok config⟩ => some (name, config)
  | _ => none

lemma Visit.completes_of_said {v : Visit} (hstage : v.stage = .statusSync)
    (hconfig : v.before.any (fun queue => (v.said.filterMap Said.configured?).any
      fun c => c.1 = queue.owner && c.2.merge.isSome) = true)
    (hquiet : ∀ s ∈ v.said, s.warned? = none) : v.Completes key := by
  obtain ⟨queue, hq, hconfig⟩ := (Option.any_eq_true _ _).mp hconfig
  obtain ⟨c, hc, hmerge⟩ := List.any_eq_true.mp hconfig
  rw [Bool.and_eq_true, decide_eq_true_eq] at hmerge
  obtain ⟨s, hs, hsome⟩ := List.mem_filterMap.mp hc
  unfold Said.configured? at hsome
  split at hsome
  · cases hsome
    exact ⟨hstage, ⟨queue, _, hq, hmerge.1 ▸ hs, hmerge.2⟩, fun e he => by cases hquiet _ he⟩
  · cases hsome

theorem statuses_shown_demo :
    let w := demoWorld (demoPull 1 "aaa" [])
    let listed := play demoSetup [(.poolSync, w)]
    let review := Stage.statusSync.play demoSetup w listed.2
    let turns := listed.1 ++ [⟨listed.2, .statusSync, review.1⟩]
    ∃ queue t, review.2.find? demo.poolKey = some queue ∧ queue.pool.find? 1 = some t ∧
      t.dirty = false ∧ ((∃ status, (acknowledgedSince demoSetup.settings 1
        (turns.map (Turn.visit demo.poolKey))).getLast? = some status ∧
          status.Shows demoSetup.settings t) ∨
        Overtaken demoSetup.settings 1 (turns.map (Turn.visit demo.poolKey)) queue.pool t) := by
  intro w listed review turns
  have hqueue : (review.2.find? demo.poolKey).any
      (fun queue => (queue.pool.find? 1).isSome) = true := by
    decide +kernel
  obtain ⟨queue, hq, ht⟩ := (Option.any_eq_true _ _).mp hqueue
  obtain ⟨t, ht⟩ := Option.isSome_iff_exists.mp ht
  have moment : Moment demoSetup turns review.2 :=
    .between ((run_play demoSetup _).next (play_course demoSetup .statusSync w listed.2))
  have completes :
      (Turn.visit demo.poolKey ⟨listed.2, .statusSync, review.1⟩).Completes demo.poolKey :=
    Visit.completes_of_said rfl (by decide +kernel) (by decide +kernel)
  exact ⟨queue, t, hq, ht, (statuses_shown moment hq ht).2.1 listed.1 _ rfl completes⟩

def reopened : List (Stage × World) :=
  let pr := demoPull 1 "aaa" []
  let w := jobsWorld [pr] [(1, pr)] .pending
  [(.poolSync, w), (.statusSync, w), (.merge, w), (.poolSync, { w with listed := [] }),
    (.poolSync, w), (.merge, { w with job := .completed })]

theorem reopened_status_unshown :
    ¬ ∀ (setup : Setup) (turns : List Turn) (last : Turn) (table : Table),
      Run setup ∅ (turns ++ [last]) table → ∀ key queue id t, (last.visit key).Completes key →
        table.find? key = some queue → queue.pool.find? id = some t →
          t.dirty = false ∧ ∃ status, (acknowledgedSince setup.settings id
            ((turns ++ [last]).map (Turn.visit key))).getLast? = some status ∧
              status.Shows setup.settings t := by
  intro h
  let w := jobsWorld [demoPull 1 "aaa" []] [(1, demoPull 1 "aaa" [])] .pending
  let merged := play demoSetup reopened
  let review := Stage.statusSync.play demoSetup w merged.2
  let last : Turn := ⟨merged.2, .statusSync, review.1⟩
  have hqueue : (review.2.find? demoJobs.poolKey).any
      (fun queue => (queue.pool.find? 1).isSome) = true := by
    decide +kernel
  obtain ⟨queue, hq, ht⟩ := (Option.any_eq_true _ _).mp hqueue
  obtain ⟨t, ht⟩ := Option.isSome_iff_exists.mp ht
  have completes : (last.visit demoJobs.poolKey).Completes demoJobs.poolKey :=
    Visit.completes_of_said rfl (by decide +kernel) (by decide +kernel)
  have hnone : acknowledgedSince demoSetup.settings 1
      ((merged.1 ++ [last]).map (Turn.visit demoJobs.poolKey)) = [] := by
    decide +kernel
  obtain ⟨_, status, hlast, _⟩ := h demoSetup merged.1 last review.2
    ((run_play demoSetup _).next (play_course demoSetup .statusSync w merged.2)) demoJobs.poolKey
    queue 1 t completes hq ht
  rw [hnone] at hlast
  cases hlast

end MergeQueue
