import MergeQueue.Proofs.Merge.Freshness
import MergeQueue.Proofs.Run.Pause
import MergeQueue.Proofs.Run.World
import MergeQueue.Proofs.Status.Agreement

/-! No verdict looks at the context of the queue, so a second status sync finds everything as the
first has left it. -/

namespace MergeQueue

open Engine Dialogue

variable {setup : Setup} {key : String}

namespace Policy

lemma evaluate_congr {query : MergeQuery} {pr : PullRequest} {statuses statuses' : Statuses}
    {own : String} (h : statuses'.erase own = statuses.erase own) :
    evaluate query pr statuses' own = evaluate query pr statuses own := by
  have hchecks : checkStatuses query statuses' own = checkStatuses query statuses own :=
    checkStatuses_of_agree (SortedMap.erase_eq_erase_iff.mp h)
  simp only [evaluate, hchecks]

end Policy

lemma Statuses.erase_ofReports (reports : List CommitStatus) (own : String) :
    (Statuses.ofReports reports).erase own =
      Statuses.ofReports (reports.filter fun status => status.context ≠ own) := by
  rw [Statuses.ofReports, SortedMap.erase_ofList, List.filter_map]
  rfl

namespace Member

variable {m : Member} {held : Bool} {e e' : Evaluation}

def place (verdict : FullVerdict) : Bucket × CommitState × String :=
  if verdict.passed then (.success, .success, inMergePoolNote)
  else (.pending, .pending, verdict.message)

lemma settle_stays (hb : m.bucket.isSome) (hv : (e.verdict.remove && !held) = false) :
    m.settle held e =
      (m.enqueue (place e.verdict).1).record e (place e.verdict).2.1 (place e.verdict).2.2 := by
  rw [settle, if_pos hb, if_neg (by simp [hv]), place]
  split <;> rfl

lemma stays_of_bucket (hb : m.bucket.isSome) (h : (m.settle held e).bucket.isSome) :
    (e.verdict.remove && !held) = false := by
  rw [settle, if_pos hb] at h
  split at h
  · simp [record, change, dequeue] at h
  · next hv => simpa using hv

lemma record_again (ht : m.tracked.isSome) (hpr : e'.pullRequest = e.pullRequest)
    (bucket : Bucket) (status : CommitState) (description : String) :
    ((((m.enqueue bucket).record e status description).change
      Tracked.published).enqueue bucket).record e' status description =
    (((m.enqueue bucket).record e status description).change Tracked.published).change
      ({ · with statuses := e'.statuses }) := by
  obtain ⟨t, ht⟩ := Option.isSome_iff_exists.mp ht
  by_cases hs : t.status = status ∧ t.description = description <;>
    simp [enqueue, record, change, ht, hpr, Tracked.setBlocker, Tracked.showing, Tracked.published,
      hs]

lemma settle_again (hb : m.bucket.isSome) (ht : m.tracked.isSome)
    (hkept : (m.settle held e).bucket.isSome) (hpr : e'.pullRequest = e.pullRequest)
    (hv : e'.verdict = e.verdict) :
    ((m.settle held e).change Tracked.published).settle held e' =
      ((m.settle held e).change Tracked.published).change ({ · with statuses := e'.statuses }) := by
  have hstays := stays_of_bucket hb hkept
  have hagain : ((m.settle held e).change Tracked.published).settle held e' = _ :=
    settle_stays hkept (hv ▸ hstays)
  rw [hagain, settle_stays hb hstays, hv]
  exact record_again ht hpr _ _ _

structure Stood (own : String) (m m' : Member) : Prop where
  bucket : m'.bucket = m.bucket
  tracked : ∀ t, m.tracked = some t → ∃ statuses, m'.tracked = some { t with statuses } ∧
    statuses.erase own = t.statuses.erase own

lemma stood_settle {own : String} (hb : m.bucket.isSome) (ht : m.tracked.isSome)
    (hkept : (m.settle held e).bucket.isSome) (hpr : e'.pullRequest = e.pullRequest)
    (hv : e'.verdict = e.verdict) (hstatuses : e'.statuses.erase own = e.statuses.erase own) :
    Stood own ((m.settle held e).change Tracked.published)
      (((m.settle held e).change Tracked.published).settle held e') := by
  rw [settle_again hb ht hkept hpr hv]
  refine ⟨rfl, fun t ht' => ⟨e'.statuses, congrArg (Option.map _) ht', ?_⟩⟩
  have hrecord : (m.settle held e).statuses = some e.statuses := statuses_settle hb ht
  obtain ⟨t₀, ht₀, rfl⟩ := Option.map_eq_some_iff.mp ht'
  rw [statuses, ht₀] at hrecord
  rw [hstatuses, ← Option.some.inj hrecord]
  rfl

end Member

namespace Engine

lemma publish_clean {c : Connection} {ids : List UInt64} {pool pool' : Pool} {l : List Said}
    {r : Except Error Unit} (hclean : ∀ id t, pool.find? id = some t → t.dirty = false)
    (h : (publish setup c ids pool).Course l (pool', r)) : l = [] ∧ pool' = pool ∧ r = .ok () := by
  induction ids with
  | nil =>
    obtain ⟨rfl, ho⟩ := h
    cases ho
    exact ⟨rfl, rfl, rfl⟩
  | cons id rest ih =>
    have hnone : (pool.find? id).filter (·.dirty) = none := by
      rw [Option.filter_eq_none_iff]
      intro t ht
      simp [hclean id t ht]
    rw [publish, hnone] at h
    exact ih h

lemma publish_all {c : Connection} {pool pool' : Pool} {l : List Said} (hs : pool.Sound)
    (h : (publish setup c pool.ids pool).Course l (pool', .ok ())) :
    pool'.Sound ∧ pool'.batch = pool.batch ∧
      ∀ id, pool'.member id = (pool.member id).change Tracked.published := by
  obtain ⟨shown, left, hp⟩ := publish_course h hs (SortedMap.keys_nodup _)
  refine ⟨hp.sound, hp.batch, fun id => ?_⟩
  rw [hp.member]
  split
  · rfl
  · next hnot =>
    have hclean (t : Tracked) (ht : (pool.member id).tracked = some t) : t.published = t := by
      have hdirty : t.dirty = false := by
        rw [Bool.eq_false_iff]
        intro hd
        have hw : (id, t) ∈ waiting pool.find? pool.ids :=
          mem_waiting_iff.mpr ⟨(pool.mem_ids_iff id).mpr (Option.isSome_of_mem ht), ht, hd⟩
        rw [hp.waiting, hp.all.mp rfl, List.append_nil] at hw
        exact hnot (List.mem_map_of_mem hw)
      rw [Tracked.published, ← hdirty]
    rw [Member.change]
    cases ht : (pool.member id).tracked with
    | none => rw [Option.map_none, ← ht]
    | some t => rw [Option.map_some, hclean t ht, ← ht]

def Seen (setup : Setup) (c : Connection) (query : MergeQuery) (l : List Said) (id : UInt64)
    (e : Evaluation) : Prop :=
  ∃ pr reports, ⟨.host c (.getPullRequest id), .ok pr⟩ ∈ l ∧
    ⟨.host c (.listCommitStatuses pr.head.sha), .ok reports⟩ ∈ l ∧
    e = .of query setup.settings.statusContext pr reports

lemma Seen.mono {c : Connection} {query : MergeQuery} {l l' : List Said} {id : UInt64}
    {e : Evaluation} (h : Seen setup c query l id e) (hl : l ⊆ l') :
    Seen setup c query l' id e := by
  obtain ⟨pr, reports, hpr, hreports, he⟩ := h
  exact ⟨pr, reports, hl hpr, hl hreports, he⟩

def Unseen (c : Connection) (l : List Said) (id : UInt64) : Prop :=
  (∃ e, ⟨.host c (.getPullRequest id), .error e⟩ ∈ l) ∨
    ∃ pr e, ⟨.host c (.getPullRequest id), .ok pr⟩ ∈ l ∧
      ⟨.host c (.listCommitStatuses pr.head.sha), .error e⟩ ∈ l

lemma Unseen.mono {c : Connection} {l l' : List Said} {id : UInt64} (h : Unseen c l id)
    (hl : l ⊆ l') : Unseen c l' id := by
  rcases h with ⟨e, he⟩ | ⟨pr, e, hpr, he⟩
  · exact .inl ⟨e, hl he⟩
  · exact .inr ⟨pr, e, hl hpr, hl he⟩

lemma Evaluated.seen {c : Connection} {query : MergeQuery} {id : UInt64} {l : List Said}
    {e : Evaluation} (h : Evaluated setup c query id l (.ok e)) : Seen setup c query l id e := by
  cases h with
  | @reported pr reports => exact ⟨pr, reports, by simp, by simp, rfl⟩

lemma Evaluated.unseen {c : Connection} {query : MergeQuery} {id : UInt64} {l : List Said}
    {e : Error} (h : Evaluated setup c query id l (.error e)) : Unseen c l id := by
  cases h with
  | unfetched => exact .inl ⟨e, by simp⟩
  | @unreported pr => exact .inr ⟨pr, e, by simp⟩

lemma evaluateAll_seen {c : Connection} {query : MergeQuery} {ids : List UInt64} {l : List Said}
    {es : List (UInt64 × Evaluation)} {r : Except Error Unit}
    (h : (evaluateAll setup c query ids).Course l (es, r)) :
    (∀ id e, (id, e) ∈ es → Seen setup c query l id e) ∧
    (∀ e, r = .error e → ∃ id ∈ ids, Unseen c l id) := by
  have hall := evaluateAll_course h
  clear h
  induction hall with
  | none => simp
  | @failed k rest l e he => exact ⟨by simp, fun _ _ => ⟨k, List.mem_cons_self, he.unseen⟩⟩
  | @next k rest l e l' es r he _ ih =>
    obtain ⟨hes, hr⟩ := ih
    refine ⟨fun id e' hin => ?_, fun e' he' => ?_⟩
    · rcases List.mem_cons.mp hin with hin | hin
      · cases hin
        exact he.seen.mono (List.subset_append_left _ _)
      · exact (hes id e' hin).mono (List.subset_append_right _ _)
    · obtain ⟨id, hid, hunseen⟩ := hr e' he'
      exact ⟨id, List.mem_cons_of_mem _ hid, hunseen.mono (List.subset_append_right _ _)⟩

lemma evaluation_silent {config : RepoConfig} {c : Connection} {query : MergeQuery}
    {ids : List UInt64} {l l' : List Said} {r : Except Error Connection}
    {es : List (UInt64 × Evaluation)} {r' : Except Error Unit}
    (hc : (connect setup config).Course l r)
    (he : (evaluateAll setup c query ids).Course l' (es, r'))
    (k : Connection) (sha : String) (status : CommitStatus) (reply : Except Error Unit) :
    ⟨.host k (.setCommitStatus sha status), reply⟩ ∉ l ++ l' := by
  intro hmem
  rcases List.mem_append.mp hmem with hmem | hmem
  · obtain ⟨_, _, heq⟩ := (connect_course hc).1 _ hmem
    cases heq
  · refine evaluateAll_forall (P := fun s => s ≠ ⟨.host k (.setCommitStatus sha status), reply⟩)
      he ?_ ?_ _ hmem rfl
    · rintro _ _ ⟨⟩
    · rintro _ _ ⟨⟩

end Engine

def SameReports (own : String) :
    Except Error (List CommitStatus) → Except Error (List CommitStatus) → Prop
  | .ok reports, .ok reports' => reports'.filter (fun status => status.context ≠ own) =
      reports.filter fun status => status.context ≠ own
  | r, r' => r' = r

structure Unchanged (own : String) (said said' : List Said) : Prop where
  reply : ∀ q r r', (∀ c sha, q ≠ .host c (.listCommitStatuses sha)) →
    ⟨q, r⟩ ∈ said → ⟨q, r'⟩ ∈ said' → r' = r
  reports : ∀ c sha r r', ⟨.host c (.listCommitStatuses sha), r⟩ ∈ said →
    ⟨.host c (.listCommitStatuses sha), r'⟩ ∈ said' → SameReports own r r'

namespace Unchanged

variable {own : String} {said said' l l' : List Said}

lemma config (h : Unchanged own said said') {name : ConfigName} {config config' : RepoConfig}
    (hr : ⟨.getConfig name, .ok config⟩ ∈ said) (hr' : ⟨.getConfig name, .ok config'⟩ ∈ said') :
    config' = config := by
  cases h.reply _ _ _ (by rintro _ _ ⟨⟩) hr hr'
  rfl

lemma connection (h : Unchanged own said said') {config : RepoConfig} {c : Connection}
    {r' : Except Error Connection} (hc : (connect setup config).Course l (.ok c))
    (hc' : (connect setup config).Course l' r') (hl : l ⊆ said) (hl' : l' ⊆ said') :
    r' = .ok c := by
  rcases connect_asks hc with ⟨_, _, _, herror⟩ | ⟨token, reply, ht, rfl, hreply⟩
  · cases herror
  · rcases connect_asks hc' with ⟨hnone, _⟩ | ⟨token', reply', ht', rfl, rfl⟩
    · cases ht.symm.trans hnone
    · cases ht.symm.trans ht'
      have hsame : reply' = reply :=
        h.reply _ _ _ (by rintro _ _ ⟨⟩) (hl List.mem_cons_self) (hl' List.mem_cons_self)
      rw [hsame, hreply]

lemma not_unseen (h : Unchanged own said said') {c : Connection} {query : MergeQuery}
    {id : UInt64} {e : Evaluation} (hs : Seen setup c query said id e) : ¬ Unseen c said' id := by
  obtain ⟨pr, reports, hpr, hreports, rfl⟩ := hs
  rintro (⟨e, he⟩ | ⟨pr', e, hpr', he⟩)
  · cases h.reply _ _ _ (by rintro _ _ ⟨⟩) hpr he
  · cases h.reply _ _ _ (by rintro _ _ ⟨⟩) hpr hpr'
    cases h.reports _ _ _ _ hreports he

lemma evaluation (h : Unchanged setup.settings.statusContext said said') {c : Connection}
    {query : MergeQuery} {id : UInt64} {e e' : Evaluation} (hs : Seen setup c query said id e)
    (hs' : Seen setup c query said' id e') :
    e'.pullRequest = e.pullRequest ∧ e'.verdict = e.verdict ∧
      e'.statuses.erase setup.settings.statusContext =
        e.statuses.erase setup.settings.statusContext := by
  obtain ⟨pr, reports, hpr, hreports, rfl⟩ := hs
  obtain ⟨pr', reports', hpr', hreports', rfl⟩ := hs'
  cases h.reply _ _ _ (by rintro _ _ ⟨⟩) hpr hpr'
  have hsame : SameReports _ (.ok reports) (.ok reports') := h.reports _ _ _ _ hreports hreports'
  have hstatuses : (Statuses.ofReports reports').erase setup.settings.statusContext =
      (Statuses.ofReports reports).erase setup.settings.statusContext := by
    rw [Statuses.erase_ofReports, Statuses.erase_ofReports]
    exact congrArg Statuses.ofReports hsame
  exact ⟨rfl, Policy.evaluate_congr hstatuses, hstatuses⟩

end Unchanged

namespace Pool

variable {pool pool' : Pool} {es es' : List (UInt64 × Evaluation)} {own : String}

lemma evaluated_of_bucket (hs : pool.Sound) (hes : es.map (·.1) = pool.mergePool.ids)
    {id : UInt64} (hb : ((pool.settleAll es).member id).bucket.isSome) :
    ∃ e, (id, e) ∈ es ∧ (pool.member id).bucket.isSome ∧
      (pool.settleAll es).member id = (pool.member id).settle (pool.inBatch id) e := by
  have hnodup : (es.map (·.1)).Nodup := hes ▸ pool.mergePool.ids_nodup
  rcases member_settleAll_cases hs hnodup id with ⟨hnot, hmember⟩ | ⟨e, hin, hmember⟩
  · rw [hmember] at hb
    exact absurd (hes ▸ (MergePool.mem_ids_iff _ _).mpr hb) hnot
  · have hid : id ∈ pool.mergePool.ids := hes ▸ List.mem_map_of_mem hin
    exact ⟨e, hin, (MergePool.mem_ids_iff _ _).mp hid, hmember⟩

lemma stood_settleAll (hs : pool.Sound) (hes : es.map (·.1) = pool.mergePool.ids)
    (hs' : pool'.Sound) (hbatch : pool'.batch = pool.batch)
    (hmember : ∀ id, pool'.member id = ((pool.settleAll es).member id).change Tracked.published)
    (hes' : es'.map (·.1) = pool'.mergePool.ids)
    (hsame : ∀ id e e', (id, e) ∈ es → (id, e') ∈ es' → e'.pullRequest = e.pullRequest ∧
      e'.verdict = e.verdict ∧ e'.statuses.erase own = e.statuses.erase own) (id : UInt64) :
    (pool'.member id).Stood own ((pool'.settleAll es').member id) := by
  rcases member_settleAll_cases hs' (hes' ▸ pool'.mergePool.ids_nodup) id with
    ⟨_, hagain⟩ | ⟨e', hin', hagain⟩
  · rw [hagain]
    exact ⟨rfl, fun t ht => ⟨t.statuses, ht, rfl⟩⟩
  · have hid : id ∈ pool'.mergePool.ids := hes' ▸ List.mem_map_of_mem hin'
    have hkept : (pool'.member id).bucket.isSome := (MergePool.mem_ids_iff _ _).mp hid
    rw [hmember] at hkept
    obtain ⟨e, hin, hb, hfirst⟩ := evaluated_of_bucket hs hes hkept
    obtain ⟨hpr, hv, hstatuses⟩ := hsame id e e' hin hin'
    rw [hfirst] at hkept
    rw [hagain, inBatch_congr hbatch, hmember, hfirst]
    exact Member.stood_settle hb (hs.tracked id hb) hkept hpr hv hstatuses

lemma clean_of_stood {m : UInt64 → Member}
    (hmember : ∀ id, pool.member id = (m id).change Tracked.published)
    (hstood : ∀ id, (pool.member id).Stood own (pool'.member id)) (hids : pool'.ids = pool.ids)
    {id : UInt64} {t : Tracked} (ht : pool'.find? id = some t) : t.dirty = false := by
  have hid : id ∈ pool.ids := by
    rw [← hids, mem_ids_iff, ht]
    rfl
  obtain ⟨t₀, ht₀⟩ := Option.isSome_iff_exists.mp ((mem_ids_iff _ _).mp hid)
  obtain ⟨statuses, ht', _⟩ := (hstood id).tracked t₀ ht₀
  cases ht.symm.trans ht'
  have hpublished := congrArg Member.tracked (hmember id)
  obtain ⟨_, _, rfl⟩ := Option.map_eq_some_iff.mp (hpublished.symm.trans ht₀)
  rfl

end Pool

/-- A status sync that has nothing to show, and takes over nothing but statuses in one context. -/
structure Idle (own : String) (pool : Pool) (said : List Said) (pool' : Pool)
    (r : Except Error Unit) : Prop where
  ended : r = .ok ()
  silent : ∀ c sha status reply, ⟨.host c (.setCommitStatus sha status), reply⟩ ∉ said
  mergePool : pool'.mergePool = pool.mergePool
  batch : pool'.batch = pool.batch
  ids : pool'.ids = pool.ids
  records : ∀ id t, pool.find? id = some t → ∃ statuses,
    pool'.find? id = some { t with statuses } ∧ statuses.erase own = t.statuses.erase own

namespace Engine.Attempted

variable {queue : Queue} {said said' : List Said} {pool pool' : Pool} {r' : Except Error Unit}

lemma idle_of_off {config : RepoConfig} (hm : config.merge = none)
    (hin : ⟨.getConfig queue.owner, .ok config⟩ ∈ said)
    (again : Attempted setup queue said' pool' r')
    (unchanged : Unchanged setup.settings.statusContext said said') :
    Idle setup.settings.statusContext queue.pool said' pool' r' := by
  have hoff {config' : RepoConfig} {merge : MergeConfig}
      (hin' : ⟨.getConfig queue.owner, .ok config'⟩ ∈ said') : config'.merge ≠ some merge := by
    rw [unchanged.config hin hin', hm]
    simp
  cases again with
  | unread => cases unchanged.reply _ _ _ (by rintro _ _ ⟨⟩) hin (List.mem_singleton_self _)
  | off => exact ⟨rfl, by simp, rfl, rfl, rfl, fun id t ht => ⟨t.statuses, ht, rfl⟩⟩
  | unconnected hm' => exact absurd hm' (hoff (by simp))
  | failed hm' => exact absurd hm' (hoff (by simp))
  | published hm' => exact absurd hm' (hoff (by simp))

lemma idle_of_published {config : RepoConfig} {merge : MergeConfig} {l l' : List Said}
    {c : Connection} {es : List (UInt64 × Evaluation)} (hs : queue.pool.Sound)
    (hm : config.merge = some merge) (hin : ⟨.getConfig queue.owner, .ok config⟩ ∈ said)
    (hc : (connect setup config).Course l (.ok c)) (hl : l ⊆ said)
    (he : (evaluateAll setup c (setup.settings.effectiveQuery merge)
      queue.pool.mergePool.ids).Course l' (es, .ok ())) (hl' : l' ⊆ said)
    (hsound : pool.Sound) (hbatch : pool.batch = queue.pool.batch)
    (hmember : ∀ id, pool.member id =
      ((queue.pool.settleAll es).member id).change Tracked.published)
    (again : Attempted setup { queue with pool } said' pool' r')
    (unchanged : Unchanged setup.settings.statusContext said said') :
    Idle setup.settings.statusContext pool said' pool' r' := by
  have hseen {id : UInt64} {e : Evaluation} (hin : (id, e) ∈ es) :
      Seen setup c (setup.settings.effectiveQuery merge) said id e :=
    ((evaluateAll_seen he).1 id e hin).mono hl'
  -- who is evaluated again was evaluated before, so what is asked has been replied to
  have hevaluated {id : UInt64} (hid : id ∈ pool.mergePool.ids) : ∃ e, (id, e) ∈ es := by
    have hb : (pool.member id).bucket.isSome := (MergePool.mem_ids_iff _ _).mp hid
    rw [hmember] at hb
    obtain ⟨e, hin, _⟩ := Pool.evaluated_of_bucket hs (evaluateAll_course he).all_of_ok hb
    exact ⟨e, hin⟩
  cases again with
  | unread => cases unchanged.reply _ _ _ (by rintro _ _ ⟨⟩) hin (List.mem_singleton_self _)
  | @off config' hm' =>
    obtain rfl : config' = config := unchanged.config hin (List.mem_singleton_self _)
    cases hm.symm.trans hm'
  | @unconnected config' merge' _ _ hm' hc' =>
    obtain rfl : config' = config := unchanged.config hin List.mem_cons_self
    cases unchanged.connection hc hc' hl (List.subset_cons_self _ _)
  | @failed config' merge' lc c' le es' e hm' hc' he' =>
    obtain rfl : config' = config := unchanged.config hin (by simp)
    cases hm.symm.trans hm'
    cases unchanged.connection hc hc' hl fun s hs => by simp [hs]
    obtain ⟨id, hid, hunseen⟩ := (evaluateAll_seen he').2 e rfl
    obtain ⟨e₁, hin₁⟩ := hevaluated hid
    exact absurd (hunseen.mono fun s hs => by simp [hs]) (unchanged.not_unseen (hseen hin₁))
  | @published config' merge' lc c' le es' lp pool' r' hm' hc' he' hp' =>
    obtain rfl : config' = config := unchanged.config hin (by simp)
    cases hm.symm.trans hm'
    cases unchanged.connection hc hc' hl fun s hs => by simp [hs]
    have hstood (id : UInt64) : (pool.member id).Stood setup.settings.statusContext
        ((pool.settleAll es').member id) :=
      Pool.stood_settleAll hs (evaluateAll_course he).all_of_ok hsound hbatch hmember
        (evaluateAll_course he').all_of_ok
        (fun id e e' hin hin' => unchanged.evaluation (hseen hin)
          (((evaluateAll_seen he').1 id e' hin').mono fun s hs => by simp [hs])) id
    have hclean (id : UInt64) (t : Tracked) (ht : (pool.settleAll es').find? id = some t) :
        t.dirty = false := Pool.clean_of_stood hmember hstood (Pool.ids_settleAll _ _) ht
    obtain ⟨rfl, rfl, rfl⟩ := publish_clean hclean hp'
    refine ⟨rfl, fun k sha status reply hmem => ?_, ?_, Pool.batch_settleAll _ _,
      Pool.ids_settleAll _ _, fun id t ht => (hstood id).tracked t ht⟩
    · rw [List.append_nil, List.cons_append] at hmem
      rcases List.mem_cons.mp hmem with hmem | hmem
      · cases hmem
      · exact evaluation_silent hc' he' k sha status reply hmem
    · exact MergePool.ext_search (hsound.settleAll es').disjoint hsound.disjoint
        fun id => (hstood id).bucket

end Engine.Attempted

/-- A status sync that ends without an error leaves nothing to do for another one right behind it.
Only the statuses that the queue itself shows on the heads may have changed in the meantime. -/
theorem status_sync_idempotent {turns : List Turn} {table : Table}
    (moment : Moment setup turns table) {queue : Queue} (hq : table.find? key = some queue)
    {said said' : List Said} {pool pool' : Pool} {r' : Except Error Unit}
    (first : (syncStatus setup queue).Course said (pool, .ok ()))
    (again : (syncStatus setup { queue with pool }).Course said' (pool', r'))
    (unchanged : Unchanged setup.settings.statusContext said said') :
    Idle setup.settings.statusContext pool said' pool' r' := by
  obtain ⟨_, _, _, hleft⟩ := moment.queue hq
  have hs : queue.pool.Sound := hleft.sound
  have again := syncStatus_course again
  cases syncStatus_course first with
  | off hm => exact again.idle_of_off hm (List.mem_singleton_self _) unchanged
  | @published config merge l c le es lp _ _ hm hc he hp =>
    obtain ⟨hsound, hbatch, hmember⟩ := publish_all (hs.settleAll es) hp
    exact again.idle_of_published hs hm (by simp) hc (fun s hs => by simp [hs]) he
      (fun s hs => by simp [hs]) hsound (hbatch.trans (Pool.batch_settleAll _ _)) hmember unchanged

lemma unchanged_reports {α : Type} (own : String) (w : World) {shown : List CommitStatus}
    (h : ∀ status ∈ shown, status.context = own) (d d' : Talk α) :
    Unchanged own (d.record w.reply).1
      (d'.record { w with reports := shown ++ w.reports }.reply).1 where
  reply q r r' hq hr hr' := by
    rw [answer_of_mem_record hr, answer_of_mem_record hr']
    cases q with
    | host c call =>
      cases call with
      | listCommitStatuses sha => exact absurd rfl (hq c sha)
      | _ => rfl
    | _ => rfl
  reports c sha r r' hr hr' := by
    rw [answer_of_mem_record hr, answer_of_mem_record hr']
    change (shown ++ w.reports).filter _ = w.reports.filter _
    rw [List.filter_append, List.filter_eq_nil_iff.mpr fun status hs => by simp [h status hs]]
    rfl

theorem status_sync_idempotent_demo :
    let w := jobsWorld [demoPull 3 "aaa" [], demoPull 7 "aaa" []]
      [(3, demoPull 3 "aaa" []), (7, demoPull 7 "aaa" [])] .pending
    let table := (play pairSetup [(.poolSync, w)]).2
    let queue := (table.find? demoJobs.poolKey).getD ⟨demoJobs.id, .empty⟩
    let first := (syncStatus pairSetup queue).record w.reply
    let shown := (publications first.1).map (·.status)
    let again := (syncStatus pairSetup { queue with pool := first.2.1 }).record
      { w with reports := shown ++ w.reports }.reply
    shown.length = 2 ∧
      Idle pairSetup.settings.statusContext first.2.1 again.1 again.2.1 again.2.2 := by
  intro w table queue first shown again
  have moment : Moment pairSetup _ table := .between (run_play pairSetup [(.poolSync, w)])
  have hqueue : (table.find? demoJobs.poolKey).isSome = true := by decide +kernel
  have hended : first.2.2.isOk = true := by decide +kernel
  have hshown : shown.length = 2 := by decide +kernel
  have hown : ∀ status ∈ shown, status.context = pairSetup.settings.statusContext := by
    decide +kernel
  have hfirst : (syncStatus pairSetup queue).Course first.1 first.2 := course_record _ _
  have hagain : (syncStatus pairSetup { queue with pool := first.2.1 }).Course again.1 again.2 :=
    course_record _ _
  have unchanged := unchanged_reports pairSetup.settings.statusContext w hown
    (syncStatus pairSetup queue) (syncStatus pairSetup { queue with pool := first.2.1 })
  have hq : table.find? demoJobs.poolKey = some queue := by
    obtain ⟨q, hq⟩ := Option.isSome_iff_exists.mp hqueue
    simp only [queue, hq, Option.getD_some]
  change Unchanged _ first.1 again.1 at unchanged
  clear_value again shown first queue table
  obtain ⟨said, pool, r⟩ := first
  obtain rfl : r = .ok () := by
    cases r with
    | error e => cases hended
    | ok _ => rfl
  exact ⟨hshown, status_sync_idempotent moment hq hfirst hagain unchanged⟩

end MergeQueue
