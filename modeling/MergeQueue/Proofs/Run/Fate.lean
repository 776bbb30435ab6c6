import MergeQueue.Proofs.Run.View

/-! What a pass does to one pull request, in full: by the views it gets of it, by the merge calls
that the host accepts, and by the statuses that the host takes note of. -/

namespace MergeQueue

open Engine Dialogue

variable {setup : Setup} {key : String}

def Consulted (setup : Setup) (key : String) (q : Option Queue) (said : List Said)
    (config : RepoConfig) : Prop :=
  (∃ configs, ⟨.listConfigs, .ok configs⟩ ∈ said ∧ configFor setup configs key = some config) ∨
    ∃ queue, q = some queue ∧ ⟨.getConfig queue.owner, .ok config⟩ ∈ said

inductive Looked (setup : Setup) (consulted : RepoConfig → Prop) (held : Bool) :
    Member → List View → Member → Prop
  | past {m} : Looked setup consulted held m [] m
  | evaluated {config merge m pr reports} : consulted config → config.merge = some merge →
      m.bucket.isSome → m.tracked.isSome →
      Looked setup consulted held m [.evaluated held (.of
        (setup.settings.effectiveQuery merge) setup.settings.statusContext pr reports)]
        (m.settle held (.of (setup.settings.effectiveQuery merge) setup.settings.statusContext pr
          reports))

inductive Told (settings : Settings) : Member → List CommitStatus → Member → Prop
  | quiet {m} : Told settings m [] m
  | shown {m t} : m.tracked = some t → t.dirty = true →
      Told settings m [publication settings t] (m.change Tracked.published)

/-- What becomes of a pull request in a pass, with the views of it and the acknowledged statuses. -/
inductive Fate (setup : Setup) (consulted : RepoConfig → Prop) (held : Bool) (merged : Prop) :
    Member → List View → List CommitStatus → Member → Prop
  | gone {m} : Fate setup consulted held merged m [] [] .absent
  | left {m} : merged → Fate setup consulted held merged m [] [] m.dequeue
  | listed {config merge m} {entries : List PullRequest} : consulted config →
      config.merge = some merge → entries ≠ [] →
      Fate setup consulted held merged m (entries.map (.listed held)) []
        (entries.foldl (Member.absorb (setup.settings.effectiveQuery merge) held) m)
  | reviewed {m views m₁ acks m'} : Looked setup consulted held m views m₁ →
      Told setup.settings m₁ acks m' → Fate setup consulted held merged m views acks m'

@[simp] lemma Told.bucket {settings : Settings} {m m' : Member} {acks : List CommitStatus}
    (h : Told settings m acks m') : m'.bucket = m.bucket := by
  cases h <;> rfl

lemma Fate.past {consulted : RepoConfig → Prop} {held : Bool} {merged : Prop} (m : Member) :
    Fate setup consulted held merged m [] [] m :=
  .reviewed .past .quiet

namespace Visit

def settled (settings : Settings) (v : Visit) (id : UInt64) : Member :=
  (evaluationsOf settings id v.said).foldl (Member.settle ((poolOf v.before).inBatch id))
    ((poolOf v.before).member id)

def waiting (settings : Settings) (v : Visit) : List (UInt64 × Tracked) :=
  MergeQueue.waiting (fun id => (v.settled settings id).tracked) (poolOf v.before).ids

def showings (settings : Settings) (id : UInt64) (v : Visit) : List Publication :=
  match v.stage with
  | .statusSync => ((v.waiting settings).zip (publications v.said)).flatMap fun (w, p) =>
    if w.1 = id ∧ p.acknowledged then [p] else []
  | _ => []

def acknowledged (settings : Settings) (id : UInt64) (v : Visit) : List CommitStatus :=
  (v.showings settings id).map (·.status)

structure Completes (key : String) (v : Visit) : Prop where
  stage : v.stage = .statusSync
  config : ∃ queue config, v.before = some queue ∧ ⟨.getConfig queue.owner, .ok config⟩ ∈ v.said ∧
    config.merge.isSome
  quiet : ∀ e, ⟨.warn (.statusSync key e), ()⟩ ∉ v.said

structure Merges (id : UInt64) (v : Visit) : Prop where
  stage : v.stage = .merge
  next : id ∈ (poolOf v.before).mergeOrder
  accepted : ∃ n ∈ mergedIds v.said, (poolOf v.before).number? id = some n

end Visit

structure Evaluates (setup : Setup) (consulted : RepoConfig → Prop) (ids : List UInt64)
    (said : List Said) (es : List (UInt64 × Evaluation)) : Prop where
  order : (es.map (·.1)).Sublist ids
  of : ∀ id e, (id, e) ∈ es → ∃ config merge pr reports, consulted config ∧
    config.merge = some merge ∧
    e = .of (setup.settings.effectiveQuery merge) setup.settings.statusContext pr reports
  heard : ∀ id, evaluationsOf setup.settings id said = (es.filter fun e => e.1 = id).map (·.2)

lemma filter_waiting {record : UInt64 → Option Tracked} {ids : List UInt64} (hn : ids.Nodup)
    {id : UInt64} (hid : (record id).isSome → id ∈ ids) :
    (waiting record ids).filter (fun w => w.1 = id) =
      (((record id).filter (·.dirty)).map (id, ·)).toList := by
  rcases filter_key_of_nodup (hn.sublist (waiting_sublist record ids)) id with
    ⟨hnot, hnone⟩ | ⟨t, hin, hone⟩
  · cases hr : (record id).filter (·.dirty) with
    | none => exact hnone
    | some t =>
      obtain ⟨ht, hd⟩ := Option.filter_eq_some_iff.mp hr
      have hw := mem_waiting_iff.mpr ⟨hid (Option.isSome_of_mem ht), ht, hd⟩
      exact absurd (List.mem_map_of_mem hw) hnot
  · obtain ⟨_, ht, hd⟩ := mem_waiting_iff.mp hin
    rw [hone, Option.filter_eq_some_iff.mpr ⟨ht, hd⟩]
    rfl

lemma Evaluates.settled {consulted : RepoConfig → Prop} {queue : Queue} {ids : List UInt64}
    {said : List Said} {es : List (UInt64 × Evaluation)}
    (h : Evaluates setup consulted ids said es) (hs : queue.pool.Sound) (id : UInt64) :
    Visit.settled setup.settings ⟨some queue, .statusSync, said⟩ id =
      (queue.pool.settleAll es).member id := by
  rw [Pool.member_settleAll hs, ← h.heard]
  rfl

lemma Evaluates.looked {consulted : RepoConfig → Prop} {pool : Pool} {said : List Said}
    {es : List (UInt64 × Evaluation)}
    (h : Evaluates setup consulted pool.mergePool.ids said es) (hs : pool.Sound) (id : UInt64) :
    Looked setup consulted (pool.inBatch id) (pool.member id)
      ((evaluationsOf setup.settings id said).map (.evaluated (pool.inBatch id)))
      ((pool.settleAll es).member id) := by
  rw [Pool.member_settleAll hs, h.heard]
  rcases filter_key_of_nodup (pool.mergePool.ids_nodup.sublist h.order) id with
    ⟨_, hnone⟩ | ⟨e, hin, hone⟩
  · rw [hnone]
    exact .past
  · rw [hone]
    obtain ⟨config, merge, pr, reports, hc, hm, rfl⟩ := h.of id e hin
    have hids : id ∈ pool.mergePool.ids := h.order.subset (List.mem_map_of_mem hin)
    have hbucket : (pool.member id).bucket.isSome := (MergePool.mem_ids_iff _ _).mp hids
    exact .evaluated hc hm hbucket (hs.tracked id hbucket)

structure Reported (settings : Settings) (pool : Pool) (said : List Said) (pool' : Pool)
    (shown refused left : List (UInt64 × Tracked)) : Prop where
  sound : pool'.Sound
  batch : pool'.batch = pool.batch
  waiting : waiting pool.find? pool.ids = shown ++ refused ++ left
  member : ∀ id, pool'.member id = if id ∈ shown.map Prod.fst
    then (pool.member id).change Tracked.published else pool.member id
  asked : publications said =
    shown.map (·.2.attempt settings true) ++ refused.map (·.2.attempt settings false)

namespace Reported

variable {settings : Settings} {pool pool' : Pool} {said : List Said}
  {shown refused left : List (UInt64 × Tracked)}

lemma none (hs : pool.Sound) (hp : publications said = []) :
    Reported settings pool said pool [] [] (MergeQueue.waiting pool.find? pool.ids) :=
  ⟨hs, rfl, rfl, by simp, hp⟩

lemma nodup (h : Reported settings pool said pool' shown refused left) :
    (shown.map Prod.fst).Nodup := by
  have hn := pool.tracked.keys_nodup.sublist (waiting_sublist pool.find? pool.ids)
  rw [h.waiting, List.append_assoc, List.map_append] at hn
  exact (List.nodup_append.mp hn).1

lemma mem_shown (h : Reported settings pool said pool' shown refused left) {id : UInt64}
    {t : Tracked} (ht : (id, t) ∈ shown) : pool.find? id = some t ∧ t.dirty = true := by
  have hw : (id, t) ∈ MergeQueue.waiting pool.find? pool.ids := by
    rw [h.waiting]
    simp [ht]
  exact (mem_waiting_iff.mp hw).2

lemma showings (h : Reported settings pool said pool' shown refused left)
    {v : Visit} (hv : v.stage = .statusSync) (hsaid : v.said = said)
    (hw : v.waiting settings = MergeQueue.waiting pool.find? pool.ids) (id : UInt64) :
    v.showings settings id =
      (shown.filter fun w => w.1 = id).map (·.2.attempt settings true) := by
  have hzip (l : List (UInt64 × Tracked)) (acknowledged : Bool) :
      (l.zip (l.map (·.2.attempt settings acknowledged))).flatMap (fun (w, p) =>
        if w.1 = id ∧ p.acknowledged then [p] else []) =
      if acknowledged then (l.filter fun w => w.1 = id).map (·.2.attempt settings true)
      else [] := by
    induction l with
    | nil => cases acknowledged <;> rfl
    | cons w rest ih =>
      rw [List.map_cons, List.zip_cons_cons, List.flatMap_cons, ih]
      cases acknowledged <;> by_cases hw : w.1 = id <;> simp [hw, Tracked.attempt]
  rw [Visit.showings, hv, hsaid, hw, h.waiting, h.asked, List.append_assoc,
    List.zip_append (by simp), ← List.append_nil (refused.map _), List.zip_append (by simp)]
  dsimp only
  rw [List.flatMap_append, List.flatMap_append, hzip, hzip]
  simp

lemma acknowledged (h : Reported settings pool said pool' shown refused left)
    {v : Visit} (hv : v.stage = .statusSync) (hsaid : v.said = said)
    (hw : v.waiting settings = MergeQueue.waiting pool.find? pool.ids) (id : UInt64) :
    v.acknowledged settings id =
      (shown.filter fun w => w.1 = id).map fun w => publication settings w.2 := by
  rw [Visit.acknowledged, h.showings hv hsaid hw, List.map_map]
  rfl

lemma told (h : Reported settings pool said pool' shown refused left) (id : UInt64) :
    Told settings (pool.member id)
      ((shown.filter fun w => w.1 = id).map fun w => publication settings w.2)
      (pool'.member id) := by
  rw [h.member]
  rcases filter_key_of_nodup h.nodup id with ⟨hnot, hnone⟩ | ⟨t, hin, hone⟩
  · rw [hnone, if_neg hnot]
    exact .quiet
  · obtain ⟨ht, hdirty⟩ := h.mem_shown hin
    rw [hone, if_pos (List.mem_map_of_mem hin)]
    exact .shown ht hdirty

lemma published (h : Reported settings pool said pool' shown [] []) (id : UInt64) :
    shown.filter (fun w => w.1 = id) = (((pool.find? id).filter (·.dirty)).map (id, ·)).toList ∧
      pool'.find? id = (pool.find? id).map Tracked.published := by
  have hshown := h.waiting
  rw [List.append_nil, List.append_nil] at hshown
  have hfilter := filter_waiting pool.tracked.keys_nodup (pool.mem_ids_iff id).mpr
  change (MergeQueue.waiting pool.find? pool.ids).filter (fun w => w.1 = id) = _ at hfilter
  rw [hshown] at hfilter
  refine ⟨hfilter, ?_⟩
  have hmember : pool'.find? id = _ := congrArg Member.tracked (h.member id)
  rw [hmember]
  split
  · rfl
  · next hnot =>
    change pool.find? id = _
    cases ht : pool.find? id with
    | none => rfl
    | some t =>
      have hclean : t.dirty = false := by
        rw [Bool.eq_false_iff]
        intro hd
        have hw : (id, t) ∈ shown.filter fun w => w.1 = id := by
          rw [hfilter, ht]
          simp [hd]
        exact hnot (List.mem_map_of_mem (List.mem_filter.mp hw).1)
      simp [Tracked.published, ← hclean]

end Reported

lemma fetched_connect {config : RepoConfig} {l : List Said} {r : Except Error Connection}
    (h : (connect setup config).Course l r) : ∀ s ∈ l, s.fetched? = none := by
  intro s hs
  obtain ⟨c, reply, rfl⟩ := (connect_course h).1 s hs
  rfl

lemma listed_connect {config : RepoConfig} {l : List Said} {r : Except Error Connection}
    (h : (connect setup config).Course l r) : l.filterMap Said.listed? = [] :=
  filterMap_connect h fun _ _ => rfl

lemma fetched_noted {α : Type} (warning : Error → Warning) (r : Except Error α) :
    ∀ s ∈ noted warning r, s.fetched? = none := by
  cases r with
  | error e => exact List.forall_mem_singleton.mpr rfl
  | ok _ => simp [noted]

lemma evaluationsOf_quiet {settings : Settings} {id : UInt64} {l : List Said}
    (h : ∀ s ∈ l, s.fetched? = none) : evaluationsOf settings id l = [] := by
  rw [← List.append_nil l, evaluationsOf_append h]
  rfl

lemma Evaluates.none {consulted : RepoConfig → Prop} {ids : List UInt64} {said : List Said}
    (h : ∀ s ∈ said, s.fetched? = none) : Evaluates setup consulted ids said [] :=
  ⟨List.nil_sublist _, by simp, fun _ => evaluationsOf_quiet h⟩

lemma evaluateAll_evaluates {consulted : RepoConfig → Prop} {config : RepoConfig}
    {merge : MergeConfig} {c : Connection} {ids : List UInt64} {front l back : List Said}
    {es : List (UInt64 × Evaluation)} {r : Except Error Unit} (hc : consulted config)
    (hm : config.merge = some merge) (hconf : c.config = config)
    (he : (evaluateAll setup c (setup.settings.effectiveQuery merge) ids).Course l (es, r))
    (hfront : ∀ s ∈ front, s.fetched? = .none) (hback : ∀ s ∈ back, s.fetched? = .none) :
    Evaluates setup consulted ids (front ++ l ++ back) es := by
  obtain ⟨hsub, hof, hheard⟩ := (evaluateAll_course he).evaluations (hconf ▸ hm)
  refine ⟨hsub, fun id e hin => ?_, fun id => ?_⟩
  · obtain ⟨pr, reports, rfl⟩ := hof id e hin
    exact ⟨config, merge, pr, reports, hc, hm, rfl⟩
  · rw [List.append_assoc, evaluationsOf_append hfront, hheard, evaluationsOf_quiet hback,
      List.append_nil]

lemma Engine.Reviewed.reported {queue : Queue} {l : List Said} {pool : Pool}
    (h : Reviewed setup key queue l pool) (hs : queue.pool.Sound) :
    ∃ es shown refused left,
      Evaluates setup (Consulted setup key (some queue) l) queue.pool.mergePool.ids l es ∧
      Reported setup.settings (queue.pool.settleAll es) l pool shown refused left ∧
      (Visit.Completes key ⟨some queue, .statusSync, l⟩ →
        es.map (·.1) = queue.pool.mergePool.ids ∧ refused = [] ∧ left = []) := by
  have hwarned {e : Error} {front : List Said} {P : Prop}
      (hv : Visit.Completes key
        ⟨some queue, .statusSync, front ++ [⟨.warn (.statusSync key e), ()⟩]⟩) : P :=
    absurd (List.mem_append_right _ List.mem_cons_self) (hv.quiet e)
  cases h with
  | unread =>
    exact ⟨[], [], [], _, .none (by simp [Said.fetched?]), .none hs (by simp [Said.publication?]),
      fun hv => absurd (List.mem_cons_of_mem _ List.mem_cons_self) (hv.quiet _)⟩
  | off hm =>
    refine ⟨[], [], [], _, .none (by simp [Said.fetched?]), .none hs (by simp [Said.publication?]),
      fun hv => ?_⟩
    obtain ⟨_, _, ⟨⟩, hget, hmerge⟩ := hv.config
    cases List.mem_singleton.mp hget
    simp [hm] at hmerge
  | unconnected _ hc =>
    refine ⟨[], [], [], _, .none ?_, .none hs ?_, hwarned⟩
    · simpa [Said.fetched?, or_imp, forall_and] using fetched_connect hc
    · simp [Said.publication?, publications_connect hc]
  | @failed config merge lc c l' es e hm hc he =>
    refine ⟨es, [], [], _, ?_, .none (hs.settleAll es) ?_, hwarned⟩
    · exact evaluateAll_evaluates (.inr ⟨queue, rfl, by simp⟩) hm ((connect_course hc).2 c rfl) he
        (List.forall_mem_cons.mpr ⟨rfl, fetched_connect hc⟩) (List.forall_mem_singleton.mpr rfl)
    · simp [Said.publication?, publications_connect hc, evaluateAll_publications he]
  | @published config merge lc c l' es lp pool r hm hc he hp =>
    obtain ⟨shown, left, hpub⟩ := publish_course hp (hs.settleAll es) (SortedMap.keys_nodup _)
    have hquiet : ∀ s ∈ lp ++ noted (.statusSync key) r, Said.fetched? s = none := by
      intro s hs
      rcases List.mem_append.mp hs with hs | hs
      · obtain ⟨sha, status, reply, rfl⟩ := hpub.hosts s hs
        rfl
      · exact fetched_noted _ _ s hs
    refine ⟨es, shown, left.take 1, left.drop 1, ?_, ⟨hpub.sound, hpub.batch, ?_, hpub.member, ?_⟩,
      fun hv => ?_⟩
    · rw [List.append_assoc _ lp]
      exact evaluateAll_evaluates (.inr ⟨queue, rfl, by simp⟩) hm ((connect_course hc).2 c rfl) he
        (List.forall_mem_cons.mpr ⟨rfl, fetched_connect hc⟩) hquiet
    · rw [hpub.waiting, List.append_assoc, List.take_append_drop]
    · simp [Said.publication?, publications_connect hc, evaluateAll_publications he, hpub.asked]
    · cases r with
      | error e => exact hwarned hv
      | ok _ => simp [(evaluateAll_course he).all_of_ok, hpub.all.mp rfl]

lemma Evaluates.waiting {consulted : RepoConfig → Prop} {queue : Queue} {ids : List UInt64}
    {said : List Said} {es : List (UInt64 × Evaluation)}
    (h : Evaluates setup consulted ids said es) (hs : queue.pool.Sound) :
    Visit.waiting setup.settings ⟨some queue, .statusSync, said⟩ =
      MergeQueue.waiting (queue.pool.settleAll es).find? (queue.pool.settleAll es).ids := by
  rw [Pool.ids_settleAll]
  exact waiting_congr fun id _ => congrArg Member.tracked (h.settled hs id)

lemma Engine.Reviewed.step {queue : Queue} {l : List Said} {pool : Pool}
    (h : Reviewed setup key queue l pool) (hs : queue.pool.Sound) :
    pool.batch = queue.pool.batch ∧ pool.Sound ∧ ∀ id,
      Fate setup (Consulted setup key (some queue) l) (queue.pool.inBatch id)
        (Visit.Merges id ⟨some queue, .statusSync, l⟩) (queue.pool.member id)
        ((evaluationsOf setup.settings id l).map (.evaluated (queue.pool.inBatch id)))
        (Visit.acknowledged setup.settings id ⟨some queue, .statusSync, l⟩) (pool.member id) := by
  obtain ⟨es, shown, refused, left, hev, hrep, _⟩ := h.reported hs
  refine ⟨hrep.batch.trans (Pool.batch_settleAll _ _), hrep.sound, fun id => ?_⟩
  rw [hrep.acknowledged rfl rfl (hev.waiting hs)]
  exact .reviewed (hev.looked hs id) (hrep.told id)

lemma Engine.Refreshed.step {config : RepoConfig} {configs : List RepoConfig} {q q' : Option Queue}
    {l : List Said} (h : Refreshed setup key config q l q') (hs : (poolOf q).Sound)
    (hc : configFor setup configs key = some config) :
    (poolOf q').batch = (poolOf q).batch ∧ (poolOf q').Sound ∧ ∀ id,
      Fate setup (Consulted setup key q (⟨.listConfigs, .ok configs⟩ :: l)) ((poolOf q).inBatch id)
        (Visit.Merges id ⟨q, .poolSync, ⟨.listConfigs, .ok configs⟩ :: l⟩) ((poolOf q).member id)
        ((l.filterMap Said.listed?).flatMap fun listed =>
          (openEntries listed id).map (.listed ((poolOf q).inBatch id)))
        [] ((poolOf q').member id) := by
  have hgetD : (q.getD ⟨config.id, .empty⟩).pool = poolOf q := by cases q <;> rfl
  cases h with
  | unconnected hconn =>
    refine ⟨rfl, hs, fun id => ?_⟩
    rw [List.filterMap_append, listed_connect hconn]
    exact .past _
  | unlisted hconn =>
    have hpool : poolOf (some (q.getD ⟨config.id, .empty⟩)) = poolOf q := hgetD
    refine ⟨by rw [hpool], by rwa [hpool], fun id => ?_⟩
    rw [List.filterMap_append, listed_connect hconn, hpool]
    exact .past _
  | @listed l c merge listed hm hconn =>
    rw [hgetD]
    refine ⟨Pool.batch_absorb _ _ _, hs.absorb _ _, fun id => ?_⟩
    have hmember := Pool.member_absorb hs (setup.settings.effectiveQuery merge) listed id
    change Fate _ _ _ _ _ _ _ (((poolOf q).absorb _ listed).member id)
    rw [List.filterMap_append, listed_connect hconn, List.nil_append, hmember]
    change Fate _ _ _ _ _ ([listed].flatMap _) _ _
    rw [List.flatMap_singleton]
    split
    · next hn =>
      rw [hn]
      exact .gone
    · next hne => exact .listed (.inl ⟨configs, List.mem_cons_self, hc⟩) hm hne

lemma Engine.Merged.fate {queue : Queue} {l : List Said} {pool : Pool}
    (h : Merged setup key queue l pool) (hs : queue.pool.Sound) (id : UInt64)
    (consulted : RepoConfig → Prop) (held : Bool) :
    Fate setup consulted held (Visit.Merges id ⟨some queue, .merge, l⟩) (queue.pool.member id) [] []
      (pool.member id) := by
  obtain ⟨gone, hd, hsub⟩ := h.departed hs
  rw [hd.left.member]
  split
  · next hid =>
    obtain ⟨n, hn, hnumber⟩ : ∃ n ∈ mergedIds l, some n = queue.pool.number? id := by
      have hmem : queue.pool.number? id ∈ gone.map queue.pool.number? := List.mem_map_of_mem hid
      rw [← hd.merged] at hmem
      exact List.mem_map.mp hmem
    exact .left ⟨rfl, hsub.subset hid, n, hn, hnumber.symm⟩
  · exact .past _

lemma QueueStep.sound {stage : Stage} {q q' : Option Queue} {l : List Said}
    (h : QueueStep setup key stage q l q') (hs : (poolOf q).Sound) : (poolOf q').Sound := by
  cases h with
  | unlisted => exact hs
  | dropped => exact Pool.sound_empty
  | refreshed hc hr => exact (hr.step hs hc).2.1
  | passed => exact hs
  | reviewed hr => exact (hr.step hs).2.1
  | merged hm => exact (hm.rest hs).sound

lemma QueueStep.fate {stage : Stage} {q q' : Option Queue} {l : List Said}
    (h : QueueStep setup key stage q l q') (hs : (poolOf q).Sound) (id : UInt64) :
    Fate setup (Consulted setup key q l) ((poolOf q).inBatch id) (Visit.Merges id ⟨q, stage, l⟩)
      ((poolOf q).member id) (Visit.views setup.settings id ⟨q, stage, l⟩)
      (Visit.acknowledged setup.settings id ⟨q, stage, l⟩) ((poolOf q').member id) := by
  cases h with
  | unlisted => exact .past _
  | dropped =>
    have hm : (poolOf none).member id = .absent := Pool.member_empty id
    rw [hm]
    exact .gone
  | refreshed hc hr => exact (hr.step hs hc).2.2 id
  | @passed stage hne =>
    cases stage with
    | poolSync => exact absurd rfl hne
    | statusSync =>
      have hack : Visit.acknowledged setup.settings id ⟨none, .statusSync, []⟩ = [] := by
        simp [Visit.acknowledged, Visit.showings]
      rw [hack]
      exact .past _
    | merge => exact .past _
  | reviewed hr => exact (hr.step hs).2.2 id
  | merged hm => exact hm.fate hs id _ _

lemma QueueRun.sound_of {first q : Option Queue} {visits : List Visit}
    (h : QueueRun setup key first visits q) (hs : (poolOf first).Sound) : (poolOf q).Sound := by
  induction h with
  | start => exact hs
  | next _ hstep ih => exact hstep.sound ih

lemma QueueRun.sound {visits : List Visit} {q : Option Queue}
    (h : QueueRun setup key none visits q) : (poolOf q).Sound :=
  h.sound_of Pool.sound_empty

structure Member.Invariant (P : Member → Prop) : Prop where
  absent : P .absent
  dequeue {m : Member} : P m → P m.dequeue
  absorb {m : Member} (query : MergeQuery) (batched : Bool) (pr : PullRequest) :
    (m.bucket.isSome → m.tracked.isSome) → P m → P (m.absorb query batched pr)
  settle {m : Member} (batched : Bool) (query : MergeQuery) (own : String) (pr : PullRequest)
    (reports : List CommitStatus) :
    m.tracked.isSome → P m → P (m.settle batched (.of query own pr reports))
  published {m : Member} : P m → P (m.change Tracked.published)

section Invariants

variable {P : Member → Prop}

lemma Member.Invariant.foldl_absorb (inv : Member.Invariant P) (query : MergeQuery)
    (batched : Bool) (entries : List PullRequest) {m : Member}
    (ht : m.bucket.isSome → m.tracked.isSome) (hm : P m) :
    P (entries.foldl (Member.absorb query batched) m) := by
  induction entries generalizing m with
  | nil => exact hm
  | cons pr rest ih =>
    refine ih (fun _ => ?_) (inv.absorb query batched pr ht hm)
    obtain ⟨t, ht', _⟩ := tracked_absorb query batched m pr
    rw [ht']
    rfl

lemma Fate.keeps {consulted : RepoConfig → Prop} {held : Bool} {merged : Prop} {m m' : Member}
    {views : List View} {acks : List CommitStatus}
    (h : Fate setup consulted held merged m views acks m') (inv : Member.Invariant P)
    (ht : m.bucket.isSome → m.tracked.isSome) (hm : P m) : P m' := by
  cases h with
  | gone => exact inv.absent
  | left => exact inv.dequeue hm
  | listed => exact inv.foldl_absorb _ _ _ ht hm
  | @reviewed _ _ m₁ _ _ hlook htold =>
    have hsettled : P m₁ := by
      cases hlook with
      | past => exact hm
      | evaluated _ _ _ htracked => exact inv.settle _ _ _ _ _ htracked hm
    cases htold with
    | quiet => exact hsettled
    | shown => exact inv.published hsettled

lemma QueueRun.keeps {visits : List Visit} {q : Option Queue} (h : QueueRun setup key none visits q)
    (inv : Member.Invariant P) (id : UInt64) : P ((poolOf q).member id) := by
  induction h with
  | start =>
    have hm : (poolOf none).member id = .absent := Pool.member_empty id
    rw [hm]
    exact inv.absent
  | next hrun hstep ih => exact (hstep.fate hrun.sound id).keeps inv (hrun.sound.tracked id) ih

end Invariants

end MergeQueue
