import MergeQueue.Engine.StatusSync
import MergeQueue.Proofs.Pool.Evaluation
import MergeQueue.Proofs.Run.PoolPass

namespace MergeQueue

lemma find?_setPool (table : Table) (key : String) (pool : Pool) (k : String) :
    (table.setPool key pool).find? k =
      if k = key then (table.find? key).map ({ · with pool }) else table.find? k :=
  SortedMap.find?_modify table key _ k

/-- An attempt to show a status on a commit, which the host has acknowledged or refused. -/
structure Publication where
  sha : String
  status : CommitStatus
  acknowledged : Bool
  deriving DecidableEq

def Said.publication? : Said → Option Publication
  | ⟨.host _ (.setCommitStatus sha status), .ok _⟩ => some ⟨sha, status, true⟩
  | ⟨.host _ (.setCommitStatus sha status), .error _⟩ => some ⟨sha, status, false⟩
  | _ => none

def publications (said : List Said) : List Publication := said.filterMap Said.publication?

@[simp] lemma publications_nil : publications [] = [] := rfl

@[simp] lemma publications_append (front back : List Said) :
    publications (front ++ back) = publications front ++ publications back := List.filterMap_append

@[simp] lemma publications_cons (s : Said) (rest : List Said) :
    publications (s :: rest) = s.publication?.toList ++ publications rest := by
  cases h : s.publication? <;> simp [publications, h]

def Tracked.attempt (settings : Settings) (acknowledged : Bool) (t : Tracked) : Publication :=
  ⟨t.pullRequest.head.sha, Engine.publication settings t, acknowledged⟩

def waiting (record : UInt64 → Option Tracked) (ids : List UInt64) : List (UInt64 × Tracked) :=
  ids.flatMap fun id => (((record id).filter (·.dirty)).map (id, ·)).toList

lemma waiting_cons (record : UInt64 → Option Tracked) (id : UInt64) (rest : List UInt64) :
    waiting record (id :: rest) =
      (((record id).filter (·.dirty)).map (id, ·)).toList ++ waiting record rest :=
  List.flatMap_cons

lemma waiting_congr {record record' : UInt64 → Option Tracked} {ids : List UInt64}
    (h : ∀ id ∈ ids, record id = record' id) : waiting record ids = waiting record' ids := by
  simp only [waiting, List.flatMap]
  congr 1
  exact List.map_congr_left fun id hid => by rw [h id hid]

lemma mem_waiting_iff {record : UInt64 → Option Tracked} {ids : List UInt64} {id : UInt64}
    {t : Tracked} : (id, t) ∈ waiting record ids ↔ id ∈ ids ∧ record id = some t ∧ t.dirty = true := by
  simp only [waiting, List.mem_flatMap, Option.mem_toList, Option.map_eq_some_iff,
    Option.filter_eq_some_iff, Prod.mk.injEq]
  constructor
  · rintro ⟨_, hid, _, ⟨ht, hd⟩, rfl, rfl⟩
    exact ⟨hid, ht, hd⟩
  · rintro ⟨hid, ht, hd⟩
    exact ⟨id, hid, t, ⟨ht, hd⟩, rfl, rfl⟩

lemma waiting_sublist (record : UInt64 → Option Tracked) (ids : List UInt64) :
    ((waiting record ids).map Prod.fst).Sublist ids := by
  induction ids with
  | nil => exact .refl _
  | cons id rest ih =>
    rw [waiting_cons, List.map_append]
    cases (record id).filter (·.dirty) with
    | none => exact ih.cons _
    | some t => exact ih.cons_cons _

@[simp] lemma Member.published_published (m : Member) :
    (m.change Tracked.published).change Tracked.published = m.change Tracked.published := by
  cases h : m.tracked <;> simp [change, Tracked.published, h]

namespace Engine

open Dialogue

variable {setup : Setup}

def noted {α : Type} (warning : Error → Warning) : Except Error α → List Said
  | .error e => [⟨.warn (warning e), ()⟩]
  | .ok _ => []

@[simp] lemma publications_noted {α : Type} (warning : Error → Warning) (r : Except Error α) :
    publications (noted warning r) = [] := by
  cases r <;> rfl

lemma publications_connect {config : RepoConfig} {l : List Said} {r : Except Error Connection}
    (h : (connect setup config).Course l r) : publications l = [] :=
  filterMap_connect h fun _ _ => rfl

inductive Reviewed (setup : Setup) (key : String) (queue : Queue) : List Said → Pool → Prop
  | unread {e} : Reviewed setup key queue
      [⟨.getConfig queue.owner, .error e⟩, ⟨.warn (.statusSync key e), ()⟩] queue.pool
  | off {config : RepoConfig} : config.merge = none →
      Reviewed setup key queue [⟨.getConfig queue.owner, .ok config⟩] queue.pool
  | unconnected {config : RepoConfig} {merge l e} : config.merge = some merge →
      (connect setup config).Course l (.error e) →
      Reviewed setup key queue
        (⟨.getConfig queue.owner, .ok config⟩ :: l ++ [⟨.warn (.statusSync key e), ()⟩]) queue.pool
  | failed {config : RepoConfig} {merge l c l' evaluations e} : config.merge = some merge →
      (connect setup config).Course l (.ok c) →
      (evaluateAll setup c (setup.settings.effectiveQuery merge) queue.pool.mergePool.ids).Course l'
        (evaluations, .error e) →
      Reviewed setup key queue
        (⟨.getConfig queue.owner, .ok config⟩ :: l ++ l' ++ [⟨.warn (.statusSync key e), ()⟩])
        (queue.pool.settleAll evaluations)
  | published {config : RepoConfig} {merge l c l' evaluations l'' pool r} :
      config.merge = some merge → (connect setup config).Course l (.ok c) →
      (evaluateAll setup c (setup.settings.effectiveQuery merge) queue.pool.mergePool.ids).Course l'
        (evaluations, .ok ()) →
      (publish setup c (queue.pool.settleAll evaluations).ids
        (queue.pool.settleAll evaluations)).Course l'' (pool, r) →
      Reviewed setup key queue
        (⟨.getConfig queue.owner, .ok config⟩ :: l ++ l' ++ l'' ++ noted (.statusSync key) r) pool

inductive Evaluated (setup : Setup) (c : Connection) (query : MergeQuery) (id : UInt64) :
    List Said → Except Error Evaluation → Prop
  | unfetched {e} :
      Evaluated setup c query id [⟨.host c (.getPullRequest id), .error e⟩] (.error e)
  | unreported {pr : PullRequest} {e} : Evaluated setup c query id
      [⟨.host c (.getPullRequest id), .ok pr⟩,
        ⟨.host c (.listCommitStatuses pr.head.sha), .error e⟩] (.error e)
  | reported {pr : PullRequest} {reports : List CommitStatus} : Evaluated setup c query id
      [⟨.host c (.getPullRequest id), .ok pr⟩,
        ⟨.host c (.listCommitStatuses pr.head.sha), .ok reports⟩]
      (.ok (.of query setup.settings.statusContext pr reports))

lemma evaluate_course {c : Connection} {query : MergeQuery} {id : UInt64} {l : List Said}
    {r : Except Error Evaluation} (h : (evaluate setup c query id).Course l r) :
    Evaluated setup c query id l r := by
  obtain ⟨fetched, _, rfl, hf⟩ := course_host_bind.mp h
  cases fetched with
  | error e =>
    obtain ⟨rfl, rfl⟩ := hf
    exact .unfetched
  | ok pr =>
    obtain ⟨reported, _, rfl, hr⟩ := course_host_bind.mp hf
    cases reported with
    | error e =>
      obtain ⟨rfl, rfl⟩ := hr
      exact .unreported
    | ok reports =>
      obtain ⟨rfl, rfl⟩ := hr
      exact .reported

inductive EvaluatedAll (setup : Setup) (c : Connection) (query : MergeQuery) :
    List UInt64 → List Said → List (UInt64 × Evaluation) → Except Error Unit → Prop
  | none : EvaluatedAll setup c query [] [] [] (.ok ())
  | failed {id rest l e} : Evaluated setup c query id l (.error e) →
      EvaluatedAll setup c query (id :: rest) l [] (.error e)
  | next {id rest l e l' es r} : Evaluated setup c query id l (.ok e) →
      EvaluatedAll setup c query rest l' es r →
      EvaluatedAll setup c query (id :: rest) (l ++ l') ((id, e) :: es) r

lemma evaluateAll_course {c : Connection} {query : MergeQuery} {ids : List UInt64}
    {l : List Said} {es : List (UInt64 × Evaluation)} {r : Except Error Unit}
    (h : (evaluateAll setup c query ids).Course l (es, r)) :
    EvaluatedAll setup c query ids l es r := by
  induction ids generalizing l es r with
  | nil =>
    obtain ⟨rfl, ho⟩ := h
    cases ho
    exact .none
  | cons id rest ih =>
    obtain ⟨front, reply, back, rfl, he, hd⟩ := (course_bind _ _ _ _).mp h
    have hfirst := evaluate_course he
    cases reply with
    | error e =>
      obtain ⟨rfl, ho⟩ := hd
      cases ho
      rw [List.append_nil]
      exact .failed hfirst
    | ok evaluation =>
      obtain ⟨l, ⟨es', r'⟩, _, rfl, hl, rfl, ho⟩ := (course_bind _ _ _ _).mp hd
      cases ho
      rw [List.append_nil]
      exact .next hfirst (ih hl)

lemma EvaluatedAll.all_of_ok {c : Connection} {query : MergeQuery} {ids : List UInt64}
    {l : List Said} {es : List (UInt64 × Evaluation)}
    (h : EvaluatedAll setup c query ids l es (.ok ())) : es.map (·.1) = ids := by
  generalize hr : (Except.ok () : Except Error Unit) = r at h
  induction h with
  | none => rfl
  | failed => cases hr
  | next _ _ ih => rw [List.map_cons, ih hr]

lemma evaluateAll_forall {P : Said → Prop} {c : Connection} {query : MergeQuery}
    {ids : List UInt64} {l : List Said} {es : List (UInt64 × Evaluation)} {r : Except Error Unit}
    (h : (evaluateAll setup c query ids).Course l (es, r))
    (hfetch : ∀ id reply, P ⟨.host c (.getPullRequest id), reply⟩)
    (hstatuses : ∀ sha reply, P ⟨.host c (.listCommitStatuses sha), reply⟩) : ∀ s ∈ l, P s := by
  have hone {id : UInt64} {l : List Said} {r : Except Error Evaluation}
      (he : Evaluated setup c query id l r) : ∀ s ∈ l, P s := by
    cases he <;> simp [hfetch, hstatuses]
  have hall := evaluateAll_course h
  clear h
  induction hall with
  | none => simp
  | failed he => exact hone he
  | next he _ ih => exact List.forall_mem_append.mpr ⟨hone he, ih⟩

lemma evaluateAll_publications {c : Connection} {query : MergeQuery} {ids : List UInt64}
    {l : List Said} {es : List (UInt64 × Evaluation)} {r : Except Error Unit}
    (h : (evaluateAll setup c query ids).Course l (es, r)) : publications l = [] :=
  List.filterMap_eq_nil_iff.mpr (evaluateAll_forall h (fun _ _ => rfl) fun _ _ => rfl)

def shown (settings : Settings) (c : Connection) (t : Tracked) (reply : Except Error Unit) : Said :=
  ⟨.host c (.setCommitStatus t.pullRequest.head.sha (publication settings t)), reply⟩

structure Published (settings : Settings) (c : Connection) (ids : List UInt64) (pool : Pool)
    (said : List Said) (pool' : Pool) (r : Except Error Unit)
    (front left : List (UInt64 × Tracked)) : Prop where
  sound : pool'.Sound
  batch : pool'.batch = pool.batch
  tracked : pool'.ids = pool.ids
  waiting : waiting pool.find? ids = front ++ left
  member : ∀ id, pool'.member id = if id ∈ front.map Prod.fst
    then (pool.member id).change Tracked.published else pool.member id
  said : said = front.map (fun w => shown settings c w.2 (.ok ())) ++
    (left.take 1).map fun w => shown settings c w.2 r
  all : r = .ok () ↔ left = []

lemma publish_course {c : Connection} {ids : List UInt64} {pool pool' : Pool} {l : List Said}
    {r : Except Error Unit} (h : (publish setup c ids pool).Course l (pool', r))
    (hs : pool.Sound) (hn : ids.Nodup) :
    ∃ front left, Published setup.settings c ids pool l pool' r front left := by
  induction ids generalizing pool l with
  | nil =>
    obtain ⟨rfl, ho⟩ := h
    cases ho
    exact ⟨[], [], hs, rfl, rfl, rfl, by simp, rfl, by simp⟩
  | cons id rest ih =>
    obtain ⟨hnot, hn⟩ := List.nodup_cons.mp hn
    rw [publish] at h
    split at h
    · next hclean =>
      obtain ⟨front, left, hp⟩ := ih h hs hn
      exact ⟨front, left, { hp with waiting := by rw [waiting_cons, hclean, hp.waiting]; rfl }⟩
    · next t hdirty =>
      obtain ⟨reply, l', rfl, hd⟩ := course_host_bind.mp h
      cases reply with
      | error e =>
        obtain ⟨rfl, ho⟩ := hd
        cases ho
        refine ⟨[], (id, t) :: waiting pool'.find? rest, hs, rfl, rfl, ?_, by simp, rfl, by simp⟩
        rw [waiting_cons, hdirty]
        rfl
      | ok _ =>
        obtain ⟨front, left, hp⟩ := ih hd (hs.modify id _) hn
        have hrest : waiting (pool.modify id Tracked.published).find? rest =
            waiting pool.find? rest := by
          refine waiting_congr fun k hk => ?_
          have hne : k ≠ id := fun he => hnot (he ▸ hk)
          exact congrArg Member.tracked ((Pool.member_modify pool id _ k).trans (if_neg hne))
        refine ⟨(id, t) :: front, left, hp.sound, hp.batch,
          hp.tracked.trans (SortedMap.keys_modify _ _ _), ?_, fun k => ?_, ?_, hp.all⟩
        · rw [waiting_cons, hdirty, ← hrest, hp.waiting]
          rfl
        · rw [hp.member, Pool.member_modify]
          by_cases hk : k = id
          · simp only [List.map_cons, List.mem_cons, hk, true_or, if_true]
            split <;> simp
          · simp only [List.map_cons, List.mem_cons, hk, false_or, if_false]
        · rw [hp.said]
          rfl

namespace Published

variable {settings : Settings} {c : Connection} {ids : List UInt64} {pool pool' : Pool}
  {said : List Said} {r : Except Error Unit} {front left : List (UInt64 × Tracked)}

lemma hosts (h : Published settings c ids pool said pool' r front left) :
    ∀ s ∈ said, ∃ sha status reply, s = ⟨.host c (.setCommitStatus sha status), reply⟩ := by
  rw [h.said]
  refine List.forall_mem_append.mpr ⟨fun s hs => ?_, fun s hs => ?_⟩
  all_goals
    obtain ⟨w, _, rfl⟩ := List.mem_map.mp hs
    exact ⟨_, _, _, rfl⟩

lemma asked (h : Published settings c ids pool said pool' r front left) :
    publications said =
      front.map (·.2.attempt settings true) ++ (left.take 1).map (·.2.attempt settings false) := by
  have hfront (l : List (UInt64 × Tracked)) :
      publications (l.map fun w => shown settings c w.2 (.ok ())) =
        l.map (·.2.attempt settings true) := by
    induction l with
    | nil => rfl
    | cons w rest ih =>
      rw [List.map_cons, publications_cons, ih]
      rfl
  have hleft : publications ((left.take 1).map fun w => shown settings c w.2 r) =
      (left.take 1).map (·.2.attempt settings false) := by
    cases r with
    | error e => cases left <;> rfl
    | ok _ => rw [h.all.mp rfl]; rfl
  rw [h.said, publications_append, hfront, hleft]

end Published

inductive Attempted (setup : Setup) (queue : Queue) :
    List Said → Pool → Except Error Unit → Prop
  | unread {e} :
      Attempted setup queue [⟨.getConfig queue.owner, .error e⟩] queue.pool (.error e)
  | off {config : RepoConfig} : config.merge = none →
      Attempted setup queue [⟨.getConfig queue.owner, .ok config⟩] queue.pool (.ok ())
  | unconnected {config : RepoConfig} {merge l e} : config.merge = some merge →
      (connect setup config).Course l (.error e) →
      Attempted setup queue (⟨.getConfig queue.owner, .ok config⟩ :: l) queue.pool (.error e)
  | failed {config : RepoConfig} {merge l c l' evaluations e} : config.merge = some merge →
      (connect setup config).Course l (.ok c) →
      (evaluateAll setup c (setup.settings.effectiveQuery merge) queue.pool.mergePool.ids).Course l'
        (evaluations, .error e) →
      Attempted setup queue (⟨.getConfig queue.owner, .ok config⟩ :: l ++ l')
        (queue.pool.settleAll evaluations) (.error e)
  | published {config : RepoConfig} {merge l c l' evaluations l'' pool r} :
      config.merge = some merge → (connect setup config).Course l (.ok c) →
      (evaluateAll setup c (setup.settings.effectiveQuery merge) queue.pool.mergePool.ids).Course l'
        (evaluations, .ok ()) →
      (publish setup c (queue.pool.settleAll evaluations).ids
        (queue.pool.settleAll evaluations)).Course l'' (pool, r) →
      Attempted setup queue (⟨.getConfig queue.owner, .ok config⟩ :: l ++ l' ++ l'') pool r

lemma syncStatus_course {queue : Queue} {l : List Said} {pool : Pool} {r : Except Error Unit}
    (h : (syncStatus setup queue).Course l (pool, r)) : Attempted setup queue l pool r := by
  obtain ⟨reply, rest, rfl, hd⟩ := course_ask_bind.mp h
  cases reply with
  | error e =>
    obtain ⟨rfl, hr⟩ := hd
    cases hr
    exact .unread
  | ok config =>
    cases hm : config.merge with
    | none =>
      simp only [hm] at hd
      obtain ⟨rfl, hr⟩ := hd
      cases hr
      exact .off hm
    | some merge =>
      simp only [hm] at hd
      obtain ⟨l, r₁, rest, rfl, hc, hd'⟩ := (course_bind _ _ _ _).mp hd
      cases r₁ with
      | error e =>
        obtain ⟨rfl, hr⟩ := hd'
        cases hr
        rw [List.append_nil]
        exact .unconnected hm hc
      | ok c =>
        obtain ⟨l', ⟨evaluations, r₂⟩, rest, rfl, he, hp⟩ := (course_bind _ _ _ _).mp hd'
        rw [← List.cons_append, ← List.append_assoc]
        cases r₂ with
        | error e =>
          obtain ⟨rfl, hr⟩ := hp
          cases hr
          rw [List.append_nil]
          exact .failed hm hc he
        | ok _ => exact .published hm hc he hp

lemma visitStatus_course {key : String} {queue : Queue} {l : List Said} {pool : Pool}
    (h : (visitStatus setup key queue).Course l pool) : Reviewed setup key queue l pool := by
  obtain ⟨l, ⟨pool₁, result⟩, last, rfl, hs, hw⟩ := (course_bind _ _ _ _).mp h
  have hlast : last = noted (.statusSync key) result ∧ pool = pool₁ := by
    cases result with
    | error e =>
      obtain ⟨_, _, rfl, rfl, rfl⟩ := hw
      exact ⟨rfl, rfl⟩
    | ok _ =>
      obtain ⟨rfl, rfl⟩ := hw
      exact ⟨rfl, rfl⟩
  obtain ⟨rfl, rfl⟩ := hlast
  cases syncStatus_course hs with
  | unread => exact .unread
  | off hm => exact .off hm
  | unconnected hm hc => exact .unconnected hm hc
  | failed hm hc he => exact .failed hm hc he
  | published hm hc he hp => exact .published hm hc he hp

lemma syncStatusesOf_course {keys : List String} {table table' : Table} {log : List Exchange}
    (h : (syncStatusesOf setup keys table).Course log table') (hk : keys.Nodup) (key : String) :
    (key ∉ keys ∨ table.find? key = none →
      heard key log = [] ∧ table'.find? key = table.find? key) ∧
    (∀ queue, key ∈ keys → table.find? key = some queue →
      ∃ pool, Reviewed setup key queue (heard key log) pool ∧
        table'.find? key = some { queue with pool }) := by
  induction keys generalizing table log with
  | nil =>
    obtain ⟨rfl, rfl⟩ := h
    simp
  | cons k rest ih =>
    obtain ⟨hnot, hk⟩ := List.nodup_cons.mp hk
    rw [syncStatusesOf] at h
    cases hq : table.find? k with
    | none =>
      simp only [hq] at h
      obtain ⟨hnone, hsome⟩ := ih h hk
      refine ⟨fun hor => hnone ?_, fun queue hmem hf => hsome queue ?_ hf⟩
      · simp only [List.mem_cons, not_or] at hor
        exact hor.imp (·.2) id
      · apply (List.mem_cons.mp hmem).resolve_left
        rintro rfl
        simp [hq] at hf
    | some queue =>
      simp only [hq] at h
      obtain ⟨l, pool, back, rfl, hv, hs⟩ := course_about_bind.mp h
      obtain ⟨hnone, hsome⟩ := ih hs hk
      by_cases hkey : key = k
      · subst hkey
        obtain ⟨hh, ht⟩ := hnone (.inl hnot)
        rw [heard_append, heard_own, hh, ht, find?_setPool, if_pos rfl, hq, List.append_nil]
        refine ⟨fun hor => ?_, ?_⟩
        · simp at hor
        · rintro _ _ ⟨⟩
          exact ⟨pool, visitStatus_course hv, rfl⟩
      · rw [find?_setPool, if_neg hkey] at hnone hsome
        rw [heard_append, heard_other (Ne.symm hkey), List.nil_append]
        refine ⟨fun hor => hnone ?_, fun queue' hmem hf => hsome queue' ?_ hf⟩
        · simp only [List.mem_cons, not_or] at hor
          exact hor.imp (·.2) id
        · exact (List.mem_cons.mp hmem).resolve_left hkey

lemma statusPass_course {table table' : Table} {log : List Exchange}
    (h : (statusPass setup table).Course log table') (key : String) :
    (table.find? key = none → heard key log = [] ∧ table'.find? key = none) ∧
    ∀ queue, table.find? key = some queue → ∃ pool,
      Reviewed setup key queue (heard key log) pool ∧
        table'.find? key = some { queue with pool } := by
  obtain ⟨hnone, hsome⟩ := syncStatusesOf_course h table.keys_nodup key
  refine ⟨fun hf => ?_, fun queue hf => hsome queue ?_ hf⟩
  · rw [← hf]
    exact hnone (.inr hf)
  · rw [← SortedMap.find?_isSome_iff, hf]
    rfl

end Engine

end MergeQueue
