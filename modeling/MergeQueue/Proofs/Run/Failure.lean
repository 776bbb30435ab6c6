import MergeQueue.Proofs.Run.Fate

namespace MergeQueue

open Engine Dialogue

variable {setup : Setup} {key : String}

def Warning.error? : Warning → Option Error
  | .listing e => some e
  | .poolSync _ e => some e
  | .statusSync _ e => some e
  | .mergePass _ e => some e
  | .mergeRejected _ _ e => some e
  | .jobVanished _ _ => none

namespace Said

def warned? : Said → Option Error
  | ⟨.warn w, _⟩ => w.error?
  | _ => none

def error? : Said → Option Error
  | ⟨.listConfigs, .error e⟩ => some e
  | ⟨.getConfig _, .error e⟩ => some e
  | ⟨.connect _, .error e⟩ => some e
  | ⟨.host _ _, .error e⟩ => some e
  | ⟨.createJob _, .error e⟩ => some e
  | ⟨.jobState _, .error e⟩ => some e
  | _ => none

end Said

def Replied (l : List Said) (e : Error) : Prop := ∃ s ∈ l, s.error? = some e

lemma Replied.mono {l l' : List Said} {e : Error} (h : Replied l e) (hsub : l ⊆ l') :
    Replied l' e := by
  obtain ⟨s, hs, he⟩ := h
  exact ⟨s, hsub hs, he⟩

structure Founded {α : Type} (l : List Said) (r : Except Error α) : Prop where
  result : ∀ i, r = .error (.internal i) → Replied l (.internal i)
  warned : ∀ s ∈ l, ∀ i, s.warned? = some (.internal i) → Replied l (.internal i)

namespace Founded

variable {α β : Type} {l l' : List Said} {r : Except Error α} {r' : Except Error β}

lemma nil (h : ∀ i, r ≠ .error (.internal i)) : Founded [] r :=
  ⟨fun i hr => absurd hr (h i), by simp⟩

lemma append (h : Founded l r) (h' : Founded l' r') : Founded (l ++ l') r' := by
  refine ⟨fun i hr => (h'.result i hr).mono (List.subset_append_right _ _), fun s hs i hi => ?_⟩
  rcases List.mem_append.mp hs with hs | hs
  · exact (h.warned s hs i hi).mono (List.subset_append_left _ _)
  · exact (h'.warned s hs i hi).mono (List.subset_append_right _ _)

lemma map (h : Founded l r) (f : α → β) : Founded l (r.map f) := by
  refine ⟨fun i hr => h.result i ?_, h.warned⟩
  cases r with
  | error e => exact congrArg Except.error (Except.error.inj hr)
  | ok a => cases hr

lemma ok (h : Founded l r) (b : β) : Founded l (Except.ok b) := ⟨by simp, h.warned⟩

lemma cons {s : Said} (h : Founded l r) (hs : s.warned? = none) : Founded (s :: l) r := by
  refine ⟨fun i hr => (h.result i hr).mono (List.subset_cons_self s l), fun s' hs' i hi => ?_⟩
  rcases List.mem_cons.mp hs' with rfl | hs'
  · rw [hs] at hi
    cases hi
  · exact (h.warned s' hs' i hi).mono (List.subset_cons_self s l)

lemma reply {s : Said} {e : Error} (hs : s.error? = some e) (hw : s.warned? = none) :
    Founded [s] (Except.error e : Except Error α) := by
  refine ⟨fun i hr => ⟨s, List.mem_singleton.mpr rfl, ?_⟩, fun s' hs' i hi => ?_⟩
  · cases hr
    exact hs
  · rw [List.mem_singleton.mp hs', hw] at hi
    cases hi

lemma warn {e : Error} (h : Founded l (Except.error e : Except Error α)) {w : Warning}
    (hw : w.error? = some e) :
    Founded (l ++ [⟨.warn w, ()⟩]) (Except.error e : Except Error α) := by
  refine ⟨fun i hr => (h.result i hr).mono (List.subset_append_left _ _), fun s hs i hi => ?_⟩
  rcases List.mem_append.mp hs with hs | hs
  · exact (h.warned s hs i hi).mono (List.subset_append_left _ _)
  · obtain rfl := List.mem_singleton.mp hs
    have he : e = .internal i := Option.some.inj (hw.symm.trans hi)
    exact (h.result i (congrArg Except.error he)).mono (List.subset_append_left _ _)

lemma noted {warning : Error → Warning} (h : Founded l r)
    (hw : ∀ e, (warning e).error? = some e) : Founded (l ++ Engine.noted warning r) r := by
  cases r with
  | error e => exact h.warn (hw e)
  | ok a =>
    rw [Engine.noted, List.append_nil]
    exact h

end Founded

namespace Engine

lemma connect_founded {config : RepoConfig} {l : List Said} {r : Except Error Connection}
    (h : (connect setup config).Course l r) : Founded l r := by
  rw [connect] at h
  split at h
  · obtain ⟨rfl, rfl⟩ := h
    exact .nil (by simp)
  · obtain ⟨reply, _, rfl, hr⟩ := h
    cases reply with
    | error e =>
      obtain ⟨rfl, rfl⟩ := hr
      exact .reply rfl rfl
    | ok _ =>
      obtain ⟨rfl, rfl⟩ := hr
      exact Founded.cons (.nil (by simp)) rfl

lemma Evaluated.founded {c : Connection} {query : MergeQuery} {id : UInt64} {l : List Said}
    {r : Except Error Evaluation} (h : Evaluated setup c query id l r) : Founded l r := by
  cases h with
  | unfetched => exact .reply rfl rfl
  | unreported => exact Founded.cons (.reply rfl rfl) rfl
  | reported => exact Founded.cons (Founded.cons (.nil (by simp)) rfl) rfl

lemma evaluateAll_founded {c : Connection} {query : MergeQuery} {ids : List UInt64}
    {l : List Said} {es : List (UInt64 × Evaluation)} {r : Except Error Unit}
    (h : (evaluateAll setup c query ids).Course l (es, r)) : Founded l r := by
  have hall := evaluateAll_course h
  clear h
  induction hall with
  | none => exact .nil (by simp)
  | failed he =>
    have hfirst := he.founded
    exact ⟨fun i hi => hfirst.result i (congrArg Except.error (Except.error.inj hi)), hfirst.warned⟩
  | next he _ ih => exact he.founded.append ih

lemma publish_founded {c : Connection} {ids : List UInt64} {pool pool' : Pool} {l : List Said}
    {r : Except Error Unit} (h : (publish setup c ids pool).Course l (pool', r)) : Founded l r := by
  induction ids generalizing pool l with
  | nil =>
    obtain ⟨rfl, ho⟩ := h
    cases ho
    exact .nil (by simp)
  | cons id rest ih =>
    rw [publish] at h
    split at h
    · exact ih h
    · obtain ⟨reply, l', rfl, hd⟩ := course_host_bind.mp h
      cases reply with
      | error e =>
        obtain ⟨rfl, ho⟩ := hd
        cases ho
        exact .reply rfl rfl
      | ok _ => exact (ih hd).cons rfl

lemma Refreshed.founded {config : RepoConfig} {q q' : Option Queue} {l : List Said}
    (h : Refreshed setup key config q l q') : Founded l (Except.ok ()) := by
  cases h with
  | unconnected hc => exact ((connect_founded hc).warn rfl).ok ()
  | @unlisted l c e hc =>
    have hlist : Founded [⟨.host c (.listPullRequests true), .error e⟩]
        (Except.error e : Except Error Unit) := .reply rfl rfl
    have hall := (connect_founded hc).append (hlist.warn (w := .poolSync key e) rfl)
    exact hall.ok ()
  | listed _ hc => exact (connect_founded hc).append (Founded.cons (.nil (by simp)) rfl)

lemma Reviewed.founded {queue : Queue} {l : List Said} {pool : Pool}
    (h : Reviewed setup key queue l pool) : Founded l (Except.ok ()) := by
  cases h with
  | @unread e =>
    have hget : Founded [⟨.getConfig queue.owner, .error e⟩] (Except.error e : Except Error Unit) :=
      .reply rfl rfl
    exact (hget.warn (w := .statusSync key e) rfl).ok ()
  | off => exact Founded.cons (.nil (by simp)) rfl
  | unconnected _ hc => exact (((connect_founded hc).cons rfl).warn rfl).ok ()
  | @failed config merge lc c l' es e _ hc he =>
    have hconn := (connect_founded hc).cons (s := ⟨.getConfig queue.owner, .ok config⟩) rfl
    exact ((hconn.append (evaluateAll_founded he)).warn rfl).ok ()
  | @published config merge lc c l' es lp pool r _ hc he hp =>
    have hconn := (connect_founded hc).cons (s := ⟨.getConfig queue.owner, .ok config⟩) rfl
    have hshown := (hconn.append (evaluateAll_founded he)).append (publish_founded hp)
    exact (hshown.noted fun _ => rfl).ok ()

lemma MergeAsked.founded {task : MergeTask} {pr : PullRequest} {sha : String} {l : List Said}
    {r : Except Error Unit} (h : MergeAsked setup task pr sha l r) : Founded l r := by
  cases h with
  | unrendered => exact .nil (by simp)
  | replied =>
    cases r with
    | error e => exact .reply rfl rfl
    | ok _ => exact Founded.cons (.nil (by simp)) rfl

lemma jobRequest_error {config : RepoConfig} {settings : Settings} {branch tip : String}
    {prs : List PullRequest} {e : Error}
    (h : config.jobRequest? settings branch tip prs = .error e) : e = .noApplicableJobs branch := by
  unfold RepoConfig.jobRequest? at h
  dsimp only at h
  split at h <;> cases h
  rfl

lemma JobAsked.founded {config : RepoConfig} {tip : String} {pool pool' : Pool} {l : List Said}
    {r : Except Error Unit} (h : JobAsked setup config tip pool l pool' r)
    (hb : pool.batch.isSome) : Founded l r := by
  cases h with
  | none hn => simp [hn] at hb
  | inapplicable _ hj => exact .nil (by simp [jobRequest_error hj])
  | refused => exact Founded.cons (.reply rfl rfl) rfl
  | created => exact Founded.cons (Founded.cons (.nil (by simp)) rfl) rfl

lemma Advanced.founded {c : Connection} {batch : Batch} {pool pool' : Pool} {l : List Said}
    {r : Except Error Bool} (h : Advanced setup key c batch pool l pool' r)
    (hb : pool.batch.isSome) : Founded l r := by
  cases h with
  | lost => exact .reply rfl rfl
  | asked _ ha => exact ((ha.founded hb).map _).cons rfl
  | vanished => exact Founded.cons (Founded.cons (.nil (by simp)) rfl) rfl
  | unpolled => exact .reply rfl rfl
  | completed => exact Founded.cons (.nil (by simp)) rfl
  | shrunk => exact Founded.cons (.nil (by simp)) rfl
  | waiting => exact Founded.cons (.nil (by simp)) rfl

def MergeState.result : MergeState → Except Error Unit
  | .ended r => r
  | _ => .ok ()

lemma result_goOn (task : MergeTask) {pool : Pool} {next : PullRequest}
    (hn : pool.batch.bind (·.pullRequests.head?) = some next) :
    (goOn task pool).2.result = .ok () := by
  obtain ⟨_, _, _, _, ⟨_, ho⟩ | ⟨_, ho⟩⟩ := goOn_cases task hn <;> rw [ho] <;> rfl

lemma Stepped.founded {task : MergeTask} {pool : Pool} {l : List Said}
    {out : Pool × MergeState} (h : Stepped setup key task pool l out) :
    Founded l out.2.result := by
  cases h with
  | empty => exact .nil (by simp [MergeState.result])
  | dropped hn => exact .nil (by simp [result_goOn task hn])
  | rejected _ _ _ ha => exact ha.founded.warn rfl
  | merged hn _ _ ha =>
    rw [result_goOn task (head?_dequeue hn _)]
    exact ha.founded

lemma Oldest.founded {task : MergeTask} {pool pool' : Pool} {l : List Said}
    {r : Except Error Unit} (h : Oldest setup task pool l pool' r) (hs : pool.Sound) :
    Founded l r := by
  cases h with
  | idle => exact .nil (by simp)
  | @untracked first hf hn =>
    have hbucket := (MergePool.mem_bucket_iff hs.disjoint _ _).mp (List.mem_of_mem_head? hf)
    have htracked : (pool.find? first).isSome := hs.tracked first (by simp [Pool.member, hbucket])
    simp [hn] at htracked
  | lost => exact .reply rfl rfl
  | rejected _ _ _ ha => exact ha.founded.cons rfl
  | merged _ _ _ ha => exact ha.founded.cons rfl
  | batched _ _ _ ha => exact (ha.founded rfl).cons rfl

lemma Started.founded {queue : Queue} {l : List Said} {out : Pool × MergeState}
    (h : Started setup key queue l out) (hs : queue.pool.Sound) : Founded l out.2.result := by
  cases h with
  | unread => exact .reply rfl rfl
  | off => exact Founded.cons (.nil (by simp [MergeState.result])) rfl
  | unconnected _ hc =>
    have hconn := (connect_founded hc).map fun _ => ()
    exact hconn.cons rfl
  | direct _ hc _ ho => exact ((connect_founded hc).cons rfl).append (ho.founded hs)
  | held _ hc hb ha _ =>
    exact ((connect_founded hc).cons rfl).append ((ha.founded (by simp [hb])).map _)
  | tested _ hc _ _ hst => exact ((connect_founded hc).cons rfl).append (hst.founded.cons rfl)

lemma Finished.founded {out : Pool × MergeState} {l : List Said} {pool : Pool}
    {r : Except Error Unit} (h : Finished setup key out l pool r) {front : List Said}
    (hfront : Founded front out.2.result) : Founded (front ++ l) r := by
  induction h generalizing front with
  | ended =>
    rw [List.append_nil]
    exact hfront
  | paused hst _ ih =>
    rw [← List.append_assoc]
    exact ih (hfront.append hst.founded)

lemma Merged.founded {queue : Queue} {l : List Said} {pool : Pool}
    (h : Merged setup key queue l pool) (hs : queue.pool.Sound) : Founded l (Except.ok ()) := by
  obtain ⟨l, out, l', r, hstart, hfin, rfl⟩ := h
  exact ((hfin.founded (hstart.founded hs)).noted fun _ => rfl).ok ()

end Engine

lemma QueueStep.founded {stage : Stage} {q q' : Option Queue} {l : List Said}
    (h : QueueStep setup key stage q l q') (hs : (poolOf q).Sound) : Founded l (Except.ok ()) := by
  cases h with
  | unlisted => exact Founded.cons (.nil (by simp)) rfl
  | dropped => exact Founded.cons (.nil (by simp)) rfl
  | refreshed _ hr => exact hr.founded.cons rfl
  | passed => exact .nil (by simp)
  | reviewed hr => exact hr.founded
  | merged hm => exact hm.founded hs

lemma mem_heard_exists {log : List Exchange} {s : Said} (h : s ∈ log.map Exchange.said) :
    ∃ key, s ∈ heard key log := by
  obtain ⟨e, he, rfl⟩ := List.mem_map.mp h
  cases hk : e.1.key with
  | none => exact ⟨"", List.mem_filterMap.mpr ⟨e, he, by simp [hk]⟩⟩
  | some key => exact ⟨key, mem_heard he hk⟩

lemma pass_founded {turns : List Turn} {table table' : Table} {stage : Stage}
    {log : List Exchange} (run : Run setup ∅ turns table)
    (h : (stage.pass setup table).Course log table') :
    ∀ s ∈ log.map Exchange.said, ∀ i, s.warned? = some (.internal i) →
      Replied (log.map Exchange.said) (.internal i) := by
  intro s hs i hi
  obtain ⟨key, hheard⟩ := mem_heard_exists hs
  have hfounded := (pass_course h key).founded (run.queue key).sound
  obtain ⟨s', hs', herror⟩ := hfounded.warned s hheard i hi
  obtain ⟨e, he, rfl⟩ := mem_of_mem_heard hs'
  exact ⟨_, List.mem_map_of_mem he, herror⟩

end MergeQueue
