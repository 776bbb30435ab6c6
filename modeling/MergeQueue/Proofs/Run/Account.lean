import MergeQueue.Proofs.Run.Fate

namespace MergeQueue

open Engine Dialogue

variable {setup : Setup} {key : String}

inductive MemberStep (setup : Setup) (consulted : RepoConfig → Prop) (held : Bool) :
    Member → List View → Member → Prop
  | kept {m m'} : m.Kept m' → MemberStep setup consulted held m [] m'
  | gone {m} : MemberStep setup consulted held m [] .absent
  | listed {config merge m} {entries : List PullRequest} : consulted config →
      config.merge = some merge → entries ≠ [] →
      MemberStep setup consulted held m (entries.map (.listed held))
        (entries.foldl (Member.absorb (setup.settings.effectiveQuery merge) held) m)
  | evaluated {config merge m m' pr reports} : consulted config → config.merge = some merge →
      m.bucket.isSome → m.tracked.isSome →
      (m.settle held (.of (setup.settings.effectiveQuery merge) setup.settings.statusContext pr
        reports)).Kept m' →
      MemberStep setup consulted held m [.evaluated held (.of
        (setup.settings.effectiveQuery merge) setup.settings.statusContext pr reports)] m'

lemma Told.kept {settings : Settings} {m m' : Member} {acks : List CommitStatus}
    (h : Told settings m acks m') : m.Kept m' := by
  cases h with
  | quiet => exact .refl m
  | shown ht => exact ⟨by simp [Member.change, ht, Tracked.published], .inl rfl⟩

lemma Fate.step {consulted : RepoConfig → Prop} {held : Bool} {merged : Prop} {m m' : Member}
    {views : List View} {acks : List CommitStatus}
    (h : Fate setup consulted held merged m views acks m') :
    MemberStep setup consulted held m views m' := by
  cases h with
  | gone => exact .gone
  | left => exact .kept (.dequeue m)
  | listed hc hm hne => exact .listed hc hm hne
  | reviewed hlook htold =>
    cases hlook with
    | past => exact .kept htold.kept
    | evaluated hc hm hb ht => exact .evaluated hc hm hb ht htold.kept

lemma QueueStep.member {stage : Stage} {q q' : Option Queue} {l : List Said}
    (h : QueueStep setup key stage q l q') (hs : (poolOf q).Sound) (id : UInt64) :
    MemberStep setup (Consulted setup key q l) ((poolOf q).inBatch id) ((poolOf q).member id)
      (Visit.views setup.settings id ⟨q, stage, l⟩) ((poolOf q').member id) :=
  (h.fate hs id).step

structure Account (views : List View) (m : Member) : Prop where
  shown : ∀ t, m.tracked = some t → ∃ v, views.getLast? = some v ∧ v.pullRequest = t.pullRequest
  passed : m.bucket = some .success → ∃ before held e later,
    views = before ++ .evaluated held e :: later ∧ e.verdict.passed = true ∧
      ∀ v ∈ later, ∃ held pr, v = .listed held pr

lemma Account.kept {views : List View} {m m' : Member} (h : Account views m) (hk : m.Kept m') :
    Account views m' := by
  refine ⟨fun t' ht' => ?_, fun hb => h.passed (hk.bucket hb)⟩
  obtain ⟨t, ht, hpr⟩ := hk.record ht'
  rw [← hpr]
  exact h.shown t ht

lemma Account.step {consulted : RepoConfig → Prop} {held : Bool} {views new : List View}
    {m m' : Member} (h : Account views m) (hstep : MemberStep setup consulted held m new m') :
    Account (views ++ new) m' := by
  cases hstep with
  | kept hk =>
    rw [List.append_nil]
    exact h.kept hk
  | gone =>
    refine ⟨?_, ?_⟩
    · rintro _ ⟨⟩
    · rintro ⟨⟩
  | @listed config merge m entries _ _ hne =>
    refine ⟨fun t ht => ?_, fun hb => ?_⟩
    · obtain ⟨last, hlast⟩ := Option.ne_none_iff_exists'.mp (mt List.getLast?_eq_none_iff.mp hne)
      obtain ⟨t', ht', hpr⟩ :=
        Member.tracked_foldl_absorb (setup.settings.effectiveQuery merge) held hlast m
      cases ht'.symm.trans ht
      exact ⟨.listed held last, by simp [hlast], hpr.symm⟩
    · obtain ⟨before, held', e, later, rfl, hp, hl⟩ := h.passed (Member.bucket_foldl_absorb hb).1
      refine ⟨before, held', e, later ++ entries.map (.listed held), by simp, hp, fun v hv => ?_⟩
      rcases List.mem_append.mp hv with hv | hv
      · exact hl v hv
      · obtain ⟨pr, _, rfl⟩ := List.mem_map.mp hv
        exact ⟨held, pr, rfl⟩
  | @evaluated config merge m m' pr reports _ _ hb ht hk =>
    refine Account.kept ⟨fun t' ht' => ?_, fun hb' => ?_⟩ hk
    · obtain ⟨t, ht⟩ := Option.isSome_iff_exists.mp ht
      obtain ⟨t'', ht'', hpr⟩ := Member.tracked_settle hb ht
      cases ht''.symm.trans ht'
      exact ⟨_, List.getLast?_concat, hpr.symm⟩
    · exact ⟨views, held, _, [], rfl, Member.bucket_settle hb ht hb', by simp⟩

lemma QueueRun.account {visits : List Visit} {q : Option Queue}
    (h : QueueRun setup key none visits q) (id : UInt64) :
    Account (views setup.settings id visits) ((poolOf q).member id) := by
  induction h with
  | start =>
    have hm : (poolOf none).member id = .absent := Pool.member_empty id
    rw [hm]
    exact ⟨by rintro _ ⟨⟩, by rintro ⟨⟩⟩
  | next hrun hstep ih =>
    rw [views_concat]
    exact ih.step (hstep.member hrun.sound id)

def Said.Honest (s : Said) : Prop := ∀ c id pr, s.fetched? = some (c, id, pr) → pr.id = id

instance (s : Said) : Decidable s.Honest :=
  decidable_of_iff (s.fetched?.all fun f => f.2.2.id = f.2.1) <| by
    simp only [Option.all_eq_true, decide_eq_true_eq, Prod.forall, Said.Honest]

def heardIn (key : String) (turns : List Turn) : List Said :=
  turns.flatMap fun t => heard key t.log

lemma heardIn_eq (key : String) (turns : List Turn) :
    heardIn key turns = (turns.map (Turn.visit key)).flatMap (·.said) := by
  rw [List.flatMap_map]
  rfl

lemma evaluationsOf_id {settings : Settings} {id : UInt64} {said : List Said}
    (h : ∀ s ∈ said, s.Honest) {e : Evaluation} (he : e ∈ evaluationsOf settings id said) :
    e.pullRequest.id = id := by
  induction said with
  | nil => cases he
  | cons s rest ih =>
    cases rest with
    | nil => cases he
    | cons next rest =>
      rcases List.mem_append.mp he with he | he
      · simp only [Said.evaluation?, Option.mem_toList, Option.bind_eq_bind,
          Option.bind_eq_some_iff] at he
        obtain ⟨⟨c, k, pr⟩, hf, ⟨sha, reports⟩, _, merge, _, he⟩ := he
        split at he
        · next hk =>
          cases he
          exact (h s List.mem_cons_self c k pr hf).trans hk.1
        · cases he
      · exact ih (fun s hs => h s (List.mem_cons_of_mem _ hs)) he

lemma views_id {settings : Settings} {id : UInt64} {visits : List Visit}
    (h : ∀ s ∈ visits.flatMap (·.said), s.Honest) {v : View} (hv : v ∈ views settings id visits) :
    v.pullRequest.id = id := by
  rcases mem_views hv with ⟨held, pr, rfl, hid⟩ | ⟨visit, hvisit, held, e, he, rfl⟩
  · exact hid
  · apply evaluationsOf_id _ he
    intro s hs
    exact h s (List.mem_flatMap.mpr ⟨visit, hvisit, hs⟩)

def Pool.Filed (pool : Pool) : Prop := ∀ ⦃id t⦄, pool.find? id = some t → t.pullRequest.id = id

lemma QueueRun.filed {visits : List Visit} {q : Option Queue} (run : QueueRun setup key none visits q)
    (h : ∀ s ∈ visits.flatMap (·.said), s.Honest) : (poolOf q).Filed := by
  intro id t ht
  obtain ⟨last, hlast, hpr⟩ := (run.account id).shown t ht
  rw [← hpr]
  exact views_id h (List.mem_of_getLast? hlast)

end MergeQueue
