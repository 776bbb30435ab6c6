import MergeQueue.Proofs.Pool.Representation
import MergeQueue.Proofs.Run.World
import MergeQueue.Proofs.Status.Description

namespace MergeQueue

open Engine Dialogue

variable {setup : Setup} {key : String} {query : MergeQuery} {batched : Bool}

def Admitted (query : MergeQuery) (batched : Bool) (pr : PullRequest) : Prop :=
  (Policy.checkSimple query pr).passed ∨ batched

instance (query : MergeQuery) (batched : Bool) (pr : PullRequest) :
    Decidable (Admitted query batched pr) :=
  inferInstanceAs (Decidable (_ ∨ _))

def rejection (query : MergeQuery) (pr : PullRequest) : String :=
  notMergeable (Policy.checkSimple query pr).message

lemma rejection_eq {pr : PullRequest} (h : ¬ Admitted query batched pr) :
    rejection query pr = "Not mergeable. " ++ (Policy.checkSimple query pr).message := by
  have hfailed : (Policy.checkSimple query pr).passed = false := by
    rw [Bool.eq_false_iff]
    exact fun hp => h (.inl hp)
  have hempty : (Policy.checkSimple query pr).message.isEmpty = false := by
    rw [Bool.eq_false_iff]
    exact fun he => (Policy.specific_checkSimple hfailed).ne_empty (String.isEmpty_iff.mp he)
  rw [rejection, notMergeable, hempty]
  rfl

namespace Tracked

structure Relisted (query : MergeQuery) (batched : Bool) (entries : List PullRequest)
    (t t' : Tracked) : Prop where
  statuses : t'.statuses = t.statuses
  unchanged : (∀ pr ∈ entries, ¬ Admitted query batched pr →
    t.showing .pending (rejection query pr)) →
      t'.status = t.status ∧ t'.description = t.description
  rejected : ∀ last, entries.getLast? = some last → ¬ Admitted query batched last →
    t'.status = .pending ∧ t'.description = rejection query last
  dirty : t'.dirty ↔ t.dirty ∨ ∃ pr ∈ entries, ¬ Admitted query batched pr ∧
    ¬ t.showing .pending (rejection query pr)

namespace Relisted

variable {entries entries' : List PullRequest} {t t' t'' : Tracked}

lemma nil (t : Tracked) : Relisted query batched [] t t :=
  ⟨rfl, fun _ => ⟨rfl, rfl⟩, by simp, by simp⟩

lemma admitted {pr : PullRequest} (ha : Admitted query batched pr) (t : Tracked)
    (bucket : Bucket) : Relisted query batched [pr] t { t with pullRequest := pr, bucket } :=
  ⟨rfl, fun _ => ⟨rfl, rfl⟩, by simp [ha], by simp [ha]⟩

lemma refused {pr : PullRequest} (ha : ¬ Admitted query batched pr) (t : Tracked)
    (bucket : Bucket) : Relisted query batched [pr] t
      (setBlocker { t with pullRequest := pr, bucket } .pending (rejection query pr)) := by
  have hshowing : showing { t with pullRequest := pr, bucket } .pending (rejection query pr) =
      t.showing .pending (rejection query pr) := rfl
  rw [setBlocker, hshowing]
  split
  · next hs =>
    refine ⟨rfl, fun _ => ⟨rfl, rfl⟩, ?_, by simp [hs]⟩
    simp only [showing, Bool.and_eq_true, decide_eq_true_eq] at hs
    simpa using fun _ => hs
  · next hs => exact ⟨rfl, by simp [ha, hs], by simp, by simp [ha, hs]⟩

lemma append (h : Relisted query batched entries t t')
    (h' : Relisted query batched entries' t' t'') :
    Relisted query batched (entries ++ entries') t t'' := by
  have hshowing (hsame : t'.status = t.status ∧ t'.description = t.description) (text : String) :
      t'.showing .pending text = t.showing .pending text := by
    simp only [showing, hsame.1, hsame.2]
  refine ⟨h'.statuses.trans h.statuses, fun hall => ?_, fun last hlast hr => ?_, ?_⟩
  · have hsame := h.unchanged fun pr hpr => hall pr (List.mem_append_left _ hpr)
    have hsame' := h'.unchanged fun pr hpr hr => by
      rw [hshowing hsame]
      exact hall pr (List.mem_append_right _ hpr) hr
    exact ⟨hsame'.1.trans hsame.1, hsame'.2.trans hsame.2⟩
  · rcases List.eq_nil_or_concat entries' with rfl | ⟨front, l, rfl⟩
    · rw [List.append_nil] at hlast
      have hsame := h'.unchanged (by simp)
      rw [hsame.1, hsame.2]
      exact h.rejected last hlast hr
    · apply h'.rejected last _ hr
      simpa using hlast
  · rw [h'.dirty, h.dirty]
    by_cases hall : ∀ pr ∈ entries, ¬ Admitted query batched pr →
        t.showing .pending (rejection query pr)
    · simp only [hshowing (h.unchanged hall)]
      grind
    · grind

end Relisted

end Tracked

namespace Member

variable {m : Member} {pr : PullRequest}

lemma bucket_absorb_eq : (m.absorb query batched pr).bucket =
    if Admitted query batched pr then some (m.bucket.getD .pending) else none := by
  have hadmitted : (Admitted query batched pr) ↔
      ((Policy.checkSimple query pr).passed || batched) = true := by
    simp [Admitted]
  simp only [absorb, hadmitted]
  split
  · cases hb : m.bucket with
    | none => simp [track, enqueue, hb]
    | some b => simp [track, hb]
  · rfl

lemma getD_bucket_foldl_absorb (entries : List PullRequest) (m : Member) :
    (entries.foldl (absorb query batched) m).bucket.getD .pending =
      if ∀ pr ∈ entries, Admitted query batched pr then m.bucket.getD .pending else .pending := by
  induction entries generalizing m with
  | nil => simp
  | cons pr rest ih =>
    rw [List.foldl_cons, ih, bucket_absorb_eq]
    -- a bucket that an entry has cost is not restored by later ones
    by_cases hpr : Admitted query batched pr <;> simp [hpr]

lemma bucket_foldl_absorb_eq {entries : List PullRequest} {last : PullRequest}
    (h : entries.getLast? = some last) (m : Member) :
    (entries.foldl (absorb query batched) m).bucket =
      if Admitted query batched last then
        some (if ∀ pr ∈ entries, Admitted query batched pr then m.bucket.getD .pending
          else .pending)
      else none := by
  obtain ⟨front, rfl⟩ := List.getLast?_eq_some_iff.mp h
  rw [List.foldl_append, List.foldl_cons, List.foldl_nil, bucket_absorb_eq]
  split
  · next hlast =>
    rw [getD_bucket_foldl_absorb]
    simp [or_imp, forall_and, hlast]
  · rfl

lemma relisted_absorb (query : MergeQuery) (batched : Bool) (m : Member) (pr x : PullRequest) :
    ∃ t, (m.absorb query batched pr).tracked = some t ∧
      (m.tracked.getD (.new x)).Relisted query batched [pr] t := by
  have htrack : (m.track pr).tracked =
      some { m.tracked.getD (.new x) with pullRequest := pr } := by
    cases hm : m.tracked <;> simp [track, hm, Tracked.new]
  by_cases ha : Admitted query batched pr
  · have hverdict : ((Policy.checkSimple query pr).passed || batched) = true := by
      simpa [Admitted] using ha
    simp only [absorb, hverdict, if_true]
    split
    · exact ⟨_, htrack, .admitted ha _ _⟩
    · refine ⟨{ m.tracked.getD (.new x) with pullRequest := pr, bucket := .pending }, ?_,
        .admitted ha _ _⟩
      simp only [enqueue, htrack, Option.isSome_some, if_true, Option.map_some]
  · have hverdict : ((Policy.checkSimple query pr).passed || batched) = false := by
      simpa [Admitted] using ha
    simp only [absorb, hverdict, Bool.false_eq_true, if_false]
    exact ⟨_, by simp only [change, dequeue, htrack, Option.map_some]; rfl,
      .refused ha _ .unknown⟩

lemma relisted_foldl_absorb (query : MergeQuery) (batched : Bool) {entries : List PullRequest}
    (hne : entries ≠ []) (m : Member) (x : PullRequest) :
    ∃ t, (entries.foldl (absorb query batched) m).tracked = some t ∧
      (m.tracked.getD (.new x)).Relisted query batched entries t := by
  induction entries generalizing m with
  | nil => exact absurd rfl hne
  | cons pr rest ih =>
    obtain ⟨t, ht, hfirst⟩ := relisted_absorb query batched m pr x
    rcases List.eq_nil_or_concat rest with rfl | ⟨_, _, hrest⟩
    · exact ⟨t, ht, hfirst⟩
    · obtain ⟨t', ht', hlast⟩ := ih (by simp [hrest]) (m.absorb query batched pr)
      rw [ht] at hlast
      exact ⟨t', ht', hfirst.append hlast⟩

end Member

namespace Pool

variable {pool pool' : Pool}

def prior (pool : Pool) (id : UInt64) (pr : PullRequest) : Tracked :=
  (pool.find? id).getD (.new pr)

structure Relisted (query : MergeQuery) (listed : List PullRequest) (pool pool' : Pool) : Prop where
  tracked : ∀ id, id ∈ pool'.ids ↔ ∃ pr ∈ listed, pr.state = .opened ∧ pr.id = id
  record : ∀ id t, pool'.find? id = some t →
    (openEntries listed id).getLast? = some t.pullRequest
  members : ∀ id, pool'.mergePool.contains id → id ∈ pool'.ids
  admitted : ∀ id t, pool'.find? id = some t → (pool'.mergePool.contains id ↔
    (Policy.checkSimple query t.pullRequest).passed ∨ pool.inBatch id)
  bucket_kept : ∀ id bucket, pool.mergePool.search id = some bucket → id ∈ pool'.ids →
    (∀ pr ∈ openEntries listed id, Admitted query (pool.inBatch id) pr) →
      pool'.mergePool.search id = some bucket
  bucket_new : ∀ id, pool'.mergePool.contains id →
    ¬ (pool.mergePool.contains id ∧
      ∀ pr ∈ openEntries listed id, Admitted query (pool.inBatch id) pr) →
        pool'.mergePool.search id = some .pending
  bucket_recorded : ∀ id t, pool'.find? id = some t →
    t.bucket = (pool'.mergePool.search id).getD .unknown
  outside : ∀ id t, pool'.find? id = some t → pool'.mergePool.contains id = false →
    t.status = .pending ∧
    t.description = "Not mergeable. " ++ (Policy.checkSimple query t.pullRequest).message ∧
    (¬ (pool.prior id t.pullRequest).showing t.status t.description → t.dirty)
  kept : ∀ id t, pool'.find? id = some t →
    (∀ pr ∈ openEntries listed id, Admitted query (pool.inBatch id) pr) →
      t.status = (pool.prior id t.pullRequest).status ∧
      t.description = (pool.prior id t.pullRequest).description ∧
      t.dirty = (pool.prior id t.pullRequest).dirty
  statuses : ∀ id t, pool'.find? id = some t → t.statuses = (pool.prior id t.pullRequest).statuses
  dirty : ∀ id t, pool'.find? id = some t → (t.dirty ↔ (pool.prior id t.pullRequest).dirty ∨
    ∃ pr ∈ openEntries listed id, ¬ Admitted query (pool.inBatch id) pr ∧
      ¬ (pool.prior id t.pullRequest).showing .pending (rejection query pr))
  batch : pool'.batch = pool.batch

lemma find?_absorb (h : pool.Sound) {listed : List PullRequest} {id : UInt64} {t : Tracked}
    (ht : (pool.absorb query listed).find? id = some t) :
    openEntries listed id ≠ [] ∧ (openEntries listed id).getLast? = some t.pullRequest ∧
      (pool.prior id t.pullRequest).Relisted query (pool.inBatch id) (openEntries listed id) t := by
  replace ht : ((pool.absorb query listed).member id).tracked = some t := ht
  rw [member_absorb h query listed id] at ht
  split at ht
  · cases ht
  · next hne =>
    obtain ⟨last, hlast⟩ := Option.ne_none_iff_exists'.mp (mt List.getLast?_eq_none_iff.mp hne)
    obtain ⟨t₁, ht₁, hpr⟩ := Member.tracked_foldl_absorb query (pool.inBatch id) hlast
      (pool.member id)
    obtain ⟨t₂, ht₂, hrelisted⟩ := Member.relisted_foldl_absorb query
      (pool.inBatch id) hne (pool.member id) t.pullRequest
    cases ht.symm.trans ht₁
    cases ht.symm.trans ht₂
    exact ⟨hne, by rw [hlast, hpr], hrelisted⟩

lemma search_absorb (h : pool.Sound) {listed : List PullRequest} {id : UInt64}
    {last : PullRequest} (hlast : (openEntries listed id).getLast? = some last) :
    (pool.absorb query listed).mergePool.search id =
      if Admitted query (pool.inBatch id) last then
        some (if ∀ pr ∈ openEntries listed id, Admitted query (pool.inBatch id) pr
          then (pool.mergePool.search id).getD .pending else .pending)
      else none := by
  have hne : openEntries listed id ≠ [] := by
    rintro hnil
    rw [hnil] at hlast
    cases hlast
  have hbucket := congrArg Member.bucket (member_absorb h query listed id)
  rw [if_neg hne, Member.bucket_foldl_absorb_eq hlast] at hbucket
  exact hbucket

lemma absorb_congr (h : pool.Sound) {listed listed' : List PullRequest}
    (hentries : ∀ id, openEntries listed id = openEntries listed' id) :
    pool.absorb query listed = pool.absorb query listed' := by
  apply ext_member (h.absorb query listed) (h.absorb query listed')
  · intro id
    rw [member_absorb h, member_absorb h, hentries]
  · rw [batch_absorb, batch_absorb]

lemma absorb_perm (h : pool.Sound) {listed listed' : List PullRequest}
    (hd : (listed.map (·.id)).Nodup) (hp : listed.Perm listed') :
    pool.absorb query listed = pool.absorb query listed' := by
  have hd' : (listed'.map (·.id)).Nodup := (hp.map _).nodup_iff.mp hd
  apply absorb_congr h
  intro id
  have hperm : (openEntries listed id).Perm (openEntries listed' id) := (hp.filter _).filter _
  -- no two entries have one number, so the order is that of a list of at most one
  have hapart {l : List PullRequest} (hl : (l.map (·.id)).Nodup) :
      (openEntries l id).Pairwise fun pr pr' => pr.id ≠ pr'.id :=
    ((List.pairwise_map.mp hl).filter _).filter _
  refine hperm.eq_of_pairwise (fun pr pr' hpr hpr' hne _ => ?_) (hapart hd) (hapart hd')
  rw [(mem_openEntries_iff.mp hpr).2.2, (mem_openEntries_iff.mp hpr').2.2] at hne
  exact absurd rfl hne

lemma mem_ids_absorb (h : pool.Sound) (listed : List PullRequest) (id : UInt64) :
    id ∈ (pool.absorb query listed).ids ↔ openEntries listed id ≠ [] := by
  rw [mem_ids_iff]
  change (((pool.absorb query listed).member id).tracked.isSome = true) ↔ _
  rw [member_absorb h]
  split
  · next hnil => simp [hnil, Member.absent]
  · next hne =>
    obtain ⟨last, hlast⟩ := Option.ne_none_iff_exists'.mp (mt List.getLast?_eq_none_iff.mp hne)
    obtain ⟨t, ht, _⟩ := Member.tracked_foldl_absorb query (pool.inBatch id) hlast
      (pool.member id)
    simp [ht, hne]

lemma last_of_mem_ids (h : pool.Sound) {listed : List PullRequest} {id : UInt64}
    (hid : id ∈ (pool.absorb query listed).ids) :
    ∃ last, (openEntries listed id).getLast? = some last :=
  Option.ne_none_iff_exists'.mp (mt List.getLast?_eq_none_iff.mp ((mem_ids_absorb h _ _).mp hid))

lemma orderly_absorb (h : pool.Sound) {id : UInt64} (ho : (pool.member id).Orderly)
    (listed : List PullRequest) : ((pool.absorb query listed).member id).Orderly := by
  rw [member_absorb h]
  split
  · exact Member.orderly_absent
  · exact Member.orderly_invariant.foldl_absorb _ _ _ (h.tracked id) ho

lemma relisted_absorb (h : pool.Sound) (ho : ∀ id, (pool.member id).Orderly)
    (listed : List PullRequest) : pool.Relisted query listed (pool.absorb query listed) := by
  have hmember {id : UInt64} (hc : (pool.absorb query listed).mergePool.contains id) :
      id ∈ (pool.absorb query listed).ids := by
    rw [mem_ids_iff]
    exact (h.absorb query listed).tracked id hc
  refine {
    tracked := fun id => by
      rw [mem_ids_absorb h, ne_eq, openEntries_eq_nil_iff]
      simp
    record := fun id t ht => (find?_absorb h ht).2.1
    members := fun id hc => hmember hc
    admitted := fun id t ht => ?_
    bucket_kept := fun id bucket hb hid hall => ?_
    bucket_new := fun id hc hnew => ?_
    bucket_recorded := fun id t ht => (orderly_absorb h (ho id) listed).agrees t ht
    outside := fun id t ht hc => ?_
    kept := fun id t ht hall => ?_
    statuses := fun id t ht => (find?_absorb h ht).2.2.statuses
    dirty := fun id t ht => (find?_absorb h ht).2.2.dirty
    batch := batch_absorb query listed pool }
  · change _ ↔ Admitted query (pool.inBatch id) t.pullRequest
    rw [MergePool.contains, search_absorb h (find?_absorb h ht).2.1]
    split
    · next ha => simpa using ha
    · next ha => simpa using ha
  · obtain ⟨last, hlast⟩ := last_of_mem_ids h hid
    rw [search_absorb h hlast, if_pos (hall last (List.mem_of_getLast? hlast)), if_pos hall, hb]
    rfl
  · obtain ⟨last, hlast⟩ := last_of_mem_ids h (hmember hc)
    rw [MergePool.contains, search_absorb h hlast] at hc
    rw [search_absorb h hlast]
    split
    · split
      · next hall =>
        have hnone : pool.mergePool.search id = none :=
          Option.not_isSome_iff_eq_none.mp fun hs => hnew ⟨hs, hall⟩
        rw [hnone]
        rfl
      · rfl
    · next ha => simp [ha] at hc
  · obtain ⟨_, hlast, hrelisted⟩ := find?_absorb h ht
    rw [MergePool.contains, search_absorb h hlast] at hc
    have hrefused : ¬ Admitted query (pool.inBatch id) t.pullRequest := fun ha => by simp [ha] at hc
    obtain ⟨hstatus, hdescription⟩ := hrelisted.rejected _ hlast hrefused
    refine ⟨hstatus, hdescription.trans (rejection_eq hrefused), fun hchanged => ?_⟩
    rw [hrelisted.dirty]
    rw [hstatus, hdescription] at hchanged
    exact .inr ⟨_, List.mem_of_getLast? hlast, hrefused, hchanged⟩
  · obtain ⟨_, _, hrelisted⟩ := find?_absorb h ht
    obtain ⟨hstatus, hdescription⟩ := hrelisted.unchanged fun pr hpr hr => absurd (hall pr hpr) hr
    refine ⟨hstatus, hdescription, ?_⟩
    rw [Bool.eq_iff_iff, hrelisted.dirty]
    refine or_iff_left ?_
    rintro ⟨pr, hpr, hr, _⟩
    exact hr (hall pr hpr)

end Pool

namespace Engine.Synced

variable {config : RepoConfig} {q q' : Option Queue} {said : List Said} {r : Except Error Unit}

lemma failed (h : Synced setup config q said q' r)
    (hnone : ∀ c listed, ⟨.host c (.listPullRequests true), .ok listed⟩ ∉ said) :
    (∃ e, r = .error e) ∧ poolOf q' = poolOf q := by
  cases h with
  | off _ => exact ⟨⟨_, rfl⟩, rfl⟩
  | unconnected _ => exact ⟨⟨_, rfl⟩, rfl⟩
  | unlisted _ => exact ⟨⟨_, rfl⟩, by cases q <;> rfl⟩
  | @listed l c _ listed _ _ => exact absurd (by simp) (hnone c listed)

lemma taken (h : Synced setup config q said q' r) {c : Connection} {listed : List PullRequest}
    (hin : ⟨.host c (.listPullRequests true), .ok listed⟩ ∈ said) :
    r = .ok () ∧ ∃ merge, config.merge = some merge ∧
      q' = some ⟨(q.getD ⟨config.id, .empty⟩).owner,
        (poolOf q).absorb (setup.settings.effectiveQuery merge) listed⟩ := by
  have hconnect {l : List Said} {r : Except Error Connection}
      (hc : (connect setup config).Course l r) :
      ⟨.host c (.listPullRequests true), .ok listed⟩ ∉ l := by
    intro hmem
    obtain ⟨_, _, heq⟩ := (connect_course hc).1 _ hmem
    cases heq
  cases h with
  | off _ => cases hin
  | unconnected hc => exact absurd hin (hconnect hc)
  | unlisted hc =>
    rcases List.mem_append.mp hin with hin | hin
    · exact absurd hin (hconnect hc)
    · cases List.mem_singleton.mp hin
  | listed hm hc =>
    rcases List.mem_append.mp hin with hin | hin
    · exact absurd hin (hconnect hc)
    · cases List.mem_singleton.mp hin
      exact ⟨rfl, _, hm, by cases q <;> rfl⟩

end Engine.Synced

lemma Moment.poolOf {turns : List Turn} {table : Table} (moment : Moment setup turns table)
    (key : String) : (poolOf (table.find? key)).Sound ∧
      ∀ id, ((poolOf (table.find? key)).member id).Orderly := by
  cases hq : table.find? key with
  | none =>
    refine ⟨Pool.sound_empty, fun id => ?_⟩
    change (Pool.empty.member id).Orderly
    rw [Pool.member_empty]
    exact Member.orderly_absent
  | some queue =>
    obtain ⟨_, _, _, hleft⟩ := moment.queue hq
    exact ⟨hleft.sound, fun id => moment.keeps Member.orderly_invariant hq id⟩

/-- A pool sync of one repository leaves its pool as it is unless it gets a listing, and takes over
the open entries if it does, in whichever order different pull requests are listed. -/
theorem pool_sync_relists {turns : List Turn} {table table' : Table} {config : RepoConfig}
    {said : List Said} {r : Except Error Unit} (moment : Moment setup turns table)
    (h : (syncPool setup table key config).Course said (table', r)) :
    (∀ k, k ≠ key → table'.find? k = table.find? k) ∧
    ((∀ c listed, ⟨.host c (.listPullRequests true), .ok listed⟩ ∉ said) →
      (∃ e, r = .error e) ∧ poolOf (table'.find? key) = poolOf (table.find? key)) ∧
    ∀ c listed, ⟨.host c (.listPullRequests true), .ok listed⟩ ∈ said →
      r = .ok () ∧ ∃ merge, config.merge = some merge ∧
        (poolOf (table.find? key)).Relisted (setup.settings.effectiveQuery merge) listed
          (poolOf (table'.find? key)) ∧
        ∀ said₂ table₂ r₂ c₂ listed₂, (syncPool setup table key config).Course said₂ (table₂, r₂) →
          ⟨.host c₂ (.listPullRequests true), .ok listed₂⟩ ∈ said₂ →
            (listed.map (·.id)).Nodup → listed.Perm listed₂ → table₂ = table' := by
  obtain ⟨hsound, horderly⟩ := moment.poolOf key
  obtain ⟨hsynced, hothers⟩ := syncPool_course h
  refine ⟨hothers, hsynced.failed, fun c listed hin => ?_⟩
  obtain ⟨hr, merge, hm, hq⟩ := hsynced.taken hin
  refine ⟨hr, merge, hm, ?_, fun said₂ table₂ r₂ c₂ listed₂ h₂ hin₂ hd hp => ?_⟩
  · rw [hq]
    exact Pool.relisted_absorb hsound horderly listed
  · obtain ⟨hsynced₂, hothers₂⟩ := syncPool_course h₂
    obtain ⟨_, merge₂, hm₂, hq₂⟩ := hsynced₂.taken hin₂
    cases hm.symm.trans hm₂
    apply SortedMap.ext_find?
    intro k
    by_cases hk : k = key
    · rw [hk, hq, hq₂, Pool.absorb_perm hsound hd hp]
    · rw [hothers k hk, hothers₂ k hk]

theorem pool_sync_relists_demo :
    let turns := play pairSetup twoPulls
    let listed := [demoPull 3 "bbb" [], demoPull 9 "ccc" []]
    let listed₂ := [demoPull 9 "ccc" [], demoPull 3 "bbb" []]
    let out (w : (q : Question) → q.Reply) :=
      (syncPool pairSetup turns.2 demoJobs.poolKey demoJobs).record w
    let synced := (out (jobsWorld listed [] .pending).reply).2.1
    let synced₂ := (out (jobsWorld listed₂ [] .pending).reply).2.1
    let unsynced := (out (outage (.internal .noBatch))).2.1
    (poolOf (turns.2.find? demoJobs.poolKey)).Relisted
        (pairSetup.settings.effectiveQuery .default) listed
        (poolOf (synced.find? demoJobs.poolKey)) ∧
      synced₂ = synced ∧
      poolOf (unsynced.find? demoJobs.poolKey) = poolOf (turns.2.find? demoJobs.poolKey) := by
  intro turns listed listed₂ out synced synced₂ unsynced
  have moment : Moment pairSetup turns.1 turns.2 := .between (run_play pairSetup _)
  have hlisted : ⟨.host ⟨demoJobs, "t"⟩ (.listPullRequests true), .ok listed⟩ ∈
      (out (jobsWorld listed [] .pending).reply).1 := .tail _ (.head _)
  have hlisted₂ : ⟨.host ⟨demoJobs, "t"⟩ (.listPullRequests true), .ok listed₂⟩ ∈
      (out (jobsWorld listed₂ [] .pending).reply).1 := .tail _ (.head _)
  obtain ⟨_, merge, hm, hrelisted, hperm⟩ :=
    (pool_sync_relists moment (course_record _ _)).2.2 _ _ hlisted
  cases hm
  refine ⟨hrelisted, hperm _ _ _ _ _ (course_record _ _) hlisted₂ (by decide) ?_, ?_⟩
  · exact List.Perm.swap _ _ _
  · refine ((pool_sync_relists moment (course_record _ _)).2.1 fun c l hmem => ?_).2
    cases List.mem_singleton.mp hmem

end MergeQueue
