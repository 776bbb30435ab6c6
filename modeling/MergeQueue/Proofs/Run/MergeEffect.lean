import MergeQueue.Proofs.Run.MergePass

namespace MergeQueue

open Dialogue

structure MergeCall where
  connection : Connection
  id : UInt64
  sha : String
  deriving DecidableEq

def Said.mergeCall? : Said → Option MergeCall
  | ⟨.host c (.mergePullRequest id sha _ _), _⟩ => some ⟨c, id, sha⟩
  | _ => none

def Said.merged? : Said → Option UInt64
  | ⟨.host _ (.mergePullRequest id _ _ _), .ok _⟩ => some id
  | _ => none

def Said.created? : Said → Option (JobRequest × JobRef)
  | ⟨.createJob request, .ok job⟩ => some (request, job)
  | _ => none

def mergeCalls (said : List Said) : List MergeCall := said.filterMap Said.mergeCall?

def mergedIds (said : List Said) : List UInt64 := said.filterMap Said.merged?

def createdJobs (said : List Said) : List (JobRequest × JobRef) := said.filterMap Said.created?

def mergesAsked (log : List Exchange) : List (Option String × MergeCall) :=
  log.filterMap fun e => e.said.mergeCall?.map (e.1.key, ·)

@[simp] lemma mergeCalls_nil : mergeCalls [] = [] := rfl

@[simp] lemma mergeCalls_append (front back : List Said) :
    mergeCalls (front ++ back) = mergeCalls front ++ mergeCalls back := List.filterMap_append

@[simp] lemma mergeCalls_cons (s : Said) (rest : List Said) :
    mergeCalls (s :: rest) = s.mergeCall?.toList ++ mergeCalls rest := by
  cases h : s.mergeCall? <;> simp [mergeCalls, h]

@[simp] lemma mergedIds_nil : mergedIds [] = [] := rfl

@[simp] lemma mergedIds_append (front back : List Said) :
    mergedIds (front ++ back) = mergedIds front ++ mergedIds back := List.filterMap_append

@[simp] lemma mergedIds_cons (s : Said) (rest : List Said) :
    mergedIds (s :: rest) = s.merged?.toList ++ mergedIds rest := by
  cases h : s.merged? <;> simp [mergedIds, h]

@[simp] lemma createdJobs_nil : createdJobs [] = [] := rfl

@[simp] lemma createdJobs_append (front back : List Said) :
    createdJobs (front ++ back) = createdJobs front ++ createdJobs back := List.filterMap_append

@[simp] lemma createdJobs_cons (s : Said) (rest : List Said) :
    createdJobs (s :: rest) = s.created?.toList ++ createdJobs rest := by
  cases h : s.created? <;> simp [createdJobs, h]

def Pool.number? (pool : Pool) (id : UInt64) : Option UInt64 :=
  (pool.find? id).map (·.pullRequest.id)

lemma Pool.Left.number? {pool pool' : Pool} {gone : List UInt64} (h : pool.Left gone pool') :
    pool'.number? = pool.number? := by
  funext id
  have hn := congrArg (Option.map PullRequest.id) (h.find? id)
  simpa [Pool.number?, Function.comp_def] using hn

def Pool.mergeOrder (pool : Pool) : List UInt64 :=
  pool.batch.elim (pool.mergePool.bucket .success) Batch.ids

lemma Pool.mergeOrder_of_batch {pool : Pool} {batch : Batch} (h : pool.batch = some batch) :
    pool.mergeOrder = batch.ids := by
  rw [mergeOrder, h]
  rfl

lemma Pool.mergeOrder_of_none {pool : Pool} (h : pool.batch = none) :
    pool.mergeOrder = pool.mergePool.bucket .success := by
  rw [mergeOrder, h]
  rfl

namespace Engine

variable {setup : Setup} {key : String}

structure Departed (pool : Pool) (gone : List UInt64) (said : List Said) (pool' : Pool) : Prop where
  left : pool.Left gone pool'
  merged : (mergedIds said).map some = gone.map pool.number?

lemma Departed.trans {pool pool' pool'' : Pool} {gone gone' : List UInt64}
    {said said' : List Said} (h : Departed pool gone said pool')
    (h' : Departed pool' gone' said' pool'') :
    Departed pool (gone ++ gone') (said ++ said') pool'' := by
  refine ⟨h.left.trans h'.left, ?_⟩
  rw [mergedIds_append, List.map_append, List.map_append, h.merged, h'.merged, h.left.number?]

@[simp] lemma mergeCalls_noted {α : Type} (warning : Error → Warning) (r : Except Error α) :
    mergeCalls (noted warning r) = [] := by
  cases r <;> rfl

@[simp] lemma mergedIds_noted {α : Type} (warning : Error → Warning) (r : Except Error α) :
    mergedIds (noted warning r) = [] := by
  cases r <;> rfl

lemma mergeCalls_connect {config : RepoConfig} {l : List Said} {r : Except Error Connection}
    (h : (connect setup config).Course l r) : mergeCalls l = [] :=
  filterMap_connect h fun _ _ => rfl

lemma mergedIds_connect {config : RepoConfig} {l : List Said} {r : Except Error Connection}
    (h : (connect setup config).Course l r) : mergedIds l = [] :=
  filterMap_connect h fun _ _ => rfl

lemma MergeAsked.calls {task : MergeTask} {pr : PullRequest} {sha : String} {l : List Said}
    {r : Except Error Unit} (h : MergeAsked setup task pr sha l r) :
    (mergeCalls l).Sublist [⟨task.connection, pr.id, sha⟩] := by
  cases h with
  | unrendered => exact List.nil_sublist _
  | replied => exact .refl _

lemma MergeAsked.noJobs {task : MergeTask} {pr : PullRequest} {sha : String} {l : List Said}
    {r : Except Error Unit} (h : MergeAsked setup task pr sha l r) : createdJobs l = [] := by
  cases h <;> rfl

lemma MergeAsked.merged {task : MergeTask} {pr : PullRequest} {sha : String} {l : List Said}
    {r : Except Error Unit} (h : MergeAsked setup task pr sha l r) :
    mergedIds l = match r with
      | .ok _ => [pr.id]
      | .error _ => [] := by
  cases h with
  | unrendered => rfl
  | @replied message r => cases r <;> rfl

lemma JobAsked.calls {config : RepoConfig} {tip : String} {pool pool' : Pool} {l : List Said}
    {r : Except Error Unit} (h : JobAsked setup config tip pool l pool' r) : mergeCalls l = [] := by
  cases h <;> rfl

lemma JobAsked.departed {config : RepoConfig} {tip : String} {pool pool' : Pool}
    {l : List Said} {r : Except Error Unit} (h : JobAsked setup config tip pool l pool' r)
    (hs : pool.Sound) : Departed pool [] l pool' := by
  cases h with
  | created => exact ⟨.setBatch hs _, rfl⟩
  | _ => exact ⟨.refl hs, rfl⟩

lemma Advanced.calls {c : Connection} {batch : Batch} {pool pool' : Pool} {l : List Said}
    {r : Except Error Bool} (h : Advanced setup key c batch pool l pool' r) : mergeCalls l = [] := by
  cases h with
  | asked _ ha => simp [ha.calls, Said.mergeCall?]
  | _ => rfl

lemma Advanced.departed {c : Connection} {batch : Batch} {pool pool' : Pool} {l : List Said}
    {r : Except Error Bool} (h : Advanced setup key c batch pool l pool' r) (hs : pool.Sound) :
    Departed pool [] l pool' := by
  cases h with
  | asked _ ha =>
    have hd := ha.departed hs
    exact ⟨hd.left, by simpa [Said.merged?] using hd.merged⟩
  | vanished => exact ⟨.setBatch hs _, rfl⟩
  | shrunk =>
    rw [Pool.shrinkBatch]
    split
    · exact ⟨.setBatch hs _, rfl⟩
    · exact ⟨.clearBatch hs, rfl⟩
  | _ => exact ⟨.refl hs, rfl⟩

lemma goOn_left (task : MergeTask) {pool : Pool} {next : PullRequest} (hs : pool.Sound)
    (hn : pool.batch.bind (·.pullRequests.head?) = some next) :
    pool.Left [] (goOn task pool).1 := by
  obtain ⟨_, _, _, _, ⟨_, ho⟩ | ⟨_, ho⟩⟩ := goOn_cases task hn
  · exact ho ▸ .clearBatch hs
  · exact ho ▸ .setBatch hs _

def upcoming : Pool × MergeState → List UInt64
  | (pool, .paused _) => pool.mergeOrder
  | _ => []

lemma upcoming_goOn (task : MergeTask) {pool : Pool} {next : PullRequest}
    (hn : pool.batch.bind (·.pullRequests.head?) = some next) :
    (upcoming (goOn task pool)).Sublist pool.mergeOrder.tail := by
  obtain ⟨batch, rest, hb, hlist, ⟨_, ho⟩ | ⟨_, ho⟩⟩ := goOn_cases task hn
  · rw [ho]
    exact List.nil_sublist _
  · rw [ho, upcoming, Pool.mergeOrder_of_batch rfl, Pool.mergeOrder_of_batch hb, Batch.ids,
      Batch.ids, hlist]
    exact .refl _

lemma Stepped.departed {task : MergeTask} {pool : Pool} {l : List Said}
    {out : Pool × MergeState} (h : Stepped setup key task pool l out) (hs : pool.Sound) :
    ∃ gone, Departed pool gone l out.1 ∧ gone.Sublist (pool.mergeOrder.take 1) ∧
      (upcoming out).Sublist pool.mergeOrder.tail := by
  have hbatch {next : PullRequest} (hn : pool.batch.bind (·.pullRequests.head?) = some next) :
      ∃ batch, pool.batch = some batch ∧ pool.mergeOrder = batch.ids ∧
        pool.mergeOrder.take 1 = [next.id] := by
    obtain ⟨batch, hb, hh⟩ := Option.bind_eq_some_iff.mp hn
    obtain ⟨rest, hlist⟩ := List.head?_eq_some_iff.mp hh
    refine ⟨batch, hb, Pool.mergeOrder_of_batch hb, ?_⟩
    rw [Pool.mergeOrder_of_batch hb, Batch.ids, hlist]
    rfl
  cases h with
  | empty => exact ⟨[], ⟨.clearBatch hs, rfl⟩, List.nil_sublist _, List.nil_sublist _⟩
  | dropped hn =>
    exact ⟨[], ⟨goOn_left task hs hn, rfl⟩, List.nil_sublist _, upcoming_goOn task hn⟩
  | rejected _ _ _ ha =>
    exact ⟨[], ⟨.clearBatch hs, by simp [ha.merged, Said.merged?]⟩, List.nil_sublist _,
      List.nil_sublist _⟩
  | @merged next t l hn ht _ ha =>
    obtain ⟨batch, hb, horder, hfirst⟩ := hbatch hn
    have hn' := head?_dequeue hn next.id
    have hb' : (pool.dequeue next.id).batch = some batch := hb
    have hleft := (Pool.Left.dequeue hs next.id).trans (goOn_left task (hs.dequeue _) hn')
    refine ⟨[next.id], ⟨hleft, by simp [ha.merged, Pool.number?, ht]⟩, hfirst ▸ .refl _, ?_⟩
    rw [horder, ← Pool.mergeOrder_of_batch hb']
    exact upcoming_goOn task hn'

lemma Stepped.noJobs {task : MergeTask} {pool : Pool} {l : List Said}
    {out : Pool × MergeState} (h : Stepped setup key task pool l out) : createdJobs l = [] := by
  cases h with
  | empty => rfl
  | dropped => rfl
  | rejected _ _ _ ha => simp [ha.noJobs, Said.created?]
  | merged _ _ _ ha => exact ha.noJobs

lemma Oldest.departed {task : MergeTask} {pool pool' : Pool} {l : List Said}
    {r : Except Error Unit} (h : Oldest setup task pool l pool' r) (hs : pool.Sound) :
    ∃ gone, Departed pool gone l pool' ∧
      gone.Sublist ((pool.mergePool.bucket .success).take 1) := by
  cases h with
  | rejected _ _ _ ha =>
    exact ⟨[], ⟨.refl hs, by simp [ha.merged, Said.merged?]⟩, List.nil_sublist _⟩
  | @merged first t l _ hf ht _ ha =>
    obtain ⟨rest, hlist⟩ := List.head?_eq_some_iff.mp hf
    refine ⟨[first], ⟨.dequeue hs _, by simp [ha.merged, Said.merged?, Pool.number?, ht]⟩, ?_⟩
    rw [hlist]
    exact .refl _
  | batched _ _ _ ha =>
    have hd := ha.departed (hs.setBatch _)
    exact ⟨[], ⟨(Pool.Left.setBatch hs _).trans hd.left, by simpa [Said.merged?] using hd.merged⟩,
      List.nil_sublist _⟩
  | _ => exact ⟨[], ⟨.refl hs, rfl⟩, List.nil_sublist _⟩

lemma Started.departed {queue : Queue} {l : List Said} {out : Pool × MergeState}
    (h : Started setup key queue l out) (hs : queue.pool.Sound) :
    ∃ gone, Departed queue.pool gone l out.1 ∧ gone.Sublist (queue.pool.mergeOrder.take 1) ∧
      (upcoming out).Sublist queue.pool.mergeOrder.tail := by
  cases h with
  | unconnected _ hc =>
    exact ⟨[], ⟨.refl hs, by simp [Said.merged?, mergedIds_connect hc]⟩, List.nil_sublist _,
      List.nil_sublist _⟩
  | direct _ hc hb ho =>
    obtain ⟨gone, hd, hsub⟩ := ho.departed hs
    rw [Pool.mergeOrder_of_none hb]
    exact ⟨gone, ⟨hd.left, by simpa [Said.merged?, mergedIds_connect hc] using hd.merged⟩, hsub,
      List.nil_sublist _⟩
  | held _ hc _ ha _ =>
    have hd := ha.departed hs
    exact ⟨[], ⟨hd.left, by simpa [Said.merged?, mergedIds_connect hc] using hd.merged⟩,
      List.nil_sublist _, List.nil_sublist _⟩
  | tested _ hc _ _ hst =>
    obtain ⟨gone, hd, hsub⟩ := hst.departed hs
    exact ⟨gone, ⟨hd.left, by simpa [Said.merged?, mergedIds_connect hc] using hd.merged⟩, hsub⟩
  | _ => exact ⟨[], ⟨.refl hs, rfl⟩, List.nil_sublist _, List.nil_sublist _⟩

lemma sublist_take_append_tail {α : Type} {front back l : List α} (hf : front.Sublist (l.take 1))
    (hb : back.Sublist l.tail) : (front ++ back).Sublist l := by
  have h := hf.append hb
  rwa [← List.drop_one, List.take_append_drop] at h

lemma Finished.departed {out : Pool × MergeState} {l : List Said} {pool : Pool}
    {r : Except Error Unit} (h : Finished setup key out l pool r) (hs : out.1.Sound) :
    ∃ gone, Departed out.1 gone l pool ∧ gone.Sublist (upcoming out) := by
  induction h with
  | ended => exact ⟨[], ⟨.refl hs, rfl⟩, List.nil_sublist _⟩
  | paused hst _ ih =>
    obtain ⟨gone, hd, hfirst, hup⟩ := hst.departed hs
    obtain ⟨gone', hd', hsub⟩ := ih hd.left.sound
    exact ⟨_, hd.trans hd', sublist_take_append_tail hfirst (hsub.trans hup)⟩

lemma Merged.departed {queue : Queue} {l : List Said} {pool : Pool}
    (h : Merged setup key queue l pool) (hs : queue.pool.Sound) :
    ∃ gone, Departed queue.pool gone l pool ∧ gone.Sublist queue.pool.mergeOrder := by
  obtain ⟨l, out, l', r, hstart, hfin, rfl⟩ := h
  obtain ⟨gone, hd, hfirst, hup⟩ := hstart.departed hs
  obtain ⟨gone', hd', hsub⟩ := hfin.departed hd.left.sound
  have hall := hd.trans hd'
  exact ⟨_, ⟨hall.left, by simpa using hall.merged⟩,
    sublist_take_append_tail hfirst (hsub.trans hup)⟩

lemma Merged.rest {queue : Queue} {l : List Said} {pool : Pool}
    (h : Merged setup key queue l pool) (hs : queue.pool.Sound) : queue.pool.Rest pool := by
  obtain ⟨gone, hd, _⟩ := h.departed hs
  exact hd.left.rest

def offer (c : Connection) (pool : Pool) (id : UInt64) (sha : String) : Option MergeCall :=
  (((pool.find? id).map (·.pullRequest)).filter fun pr => pr.head.sha = sha).map
    fun pr => ⟨c, pr.id, sha⟩

lemma offer_eq_some_iff {c : Connection} {pool : Pool} {id : UInt64} {sha : String}
    {call : MergeCall} : offer c pool id sha = some call ↔ ∃ t, pool.find? id = some t ∧
      t.pullRequest.head.sha = sha ∧ call = ⟨c, t.pullRequest.id, sha⟩ := by
  constructor
  · intro h
    obtain ⟨pr, hpr, rfl⟩ := Option.map_eq_some_iff.mp h
    obtain ⟨hf, hsha⟩ := Option.filter_eq_some_iff.mp hpr
    obtain ⟨t, ht, rfl⟩ := Option.map_eq_some_iff.mp hf
    exact ⟨t, ht, of_decide_eq_true hsha, rfl⟩
  · rintro ⟨t, ht, rfl, rfl⟩
    rw [offer, ht]
    simp [Option.filter]

lemma offer_left {pool pool' : Pool} {gone : List UInt64} (h : pool.Left gone pool')
    (c : Connection) (id : UInt64) (sha : String) : offer c pool' id sha = offer c pool id sha := by
  simp only [offer]
  rw [h.find?]

def offers (c : Connection) (pool : Pool) (prs : List PullRequest) : List MergeCall :=
  prs.filterMap fun pr => offer c pool pr.id pr.head.sha

lemma offers_cons (c : Connection) (pool : Pool) (pr : PullRequest) (rest : List PullRequest) :
    offers c pool (pr :: rest) =
      (offer c pool pr.id pr.head.sha).toList ++ offers c pool rest := by
  cases h : offer c pool pr.id pr.head.sha <;> simp [offers, h]

lemma goOn_batch {task : MergeTask} {pool : Pool} {batch : Batch} {next : PullRequest}
    (hb : pool.batch = some batch) (hn : pool.batch.bind (·.pullRequests.head?) = some next) :
    (∃ pool', goOn task pool = (pool', .ended (.ok ())) ∧ pool'.batch = none) ∨
    ∃ pool' b', goOn task pool = (pool', .paused task) ∧ pool'.batch = some b' ∧
      b'.pullRequests = batch.pullRequests.tail := by
  obtain ⟨batch', rest, hb', hlist, ⟨_, ho⟩ | ⟨_, ho⟩⟩ := goOn_cases task hn
  · exact .inl ⟨_, ho, rfl⟩
  · cases hb.symm.trans hb'
    exact .inr ⟨_, _, ho, rfl, by rw [hlist]; rfl⟩

lemma Stepped.spec {task : MergeTask} {pool : Pool} {batch : Batch} {l : List Said}
    {out : Pool × MergeState} (h : Stepped setup key task pool l out)
    (hb : pool.batch = some batch) :
    (mergeCalls l).Sublist (offers task.connection pool (batch.pullRequests.take 1)) ∧
    ((∃ pool' r, out = (pool', .ended r) ∧ pool'.batch = none) ∨
      ∃ pool' b', out = (pool', .paused task) ∧ pool'.batch = some b' ∧
        b'.pullRequests = batch.pullRequests.tail) := by
  have hover {p : Pool} {next : PullRequest} (hp : p.batch = some batch)
      (hn : p.batch.bind (·.pullRequests.head?) = some next) :
      (∃ pool' r, goOn task p = (pool', .ended r) ∧ pool'.batch = none) ∨
        ∃ pool' b', goOn task p = (pool', .paused task) ∧ pool'.batch = some b' ∧
          b'.pullRequests = batch.pullRequests.tail :=
    (goOn_batch hp hn).imp_left fun ⟨pool', ho, hn⟩ => ⟨pool', _, ho, hn⟩
  have hfirst {next : PullRequest} {t : Tracked} (hh : batch.pullRequests.head? = some next)
      (ht : pool.find? next.id = some t) (heq : t.pullRequest.head.sha = next.head.sha) :
      offers task.connection pool (batch.pullRequests.take 1) =
        [⟨task.connection, t.pullRequest.id, next.head.sha⟩] := by
    obtain ⟨rest, hlist⟩ := List.head?_eq_some_iff.mp hh
    rw [hlist, List.take_succ_cons, offers_cons, offer_eq_some_iff.mpr ⟨t, ht, heq, rfl⟩]
    rfl
  cases h with
  | empty => exact ⟨List.nil_sublist _, .inl ⟨_, _, rfl, rfl⟩⟩
  | dropped hn => exact ⟨List.nil_sublist _, hover hb hn⟩
  | @rejected next t l e hn ht heq ha =>
    have hh : batch.pullRequests.head? = some next := by simpa [hb] using hn
    refine ⟨?_, .inl ⟨_, _, rfl, rfl⟩⟩
    simpa [hfirst hh ht heq, Said.mergeCall?] using ha.calls
  | @merged next t l hn ht heq ha =>
    have hh : batch.pullRequests.head? = some next := by simpa [hb] using hn
    refine ⟨?_, hover (by simpa using hb) (head?_dequeue hn _)⟩
    simpa [hfirst hh ht heq] using ha.calls

lemma Finished.spec {out : Pool × MergeState} {l : List Said} {pool' : Pool}
    {r : Except Error Unit} (h : Finished setup key out l pool' r) :
    createdJobs l = [] ∧ ∀ pool task batch, out = (pool, .paused task) → pool.Sound →
      pool.batch = some batch → pool'.batch = none ∧
        (mergeCalls l).Sublist (offers task.connection pool batch.pullRequests) := by
  induction h with
  | ended =>
    refine ⟨rfl, ?_⟩
    rintro _ _ _ ⟨⟩
  | @paused pool task l out l' pool' r hst hfin ih =>
    obtain ⟨hjobs, hih⟩ := ih
    refine ⟨by simp [hst.noJobs, hjobs], ?_⟩
    rintro _ _ batch ⟨⟩ hs hb
    obtain ⟨hcalls, hout⟩ := hst.spec hb
    have hlist : offers task.connection pool batch.pullRequests =
        offers task.connection pool (batch.pullRequests.take 1) ++
          offers task.connection pool batch.pullRequests.tail := by
      rw [offers, offers, offers, ← List.filterMap_append, ← List.drop_one, List.take_append_drop]
    rw [mergeCalls_append, hlist]
    rcases hout with ⟨pool₁, r₁, rfl, hn⟩ | ⟨pool₁, b₁, rfl, hb₁, htail⟩
    · cases hfin
      exact ⟨hn, hcalls.append (List.nil_sublist _)⟩
    · obtain ⟨gone, ⟨hleft, _⟩, _⟩ := hst.departed hs
      obtain ⟨hn, hsub⟩ := hih pool₁ task b₁ rfl hleft.sound hb₁
      have ho : offers task.connection pool₁ batch.pullRequests.tail =
          offers task.connection pool batch.pullRequests.tail := by
        simp only [offers, offer_left hleft]
      rw [htail, ho] at hsub
      exact ⟨hn, hcalls.append hsub⟩

lemma Oldest.fresh {task : MergeTask} {pool pool' : Pool} {l : List Said}
    {r : Except Error Unit} (h : Oldest setup task pool l pool' r) (hs : pool.Sound)
    {call : MergeCall} (hcall : call ∈ mergeCalls l) : call.connection = task.connection ∧
      ∃ id t tip, pool.find? id = some t ∧ (pool.member id).bucket = some .success ∧
        call.id = t.pullRequest.id ∧ call.sha = t.pullRequest.head.sha ∧
        ⟨.host task.connection (.getBranch t.pullRequest.target), .ok tip⟩ ∈ l ∧
        isFresh task.connection.config t tip.commit = true := by
  have hbucket {first : UInt64} (hf : (pool.mergePool.bucket .success).head? = some first) :
      (pool.member first).bucket = some .success :=
    (MergePool.mem_bucket_iff hs.disjoint _ _).mp (List.mem_of_mem_head? hf)
  cases h with
  | @rejected first t l e tip hf ht hfresh ha =>
    have hmem : call ∈ mergeCalls l := by simpa [Said.mergeCall?] using hcall
    obtain rfl := List.mem_singleton.mp (ha.calls.subset hmem)
    exact ⟨rfl, first, t, tip, ht, hbucket hf, rfl, rfl, List.mem_cons_self, hfresh⟩
  | @merged first t l tip hf ht hfresh ha =>
    have hmem : call ∈ mergeCalls l := by simpa [Said.mergeCall?] using hcall
    obtain rfl := List.mem_singleton.mp (ha.calls.subset hmem)
    exact ⟨rfl, first, t, tip, ht, hbucket hf, rfl, rfl, List.mem_cons_self, hfresh⟩
  | batched _ _ _ ha => simp [Said.mergeCall?, ha.calls] at hcall
  | _ => simp [Said.mergeCall?] at hcall

lemma Merged.fresh {queue : Queue} {l : List Said} {pool : Pool}
    (h : Merged setup key queue l pool) (hs : queue.pool.Sound) (hb : queue.pool.batch = none)
    {call : MergeCall} (hcall : call ∈ mergeCalls l) :
    ⟨.getConfig queue.owner, .ok call.connection.config⟩ ∈ l ∧
      ∃ id t tip, queue.pool.find? id = some t ∧ (queue.pool.member id).bucket = some .success ∧
        call.id = t.pullRequest.id ∧ call.sha = t.pullRequest.head.sha ∧
        ⟨.host call.connection (.getBranch t.pullRequest.target), .ok tip⟩ ∈ l ∧
        isFresh call.connection.config t tip.commit = true := by
  obtain ⟨l, out, l', r, hstart, hfin, rfl⟩ := h
  cases hstart with
  | unread => cases hfin; simp [Said.mergeCall?] at hcall
  | off => cases hfin; simp [Said.mergeCall?] at hcall
  | unconnected _ hc =>
    cases hfin
    simp [Said.mergeCall?, mergeCalls_connect hc] at hcall
  | held _ _ hb' => rw [hb] at hb'; cases hb'
  | tested _ _ hb' => rw [hb] at hb'; cases hb'
  | @direct config merge lc c lo pool r hm hc _ ho =>
    cases hfin
    have hmem : call ∈ mergeCalls lo := by
      simpa [Said.mergeCall?, mergeCalls_connect hc] using hcall
    obtain ⟨hconn, id, t, tip, ht, hbucket, hid, hsha, htip, hfresh⟩ := ho.fresh hs hmem
    have hconf : call.connection.config = config := by
      rw [hconn]
      exact (connect_course hc).2 c rfl
    rw [← hconn] at htip hfresh
    refine ⟨?_, id, t, tip, ht, hbucket, hid, hsha, ?_, hfresh⟩
    · simp [hconf]
    · simp [htip]

lemma Merged.direct {queue : Queue} {l : List Said} {pool : Pool}
    (h : Merged setup key queue l pool) (hs : queue.pool.Sound) (hb : queue.pool.batch = none)
    {call : MergeCall} (hcall : call ∈ mergeCalls l) :
    ⟨.getConfig queue.owner, .ok call.connection.config⟩ ∈ l ∧
      ∃ id t, queue.pool.find? id = some t ∧ (queue.pool.member id).bucket = some .success ∧
        call.id = t.pullRequest.id ∧ call.sha = t.pullRequest.head.sha := by
  obtain ⟨hget, id, t, _, ht, hbucket, hid, hsha, _⟩ := h.fresh hs hb hcall
  exact ⟨hget, id, t, ht, hbucket, hid, hsha⟩

lemma mergePass_asked {table table' : Table} {log : List Exchange} {pauses : Nat}
    (h : (mergePass setup table).Course log (table', pauses)) {k : Option String} {call : MergeCall}
    (hcall : (k, call) ∈ mergesAsked log) : ∃ key queue pool, k = some key ∧
      table.find? key = some queue ∧ table'.find? key = some { queue with pool } ∧
      Merged setup key queue (heard key log) pool ∧ call ∈ mergeCalls (heard key log) := by
  obtain ⟨e, he, hm⟩ := List.mem_filterMap.mp hcall
  obtain ⟨call', hc, ho⟩ := Option.map_eq_some_iff.mp hm
  cases ho
  obtain ⟨key, hkey⟩ := Option.isSome_iff_exists.mp (keyed_mergePass table _ _ h e he)
  have hheard : call ∈ mergeCalls (heard key log) :=
    List.mem_filterMap.mpr ⟨e.said, mem_heard he hkey, hc⟩
  obtain ⟨hnone, hsome⟩ := mergePass_course h key
  cases hq : table.find? key with
  | none =>
    rw [(hnone hq).1] at hheard
    cases hheard
  | some queue =>
    obtain ⟨pool, hmerged, hq'⟩ := hsome queue hq
    exact ⟨key, queue, pool, hkey, hq, hq', hmerged, hheard⟩

lemma Merged.tested {queue : Queue} {l : List Said} {pool : Pool}
    (h : Merged setup key queue l pool) (hs : queue.pool.Sound) {batch : Batch}
    (hb : queue.pool.batch = some batch) (hcalls : mergeCalls l ≠ []) :
    ∃ job c, batch.job = some job ∧ ⟨.jobState job, .ok .completed⟩ ∈ l ∧
      ⟨.getConfig queue.owner, .ok c.config⟩ ∈ l ∧ pool.batch = none ∧
      (mergeCalls l).Sublist (offers c queue.pool batch.pullRequests) := by
  obtain ⟨l, out, l', r, hstart, hfin, rfl⟩ := h
  cases hstart with
  | unread => cases hfin; simp [Said.mergeCall?] at hcalls
  | off => cases hfin; simp [Said.mergeCall?] at hcalls
  | unconnected _ hc =>
    cases hfin
    simp [Said.mergeCall?, mergeCalls_connect hc] at hcalls
  | direct _ _ hb' => rw [hb] at hb'; cases hb'
  | held _ hc _ ha =>
    cases hfin
    simp [Said.mergeCall?, mergeCalls_connect hc, ha.calls] at hcalls
  | @tested config merge lc c _ job ls out hm hc hb' hj hst =>
    cases hb.symm.trans hb'
    have hconf := (connect_course hc).2 c rfl
    refine ⟨job, c, hj, by simp, by simp [hconf], ?_⟩
    -- the first step and those after the pauses go through the batch as one sequence of steps
    have hall : Finished setup key (queue.pool, .paused ⟨c, merge⟩) (ls ++ l') pool r :=
      .paused hst hfin
    obtain ⟨hnone, hsub⟩ := hall.spec.2 _ _ _ rfl hs hb
    refine ⟨hnone, ?_⟩
    simpa [Said.mergeCall?, mergeCalls_connect hc] using hsub

end Engine

lemma inBatch_iff {pool : Pool} {id : UInt64} :
    pool.inBatch id = true ↔ ∃ batch, pool.batch = some batch ∧ ∃ pr ∈ batch.pullRequests,
      pr.id = id := by
  simp [Pool.inBatch, Batch.contains, Batch.ids, Option.any_eq_true]

lemma Pool.mem_mergeOrder {pool : Pool} (hs : pool.Sound) {id : UInt64}
    (h : id ∈ pool.mergeOrder) :
    (pool.member id).bucket = some .success ∨ pool.inBatch id = true := by
  cases hb : pool.batch with
  | none =>
    rw [mergeOrder_of_none hb] at h
    exact .inl ((MergePool.mem_bucket_iff hs.disjoint id .success).mp h)
  | some batch =>
    rw [mergeOrder_of_batch hb] at h
    obtain ⟨pr, hpr, hid⟩ := List.mem_map.mp h
    exact .inr (inBatch_iff.mpr ⟨batch, hb, pr, hpr, hid⟩)

lemma Engine.Merged.record {setup : Setup} {key : String} {queue : Queue} {l : List Said}
    {pool : Pool} (h : Merged setup key queue l pool) (hs : queue.pool.Sound) {call : MergeCall}
    (hcall : call ∈ mergeCalls l) :
    ⟨.getConfig queue.owner, .ok call.connection.config⟩ ∈ l ∧
      ∃ id t, queue.pool.find? id = some t ∧ call.id = t.pullRequest.id ∧
        call.sha = t.pullRequest.head.sha ∧
        ((queue.pool.batch = none ∧ (queue.pool.member id).bucket = some .success) ∨
          (queue.pool.batch ≠ none ∧ queue.pool.inBatch id = true)) := by
  cases hb : queue.pool.batch with
  | none =>
    obtain ⟨hget, id, t, ht, hbucket, hid, hsha⟩ := h.direct hs hb hcall
    exact ⟨hget, id, t, ht, hid, hsha, .inl ⟨rfl, hbucket⟩⟩
  | some batch =>
    obtain ⟨job, c, _, _, hget, _, hsub⟩ := h.tested hs hb (List.ne_nil_of_mem hcall)
    obtain ⟨pr, hpr, hoffer⟩ := List.mem_filterMap.mp (hsub.subset hcall)
    obtain ⟨t, ht, hsha, rfl⟩ := offer_eq_some_iff.mp hoffer
    have hin := inBatch_iff.mpr ⟨batch, hb, pr, hpr, rfl⟩
    exact ⟨hget, pr.id, t, ht, rfl, hsha.symm, .inr ⟨by simp, hin⟩⟩

end MergeQueue
