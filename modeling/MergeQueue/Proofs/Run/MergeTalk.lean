import MergeQueue.Proofs.Run.MergePass

namespace MergeQueue.Engine

open Dialogue

variable {setup : Setup} {key : String} {config : RepoConfig} {P : Said → Prop}

structure MergeLaw (key : String) (config : RepoConfig) (P : Said → Prop) : Prop where
  connect : ∀ token r, P ⟨.connect ⟨config, token⟩, r⟩
  branch : ∀ token name r, P ⟨.host ⟨config, token⟩ (.getBranch name), r⟩
  merge : ∀ token id sha method message r,
    P ⟨.host ⟨config, token⟩ (.mergePullRequest id sha method message), r⟩
  suffix : ∀ r, P ⟨.drawSuffix, r⟩
  create : ∀ request r, P ⟨.createJob request, r⟩
  state : ∀ job r, P ⟨.jobState job, r⟩
  vanished : ∀ job, P ⟨.warn (.jobVanished key job), ()⟩
  rejected : ∀ id e, P ⟨.warn (.mergeRejected key id e), ()⟩

lemma MergeLaw.connecting (law : MergeLaw key config P) {l : List Said}
    {r : Except Error Connection} (h : (Engine.connect setup config).Course l r) :
    ∀ s ∈ l, P s := by
  rcases connect_asks h with ⟨_, rfl, _⟩ | ⟨token, reply, _, rfl, _⟩
  · simp
  · exact List.forall_mem_singleton.mpr (law.connect token reply)

lemma MergeAsked.all {task : MergeTask} {pr : PullRequest} {sha : String} {l : List Said}
    {r : Except Error Unit} (h : MergeAsked setup task pr sha l r)
    (law : MergeLaw key task.connection.config P) : ∀ s ∈ l, P s := by
  cases h with
  | unrendered => simp
  | replied => exact List.forall_mem_singleton.mpr (law.merge task.connection.token _ _ _ _ _)

lemma JobAsked.all {config' : RepoConfig} {tip : String} {pool pool' : Pool} {l : List Said}
    {r : Except Error Unit} (h : JobAsked setup config' tip pool l pool' r)
    (law : MergeLaw key config P) : ∀ s ∈ l, P s := by
  cases h with
  | none => simp
  | inapplicable => simp
  | refused =>
    exact List.forall_mem_cons.mpr ⟨law.suffix _, List.forall_mem_singleton.mpr (law.create _ _)⟩
  | created =>
    exact List.forall_mem_cons.mpr ⟨law.suffix _, List.forall_mem_singleton.mpr (law.create _ _)⟩

lemma Advanced.all {c : Connection} {batch : Batch} {pool pool' : Pool} {l : List Said}
    {r : Except Error Bool} (h : Advanced setup key c batch pool l pool' r)
    (law : MergeLaw key c.config P) : ∀ s ∈ l, P s := by
  cases h with
  | lost => exact List.forall_mem_singleton.mpr (law.branch c.token _ _)
  | asked _ ha => exact List.forall_mem_cons.mpr ⟨law.branch c.token _ _, ha.all law⟩
  | vanished =>
    exact List.forall_mem_cons.mpr ⟨law.state _ _, List.forall_mem_singleton.mpr (law.vanished _)⟩
  | _ => exact List.forall_mem_singleton.mpr (law.state _ _)

lemma Stepped.all {task : MergeTask} {pool : Pool} {l : List Said} {out : Pool × MergeState}
    (h : Stepped setup key task pool l out) (law : MergeLaw key task.connection.config P) :
    ∀ s ∈ l, P s := by
  cases h with
  | rejected _ _ _ ha =>
    exact List.forall_mem_append.mpr
      ⟨ha.all law, List.forall_mem_singleton.mpr (law.rejected _ _)⟩
  | merged _ _ _ ha => exact ha.all law
  | _ => simp

lemma Oldest.all {task : MergeTask} {pool pool' : Pool} {l : List Said} {r : Except Error Unit}
    (h : Oldest setup task pool l pool' r) (law : MergeLaw key task.connection.config P) :
    ∀ s ∈ l, P s := by
  have hbranch := law.branch task.connection.token
  cases h with
  | idle => simp
  | untracked => simp
  | lost => exact List.forall_mem_singleton.mpr (hbranch _ _)
  | rejected _ _ _ ha => exact List.forall_mem_cons.mpr ⟨hbranch _ _, ha.all law⟩
  | merged _ _ _ ha => exact List.forall_mem_cons.mpr ⟨hbranch _ _, ha.all law⟩
  | batched _ _ _ ha => exact List.forall_mem_cons.mpr ⟨hbranch _ _, ha.all law⟩

lemma goOn_task {task task' : MergeTask} {pool pool' : Pool} {next : PullRequest}
    (hn : pool.batch.bind (·.pullRequests.head?) = some next)
    (h : goOn task pool = (pool', .paused task')) : task' = task := by
  obtain ⟨_, _, _, _, ⟨_, ho⟩ | ⟨_, ho⟩⟩ := goOn_cases task hn
  · cases ho.symm.trans h
  · cases ho.symm.trans h
    rfl

lemma Stepped.task {task task' : MergeTask} {pool pool' : Pool} {l : List Said}
    (h : Stepped setup key task pool l (pool', .paused task')) : task' = task := by
  generalize ho : (pool', MergeState.paused task') = out at h
  cases h with
  | empty => cases ho
  | dropped hn => exact goOn_task hn ho.symm
  | rejected => cases ho
  | merged hn => exact goOn_task (head?_dequeue hn _) ho.symm

lemma Finished.all {out : Pool × MergeState} {l : List Said} {pool : Pool}
    {r : Except Error Unit} (h : Finished setup key out l pool r) (law : MergeLaw key config P)
    (hc : ∀ task, out.2 = .paused task → task.connection.config = config) : ∀ s ∈ l, P s := by
  induction h with
  | ended => simp
  | @paused pool task l out l' pool' r hst hfin ih =>
    obtain rfl := hc task rfl
    refine List.forall_mem_append.mpr ⟨hst.all law, ih fun task' ho => ?_⟩
    obtain ⟨pool₁, state⟩ := out
    cases ho
    rw [hst.task]

lemma Started.all {queue : Queue} {l : List Said} {out : Pool × MergeState}
    (h : Started setup key queue l out) : ∃ reply rest,
      l = ⟨.getConfig queue.owner, reply⟩ :: rest ∧
      (∀ P, (∀ config, reply = .ok config → MergeLaw key config P) → ∀ s ∈ rest, P s) ∧
      ∀ task, out.2 = .paused task → reply = .ok task.connection.config := by
  cases h with
  | unread => exact ⟨_, _, rfl, by simp, by simp⟩
  | off => exact ⟨_, _, rfl, by simp, by simp⟩
  | unconnected _ hc => exact ⟨_, _, rfl, fun P law => (law _ rfl).connecting hc, by simp⟩
  | @direct config merge lc c lo pool r _ hc _ ho =>
    obtain rfl := (connect_course hc).2 c rfl
    refine ⟨_, _, rfl, fun P law => ?_, by simp⟩
    exact List.forall_mem_append.mpr ⟨(law _ rfl).connecting hc, ho.all (law _ rfl)⟩
  | @held config merge lc c batch la pool r _ hc _ ha _ =>
    obtain rfl := (connect_course hc).2 c rfl
    refine ⟨_, _, rfl, fun P law => ?_, by simp⟩
    exact List.forall_mem_append.mpr ⟨(law _ rfl).connecting hc, ha.all (law _ rfl)⟩
  | @tested config merge lc c batch job ls out _ hc _ _ hst =>
    obtain rfl := (connect_course hc).2 c rfl
    refine ⟨_, _, rfl, fun P law => ?_, fun task ho => ?_⟩
    · refine List.forall_mem_append.mpr ⟨(law _ rfl).connecting hc, ?_⟩
      exact List.forall_mem_cons.mpr ⟨(law _ rfl).state _ _, hst.all (law _ rfl)⟩
    · obtain ⟨pool₁, state⟩ := out
      cases ho
      rw [hst.task]

lemma Merged.all {queue : Queue} {said : List Said} {pool : Pool}
    (h : Merged setup key queue said pool) : ∃ reply rest, ∃ r : Except Error Unit,
      said = ⟨.getConfig queue.owner, reply⟩ :: rest ++ noted (.mergePass key) r ∧
      ∀ P, (∀ config, reply = .ok config → MergeLaw key config P) → ∀ s ∈ rest, P s := by
  obtain ⟨l, out, l', r, hstart, hfin, rfl⟩ := h
  obtain ⟨reply, rest, rfl, hrest, htask⟩ := hstart.all
  refine ⟨reply, rest ++ l', r, by simp, fun P law => ?_⟩
  refine List.forall_mem_append.mpr ⟨hrest P law, ?_⟩
  cases reply with
  | error e =>
    have hended : ∀ task, out.2 ≠ .paused task := fun task ho => by cases htask task ho
    cases hfin with
    | ended => simp
    | paused => exact absurd rfl (hended _)
  | ok config => exact hfin.all (law config rfl) fun task ho => (Except.ok.inj (htask task ho)).symm

end MergeQueue.Engine
