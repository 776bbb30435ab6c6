import MergeQueue.Proofs.Run.MergeStep

/-! What a merge pass does to one queue. The queues that pause are gone through in turns, and yet
each takes the course it would take alone. -/

namespace MergeQueue.Engine

open Dialogue

variable {setup : Setup} {key : String}

inductive Finished (setup : Setup) (key : String) :
    Pool × MergeState → List Said → Pool → Except Error Unit → Prop
  | ended {pool r} : Finished setup key (pool, .ended r) [] pool r
  | paused {pool task l out l' pool' r} : Stepped setup key task pool l out →
      Finished setup key out l' pool' r → Finished setup key (pool, .paused task) (l ++ l') pool' r

def Merged (setup : Setup) (key : String) (queue : Queue) (said : List Said) (pool : Pool) : Prop :=
  ∃ l out l' r, Started setup key queue l out ∧ Finished setup key out l' pool r ∧
    said = l ++ l' ++ noted (.mergePass key) r

def batchSize (pool : Pool) : Nat := (pool.batch.map (·.pullRequests.length)).getD 0

lemma batchSize_goOn {task task' : MergeTask} {pool pool' : Pool} {next : PullRequest}
    (hn : pool.batch.bind (·.pullRequests.head?) = some next)
    (h : goOn task pool = (pool', .paused task')) : batchSize pool' < batchSize pool := by
  obtain ⟨batch, rest, hb, hlist, ⟨_, ho⟩ | ⟨_, ho⟩⟩ := goOn_cases task hn
  · cases ho.symm.trans h
  · cases ho.symm.trans h
    simp [batchSize, Pool.setBatch, hb, hlist]

lemma Stepped.batchSize_lt {task task' : MergeTask} {pool pool' : Pool} {l : List Said}
    (h : Stepped setup key task pool l (pool', .paused task')) :
    batchSize pool' < batchSize pool := by
  generalize ho : (pool', MergeState.paused task') = out at h
  cases h with
  | empty => cases ho
  | dropped hn => exact batchSize_goOn hn ho.symm
  | rejected => cases ho
  | @merged next _ _ hn _ _ _ =>
    have hd : batchSize (pool.dequeue next.id) = batchSize pool := by simp [batchSize]
    rw [← hd]
    exact batchSize_goOn (head?_dequeue hn _) ho.symm

structure Share where
  queue : Option Queue
  result : Option (Except Error Unit)
  paused : List Paused

def Share.after (s : Share) (key : String) (queue : Queue) : MergeState → Share
  | .ended r => ⟨some queue, some r, s.paused⟩
  | .paused task => ⟨some queue, s.result, s.paused ++ [⟨key, task, none⟩]⟩
  | .broken => ⟨some queue, s.result, s.paused⟩

def Merging.share (m : Merging) (key : String) : Share :=
  ⟨m.table.find? key, m.results.find? key, m.paused.filter fun p => p.key = key⟩

lemma share_settle_own {m : Merging} {queue : Queue} (h : m.table.find? key = some queue)
    (pool : Pool) (state : MergeState) :
    (m.settle key none pool state).share key =
      (m.share key).after key { queue with pool } state := by
  cases state with
  | ended r =>
    simp [Merging.settle, Merging.share, Share.after, find?_setPool, h, SortedMap.find?_insert]
  | paused task => simp [Merging.settle, Merging.share, Share.after, find?_setPool, h]
  | broken => simp [Merging.settle, Merging.share, Share.after, find?_setPool, h]

lemma share_settle_other {m : Merging} {k : String} (h : k ≠ key) (dropped : Option Pool)
    (pool : Pool) (state : MergeState) :
    (m.settle k dropped pool state).share key = m.share key := by
  have ht : (m.table.setPool k pool).find? key = m.table.find? key := by
    rw [find?_setPool, if_neg (Ne.symm h)]
  simp only [Merging.settle]
  cases dropped <;> cases state <;>
    simp [Merging.share, SortedMap.find?_insert, ht, h, Ne.symm h]

lemma startEach_course {keys : List String} {m m' : Merging} {log : List Exchange}
    (h : (Merging.startEach setup keys m).Course log m') (hk : keys.Nodup) (key : String) :
    (key ∉ keys ∨ m.table.find? key = none → heard key log = [] ∧ m'.share key = m.share key) ∧
    (∀ queue, key ∈ keys → m.table.find? key = some queue → ∃ pool state,
      Started setup key queue (heard key log) (pool, state) ∧
        m'.share key = (m.share key).after key { queue with pool } state) := by
  induction keys generalizing m log with
  | nil =>
    obtain ⟨rfl, rfl⟩ := h
    simp
  | cons k rest ih =>
    obtain ⟨hnot, hk⟩ := List.nodup_cons.mp hk
    rw [Merging.startEach] at h
    cases hq : m.table.find? k with
    | none =>
      simp only [hq] at h
      obtain ⟨hnone, hsome⟩ := ih h hk
      refine ⟨fun hor => hnone ?_, fun queue hmem hf => hsome queue ?_ hf⟩
      · simp only [List.mem_cons, not_or] at hor
        exact hor.imp (·.2) id
      · apply (List.mem_cons.mp hmem).resolve_left
        rintro rfl
        simp [hq] at hf
    | some queue =>
      simp only [hq] at h
      obtain ⟨l, ⟨pool, state⟩, back, rfl, hv, hs⟩ := course_about_bind.mp h
      obtain ⟨hnone, hsome⟩ := ih hs hk
      by_cases hkey : k = key
      · subst hkey
        obtain ⟨hh, ht⟩ := hnone (.inl hnot)
        rw [heard_append, heard_own, hh, ht, share_settle_own hq, List.append_nil]
        refine ⟨fun hor => ?_, ?_⟩
        · simp [hq] at hor
        · rintro _ _ hf
          cases hq.symm.trans hf
          exact ⟨pool, state, startMerge_course hv, rfl⟩
      · have ht : (m.settle k none pool state).table.find? key = m.table.find? key :=
          congrArg Share.queue (share_settle_other hkey none pool state)
        rw [ht, share_settle_other hkey] at hnone hsome
        rw [heard_append, heard_other hkey, List.nil_append]
        refine ⟨fun hor => hnone ?_, fun queue' hmem hf => hsome queue' ?_ hf⟩
        · simp only [List.mem_cons, not_or] at hor
          exact hor.imp (·.2) id
        · exact (List.mem_cons.mp hmem).resolve_left (Ne.symm hkey)

lemma resumeEach_course {ps : List Paused} {m m' : Merging} {log : List Exchange}
    (h : (Merging.resumeEach setup ps m).Course log m') (key : String) :
    (ps.filter (fun p => p.key = key) = [] → heard key log = [] ∧ m'.share key = m.share key) ∧
    (∀ task queue, ps.filter (fun p => p.key = key) = [⟨key, task, none⟩] →
      m.table.find? key = some queue → ∃ pool state,
        Stepped setup key task queue.pool (heard key log) (pool, state) ∧
          m'.share key = (m.share key).after key { queue with pool } state) := by
  induction ps generalizing m log with
  | nil =>
    obtain ⟨rfl, rfl⟩ := h
    simp
  | cons p rest ih =>
    obtain ⟨l, ⟨pool, state⟩, back, rfl, hv, hs⟩ := course_about_bind.mp h
    obtain ⟨hnone, hsome⟩ := ih hs
    by_cases hkey : p.key = key
    · refine ⟨fun hf => ?_, fun task queue hf hq => ?_⟩
      · simp [hkey] at hf
      · simp only [List.filter_cons, hkey, decide_true, if_true] at hf
        obtain ⟨rfl, hr⟩ := List.cons.inj hf
        obtain ⟨hh, ht⟩ := hnone hr
        have hp : m.poolOf ⟨key, task, none⟩ = queue.pool := by
          simp [Merging.poolOf, Table.pool?, hq]
        rw [heard_append, heard_own, hh, ht, share_settle_own hq, List.append_nil]
        rw [hp] at hv
        exact ⟨pool, state, mergeNext_course hv, rfl⟩
    · have ht : (m.settle p.key p.dropped pool state).table.find? key = m.table.find? key :=
        congrArg Share.queue (share_settle_other hkey p.dropped pool state)
      rw [share_settle_other hkey] at hnone hsome
      rw [ht] at hsome
      rw [heard_append, heard_other hkey, List.nil_append]
      simp only [List.filter_cons, hkey, decide_false, Bool.false_eq_true, if_false]
      exact ⟨hnone, hsome⟩

lemma resume_course {m m' : Merging} {log : List Exchange}
    (h : (m.resume setup).Course log m') (key : String) :
    ((m.share key).paused = [] → heard key log = [] ∧ m'.share key = m.share key) ∧
    (∀ queue task, m.share key = ⟨some queue, none, [⟨key, task, none⟩]⟩ → ∃ pool state,
      Stepped setup key task queue.pool (heard key log) (pool, state) ∧
        m'.share key = Share.after ⟨some queue, none, []⟩ key { queue with pool } state) := by
  obtain ⟨hnone, hsome⟩ := resumeEach_course h key
  refine ⟨fun hp => ?_, fun queue task hs => ?_⟩
  · obtain ⟨hh, hs⟩ := hnone hp
    exact ⟨hh, hs.trans (congrArg (Share.mk _ _) hp.symm)⟩
  · have hbefore : Merging.share { m with paused := [] } key = ⟨some queue, none, []⟩ :=
      Share.mk.injEq .. ▸ ⟨congrArg Share.queue hs, congrArg Share.result hs, rfl⟩
    rw [← hbefore]
    exact hsome task queue (congrArg Share.paused hs) (congrArg Share.queue hs)

lemma resume_over {m : Merging} (h : m.paused = []) : m.resume setup = pure m := by
  obtain ⟨table, results, paused⟩ := m
  obtain rfl : paused = [] := h
  rfl

lemma finishWithin_over {m : Merging} (h : m.paused = []) (n : Nat) :
    Merging.finishWithin setup n m = pure (m, 0) := by
  cases n <;> simp [Merging.finishWithin, h]

lemma course_finishWithin {n pauses : Nat} {m m' : Merging} {log : List Exchange}
    (h : m.paused ≠ []) : (Merging.finishWithin setup (n + 1) m).Course log (m', pauses) ↔
      ∃ front m₁ back pauses', log = front ++ back ∧ (m.resume setup).Course front m₁ ∧
        (Merging.finishWithin setup n m₁).Course back (m', pauses') ∧ pauses = pauses' + 1 := by
  rw [Merging.finishWithin, if_neg (by simpa using h)]
  constructor
  · intro hc
    obtain ⟨front, m₁, _, rfl, hr, hd⟩ := (course_bind _ _ _ _).mp hc
    obtain ⟨back, ⟨m₂, pauses'⟩, _, rfl, hf, rfl, ho⟩ := (course_bind _ _ _ _).mp hd
    cases ho
    rw [List.append_nil]
    exact ⟨front, m₁, back, pauses', rfl, hr, hf, rfl⟩
  · rintro ⟨front, m₁, back, pauses', rfl, hr, hf, rfl⟩
    exact Course.bind hr (Course.map hf fun out => (out.1, out.2 + 1))

lemma finishWithin_course {n pauses : Nat} {m m' : Merging} {log : List Exchange}
    (h : (Merging.finishWithin setup n m).Course log (m', pauses)) (key : String) :
    ((m.share key).paused = [] → heard key log = [] ∧ m'.share key = m.share key) ∧
    (∀ queue task, m.share key = ⟨some queue, none, [⟨key, task, none⟩]⟩ →
      batchSize queue.pool < n → ∃ pool r,
        Finished setup key (queue.pool, .paused task) (heard key log) pool r ∧
          m'.share key = ⟨some { queue with pool }, some r, []⟩) := by
  induction n generalizing m log pauses with
  | zero =>
    obtain ⟨rfl, ho⟩ := h
    cases ho
    simp
  | succ n ih =>
    by_cases hp : m.paused = []
    · rw [finishWithin_over hp] at h
      obtain ⟨rfl, ho⟩ := h
      cases ho
      refine ⟨fun _ => ⟨rfl, rfl⟩, fun queue task hs => ?_⟩
      have hpaused := congrArg Share.paused hs
      simp [Merging.share, hp] at hpaused
    · obtain ⟨front, m₁, back, _, rfl, hr, hf, _⟩ := (course_finishWithin hp).mp h
      obtain ⟨hnone, hsome⟩ := resume_course hr key
      obtain ⟨hover, hpaused⟩ := ih hf
      refine ⟨fun hp => ?_, fun queue task hs hlt => ?_⟩
      · obtain ⟨hh, hs⟩ := hnone hp
        obtain ⟨hh', hs'⟩ := hover (by rw [hs, hp])
        rw [heard_append, hh, hh', hs', hs]
        exact ⟨rfl, rfl⟩
      · obtain ⟨pool, state, hstep, hs₁⟩ := hsome queue task hs
        rw [heard_append]
        cases state with
        | ended r =>
          obtain ⟨hh, hs'⟩ := hover (by rw [hs₁]; rfl)
          rw [hh, hs', hs₁]
          exact ⟨pool, r, .paused hstep .ended, rfl⟩
        | paused task' =>
          have hsize : batchSize pool < n := by
            have hlt' := hstep.batchSize_lt
            omega
          obtain ⟨pool', r, hfin, hs'⟩ := hpaused { queue with pool } task' hs₁ hsize
          exact ⟨pool', r, .paused hstep hfin, hs'⟩
        | broken => exact absurd rfl hstep.ne_broken

lemma le_foldl_add (ps : List Paused) (f : Paused → Nat) (n : Nat) :
    n ≤ ps.foldl (fun n p => n + f p) n ∧ ∀ p ∈ ps, f p ≤ ps.foldl (fun n p => n + f p) n := by
  induction ps generalizing n with
  | nil => simp
  | cons first rest ih =>
    obtain ⟨hn, hr⟩ := ih (n + f first)
    rw [List.foldl_cons]
    refine ⟨by omega, fun p hp => ?_⟩
    rcases List.mem_cons.mp hp with rfl | hp
    · omega
    · exact hr p hp

lemma batchSize_le_remaining {m : Merging} {queue : Queue} {task : MergeTask}
    (hq : m.table.find? key = some queue) (hp : ⟨key, task, none⟩ ∈ m.paused) :
    batchSize queue.pool ≤ m.remaining := by
  have hle := (le_foldl_add m.paused (fun p => batchSize (m.poolOf p)) 0).2 _ hp
  have hpool : m.poolOf ⟨key, task, none⟩ = queue.pool := by
    simp [Merging.poolOf, Table.pool?, hq]
  rwa [hpool] at hle

lemma warnAll_course {results : List (String × Except Error Unit)} {log : List Exchange} {u : Unit}
    (h : (Merging.warnAll results).Course log u) (hk : (results.map (·.1)).Nodup) (key : String) :
    heard key log = ((results.find? fun e => e.1 = key).map
      fun e => noted (.mergePass key) e.2).getD [] := by
  induction results generalizing log with
  | nil =>
    obtain ⟨rfl, _⟩ := h
    rfl
  | cons first rest ih =>
    obtain ⟨hnot, hkr⟩ := List.nodup_cons.mp hk
    obtain ⟨k, r⟩ := first
    have hlog : ∃ back, (Merging.warnAll rest).Course back u ∧
        log = (noted (.mergePass k) r).map (Said.addressed (some k)) ++ back := by
      cases r with
      | error e =>
        obtain ⟨l, _, back, rfl, hw, hd⟩ := course_about_bind.mp h
        obtain rfl := (course_question _ _ _).mp hw
        exact ⟨back, hd, rfl⟩
      | ok _ => exact ⟨log, h, rfl⟩
    obtain ⟨back, hd, rfl⟩ := hlog
    have hrest := ih hd hkr
    by_cases hkey : k = key
    · subst hkey
      have hnone : rest.find? (fun e => e.1 = k) = none := by
        simp only [List.find?_eq_none, decide_eq_true_eq]
        rintro e he rfl
        exact hnot (List.mem_map.mpr ⟨e, he, rfl⟩)
      rw [hnone] at hrest
      rw [heard_append, heard_own, hrest]
      simp
    · rw [heard_append, heard_other hkey, hrest]
      simp [hkey]

lemma keyed_startEach (keys : List String) (m : Merging) :
    Keyed (Merging.startEach setup keys m) := by
  induction keys generalizing m with
  | nil => exact .done _
  | cons key rest ih =>
    rw [Merging.startEach]
    split
    · exact ih _
    · exact (keyed_about _ _).bind fun _ => ih _

lemma keyed_resumeEach (ps : List Paused) (m : Merging) :
    Keyed (Merging.resumeEach setup ps m) := by
  induction ps generalizing m with
  | nil => exact .done _
  | cons p rest ih => exact (keyed_about _ _).bind fun _ => ih _

lemma keyed_finishWithin (n : Nat) (m : Merging) : Keyed (Merging.finishWithin setup n m) := by
  induction n generalizing m with
  | zero => exact .done _
  | succ n ih =>
    rw [Merging.finishWithin]
    split
    · exact .done _
    · exact (keyed_resumeEach _ _).bind fun _ => (ih _).bind fun _ => .done _

lemma keyed_warnAll (results : List (String × Except Error Unit)) :
    Keyed (Merging.warnAll results) := by
  induction results with
  | nil => exact .done _
  | cons first rest ih =>
    obtain ⟨key, r⟩ := first
    cases r with
    | error e => exact (keyed_about _ _).bind fun _ => ih
    | ok _ => exact ih

lemma keyed_mergePass (table : Table) : Keyed (mergePass setup table) :=
  (keyed_startEach _ _).bind fun _ => (keyed_finishWithin _ _).bind fun _ =>
    (keyed_warnAll _).bind fun _ => .done _

lemma mergePass_course {table table' : Table} {log : List Exchange} {pauses : Nat}
    (h : (mergePass setup table).Course log (table', pauses)) (key : String) :
    (table.find? key = none → heard key log = [] ∧ table'.find? key = none) ∧
    ∀ queue, table.find? key = some queue → ∃ pool,
      Merged setup key queue (heard key log) pool ∧ table'.find? key = some { queue with pool } := by
  obtain ⟨front, m, _, rfl, hs, hd⟩ := (course_bind _ _ _ _).mp h
  obtain ⟨middle, ⟨m', pauses⟩, _, rfl, hf, hd⟩ := (course_bind _ _ _ _).mp hd
  obtain ⟨back, u, _, rfl, hw, rfl, ho⟩ := (course_bind _ _ _ _).mp hd
  cases ho
  have hwarn := warnAll_course hw m'.results.keys_nodup key
  have hwarn' : heard key back = ((m'.share key).result.map (noted (.mergePass key))).getD [] := by
    simp only [hwarn, Merging.share, SortedMap.find?, Option.map_map]
    rfl
  obtain ⟨hnone, hsome⟩ := startEach_course hs table.keys_nodup key
  obtain ⟨hover, hpaused⟩ := finishWithin_course hf key
  simp only [heard_append, hwarn', List.append_nil]
  refine ⟨fun hq => ?_, fun queue hq => ?_⟩
  · obtain ⟨hh, hshare⟩ := hnone (.inr hq)
    have hshare : m.share key = ⟨none, none, []⟩ := by
      rw [hshare, Merging.share, hq]
      rfl
    obtain ⟨hh', hshare'⟩ := hover (by rw [hshare])
    rw [hshare] at hshare'
    rw [hh, hh', hshare']
    exact ⟨rfl, congrArg Share.queue hshare'⟩
  · have hmem : key ∈ table.keys := by
      rw [← SortedMap.find?_isSome_iff, hq]
      rfl
    obtain ⟨pool, state, hstart, hshare⟩ := hsome queue hmem hq
    cases state with
    | ended r =>
      have hshare : m.share key = ⟨some { queue with pool }, some r, []⟩ := hshare
      obtain ⟨hh, hshare'⟩ := hover (by rw [hshare])
      rw [hshare] at hshare'
      rw [hh, hshare', List.nil_append]
      exact ⟨pool, ⟨_, _, [], r, hstart, .ended, by simp⟩, congrArg Share.queue hshare'⟩
    | paused task =>
      have hshare : m.share key = ⟨some { queue with pool }, none, [⟨key, task, none⟩]⟩ := hshare
      have hpmem : ⟨key, task, none⟩ ∈ m.paused := by
        have hm : ⟨key, task, none⟩ ∈ (m.share key).paused := by simp [hshare]
        exact (List.mem_filter.mp hm).1
      have hsize := batchSize_le_remaining (congrArg Share.queue hshare) hpmem
      obtain ⟨pool', r, hfin, hshare'⟩ := hpaused _ task hshare (Nat.lt_succ_of_le hsize)
      rw [hshare']
      exact ⟨pool', ⟨_, _, _, r, hstart, hfin, by simp⟩, congrArg Share.queue hshare'⟩
    | broken => exact absurd rfl hstart.ne_broken

end MergeQueue.Engine
