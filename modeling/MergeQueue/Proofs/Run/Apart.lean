import MergeQueue.Proofs.Run.Queue

/-! Runs with one repository left out. What is said for the other queues in a pass, and what becomes
of them, is the course of a pass in which that repository has never been. -/

namespace MergeQueue

open Engine Dialogue

variable {setup : Setup} {repo key : String} {α β γ : Type}

def apart (repo : String) (log : List Exchange) : List Exchange :=
  log.filter fun e => e.1.key ≠ some repo

@[simp] lemma apart_append (front back : List Exchange) :
    apart repo (front ++ back) = apart repo front ++ apart repo back := List.filter_append ..

lemma apart_own (said : List Said) : apart repo (said.map (Said.addressed (some repo))) = [] := by
  refine List.filter_eq_nil_iff.mpr fun e he => ?_
  obtain ⟨s, _, rfl⟩ := List.mem_map.mp he
  simp [Said.addressed]

lemma apart_other {k : Option String} (h : k ≠ some repo) (said : List Said) :
    apart repo (said.map (Said.addressed k)) = said.map (Said.addressed k) := by
  refine List.filter_eq_self.mpr fun e he => ?_
  obtain ⟨s, _, rfl⟩ := List.mem_map.mp he
  simp [Said.addressed, h]

lemma about_apart_own {d : Talk α} {f : α → TableTalk β} {log : List Exchange} {b : β}
    (h : (about (some repo) d >>= f).Course log b) :
    ∃ said a back, apart repo log = apart repo back ∧ d.Course said a ∧ (f a).Course back b := by
  obtain ⟨said, a, back, rfl, hd, hf⟩ := course_about_bind.mp h
  exact ⟨said, a, back, by rw [apart_append, apart_own, List.nil_append], hd, hf⟩

lemma about_apart_other {k : Option String} {d : Talk α} {f : α → TableTalk β}
    {f' : α → TableTalk γ} {log : List Exchange} {b : β} {c : γ} (hk : k ≠ some repo)
    (h : (about k d >>= f).Course log b)
    (hf : ∀ a back, (f a).Course back b → (f' a).Course (apart repo back) c) :
    (about k d >>= f').Course (apart repo log) c := by
  obtain ⟨said, a, back, rfl, hd, hback⟩ := course_about_bind.mp h
  rw [apart_append, apart_other hk]
  exact course_about_bind.mpr ⟨said, a, _, rfl, hd, hf a back hback⟩

lemma apart_eq_cut {log front back : List Exchange} {e : Exchange}
    (h : apart repo log = front ++ e :: back) :
    ∃ front' back', log = front' ++ e :: back' ∧ apart repo front' = front ∧
      e.1.key ≠ some repo := by
  obtain ⟨front₁, rest, rfl, hfront, hrest⟩ := List.filter_eq_append_iff.mp h
  obtain ⟨front₂, back', rfl, hnone, hkey, _⟩ := List.filter_eq_cons_iff.mp hrest
  refine ⟨front₁ ++ front₂, back', by simp, ?_, by simpa using hkey⟩
  rw [apart_append, apart, hfront, apart, List.filter_eq_nil_iff.mpr hnone, List.append_nil]

lemma heard_apart (h : key ≠ repo) (log : List Exchange) :
    heard key (apart repo log) = heard key log := by
  rw [heard, heard, apart, List.filterMap_filter]
  congr 1
  funext e
  by_cases he : e.1.key = some repo
  · simp [he, Ne.symm h]
  · simp [he]

lemma opened_erase (table : Table) (h : key ≠ repo) (config : RepoConfig) :
    (table.opened key config).erase repo = Table.opened (table.erase repo) key config := by
  apply SortedMap.ext_find?
  intro k
  by_cases hk : k = key <;> simp [SortedMap.find?_erase, find?_opened, h, hk]

namespace Engine

lemma syncPool_erase (table : Table) (h : key ≠ repo) (config : RepoConfig) :
    syncPool setup (table.erase repo) key config =
      (fun out => (out.1.erase repo, out.2)) <$> syncPool setup table key config := by
  rw [syncPool, syncPool]
  cases config.merge with
  | none => rfl
  | some merge =>
    simp only [map_bind]
    refine bind_congr fun r => ?_
    cases r with
    | error e => rfl
    | ok c =>
      simp only [map_bind]
      refine bind_congr fun r => ?_
      cases r with
      | error e => simp only [map_pure, opened_erase _ h]
      | ok listed => simp only [map_pure, ← opened_erase _ h, ← SortedMap.erase_modify _ h]

lemma visitPool_erase (table : Table) (h : key ≠ repo) (config : RepoConfig) :
    visitPool setup (table.erase repo) key config =
      (·.erase repo) <$> visitPool setup table key config := by
  rw [visitPool, visitPool, syncPool_erase table h, bind_map_left, map_bind]
  refine bind_congr fun out => ?_
  obtain ⟨synced, result⟩ := out
  cases result <;> rfl

lemma syncConfigs_apart {configs : List RepoConfig} {met met' met₀ : SortedSet String}
    {table table' : Table} {log : List Exchange}
    (h : (syncConfigs setup configs met table).Course log (table', met'))
    (hmet : ∀ k, met₀.contains k = (decide (k = repo) || met.contains k)) :
    ∃ met₁, (syncConfigs setup configs met₀ (table.erase repo)).Course (apart repo log)
        (table'.erase repo, met₁) ∧
      ∀ k, met₁.contains k = (decide (k = repo) || met'.contains k) := by
  induction configs generalizing met met₀ table log with
  | nil =>
    obtain ⟨rfl, h⟩ := h
    cases h
    exact ⟨met₀, ⟨rfl, rfl⟩, hmet⟩
  | cons config rest ih =>
    have hmeet : (config.automationEnabled setup.env && !met₀.contains config.poolKey) =
        (!decide (config.poolKey = repo) &&
          (config.automationEnabled setup.env && !met.contains config.poolKey)) := by
      rw [hmet, Bool.not_or, Bool.and_left_comm]
    rw [syncConfigs] at h ⊢
    rw [hmeet]
    by_cases hn : config.automationEnabled setup.env && !met.contains config.poolKey
    · simp only [hn, Bool.and_true, if_true] at h ⊢
      by_cases hkey : config.poolKey = repo
      · -- what is said on the visit is left out, and what it changes is erased
        simp only [hkey, decide_true, Bool.not_true, Bool.false_eq_true, if_false] at h ⊢
        obtain ⟨said, between, back, hback, hv, hs⟩ := about_apart_own h
        have hbetween : between.erase repo = table.erase repo :=
          SortedMap.erase_eq_erase_iff.mpr (visitPool_course (Bool.and_eq_true_iff.mp hn).1 hv).2
        rw [hback, ← hbetween]
        apply ih hs
        intro k
        rw [hmet, SortedSet.contains_insert, ← Bool.or_assoc, Bool.or_self]
      · simp only [hkey, decide_false, Bool.not_false, if_true]
        have hinsert (k : String) : (met₀.insert config.poolKey).contains k =
            (decide (k = repo) || (met.insert config.poolKey).contains k) := by
          rw [SortedSet.contains_insert, SortedSet.contains_insert, hmet, Bool.or_left_comm]
        obtain ⟨said, between, back, rfl, hv, hs⟩ := course_about_bind.mp h
        obtain ⟨met₁, hback, hmet₁⟩ := ih hs hinsert
        rw [apart_append, apart_other (by simpa using hkey), visitPool_erase table hkey]
        exact ⟨met₁, course_about_bind.mpr ⟨said, _, _, rfl, Course.map hv _, hback⟩, hmet₁⟩
    · simp only [hn, Bool.and_false] at h ⊢
      exact ih h hmet

def poolPassBut (setup : Setup) (repo : String) (table : Table) : TableTalk Table := do
  match ← about none (ask .listConfigs) with
  | .error _ => return table
  | .ok configs =>
    let (table, met) ← syncConfigs setup configs ((∅ : SortedSet String).insert repo) table
    return table.filter fun key _ => met.contains key

lemma poolPass_apart {table table' : Table} {log : List Exchange} {r : Except Error Unit}
    (h : (poolPass setup table).Course log (table', r)) :
    (poolPassBut setup repo (table.erase repo)).Course (apart repo log) (table'.erase repo) := by
  refine about_apart_other (Option.some_ne_none repo).symm h fun reply back hd => ?_
  cases reply with
  | error e =>
    obtain ⟨rfl, hr⟩ := hd
    cases hr
    exact ⟨rfl, rfl⟩
  | ok configs =>
    obtain ⟨_, ⟨synced, met⟩, _, rfl, hs, rfl, hr⟩ := (course_bind _ _ _ _).mp hd
    cases hr
    obtain ⟨met₁, hs, hmet⟩ := syncConfigs_apart hs (SortedSet.contains_insert ∅ repo)
    rw [List.append_nil]
    refine (course_bind _ _ _ _).mpr ⟨_, _, [], (List.append_nil _).symm, hs, rfl, ?_⟩
    apply SortedMap.ext_find?
    intro k
    by_cases hk : k = repo <;>
      simp [SortedMap.find?_erase, SortedMap.find?_filter, hmet, hk]

lemma syncStatusesOf_apart {keys : List String} {table table' : Table} {log : List Exchange}
    (h : (syncStatusesOf setup keys table).Course log table') :
    (syncStatusesOf setup (keys.filter (· ≠ repo)) (table.erase repo)).Course (apart repo log)
      (table'.erase repo) := by
  induction keys generalizing table log with
  | nil =>
    obtain ⟨rfl, rfl⟩ := h
    exact ⟨rfl, rfl⟩
  | cons key rest ih =>
    rw [syncStatusesOf] at h
    by_cases hkey : key = repo
    · subst hkey
      rw [List.filter_cons_of_neg (by simp)]
      cases hq : table.find? key with
      | none =>
        simp only [hq] at h
        exact ih h
      | some queue =>
        simp only [hq] at h
        obtain ⟨_, pool, back, hback, _, hs⟩ := about_apart_own h
        rw [hback, ← SortedMap.erase_modify_self table key]
        exact ih hs
    · rw [List.filter_cons_of_pos (by simpa using hkey), syncStatusesOf, SortedMap.find?_erase,
        if_neg hkey]
      cases hq : table.find? key with
      | none =>
        simp only [hq] at h
        exact ih h
      | some queue =>
        simp only [hq] at h
        refine about_apart_other (by simpa using hkey) h fun pool back hs => ?_
        have hback := ih hs
        rwa [Table.setPool, SortedMap.erase_modify _ hkey] at hback

lemma statusPass_apart {table table' : Table} {log : List Exchange}
    (h : (statusPass setup table).Course log table') :
    (statusPass setup (table.erase repo)).Course (apart repo log) (table'.erase repo) := by
  rw [statusPass, SortedMap.keys_erase]
  exact syncStatusesOf_apart h

def Merging.erase (m : Merging) (repo : String) : Merging where
  table := m.table.erase repo
  results := m.results.erase repo
  paused := m.paused.filter fun p => p.key ≠ repo

lemma settle_erase_own (m : Merging) (dropped : Option Pool) (pool : Pool) (state : MergeState) :
    (m.settle repo dropped pool state).erase repo = m.erase repo := by
  cases dropped <;> cases state <;>
    simp [Merging.settle, Merging.erase, Table.setPool, SortedMap.erase_modify_self,
      SortedMap.erase_insert_self]

lemma settle_erase (m : Merging) (h : key ≠ repo) (dropped : Option Pool) (pool : Pool)
    (state : MergeState) :
    (m.settle key dropped pool state).erase repo =
      (m.erase repo).settle key dropped pool state := by
  cases dropped <;> cases state <;>
    simp [Merging.settle, Merging.erase, Table.setPool, SortedMap.erase_modify _ h,
      SortedMap.erase_insert _ h, h]

lemma poolOf_erase (m : Merging) {p : Paused} (h : p.key ≠ repo) :
    (m.erase repo).poolOf p = m.poolOf p := by
  simp [Merging.poolOf, Merging.erase, Table.pool?, SortedMap.find?_erase, h]

lemma startEach_apart {keys : List String} {m m' : Merging} {log : List Exchange}
    (h : (Merging.startEach setup keys m).Course log m') :
    (Merging.startEach setup (keys.filter (· ≠ repo)) (m.erase repo)).Course (apart repo log)
      (m'.erase repo) := by
  induction keys generalizing m log with
  | nil =>
    obtain ⟨rfl, rfl⟩ := h
    exact ⟨rfl, rfl⟩
  | cons key rest ih =>
    rw [Merging.startEach] at h
    by_cases hkey : key = repo
    · subst hkey
      rw [List.filter_cons_of_neg (by simp)]
      cases hq : m.table.find? key with
      | none =>
        simp only [hq] at h
        exact ih h
      | some queue =>
        simp only [hq] at h
        obtain ⟨_, ⟨pool, state⟩, back, hback, _, hs⟩ := about_apart_own h
        rw [hback, ← settle_erase_own m none pool state]
        exact ih hs
    · have hfind : (m.erase repo).table.find? key = m.table.find? key := by
        rw [Merging.erase, SortedMap.find?_erase, if_neg hkey]
      rw [List.filter_cons_of_pos (by simpa using hkey), Merging.startEach, hfind]
      cases hq : m.table.find? key with
      | none =>
        simp only [hq] at h
        exact ih h
      | some queue =>
        simp only [hq] at h
        refine about_apart_other (by simpa using hkey) h fun out back hs => ?_
        have hback := ih hs
        rwa [settle_erase m hkey] at hback

lemma resumeEach_apart {ps : List Paused} {m m' : Merging} {log : List Exchange}
    (h : (Merging.resumeEach setup ps m).Course log m') :
    (Merging.resumeEach setup (ps.filter fun p => p.key ≠ repo) (m.erase repo)).Course
      (apart repo log) (m'.erase repo) := by
  induction ps generalizing m log with
  | nil =>
    obtain ⟨rfl, rfl⟩ := h
    exact ⟨rfl, rfl⟩
  | cons p rest ih =>
    rw [Merging.resumeEach] at h
    by_cases hkey : p.key = repo
    · rw [hkey] at h
      obtain ⟨_, ⟨pool, state⟩, back, hback, _, hs⟩ := about_apart_own h
      rw [List.filter_cons_of_neg (by simpa using hkey), hback,
        ← settle_erase_own m p.dropped pool state]
      exact ih hs
    · rw [List.filter_cons_of_pos (by simpa using hkey), Merging.resumeEach, poolOf_erase m hkey]
      refine about_apart_other (by simpa using hkey) h fun out back hs => ?_
      have hback := ih hs
      rwa [settle_erase m hkey] at hback

lemma resume_apart {m m' : Merging} {log : List Exchange} (h : (m.resume setup).Course log m') :
    ((m.erase repo).resume setup).Course (apart repo log) (m'.erase repo) := by
  exact resumeEach_apart h

lemma finishWithin_apart {n pauses : Nat} {m m' : Merging} {log : List Exchange}
    (h : (Merging.finishWithin setup n m).Course log (m', pauses)) :
    ∃ pauses', (Merging.finishWithin setup n (m.erase repo)).Course (apart repo log)
      (m'.erase repo, pauses') := by
  induction n generalizing m log pauses with
  | zero =>
    obtain ⟨rfl, ho⟩ := h
    cases ho
    exact ⟨0, rfl, rfl⟩
  | succ n ih =>
    by_cases hp : m.paused = []
    · rw [finishWithin_over hp] at h
      obtain ⟨rfl, ho⟩ := h
      cases ho
      have hp' : (m'.erase repo).paused = [] := by simp [Merging.erase, hp]
      rw [finishWithin_over hp']
      exact ⟨0, rfl, rfl⟩
    · obtain ⟨front, m₁, back, pauses, rfl, hr, hf, rfl⟩ := (course_finishWithin hp).mp h
      obtain ⟨pauses₁, hfinished⟩ := ih hf
      have hresumed : ((m.erase repo).resume setup).Course (apart repo front) (m₁.erase repo) :=
        resume_apart hr
      rw [apart_append]
      by_cases hp' : (m.erase repo).paused = []
      · -- none is left but the repository that is left out, which goes on alone
        rw [resume_over hp'] at hresumed
        obtain ⟨hfront, hm₁⟩ := hresumed
        rw [hm₁, finishWithin_over hp'] at hfinished
        obtain ⟨hback, hm₂⟩ := hfinished
        rw [finishWithin_over hp', hfront, hback]
        exact ⟨pauses₁, rfl, hm₂⟩
      · exact ⟨pauses₁ + 1, (course_finishWithin hp').mpr
          ⟨_, _, _, pauses₁, rfl, hresumed, hfinished, rfl⟩⟩

lemma share_erase (m : Merging) (h : key ≠ repo) : (m.erase repo).share key = m.share key := by
  have hpaused : (m.erase repo).paused.filter (fun p => p.key = key) =
      m.paused.filter fun p => p.key = key := by
    rw [Merging.erase, List.filter_filter]
    refine List.filter_congr fun p _ => ?_
    by_cases hp : p.key = key <;> simp [hp, h]
  rw [Merging.share, hpaused]
  simp [Merging.share, Merging.erase, SortedMap.find?_erase, h]

def Merging.Short (m : Merging) (n : Nat) : Prop :=
  ∀ key, (m.share key).paused = [] ∨ ∃ queue task,
    m.share key = ⟨some queue, none, [⟨key, task, none⟩]⟩ ∧ batchSize queue.pool < n

namespace Merging.Short

variable {m : Merging} {n : Nat}

lemma none_left (h : m.Short 0) : m.paused = [] := by
  refine List.eq_nil_iff_forall_not_mem.mpr fun p hp => ?_
  rcases h p.key with hnone | ⟨queue, task, _, hlt⟩
  · have hmem : p ∈ (m.share p.key).paused := List.mem_filter.mpr ⟨hp, by simp⟩
    rw [hnone] at hmem
    cases hmem
  · omega

lemma erase (h : m.Short n) : (m.erase repo).Short n := by
  intro key
  by_cases hkey : key = repo
  · subst hkey
    left
    simp [Merging.share, Merging.erase, List.filter_filter]
  · rw [share_erase m hkey]
    exact h key

lemma resume {m' : Merging} {log : List Exchange} (h : m.Short (n + 1))
    (hr : (m.resume setup).Course log m') : m'.Short n := by
  intro key
  obtain ⟨hover, hpaused⟩ := resume_course hr key
  rcases h key with hnone | ⟨queue, task, hshare, hlt⟩
  · left
    rw [(hover hnone).2, hnone]
  · obtain ⟨pool, state, hstep, hshare'⟩ := hpaused queue task hshare
    cases state with
    | ended r =>
      left
      rw [hshare']
      rfl
    | paused task' =>
      right
      refine ⟨{ queue with pool }, task', hshare', ?_⟩
      have hstep := hstep.batchSize_lt
      dsimp only
      omega
    | broken => exact absurd rfl hstep.ne_broken

end Merging.Short

lemma startOn_short {table : Table} {m : Merging} {log : List Exchange}
    (h : (Merging.startOn setup table.keys table).Course log m) : m.Short (m.remaining + 1) := by
  intro key
  obtain ⟨hnone, hsome⟩ := startEach_course h table.keys_nodup key
  cases hq : table.find? key with
  | none =>
    left
    rw [(hnone (.inr hq)).2]
    rfl
  | some queue =>
    have hmem : key ∈ table.keys := by
      rw [← SortedMap.find?_isSome_iff, hq]
      rfl
    obtain ⟨pool, state, hstart, hshare⟩ := hsome queue hmem hq
    cases state with
    | broken => exact absurd rfl hstart.ne_broken
    | ended r =>
      left
      rw [hshare]
      rfl
    | paused task =>
      right
      have hshare : m.share key = ⟨some { queue with pool }, none, [⟨key, task, none⟩]⟩ := hshare
      refine ⟨_, task, hshare, Nat.lt_succ_of_le ?_⟩
      have hpaused : ⟨key, task, none⟩ ∈ (m.share key).paused := by simp [hshare]
      exact batchSize_le_remaining (congrArg Share.queue hshare) (List.mem_filter.mp hpaused).1

lemma finishWithin_fuel {n n' pauses : Nat} {m m' : Merging} {log : List Exchange}
    (h : m.Short n) (h' : m.Short n')
    (hc : (Merging.finishWithin setup n m).Course log (m', pauses)) :
    (Merging.finishWithin setup n' m).Course log (m', pauses) := by
  induction n generalizing n' m log pauses with
  | zero =>
    rw [finishWithin_over h.none_left] at hc ⊢
    exact hc
  | succ n ih =>
    by_cases hp : m.paused = []
    · rw [finishWithin_over hp] at hc ⊢
      exact hc
    · cases n' with
      | zero => exact absurd h'.none_left hp
      | succ n' =>
        obtain ⟨front, m₁, back, pauses, rfl, hr, hf, rfl⟩ := (course_finishWithin hp).mp hc
        exact (course_finishWithin hp).mpr
          ⟨_, _, _, pauses, rfl, hr, ih (h.resume hr) (h'.resume hr) hf, rfl⟩

lemma warnAll_apart {results : List (String × Except Error Unit)} {log : List Exchange} {u : Unit}
    (h : (Merging.warnAll results).Course log u) :
    (Merging.warnAll (results.filter fun e => e.1 ≠ repo)).Course (apart repo log) u := by
  induction results generalizing log with
  | nil =>
    obtain ⟨rfl, rfl⟩ := h
    exact ⟨rfl, rfl⟩
  | cons first rest ih =>
    obtain ⟨key, r⟩ := first
    cases r with
    | ok _ =>
      by_cases hkey : key = repo
      · rw [List.filter_cons_of_neg (by simpa using hkey)]
        exact ih h
      · rw [List.filter_cons_of_pos (by simpa using hkey)]
        exact ih h
    | error e =>
      rw [Merging.warnAll] at h
      by_cases hkey : key = repo
      · rw [hkey] at h
        obtain ⟨_, _, back, hback, _, hd⟩ := about_apart_own h
        rw [List.filter_cons_of_neg (by simpa using hkey), hback]
        exact ih hd
      · rw [List.filter_cons_of_pos (by simpa using hkey), Merging.warnAll]
        exact about_apart_other (by simpa using hkey) h fun _ _ hd => ih hd

lemma mergePass_apart {table table' : Table} {log : List Exchange} {pauses : Nat}
    (h : (mergePass setup table).Course log (table', pauses)) :
    ∃ pauses', (mergePass setup (table.erase repo)).Course (apart repo log)
      (table'.erase repo, pauses') := by
  obtain ⟨front, m, _, rfl, hs, hd⟩ := (course_bind _ _ _ _).mp h
  obtain ⟨middle, ⟨m', pauses⟩, _, rfl, hf, hd⟩ := (course_bind _ _ _ _).mp hd
  obtain ⟨back, u, _, rfl, hw, rfl, ho⟩ := (course_bind _ _ _ _).mp hd
  cases ho
  have hstarted : (Merging.startOn setup (table.erase repo).keys (table.erase repo)).Course
      (apart repo front) (m.erase repo) := by
    rw [SortedMap.keys_erase]
    exact startEach_apart hs
  obtain ⟨pauses', hfinished⟩ : ∃ pauses', (Merging.finishAll setup (m.erase repo)).Course
      (apart repo middle) (m'.erase repo, pauses') := by
    obtain ⟨pauses', hfinished⟩ := finishWithin_apart hf
    exact ⟨pauses', finishWithin_fuel (startOn_short hs).erase (startOn_short hstarted) hfinished⟩
  refine ⟨pauses', ?_⟩
  rw [apart_append, apart_append, List.append_nil]
  exact Course.bind hstarted (Course.bind hfinished (Course.map (warnAll_apart hw) _))

end Engine

def Stage.passBut (setup : Setup) (repo : String) : Stage → Table → TableTalk Table
  | .poolSync, table => poolPassBut setup repo table
  | .statusSync, table => statusPass setup table
  | .merge, table => Prod.fst <$> mergePass setup table

lemma pass_apart {stage : Stage} {table table' : Table} {log : List Exchange} (repo : String)
    (h : (stage.pass setup table).Course log table') :
    (stage.passBut setup repo (table.erase repo)).Course (apart repo log) (table'.erase repo) := by
  cases stage with
  | poolSync =>
    obtain ⟨r, hp⟩ := (course_fst _ _ _).mp h
    exact poolPass_apart hp
  | statusSync => exact statusPass_apart h
  | merge =>
    obtain ⟨pauses, hp⟩ := (course_fst _ _ _).mp h
    obtain ⟨pauses', hm⟩ := mergePass_apart hp
    exact (course_fst _ _ _).mpr ⟨pauses', hm⟩

end MergeQueue
