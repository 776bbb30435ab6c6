import MergeQueue.Proofs.Run.Basic
import MergeQueue.Proofs.Run.MergePass

/-! A run as one queue sees it. Passes keep to one queue at a time, so the queue of a repository
goes through a run of its own. -/

namespace MergeQueue

open Engine Dialogue

variable {setup : Setup} {key : String}

def poolOf (q : Option Queue) : Pool := q.elim .empty (·.pool)

inductive QueueStep (setup : Setup) (key : String) :
    Stage → Option Queue → List Said → Option Queue → Prop
  | unlisted {q e} : QueueStep setup key .poolSync q [⟨.listConfigs, .error e⟩] q
  | dropped {q configs} : configFor setup configs key = none →
      QueueStep setup key .poolSync q [⟨.listConfigs, .ok configs⟩] none
  | refreshed {q configs config l q'} : configFor setup configs key = some config →
      Refreshed setup key config q l q' →
      QueueStep setup key .poolSync q (⟨.listConfigs, .ok configs⟩ :: l) q'
  | passed {stage} : stage ≠ .poolSync → QueueStep setup key stage none [] none
  | reviewed {queue l pool} : Reviewed setup key queue l pool →
      QueueStep setup key .statusSync (some queue) l (some { queue with pool })
  | merged {queue l pool} : Merged setup key queue l pool →
      QueueStep setup key .merge (some queue) l (some { queue with pool })

lemma pass_course {stage : Stage} {table table' : Table} {log : List Exchange}
    (h : (stage.pass setup table).Course log table') (key : String) :
    QueueStep setup key stage (table.find? key) (heard key log) (table'.find? key) := by
  cases stage with
  | poolSync =>
    obtain ⟨r, hp⟩ := (course_fst _ _ _).mp h
    cases r with
    | error e =>
      obtain ⟨rfl, rfl⟩ := poolPass_error hp
      exact .unlisted
    | ok _ =>
      obtain ⟨configs, rest, rfl, hkey⟩ := poolPass_ok hp
      obtain ⟨hnone, hsome⟩ := hkey key
      change QueueStep setup key .poolSync _ (⟨.listConfigs, .ok configs⟩ :: heard key rest) _
      cases hc : configFor setup configs key with
      | none =>
        obtain ⟨hh, ht⟩ := hnone hc
        rw [hh, ht]
        exact .dropped hc
      | some config => exact .refreshed hc (hsome config hc)
  | statusSync =>
    obtain ⟨hnone, hsome⟩ := statusPass_course h key
    cases hq : table.find? key with
    | none =>
      obtain ⟨hh, ht⟩ := hnone hq
      rw [hh, ht]
      exact .passed (by decide)
    | some queue =>
      obtain ⟨pool, hr, ht⟩ := hsome queue hq
      rw [ht]
      exact .reviewed hr
  | merge =>
    obtain ⟨pauses, hp⟩ := (course_fst _ _ _).mp h
    obtain ⟨hnone, hsome⟩ := mergePass_course hp key
    cases hq : table.find? key with
    | none =>
      obtain ⟨hh, ht⟩ := hnone hq
      rw [hh, ht]
      exact .passed (by decide)
    | some queue =>
      obtain ⟨pool, hm, ht⟩ := hsome queue hq
      rw [ht]
      exact .merged hm

structure Visit where
  before : Option Queue
  stage : Stage
  said : List Said

def Turn.visit (key : String) (t : Turn) : Visit := ⟨t.before.find? key, t.stage, heard key t.log⟩

/-- What has become of the queue of `key` in a run. -/
inductive QueueRun (setup : Setup) (key : String) (first : Option Queue) :
    List Visit → Option Queue → Prop
  | start : QueueRun setup key first [] first
  | next {visits q stage said q'} : QueueRun setup key first visits q →
      QueueStep setup key stage q said q' →
      QueueRun setup key first (visits ++ [⟨q, stage, said⟩]) q'

lemma QueueRun.cut {visits : List Visit} {first q : Option Queue}
    (run : QueueRun setup key first visits q) {front back : List Visit} {v : Visit}
    (h : visits = front ++ v :: back) :
    QueueRun setup key first front v.before ∧
      ∃ q', QueueStep setup key v.stage v.before v.said q' ∧ (back = [] → q' = q) := by
  induction run generalizing back with
  | start => simp at h
  | next run hstep ih =>
    rcases cut_concat h with ⟨rfl, rfl, rfl⟩ | ⟨rest, rfl, hvisits⟩
    · exact ⟨run, _, hstep, fun _ => rfl⟩
    · obtain ⟨run', q', hstep', _⟩ := ih hvisits
      exact ⟨run', q', hstep', by simp⟩

lemma Run.queue_from {first table : Table} {turns : List Turn} (run : Run setup first turns table)
    (key : String) :
    QueueRun setup key (first.find? key) (turns.map (Turn.visit key)) (table.find? key) := by
  induction run with
  | start => exact .start
  | next _ h ih =>
    rw [List.map_append]
    exact ih.next (pass_course h key)

lemma Run.queue {turns : List Turn} {table : Table} (run : Run setup ∅ turns table)
    (key : String) : QueueRun setup key none (turns.map (Turn.visit key)) (table.find? key) :=
  run.queue_from key

lemma QueueStep.owner {stage : Stage} {q : Option Queue} {said : List Said} {queue' : Queue}
    (h : QueueStep setup key stage q said (some queue')) :
    (∃ queue, q = some queue ∧ queue'.owner = queue.owner) ∨
    (q = none ∧ stage = .poolSync ∧ ∃ configs config rest,
      said = ⟨.listConfigs, .ok configs⟩ :: rest ∧ configFor setup configs key = some config ∧
        queue'.owner = config.id) := by
  cases h with
  | unlisted => exact .inl ⟨queue', rfl, rfl⟩
  | refreshed hc hr =>
    cases q with
    | none => exact .inr ⟨rfl, rfl, _, _, _, rfl, hc, hr.owner_new⟩
    | some queue => exact .inl ⟨queue, rfl, hr.owner_kept⟩
  | reviewed => exact .inl ⟨_, rfl, rfl⟩
  | merged => exact .inl ⟨_, rfl, rfl⟩

lemma QueueRun.opened {visits : List Visit} {q : Option Queue} (run : QueueRun setup key none visits q)
    {queue : Queue} (hq : q = some queue) :
    ∃ before configs config rest after,
      visits = before ++ ⟨none, .poolSync, ⟨.listConfigs, .ok configs⟩ :: rest⟩ :: after ∧
      configFor setup configs key = some config ∧ queue.owner = config.id ∧
      ∀ v ∈ after, ∃ old, v.before = some old ∧ old.owner = config.id := by
  induction run generalizing queue with
  | start => cases hq
  | next run hstep ih =>
    subst hq
    rcases hstep.owner with ⟨old, rfl, howner⟩ | ⟨rfl, rfl, configs, config, rest, rfl, hc, howner⟩
    · obtain ⟨before, configs, config, rest, after, rfl, hc, hold, hafter⟩ := ih rfl
      refine ⟨before, configs, config, rest, after ++ [_], List.append_assoc _ _ _, hc,
        howner.trans hold, fun v hv => ?_⟩
      rcases List.mem_append.mp hv with hv | hv
      · exact hafter v hv
      · obtain rfl := List.mem_singleton.mp hv
        exact ⟨old, rfl, hold⟩
    · exact ⟨_, configs, config, rest, [], rfl, hc, howner, by simp⟩

end MergeQueue
