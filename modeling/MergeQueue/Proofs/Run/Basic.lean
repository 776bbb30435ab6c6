import MergeQueue.Engine.Cycle
import MergeQueue.Proofs.Course

/-! Runs: passes one after the other. What is replied is left open, so the hosts, the job system and
the configurations may change in any way and fail at any time. -/

namespace MergeQueue

open Engine Dialogue

def Stage.pass (setup : Setup) : Stage → Table → TableTalk Table
  | .poolSync, table => Prod.fst <$> poolPass setup table
  | .statusSync, table => statusPass setup table
  | .merge, table => Prod.fst <$> mergePass setup table

structure Turn where
  before : Table
  stage : Stage
  log : List Exchange

/-- Passes that have been gone through from a table, and the queues after the last of them. -/
inductive Run (setup : Setup) (first : Table) : List Turn → Table → Prop
  | start : Run setup first [] first
  | next {turns table stage log table'} : Run setup first turns table →
      (stage.pass setup table).Course log table' →
      Run setup first (turns ++ [⟨table, stage, log⟩]) table'

variable {setup : Setup}

lemma cut_concat {α : Type} {l before after : List α} {a b : α}
    (h : l ++ [a] = before ++ b :: after) :
    (l = before ∧ a = b ∧ after = []) ∨ ∃ rest, after = rest ++ [a] ∧ l = before ++ b :: rest := by
  rcases List.eq_nil_or_concat after with rfl | ⟨rest, last, rfl⟩
  · obtain ⟨hl, ha⟩ := List.append_inj' h rfl
    exact .inl ⟨hl, List.head_eq_of_cons_eq ha, rfl⟩
  · rw [List.concat_eq_append, ← List.cons_append, ← List.append_assoc] at h
    obtain ⟨hl, ha⟩ := List.append_inj' h rfl
    obtain rfl := List.head_eq_of_cons_eq ha
    exact .inr ⟨rest, List.concat_eq_append, hl⟩

lemma Run.split {first table' : Table} {front back : List Turn}
    (run : Run setup first (front ++ back) table') :
    ∃ table, Run setup first front table ∧ Run setup table back table' := by
  generalize hturns : front ++ back = turns at run
  induction run generalizing back with
  | start =>
    obtain ⟨rfl, rfl⟩ := List.append_eq_nil_iff.mp hturns
    exact ⟨first, .start, .start⟩
  | @next turns table stage log table' run h ih =>
    rcases List.eq_nil_or_concat back with rfl | ⟨back, last, rfl⟩
    · rw [List.append_nil] at hturns
      subst hturns
      exact ⟨table', run.next h, .start⟩
    · rw [List.concat_eq_append, ← List.append_assoc] at hturns
      obtain ⟨hfront, hlast⟩ := List.append_inj' hturns rfl
      obtain ⟨middle, hfirst, hthen⟩ := ih hfront
      cases hlast
      rw [List.concat_eq_append]
      exact ⟨middle, hfirst, hthen.next h⟩

lemma course_fst {Ask : Type} {Reply : Ask → Type} {α β : Type} (d : Dialogue Ask Reply (α × β))
    (log : List ((q : Ask) × Reply q)) (a : α) :
    (Prod.fst <$> d).Course log a ↔ ∃ b, d.Course log (a, b) := by
  rw [course_map]
  constructor
  · rintro ⟨⟨a, b⟩, hd, rfl⟩
    exact ⟨b, hd⟩
  · rintro ⟨b, hd⟩
    exact ⟨(a, b), hd, rfl⟩

lemma Run.cycle {first table table' : Table} {turns : List Turn}
    (run : Run setup first turns table)
    {progress progress' : Progress} {said : List Said} {pauses : Nat}
    (h : (runCycle setup progress table).Course said (progress', table', pauses)) :
    ∃ l₁ l₂ l₃ note table₁ table₂,
      Run setup first
        (turns ++ [⟨table, .poolSync, l₁⟩, ⟨table₁, .statusSync, l₂⟩, ⟨table₂, .merge, l₃⟩]) table' ∧
      said = l₁.map Exchange.said ++ note ++ l₂.map Exchange.said ++ l₃.map Exchange.said ∧
      ∀ s ∈ note, ∃ e, s = ⟨.warn (.listing e), ()⟩ := by
  obtain ⟨_, ⟨table₁, r⟩, rest, rfl, hp, hd⟩ := (course_bind _ _ _ _).mp h
  obtain ⟨l₁, rfl, h₁⟩ := (course_plain _ _ _).mp hp
  have hnote : ∃ note back, rest = note ++ back ∧ (∀ s ∈ note, ∃ e, s = ⟨.warn (.listing e), ()⟩) ∧
      (syncStatuses setup table₁ >>= fun table => mergeAll setup table >>= fun out =>
        pure (⟨progress.cycle + 1, some .merge⟩, out.1, out.2)).Course back
          (progress', table', pauses) := by
    cases r with
    | error e =>
      obtain ⟨back, rfl, hb⟩ := course_warn_bind.mp hd
      exact ⟨[_], back, rfl, fun s hs => ⟨e, List.mem_singleton.mp hs⟩, hb⟩
    | ok _ => exact ⟨[], rest, rfl, by simp, hd⟩
  obtain ⟨note, back, rfl, hwarn, hb⟩ := hnote
  obtain ⟨_, table₂, rest, rfl, hs, hm⟩ := (course_bind _ _ _ _).mp hb
  obtain ⟨l₂, rfl, h₂⟩ := (course_plain _ _ _).mp hs
  obtain ⟨_, ⟨table₃, n⟩, _, rfl, ha, rfl, ho⟩ := (course_bind _ _ _ _).mp hm
  obtain ⟨l₃, rfl, h₃⟩ := (course_plain _ _ _).mp ha
  cases ho
  have run₁ : Run setup first (turns ++ [⟨table, .poolSync, l₁⟩]) table₁ :=
    run.next ((course_fst _ _ _).mpr ⟨r, h₁⟩)
  have run₂ : Run setup first
      (turns ++ [⟨table, .poolSync, l₁⟩] ++ [⟨table₁, .statusSync, l₂⟩]) table₂ := run₁.next h₂
  have run₃ : Run setup first
      (turns ++ [⟨table, .poolSync, l₁⟩] ++ [⟨table₁, .statusSync, l₂⟩] ++ [⟨table₂, .merge, l₃⟩])
      table₃ := run₂.next ((course_fst _ _ _).mpr ⟨n, h₃⟩)
  exact ⟨l₁, l₂, l₃, note, table₁, table₂, by simpa using run₃, by simp, hwarn⟩

end MergeQueue
