import Mathlib.Tactic.Lemma
import MergeQueue.Engine.Talk

/-! The courses a dialogue can take: what is asked, what is replied, and the value at the end.
Nothing is assumed of the replies, so a law about all courses holds in every world. -/

namespace MergeQueue

namespace Dialogue

variable {Ask : Type} {Reply : Ask → Type} {α β : Type}

def Course : Dialogue Ask Reply α → List ((q : Ask) × Reply q) → α → Prop
  | .done a, log, b => log = [] ∧ b = a
  | .ask q next, log, b => ∃ r rest, log = ⟨q, r⟩ :: rest ∧ (next r).Course rest b

@[simp] lemma course_done (a : α) (log : List ((q : Ask) × Reply q)) (b : α) :
    (Dialogue.done a : Dialogue Ask Reply α).Course log b ↔ log = [] ∧ b = a := Iff.rfl

@[simp] lemma course_ask (q : Ask) (next : Reply q → Dialogue Ask Reply α)
    (log : List ((q : Ask) × Reply q)) (b : α) :
    (Dialogue.ask q next).Course log b ↔
      ∃ r rest, log = ⟨q, r⟩ :: rest ∧ (next r).Course rest b := Iff.rfl

@[simp] lemma course_question (q : Ask) (log : List ((q : Ask) × Reply q)) (r : Reply q) :
    (question q).Course log r ↔ log = [⟨q, r⟩] := by
  constructor
  · rintro ⟨r, rest, rfl, rfl, rfl⟩
    rfl
  · rintro rfl
    exact ⟨r, [], rfl, rfl, rfl⟩

@[simp] lemma course_pure (a : α) (log : List ((q : Ask) × Reply q)) (b : α) :
    (pure a : Dialogue Ask Reply α).Course log b ↔ log = [] ∧ b = a := Iff.rfl

lemma course_bind (d : Dialogue Ask Reply α) (f : α → Dialogue Ask Reply β)
    (log : List ((q : Ask) × Reply q)) (b : β) :
    (d >>= f).Course log b ↔
      ∃ front a back, log = front ++ back ∧ d.Course front a ∧ (f a).Course back b := by
  induction d generalizing log with
  | done a =>
    constructor
    · intro h
      exact ⟨[], a, log, rfl, ⟨rfl, rfl⟩, h⟩
    · rintro ⟨front, a, back, rfl, ⟨rfl, rfl⟩, h⟩
      exact h
  | ask q next ih =>
    constructor
    · rintro ⟨r, rest, rfl, h⟩
      obtain ⟨front, a, back, rfl, hd, hf⟩ := (ih r rest).mp h
      exact ⟨⟨q, r⟩ :: front, a, back, rfl, ⟨r, front, rfl, hd⟩, hf⟩
    · rintro ⟨front, a, back, rfl, ⟨r, rest, rfl, hd⟩, hf⟩
      exact ⟨r, rest ++ back, rfl, (ih r _).mpr ⟨rest, a, back, rfl, hd, hf⟩⟩

lemma Course.bind {d : Dialogue Ask Reply α} {f : α → Dialogue Ask Reply β}
    {front back : List ((q : Ask) × Reply q)} {a : α} {b : β} (h : d.Course front a)
    (hf : (f a).Course back b) : (d >>= f).Course (front ++ back) b :=
  (course_bind _ _ _ _).mpr ⟨front, a, back, rfl, h, hf⟩

lemma course_map (d : Dialogue Ask Reply α) (f : α → β) (log : List ((q : Ask) × Reply q))
    (b : β) : (f <$> d).Course log b ↔ ∃ a, d.Course log a ∧ b = f a := by
  rw [← bind_pure_comp, course_bind]
  constructor
  · rintro ⟨front, a, _, rfl, hd, rfl, rfl⟩
    rw [List.append_nil]
    exact ⟨a, hd, rfl⟩
  · rintro ⟨a, hd, rfl⟩
    exact ⟨log, a, [], (List.append_nil log).symm, hd, rfl, rfl⟩

lemma Course.map {d : Dialogue Ask Reply α} {log : List ((q : Ask) × Reply q)} {a : α}
    (h : d.Course log a) (f : α → β) : (f <$> d).Course log (f a) :=
  (course_map _ _ _ _).mpr ⟨a, h, rfl⟩

def Consistent (l l' : List ((q : Ask) × Reply q)) : Prop :=
  ∀ front q r r' back back', l = front ++ ⟨q, r⟩ :: back → l' = front ++ ⟨q, r'⟩ :: back' → r = r'

lemma Consistent.tail {s : (q : Ask) × Reply q} {l l' : List ((q : Ask) × Reply q)}
    (h : Consistent (s :: l) (s :: l')) : Consistent l l' := by
  rintro front q r r' back back' rfl rfl
  exact h (s :: front) q r r' back back' rfl rfl

lemma course_unique {d : Dialogue Ask Reply α} {l l' : List ((q : Ask) × Reply q)} {a a' : α}
    (h : d.Course l a) (h' : d.Course l' a') (hc : Consistent l l') : l = l' ∧ a = a' := by
  induction d generalizing l l' with
  | done b =>
    obtain ⟨rfl, rfl⟩ := h
    obtain ⟨rfl, rfl⟩ := h'
    exact ⟨rfl, rfl⟩
  | ask q next ih =>
    obtain ⟨r, rest, rfl, h⟩ := h
    obtain ⟨r', rest', rfl, h'⟩ := h'
    obtain rfl := hc [] q r r' rest rest' rfl rfl
    obtain ⟨rfl, rfl⟩ := ih r h h' hc.tail
    exact ⟨rfl, rfl⟩

def record (answer : (q : Ask) → Reply q) : Dialogue Ask Reply α → List ((q : Ask) × Reply q) × α
  | .done a => ([], a)
  | .ask q next =>
    let (log, a) := record answer (next (answer q))
    (⟨q, answer q⟩ :: log, a)

lemma course_record (answer : (q : Ask) → Reply q) (d : Dialogue Ask Reply α) :
    d.Course (d.record answer).1 (d.record answer).2 := by
  induction d with
  | done a => exact ⟨rfl, rfl⟩
  | ask q next ih => exact ⟨_, _, rfl, ih (answer q)⟩

lemma record_map (answer : (q : Ask) → Reply q) (d : Dialogue Ask Reply α) (f : α → β) :
    (f <$> d).record answer = ((d.record answer).1, f (d.record answer).2) := by
  rw [← bind_pure_comp]
  induction d with
  | done a => rfl
  | ask q next ih =>
    rw [ask_bind, record, ih]
    rfl

lemma answer_of_mem_record {answer : (q : Ask) → Reply q} {d : Dialogue Ask Reply α} {q : Ask}
    {r : Reply q} (h : ⟨q, r⟩ ∈ (d.record answer).1) : r = answer q := by
  induction d with
  | done a => cases h
  | ask q next ih =>
    rcases List.mem_cons.mp h with h | h
    · cases h
      rfl
    · exact ih _ h

end Dialogue

abbrev Said := (q : Question) × q.Reply

abbrev Exchange := (a : Addressed) × a.Reply

def Said.addressed (key : Option String) (s : Said) : Exchange := ⟨⟨key, s.1⟩, s.2⟩

def Exchange.said (e : Exchange) : Said := ⟨e.1.question, e.2⟩

def heard (key : String) (log : List Exchange) : List Said :=
  log.filterMap fun e => if e.1.key.all (· = key) then some e.said else none

@[simp] lemma heard_nil (key : String) : heard key [] = [] := rfl

@[simp] lemma heard_append (key : String) (front back : List Exchange) :
    heard key (front ++ back) = heard key front ++ heard key back := List.filterMap_append

lemma mem_heard {key : String} {log : List Exchange} {e : Exchange} (h : e ∈ log)
    (hk : e.1.key = some key) : e.said ∈ heard key log :=
  List.mem_filterMap.mpr ⟨e, h, by simp [hk]⟩

lemma mem_of_mem_heard {key : String} {log : List Exchange} {s : Said} (h : s ∈ heard key log) :
    ∃ e ∈ log, e.said = s := by
  obtain ⟨e, he, hs⟩ := List.mem_filterMap.mp h
  split at hs
  · exact ⟨e, he, Option.some.inj hs⟩
  · cases hs

lemma heard_addressed (key : String) (k : Option String) (said : List Said) :
    heard key (said.map (Said.addressed k)) = if k.all (· = key) then said else [] := by
  induction said with
  | nil => simp
  | cons s rest ih =>
    simp only [heard, List.map_cons, List.filterMap_cons] at ih ⊢
    rw [ih]
    by_cases h : k.all (· = key) <;> simp [Said.addressed, Exchange.said, h]

@[simp] lemma heard_own (key : String) (said : List Said) :
    heard key (said.map (Said.addressed (some key))) = said := by
  simp [heard_addressed]

lemma heard_other {key k : String} (h : k ≠ key) (said : List Said) :
    heard key (said.map (Said.addressed (some k))) = [] := by
  simp [heard_addressed, h]

namespace Engine

open Dialogue

variable {α β : Type}

lemma course_ask_bind {q : Question} {f : q.Reply → Talk α} {l : List Said} {a : α} :
    (ask q >>= f).Course l a ↔ ∃ r rest, l = ⟨q, r⟩ :: rest ∧ (f r).Course rest a := Iff.rfl

lemma course_host_bind {c : Connection} {call : HostCall} {f : Except Error call.Answer → Talk α}
    {l : List Said} {a : α} : (host c call >>= f).Course l a ↔
      ∃ r rest, l = ⟨.host c call, r⟩ :: rest ∧ (f r).Course rest a := Iff.rfl

lemma course_warn_bind {w : Warning} {f : Unit → Talk α} {l : List Said} {a : α} :
    (warn w >>= f).Course l a ↔ ∃ rest, l = ⟨.warn w, ()⟩ :: rest ∧ (f ()).Course rest a := by
  constructor
  · rintro ⟨_, rest, rfl, h⟩
    exact ⟨rest, rfl, h⟩
  · rintro ⟨rest, rfl, h⟩
    exact ⟨(), rest, rfl, h⟩

lemma course_about (key : Option String) (d : Talk α) (log : List Exchange) (a : α) :
    (about key d).Course log a ↔ ∃ said, log = said.map (Said.addressed key) ∧ d.Course said a := by
  induction d generalizing log with
  | done b =>
    simp only [about, course_done]
    constructor
    · rintro ⟨rfl, rfl⟩
      exact ⟨[], rfl, rfl, rfl⟩
    · rintro ⟨_, rfl, rfl, rfl⟩
      exact ⟨rfl, rfl⟩
  | ask q next ih =>
    simp only [about, course_ask, ih]
    constructor
    · rintro ⟨r, _, rfl, said, rfl, h⟩
      exact ⟨⟨q, r⟩ :: said, rfl, r, said, rfl, h⟩
    · rintro ⟨_, rfl, r, said, rfl, h⟩
      exact ⟨r, _, rfl, said, rfl, h⟩

lemma course_about_bind {key : Option String} {d : Talk α} {f : α → TableTalk β}
    {log : List Exchange} {b : β} : (about key d >>= f).Course log b ↔
      ∃ said a back, log = said.map (Said.addressed key) ++ back ∧ d.Course said a ∧
        (f a).Course back b := by
  constructor
  · intro h
    obtain ⟨_, a, back, rfl, ha, hf⟩ := (course_bind _ _ _ _).mp h
    obtain ⟨said, rfl, hd⟩ := (course_about _ _ _ _).mp ha
    exact ⟨said, a, back, rfl, hd, hf⟩
  · rintro ⟨said, a, back, rfl, hd, hf⟩
    exact (course_bind _ _ _ _).mpr
      ⟨_, a, back, rfl, (course_about _ _ _ _).mpr ⟨said, rfl, hd⟩, hf⟩

def Keyed (d : TableTalk α) : Prop := ∀ log a, d.Course log a → ∀ e ∈ log, e.1.key.isSome

lemma Keyed.done (a : α) : Keyed (.done a) := by
  rintro _ _ ⟨rfl, _⟩ e he
  cases he

lemma Keyed.bind {d : TableTalk α} {f : α → TableTalk β} (hd : Keyed d) (hf : ∀ a, Keyed (f a)) :
    Keyed (d >>= f) := by
  intro log b h e he
  obtain ⟨front, a, back, rfl, hfront, hback⟩ := (course_bind _ _ _ _).mp h
  rcases List.mem_append.mp he with he | he
  · exact hd front a hfront e he
  · exact hf a back b hback e he

lemma keyed_about (key : String) (d : Talk α) : Keyed (about (some key) d) := by
  intro log a h e he
  obtain ⟨said, rfl, _⟩ := (course_about _ _ _ _).mp h
  obtain ⟨s, _, rfl⟩ := List.mem_map.mp he
  rfl

lemma course_plain (d : TableTalk α) (said : List Said) (a : α) :
    (plain d).Course said a ↔
      ∃ log, said = log.map Exchange.said ∧ d.Course log a := by
  induction d generalizing said with
  | done b =>
    simp only [plain, course_done]
    constructor
    · rintro ⟨rfl, rfl⟩
      exact ⟨[], rfl, rfl, rfl⟩
    · rintro ⟨_, rfl, rfl, rfl⟩
      exact ⟨rfl, rfl⟩
  | ask q next ih =>
    simp only [plain, course_ask, ih]
    constructor
    · rintro ⟨r, _, rfl, log, rfl, h⟩
      exact ⟨⟨q, r⟩ :: log, rfl, r, log, rfl, h⟩
    · rintro ⟨_, rfl, r, log, rfl, h⟩
      exact ⟨r, _, rfl, log, rfl, h⟩

end Engine

end MergeQueue
