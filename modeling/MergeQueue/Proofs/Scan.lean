import Mathlib.Data.List.TakeWhile

/-! Texts read from left to right: how far a run goes, and what comes before the first place where
something is found. -/

namespace MergeQueue

namespace Scan

section Runs

variable {α : Type} {p : α → Bool} {run rest : List α}

lemma takeWhile_run (h : ∀ a ∈ run, p a = true)
    (hstop : ∀ a, rest.head? = some a → p a = false) : (run ++ rest).takeWhile p = run := by
  rw [List.takeWhile_append_of_pos h]
  cases rest with
  | nil => exact List.append_nil run
  | cons a rest => rw [List.takeWhile_cons_of_neg (by simp [hstop a rfl]), List.append_nil]

lemma dropWhile_run (h : ∀ a ∈ run, p a = true)
    (hstop : ∀ a, rest.head? = some a → p a = false) : (run ++ rest).dropWhile p = rest := by
  rw [List.dropWhile_append_of_pos h]
  cases rest with
  | nil => rfl
  | cons a rest => exact List.dropWhile_cons_of_neg (by simp [hstop a rfl])

lemma takeWhile_append_stop (text : List α) (hstop : ∀ a, rest.head? = some a → p a = false) :
    (text ++ rest).takeWhile p = text.takeWhile p := by
  induction text with
  | nil => exact takeWhile_run (by simp) hstop
  | cons a text ih => rw [List.cons_append, List.takeWhile_cons, List.takeWhile_cons, ih]

lemma dropWhile_append_stop (text : List α) (hstop : ∀ a, rest.head? = some a → p a = false) :
    (text ++ rest).dropWhile p = text.dropWhile p ++ rest := by
  induction text with
  | nil => exact dropWhile_run (by simp) hstop
  | cons a text ih =>
    rw [List.cons_append, List.dropWhile_cons, List.dropWhile_cons, ih]
    split <;> rfl

lemma takeWhile_append_found {text : List α} (h : ∃ a ∈ text, p a = false) (rest : List α) :
    (text ++ rest).takeWhile p = text.takeWhile p := by
  induction text with
  | nil => simp at h
  | cons a text ih =>
    rw [List.cons_append, List.takeWhile_cons, List.takeWhile_cons]
    split
    · next ha =>
      obtain ⟨b, hb, hp⟩ := h
      rcases List.mem_cons.mp hb with rfl | hb
      · rw [hp] at ha
        cases ha
      · rw [ih ⟨b, hb, hp⟩]
    · rfl

lemma dropWhile_append_found {text : List α} (h : ∃ a ∈ text, p a = false) (rest : List α) :
    (text ++ rest).dropWhile p = text.dropWhile p ++ rest := by
  obtain ⟨a, ha, hp⟩ := h
  have hne : text.dropWhile p ≠ [] := by
    intro hnil
    have hall := List.dropWhile_eq_nil_iff.mp hnil a ha
    rw [hp] at hall
    cases hall
  rw [List.dropWhile_append, if_neg (by simpa using hne)]

lemma takeWhile_take_eq_iff {n : Nat} {text : List α} :
    (text.take n).takeWhile p = run ↔
      ∃ rest, text = run ++ rest ∧ (∀ a ∈ run, p a = true) ∧ run.length ≤ n ∧
        (run.length = n ∨ ∀ a, rest.head? = some a → p a = false) := by
  induction text generalizing n run with
  | nil =>
    constructor
    · rintro rfl
      simp
    · rintro ⟨rest, htext, -⟩
      simp [(List.append_eq_nil_iff.mp htext.symm).1]
  | cons a text ih =>
    cases n with
    | zero =>
      constructor
      · rintro rfl
        exact ⟨a :: text, by simp⟩
      · rintro ⟨rest, -, -, hlen, -⟩
        simp [List.length_eq_zero_iff.mp (Nat.le_zero.mp hlen)]
    | succ n =>
      rw [List.take_succ_cons]
      cases run with
      | nil => by_cases ha : p a = true <;> simp [ha]
      | cons b run =>
        by_cases ha : p a = true
        · rw [List.takeWhile_cons_of_pos ha]
          simp only [List.cons.injEq, ih, List.cons_append, List.length_cons, List.mem_cons]
          grind
        · rw [List.takeWhile_cons_of_neg ha]
          grind

end Runs

variable {α : Type} {p : List α → Prop} {lead lead' rest rest' text : List α}

def Clear (p : List α → Prop) (lead rest : List α) : Prop :=
  ∀ front behind, lead ++ rest = front ++ behind → p behind → lead.length ≤ front.length

lemma clear_nil (p : List α → Prop) (rest : List α) : Clear p [] rest :=
  fun _ _ _ _ => Nat.zero_le _

lemma clear_cons_iff {a : α} :
    Clear p (a :: lead) rest ↔ ¬p (a :: lead ++ rest) ∧ Clear p lead rest := by
  constructor
  · intro h
    refine ⟨fun hp => ?_, fun front behind heq hp => ?_⟩
    · exact absurd (h [] _ rfl hp) (Nat.not_succ_le_zero _)
    · exact Nat.le_of_succ_le_succ (h (a :: front) behind (congrArg (a :: ·) heq) hp)
  · rintro ⟨hnot, h⟩ front behind heq hp
    cases front with
    | nil =>
      obtain rfl : a :: lead ++ rest = behind := heq
      exact absurd hp hnot
    | cons b front => exact Nat.succ_le_succ (h front behind (List.cons.inj heq).2 hp)

lemma clear_of_drop (h : ∀ n < lead.length, ¬p ((lead ++ rest).drop n)) : Clear p lead rest := by
  intro front behind heq hp
  by_contra hlt
  apply h front.length (Nat.lt_of_not_le hlt)
  rwa [heq, List.drop_left]

lemma Clear.unique (h : Clear p lead rest) (h' : Clear p lead' rest') (hp : p rest)
    (hp' : p rest') (heq : lead ++ rest = lead' ++ rest') : lead = lead' ∧ rest = rest' :=
  List.append_inj heq (Nat.le_antisymm (h _ _ heq hp') (h' _ _ heq.symm hp))

lemma exists_first (p : List α → Prop) (text : List α) :
    Clear p text [] ∨ ∃ lead rest, text = lead ++ rest ∧ p rest ∧ Clear p lead rest := by
  induction text with
  | nil => exact .inl (clear_nil p [])
  | cons a text ih =>
    by_cases hp : p (a :: text)
    · exact .inr ⟨[], _, rfl, hp, clear_nil p _⟩
    · rcases ih with hclear | ⟨lead, rest, rfl, hrest, hclear⟩
      · exact .inl (clear_cons_iff.mpr ⟨by rwa [List.append_nil], hclear⟩)
      · exact .inr ⟨a :: lead, rest, rfl, hrest, clear_cons_iff.mpr ⟨hp, hclear⟩⟩

end Scan

end MergeQueue
