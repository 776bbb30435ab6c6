import MergeQueue.Sorted.Map

namespace MergeQueue

variable {κ : Type} [LE κ] [LT κ] [Std.LawfulOrderLT κ] [Std.IsLinearOrder κ] [DecidableLT κ]
  [DecidableEq κ]

structure SortedSet (κ : Type) [LT κ] where
  elements : List κ
  ascending : elements.Pairwise (· < ·)

namespace SortedSet

def put (k : κ) : List κ → List κ
  | [] => [k]
  | a :: rest => if k < a then k :: a :: rest else if a < k then a :: put k rest else a :: rest

omit [LE κ] [Std.LawfulOrderLT κ] [Std.IsLinearOrder κ] [DecidableEq κ] in
theorem mem_put {k a : κ} {s : List κ} (h : a ∈ put k s) : a = k ∨ a ∈ s := by
  induction s with
  | nil => simpa [put] using h
  | cons b rest ih =>
    simp only [put] at h
    split at h
    · simpa using h
    · split at h
      · rcases List.mem_cons.mp h with rfl | h
        · simp
        · rcases ih h with rfl | h <;> simp [*]
      · exact .inr h

omit [DecidableEq κ] in
theorem put_ascending {k : κ} {s : List κ} (h : s.Pairwise (· < ·)) :
    (put k s).Pairwise (· < ·) := by
  induction s with
  | nil => simp [put]
  | cons a rest ih =>
    obtain ⟨ha, hr⟩ := List.pairwise_cons.mp h
    simp only [put]
    split
    · next hk =>
      refine List.pairwise_cons.mpr ⟨fun b hb => ?_, h⟩
      rcases List.mem_cons.mp hb with rfl | hb
      · exact hk
      · exact Trans.trans hk (ha b hb)
    · split
      · next hk =>
        refine List.pairwise_cons.mpr ⟨fun b hb => ?_, ih hr⟩
        rcases mem_put hb with rfl | hb
        · exact hk
        · exact ha b hb
      · exact h

def empty : SortedSet κ := ⟨[], .nil⟩

instance : EmptyCollection (SortedSet κ) := ⟨empty⟩

def insert (s : SortedSet κ) (k : κ) : SortedSet κ := ⟨put k s.elements, put_ascending s.ascending⟩

def erase (s : SortedSet κ) (k : κ) : SortedSet κ :=
  ⟨s.elements.filter (· ≠ k), s.ascending.filter _⟩

def contains (s : SortedSet κ) (k : κ) : Bool := s.elements.contains k

def size (s : SortedSet κ) : Nat := s.elements.length

def ofList (ks : List κ) : SortedSet κ := ks.foldl insert empty

def distinct (ks : List κ) : List κ := (ofList ks).elements

omit [DecidableEq κ] in
theorem mem_put_iff (k a : κ) (s : List κ) : a ∈ put k s ↔ a = k ∨ a ∈ s := by
  induction s with
  | nil => simp [put]
  | cons b rest ih =>
    simp only [put]
    split
    · simp
    · split
      · simp only [List.mem_cons, ih]
        grind
      · next h₁ h₂ =>
        have he : b = k := Std.Trichotomous.trichotomous (r := (· < ·)) _ _ h₂ h₁
        simp [he]

theorem contains_insert (s : SortedSet κ) (k a : κ) :
    (s.insert k).contains a = (decide (a = k) || s.contains a) := by
  rw [Bool.eq_iff_iff]
  simp [contains, insert, mem_put_iff]

omit [LE κ] [Std.LawfulOrderLT κ] [Std.IsLinearOrder κ] [DecidableLT κ] in
theorem contains_erase (s : SortedSet κ) (k a : κ) :
    (s.erase k).contains a = (decide (a ≠ k) && s.contains a) := by
  rw [Bool.eq_iff_iff]
  simp [contains, erase, and_comm]

omit [DecidableEq κ] in
theorem mem_foldl_insert (ks : List κ) (s : SortedSet κ) (a : κ) :
    a ∈ (ks.foldl insert s).elements ↔ a ∈ s.elements ∨ a ∈ ks := by
  induction ks generalizing s with
  | nil => simp
  | cons k ks ih =>
    simp only [List.foldl_cons, ih, insert, mem_put_iff, List.mem_cons]
    grind

omit [DecidableEq κ] in
theorem mem_distinct (ks : List κ) (a : κ) : a ∈ distinct ks ↔ a ∈ ks :=
  (mem_foldl_insert ks empty a).trans (by simp [empty])

end SortedSet

end MergeQueue
