/-! Finite maps held as a list of entries with ascending keys. Two maps with the same entries are
equal, and going through a map meets its keys in order. -/

namespace MergeQueue

variable {κ ν : Type} [LE κ] [LT κ] [Std.LawfulOrderLT κ] [Std.IsLinearOrder κ] [DecidableLT κ]
  [DecidableEq κ]

structure SortedMap (κ ν : Type) [LT κ] where
  entries : List (κ × ν)
  ascending : entries.Pairwise (fun a b => a.1 < b.1)

namespace SortedMap

def put (k : κ) (v : ν) : List (κ × ν) → List (κ × ν)
  | [] => [(k, v)]
  | e :: rest =>
    if k < e.1 then (k, v) :: e :: rest
    else if e.1 < k then e :: put k v rest
    else (k, v) :: rest

omit [LE κ] [Std.LawfulOrderLT κ] [Std.IsLinearOrder κ] [DecidableEq κ] in
theorem mem_put {k : κ} {v : ν} {e : κ × ν} {es : List (κ × ν)} (h : e ∈ put k v es) :
    e = (k, v) ∨ e ∈ es := by
  induction es with
  | nil => simpa [put] using h
  | cons a rest ih =>
    simp only [put] at h
    split at h
    · simpa using h
    · split at h
      · rcases List.mem_cons.mp h with rfl | h
        · simp
        · rcases ih h with rfl | h <;> simp [*]
      · rcases List.mem_cons.mp h with rfl | h <;> simp [*]

omit [DecidableEq κ] in
theorem put_ascending {k : κ} {v : ν} {es : List (κ × ν)}
    (h : es.Pairwise (fun a b => a.1 < b.1)) :
    (put k v es).Pairwise (fun a b => a.1 < b.1) := by
  induction es with
  | nil => simp [put]
  | cons a rest ih =>
    obtain ⟨ha, hr⟩ := List.pairwise_cons.mp h
    simp only [put]
    split
    · next hk =>
      refine List.pairwise_cons.mpr ⟨fun b hb => ?_, h⟩
      rcases List.mem_cons.mp hb with rfl | hb
      · exact hk
      · exact Trans.trans hk (ha b hb)
    · split
      · next hk =>
        refine List.pairwise_cons.mpr ⟨fun b hb => ?_, ih hr⟩
        rcases mem_put hb with rfl | hb
        · exact hk
        · exact ha b hb
      · next h₁ h₂ =>
        have he : a.1 = k := Std.Trichotomous.trichotomous (r := (· < ·)) _ _ h₂ h₁
        exact List.pairwise_cons.mpr ⟨fun b hb => he ▸ ha b hb, hr⟩

def empty : SortedMap κ ν := ⟨[], .nil⟩

instance : EmptyCollection (SortedMap κ ν) := ⟨empty⟩

def insert (m : SortedMap κ ν) (k : κ) (v : ν) : SortedMap κ ν :=
  ⟨put k v m.entries, put_ascending m.ascending⟩

def find? (m : SortedMap κ ν) (k : κ) : Option ν :=
  (m.entries.find? (fun e => e.1 = k)).map (·.2)

def contains (m : SortedMap κ ν) (k : κ) : Bool := (m.find? k).isSome

def filter (m : SortedMap κ ν) (keep : κ → ν → Bool) : SortedMap κ ν :=
  ⟨m.entries.filter (fun e => keep e.1 e.2), m.ascending.filter _⟩

def erase (m : SortedMap κ ν) (k : κ) : SortedMap κ ν := m.filter (fun k' _ => k' ≠ k)

def modify (m : SortedMap κ ν) (k : κ) (f : ν → ν) : SortedMap κ ν :=
  ⟨m.entries.map (fun e => if e.1 = k then (e.1, f e.2) else e), by
    rw [List.pairwise_map]
    refine m.ascending.imp fun {a b} h => ?_
    split <;> split <;> exact h⟩

def keys (m : SortedMap κ ν) : List κ := m.entries.map (·.1)

def values (m : SortedMap κ ν) : List ν := m.entries.map (·.2)

def ofList (es : List (κ × ν)) : SortedMap κ ν :=
  es.foldl (fun m e => m.insert e.1 e.2) empty

/-! What each operation does to look-ups and to the keys. -/

theorem find?_put (k : κ) (v : ν) (es : List (κ × ν)) (k' : κ) :
    (put k v es).find? (fun e => e.1 = k') =
      if k' = k then some (k, v) else es.find? (fun e => e.1 = k') := by
  induction es with
  | nil => by_cases h : k' = k <;> simp [put, h, eq_comm]
  | cons a rest ih =>
    by_cases h : k' = k
    · subst h
      simp only [put]
      split
      · simp
      · split
        · next h₁ h₂ =>
          have : a.1 ≠ k' := fun he => absurd (he ▸ h₂) (by exact Std.Irrefl.irrefl _)
          simp [this, ih]
        · simp
    · simp only [put]
      have h' : ¬ k = k' := fun he => h he.symm
      split
      · simp [List.find?_cons, h']
      · split
        · simp [List.find?_cons, ih, h]
        · next h₁ h₂ =>
          have he : a.1 = k := Std.Trichotomous.trichotomous (r := (· < ·)) _ _ h₂ h₁
          simp [he, h']

theorem find?_insert (m : SortedMap κ ν) (k : κ) (v : ν) (k' : κ) :
    (m.insert k v).find? k' = if k' = k then some v else m.find? k' := by
  simp only [find?, insert, find?_put]
  split <;> simp

omit [LE κ] [Std.LawfulOrderLT κ] [Std.IsLinearOrder κ] [DecidableLT κ] in
@[simp] theorem find?_empty (k : κ) : (∅ : SortedMap κ ν).find? k = none := rfl

omit [LE κ] [Std.LawfulOrderLT κ] [Std.IsLinearOrder κ] [DecidableLT κ] in
theorem find?_erase (m : SortedMap κ ν) (k k' : κ) :
    (m.erase k).find? k' = if k' = k then none else m.find? k' := by
  simp only [find?, erase, filter]
  induction m.entries with
  | nil => simp
  | cons a rest ih => by_cases ha : a.1 = k <;> by_cases hb : a.1 = k' <;> grind

omit [LE κ] [Std.LawfulOrderLT κ] [Std.IsLinearOrder κ] [DecidableLT κ] in
theorem find?_modify (m : SortedMap κ ν) (k : κ) (f : ν → ν) (k' : κ) :
    (m.modify k f).find? k' = if k' = k then (m.find? k).map f else m.find? k' := by
  simp only [find?, modify]
  induction m.entries with
  | nil => simp
  | cons a rest ih => by_cases ha : a.1 = k <;> by_cases hb : a.1 = k' <;> grind

omit [LE κ] [Std.LawfulOrderLT κ] [Std.IsLinearOrder κ] [DecidableLT κ] in
theorem find?_isSome_iff (m : SortedMap κ ν) (k : κ) : (m.find? k).isSome ↔ k ∈ m.keys := by
  simp only [find?, keys, Option.isSome_map, List.find?_isSome, List.mem_map]
  grind

omit [LE κ] [Std.LawfulOrderLT κ] [Std.IsLinearOrder κ] [DecidableLT κ] [DecidableEq κ] in
theorem keys_ascending (m : SortedMap κ ν) : m.keys.Pairwise (· < ·) :=
  List.pairwise_map.mpr m.ascending

omit [LE κ] [Std.LawfulOrderLT κ] [Std.IsLinearOrder κ] [DecidableLT κ] in
@[simp] theorem keys_modify (m : SortedMap κ ν) (k : κ) (f : ν → ν) :
    (m.modify k f).keys = m.keys := by
  simp only [modify, keys, List.map_map]
  congr 1
  funext e
  simp only [Function.comp]
  split <;> rfl

end SortedMap

end MergeQueue
