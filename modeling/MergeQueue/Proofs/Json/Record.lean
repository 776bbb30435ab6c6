import Mathlib.Data.List.Forall2
import Mathlib.Data.List.Nodup
import MergeQueue.Json.Record
import MergeQueue.Proofs.Json.Text

/-! A record is described by its fields, and by these it is known what is read from an object that
has lost a field, or has got another value or more fields. -/

namespace MergeQueue

namespace Json

variable {α β : Type}

def known (fields fields' : List (String × Json)) : List (String × Json) :=
  fields'.filter fun f => f.1 ∈ fields.map (·.1)

/-- A value with more fields in some of its objects, at any depth. -/
inductive Widened : Json → Json → Prop
  | same (j : Json) : Widened j j
  | array {items items'} : List.Forall₂ Widened items items' →
      Widened (.array items) (.array items')
  | object {fields fields'} : (known fields fields').map (·.1) = fields.map (·.1) →
      List.Forall₂ Widened (fields.map (·.2)) ((known fields fields').map (·.2)) →
      Widened (.object fields) (.object fields')

def fieldOr? [FromJson β] (name : String) (missing : Option β) (object : List (String × Json)) :
    Option β :=
  match Fields.named? name object with
  | some (some j) => fromJson? j
  | some none => missing
  | none => none

def ofObject? (read : FieldReader α) (object : List (String × Json)) : Option α :=
  (read (.named object)).map (·.1)

@[simp] lemma record_object (read : FieldReader α) (object : List (String × Json)) :
    record read (.object object) = ofObject? read object := rfl

@[simp] lemma ofObject?_pure (a : α) (object : List (String × Json)) :
    ofObject? (pure a) object = some a := rfl

lemma ofObject?_bind {read : FieldReader β} {object : List (String × Json)} {value : Option β}
    (h : read (.named object) = value.map fun b => (b, .named object)) (next : β → FieldReader α) :
    ofObject? (read >>= next) object = value.bind fun b => ofObject? (next b) object := by
  change ((read (.named object)).bind _).map _ = _
  rw [h]
  cases value <;> rfl

lemma required_named [FromJson β] (name : String) (object : List (String × Json)) :
    (required name : FieldReader β) (.named object) =
      (fieldOr? name none object).map fun b => (b, .named object) := by
  simp only [required, fieldOr?]
  rcases Fields.named? name object with _ | _ | j <;> rfl

lemma optional_named [FromJson β] (name : String) (missing : β)
    (object : List (String × Json)) :
    (optional name missing : FieldReader β) (.named object) =
      (fieldOr? name (some missing) object).map fun b => (b, .named object) := by
  simp only [optional, fieldOr?]
  rcases Fields.named? name object with _ | _ | j <;> rfl

section Reading

variable [FromJson β] (name : String) (missing : β) (next : β → FieldReader α) (f : β → α)
  (object : List (String × Json))

@[simp] lemma ofObject?_required : ofObject? (required name >>= next) object =
    (fieldOr? name none object).bind fun b => ofObject? (next b) object :=
  ofObject?_bind (required_named name object) next

@[simp] lemma ofObject?_optional : ofObject? (optional name missing >>= next) object =
    (fieldOr? name (some missing) object).bind fun b => ofObject? (next b) object :=
  ofObject?_bind (optional_named name missing object) next

@[simp] lemma ofObject?_map_required : ofObject? (f <$> required name) object =
    (fieldOr? name none object).map f := by
  rw [← bind_pure_comp, ofObject?_required]
  exact Option.map_eq_bind.symm

@[simp] lemma ofObject?_map_optional : ofObject? (f <$> optional name missing) object =
    (fieldOr? name (some missing) object).map f := by
  rw [← bind_pure_comp, ofObject?_optional]
  exact Option.map_eq_bind.symm

end Reading

@[simp] lemma isSome_bind (x : Option β) (k : β → Option α) :
    (x.bind k).isSome = x.any fun b => (k b).isSome := by
  cases x <;> rfl

@[simp] lemma any_const (x : Option β) (b : Bool) : x.any (fun _ => b) = (x.isSome && b) := by
  cases x <;> simp

end Json

open Json

class LawfulJson (α : Type) [ToJson α] [FromJson α] : Prop where
  decodes : ∀ (x : α) (j : Json), Widened (toJson x) j → fromJson? j = some x

class Shallow (α : Type) [ToJson α] where
  depth : Nat
  within : ∀ x : α, Within depth (toJson x)

structure Field (α : Type) where
  name : String
  Value : Type
  [writer : ToJson Value]
  [reader : FromJson Value]
  [lawful : LawfulJson Value]
  [shallow : Shallow Value]
  get : α → Value
  missing : Option Value

attribute [instance] Field.writer Field.reader Field.lawful Field.shallow

namespace Field

variable {α β : Type} [ToJson β] [FromJson β] [LawfulJson β] [Shallow β]

@[simp] def required (name : String) (get : α → β) : Field α := ⟨name, β, get, none⟩

@[simp] def optional (name : String) (missing : β) (get : α → β) : Field α :=
  ⟨name, β, get, some missing⟩

@[simp] def fromWhole (whole : α) (name : String) (get : α → β) : Field α :=
  .optional name (get whole) get

@[simp] def read? (f : Field α) (object : List (String × Json)) : Option f.Value :=
  fieldOr? f.name f.missing object

def write (f : Field α) (x : α) : String × Json := (f.name, toJson (f.get x))

def levels (fields : List (Field α)) : Nat := fields.foldr (fun f n => max f.shallow.depth n) 0

lemma depth_le_levels {fields : List (Field α)} {f : Field α} (hf : f ∈ fields) :
    f.shallow.depth ≤ levels fields := by
  induction fields with
  | nil => cases hf
  | cons first rest ih =>
    rw [levels, List.foldr_cons]
    rcases List.mem_cons.mp hf with rfl | hf
    · exact Nat.le_max_left _ _
    · exact Nat.le_trans (ih hf) (Nat.le_max_right _ _)

end Field

class Record (α : Type) [ToJson α] [FromJson α] where
  fields : List (Field α)
  nodup : (fields.map (·.name)).Nodup
  written : ∀ x, toJson x = .object (fields.map (·.write x))
  complete : ∀ object, (∀ f ∈ fields, (f.read? object).isSome) →
    (fromJson? (.object object) : Option α).isSome
  read : ∀ object x, fromJson? (.object object) = some x ↔
    ∀ f ∈ fields, f.read? object = some (f.get x)

abbrev fieldsOf (α : Type) [ToJson α] [FromJson α] [Record α] : List (Field α) := Record.fields

namespace Json

lemma named?_cons_self {name : String} {j : Json} {rest : List (String × Json)}
    (h : ∀ e ∈ rest, e.1 ≠ name) : Fields.named? name ((name, j) :: rest) = some (some j) := by
  have hnone : rest.filter (fun f => f.1 == name) = [] :=
    List.filter_eq_nil_iff.mpr fun e he => by simpa using h e he
  simp [Fields.named?, hnone]

lemma named?_filter {name : String} (keep : String → Bool) (h : keep name = true)
    (object : List (String × Json)) :
    Fields.named? name (object.filter fun f => keep f.1) = Fields.named? name object := by
  have hsame : (object.filter fun f => keep f.1).filter (fun f => f.1 == name) =
      object.filter fun f => f.1 == name := by
    rw [List.filter_filter]
    apply List.filter_congr
    intro f _
    by_cases hf : f.1 = name
    · simp [hf, h]
    · simp [hf]
  rw [Fields.named?, Fields.named?, hsame]

lemma named?_cons_ne {name : String} {e : String × Json} (h : e.1 ≠ name)
    (rest : List (String × Json)) : Fields.named? name (e :: rest) = Fields.named? name rest := by
  simp [Fields.named?, h]

end Json

namespace Record

variable {α : Type}

def Entries (P : Field α → Json → Prop) : List (Field α) → List (String × Json) → Prop :=
  List.Forall₂ fun f e => e.1 = f.name ∧ P f e.2

variable {P : Field α → Json → Prop} {fields : List (Field α)} {entries : List (String × Json)}

lemma Entries.names (h : Entries P fields entries) :
    entries.map (·.1) = fields.map (·.name) := by
  induction h with
  | nil => rfl
  | cons he _ ih => rw [List.map_cons, List.map_cons, he.1, ih]

lemma Entries.named? (h : Entries P fields entries) (hn : (fields.map (·.name)).Nodup)
    {f : Field α} (hf : f ∈ fields) :
    ∃ j, Fields.named? f.name entries = some (some j) ∧ P f j := by
  induction h with
  | nil => cases hf
  | @cons g e fields entries he hrest ih =>
    obtain ⟨hnot, hn⟩ := List.nodup_cons.mp hn
    obtain ⟨name, j⟩ := e
    obtain ⟨hname, hP⟩ := he
    change name = g.name at hname
    subst hname
    rcases List.mem_cons.mp hf with rfl | hf
    · refine ⟨j, named?_cons_self fun e he heq => hnot ?_, hP⟩
      rw [← Entries.names hrest]
      exact List.mem_map.mpr ⟨e, he, heq⟩
    · rw [named?_cons_ne]
      · exact ih hn hf
      · exact fun heq => hnot (List.mem_map.mpr ⟨f, hf, heq.symm⟩)

lemma entries_widened (x : α) {fields : List (Field α)} {entries : List (String × Json)}
    (hnames : entries.map (·.1) = (fields.map (·.write x)).map (·.1))
    (hvalues : List.Forall₂ Widened ((fields.map (·.write x)).map (·.2)) (entries.map (·.2))) :
    Entries (fun f j => Widened (toJson (f.get x)) j) fields entries := by
  induction fields generalizing entries with
  | nil =>
    obtain rfl := List.map_eq_nil_iff.mp hnames
    exact .nil
  | cons f fields ih =>
    cases entries with
    | nil => cases hnames
    | cons e entries =>
      obtain ⟨hname, hnames⟩ := List.cons.inj hnames
      obtain ⟨hvalue, hvalues⟩ := List.forall₂_cons.mp hvalues
      exact .cons ⟨hname, hvalue⟩ (ih hnames hvalues)

variable [ToJson α] [FromJson α] [Record α]

lemma read?_entry {object : List (String × Json)} (h : Entries P (fieldsOf α) object)
    {f : Field α} (hf : f ∈ fieldsOf α) : ∃ j, P f j ∧ f.read? object = fromJson? j := by
  obtain ⟨j, hj, hP⟩ := h.named? Record.nodup hf
  exact ⟨j, hP, by rw [Field.read?, fieldOr?, hj]⟩

lemma entries_map (value : Field α → Json) :
    Entries (fun f j => j = value f) (fieldsOf α) ((fieldsOf α).map fun f => (f.name, value f)) :=
  List.forall₂_map_right_iff.mpr (List.forall₂_same.mpr fun _ _ => ⟨rfl, rfl⟩)

lemma read?_map (value : Field α → Json) {f : Field α} (hf : f ∈ fieldsOf α) :
    f.read? ((fieldsOf α).map fun f => (f.name, value f)) = fromJson? (value f) := by
  obtain ⟨_, rfl, hread⟩ := read?_entry (entries_map value) hf
  exact hread

lemma read?_written (x : α) {f : Field α} (hf : f ∈ fieldsOf α) :
    f.read? ((fieldsOf α).map (·.write x)) = some (f.get x) :=
  (read?_map (fun f => toJson (f.get x)) hf).trans (LawfulJson.decodes _ _ (.same _))

lemma names_written (x : α) :
    ((fieldsOf α).map (·.write x)).map (·.1) = (fieldsOf α).map (·.name) := by
  rw [List.map_map]
  rfl

lemma read?_widened (x : α) {object : List (String × Json)}
    (hnames : (known ((fieldsOf α).map (·.write x)) object).map (·.1) =
      ((fieldsOf α).map (·.write x)).map (·.1))
    (hvalues : List.Forall₂ Widened (((fieldsOf α).map (·.write x)).map (·.2))
      ((known ((fieldsOf α).map (·.write x)) object).map (·.2)))
    {f : Field α} (hf : f ∈ fieldsOf α) : f.read? object = some (f.get x) := by
  obtain ⟨j, hwidened, hread⟩ := read?_entry (entries_widened x hnames hvalues) hf
  have hknown : f.name ∈ ((fieldsOf α).map (·.write x)).map (·.1) := by
    rw [names_written]
    exact List.mem_map_of_mem hf
  rw [Field.read?, fieldOr?, known,
    named?_filter (fun name => name ∈ ((fieldsOf α).map (·.write x)).map (·.1))
      (decide_eq_true hknown)] at hread
  rw [Field.read?, fieldOr?, hread, LawfulJson.decodes _ _ hwidened]

lemma read?_without (x : α) (name : String) {f : Field α} (hf : f ∈ fieldsOf α) :
    f.read? (((fieldsOf α).map (·.write x)).filter fun e => e.1 ≠ name) =
      if f.name = name then f.missing else some (f.get x) := by
  split
  · next hname =>
    have hnone : (((fieldsOf α).map (·.write x)).filter fun e => e.1 ≠ name).filter
        (fun e => e.1 == f.name) = [] := by
      rw [List.filter_filter, List.filter_eq_nil_iff]
      intro e _
      simp [hname]
    rw [Field.read?, fieldOr?, Fields.named?, hnone]
  · next hname =>
    rw [← read?_written x hf, Field.read?, Field.read?, fieldOr?, fieldOr?,
      named?_filter (fun n => n ≠ name) (decide_eq_true hname)]

lemma decoded_eq_none {object : List (String × Json)} {f : Field α} (hf : f ∈ fieldsOf α)
    (h : f.read? object = none) : fromJson? (.object object) = (none : Option α) := by
  cases hy : (fromJson? (.object object) : Option α) with
  | none => rfl
  | some y =>
    have hread := (Record.read object y).mp hy f hf
    rw [h] at hread
    cases hread

lemma ext {x y : α} (h : ∀ f ∈ fieldsOf α, f.get x = f.get y) : x = y := by
  have hx : fromJson? (.object ((fieldsOf α).map (·.write x))) = some y :=
    (Record.read _ y).mpr fun f hf => by rw [read?_written x hf, h f hf]
  have hy : fromJson? (.object ((fieldsOf α).map (·.write x))) = some x :=
    (Record.read _ x).mpr fun f hf => read?_written x hf
  exact Option.some.inj (hy.symm.trans hx)

instance : LawfulJson α where
  decodes x j h := by
    rw [Record.written x] at h
    cases h with
    | same => exact (Record.read _ x).mpr fun f hf => read?_written x hf
    | object hnames hvalues =>
      exact (Record.read _ x).mpr fun f hf => read?_widened x hnames hvalues hf

instance : Shallow α where
  depth := Field.levels (fieldsOf α) + 1
  within x := by
    rw [Record.written x]
    refine .object fun e he => ?_
    obtain ⟨f, hf, rfl⟩ := List.mem_map.mp he
    exact (f.shallow.within (f.get x)).mono (Field.depth_le_levels hf)

end Record

namespace Json

def without (j : Json) (name : String) : Json :=
  match j with
  | .object fields => .object (fields.filter fun f => f.1 ≠ name)
  | j => j

def replace (j : Json) (name : String) (value : Json) : Json :=
  match j with
  | .object fields => .object (fields.map fun f => if f.1 = name then (name, value) else f)
  | j => j

end Json

/-- What is written is read back, even if unknown fields have been added to any of its objects. -/
structure JsonLaws (α : Type) [ToJson α] [FromJson α] : Prop where
  text : ∀ x : α, parse? (toJson x).render = some (toJson x)
  roundTrip : ∀ x : α, fromJson? (toJson x) = some x
  widened : ∀ (x : α) (j : Json), Widened (toJson x) j → fromJson? j = some x

/-- A record without one of its fields is read with the default of the field, or not at all where
there is none; and with another value for a field it is read as that value is. The other fields are
read as they were written. -/
structure RecordLaws (α : Type) [ToJson α] [FromJson α] [Record α] : Prop extends JsonLaws α where
  written : ∀ x : α, ∃ object, toJson x = .object object ∧
    object.map (·.1) = (fieldsOf α).map (·.name)
  ext : ∀ x y : α, (∀ f ∈ fieldsOf α, f.get x = f.get y) → x = y
  defaulted : ∀ f ∈ fieldsOf α, ∀ missing, f.missing = some missing → ∀ x : α,
    ∃ y : α, fromJson? ((toJson x).without f.name) = some y ∧ f.get y = missing ∧
      ∀ g ∈ fieldsOf α, g.name ≠ f.name → g.get y = g.get x
  needed : ∀ f ∈ fieldsOf α, f.missing = none → ∀ x : α,
    fromJson? ((toJson x).without f.name) = (none : Option α)
  replaced : ∀ f ∈ fieldsOf α, ∀ j v, fromJson? j = some v → ∀ x : α,
    ∃ y : α, fromJson? ((toJson x).replace f.name j) = some y ∧ f.get y = v ∧
      ∀ g ∈ fieldsOf α, g.name ≠ f.name → g.get y = g.get x
  malformed : ∀ f ∈ fieldsOf α, ∀ j, fromJson? j = (none : Option f.Value) → ∀ x : α,
    fromJson? ((toJson x).replace f.name j) = (none : Option α)

lemma LawfulJson.laws (α : Type) [ToJson α] [FromJson α] [LawfulJson α] [Shallow α]
    (h : Shallow.depth α ≤ maxDepth) : JsonLaws α where
  text x := parse?_render ((Shallow.within x).mono h)
  roundTrip x := decodes x _ (.same _)
  widened := decodes

namespace Record

variable {α : Type} [ToJson α] [FromJson α] [Record α]

lemma read?_replace (x : α) (name : String) (j : Json) {f : Field α} (hf : f ∈ fieldsOf α) :
    f.read? (((fieldsOf α).map (·.write x)).map fun e => if e.1 = name then (name, j) else e) =
      if f.name = name then fromJson? j else some (f.get x) := by
  have hmap : (((fieldsOf α).map (·.write x)).map fun e => if e.1 = name then (name, j) else e) =
      (fieldsOf α).map fun g => (g.name, if g.name = name then j else toJson (g.get x)) := by
    rw [List.map_map]
    apply List.map_congr_left
    intro g _
    simp only [Function.comp_apply, Field.write]
    split
    · next hname => rw [hname]
    · rfl
  rw [hmap, read?_map (fun g => if g.name = name then j else toJson (g.get x)) hf]
  split
  · rfl
  · exact LawfulJson.decodes _ _ (.same _)

lemma eq_of_name {f g : Field α} (hf : f ∈ fieldsOf α) (hg : g ∈ fieldsOf α)
    (h : g.name = f.name) : g = f :=
  List.inj_on_of_nodup_map Record.nodup hg hf h

lemma decoded_with (x : α) {object : List (String × Json)} {f : Field α} (hf : f ∈ fieldsOf α)
    {v : f.Value} (hv : f.read? object = some v)
    (hothers : ∀ g ∈ fieldsOf α, g.name ≠ f.name → g.read? object = some (g.get x)) :
    ∃ y : α, fromJson? (.object object) = some y ∧ f.get y = v ∧
      ∀ g ∈ fieldsOf α, g.name ≠ f.name → g.get y = g.get x := by
  have hall (g : Field α) (hg : g ∈ fieldsOf α) : (g.read? object).isSome := by
    by_cases hname : g.name = f.name
    · rw [eq_of_name hf hg hname, hv]
      rfl
    · rw [hothers g hg hname]
      rfl
  obtain ⟨y, hy⟩ := Option.isSome_iff_exists.mp (Record.complete object hall)
  have hread := (Record.read object y).mp hy
  refine ⟨y, hy, ?_, fun g hg hname => ?_⟩
  · exact Option.some.inj ((hread f hf).symm.trans hv)
  · exact Option.some.inj ((hread g hg).symm.trans (hothers g hg hname))

lemma laws (α : Type) [ToJson α] [FromJson α] [Record α] (h : Shallow.depth α ≤ maxDepth) :
    RecordLaws α where
  toJsonLaws := LawfulJson.laws α h
  written x := ⟨_, Record.written x, names_written x⟩
  ext _ _ := Record.ext
  defaulted f hf missing hm x := by
    rw [Record.written x]
    exact decoded_with x hf (by rw [read?_without x f.name hf, if_pos rfl, hm])
      fun g hg hname => by rw [read?_without x f.name hg, if_neg hname]
  needed f hf hm x := by
    rw [Record.written x]
    exact decoded_eq_none hf (by rw [read?_without x f.name hf, if_pos rfl, hm])
  replaced f hf j v hv x := by
    rw [Record.written x]
    exact decoded_with x hf (by rw [read?_replace x f.name j hf, if_pos rfl, hv])
      fun g hg hname => by rw [read?_replace x f.name j hg, if_neg hname]
  malformed f hf j hj x := by
    rw [Record.written x]
    exact decoded_eq_none hf (by rw [read?_replace x f.name j hf, if_pos rfl, hj])

end Record

end MergeQueue
