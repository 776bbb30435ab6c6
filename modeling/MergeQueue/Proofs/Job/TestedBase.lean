import Mathlib.Data.List.Infix
import Mathlib.Tactic.IntervalCases
import MergeQueue.Proofs.Scan
import MergeQueue.Job.TestedBase

namespace MergeQueue

namespace TestedBase

def AllDigits (text : String) : Prop := ∀ c ∈ text.toList, c ∈ "0123456789abcdef".toList

def DigitsEnd (text : String) : Prop :=
  ∀ c, text.toList.head? = some c → c ∉ "0123456789abcdef".toList

def StartsBehind (description front : String) : Prop :=
  ∃ digits rest, description = front ++ "BaseSHA:" ++ digits ++ rest ∧ AllDigits digits ∧
    5 ≤ digits.length

structure FirstToken (front sha rest : String) : Prop where
  digits : AllDigits sha
  least : 5 ≤ sha.length
  most : sha.length ≤ 40
  first : ∀ front', StartsBehind (front ++ "BaseSHA:" ++ sha ++ rest) front' →
    front.length ≤ front'.length

def Tells (description sha : String) : Prop :=
  ∃ front rest, description = front ++ "BaseSHA:" ++ sha ++ rest ∧ FirstToken front sha rest ∧
    (sha.length = 40 ∨ DigitsEnd rest)

/-- The description of a job that ran against `sha`: nothing that it puts behind the commit name can
be taken for a part of it. -/
def Written (description sha : String) : Prop :=
  ∃ front rest, description = front ++ "BaseSHA:" ++ sha ++ rest ∧ FirstToken front sha rest ∧
    DigitsEnd rest

lemma isShaDigit_iff {c : Char} : isShaDigit c = true ↔ c ∈ "0123456789abcdef".toList := by
  constructor
  · intro h
    have hrange : 48 ≤ c.toNat ∧ c.toNat ≤ 57 ∨ 97 ≤ c.toNat ∧ c.toNat ≤ 102 := by
      simpa [isShaDigit, Char.isDigit, Char.le_def, UInt32.le_iff_toNat_le] using h
    rw [← Char.ofNat_toNat c]
    generalize c.toNat = n at hrange
    rcases hrange with ⟨hlo, hhi⟩ | ⟨hlo, hhi⟩ <;> interval_cases n <;> decide
  · intro h
    have hall : "0123456789abcdef".toList.all isShaDigit = true := by decide
    exact List.all_eq_true.mp hall c h

lemma allDigits_iff {text : String} :
    AllDigits text ↔ ∀ c ∈ text.toList, isShaDigit c = true := by
  simp only [AllDigits, isShaDigit_iff]

lemma digitsEnd_iff {text : String} :
    DigitsEnd text ↔ ∀ c, text.toList.head? = some c → isShaDigit c = false := by
  simp only [DigitsEnd, ← isShaDigit_iff, Bool.not_eq_true]

lemma atStart?_append (behind : List Char) :
    atStart? (key ++ behind) =
      if 5 ≤ ((behind.take 40).takeWhile isShaDigit).length then
        some ((behind.take 40).takeWhile isShaDigit)
      else none := by
  rw [atStart?, List.isPrefixOf?_eq_some_iff_append_eq.mpr rfl]

lemma exists_behind_of_atStart? {text sha : List Char} (h : atStart? text = some sha) :
    ∃ behind, text = key ++ behind := by
  rw [atStart?] at h
  split at h
  · next behind hbehind => exact ⟨behind, (List.isPrefixOf?_eq_some_iff_append_eq.mp hbehind).symm⟩
  · cases h

lemma atStart?_eq_some_iff {text sha : List Char} :
    atStart? text = some sha ↔
      ∃ rest, text = key ++ (sha ++ rest) ∧ (∀ c ∈ sha, isShaDigit c = true) ∧ 5 ≤ sha.length ∧
        sha.length ≤ 40 ∧ (sha.length = 40 ∨ ∀ c, rest.head? = some c → isShaDigit c = false) := by
  constructor
  · intro h
    obtain ⟨behind, rfl⟩ := exists_behind_of_atStart? h
    rw [atStart?_append, Option.ite_none_right_eq_some, Option.some.injEq] at h
    obtain ⟨hleast, hrun⟩ := h
    rw [hrun] at hleast
    obtain ⟨rest, rfl, hdigits, hmost, hend⟩ := Scan.takeWhile_take_eq_iff.mp hrun
    exact ⟨rest, rfl, hdigits, hleast, hmost, hend⟩
  · rintro ⟨rest, rfl, hdigits, hleast, hmost, hend⟩
    have hrun := Scan.takeWhile_take_eq_iff.mpr ⟨rest, rfl, hdigits, hmost, hend⟩
    rw [atStart?_append, hrun, if_pos hleast]

def Starts (text : List Char) : Prop := (atStart? text).isSome

lemma starts_iff {text : List Char} :
    Starts text ↔
      ∃ digits rest, text = key ++ (digits ++ rest) ∧ (∀ c ∈ digits, isShaDigit c = true) ∧
        5 ≤ digits.length := by
  constructor
  · intro h
    obtain ⟨sha, hsha⟩ := Option.isSome_iff_exists.mp h
    obtain ⟨rest, htext, hdigits, hleast, _⟩ := atStart?_eq_some_iff.mp hsha
    exact ⟨sha, rest, htext, hdigits, hleast⟩
  · rintro ⟨digits, rest, rfl, hdigits, hleast⟩
    have hfive : ∀ c ∈ digits.take 5, isShaDigit c = true :=
      fun c hc => hdigits c (List.mem_of_mem_take hc)
    have hlength : (digits.take 5).length = 5 := List.length_take_of_le hleast
    have hrun : 5 ≤ (((digits ++ rest).take 40).takeWhile isShaDigit).length := by
      rw [← List.take_append_drop 5 digits, List.append_assoc, List.take_append, hlength,
        List.take_of_length_le (by omega), List.takeWhile_append_of_pos hfive, List.length_append]
      omega
    rw [Starts, atStart?_append, if_pos hrun]
    rfl

lemma first?_clear {lead rest : List Char} (h : Scan.Clear Starts lead rest) :
    first? (lead ++ rest) = first? rest := by
  induction lead with
  | nil => rfl
  | cons c lead ih =>
    obtain ⟨hnot, hlead⟩ := Scan.clear_cons_iff.mp h
    rw [Starts, Option.not_isSome_iff_eq_none, List.cons_append] at hnot
    rw [List.cons_append, first?, hnot]
    exact ih hlead

lemma first?_starts {text : List Char} (h : Starts text) : first? text = atStart? text := by
  obtain ⟨sha, hsha⟩ := Option.isSome_iff_exists.mp h
  cases text with
  | nil => cases hsha
  | cons c text => rw [first?, hsha]

lemma first?_eq_some_iff {text sha : List Char} :
    first? text = some sha ↔
      ∃ lead rest, text = lead ++ rest ∧ atStart? rest = some sha ∧
        Scan.Clear Starts lead rest := by
  constructor
  · intro h
    rcases Scan.exists_first Starts text with hclear | ⟨lead, rest, rfl, hstarts, hclear⟩
    · rw [← List.append_nil text, first?_clear hclear] at h
      cases h
    · rw [first?_clear hclear, first?_starts hstarts] at h
      exact ⟨lead, rest, rfl, h, hclear⟩
  · rintro ⟨lead, rest, rfl, hrest, hclear⟩
    have hstarts : Starts rest := Option.isSome_of_eq_some hrest
    rw [first?_clear hclear, first?_starts hstarts, hrest]

lemma first?_eq_none_iff {text : List Char} :
    first? text = none ↔ ∀ lead rest, text = lead ++ rest → ¬Starts rest := by
  constructor
  · rintro h front behind htext hbehind
    rcases Scan.exists_first Starts text with hclear | ⟨lead, rest, rfl, hstarts, hclear⟩
    · have hlength := hclear front behind ((List.append_nil text).trans htext) hbehind
      rw [htext, List.length_append] at hlength
      obtain rfl : behind = [] := List.length_eq_zero_iff.mp (by omega)
      cases hbehind
    · rw [first?_clear hclear, first?_starts hstarts] at h
      rw [Starts, h] at hstarts
      cases hstarts
  · intro hnone
    rw [Option.eq_none_iff_forall_ne_some]
    intro sha h
    obtain ⟨lead, rest, htext, hrest, _⟩ := first?_eq_some_iff.mp h
    exact hnone lead rest htext (Option.isSome_of_eq_some hrest)

lemma toList_append_key (front sha rest : String) :
    (front ++ "BaseSHA:" ++ sha ++ rest).toList =
      front.toList ++ (key ++ (sha.toList ++ rest.toList)) := by
  rw [String.toList_append, String.toList_append, String.toList_append, List.append_assoc,
    List.append_assoc]
  rfl

lemma eq_append_iff {description front sha rest : String} :
    description = front ++ "BaseSHA:" ++ sha ++ rest ↔
      description.toList = front.toList ++ (key ++ (sha.toList ++ rest.toList)) := by
  rw [← String.toList_inj, toList_append_key]

lemma startsBehind_iff {description front : String} :
    StartsBehind description front ↔
      ∃ rest, description.toList = front.toList ++ rest ∧ Starts rest := by
  simp only [StartsBehind, eq_append_iff, starts_iff, allDigits_iff, ← String.length_toList]
  constructor
  · rintro ⟨digits, rest, htext, hdigits, hleast⟩
    exact ⟨_, htext, digits.toList, rest.toList, rfl, hdigits, hleast⟩
  · rintro ⟨_, htext, digits, rest, rfl, hdigits, hleast⟩
    refine ⟨.ofList digits, .ofList rest, ?_⟩
    simp only [String.toList_ofList]
    exact ⟨htext, hdigits, hleast⟩

lemma clear_iff {front sha rest : String} :
    Scan.Clear Starts front.toList (key ++ (sha.toList ++ rest.toList)) ↔
      ∀ front', StartsBehind (front ++ "BaseSHA:" ++ sha ++ rest) front' →
        front.length ≤ front'.length := by
  simp only [startsBehind_iff, toList_append_key, ← String.length_toList]
  constructor
  · rintro hclear front' ⟨behind, htext, hstarts⟩
    exact hclear _ _ htext hstarts
  · intro hfirst front' behind htext hstarts
    rw [← String.toList_ofList (l := front')] at htext ⊢
    exact hfirst _ ⟨behind, htext, hstarts⟩

end TestedBase

open TestedBase

lemma testedBase?_eq_some_iff {description sha : String} :
    testedBase? description = some sha ↔ Tells description sha := by
  have hofList (cs : List Char) : String.ofList cs = sha ↔ cs = sha.toList := by
    rw [← String.toList_inj, String.toList_ofList]
  simp only [testedBase?, Option.map_eq_some_iff, hofList, exists_eq_right, first?_eq_some_iff,
    atStart?_eq_some_iff]
  constructor
  · rintro ⟨lead, _, htext, ⟨rest, rfl, hdigits, hleast, hmost, hend⟩, hclear⟩
    rw [← String.toList_ofList (l := lead), ← String.toList_ofList (l := rest)] at htext hclear
    rw [String.length_toList] at hleast hmost hend
    refine ⟨_, _, eq_append_iff.mpr htext,
      ⟨allDigits_iff.mpr hdigits, hleast, hmost, clear_iff.mp hclear⟩, ?_⟩
    rwa [digitsEnd_iff, String.toList_ofList]
  · rintro ⟨front, rest, hdescription, htoken, hend⟩
    refine ⟨front.toList, _, eq_append_iff.mp hdescription,
      ⟨rest.toList, rfl, allDigits_iff.mp htoken.digits, ?_⟩, clear_iff.mpr htoken.first⟩
    rw [String.length_toList]
    exact ⟨htoken.least, htoken.most, hend.imp_right digitsEnd_iff.mp⟩

lemma testedBase?_eq_none_iff {description : String} :
    testedBase? description = none ↔ ∀ front, ¬StartsBehind description front := by
  rw [testedBase?, Option.map_eq_none_iff, first?_eq_none_iff]
  constructor
  · intro hnone front hstarts
    obtain ⟨rest, htext, hrest⟩ := startsBehind_iff.mp hstarts
    exact hnone _ rest htext hrest
  · intro hnone front rest htext hstarts
    apply hnone (.ofList front)
    exact startsBehind_iff.mpr ⟨rest, by rw [String.toList_ofList, htext], hstarts⟩

/-- A description is read as the commit that its first token tells, and as none exactly if it has no
token. What has been written for a commit is read as that commit and as no other. -/
theorem testedBase_tells (description : String) :
    (∀ sha, testedBase? description = some sha ↔ Tells description sha) ∧
    (testedBase? description = none ↔ ∀ front, ¬StartsBehind description front) ∧
    ∀ sha, Written description sha → ∀ tip, testedBase? description = some tip ↔ tip = sha := by
  refine ⟨fun sha => testedBase?_eq_some_iff, testedBase?_eq_none_iff, ?_⟩
  rintro sha ⟨front, rest, hdescription, htoken, hend⟩ tip
  have hread : testedBase? description = some sha :=
    testedBase?_eq_some_iff.mpr ⟨front, rest, hdescription, htoken, .inr hend⟩
  rw [hread, Option.some.injEq, eq_comm]

theorem testedBase_tells_demo :
    let description := "BaseSHA:abc, then BaseSHA:22ccae5 (not BaseSHA:01234)"
    Written description "22ccae5" ∧ testedBase? description = some "22ccae5" ∧
      testedBase? description ≠ some "01234" ∧
      Tells ("BaseSHA:" ++ "22ccae53032027186ba739dfaa473ee61a82b298" ++ "a")
        "22ccae53032027186ba739dfaa473ee61a82b298" := by
  intro description
  have hclear : Scan.Clear Starts "BaseSHA:abc, then ".toList
      (key ++ ("22ccae5".toList ++ " (not BaseSHA:01234)".toList)) := by
    apply Scan.clear_of_drop
    unfold Starts
    decide +kernel
  have hdigits : "22ccae5".toList.all isShaDigit = true := by decide +kernel
  have hwritten : Written description "22ccae5" := by
    refine ⟨"BaseSHA:abc, then ", " (not BaseSHA:01234)", by decide +kernel,
      ⟨allDigits_iff.mpr (List.all_eq_true.mp hdigits), by decide, by decide,
        clear_iff.mp hclear⟩, ?_⟩
    intro c hc
    cases hc
    decide
  obtain ⟨_, _, hread⟩ := testedBase_tells description
  refine ⟨hwritten, (hread _ hwritten _).mpr rfl, ?_, ?_⟩
  · rw [Ne, hread _ hwritten]
    decide
  · exact ((testedBase_tells _).1 _).mp (by decide +kernel)

end MergeQueue
