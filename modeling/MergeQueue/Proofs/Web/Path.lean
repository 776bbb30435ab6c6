import MergeQueue.Proofs.Web.Url

namespace MergeQueue.Web

namespace HostName

lemma splitOn_cons (sep c : Char) (text : List Char) :
    ∃ part rest, splitOn sep text = part :: rest ∧ splitOn sep (c :: text) =
      if c = sep then [] :: part :: rest else (c :: part) :: rest := by
  induction text generalizing c with
  | nil => exact ⟨[], [], rfl, rfl⟩
  | cons d text ih =>
    obtain ⟨part, rest, htext, hcons⟩ := ih d
    have hparts : ∃ part rest, splitOn sep (d :: text) = part :: rest := by
      rw [hcons]
      split <;> exact ⟨_, _, rfl⟩
    obtain ⟨part', rest', hparts⟩ := hparts
    refine ⟨part', rest', hparts, ?_⟩
    rw [splitOn, List.foldr_cons]
    rw [splitOn] at hparts
    rw [hparts]

lemma splitOn_ne_nil (sep : Char) (text : List Char) : splitOn sep text ≠ [] := by
  obtain ⟨part, rest, htext, -⟩ := splitOn_cons sep sep text
  rw [htext]
  exact List.cons_ne_nil part rest

lemma splitOn_append (sep : Char) (front back : List Char) :
    splitOn sep (front ++ sep :: back) = splitOn sep front ++ splitOn sep back := by
  induction front with
  | nil =>
    obtain ⟨part, rest, hback, hcons⟩ := splitOn_cons sep sep back
    rw [List.nil_append, hcons, if_pos rfl, hback]
    rfl
  | cons c front ih =>
    obtain ⟨part, rest, hfront, hcons⟩ := splitOn_cons sep c front
    obtain ⟨part', rest', happend, hcons'⟩ := splitOn_cons sep c (front ++ sep :: back)
    rw [happend, hfront, List.cons_append] at ih
    obtain ⟨rfl, rfl⟩ := List.cons.inj ih
    rw [List.cons_append, hcons, hcons']
    split <;> rfl

lemma splitOn_of_not_mem {sep : Char} {text : List Char} (h : sep ∉ text) :
    splitOn sep text = [text] := by
  induction text with
  | nil => rfl
  | cons c text ih =>
    rw [List.mem_cons, not_or] at h
    obtain ⟨part, rest, htext, hcons⟩ := splitOn_cons sep c text
    rw [ih h.2] at htext
    obtain ⟨rfl, rfl⟩ := List.cons.inj htext
    rw [hcons, if_neg (Ne.symm h.1)]

end HostName

namespace Url

open Percent

lemma exists_walk_cons (folders : List (List Char)) (first : List Char) :
    ∃ entered, ∀ rest, rest ≠ [] → walk folders (first :: rest) = walk entered rest := by
  refine ⟨if isParent first then folders.tail else if isCurrent first then folders
    else first :: folders, fun rest hne => ?_⟩
  have hmore : rest.isEmpty = false := by simpa using hne
  rw [walk, hmore]
  split
  · rfl
  · split <;> rfl

lemma exists_walk_append (folders steps : List (List Char)) :
    ∃ entered, ∀ rest, rest ≠ [] → walk folders (steps ++ rest) = walk entered rest := by
  induction steps generalizing folders with
  | nil => exact ⟨folders, fun _ _ => rfl⟩
  | cons first steps ih =>
    obtain ⟨next, hnext⟩ := exists_walk_cons folders first
    obtain ⟨entered, hentered⟩ := ih next
    refine ⟨entered, fun rest hne => ?_⟩
    rw [List.cons_append, hnext _ (List.append_ne_nil_of_right_ne_nil _ hne), hentered rest hne]

lemma encodeWith_eq_self {keep : Char → Bool} {text : List Char}
    (h : ∀ c ∈ text, keep c = true) : encodeWith keep text = text := by
  induction text with
  | nil => rfl
  | cons c text ih =>
    rw [List.forall_mem_cons] at h
    rw [encodeWith] at ih ⊢
    rw [List.flatMap_cons, ih h.2, encodeChar, if_pos h.1, List.singleton_append]

structure IsStep (step : List Char) : Prop where
  encoded : ∀ c ∈ step, isEncoded c = true
  not_parent : isParent step = false
  not_current : isCurrent step = false

def unslash (c : Char) : Char := if c = '\\' then '/' else c

namespace IsStep

variable {step : List Char}

lemma not_mem (h : IsStep step) {c : Char} (hc : isEncoded c = false) : c ∉ step := by
  intro hmem
  rw [h.encoded c hmem] at hc
  cases hc

lemma encodeWith_eq (h : IsStep step) : encodeWith keepsInPath step = step :=
  encodeWith_eq_self fun c hc => law_of_encoded (h.encoded c hc) (by decide)

lemma walk (h : IsStep step) (folders rest : List (List Char)) :
    walk folders (step :: rest) = Url.walk (step :: folders) rest := by
  rw [Url.walk, h.not_parent, h.not_current]
  rfl

lemma splitOn (h : IsStep step) (front : List Char) :
    HostName.splitOn '/' ((front ++ '/' :: step).map unslash) =
      HostName.splitOn '/' (front.map unslash) ++ [step] := by
  have hsame : ∀ c ∈ step, unslash c = c :=
    fun c hc => law_of_encoded (h.encoded c hc) (by decide)
  have hmap : step.map unslash = step := (List.map_congr_left hsame).trans (List.map_id' step)
  rw [List.map_append, List.map_cons, hmap, unslash, if_neg (by decide), HostName.splitOn_append,
    HostName.splitOn_of_not_mem (h.not_mem (by decide))]

end IsStep

def withoutLead : List (List Char) → List (List Char)
  | [] :: next :: rest => next :: rest
  | steps => steps

lemma normalPath_eq (text : List Char) : normalPath text =
    (walk [] ((withoutLead (HostName.splitOn '/' (text.map unslash))).map
      (encodeWith keepsInPath))).flatMap ('/' :: ·) := rfl

lemma exists_withoutLead_append {parts : List (List Char)} (hne : parts ≠ []) :
    ∃ kept, ∀ step rest, withoutLead (parts ++ step :: rest) = kept ++ step :: rest := by
  match parts with
  | [] => exact absurd rfl hne
  | [[]] => exact ⟨[], fun _ _ => rfl⟩
  | [] :: next :: parts => exact ⟨next :: parts, fun _ _ => rfl⟩
  | (c :: first) :: parts => exact ⟨(c :: first) :: parts, fun _ _ => rfl⟩

lemma normalPath_append (front : List Char) {step last : List Char} (hstep : IsStep step)
    (hlast : IsStep last) : normalPath (front ++ '/' :: step ++ '/' :: last) =
      normalPath (front ++ '/' :: step) ++ '/' :: last := by
  rw [normalPath_eq, normalPath_eq, hlast.splitOn, hstep.splitOn, List.append_assoc]
  obtain ⟨kept, hkept⟩ :=
    exists_withoutLead_append (HostName.splitOn_ne_nil '/' (front.map unslash))
  obtain ⟨entered, hentered⟩ := exists_walk_append [] (kept.map (encodeWith keepsInPath))
  have hone : [step].map (encodeWith keepsInPath) = [step] := by
    rw [List.map_singleton, hstep.encodeWith_eq]
  have htwo : [step, last].map (encodeWith keepsInPath) = [step, last] := by
    rw [List.map_cons, hstep.encodeWith_eq, List.map_singleton, hlast.encodeWith_eq]
  rw [List.singleton_append, hkept, hkept, List.map_append, List.map_append, hone, htwo,
    hentered _ (List.cons_ne_nil _ _), hentered _ (List.cons_ne_nil _ _), hstep.walk, hstep.walk,
    hlast.walk, walk, walk, List.reverse_cons, List.flatMap_append, List.flatMap_singleton]

def site (url : Url) : String :=
  let port := match url.authority.port with
    | some n => ":" ++ Nat.repr n
    | none => ""
  url.scheme ++ "://" ++ String.ofList url.authority.host ++ port

def behind (url : Url) : List Char :=
  let query := match url.query with
    | some query => '?' :: query
    | none => []
  let fragment := match url.fragment with
    | some fragment => '#' :: fragment
    | none => []
  url.path ++ query ++ fragment

lemma text_eq (url : Url) : url.text = url.site ++ String.ofList url.behind := rfl

lemma encodeWith_append_step {keep : Char → Bool} (text : List Char) {last : List Char}
    (hkeep : ∀ c, isEncoded c = true → keep c = true) (hslash : keep '/' = true)
    (h : IsStep last) :
    encodeWith keep (text ++ '/' :: last) = encodeWith keep text ++ '/' :: last := by
  have hlast : encodeWith keep ('/' :: last) = '/' :: last := by
    refine encodeWith_eq_self fun c hc => ?_
    rcases List.mem_cons.mp hc with rfl | hc
    · exact hslash
    · exact hkeep c (h.encoded c hc)
  rw [encodeWith, List.flatMap_append]
  exact congrArg (_ ++ ·) hlast

lemma behind_completed_append (scheme : String) (authority : Authority) (front : List Char)
    {step last : List Char} (hstep : IsStep step) (hlast : IsStep last) :
    (completed scheme authority (front ++ '/' :: step ++ '/' :: last)).behind =
      (completed scheme authority (front ++ '/' :: step)).behind ++ '/' :: last := by
  have hsign {sep : Char} (hsep : isEncoded sep = false) (hslash : sep ≠ '/') :
      sep ∉ '/' :: last := by
    intro hmem
    rcases List.mem_cons.mp hmem with rfl | hmem
    · exact hslash rfl
    · exact hlast.not_mem hsep hmem
  have hquery (query : List Char) := encodeWith_append_step query
    (fun c (hc : isEncoded c = true) => (law_of_encoded hc (by decide) : keepsInQuery c = true))
    (by decide) hlast
  have hfragment (fragment : List Char) := encodeWith_append_step fragment
    (fun c (hc : isEncoded c = true) => (law_of_encoded hc (by decide) : keepsInFragment c = true))
    (by decide) hlast
  have hnormal := normalPath_append front hstep hlast
  generalize front ++ '/' :: step = path at hnormal ⊢
  -- The new step is in the last of the parts that there are.
  rw [completed, completed, Text.splitFirst_append path (hsign (by decide) (by decide))]
  cases Text.splitFirst '#' path with
  | some parts =>
    simp only [behind, Option.map_some, hfragment, List.append_assoc, List.cons_append]
  | none =>
    rw [Option.map_none]
    dsimp only
    rw [Text.splitFirst_append path (hsign (by decide) (by decide))]
    cases Text.splitFirst '?' path with
    | some parts =>
      simp only [behind, Option.map_some, hquery, List.append_assoc, List.cons_append,
        List.append_nil]
    | none => simp only [behind, Option.map_none, hnormal, List.append_nil]

lemma text_completed_append (scheme : String) (authority : Authority) (front : List Char)
    {step : List Char} {last : String} (hstep : IsStep step) (hlast : IsStep last.toList) :
    (completed scheme authority (front ++ '/' :: step ++ '/' :: last.toList)).text =
      (completed scheme authority (front ++ '/' :: step)).text ++ "/" ++ last := by
  have hslash : String.ofList ('/' :: last.toList) = "/" ++ last := by
    rw [← String.toList_inj, String.toList_ofList, String.toList_append]
    rfl
  rw [text_eq, text_eq, behind_completed_append scheme authority front hstep hlast,
    String.ofList_append, hslash, ← String.append_assoc, ← String.append_assoc]
  rfl

lemma toLower_cases {c d : Char} (h : c.toLower = d) : c = d ∨ c = d.toUpper := by
  subst h
  by_cases hupper : c.isUpper = true
  · right
    rw [Char.toUpper_toLower_eq_toUpper,
      Char.toUpper_eq_of_not_isLower (Char.not_isLower_of_isUpper hupper)]
  · exact .inl (Char.toLower_eq_of_not_isUpper hupper).symm

def spellings : List Char → List (List Char)
  | [] => [[]]
  | c :: rest => (spellings rest).flatMap fun text => [c :: text, c.toUpper :: text]

lemma mem_spellings {step text : List Char} (h : step.map Char.toLower = text) :
    step ∈ spellings text := by
  induction step generalizing text with
  | nil =>
    subst h
    exact List.mem_singleton_self _
  | cons c step ih =>
    subst h
    rw [List.map_cons, spellings, List.mem_flatMap]
    refine ⟨step, ih rfl, ?_⟩
    rcases toLower_cases (c := c) rfl with hc | hc
    · rw [← hc]
      exact List.mem_cons_self
    · rw [← hc]
      exact List.mem_cons_of_mem _ (List.mem_singleton_self _)

lemma decode?_of_lower {texts : List String} {name : String} {step : List Char}
    (h : texts.contains (Text.toLowerAscii (String.ofList step)) = true)
    (hall : ∀ text ∈ texts, ∀ step ∈ spellings text.toList,
      decode? (String.ofList step) = some name) : decode? (String.ofList step) = some name := by
  refine hall _ (List.contains_iff_mem.mp h) step (mem_spellings ?_)
  rw [Text.toLowerAscii, String.toList_map, String.toList_ofList]

structure IsFolder (name : String) : Prop where
  not_current : name ≠ "."
  not_parent : name ≠ ".."

lemma IsFolder.isStep {name : String} (h : IsFolder name) : IsStep (encode name).toList := by
  have hdecode := decode?_encode name
  refine ⟨fun _ => isEncoded_of_mem, ?_, ?_⟩
  · rw [← Bool.not_eq_true]
    intro hparent
    have hdots : decode? (String.ofList (encode name).toList) = some ".." :=
      decode?_of_lower hparent (by decide +kernel)
    rw [String.ofList_toList, hdecode] at hdots
    exact h.not_parent (Option.some.inj hdots)
  · rw [← Bool.not_eq_true]
    intro hcurrent
    have hdot : decode? (String.ofList (encode name).toList) = some "." :=
      decode?_of_lower hcurrent (by decide +kernel)
    rw [String.ofList_toList, hdecode] at hdot
    exact h.not_current (Option.some.inj hdot)

end Url

end MergeQueue.Web
