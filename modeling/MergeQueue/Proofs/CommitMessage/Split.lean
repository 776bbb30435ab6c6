import MergeQueue.Proofs.Scan
import MergeQueue.CommitMessage

namespace MergeQueue

namespace CommitMessage

inductive IsPlaceholder : List Char → List Char → Prop where
  | of {before behind more : List Char} {letter : Char}
      (hbefore : ∀ c ∈ before, Text.isSpace c = true) (hletter : letter.isAlpha = true)
      (hmore : ∀ c ∈ more, c.isAlpha = true ∨ c = '.')
      (hbehind : ∀ c ∈ behind, Text.isSpace c = true) :
      IsPlaceholder
        (['\x7b', '\x7b'] ++ before ++ ['.'] ++ (letter :: more) ++ behind ++ ['\x7d', '\x7d'])
        (letter :: more)

def Opens (text : List Char) : Prop :=
  ∃ token name rest, IsPlaceholder token name ∧ text = token ++ rest

inductive Segment where
  | literal (text : List Char)
  | field (name : List Char)

/-- The texts go as far as the next placeholder, and the rest is split behind it. -/
inductive Split : List Char → List Segment → Prop where
  | text {text : List Char} (h : Scan.Clear Opens text []) : Split text [.literal text]
  | placeholder {lead token name rest : List Char} {segments : List Segment}
      (hlead : Scan.Clear Opens lead (token ++ rest)) (htoken : IsPlaceholder token name)
      (hrest : Split rest segments) :
      Split (lead ++ (token ++ rest)) (.literal lead :: .field name :: segments)

/-! How a placeholder is read. -/

lemma isFieldChar_iff {c : Char} : isFieldChar c = true ↔ c.isAlpha = true ∨ c = '.' := by
  rw [isFieldChar, Bool.or_eq_true, decide_eq_true_eq]

lemma not_isFieldChar_of_isSpace {c : Char} (h : Text.isSpace c = true) :
    isFieldChar c = false := by
  rw [← Bool.not_eq_true, isFieldChar_iff]
  rintro (halpha | rfl)
  · have hcode : 65 ≤ c.toNat ∧ c.toNat ≤ 90 ∨ 97 ≤ c.toNat ∧ c.toNat ≤ 122 := by
      change (decide (65 ≤ c.val ∧ c.val ≤ 90) || decide (97 ≤ c.val) && decide (c.val ≤ 122)) =
        true at halpha
      simpa [UInt32.le_iff_toNat_le] using halpha
    simp only [Text.isSpace, Text.inRanges, List.any_cons, List.any_nil, Bool.or_false,
      Bool.or_eq_true, Bool.and_eq_true, decide_eq_true_eq] at h
    omega
  · exact absurd h (by decide)

def reading {n : Nat} (read : Option (List Char × { rest : List Char // rest.length < n })) :
    Option (List Char × List Char) :=
  read.map fun (name, rest) => (name, rest.1)

variable {text rest name : List Char}

lemma closing?_eq_some_iff :
    (closing? text).map (·.1) = some rest ↔
      ∃ behind, (∀ c ∈ behind, Text.isSpace c = true) ∧
        text = behind ++ '\x7d' :: '\x7d' :: rest := by
  constructor
  · intro h
    unfold closing? at h
    split at h
    · next rest' hdrop =>
      obtain rfl : rest' = rest := Option.some.inj h
      refine ⟨text.takeWhile Text.isSpace, fun c hc => List.mem_takeWhile_imp hc, ?_⟩
      rw [← hdrop, List.takeWhile_append_dropWhile]
    · cases h
  · rintro ⟨behind, hbehind, rfl⟩
    have hdrop : (behind ++ '\x7d' :: '\x7d' :: rest).dropWhile Text.isSpace =
        '\x7d' :: '\x7d' :: rest := by
      apply Scan.dropWhile_run hbehind
      rintro _ ⟨⟩
      decide
    unfold closing?
    split
    · next rest' h =>
      obtain ⟨_, htail⟩ := List.cons.inj (h.symm.trans hdrop)
      exact congrArg some (List.cons.inj htail).2
    · next h => exact absurd hdrop (h rest)

lemma field?_cons (c : Char) (more : List Char) :
    reading (field? (c :: more)) =
      if c.isAlpha then
        ((closing? (more.dropWhile isFieldChar)).map (·.1)).map (c :: more.takeWhile isFieldChar, ·)
      else none := by
  unfold field?
  dsimp only
  split
  · split <;> next h => simp [reading, h]
  · rfl

lemma field?_eq_some_iff :
    reading (field? text) = some (name, rest) ↔
      ∃ letter more behind, name = letter :: more ∧ letter.isAlpha = true ∧
        (∀ c ∈ more, isFieldChar c = true) ∧ (∀ c ∈ behind, Text.isSpace c = true) ∧
        text = name ++ (behind ++ '\x7d' :: '\x7d' :: rest) := by
  cases text with
  | nil =>
    constructor
    · intro h
      cases h
    · rintro ⟨letter, more, behind, rfl, _, _, _, htext⟩
      cases htext
  | cons c text =>
    rw [field?_cons, Option.ite_none_right_eq_some, Option.map_eq_some_iff]
    constructor
    · rintro ⟨hletter, rest', hclosing, heq⟩
      obtain ⟨behind, hbehind, hdrop⟩ := closing?_eq_some_iff.mp hclosing
      obtain ⟨rfl, rfl⟩ := Prod.mk.inj heq
      refine ⟨c, _, behind, rfl, hletter, fun d hd => List.mem_takeWhile_imp hd, hbehind, ?_⟩
      rw [List.cons_append, ← hdrop, List.takeWhile_append_dropWhile]
    · rintro ⟨letter, more, behind, rfl, hletter, hmore, hbehind, htext⟩
      rw [List.cons_append, List.cons.injEq] at htext
      obtain ⟨rfl, rfl⟩ := htext
      have hstop : ∀ a, (behind ++ '\x7d' :: '\x7d' :: rest).head? = some a →
          isFieldChar a = false := by
        intro a ha
        cases behind with
        | nil =>
          obtain rfl := Option.some.inj ha
          decide
        | cons b behind =>
          obtain rfl := Option.some.inj ha
          exact not_isFieldChar_of_isSpace (hbehind _ List.mem_cons_self)
      refine ⟨hletter, rest, ?_, ?_⟩
      · rw [Scan.dropWhile_run hmore hstop]
        exact closing?_eq_some_iff.mpr ⟨behind, hbehind, rfl⟩
      · rw [Scan.takeWhile_run hmore hstop]

lemma placeholder?_of_named {before named : List Char}
    (hbefore : ∀ c ∈ before, Text.isSpace c = true) :
    reading (placeholder? ('\x7b' :: '\x7b' :: (before ++ '.' :: named))) =
      reading (field? named) := by
  have hdrop : (before ++ '.' :: named).dropWhile Text.isSpace = '.' :: named := by
    apply Scan.dropWhile_run hbefore
    rintro _ ⟨⟩
    decide
  rw [placeholder?]
  split
  · next named' h =>
    obtain rfl := (List.cons.inj (h.symm.trans hdrop)).2
    cases field? named' with
    | none => rfl
    | some read => rfl
  · next h => exact absurd hdrop (h named)

lemma exists_named {read : List Char × List Char} (h : reading (placeholder? text) = some read) :
    ∃ before named, (∀ c ∈ before, Text.isSpace c = true) ∧
      text = '\x7b' :: '\x7b' :: (before ++ '.' :: named) := by
  unfold placeholder? at h
  split at h
  · next inner =>
    split at h
    · next named hdrop =>
      refine ⟨inner.takeWhile Text.isSpace, named, fun c hc => List.mem_takeWhile_imp hc, ?_⟩
      rw [← hdrop, List.takeWhile_append_dropWhile]
    · cases h
  · cases h

lemma placeholder?_eq_some_iff :
    reading (placeholder? text) = some (name, rest) ↔
      ∃ token, IsPlaceholder token name ∧ text = token ++ rest := by
  have hshape (before behind name : List Char) :
      ['\x7b', '\x7b'] ++ before ++ ['.'] ++ name ++ behind ++ ['\x7d', '\x7d'] ++ rest =
        '\x7b' :: '\x7b' :: (before ++ '.' :: (name ++ (behind ++ '\x7d' :: '\x7d' :: rest))) := by
    simp
  constructor
  · intro h
    obtain ⟨before, named, hbefore, rfl⟩ := exists_named h
    rw [placeholder?_of_named hbefore] at h
    obtain ⟨letter, more, behind, rfl, hletter, hmore, hbehind, rfl⟩ := field?_eq_some_iff.mp h
    refine ⟨_, .of hbefore hletter (fun c hc => isFieldChar_iff.mp (hmore c hc)) hbehind, ?_⟩
    rw [hshape]
  · rintro ⟨token, @⟨before, behind, more, letter, hbefore, hletter, hmore, hbehind⟩, rfl⟩
    rw [hshape, placeholder?_of_named hbefore, field?_eq_some_iff]
    refine ⟨letter, more, behind, rfl, hletter, fun c hc => ?_, hbehind, rfl⟩
    exact isFieldChar_iff.mpr (hmore c hc)

/-! How a template is read. -/

lemma opens_iff : Opens text ↔ (reading (placeholder? text)).isSome := by
  rw [Option.isSome_iff_exists]
  constructor
  · rintro ⟨token, name, rest, htoken, htext⟩
    exact ⟨(name, rest), placeholder?_eq_some_iff.mpr ⟨token, htoken, htext⟩⟩
  · rintro ⟨_, hread⟩
    obtain ⟨token, htoken, htext⟩ := placeholder?_eq_some_iff.mp hread
    exact ⟨token, _, _, htoken, htext⟩

lemma pieces_cons (c : Char) (text : List Char) :
    pieces (c :: text) =
      match reading (placeholder? (c :: text)) with
      | some (name, rest) => .placeholder name :: pieces rest
      | none => .literal c :: pieces text := by
  rw [pieces]
  split <;> next h => rw [h]; rfl

lemma IsPlaceholder.ne_nil {token : List Char} (h : IsPlaceholder token name) : token ≠ [] := by
  cases h
  exact List.cons_ne_nil _ _

lemma IsPlaceholder.opens {token : List Char} (h : IsPlaceholder token name) (rest : List Char) :
    Opens (token ++ rest) :=
  ⟨token, name, rest, h, rfl⟩

lemma pieces_token {token : List Char} (h : IsPlaceholder token name) (rest : List Char) :
    pieces (token ++ rest) = .placeholder name :: pieces rest := by
  have hread : reading (placeholder? (token ++ rest)) = some (name, rest) :=
    placeholder?_eq_some_iff.mpr ⟨token, h, rfl⟩
  obtain ⟨c, text, htext⟩ :=
    List.exists_cons_of_ne_nil (List.append_ne_nil_of_left_ne_nil h.ne_nil rest)
  rw [htext] at hread ⊢
  rw [pieces_cons, hread]

lemma pieces_of_not_opens {c : Char} (h : ¬Opens (c :: text)) :
    pieces (c :: text) = .literal c :: pieces text := by
  rw [opens_iff, Option.not_isSome_iff_eq_none] at h
  rw [pieces_cons, h]

lemma pieces_clear {lead : List Char} (h : Scan.Clear Opens lead rest) :
    pieces (lead ++ rest) = lead.map .literal ++ pieces rest := by
  induction lead with
  | nil => rfl
  | cons c lead ih =>
    obtain ⟨hnot, hlead⟩ := Scan.clear_cons_iff.mp h
    rw [List.cons_append] at hnot ⊢
    rw [pieces_of_not_opens hnot, ih hlead, List.map_cons, List.cons_append]

lemma not_clear {lead token : List Char} (htoken : IsPlaceholder token name) :
    ¬Scan.Clear Opens (lead ++ (token ++ rest)) [] := by
  intro h
  have hlength := h lead (token ++ rest) (List.append_nil _) (htoken.opens rest)
  have hpos := List.length_pos_iff.mpr htoken.ne_nil
  simp only [List.length_append] at hlength
  omega

namespace Split

variable {template : List Char} {segments segments' : List Segment}

lemma exists_segments (template : List Char) : ∃ segments, Split template segments := by
  induction template using pieces.induct with
  | case1 => exact ⟨_, .text (Scan.clear_nil Opens [])⟩
  | case2 c text name rest hlt hread ih =>
    obtain ⟨segments, hsegments⟩ := ih
    obtain ⟨token, htoken, htext⟩ := placeholder?_eq_some_iff.mp (congrArg reading hread)
    rw [htext]
    exact ⟨_, .placeholder (Scan.clear_nil Opens _) htoken hsegments⟩
  | case3 c text hread ih =>
    obtain ⟨segments, hsegments⟩ := ih
    have hnot : ¬Opens (c :: text) := by
      rw [opens_iff, hread]
      exact Bool.false_ne_true
    cases hsegments with
    | text h =>
      exact ⟨_, .text (Scan.clear_cons_iff.mpr ⟨by rwa [List.append_nil], h⟩)⟩
    | placeholder hlead htoken hrest =>
      exact ⟨_, .placeholder (Scan.clear_cons_iff.mpr ⟨hnot, hlead⟩) htoken hrest⟩

lemma unique (h : Split template segments) (h' : Split template segments') :
    segments' = segments := by
  induction h generalizing segments' with
  | text hclear =>
    cases h' with
    | text _ => rfl
    | placeholder _ htoken _ => exact absurd hclear (not_clear htoken)
  | @placeholder lead token name rest segments hlead htoken _ ih =>
    generalize htemplate : lead ++ (token ++ rest) = template at h'
    cases h' with
    | text hclear =>
      rw [← htemplate] at hclear
      exact absurd hclear (not_clear htoken)
    | @placeholder lead' token' name' rest' _ hlead' htoken' hrest' =>
      obtain ⟨rfl, hopening⟩ :=
        hlead.unique hlead' (htoken.opens rest) (htoken'.opens rest') htemplate
      have hread : reading (placeholder? (token ++ rest)) = some (name, rest) :=
        placeholder?_eq_some_iff.mpr ⟨token, htoken, rfl⟩
      rw [placeholder?_eq_some_iff.mpr ⟨token', htoken', hopening⟩] at hread
      obtain ⟨rfl, rfl⟩ := Prod.mk.inj (Option.some.inj hread)
      rw [ih hrest']

end Split

end CommitMessage

end MergeQueue
