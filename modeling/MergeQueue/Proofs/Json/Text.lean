import Mathlib.Tactic.Lemma
import MergeQueue.Json.Parser
import MergeQueue.Json.Printer

/-! The texts of JSON values. What is written for a value is read as that value, unless it holds a
decimal or is nested deeper than the reader goes. -/

namespace MergeQueue.Json

def quoted (s : String) : List Char := '"' :: (s.toList.flatMap escaped ++ ['"'])

mutual

def chars : Json → List Char
  | .null => ['n', 'u', 'l', 'l']
  | .bool true => ['t', 'r', 'u', 'e']
  | .bool false => ['f', 'a', 'l', 's', 'e']
  | .integer n => (toString n).toList
  | .decimal t => t.toList
  | .string s => quoted s
  | .array [] => ['[', ']']
  | .array (j :: items) => '[' :: (chars j ++ (moreItems items ++ [']']))
  | .object [] => ['\x7b', '\x7d']
  | .object ((name, j) :: fields) =>
    '\x7b' :: (quoted name ++ ':' :: (chars j ++ (moreFields fields ++ ['\x7d'])))

def moreItems : List Json → List Char
  | [] => []
  | j :: items => ',' :: (chars j ++ moreItems items)

def moreFields : List (String × Json) → List Char
  | [] => []
  | (name, j) :: fields => ',' :: (quoted name ++ ':' :: (chars j ++ moreFields fields))

end

lemma toList_foldl_push (cs : List Char) (out : String) :
    (cs.foldl String.push out).toList = out.toList ++ cs := by
  induction cs generalizing out with
  | nil => simp
  | cons c rest ih => simp [ih]

lemma toList_writeString (s : String) (out : String) :
    (writeString s out).toList = out.toList ++ quoted s := by
  have hfold (cs : List Char) (out : String) :
      (cs.foldl (fun acc c => (escaped c).foldl String.push acc) out).toList =
        out.toList ++ cs.flatMap escaped := by
    induction cs generalizing out with
    | nil => simp
    | cons c rest ih => simp [ih, toList_foldl_push]
  rw [writeString, String.foldl_eq_foldl_toList, String.toList_push, hfold]
  simp [quoted]

mutual

lemma toList_write : ∀ (j : Json) (out : String), (write j out).toList = out.toList ++ chars j
  | .null, out => by simp [write, chars]
  | .bool true, out => by simp [write, chars]
  | .bool false, out => by simp [write, chars]
  | .integer n, out => by simp [write, chars]
  | .decimal t, out => by simp [write, chars]
  | .string s, out => by simp [write, chars, toList_writeString]
  | .array [], out => by simp [write, writeItems, chars]
  | .array (j :: items), out => by
    simp [write, writeItems, chars, toList_writeItems items, toList_write j]
  | .object [], out => by simp [write, writeFields, chars]
  | .object ((name, j) :: fields), out => by
    simp [write, writeFields, chars, toList_writeFields fields, toList_write j, toList_writeString]

lemma toList_writeItems : ∀ (items : List Json) (out : String),
    (writeItems items false out).toList = out.toList ++ moreItems items
  | [], out => by simp [writeItems, moreItems]
  | j :: items, out => by
    simp [writeItems, moreItems, toList_writeItems items, toList_write j]

lemma toList_writeFields : ∀ (fields : List (String × Json)) (out : String),
    (writeFields fields false out).toList = out.toList ++ moreFields fields
  | [], out => by simp [writeFields, moreFields]
  | (name, j) :: fields, out => by
    simp [writeFields, moreFields, toList_writeFields fields, toList_write j, toList_writeString]

end

lemma toList_render (j : Json) : j.render.toList = chars j := by
  simpa [render] using toList_write j ""

lemma hexValue4?_control : ∀ n < 0x20,
    hexValue4? '0' '0' (hexDigit (n / 16)) (hexDigit (n % 16)) = some n := by decide

lemma stringBody_escaped (c : Char) (acc rest : List Char) :
    stringBody acc (escaped c ++ rest) = stringBody (c :: acc) rest := by
  unfold escaped
  split
  case h_8 =>
    split
    · next hcontrol =>
      have hsmall : c.toNat < 0xD800 := by omega
      simp [stringBody, hexValue4?_control c.toNat hcontrol, hsmall, Char.ofNat_toNat]
    · next hplain =>
      rw [List.singleton_append, stringBody]
      · rw [if_neg hplain]
      all_goals simp_all
  all_goals simp [stringBody, simpleEscape?]

lemma stringBody_flatMap (cs acc rest : List Char) :
    stringBody acc (cs.flatMap escaped ++ '"' :: rest) =
      some (String.ofList (acc.reverse ++ cs), rest) := by
  induction cs generalizing acc with
  | nil => simp [stringBody]
  | cons c cs ih =>
    rw [List.flatMap_cons, List.append_assoc, stringBody_escaped, ih]
    simp

lemma stringBody_toList (s : String) (rest : List Char) :
    stringBody [] (s.toList.flatMap escaped ++ '"' :: rest) = some (s, rest) := by
  rw [stringBody_flatMap, List.reverse_nil, List.nil_append, String.ofList_toList]

def Stops (rest : List Char) : Prop :=
  ∀ c ∈ rest.head?, c.isDigit = false ∧ c ≠ '.' ∧ c ≠ 'e' ∧ c ≠ 'E'

lemma isDigit_toDigits {n : Nat} {c : Char} (h : c ∈ Nat.toDigits 10 n) : c.isDigit :=
  Nat.isDigit_of_mem_toDigits (by decide) (by decide) h

lemma toDigits_cons (n : Nat) : ∃ c ds, Nat.toDigits 10 n = c :: ds ∧ c.isDigit := by
  obtain ⟨c, ds, h⟩ := List.exists_cons_of_ne_nil (Nat.toDigits_ne_nil (n := n) (b := 10))
  exact ⟨c, ds, h, isDigit_toDigits (h ▸ List.mem_cons_self)⟩

lemma head?_toDigits {n : Nat} (h : 0 < n) : (Nat.toDigits 10 n).head? ≠ some '0' := by
  induction n using Nat.strongRecOn with
  | ind n ih =>
    by_cases hn : n < 10
    · have hall : ∀ n < 10, 0 < n → (Nat.toDigits 10 n).head? ≠ some '0' := by decide
      exact hall n hn h
    · have hhead := ih (n / 10) (by omega) (by omega)
      rw [Nat.toDigits_of_base_le (by decide) (by omega)]
      obtain ⟨c, ds, hds, _⟩ := toDigits_cons (n / 10)
      rw [hds] at hhead ⊢
      exact hhead

lemma leading_toDigits {n : Nat} (h : (Nat.toDigits 10 n).length ≠ 1) :
    (Nat.toDigits 10 n).head? ≠ some '0' := by
  rcases Nat.eq_zero_or_pos n with rfl | hn
  · exact absurd rfl h
  · exact head?_toDigits hn

lemma digitsValue_toDigits (n : Nat) : digitsValue (Nat.toDigits 10 n) = n := by
  rw [digitsValue, ← Nat.ofDigitChars_eq_foldl, Nat.ofDigitChars_ten_toDigits]

lemma digits?_toDigits (n : Nat) {rest : List Char} (h : Stops rest) :
    digits? (Nat.toDigits 10 n ++ rest) = some (Nat.toDigits 10 n, rest) := by
  have hdigits : ∀ c ∈ Nat.toDigits 10 n, c.isDigit := fun c hc => isDigit_toDigits hc
  have htake : rest.takeWhile Char.isDigit = [] := by
    cases rest with
    | nil => rfl
    | cons c rest => exact List.takeWhile_cons_of_neg (by simp [(h c rfl).1])
  have hdrop : rest.dropWhile Char.isDigit = rest := by
    cases rest with
    | nil => rfl
    | cons c rest => exact List.dropWhile_cons_of_neg (by simp [(h c rfl).1])
  rw [digits?, List.takeWhile_append_of_pos hdigits, List.dropWhile_append_of_pos hdigits, htake,
    hdrop, List.append_nil]
  obtain ⟨c, ds, hds, _⟩ := toDigits_cons n
  rw [hds]

lemma fraction?_stops {rest : List Char} (h : Stops rest) : fraction? rest = some ([], rest) := by
  unfold fraction?
  split
  · exact absurd rfl (h _ rfl).2.1
  · rfl

lemma exponent?_stops {rest : List Char} (h : Stops rest) : exponent? rest = some ([], rest) := by
  cases rest with
  | nil => rfl
  | cons c rest => simp [exponent?, h c rfl]

lemma number?_natural (n : Nat) {rest : List Char} (h : Stops rest) :
    number? (Nat.toDigits 10 n ++ rest) = some (.integer n, rest) := by
  -- a digit in front, so the reader does not take the branch of a sign
  have hsign : ∀ tail, Nat.toDigits 10 n ++ rest ≠ '-' :: tail := by
    intro tail heq
    obtain ⟨c, ds, hds, hc⟩ := toDigits_cons n
    rw [hds] at heq
    injection heq with hminus _
    rw [hminus] at hc
    exact absurd hc (by decide)
  simp only [number?, digits?_toDigits n h, Option.bind_eq_bind, Option.bind_some]
  rw [if_neg (by simpa using leading_toDigits)]
  simp [fraction?_stops h, exponent?_stops h, digitsValue_toDigits]

lemma number?_negative {n : Nat} (hn : 0 < n) {rest : List Char} (h : Stops rest) :
    number? ('-' :: (Nat.toDigits 10 n ++ rest)) = some (.integer (-n), rest) := by
  simp only [number?, digits?_toDigits n h, Option.bind_eq_bind, Option.bind_some]
  rw [if_neg (by simpa using leading_toDigits)]
  simp [fraction?_stops h, exponent?_stops h, digitsValue_toDigits]
  omega

lemma number?_integer (n : Int) {rest : List Char} (h : Stops rest) :
    number? ((toString n).toList ++ rest) = some (.integer n, rest) := by
  have hrepr : toString n = n.repr := rfl
  rw [hrepr, Int.repr_eq_if]
  split
  · next hn =>
    have hnumber := number?_natural n.toNat h
    rw [Int.toNat_of_nonneg hn] at hnumber
    rwa [Nat.repr_eq_ofList_toDigits, String.toList_ofList]
  · next hn =>
    have hnumber := number?_negative (n := (-n).toNat) (by omega) h
    rw [Int.toNat_of_nonneg (by omega), Int.neg_neg] at hnumber
    rw [Nat.repr_eq_ofList_toDigits, String.toList_append, String.toList_ofList,
      String.toList_ofList]
    exact hnumber

lemma toList_integer (n : Int) :
    ∃ c cs, (toString n).toList = c :: cs ∧ (c.isDigit = true ∨ c = '-') := by
  have hrepr : toString n = n.repr := rfl
  rw [hrepr, Int.repr_eq_if, Nat.repr_eq_ofList_toDigits, Nat.repr_eq_ofList_toDigits]
  split
  · obtain ⟨c, ds, hds, hc⟩ := toDigits_cons n.toNat
    rw [String.toList_ofList]
    exact ⟨c, ds, hds, .inl hc⟩
  · exact ⟨'-', _, by rw [String.toList_append, String.toList_ofList]; rfl, .inr rfl⟩

lemma skipBlanks_number {c : Char} (h : c.isDigit = true ∨ c = '-') (cs : List Char) :
    skipBlanks (c :: cs) = c :: cs := by
  rw [skipBlanks, if_neg]
  intro hblank
  simp only [Bool.or_eq_true, decide_eq_true_eq] at hblank
  rcases hblank with ((rfl | rfl) | rfl) | rfl <;> simp at h

lemma value?_number {fuel depth : Nat} {c : Char} {cs : List Char}
    (h : c.isDigit = true ∨ c = '-') : value? (fuel + 1) depth (c :: cs) = number? (c :: cs) := by
  rw [value?, skipBlanks_number h]
  split
  case h_7 => rfl
  all_goals
    next heq =>
      injection heq with hc _
      rw [hc] at h
      simp at h

inductive Within : Nat → Json → Prop
  | null {n} : Within n .null
  | bool {n b} : Within n (.bool b)
  | integer {n i} : Within n (.integer i)
  | string {n s} : Within n (.string s)
  | array {n items} : (∀ j ∈ items, Within n j) → Within (n + 1) (.array items)
  | object {n fields} : (∀ f ∈ fields, Within n f.2) → Within (n + 1) (.object fields)

lemma Within.mono {n m : Nat} {j : Json} (h : Within n j) (hn : n ≤ m) : Within m j := by
  induction h generalizing m with
  | null => exact .null
  | bool => exact .bool
  | integer => exact .integer
  | string => exact .string
  | array _ ih =>
    obtain ⟨m, rfl⟩ : ∃ k, m = k + 1 := ⟨m - 1, by omega⟩
    exact .array fun j hj => ih j hj (by omega)
  | object _ ih =>
    obtain ⟨m, rfl⟩ : ∃ k, m = k + 1 := ⟨m - 1, by omega⟩
    exact .object fun f hf => ih f hf (by omega)

lemma Within.starts {n : Nat} {j : Json} (h : Within n j) :
    ∃ c cs, chars j = c :: cs ∧ c ≠ ']' ∧ ∀ rest, skipBlanks (c :: rest) = c :: rest := by
  cases h with
  | @integer _ i =>
    obtain ⟨c, cs, hcs, hc⟩ := toList_integer i
    refine ⟨c, cs, hcs, ?_, skipBlanks_number hc⟩
    rintro rfl
    simp at hc
  | @bool _ b => cases b <;> exact ⟨_, _, rfl, by decide, fun _ => rfl⟩
  | @array _ items => cases items <;> exact ⟨_, _, rfl, by decide, fun _ => rfl⟩
  | @object _ fields => cases fields <;> exact ⟨_, _, rfl, by decide, fun _ => rfl⟩
  | _ => exact ⟨_, _, rfl, by decide, fun _ => rfl⟩

def Reads (depth : Nat) (j : Json) : Prop :=
  ∀ fuel rest, (chars j).length ≤ fuel → Stops rest →
    value? fuel depth (chars j ++ rest) = some (j, rest)

lemma stops_moreItems (items : List Json) (rest : List Char) :
    Stops (moreItems items ++ ']' :: rest) := by
  cases items <;> rintro c ⟨⟩ <;> decide

lemma stops_moreFields (fields : List (String × Json)) (rest : List Char) :
    Stops (moreFields fields ++ '\x7d' :: rest) := by
  cases fields <;> rintro c ⟨⟩ <;> decide

lemma items?_chars {depth fuel : Nat} {j : Json} {items : List Json}
    (h : ∀ i ∈ j :: items, Reads depth i) (acc : List Json) (rest : List Char)
    (hfuel : (chars j ++ moreItems items).length < fuel) :
    items? fuel depth acc (chars j ++ (moreItems items ++ ']' :: rest)) =
      some (acc.reverse ++ j :: items, rest) := by
  induction items generalizing j fuel acc with
  | nil =>
    obtain ⟨fuel, rfl⟩ : ∃ k, fuel = k + 1 := ⟨fuel - 1, by omega⟩
    rw [List.length_append] at hfuel
    rw [items?, h j List.mem_cons_self fuel _ (by omega) (stops_moreItems [] rest)]
    simp [moreItems, skipBlanks]
  | cons next items ih =>
    obtain ⟨fuel, rfl⟩ : ∃ k, fuel = k + 1 := ⟨fuel - 1, by omega⟩
    simp only [moreItems, List.length_append, List.length_cons] at hfuel
    rw [items?, h j List.mem_cons_self fuel _ (by omega) (stops_moreItems (next :: items) rest)]
    have hmore := ih (fun i hi => h i (.tail _ hi)) (j :: acc)
      (by rw [List.length_append]; omega : _ < fuel)
    simpa [moreItems, skipBlanks] using hmore

lemma fields?_more {depth fuel : Nat} {name : String} {j : Json} {cs rest : List Char}
    (h : value? fuel depth cs = some (j, ',' :: rest)) (acc : List (String × Json)) :
    fields? (fuel + 1) depth acc (quoted name ++ ':' :: cs) =
      fields? fuel depth ((name, j) :: acc) rest := by
  simp [fields?, quoted, skipBlanks, stringBody_toList, h]

lemma fields?_last {depth fuel : Nat} {name : String} {j : Json} {cs rest : List Char}
    (h : value? fuel depth cs = some (j, '\x7d' :: rest)) (acc : List (String × Json)) :
    fields? (fuel + 1) depth acc (quoted name ++ ':' :: cs) =
      some (((name, j) :: acc).reverse, rest) := by
  simp [fields?, quoted, skipBlanks, stringBody_toList, h]

lemma fields?_chars {depth fuel : Nat} {name : String} {j : Json}
    {fields : List (String × Json)} (h : ∀ f ∈ (name, j) :: fields, Reads depth f.2)
    (acc : List (String × Json)) (rest : List Char)
    (hfuel : (chars j ++ moreFields fields).length < fuel) :
    fields? fuel depth acc
        (quoted name ++ ':' :: (chars j ++ (moreFields fields ++ '\x7d' :: rest))) =
      some (acc.reverse ++ (name, j) :: fields, rest) := by
  induction fields generalizing name j fuel acc with
  | nil =>
    obtain ⟨fuel, rfl⟩ : ∃ k, fuel = k + 1 := ⟨fuel - 1, by omega⟩
    rw [List.length_append] at hfuel
    have hj : Reads depth j := h (name, j) List.mem_cons_self
    refine (fields?_last (hj fuel _ (by omega) (stops_moreFields [] rest)) acc).trans ?_
    rw [List.reverse_cons]
  | cons next fields ih =>
    obtain ⟨fuel, rfl⟩ : ∃ k, fuel = k + 1 := ⟨fuel - 1, by omega⟩
    simp only [moreFields, List.length_append, List.length_cons] at hfuel
    have hj : Reads depth j := h (name, j) List.mem_cons_self
    have hstops := stops_moreFields (next :: fields) rest
    refine (fields?_more (hj fuel _ (by omega) hstops) acc).trans ?_
    have hmore := ih (fun f hf => h f (.tail _ hf)) ((name, j) :: acc)
      (by rw [List.length_append]; omega : _ < fuel)
    simpa using hmore

lemma value?_array {depth fuel : Nat} {j : Json} {items : List Json} {rest : List Char}
    (hstarts : ∃ c cs, chars j = c :: cs ∧ c ≠ ']' ∧ ∀ rest, skipBlanks (c :: rest) = c :: rest) :
    value? (fuel + 1) (depth + 1) (chars (.array (j :: items)) ++ rest) =
      (items? fuel depth [] (chars j ++ (moreItems items ++ ']' :: rest))).map
        fun (js, rest) => (.array js, rest) := by
  obtain ⟨c, cs, hcs, hc, hskip⟩ := hstarts
  have hopen : chars (.array (j :: items)) ++ rest =
      '[' :: (c :: (cs ++ (moreItems items ++ ']' :: rest))) := by simp [chars, hcs]
  rw [hopen, value?, hcs]
  have hbracket (cs : List Char) : skipBlanks ('[' :: cs) = '[' :: cs := rfl
  simp [hbracket, hskip, hc]

lemma value?_object {depth fuel : Nat} {name : String} {j : Json}
    {fields : List (String × Json)} {rest : List Char} :
    value? (fuel + 1) (depth + 1) (chars (.object ((name, j) :: fields)) ++ rest) =
      (fields? fuel depth []
        (quoted name ++ ':' :: (chars j ++ (moreFields fields ++ '\x7d' :: rest)))).map
          fun (fs, rest) => (.object fs, rest) := by
  simp [chars, value?, skipBlanks, quoted]

lemma Within.reads_of_step {n depth : Nat} {j : Json} (h : Within n j)
    (hstep : ∀ fuel rest, (chars j).length ≤ fuel + 1 → Stops rest →
      value? (fuel + 1) depth (chars j ++ rest) = some (j, rest)) : Reads depth j := by
  intro fuel rest hfuel hrest
  obtain ⟨c, cs, hcs, _⟩ := h.starts
  cases fuel with
  | zero => simp [hcs] at hfuel
  | succ fuel => exact hstep fuel rest hfuel hrest

lemma Within.reads {n : Nat} {j : Json} (h : Within n j) {depth : Nat} (hd : n ≤ depth) :
    Reads depth j := by
  -- the steps into a value are fewer than its characters, so the fuel lasts
  induction h generalizing depth with
  | @null n =>
    refine (Within.null (n := n)).reads_of_step fun fuel rest _ _ => ?_
    simp [chars, value?, skipBlanks]
  | @bool n b =>
    refine (Within.bool (n := n)).reads_of_step fun fuel rest _ _ => ?_
    cases b <;> simp [chars, value?, skipBlanks]
  | @integer n i =>
    refine (Within.integer (n := n)).reads_of_step fun fuel rest _ hrest => ?_
    obtain ⟨c, cs, hcs, hc⟩ := toList_integer i
    have hnumber := number?_integer i hrest
    rw [hcs] at hnumber
    rw [chars, hcs]
    exact (value?_number hc).trans hnumber
  | @string n s =>
    refine (Within.string (n := n)).reads_of_step fun fuel rest _ _ => ?_
    simp [chars, value?, skipBlanks, quoted, stringBody_toList]
  | @array n items hitems ih =>
    obtain ⟨depth, rfl⟩ : ∃ k, depth = k + 1 := ⟨depth - 1, by omega⟩
    refine (Within.array hitems).reads_of_step fun fuel rest hfuel _ => ?_
    cases items with
    | nil => simp [chars, value?, skipBlanks]
    | cons j items =>
      simp only [chars, List.length_cons, List.length_append, List.length_nil] at hfuel
      rw [value?_array (hitems j List.mem_cons_self).starts,
        items?_chars (fun i hi => ih i hi (by omega)) [] rest (by rw [List.length_append]; omega)]
      rfl
  | @object n fields hfields ih =>
    obtain ⟨depth, rfl⟩ : ∃ k, depth = k + 1 := ⟨depth - 1, by omega⟩
    refine (Within.object hfields).reads_of_step fun fuel rest hfuel _ => ?_
    cases fields with
    | nil => simp [chars, value?, skipBlanks]
    | cons f fields =>
      simp only [chars, List.length_cons, List.length_append, List.length_nil] at hfuel
      rw [value?_object,
        fields?_chars (fun f hf => ih f hf (by omega)) [] rest (by rw [List.length_append]; omega)]
      rfl

lemma parse?_render {j : Json} (h : Within maxDepth j) : parse? j.render = some j := by
  have hj := h.reads (Nat.le_refl _) (2 * (chars j).length + 2) [] (by omega) (by simp [Stops])
  rw [List.append_nil] at hj
  simp [parse?, toList_render, hj, skipBlanks]

end MergeQueue.Json
