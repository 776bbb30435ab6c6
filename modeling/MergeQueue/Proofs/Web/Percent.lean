import Mathlib
import MergeQueue.Web.Percent

namespace MergeQueue.Web.Percent

variable {keep : Char → Bool}

lemma hexValue?_hexDigit : ∀ n < 16, hexValue? (hexDigit n) = some n := by decide

lemma decodeBytes_encodeByte (b : UInt8) (rest : List Char) :
    decodeBytes (encodeByte b ++ rest) = b :: decodeBytes rest := by
  have hb : b.toNat < 256 := b.toNat_lt
  have hhi : b.toNat / 16 < 16 := by omega
  have hlo : b.toNat % 16 < 16 := by omega
  have hjoin : 16 * (b.toNat / 16) + b.toNat % 16 = b.toNat := Nat.div_add_mod _ _
  rw [encodeByte, List.cons_append, List.cons_append, List.cons_append, List.nil_append,
    decodeBytes, hexValue?_hexDigit _ hhi, hexValue?_hexDigit _ hlo]
  simp only [hjoin, UInt8.ofNat_toNat]

lemma decodeBytes_encodeBytes (bytes : List UInt8) (rest : List Char) :
    decodeBytes (bytes.flatMap encodeByte ++ rest) = bytes ++ decodeBytes rest := by
  induction bytes with
  | nil => rfl
  | cons b bytes ih =>
    rw [List.flatMap_cons, List.append_assoc, decodeBytes_encodeByte, ih, List.cons_append]

lemma decodeBytes_cons {c : Char} (h : c ≠ '%') (rest : List Char) :
    decodeBytes (c :: rest) = String.utf8EncodeChar c ++ decodeBytes rest := by
  rw [decodeBytes]
  intro _ _ _ hc
  exact absurd hc h

lemma decodeBytes_encodeWith (h : keep '%' = false) (text : List Char) :
    decodeBytes (encodeWith keep text) = text.flatMap String.utf8EncodeChar := by
  induction text with
  | nil => rw [encodeWith, List.flatMap_nil, decodeBytes, List.flatMap_nil]
  | cons c rest ih =>
    rw [encodeWith] at ih
    rw [encodeWith, List.flatMap_cons, List.flatMap_cons, ← ih, encodeChar]
    split
    · next hc =>
      apply decodeBytes_cons
      rintro rfl
      rw [h] at hc
      cases hc
    · exact decodeBytes_encodeBytes _ _

lemma decode?_ofList_encodeWith (h : keep '%' = false) (text : String) :
    decode? (String.ofList (encodeWith keep text.toList)) = some text := by
  rw [decode?, String.toList_ofList, decodeBytes_encodeWith h]
  have hbytes : (⟨(text.toList.flatMap String.utf8EncodeChar).toArray⟩ : ByteArray) =
      text.toByteArray := by
    rw [← String.utf8Encode_toList, List.utf8Encode]
    exact ByteArray.ext List.data_toByteArray.symm
  rw [hbytes, String.fromUTF8?, dif_pos text.isValidUTF8]
  rfl

lemma decode?_encode (text : String) : decode? (encode text) = some text :=
  decode?_ofList_encodeWith (by decide) text

lemma mem_encodeWith {text : List Char} {c : Char} (h : c ∈ encodeWith keep text) :
    keep c = true ∨ c = '%' ∨ ∃ n < 16, c = hexDigit n := by
  obtain ⟨d, -, hd⟩ := List.mem_flatMap.mp h
  rw [encodeChar] at hd
  split at hd
  · next hkeep =>
    obtain rfl := List.mem_singleton.mp hd
    exact .inl hkeep
  · obtain ⟨b, -, hb⟩ := List.mem_flatMap.mp hd
    have hlt : b.toNat < 256 := b.toNat_lt
    simp only [encodeByte, List.mem_cons, List.not_mem_nil, or_false] at hb
    rcases hb with rfl | rfl | rfl
    · exact .inr (.inl rfl)
    · exact .inr (.inr ⟨_, by omega, rfl⟩)
    · exact .inr (.inr ⟨_, by omega, rfl⟩)

lemma not_mem_encode {c : Char} (h : isUnreserved c = false) (hpercent : c ≠ '%')
    (hdigit : ∀ n < 16, c ≠ hexDigit n) (text : String) : c ∉ (encode text).toList := by
  rw [encode, String.toList_ofList]
  intro hmem
  rcases mem_encodeWith hmem with hkeep | hc | ⟨n, hn, hc⟩
  · rw [h] at hkeep
    cases hkeep
  · exact hpercent hc
  · exact hdigit n hn hc

@[elab_as_elim]
lemma law_of_lt {P : Char → Prop} {n : Nat} (c : Char) (hc : c.toNat < n)
    (h : ∀ k < n, P (Char.ofNat k)) : P c := by
  have hlaw := h c.toNat hc
  rwa [Char.ofNat_toNat] at hlaw

lemma utf8EncodeChar_ascii {c : Char} (h : c.toNat < 0x80) :
    String.utf8EncodeChar c = [UInt8.ofNat c.toNat] :=
  if_pos (Nat.le_of_lt_succ h)

lemma toNat_eq_of_mem_utf8EncodeChar {c : Char} {b : UInt8}
    (hb : b ∈ String.utf8EncodeChar c) (h : b.toNat < 0x80 ∨ c.toNat < 0x80) :
    c.toNat = b.toNat := by
  have hval : c.val.toNat = c.toNat := rfl
  rw [String.utf8EncodeChar, hval] at hb
  split_ifs at hb
  · rw [List.mem_singleton.mp hb, UInt8.toNat_ofNat', Nat.mod_eq_of_lt (by omega)]
  all_goals
    have hhigh : 0x80 ≤ b.toNat := by
      simp only [List.mem_cons, List.not_mem_nil, or_false] at hb
      grind [UInt8.toNat_ofNat']
    omega

def ofByte (b : UInt8) : Char := Char.ofNat b.toNat

lemma ofByte_toNat {c : Char} {b : UInt8} (h : c.toNat = b.toNat) : ofByte b = c := by
  rw [ofByte, ← h, Char.ofNat_toNat]

lemma toNat_ofByte (b : UInt8) : (ofByte b).toNat = b.toNat := by
  have hb : b.toNat < 256 := b.toNat_lt
  rw [ofByte, Char.ofNat, dif_pos (Or.inl (by omega))]
  rfl

lemma encodeChar_eq_flatMap (h : ∀ c, keep c = true → c.toNat < 0x80) (c : Char) :
    encodeChar keep c = (String.utf8EncodeChar c).flatMap fun b =>
      if keep (ofByte b) then [ofByte b] else encodeByte b := by
  rw [encodeChar]
  split
  · next hc =>
    have hbyte : c.toNat = (UInt8.ofNat c.toNat).toNat :=
      toNat_eq_of_mem_utf8EncodeChar (by rw [utf8EncodeChar_ascii (h c hc)]; simp) (.inr (h c hc))
    rw [utf8EncodeChar_ascii (h c hc), List.flatMap_singleton, ofByte_toNat hbyte, if_pos hc]
  · next hc =>
    refine List.flatMap_congr fun b hb => (if_neg fun hkeep => hc ?_).symm
    have hlow := h _ hkeep
    rw [toNat_ofByte] at hlow
    rwa [ofByte_toNat (toNat_eq_of_mem_utf8EncodeChar hb (.inl hlow))] at hkeep

lemma toList_toUTF8 (text : String) :
    text.toUTF8.data.toList = text.toList.flatMap String.utf8EncodeChar := by
  change text.toByteArray.data.toList = _
  rw [← String.utf8Encode_toList, List.utf8Encode, List.data_toByteArray]

lemma isUnreserved_iff {c : Char} :
    isUnreserved c = true ↔ c.isAlphanum = true ∨ c = '-' ∨ c = '_' ∨ c = '.' ∨ c = '~' := by
  simp only [isUnreserved, Bool.or_eq_true, decide_eq_true_eq, or_assoc]

lemma isUnreserved_bounds {c : Char} (h : isUnreserved c = true) :
    0x21 ≤ c.toNat ∧ c.toNat < 0x7F := by
  rcases isUnreserved_iff.mp h with h | rfl | rfl | rfl | rfl
  · have hval : c.val.toNat = c.toNat := rfl
    simp only [Char.isAlphanum, Char.isAlpha, Char.isUpper, Char.isLower, Char.isDigit,
      Bool.or_eq_true, Bool.and_eq_true, decide_eq_true_eq, ge_iff_le, UInt32.le_iff_toNat_le, hval,
      Char.reduceVal, UInt32.reduceToNat] at h
    omega
  all_goals decide

lemma toList_encode (text : String) :
    (encode text).toList = text.toUTF8.data.toList.flatMap fun b =>
      if isUnreserved (ofByte b) then [ofByte b] else encodeByte b := by
  rw [encode, String.toList_ofList, encodeWith, toList_toUTF8, List.flatMap_assoc]
  refine List.flatMap_congr fun c _ => encodeChar_eq_flatMap (fun d hd => ?_) c
  exact Nat.lt_succ_of_lt (isUnreserved_bounds hd).2

lemma encode_injective : Function.Injective encode := by
  intro text text' h
  have hdecoded := congrArg decode? h
  rw [decode?_encode, decode?_encode] at hdecoded
  exact Option.some.inj hdecoded

lemma mem_of_decode? {text name : String} {c : Char} (h : decode? text = some name)
    (hc : c ∈ text.toList) (hascii : c.toNat < 0x80) (hdigit : hexValue? c = none)
    (hpercent : c ≠ '%') : c ∈ name.toList := by
  have hbytes : name.toUTF8.data.toList = decodeBytes text.toList := by
    rw [decode?, String.fromUTF8?] at h
    split at h
    · rw [← Option.some.inj h]
      rfl
    · cases h
  have hmem : UInt8.ofNat c.toNat ∈ decodeBytes text.toList := by
    clear h hbytes
    generalize text.toList = chars at hc
    induction chars using decodeBytes.induct with
    | case1 => cases hc
    | case2 a b rest hi lo hlo hhi ih =>
      rw [decodeBytes, hhi, hlo]
      refine List.mem_cons_of_mem _ (ih ?_)
      simp only [List.mem_cons] at hc
      rcases hc with rfl | rfl | rfl | hc
      · exact absurd rfl hpercent
      · rw [hdigit] at hhi
        cases hhi
      · rw [hdigit] at hlo
        cases hlo
      · exact hc
    | case3 a b rest hnot ih =>
      rw [decodeBytes]
      split
      · next hhi hlo => exact (hnot _ _ hhi hlo).elim
      · exact List.mem_cons_of_mem _ (ih ((List.mem_cons.mp hc).resolve_left hpercent))
    | case4 d rest hnot ih =>
      rw [decodeBytes, List.mem_append]
      swap
      · exact hnot
      rcases List.mem_cons.mp hc with rfl | hc
      · exact .inl (by rw [utf8EncodeChar_ascii hascii]; exact List.mem_singleton_self _)
      · exact .inr (ih hc)
  rw [← hbytes, toList_toUTF8] at hmem
  obtain ⟨d, hd, hbyte⟩ := List.mem_flatMap.mp hmem
  have hsame : (UInt8.ofNat c.toNat).toNat = c.toNat := by
    rw [UInt8.toNat_ofNat', Nat.mod_eq_of_lt (by omega)]
  have hdc : d.toNat = c.toNat :=
    (toNat_eq_of_mem_utf8EncodeChar hbyte (.inl (by rwa [hsame]))).trans hsame
  rwa [← Char.ofNat_toNat c, ← hdc, Char.ofNat_toNat]

def isEncoded (c : Char) : Bool := isUnreserved c || c = '%'

lemma isEncoded_of_mem {text : String} {c : Char} (h : c ∈ (encode text).toList) :
    isEncoded c = true := by
  rw [encode, String.toList_ofList] at h
  rcases mem_encodeWith h with hkeep | rfl | ⟨n, hn, rfl⟩
  · rw [isEncoded, hkeep, Bool.true_or]
  · decide
  · have hdigits : ∀ n < 16, isEncoded (hexDigit n) = true := by decide
    exact hdigits n hn

@[elab_as_elim]
lemma law_of_encoded {P : Char → Prop} {c : Char} (hc : isEncoded c = true)
    (h : ∀ k < 0x7F, isEncoded (Char.ofNat k) = true → P (Char.ofNat k)) : P c := by
  have hlt : c.toNat < 0x7F := by
    rcases Bool.or_eq_true_iff.mp hc with hc | hc
    · exact (isUnreserved_bounds hc).2
    · rw [of_decide_eq_true hc]
      decide
  revert hc
  exact law_of_lt c hlt h

end MergeQueue.Web.Percent
