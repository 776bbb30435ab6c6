import MergeQueue.Proofs.Affix
import MergeQueue.Proofs.Scan
import MergeQueue.Proofs.Web.Percent
import MergeQueue.Web.Url

namespace MergeQueue.Web.Url

open Percent

def isBlank (c : Char) : Bool := c.toNat ≤ 0x20

def isSlash (c : Char) : Bool := c = '/' || c = '\\'

def isKept (c : Char) : Bool := c ≠ '\t' && c ≠ '\n' && c ≠ '\r'

@[elab_as_elim]
lemma law_of_blank {P : Char → Prop} {c : Char} (hc : isBlank c = true)
    (h : ∀ k < 0x21, P (Char.ofNat k)) : P c :=
  law_of_lt c (Nat.lt_succ_of_le (of_decide_eq_true hc)) h

lemma ne_of_blank {c d : Char} (hc : isBlank c = true) (hd : isBlank d = false) : c ≠ d := by
  rintro rfl
  rw [hc] at hd
  cases hd

lemma isKept_of_solid {c : Char} (hc : isBlank c = false) : isKept c = true := by
  have hne {d : Char} (hd : isBlank d = true) : c ≠ d := (ne_of_blank hd hc).symm
  simp [isKept, hne (d := '\t') rfl, hne (d := '\n') rfl, hne (d := '\r') rfl]

lemma solid_of_all {text : List Char} (h : text.all (!isBlank ·) = true) :
    ∀ c ∈ text, isBlank c = false := by
  simpa using h

section Scheme

lemma tidy_eq (text : List Char) : tidy text =
    ((text.dropWhile isBlank).reverse.dropWhile isBlank).reverse.filter isKept := rfl

lemma slashes_solid (n : Nat) : ∀ c ∈ List.replicate n '/', isBlank c = false := by
  intro c hc
  rw [List.eq_of_mem_replicate hc]
  rfl

def opening (text : List Char) : List Char := (text.dropWhile isBlank).filter isKept

lemma tidy_append (text : List Char) {rest : List Char} (hne : rest ≠ [])
    (hsolid : ∀ c ∈ rest, isBlank c = false) : tidy (text ++ rest) = opening text ++ rest := by
  have hhead : ∀ c, rest.head? = some c → isBlank c = false :=
    fun c hc => hsolid c (List.mem_of_head? hc)
  have hkept : rest.filter isKept = rest :=
    List.filter_eq_self.mpr fun c hc => isKept_of_solid (hsolid c hc)
  obtain ⟨c, front, hrest⟩ := List.exists_cons_of_ne_nil (List.reverse_ne_nil_iff.mpr hne)
  have hlast : isBlank c = false := by
    refine hsolid c (List.mem_reverse.mp ?_)
    rw [hrest]
    exact List.mem_cons_self
  rw [tidy_eq, Scan.dropWhile_append_stop text hhead, List.reverse_append, hrest,
    List.cons_append, List.dropWhile_cons_of_neg (by simp [hlast]), ← List.cons_append, ← hrest,
    ← List.reverse_append, List.reverse_reverse, List.filter_append, hkept, opening]

lemma exists_opening_eq (text : List Char) :
    ∃ blanks, opening text = tidy text ++ blanks ∧ ∀ c ∈ blanks, isBlank c = true := by
  rw [opening, tidy_eq]
  generalize text.dropWhile isBlank = text
  refine ⟨(text.reverse.takeWhile isBlank).reverse.filter isKept, ?_, fun c hc => ?_⟩
  · rw [← List.filter_append, ← List.reverse_append, List.takeWhile_append_dropWhile,
      List.reverse_reverse]
  · exact List.mem_takeWhile_imp (List.mem_reverse.mp (List.mem_of_mem_filter hc))

lemma scheme?_eq_some_iff {text rest : List Char} {scheme : String} :
    scheme? text = some (scheme, rest) ↔ ∃ c name, text.takeWhile isSchemeChar = c :: name ∧
      text.dropWhile isSchemeChar = ':' :: rest ∧ c.isAlpha = true ∧
      scheme = Text.toLowerAscii (String.ofList (c :: name)) := by
  constructor
  · intro h
    rw [scheme?] at h
    split at h
    · next c name rest' hname hrest =>
      split at h
      · next hc =>
        cases h
        exact ⟨c, name, hname, hrest, hc, by rw [hname]⟩
      · cases h
    · cases h
  · rintro ⟨c, name, hname, hrest, hc, rfl⟩
    simp [scheme?, hname, hrest, hc]

def StopsScheme (rest : List Char) : Prop :=
  ∀ c, rest.head? = some c → isSchemeChar c = false ∧ c ≠ ':'

lemma stopsScheme_slash (behind : List Char) : StopsScheme ('/' :: behind) := by
  intro c hc
  obtain rfl := Option.some.inj hc
  decide

lemma stopsScheme_blanks {blanks : List Char} (h : ∀ c ∈ blanks, isBlank c = true) :
    StopsScheme blanks := by
  intro c hc
  have hblank := h c (List.mem_of_head? hc)
  exact ⟨law_of_blank hblank (by decide), ne_of_blank hblank (by decide)⟩

lemma scheme?_append_eq_some_iff {text rest behind : List Char} {scheme : String}
    (hstop : StopsScheme rest) : scheme? (text ++ rest) = some (scheme, behind) ↔
      ∃ place, scheme? text = some (scheme, place) ∧ behind = place ++ rest := by
  have hchar : ∀ c, rest.head? = some c → isSchemeChar c = false := fun c hc => (hstop c hc).1
  simp only [scheme?_eq_some_iff, Scan.takeWhile_append_stop text hchar,
    Scan.dropWhile_append_stop text hchar]
  constructor
  · rintro ⟨c, name, hname, hrest, hc, hscheme⟩
    cases hplace : text.dropWhile isSchemeChar with
    | nil =>
      rw [hplace, List.nil_append] at hrest
      exact absurd rfl (hstop ':' (by rw [hrest]; rfl)).2
    | cons d place =>
      rw [hplace, List.cons_append] at hrest
      obtain ⟨rfl, rfl⟩ := List.cons.inj hrest
      exact ⟨place, ⟨c, name, hname, rfl, hc, hscheme⟩, rfl⟩
  · rintro ⟨place, ⟨c, name, hname, hplace, hc, hscheme⟩, rfl⟩
    exact ⟨c, name, hname, by rw [hplace, List.cons_append], hc, hscheme⟩

end Scheme

section Authority

def authorityText (text : List Char) : List Char :=
  (text.dropWhile isSlash).takeWhile (!endsAuthority ·)

def behindAuthority (text : List Char) : List Char :=
  (text.dropWhile isSlash).dropWhile (!endsAuthority ·)

variable {rest : List Char}

lemma authorityText_append (h : ∃ c ∈ rest, isSlash c = false) (behind : List Char) :
    authorityText (rest ++ '/' :: behind) = authorityText rest := by
  rw [authorityText, authorityText, Scan.dropWhile_append_found h]
  refine Scan.takeWhile_append_stop _ fun c hc => ?_
  obtain rfl := Option.some.inj hc
  rfl

lemma behindAuthority_append (h : ∃ c ∈ rest, isSlash c = false) (behind : List Char) :
    behindAuthority (rest ++ '/' :: behind) = behindAuthority rest ++ '/' :: behind := by
  rw [behindAuthority, behindAuthority, Scan.dropWhile_append_found h]
  refine Scan.dropWhile_append_stop _ fun c hc => ?_
  obtain rfl := Option.some.inj hc
  rfl

lemma readAuthority_nil (scheme : String) (authority : Authority) :
    readAuthority HostName.parse scheme [] ≠ .ok authority := by
  intro h
  cases h

lemma hostEnd_cases (bracketed : Bool) (text : List Char) :
    hostEnd bracketed text = (text, []) ∨
      ∃ host port, hostEnd bracketed text = (host, ':' :: port) ∧ text = host ++ ':' :: port := by
  induction text generalizing bracketed with
  | nil => exact .inl rfl
  | cons c rest ih =>
    rw [hostEnd]
    split
    · next hc =>
      obtain rfl : c = ':' := of_decide_eq_true (Bool.and_eq_true_iff.mp hc).1
      exact .inr ⟨[], rest, rfl, rfl⟩
    · rcases ih (decide (c = '[') || (bracketed && decide (c ≠ ']'))) with h | ⟨host, port, h, rfl⟩
      · exact .inl (by rw [h])
      · exact .inr ⟨c :: host, port, by rw [h], rfl⟩

lemma readAuthority_ok {readHost : List Char → Except AddressFault (List Char)} {scheme : String}
    {text : List Char} {authority : Authority}
    (h : readAuthority readHost scheme text = .ok authority) :
    ∃ place host port, (text = place ∨ ∃ info, text = info ++ '@' :: place) ∧
      readHost (hostEnd false place).1 = .ok host ∧
      readPort scheme ((hostEnd false place).2.drop 1) = .ok port := by
  have hread (info place : List Char) (h : (do
      let host ← readHost (hostEnd false place).1
      if host.isEmpty && !(info ++ (hostEnd false place).2).isEmpty then .error .emptyHost
      else return ⟨info, host, ← readPort scheme ((hostEnd false place).2.drop 1)⟩) =
        (Except.ok authority : Except AddressFault Authority)) :
      ∃ host port, readHost (hostEnd false place).1 = .ok host ∧
        readPort scheme ((hostEnd false place).2.drop 1) = .ok port := by
    cases hhost : readHost (hostEnd false place).1 with
    | error fault =>
      rw [hhost] at h
      cases h
    | ok host =>
      rw [hhost] at h
      cases hport : readPort scheme ((hostEnd false place).2.drop 1) with
      | error fault =>
        rw [hport] at h
        change (if _ then _ else _) = _ at h
        split at h <;> cases h
      | ok port => exact ⟨host, port, rfl, rfl⟩
  rw [readAuthority] at h
  cases hsplit : Text.splitLast '@' text with
  | none =>
    rw [hsplit] at h
    obtain ⟨host, port, hhost, hport⟩ := hread _ _ h
    exact ⟨text, host, port, .inl rfl, hhost, hport⟩
  | some split =>
    obtain ⟨info, place⟩ := split
    rw [hsplit] at h
    obtain ⟨host, port, hhost, hport⟩ := hread _ _ h
    exact ⟨place, host, port, .inr ⟨info, (Text.splitLast_eq_some_iff.mp hsplit).1⟩, hhost, hport⟩

variable {text : List Char} {b : Char}

lemma host_not_blank (hlast : text.getLast? = some b) (hb : isBlank b = true)
    (host : List Char) : HostName.parse text ≠ .ok host := by
  intro h
  unfold HostName.parse at h
  split at h
  · cases h
  · next rest =>
    unfold HostName.bracketed at h
    split at h
    · next hrest _ =>
      rw [List.getLast?_cons, hrest] at hlast
      exact ne_of_blank hb (by decide) (Option.some.inj hlast).symm
    · cases h
  · split at h
    · cases h
    · next name hname =>
      have hmem : b ∈ name.toList := by
        refine mem_of_decode? hname ?_ ?_ (law_of_blank hb (by decide)) (ne_of_blank hb (by decide))
        · rw [String.toList_ofList]
          exact List.mem_of_getLast? hlast
        · exact law_of_blank hb (by decide)
      have hforbidden : (Text.toLowerAscii name).toList.any HostName.isForbidden = true := by
        rw [Text.toLowerAscii, String.toList_map, List.any_map, List.any_eq_true]
        exact ⟨b, hmem, law_of_blank hb (by decide)⟩
      dsimp only at h
      rw [hforbidden, Bool.true_or, if_pos rfl] at h
      cases h

lemma port_not_blank {scheme : String} (hmem : b ∈ text) (hb : isBlank b = true)
    (hall : ∀ c ∈ text, endsAuthority c = false) (port : Option Nat) :
    readPort scheme text ≠ .ok port := by
  have hdigits : text.takeWhile (!endsAuthority ·) = text :=
    List.takeWhile_eq_self_iff.mpr (by simpa using hall)
  have hnot : text.all Char.isDigit = false := by
    have hdigit : b.isDigit = false := law_of_blank hb (by decide)
    exact List.all_eq_false.mpr ⟨b, hmem, by rw [hdigit]; exact Bool.false_ne_true⟩
  intro h
  rw [readPort, hdigits, hnot] at h
  cases h

lemma authority_not_blank {scheme : String} (hlast : text.getLast? = some b)
    (hb : isBlank b = true) (hall : ∀ c ∈ text, endsAuthority c = false) (authority : Authority) :
    readAuthority HostName.parse scheme text ≠ .ok authority := by
  have hbehind {front back : List Char} {sep : Char} (hsep : isBlank sep = false)
      (h : (front ++ sep :: back).getLast? = some b) : back.getLast? = some b := by
    rw [List.getLast?_append_cons, List.getLast?_cons] at h
    cases hback : back.getLast? with
    | none =>
      rw [hback] at h
      exact absurd (Option.some.inj h).symm (ne_of_blank hb hsep)
    | some c =>
      rw [hback] at h
      exact h
  intro h
  obtain ⟨place, host, port, hplace, hhost, hport⟩ := readAuthority_ok h
  have hend : place.getLast? = some b ∧ ∀ c ∈ place, endsAuthority c = false := by
    rcases hplace with rfl | ⟨info, rfl⟩
    · exact ⟨hlast, hall⟩
    · exact ⟨hbehind (by decide) hlast, fun c hc => hall c (by simp [hc])⟩
  rcases hostEnd_cases false place with hparts | ⟨front, back, hparts, rfl⟩
  · rw [hparts] at hhost
    exact host_not_blank hend.1 hb host hhost
  · rw [hparts] at hport
    refine port_not_blank (List.mem_of_getLast? (hbehind (by decide) hend.1)) hb ?_ port hport
    exact fun c hc => hend.2 c (by simp [hc])

end Authority

def completed (scheme : String) (authority : Authority) (behind : List Char) : Url :=
  let (main, fragment) := match Text.splitFirst '#' behind with
    | some (main, fragment) => (main, some (encodeWith keepsInFragment fragment))
    | none => (behind, none)
  let (path, query) := match Text.splitFirst '?' main with
    | some (path, query) => (path, some (encodeWith keepsInQuery query))
    | none => (main, none)
  ⟨scheme, authority, normalPath path, query, fragment⟩

lemma readRest_eq (scheme : String) (text : List Char) :
    readRest scheme text = (readAuthority HostName.parse scheme (authorityText text)).map
      fun authority => completed scheme authority (behindAuthority text) := by
  rw [readRest]
  change (readAuthority HostName.parse scheme (authorityText text) >>= _) = _
  cases readAuthority HostName.parse scheme (authorityText text) with
  | error fault => rfl
  | ok authority => rfl

structure Headed (text : List Char) (scheme : String) (authority : Authority)
    (rest : List Char) : Prop where
  named : scheme? text = some (scheme, rest)
  web : scheme = "http" ∨ scheme = "https"
  placed : readAuthority HostName.parse scheme (authorityText rest) = .ok authority

def Reads (text : String) (url : Url) : Prop := parse text = .ok url ∧ url.isHttp = true

lemma isHttp_iff {url : Url} :
    url.isHttp = true ↔ url.scheme = "http" ∨ url.scheme = "https" := by
  rw [isHttp, Bool.or_eq_true, decide_eq_true_eq, decide_eq_true_eq]

lemma reads_iff {text : String} {url : Url} :
    Reads text url ↔ ∃ scheme authority rest, Headed (tidy text.toList) scheme authority rest ∧
      url = completed scheme authority (behindAuthority rest) := by
  rw [Reads, parse, isHttp_iff]
  constructor
  · rintro ⟨h, hweb⟩
    split at h
    · cases h
    · next scheme rest hnamed =>
      split at h
      · rw [readRest_eq] at h
        cases hplaced : readAuthority HostName.parse scheme (authorityText rest) with
        | error fault =>
          rw [hplaced] at h
          cases h
        | ok authority =>
          rw [hplaced] at h
          obtain rfl := Except.ok.inj h
          exact ⟨scheme, authority, rest, ⟨hnamed, hweb, hplaced⟩, rfl⟩
      · -- A scheme without a port of its own is not one of the web.
        next hport =>
        exfalso
        cases hforeign : foreignAuthority scheme rest with
        | error fault =>
          rw [hforeign] at h
          cases h
        | ok authority =>
          rw [hforeign] at h
          obtain rfl := Except.ok.inj h
          rcases hweb with rfl | rfl <;> exact hport rfl
  · rintro ⟨scheme, authority, rest, h, rfl⟩
    have hport : (defaultPort? scheme).isSome = true := by
      rcases h.web with rfl | rfl <;> rfl
    rw [h.named]
    refine ⟨?_, h.web⟩
    dsimp only
    rw [if_pos hport, readRest_eq, h.placed]
    rfl

namespace Headed

variable {text : List Char} {scheme : String} {authority : Authority} {rest : List Char}

lemma exists_place (h : Headed text scheme authority rest) : ∃ c ∈ rest, isSlash c = false := by
  by_contra hnone
  have hall : ∀ c ∈ rest, isSlash c = true := by simpa using hnone
  have hplaced := h.placed
  rw [authorityText, List.dropWhile_eq_nil_iff.mpr hall, List.takeWhile_nil] at hplaced
  exact readAuthority_nil _ _ hplaced

lemma unique {scheme' : String} {authority' : Authority} {rest' : List Char}
    (h : Headed text scheme authority rest) (h' : Headed text scheme' authority' rest') :
    scheme = scheme' ∧ authority = authority' ∧ rest = rest' := by
  have hnamed := h.named.symm.trans h'.named
  obtain ⟨rfl, rfl⟩ := Prod.ext_iff.mp (Option.some.inj hnamed)
  exact ⟨rfl, Except.ok.inj (h.placed.symm.trans h'.placed), rfl⟩

lemma append (h : Headed text scheme authority rest) (behind : List Char) :
    Headed (text ++ '/' :: behind) scheme authority (rest ++ '/' :: behind) where
  named := (scheme?_append_eq_some_iff (stopsScheme_slash behind)).mpr ⟨rest, h.named, rfl⟩
  web := h.web
  placed := by
    rw [authorityText_append h.exists_place]
    exact h.placed

lemma of_append {behind rest' : List Char}
    (h : Headed (text ++ '/' :: behind) scheme authority rest')
    (hplace : ∀ scheme place, scheme? text = some (scheme, place) →
      ∃ c ∈ place, isSlash c = false) : ∃ rest, Headed text scheme authority rest := by
  obtain ⟨place, hnamed, rfl⟩ :=
    (scheme?_append_eq_some_iff (stopsScheme_slash behind)).mp h.named
  have hplaced := h.placed
  rw [authorityText_append (hplace _ _ hnamed)] at hplaced
  exact ⟨place, hnamed, h.web, hplaced⟩

lemma of_blanks {blanks : List Char} (h : Headed (text ++ blanks) scheme authority rest)
    (hblanks : ∀ c ∈ blanks, isBlank c = true) : ∃ rest, Headed text scheme authority rest := by
  obtain ⟨place, hnamed, rfl⟩ :=
    (scheme?_append_eq_some_iff (stopsScheme_blanks hblanks)).mp h.named
  refine ⟨place, hnamed, h.web, ?_⟩
  have hslash : ∀ c, blanks.head? = some c → isSlash c = false :=
    fun c hc => law_of_blank (hblanks c (List.mem_of_head? hc)) (by decide)
  have hplaced := h.placed
  rw [authorityText, Scan.dropWhile_append_stop _ hslash] at hplaced
  rw [authorityText]
  generalize place.dropWhile isSlash = place at hplaced ⊢
  by_cases hall : ∀ c ∈ place, endsAuthority c = false
  · -- The authority would be all that is left, and the blanks with it.
    have hwhole : ∀ c ∈ place ++ blanks, endsAuthority c = false := by
      intro c hc
      rcases List.mem_append.mp hc with hc | hc
      · exact hall c hc
      · exact law_of_blank (hblanks c hc) (by decide)
    rw [List.takeWhile_eq_self_iff.mpr (by simpa using hwhole)] at hplaced
    rw [List.takeWhile_eq_self_iff.mpr (by simpa using hall)]
    cases hlast : blanks.getLast? with
    | none => rwa [List.getLast?_eq_none_iff.mp hlast, List.append_nil] at hplaced
    | some b =>
      have hb := hblanks b (List.mem_of_getLast? hlast)
      have hend : (place ++ blanks).getLast? = some b := by
        rw [List.getLast?_append, hlast]
        rfl
      exact absurd hplaced (authority_not_blank hend hb hwhole authority)
  · have hfound : ∃ c ∈ place, (!endsAuthority c) = false := by simpa using hall
    rwa [Scan.takeWhile_append_found hfound] at hplaced

lemma place_of_slashes {n : Nat} {scheme' : String} {place : List Char}
    (h : Headed (tidy (text ++ List.replicate n '/')) scheme authority rest)
    (hplace : scheme? (opening text) = some (scheme', place)) : ∃ c ∈ place, isSlash c = false := by
  obtain ⟨c, hc, hslash⟩ := h.exists_place
  have hnamed := h.named
  refine ⟨c, ?_, hslash⟩
  cases n with
  | zero =>
    obtain ⟨blanks, hopening, hblanks⟩ := exists_opening_eq text
    rw [List.replicate_zero, List.append_nil] at hnamed
    rw [hopening] at hplace
    obtain ⟨front, hfront, rfl⟩ :=
      (scheme?_append_eq_some_iff (stopsScheme_blanks hblanks)).mp hplace
    rw [hnamed] at hfront
    cases hfront
    exact List.mem_append_left _ hc
  | succ n =>
    rw [List.replicate_succ, tidy_append _ (List.cons_ne_nil _ _) (slashes_solid (n + 1))] at hnamed
    obtain ⟨front, hfront, rfl⟩ := (scheme?_append_eq_some_iff (stopsScheme_slash _)).mp hnamed
    rw [hplace] at hfront
    cases hfront
    rcases List.mem_append.mp hc with hc | hc
    · exact hc
    · rw [List.eq_of_mem_replicate (n := n + 1) hc] at hslash
      cases hslash

lemma with_slashes (h : Headed (opening text) scheme authority rest) (n : Nat) :
    ∃ rest, Headed (tidy (text ++ List.replicate n '/')) scheme authority rest := by
  cases n with
  | zero =>
    obtain ⟨blanks, hopening, hblanks⟩ := exists_opening_eq text
    rw [hopening] at h
    rw [List.replicate_zero, List.append_nil]
    exact h.of_blanks hblanks
  | succ n =>
    rw [List.replicate_succ, tidy_append _ (List.cons_ne_nil _ _) (slashes_solid (n + 1))]
    exact ⟨_, h.append _⟩

lemma reads_below {address below : String}
    (h : Headed (opening address.toList) scheme authority rest)
    (hsolid : ∀ c ∈ below.toList, isBlank c = false) {url : Url} :
    Reads (address ++ "/" ++ below) url ↔
      url = completed scheme authority (behindAuthority rest ++ '/' :: below.toList) := by
  have htext : (address ++ "/" ++ below).toList = address.toList ++ '/' :: below.toList := by
    simp
  have hall : ∀ c ∈ '/' :: below.toList, isBlank c = false :=
    List.forall_mem_cons.mpr ⟨by decide, hsolid⟩
  have hbelow := h.append below.toList
  rw [reads_iff, htext, tidy_append _ (List.cons_ne_nil _ _) hall]
  constructor
  · rintro ⟨scheme', authority', rest', h', rfl⟩
    obtain ⟨rfl, rfl, rfl⟩ := hbelow.unique h'
    rw [behindAuthority_append h.exists_place]
  · rintro rfl
    exact ⟨scheme, authority, _, hbelow, by rw [behindAuthority_append h.exists_place]⟩

end Headed

end MergeQueue.Web.Url
