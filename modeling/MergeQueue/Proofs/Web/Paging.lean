import Mathlib.Data.List.Forall2
import MergeQueue.Proofs.Course
import MergeQueue.Proofs.Web.Reading

/-! Listings that a host gives out in pages. One page after the other is asked for, up to the first
that is the last by its own account. -/

namespace MergeQueue.Web

open Dialogue

abbrev Trace := List ((_ : Request) × Option Reply)

structure Paging (Page Entry : Type) where
  request? : Nat → Option Request
  unbuilt : Error
  read : Request → Option Reply → Except Error Page
  entries : Page → List Entry
  isLast : Nat → Page → Bool
  endless : Error

namespace Paging

variable {Page Entry : Type}

def fetch (paging : Paging Page Entry) (page : Nat) : ExceptT Error Http Page :=
  asking (paging.request? page) paging.unbuilt paging.read

def walk (paging : Paging Page Entry) : Nat → Nat → Nat → ExceptT Error Http (List Entry)
  | 0, _, _ => throw paging.endless
  | limit + 1, page, before => do
    let found ← paging.fetch page
    if paging.isLast before found then return paging.entries found
    else
      let known := before + (paging.entries found).length
      return paging.entries found ++ (← walk paging limit (page + 1) known)

variable {paging : Paging Page Entry}

lemma walk_unbuilt {page : Nat} (h : paging.request? page = none) (limit before : Nat) :
    (paging.walk (limit + 1) page before).run = .done (.error paging.unbuilt) := by
  rw [walk, fetch, h]
  rfl

lemma walk_asking {page : Nat} {q : Request} (h : paging.request? page = some q)
    (limit before : Nat) : (paging.walk (limit + 1) page before).run = .ask q fun reply =>
      match paging.read q reply with
      | .error e => .done (.error e)
      | .ok found =>
        if paging.isLast before found then .done (.ok (paging.entries found))
        else Except.map (paging.entries found ++ ·) <$>
          (paging.walk limit (page + 1) (before + (paging.entries found).length)).run := by
  rw [walk, fetch, h, ExceptT.run_bind]
  refine congrArg (Dialogue.ask q) (funext fun reply => ?_)
  simp only [Dialogue.bind, pure_eq]
  cases paging.read q reply with
  | error e => rfl
  | ok found =>
    dsimp only
    split
    · rfl
    · rw [bind_pure_comp, ExceptT.run_map]

inductive Serves (paging : Paging Page Entry) (tell : Nat → Except Error Page) :
    Nat → Nat → List Page → Prop where
  | last {page before found} : tell page = .ok found → paging.isLast before found = true →
      Serves paging tell page before [found]
  | more {page before found rest} : tell page = .ok found → paging.isLast before found = false →
      Serves paging tell (page + 1) (before + (paging.entries found).length) rest →
      Serves paging tell page before (found :: rest)

lemma record_walk {ask : Nat → Request} {host : Request → Option Reply} {page before : Nat}
    {pages : List Page} (hask : ∀ page, paging.request? page = some (ask page))
    (h : Serves paging (fun page => paging.read (ask page) (host (ask page))) page before pages)
    {limit : Nat} (hlimit : pages.length ≤ limit) :
    (paging.walk limit page before).run.record host =
      ((List.range' page pages.length).map fun page => ⟨ask page, host (ask page)⟩,
        .ok (pages.flatMap paging.entries)) := by
  induction h generalizing limit with
  | @last page before found htell hlast =>
    obtain ⟨limit, rfl⟩ := Nat.exists_eq_add_of_le' hlimit
    rw [List.length_singleton, walk_asking (hask page), record, htell]
    simp [hlast, record]
  | @more page before found rest htell hmore _ ih =>
    obtain ⟨limit, rfl⟩ := Nat.exists_eq_add_of_le' hlimit
    rw [List.length_cons, ← Nat.add_assoc, walk_asking (hask page), record, htell]
    simp only [hmore, Bool.false_eq_true, if_false, record_map]
    rw [ih (Nat.le_add_left _ _), List.range'_succ]
    rfl

inductive Walked (paging : Paging Page Entry) :
    Nat → Nat → Trace → Except Error (List Entry) → Prop where
  | endless {page before} : Walked paging page before [] (.error paging.endless)
  | unbuilt {page before} : paging.request? page = none →
      Walked paging page before [] (.error paging.unbuilt)
  | failed {page before q reply e} : paging.request? page = some q →
      paging.read q reply = .error e → Walked paging page before [⟨q, reply⟩] (.error e)
  | last {page before q reply found} : paging.request? page = some q →
      paging.read q reply = .ok found → paging.isLast before found = true →
      Walked paging page before [⟨q, reply⟩] (.ok (paging.entries found))
  | more {page before q reply found rest result} : paging.request? page = some q →
      paging.read q reply = .ok found → paging.isLast before found = false →
      Walked paging (page + 1) (before + (paging.entries found).length) rest result →
      Walked paging page before (⟨q, reply⟩ :: rest) (result.map (paging.entries found ++ ·))

lemma walk_course {limit page before : Nat} {log : Trace} {result : Except Error (List Entry)}
    (h : (paging.walk limit page before).run.Course log result) :
    Walked paging page before log result := by
  induction limit generalizing page before log result with
  | zero =>
    obtain ⟨rfl, rfl⟩ := h
    exact .endless
  | succ limit ih =>
    cases hask : paging.request? page with
    | none =>
      rw [walk_unbuilt hask] at h
      obtain ⟨rfl, rfl⟩ := h
      exact .unbuilt hask
    | some q =>
      rw [walk_asking hask] at h
      obtain ⟨reply, rest, rfl, h⟩ := h
      dsimp only at h
      cases hread : paging.read q reply with
      | error e =>
        rw [hread] at h
        obtain ⟨rfl, rfl⟩ := h
        exact .failed hask hread
      | ok found =>
        rw [hread] at h
        dsimp only at h
        split at h
        · next hlast =>
          obtain ⟨rfl, rfl⟩ := h
          exact .last hask hread hlast
        · next hmore =>
          obtain ⟨result, hrest, rfl⟩ := (course_map _ _ _ _).mp h
          exact .more hask hread (Bool.eq_false_iff.mpr hmore) (ih hrest)

lemma walk_map_course {α : Type} {finish : List Entry → α} {limit page before : Nat} {log : Trace}
    {result : Except Error α}
    (h : (Except.map finish <$> (paging.walk limit page before).run).Course log result) :
    ∃ found, Walked paging page before log found ∧ result = found.map finish := by
  obtain ⟨found, hwalk, hresult⟩ := (course_map _ _ _ _).mp h
  exact ⟨found, walk_course hwalk, hresult⟩

lemma walk_failed {limit page : Nat} {q : Request} {reply : Option Reply} {e : Error}
    (hask : paging.request? page = some q) (hread : paging.read q reply = .error e)
    (hlimit : 0 < limit) (before : Nat) :
    (paging.walk limit page before).run.Course [⟨q, reply⟩] (.error e) := by
  obtain ⟨limit, rfl⟩ := Nat.exists_eq_add_of_le' hlimit
  rw [walk_asking hask]
  refine ⟨reply, [], rfl, ?_⟩
  dsimp only
  rw [hread]
  exact ⟨rfl, rfl⟩

lemma Walked.failure {page before : Nat} {log : Trace} {result : Except Error (List Entry)}
    (h : Walked paging page before log result) {front back : Trace} {q : Request}
    {reply : Option Reply} {e : Error} (hlog : log = front ++ ⟨q, reply⟩ :: back)
    (hread : paging.read q reply = .error e) : back = [] ∧ result = .error e := by
  induction h generalizing front with
  | endless => simp at hlog
  | unbuilt => simp at hlog
  | failed _ hread₁ =>
    cases front with
    | nil =>
      cases hlog
      cases hread.symm.trans hread₁
      exact ⟨rfl, rfl⟩
    | cons => simp at hlog
  | last _ hread₁ =>
    cases front with
    | nil =>
      cases hlog
      cases hread.symm.trans hread₁
    | cons => simp at hlog
  | more _ hread₁ _ _ ih =>
    cases front with
    | nil =>
      cases hlog
      cases hread.symm.trans hread₁
    | cons =>
      obtain ⟨_, hrest⟩ := List.cons.inj hlog
      obtain ⟨hback, rfl⟩ := ih hrest
      exact ⟨hback, rfl⟩

lemma Walked.complete {page before : Nat} {log : Trace} {result : Except Error (List Entry)}
    (h : Walked paging page before log result) {found : List Entry} (hfound : result = .ok found) :
    ∃ pages, pages ≠ [] ∧ List.Forall₂ (fun s page => paging.read s.1 s.2 = .ok page) log pages ∧
      found = pages.flatMap paging.entries := by
  induction h generalizing found with
  | endless => cases hfound
  | unbuilt => cases hfound
  | failed => cases hfound
  | @last _ _ _ _ page _ hread =>
    cases hfound
    exact ⟨[page], List.cons_ne_nil _ _, .cons hread .nil, (List.append_nil _).symm⟩
  | @more _ _ _ _ page _ result _ hread _ _ ih =>
    cases result with
    | error => cases hfound
    | ok rest =>
      cases hfound
      obtain ⟨pages, _, hpages, rfl⟩ := ih rfl
      exact ⟨page :: pages, List.cons_ne_nil _ _, .cons hread hpages, rfl⟩

lemma Walked.asks_once (hlast : ∀ before found, paging.isLast before found = true)
    {page before : Nat} {log : Trace} {result : Except Error (List Entry)}
    (h : Walked paging page before log result) : log.length ≤ 1 := by
  cases h with
  | endless => exact Nat.zero_le _
  | unbuilt => exact Nat.zero_le _
  | failed => exact Nat.le_refl _
  | last => exact Nat.le_refl _
  | more _ _ hmore => cases (hlast _ _).symm.trans hmore

end Paging

/-- A listing fails with the first page that cannot be had, and has all pages where it does not. -/
structure AllOrNothing {α : Type} (Page : Type) [FromJson Page] (listing : ExceptT Error Http α)
    (gathers : List Page → α → Prop) : Prop where
  failed : ∀ {log result front back q reply}, listing.run.Course log result →
    log = front ++ ⟨q, reply⟩ :: back → (¬∃ page : Page, Gives reply page) →
      back = [] ∧ ∃ e, result = .error e
  complete : ∀ {log a}, listing.run.Course log (.ok a) → ∃ pages, pages ≠ [] ∧
    List.Forall₂ (fun s page => Gives s.2 page) log pages ∧ gathers pages a

lemma Paging.allOrNothing {Page Entry α : Type} [FromJson Page] {paging : Paging Page Entry}
    (hread : ∀ q reply page, paging.read q reply = .ok page ↔ Gives reply page)
    {finish : List Entry → α} {gathers : List Page → α → Prop}
    (hgathers : ∀ pages, gathers pages (finish (pages.flatMap paging.entries)))
    {listing : ExceptT Error Http α} {limit page before : Nat}
    (h : listing.run = Except.map finish <$> (paging.walk limit page before).run) :
    AllOrNothing Page listing gathers where
  failed {log result front back q reply} hcourse hlog hnone := by
    rw [h] at hcourse
    obtain ⟨result, hwalk, rfl⟩ := walk_map_course hcourse
    cases hq : paging.read q reply with
    | ok page => exact absurd ⟨page, (hread q reply page).mp hq⟩ hnone
    | error e =>
      obtain ⟨hback, rfl⟩ := hwalk.failure hlog hq
      exact ⟨hback, e, rfl⟩
  complete {log a} hcourse := by
    rw [h] at hcourse
    obtain ⟨result, hwalk, hresult⟩ := walk_map_course hcourse
    cases result with
    | error => cases hresult
    | ok found =>
      cases hresult
      obtain ⟨pages, hne, hpages, rfl⟩ := hwalk.complete rfl
      exact ⟨pages, hne, hpages.imp fun _ _ => (hread _ _ _).mp, hgathers pages⟩

end MergeQueue.Web
