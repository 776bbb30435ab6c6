import MergeQueue.Proofs.Affix
import MergeQueue.Proofs.Sorted
import MergeQueue.Proofs.Status.Description

namespace MergeQueue

namespace Policy

def NamesBranch (reference branch : String) : Prop :=
  reference = "refs/heads/" ++ branch ∨
    (∀ rest, reference ≠ "refs/heads/" ++ rest) ∧ branch = reference

def Requires (query : MergeQuery) (label : String) : Prop :=
  label ∈ query.labels ∨ query.approveRequired = true ∧ label = "approved"

def Blocks (everywhere : String) (query : MergeQuery) (label : String) : Prop :=
  label ∈ query.blockLabels ∨ everywhere ≠ "" ∧ label = everywhere

def Admits (skipped allowed : List String) (name : String) : Prop :=
  name ∉ skipped ∧ (allowed = [] ∨ name ∈ allowed)

structure Meets (everywhere : String) (query : MergeQuery) (pr : PullRequest) (branch : String) :
    Prop where
  labelled : ∀ label, Requires query label → label ∈ pr.labels
  unblocked : ∀ label, Blocks everywhere query label → label ∉ pr.labels
  author : Admits query.skipAuthors query.authors pr.author.name
  target : Admits query.skipBranches query.branches branch

inductive LabelNote (offends : String → Prop) (rest : String) : List String → Prop where
  | none (h : ∀ label, ¬offends label) : LabelNote offends rest []
  | listed {labels : List String} (hne : labels ≠ []) (ascending : labels.Pairwise (· < ·))
      (hmem : ∀ label, label ∈ labels ↔ offends label) :
      LabelNote offends rest ["Label [" ++ ",".intercalate labels ++ rest]

inductive NameNote (skipped allowed : List String) (lead onSkipped offAllowed name : String) :
    List String → Prop where
  | none (h : Admits skipped allowed name) :
      NameNote skipped allowed lead onSkipped offAllowed name []
  | skipped (h : name ∈ skipped) :
      NameNote skipped allowed lead onSkipped offAllowed name [lead ++ name ++ onSkipped]
  | unlisted (h : name ∉ skipped) (hne : allowed ≠ []) (hout : name ∉ allowed) :
      NameNote skipped allowed lead onSkipped offAllowed name [lead ++ name ++ offAllowed]

namespace LabelNote

variable {offends offends' : String → Prop} {rest : String} {notes notes' : List String}

lemma of_filter {labels : List String} {p : String → Bool}
    (h : ∀ label, label ∈ labels.filter p ↔ offends label) :
    LabelNote offends rest (if (labels.filter p).isEmpty then []
      else ["Label [" ++ listing (labels.filter p) ++ rest]) := by
  split
  · next hnil =>
    rw [List.isEmpty_iff] at hnil
    apply LabelNote.none
    intro label hoff
    rw [← h, hnil] at hoff
    cases hoff
  · next hne =>
    obtain ⟨sorted, hascending, hmem, htext⟩ := exists_listing (labels.filter p)
    rw [htext]
    refine .listed (fun hnil => hne ?_) hascending fun label => (hmem label).trans (h label)
    rw [List.isEmpty_iff, List.eq_nil_iff_forall_not_mem]
    intro label hlabel
    rw [← hmem, hnil] at hlabel
    cases hlabel

lemma eq_nil_iff (h : LabelNote offends rest notes) : notes = [] ↔ ∀ label, ¬offends label := by
  cases h with
  | none hnone => exact iff_of_true rfl hnone
  | listed hne _ hmem =>
    refine iff_of_false (List.cons_ne_nil _ _) fun hnone => hne ?_
    apply List.eq_nil_iff_forall_not_mem.mpr
    intro label hlabel
    exact hnone label ((hmem label).mp hlabel)

lemma unique (h : LabelNote offends rest notes) (h' : LabelNote offends' rest notes')
    (heq : ∀ label, offends label ↔ offends' label) : notes = notes' := by
  cases h with
  | none hnone =>
    refine (h'.eq_nil_iff.mpr fun label hoff => ?_).symm
    exact hnone label ((heq label).mpr hoff)
  | @listed labels hne ascending hmem =>
    cases h' with
    | none hnone =>
      exfalso
      apply hne
      apply List.eq_nil_iff_forall_not_mem.mpr
      intro label hlabel
      exact hnone label ((heq label).mp ((hmem label).mp hlabel))
    | @listed labels' hne' ascending' hmem' =>
      have hlabels : labels = labels' := by
        refine eq_of_ascending (f := id) ascending ascending' fun label => ?_
        exact (hmem label).trans ((heq label).trans (hmem' label).symm)
      rw [hlabels]

end LabelNote

namespace NameNote

variable {skipped skipped' allowed allowed' : List String} {lead onSkipped offAllowed name : String}
  {notes notes' : List String}

lemma of_contains (skipped allowed : List String) (lead onSkipped offAllowed name : String) :
    NameNote skipped allowed lead onSkipped offAllowed name
      (if skipped.contains name then [lead ++ name ++ onSkipped]
        else if !allowed.isEmpty && !allowed.contains name then [lead ++ name ++ offAllowed]
        else []) := by
  split
  · next hskipped => exact .skipped (List.contains_iff_mem.mp hskipped)
  · next hskipped =>
    have hnot : name ∉ skipped := fun h => hskipped (List.contains_iff_mem.mpr h)
    split
    · next hunlisted =>
      simp only [Bool.and_eq_true, Bool.not_eq_true', List.isEmpty_eq_false_iff,
        List.contains_eq_mem, decide_eq_false_iff_not] at hunlisted
      exact .unlisted hnot hunlisted.1 hunlisted.2
    · next hlisted =>
      refine .none ⟨hnot, ?_⟩
      by_contra hout
      obtain ⟨hne, hmem⟩ := not_or.mp hout
      simp [hne, hmem] at hlisted

lemma eq_nil_iff (h : NameNote skipped allowed lead onSkipped offAllowed name notes) :
    notes = [] ↔ Admits skipped allowed name := by
  cases h with
  | none hadmits => exact iff_of_true rfl hadmits
  | skipped hskipped => exact iff_of_false (List.cons_ne_nil _ _) fun hadmits => hadmits.1 hskipped
  | unlisted _ hne hout =>
    refine iff_of_false (List.cons_ne_nil _ _) fun hadmits => ?_
    exact hadmits.2.elim hne hout

lemma unique (h : NameNote skipped allowed lead onSkipped offAllowed name notes)
    (h' : NameNote skipped' allowed' lead onSkipped offAllowed name notes')
    (hskipped : ∀ name, name ∈ skipped ↔ name ∈ skipped')
    (hallowed : ∀ name, name ∈ allowed ↔ name ∈ allowed') : notes = notes' := by
  have hnil : allowed = [] ↔ allowed' = [] := by
    simp only [List.eq_nil_iff_forall_not_mem, hallowed]
  have hadmits : Admits skipped allowed name ↔ Admits skipped' allowed' name := by
    rw [Admits, Admits, hskipped, hallowed, hnil]
  cases h with
  | none hadmitted => exact (h'.eq_nil_iff.mpr (hadmits.mp hadmitted)).symm
  | skipped hin =>
    cases h' with
    | none hadmitted => exact absurd ((hskipped name).mp hin) hadmitted.1
    | skipped _ => rfl
    | unlisted hnot => exact absurd ((hskipped name).mp hin) hnot
  | unlisted hnot hne hout =>
    cases h' with
    | none hadmitted =>
      exact absurd ((hadmits.mpr hadmitted).2) (not_or.mpr ⟨hne, hout⟩)
    | skipped hin => exact absurd ((hskipped name).mpr hin) hnot
    | unlisted => rfl

end NameNote

/-- All that is said about a pull request, in the order in which it is said. -/
inductive Noted (everywhere : String) (query : MergeQuery) (pr : PullRequest) (branch : String) :
    List String → Prop where
  | of {missing blocking author target : List String}
      (hmissing : LabelNote (fun label => Requires query label ∧ label ∉ pr.labels)
        "] is required." missing)
      (hblocking : LabelNote (fun label => Blocks everywhere query label ∧ label ∈ pr.labels)
        "] is blocking the merge." blocking)
      (hauthor : NameNote query.skipAuthors query.authors "Author [" "] is in skipAuthors query."
        "] is not in authors query." pr.author.name author)
      (htarget : NameNote query.skipBranches query.branches "Branch ["
        "] is in skipBranches query." "] is not in branches query." branch target) :
      Noted everywhere query pr branch (missing ++ blocking ++ author ++ target)

structure SameNames (everywhere everywhere' : String) (query query' : MergeQuery)
    (pr pr' : PullRequest) : Prop where
  required : ∀ label, Requires query label ↔ Requires query' label
  blocking : ∀ label, Blocks everywhere query label ↔ Blocks everywhere' query' label
  skipAuthors : ∀ name, name ∈ query.skipAuthors ↔ name ∈ query'.skipAuthors
  authors : ∀ name, name ∈ query.authors ↔ name ∈ query'.authors
  skipBranches : ∀ name, name ∈ query.skipBranches ↔ name ∈ query'.skipBranches
  branches : ∀ name, name ∈ query.branches ↔ name ∈ query'.branches
  labels : ∀ label, label ∈ pr.labels ↔ label ∈ pr'.labels
  author : pr.author.name = pr'.author.name
  target : ∀ branch, NamesBranch pr.base.reference branch ↔ NamesBranch pr'.base.reference branch

lemma namesBranch_iff {reference branch : String} :
    NamesBranch reference branch ↔ branch = branchName reference := by
  by_cases h : ∃ rest, reference = "refs/heads/" ++ rest
  · obtain ⟨rest, rfl⟩ := h
    rw [branchName_append]
    constructor
    · rintro (hrest | ⟨hnone, _⟩)
      · exact ((String.append_right_inj _).mp hrest).symm
      · exact absurd rfl (hnone rest)
    · rintro rfl
      exact .inl rfl
  · have hnone : ∀ rest, reference ≠ "refs/heads/" ++ rest := not_exists.mp h
    rw [branchName_of_ne hnone]
    constructor
    · rintro (hrest | ⟨_, heq⟩)
      · exact absurd hrest (hnone branch)
      · exact heq
    · exact fun heq => .inr ⟨hnone, heq⟩

lemma mem_missingLabels {query : MergeQuery} {labels : List String} {label : String} :
    label ∈ missingLabels query labels ↔ Requires query label ∧ label ∉ labels := by
  have hrequired : label ∈ requiredLabels query ↔ Requires query label := by
    rw [requiredLabels, List.mem_append, Requires, approvedLabel]
    cases query.approveRequired <;> simp
  rw [missingLabels, List.mem_filter, hrequired]
  simp

lemma effectiveQuery_eq (settings : Settings) (merge : MergeConfig) :
    ∃ blockLabels, settings.effectiveQuery merge = { merge.query with blockLabels } ∧
      ∀ label, label ∈ blockLabels ↔ Blocks settings.blockLabel merge.query label := by
  unfold Settings.effectiveQuery
  dsimp only
  split
  · next hno =>
    refine ⟨merge.query.blockLabels, rfl, fun label => ⟨.inl, ?_⟩⟩
    rintro (hmem | ⟨hne, rfl⟩)
    · exact hmem
    · rw [Bool.or_eq_true, String.isEmpty_iff, List.contains_iff_mem] at hno
      exact hno.resolve_left hne
  · next hadd =>
    refine ⟨_, rfl, fun label => ?_⟩
    have hne : settings.blockLabel ≠ "" := by
      intro hempty
      apply hadd
      rw [Bool.or_eq_true, String.isEmpty_iff]
      exact .inl hempty
    simp only [Blocks, List.mem_append, List.mem_singleton, hne, ne_eq, not_false_eq_true, true_and]

lemma noted_violations (settings : Settings) (merge : MergeConfig) (pr : PullRequest) :
    Noted settings.blockLabel merge.query pr pr.target
      (violations (settings.effectiveQuery merge) pr) := by
  obtain ⟨blockLabels, hquery, hblocks⟩ := effectiveQuery_eq settings merge
  rw [hquery]
  apply Noted.of
  · exact .of_filter fun label => mem_missingLabels
  · apply LabelNote.of_filter
    intro label
    rw [List.mem_filter, hblocks, List.contains_iff_mem]
  · exact .of_contains ..
  · exact .of_contains ..

namespace Noted

variable {everywhere everywhere' branch : String} {query query' : MergeQuery} {pr pr' : PullRequest}
  {notes notes' : List String}

lemma eq_nil_iff (h : Noted everywhere query pr branch notes) :
    notes = [] ↔ Meets everywhere query pr branch := by
  cases h with
  | of hmissing hblocking hauthor htarget =>
    rw [List.append_eq_nil_iff, List.append_eq_nil_iff, List.append_eq_nil_iff,
      hmissing.eq_nil_iff, hblocking.eq_nil_iff, hauthor.eq_nil_iff, htarget.eq_nil_iff]
    constructor
    · rintro ⟨⟨⟨hlabelled, hunblocked⟩, hadmits⟩, hbranch⟩
      refine ⟨fun label hlabel => ?_, fun label hlabel hmem => ?_, hadmits, hbranch⟩
      · by_contra hnot
        exact hlabelled label ⟨hlabel, hnot⟩
      · exact hunblocked label ⟨hlabel, hmem⟩
    · rintro ⟨hlabelled, hunblocked, hadmits, hbranch⟩
      refine ⟨⟨⟨fun label hoff => ?_, fun label hoff => ?_⟩, hadmits⟩, hbranch⟩
      · exact hoff.2 (hlabelled label hoff.1)
      · exact hunblocked label hoff.1 hoff.2

lemma unique (h : Noted everywhere query pr branch notes)
    (h' : Noted everywhere' query' pr' branch notes')
    (hsame : SameNames everywhere everywhere' query query' pr pr') : notes = notes' := by
  cases h with
  | of hmissing hblocking hauthor htarget =>
    cases h' with
    | of hmissing' hblocking' hauthor' htarget' =>
      rw [← hsame.author] at hauthor'
      rw [hmissing.unique hmissing' fun label =>
          and_congr (hsame.required label) (not_congr (hsame.labels label)),
        hblocking.unique hblocking' fun label =>
          and_congr (hsame.blocking label) (hsame.labels label),
        hauthor.unique hauthor' hsame.skipAuthors hsame.authors,
        htarget.unique htarget' hsame.skipBranches hsame.branches]

end Noted

/-- A pull request passes the simple rules exactly if it meets them all, and exactly if nothing is
said against it. What is said are the notes on what is violated, in their order, and it is the same
for rules and pull requests with the same names. -/
theorem simple_rules (settings : Settings) (merge : MergeConfig) (pr : PullRequest) :
    ∃ branch notes, NamesBranch pr.base.reference branch ∧
      Noted settings.blockLabel merge.query pr branch notes ∧
      (checkSimple (settings.effectiveQuery merge) pr).message = " ".intercalate notes ∧
      ((checkSimple (settings.effectiveQuery merge) pr).passed = true ↔
        Meets settings.blockLabel merge.query pr branch) ∧
      ((checkSimple (settings.effectiveQuery merge) pr).passed = true ↔
        (checkSimple (settings.effectiveQuery merge) pr).message = "") ∧
      ∀ (settings' : Settings) (merge' : MergeConfig) (pr' : PullRequest),
        SameNames settings.blockLabel settings'.blockLabel merge.query merge'.query pr pr' →
        checkSimple (settings'.effectiveQuery merge') pr' =
          checkSimple (settings.effectiveQuery merge) pr := by
  have hnoted := noted_violations settings merge pr
  refine ⟨pr.target, _, namesBranch_iff.mpr rfl, hnoted, ?_, ?_, passed_iff_message _ pr, ?_⟩
  · exact Text.joined_eq_intercalate ..
  · rw [← hnoted.eq_nil_iff]
    exact List.isEmpty_iff
  · intro settings' merge' pr' hsame
    have htarget : pr.target = pr'.target :=
      namesBranch_iff.mp ((hsame.target pr.target).mp (namesBranch_iff.mpr rfl))
    have hnoted' := noted_violations settings' merge' pr'
    rw [← htarget] at hnoted'
    rw [checkSimple, checkSimple, hnoted.unique hnoted' hsame]

def guarded (labels blockLabels authors : List String) : MergeConfig :=
  { MergeConfig.default with
    query := { MergeQuery.default with
      labels, blockLabels, authors, branches := ["main"], approveRequired := true } }

def guardedPull (labels : List String) (target : String) : PullRequest :=
  ⟨1, "t", .opened, ⟨1, "alice", ""⟩, "u", ⟨target, ""⟩, ⟨"feat", "aaa"⟩, labels, true⟩

theorem simple_rules_demo :
    (checkSimple (Settings.default.effectiveQuery (guarded ["lgtm", "cla"] [] ["bob", "eve"]))
        (guardedPull ["wip", "ci/hold"] "refs/heads/dev")).message =
      "Label [approved,cla,lgtm] is required. Label [ci/hold] is blocking the merge. " ++
        "Author [alice] is not in authors query. Branch [dev] is not in branches query." ∧
    checkSimple (Settings.default.effectiveQuery
        (guarded ["cla", "lgtm", "cla"] ["ci/hold", "ci/hold"] ["eve", "bob", "eve"]))
        (guardedPull ["ci/hold", "wip", "ci/hold"] "dev") =
      checkSimple (Settings.default.effectiveQuery (guarded ["lgtm", "cla"] [] ["bob", "eve"]))
        (guardedPull ["wip", "ci/hold"] "refs/heads/dev") := by
  refine ⟨by decide +kernel, ?_⟩
  obtain ⟨_, _, _, _, _, _, _, hsame⟩ := simple_rules Settings.default
    (guarded ["lgtm", "cla"] [] ["bob", "eve"]) (guardedPull ["wip", "ci/hold"] "refs/heads/dev")
  apply hsame
  refine ⟨?_, ?_, fun _ => .rfl, ?_, fun _ => .rfl, fun _ => .rfl, ?_, rfl, ?_⟩
  · intro label
    grind [Requires, guarded]
  · intro label
    have hlabel : Settings.default.blockLabel = "ci/hold" := rfl
    simp [Blocks, guarded, hlabel]
  · intro name
    grind [guarded]
  · intro label
    grind [guardedPull]
  · intro branch
    rw [namesBranch_iff, namesBranch_iff]
    have hname : branchName "refs/heads/dev" = branchName "dev" := by decide +kernel
    rw [guardedPull, guardedPull, hname]

end Policy

end MergeQueue
