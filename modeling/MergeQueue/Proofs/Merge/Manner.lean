import MergeQueue.Proofs.CommitMessage.Rendering

namespace MergeQueue

variable {settings : Settings} {merge : MergeConfig} {pr : PullRequest}

inductive Settings.Asks (settings : Settings) : String → MergeMethod → Prop
  | squash : settings.squashLabel ≠ "" → Asks settings settings.squashLabel .squash
  | merge : settings.mergeLabel ≠ "" → settings.mergeLabel ≠ settings.squashLabel →
      Asks settings settings.mergeLabel .merge

/-- The first label that asks for a method decides, and the configuration where none does. -/
inductive Settings.Method (settings : Settings) (merge : MergeConfig) (pr : PullRequest) :
    MergeMethod → Prop
  | labelled {front label behind method} : pr.labels = front ++ label :: behind →
      settings.Asks label method → (∀ other ∈ front, ∀ m, ¬settings.Asks other m) →
      Method settings merge pr method
  | configured {method} : (∀ label ∈ pr.labels, ∀ m, ¬settings.Asks label m) →
      merge.method = some method → Method settings merge pr method
  | unset : (∀ label ∈ pr.labels, ∀ m, ¬settings.Asks label m) → merge.method = none →
      Method settings merge pr .merge

lemma methodAsked_eq_some_iff {label : String} {method : MergeMethod} :
    settings.methodAsked label = some method ↔ settings.Asks label method := by
  constructor
  · intro h
    rw [Settings.methodAsked] at h
    split at h
    · next hsquash =>
      obtain ⟨hset, rfl⟩ : settings.squashLabel ≠ "" ∧ label = settings.squashLabel := by
        simpa using hsquash
      cases h
      exact .squash hset
    · next hsquash =>
      split at h
      · next hmerge =>
        obtain ⟨hset, rfl⟩ : settings.mergeLabel ≠ "" ∧ label = settings.mergeLabel := by
          simpa using hmerge
        cases h
        refine .merge hset fun heq => hsquash ?_
        simpa [← heq] using hset
      · cases h
  · rintro (hset | ⟨hset, hne⟩)
    · simp [Settings.methodAsked, hset]
    · simp [Settings.methodAsked, hset, hne]

lemma methodAsked_eq_none_iff {label : String} :
    settings.methodAsked label = none ↔ ∀ m, ¬settings.Asks label m := by
  simp only [Option.eq_none_iff_forall_ne_some, ne_eq, methodAsked_eq_some_iff]

lemma methodFor_eq_iff {method : MergeMethod} :
    settings.methodFor merge pr = method ↔ settings.Method merge pr method := by
  constructor
  · rintro rfl
    rw [Settings.methodFor]
    cases hfirst : pr.labels.findSome? settings.methodAsked with
    | some method =>
      obtain ⟨front, label, behind, hlabels, hasks, hfront⟩ := List.findSome?_eq_some_iff.mp hfirst
      exact .labelled hlabels (methodAsked_eq_some_iff.mp hasks) fun other hother =>
        methodAsked_eq_none_iff.mp (hfront other hother)
    | none =>
      have hnone (label) (hl : label ∈ pr.labels) : ∀ m, ¬settings.Asks label m :=
        methodAsked_eq_none_iff.mp (List.findSome?_eq_none_iff.mp hfirst label hl)
      cases hset : merge.method with
      | some method => exact .configured hnone hset
      | none => exact .unset hnone hset
  · have hnone (h : ∀ label ∈ pr.labels, ∀ m, ¬settings.Asks label m) :
        pr.labels.findSome? settings.methodAsked = none :=
      List.findSome?_eq_none_iff.mpr fun label hl => methodAsked_eq_none_iff.mpr (h label hl)
    rintro (⟨hlabels, hasks, hfront⟩ | ⟨hlabels, hset⟩ | ⟨hlabels, hset⟩)
    · have hfirst : pr.labels.findSome? settings.methodAsked = some method :=
        List.findSome?_eq_some_iff.mpr ⟨_, _, _, hlabels, methodAsked_eq_some_iff.mpr hasks,
          fun other hother => methodAsked_eq_none_iff.mpr (hfront other hother)⟩
      simp [Settings.methodFor, hfirst]
    · simp [Settings.methodFor, hnone hlabels, hset]
    · simp [Settings.methodFor, hnone hlabels, hset]

/-- The message of a merge, or the field its template names in vain. -/
inductive MergeConfig.Message (merge : MergeConfig) (pr : PullRequest) :
    Except String String → Prop
  | unset : merge.commitTemplate = none → Message merge pr (.ok "")
  | empty : merge.commitTemplate = some "" → Message merge pr (.ok "")
  | filled {template segments texts} : merge.commitTemplate = some template → template ≠ "" →
      CommitMessage.Split template.toList segments →
      List.Forall₂ (CommitMessage.Inserts pr) segments texts →
      Message merge pr (.ok (String.join texts))
  | unknown {template segments name} : merge.commitTemplate = some template → template ≠ "" →
      CommitMessage.Split template.toList segments →
      CommitMessage.FirstUnknown pr segments name → Message merge pr (.error (String.ofList name))

lemma message_of_template {template : String} (hset : merge.commitTemplate = some template)
    (hne : template ≠ "") : merge.message pr = CommitMessage.render template pr := by
  simp [MergeConfig.message, hset, nonempty?, hne]

lemma message_eq_iff {message : Except String String} :
    merge.message pr = message ↔ merge.Message pr message := by
  constructor
  · rintro rfl
    cases hset : merge.commitTemplate with
    | none =>
      rw [MergeConfig.message, hset]
      exact .unset hset
    | some template =>
      by_cases hne : template = ""
      · subst hne
        rw [MergeConfig.message, hset]
        exact .empty hset
      · obtain ⟨segments, hsplit⟩ := CommitMessage.Split.exists_segments template.toList
        rw [message_of_template hset hne]
        cases hfill : CommitMessage.render template pr with
        | ok text =>
          obtain ⟨texts, htexts, rfl⟩ := (CommitMessage.render_eq_ok_iff hsplit).mp hfill
          exact .filled hset hne hsplit htexts
        | error field =>
          obtain ⟨name, hname, rfl⟩ := (CommitMessage.render_eq_error_iff hsplit).mp hfill
          exact .unknown hset hne hsplit hname
  · rintro (hset | hset | ⟨hset, hne, hsplit, htexts⟩ | ⟨hset, hne, hsplit, hname⟩)
    · rw [MergeConfig.message, hset]
      rfl
    · rw [MergeConfig.message, hset]
      rfl
    · rw [message_of_template hset hne]
      exact (CommitMessage.render_eq_ok_iff hsplit).mpr ⟨_, htexts, rfl⟩
    · rw [message_of_template hset hne]
      exact (CommitMessage.render_eq_error_iff hsplit).mpr ⟨_, hname, rfl⟩

end MergeQueue
