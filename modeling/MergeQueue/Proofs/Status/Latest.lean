import Mathlib.Data.List.Nodup
import MergeQueue.Proofs.Sorted
import MergeQueue.PullRequest

namespace MergeQueue

def CommitStatus.NewestIn (s : CommitStatus) (statuses : List CommitStatus) : Prop :=
  statuses.find? (·.context = s.context) = some s

namespace CommitStatus

def firsts : List CommitStatus → List CommitStatus
  | [] => []
  | status :: rest => status :: (firsts rest).filter fun other => other.context ≠ status.context

section Loop

structure Met.Ordered (met : Met) : Prop where
  nodup : met.order.Nodup
  mem_order : ∀ context, context ∈ met.order ↔ (met.seen.find? context).isSome

lemma Met.ordered_empty : Met.Ordered ⟨∅, []⟩ :=
  ⟨List.nodup_nil, fun context => by rw [SortedMap.find?_empty]; simp⟩

variable {met : Met}

lemma Met.add_met {status : CommitStatus} (h : (met.seen.find? status.context).isSome) :
    met.add status = met :=
  if_pos h

lemma Met.add_new {status : CommitStatus} (h : met.seen.find? status.context = none) :
    met.add status =
      ⟨met.seen.insert status.context status, met.order ++ [status.context]⟩ := by
  rw [Met.add, SortedMap.contains, h]
  rfl

lemma Met.Ordered.not_mem (h : met.Ordered) {context : String}
    (hseen : met.seen.find? context = none) : context ∉ met.order := by
  rw [h.mem_order, hseen]
  exact Bool.false_ne_true

lemma Met.Ordered.add (h : met.Ordered) (status : CommitStatus) : (met.add status).Ordered := by
  cases hseen : met.seen.find? status.context with
  | some other =>
    rw [Met.add_met (Option.isSome_of_eq_some hseen)]
    exact h
  | none =>
    rw [Met.add_new hseen]
    refine ⟨?_, fun context => ?_⟩
    · rw [← List.concat_eq_append]
      exact h.nodup.concat (h.not_mem hseen)
    · rw [List.mem_append, List.mem_singleton, h.mem_order, SortedMap.find?_insert]
      by_cases hcontext : context = status.context
      · simp [hcontext]
      · simp [hcontext]

lemma takeOut_eq_filterMap {order : List String} (h : order.Nodup)
    (seen : SortedMap String CommitStatus) : takeOut order seen = order.filterMap seen.find? := by
  induction order generalizing seen with
  | nil => rfl
  | cons context rest ih =>
    obtain ⟨hnot, hrest⟩ := List.nodup_cons.mp h
    rw [takeOut]
    cases hfound : seen.find? context with
    | none =>
      rw [List.filterMap_cons_none hfound]
      exact ih hrest seen
    | some status =>
      rw [List.filterMap_cons_some hfound]
      dsimp only
      rw [ih hrest]
      congr 1
      refine List.filterMap_congr fun other hother => ?_
      rw [SortedMap.find?_erase, if_neg (ne_of_mem_of_not_mem hother hnot)]

lemma takeOut_add (h : met.Ordered) {status : CommitStatus}
    (hseen : met.seen.find? status.context = none) :
    takeOut (met.add status).order (met.add status).seen =
      takeOut met.order met.seen ++ [status] := by
  have hnew : status.context ∉ met.order := h.not_mem hseen
  rw [takeOut_eq_filterMap (h.add status).nodup, takeOut_eq_filterMap h.nodup, Met.add_new hseen,
    List.filterMap_append]
  congr 1
  · refine List.filterMap_congr fun context hcontext => ?_
    rw [SortedMap.find?_insert, if_neg (ne_of_mem_of_not_mem hcontext hnew)]
  · rw [List.filterMap_cons_some (by rw [SortedMap.find?_insert, if_pos rfl])]
    rfl

lemma takeOut_foldl (h : met.Ordered) (statuses : List CommitStatus) :
    takeOut (statuses.foldl Met.add met).order (statuses.foldl Met.add met).seen =
      takeOut met.order met.seen ++
        (firsts statuses).filter fun s => (met.seen.find? s.context).isNone := by
  induction statuses generalizing met with
  | nil => exact (List.append_nil _).symm
  | cons status rest ih =>
    rw [List.foldl_cons, ih (h.add status), firsts, List.filter_cons, List.filter_filter]
    cases hseen : met.seen.find? status.context with
    | some other =>
      rw [Met.add_met (Option.isSome_of_eq_some hseen), Option.isNone_some,
        if_neg Bool.false_ne_true]
      congr 1
      refine List.filter_congr fun s _ => ?_
      by_cases hs : s.context = status.context
      · simp [hs, hseen]
      · simp [hs]
    | none =>
      rw [takeOut_add h hseen, Option.isNone_none, if_pos rfl, List.append_assoc,
        List.singleton_append, Met.add_new hseen]
      congr 2
      refine List.filter_congr fun s _ => ?_
      rw [SortedMap.find?_insert]
      by_cases hs : s.context = status.context
      · simp [hs]
      · simp [hs]

lemma latest_eq_firsts (statuses : List CommitStatus) : latest statuses = firsts statuses := by
  refine (takeOut_foldl Met.ordered_empty statuses).trans ?_
  rw [takeOut, List.nil_append, List.filter_eq_self]
  intro s _
  rw [SortedMap.find?_empty]
  rfl

lemma latest_nil : latest [] = [] := rfl

lemma latest_cons (status : CommitStatus) (rest : List CommitStatus) :
    latest (status :: rest) =
      status :: (latest rest).filter fun other => other.context ≠ status.context := by
  rw [latest_eq_firsts, latest_eq_firsts, firsts]

end Loop

lemma mem_latest {statuses : List CommitStatus} {s : CommitStatus} :
    s ∈ latest statuses ↔ s.NewestIn statuses := by
  induction statuses with
  | nil => simp [latest_nil, NewestIn]
  | cons first rest ih =>
    rw [NewestIn] at ih
    rw [latest_cons, NewestIn, List.mem_cons, List.mem_filter, ih, List.find?_cons]
    by_cases h : first.context = s.context
    · simp [h, eq_comm]
    · have hne : s ≠ first := by
        rintro rfl
        exact h rfl
      simp [h, hne, Ne.symm h]

lemma nodup_latest (statuses : List CommitStatus) :
    ((latest statuses).map (·.context)).Nodup := by
  induction statuses with
  | nil => exact List.nodup_nil
  | cons first rest ih =>
    rw [latest_cons, List.map_cons, List.nodup_cons]
    refine ⟨?_, ih.sublist (List.filter_sublist.map _)⟩
    simp

lemma NewestIn.mem {s : CommitStatus} {statuses : List CommitStatus}
    (h : s.NewestIn statuses) : s ∈ statuses :=
  List.mem_of_find?_eq_some h

lemma exists_newest {context : String} {statuses : List CommitStatus}
    (h : context ∈ statuses.map (·.context)) :
    ∃ s : CommitStatus, s.context = context ∧ s.NewestIn statuses := by
  obtain ⟨other, hother, hsame⟩ := List.mem_map.mp h
  have hsome : (statuses.find? (·.context = context)).isSome := by
    rw [List.find?_isSome]
    exact ⟨other, hother, decide_eq_true hsame⟩
  obtain ⟨s, hs⟩ := Option.isSome_iff_exists.mp hsome
  have hcontext := List.find?_some hs
  rw [decide_eq_true_eq] at hcontext
  rw [← hcontext] at hs
  exact ⟨s, hcontext, hs⟩

lemma newestIn_front {s : CommitStatus} {front back : List CommitStatus} :
    s.NewestIn front ↔ s.NewestIn (front ++ back) ∧ s.context ∈ front.map (·.context) := by
  constructor
  · intro h
    refine ⟨?_, List.mem_map_of_mem h.mem⟩
    rw [NewestIn, List.find?_append, h]
    rfl
  · rintro ⟨h, hcontext⟩
    obtain ⟨newest, hsame, hnewest⟩ := exists_newest hcontext
    rw [NewestIn, hsame] at hnewest
    rw [NewestIn, List.find?_append, hnewest] at h
    exact hnewest.trans h

lemma latest_filter (keep : String → Bool) (statuses : List CommitStatus) :
    latest (statuses.filter fun s => keep s.context) =
      (latest statuses).filter fun s => keep s.context := by
  induction statuses with
  | nil => rfl
  | cons first rest ih =>
    cases hfirst : keep first.context with
    | true =>
      simp only [List.filter_cons, latest_cons, hfirst, if_true, ih, List.filter_filter, Bool.and_comm]
    | false =>
      simp only [List.filter_cons, latest_cons, hfirst, Bool.false_eq_true, if_false, ih,
        List.filter_filter]
      refine List.filter_congr fun s _ => ?_
      by_cases hs : s.context = first.context
      · simp [hs, hfirst]
      · simp [hs]

lemma contexts_latest (statuses : List CommitStatus) :
    (latest statuses).map (·.context) = (statuses.map (·.context)).eraseDups := by
  match statuses with
  | [] => rfl
  | first :: rest =>
    have hrest := contexts_latest (rest.filter fun s => s.context ≠ first.context)
    rw [latest_filter fun context => context ≠ first.context] at hrest
    rw [latest_cons, List.map_cons, hrest, List.map_cons, List.eraseDups_cons, List.filter_map]
    congr 3
    refine List.filter_congr fun s _ => ?_
    by_cases hs : s.context = first.context <;> simp [hs]
termination_by statuses.length
decreasing_by
  exact Nat.lt_succ_of_le (List.length_filter_le _ _)

lemma find?_latest (context : String) (statuses : List CommitStatus) :
    (latest statuses).find? (·.context = context) = statuses.find? (·.context = context) := by
  induction statuses with
  | nil => rfl
  | cons first rest ih =>
    rw [latest_cons, List.find?_cons, List.find?_cons]
    by_cases hfirst : first.context = context
    · simp [hfirst]
    · simp only [hfirst, decide_false]
      rw [← ih, List.find?_filter]
      congr 1
      funext s
      by_cases hs : s.context = context
      · simp [hs, Ne.symm hfirst]
      · simp [hs]

lemma latest_of_nodup {statuses : List CommitStatus}
    (h : (statuses.map (·.context)).Nodup) : latest statuses = statuses := by
  induction statuses with
  | nil => rfl
  | cons first rest ih =>
    obtain ⟨hfirst, hrest⟩ := List.nodup_cons.mp h
    rw [latest_cons, ih hrest, List.filter_eq_self.mpr]
    intro s hs
    have hne : s.context ≠ first.context := by
      intro hsame
      exact hfirst (List.mem_map.mpr ⟨s, hs, hsame⟩)
    exact decide_eq_true hne

lemma latest_latest (statuses : List CommitStatus) :
    latest (latest statuses) = latest statuses :=
  latest_of_nodup (nodup_latest statuses)

lemma find?_reverse_of_nodup {statuses : List CommitStatus}
    (h : (statuses.map (·.context)).Nodup) (context : String) :
    statuses.reverse.find? (·.context = context) = statuses.find? (·.context = context) := by
  induction statuses with
  | nil => rfl
  | cons first rest ih =>
    obtain ⟨hfirst, hrest⟩ := List.nodup_cons.mp h
    rw [List.reverse_cons, List.find?_append, ih hrest, List.find?_singleton, List.find?_cons]
    by_cases hcontext : first.context = context
    · have hnone : rest.find? (·.context = context) = none := by
        apply List.find?_eq_none.mpr
        intro s hs hsame
        exact hfirst (List.mem_map.mpr ⟨s, hs, (of_decide_eq_true hsame).trans hcontext.symm⟩)
      simp [hnone, hcontext]
    · simp [hcontext]

lemma find?_eq_some_iff {context : String} {statuses : List CommitStatus} {s : CommitStatus} :
    statuses.find? (·.context = context) = some s ↔ s.NewestIn statuses ∧ s.context = context := by
  constructor
  · intro h
    have hcontext := List.find?_some h
    rw [decide_eq_true_eq] at hcontext
    rw [← hcontext] at h
    exact ⟨h, hcontext⟩
  · rintro ⟨h, rfl⟩
    exact h

end CommitStatus

end MergeQueue
