import MergeQueue.Proofs.Pool.Listing
import MergeQueue.Proofs.Run.MergeEffect
import MergeQueue.Proofs.Run.Queue

/-! What a run shows of one pull request: the entries of listings, and what was fetched to evaluate
it. The record of a pull request is always of the last view. -/

namespace MergeQueue

open Engine Dialogue

inductive View where
  | listed (held : Bool) (pr : PullRequest)
  | evaluated (held : Bool) (e : Evaluation)

namespace View

def held : View → Bool
  | .listed held _ => held
  | .evaluated held _ => held

def pullRequest : View → PullRequest
  | .listed _ pr => pr
  | .evaluated _ e => e.pullRequest

end View

namespace Said

def listed? : Said → Option (List PullRequest)
  | ⟨.host _ (.listPullRequests _), .ok listed⟩ => some listed
  | _ => none

def fetched? : Said → Option (Connection × UInt64 × PullRequest)
  | ⟨.host c (.getPullRequest id), .ok pr⟩ => some (c, id, pr)
  | _ => none

def reported? : Said → Option (String × List CommitStatus)
  | ⟨.host _ (.listCommitStatuses sha), .ok reports⟩ => some (sha, reports)
  | _ => none

def evaluation? (settings : Settings) (id : UInt64) (s next : Said) : Option Evaluation := do
  let (c, k, pr) ← s.fetched?
  let (sha, reports) ← next.reported?
  let merge ← c.config.merge
  if k = id ∧ sha = pr.head.sha then
    some (.of (settings.effectiveQuery merge) settings.statusContext pr reports)
  else none

end Said

def evaluationsOf (settings : Settings) (id : UInt64) : List Said → List Evaluation
  | s :: next :: rest =>
    (s.evaluation? settings id next).toList ++ evaluationsOf settings id (next :: rest)
  | _ => []

def Visit.views (settings : Settings) (id : UInt64) (v : Visit) : List View :=
  let held := (poolOf v.before).inBatch id
  match v.stage with
  | .poolSync => (v.said.filterMap Said.listed?).flatMap fun listed =>
    (openEntries listed id).map (.listed held)
  | .statusSync => (evaluationsOf settings id v.said).map (.evaluated held)
  | .merge => []

lemma Visit.views_merge (settings : Settings) (id : UInt64) (q : Option Queue) (said : List Said) :
    Visit.views settings id ⟨q, .merge, said⟩ = [] := rfl

def views (settings : Settings) (id : UInt64) (visits : List Visit) : List View :=
  visits.flatMap (Visit.views settings id)

lemma views_append (settings : Settings) (id : UInt64) (front back : List Visit) :
    views settings id (front ++ back) = views settings id front ++ views settings id back :=
  List.flatMap_append

lemma views_concat (settings : Settings) (id : UInt64) (visits : List Visit) (v : Visit) :
    views settings id (visits ++ [v]) = views settings id visits ++ v.views settings id := by
  rw [views_append, views, views, List.flatMap_singleton]

lemma mem_views {settings : Settings} {id : UInt64} {visits : List Visit} {v : View}
    (h : v ∈ views settings id visits) :
    (∃ held pr, v = .listed held pr ∧ pr.id = id) ∨
      ∃ visit ∈ visits, ∃ held, ∃ e ∈ evaluationsOf settings id visit.said, v = .evaluated held e := by
  obtain ⟨visit, hvisit, hv⟩ := List.mem_flatMap.mp h
  unfold Visit.views at hv
  dsimp only at hv
  split at hv
  · obtain ⟨listed, _, hl⟩ := List.mem_flatMap.mp hv
    obtain ⟨pr, hpr, rfl⟩ := List.mem_map.mp hl
    exact .inl ⟨_, pr, rfl, (mem_openEntries_iff.mp hpr).2.2⟩
  · obtain ⟨e, he, rfl⟩ := List.mem_map.mp hv
    exact .inr ⟨visit, hvisit, _, e, he, rfl⟩
  · cases hv

variable {setup : Setup} {key : String}

lemma evaluationsOf_cons {settings : Settings} {id : UInt64} {s : Said} (h : s.fetched? = none)
    (rest : List Said) : evaluationsOf settings id (s :: rest) = evaluationsOf settings id rest := by
  cases rest with
  | nil => rfl
  | cons next rest => simp [evaluationsOf, Said.evaluation?, h]

lemma evaluationsOf_append {settings : Settings} {id : UInt64} {l : List Said}
    (h : ∀ s ∈ l, s.fetched? = none) (rest : List Said) :
    evaluationsOf settings id (l ++ rest) = evaluationsOf settings id rest := by
  induction l with
  | nil => rfl
  | cons s l ih =>
    rw [List.cons_append, evaluationsOf_cons (h s List.mem_cons_self)]
    exact ih fun s hs => h s (List.mem_cons_of_mem _ hs)

lemma Engine.Evaluated.evaluations {c : Connection} {merge : MergeConfig} {k : UInt64}
    {l : List Said} {r : Except Error Evaluation} (hm : c.config.merge = some merge)
    (h : Evaluated setup c (setup.settings.effectiveQuery merge) k l r) (id : UInt64)
    (rest : List Said) : evaluationsOf setup.settings id (l ++ rest) =
      (if k = id then r.toOption.toList else []) ++ evaluationsOf setup.settings id rest := by
  cases h with
  | unfetched =>
    rw [List.singleton_append, evaluationsOf_cons rfl]
    simp [Except.toOption]
  | unreported =>
    simp only [List.cons_append, List.nil_append, evaluationsOf]
    rw [evaluationsOf_cons rfl]
    simp [Said.evaluation?, Said.fetched?, Said.reported?, Except.toOption]
  | reported =>
    simp only [List.cons_append, List.nil_append, evaluationsOf]
    rw [evaluationsOf_cons rfl]
    by_cases hk : k = id <;>
      simp [Said.evaluation?, Said.fetched?, Said.reported?, Except.toOption, hm, hk]

lemma Engine.EvaluatedAll.evaluations {c : Connection} {merge : MergeConfig} {ids : List UInt64}
    {l : List Said} {es : List (UInt64 × Evaluation)} {r : Except Error Unit}
    (hm : c.config.merge = some merge)
    (h : EvaluatedAll setup c (setup.settings.effectiveQuery merge) ids l es r) :
    (es.map (·.1)).Sublist ids ∧
    (∀ k e, (k, e) ∈ es → ∃ pr reports,
      e = .of (setup.settings.effectiveQuery merge) setup.settings.statusContext pr reports) ∧
    ∀ id rest, evaluationsOf setup.settings id (l ++ rest) =
      (es.filter fun e => e.1 = id).map (·.2) ++ evaluationsOf setup.settings id rest := by
  induction h with
  | none => exact ⟨List.nil_sublist _, by simp, fun _ _ => rfl⟩
  | failed he =>
    refine ⟨List.nil_sublist _, by simp, fun id rest => ?_⟩
    rw [he.evaluations hm]
    simp [Except.toOption]
  | @next k ids l e l' es r he _ ih =>
    obtain ⟨hsub, hof, hrest⟩ := ih
    refine ⟨hsub.cons_cons k, fun j e' hj => ?_, fun id rest => ?_⟩
    · rcases List.mem_cons.mp hj with hj | hj
      · cases hj
        cases he
        exact ⟨_, _, rfl⟩
      · exact hof j e' hj
    · rw [List.append_assoc, he.evaluations hm, hrest]
      by_cases hk : k = id <;> simp [Except.toOption, hk]

end MergeQueue
