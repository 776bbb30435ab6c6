import MergeQueue.Proofs.Run.Fate
import MergeQueue.Proofs.Run.MergeTalk

namespace MergeQueue

open Engine Dialogue

variable {setup : Setup} {key : String}

def Question.inMerge : Question → Bool
  | .getConfig _ => true
  | .connect _ => true
  | .host _ (.getBranch _) => true
  | .host _ (.mergePullRequest _ _ _ _) => true
  | .drawSuffix => true
  | .createJob _ => true
  | .jobState _ => true
  | .warn (.mergeRejected _ _ _) => true
  | .warn (.jobVanished _ _) => true
  | _ => false

namespace Engine

lemma mergeLaw_inMerge (config : RepoConfig) :
    MergeLaw key config fun s => s.1.inMerge = true where
  connect _ _ := rfl
  branch _ _ _ := rfl
  merge _ _ _ _ _ _ := rfl
  suffix _ := rfl
  create _ _ := rfl
  state _ _ := rfl
  vanished _ := rfl
  rejected _ _ := rfl

lemma Started.inMerge {queue : Queue} {l : List Said} {out : Pool × MergeState}
    (h : Started setup key queue l out) : ∀ s ∈ l, s.1.inMerge = true := by
  obtain ⟨reply, rest, rfl, hall, _⟩ := h.all
  exact List.forall_mem_cons.mpr ⟨rfl, hall _ fun config _ => mergeLaw_inMerge config⟩

lemma Finished.inMerge {out : Pool × MergeState} {l : List Said} {pool : Pool}
    {r : Except Error Unit} (h : Finished setup key out l pool r) :
    ∀ s ∈ l, s.1.inMerge = true := by
  obtain ⟨pool₁, state⟩ := out
  cases state with
  | ended =>
    cases h
    simp
  | paused task =>
    apply h.all (mergeLaw_inMerge task.connection.config)
    rintro _ ⟨⟩
    rfl
  | broken => cases h

lemma Merged.result {queue : Queue} {said : List Said} {pool : Pool}
    (h : Merged setup key queue said pool) :
    ∃ l out l' r, Started setup key queue l out ∧ Finished setup key out l' pool r ∧
      said = l ++ l' ++ noted (.mergePass key) r ∧
      ∀ e, ⟨.warn (.mergePass key e), ()⟩ ∈ said → r = .error e := by
  obtain ⟨l, out, l', r, hstart, hfin, rfl⟩ := h
  refine ⟨l, out, l', r, hstart, hfin, rfl, fun e he => ?_⟩
  rcases List.mem_append.mp he with he | he
  · have hin := List.forall_mem_append.mpr ⟨hstart.inMerge, hfin.inMerge⟩ _ he
    cases hin
  · cases r with
    | error e' =>
      cases List.mem_singleton.mp he
      rfl
    | ok _ => cases he

lemma Merged.publications {queue : Queue} {l : List Said} {pool : Pool}
    (h : Merged setup key queue l pool) : publications l = [] := by
  obtain ⟨l, out, l', r, hstart, hfin, rfl⟩ := h
  have hquiet (l : List Said) (hin : ∀ s ∈ l, s.1.inMerge = true) :
      MergeQueue.publications l = [] := by
    refine List.filterMap_eq_nil_iff.mpr fun s hs => ?_
    have hs := hin s hs
    unfold Said.publication?
    split
    · cases hs
    · cases hs
    · rfl
  simp [hquiet l hstart.inMerge, hquiet l' hfin.inMerge]

lemma Refreshed.publications {config : RepoConfig} {q q' : Option Queue} {l : List Said}
    (h : Refreshed setup key config q l q') : publications l = [] := by
  cases h with
  | unconnected hc => simp [publications_connect hc, Said.publication?]
  | unlisted hc => simp [publications_connect hc, Said.publication?]
  | listed _ hc => simp [publications_connect hc, Said.publication?]

end Engine

lemma QueueStep.looked {q q' : Option Queue} {l : List Said}
    (h : QueueStep setup key .statusSync q l q') (hs : (poolOf q).Sound) (id : UInt64) :
    Looked setup (Consulted setup key q l) ((poolOf q).inBatch id) ((poolOf q).member id)
      (Visit.views setup.settings id ⟨q, .statusSync, l⟩)
      (Visit.settled setup.settings ⟨q, .statusSync, l⟩ id) := by
  cases h with
  | passed => exact .past
  | reviewed hr =>
    obtain ⟨es, shown, refused, left, hev, _⟩ := hr.reported hs
    rw [hev.settled hs]
    exact hev.looked hs id

lemma QueueStep.published {stage : Stage} {q q' : Option Queue} {l : List Said}
    (h : QueueStep setup key stage q l q') (hs : (poolOf q).Sound) {p : Publication}
    (hp : p ∈ publications l) : stage = .statusSync ∧
      ∃ w ∈ Visit.waiting setup.settings ⟨q, stage, l⟩,
        p = w.2.attempt setup.settings p.acknowledged := by
  cases h with
  | unlisted => cases hp
  | dropped => cases hp
  | refreshed _ hr =>
    rw [publications_cons, hr.publications] at hp
    cases hp
  | passed => cases hp
  | reviewed hr =>
    obtain ⟨es, shown, refused, left, hev, hrep, _⟩ := hr.reported hs
    rw [hrep.asked] at hp
    rw [hev.waiting hs, hrep.waiting]
    refine ⟨rfl, ?_⟩
    rcases List.mem_append.mp hp with hp | hp
    · obtain ⟨w, hw, rfl⟩ := List.mem_map.mp hp
      exact ⟨w, List.mem_append_left _ (List.mem_append_left _ hw), rfl⟩
    · obtain ⟨w, hw, rfl⟩ := List.mem_map.mp hp
      exact ⟨w, List.mem_append_left _ (List.mem_append_right _ hw), rfl⟩
  | merged hm =>
    rw [hm.publications] at hp
    cases hp

end MergeQueue
