import MergeQueue.Proofs.Run.Account
import MergeQueue.Proofs.Status.Publication

/-! A status is shown when it changes, on the commit that is the head then. Nothing is shown on the
head of a push that leaves it as it is. -/

namespace MergeQueue

open Engine Dialogue

variable {setup : Setup} {key : String} {settings : Settings} {id : UInt64}

/-- The record is to be shown after a status sync that has found `t₀`: it waits already, or status
or description are others. -/
def Tracked.Due (t t₀ : Tracked) : Prop :=
  t₀.dirty = true ∨ t.status ≠ t₀.status ∨ t.description ≠ t₀.description

lemma Tracked.dirty_setBlocker (t : Tracked) (status : CommitState) (description : String) :
    (t.setBlocker status description).dirty = true ↔ (t.setBlocker status description).Due t := by
  rw [setBlocker]
  split
  · simp [Due]
  · next hchanged =>
    have hne : status ≠ t.status ∨ description ≠ t.description := by
      by_contra! hsame
      exact hchanged (by simp [showing, hsame])
    exact ⟨fun _ => .inr hne, fun _ => rfl⟩

lemma Looked.dirty {consulted : RepoConfig → Prop} {held : Bool} {m m' : Member}
    {views : List View} (h : Looked setup consulted held m views m') {t : Tracked}
    (ht : m.tracked = some t) : ∃ t', m'.tracked = some t' ∧ (t'.dirty = true ↔ t'.Due t) := by
  cases h with
  | past => exact ⟨t, ht, by simp [Tracked.Due]⟩
  | evaluated _ _ hb _ =>
    obtain ⟨bucket, status, description, hsettled⟩ := Member.record_settle hb ht
    exact ⟨_, hsettled, Tracked.dirty_setBlocker _ status description⟩

lemma QueueStep.shown_record {stage : Stage} {q q' : Option Queue} {l : List Said}
    (h : QueueStep setup key stage q l q') (hs : (poolOf q).Sound) {p : Publication}
    (hp : p ∈ Visit.showings setup.settings id ⟨q, stage, l⟩) :
    ∃ t, (poolOf q').find? id = some t ∧ p = t.attempt setup.settings true := by
  cases h with
  | unlisted => cases hp
  | dropped => cases hp
  | refreshed => cases hp
  | passed => cases stage <;> cases hp
  | @reviewed queue _ pool hr =>
    obtain ⟨es, shown, refused, left, hev, hrep, _⟩ := hr.reported hs
    rw [hrep.showings rfl rfl (hev.waiting hs)] at hp
    obtain ⟨⟨k, t⟩, hmem, rfl⟩ := List.mem_map.mp hp
    obtain ⟨hw, hk⟩ := List.mem_filter.mp hmem
    obtain rfl : k = id := of_decide_eq_true hk
    have hmember := hrep.member k
    rw [if_pos (List.mem_map_of_mem hw)] at hmember
    have htracked : pool.find? k = some t.published :=
      (congrArg Member.tracked hmember).trans
        (congrArg (Option.map Tracked.published) (hrep.mem_shown hw).1)
    exact ⟨_, htracked, rfl⟩
  | merged => cases hp

lemma QueueStep.showings_completed {stage : Stage} {q q' : Option Queue} {l : List Said}
    (h : QueueStep setup key stage q l q') (hs : (poolOf q).Sound)
    (hv : Visit.Completes key ⟨q, stage, l⟩) {t : Tracked} (ht : (poolOf q').find? id = some t) :
    ∃ t₀, (poolOf q).find? id = some t₀ ∧
      (t.Due t₀ → Visit.showings setup.settings id ⟨q, stage, l⟩ =
        [t.attempt setup.settings true]) ∧
      (¬t.Due t₀ → Visit.showings setup.settings id ⟨q, stage, l⟩ = []) := by
  cases h with
  | @reviewed queue _ pool hr =>
    obtain ⟨es, shown, refused, left, hev, hrep, hall⟩ := hr.reported hs
    obtain ⟨_, rfl, rfl⟩ := hall hv
    obtain ⟨hfilter, hpublished⟩ := hrep.published id
    replace ht : pool.find? id = some t := ht
    rw [hpublished] at ht
    obtain ⟨t₁, ht₁, rfl⟩ := Option.map_eq_some_iff.mp ht
    have hbefore : (queue.pool.find? id).isSome := by
      rw [← Pool.mem_ids_iff, ← Pool.ids_settleAll queue.pool es, Pool.mem_ids_iff, ht₁]
      rfl
    obtain ⟨t₀, ht₀⟩ := Option.isSome_iff_exists.mp hbefore
    obtain ⟨t', ht', hdirty⟩ := (hev.looked hs id).dirty ht₀
    obtain rfl : t' = t₁ := Option.some.inj (ht'.symm.trans ht₁)
    refine ⟨t₀, ht₀, ?_⟩
    rw [hrep.showings rfl rfl (hev.waiting hs), hfilter, ht₁]
    -- publishing changes neither the status nor the description
    change (t'.Due t₀ → _) ∧ (¬t'.Due t₀ → _)
    refine ⟨fun hd => ?_, fun hd => ?_⟩
    · rw [Option.filter_eq_some_iff.mpr ⟨rfl, hdirty.mpr hd⟩]
      rfl
    · rw [Option.filter_some, if_neg (mt hdirty.mp hd)]
      rfl
  | passed => cases ht
  | _ => cases hv.stage

/-- The last status of a pull request that was acknowledged since it is tracked; nothing was shown in
the visits of `after`. -/
def LastShown (settings : Settings) (id : UInt64) (visits : List Visit) (p : Publication)
    (after : List Visit) : Prop :=
  ∃ front v, sinceTracked id visits = front ++ v :: after ∧
    (v.showings settings id).getLast? = some p ∧ ∀ w ∈ after, w.showings settings id = []

lemma lastShown_of_acknowledged {visits : List Visit} {status : CommitStatus}
    (h : (acknowledgedSince settings id visits).getLast? = some status) :
    ∃ p after, LastShown settings id visits p after ∧ p.status = status := by
  have hshowings : Visit.acknowledged settings id =
      fun v => (v.showings settings id).map (·.status) := rfl
  rw [acknowledgedSince, hshowings, ← List.map_flatMap, List.getLast?_map] at h
  obtain ⟨p, hp, hstatus⟩ := Option.map_eq_some_iff.mp h
  rw [List.getLast?_flatMap] at hp
  obtain ⟨later, v, earlier, hvisits, hv, hlater⟩ := List.findSome?_eq_some_iff.mp hp
  refine ⟨p, later.reverse, ⟨earlier.reverse, v, ?_, hv, fun w hw => ?_⟩, hstatus⟩
  · rw [← List.reverse_reverse (sinceTracked id visits), hvisits]
    simp
  · exact List.getLast?_eq_none_iff.mp (hlater w (List.mem_reverse.mp hw))

lemma sinceTracked_suffix (id : UInt64) (visits : List Visit) :
    ∃ before, visits = before ++ sinceTracked id visits := by
  let p (v : Visit) : Bool := ((poolOf v.before).find? id).isSome
  refine ⟨(visits.reverse.dropWhile p).reverse, ?_⟩
  rw [sinceTracked, ← List.reverse_append, List.takeWhile_append_dropWhile, List.reverse_reverse]

def headAfter (sha : String) (views : List View) : String :=
  (views.getLast?.map (·.pullRequest.head.sha)).getD sha

lemma QueueRun.head_after {visits : List Visit} {q : Option Queue}
    (run : QueueRun setup key none visits q) {p : Publication} {after : List Visit}
    (h : LastShown setup.settings id visits p after) {t : Tracked}
    (ht : (poolOf q).find? id = some t) :
    t.pullRequest.head.sha = headAfter p.sha (views setup.settings id after) := by
  obtain ⟨front, v, hsince, hp, _⟩ := h
  obtain ⟨before, hvisits⟩ := sinceTracked_suffix id visits
  rw [hsince, ← List.append_assoc] at hvisits
  obtain ⟨hbefore, q', hstep, _⟩ := run.cut hvisits
  obtain ⟨t', ht', rfl⟩ := hstep.shown_record hbefore.sound (List.mem_of_getLast? hp)
  -- the record that was shown and the present one each have the head of the last view before them
  obtain ⟨shown, hshown, hpr'⟩ := ((hbefore.next hstep).account id).shown t' ht'
  obtain ⟨last, hlast, hpr⟩ := (run.account id).shown t ht
  have hviews : views setup.settings id visits =
      views setup.settings id (before ++ front ++ [v]) ++ views setup.settings id after := by
    rw [hvisits, ← List.singleton_append, ← List.append_assoc, views_append]
  rw [hviews, List.getLast?_append] at hlast
  rw [← hpr, headAfter]
  cases hafter : (views setup.settings id after).getLast? with
  | none =>
    rw [hafter] at hlast
    obtain rfl : shown = last := Option.some.inj (hshown.symm.trans hlast)
    rw [hpr']
    rfl
  | some _ =>
    rw [hafter] at hlast
    cases hlast
    rfl

/-- After a status sync that completes, the last acknowledged status of a pull request is the one of
its record, on the commit that was its head when it was shown; the head is another one if that has
been listed or fetched since. The sync itself shows a record, on its present head, if it is dirty or
gets another status or description, and not otherwise. -/
theorem head_shown {turns : List Turn} {last : Turn} {table : Table}
    (run : Run setup ∅ (turns ++ [last]) table) (hv : (last.visit key).Completes key) {queue : Queue}
    (hq : table.find? key = some queue) {t : Tracked} (ht : queue.pool.find? id = some t) :
    let visits := (turns ++ [last]).map (Turn.visit key)
    (Overtaken setup.settings id visits queue.pool t ∨ ∃ p after,
      LastShown setup.settings id visits p after ∧ p.status.Shows setup.settings t ∧
        t.pullRequest.head.sha = headAfter p.sha (views setup.settings id after)) ∧
    ∃ t₀, (poolOf (last.before.find? key)).find? id = some t₀ ∧
      (t.Due t₀ → ∃ p, (last.visit key).showings setup.settings id = [p] ∧
        p.sha = t.pullRequest.head.sha ∧ p.status.Shows setup.settings t) ∧
      (¬t.Due t₀ → (last.visit key).showings setup.settings id = []) := by
  intro visits
  have hrun := run.queue key
  rw [hq] at hrun
  have hvisits : visits = turns.map (Turn.visit key) ++ [last.visit key] := by
    simp [visits]
  refine ⟨?_, ?_⟩
  · rcases (hrun.completed hvisits hv ht).2 with hlast | hover
    · obtain ⟨p, after, hshown, hstatus⟩ := lastShown_of_acknowledged hlast
      exact .inr ⟨p, after, hshown, hstatus ▸ shows_publication _ _, hrun.head_after hshown ht⟩
    · exact .inl hover
  · obtain ⟨hbefore, q', hstep, hlast⟩ := hrun.cut hvisits
    obtain rfl := hlast rfl
    obtain ⟨t₀, ht₀, hdue, hsilent⟩ := hstep.showings_completed hbefore.sound hv ht
    exact ⟨t₀, ht₀, fun hd => ⟨_, hdue hd, rfl, shows_publication _ _⟩, hsilent⟩

def pushedOn : List (Stage × World) :=
  let w := demoWorld (demoPull 1 "aaa" [])
  [(.poolSync, w), (.statusSync, w), (.poolSync, demoWorld (demoPull 1 "bbb" []))]

theorem head_shown_demo :
    let out := play demoSetup pushedOn
    let review := Stage.statusSync.play demoSetup (demoWorld (demoPull 1 "bbb" [])) out.2
    let last : Turn := ⟨out.2, .statusSync, review.1⟩
    let visits := (out.1 ++ [last]).map (Turn.visit demo.poolKey)
    ∃ queue t, review.2.find? demo.poolKey = some queue ∧ queue.pool.find? 1 = some t ∧
      (Overtaken demoSetup.settings 1 visits queue.pool t ∨ ∃ p after,
        LastShown demoSetup.settings 1 visits p after ∧
          p.status.Shows demoSetup.settings t ∧
            t.pullRequest.head.sha = headAfter p.sha (views demoSetup.settings 1 after)) := by
  intro out review last visits
  obtain ⟨queue, t, hq, ht, _⟩ :=
    Table.exists_tracked review.2 demo.poolKey 1 (fun _ => True) (by decide +kernel)
  have completes : (last.visit demo.poolKey).Completes demo.poolKey :=
    Visit.completes_of_said rfl (by decide +kernel) (by decide +kernel)
  have run : Run demoSetup ∅ (out.1 ++ [last]) review.2 :=
    (run_play demoSetup pushedOn).next (play_course demoSetup .statusSync _ out.2)
  exact ⟨queue, t, hq, ht, (head_shown run completes hq ht).1⟩

theorem pushed_head_unshown :
    ¬ ∀ (setup : Setup) (turns : List Turn) (last : Turn) (table : Table),
      Run setup ∅ (turns ++ [last]) table → ∀ key queue id t, (last.visit key).Completes key →
        table.find? key = some queue → queue.pool.find? id = some t →
          ∃ v ∈ (turns ++ [last]).map (Turn.visit key), ∃ p ∈ v.showings setup.settings id,
            p.sha = t.pullRequest.head.sha := by
  intro h
  let out := play demoSetup pushedOn
  let review := Stage.statusSync.play demoSetup (demoWorld (demoPull 1 "bbb" [])) out.2
  let last : Turn := ⟨out.2, .statusSync, review.1⟩
  obtain ⟨queue, t, hq, ht, hsha⟩ := Table.exists_tracked review.2 demo.poolKey 1
    (fun t => t.pullRequest.head.sha = "bbb") (by decide +kernel)
  have completes : (last.visit demo.poolKey).Completes demo.poolKey :=
    Visit.completes_of_said rfl (by decide +kernel) (by decide +kernel)
  have hshas : ∀ v ∈ (out.1 ++ [last]).map (Turn.visit demo.poolKey),
      ∀ p ∈ v.showings demoSetup.settings 1, p.sha = "aaa" := by
    decide +kernel
  obtain ⟨v, hv, p, hp, hhead⟩ := h demoSetup out.1 last review.2
    ((run_play demoSetup pushedOn).next (play_course demoSetup .statusSync _ out.2)) demo.poolKey
    queue 1 t completes hq ht
  rw [hshas v hv p hp, hsha] at hhead
  exact absurd hhead (by decide)

end MergeQueue
