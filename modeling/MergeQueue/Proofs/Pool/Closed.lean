import MergeQueue.Proofs.Run.Account
import MergeQueue.Proofs.Run.Asked
import MergeQueue.Proofs.Run.Pause
import MergeQueue.Proofs.Run.Retest
import MergeQueue.Proofs.Run.World

/-! Closed pull requests in a queue. A pool sync takes over open ones only; but a status sync
replaces a record by what was fetched to evaluate it, and does not look whether that is open. -/

namespace MergeQueue

open Engine Dialogue

variable {setup : Setup} {key : String} {id : UInt64}

def FetchedClosed (settings : Settings) (id : UInt64) (visits : List Visit) : Prop :=
  ∃ held e, (views settings id visits).getLast? = some (.evaluated held e) ∧
    e.pullRequest.state = .closed

lemma opened_of_views {settings : Settings} {visits : List Visit} {held : Bool} {pr : PullRequest}
    (h : .listed held pr ∈ views settings id visits) : pr.state = .opened := by
  obtain ⟨⟨before, stage, said⟩, _, hv⟩ := List.mem_flatMap.mp h
  cases stage with
  | poolSync =>
    obtain ⟨listed, _, hl⟩ := List.mem_flatMap.mp hv
    obtain ⟨pr, hpr, heq⟩ := List.mem_map.mp hl
    cases heq
    exact (mem_openEntries_iff.mp hpr).2.1
  | statusSync =>
    obtain ⟨e, _, heq⟩ := List.mem_map.mp hv
    cases heq
  | merge => cases hv

lemma Account.closed_iff {settings : Settings} {visits : List Visit} {m : Member}
    (h : Account (views settings id visits) m) {t : Tracked} (ht : m.tracked = some t) :
    t.pullRequest.state = .closed ↔ FetchedClosed settings id visits := by
  obtain ⟨v, hlast, hpr⟩ := h.shown t ht
  rw [← hpr]
  constructor
  · intro hclosed
    cases v with
    | listed held pr =>
      have hopened := opened_of_views (List.mem_of_getLast? hlast)
      cases hopened.symm.trans hclosed
    | evaluated held e => exact ⟨held, e, hlast, hclosed⟩
  · rintro ⟨held, e, hfetched, hclosed⟩
    cases hlast.symm.trans hfetched
    exact hclosed

lemma QueueStep.opened {q q' : Option Queue} {l : List Said}
    (h : QueueStep setup key .poolSync q l q') (hs : (poolOf q).Sound)
    (hl : l.filterMap Said.listed? ≠ []) {t : Tracked} (ht : (poolOf q').find? id = some t) :
    t.pullRequest.state = .opened := by
  cases h with
  | unlisted => exact absurd rfl hl
  | dropped => exact absurd rfl hl
  | passed hne => exact absurd rfl hne
  | @refreshed _ configs config l _ hc hr =>
    replace hl : l.filterMap Said.listed? ≠ [] := hl
    cases hr with
    | unconnected hconn => simp [listed_connect hconn, Said.listed?] at hl
    | unlisted hconn => simp [listed_connect hconn, Said.listed?] at hl
    | @listed l c merge listed hm hconn =>
      have hpool : (q.getD ⟨config.id, .empty⟩).pool = poolOf q := by cases q <;> rfl
      rw [hpool] at ht
      have hmember := Pool.member_absorb hs (setup.settings.effectiveQuery merge) listed id
      replace ht : (((poolOf q).absorb (setup.settings.effectiveQuery merge) listed).member
        id).tracked = some t := ht
      rw [hmember] at ht
      split at ht
      · cases ht
      · next hne =>
        obtain ⟨last, hlast⟩ :=
          Option.ne_none_iff_exists'.mp (mt List.getLast?_eq_none_iff.mp hne)
        obtain ⟨t', ht', hpr⟩ := Member.tracked_foldl_absorb
          (setup.settings.effectiveQuery merge) ((poolOf q).inBatch id) hlast ((poolOf q).member id)
        cases ht'.symm.trans ht
        rw [hpr]
        exact (mem_openEntries_iff.mp (List.mem_of_getLast? hlast)).2.1

lemma QueueStep.waiting_closed {stage : Stage} {q q' : Option Queue} {l : List Said}
    (h : QueueStep setup key stage q l q') {visits : List Visit} (run : QueueRun setup key none visits q)
    {p : Publication} (hp : p ∈ publications l) :
    ∃ w ∈ Visit.waiting setup.settings ⟨q, stage, l⟩,
      p = w.2.attempt setup.settings p.acknowledged ∧ (w.2.pullRequest.state = .closed ↔
        FetchedClosed setup.settings w.1 (visits ++ [⟨q, stage, l⟩])) := by
  obtain ⟨rfl, w, hw, heq⟩ := h.published run.sound hp
  obtain ⟨_, ht, _⟩ := mem_waiting_iff.mp hw
  have hfate : Fate setup _ _ False _ _ [] _ := .reviewed (h.looked run.sound w.1) .quiet
  have haccount := (run.account w.1).step hfate.step
  rw [← views_concat] at haccount
  exact ⟨w, hw, heq, haccount.closed_iff ht⟩

lemma QueueStep.merge_record {stage : Stage} {q q' : Option Queue} {l : List Said}
    (h : QueueStep setup key stage q l q') {visits : List Visit} (run : QueueRun setup key none visits q)
    {call : MergeCall} (hcall : call ∈ mergeCalls l) : ∃ id t, (poolOf q).find? id = some t ∧
      call.id = t.pullRequest.id ∧ call.sha = t.pullRequest.head.sha ∧
      (t.pullRequest.state = .closed ↔ FetchedClosed setup.settings id visits) := by
  by_cases hstage : stage = .merge
  · subst hstage
    cases h with
    | passed => cases hcall
    | merged hm =>
      obtain ⟨_, id, t, ht, hid, hsha, _⟩ := hm.record run.sound hcall
      exact ⟨id, t, ht, hid, hsha, (run.account id).closed_iff ht⟩
  · rw [mergeCalls_unasked (h.synced run.sound hstage).1] at hcall
    cases hcall

/-- A record is closed exactly if the pull request was so when it was fetched to be evaluated, and
has not been listed as open since. Statuses are published for such records, and they are merged,
like any other; a pool sync that gets its listing leaves none of them. -/
theorem closed_as_fetched {turns : List Turn} {table : Table} (moment : Moment setup turns table) :
    (∀ queue id t, table.find? key = some queue → queue.pool.find? id = some t →
      (t.pullRequest.state = .closed ↔
        FetchedClosed setup.settings id (turns.map (Turn.visit key)))) ∧
    (∀ front turn back, turns = front ++ turn :: back →
      (∀ p ∈ publications (heard key turn.log), ∃ w ∈ (turn.visit key).waiting setup.settings,
        p = w.2.attempt setup.settings p.acknowledged ∧ (w.2.pullRequest.state = .closed ↔
          FetchedClosed setup.settings w.1 ((front ++ [turn]).map (Turn.visit key)))) ∧
      ∀ call ∈ mergeCalls (heard key turn.log), ∃ id t,
        (poolOf (turn.before.find? key)).find? id = some t ∧ call.id = t.pullRequest.id ∧
          call.sha = t.pullRequest.head.sha ∧ (t.pullRequest.state = .closed ↔
            FetchedClosed setup.settings id (front.map (Turn.visit key)))) ∧
    ∀ front turn, turns = front ++ [turn] → turn.stage = .poolSync →
      (heard key turn.log).filterMap Said.listed? ≠ [] →
        ∀ queue id t, table.find? key = some queue → queue.pool.find? id = some t →
          t.pullRequest.state = .opened := by
  refine ⟨fun queue id t hq ht => ?_, ?_, ?_⟩
  · obtain ⟨before, t₀, hrun, ht₀, hpr⟩ := moment.recorded hq ht
    rw [← hpr]
    exact (hrun.account id).closed_iff ht₀
  · rintro front turn back rfl
    obtain ⟨table', run⟩ := moment.run
    have hrun := run.queue key
    rw [List.map_append, List.map_cons] at hrun
    obtain ⟨hbefore, q', hstep, _⟩ := hrun.cut rfl
    refine ⟨fun p hp => ?_, fun call hcall => hstep.merge_record hbefore hcall⟩
    rw [List.map_append]
    exact hstep.waiting_closed hbefore hp
  · rintro front turn rfl hstage hlisted queue id t hq ht
    obtain ⟨before, t₀, hrun, ht₀, hpr⟩ := moment.recorded hq ht
    rw [List.map_append] at hrun
    obtain ⟨hbefore, q', hstep, hlast⟩ := hrun.cut rfl
    obtain rfl := hlast rfl
    rw [show (turn.visit key).stage = .poolSync from hstage] at hstep
    rw [← hpr]
    exact hstep.opened hbefore.sound hlisted ht₀

def closedWorld : World :=
  { demoWorld (demoPull 1 "aaa" []) with
    live := [(1, { demoPull 1 "aaa" [] with state := .closed })] }

theorem closed_as_fetched_demo :
    let out := play demoSetup [(.poolSync, closedWorld), (.statusSync, closedWorld)]
    ∃ queue t, out.2.find? demo.poolKey = some queue ∧ queue.pool.find? 1 = some t ∧
      (t.pullRequest.state = .closed ↔
        FetchedClosed demoSetup.settings 1 (out.1.map (Turn.visit demo.poolKey))) := by
  intro out
  obtain ⟨queue, t, hq, ht, _⟩ :=
    Table.exists_tracked out.2 demo.poolKey 1 (fun _ => True) (by decide +kernel)
  exact ⟨queue, t, hq, ht, (closed_as_fetched (.between (run_play demoSetup _))).1 queue 1 t hq ht⟩

theorem closed_record_merged :
    ∃ setup turns table table' log key queue id t call,
      Run setup ∅ turns table ∧ (Stage.merge.pass setup table).Course log table' ∧
      table.find? key = some queue ∧ queue.pool.find? id = some t ∧
      t.pullRequest.state = .closed ∧
      FetchedClosed setup.settings id (turns.map (Turn.visit key)) ∧
      (∃ turn ∈ turns, ∃ p ∈ publications (heard key turn.log),
        p.sha = t.pullRequest.head.sha ∧ p.status.description = inMergePoolNote) ∧
      call ∈ mergeCalls (heard key log) ∧ call.id = id ∧ call.sha = t.pullRequest.head.sha := by
  let out := play demoSetup [(.poolSync, closedWorld), (.statusSync, closedWorld)]
  let merge := Stage.merge.play demoSetup closedWorld out.2
  obtain ⟨queue, t, hq, ht, hclosed, hsha⟩ := Table.exists_tracked out.2 demo.poolKey 1
    (fun t => t.pullRequest.state = .closed ∧ t.pullRequest.head.sha = "aaa") (by decide +kernel)
  have run : Run demoSetup ∅ out.1 out.2 := run_play demoSetup _
  have hrun := run.queue demo.poolKey
  rw [hq] at hrun
  have hpublished : ∃ turn ∈ out.1, ∃ p ∈ publications (heard demo.poolKey turn.log),
      p.sha = "aaa" ∧ p.status.description = inMergePoolNote := by
    decide +kernel
  have hcall : ⟨⟨demo, "t"⟩, 1, "aaa"⟩ ∈ mergeCalls (heard demo.poolKey merge.1) := by
    decide +kernel
  rw [← hsha] at hpublished
  exact ⟨demoSetup, out.1, out.2, merge.2, merge.1, demo.poolKey, queue, 1, t, _, run,
    play_course demoSetup .merge closedWorld out.2, hq, ht, hclosed,
    ((hrun.account 1).closed_iff ht).mp hclosed, hpublished, hcall, rfl, hsha.symm⟩

end MergeQueue
