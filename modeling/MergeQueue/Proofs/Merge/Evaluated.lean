import MergeQueue.Proofs.Run.Account
import MergeQueue.Proofs.Run.World

/-! A listing replaces the head of a record and leaves it in the success bucket, so the commit that
is merged need not be the one that was evaluated. -/

namespace MergeQueue

open Engine

variable {setup : Setup}

def View.evaluation? : View → Option Evaluation
  | .evaluated _ e => some e
  | .listed _ _ => none

def evaluations (views : List View) : List Evaluation := views.filterMap View.evaluation?

def Vouched (evaluations : List Evaluation) (sha : String) : Prop :=
  ∃ front e back, evaluations = front ++ e :: back ∧ e.pullRequest.head.sha = sha ∧
    ∀ e' ∈ e :: back, e'.verdict.passed = true

lemma Vouched.mem {evaluations : List Evaluation} {sha : String} (h : Vouched evaluations sha) :
    sha ∈ evaluations.map (·.pullRequest.head.sha) := by
  obtain ⟨front, e, back, rfl, rfl, _⟩ := h
  exact List.mem_map_of_mem (List.mem_append_right _ List.mem_cons_self)

lemma vouched_concat {evaluations : List Evaluation} {e : Evaluation}
    (h : e.verdict.passed = true) (sha : String) :
    Vouched (evaluations ++ [e]) sha ↔ sha = e.pullRequest.head.sha ∨ Vouched evaluations sha := by
  constructor
  · rintro ⟨front, e', back, heq, rfl, hp⟩
    rcases cut_concat heq with ⟨_, rfl, _⟩ | ⟨back, rfl, rfl⟩
    · exact .inl rfl
    · refine .inr ⟨front, e', back, rfl, rfl, fun x hx => hp x ?_⟩
      rcases List.mem_cons.mp hx with rfl | hx
      · exact List.mem_cons_self
      · exact List.mem_cons_of_mem _ (by simp [hx])
  · rintro (rfl | ⟨front, e', back, rfl, rfl, hp⟩)
    · exact ⟨evaluations, e, [], rfl, rfl, by simpa using h⟩
    · refine ⟨front, e', back ++ [e], by simp, rfl, fun x hx => ?_⟩
      rcases List.mem_cons.mp hx with rfl | hx
      · exact hp _ List.mem_cons_self
      · rcases List.mem_append.mp hx with hx | hx
        · exact hp x (List.mem_cons_of_mem _ hx)
        · rw [List.mem_singleton.mp hx]
          exact h

lemma evaluations_since (before : List View) (held : Bool) (e : Evaluation) {later : List View}
    (h : ∀ v ∈ later, ∃ held pr, v = .listed held pr) :
    evaluations (before ++ .evaluated held e :: later) = evaluations before ++ [e] := by
  have hnone : later.filterMap View.evaluation? = [] := by
    apply List.filterMap_eq_nil_iff.mpr
    intro v hv
    obtain ⟨held, pr, rfl⟩ := h v hv
    rfl
  simp [evaluations, View.evaluation?, hnone]

/-- How a merge call rests on the views of one pull request: an evaluation has passed it, after that
it has only been listed, and the call is for the last of these views. The commit that is merged is
vouched for exactly if it is the one of that evaluation, or was before that evaluation. -/
def RestsOn (settings : Settings) (visits : List Visit) (call : MergeCall) : Prop :=
  ∃ id before held e later last,
    views settings id visits = before ++ .evaluated held e :: later ∧
    e.verdict.passed = true ∧ (∀ v ∈ later, ∃ held pr, v = .listed held pr ∧ pr.id = id) ∧
    (View.evaluated held e :: later).getLast? = some last ∧
    call.id = last.pullRequest.id ∧ call.sha = last.pullRequest.head.sha ∧
    (Vouched (evaluations (views settings id visits)) call.sha ↔
      call.sha = e.pullRequest.head.sha ∨ Vouched (evaluations before) call.sha)

theorem direct_merge_restsOn {turns : List Turn} {table table' : Table} {log : List Exchange}
    (run : Run setup ∅ turns table) (h : (Stage.merge.pass setup table).Course log table')
    {k : Option String} {call : MergeCall} (hcall : (k, call) ∈ mergesAsked log) :
    ∃ key queue, k = some key ∧ table.find? key = some queue ∧ (queue.pool.batch = none →
      RestsOn setup.settings (turns.map (Turn.visit key)) call) := by
  obtain ⟨pauses, hpass⟩ := (course_fst _ _ _).mp h
  obtain ⟨key, queue, pool, hk, hq, _, hmerged, hcalls⟩ := mergePass_asked hpass hcall
  refine ⟨key, queue, hk, hq, fun hb => ?_⟩
  have hrun := run.queue key
  rw [hq] at hrun
  obtain ⟨_, id, t, ht, hbucket, hid, hsha⟩ := hmerged.direct hrun.sound hb hcalls
  have haccount := hrun.account id
  obtain ⟨before, held, e, later, hviews, hp, hl⟩ := haccount.passed hbucket
  obtain ⟨last, hlast, hpr⟩ := haccount.shown t ht
  have hsince : (View.evaluated held e :: later).getLast? = some last := by
    rw [hviews, List.getLast?_append, Option.or_of_isSome (by simp)] at hlast
    exact hlast
  have hids (v : View) (hv : v ∈ later) : ∃ held pr, v = .listed held pr ∧ pr.id = id := by
    obtain ⟨held', pr, rfl⟩ := hl v hv
    have hmem : .listed held' pr ∈ views setup.settings id (turns.map (Turn.visit key)) := by
      rw [hviews]
      exact List.mem_append_right _ (List.mem_cons_of_mem _ hv)
    rcases mem_views hmem with ⟨_, _, heq, hid⟩ | ⟨_, _, _, _, _, heq⟩
    · cases heq
      exact ⟨held', pr, rfl, hid⟩
    · cases heq
  refine ⟨id, before, held, e, later, last, hviews, hp, hids, hsince, by rw [hid, hpr],
    by rw [hsha, hpr], ?_⟩
  rw [hviews, evaluations_since before held e hl]
  exact vouched_concat hp call.sha

theorem direct_merge_restsOn_demo :
    ∃ key queue, some demo.poolKey = some key ∧
      (play demoSetup [(.poolSync, demoWorld (demoPull 1 "aaa" [])),
        (.statusSync, demoWorld (demoPull 1 "aaa" []))]).2.find? key = some queue ∧
      (queue.pool.batch = none → RestsOn .default
        ((play demoSetup [(.poolSync, demoWorld (demoPull 1 "aaa" [])),
          (.statusSync, demoWorld (demoPull 1 "aaa" []))]).1.map (Turn.visit key))
        ⟨⟨demo, "t"⟩, 1, "aaa"⟩) :=
  direct_merge_restsOn (run_play demoSetup _)
    (play_course demoSetup .merge (demoWorld (demoPull 1 "aaa" [])) _) (by decide +kernel)

def pushed : List (Stage × World) :=
  [(.poolSync, demoWorld (demoPull 1 "aaa" [])), (.statusSync, demoWorld (demoPull 1 "aaa" [])),
    (.poolSync, demoWorld (demoPull 1 "bbb" []))]

theorem unevaluated_head_merged :
    ¬ ∀ (setup : Setup) (turns : List Turn) (table table' : Table) (log : List Exchange),
      Run setup ∅ turns table → (Stage.merge.pass setup table).Course log table' →
      ∀ key queue call, (some key, call) ∈ mergesAsked log → table.find? key = some queue →
        queue.pool.batch = none →
        Vouched (evaluations (views setup.settings call.id (turns.map (Turn.visit key)))) call.sha := by
  intro h
  have hqueue : ((play demoSetup pushed).2.find? demo.poolKey).any
      (fun queue => queue.pool.batch.isNone) = true := by
    decide +kernel
  obtain ⟨queue, hq, hb⟩ := (Option.any_eq_true _ _).mp hqueue
  have hv := h demoSetup _ _ _ _ (run_play demoSetup pushed)
    (play_course demoSetup .merge (demoWorld (demoPull 1 "bbb" [])) _) demo.poolKey _
    ⟨⟨demo, "t"⟩, 1, "bbb"⟩ (by decide +kernel) hq (Option.isNone_iff_eq_none.mp hb)
  have hnot : "bbb" ∉ (evaluations (views .default 1
      ((play demoSetup pushed).1.map (Turn.visit demo.poolKey)))).map (·.pullRequest.head.sha) := by
    decide +kernel
  exact hnot hv.mem

end MergeQueue
