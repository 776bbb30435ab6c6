import MergeQueue.Proofs.Run.Account
import MergeQueue.Proofs.Run.Apart
import MergeQueue.Proofs.Run.Connections
import MergeQueue.Proofs.Run.World

/-! Repositories are kept apart. Whatever is replied about one of them, the queues of the others go
through the same, so long as each queue goes by a configuration of its own repository. -/

namespace MergeQueue

open Engine Dialogue

variable {setup : Setup} {repo : String}

def OwnersKept (turns : List Turn) : Prop :=
  ∀ t ∈ turns, ∀ key queue, t.before.find? key = some queue →
    ∀ config, ⟨.getConfig queue.owner, .ok config⟩ ∈ heard key t.log → config.poolKey = key

abbrev Replies := List (List Exchange) → List Exchange → (a : Addressed) → a.Reply

def Given (replies : Replies) (turns : List Turn) : Prop :=
  ∀ before t after, turns = before ++ t :: after → ∀ front a r back,
    t.log = front ++ ⟨a, r⟩ :: back → r = replies (before.map (·.log)) front a

/-- The replies are the same but for one repository: the answers of its host may be others, and so
may be all that is replied to its queue, about its jobs above all. What is replied to other queues
does not depend on what was said for this one. -/
def SameBut (repo : String) (replies replies' : Replies) : Prop :=
  ∀ earlier earlier' past past' a, earlier.map (apart repo) = earlier'.map (apart repo) →
    apart repo past = apart repo past' → a.key ≠ some repo →
    a.question.repository? ≠ some repo → replies earlier past a = replies' earlier' past' a

def Turn.without (repo : String) (t : Turn) : Turn :=
  ⟨t.before.erase repo, t.stage, apart repo t.log⟩

lemma visit_without {key : String} (h : key ≠ repo) (t : Turn) :
    (t.without repo).visit key = t.visit key := by
  rw [Turn.visit, Turn.visit, Turn.without, heard_apart h, SortedMap.find?_erase, if_neg h]

lemma OwnersKept.init {turns : List Turn} {t : Turn} (h : OwnersKept (turns ++ [t])) :
    OwnersKept turns := fun t' ht => h t' (List.mem_append_left _ ht)

lemma Given.init {replies : Replies} {turns : List Turn} {t : Turn}
    (h : Given replies (turns ++ [t])) : Given replies turns := by
  rintro before t' after rfl
  exact h before t' (after ++ [t]) (by simp)

lemma pass_asks_own {stage : Stage} {table table' : Table} {log : List Exchange}
    (h : (stage.pass setup table).Course log table')
    (hs : ∀ key, (poolOf (table.find? key)).Sound)
    (hkept : ∀ key queue, table.find? key = some queue →
      ∀ config, ⟨.getConfig queue.owner, .ok config⟩ ∈ heard key log → config.poolKey = key) :
    ∀ e ∈ log, ∀ repo, e.1.question.repository? = some repo → e.1.key = some repo := by
  intro e he repo hr
  have hown (key : String) (hk : e.1.key.all (· = key)) : repo = key := by
    have hmem : e.said ∈ heard key log := List.mem_filterMap.mpr ⟨e, he, by simp [hk]⟩
    exact (pass_course h key).repository (hs key) (hkept key) _ hmem repo hr
  cases hk : e.1.key with
  | none =>
    have hempty := hown "" (by simp [hk])
    have hother := hown "x" (by simp [hk])
    exact absurd (hempty.symm.trans hother) (by decide)
  | some key => rw [hown key (by simp [hk])]

lemma pass_same {stage : Stage} {before before' table table' : Table} {log log' : List Exchange}
    (h : (stage.pass setup before).Course log table)
    (h' : (stage.pass setup before').Course log' table')
    (hbefore : before.erase repo = before'.erase repo)
    (hreplies : ∀ front a r back front' r' back', log = front ++ ⟨a, r⟩ :: back →
      log' = front' ++ ⟨a, r'⟩ :: back' → apart repo front = apart repo front' →
      a.key ≠ some repo → r = r') :
    apart repo log = apart repo log' ∧ table.erase repo = table'.erase repo := by
  have hapart := pass_apart repo h
  have hapart' := pass_apart repo h'
  rw [← hbefore] at hapart'
  refine course_unique hapart hapart' ?_
  intro past a r r' rest rest' hlog hlog'
  obtain ⟨front, back, rfl, hfront, hkey⟩ := apart_eq_cut hlog
  obtain ⟨front', back', rfl, hfront', _⟩ := apart_eq_cut hlog'
  exact hreplies front a r back front' r' back' rfl rfl (hfront.trans hfront'.symm) hkey

/-- Two runs of the same passes, in worlds whose replies are the same but for one repository. But
for that repository they are the same: in every pass the same was asked and replied in the same
order, and before and after every pass the tables have the same keys and queues. It is enough that
in one of the runs the queues go by configurations of their repositories. -/
theorem repositories_apart {turns turns' : List Turn} {table table' : Table}
    {replies replies' : Replies} (run : Run setup ∅ turns table) (run' : Run setup ∅ turns' table')
    (hstages : turns.map (·.stage) = turns'.map (·.stage)) (hkept : OwnersKept turns)
    (hgiven : Given replies turns) (hgiven' : Given replies' turns')
    (hsame : SameBut repo replies replies') :
    turns.map (Turn.without repo) = turns'.map (Turn.without repo) ∧
    table.erase repo = table'.erase repo ∧
    ∀ key, key ≠ repo → turns.map (Turn.visit key) = turns'.map (Turn.visit key) ∧
      table.find? key = table'.find? key := by
  have hruns : turns.map (Turn.without repo) = turns'.map (Turn.without repo) ∧
      table.erase repo = table'.erase repo := by
    induction run generalizing turns' table' with
    | start =>
      cases run' with
      | start => exact ⟨rfl, rfl⟩
      | next => simp at hstages
    | @next turns before stage log table run h ih =>
      cases run' with
      | start => simp at hstages
      | @next turns' before' stage' log' _ run' h' =>
        -- so far the runs were the same for the others, so their questions now get the same replies
        simp only [List.map_append, List.map_cons, List.map_nil] at hstages
        obtain ⟨hfront, hstage⟩ := List.append_inj' hstages rfl
        obtain rfl := List.head_eq_of_cons_eq hstage
        obtain ⟨hturns, hbefore⟩ := ih run' hfront hkept.init hgiven.init hgiven'.init
        have hearlier : (turns.map (·.log)).map (apart repo) =
            (turns'.map (·.log)).map (apart repo) := by
          have hlogs := congrArg (List.map Turn.log) hturns
          rw [List.map_map, List.map_map] at hlogs ⊢
          exact hlogs
        have hown := pass_asks_own h (fun key => (run.queue key).sound)
          (hkept _ List.mem_concat_self)
        obtain ⟨hlog, htable⟩ := pass_same h h' hbefore fun front a r back front' r' back' hl hl'
            hpast hkey => by
          have hhost : a.question.repository? ≠ some repo := fun hr =>
            hkey (hown ⟨a, r⟩ (by simp [hl]) repo hr)
          rw [hgiven turns _ [] rfl front a r back hl,
            hgiven' turns' _ [] rfl front' a r' back' hl']
          exact hsame _ _ front front' a hearlier hpast hkey hhost
        refine ⟨?_, htable⟩
        simp only [List.map_append, List.map_cons, List.map_nil, hturns, Turn.without, hbefore,
          hlog]
  refine ⟨hruns.1, hruns.2, fun key hkey => ⟨?_, ?_⟩⟩
  · have hvisits := congrArg (List.map (Turn.visit key)) hruns.1
    simpa only [List.map_map, Function.comp_def, visit_without hkey] using hvisits
  · exact SortedMap.erase_eq_erase_iff.mp hruns.2 key hkey

def under (setup : Setup) (reply : (q : Question) → q.Reply) :
    List Stage → List Turn → Table → List Turn × Table
  | [], turns, table => (turns, table)
  | stage :: rest, turns, table =>
    let out := (stage.pass setup table).record fun (a : Addressed) => reply a.question
    under setup reply rest (turns ++ [⟨table, stage, out.1⟩]) out.2

def cutOff (repo : String) (e : Error) (reply : (q : Question) → q.Reply) (q : Question) :
    q.Reply :=
  if q.repository? = some repo then outage e q else reply q

def Steady (reply : (q : Question) → q.Reply) (turns : List Turn) : Prop :=
  ∀ t ∈ turns, ∀ e ∈ t.log, e.2 = reply e.1.question

lemma run_under {reply : (q : Question) → q.Reply} {turns : List Turn} {table : Table}
    (run : Run setup ∅ turns table) (h : Steady reply turns) (stages : List Stage) :
    Run setup ∅ (under setup reply stages turns table).1 (under setup reply stages turns table).2 ∧
      Steady reply (under setup reply stages turns table).1 := by
  induction stages generalizing turns table with
  | nil => exact ⟨run, h⟩
  | cons stage rest ih =>
    refine ih (run.next (course_record _ _)) fun t ht => ?_
    rcases List.mem_append.mp ht with ht | ht
    · exact h t ht
    · obtain rfl := List.mem_singleton.mp ht
      exact fun e he => answer_of_mem_record he

lemma Steady.given {reply : (q : Question) → q.Reply} {turns : List Turn}
    (h : Steady reply turns) : Given (fun _ _ a => reply a.question) turns := by
  rintro before t after rfl front a r back hlog
  exact h t (by simp) ⟨a, r⟩ (by simp [hlog])

lemma Steady.ownersKept {reply : (q : Question) → q.Reply} {turns : List Turn}
    (h : Steady reply turns)
    (hkept : (turns.all fun t => t.before.entries.all fun e =>
      (reply (.getConfig e.2.owner)).toOption.all fun config => config.poolKey = e.1) = true) :
    OwnersKept turns := by
  intro t ht key queue hq config hc
  obtain ⟨e, he, hsaid⟩ := mem_of_mem_heard hc
  have hreply : reply (.getConfig queue.owner) = .ok config := by
    obtain ⟨⟨k, q⟩, r⟩ := e
    cases hsaid
    exact (h t ht _ he).symm
  have hentry := List.all_eq_true.mp (List.all_eq_true.mp hkept t ht) (key, queue)
    ((SortedMap.find?_eq_some_iff _ _ _).mp hq)
  simpa [hreply, Except.toOption] using hentry

def twin : RepoConfig :=
  { demo with name := "twin", git := { demo.git with repository := "octo/twin" } }

def twinWorld : World := { demoWorld (demoPull 7 "aaa" []) with configs := [demo, twin] }

theorem repositories_apart_demo :
    let stages := [Stage.poolSync, .statusSync, .merge]
    let out := under demoSetup twinWorld.reply stages [] ∅
    let out' := under demoSetup (cutOff twin.poolKey (.host (.other "down")) twinWorld.reply)
      stages [] ∅
    (out.1.map (Turn.without twin.poolKey) = out'.1.map (Turn.without twin.poolKey) ∧
      out.2.erase twin.poolKey = out'.2.erase twin.poolKey ∧
      ∀ key, key ≠ twin.poolKey → out.1.map (Turn.visit key) = out'.1.map (Turn.visit key) ∧
        out.2.find? key = out'.2.find? key) ∧
    out.2.keys = [demo.poolKey, twin.poolKey] ∧ out'.2.keys = [demo.poolKey] := by
  have hnone (reply : (q : Question) → q.Reply) : Steady reply [] := by simp [Steady]
  intro stages out out'
  obtain ⟨run, hsteady⟩ := run_under (.start : Run demoSetup ∅ [] ∅) (hnone twinWorld.reply) stages
  obtain ⟨run', hsteady'⟩ := run_under (.start : Run demoSetup ∅ [] ∅) (hnone (cutOff _ _ _)) stages
  refine ⟨repositories_apart run run' (by decide +kernel) (hsteady.ownersKept (by decide +kernel))
    hsteady.given hsteady'.given ?_, by decide +kernel, by decide +kernel⟩
  intro _ _ _ _ a _ _ _ hrepo
  exact (if_neg hrepo).symm

end MergeQueue
