import MergeQueue.Proofs.Run.Account
import MergeQueue.Proofs.Run.Connections
import MergeQueue.Proofs.Run.World

/-! A queue is opened and kept by the key of its repository, but it belongs to the configuration it
was opened by. -/

namespace MergeQueue

open Engine Dialogue

variable {setup : Setup}

/-- Under the name of the queue's owner the list has an enabled configuration of the repository. -/
def Owned (setup : Setup) (configs : List RepoConfig) (key : String) (owner : ConfigName) : Prop :=
  ∃ config ∈ configs, config.automationEnabled setup.env = true ∧ config.poolKey = key ∧
    config.id = owner

/-- The queues behind a pool sync that has succeeded are those of the repositories in the list. Each
was opened, in this pool sync or in an earlier one, by the first configuration of its repository in
the list of that time, and has belonged to this one ever since. So it is owned exactly if the list
still has that configuration, enabled and of the same repository; a new queue always is. The other
passes talk for it to the host of the configuration under the owner's name, and to no other. -/
theorem owned_iff_opener_listed {turns : List Turn} {table table' : Table} {log : List Exchange}
    (run : Run setup ∅ turns table) (h : (poolPass setup table).Course log (table', .ok ())) :
    ∃ configs rest, log = ⟨⟨none, .listConfigs⟩, .ok configs⟩ :: rest ∧
      ∀ key queue, table'.find? key = some queue →
        (configFor setup configs key).isSome = true ∧
        (∃ (before after : List Visit) (opening : List RepoConfig) (opener : RepoConfig)
            (said : List Said),
          (turns ++ [(⟨table, .poolSync, log⟩ : Turn)]).map (Turn.visit key) =
            before ++ ⟨none, .poolSync, ⟨.listConfigs, .ok opening⟩ :: said⟩ :: after ∧
          configFor setup opening key = some opener ∧
          (∀ v ∈ after, ∃ old, v.before = some old ∧ old.owner = opener.id) ∧
          queue.owner = opener.id ∧
          (Owned setup configs key queue.owner ↔ ∃ config ∈ configs,
            config.automationEnabled setup.env = true ∧ config.poolKey = key ∧
              config.id = opener.id)) ∧
        (table.find? key = none → Owned setup configs key queue.owner) ∧
        ∀ (stage : Stage) table'' log', stage ≠ .poolSync → (stage.pass setup table').Course log' table'' →
          Hosted queue.owner (heard key log') := by
  have run' : Run setup ∅ (turns ++ [⟨table, .poolSync, log⟩]) table' :=
    run.next ((course_fst _ _ _).mpr ⟨_, h⟩)
  obtain ⟨configs, rest, rfl, hkeys⟩ := poolPass_ok h
  refine ⟨configs, rest, rfl, fun key queue hq => ?_⟩
  have hrun := run'.queue key
  rw [hq] at hrun
  obtain ⟨config, hconfig⟩ : ∃ config, configFor setup configs key = some config := by
    cases hc : configFor setup configs key with
    | none =>
      rw [((hkeys key).1 hc).2] at hq
      cases hq
    | some config => exact ⟨config, rfl⟩
  refine ⟨by rw [hconfig]; rfl, ?_, fun hnone => ?_, fun stage table'' log' hstage hpass => ?_⟩
  · obtain ⟨before, opening, opener, said, after, hvisits, hopener, howner, hafter⟩ :=
      hrun.opened rfl
    refine ⟨before, after, opening, opener, said, hvisits, hopener, hafter, howner, ?_⟩
    rw [howner, Owned]
  · have hrefreshed := (hkeys key).2 config hconfig
    rw [hnone, hq] at hrefreshed
    have howner := hrefreshed.owner_new
    obtain ⟨hmem, henabled, hkey⟩ := configFor_eq_some hconfig
    exact ⟨config, hmem, henabled, hkey, howner.symm⟩
  · have hstep := pass_course hpass key
    rw [hq] at hstep
    exact hstep.hosted hrun.sound hstage

def World.poolSync (setup : Setup) (w : World) (table : Table) :
    List Exchange × Table × Except Error Unit :=
  (poolPass setup table).record fun a => w.reply a.question

lemma poolSync_course {setup : Setup} {w : World} {table : Table}
    (h : (w.poolSync setup table).2.2 = .ok ()) :
    (poolPass setup table).Course (w.poolSync setup table).1
      ((w.poolSync setup table).2.1, .ok ()) := by
  rw [← h]
  exact course_record _ _

def storeWorld (configs : List RepoConfig) : World := ⟨configs, [], [], [], "base", .pending⟩

def renamed : RepoConfig := { demo with name := "renamed" }

theorem owned_iff_opener_listed_demo :
    let turns := play demoSetup [(.poolSync, storeWorld [demo])]
    let sync := (storeWorld [demo]).poolSync demoSetup turns.2
    ∃ configs rest, sync.1 = ⟨⟨none, .listConfigs⟩, .ok configs⟩ :: rest ∧
      ∀ key queue, sync.2.1.find? key = some queue →
        (configFor demoSetup configs key).isSome = true ∧
        (∃ (before after : List Visit) (opening : List RepoConfig) (opener : RepoConfig)
            (said : List Said),
          (turns.1 ++ [(⟨turns.2, .poolSync, sync.1⟩ : Turn)]).map (Turn.visit key) =
            before ++ ⟨none, .poolSync, ⟨.listConfigs, .ok opening⟩ :: said⟩ :: after ∧
          configFor demoSetup opening key = some opener ∧
          (∀ v ∈ after, ∃ old, v.before = some old ∧ old.owner = opener.id) ∧
          queue.owner = opener.id ∧
          (Owned demoSetup configs key queue.owner ↔ ∃ config ∈ configs,
            config.automationEnabled demoSetup.env = true ∧ config.poolKey = key ∧
              config.id = opener.id)) ∧
        (turns.2.find? key = none → Owned demoSetup configs key queue.owner) ∧
        ∀ (stage : Stage) table'' log', stage ≠ .poolSync →
          (stage.pass demoSetup sync.2.1).Course log' table'' →
          Hosted queue.owner (heard key log') :=
  owned_iff_opener_listed (run_play demoSetup _) (poolSync_course rfl)

theorem renamed_owner_unlisted :
    ¬ ∀ (setup : Setup) (turns : List Turn) (table table' : Table) (configs : List RepoConfig)
      (rest : List Exchange), Run setup ∅ turns table →
      (poolPass setup table).Course (⟨⟨none, .listConfigs⟩, .ok configs⟩ :: rest)
        (table', .ok ()) →
      ∀ key queue, table'.find? key = some queue → Owned setup configs key queue.owner := by
  intro h
  have hqueue : (((storeWorld [renamed]).poolSync demoSetup
      (play demoSetup [(.poolSync, storeWorld [demo])]).2).2.1.find? demo.poolKey).any
      (fun queue => queue.owner = demo.id) = true := by
    decide +kernel
  obtain ⟨queue, hq, howner⟩ := (Option.any_eq_true _ _).mp hqueue
  obtain ⟨config, hmem, _, _, hid⟩ := h demoSetup _ _ _ [renamed] _
    (run_play demoSetup [(.poolSync, storeWorld [demo])])
    (poolSync_course (w := storeWorld [renamed]) rfl) demo.poolKey queue hq
  obtain rfl := List.mem_singleton.mp hmem
  rw [of_decide_eq_true howner] at hid
  exact absurd hid (by decide)

end MergeQueue
