import MergeQueue.Proofs.Run.Basic

/-! Surroundings that stay as they are throughout a pass. A run is played by naming its passes and
the surroundings of each. -/

namespace MergeQueue

open Dialogue

/-- What the configuration store, the host and the job system hold. The host gives out a pull
request as it is in `live`, and lists it as it is in `listed`. -/
structure World where
  configs : List RepoConfig
  listed : List PullRequest
  live : List (UInt64 × PullRequest)
  reports : List CommitStatus
  tip : String
  job : JobState

namespace World

def answer (w : World) : (call : HostCall) → Except Error call.Answer
  | .listPullRequests _ => .ok w.listed
  | .getPullRequest id =>
    match w.live.find? fun entry => entry.1 = id with
    | some entry => .ok entry.2
    | none => .error (.host (.other "not found"))
  | .getBranch name => .ok ⟨name, w.tip⟩
  | .listCommitStatuses _ => .ok w.reports
  | .setCommitStatus _ _ => .ok ()
  | .mergePullRequest _ _ _ _ => .ok ()
  | .mayWrite _ => .ok true
  | .comment _ _ _ => .ok ()
  | .addLabel _ _ _ => .ok ()
  | .removeLabel _ _ _ => .ok ()

def reply (w : World) : (q : Question) → q.Reply
  | .listConfigs => .ok w.configs
  | .getConfig name =>
    match w.configs.find? fun config => config.id = name with
    | some config => .ok config
    | none => .error (.configNotFound name)
  | .connect _ => .ok ()
  | .host _ call => w.answer call
  | .drawSuffix => "00000"
  | .createJob request => .ok ⟨request.ns, request.name⟩
  | .jobState _ => .ok w.job
  | .warn _ => ()

end World

def outage (e : Error) : (q : Question) → q.Reply
  | .listConfigs => .error e
  | .getConfig _ => .error e
  | .connect _ => .error e
  | .host _ _ => .error e
  | .drawSuffix => "00000"
  | .createJob _ => .error e
  | .jobState _ => .error e
  | .warn _ => ()

def Stage.play (setup : Setup) (stage : Stage) (w : World) (table : Table) : List Exchange × Table :=
  (stage.pass setup table).record fun a => w.reply a.question

def playFrom (setup : Setup) : List (Stage × World) → List Turn → Table → List Turn × Table
  | [], turns, table => (turns, table)
  | (stage, w) :: rest, turns, table =>
    let out := stage.play setup w table
    playFrom setup rest (turns ++ [⟨table, stage, out.1⟩]) out.2

def play (setup : Setup) (script : List (Stage × World)) : List Turn × Table :=
  playFrom setup script [] ∅

lemma play_course (setup : Setup) (stage : Stage) (w : World) (table : Table) :
    (stage.pass setup table).Course (stage.play setup w table).1 (stage.play setup w table).2 :=
  course_record _ _

lemma Run.playFrom {setup : Setup} {first table : Table} {turns : List Turn}
    (run : Run setup first turns table) (script : List (Stage × World)) :
    Run setup first (playFrom setup script turns table).1 (playFrom setup script turns table).2 := by
  induction script generalizing turns table with
  | nil => exact run
  | cons step rest ih => exact ih (run.next (play_course setup step.1 step.2 table))

lemma run_play (setup : Setup) (script : List (Stage × World)) :
    Run setup ∅ (play setup script).1 (play setup script).2 :=
  Run.start.playFrom script

lemma Table.exists_tracked (table : Table) (key : String) (id : UInt64) (p : Tracked → Prop)
    [DecidablePred p] (h : ((table.find? key).bind (·.pool.find? id)).any (fun t => p t) = true) :
    ∃ queue t, table.find? key = some queue ∧ queue.pool.find? id = some t ∧ p t := by
  obtain ⟨t, ht, hp⟩ := (Option.any_eq_true _ _).mp h
  obtain ⟨queue, hq, ht⟩ := Option.bind_eq_some_iff.mp ht
  exact ⟨queue, t, hq, ht, of_decide_eq_true hp⟩

def demo : RepoConfig :=
  ⟨"default", "demo", ⟨.github, none, "octo/demo", some ⟨some "t", none⟩⟩, some .default, .default⟩

def demoPull (id : UInt64) (sha : String) (labels : List String) : PullRequest :=
  ⟨id, "t", .opened, ⟨1, "alice", ""⟩, "u", ⟨"main", ""⟩, ⟨"feat", sha⟩, labels, true⟩

def demoSetup : Setup := ⟨.default, fun _ => none⟩

def pairSetup : Setup := ⟨{ Settings.default with maxBatchSize := 2 }, fun _ => none⟩

def demoWorld (pr : PullRequest) : World := ⟨[demo], [pr], [(pr.id, pr)], [], "base", .pending⟩

def demoJobs : RepoConfig := { demo with jobs := ⟨[⟨"test", none⟩]⟩ }

def jobsWorld (listed : List PullRequest) (live : List (UInt64 × PullRequest)) (job : JobState) :
    World :=
  ⟨[demoJobs], listed, live, [⟨"test", .success, "", ""⟩], "base", job⟩

def completedWorld : World := jobsWorld [] [] .completed

def batchedPulls (live : List (UInt64 × PullRequest)) : List (Stage × World) :=
  let w := jobsWorld [demoPull 3 "aaa" [], demoPull 7 "aaa" []] live .pending
  [(.poolSync, w), (.statusSync, w), (.merge, w)]

def twoPulls : List (Stage × World) :=
  batchedPulls [(3, demoPull 3 "aaa" []), (7, demoPull 7 "aaa" [])]

def failingTwice : List (Stage × World) :=
  [(.merge, jobsWorld [] [] .failed), (.merge, jobsWorld [] [] .pending),
    (.merge, jobsWorld [] [] .failed)]

end MergeQueue
