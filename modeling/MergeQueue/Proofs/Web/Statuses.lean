import MergeQueue.Proofs.Status.Latest
import MergeQueue.Proofs.Web.Listing

namespace MergeQueue

namespace Web

open Dialogue Json

namespace GitLab

def statusAddress (gitlab : GitLab) (reference : String) : String :=
  gitlab.address ("/repository/commits/" ++ reference ++ "/statuses")

def statusRequest (gitlab : GitLab) (url : Url) (page : Option Nat) : Request :=
  let numbered := (page.map fun n => ("page", Nat.repr n)).toList
  ⟨.get, (url.withQuery (("per_page", "100") :: numbered)).text,
    [("private-token", gitlab.token)], none⟩

def statusListing (gitlab : GitLab) (reference : String) :
    Paging (List PipelineStatus) PipelineStatus where
  request? _ := Draft.request? ⟨.get, gitlab.statusAddress reference,
    [("per_page", Nat.repr pageSize)], [("private-token", gitlab.token)], none⟩
  unbuilt := .host (.request .unbuilt)
  read := replied
  entries found := found
  isLast _ _ := true
  endless := .host (.request .undecoded)

lemma listCommitStatuses_eq_walk (gitlab : GitLab) (reference : String) :
    (gitlab.listCommitStatuses reference).run =
      Except.map (fun statuses => CommitStatus.latest (statuses.map (·.toCommitStatus))) <$>
        ((gitlab.statusListing reference).walk 1 1 0).run := by
  have hwalk : (gitlab.statusListing reference).walk 1 1 0 =
      (gitlab.statusListing reference).fetch 1 := by
    rw [Paging.walk]
    exact bind_pure _
  rw [hwalk, listCommitStatuses, fetch_eq_asking, bind_pure_comp, ExceptT.run_map]
  rfl

lemma statusListing_request? {gitlab : GitLab} {reference : String} {url : Url}
    (h : Reaches (gitlab.statusAddress reference) gitlab.token url) (page : Nat) :
    (gitlab.statusListing reference).request? page = some (gitlab.statusRequest url none) :=
  reaches_request? h _

lemma listCommitStatuses_allOrNothing (gitlab : GitLab) (reference : String) :
    AllOrNothing (List PipelineStatus) (gitlab.listCommitStatuses reference) fun pages found =>
      ∃ statuses, List.Forall₂ PipelineStatus.Stands pages.flatten statuses ∧
        found = CommitStatus.latest statuses := by
  refine Paging.allOrNothing (fun _ _ _ => reading_eq_ok_iff) (fun pages => ?_)
    (listCommitStatuses_eq_walk gitlab reference)
  have hentries : pages.flatMap (gitlab.statusListing reference).entries = pages.flatten :=
    List.flatMap_id'
  rw [hentries]
  exact ⟨_, forall₂_map PipelineStatus.stands_toCommitStatus _, rfl⟩

lemma listCommitStatuses_asks_once (gitlab : GitLab) (reference : String) (log : Trace)
    (result : Except Error (List CommitStatus)) :
    (gitlab.listCommitStatuses reference).run.Course log result → log.length ≤ 1 := by
  rw [listCommitStatuses_eq_walk]
  intro h
  obtain ⟨_, hwalk, _⟩ := Paging.walk_map_course h
  exact hwalk.asks_once fun _ _ => rfl

/-- The host has these statuses, and gives out any page of them, the first one by default. -/
structure Holds (gitlab : GitLab) (url : Url) (host : Request → Option Reply)
    (statuses : List PipelineStatus) : Prop where
  first : Gives (host (gitlab.statusRequest url none)) (statuses.take 100)
  page : ∀ i ≤ statuses.length / 100,
    Gives (host (gitlab.statusRequest url (some (i + 1)))) ((statuses.drop (100 * i)).take 100)

lemma Holds.record {gitlab : GitLab} {reference : String} {url : Url}
    {host : Request → Option Reply} {statuses : List PipelineStatus}
    (h : gitlab.Holds url host statuses)
    (hreach : Reaches (gitlab.statusAddress reference) gitlab.token url) :
    (gitlab.listCommitStatuses reference).run.record host =
      ([⟨gitlab.statusRequest url none, host (gitlab.statusRequest url none)⟩],
        .ok (CommitStatus.latest ((statuses.take 100).map (·.toCommitStatus)))) := by
  have hserves : (gitlab.statusListing reference).Serves
      (fun _ => (gitlab.statusListing reference).read (gitlab.statusRequest url none)
        (host (gitlab.statusRequest url none))) 1 0 [statuses.take 100] :=
    .last (reading_eq_ok_iff.mpr h.first) rfl
  rw [listCommitStatuses_eq_walk, record_map,
    Paging.record_walk (statusListing_request? hreach) hserves (Nat.le_refl 1)]
  simp [statusListing, Except.map]

end GitLab

/-- Of the statuses of a commit those on the first page are told, one for each context and the newest
of all; nothing is missed just where all contexts are on that page. -/
theorem first_page_statuses (gitlab : GitLab) (reference : String) :
    (∀ (url : Url) (host : Request → Option Reply) (statuses : List GitLab.PipelineStatus),
      Reaches (gitlab.statusAddress reference) gitlab.token url → gitlab.Holds url host statuses →
      let all := statuses.map (·.toCommitStatus)
      let contexts := (statuses.take 100).map (·.toCommitStatus.context)
      let request := gitlab.statusRequest url none
      ∃ found, (gitlab.listCommitStatuses reference).run.record host =
          ([⟨request, host request⟩], .ok found) ∧
        List.Forall₂ GitLab.PipelineStatus.Stands statuses all ∧
        (found.map (·.context)).Nodup ∧
        (∀ s, s ∈ found ↔ s.NewestIn all ∧ s.context ∈ contexts) ∧
        ((∀ s : CommitStatus, s.NewestIn all → s ∈ found) ↔ ∀ s ∈ all, s.context ∈ contexts)) ∧
    (∀ log result, (gitlab.listCommitStatuses reference).run.Course log result →
      log.length ≤ 1) ∧
    AllOrNothing (List GitLab.PipelineStatus) (gitlab.listCommitStatuses reference)
      fun pages found => ∃ statuses,
        List.Forall₂ GitLab.PipelineStatus.Stands pages.flatten statuses ∧
        found = CommitStatus.latest statuses := by
  refine ⟨fun url host statuses hreach h => ?_, GitLab.listCommitStatuses_asks_once gitlab reference,
    GitLab.listCommitStatuses_allOrNothing gitlab reference⟩
  intro all contexts request
  have hall : all = (statuses.take 100).map (·.toCommitStatus) ++
      (statuses.drop 100).map (·.toCommitStatus) := by
    rw [← List.map_append, List.take_append_drop]
  have hfound : ∀ s, s ∈ CommitStatus.latest ((statuses.take 100).map (·.toCommitStatus)) ↔
      s.NewestIn all ∧ s.context ∈ contexts := by
    intro s
    rw [CommitStatus.mem_latest, CommitStatus.newestIn_front, ← hall, List.map_map]
    rfl
  refine ⟨_, h.record hreach, forall₂_map GitLab.PipelineStatus.stands_toCommitStatus _,
    CommitStatus.nodup_latest _, hfound, ?_, ?_⟩
  · intro hcomplete s hs
    obtain ⟨newest, hsame, hnewest⟩ := CommitStatus.exists_newest (List.mem_map_of_mem hs)
    rw [← hsame]
    exact ((hfound newest).mp (hcomplete newest hnewest)).2
  · intro hcontexts s hs
    exact (hfound s).mpr ⟨hs, hcontexts s hs.mem⟩

def statusesOfProject : Url :=
  ⟨"https", ⟨[], "gitlab.com".toList, none⟩,
    "/api/v4/projects/g%2Fp/repository/commits/aaa/statuses".toList, none, none⟩

def pipelineStatus (name : String × String) : GitLab.PipelineStatus := ⟨name.1, name.2, none, none⟩

def statusJson (name : String × String) : Json :=
  .object [("name", .string name.1), ("status", .string name.2)]

def rerun : List (String × String) := List.replicate 100 ("test", "success") ++ [("lint", "failed")]

def rerunHost (q : Request) : Option Reply :=
  let second := q.url = (demoGitLab.statusRequest statusesOfProject (some 2)).url
  served (.array ((if second then rerun.drop 100 else rerun.take 100).map statusJson))

lemma reaches_rerunHost :
    Reaches (demoGitLab.statusAddress "aaa") demoGitLab.token statusesOfProject :=
  ⟨by decide +kernel, rfl, by decide⟩

lemma holds_rerunHost :
    demoGitLab.Holds statusesOfProject rerunHost (rerun.map pipelineStatus) := by
  have hlength : (rerun.map pipelineStatus).length = 101 := by decide +kernel
  have hdecode (names : List (String × String)) :
      fromJson? (Json.array (names.map statusJson)) = some (names.map pipelineStatus) :=
    decode_map (fun _ => rfl) names
  constructor
  · refine gives_served ((hdecode _).trans (congrArg some ?_))
    rw [if_neg (by decide), List.map_take]
  · intro i hi
    refine gives_served ((hdecode _).trans (congrArg some ?_))
    rw [hlength] at hi
    obtain rfl | rfl : i = 0 ∨ i = 1 := by omega
    · rw [if_neg (by decide), List.map_take]
      rfl
    · rw [if_pos rfl, List.map_drop, Nat.mul_one]
      exact (List.take_of_length_le (by rw [List.length_drop, hlength]; decide)).symm

theorem first_page_statuses_demo :
    ∃ found, ((demoGitLab.listCommitStatuses "aaa").run.record rerunHost).2 = .ok found ∧
      ⟨"test", .success, "", ""⟩ ∈ found ∧ CommitStatus.mk "lint" .failure "" "" ∉ found := by
  obtain ⟨found, hrecord, _, _, hfound, _⟩ := (first_page_statuses demoGitLab "aaa").1 statusesOfProject
    rerunHost _ reaches_rerunHost holds_rerunHost
  refine ⟨found, congrArg Prod.snd hrecord, ?_, ?_⟩
  · refine (hfound _).mpr ⟨?_, ?_⟩
    · unfold CommitStatus.NewestIn
      decide +kernel
    · decide +kernel
  · intro hlint
    have hcontext := ((hfound _).mp hlint).2
    revert hcontext
    decide +kernel

theorem later_statuses_missed :
    ¬ ∀ (gitlab : GitLab) (reference : String) (url : Url) (host : Request → Option Reply)
      (statuses : List GitLab.PipelineStatus),
      Reaches (gitlab.statusAddress reference) gitlab.token url → gitlab.Holds url host statuses →
      ∃ found, ((gitlab.listCommitStatuses reference).run.record host).2 = .ok found ∧
        ∀ s : CommitStatus, s.NewestIn (statuses.map (·.toCommitStatus)) → s ∈ found := by
  intro h
  obtain ⟨found, hfound, hcomplete⟩ := h _ _ _ _ _ reaches_rerunHost holds_rerunHost
  rw [holds_rerunHost.record reaches_rerunHost] at hfound
  obtain rfl := Except.ok.inj hfound
  have hlint : CommitStatus.mk "lint" .failure "" "" ∈
      CommitStatus.latest (((rerun.map pipelineStatus).take 100).map (·.toCommitStatus)) := by
    apply hcomplete
    unfold CommitStatus.NewestIn
    decide +kernel
  revert hlint
  decide +kernel

end Web

end MergeQueue
