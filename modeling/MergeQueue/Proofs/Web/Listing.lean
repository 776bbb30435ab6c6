import MergeQueue.Proofs.Json.DataModel
import MergeQueue.Proofs.Web.Entry
import MergeQueue.Proofs.Web.Paging

namespace MergeQueue.Web

open Dialogue Json

def asked (host : Request → Option Reply) (request : Nat → Request) (pages : Nat) : Trace :=
  (List.range' 1 pages).map fun page => ⟨request page, host (request page)⟩

namespace GitLab

def replied {α : Type} [FromJson α] : Request → Option Reply → Except Error α :=
  reading (.host ∘ .request) (.gitlab ∘ .request) (.host ∘ .request)

lemma fetch_eq_asking {α : Type} [FromJson α] (gitlab : GitLab) (path : String)
    (query : List (String × String)) :
    (gitlab.fetch path query : Attempt α) = asking
      (Draft.request? ⟨.get, gitlab.address path, query, [("private-token", gitlab.token)], none⟩)
      (.host (.request .unbuilt)) replied :=
  exchanging_eq_asking _ (.host ∘ .request) (.gitlab ∘ .request) (.host ∘ .request)

lemma reaches_request? {gitlab : GitLab} {path : String} {url : Url}
    (h : Reaches (gitlab.address path) gitlab.token url) (query : List (String × String)) :
    Draft.request? ⟨.get, gitlab.address path, query, [("private-token", gitlab.token)], none⟩ =
      some ⟨.get, (url.withQuery query).text, [("private-token", gitlab.token)], none⟩ := by
  apply h.request?
  intro header hheader
  rw [List.mem_singleton.mp hheader]
  exact h.token

def listing (gitlab : GitLab) (state : String) : Paging (List MergeRequest) MergeRequest where
  request? page := Draft.request? ⟨.get, gitlab.address "/merge_requests",
    [("state", state), ("per_page", Nat.repr pageSize), ("page", Nat.repr page)],
    [("private-token", gitlab.token)], none⟩
  unbuilt := .host (.request .unbuilt)
  read := replied
  entries listed := listed
  isLast _ listed := listed.length < pageSize
  endless := .host (.request .undecoded)

def pageRequest (gitlab : GitLab) (url : Url) (openOnly : Bool) (page : Nat) : Request :=
  let state := if openOnly then "opened" else "all"
  ⟨.get, (url.withQuery [("state", state), ("per_page", "100"), ("page", Nat.repr page)]).text,
    [("private-token", gitlab.token)], none⟩

lemma listing_request? {gitlab : GitLab} {url : Url}
    (h : Reaches (gitlab.address "/merge_requests") gitlab.token url) (openOnly : Bool)
    (page : Nat) : (gitlab.listing (if openOnly then "opened" else "all")).request? page =
      some (gitlab.pageRequest url openOnly page) :=
  reaches_request? h _

lemma mergeRequestPages_eq_walk (gitlab : GitLab) (state : String) (limit page before : Nat) :
    gitlab.mergeRequestPages state limit page =
      (gitlab.listing state).walk limit page before := by
  induction limit generalizing page before with
  | zero => rfl
  | succ limit ih =>
    rw [mergeRequestPages, Paging.walk, fetch_eq_asking]
    refine congrArg (asking _ _ _ >>= ·) (funext fun listed => ?_)
    rw [ih (page + 1) (before + listed.length)]
    simp [listing]

lemma listPullRequests_eq_walk (gitlab : GitLab) (openOnly : Bool) :
    (gitlab.listPullRequests openOnly).run = Except.map (·.map (·.toPullRequest)) <$>
      ((gitlab.listing (if openOnly then "opened" else "all")).walk pageLimit 1 0).run := by
  rw [listPullRequests, mergeRequestPages_eq_walk _ _ _ _ 0, bind_pure_comp, ExceptT.run_map]

lemma serves_cut {gitlab : GitLab} {state : String}
    {tell : Nat → Except Error (List MergeRequest)} {n page before : Nat}
    {mrs : List MergeRequest} (hn : mrs.length / 100 = n)
    (htell : ∀ i ≤ n, tell (page + i) = .ok ((mrs.drop (100 * i)).take 100)) :
    ∃ pages, (gitlab.listing state).Serves tell page before pages ∧ pages.length = n + 1 ∧
      pages.flatten = mrs := by
  induction n generalizing mrs page before with
  | zero =>
    have hshort : mrs.length < 100 := by omega
    have hfirst := htell 0 (Nat.le_refl 0)
    rw [Nat.mul_zero, List.drop_zero, List.take_of_length_le (Nat.le_of_lt hshort)] at hfirst
    exact ⟨[mrs], .last hfirst (decide_eq_true hshort), rfl, List.flatten_singleton⟩
  | succ n ih =>
    have hfull : (mrs.take 100).length = 100 := by
      rw [List.length_take]
      omega
    have hrest : (mrs.drop 100).length / 100 = n := by
      rw [List.length_drop]
      omega
    obtain ⟨pages, hserves, hlength, hflatten⟩ :=
      @ih (page + 1) (before + (mrs.take 100).length) (mrs.drop 100) hrest fun i hi => by
        rw [List.drop_drop, Nat.add_assoc, Nat.add_comm 1 i, htell (i + 1) (by omega)]
        congr 3
        omega
    have hmore : decide ((mrs.take 100).length < pageSize) = false := by
      rw [hfull]
      rfl
    refine ⟨mrs.take 100 :: pages, .more (htell 0 (Nat.zero_le _)) hmore hserves, ?_, ?_⟩
    · rw [List.length_cons, hlength]
    · rw [List.flatten_cons, hflatten, List.take_append_drop]

/-- The host has these merge requests, and gives them out in pages that are full up to the last. -/
def Cut (gitlab : GitLab) (openOnly : Bool) (url : Url) (host : Request → Option Reply)
    (mrs : List MergeRequest) : Prop :=
  ∀ i ≤ mrs.length / 100,
    Gives (host (gitlab.pageRequest url openOnly (i + 1))) ((mrs.drop (100 * i)).take 100)

lemma Cut.record {gitlab : GitLab} {openOnly : Bool} {url : Url}
    {host : Request → Option Reply} {mrs : List MergeRequest}
    (h : gitlab.Cut openOnly url host mrs)
    (hreach : Reaches (gitlab.address "/merge_requests") gitlab.token url)
    (hfew : mrs.length / 100 + 1 < 2147483648) :
    (gitlab.listPullRequests openOnly).run.record host =
      (asked host (gitlab.pageRequest url openOnly) (mrs.length / 100 + 1),
        .ok (mrs.map (·.toPullRequest))) := by
  let paging := gitlab.listing (if openOnly then "opened" else "all")
  let tell (page : Nat) := paging.read (gitlab.pageRequest url openOnly page)
    (host (gitlab.pageRequest url openOnly page))
  have htell : ∀ i ≤ mrs.length / 100, tell (1 + i) = .ok ((mrs.drop (100 * i)).take 100) := by
    intro i hi
    rw [Nat.add_comm]
    exact reading_eq_ok_iff.mpr (h i hi)
  obtain ⟨pages, hserves, hlength, hflatten⟩ := @serves_cut gitlab _ tell _ 1 0 mrs rfl htell
  have hlimit : pages.length ≤ pageLimit := by
    rw [hlength]
    exact Nat.le_of_lt_succ hfew
  have hentries : pages.flatMap paging.entries = mrs := List.flatMap_id'.trans hflatten
  rw [listPullRequests_eq_walk, record_map,
    Paging.record_walk (listing_request? hreach openOnly) hserves hlimit, hentries, hlength]
  rfl

lemma listPullRequests_allOrNothing (gitlab : GitLab) (openOnly : Bool) :
    AllOrNothing (List MergeRequest) (gitlab.listPullRequests openOnly) fun pages prs =>
      List.Forall₂ MergeRequest.Stands pages.flatten prs := by
  refine Paging.allOrNothing (fun _ _ _ => reading_eq_ok_iff) (fun pages => ?_)
    (listPullRequests_eq_walk gitlab openOnly)
  have hentries : pages.flatMap (gitlab.listing (if openOnly then "opened" else "all")).entries =
      pages.flatten := List.flatMap_id'
  rw [hentries]
  exact forall₂_map MergeRequest.stands_toPullRequest _

end GitLab

namespace GitHub

def statusAddress (github : GitHub) (reference : String) : String :=
  github.apiUrl ++ github.path ++ ("/commits/" ++ reference ++ "/status")

def listing (github : GitHub) (reference : String) : Paging StatusPage Report where
  request? page := Draft.request? ⟨.get, github.statusAddress reference,
    [("per_page", "100"), ("page", Nat.repr page)],
    [("authorization", "Bearer " ++ github.token), ("accept", "application/vnd.github+json"),
      ("x-github-api-version", "2022-11-28")], none⟩
  unbuilt := .github (.attempt "Failed to fetch commit statuses" .unbuilt)
  read := reading (.github ∘ .attempt "Failed to fetch commit statuses")
    (.github ∘ .attempt "Failed to fetch commit statuses")
    (.github ∘ .attempt "Failed to parse commit statuses")
  entries found := found.statuses
  isLast before found := found.statuses.isEmpty ||
    decide (before + found.statuses.length ≥ found.totalCount.toNat)
  endless := .github (.attempt "Failed to fetch commit statuses" .unbuilt)

lemma statusPage_eq_fetch (github : GitHub) (reference : String) (page : Nat) :
    github.statusPage reference page = (github.listing reference).fetch page :=
  exchanging_eq_asking _ (.github ∘ .attempt "Failed to fetch commit statuses")
    (.github ∘ .attempt "Failed to fetch commit statuses")
    (.github ∘ .attempt "Failed to parse commit statuses")

lemma statusPages_eq_walk (github : GitHub) (reference : String) (limit page before : Nat) :
    github.statusPages reference limit page before =
      (github.listing reference).walk limit page before := by
  induction limit generalizing page before with
  | zero => rfl
  | succ limit ih =>
    rw [statusPages, Paging.walk, statusPage_eq_fetch]
    refine congrArg (Paging.fetch _ _ >>= ·) (funext fun found => ?_)
    dsimp only
    rw [ih]
    rfl

def pageRequest (github : GitHub) (url : Url) (page : Nat) : Request :=
  ⟨.get, (url.withQuery [("per_page", "100"), ("page", Nat.repr page)]).text,
    [("authorization", "Bearer " ++ github.token), ("accept", "application/vnd.github+json"),
      ("x-github-api-version", "2022-11-28")], none⟩

lemma listing_request? {github : GitHub} {reference : String} {url : Url}
    (h : Reaches (github.statusAddress reference) github.token url) (page : Nat) :
    (github.listing reference).request? page = some (github.pageRequest url page) := by
  apply h.request?
  have hbearer : isHeaderText ("Bearer " ++ github.token) = true := by
    have hlead : isHeaderText "Bearer " = true := by decide
    rw [isHeaderText, String.toList_append, List.all_append, Bool.and_eq_true]
    exact ⟨hlead, h.token⟩
  simp only [List.forall_mem_cons, hbearer, true_and]
  exact ⟨by decide, by decide, by simp⟩

lemma listCommitStatuses_eq_walk (github : GitHub) (reference : String) :
    (github.listCommitStatuses reference).run =
      Except.map (fun reports => CommitStatus.latest (reports.map (·.toCommitStatus))) <$>
        ((github.listing reference).walk statusPageLimit 1 0).run := by
  rw [listCommitStatuses, statusPages_eq_walk, bind_pure_comp, ExceptT.run_map]

lemma serves_division {github : GitHub} {reference : String}
    {tell : Nat → Except Error StatusPage} {total : UInt64} {page before : Nat}
    {pages : List (List Report)} (hne : pages ≠ []) (hfilled : ∀ reports ∈ pages, reports ≠ [])
    (htotal : total.toNat = before + pages.flatten.length)
    (htell : ∀ i reports, pages[i]? = some reports → tell (page + i) = .ok ⟨total, reports⟩) :
    (github.listing reference).Serves tell page before (pages.map (StatusPage.mk total)) := by
  induction pages generalizing page before with
  | nil => exact absurd rfl hne
  | cons reports rest ih =>
    obtain ⟨hreports, hrest⟩ := List.forall_mem_cons.mp hfilled
    rw [List.flatten_cons, List.length_append] at htotal
    have hfirst := htell 0 reports rfl
    cases rest with
    | nil =>
      refine .last hfirst ?_
      rw [List.flatten_nil, List.length_nil, Nat.add_zero] at htotal
      simp [listing, htotal]
    | cons next rest =>
      have hleft : 0 < (next :: rest).flatten.length := by
        have hnext := List.length_pos_iff.mpr (hrest next List.mem_cons_self)
        rw [List.flatten_cons, List.length_append]
        omega
      have hmore : ¬before + reports.length ≥ total.toNat := by omega
      refine .more hfirst ?_ ?_
      · change (reports.isEmpty || decide (before + reports.length ≥ total.toNat)) = false
        rw [List.isEmpty_eq_false_iff.mpr hreports, decide_eq_false hmore]
        rfl
      · apply ih (List.cons_ne_nil _ _) hrest
        · rw [htotal]
          exact (Nat.add_assoc ..).symm
        · intro i reports' hi
          rw [Nat.add_assoc, Nat.add_comm 1 i]
          exact htell (i + 1) reports' hi

structure Divided (github : GitHub) (url : Url) (host : Request → Option Reply) (total : UInt64)
    (pages : List (List Report)) : Prop where
  filled : ∀ reports ∈ pages, reports ≠ []
  counted : total.toNat = pages.flatten.length
  given : ∀ i reports, pages[i]? = some reports →
    Gives (host (github.pageRequest url (i + 1))) (StatusPage.mk total reports)
  empty : pages = [] → Gives (host (github.pageRequest url 1)) (StatusPage.mk total [])

lemma Divided.record {github : GitHub} {reference : String} {url : Url}
    {host : Request → Option Reply} {total : UInt64} {pages : List (List Report)}
    (h : github.Divided url host total pages)
    (hreach : Reaches (github.statusAddress reference) github.token url)
    (hfew : pages.length < 4294967296) :
    (github.listCommitStatuses reference).run.record host =
      (asked host (github.pageRequest url) (max 1 pages.length),
        .ok (CommitStatus.latest (pages.flatten.map (·.toCommitStatus)))) := by
  let paging := github.listing reference
  let tell (page : Nat) := paging.read (github.pageRequest url page)
    (host (github.pageRequest url page))
  have hlist {found : List StatusPage} (hserves : paging.Serves tell 1 0 found)
      (hlimit : found.length ≤ statusPageLimit) :
      (github.listCommitStatuses reference).run.record host =
        (asked host (github.pageRequest url) found.length,
          .ok (CommitStatus.latest ((found.flatMap (·.statuses)).map (·.toCommitStatus)))) := by
    rw [listCommitStatuses_eq_walk, record_map,
      Paging.record_walk (listing_request? hreach) hserves hlimit]
    rfl
  by_cases hnil : pages = []
  · have hempty : paging.Serves tell 1 0 [⟨total, []⟩] := by
      apply Paging.Serves.last (reading_eq_ok_iff.mpr (h.empty hnil))
      rfl
    have hone : [StatusPage.mk total []].length ≤ statusPageLimit := by
      rw [List.length_singleton]
      decide
    rw [hlist hempty hone, hnil]
    rfl
  · have hserves : paging.Serves tell 1 0 (pages.map (StatusPage.mk total)) := by
      apply serves_division hnil h.filled (h.counted.trans (Nat.zero_add _).symm)
      intro i reports hi
      rw [Nat.add_comm]
      exact reading_eq_ok_iff.mpr (h.given i reports hi)
    have hmax : max 1 pages.length = pages.length :=
      Nat.max_eq_right (List.length_pos_iff.mpr hnil)
    have hlimit : (pages.map (StatusPage.mk total)).length ≤ statusPageLimit := by
      rw [List.length_map]
      exact Nat.le_of_lt_succ hfew
    have hstatuses : (pages.map (StatusPage.mk total)).flatMap (·.statuses) = pages.flatten := by
      rw [List.flatMap_map]
      exact List.flatMap_id'
    rw [hlist hserves hlimit, hstatuses, List.length_map, hmax]

lemma listCommitStatuses_allOrNothing (github : GitHub) (reference : String) :
    AllOrNothing StatusPage (github.listCommitStatuses reference) fun pages found =>
      ∃ statuses, List.Forall₂ Report.Stands (pages.flatMap (·.statuses)) statuses ∧
        found = CommitStatus.latest statuses :=
  Paging.allOrNothing (fun _ _ _ => reading_eq_ok_iff)
    (fun _ => ⟨_, forall₂_map Report.stands_toCommitStatus _, rfl⟩)
    (listCommitStatuses_eq_walk github reference)

end GitHub

def demoGitLab : GitLab := ⟨"t", "g/p", "https://gitlab.com"⟩

def requestsUrl : Url :=
  ⟨"https", ⟨[], "gitlab.com".toList, none⟩, "/api/v4/projects/g%2Fp/merge_requests".toList, none,
    none⟩

def requestJson (iid : UInt64) : Json :=
  .object [("iid", toJson iid), ("title", .string "t"), ("state", .string "opened"),
    ("author", .object [("id", .integer 1), ("username", .string "alice")]),
    ("web_url", .string "u"), ("source_branch", .string "f"), ("target_branch", .string "main")]

def numbered (iid : UInt64) : GitLab.MergeRequest :=
  ⟨iid, "t", "opened", ⟨1, "alice"⟩, "u", "f", "main", none, none, [], ""⟩

lemma decode_requestJson (iid : UInt64) : fromJson? (requestJson iid) = some (numbered iid) := by
  have hiid : fromJson? (toJson iid) = some iid := LawfulJson.decodes iid _ (.same _)
  change record _ (.object _) = _
  rw [record_object]
  simp only [ofObject?_required, ofObject?_optional]
  simp [fieldOr?, Fields.named?, hiid]
  rfl

def hundred : List UInt64 := (List.range 100).map UInt64.ofNat

def fullHost (q : Request) : Option Reply :=
  let found := if q.url = (demoGitLab.pageRequest requestsUrl true 1).url then hundred else []
  served (.array (found.map requestJson))

def demoGitHub : GitHub := ⟨"t", "octo", "demo", "https://api.github.com"⟩

def statusesUrl : Url :=
  ⟨"https", ⟨[], "api.github.com".toList, none⟩, "/repos/octo/demo/commits/aaa/status".toList, none,
    none⟩

def reportJson (context state : String) : Json :=
  .object [("state", .string state), ("context", .string context)]

def dividedHost (q : Request) : Option Reply :=
  let first := [reportJson "test" "success", reportJson "lint" "pending"]
  let found := if q.url = (demoGitHub.pageRequest statusesUrl 1).url then first
    else [reportJson "lint" "failure"]
  served (.object [("total_count", .integer 3), ("statuses", .array found)])

lemma reaches_fullHost :
    Reaches (demoGitLab.address "/merge_requests") demoGitLab.token requestsUrl :=
  ⟨by decide +kernel, rfl, by decide⟩

lemma length_hundred : (hundred.map numbered).length = 100 := by
  decide +kernel

lemma cut_fullHost : demoGitLab.Cut true requestsUrl fullHost (hundred.map numbered) := by
  intro i hi
  rw [length_hundred] at hi
  refine gives_served ((decode_map decode_requestJson _).trans (congrArg some ?_))
  obtain rfl | rfl : i = 0 ∨ i = 1 := by omega
  · rw [if_pos rfl]
    exact (List.take_of_length_le (Nat.le_of_eq length_hundred)).symm
  · rw [if_neg (by decide), Nat.mul_one, List.drop_of_length_le (Nat.le_of_eq length_hundred)]
    rfl

lemma reaches_dividedHost :
    Reaches (demoGitHub.statusAddress "aaa") demoGitHub.token statusesUrl :=
  ⟨by decide +kernel, rfl, by decide⟩

lemma divided_dividedHost : demoGitHub.Divided statusesUrl dividedHost 3
    [[⟨.success, "test", none, none⟩, ⟨.pending, "lint", none, none⟩],
      [⟨.failure, "lint", none, none⟩]] := by
  refine ⟨by simp, rfl, fun i reports hi => gives_served ?_, by simp⟩
  match i, hi with
  | 0, hi =>
    cases hi
    rw [if_pos rfl]
    rfl
  | 1, hi =>
    cases hi
    rw [if_neg (by decide)]
    rfl

lemma unreplied_statuses : ∃ result, (demoGitHub.listCommitStatuses "aaa").run.Course
    [⟨demoGitHub.pageRequest statusesUrl 1, none⟩] result := by
  rw [GitHub.listCommitStatuses_eq_walk]
  have hasked := GitHub.listing_request? reaches_dividedHost 1
  have hread : ∃ e, (demoGitHub.listing "aaa").read (demoGitHub.pageRequest statusesUrl 1) none =
      .error e := ⟨_, rfl⟩
  obtain ⟨e, hread⟩ := hread
  have hlimit : 0 < GitHub.statusPageLimit := by decide
  have hwalk := Paging.walk_failed hasked hread hlimit 0
  exact ⟨_, hwalk.map _⟩

end MergeQueue.Web
