import Mathlib.Data.List.Forall2
import MergeQueue.Proofs.Json.DataModel
import MergeQueue.Proofs.Scan
import MergeQueue.Proofs.Status.Glimpse
import MergeQueue.Proofs.Web.Percent
import MergeQueue.StatusPage

namespace MergeQueue

open Engine Dialogue Json

instance : Shallow PoolSummary where
  depth := 1
  within s := .object (by simp [toJson, Within.string, Within.integer, Within.bool])

instance : Shallow PoolDetail where
  depth := 2
  within d := by
    have hids (ids : List UInt64) : Within 1 (toJson ids) := Shallow.within ids
    refine .object ?_
    simp only [List.forall_mem_cons, hids, true_and]
    exact ⟨.bool, List.forall_mem_nil _⟩

structure PoolSummary.Written (summary : PoolSummary) (row : Json) : Prop where
  key : row.field? "key" = some (.string summary.key)
  count : row.field? "pull_request_length" = some (.integer summary.pullRequestCount)
  retesting : row.field? "retesting" = some (.bool summary.retesting)

lemma PoolSummary.written_toJson (summary : PoolSummary) : summary.Written (toJson summary) :=
  ⟨rfl, rfl, rfl⟩

def Json.numbers (ids : List UInt64) : Json := .array (ids.map fun id => .integer id.toNat)

structure PoolDetail.Written (detail : PoolDetail) (page : Json) : Prop where
  pullRequests : page.field? "pull_requests" = some (.numbers detail.pullRequests)
  success : page.field? "merge_pool_success" = some (.numbers detail.success)
  pending : page.field? "merge_pool_pending" = some (.numbers detail.pending)
  retesting : page.field? "retesting" = some (.bool detail.retesting)
  batch : page.field? "retesting_batch" = some (.numbers detail.batch)

lemma PoolDetail.written_toJson (detail : PoolDetail) : detail.Written (toJson detail) :=
  ⟨rfl, rfl, rfl, rfl, rfl⟩

structure PoolDetail.Faithful (detail : PoolDetail) (pool : Pool) : Prop where
  tracked : detail.pullRequests = pool.ids
  success : ∀ id, id ∈ detail.success ↔ pool.mergePool.search id = some .success
  pending : ∀ id, id ∈ detail.pending ↔ pool.mergePool.search id = some .pending
  batched : ∀ id, id ∈ detail.batch ↔ pool.inBatch id = true
  ascending : detail.pullRequests.Pairwise (· < ·)
  success_ascending : detail.success.Pairwise (· < ·)
  pending_ascending : detail.pending.Pairwise (· < ·)
  disjoint : detail.success.Disjoint detail.pending
  contained : detail.success ++ detail.pending ⊆ detail.pullRequests
  complete : ∀ id, id ∈ detail.success ++ detail.pending ↔ id ∈ pool.mergePool.ids
  retesting : detail.retesting = true ↔ detail.batch ≠ []

lemma Pool.Sound.mem_bucket_iff {pool : Pool} (h : pool.Sound) (id : UInt64) (bucket : Bucket) :
    id ∈ pool.mergePool.bucket bucket ↔ (pool.member id).bucket = some bucket :=
  MergePool.mem_bucket_iff h.disjoint id bucket

lemma Pool.Sound.mem_shown_iff {pool : Pool} (h : pool.Sound)
    (hactive : ∀ id b, (pool.member id).bucket = some b → b = .pending ∨ b = .success)
    (id : UInt64) :
    id ∈ pool.mergePool.bucket .success ++ pool.mergePool.bucket .pending ↔
      id ∈ pool.mergePool.ids := by
  rw [List.mem_append, h.mem_bucket_iff, h.mem_bucket_iff, MergePool.mem_ids_iff]
  constructor
  · rintro (hb | hb) <;> exact Option.isSome_of_eq_some hb
  · intro hsome
    obtain ⟨b, hb⟩ := Option.isSome_iff_exists.mp hsome
    rcases hactive id b hb with rfl | rfl
    · exact .inr hb
    · exact .inl hb

lemma Pool.detail_retesting_iff {pool : Pool}
    (h : ∀ batch, pool.batch = some batch → batch.pullRequests ≠ []) :
    pool.detail.retesting = true ↔ pool.detail.batch ≠ [] := by
  rw [detail]
  cases hb : pool.batch with
  | none => simp
  | some batch => simpa [Batch.ids] using h batch hb

variable {setup : Setup} {key : String} {turns : List Turn} {queue : Queue}

lemma Glimpse.faithful (h : Glimpse setup key turns queue) :
    queue.pool.detail.Faithful queue.pool where
  tracked := rfl
  success id := MergePool.mem_bucket_iff h.sound.disjoint id .success
  pending id := MergePool.mem_bucket_iff h.sound.disjoint id .pending
  batched id := by
    rw [Pool.detail, Pool.inBatch]
    cases queue.pool.batch with
    | none => simp
    | some batch => simp [Batch.contains]
  ascending := SortedMap.keys_ascending _
  success_ascending := MergePool.bucket_ascending _ _
  pending_ascending := MergePool.bucket_ascending _ _
  disjoint := by
    intro id hsuccess hpending
    rw [Pool.detail, h.sound.mem_bucket_iff] at hsuccess hpending
    cases hsuccess.symm.trans hpending
  contained := by
    intro id hid
    rw [Pool.detail] at hid
    have hbucket := (MergePool.mem_ids_iff _ _).mp
      ((h.sound.mem_shown_iff (fun id => (h.orderly id).active) id).mp hid)
    exact (Pool.mem_ids_iff _ _).mpr (h.sound.tracked id hbucket)
  complete := h.sound.mem_shown_iff fun id => (h.orderly id).active
  retesting := Pool.detail_retesting_iff h.batch_nonempty

lemma Glimpse.batch_ascending (h : Glimpse setup key turns queue)
    (honest : ∀ s ∈ heardIn key turns, s.Honest) :
    queue.pool.detail.batch.Pairwise (· < ·) := by
  rw [Pool.detail]
  cases hb : queue.pool.batch with
  | none => exact .nil
  | some batch => exact (h.batch_proper honest batch hb).ascending

namespace Table

lemma keys_summaries (table : Table) : table.summaries.map (·.key) = table.keys := by
  rw [summaries, List.map_map]
  rfl

lemma mem_summaries {table : Table} {summary : PoolSummary} (h : summary ∈ table.summaries) :
    ∃ queue, table.find? summary.key = some queue ∧
      summary.pullRequestCount = queue.pool.detail.pullRequests.length ∧
      summary.retesting = queue.pool.detail.retesting := by
  obtain ⟨⟨key, queue⟩, hentry, rfl⟩ := List.mem_map.mp h
  exact ⟨queue, (SortedMap.find?_eq_some_iff _ _ _).mpr hentry, rfl, rfl⟩

lemma find?_eq_none_of_unlisted {table : Table} {key : String}
    (h : ∀ summary ∈ table.summaries, summary.key ≠ key) : table.find? key = none := by
  apply Option.eq_none_iff_forall_ne_some.mpr
  intro queue hq
  have hentry := (SortedMap.find?_eq_some_iff _ _ _).mp hq
  exact h _ (List.mem_map.mpr ⟨_, hentry, rfl⟩) rfl

end Table

namespace StatusPage

lemma read_render {α : Type} [ToJson α] [Shallow α] (h : Shallow.depth α ≤ maxDepth) (a : α) :
    (reply 200 (toJson a).render).read = ⟨200, [], some (toJson a)⟩ := by
  rw [reply, Web.WrittenReply.read, parse?_render ((Shallow.within a).mono h)]

def IsQuery (text : String) : Prop := ∀ c, text.toList.head? = some c → c = '?'

lemma takeWhile_path {path query : String} (hpath : '?' ∉ path.toList)
    (hquery : IsQuery query) :
    (path ++ query).toList.takeWhile (· ≠ '?') = path.toList := by
  rw [String.toList_append]
  apply Scan.takeWhile_run
  · intro c hc
    exact decide_eq_true (ne_of_mem_of_not_mem hc hpath)
  · intro c hc
    simp [hquery c hc]

lemma page?_list {query : String} (hquery : IsQuery query) :
    page? ("/status" ++ query).toList = some .list := by
  rw [page?, takeWhile_path (by decide) hquery, String.ofList_toList]
  rfl

lemma page?_queue {path query : String} (hpath : '?' ∉ path.toList)
    (hquery : IsQuery query) :
    page? ("/status/" ++ path ++ query).toList =
      if path = "" then none else some (.queue path.toList) := by
  rw [page?, takeWhile_path (by simpa using hpath) hquery, String.ofList_toList]
  have hother (other : String) (h : other ∈ ["/status", "/cycle", "/healthz"]) :
      "/status/" ++ path ≠ other := by
    intro heq
    rw [← String.toList_inj, String.toList_append] at heq
    simp only [List.mem_cons, List.not_mem_nil, or_false] at h
    rcases h with rfl | rfl | rfl <;> cases heq
  split
  · next heq => exact absurd heq (hother _ (by simp))
  · next heq => exact absurd heq (hother _ (by simp))
  · next heq => exact absurd heq (hother _ (by simp))
  · rw [String.toList_append]
    cases hpath : path.toList with
    | nil =>
      rw [if_pos (String.toList_eq_nil_iff.mp hpath)]
      rfl
    | cons c rest =>
      have hne : path ≠ "" := by
        rintro rfl
        cases hpath
      rw [if_neg hne]
      rfl

lemma answer_list (view : View) {query : String}
    (hquery : IsQuery query) :
    answer view "GET" ("/status" ++ query) = reply 200 (toJson view.table.summaries).render := by
  rw [answer, page?_list hquery]
  rfl

section Queue

variable (view : View) {path query key : String} (hpath : '?' ∉ path.toList)
  (hquery : IsQuery query)
include hpath hquery

lemma answer_queue : answer view "GET" ("/status/" ++ path ++ query) =
    if path = "" then reply 404 "" else queueReply view.table path.toList := by
  rw [answer, page?_queue hpath hquery]
  by_cases hempty : path = ""
  · rw [if_pos hempty, if_pos hempty]
  · rw [if_neg hempty, if_neg hempty]
    rfl

variable (hdecode : Web.Percent.decode? path = some key)
include hdecode

lemma answer_found {queue : Queue} (hq : view.table.find? key = some queue) (hkey : key ≠ "") :
    answer view "GET" ("/status/" ++ path ++ query) =
      reply 200 (toJson queue.pool.detail).render := by
  have hne : path ≠ "" := by
    rintro rfl
    have hempty : Web.Percent.decode? "" = some "" := Web.Percent.decode?_encode ""
    exact hkey (Option.some.inj (hdecode.symm.trans hempty))
  rw [answer_queue view hpath hquery, if_neg hne, queueReply, String.ofList_toList, hdecode]
  simp [Table.detail?, Table.pool?, hq]

lemma answer_missing (hq : view.table.find? key = none) :
    (answer view "GET" ("/status/" ++ path ++ query)).status = 404 := by
  rw [answer_queue view hpath hquery]
  split
  · rfl
  · rw [queueReply, String.ofList_toList, hdecode]
    simp [Table.detail?, Table.pool?, hq, reply]

end Queue

/-- The list has each queue of the table once, in the order of their keys. Behind each of these keys
there is a page, and what it shows of the queue is faithful and the same as in the list; behind any
other there is none. -/
structure Faithful (view : View) (turns : String → List Turn) : Prop where
  list : ∀ query, IsQuery query → ∃ rows,
    (answer view "GET" ("/status" ++ query)).read = ⟨200, [], some (.array rows)⟩ ∧
    List.Forall₂ PoolSummary.Written view.table.summaries rows
  keys : view.table.summaries.map (·.key) = view.table.keys
  ascending : view.table.keys.Pairwise (· < ·)
  reachable : ∀ key, ∃ path, '?' ∉ path.toList ∧ Web.Percent.decode? path = some key
  found : ∀ path query key : String, '?' ∉ path.toList → IsQuery query →
    Web.Percent.decode? path = some key → ∀ summary ∈ view.table.summaries, summary.key = key →
      ∃ queue page, view.table.find? key = some queue ∧
        (answer view "GET" ("/status/" ++ path ++ query)).read = ⟨200, [], some page⟩ ∧
        queue.pool.detail.Written page ∧ queue.pool.detail.Faithful queue.pool ∧
        summary.pullRequestCount = queue.pool.detail.pullRequests.length ∧
        summary.retesting = queue.pool.detail.retesting ∧
        ((∀ s ∈ heardIn key (turns key), s.Honest) → queue.pool.detail.batch.Pairwise (· < ·))
  missing : ∀ path query key : String, '?' ∉ path.toList → IsQuery query →
    Web.Percent.decode? path = some key → (∀ summary ∈ view.table.summaries, summary.key ≠ key) →
      (answer view "GET" ("/status/" ++ path ++ query)).status = 404

theorem pages_faithful {view : View} {turns : String → List Turn}
    (hview : ∀ key queue, view.table.find? key = some queue →
      Glimpse setup key (turns key) queue) : Faithful view turns where
  list query hquery := by
    refine ⟨view.table.summaries.map toJson, ?_, ?_⟩
    · rw [answer_list view hquery]
      exact read_render (by decide) _
    · exact List.forall₂_map_right_iff.mpr
        (List.forall₂_same.mpr fun summary _ => summary.written_toJson)
  keys := Table.keys_summaries _
  ascending := SortedMap.keys_ascending _
  reachable key := ⟨Web.Percent.encode key,
    Web.Percent.not_mem_encode (by decide) (by decide) (by decide) key,
    Web.Percent.decode?_encode key⟩
  found path query key hpath hquery hdecode := by
    rintro summary hsummary rfl
    obtain ⟨queue, hq, hcount, hretesting⟩ := Table.mem_summaries hsummary
    have hglimpse := hview _ queue hq
    refine ⟨queue, toJson queue.pool.detail, hq, ?_, PoolDetail.written_toJson _,
      hglimpse.faithful, hcount, hretesting, hglimpse.batch_ascending⟩
    rw [answer_found view hpath hquery hdecode hq hglimpse.key_ne_empty]
    exact read_render (by decide) _
  missing path query key hpath hquery hdecode hnone :=
    answer_missing view hpath hquery hdecode (Table.find?_eq_none_of_unlisted hnone)

theorem pages_faithful_demo :
    let turns := play pairSetup twoPulls
    let m := ((Merging.startOn pairSetup turns.2.keys turns.2).record
      fun a : Addressed => completedWorld.reply a.question).2
    let view : View := ⟨m.table, ⟨1, some .merge⟩, none⟩
    view.table.summaries.map (·.key) = ["api.github.com/octo/demo"] ∧
    (answer view "GET" "/status/octo/demo").status = 404 ∧
    ∃ queue page, view.table.find? "api.github.com/octo/demo" = some queue ∧
      (answer view "GET" "/status/api.github.com/octo/demo").read = ⟨200, [], some page⟩ ∧
      page.field? "merge_pool_success" = some (.array [.integer 7]) ∧
      queue.pool.detail.Faithful queue.pool ∧ queue.pool.detail.batch = [7] ∧
      queue.pool.detail.batch.Pairwise (· < ·) ∧ queue.pool.detail.success = [7] ∧
      queue.pool.detail.pullRequests = [3, 7] := by
  intro turns m view
  have moment : Moment pairSetup turns.1 m.table :=
    .within (run_play pairSetup _) (.start (course_record _ _))
  have hview (key : String) (queue : Queue) (hq : view.table.find? key = some queue) :
      Glimpse pairSetup key turns.1 queue := .moment moment hq
  have hplain (key : String)
      (h : String.ofList (Web.Percent.encodeWith (· ≠ '%') key.toList) = key) :
      Web.Percent.decode? key = some key := by
    have hdecode : Web.Percent.decode?
        (String.ofList (Web.Percent.encodeWith (· ≠ '%') key.toList)) = some key :=
      Web.Percent.decode?_ofList_encodeWith (by decide) key
    rwa [h] at hdecode
  have hkeys : view.table.summaries.map (·.key) = ["api.github.com/octo/demo"] := by decide +kernel
  have hdetail : (view.table.find? "api.github.com/octo/demo").all (fun queue =>
      queue.pool.detail.batch = [7] ∧ queue.pool.detail.success = [7] ∧
        queue.pool.detail.pullRequests = [3, 7]) = true := by decide +kernel
  have hpages := pages_faithful hview
  refine ⟨hkeys, ?_, ?_⟩
  · refine hpages.missing "octo/demo" "" "octo/demo" (by decide) (by rintro _ ⟨⟩)
      (hplain _ (by decide +kernel)) fun summary hsummary hkey => ?_
    have hmem : summary.key ∈ view.table.summaries.map (·.key) := List.mem_map_of_mem hsummary
    rw [hkeys, hkey] at hmem
    exact absurd hmem (by decide)
  · obtain ⟨summary, hsummary, hkey⟩ : ∃ summary ∈ view.table.summaries,
        summary.key = "api.github.com/octo/demo" := by
      apply List.mem_map.mp
      rw [hkeys]
      exact List.mem_singleton.mpr rfl
    obtain ⟨queue, page, hq, hread, hwritten, hfaithful, -, -, hascending⟩ :=
      hpages.found "api.github.com/octo/demo" "" "api.github.com/octo/demo" (by decide)
        (by rintro _ ⟨⟩) (hplain _ (by decide +kernel)) summary hsummary hkey
    rw [hq] at hdetail
    obtain ⟨hbatch, hsuccess, htracked⟩ := of_decide_eq_true hdetail
    have hshown := hwritten.success
    rw [hsuccess] at hshown
    exact ⟨queue, page, hq, hread, hshown, hfaithful, hbatch, hascending (by decide +kernel),
      hsuccess, htracked⟩

end StatusPage

end MergeQueue
