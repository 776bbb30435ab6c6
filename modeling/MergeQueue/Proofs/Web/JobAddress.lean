import MergeQueue.Proofs.Web.JobTalk
import MergeQueue.Proofs.Web.Path

namespace MergeQueue.Web.JobStore

open Dialogue Json

lemma create_eq_ok_iff {url : String} {store : JobStore} : create url = .ok store ↔
    (∃ base, Url.Reads url base) ∧ store = ⟨Text.trimTrailing '/' url⟩ := by
  rw [create]
  cases hparse : Url.parse url with
  | error fault => simp [Url.Reads, hparse]
  | ok base =>
    cases hhttp : base.isHttp with
    | false => simp [Url.Reads, hparse, hhttp]
    | true => simp [Url.Reads, hparse, hhttp, eq_comm (a := store)]

section Accepted

variable {url : String} {store : JobStore}

lemma headed_of_reads (h : create url = .ok store) {below : String}
    (hsolid : ∀ c ∈ below.toList, Url.isBlank c = false) {parsed : Url}
    (hparsed : Url.Reads (store.address ++ "/" ++ below) parsed) :
    ∃ scheme authority rest,
      Url.Headed (Url.opening store.address.toList) scheme authority rest := by
  obtain ⟨⟨base, hbase⟩, rfl⟩ := create_eq_ok_iff.mp h
  obtain ⟨scheme, authority, rest, hheaded, -⟩ := Url.reads_iff.mp hparsed
  obtain ⟨scheme', authority', rest', hheaded', -⟩ := Url.reads_iff.mp hbase
  have hbelow : (Text.trimTrailing '/' url ++ "/" ++ below).toList =
      (Text.trimTrailing '/' url).toList ++ '/' :: below.toList := by
    simp
  obtain ⟨n, hurl⟩ := Text.exists_eq_trimTrailing '/' url
  rw [hbelow, Url.tidy_append _ (List.cons_ne_nil _ _)
    (List.forall_mem_cons.mpr ⟨by decide, hsolid⟩)] at hheaded
  rw [hurl] at hheaded'
  exact ⟨scheme, authority, hheaded.of_append fun _ _ => hheaded'.place_of_slashes⟩

lemma create_of_headed {scheme : String} {authority : Authority} {rest : List Char}
    (h : Url.Headed (Url.opening store.address.toList) scheme authority rest)
    (hurl : Text.trimTrailing '/' url = store.address) : create url = .ok store := by
  obtain ⟨n, htext⟩ := Text.exists_eq_trimTrailing '/' url
  obtain ⟨rest', hheaded⟩ := h.with_slashes n
  rw [← hurl, ← htext] at hheaded
  refine create_eq_ok_iff.mpr ⟨⟨_, Url.reads_iff.mpr ⟨_, _, _, hheaded, rfl⟩⟩, ?_⟩
  rw [hurl]

end Accepted

section Names

def below (ns : String) : String := "namespaces/" ++ Percent.encode ns ++ "/jobs"

lemma collection_eq (store : JobStore) (ns : String) :
    store.collection ns = store.address ++ "/" ++ below ns := by
  rw [← String.toList_inj]
  simp [collection, below]

lemma jobAddress_eq (store : JobStore) (job : JobRef) : store.jobAddress job =
    store.address ++ "/" ++ (below job.ns ++ "/" ++ Percent.encode job.name) := by
  simp only [jobAddress, collection_eq, String.append_assoc]

lemma encode_solid (text : String) :
    ∀ c ∈ (Percent.encode text).toList, Url.isBlank c = false :=
  fun _ hc => Percent.law_of_encoded (Percent.isEncoded_of_mem hc) (by decide)

lemma below_solid (ns : String) : ∀ c ∈ (below ns).toList, Url.isBlank c = false := by
  simp only [below, String.toList_append, List.forall_mem_append]
  exact ⟨⟨Url.solid_of_all (by decide), encode_solid ns⟩, Url.solid_of_all (by decide)⟩

lemma below_job_solid (job : JobRef) :
    ∀ c ∈ (below job.ns ++ "/" ++ Percent.encode job.name).toList, Url.isBlank c = false := by
  rw [String.toList_append, String.toList_append, List.forall_mem_append, List.forall_mem_append]
  exact ⟨⟨below_solid job.ns, Url.solid_of_all (by decide)⟩, encode_solid job.name⟩

lemma eq_of_addresses {lead ns ns' name name' : String}
    (h : lead ++ Percent.encode ns ++ "/jobs" ++ "/" ++ Percent.encode name =
      lead ++ Percent.encode ns' ++ "/jobs" ++ "/" ++ Percent.encode name') :
    ns = ns' ∧ name = name' := by
  have hsplit (front name : String) :
      Text.splitLast '/' (front ++ "/" ++ Percent.encode name).toList =
        some (front.toList, (Percent.encode name).toList) := by
    rw [String.toList_append, String.toList_append, List.append_assoc]
    exact Text.splitLast_append _ (Percent.not_mem_encode (by decide) (by decide) (by decide) name)
  have hparts := congrArg (fun text : String => Text.splitLast '/' text.toList) h
  rw [hsplit, hsplit] at hparts
  obtain ⟨hfront, hname⟩ := Prod.mk.inj (Option.some.inj hparts)
  rw [String.toList_inj, String.append_left_inj, String.append_right_inj] at hfront
  exact ⟨Percent.encode_injective hfront, Percent.encode_injective (String.toList_inj.mp hname)⟩

lemma jobAddress_injective (store : JobStore) : Function.Injective store.jobAddress := by
  rintro ⟨ns, name⟩ ⟨ns', name'⟩ h
  obtain ⟨rfl, rfl⟩ := eq_of_addresses h
  rfl

end Names

section Normal

variable (scheme : String) (authority : Authority) (front : List Char)

lemma isStep_jobs : Url.IsStep "jobs".toList :=
  ⟨List.all_eq_true.mp (by decide), by decide +kernel, by decide +kernel⟩

lemma isStep_namespaces : Url.IsStep "namespaces".toList :=
  ⟨List.all_eq_true.mp (by decide), by decide +kernel, by decide +kernel⟩

lemma text_job (ns : String) {name : String} (h : Url.IsFolder name) :
    (Url.completed scheme authority
        (front ++ '/' :: (below ns ++ "/" ++ Percent.encode name).toList)).text =
      (Url.completed scheme authority (front ++ '/' :: (below ns).toList)).text ++ "/" ++
        Percent.encode name := by
  have hstep := Url.text_completed_append scheme authority
    (front ++ '/' :: ("namespaces/" ++ Percent.encode ns).toList) isStep_jobs h.isStep
  simpa [below] using hstep

lemma text_below {ns : String} (h : Url.IsFolder ns) :
    (Url.completed scheme authority (front ++ '/' :: (below ns).toList)).text =
      (Url.completed scheme authority (front ++ '/' :: "namespaces".toList)).text ++ "/" ++
        Percent.encode ns ++ "/jobs" := by
  have hns := Url.text_completed_append scheme authority front isStep_namespaces h.isStep
  have hjobs := Url.text_completed_append scheme authority (front ++ '/' :: "namespaces".toList)
    h.isStep isStep_jobs
  rw [hns] at hjobs
  simpa [below, String.append_assoc] using hjobs

end Normal

lemma eq_of_texts {store : JobStore} {scheme : String} {authority : Authority}
    {rest : List Char} (h : Url.Headed (Url.opening store.address.toList) scheme authority rest)
    {job job' : JobRef} (hns : Url.IsFolder job.ns) (hname : Url.IsFolder job.name)
    (hns' : Url.IsFolder job'.ns) (hname' : Url.IsFolder job'.name) {polled polled' : Url}
    (hpolled : Url.Reads (store.jobAddress job) polled)
    (hpolled' : Url.Reads (store.jobAddress job') polled') (htext : polled.text = polled'.text) :
    job = job' := by
  rw [jobAddress_eq, h.reads_below (below_job_solid _)] at hpolled hpolled'
  rw [hpolled, hpolled', text_job _ _ _ _ hname, text_job _ _ _ _ hname', text_below _ _ _ hns,
    text_below _ _ _ hns'] at htext
  obtain ⟨hns, hname⟩ := eq_of_addresses htext
  cases job
  cases job'
  exact congrArg₂ JobRef.mk hns hname

structure Below (store : JobStore) (request : JobRequest) (log : Trace) (job : JobRef)
    (created polled : Url) : Prop where
  collection : Url.Reads (store.collection request.ns) created
  address : Url.Reads (store.collection request.ns ++ "/" ++ Percent.encode request.name) polled
  posted : ∃ reply, log = [⟨created.request .post (some (toJson request)), reply⟩]
  asked : ∀ log result, (store.jobState job).run.Course log result →
    ∃ reply, log = [⟨polled.request .get none, reply⟩]
  text : Url.IsFolder request.name →
    polled.text = created.text ++ "/" ++ Percent.encode request.name

structure Created (url : String) (store : JobStore) (request : JobRequest) (log : Trace)
    (job : JobRef) : Prop where
  reference : job = ⟨request.ns, request.name⟩
  below : ∃ created polled, Below store request log job created polled
  slashes : ∀ url', Text.trimTrailing '/' url' = Text.trimTrailing '/' url →
    create url' = .ok store

/-- A job is polled at the address below the collection it was created in, and no other job of the
store is polled there. Slashes at the end of the address of the job system make no difference. -/
structure Addressing (url : String) (store : JobStore) : Prop where
  created : ∀ (request : JobRequest) (log : Trace) (job : JobRef),
    (store.createJob request).run.Course log (.ok job) → Created url store request log job
  injective : ∀ job job', store.jobAddress job = store.jobAddress job' → job = job'
  apart : ∀ (job job' : JobRef) (log log' : Trace) (result result' : Except Error JobState),
    Url.IsFolder job.ns → Url.IsFolder job.name →
    Url.IsFolder job'.ns → Url.IsFolder job'.name →
    (store.jobState job).run.Course log result → (store.jobState job').run.Course log' result' →
    ∀ s ∈ log, ∀ s' ∈ log', s.1.url = s'.1.url → job = job'
  slashes : ∀ url' store', create url' = .ok store' →
    Text.trimTrailing '/' url' = Text.trimTrailing '/' url → store' = store
  encoding : ∀ text, (Percent.encode text).toList = text.toUTF8.data.toList.flatMap fun b =>
    if Percent.isUnreserved (Percent.ofByte b) then [Percent.ofByte b] else Percent.encodeByte b

lemma created_of_course {url : String} {store : JobStore} (h : create url = .ok store)
    {request : JobRequest} {log : Trace} {job : JobRef} :
    (store.createJob request).run.Course log (.ok job) →
      Created url store request log job := by
  rw [createJob_course]
  rintro ⟨rfl, created, reply, hcreated, rfl, -⟩
  have hread := hcreated
  rw [collection_eq] at hread
  obtain ⟨scheme, authority, rest, hheaded⟩ := headed_of_reads h (below_solid _) hread
  have hpolled := (hheaded.reads_below (below_job_solid ⟨request.ns, request.name⟩)).mpr rfl
  rw [← jobAddress_eq] at hpolled
  obtain rfl := (hheaded.reads_below (below_solid _)).mp hread
  refine ⟨rfl, ⟨_, _, hcreated, hpolled, ⟨_, rfl⟩, fun log result => ?_, ?_⟩, fun url' htrim => ?_⟩
  · rw [jobState_course]
    rintro (⟨polled, reply, h, rfl, -⟩ | ⟨hnone, -⟩)
    · obtain rfl := Except.ok.inj (hpolled.1.symm.trans h.1)
      exact ⟨reply, rfl⟩
    · exact absurd ⟨_, hpolled⟩ hnone
  · exact text_job scheme authority _ request.ns
  · have haddress : store.address = Text.trimTrailing '/' url := by
      rw [(create_eq_ok_iff.mp h).2]
    exact create_of_headed hheaded (htrim.trans haddress.symm)

theorem jobs_polled_as_created {url : String} {store : JobStore} (h : create url = .ok store) :
    Addressing url store where
  created _ _ _ := created_of_course h
  injective _ _ hsame := jobAddress_injective store hsame
  apart job job' log log' result result' hns hname hns' hname' := by
    rw [jobState_course, jobState_course]
    rintro (⟨polled, reply, hpolled, rfl, -⟩ | ⟨-, rfl, -⟩)
      (⟨polled', reply', hpolled', rfl, -⟩ | ⟨-, rfl, -⟩) s hs s' hs' hsame
    · obtain rfl := List.mem_singleton.mp hs
      obtain rfl := List.mem_singleton.mp hs'
      have hread := hpolled
      rw [jobAddress_eq] at hread
      obtain ⟨scheme, authority, rest, hheaded⟩ := headed_of_reads h (below_job_solid job) hread
      exact eq_of_texts hheaded hns hname hns' hname' hpolled hpolled' hsame
    · cases hs'
    · cases hs
    · cases hs
  slashes url' store' h' htrim := by
    rw [(create_eq_ok_iff.mp h').2, htrim, ← (create_eq_ok_iff.mp h).2]
  encoding := Percent.toList_encode

def wildRequest : JobRequest :=
  ⟨"batch 1/2 é", "50% a/../b", "demo", ["test"], "octo/demo", ⟨"bot", "bot@demo"⟩,
    ⟨"main", "abc"⟩, []⟩

def wildJob : JobRef := ⟨wildRequest.ns, wildRequest.name⟩

theorem jobs_polled_as_created_demo : ∃ store,
    create "http://jobs.internal:8080/" = .ok store ∧
    (∃ log, (store.createJob wildRequest).run.Course log (.ok wildJob)) ∧
    (∀ log result, (store.jobState wildJob).run.Course log result → ∃ polled reply,
      log = [⟨Url.request polled .get none, reply⟩] ∧ polled.text =
        "http://jobs.internal:8080/namespaces/50%25%20a%2F..%2Fb/jobs/batch%201%2F2%20%C3%A9") ∧
    create "http://jobs.internal:8080///" = .ok store ∧
    ∀ job, store.jobAddress job = store.jobAddress wildJob → job = wildJob := by
  obtain ⟨store, hstore⟩ : ∃ store, create "http://jobs.internal:8080/" = .ok store :=
    ⟨⟨"http://jobs.internal:8080"⟩, by decide +kernel⟩
  have haddress : store = ⟨"http://jobs.internal:8080"⟩ := by
    rw [(create_eq_ok_iff.mp hstore).2]
    decide +kernel
  have hread : ((Url.parse (store.collection wildRequest.ns)).toOption.any Url.isHttp) = true := by
    rw [haddress]
    decide +kernel
  have htext : (Url.parse (store.collection wildRequest.ns ++ "/" ++
      Percent.encode wildRequest.name)).toOption.map Url.text = some
        "http://jobs.internal:8080/namespaces/50%25%20a%2F..%2Fb/jobs/batch%201%2F2%20%C3%A9" := by
    rw [haddress]
    decide +kernel
  have hposted : ∃ created, Url.Reads (store.collection wildRequest.ns) created := by
    cases hparse : Url.parse (store.collection wildRequest.ns) with
    | error fault =>
      rw [hparse] at hread
      cases hread
    | ok created =>
      rw [hparse] at hread
      exact ⟨created, hparse, hread⟩
  obtain ⟨posted, hposted⟩ := hposted
  have haddressing : Addressing "http://jobs.internal:8080/" store := jobs_polled_as_created hstore
  have hcreated := haddressing.created wildRequest
  simp only [createJob_course] at hcreated ⊢
  obtain ⟨-, ⟨_, polled, hbelow⟩, hslashes⟩ :=
    hcreated _ wildJob ⟨rfl, posted, ⟨201, [], none⟩, hposted, rfl, by decide⟩
  refine ⟨store, hstore, ⟨_, rfl, posted, ⟨201, [], none⟩, hposted, rfl, by decide⟩,
    fun log result => Function.comp ?_ (hbelow.asked log result), hslashes _ (by decide +kernel),
    fun job => haddressing.injective job wildJob⟩
  rintro ⟨reply, hlog⟩
  rw [hbelow.address.1] at htext
  exact ⟨polled, reply, hlog, Option.some.inj htext⟩

example : let store : JobStore := ⟨"http://jobs.internal:8080"⟩
    (Url.parse (store.jobAddress ⟨"a", "."⟩)).toOption.map Url.text =
      (Url.parse (store.jobAddress ⟨"a", ""⟩)).toOption.map Url.text := by
  decide +kernel

end MergeQueue.Web.JobStore
