/-
# One job-run row per job

A job is observed many times: the windows of consecutive collections overlap, a payload may
repeat it, and it is seen running before it is seen finished.  Its row is identified by the
trimmed job id and filed under the month of its START, and neither changes between two
observations; so all its writes go to one place, no other job's do, and the store keeps one row.
The legacy job document has the same id in another index and stays out of the way.

That the row is the LAST observation's is another matter.  The job runs of a result are yielded
after its backups, and the loop over the backups ends, for the whole result, at a backup that
cannot be identified (`Writers/BackupPasses`).  The jobs of such a result are observed and never
written.  A job seen running in one result and completed in such a one keeps the row that says
`running`, with nothing later to correct it (`stale_row`).

`one_job_run_per_job` says what holds.

* If the result that observes the job last has only identifiable backups, the store has exactly
  one row of the job, and it is the last observation's.  This is for every history: any classes,
  any order of the collections' times, any statuses and end times.
* If the collections have distinct times, the converse holds too.  Without that, two results of
  one instant may carry equal rows, and then the row is right although its write was lost.

A job is meant here whose observations all carry one and the same start, of a year with four
digits.  A result without backups, as every result of the `jobs` class, satisfies the condition.
-/
import BackupCollector.Writers.BackupPasses
import BackupCollector.Py.TextOrder

namespace BackupCollector

open Py

section JobRuns

variable [Unicode] [Hashlib]

/-! ## 1. The observations of a job -/

omit [Hashlib] in
/-- The trimmed id of a job the server sent. -/
def jobIdOf (item : Obj) : Str := string ((Obj.get item "id").orElse (Obj.get item "jobId"))

/-- The observations of a job over a sequence of collections, each with its result. -/
def jobObservations (isFile : Str → Bool) (c : CollectorConfig) (xs : List NetworkerCollection) (j : Str) :
    List (CollectionResult × Obj) :=
  overResults isFile c xs fun r => (payloadRecords r.payload "jobs").filter fun job =>
    decide (string (Obj.get job "job_id") = j)

omit [Hashlib] in
/-- The writer gets to the jobs of a result when every backup of the result can be identified. -/
def JobsReached (r : CollectionResult) : Prop := ∀ backup ∈ payloadRecords r.payload "backups", ¬ Unidentifiable backup

omit [Hashlib] in
instance (r : CollectionResult) : Decidable (JobsReached r) := List.decidableBAll _ _

omit [Hashlib] in
/-- The observations of a job that are written. -/
def writtenObservations (isFile : Str → Bool) (c : CollectorConfig) (xs : List NetworkerCollection) (j : Str) :
    List (CollectionResult × Obj) :=
  (jobObservations isFile c xs j).filter fun o => decide (JobsReached o.1)

omit [Hashlib] in
/-- The document of one observation. -/
def jobRunOf (o : CollectionResult × Obj) : Obj :=
  match jobRunRecord o.2 with
  | .ok (some record) => jobRunDocument (rawDocument o.1) record
  | _ => []

/-- A job-run document of the given job. -/
def isJobRunOf (j : Str) (document : Obj) : Bool := isDocumentOf "job-run" "job_id" j document

/-- The key of a job's row: its trimmed id and the month of its start. -/
def jobRunKey (c : CollectorConfig) (s : Source) (j : Str) (start : Instant) : Str × Str :=
  (networkerIndex s.name "job-run" start.yearMonth, Str.join ":" [c.name, "job", j])

/-- What one row per job means for a history: there is one document of the job, and it is that of
the last observation. -/
structure OneJobRun (isFile : Str → Bool) (c : CollectorConfig) (s : Source) (xs : List NetworkerCollection)
    (j : Str) (start : Instant) : Prop where
  /-- What is written of the job is the document of an observation, and stands in one place. -/
  filed : ∀ a ∈ history isFile c xs, isJobRunOf j a.source = true →
    ∃ o ∈ jobObservations isFile c xs j, a.write = (jobRunKey c s j start, jobRunOf o)
  /-- The store keeps one row of the job, and it is the last observation's. -/
  latest : ∃ o, (jobObservations isFile c xs j).getLast? = some o ∧
    (stored isFile c xs).filter (fun e => isJobRunOf j e.2) = [(jobRunKey c s j start, jobRunOf o)]
  /-- Nothing else is ever written there. -/
  alone : ∀ a ∈ history isFile c xs, a.key = jobRunKey c s j start → isJobRunOf j a.source = true

/-- The condition: the writer gets to the jobs of the result that observes the job last. -/
def LastReached (isFile : Str → Bool) (c : CollectorConfig) (xs : List NetworkerCollection) (j : Str) : Prop :=
  ∀ o, (jobObservations isFile c xs j).getLast? = some o → JobsReached o.1

omit [Hashlib] in
/-- A result without backups, such as one of the jobs class, has its jobs written. -/
theorem jobsReached_of_no_backups {r : CollectionResult} (h : payloadRecords r.payload "backups" = []) : JobsReached r := by
  intro backup hbackup
  rw [h] at hbackup
  cases hbackup

/-! ## 2. One observation -/

section Result

variable {isFile : Str → Bool} {c : CollectorConfig} {s : Source} {x : NetworkerCollection}
  {r : CollectionResult}

omit [Hashlib] in
/-- The run record of a collected job: it never raises, and its times are those the server sent. -/
theorem jobRunRecord_of_collected (hr : Collected c s x r) {job : Obj}
    (hjob : job ∈ payloadRecords r.payload "jobs") :
    ∃ item ∈ x.items "jobs", string (Obj.get job "job_id") = jobIdOf item ∧
      ∃ startTime endTime duration, parseDatetime (Obj.get item "startTime") = .ok startTime ∧
        jobRunRecord job = .ok (match jobRunEvent (jobRunStatus job) startTime endTime with
          | none => none
          | some event =>
            if (string (Obj.get job "job_id")).isEmpty then none
            else some (jobRun job startTime endTime event duration)) := by
  obtain ⟨item, hitem, record, hfields, rfl⟩ := hr.jobs job hjob
  obtain ⟨startTime, endTime, duration, hstart, -, hduration, hstartText, hendText⟩ := hfields.times
  have hid : Obj.get (classifyRecord s record) "job_id" = (Obj.get item "id").orElse (Obj.get item "jobId") := by
    rw [get_classifyRecord_of_notMem (by decide), hfields.job_id]
  have h1 : parseDatetime (Obj.get (classifyRecord s record) "start_time") = .ok startTime := by
    rw [get_classifyRecord_of_notMem (by decide), hstartText, parseDatetime_isoformat_option]
  have h2 : parseDatetime (Obj.get (classifyRecord s record) "end_time") = .ok endTime := by
    rw [get_classifyRecord_of_notMem (by decide), hendText, parseDatetime_isoformat_option]
  refine ⟨item, hitem, by rw [hid]; rfl, startTime, endTime, duration, hstart, ?_⟩
  unfold jobRunRecord
  rw [h1, h2]
  dsimp only [bind, Except.bind]
  cases jobRunEvent (jobRunStatus (classifyRecord s record)) startTime endTime with
  | none => rfl
  | some event =>
    dsimp only
    split
    · rfl
    · rw [hduration]
      rfl

omit [Unicode] [Hashlib] in
/-- A job that has started has an event, whatever its status. -/
theorem jobRunEvent_isSome (status : Str) (start : Instant) (endTime : Option Instant) :
    ∃ event, jobRunEvent status (some start) endTime = some event := by
  unfold jobRunEvent
  split
  · exact ⟨start, rfl⟩
  · cases endTime with
    | none => exact ⟨start, rfl⟩
    | some t => exact ⟨t, rfl⟩

omit [Hashlib] in
/-- A job with an id and a start yields one document, filed under the month of the start. -/
theorem jobRunDocument_of_started (hr : Collected c s x r) {job : Obj}
    (hjob : job ∈ payloadRecords r.payload "jobs") (hid : string (Obj.get job "job_id") ≠ [])
    {start : Instant} (hstart : ∀ item ∈ x.items "jobs", jobIdOf item = string (Obj.get job "job_id") →
      parseDatetime (Obj.get item "startTime") = .ok (some start)) :
    ∃ record, jobRunRecord job = .ok (some record) ∧
      Obj.get record "job_id" = .str (string (Obj.get job "job_id")) ∧
      Obj.get record "job_run_month" = .str start.yearMonth := by
  obtain ⟨item, hitem, hitemId, startTime, endTime, duration, hs, hrecord⟩ := jobRunRecord_of_collected hr hjob
  obtain rfl : startTime = some start :=
    Except.ok.inj (hs.symm.trans (hstart item hitem hitemId.symm))
  obtain ⟨event, hevent⟩ := jobRunEvent_isSome (jobRunStatus job) start endTime
  rw [hevent] at hrecord
  dsimp only at hrecord
  rw [if_neg (by simpa using hid)] at hrecord
  exact ⟨_, hrecord, get_jobRun_id job _ _ _ _, get_jobRun_month job _ _ _ _⟩

omit [Hashlib] in
/-- The document of a run record, and whether it is about job `j`. -/
theorem jobRunDocument_of_record (rawDocument : Obj) {job record : Obj} (h : jobRunRecord job = .ok (some record)) :
    ∃ t, MonthlyDocument rawDocument "job-run" "job" record (string (Obj.get record "job_id")) t
        (jobRunDocument rawDocument record) ∧
      Obj.get record "job_id" = .str (string (Obj.get job "job_id")) := by
  obtain ⟨startTime, endTime, event, duration, -, -, -, rfl⟩ := jobRunRecord_eq_some h
  exact ⟨_, jobRunDocument_monthly rawDocument _ (get_jobRun_month job startTime endTime event duration),
    get_jobRun_id job startTime endTime event duration⟩

omit [Hashlib] in
theorem isJobRunOf_jobRunDocument (rawDocument : Obj) {job record : Obj} (h : jobRunRecord job = .ok (some record))
    (j : Str) : isJobRunOf j (jobRunDocument rawDocument record) = true ↔ string (Obj.get job "job_id") = j := by
  obtain ⟨t, hd, hid⟩ := jobRunDocument_of_record rawDocument h
  unfold isJobRunOf
  rw [isDocumentOf_of_documentOf hd.toDocumentOf, hid]
  simp

/-! ## 3. The job runs of one result -/

omit [Hashlib] in
/-- The job runs of job `j` that a result yields are one for each of its observations. -/
theorem filter_jobRunDocuments (hr : Collected c s x r) {j : Str} (hj : j ≠ []) {start : Instant}
    (hstart : ∀ item ∈ x.items "jobs", jobIdOf item = j →
      parseDatetime (Obj.get item "startTime") = .ok (some start)) :
    (iterNetworkerJobRunDocuments (rawDocument r) r.payload).items.filter (isJobRunOf j) =
      ((payloadRecords r.payload "jobs").filter fun job =>
        decide (string (Obj.get job "job_id") = j)).map fun job => jobRunOf (r, job) := by
  unfold iterNetworkerJobRunDocuments
  rw [Gen.each_items]
  have hpass : ∀ job ∈ payloadRecords r.payload "jobs",
      (networkerJobRunDocument (rawDocument r) job).err = none ∧
      (networkerJobRunDocument (rawDocument r) job).items.filter (isJobRunOf j) =
        if string (Obj.get job "job_id") = j then [jobRunOf (r, job)] else [] := by
    intro job hjob
    by_cases hid : string (Obj.get job "job_id") = j
    · obtain ⟨record, hrecord, -, -⟩ := jobRunDocument_of_started hr hjob (hid ▸ hj)
        (fun item hitem h => hstart item hitem (h.trans hid))
      have hyes := (isJobRunOf_jobRunDocument (rawDocument r) hrecord j).mpr hid
      unfold networkerJobRunDocument jobRunOf
      rw [if_pos hid, hrecord]
      refine ⟨rfl, ?_⟩
      exact List.filter_cons_of_pos hyes
    · obtain ⟨_, -, -, _, _, _, -, hrecord⟩ := jobRunRecord_of_collected hr hjob
      rw [if_neg hid]
      refine ⟨?_, ?_⟩
      · unfold networkerJobRunDocument
        rw [hrecord]
        dsimp only [Gen.ofExcept]
        split <;> rfl
      · refine List.filter_eq_nil_iff.mpr fun document hdoc hyes => ?_
        obtain ⟨record, hrec, rfl⟩ := mem_networkerJobRunDocument hdoc
        exact hid ((isJobRunOf_jobRunDocument (rawDocument r) hrec j).mp hyes)
  rw [Gen.reached_of_ok fun job hjob => (hpass job hjob).1, List.filter_flatMap,
    List.flatMap_congr fun job hjob => (hpass job hjob).2]
  exact Gen.flatMap_ite_singleton _ _ _

theorem filter_resultDocuments_jobRun (hr : Collected c s x r) {j : Str} (hj : j ≠ []) {start : Instant}
    (hstart : ∀ item ∈ x.items "jobs", jobIdOf item = j →
      parseDatetime (Obj.get item "startTime") = .ok (some start)) :
    (resultDocuments r).items.filter (isJobRunOf j) = if JobsReached r then
      ((payloadRecords r.payload "jobs").filter fun job => decide (string (Obj.get job "job_id") = j)).map fun job =>
        jobRunOf (r, job) else [] := by
  have hrecords : (iterRecordDocuments (rawDocument r) r.payload "networker" networkerSpecs).filter
      (isJobRunOf j) = [] :=
    List.filter_eq_nil_iff.mpr fun document hdoc hyes =>
      (type_of_recordDocument hdoc).2 (type_of_isDocumentOf hyes)
  have hbackups : (iterNetworkerBackupDocuments (rawDocument r) r.payload).items.filter (isJobRunOf j) = [] := by
    refine List.filter_eq_nil_iff.mpr fun document hdoc hyes => ?_
    have htype := (type_of_backupDocument hdoc).symm.trans (type_of_isDocumentOf hyes)
    exact absurd htype (by decide)
  have hreached : (iterNetworkerBackupDocuments (rawDocument r) r.payload).err.isNone = true ↔ JobsReached r :=
    Option.isNone_iff_eq_none.trans (backupLoop_err hr)
  rw [resultDocuments_items, List.filter_append, List.filter_append, hrecords, hbackups]
  by_cases hall : JobsReached r
  · rw [if_pos hall, if_pos (hreached.mpr hall)]
    exact filter_jobRunDocuments hr hj hstart
  · rw [if_neg hall, if_neg (hreached.not.mpr hall)]
    rfl

omit [Hashlib] in
/-- An observation's action: the row's key and the observation's document. -/
theorem documentAction_jobRunOf (hr : Collected c s x r) {j : Str} (hj : j ≠ []) {start : Instant}
    (hyear : 1000 ≤ start.year)
    (hstart : ∀ item ∈ x.items "jobs", jobIdOf item = j →
      parseDatetime (Obj.get item "startTime") = .ok (some start))
    {job : Obj} (hjob : job ∈ payloadRecords r.payload "jobs") (hid : string (Obj.get job "job_id") = j) :
    (documentAction s r.collectedAt (jobRunOf (r, job))).write = (jobRunKey c s j start, jobRunOf (r, job)) := by
  obtain ⟨record, hrecord, hrecordId, hmonth⟩ := jobRunDocument_of_started hr hjob (hid ▸ hj)
    (fun item hitem h => hstart item hitem (h.trans hid))
  have hdoc : jobRunOf (r, job) = jobRunDocument (rawDocument r) record := by
    unfold jobRunOf
    rw [hrecord]
  have hd := jobRunDocument_monthly (rawDocument r) record hmonth
  have htype : textField (jobRunOf (r, job)) "document_type" = lit "job-run" := by
    simp [textField, hdoc, hd.document_type, Json.asStr?]
  have hfiled : documentMonth r.collectedAt (jobRunOf (r, job)) = start.yearMonth := by
    rw [hdoc, documentMonth_of_month hd.index_month, filedMonth, if_pos hyear]
  have hcollector : Obj.get (rawDocument r) "collector" = .str c.name := by
    simp [rawDocument, CollectionResult.toDocument, Obj.get_set, hr.collector]
  have hstrip : Str.strip j = j := by
    rw [← hid, strip_string]
  have hderived : textField (jobRunOf (r, job)) "derived_id" = Str.join ":" [c.name, "job", j] := by
    simp [textField, hdoc, hd.derived_id, Json.asStr?, hcollector, Json.toStr, hrecordId, hid, hstrip]
  simp only [Action.write, Action.key, documentAction, jobRunKey, htype, hfiled, hderived]

/-- What is written under the key of a job's row is a run of that job. -/
theorem isJobRunOf_of_key (hnetworker : c.type = lit "Networker") (hr : Collected c s x r)
    (h : x.result isFile c = .ok r) {a : Action} (ha : a ∈ x.actions isFile c) {j : Str} {start : Instant}
    (hkey : a.key = jobRunKey c s j start) : isJobRunOf j a.source = true := by
  obtain ⟨document, hdoc, rfl, htype⟩ := mem_actions_of_index hnetworker hr h ha
    (t := "job-run") (by decide) (congrArg Prod.fst hkey)
  rw [resultDocuments_items] at hdoc
  rcases List.mem_append.mp hdoc with hdoc | hdoc
  · exact absurd htype (type_of_recordDocument hdoc).2
  rcases List.mem_append.mp hdoc with hdoc | hdoc
  · exact absurd ((type_of_backupDocument hdoc).symm.trans htype) (by decide)
  split at hdoc
  · obtain ⟨job, -, hdoc⟩ := Gen.mem_each hdoc
    obtain ⟨record, hrecord, rfl⟩ := mem_networkerJobRunDocument hdoc
    obtain ⟨t, hd, hid⟩ := jobRunDocument_of_record (rawDocument r) hrecord
    have hcollector : Obj.get (rawDocument r) "collector" = .str c.name := by
      simp [rawDocument, CollectionResult.toDocument, Obj.get_set, hr.collector]
    have hderived : Str.join ":" [c.name, "job", string (Obj.get record "job_id")] =
        Str.join ":" [c.name, "job", j] := by
      have hsnd := congrArg Prod.snd hkey
      simpa [Action.key, documentAction, jobRunKey, textField, hd.derived_id, Json.asStr?, hcollector,
        Json.toStr] using hsnd
    refine (isJobRunOf_jobRunDocument (rawDocument r) hrecord j).mpr ?_
    rw [← join_id_inj hderived, hid, string_str, strip_string]
  · simp at hdoc

omit [Hashlib] in
/-- A row says when it was observed. -/
theorem observedAt_jobRunOf (hr : Collected c s x r) {j : Str} (hj : j ≠ []) {start : Instant}
    (hstart : ∀ item ∈ x.items "jobs", jobIdOf item = j →
      parseDatetime (Obj.get item "startTime") = .ok (some start))
    {job : Obj} (hjob : job ∈ payloadRecords r.payload "jobs") (hid : string (Obj.get job "job_id") = j) :
    Obj.get (jobRunOf (r, job)) "observed_at" = .str r.collectedAt.isoformat := by
  obtain ⟨record, hrecord, -, -⟩ := jobRunDocument_of_started hr hjob (hid ▸ hj)
    (fun item hitem h => hstart item hitem (h.trans hid))
  have hstamp : Obj.get (rawDocument r) "@timestamp" = .str r.collectedAt.isoformat := by
    simp [rawDocument, CollectionResult.toDocument, Obj.get_set]
  unfold jobRunOf
  rw [hrecord]
  simp [jobRunDocument, Obj.get_set, hstamp]

end Result

/-! ## 4. A whole history

The job-run writes of a job are its written observations, in order, all under one key, and the key
is written by nothing else.  So the store's row is the last WRITTEN observation's, and everything
turns on whether that is the last one. -/

section Run

variable {isFile : Str → Bool} {c : CollectorConfig} {s : Source} (hnetworker : c.type = lit "Networker")
  (hs : validateSourceNetworker (optional c.sourceNetworker) = .ok s) {xs : List NetworkerCollection} {j : Str}
  (hj : j ≠ []) {start : Instant} (hyear : 1000 ≤ start.year)
  (hstart : ∀ x ∈ xs, ∀ item ∈ x.items "jobs", jobIdOf item = j →
    parseDatetime (Obj.get item "startTime") = .ok (some start))

omit [Hashlib] in
include hs hj hstart in
/-- Two observations with one row were made at one time. -/
theorem collectedAt_of_jobRunOf {o o' : CollectionResult × Obj} (ho : o ∈ jobObservations isFile c xs j)
    (ho' : o' ∈ jobObservations isFile c xs j) (h : jobRunOf o = jobRunOf o') : o.1.collectedAt = o'.1.collectedAt := by
  have hstamp : ∀ o ∈ jobObservations isFile c xs j,
      Obj.get (jobRunOf o) "observed_at" = .str o.1.collectedAt.isoformat := by
    intro o ho
    obtain ⟨x, hx, hresult, hjob⟩ := mem_overResults.mp ho
    obtain ⟨hjob, hid⟩ := List.mem_filter.mp hjob
    exact observedAt_jobRunOf (result_collected hs hresult) hj (hstart x hx) hjob (of_decide_eq_true hid)
  have htexts : Json.str o.1.collectedAt.isoformat = .str o'.1.collectedAt.isoformat := by
    rw [← hstamp o ho, ← hstamp o' ho', h]
  exact Instant.isoformat_injective (Json.str.inj htexts)

include hnetworker hs hj hyear hstart in
/-- The job-run writes of a job are its written observations. -/
theorem jobRunWrites_of_history :
    ((history isFile c xs).map Action.write).filter (fun w => isJobRunOf j w.2) =
      (writtenObservations isFile c xs j).map fun o => (jobRunKey c s j start, jobRunOf o) := by
  unfold history writtenObservations jobObservations overResults
  rw [List.filter_map, List.filter_flatMap, List.map_flatMap, List.filter_flatMap, List.map_flatMap]
  refine List.flatMap_congr fun x hx => ?_
  cases h : x.result isFile c with
  | error e =>
    unfold NetworkerCollection.actions
    rw [h]
    rfl
  | ok r =>
    have hr := result_collected hs h
    have hfilter : (x.actions isFile c).filter (fun a => isJobRunOf j a.source) = _ :=
      filter_actions hnetworker hr h fun document hyes => ⟨"job-run", by decide, type_of_isDocumentOf hyes⟩
    have hactions : (x.actions isFile c).filter ((fun w => isJobRunOf j w.2) ∘ Action.write) =
        (x.actions isFile c).filter fun a => isJobRunOf j a.source := rfl
    rw [hactions, hfilter, filter_resultDocuments_jobRun hr hj (hstart x hx), List.filter_map, List.map_map, List.map_map]
    dsimp only
    have hconst : ((fun o : CollectionResult × Obj => decide (JobsReached o.1)) ∘ fun job => (r, job)) =
        fun _ => decide (JobsReached r) := rfl
    rw [hconst]
    by_cases hall : JobsReached r
    · rw [if_pos hall, decide_eq_true hall, List.filter_true, List.map_map]
      refine List.map_congr_left fun job hjob => ?_
      obtain ⟨hmem, hid⟩ := List.mem_filter.mp hjob
      exact documentAction_jobRunOf hr hj hyear (hstart x hx) hmem (of_decide_eq_true hid)
    · rw [if_neg hall, decide_eq_false hall, List.filter_false]
      rfl

include hnetworker hs in
theorem isJobRunOf_of_history {a : Action} (ha : a ∈ history isFile c xs) (hkey : a.key = jobRunKey c s j start) :
    isJobRunOf j a.source = true := by
  obtain ⟨x, -, ha⟩ := List.mem_flatMap.mp ha
  cases h : x.result isFile c with
  | error e =>
    unfold NetworkerCollection.actions at ha
    rw [h] at ha
    cases ha
  | ok r => exact isJobRunOf_of_key hnetworker (result_collected hs h) h ha hkey

include hnetworker hs hj hyear hstart in
/-- What is written of a job is the document of a written observation. -/
theorem writtenObservation_of_action {a : Action} (ha : a ∈ history isFile c xs) (hyes : isJobRunOf j a.source = true) :
    ∃ o ∈ writtenObservations isFile c xs j, a.write = (jobRunKey c s j start, jobRunOf o) := by
  have hmem : a.write ∈ ((history isFile c xs).map Action.write).filter fun w => isJobRunOf j w.2 :=
    List.mem_filter.mpr ⟨List.mem_map_of_mem ha, hyes⟩
  rw [jobRunWrites_of_history hnetworker hs hj hyear hstart] at hmem
  obtain ⟨o, ho, hwrite⟩ := List.mem_map.mp hmem
  exact ⟨o, ho, hwrite.symm⟩

include hnetworker hs hj hyear hstart in
/-- The store's rows of a job that is written: one, the last written observation's. -/
theorem stored_jobRun {o : CollectionResult × Obj} (ho : (writtenObservations isFile c xs j).getLast? = some o) :
    (stored isFile c xs).filter (fun e => isJobRunOf j e.2) = [(jobRunKey c s j start, jobRunOf o)] := by
  have hclass : ∀ w ∈ (history isFile c xs).map Action.write,
      isJobRunOf j w.2 = true ↔ w.1 = jobRunKey c s j start := by
    intro w hw
    obtain ⟨a, ha, rfl⟩ := List.mem_map.mp hw
    refine ⟨fun hyes => ?_, isJobRunOf_of_history hnetworker hs ha⟩
    obtain ⟨o, -, hwrite⟩ := writtenObservation_of_action hnetworker hs hj hyear hstart ha hyes
    rw [hwrite]
  have hlast : (((history isFile c xs).map Action.write).filter fun w => isJobRunOf j w.2).getLast? =
      some (jobRunKey c s j start, jobRunOf o) := by
    rw [jobRunWrites_of_history hnetworker hs hj hyear hstart, List.getLast?_map, ho]
    rfl
  obtain ⟨hmem, hyes⟩ := List.mem_filter.mp (List.mem_of_getLast? hlast)
  obtain ⟨v, hv, hstore⟩ := Dict.written_filter_of_class hclass ⟨_, hmem, hyes⟩
  rw [stored, hstore, Option.some.inj (hv.symm.trans hlast)]

include hnetworker hs hj hyear hstart in
/-- Where the collections have distinct times, the row tells which of them wrote it: a store that
has the last observation's has written the last observation. -/
theorem lastReached_of_oneJobRun (hdistinct : (xs.map fun x => x.collectedAt).Nodup) (h : OneJobRun isFile c s xs j start) :
    LastReached isFile c xs j := by
  intro o ho
  obtain ⟨o', ho', hstore⟩ := h.latest
  obtain rfl : o' = o := Option.some.inj (ho'.symm.trans ho)
  -- the row was written by a written observation, which the time says is of the same result
  obtain ⟨hstored, hyes⟩ := List.mem_filter.mp (hstore ▸ List.mem_singleton_self _ :
    (jobRunKey c s j start, jobRunOf o') ∈ (stored isFile c xs).filter fun e => isJobRunOf j e.2)
  obtain ⟨a, ha, hwrite⟩ := List.mem_map.mp (Dict.mem_of_mem_written hstored)
  have hsource : a.source = jobRunOf o' := congrArg Prod.snd hwrite
  obtain ⟨w, hw, hwrite'⟩ := writtenObservation_of_action hnetworker hs hj hyear hstart ha (by rw [hsource]; exact hyes)
  obtain ⟨hobserves, hreached⟩ := List.mem_filter.mp hw
  have hrow : jobRunOf w = jobRunOf o' := (congrArg Prod.snd hwrite').symm.trans hsource
  have htime := collectedAt_of_jobRunOf hs hj hstart hobserves (List.mem_of_getLast? ho) hrow
  obtain ⟨x, hx, hresult, -⟩ := mem_overResults.mp hobserves
  obtain ⟨x', hx', hresult', -⟩ := mem_overResults.mp (List.mem_of_getLast? ho)
  have hsame : x = x' := by
    refine List.inj_on_of_nodup_map hdistinct hx hx' ?_
    exact (result_collected hs hresult).collectedAt.symm.trans (htime.trans (result_collected hs hresult').collectedAt)
  subst hsame
  rw [← Except.ok.inj (hresult.symm.trans hresult')]
  exact of_decide_eq_true hreached

end Run

/-- **A history keeps one row of a job, the last observation's, when the writer gets to the jobs of
the result that observes it last**; and only then, where the collections have distinct times. -/
theorem one_job_run_per_job {isFile : Str → Bool} {c : CollectorConfig} {s : Source}
    (hnetworker : c.type = lit "Networker")
    (hs : validateSourceNetworker (optional c.sourceNetworker) = .ok s)
    (xs : List NetworkerCollection) {j : Str} (hj : j ≠ []) {start : Instant} (hyear : 1000 ≤ start.year)
    (hstart : ∀ x ∈ xs, ∀ item ∈ x.items "jobs", jobIdOf item = j →
      parseDatetime (Obj.get item "startTime") = .ok (some start))
    (hobserved : jobObservations isFile c xs j ≠ []) :
    (LastReached isFile c xs j → OneJobRun isFile c s xs j start) ∧
      ((xs.map fun x => x.collectedAt).Nodup → OneJobRun isFile c s xs j start → LastReached isFile c xs j) := by
  constructor
  · intro hreached
    obtain ⟨o, ho⟩ := Option.isSome_iff_exists.mp (List.getLast?_isSome.mpr hobserved)
    have hwritten : (writtenObservations isFile c xs j).getLast? = some o := by
      obtain ⟨before, heq⟩ := List.getLast?_eq_some_iff.mp ho
      simp [writtenObservations, heq, hreached o ho]
    refine ⟨fun a ha hyes => ?_, ⟨o, ho, stored_jobRun hnetworker hs hj hyear hstart hwritten⟩, fun a ha hkey =>
      isJobRunOf_of_history hnetworker hs ha hkey⟩
    obtain ⟨o', ho', hwrite⟩ := writtenObservation_of_action hnetworker hs hj hyear hstart ha hyes
    exact ⟨o', (List.mem_filter.mp ho').1, hwrite⟩
  · exact fun hdistinct h => lastReached_of_oneJobRun hnetworker hs hj hyear hstart hdistinct h

end JobRuns

/-! ## 5. A job across the end of a month -/

section Boundary

attribute [local instance] Unicode.ascii Hashlib.hashlib

theorem boundaryStart_lt : 63929087400000000 < maxDays * usPerDay := by decide

/-- 2026-10-31T23:50:00Z -/
def boundaryStart : Instant := ⟨63929087400000000, boundaryStart_lt⟩

/-- A job with a blank around its id, running and then finished. -/
def boundaryJob (state : Str) (endTime : Json) : Json := .obj [
  ("id", .str " 7 "), ("state", .str state), ("startTime", .str "2026-10-31T23:50:00Z"), ("endTime", endTime)]

theorem boundaryBefore_lt : 63929087700000000 < maxDays * usPerDay := by decide

theorem boundaryAfter_lt : 63929088900000000 < maxDays * usPerDay := by decide

/-- One collection in October that repeats the job, and one in November. -/
def boundaryJobCollections : List NetworkerCollection := [
  { collectionClass := .jobs
    raw := .ok [("jobs", .obj [("jobs", .arr [boundaryJob "Active" .null, boundaryJob "Active" .null])])]
    clock := ⟨63929087700000000, boundaryBefore_lt⟩
    collectedAt := ⟨63929087700000000, boundaryBefore_lt⟩ },
  { collectionClass := .jobs
    raw := .ok [("jobs", .obj [("jobs", .arr [boundaryJob "Completed" (.str "2026-11-01T00:10:00Z")])])]
    clock := ⟨63929088900000000, boundaryAfter_lt⟩
    collectedAt := ⟨63929088900000000, boundaryAfter_lt⟩ }]

theorem boundary_job_stored_once :
    OneJobRun (fun _ => false) networkerCore ⟨"core", core_known⟩ boundaryJobCollections "7" boundaryStart := by
  have hreached : ∀ o ∈ jobObservations (fun _ => false) networkerCore boundaryJobCollections "7", JobsReached o.1 := by
    decide +kernel
  exact (one_job_run_per_job rfl (by decide +kernel) boundaryJobCollections (by decide) (by decide +kernel)
    (by decide +kernel) (by decide +kernel)).1 fun o ho => hreached o (List.mem_of_getLast? ho)

theorem halfPair_lt : 0xD800 < 0x110000 := by decide

/-- The same job, seen running, and seen completed beside a backup without an id whose client's
name ends in half of a surrogate pair. -/
def lostJobCollections : List NetworkerCollection := [
  { collectionClass := .fast
    raw := .ok [("jobs", .obj [("jobs", .arr [boundaryJob "Active" .null])])]
    clock := ⟨63929087700000000, boundaryBefore_lt⟩
    collectedAt := ⟨63929087700000000, boundaryBefore_lt⟩ },
  { collectionClass := .fast
    raw := .ok [
      ("jobs", .obj [("jobs", .arr [boundaryJob "Completed" (.str "2026-11-01T00:10:00Z")])]),
      ("backups", .obj [("backups", .arr [.obj [
        ("clientHostname", .str (lit "db-01" ++ [⟨0xD800, halfPair_lt⟩])), ("name", .str "/data"),
        ("completionTime", .str "2026-11-01T00:05:00Z")]])])]
    clock := ⟨63929088900000000, boundaryAfter_lt⟩
    collectedAt := ⟨63929088900000000, boundaryAfter_lt⟩ }]

theorem stale_row :
    (∀ x ∈ lostJobCollections, ∀ item ∈ x.items "jobs", jobIdOf item = lit "7" →
      parseDatetime (Obj.get item "startTime") = .ok (some boundaryStart)) ∧
    jobObservations (fun _ => false) networkerCore lostJobCollections "7" ≠ [] ∧
      ¬ OneJobRun (fun _ => false) networkerCore ⟨"core", core_known⟩ lostJobCollections "7" boundaryStart := by
  have hstart : ∀ x ∈ lostJobCollections, ∀ item ∈ x.items "jobs", jobIdOf item = lit "7" →
      parseDatetime (Obj.get item "startTime") = .ok (some boundaryStart) := by decide +kernel
  refine ⟨hstart, by decide +kernel, fun h => ?_⟩
  have hlost : ((jobObservations (fun _ => false) networkerCore lostJobCollections "7").getLast?.any
      fun o => decide (¬ JobsReached o.1)) = true := by decide +kernel
  have hreached := lastReached_of_oneJobRun rfl (by decide +kernel) (by decide) (by decide +kernel) hstart (by decide) h
  rw [Option.any_eq_true] at hlost
  obtain ⟨o, ho, hnot⟩ := hlost
  exact of_decide_eq_true hnot (hreached o ho)

end Boundary

end BackupCollector
