/-
# What a NetWorker document says

Every document `_iter_networker_documents` yields is built by `_derived_document` from one record
and then touched in at most four places.  `DocumentOf` collects what all of them keep of the
record; `NetworkerDocument` adds which months and kinds occur.  The writer is proved against these
two, never against the builders, so a builder may change without a proof of the writer.

The direction is from the document to its record.  `mem_iterNetworkerDocuments` takes any document
of the list and gives the record of the payload it was built from, with the routing fields
unchanged.  The other direction, that every record has its document, is needed for the named kinds
only and is in `Identity`; for runs and backups it is false by design, since some have no id or no
time.

Six types and two kinds of month occur: none, where the document takes that of the collection, and
that of an instant of the record.
-/
import BackupCollector.Processors.Derived
import BackupCollector.Parsers.NetworkerPayload

namespace BackupCollector

open Py

variable [Unicode] [Hashlib]

/-! ## 1. One document

The entity fields are written over the record, and are not among those that route it. -/

/-- The fields `_networker_document_fields` may write. -/
def entityKeys : List Str := ["job", "client", "run_on_host", "backup", "policy", "workflow", "action"]

omit [Unicode] [Hashlib] in
theorem keys_networkerDocumentFields (documentType : Str) (record : Obj) :
    ∀ k ∈ Dict.keys (networkerDocumentFields documentType record), k ∈ entityKeys := by
  unfold networkerDocumentFields
  split_ifs <;> simp [Dict.keys, entityKeys]

/-- What a document keeps of the record it was built from: the record as its payload, and the two
fields that route it. -/
structure DocumentOf (rawDocument : Obj) (documentType : Str) (record document : Obj) : Prop where
  collector : Obj.get document "collector" = Obj.get rawDocument "collector"
  document_type : Obj.get document "document_type" = .str documentType
  source_networker : Obj.get document "source_networker" = Obj.get record "source_networker"
  security_domain : Obj.get document "security_domain" = Obj.get record "security_domain"
  payload : Obj.get document "payload" = .obj record

omit [Unicode] [Hashlib] in
/-- Writing the entity fields leaves every other field alone. -/
theorem get_update_entity (document record : Obj) (documentType : Str) {k : Str} (hk : k ∉ entityKeys) :
    Obj.get (Dict.update document (networkerDocumentFields documentType record)) k = Obj.get document k :=
  Obj.get_update_of_notMem fun h => hk (keys_networkerDocumentFields _ _ k h)

omit [Hashlib] in
theorem derivedDocument_documentOf (rawDocument : Obj) (documentType : Str) (record : Obj) (id : Json) :
    DocumentOf rawDocument documentType record
      (derivedDocument rawDocument "networker" documentType record id) := by
  unfold derivedDocument
  constructor <;>
    · rw [if_pos rfl, get_update_entity _ _ _ (by decide)]
      simp [Obj.get_set]

omit [Hashlib] in
theorem get_derivedDocument_index_month (rawDocument : Obj) (documentType : Str) (record : Obj) (id : Json) :
    Obj.get (derivedDocument rawDocument "networker" documentType record id) "index_month" = .null := by
  unfold derivedDocument
  rw [if_pos rfl, get_update_entity _ _ _ (by decide)]
  simp [Obj.get_set]

/-- The fields the builders touch after `_derived_document`. -/
def touchedKeys : List Str := ["@timestamp", "observed_at", "index_month", "derived_id"]

omit [Unicode] [Hashlib] in
/-- Touching those fields keeps what a document says of its record. -/
theorem DocumentOf.set {rawDocument record document : Obj} {documentType : Str}
    (h : DocumentOf rawDocument documentType record document) {k : Str} (v : Json) (hk : k ∈ touchedKeys) :
    DocumentOf rawDocument documentType record (Dict.set document k v) := by
  have hne : ∀ l : Str, l ∉ touchedKeys → Obj.get (Dict.set document k v) l = Obj.get document l := by
    rintro l hl
    have hkl : ¬ k = l := by
      rintro rfl
      exact hl hk
    rw [Obj.get_set, if_neg hkl]
  constructor
  · rw [hne _ (by decide), h.collector]
  · rw [hne _ (by decide), h.document_type]
  · rw [hne _ (by decide), h.source_networker]
  · rw [hne _ (by decide), h.security_domain]
  · rw [hne _ (by decide), h.payload]

/-! ## 2. The three kinds of document

The documents of records, of backups and of runs differ in what is set last. -/

omit [Hashlib] in
theorem recordDocument_documentOf (rawDocument : Obj) (spec : RecordSpec) (index : Nat) (record : Obj) :
    DocumentOf rawDocument spec.documentType record
        (recordDocument rawDocument "networker" spec index record) ∧
      Obj.get (recordDocument rawDocument "networker" spec index record) "index_month" = .null := by
  have h := derivedDocument_documentOf rawDocument spec.documentType record
    (.str (recordId record spec.idFields index))
  have hm := get_derivedDocument_index_month rawDocument spec.documentType record
    (.str (recordId record spec.idFields index))
  unfold recordDocument
  dsimp only
  split
  · exact ⟨h.set _ (by decide), by rw [Obj.get_set, if_neg (by simp), hm]⟩
  · exact ⟨h, hm⟩

omit [Unicode] [Hashlib] in
theorem get_backupRecord (backup : Obj) (backupId identitySource : Str) (eventTime : Instant) {k : Str}
    (h : k ∉ ([lit "backup_document_id", lit "backup_identity_source", lit "event_time",
      lit "backup_month"] : List Str)) :
    Obj.get (backupRecord backup backupId identitySource eventTime) k = Obj.get backup k :=
  Obj.get_update_of_notMem h

/-- What identifies and routes a document that carries its own month. -/
structure MonthlyDocument (rawDocument : Obj) (documentType idKind : Str) (record : Obj) (id : Str)
    (monthOf : Instant) (document : Obj) : Prop extends DocumentOf rawDocument documentType record document where
  index_month : Obj.get document "index_month" = .str monthOf.yearMonth
  derived_id : Obj.get document "derived_id" =
    .str (Str.join ":" [Json.toStr (Obj.get rawDocument "collector"), idKind, id])

omit [Hashlib] in
theorem backupDocument_monthly (rawDocument backup : Obj) (backupId identitySource : Str)
    (eventTime : Instant) :
    MonthlyDocument rawDocument "backup" "backup" (backupRecord backup backupId identitySource eventTime)
      backupId eventTime (backupDocument rawDocument backup backupId identitySource eventTime) := by
  have h := derivedDocument_documentOf rawDocument "backup"
    (backupRecord backup backupId identitySource eventTime) (.str backupId)
  refine ⟨(((h.set _ (by decide)).set _ (by decide)).set _ (by decide)).set _ (by decide), ?_, ?_⟩
  · have hm : Obj.get (backupRecord backup backupId identitySource eventTime) "backup_month" =
        .str eventTime.yearMonth := by
      simp [backupRecord, Obj.get_set]
    simp [backupDocument, Obj.get_set, hm]
  · simp [backupDocument, Obj.get_set, h.collector]

omit [Hashlib] in
theorem jobRunDocument_monthly (rawDocument record : Obj) {t : Instant}
    (hm : Obj.get record "job_run_month" = .str t.yearMonth) :
    MonthlyDocument rawDocument "job-run" "job" record (string (Obj.get record "job_id")) t
      (jobRunDocument rawDocument record) := by
  have h := derivedDocument_documentOf rawDocument "job-run" record
    (.str (string (Obj.get record "job_id")))
  refine ⟨(((h.set _ (by decide)).set _ (by decide)).set _ (by decide)).set _ (by decide), ?_, ?_⟩
  · simp [jobRunDocument, Obj.get_set, hm]
  · simp [jobRunDocument, Obj.get_set, h.collector]

/-! ## 3. Everything a payload yields

One list, three loops.  Each loop says what a document of it is, and the last theorem puts them
together. -/

/-- The document types of a NetWorker payload. -/
def documentTypes : List Str := ["job", "client", "policy", "workflow", "backup", "job-run"]

/-- The payload lists documents are built from. -/
def recordKeys : List Str := ["jobs", "clients", "policies", "workflows", "backups"]

omit [Unicode] [Hashlib] in
theorem networkerSpecs_kinds :
    ∀ spec ∈ networkerSpecs, spec.documentType ∈ documentTypes ∧ spec.payloadKey ∈ recordKeys := by
  intro spec h
  simp only [networkerSpecs, List.mem_cons, List.not_mem_nil, or_false] at h
  rcases h with rfl | rfl | rfl | rfl <;> decide

omit [Unicode] [Hashlib] in
theorem mem_indexedRecords {payload : Obj} {key : Str} {r : Nat × Obj} (h : r ∈ indexedRecords payload key) :
    r.2 ∈ payloadRecords payload key := by
  unfold indexedRecords at h
  unfold payloadRecords
  split at h
  · obtain ⟨x, hx, hr⟩ := List.mem_filterMap.mp h
    obtain ⟨o, ho, hor⟩ := Option.map_eq_some_iff.mp hr
    rw [← hor]
    exact List.mem_filterMap.mpr ⟨x.1, List.fst_mem_of_mem_zipIdx hx, ho⟩
  · simp at h

omit [Hashlib] in
/-- A job-run record is the job with the fields of its run, and the job has an id. -/
theorem jobRunRecord_eq_some {job record : Obj} (h : jobRunRecord job = .ok (some record)) :
    ∃ startTime endTime event duration,
      parseDatetime (Obj.get job "start_time") = .ok startTime ∧
      jobRunEvent (jobRunStatus job) startTime endTime = some event ∧
      string (Obj.get job "job_id") ≠ [] ∧ record = jobRun job startTime endTime event duration := by
  unfold jobRunRecord at h
  obtain ⟨startTime, hstart, h⟩ := bind_eq_ok.mp h
  obtain ⟨endTime, -, h⟩ := bind_eq_ok.mp h
  cases hevent : jobRunEvent (jobRunStatus job) startTime endTime with
  | none => rw [hevent] at h; cases h
  | some event =>
    rw [hevent] at h
    dsimp only at h
    split at h
    · cases h
    · rename_i hid
      obtain ⟨duration, -, h⟩ := bind_eq_ok.mp h
      refine ⟨startTime, endTime, event, duration, hstart, hevent, ?_, (Option.some.inj (Except.ok.inj h)).symm⟩
      simpa using hid

omit [Hashlib] in
theorem get_jobRun (job : Obj) (startTime endTime : Option Instant) (event : Instant) (duration : Json)
    {k : Str} (h : k ∉ ([lit "job_id", lit "workflow_run_key", lit "start_time", lit "end_time",
      lit "event_time", lit "job_run_month", lit "duration_seconds", lit "outcome"] : List Str)) :
    Obj.get (jobRun job startTime endTime event duration) k = Obj.get job k :=
  Obj.get_update_of_notMem h

omit [Hashlib] in
theorem get_jobRun_month (job : Obj) (startTime endTime : Option Instant) (event : Instant) (duration : Json) :
    Obj.get (jobRun job startTime endTime event duration) "job_run_month" =
      .str (startTime.getD event).yearMonth := by
  simp [jobRun, Obj.get_set]

omit [Hashlib] in
theorem get_jobRun_id (job : Obj) (startTime endTime : Option Instant) (event : Instant) (duration : Json) :
    Obj.get (jobRun job startTime endTime event duration) "job_id" =
      .str (string (Obj.get job "job_id")) := by
  simp [jobRun, Obj.get_set]

/-- What one pass of the backup loop yields. -/
theorem mem_networkerBackupDocument {rawDocument backup document : Obj}
    (h : document ∈ (networkerBackupDocument rawDocument backup).items) :
    ∃ completionTime eventTime identity,
      parseDatetime (Obj.get backup "completion_time") = .ok completionTime ∧
      (completionTime = some eventTime ∨
        completionTime = none ∧ parseDatetime (Obj.get backup "save_time") = .ok (some eventTime)) ∧
      networkerBackupIdentity backup completionTime = .ok identity ∧ identity.1 ≠ [] ∧
      document = backupDocument rawDocument backup identity.1 identity.2 eventTime := by
  obtain ⟨completionTime, hc, h⟩ := Gen.mem_ofExcept h
  obtain ⟨eventTime, he, h⟩ := Gen.mem_ofExcept h
  obtain ⟨identity, hi, h⟩ := Gen.mem_ofExcept h
  cases eventTime with
  | none => simp [Gen.empty] at h
  | some event =>
    by_cases hempty : identity.1.isEmpty
    · simp [hempty, Gen.empty] at h
    · simp only [hempty, Bool.false_eq_true, if_false, Gen.yield, List.mem_singleton] at h
      refine ⟨completionTime, event, identity, hc, ?_, hi, by simpa using hempty, h⟩
      cases completionTime with
      | none => exact Or.inr ⟨rfl, he⟩
      | some t => exact Or.inl (Except.ok.inj he)

omit [Hashlib] in
/-- What one pass of the job-run loop yields. -/
theorem mem_networkerJobRunDocument {rawDocument job document : Obj}
    (h : document ∈ (networkerJobRunDocument rawDocument job).items) :
    ∃ record, jobRunRecord job = .ok (some record) ∧ document = jobRunDocument rawDocument record := by
  obtain ⟨record, hr, h⟩ := Gen.mem_ofExcept h
  cases record with
  | none => simp [Gen.empty] at h
  | some r => exact ⟨r, hr, by simpa [Gen.yield] using h⟩

/-- Every NetWorker document has one of the six types, keeps the routing fields of a record of
the payload, and carries either no month or the month of an instant. -/
theorem mem_iterNetworkerDocuments {rawDocument payload document : Obj}
    (h : document ∈ (iterNetworkerDocuments rawDocument payload).items) :
    ∃ documentType ∈ documentTypes, ∃ key ∈ recordKeys, ∃ origin ∈ payloadRecords payload key, ∃ record,
      DocumentOf rawDocument documentType record document ∧
      Obj.get record "source_networker" = Obj.get origin "source_networker" ∧
      Obj.get record "security_domain" = Obj.get origin "security_domain" ∧
      (Obj.get document "index_month" = .null ∨
        ∃ t : Instant, Obj.get document "index_month" = .str t.yearMonth) := by
  rcases Gen.mem_andThen h with h | h
  · obtain ⟨spec, hspec, h⟩ := List.mem_flatMap.mp h
    obtain ⟨r, hr, rfl⟩ := List.mem_map.mp h
    have hd := recordDocument_documentOf rawDocument spec r.1 r.2
    have hkinds := networkerSpecs_kinds spec hspec
    exact ⟨_, hkinds.1, _, hkinds.2, r.2, mem_indexedRecords hr, r.2, hd.1, rfl, rfl, Or.inl hd.2⟩
  · rcases Gen.mem_andThen h with h | h
    · obtain ⟨backup, hbackup, h⟩ := Gen.mem_each h
      obtain ⟨_, event, identity, -, -, -, -, rfl⟩ := mem_networkerBackupDocument h
      have hd := backupDocument_monthly rawDocument backup identity.1 identity.2 event
      refine ⟨"backup", by decide, "backups", by decide, backup, hbackup, _, hd.toDocumentOf, ?_, ?_,
        Or.inr ⟨event, hd.index_month⟩⟩
      · exact get_backupRecord _ _ _ _ (by decide)
      · exact get_backupRecord _ _ _ _ (by decide)
    · obtain ⟨job, hjob, h⟩ := Gen.mem_each h
      obtain ⟨record, hrecord, rfl⟩ := mem_networkerJobRunDocument h
      obtain ⟨startTime, endTime, event, duration, -, -, -, rfl⟩ := jobRunRecord_eq_some hrecord
      have hd := jobRunDocument_monthly rawDocument _
        (get_jobRun_month job startTime endTime event duration)
      refine ⟨"job-run", by decide, "jobs", by decide, job, hjob, _, hd.toDocumentOf, ?_, ?_,
        Or.inr ⟨_, hd.index_month⟩⟩
      · exact get_jobRun _ _ _ _ _ (by decide)
      · exact get_jobRun _ _ _ _ _ (by decide)

end BackupCollector
