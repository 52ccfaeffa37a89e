/-
# Derived documents

`iter_derived_documents` turns one raw document into the documents of its records: one per job,
client, policy and workflow, one per identifiable backup, and one job-run row per job that has an
id and a time.  Backup and job-run rows carry their own month; the others take the month of the
collection.

Two of its loops can raise, and what a raising loop has not reached is not derived.  The backup
loop parses the times of a backup and hashes a fallback identity, and raises on a timestamp that
leaves the years of `datetime` and on an identity that UTF-8 cannot encode; the job-run loop parses
the times of a job and raises on such a timestamp too.  The order matters then: the documents of
records come first, the backups second, the job runs last, so a backup that raises takes all job
runs of its result with it.

The documents are built by one function and touched up by each kind.  Ids are texts: those of
records are joined from their fields, those of backups and runs come from the API, and a backup
without one is given a hash.  What tells two of them apart is `Identity`; what a document keeps of
its record is `NetworkerDocuments`; where it goes is `Writers/Routing`.

A generator is a list that may end in an error (`Py/Gen`), so that a prefix which was yielded
before an error is not lost in the model either.
-/
import BackupCollector.Values
import BackupCollector.Py.Gen

namespace BackupCollector

open Py

variable [Unicode] [Hashlib]

/-! ## 1. One document

The fields every derived document has, and those of a NetWorker record on top. -/

omit [Hashlib] in
/-- `_month`: the first seven characters of a timestamp text. -/
def month (timestamp : Json) : Str :=
  let text := string timestamp
  if 7 ≤ text.length then text.take 7 else "unknown"

omit [Hashlib] in
/-- `_record_id` -/
def recordId (record : Obj) (fields : List Str) (fallbackIndex : Nat) : Str :=
  let values := (fields.map fun field => string (Obj.get record field)).filter (!·.isEmpty)
  if values.isEmpty then Str.ofNat fallbackIndex else Str.join ":" values

omit [Hashlib] in
/-- `_first_non_empty` -/
def firstNonEmpty (record : Obj) : List Str → Str
  | [] => []
  | field :: fields =>
    let value := string (Obj.get record field)
    if value.isEmpty then firstNonEmpty record fields else value

/-- The host a record names: the classified one, else the parsed one. -/
def hostnameOf (record : Obj) : Json :=
  (Obj.get record "client_hostname").orElse (Obj.get record "client_name")

/-- `_networker_document_fields` -/
def networkerDocumentFields (documentType : Str) (record : Obj) : Obj :=
  if documentType = lit "job" ∨ documentType = lit "job-run" then [
    ("job", .obj [
      ("id", Obj.get record "job_id"),
      ("name", Obj.get record "name"),
      ("type", Obj.get record "type"),
      ("state", Obj.get record "state"),
      ("completion_status", Obj.get record "completion_status"),
      ("status_normalized", Obj.get record "status_normalized"),
      ("exit_code", Obj.get record "exit_code"),
      ("start_time", Obj.get record "start_time"),
      ("end_time", Obj.get record "end_time"),
      ("duration_seconds", Obj.get record "duration_seconds"),
      ("level", Obj.get record "level"),
      ("data_size_bytes", Obj.get record "data_size_bytes"),
      ("parent_job_id", Obj.get record "parent_job_id"),
      ("root_parent_job_id", Obj.get record "root_parent_job_id"),
      ("previous_job_id", Obj.get record "previous_job_id")]),
    ("client", .obj [("hostname", hostnameOf record)]),
    ("run_on_host", Obj.get record "run_on_host")]
  else if documentType = lit "backup" then [
    ("backup", .obj [
      ("id", Obj.get record "backup_id"),
      ("save_set", Obj.get record "save_set"),
      ("level", Obj.get record "level"),
      ("save_time", Obj.get record "save_time"),
      ("completion_time", Obj.get record "completion_time"),
      ("size_bytes", Obj.get record "size_bytes")]),
    ("client", .obj [("hostname", hostnameOf record)]),
    ("policy", .obj [("name", Obj.get record "policy_name")]),
    ("workflow", .obj [("name", Obj.get record "workflow_name")]),
    ("action", .obj [("name", Obj.get record "action_name")])]
  else if documentType = lit "client" then [
    ("client", .obj [
      ("resource_id", (Obj.get record "resource_id").orElse (Obj.get record "client_id")),
      ("hostname", hostnameOf record),
      ("state", Obj.get record "client_state"),
      ("backup_type", Obj.get record "backup_type"),
      ("os", Obj.get record "client_os")])]
  else []

omit [Hashlib] in
/-- `_derived_document` -/
def derivedDocument (rawDocument : Obj) (solution documentType : Str) (record : Obj) (id : Json) : Obj :=
  let collector := Obj.get rawDocument "collector"
  let idText := Json.toStr (id.orElse (.str "unknown"))
  let document : Obj := [
    ("@timestamp", Obj.get rawDocument "@timestamp"),
    ("collector", collector),
    ("device_name", (Obj.get rawDocument "device_name").orElse collector),
    ("target_type", Obj.get rawDocument "target_type"),
    ("solution", .str solution),
    ("document_family", .str "derived"),
    ("document_type", .str documentType),
    ("processing_mode", .str "elt"),
    ("source_raw_id", (Obj.get rawDocument "_id").orElse (Obj.get rawDocument "raw_document_id")),
    ("record_id", .str idText),
    ("derived_id", .str (Str.join ":"
      [Json.toStr collector, documentType, idText, month (Obj.get rawDocument "@timestamp")])),
    ("source_networker", Obj.get record "source_networker"),
    ("security_domain", Obj.get record "security_domain"),
    ("payload", .obj record)]
  if solution = lit "networker" then
    let document := Dict.set document "document_family"
      (.str (if documentType = lit "job-run" then "job" else documentType))
    Dict.update document (networkerDocumentFields documentType record)
  else document

/-! ## 2. Record documents

Four kinds of records go through one definition; a table says what identifies each. -/

/-- A kind of record: its document type, its payload key and its identifying fields. -/
structure RecordSpec where
  documentType : Str
  payloadKey : Str
  idFields : List Str

omit [Hashlib] in
/-- The document of one record of `_iter_record_documents`; a legacy job document is identified
by its job id alone. -/
def recordDocument (rawDocument : Obj) (solution : Str) (spec : RecordSpec) (index : Nat) (record : Obj) : Obj :=
  let document := derivedDocument rawDocument solution spec.documentType record
    (.str (recordId record spec.idFields index))
  if solution = lit "networker" ∧ spec.documentType = lit "job" ∧ (Obj.get record "job_id").truthy = true then
    Dict.set document "derived_id" (.str (Str.join ":"
      [Json.toStr (Obj.get document "collector"), "job", Json.toStr (Obj.get record "job_id")]))
  else document

/-- The dictionaries of a payload list with their positions in it. -/
def indexedRecords (payload : Obj) (key : Str) : List (Nat × Obj) :=
  match Obj.get payload key with
  | .arr xs => (xs.zipIdx).filterMap fun x => (x.1.asObj?).map fun r => (x.2, r)
  | _ => []

omit [Hashlib] in
/-- `_iter_record_documents` -/
def iterRecordDocuments (rawDocument payload : Obj) (solution : Str) (specs : List RecordSpec) : List Obj :=
  specs.flatMap fun spec =>
    (indexedRecords payload spec.payloadKey).map fun r =>
      recordDocument rawDocument solution spec r.1 r.2

/-! ## 3. Backup documents

A backup is identified by its id, or by a hash of what it was a backup of, and filed under the
month of its completion. -/

/-- `_networker_backup_identity` -/
def networkerBackupIdentity (backup : Obj) (completionTime : Option Instant) : Except Err (Str × Str) := do
  let backupId := string (Obj.get backup "backup_id")
  if !backupId.isEmpty then return (backupId, "backup_id")
  let clientName := Str.rstripChr (chr '.') (Str.lower (string (Obj.get backup "client_name")))
  let saveSetField := string (Obj.get backup "save_set")
  let saveSet := if saveSetField.isEmpty then string (Obj.get backup "name") else saveSetField
  match completionTime with
  | none => return ([], [])
  | some completion =>
    if clientName.isEmpty || saveSet.isEmpty then return ([], [])
    let digest ← sha256Hex (Str.join [⟨0, by omega⟩] [clientName, saveSet, completion.isoformat])
    return (lit "fallback:" ++ digest, "client_save_set_completion_time")

/-- The record a backup document carries: the backup with its identity and its event. -/
def backupRecord (backup : Obj) (backupId identitySource : Str) (eventTime : Instant) : Obj :=
  Dict.update backup [
    ("backup_document_id", .str backupId),
    ("backup_identity_source", .str identitySource),
    ("event_time", .str eventTime.isoformat),
    ("backup_month", .str eventTime.yearMonth)]

/-- The document of one identified backup. -/
def backupDocument (rawDocument backup : Obj) (backupId identitySource : Str) (eventTime : Instant) : Obj :=
  let record := backupRecord backup backupId identitySource eventTime
  let document := derivedDocument rawDocument "networker" "backup" record (.str backupId)
  let document := Dict.set document "@timestamp" (Obj.get record "event_time")
  let document := Dict.set document "observed_at" (Obj.get rawDocument "@timestamp")
  let document := Dict.set document "index_month" (Obj.get record "backup_month")
  Dict.set document "derived_id"
    (.str (Str.join ":" [Json.toStr (Obj.get document "collector"), "backup", backupId]))

/-- One pass of `_iter_networker_backup_documents`: a backup without an identity or without a
time yields nothing. -/
def networkerBackupDocument (rawDocument backup : Obj) : Gen Obj :=
  Gen.ofExcept (parseDatetime (Obj.get backup "completion_time")) fun completionTime =>
  Gen.ofExcept (match completionTime with
    | some t => .ok (some t)
    | none => parseDatetime (Obj.get backup "save_time")) fun eventTime =>
  Gen.ofExcept (networkerBackupIdentity backup completionTime) fun identity =>
  match eventTime with
  | none => Gen.empty
  | some event =>
    if identity.1.isEmpty then Gen.empty
    else Gen.yield (backupDocument rawDocument backup identity.1 identity.2 event)

/-- The dictionaries of a payload list. -/
def payloadRecords (payload : Obj) (key : Str) : List Obj :=
  match Obj.get payload key with
  | .arr xs => dictItems xs
  | _ => []

/-- `_iter_networker_backup_documents` -/
def iterNetworkerBackupDocuments (rawDocument payload : Obj) : Gen Obj :=
  Gen.each (networkerBackupDocument rawDocument) (payloadRecords payload "backups")

/-! ## 4. Job-run documents

A run is a job with an id and a time, and it is filed under the month of its end, a running one
under that of its start.  The workflow it belongs to is named by the API's id, where its type is a
verified one. -/

omit [Hashlib] in
/-- `_workflow_run_key`: a workflow run named by the verified type and a positive API id. -/
def workflowRunKey (job : Obj) : Str :=
  let source := Str.lower (string (Obj.get job "source_networker"))
  if source.isEmpty || source.contains (chr ':') || source.any Str.isSpace then []
  else
    let jobType := Str.lower (string (Obj.get job "type"))
    let value :=
      if jobType = lit "workflow job" then Obj.get job "job_id"
      else if jobType = lit "backup action job" ∨ jobType = lit "save job" then Obj.get job "root_parent_job_id"
      else .null
    match value with
    | .str _ | .int _ =>
      let identity := Str.strip (Json.toStr value)
      if identity.isEmpty || !isAscii identity || !identity.all isAsciiDigit ||
          identity.all (fun c => decide (c = chr '0')) then []
      else source ++ lit ":" ++ identity
    | _ => []

omit [Hashlib] in
/-- The status of a job row: the normalized one, else the plain one. -/
def jobRunStatus (job : Obj) : Str :=
  let normalized := Str.lower (string (Obj.get job "status_normalized"))
  let plain := Str.lower (string (Obj.get job "status"))
  if !normalized.isEmpty then normalized else if !plain.isEmpty then plain else "unknown"

omit [Hashlib] in
/-- The job with the fields of its run. -/
def jobRun (job : Obj) (startTime endTime : Option Instant) (event : Instant) (duration : Json) : Obj :=
  Dict.update job [
    ("job_id", .str (string (Obj.get job "job_id"))),
    ("workflow_run_key", .str (workflowRunKey job)),
    ("start_time", isoformat startTime),
    ("end_time", isoformat endTime),
    ("event_time", .str event.isoformat),
    ("job_run_month", .str (startTime.getD event).yearMonth),
    ("duration_seconds", duration),
    ("outcome", .str (jobRunStatus job))]

/-- The time a run is filed under: a running job has none but its start. -/
def jobRunEvent (status : Str) (startTime endTime : Option Instant) : Option Instant :=
  if status = lit "running" then startTime else endTime.or startTime

omit [Hashlib] in
/-- `_job_run_record`: a stable id and an event time are required to avoid duplicate rows. -/
def jobRunRecord (job : Obj) : Except Err (Option Obj) := do
  let startTime ← parseDatetime (Obj.get job "start_time")
  let endTime ← parseDatetime (Obj.get job "end_time")
  match jobRunEvent (jobRunStatus job) startTime endTime with
  | none => return none
  | some event =>
    if (string (Obj.get job "job_id")).isEmpty then return none
    else do
      let duration ← durationSeconds startTime endTime
      return some (jobRun job startTime endTime event duration)

omit [Hashlib] in
/-- The document of one job-run record. -/
def jobRunDocument (rawDocument record : Obj) : Obj :=
  let jobId := string (Obj.get record "job_id")
  let document := derivedDocument rawDocument "networker" "job-run" record (.str jobId)
  let document := Dict.set document "@timestamp" (Obj.get record "event_time")
  let document := Dict.set document "observed_at" (Obj.get rawDocument "@timestamp")
  let document := Dict.set document "index_month" (Obj.get record "job_run_month")
  Dict.set document "derived_id"
    (.str (Str.join ":" [Json.toStr (Obj.get document "collector"), "job", jobId]))

omit [Hashlib] in
/-- One pass of `_iter_networker_job_run_documents`. -/
def networkerJobRunDocument (rawDocument job : Obj) : Gen Obj :=
  Gen.ofExcept (jobRunRecord job) fun record =>
    match record with
    | none => Gen.empty
    | some r => Gen.yield (jobRunDocument rawDocument r)

omit [Hashlib] in
/-- `_iter_networker_job_run_documents` -/
def iterNetworkerJobRunDocuments (rawDocument payload : Obj) : Gen Obj :=
  Gen.each (networkerJobRunDocument rawDocument) (payloadRecords payload "jobs")

/-! ## 5. Documents of a raw document

The kinds of a NetWorker document in the order in which they are yielded, and the documents of the
devices, which are derived from the summary. -/

/-- The record kinds of a NetWorker payload. -/
def networkerSpecs : List RecordSpec := [
  ⟨"job", "jobs", ["job_id", "name"]⟩,
  ⟨"client", "clients", ["client_name", "client_id"]⟩,
  ⟨"policy", "policies", ["policy_name"]⟩,
  ⟨"workflow", "workflows", ["policy_name", "workflow_name"]⟩]

/-- `_iter_networker_documents` -/
def iterNetworkerDocuments (rawDocument payload : Obj) : Gen Obj :=
  (Gen.mk (iterRecordDocuments rawDocument payload "networker" networkerSpecs) none).andThen
    ((iterNetworkerBackupDocuments rawDocument payload).andThen
      (iterNetworkerJobRunDocuments rawDocument payload))

/-- `payload["summary"]` when it is a dictionary. -/
def summaryOf (payload : Obj) : Obj := ((Obj.get payload "summary").asObj?).getD []

omit [Hashlib] in
/-- `_summary_document` -/
def summaryDocument (rawDocument : Obj) (solution : Str) (summary : Obj) : List Obj :=
  if summary.isEmpty then []
  else
    let named := firstNonEmpty summary ["device_name", "server", "name"]
    [derivedDocument rawDocument solution "summary" summary
      (if named.isEmpty then Obj.get rawDocument "collector" else .str named)]

omit [Hashlib] in
/-- `_i6000_documents` -/
def i6000Documents (rawDocument payload : Obj) : List Obj :=
  let summary := summaryOf payload
  summaryDocument rawDocument "i6000" summary ++ iterRecordDocuments rawDocument summary "i6000" [
    ⟨"drive", "drives", ["serial_number", "name"]⟩,
    ⟨"media", "media", ["barcode", "name"]⟩,
    ⟨"partition", "partitions", ["name"]⟩,
    ⟨"robot", "robots", ["name"]⟩]

omit [Hashlib] in
/-- `_zfs_documents` -/
def zfsDocuments (rawDocument payload : Obj) : List Obj :=
  summaryDocument rawDocument "zfs" (summaryOf payload) ++ iterRecordDocuments rawDocument payload "zfs" [
    ⟨"pool", "pools", ["name"]⟩,
    ⟨"project", "projects", ["pool", "name"]⟩,
    ⟨"filesystem", "filesystems", ["pool", "project", "name"]⟩,
    ⟨"lun", "luns", ["pool", "project", "name", "id"]⟩,
    ⟨"event", "alerts", ["timestamp", "summary"]⟩]

/-- The solution names of the target types. -/
def solutionNames : Dict Str Str :=
  [("DD", "vtl"), ("DXi", "vtl"), ("i6000", "ptl"), ("Networker", "networker"), ("ZFS", "zfs")]

omit [Hashlib] in
/-- `_solution` of a raw document. -/
def solutionOf (rawDocument : Obj) : Str :=
  let value := Obj.get rawDocument "solution"
  if value.truthy then Json.toStr value
  else
    let target := Json.toStr (Obj.get rawDocument "target_type")
    (Dict.get? solutionNames target).getD
      (Str.lower (if (Dict.get? rawDocument "target_type").isSome then target else []))

omit [Hashlib] in
/-- `_device_documents` -/
def deviceDocuments (rawDocument payload : Obj) : List Obj :=
  summaryDocument rawDocument (solutionOf rawDocument) (summaryOf payload)

/-- `iter_derived_documents` -/
def iterDerivedDocuments (rawDocument : Obj) : Gen Obj :=
  match Obj.get rawDocument "payload" with
  | .obj payload =>
    let target := Obj.get rawDocument "target_type"
    if target = .str "Networker" then iterNetworkerDocuments rawDocument payload
    else if target = .str "i6000" then ⟨i6000Documents rawDocument payload, none⟩
    else if target = .str "ZFS" then ⟨zfsDocuments rawDocument payload, none⟩
    else if target = .str "DD" ∨ target = .str "DXi" then ⟨deviceDocuments rawDocument payload, none⟩
    else Gen.empty
  | _ => Gen.empty

end BackupCollector
