/-
# The parsed NetWorker payload

The summary, the monthly report and `parse_networker_rest_payload` itself.  What later modules use
of a parse is not the function but `ParsesTo`: every list of the result is the corresponding items
of the response, normalized and then classified with the configured source, and the summary and the
report are built from these lists.  Whoever needs a fact about a parse that returned takes it from
there.

Two of these facts are prepared here, since several modules need them.

* Every record of a parse is `Classified`: both of its routing fields are those of the configured
  source, whatever the response said (`classifyRecord_classified`, `report_of_parse`).  The writer
  routes by them.
* A normalized job and a normalized backup keep the identity and the instants of their item
  (`normalizeJob_fields`, `normalizeBackup_fields`), which is what the derived documents are made
  of.

Whether a parse returns at all is `Totality`; whether its totals agree is `ReportTotals`.  The
clock that the report reads is an argument here.
-/
import BackupCollector.Parsers.NetworkerRest

namespace BackupCollector

open Py

variable [Unicode]

/-! ## 1. The summary

A counter is a dictionary in the order in which its keys were first met, and so is what is made of
it. -/

/-- `job["policy_name"] or "unknown"` -/
def policyOf (record : Obj) : Str := orText (textField record "policy_name") "unknown"

/-- `(job["security_domain"], job["policy_name"] or "unknown")` -/
def domainPolicyOf (record : Obj) : Str × Str := (textField record "security_domain", policyOf record)

def hasStatus (status : Str) (job : Obj) : Bool := decide (Obj.get job "status" = .str status)

/-- A counter as a dictionary of numbers. -/
def countsJson (counts : Dict Str Nat) : Obj := counts.map fun p => (p.1, .int p.2)

/-- `_nested_counts` -/
def nestedCounts (counts : Dict (Str × Str) Nat) : Dict Str (Dict Str Nat) :=
  counts.foldl (fun result c => Dict.modify result c.1.1 [] fun d => Dict.set d c.1.2 c.2) []

def nestedJson (counts : Dict Str (Dict Str Nat)) : Json :=
  .obj (counts.map fun p => (p.1, .obj (countsJson p.2)))

/-- A number field, `0` when it is absent or null: `item.get(key) or 0`. -/
def intField (record : Obj) (key : Str) : Int :=
  match Obj.get record key with
  | .int n => n
  | _ => 0

/-- The jobs of one status counted by domain and policy. -/
def statusCounts (status : Str) (jobs : List Obj) : Dict (Str × Str) Nat :=
  Dict.counter ((jobs.filter (hasStatus status)).map domainPolicyOf)

/-- `_build_summary` -/
def buildSummary (server : Str) (jobs clients policies workflows backups : List Obj) : Obj :=
  let byPolicy (status : Str) : Json :=
    .obj (countsJson (Dict.counter ((jobs.filter (hasStatus status)).map policyOf)))
  let byDomain (status : Str) : Json := nestedJson (nestedCounts (statusCounts status jobs))
  let clientNames := (clients.map (textField · "client_name")).filter (!·.isEmpty)
  [ ("server", .str server),
    ("job_count", .int jobs.length),
    ("client_count", .int clientNames.dedup.length),
    ("policy_count", .int (policies.map (textField · "policy_name")).dedup.length),
    ("workflow_count",
      .int (workflows.map fun w => (textField w "policy_name", textField w "workflow_name")).dedup.length),
    ("backup_count", .int backups.length),
    ("total_backup_bytes", .int (backups.map (intField · "size_bytes")).sum),
    ("job_success_count_by_policy", byPolicy "success"),
    ("job_failed_count_by_policy", byPolicy "failed"),
    ("job_running_count_by_policy", byPolicy "running"),
    ("workflow_count_by_policy", .obj (countsJson (Dict.counter (workflows.map policyOf)))),
    ("job_success_count_by_domain_policy", byDomain "success"),
    ("job_failed_count_by_domain_policy", byDomain "failed"),
    ("job_running_count_by_domain_policy", byDomain "running"),
    ("workflow_count_by_domain_policy",
      nestedJson (nestedCounts (Dict.counter (workflows.map domainPolicyOf)))),
    ("recent_failed_jobs", .arr (((jobs.filter (hasStatus "failed")).take 20).map .obj))]

/-! ## 2. The monthly report

Three passes over the records, each of which names the row of a record's key and adds what the
record counts.  The rows are dictionaries as in the source, and they are closed by their terabytes
and their clients at the end. -/

/-- The key of a report row: domain, policy and workflow. -/
def reportKey (record : Obj) : Str × Str × Str :=
  (textField record "security_domain", policyOf record, textField record "workflow_name")

/-- The row the report starts from when it meets a key. -/
def emptyRow (server : Str) (now : Instant) : Obj := [
  ("server", .str server),
  ("month", .str now.yearMonth),
  ("source_networker", .str []),
  ("security_domain", .str "unmapped"),
  ("classification_status", .str "derived"),
  ("policy_name", .str "unknown"),
  ("workflow_name", .str []),
  ("total_backup_bytes", .int 0),
  ("total_backup_tb", .float 0.0),
  ("job_success_count", .int 0),
  ("job_failed_count", .int 0),
  ("job_running_count", .int 0),
  ("workflow_count", .int 0),
  ("client_count", .int 0)]

/-- `row[key] += n` -/
def addTo (row : Obj) (key : Str) (n : Int) : Obj := Dict.set row key (.int (intField row key + n))

/-- What every record does to its row: name it, then add what the record counts. -/
def reportRecord (server : Str) (now : Instant) (count : Obj → Obj → Obj)
    (rows : Dict (Str × Str × Str) Obj) (record : Obj) : Dict (Str × Str × Str) Obj :=
  let key := reportKey record
  Dict.modify rows key (emptyRow server now) fun row =>
    let row := Dict.set row "security_domain" (.str key.1)
    let row := Dict.set row "policy_name" (.str key.2.1)
    let row := Dict.set row "workflow_name" (.str key.2.2)
    let row := Dict.set row "source_networker" (Obj.get record "source_networker")
    count row record

/-- The job counter of a report row. -/
def countJob (row job : Obj) : Obj :=
  if hasStatus "success" job then addTo row "job_success_count" 1
  else if hasStatus "failed" job then addTo row "job_failed_count" 1
  else if hasStatus "running" job then addTo row "job_running_count" 1
  else row

/-- `_build_monthly_report` -/
def buildMonthlyReport (server : Str) (now : Instant) (jobs clients workflows backups : List Obj) :
    Except Err (List Obj) := do
  let clientsOf (domain : Str) : Nat :=
    (((clients.filter fun c => decide (textField c "security_domain" = domain)).map
      (textField · "client_name")).filter (!·.isEmpty)).dedup.length
  let rows := workflows.foldl (reportRecord server now fun row _ => addTo row "workflow_count" 1) []
  let rows := backups.foldl
    (reportRecord server now fun row b => addTo row "total_backup_bytes" (intField b "size_bytes")) rows
  let rows := jobs.foldl (reportRecord server now countJob) rows
  (Dict.values rows).mapM fun row => do
    let tb ← trueDiv (intField row "total_backup_bytes") (1000 ^ 4)
    let row := Dict.set row "total_backup_tb" (.float (round3 tb))
    return Dict.set row "client_count" (.int (clientsOf (textField row "security_domain")))

/-! ## 3. The payload

The lists are normalized, then classified, then counted.  The rows of the report are records too,
and are classified like the others. -/

/-- What `parse_networker_rest_payload` returns. -/
structure Parsed where
  summary : Obj
  jobs : List Obj
  backups : List Obj
  clients : List Obj
  policies : List Obj
  workflows : List Obj
  monthlyReport : List Obj

/-- The dictionary it is. -/
def Parsed.toObj (p : Parsed) : Obj := [
  ("summary", .obj p.summary),
  ("jobs", .arr (p.jobs.map .obj)),
  ("backups", .arr (p.backups.map .obj)),
  ("clients", .arr (p.clients.map .obj)),
  ("policies", .arr (p.policies.map .obj)),
  ("workflows", .arr (p.workflows.map .obj)),
  ("monthly_report", .arr (p.monthlyReport.map .obj))]

/-- `parse_networker_rest_payload`; `now` is the clock the monthly report reads. -/
def parseNetworkerRestPayload (payloads : Obj) (serverName : Str) (sourceNetworker : Json)
    (now : Instant) : Except Err Parsed := do
  let source ← validateSourceNetworker sourceNetworker
  let jobs ← (items (Obj.get payloads "jobs") "jobs").mapM fun item => normalizeJob item serverName source
  let clients := (items (Obj.get payloads "clients") "clients").map fun item =>
    normalizeClient item serverName source
  let (policies, workflows) := normalizePolicies (Obj.get payloads "policies") serverName
  let backups ← (items (Obj.get payloads "backups") "backups").mapM fun item =>
    normalizeBackup item serverName source
  let jobs := jobs.map (classifyRecord source)
  let clients := clients.map (classifyRecord source)
  let backups := backups.map (classifyRecord source)
  let policies := policies.map (classifyRecord source)
  let workflows := workflows.map (classifyRecord source)
  let summary := buildSummary serverName jobs clients policies workflows backups
  let summary := Dict.set summary "source_networker" (.str source.name)
  let summary := Dict.set summary "client_count_by_domain"
    (.obj (countsJson (Dict.counter (clients.map (textField · "security_domain")))))
  let summary := match Obj.get payloads "_query_window" with
    | .obj window => Dict.set summary "query_window" (.obj window)
    | _ => summary
  let report ← buildMonthlyReport serverName now jobs clients workflows backups
  return {
    summary := summary
    jobs := jobs
    backups := backups
    clients := clients
    policies := policies
    workflows := workflows
    monthlyReport := report.map (classifyRecord source) }

/-! ## 4. Classified records

The classification overwrites what the API says of itself: two monitored servers may share a host
name, and the configured source is the only thing that tells them apart. -/

/-- The fields the classification writes. -/
def classificationKeys : List Str :=
  ["source_networker", "security_domain", "classification_status", "classification_source", "client_hostname"]

/-- The configured source decides both fields that route a record, whatever the record says. -/
structure Classified (source : Source) (record : Obj) : Prop where
  source_networker : Obj.get record "source_networker" = .str source.name
  security_domain : Obj.get record "security_domain" = .str source.name

theorem classifyRecord_classified (source : Source) (record : Obj) :
    Classified source (classifyRecord source record) := by
  unfold classifyRecord
  constructor <;> split <;> simp [Obj.get_set]

theorem get_classifyRecord_of_notMem {source : Source} {record : Obj} {k : Str}
    (h : k ∉ classificationKeys) : Obj.get (classifyRecord source record) k = Obj.get record k := by
  unfold classifyRecord
  refine Obj.get_update_of_notMem ?_
  simp only [classificationKeys, List.mem_cons, List.not_mem_nil, not_or, or_false] at h
  obtain ⟨h1, h2, h3, h4, h5⟩ := h
  split <;> simp [Dict.keys, h1, h2, h3, h4, h5]

/-- What a parse that returns consists of: each of its lists is the items of its response,
normalized and classified; the summary is built from these lists, and the rows of the report are
classified. -/
structure ParsesTo (payloads : Obj) (serverName : Str) (source : Source) (p : Parsed) : Prop where
  jobs : ∃ records : List Obj, p.jobs = records.map (classifyRecord source) ∧
    List.Forall₂ (fun item record => normalizeJob item serverName source = .ok record)
      (items (Obj.get payloads "jobs") "jobs") records
  backups : ∃ records : List Obj, p.backups = records.map (classifyRecord source) ∧
    List.Forall₂ (fun item record => normalizeBackup item serverName source = .ok record)
      (items (Obj.get payloads "backups") "backups") records
  clients : p.clients = ((items (Obj.get payloads "clients") "clients").map
    fun item => normalizeClient item serverName source).map (classifyRecord source)
  policies : p.policies =
    (normalizePolicies (Obj.get payloads "policies") serverName).1.map (classifyRecord source)
  workflows : p.workflows =
    (normalizePolicies (Obj.get payloads "policies") serverName).2.map (classifyRecord source)
  monthlyReport : ∃ rows : List Obj, p.monthlyReport = rows.map (classifyRecord source)
  summary : ∃ extra : Obj, (∀ k ∈ Dict.keys extra, k = lit "client_count_by_domain" ∨ k = lit "query_window") ∧
    p.summary = Dict.update (Dict.set (buildSummary serverName p.jobs p.clients p.policies p.workflows p.backups)
      "source_networker" (.str source.name)) extra

theorem parse_eq_ok {payloads : Obj} {serverName : Str} {sourceNetworker : Json} {now : Instant} {p : Parsed}
    (h : parseNetworkerRestPayload payloads serverName sourceNetworker now = .ok p) :
    ∃ source, validateSourceNetworker sourceNetworker = .ok source ∧ ParsesTo payloads serverName source p := by
  unfold parseNetworkerRestPayload at h
  obtain ⟨source, hsource, h⟩ := bind_eq_ok.mp h
  obtain ⟨jobs, hjobs, h⟩ := bind_eq_ok.mp h
  obtain ⟨backups, hbackups, h⟩ := bind_eq_ok.mp h
  obtain ⟨report, -, h⟩ := bind_eq_ok.mp h
  have hp := (Except.ok.inj h).symm
  refine ⟨source, hsource, ?_⟩
  subst hp
  constructor
  · exact ⟨jobs, rfl, mapM_eq_ok.mp hjobs⟩
  · exact ⟨backups, rfl, mapM_eq_ok.mp hbackups⟩
  · rfl
  · rfl
  · rfl
  · exact ⟨report, rfl⟩
  · dsimp only
    split
    · rename_i window _
      refine ⟨[("client_count_by_domain", _), ("query_window", .obj window)], ?_, rfl⟩
      simp [Dict.keys]
    · refine ⟨[("client_count_by_domain", _)], ?_, rfl⟩
      simp [Dict.keys]

/-- The fields set after the summary was built leave the others alone. -/
theorem ParsesTo.get_summary {payloads : Obj} {serverName : Str} {source : Source} {p : Parsed}
    (h : ParsesTo payloads serverName source p) {k : Str}
    (hk : k ≠ lit "source_networker" ∧ k ≠ lit "client_count_by_domain" ∧ k ≠ lit "query_window") :
    Obj.get p.summary k = Obj.get (buildSummary serverName p.jobs p.clients p.policies p.workflows p.backups) k := by
  obtain ⟨extra, hextra, hsummary⟩ := h.summary
  have hnotMem : k ∉ Dict.keys extra := by
    intro hmem
    rcases hextra k hmem with heq | heq
    · exact hk.2.1 heq
    · exact hk.2.2 heq
  rw [hsummary, Obj.get_update_of_notMem hnotMem, Obj.get_set, if_neg (Ne.symm hk.1)]

/-- The report is built from the classified records, and classified itself. -/
theorem report_of_parse {payloads : Obj} {serverName : Str} {sourceNetworker : Json} {now : Instant} {p : Parsed}
    (h : parseNetworkerRestPayload payloads serverName sourceNetworker now = .ok p) :
    ∃ source report, ParsesTo payloads serverName source p ∧
      buildMonthlyReport serverName now p.jobs p.clients p.workflows p.backups = .ok report ∧
      p.monthlyReport = report.map (classifyRecord source) := by
  obtain ⟨source, hsource, hto⟩ := parse_eq_ok h
  unfold parseNetworkerRestPayload at h
  obtain ⟨source', hsource', h⟩ := bind_eq_ok.mp h
  obtain rfl := Except.ok.inj (hsource.symm.trans hsource')
  obtain ⟨jobs, -, h⟩ := bind_eq_ok.mp h
  obtain ⟨backups, -, h⟩ := bind_eq_ok.mp h
  obtain ⟨report, hreport, h⟩ := bind_eq_ok.mp h
  obtain rfl := Except.ok.inj h
  exact ⟨source, report, hto, hreport, rfl⟩

/-! ## 5. What the timed records keep

The times are kept as texts.  What they say once they are read again is proved with the derived
documents. -/

/-- What a normalized job keeps of its item: the identity and the two instants, as text.  The
duration between the two could be computed. -/
structure JobFields (item record : Obj) : Prop where
  job_id : Obj.get record "job_id" = (Obj.get item "id").orElse (Obj.get item "jobId")
  times : ∃ startTime endTime duration, parseDatetime (Obj.get item "startTime") = .ok startTime ∧
    parseDatetime (Obj.get item "endTime") = .ok endTime ∧
    durationSeconds startTime endTime = .ok duration ∧
    Obj.get record "start_time" = isoformat startTime ∧ Obj.get record "end_time" = isoformat endTime

theorem normalizeJob_fields {item record : Obj} {server : Str} {source : Source}
    (h : normalizeJob item server source = .ok record) : JobFields item record := by
  unfold normalizeJob at h
  obtain ⟨startTime, hstart, h⟩ := bind_eq_ok.mp h
  obtain ⟨endTime, hend, h⟩ := bind_eq_ok.mp h
  obtain ⟨duration, hduration, h⟩ := bind_eq_ok.mp h
  obtain ⟨dataSize, -, h⟩ := bind_eq_ok.mp h
  rw [← Except.ok.inj h]
  exact ⟨by simp, startTime, endTime, duration, hstart, hend, hduration, by simp, by simp⟩

/-- What a normalized backup keeps of its item. -/
structure BackupFields (item record : Obj) : Prop where
  backup_id : Obj.get record "backup_id" = .str (string (Obj.get item "id"))
  save_time : ∃ t, parseDatetime (Obj.get item "saveTime") = .ok t ∧
    Obj.get record "save_time" = isoformat t
  completion_time : ∃ t, parseDatetime (Obj.get item "completionTime") = .ok t ∧
    Obj.get record "completion_time" = isoformat t

theorem normalizeBackup_fields {item record : Obj} {server : Str} {source : Source}
    (h : normalizeBackup item server source = .ok record) : BackupFields item record := by
  unfold normalizeBackup at h
  obtain ⟨attrs, -, h⟩ := bind_eq_ok.mp h
  obtain ⟨bytes, -, h⟩ := bind_eq_ok.mp h
  obtain ⟨saveTime, hsave, h⟩ := bind_eq_ok.mp h
  obtain ⟨completionTime, hcompletion, h⟩ := bind_eq_ok.mp h
  obtain ⟨retentionTime, -, h⟩ := bind_eq_ok.mp h
  rw [← Except.ok.inj h]
  exact ⟨by simp, ⟨saveTime, hsave, by simp⟩, ⟨completionTime, hcompletion, by simp⟩⟩

end BackupCollector
