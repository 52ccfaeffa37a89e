/-
# The NetWorker collector: payload and gauges

After the fetch a NetWorker collection is a pure function of the raw responses: parse them, mark
the counts of failed endpoints as unknown, publish the gauges of the collected class and assemble
the payload.  Publishing is the list of gauge writes it performs; a gauge child keeps its value
until it is written again, so a registry is the store those writes leave.

The module is the model that four others share: what status a collection has (`NetworkerStatus`),
which of its counts are backed (`NetworkerCounts`), what its policy gauges show over a history
(`PolicyGauges`), and what the writer makes of its payload.  They take the collection apart at two
places.  `Carries` is what a payload keeps of its parse, so that facts about records survive the
way to the writer; and `NetworkerCollection.parsed` is what a collection has in hand before it
publishes, so that facts about gauges can be read off a parse.

The clock is read twice, by the report and by the result, and both readings belong to the
collection.  Where the payload comes from is `Clients/NetworkerAttempts`; here it is an argument.
-/
import BackupCollector.Parsers.NetworkerPayload
import BackupCollector.Collectors.Base
import BackupCollector.Clients.Rest
import BackupCollector.Py.Store

namespace BackupCollector

open Py

variable [Unicode]

/-! ## 1. The payload

The summary that is stored is the summary that is published.  The counts of failed endpoints become
`null` in it, after the parser has counted them. -/

/-- `_mark_failed_endpoint_counts_unknown` -/
def markFailedEndpointCountsUnknown (summary errors : Obj) : Obj :=
  let summary := if lit "jobs" ∈ Dict.keys errors then Dict.set summary "job_count" .null else summary
  if lit "backups" ∈ Dict.keys errors then
    Dict.set (Dict.set summary "backup_count" .null) "total_backup_bytes" .null
  else summary

/-- The summary a collection publishes and stores. -/
def collectedSummary (raw : Obj) (parsed : Parsed) : Obj :=
  markFailedEndpointCountsUnknown parsed.summary (endpointErrors raw)

/-- The payload `_collect_payload_for_class` returns. -/
def collectedPayload (raw : Obj) (parsed : Parsed) : Obj := [
  ("summary", .obj (collectedSummary raw parsed)),
  ("jobs", .arr (parsed.jobs.map .obj)),
  ("backups", .arr (parsed.backups.map .obj)),
  ("clients", .arr (parsed.clients.map .obj)),
  ("policies", .arr (parsed.policies.map .obj)),
  ("workflows", .arr (parsed.workflows.map .obj)),
  ("monthly_report", .arr (parsed.monthlyReport.map .obj)),
  ("raw", .obj raw),
  ("collection_status", .str (if (endpointErrors raw).isEmpty then "success" else "partial")),
  ("endpoint_errors", .obj (endpointErrors raw))]

/-- `_collect_payload_for_class`: `raw` is what the client returned or raised. -/
def networkerPayload (c : CollectorConfig) (raw : Except Err Obj) (now : Instant) : Except Err Obj := do
  let payloads ← raw
  let parsed ← parseNetworkerRestPayload payloads c.name (optional c.sourceNetworker) now
  return collectedPayload payloads parsed

/-- What a payload shares with the parse it was assembled from: the lists of records and what the
summary says of the source.  The counts may differ, since some are taken back. -/
structure Carries (payload : Obj) (parsed : Parsed) : Prop where
  jobs : Obj.get payload "jobs" = .arr (parsed.jobs.map .obj)
  backups : Obj.get payload "backups" = .arr (parsed.backups.map .obj)
  clients : Obj.get payload "clients" = .arr (parsed.clients.map .obj)
  policies : Obj.get payload "policies" = .arr (parsed.policies.map .obj)
  workflows : Obj.get payload "workflows" = .arr (parsed.workflows.map .obj)
  source : ∃ summary, Obj.get payload "summary" = .obj summary ∧
    Obj.get summary "source_networker" = Obj.get parsed.summary "source_networker"

omit [Unicode] in
theorem get_markFailed {summary errors : Obj} {k : Str}
    (h : k ≠ lit "job_count" ∧ k ≠ lit "backup_count" ∧ k ≠ lit "total_backup_bytes") :
    Obj.get (markFailedEndpointCountsUnknown summary errors) k = Obj.get summary k := by
  obtain ⟨h1, h2, h3⟩ := h
  unfold markFailedEndpointCountsUnknown
  split <;> split <;> simp [Obj.get_set, Ne.symm h1, Ne.symm h2, Ne.symm h3]

omit [Unicode] in
theorem toObj_carries (parsed : Parsed) : Carries parsed.toObj parsed := by
  constructor
  case source => exact ⟨parsed.summary, by simp [Parsed.toObj], rfl⟩
  all_goals simp [Parsed.toObj]

omit [Unicode] in
theorem collectedPayload_carries (raw : Obj) (parsed : Parsed) :
    Carries (collectedPayload raw parsed) parsed := by
  constructor
  case source =>
    refine ⟨collectedSummary raw parsed, by simp [collectedPayload], ?_⟩
    exact get_markFailed (by simp)
  all_goals simp [collectedPayload]

/-! ## 2. One collection

A collection that raised has a result too, with nothing of the payload in it. -/

/-- What one collection of a NetWorker collector meets: its class, what the client returned or
raised, and two readings of the clock. -/
structure NetworkerCollection where
  collectionClass : CollectionClass
  raw : Except Err Obj
  clock : Instant
  collectedAt : Instant

/-- The result of one collection. -/
def NetworkerCollection.result (isFile : Str → Bool) (c : CollectorConfig) (x : NetworkerCollection) :
    Except Err CollectionResult :=
  collect isFile c (networkerPayload c x.raw x.clock) x.collectedAt x.collectionClass

/-- The responses were obtained and parsed, all of them or some. -/
def NetworkerCollection.delivers (c : CollectorConfig) (x : NetworkerCollection) : Bool :=
  (networkerPayload c x.raw x.clock).isOk

/-- The items of one endpoint that a collection received. -/
def NetworkerCollection.items (x : NetworkerCollection) (key : Str) : List Obj :=
  match x.raw with
  | .ok payloads => BackupCollector.items (Obj.get payloads key) key
  | .error _ => []

/-- A delivered payload carries a parse with the configured source. -/
theorem networkerPayload_eq_ok {c : CollectorConfig} {s : Source}
    (hs : validateSourceNetworker (optional c.sourceNetworker) = .ok s) {raw : Except Err Obj} {now : Instant}
    {payload : Obj} (h : networkerPayload c raw now = .ok payload) :
    ∃ payloads parsed, raw = .ok payloads ∧ ParsesTo payloads c.name s parsed ∧ Carries payload parsed := by
  obtain ⟨payloads, hraw, h⟩ := bind_eq_ok.mp h
  obtain ⟨parsed, hparsed, h⟩ := bind_eq_ok.mp h
  obtain ⟨source, hsource, hto⟩ := parse_eq_ok hparsed
  obtain rfl : source = s := Except.ok.inj (hsource.symm.trans hs)
  rw [← Except.ok.inj h]
  exact ⟨payloads, parsed, hraw, hto, collectedPayload_carries payloads parsed⟩

/-- The collector of the core source. -/
def networkerCore : CollectorConfig where
  name := "networker_core"
  type := "Networker"
  protocol := "rest"
  enabled := true
  baseUrl := some "https://networker.example:9090"
  username := some "monitor"
  password := some "secret"
  sourceNetworker := some "core"

/-! ## 3. The gauges

The publisher decides by the class which families of gauges it writes: with no class, all of them. -/

/-- The gauges the reachability and policy results are about. -/
inductive Metric where
  | deviceUp | networkerApiUp | zfsApiUp
  | networkerJobSuccessCount | networkerJobFailedCount | networkerJobRunningCount
  | networkerWorkflowCount | networkerClientCount
deriving DecidableEq, Repr

/-- A gauge child: its metric and its label values. -/
abbrev Child := Metric × List Str

/-- One `labels(...).set(...)`. -/
abbrev GaugeWrite := Child × Int

/-- The number a summary count is. -/
def countOf : Json → Int
  | .int n => n
  | _ => 0

/-- `_publish_domain_policy_metric` -/
def publishDomainPolicyMetric (metric : Metric) (server : Str) (values : Json) : List GaugeWrite :=
  match values with
  | .obj domains => domains.flatMap fun d =>
    match d.2 with
    | .obj policies => policies.map fun p => ((metric, [server, p.1, d.1]), countOf p.2)
    | _ => []
  | _ => []

/-- Does a class carry jobs, as the publisher sees it? -/
def carriesJobs : Option CollectionClass → Bool
  | none | some .fast | some .jobs => true
  | _ => false

/-- Does a class carry the inventory? -/
def carriesInventory : Option CollectionClass → Bool
  | none | some .slow | some .inventory => true
  | _ => false

/-- The job gauges and the summary field each of them is published from. -/
def jobGauges : List (Metric × Str) := [
  (.networkerJobSuccessCount, "job_success_count_by_domain_policy"),
  (.networkerJobFailedCount, "job_failed_count_by_domain_policy"),
  (.networkerJobRunningCount, "job_running_count_by_domain_policy")]

/-- The class a collection fetches and publishes: all of them when there is one schedule only. -/
def activeClass (schedules : List (CollectionClass × ScheduleConfig)) (collectionClass : CollectionClass) :
    Option CollectionClass :=
  if 1 < schedules.length then some collectionClass else none

/-- `_publish_metrics` -/
def publishMetrics (name : Str) (summary : Obj) (collectionClass : Option CollectionClass) :
    List GaugeWrite :=
  let stated := Obj.get summary "server"
  let server := if stated.truthy then Json.toStr stated else name
  [((.networkerApiUp, [server]), 1)] ++
    (if carriesInventory collectionClass then
      match Obj.get summary "client_count_by_domain" with
      | .obj domains => domains.map fun d => ((.networkerClientCount, [server, d.1]), countOf d.2)
      | _ => []
    else []) ++
    (if carriesJobs collectionClass then
      jobGauges.flatMap fun g => publishDomainPolicyMetric g.1 server (Obj.get summary g.2)
    else []) ++
    (if carriesInventory collectionClass then
      publishDomainPolicyMetric .networkerWorkflowCount server
        (Obj.get summary "workflow_count_by_domain_policy")
    else [])

/-- What a collection has before it publishes: its active class, the responses and their parse. -/
def NetworkerCollection.parsed (c : CollectorConfig) (x : NetworkerCollection) :
    Except Err (Option CollectionClass × Obj × Parsed) := do
  let schedules ← c.effectiveSchedules
  let payloads ← x.raw
  let parsed ← parseNetworkerRestPayload payloads c.name (optional c.sourceNetworker) x.clock
  return (activeClass schedules x.collectionClass, payloads, parsed)

/-- The gauge writes of a collection; one that raises before it publishes has none. -/
def NetworkerCollection.gaugeWrites (c : CollectorConfig) (x : NetworkerCollection) : List GaugeWrite :=
  match x.parsed c with
  | .ok (collectionClass, payloads, parsed) =>
    publishMetrics c.name (collectedSummary payloads parsed) collectionClass
  | .error _ => []

end BackupCollector
