/-
# The ZFS collector

A collection fetches, parses, publishes and returns a payload that says how it went.  A failed
request leaves no payload and does not stop the others, so a collection can return with most of
the storage unseen; what keeps that honest is that the payload names every request that failed.
The failures travel by an unusual road.  Each stage files its own under a reserved key of the
dictionary it returns, the stages' dictionaries are merged, and the collector reads the key off
the last one.  A name lost on the way, or a failure overwritten by a later stage's, would turn a
partial collection into a complete one.

`collection_reported` says that none is: of a collection that returned, every request of its two
or four stages has a response in `raw` or a failure in `endpoint_errors`, no other name has
either, and the status is `success` exactly when there is no failure.  One mapping keeps the
account by `requestsKept_fetchNamed`; here it is kept stage by stage (`requestsKept_stage`), with
the reserved key kept apart from every name a stage builds.

Not covered: a collection that raises, which has no payload; and a configuration with an endpoint
NAMED `_endpoint_errors`, whose answer would take the failures' place.
-/
import BackupCollector.Collectors.ZfsRows

namespace BackupCollector.ZfsRest

open Py

section Collection

variable [Unicode] {fetch : Stage → Str → Json → Except Str Json}

/-! ## 1. Every request is accounted for

The account of a dictionary is kept against the log of the requests so far.  The first mapping of
endpoints starts it, and a merge adds the new stage's names to both sides. -/

omit [Unicode] in
/-- The failures of a merge are those of both sides. -/
theorem endpointErrors_merge {payloads fetched merged : Obj} (h : mergeFetchResult payloads fetched = .ok merged) (name : Str) :
    name ∈ Dict.keys (endpointErrors merged) ↔
      name ∈ Dict.keys (endpointErrors payloads) ∨ name ∈ Dict.keys (endpointErrors fetched) := by
  have hkept : Dict.get? (Dict.update payloads (fetched.filter fun p => decide (p.1 ≠ errorsKey))) errorsKey =
      Dict.get? payloads errorsKey := by
    refine Dict.get?_update_of_notMem fun hmem => ?_
    obtain ⟨p, hp, hkey⟩ := List.mem_map.mp hmem
    exact of_decide_eq_true (List.mem_filter.mp hp).2 hkey
  unfold mergeFetchResult at h
  dsimp only at h
  rw [hkept] at h
  split at h
  · rename_i hnone
    have hsame : endpointErrors (Dict.update payloads (fetched.filter fun p => decide (p.1 ≠ errorsKey))) =
        endpointErrors payloads := by
      rw [endpointErrors, Obj.get, hkept]
      rfl
    rw [← Except.ok.inj h, hsame, List.isEmpty_iff.mp hnone]
    simp [Dict.keys]
  · split at h
    · rename_i hfresh
      rw [← Except.ok.inj h]
      simp [endpointErrors, Obj.get, hfresh, Json.asObj?, Dict.keys]
    · rename_i errors herrors
      rw [← Except.ok.inj h]
      have hold : endpointErrors payloads = errors := by
        rw [endpointErrors, Obj.get, herrors]
        rfl
      have hnew : ∀ d : Obj, endpointErrors (Dict.set d errorsKey (.obj (Dict.update errors (endpointErrors fetched)))) =
          Dict.update errors (endpointErrors fetched) := by
        intro d
        rw [endpointErrors, Obj.get_set, if_pos rfl]
        rfl
      rw [hnew, hold, Dict.mem_keys_update]
    · cases h

omit [Unicode] in
theorem keys_merge {payloads fetched merged : Obj} (h : mergeFetchResult payloads fetched = .ok merged) {name : Str}
    (hname : name ≠ errorsKey) :
    name ∈ Dict.keys merged ↔ name ∈ Dict.keys payloads ∨ name ∈ Dict.keys fetched := by
  have hupdate : name ∈ Dict.keys (Dict.update payloads (fetched.filter fun p => decide (p.1 ≠ errorsKey))) ↔
      name ∈ Dict.keys payloads ∨ name ∈ Dict.keys fetched := by
    rw [Dict.mem_keys_update]
    refine or_congr Iff.rfl ?_
    simp only [Dict.keys, List.mem_map, List.mem_filter]
    constructor
    · rintro ⟨p, ⟨hp, -⟩, rfl⟩
      exact ⟨p, hp, rfl⟩
    · rintro ⟨p, hp, rfl⟩
      exact ⟨p, ⟨hp, decide_eq_true hname⟩, rfl⟩
  unfold mergeFetchResult at h
  dsimp only at h
  split at h
  · rw [← Except.ok.inj h]
    exact hupdate
  · split at h
    · rw [← Except.ok.inj h, Dict.mem_keys_set]
      exact (or_iff_right hname).trans hupdate
    · rw [← Except.ok.inj h, Dict.mem_keys_set]
      exact (or_iff_right hname).trans hupdate
    · cases h

omit [Unicode] in
/-- A stage accounts for what it asked, and keeps the account of the stages before it. -/
theorem requestsKept_stage {stage : Stage} {before after : Obj} {built : Except Err Obj} {log : List Str}
    (hbefore : RequestsKept log before)
    (hkinds : ∀ endpoints, built = .ok endpoints → errorsKey ∉ Dict.keys endpoints)
    (h : (fetchStage fetch stage before built).outcome = .ok after) :
    RequestsKept (log ++ (fetchStage fetch stage before built).log) after := by
  obtain ⟨endpoints, hbuilt, h⟩ := Requests.outcome_bind.mp h
  obtain ⟨fetched, hfetched, h⟩ := Requests.outcome_bind.mp h
  have hlog : (fetchStage fetch stage before built).log = Dict.keys endpoints := by
    have hinner : (fetchNamed (fetch stage) endpoints >>= fun fetched =>
        Requests.lift (mergeFetchResult before fetched)).log = Dict.keys endpoints := by
      rw [Requests.bind_of_ok hfetched, log_fetchNamed]
      exact List.append_nil _
    unfold fetchStage
    rw [Requests.bind_of_ok hbuilt]
    exact hinner
  have hstage := requestsKept_fetchNamed hfetched (hkinds endpoints hbuilt)
  rw [hlog]
  intro name
  rw [List.mem_append, hbefore name, hstage name, endpointErrors_merge h]
  by_cases hname : name = errorsKey
  · simp [hname]
  · rw [keys_merge h hname]
    tauto

omit [Unicode] in
/-- No stage asks under the key of the failures. -/
theorem errorsKey_notMem {endpoints : Obj} (h : ∀ name ∈ Dict.keys endpoints, ∃ kind ∈ kinds, lit kind <+: name) :
    errorsKey ∉ Dict.keys endpoints := by
  intro hmem
  obtain ⟨kind, hkind, rest, hrest⟩ := h errorsKey hmem
  exact kind_ne_errorsKey hkind rest hrest

/-- Every request of a fetch that returned is accounted for: its name has a payload or a failure,
and nothing else has. -/
theorem fetch_requestsKept {c : CollectorConfig} {collectionClass : Option CollectionClass} {payloads : Obj}
    (h : (fetchPayloads fetch c collectionClass).outcome = .ok payloads)
    (hreserved : errorsKey ∉ Dict.keys (configured c collectionClass)) :
    RequestsKept (fetchPayloads fetch c collectionClass).log payloads := by
  have hpoolKinds : ∀ pools endpoints, poolEndpoints pools = .ok endpoints → errorsKey ∉ Dict.keys endpoints :=
    fun pools endpoints hbuilt => errorsKey_notMem fun name hname =>
      ⟨"pool:", by decide, endpointsOfPools_keys hbuilt name hname⟩
  have hlistKinds : ∀ pools endpoints, projectListEndpoints pools = .ok endpoints → errorsKey ∉ Dict.keys endpoints :=
    fun pools endpoints hbuilt => errorsKey_notMem fun name hname =>
      ⟨"projects:", by decide, endpointsOfPools_keys hbuilt name hname⟩
  have hinventoryKinds : ∀ projects endpoints, inventoryEndpoints projects = .ok endpoints → errorsKey ∉ Dict.keys endpoints := by
    intro projects endpoints hbuilt
    refine errorsKey_notMem fun name hname => ?_
    obtain ⟨kind, hkind, hprefix⟩ := inventoryEndpoints_keys hbuilt name hname
    have hknown : ∀ a ∈ [lit "project:", lit "filesystems:", lit "luns:"], ∃ b ∈ kinds, lit b = a := by decide
    obtain ⟨b, hb, rfl⟩ := hknown kind hkind
    exact ⟨b, hb, hprefix⟩
  unfold fetchPayloads at h ⊢
  obtain ⟨first, hfirst, h⟩ := Requests.outcome_bind.mp h
  obtain ⟨second, hsecond, h⟩ := Requests.outcome_bind.mp h
  have hfirstAccount := requestsKept_fetchNamed hfirst hreserved
  have hsecondAccount := requestsKept_stage hfirstAccount (hpoolKinds _) hsecond
  rw [Requests.bind_of_ok hfirst, Requests.bind_of_ok hsecond, log_fetchNamed]
  dsimp only
  rw [← List.append_assoc]
  by_cases hclass : collectionClass = none ∨ collectionClass = some .slow
  · rw [if_pos hclass] at h ⊢
    unfold fetchInventory at h ⊢
    obtain ⟨third, hthird, hfourth⟩ := Requests.outcome_bind.mp h
    have hthirdAccount := requestsKept_stage hsecondAccount (hlistKinds _) hthird
    rw [Requests.bind_of_ok hthird]
    dsimp only
    rw [← List.append_assoc]
    exact requestsKept_stage hthirdAccount (hinventoryKinds _) hfourth
  · rw [if_neg hclass] at h ⊢
    obtain rfl : second = payloads := Except.ok.inj h
    have hnone : (pure second : Requests Str Err Obj).log = [] := rfl
    rw [hnone, List.append_nil]
    exact hsecondAccount

/-! ## 2. One collection

The active class is passed on only where the collector has more than one schedule; with one, a
collection asks for everything and writes every gauge.  The gauges are written before the payload
is made, from what was parsed, so a partial collection publishes what it has. -/

/-- The gauges of a storage. -/
inductive Gauge where
  | zfsApiUp | zfsAlertCount | zfsPoolStatus | zfsCapacityUsedPercent
deriving DecidableEq, Repr

/-- One `labels(...).set(...)`: the gauge, its label values, the number. -/
abbrev Write := (Gauge × List Str) × Json

/-- The writes of one pool. -/
def publishPool (deviceName : Str) (pool : Obj) : List Write :=
  let poolName := Json.toStr ((Obj.get pool "name").orElse (.str "unknown"))
  let usedPercent := Obj.get pool "used_percent"
  ((.zfsPoolStatus, [deviceName, poolName]), getOr pool "up" (.int 0)) ::
    if usedPercent = .null then [] else [((.zfsCapacityUsedPercent, [deviceName, poolName]), usedPercent)]

/-- `_publish_metrics` -/
def publishMetrics (name : Str) (summary : Obj) (pools : List Obj) (collectionClass : Option CollectionClass) : List Write :=
  let deviceName := deviceLabel name (Obj.get summary "device_name")
  ((.zfsApiUp, [deviceName]), .int 1) ::
    if collectionClass = none ∨ collectionClass = some .fast then
      [((.zfsAlertCount, [deviceName, lit "alert"]), getOr summary "alert_count" (.int 0)),
       ((.zfsAlertCount, [deviceName, lit "fault"]), getOr summary "fault_count" (.int 0))] ++
        pools.flatMap (publishPool deviceName)
    else []

/-- The payload of a collection. -/
def collectedPayload (raw : Obj) (parsed : Parsed) : Obj := [
  ("summary", .obj parsed.summary),
  ("pools", .arr (parsed.pools.map .obj)),
  ("projects", .arr (parsed.projects.map .obj)),
  ("filesystems", .arr (parsed.filesystems.map .obj)),
  ("luns", .arr (parsed.luns.map .obj)),
  ("alerts", .arr (parsed.alerts.map .obj)),
  ("raw", .obj raw),
  ("collection_status", .str (if (endpointErrors raw).isEmpty then "success" else "partial")),
  ("endpoint_errors", .obj (endpointErrors raw))]

variable (fetch) in
/-- `_collect_payload_for_class`: the gauge writes of a collection and its payload. -/
def collectPayloadForClass (c : CollectorConfig) (collectionClass : CollectionClass) : Requests Str Err (List Write × Obj) := do
  let schedules ← Requests.lift c.effectiveSchedules
  let active := activeClass schedules collectionClass
  let raw ← fetchPayloads fetch c active
  let parsed ← Requests.lift (parseZfsRestPayload raw c.name)
  return (publishMetrics c.name parsed.summary parsed.pools active, collectedPayload raw parsed)

/-- A collection that returned has fetched, parsed and published. -/
theorem collect_eq_ok {c : CollectorConfig} {collectionClass : CollectionClass} {writes : List Write} {payload : Obj}
    (h : (collectPayloadForClass fetch c collectionClass).outcome = .ok (writes, payload)) :
    ∃ active raw parsed, (fetchPayloads fetch c active).outcome = .ok raw ∧ parseZfsRestPayload raw c.name = .ok parsed ∧
      (collectPayloadForClass fetch c collectionClass).log = (fetchPayloads fetch c active).log ∧
      writes = publishMetrics c.name parsed.summary parsed.pools active ∧ payload = collectedPayload raw parsed := by
  obtain ⟨schedules, hschedules, hfetch⟩ := Requests.outcome_bind.mp h
  obtain ⟨raw, hraw, hparse⟩ := Requests.outcome_bind.mp hfetch
  obtain ⟨parsed, hparsed, hreturn⟩ := Requests.outcome_bind.mp hparse
  obtain ⟨rfl, rfl⟩ := Prod.mk.inj (Except.ok.inj hreturn)
  refine ⟨activeClass schedules collectionClass, raw, parsed, hraw, hparsed, ?_, rfl, rfl⟩
  unfold collectPayloadForClass
  rw [Requests.bind_of_ok hschedules, Requests.bind_of_ok hraw, Requests.bind_of_ok hparsed]
  exact List.append_nil _

omit [Unicode] in
/-- The endpoints of a collection are named after the configured ones, or the defaults. -/
theorem errorsKey_notMem_configured {c : CollectorConfig} (h : errorsKey ∉ Dict.keys c.endpoints)
    (collectionClass : Option CollectionClass) : errorsKey ∉ Dict.keys (configured c collectionClass) := by
  have hdefaults : errorsKey ∉ Dict.keys defaultEndpoints := by decide
  have hall := errorsKey_notMem_endpointsOr h hdefaults
  cases collectionClass with
  | none => exact hall
  | some collectionClass => exact fun hmem => hall ((List.filter_sublist.map Prod.fst).subset hmem)

/-- **Every request of a collection is reported**, as a response or as a failure, those of the
second stage included.  Nothing is said of a collection that raises, or of an endpoint that is
configured under the key of the failures. -/
theorem collection_reported {c : CollectorConfig} (hreserved : errorsKey ∉ Dict.keys c.endpoints)
    {collectionClass : CollectionClass} {writes : List Write} {payload : Obj}
    (h : (collectPayloadForClass fetch c collectionClass).outcome = .ok (writes, payload)) :
    Reported (collectPayloadForClass fetch c collectionClass).log payload := by
  obtain ⟨active, raw, parsed, hraw, -, hlog, -, rfl⟩ := collect_eq_ok h
  have hkept := fetch_requestsKept hraw (errorsKey_notMem_configured hreserved active)
  rw [hlog]
  refine reported_of hkept ?_ ?_ ?_
  · simp [collectedPayload]
  · simp [collectedPayload]
  · simp [collectedPayload]

end Collection

section Example

attribute [local instance] Unicode.ascii

theorem collection_reported_tank : ∃ writes payload,
    (collectPayloadForClass tankFetch tankCore .fast).outcome = .ok (writes, payload) ∧
      Reported (collectPayloadForClass tankFetch tankCore .fast).log payload := by
  have hreturns : (collectPayloadForClass tankFetch tankCore .fast).outcome.isOk = true := by decide +kernel
  obtain ⟨⟨writes, payload⟩, h⟩ := isOk_iff.mp hreturns
  exact ⟨writes, payload, h, collection_reported (by decide) h⟩

end Example

end BackupCollector.ZfsRest
