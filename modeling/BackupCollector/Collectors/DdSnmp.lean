/-
# The Data Domain collector: gauges

A collection publishes the summary of one payload.  The alerts are counted by severity and each
severity that occurs has its gauge child set; a child whose severity is absent is left standing, so
an alert that was cleared goes on alerting.

`alertsClear_iff` says exactly when that does no harm: when no severity that occurs in a table is
missing from a later one.  It is an instance of the law of `Py/Gauges` for children that are set
only when they have something to show, and the module is mostly the proof that these gauges are of
that kind.

* Of all a collection writes, only the alert loop writes alert children (`filter_publishMetrics`).
* The loop sets the children of the severities that occur to their counts, and no others
  (`gaugeWrites_sets`).

The other writes are modelled because the first fact is about them: a gauge under the same name
anywhere else would break it.  A collection here is one that obtained its payload; one that raises
publishes nothing and changes nothing.  The history is of ONE name.  A device that is renamed
leaves its children under the old one, and nothing is said of them.
-/
import BackupCollector.Collectors.Base
import BackupCollector.Parsers.DdSnmp
import BackupCollector.Py.Gauges

namespace BackupCollector.DdSnmp

open Py Snmp

/-! ## 1. What a collection publishes

The gauges in the order of the source, each write with its label values.  A number that is not
known is not written. -/

/-- The gauges of a Data Domain. -/
inductive Gauge where
  | deviceUp | deviceCapacityTotalBytes | deviceCapacityUsedBytes | deviceCapacityUsedPercent
  | deviceDedupRatio | backupDedupRatio | backupCompRatio | backupCompressionRatio
  | backupCompressionSizeBytes | deviceAlertCount | deviceReplicationUp
  | ddDdboostUp | ddDdboostConnections | ddDdboostThroughputKbps
  | ddDdboostStorageUnitBytes | ddDdboostStorageUnitCompression
deriving DecidableEq, Repr

/-- One `labels(...).set(...)`: the gauge, its label values, the number. -/
abbrev Write := (Gauge × List Str) × Json

section Publish

variable [Unicode]

/-- The writes of one compression row. -/
def publishCompression (deviceName : Str) (compression : Obj) : List Write :=
  let period := Json.toStr (((Obj.get compression "period").orElse (Obj.get compression "instance")).orElse (.str "unknown"))
  Gauges.setIfKnown (Gauge.backupCompressionRatio, [lit "dd", deviceName, period]) (Obj.get compression "total_ratio") ++
    [lit "pre_compression", lit "post_compression"].flatMap fun stage =>
      Gauges.setIfKnown (Gauge.backupCompressionSizeBytes, [lit "dd", deviceName, period, stage]) (Obj.get compression (stage ++ lit "_bytes"))

/-- The writes of one storage unit. -/
def publishStorageUnit (deviceName : Str) (storageUnit : Obj) : List Write :=
  let name := Json.toStr ((Obj.get storageUnit "name").orElse (Obj.get storageUnit "instance"))
  ([lit "bytes", lit "metadata_bytes", lit "pre_compression_bytes", lit "report_physical_size", lit "bytes_hc"].flatMap
      fun key => Gauges.setIfKnown (Gauge.ddDdboostStorageUnitBytes, [deviceName, name, key]) (Obj.get storageUnit key)) ++
    [lit "global_compression", lit "local_compression"].flatMap fun key =>
      Gauges.setIfKnown (Gauge.ddDdboostStorageUnitCompression, [deviceName, name, key]) (Obj.get storageUnit key)

/-- The child of a severity. -/
def alertChild (deviceName severity : Str) : Gauge × List Str := (.deviceAlertCount, [lit "dd", deviceName, severity])

/-- The alert counts of a summary as the numbers they are set to. -/
def alertNumbers (alertCounts : Dict Str Nat) : Obj := alertCounts.map fun alert => (alert.1, .int alert.2)

/-- The replication gauges. -/
def publishReplication (deviceName : Str) (item : Obj) : Write :=
  ((.deviceReplicationUp, [lit "dd", deviceName, Json.toStr (Obj.get item "name")]), Obj.get item "up")

/-- `_publish_metrics` -/
def publishMetrics (name : Str) (summary : Summary) : List Write :=
  let deviceName := deviceLabel name (.str summary.deviceName)
  let device := [lit "dd", deviceName]
  let known (value : Option Float) : Json := Json.ofOption .float value
  ((.deviceUp, device), .int 1) ::
    Gauges.setIfKnown (Gauge.deviceCapacityTotalBytes, device) (known summary.capacity.totalBytes) ++
    Gauges.setIfKnown (Gauge.deviceCapacityUsedBytes, device) (known summary.capacity.usedBytes) ++
    Gauges.setIfKnown (Gauge.deviceCapacityUsedPercent, device) (known summary.capacity.usedPercent) ++
    Gauges.setIfKnown (Gauge.deviceDedupRatio, device) summary.dedupRatio ++
    Gauges.setIfKnown (Gauge.backupDedupRatio, device) summary.dedupRatio ++
    Gauges.setIfKnown (Gauge.backupCompRatio, device) summary.compressionRatio ++
    summary.compression.flatMap (publishCompression deviceName) ++
    Gauges.setEach (alertChild deviceName) (alertNumbers summary.alertCounts) ++
    summary.replication.map (publishReplication deviceName) ++
    Gauges.setIfKnown (Gauge.ddDdboostUp, [deviceName])
      (Json.ofOption (fun enabled => .int (if enabled then 1 else 0)) summary.ddboost.enabled) ++
    summary.ddboost.connections.flatMap (fun connection =>
      Gauges.setIfKnown (Gauge.ddDdboostConnections, [deviceName, connection.1]) (known connection.2)) ++
    summary.ddboost.throughputKbps.flatMap (fun stream =>
      Gauges.setIfKnown (Gauge.ddDdboostThroughputKbps, [deviceName, stream.1]) (known stream.2)) ++
    summary.ddboost.storageUnits.flatMap (publishStorageUnit deviceName)

/-- The gauge writes of a collection that obtained a payload. -/
def gaugeWrites (name : Str) (payload : SnmpPayload) : List Write :=
  publishMetrics name (parseDdSnmpPayload payload name)

/-! ## 2. The alert gauges

What the table says, and what the gauges read. -/

/-- The severities of a payload's alert table, trimmed and in lower case; a row without one is left
out. -/
def severities (payload : SnmpPayload) : List Str :=
  ((walkRows (Dict.get? payload "current_alert_severity")).map fun row => Str.lower (Str.strip row.value)).filter (· ≠ [])

/-- The name a payload is published under. -/
def publishedName (name : Str) (payload : SnmpPayload) : Str :=
  deviceLabel name (.str (parseDdSnmpPayload payload name).deviceName)

/-- The number of alerts of a severity. -/
def alertCount (severity : Str) (payload : SnmpPayload) : Json :=
  .int ((severities payload).countP fun seen => decide (seen = severity))

/-- What a child reads after a list of collections, `0` before it is first set. -/
def alertGauge (name deviceName severity : Str) (payloads : List SnmpPayload) : Json :=
  Gauges.shown (gaugeWrites name) (.int 0) (alertChild deviceName severity) payloads

omit [Unicode] in
theorem alertChild_injective (deviceName : Str) : Function.Injective (alertChild deviceName) := by
  intro severity severity' h
  simpa [alertChild] using h

/-- The alert gauges are written by the alert loop only. -/
theorem filter_publishMetrics (name : Str) (summary : Summary) :
    (publishMetrics name summary).filter (Gauges.isOf .deviceAlertCount) =
      Gauges.setEach (alertChild (deviceLabel name (.str summary.deviceName))) (alertNumbers summary.alertCounts) := by
  have hcompression : ∀ deviceName (rows : List Obj),
      (rows.flatMap (publishCompression deviceName)).filter (Gauges.isOf .deviceAlertCount) = [] :=
    fun deviceName => Gauges.filter_flatMap_of_nil fun _ => by simp [publishCompression, Gauges.filter_setIfKnown]
  have hunits : ∀ deviceName (rows : List Obj),
      (rows.flatMap (publishStorageUnit deviceName)).filter (Gauges.isOf .deviceAlertCount) = [] :=
    fun deviceName => Gauges.filter_flatMap_of_nil fun _ => by simp [publishStorageUnit, Gauges.filter_setIfKnown]
  have hreplication : ∀ deviceName (rows : List Obj),
      (rows.map (publishReplication deviceName)).filter (Gauges.isOf .deviceAlertCount) = [] :=
    fun deviceName => Gauges.filter_map_of_ne fun _ => by simp [publishReplication]
  have hddboost : ∀ gauge, gauge ≠ Gauge.deviceAlertCount → ∀ deviceName (figures : Dict Str (Option Float)),
      (figures.flatMap fun figure => Gauges.setIfKnown (gauge, [deviceName, figure.1]) (Json.ofOption .float figure.2)).filter
        (Gauges.isOf .deviceAlertCount) = [] :=
    fun gauge hne deviceName => Gauges.filter_flatMap_of_nil fun _ => Gauges.filter_setIfKnown hne _ _
  have halerts : ∀ deviceName (counts : Obj), (Gauges.setEach (alertChild deviceName) counts).filter
      (Gauges.isOf Gauge.deviceAlertCount) = Gauges.setEach (alertChild deviceName) counts :=
    fun deviceName counts => Gauges.filter_setEach Gauge.deviceAlertCount (fun severity => [lit "dd", deviceName, severity]) counts
  simp [publishMetrics, Gauges.filter_setIfKnown, hcompression, hunits, hreplication, hddboost, halerts]

/-! ## 3. One collection, and a history

A collection sets the child of each severity that occurs to its count, and leaves the others alone.
That is the shape of `Gauges.Sets`, and the history is the library's. -/

omit [Unicode] in
/-- The counts of a table, by severity. -/
theorem get?_alertNumbers (severities : List Str) (severity : Str) : Dict.get? (alertNumbers (Dict.counter severities)) severity =
    if severity ∈ severities then some (.int (severities.countP fun seen => decide (seen = severity))) else none := by
  have hvalue := Dict.get?_filterMap (Dict.nodup_keys_counter severities) (fun _ n => some (Json.int (n : Nat))) severity
  simp only [Option.map_some, List.filterMap_eq_map'] at hvalue
  refine hvalue.trans ?_
  rw [Dict.get?_counter_countP]
  split
  · rfl
  · rfl

theorem alertCount_ne_zero {severity : Str} {payload : SnmpPayload} :
    alertCount severity payload ≠ .int 0 ↔ severity ∈ severities payload := by
  simp [alertCount, List.countP_eq_zero]

/-- A collection sets the children of the severities that occur, to their counts, and no others. -/
theorem gaugeWrites_sets {name deviceName : Str} {payload : SnmpPayload} (h : publishedName name payload = deviceName)
    (severity : Str) :
    Gauges.Sets (gaugeWrites name) (alertCount severity) (.int 0) (alertChild deviceName severity) payload := by
  have hcounts : (parseDdSnmpPayload payload name).alertCounts = Dict.counter (severities payload) := rfl
  have hlabel : deviceLabel name (.str (parseDdSnmpPayload payload name).deviceName) = deviceName := h
  have hnodup : (Dict.keys (alertNumbers (Dict.counter (severities payload)))).Nodup := by
    have hkeys : Dict.keys (alertNumbers (Dict.counter (severities payload))) = Dict.keys (Dict.counter (severities payload)) := by
      simp [alertNumbers, Dict.keys, Function.comp_def]
    rw [hkeys]
    exact Dict.nodup_keys_counter _
  have hlast : Dict.lastWrite (gaugeWrites name payload) (alertChild deviceName severity) =
      Dict.get? (alertNumbers (Dict.counter (severities payload))) severity := by
    rw [gaugeWrites, alertChild, ← Gauges.lastWrite_filter_isOf, filter_publishMetrics, hcounts, hlabel]
    exact Gauges.lastWrite_setEach (alertChild_injective deviceName) hnodup severity
  unfold Gauges.Sets
  rw [hlast, get?_alertNumbers]
  by_cases hmem : severity ∈ severities payload
  · rw [if_pos hmem, if_neg (alertCount_ne_zero.mpr hmem), alertCount]
  · rw [if_neg hmem, if_pos (by_contra fun hne => hmem (alertCount_ne_zero.mp hne))]

/-- After each collection of a history, the alert gauge of every severity seen in it is the number
of alerts of that severity in the latest table. -/
def AlertsClear (name deviceName : Str) (payloads : List SnmpPayload) : Prop :=
  ∀ earlier payload, earlier ++ [payload] <+: payloads →
    ∀ severity, (∃ seen ∈ payloads, severity ∈ severities seen) →
      alertGauge name deviceName severity (earlier ++ [payload]) = alertCount severity payload

/-- **The alert gauges of a device clear exactly when no severity goes away**: one that occurs in a
collection's table occurs in every later one.  The count may go up and down as it likes, as long as
it does not reach zero. -/
theorem alertsClear_iff {name deviceName : Str} {payloads : List SnmpPayload}
    (h : ∀ payload ∈ payloads, publishedName name payload = deviceName) :
    AlertsClear name deviceName payloads ↔
      payloads.Pairwise fun earlier later => ∀ severity ∈ severities earlier, severity ∈ severities later := by
  have hlaw : ∀ severity, Gauges.ShowsLatest (gaugeWrites name) (alertCount severity) (.int 0)
      (alertChild deviceName severity) payloads ↔
      payloads.Pairwise fun earlier later => severity ∈ severities earlier → severity ∈ severities later := by
    intro severity
    rw [Gauges.shows_latest_iff fun payload hpayload => gaugeWrites_sets (h payload hpayload) severity]
    unfold Gauges.Lasting
    simp only [alertCount_ne_zero]
  constructor
  · intro hclear
    rw [List.pairwise_iff_getElem]
    intro i j hi hj hij severity hseverity
    have hshows := (hlaw severity).mp fun earlier payload hprefix =>
      hclear earlier payload hprefix severity ⟨payloads[i], List.getElem_mem hi, hseverity⟩
    exact List.pairwise_iff_getElem.mp hshows i j hi hj hij hseverity
  · intro hlasting earlier payload hprefix severity _
    exact (hlaw severity).mpr (hlasting.imp fun hab => hab severity) earlier payload hprefix

end Publish

section Example

attribute [local instance] Unicode.ascii

/-- A device with one critical alert. -/
def alerting : SnmpPayload := [
  ("system_hostname", .text "dd-a"),
  ("current_alert_severity", .rows [walkRow "1.3.6" ("1.3.6.1", " CRITICAL ")])]

/-- The device after the alert was cleared. -/
def quiet : SnmpPayload := [("system_hostname", .text "dd-a"), ("current_alert_severity", .rows [])]

/-- The gauge of a cleared alert still reads `1`. -/
theorem not_alertsClear_quiet : ¬ AlertsClear "dd01" "dd-a" [alerting, quiet] := by
  have hseen : lit "critical" ∈ severities alerting := by decide +kernel
  have hshown : alertGauge "dd01" "dd-a" "critical" [alerting, quiet] = .int 1 := by decide +kernel
  have hcount : alertCount "critical" quiet = .int 0 := by decide +kernel
  intro h
  have hgauge := h [alerting] quiet (List.prefix_refl _) "critical" ⟨alerting, by simp, hseen⟩
  have hsame : Json.int 1 = Json.int 0 := hshown.symm.trans (hgauge.trans hcount)
  cases hsame

/-- A severity that stays keeps its gauge right. -/
theorem alertsClear_iff_alerting :
    (∀ payload ∈ [alerting, alerting], publishedName "dd01" payload = lit "dd-a") ∧
      AlertsClear "dd01" "dd-a" [alerting, alerting] := by
  have hname : ∀ payload ∈ [alerting, alerting], publishedName "dd01" payload = lit "dd-a" := by
    have hone : publishedName "dd01" alerting = lit "dd-a" := by decide +kernel
    simp [hone]
  refine ⟨hname, (alertsClear_iff hname).mpr ?_⟩
  simp

end Example

end BackupCollector.DdSnmp
