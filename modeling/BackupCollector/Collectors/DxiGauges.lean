/-
# The DXi collector: gauges

A DXi collection counts its alerts under severities that are always there, so it sets all of their
children, with a zero where there is nothing to count.  Unlike those of a Data Domain, the alert
gauges of a DXi therefore show the latest collection that was published, whatever the ones before
it showed (`alerts_latest`).

The statement is about every history.  Collections that could not reach the device, or whose texts
could not be read, publish nothing and do not count; a gauge then shows a collection that is old,
but one that did happen.  How old it is, is not in the gauge.

The proof has two halves that do not touch.  The counts of a summary are right for every severity
and there are no others, by an induction over the tickets.  And of all the writes of a collection
the alert loop alone writes alert children, one for each count, so the last write of a child is its
count.  `Py/Gauges` has the rest: a child that every run sets shows the last run.

The children are those under the name of the latest collection.  A device that was renamed leaves
its old ones behind, and nothing is said of them.
-/
import BackupCollector.Collectors.Base
import BackupCollector.Collectors.DxiCli
import BackupCollector.Py.Gauges

namespace BackupCollector.DxiCli

open Py

/-! ## 1. What a collection publishes

The gauges in the order of the source.  The children of interfaces and virtual libraries are set
for the rows there are. -/

/-- The gauges of a DXi. -/
inductive Gauge where
  | deviceUp | deviceCapacityTotalBytes | deviceCapacityUsedBytes | deviceCapacityAvailableBytes
  | deviceCapacityUsedPercent | deviceDedupRatio | backupDedupRatio | dxiTotalReductionRatio
  | dxiCompressionRatio | backupCompRatio | deviceAlertCount | deviceInterfaceUp | dxiVtlOnline
  | dxiVtlDedupEnabled
deriving DecidableEq, Repr

/-- One `labels(...).set(...)`: the gauge, its label values, the number. -/
abbrev Write := (Gauge × List Str) × Json

section Publish

variable [Unicode]

/-- The writes of one interface. -/
def publishInterface (deviceName : Str) (item : Obj) : Write :=
  ((.deviceInterfaceUp, [lit "dxi", deviceName, Json.toStr (Obj.get item "name")]), Obj.get item "up")

/-- The writes of one virtual library. -/
def publishVtl (deviceName : Str) (vtl : Obj) : List Write :=
  let labels := [deviceName, Json.toStr (Obj.get vtl "name")]
  [((.dxiVtlOnline, labels), Obj.get vtl "online"),
   ((.dxiVtlDedupEnabled, labels), .int (if (Obj.get vtl "dedup_enabled").truthy then 1 else 0))]

/-- The child of a severity. -/
def alertChild (deviceName severity : Str) : Gauge × List Str := (.deviceAlertCount, [lit "dxi", deviceName, severity])

/-- `_publish_metrics` -/
def publishMetrics (name : Str) (summary : Obj) : List Write :=
  let deviceName := deviceLabel name (Obj.get summary "device_name")
  let device := [lit "dxi", deviceName]
  let capacity := sectionOf summary "capacity"
  let reduction := sectionOf summary "data_reduction"
  ((Gauge.deviceUp, device), .int 1) ::
    Gauges.setIfKnown (Gauge.deviceCapacityTotalBytes, device) (Obj.get capacity "total_bytes") ++
    Gauges.setIfKnown (Gauge.deviceCapacityUsedBytes, device) (Obj.get capacity "used_bytes") ++
    Gauges.setIfKnown (Gauge.deviceCapacityAvailableBytes, device) (Obj.get capacity "available_bytes") ++
    Gauges.setIfKnown (Gauge.deviceCapacityUsedPercent, device) (Obj.get capacity "used_percent") ++
    Gauges.setIfKnown (Gauge.deviceDedupRatio, device) (Obj.get summary "dedup_ratio") ++
    Gauges.setIfKnown (Gauge.backupDedupRatio, device) (Obj.get summary "dedup_ratio") ++
    Gauges.setIfKnown (Gauge.dxiTotalReductionRatio, [deviceName]) (Obj.get reduction "total_reduction_ratio") ++
    Gauges.setIfKnown (Gauge.dxiCompressionRatio, [deviceName]) (Obj.get reduction "compression_ratio") ++
    Gauges.setIfKnown (Gauge.backupCompRatio, device) (Obj.get reduction "compression_ratio") ++
    Gauges.setEach (alertChild deviceName) (sectionOf summary "alert_counts") ++
    (rowsOf summary "interfaces").map (publishInterface deviceName) ++
    (rowsOf summary "vtls").flatMap (publishVtl deviceName)

/-- The summary of a collection, when the commands ran and their texts were read. -/
def collectedSummary (name : Str) (run : Except Err DxiCliResult) : Except Err Obj := do
  let result ← run
  parseDxiCliOutputs result.outputs name

/-- The gauge writes of a collection; one that raises before it publishes has none. -/
def gaugeWrites (name : Str) (run : Except Err DxiCliResult) : List Write :=
  match collectedSummary name run with
  | .ok summary => publishMetrics name summary
  | .error _ => []

/-! ## 2. The alert counts

Four severities and a total.  A ticket whose priority is not known is unclassified, and so are the
administrative alerts, all of them. -/

/-- What a ticket is counted under. -/
def ticketSeverity (ticket : Record) : Str := (Dict.get? priorityMap (lower (Dict.get? ticket "Priority"))).getD "unclassified"

/-- The number of alerts of a severity.  Administrative alerts have no severity of their own, and
the total counts every alert. -/
def alertsOf (adminAlerts tickets : List Record) (severity : Str) : Nat :=
  if severity = lit "total" then adminAlerts.length + tickets.length
  else tickets.countP (fun ticket => decide (ticketSeverity ticket = severity)) +
    if severity = lit "unclassified" then adminAlerts.length else 0

/-- The tickets are counted one by one, and no severity comes to be counted that was not. -/
theorem countTickets_get? {tickets : List Record} {counts counts' : Dict Str Nat}
    (h : tickets.foldlM countTicket counts = .ok counts') (severity : Str) : Dict.get? counts' severity =
      (Dict.get? counts severity).map (· + tickets.countP fun ticket => decide (ticketSeverity ticket = severity)) := by
  induction tickets generalizing counts with
  | nil =>
    rw [← Except.ok.inj h]
    simp
  | cons ticket tickets ih =>
    rw [List.foldlM_cons] at h
    obtain ⟨next, hnext, h⟩ := bind_eq_ok.mp h
    obtain ⟨count, hcount, hnext⟩ := bind_eq_ok.mp hnext
    rw [ih h, ← Except.ok.inj hnext, Dict.get?_set, List.countP_cons]
    have hold : Dict.get? counts (ticketSeverity ticket) = some count := by
      unfold item at hcount
      cases hget : Dict.get? counts (ticketSeverity ticket) with
      | none =>
        unfold ticketSeverity at hget
        rw [hget] at hcount
        cases hcount
      | some n =>
        unfold ticketSeverity at hget
        rw [hget] at hcount
        rw [Except.ok.inj hcount]
    by_cases hseverity : ticketSeverity ticket = severity
    · subst hseverity
      rw [hold]
      simp [ticketSeverity]
      omega
    · have hne : ¬ (Dict.get? priorityMap (lower (Dict.get? ticket "Priority"))).getD (lit "unclassified") = severity := hseverity
      simp [hne, hseverity]

/-- The severities a DXi reports. -/
def reported : List Str := lit "total" :: severities

theorem ticketSeverity_mem (ticket : Record) : ticketSeverity ticket ∈ severities := severity_mem _

/-- The counters the tickets start with. -/
def initialCounts (adminAlerts : List Record) : Dict Str Nat :=
  [(lit "critical", 0), (lit "warning", 0), (lit "info", 0), (lit "unclassified", adminAlerts.length)]

omit [Unicode] in
theorem initialCounts_get? (adminAlerts : List Record) (severity : Str) : Dict.get? (initialCounts adminAlerts) severity =
    if severity ∈ severities then some (if severity = lit "unclassified" then adminAlerts.length else 0) else none := by
  by_cases hmem : severity ∈ severities
  · rw [if_pos hmem]
    simp only [severities, List.mem_cons, List.not_mem_nil, or_false] at hmem
    rcases hmem with rfl | rfl | rfl | rfl
    all_goals simp [initialCounts]
  · rw [if_neg hmem]
    simp only [severities, List.mem_cons, List.not_mem_nil, or_false, not_or] at hmem
    obtain ⟨hcritical, hwarning, hinfo, hunclassified⟩ := hmem
    simp [initialCounts, Ne.symm hcritical, Ne.symm hwarning, Ne.symm hinfo, Ne.symm hunclassified]

/-- Every severity is counted, and so are all alerts; nothing else is. -/
theorem alertCounts_get? {adminAlerts tickets : List Record} {counts : Dict Str Nat}
    (h : alertCounts adminAlerts tickets = .ok counts) (severity : Str) : Dict.get? counts severity =
      if severity ∈ reported then some (alertsOf adminAlerts tickets severity) else none := by
  obtain ⟨counted, hcounted, h⟩ := bind_eq_ok.mp h
  have hget : Dict.get? counted severity = _ := countTickets_get? hcounted severity
  have hinitial : Dict.get? (initialCounts adminAlerts) severity = _ := initialCounts_get? adminAlerts severity
  rw [← Except.ok.inj h, Dict.get?_set, hget]
  by_cases htotal : lit "total" = severity
  · subst htotal
    simp [reported, alertsOf]
  · rw [if_neg htotal]
    unfold initialCounts at hinitial
    rw [hinitial]
    by_cases hmem : severity ∈ severities
    · simp [reported, hmem, alertsOf, Ne.symm htotal, Nat.add_comm]
    · simp [reported, hmem, Ne.symm htotal]

/-- An alert of no reported severity does not exist. -/
theorem alertsOf_eq_zero {severity : Str} (h : severity ∉ reported) (adminAlerts tickets : List Record) :
    alertsOf adminAlerts tickets severity = 0 := by
  obtain ⟨htotal, hmem⟩ := not_or.mp (fun hor => h (List.mem_cons.mpr hor))
  have hnone : ∀ ticket ∈ tickets, ¬ decide (ticketSeverity ticket = severity) = true := by
    intro ticket _ hticket
    exact hmem (of_decide_eq_true hticket ▸ ticketSeverity_mem ticket)
  have hunclassified : severity ≠ lit "unclassified" := fun heq => hmem (heq ▸ by decide)
  rw [alertsOf, if_neg htotal, if_neg hunclassified, List.countP_eq_zero.mpr hnone]

/-- The total counts every alert once. -/
theorem alertsOf_total (adminAlerts tickets : List Record) :
    alertsOf adminAlerts tickets (lit "total") = (severities.map (alertsOf adminAlerts tickets)).sum := by
  have hpartition : tickets.length = (severities.map fun severity =>
      tickets.countP fun ticket => decide (ticketSeverity ticket = severity)).sum := by
    induction tickets with
    | nil => rfl
    | cons ticket tickets ih =>
      have hmem := ticketSeverity_mem ticket
      simp only [severities, List.mem_cons, List.not_mem_nil, or_false] at hmem
      rw [List.length_cons, ih]
      rcases hmem with h | h | h | h
      all_goals
        simp [severities, h, List.countP_cons]
        try omega
  simp [alertsOf, severities] at hpartition ⊢
  omega

/-! ## 3. After any history

First the writes of one collection, then the history. -/

omit [Unicode] in
theorem alertChild_injective (deviceName : Str) : Function.Injective (alertChild deviceName) := by
  intro severity severity' h
  simpa [alertChild] using h

/-- The alert gauges are written by the alert loop only. -/
theorem filter_publishMetrics (name : Str) (summary : Obj) :
    (publishMetrics name summary).filter (Gauges.isOf .deviceAlertCount) =
      Gauges.setEach (alertChild (deviceLabel name (Obj.get summary "device_name"))) (sectionOf summary "alert_counts") := by
  have hinterfaces : ∀ deviceName (rows : List Obj),
      (rows.map (publishInterface deviceName)).filter (Gauges.isOf .deviceAlertCount) = [] :=
    fun deviceName => Gauges.filter_map_of_ne fun _ => by simp [publishInterface]
  have hvtls : ∀ deviceName (rows : List Obj),
      (rows.flatMap (publishVtl deviceName)).filter (Gauges.isOf .deviceAlertCount) = [] :=
    fun deviceName => Gauges.filter_flatMap_of_nil fun _ => by simp [publishVtl]
  have halerts : ∀ deviceName (counts : Obj), (Gauges.setEach (alertChild deviceName) counts).filter
      (Gauges.isOf Gauge.deviceAlertCount) = Gauges.setEach (alertChild deviceName) counts :=
    fun deviceName counts => Gauges.filter_setEach Gauge.deviceAlertCount (fun severity => [lit "dxi", deviceName, severity]) counts
  simp [publishMetrics, Gauges.filter_setIfKnown, hinterfaces, hvtls, halerts]

/-- The alert counts of a summary were counted off the alerts and tickets of its texts. -/
theorem alert_counts_eq {outputs : Dict Str Str} {name : Str} {summary : Obj} (h : parseDxiCliOutputs outputs name = .ok summary) :
    ∃ counts, alertCounts (parseRecords (output outputs "admin_alerts")) (parseRecords (output outputs "service_tickets")) = .ok counts ∧
      sectionOf summary "alert_counts" = counts.map fun p => (p.1, .int p.2) := by
  obtain ⟨state, -, h⟩ := bind_eq_ok.mp h
  obtain ⟨reduction, -, h⟩ := bind_eq_ok.mp h
  obtain ⟨counts, hcounts, h⟩ := bind_eq_ok.mp h
  obtain ⟨capacity, -, h⟩ := bind_eq_ok.mp h
  obtain ⟨interfaces, -, h⟩ := bind_eq_ok.mp h
  refine ⟨counts, hcounts, ?_⟩
  rw [← Except.ok.inj h]
  simp [sectionOf, Json.asObj?]

theorem alertCounts_nodup {adminAlerts tickets : List Record} {counts : Dict Str Nat}
    (h : alertCounts adminAlerts tickets = .ok counts) : (Dict.keys counts).Nodup := by
  obtain ⟨counted, hcounted, h⟩ := bind_eq_ok.mp h
  rw [← Except.ok.inj h]
  refine Dict.nodup_keys_set ?_ _ _
  refine foldlM_invariant (P := fun counts : Dict Str Nat => (Dict.keys counts).Nodup) (fun acc ticket acc' hacc hpass => ?_)
    ?_ hcounted
  · obtain ⟨count, -, hpass⟩ := bind_eq_ok.mp hpass
    rw [← Except.ok.inj hpass]
    exact Dict.nodup_keys_set hacc _ _
  · simp [Dict.keys]

/-- A collection that publishes sets the child of every severity it reports, and no other alert. -/
theorem lastWrite_publishMetrics {outputs : Dict Str Str} {name : Str} {summary : Obj}
    (h : parseDxiCliOutputs outputs name = .ok summary) (severity : Str) :
    Dict.lastWrite (publishMetrics name summary) (alertChild (deviceLabel name (Obj.get summary "device_name")) severity) =
      if severity ∈ reported then
        some (.int (alertsOf (parseRecords (output outputs "admin_alerts")) (parseRecords (output outputs "service_tickets")) severity))
      else none := by
  obtain ⟨counts, hcounts, hsection⟩ := alert_counts_eq h
  have hnodup := alertCounts_nodup hcounts
  have hkeys : Dict.keys (counts.map fun p => (p.1, Json.int p.2)) = Dict.keys counts := by simp [Dict.keys, Function.comp_def]
  have hvalue := Dict.get?_filterMap hnodup (fun _ n => some (Json.int n)) severity
  simp only [Option.map_some, List.filterMap_eq_map'] at hvalue
  rw [alertChild, ← Gauges.lastWrite_filter_isOf, filter_publishMetrics, hsection]
  refine (Gauges.lastWrite_setEach (alertChild_injective _) (by rw [hkeys]; exact hnodup) severity).trans ?_
  rw [hvalue, alertCounts_get? hcounts]
  by_cases hmem : severity ∈ reported
  · rw [if_pos hmem, if_pos hmem]
    rfl
  · rw [if_neg hmem, if_neg hmem]
    rfl

/-- No collection sets the child of a severity that is not reported. -/
theorem lastWrite_of_unreported {name deviceName severity : Str} (hseverity : severity ∉ reported)
    (run : Except Err DxiCliResult) : Dict.lastWrite (gaugeWrites name run) (alertChild deviceName severity) = none := by
  unfold gaugeWrites
  cases hsummary : collectedSummary name run with
  | error e => rfl
  | ok summary =>
    dsimp only
    obtain ⟨result, -, hparse⟩ := bind_eq_ok.mp hsummary
    obtain ⟨counts, hcounts, hsection⟩ := alert_counts_eq hparse
    rw [alertChild, ← Gauges.lastWrite_filter_isOf, filter_publishMetrics, hsection]
    refine Dict.lastWrite_eq_none fun w hw hkey => ?_
    obtain ⟨alert, halert, rfl⟩ := List.mem_map.mp hw
    obtain ⟨p, hp, rfl⟩ := List.mem_map.mp halert
    have hcounted : (Dict.get? counts p.1).isSome = true := Dict.get?_isSome_iff.mpr (List.mem_map_of_mem hp)
    rw [alertCounts_get? hcounts] at hcounted
    obtain ⟨-, rfl⟩ : deviceLabel name (Obj.get summary "device_name") = deviceName ∧ p.1 = severity := by
      simpa [alertChild] using hkey
    rw [if_neg hseverity] at hcounted
    cases hcounted

/-- What the child of a severity reads after a list of collections, `0` before it is first set. -/
def alertGauge (name deviceName severity : Str) (runs : List (Except Err DxiCliResult)) : Json :=
  Gauges.shown (gaugeWrites name) (.int 0) (alertChild deviceName severity) runs

/-- **The alert gauges of a DXi show the latest collection that was published**: after any history
and any failures since, every severity reads the number of its alerts there, none if there are
none.  The total is one of the severities. -/
theorem alerts_latest {name : Str} {result : DxiCliResult} {summary : Obj}
    (h : parseDxiCliOutputs result.outputs name = .ok summary) {earlier later : List (Except Err DxiCliResult)}
    (hlater : ∀ run ∈ later, (collectedSummary name run).isOk = false) (severity : Str) :
    alertGauge name (deviceLabel name (Obj.get summary "device_name")) severity (earlier ++ .ok result :: later) =
      .int (alertsOf (parseRecords (output result.outputs "admin_alerts"))
        (parseRecords (output result.outputs "service_tickets")) severity) := by
  have hsilent : ∀ run ∈ later, gaugeWrites name run = [] := by
    intro run hrun
    have hfails := hlater run hrun
    unfold gaugeWrites
    cases hsummary : collectedSummary name run with
    | error e => rfl
    | ok summary =>
      rw [hsummary] at hfails
      cases hfails
  unfold alertGauge
  by_cases hseverity : severity ∈ reported
  · have hset := lastWrite_publishMetrics h severity
    rw [if_pos hseverity] at hset
    have hpublished : gaugeWrites name (.ok result) = publishMetrics name summary := by
      have hsummary : collectedSummary name (.ok result) = .ok summary := h
      unfold gaugeWrites
      rw [hsummary]
    rw [← List.singleton_append, ← List.append_assoc]
    rw [Gauges.shown_append_of_none _ _ fun run hrun => by rw [hsilent run hrun]; rfl]
    exact Gauges.shown_concat_of_some _ _ (by rw [hpublished]; exact hset)
  · rw [alertsOf_eq_zero hseverity]
    exact (Gauges.shown_append_of_none _ [] fun run _ => lastWrite_of_unreported hseverity run).trans
      (Gauges.shown_nil _ _ _)

end Publish

section Example

attribute [local instance] Unicode.ascii

/-- The texts of a device with one open ticket of a priority. -/
def ticketed (priority : Str) : DxiCliResult where
  outputs := [("service_tickets", lit "[Ticket 1]" ++ [chr '\n'] ++ lit "Priority = " ++ priority)]
  errors := []

/-- A collection that could not reach the device. -/
def unreachable : Except Err DxiCliResult := .error ⟨.other, "timed out"⟩

/-- A critical ticket is replaced by an informational one, and then the device cannot be reached. -/
theorem alerts_latest_replaced : ∃ summary, parseDxiCliOutputs (ticketed "Low").outputs "dxi01" = .ok summary ∧
    alertGauge "dxi01" (deviceLabel "dxi01" (Obj.get summary "device_name")) "critical" ([.ok (ticketed "High")] ++ .ok (ticketed "Low") :: [unreachable]) =
      .int 0 ∧
    alertGauge "dxi01" (deviceLabel "dxi01" (Obj.get summary "device_name")) "info" ([.ok (ticketed "High")] ++ .ok (ticketed "Low") :: [unreachable]) =
      .int 1 := by
  have hreturns : (parseDxiCliOutputs (ticketed "Low").outputs "dxi01").isOk = true := by decide +kernel
  have hlater : ∀ run ∈ [unreachable], (collectedSummary "dxi01" run).isOk = false := by
    intro run hrun
    obtain rfl := List.mem_singleton.mp hrun
    rfl
  obtain ⟨summary, hsummary⟩ := isOk_iff.mp hreturns
  refine ⟨summary, hsummary, (alerts_latest hsummary hlater "critical").trans ?_, (alerts_latest hsummary hlater "info").trans ?_⟩
  · decide +kernel
  · decide +kernel

end Example

end BackupCollector.DxiCli
