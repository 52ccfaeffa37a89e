/-
# The counts of a NetWorker summary

The parser counts a response that is missing like an empty one.  A pass over the summary takes the
counts back whose endpoint failed, of jobs and of backups only: a count of clients, policies or
workflows stays, and so does every count of an endpoint that was not asked for at all.  So a zero
in a summary may be a measurement or the absence of one.

`counts_obtained_iff` draws the line: every number of the summary is of data that was obtained,
exactly when jobs and backups were asked for and clients and policies were asked for and ANSWERED.
The asymmetry is that of the pass.  A failure of the jobs is taken back, so for them it is enough
that they were asked for; a failure of the clients is not.

A class collection asks for a part of the endpoints, so by this law a collection of one class never
has all its counts backed; `counts_obtained_iff` says it for every plan.  In
`failed_clients_counted` the clients could not be obtained, and the summary says that there are
none.

The corner of the statement is an endpoint named like the key of the errors: what it answers is
taken for the errors of the collection.  `Accounted` has a case for it.
-/
import BackupCollector.Collectors.NetworkerStatus

namespace BackupCollector

open Py NetworkerRest

/-- The counts of a summary, each with the endpoint it is derived from. -/
def countSources : List (Str × Str) := [
  ("job_count", "jobs"), ("backup_count", "backups"), ("total_backup_bytes", "backups"),
  ("client_count", "clients"), ("policy_count", "policies"), ("workflow_count", "policies")]

def IsNumber : Json → Prop
  | .int _ => True
  | .float _ => True
  | _ => False

theorem not_isNumber_null : ¬ IsNumber .null := fun h => h

namespace NetworkerRun

/-! ## 1. The counts that are reported

Which numbers a summary has, before and after the pass. -/

section Summary

variable [Unicode]

/-- The parser counts everything, also what is missing. -/
theorem parsed_count_isNumber {payloads : Obj} {serverName : Str} {source : Source} {p : Parsed}
    (h : ParsesTo payloads serverName source p) : ∀ count ∈ countSources, IsNumber (Obj.get p.summary count.1) := by
  intro count hcount
  simp only [countSources, List.mem_cons, List.not_mem_nil, or_false] at hcount
  rcases hcount with rfl | rfl | rfl | rfl | rfl | rfl <;> rw [h.get_summary (by decide)] <;> trivial

omit [Unicode] in
/-- A count is taken back when its endpoint is among the errors. -/
theorem get_markFailed_count {summary errors : Obj} (hsummary : ∀ count ∈ countSources, IsNumber (Obj.get summary count.1)) :
    (∀ count ∈ countSources, count.2 = lit "jobs" ∨ count.2 = lit "backups" →
      (IsNumber (Obj.get (markFailedEndpointCountsUnknown summary errors) count.1) ↔ count.2 ∉ Dict.keys errors)) ∧
    ∀ count ∈ countSources, count.2 = lit "clients" ∨ count.2 = lit "policies" →
      IsNumber (Obj.get (markFailedEndpointCountsUnknown summary errors) count.1) := by
  simp only [countSources, List.forall_mem_cons, List.not_mem_nil, false_implies, implies_true, and_true] at hsummary ⊢
  obtain ⟨hjob, hbackup, hbytes, hclient, hpolicy, hworkflow⟩ := hsummary
  unfold markFailedEndpointCountsUnknown
  by_cases hjobs : lit "jobs" ∈ Dict.keys errors <;> by_cases hbackups : lit "backups" ∈ Dict.keys errors
  · simp [hjobs, hbackups, Obj.get_set, not_isNumber_null, hclient, hpolicy, hworkflow]
  · simp [hjobs, hbackups, Obj.get_set, not_isNumber_null, hbackup, hbytes, hclient, hpolicy, hworkflow]
  · simp [hjobs, hbackups, Obj.get_set, not_isNumber_null, hjob, hclient, hpolicy, hworkflow]
  · simp [hjobs, hbackups, hjob, hbackup, hbytes, hclient, hpolicy, hworkflow]

/-- The errors a collection reports, by endpoint. -/
def ReportedFailed (c : CollectorConfig) (x : NetworkerRun) (plan : List RequestSpec) (endpoint : Str) : Prop :=
  (∃ request ∈ plan, answered c x.transport request = false ∧ request.resultName = endpoint) ∨
    ((∀ request ∈ plan, answered c x.transport request = true) ∧
      endpoint ∈ Dict.keys (endpointErrors (answers c x.transport plan)))

/-- What a collection stores: counts of jobs and backups without an error, and all others. -/
theorem summary_of_payload {c : CollectorConfig} {x : NetworkerRun} {plan : List RequestSpec}
    (hplan : x.plan c = .ok plan) {payload : Obj} (hpayload : x.payload c = .ok payload) :
    ∃ summary, Obj.get payload "summary" = .obj summary ∧
      (∀ count ∈ countSources, count.2 = lit "jobs" ∨ count.2 = lit "backups" →
        (IsNumber (Obj.get summary count.1) ↔ ¬ ReportedFailed c x plan count.2)) ∧
      ∀ count ∈ countSources, count.2 = lit "clients" ∨ count.2 = lit "policies" →
        IsNumber (Obj.get summary count.1) := by
  obtain ⟨payloads, hraw, -, herrors⟩ := raw_eq hplan
  unfold NetworkerRun.payload networkerPayload at hpayload
  rw [hraw] at hpayload
  obtain ⟨_, hreturned, hpayload⟩ := bind_eq_ok.mp hpayload
  obtain rfl := Except.ok.inj hreturned
  obtain ⟨parsed, hparsed, hpayload⟩ := bind_eq_ok.mp hpayload
  obtain ⟨source, -, hto⟩ := parse_eq_ok hparsed
  have hmarked := @get_markFailed_count _ (endpointErrors payloads) (parsed_count_isNumber hto)
  obtain ⟨htaken, hkept⟩ := hmarked
  have hreported : ∀ endpoint, endpoint ∈ Dict.keys (endpointErrors payloads) ↔ ReportedFailed c x plan endpoint := by
    intro endpoint
    have hempty := failures_isEmpty c x.transport plan
    rw [herrors]
    unfold ReportedFailed
    split
    · rename_i hnone
      have hall := hempty.mp hnone
      refine ⟨fun h => Or.inr ⟨hall, h⟩, ?_⟩
      rintro (⟨request, hrequest, hfailed, -⟩ | ⟨-, h⟩)
      · rw [hall request hrequest] at hfailed
        cases hfailed
      · exact h
    · rename_i hsome
      rw [mem_keys_failures]
      exact ⟨Or.inl, fun h => h.resolve_right fun h => hsome (hempty.mpr h.1)⟩
  refine ⟨collectedSummary payloads parsed, ?_, fun count hcount hendpoint => ?_, hkept⟩
  · rw [← Except.ok.inj hpayload]
    simp [collectedPayload]
  · rw [← hreported]
    exact htaken count hcount hendpoint

/-! ## 2. Counts of what was obtained

A count is paired with the endpoint it is derived from.  The equivalence is by cases over the six
counts. -/

/-- The endpoint was asked for and answered.  What it answered may be empty; an empty list is an
answer. -/
def Obtained (c : CollectorConfig) (x : NetworkerRun) (plan : List RequestSpec) (endpoint : Str) : Prop :=
  ∃ request ∈ plan, answered c x.transport request = true ∧ request.resultName = endpoint

/-- The endpoint was asked for, or an endpoint that is named like the errors reports it failed. -/
def Accounted (c : CollectorConfig) (x : NetworkerRun) (plan : List RequestSpec) (endpoint : Str) : Prop :=
  endpoint ∈ plan.map RequestSpec.resultName ∨
    ((∀ request ∈ plan, answered c x.transport request = true) ∧
      endpoint ∈ Dict.keys (endpointErrors (answers c x.transport plan)))

/-- A count is a number only if its endpoint was asked for and answered. -/
def CountsObtained (c : CollectorConfig) (x : NetworkerRun) (plan : List RequestSpec) (payload : Obj) : Prop :=
  ∃ summary, Obj.get payload "summary" = .obj summary ∧
    ∀ count ∈ countSources, IsNumber (Obj.get summary count.1) → Obtained c x plan count.2

omit [Unicode] in
/-- An endpoint without an error was obtained, exactly when something accounts for it. -/
theorem accounted_iff (c : CollectorConfig) (x : NetworkerRun) (plan : List RequestSpec) (endpoint : Str) :
    (¬ ReportedFailed c x plan endpoint → Obtained c x plan endpoint) ↔ Accounted c x plan endpoint := by
  constructor
  · intro h
    by_cases hfailed : ReportedFailed c x plan endpoint
    · rcases hfailed with ⟨request, hrequest, -, rfl⟩ | hforged
      · exact Or.inl (List.mem_map_of_mem hrequest)
      · exact Or.inr hforged
    · obtain ⟨request, hrequest, -, rfl⟩ := h hfailed
      exact Or.inl (List.mem_map_of_mem hrequest)
  · intro h hfailed
    rcases h with hasked | hforged
    · obtain ⟨request, hrequest, rfl⟩ := List.mem_map.mp hasked
      cases hanswer : answered c x.transport request with
      | true => exact ⟨request, hrequest, hanswer, rfl⟩
      | false => exact absurd (Or.inl ⟨request, hrequest, hanswer, rfl⟩) hfailed
    · exact absurd (Or.inr hforged) hfailed

/-- Counts of clients and policies need the endpoints that hold them. -/
theorem CountsObtained.inventory {c : CollectorConfig} {x : NetworkerRun} {plan : List RequestSpec}
    (hplan : x.plan c = .ok plan) {payload : Obj} (hpayload : x.payload c = .ok payload)
    (h : CountsObtained c x plan payload) : Obtained c x plan "clients" ∧ Obtained c x plan "policies" := by
  obtain ⟨summary, hsummary, hcounts⟩ := h
  obtain ⟨summary', hsummary', -, hkept⟩ := summary_of_payload hplan hpayload
  obtain rfl := Json.obj.inj (hsummary.symm.trans hsummary')
  constructor
  · exact hcounts (lit "client_count", lit "clients") (by simp [countSources])
      (hkept (lit "client_count", lit "clients") (by simp [countSources]) (Or.inl rfl))
  · exact hcounts (lit "policy_count", lit "policies") (by simp [countSources])
      (hkept (lit "policy_count", lit "policies") (by simp [countSources]) (Or.inr rfl))

/-- **A count is never reported for data that was not obtained**, exactly when jobs and backups
were asked for, and clients and policies were asked for and answered.  The collection is one that
has its plan and hands over a payload; what became of the other endpoints does not matter. -/
theorem counts_obtained_iff (c : CollectorConfig) (x : NetworkerRun) (plan : List RequestSpec)
    (hplan : x.plan c = .ok plan) (payload : Obj) (hpayload : x.payload c = .ok payload) :
    CountsObtained c x plan payload ↔
      Accounted c x plan "jobs" ∧ Accounted c x plan "backups" ∧ Obtained c x plan "clients" ∧ Obtained c x plan "policies" := by
  obtain ⟨summary, hsummary, htaken, -⟩ := summary_of_payload hplan hpayload
  constructor
  · intro h
    obtain ⟨hclients, hpolicies⟩ := h.inventory hplan hpayload
    obtain ⟨summary', hsummary', hcounts⟩ := h
    obtain rfl := Json.obj.inj (hsummary.symm.trans hsummary')
    refine ⟨(accounted_iff c x plan _).mp fun hok => ?_, (accounted_iff c x plan _).mp fun hok => ?_, hclients, hpolicies⟩
    · have hcount : (lit "job_count", lit "jobs") ∈ countSources := by simp [countSources]
      exact hcounts _ hcount ((htaken _ hcount (Or.inl rfl)).mpr hok)
    · have hcount : (lit "backup_count", lit "backups") ∈ countSources := by simp [countSources]
      exact hcounts _ hcount ((htaken _ hcount (Or.inr rfl)).mpr hok)
  · rintro ⟨hjobs, hbackups, hclients, hpolicies⟩
    refine ⟨summary, hsummary, fun count hcount hnumber => ?_⟩
    have hcases := hcount
    simp only [countSources, List.mem_cons, List.not_mem_nil, or_false] at hcases
    rcases hcases with rfl | rfl | rfl | rfl | rfl | rfl
    · exact (accounted_iff c x plan _).mpr hjobs ((htaken _ hcount (Or.inl rfl)).mp hnumber)
    · exact (accounted_iff c x plan _).mpr hbackups ((htaken _ hcount (Or.inr rfl)).mp hnumber)
    · exact (accounted_iff c x plan _).mpr hbackups ((htaken _ hcount (Or.inr rfl)).mp hnumber)
    · exact hclients
    · exact hpolicies
    · exact hpolicies

end Summary

end NetworkerRun

section Example

attribute [local instance] Unicode.ascii

/-- A collection of everything, in which every endpoint answers an empty object. -/
def emptyRun : NetworkerRun where
  collectionClass := .fast
  transport := fun _ _ => .success (.obj [])
  windowEnd := ⟨63922494600000000, inventoryTime_lt⟩
  clock := ⟨63922494600000000, inventoryTime_lt⟩
  collectedAt := ⟨63922494600000000, inventoryTime_lt⟩

theorem counts_obtained_empty : ∃ plan payload, emptyRun.plan networkerCore = .ok plan ∧
    emptyRun.payload networkerCore = .ok payload ∧ NetworkerRun.CountsObtained networkerCore emptyRun plan payload := by
  obtain ⟨plan, hplan⟩ := ok_of_isOk (x := emptyRun.plan networkerCore) (by decide +kernel)
  obtain ⟨payload, hpayload⟩ := ok_of_isOk (x := emptyRun.payload networkerCore) (by decide +kernel)
  have hnames : plan.map RequestSpec.resultName = [lit "jobs", lit "clients", lit "backups", lit "policies"] := by
    obtain ⟨schedules, hschedules, hrequests⟩ := bind_eq_ok.mp hplan
    rw [requestPlan_names hrequests, ← Except.ok.inj hschedules]
    decide
  have hobtained : ∀ endpoint ∈ plan.map RequestSpec.resultName, NetworkerRun.Obtained networkerCore emptyRun plan endpoint := by
    intro endpoint hendpoint
    obtain ⟨request, hrequest, rfl⟩ := List.mem_map.mp hendpoint
    exact ⟨request, hrequest, rfl, rfl⟩
  refine ⟨plan, payload, hplan, hpayload,
    (NetworkerRun.counts_obtained_iff networkerCore emptyRun plan hplan payload hpayload).mpr ⟨?_, ?_, ?_, ?_⟩⟩
  · exact Or.inl (by simp [hnames])
  · exact Or.inl (by simp [hnames])
  · exact hobtained _ (by simp [hnames])
  · exact hobtained _ (by simp [hnames])

/-- The clients could not be obtained, and there are none. -/
theorem failed_clients_counted : ¬ ∀ (c : CollectorConfig) (x : NetworkerRun) (plan : List RequestSpec) (payload : Obj),
    x.plan c = .ok plan → x.payload c = .ok payload → NetworkerRun.CountsObtained c x plan payload := by
  intro h
  obtain ⟨payload, hpayload⟩ := ok_of_isOk
    (x := (inventoryRun fun _ _ => .status 503 "HTTPStatusError: 503").payload twoClasses) (by decide +kernel)
  have hcounts := h twoClasses (inventoryRun fun _ _ => .status 503 "HTTPStatusError: 503") inventoryPlan payload rfl hpayload
  obtain ⟨request, hrequest, hok, -⟩ := (hcounts.inventory rfl hpayload).1
  rcases List.mem_cons.mp hrequest with rfl | hrequest
  · cases hok
  · obtain rfl := List.mem_singleton.mp hrequest
    cases hok

end Example

end BackupCollector
