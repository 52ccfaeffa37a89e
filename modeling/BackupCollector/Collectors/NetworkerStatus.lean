/-
# The status of a NetWorker collection

A collection stands on three layers: the client keeps what its endpoints failed with as a map of
errors, the collector calls a collection with errors partial, and `collect` calls every collection
that did not raise a success.  None of them asks whether anything was obtained.  When every
endpoint failed the parser is given nothing, returns, and the collection is a partial success.

`status_true_iff` puts the layers together.  The status of a collection says what became of its
endpoints exactly when three things hold: some endpoint answered; the parser gets through the
answers; and no endpoint that is named like the key of the errors answers something that is taken
for them.  The first is the one that fails in practice, and the counterexample is a server that is
down: both endpoints of an inventory collection answer 503, and the result is ok.

* The client: which endpoints answered and which failed, and that the errors are empty exactly when
  none failed (section 1).
* The collector and the base class: the parser decides whether there is a payload, the errors
  decide its status, and nothing else plays a part (`result_eq`).

Where the parser raises although every endpoint answered is the subject of `Totality`, and enters
here as its condition.  Collections that are skipped have no status and are left out.
-/
import BackupCollector.Collectors.ClassRequests
import BackupCollector.Parsers.Totality

namespace BackupCollector

open Py NetworkerRest

/-! ## 1. The results of a plan

The answers and the failures of a plan are two halves of it, each sorted into its own map. -/

namespace NetworkerRest

/-- What the requests of a plan returned or raised. -/
def planResults (c : CollectorConfig) (transport : Str → Nat → Outcome) (plan : List RequestSpec) :
    List (RequestSpec × Except Failure Json) :=
  plan.map fun request => (request, (getJson c (transport request.resultName) request).outcome)

/-- Did an endpoint answer? -/
def answered (c : CollectorConfig) (transport : Str → Nat → Outcome) (request : RequestSpec) : Bool :=
  (getJson c (transport request.resultName) request).outcome.isOk

/-- What the endpoints of a plan answered, by name. -/
def answers (c : CollectorConfig) (transport : Str → Nat → Outcome) (plan : List RequestSpec) : Obj :=
  (sortResults (planResults c transport plan)).1

/-- What they failed with. -/
def failures (c : CollectorConfig) (transport : Str → Nat → Outcome) (plan : List RequestSpec) : Obj :=
  (sortResults (planResults c transport plan)).2

theorem mem_keys_sortResult (r : RequestSpec × Except Failure Json) (acc : Obj × Obj) (name : Str) :
    (name ∈ Dict.keys (sortResult acc r).1 ↔ name ∈ Dict.keys acc.1 ∨ (r.2.isOk = true ∧ r.1.resultName = name)) ∧
      (name ∈ Dict.keys (sortResult acc r).2 ↔ name ∈ Dict.keys acc.2 ∨ (r.2.isOk = false ∧ r.1.resultName = name)) := by
  unfold sortResult
  cases r.2 with
  | ok payload => simp [Dict.mem_keys_set, Except.isOk, Except.toBool, or_comm, eq_comm]
  | error failure => simp [Dict.mem_keys_set, Except.isOk, Except.toBool, or_comm, eq_comm]

theorem mem_keys_foldl_sortResult (results : List (RequestSpec × Except Failure Json)) (acc : Obj × Obj) (name : Str) :
    (name ∈ Dict.keys (results.foldl sortResult acc).1 ↔
        name ∈ Dict.keys acc.1 ∨ ∃ r ∈ results, r.2.isOk = true ∧ r.1.resultName = name) ∧
      (name ∈ Dict.keys (results.foldl sortResult acc).2 ↔
        name ∈ Dict.keys acc.2 ∨ ∃ r ∈ results, r.2.isOk = false ∧ r.1.resultName = name) := by
  induction results generalizing acc with
  | nil => simp
  | cons r results ih =>
    obtain ⟨hok, herror⟩ := ih (sortResult acc r)
    obtain ⟨hok', herror'⟩ := mem_keys_sortResult r acc name
    rw [List.foldl_cons, hok, herror, hok', herror']
    simp only [List.exists_mem_cons_iff, or_assoc, and_self]

variable (c : CollectorConfig) (transport : Str → Nat → Outcome) (plan : List RequestSpec)

theorem mem_keys_answers (name : Str) : name ∈ Dict.keys (answers c transport plan) ↔
    ∃ request ∈ plan, answered c transport request = true ∧ request.resultName = name := by
  have h := (mem_keys_foldl_sortResult (planResults c transport plan) ([], []) name).1
  unfold answers sortResults
  rw [h]
  simp [planResults, answered, Dict.keys]

theorem mem_keys_failures (name : Str) : name ∈ Dict.keys (failures c transport plan) ↔
    ∃ request ∈ plan, answered c transport request = false ∧ request.resultName = name := by
  have h := (mem_keys_foldl_sortResult (planResults c transport plan) ([], []) name).2
  unfold failures sortResults
  rw [h]
  simp [planResults, answered, Dict.keys]

/-- There are errors when an endpoint failed. -/
theorem failures_isEmpty : (failures c transport plan).isEmpty = true ↔
    ∀ request ∈ plan, answered c transport request = true := by
  constructor
  · intro h request hrequest
    by_contra hfailed
    have hkey := (mem_keys_failures c transport plan request.resultName).mpr
      ⟨request, hrequest, Bool.eq_false_iff.mpr hfailed, rfl⟩
    rw [List.isEmpty_iff.mp h] at hkey
    cases hkey
  · intro h
    cases hfailures : failures c transport plan with
    | nil => rfl
    | cons p errors =>
      have hkey : p.1 ∈ Dict.keys (failures c transport plan) := by
        rw [hfailures]
        exact List.mem_cons_self
      obtain ⟨request, hrequest, hfailed, -⟩ := (mem_keys_failures c transport plan p.1).mp hkey
      rw [h request hrequest] at hfailed
      cases hfailed

variable {c transport plan}

/-- The payloads of a collection with a plan hold what its endpoints answered. -/
theorem get_fetched {collectionClass : Option CollectionClass} {windowEnd : Instant}
    (hplan : requestPlan c collectionClass windowEnd = .ok plan) (transport : Str → Nat → Outcome) :
    ∃ payloads, (fetchPayloads c transport collectionClass windowEnd).outcome = .ok payloads ∧
      (∀ name, name ∉ reserved → Obj.get payloads name = Obj.get (answers c transport plan) name) ∧
      endpointErrors payloads = if (failures c transport plan).isEmpty then endpointErrors (answers c transport plan)
        else failures c transport plan := by
  obtain ⟨windows, -, -, hfetch⟩ := fetchPayloads_of_plan hplan transport
  have hcombined : ∀ name, Dict.get? (combineResponses (plannedEndpoints c collectionClass) (answers c transport plan)) name =
      Dict.get? (answers c transport plan) name := by
    intro name
    rw [get?_combineResponses]
    split
    · rfl
    · rename_i hname
      cases hget : Dict.get? (answers c transport plan) name with
      | none => rfl
      | some payload =>
        have hkey := Dict.get?_isSome_iff.mp (Option.isSome_iff_exists.mpr ⟨payload, hget⟩)
        obtain ⟨request, hrequest, -, rfl⟩ := (mem_keys_answers c transport plan name).mp hkey
        exact absurd (requestPlan_names hplan ▸ List.mem_map_of_mem hrequest) hname
  refine ⟨_, congrArg Requests.outcome hfetch, fun name hname => ?_, ?_⟩
  · unfold Obj.get
    rw [get?_assemble hname]
    exact congrArg (fun found => found.getD Json.null) (hcombined name)
  · rw [endpointErrors_assemble]
    have herrors : endpointErrors (combineResponses (plannedEndpoints c collectionClass) (answers c transport plan)) =
        endpointErrors (answers c transport plan) := by
      unfold endpointErrors Obj.get
      rw [hcombined]
    exact congrArg (fun errors => if (failures c transport plan).isEmpty = true then errors else failures c transport plan)
      herrors

end NetworkerRest

/-! ## 2. One collection

The layers, from what a request returned to what the result of the collection says. -/

/-- What one collection of a NetWorker collector meets: its class, the attempts at its endpoints,
and the clocks of the fetch, of the report and of the result. -/
structure NetworkerRun where
  collectionClass : CollectionClass
  transport : Str → Nat → Outcome
  windowEnd : Instant
  clock : Instant
  collectedAt : Instant

namespace NetworkerRun

variable [Unicode] (isFile : Str → Bool) (c : CollectorConfig) (x : NetworkerRun)

/-- The requests the collection is going to make. -/
def plan : Except Err (List RequestSpec) := do
  let schedules ← c.effectiveSchedules
  requestPlan c (activeClass schedules x.collectionClass) x.windowEnd

/-- What the client hands to the collector. -/
def raw : Except Err Obj := (classRequests c x.transport x.collectionClass x.windowEnd).outcome

/-- What the collector hands to `collect`. -/
def payload : Except Err Obj := networkerPayload c (x.raw c) x.clock

/-- The result of the collection. -/
def result : Except Err CollectionResult := collect isFile c (x.payload c) x.collectedAt x.collectionClass

/-- What it writes to the metrics of the collector. -/
def writes : Except Err (List CollectorWrite) := collectWrites isFile c (x.payload c) x.collectedAt

variable {c x}

omit [Unicode] in
theorem raw_eq {plan : List RequestSpec} (hplan : x.plan c = .ok plan) :
    ∃ payloads, x.raw c = .ok payloads ∧
      (∀ name, name ∉ reserved → Obj.get payloads name = Obj.get (answers c x.transport plan) name) ∧
      endpointErrors payloads = if (failures c x.transport plan).isEmpty then endpointErrors (answers c x.transport plan)
        else failures c x.transport plan := by
  obtain ⟨schedules, hschedules, hplan⟩ := bind_eq_ok.mp hplan
  obtain ⟨payloads, hfetch, h⟩ := get_fetched hplan x.transport
  refine ⟨payloads, ?_, h⟩
  unfold raw classRequests
  rw [hschedules, Requests.lift_ok_bind]
  exact hfetch

/-- A payload is fit for the parser when what its endpoints answered is. -/
theorem fit_congr {payloads payloads' : Obj} (hjobs : Obj.get payloads "jobs" = Obj.get payloads' "jobs")
    (hbackups : Obj.get payloads "backups" = Obj.get payloads' "backups") : Fit payloads ↔ Fit payloads' := by
  constructor
  · intro h
    exact ⟨hjobs ▸ h.jobs, hbackups ▸ h.backups, hbackups ▸ h.totals⟩
  · intro h
    exact ⟨hjobs ▸ h.jobs, hbackups ▸ h.backups, hbackups ▸ h.totals⟩

/-- The status a payload is reported with. -/
def statusOf (payload : Obj) : Json := Obj.get payload "collection_status"

omit [Unicode] in
theorem statusOf_collectedPayload (raw : Obj) (parsed : Parsed) :
    statusOf (collectedPayload raw parsed) = .str (if (endpointErrors raw).isEmpty then "success" else "partial") := by
  simp [statusOf, collectedPayload]

/-- A collection that is not skipped, after it has its plan: the parser decides whether it
succeeds, and the errors which status it has. -/
theorem result_eq (hn : c.type = lit "Networker") (hr : c.protocol = lit "rest")
    (hskip : c.skipReason isFile = .ok none) {plan : List RequestSpec} (hplan : x.plan c = .ok plan) :
    ∃ result writes, x.result isFile c = .ok result ∧ x.writes isFile c = .ok writes ∧
      ((Fit (answers c x.transport plan) ∧ result.ok = true ∧ writes = [.total "success", .lastSuccess x.collectedAt] ∧
          statusOf result.payload = .str (if (if (failures c x.transport plan).isEmpty
            then endpointErrors (answers c x.transport plan) else failures c x.transport plan).isEmpty
              then "success" else "partial")) ∨
        (¬ Fit (answers c x.transport plan) ∧ result.ok = false ∧ writes = [.total "error"] ∧ result.payload = [])) := by
  obtain ⟨payloads, hraw, hget, herrors⟩ := raw_eq hplan
  obtain ⟨source, hsource⟩ := CollectorConfig.source_of_not_skipped hn hr hskip
  have hfit : (parseNetworkerRestPayload payloads c.name (optional c.sourceNetworker) x.clock).isOk = true ↔
      Fit (answers c x.transport plan) :=
    (parse_isOk_iff payloads c.name _ source x.clock hsource).trans
      (fit_congr (hget "jobs" (by decide)) (hget "backups" (by decide)))
  obtain ⟨result, writes, hresult, hwrites, houtcome⟩ :=
    collect_outcome isFile hskip (x.payload c) x.collectedAt x.collectionClass
  refine ⟨result, writes, hresult, hwrites, ?_⟩
  unfold payload networkerPayload at houtcome
  rw [hraw] at houtcome
  cases hparse : parseNetworkerRestPayload payloads c.name (optional c.sourceNetworker) x.clock with
  | ok parsed =>
    obtain ⟨hok, hpayload, hwritten⟩ :
        result.ok = true ∧ result.payload = collectedPayload payloads parsed ∧
          writes = [.total "success", .lastSuccess x.collectedAt] := by
      simpa [hparse, bind, Except.bind, pure, Except.pure] using houtcome
    refine Or.inl ⟨hfit.mp (by rw [hparse]; rfl), hok, hwritten, ?_⟩
    rw [hpayload, ← herrors]
    exact statusOf_collectedPayload payloads parsed
  | error e =>
    obtain ⟨hok, hpayload, hwritten⟩ : result.ok = false ∧ result.payload = [] ∧ writes = [.total "error"] := by
      simpa [hparse, bind, Except.bind, pure, Except.pure] using houtcome
    refine Or.inr ⟨fun h => ?_, hok, hwritten, hpayload⟩
    have hparsed := hfit.mpr h
    rw [hparse] at hparsed
    cases hparsed

/-! ## 3. Total failure

The direction that needs an argument is the first: a parser that is given nothing returns. -/

/-- The status says what became of the endpoints: all answered, or some of them, and none is no
success. -/
def StatusTrue (isFile : Str → Bool) (c : CollectorConfig) (x : NetworkerRun) (plan : List RequestSpec) : Prop :=
  ∃ result writes, x.result isFile c = .ok result ∧ x.writes isFile c = .ok writes ∧
    (statusOf result.payload = .str "success" ↔ ∀ request ∈ plan, answered c x.transport request = true) ∧
    (statusOf result.payload = .str "partial" ↔ (∃ request ∈ plan, answered c x.transport request = false) ∧
      ∃ request ∈ plan, answered c x.transport request = true) ∧
    ((∀ request ∈ plan, answered c x.transport request = false) →
      result.ok = false ∧ ∀ w ∈ writes, w ≠ .total "success" ∧ ∀ collectedAt, w ≠ .lastSuccess collectedAt)

/-- Without jobs and backups there is nothing the parser could fail at. -/
theorem fit_of_no_items {payloads : Obj} (hjobs : items (Obj.get payloads "jobs") "jobs" = [])
    (hbackups : items (Obj.get payloads "backups") "backups" = []) : Fit payloads := by
  refine ⟨fun item hitem => ?_, fun item hitem => ?_, fun pair => ?_⟩
  · rw [hjobs] at hitem
    cases hitem
  · rw [hbackups] at hitem
    cases hitem
  · have hzero : (trueDiv 0 (1000 ^ 4)).isOk = true :=
      isOk_iff.mpr ((trueDiv_of_small (by decide) (by decide)).imp fun _ hf => hf.1)
    rw [hbackups]
    exact hzero

/-- No endpoint answered: the parser is given nothing, and returns. -/
theorem fit_of_all_failed {plan : List RequestSpec} (h : ∀ request ∈ plan, answered c x.transport request = false) :
    Fit (answers c x.transport plan) := by
  have hnone : answers c x.transport plan = [] := by
    cases hanswers : answers c x.transport plan with
    | nil => rfl
    | cons p payloads =>
      have hkey : p.1 ∈ Dict.keys (answers c x.transport plan) := by
        rw [hanswers]
        exact List.mem_cons_self
      obtain ⟨request, hrequest, hok, -⟩ := (mem_keys_answers c x.transport plan p.1).mp hkey
      rw [h request hrequest] at hok
      cases hok
  rw [hnone]
  exact fit_of_no_items rfl rfl

/-- A status that is true needs an answer: total failure is reported as a success. -/
theorem StatusTrue.exists_answered {plan : List RequestSpec} (hn : c.type = lit "Networker")
    (hr : c.protocol = lit "rest") (hskip : c.skipReason isFile = .ok none) (hplan : x.plan c = .ok plan)
    (h : StatusTrue isFile c x plan) : ∃ request ∈ plan, answered c x.transport request = true := by
  by_contra hnone
  have hfailed : ∀ request ∈ plan, answered c x.transport request = false := by
    intro request hrequest
    exact Bool.eq_false_iff.mpr fun hok => hnone ⟨request, hrequest, hok⟩
  obtain ⟨result, writes, hresult, -, -, -, htotal⟩ := h
  obtain ⟨result', writes', hresult', -, hcases⟩ := result_eq isFile hn hr hskip hplan
  obtain rfl := Except.ok.inj (hresult.symm.trans hresult')
  rcases hcases with ⟨-, hok, -⟩ | ⟨hunfit, -⟩
  · rw [(htotal hfailed).1] at hok
    cases hok
  · exact hunfit (fit_of_all_failed hfailed)

/-- **Total failure is not success**, exactly when an endpoint answered, the parser gets through
the answers, and no answer of an endpoint that is named like the errors is taken for them.  The
collector is one that runs, and its plan was made; a plan that cannot be made is a failure, and is
reported as one. -/
theorem status_true_iff (c : CollectorConfig) (hn : c.type = lit "Networker") (hr : c.protocol = lit "rest")
    (hskip : c.skipReason isFile = .ok none) (x : NetworkerRun) (plan : List RequestSpec) (hplan : x.plan c = .ok plan) :
    StatusTrue isFile c x plan ↔
      (∃ request ∈ plan, answered c x.transport request = true) ∧ Fit (answers c x.transport plan) ∧
        ¬ ((∀ request ∈ plan, answered c x.transport request = true) ∧ endpointErrors (answers c x.transport plan) ≠ []) := by
  have hempty := failures_isEmpty c x.transport plan
  obtain ⟨result', writes', hresult', hwrites', hcases⟩ := result_eq isFile hn hr hskip hplan
  constructor
  · intro h
    have hanswered := h.exists_answered isFile hn hr hskip hplan
    obtain ⟨result, writes, hresult, -, hsuccess, hincomplete, -⟩ := h
    obtain rfl := Except.ok.inj (hresult.symm.trans hresult')
    refine ⟨hanswered, ?_, fun hforged => ?_⟩
    · rcases hcases with ⟨hfit, -⟩ | ⟨-, -, -, hpayload⟩
      · exact hfit
      · have hnull : statusOf result.payload = .null := by
          rw [hpayload]
          rfl
        rw [hnull] at hsuccess hincomplete
        by_cases hall : ∀ request ∈ plan, answered c x.transport request = true
        · exact absurd (hsuccess.mpr hall) (by simp)
        · push Not at hall
          obtain ⟨request, hrequest, hfailed⟩ := hall
          exact absurd (hincomplete.mpr ⟨⟨request, hrequest, Bool.eq_false_iff.mpr hfailed⟩, hanswered⟩) (by simp)
    · rcases hcases with ⟨-, -, -, hstatus⟩ | ⟨-, -, -, hpayload⟩
      · rw [if_pos (hempty.mpr hforged.1), if_neg (fun h => hforged.2 (List.isEmpty_iff.mp h))] at hstatus
        have hsuccess := hsuccess.mpr hforged.1
        rw [hstatus] at hsuccess
        exact absurd hsuccess (by decide)
      · have hsuccess := hsuccess.mpr hforged.1
        rw [hpayload] at hsuccess
        cases hsuccess
  · rintro ⟨hanswered, hfit, hforged⟩
    refine ⟨result', writes', hresult', hwrites', ?_⟩
    obtain ⟨-, hok, hwritten, hstatus⟩ := hcases.resolve_right fun h => h.1 hfit
    have hsome : ¬ ∀ request ∈ plan, answered c x.transport request = false := by
      intro hnone
      obtain ⟨request, hrequest, hok⟩ := hanswered
      rw [hnone request hrequest] at hok
      cases hok
    by_cases hall : ∀ request ∈ plan, answered c x.transport request = true
    · have hnone : endpointErrors (answers c x.transport plan) = [] := by
        by_contra hne
        exact hforged ⟨hall, hne⟩
      have hstatus : statusOf result'.payload = .str "success" := by
        rw [hstatus, if_pos (hempty.mpr hall), hnone]
        rfl
      rw [hstatus]
      refine ⟨⟨fun _ => hall, fun _ => rfl⟩, ⟨fun h => absurd h (by decide), ?_⟩, fun h => absurd h hsome⟩
      rintro ⟨⟨request, hrequest, hfailed⟩, -⟩
      rw [hall request hrequest] at hfailed
      cases hfailed
    · have hfailures := fun h => hall (hempty.mp h)
      rw [if_neg hfailures, if_neg hfailures] at hstatus
      rw [hstatus]
      push Not at hall
      obtain ⟨request, hrequest, hfailed⟩ := hall
      refine ⟨⟨fun h => absurd h (by decide), fun h => absurd (h request hrequest) hfailed⟩,
        ⟨fun _ => ⟨⟨request, hrequest, Bool.eq_false_iff.mpr hfailed⟩, hanswered⟩, fun _ => rfl⟩,
        fun h => absurd h hsome⟩

end NetworkerRun

section Example

attribute [local instance] Unicode.ascii

theorem inventoryTime_lt : 63922494600000000 < maxDays * usPerDay := by decide

/-- The inventory collection of a collector that also schedules jobs. -/
def inventoryRun (transport : Str → Nat → Outcome) : NetworkerRun where
  collectionClass := .inventory
  transport := transport
  windowEnd := ⟨63922494600000000, inventoryTime_lt⟩
  clock := ⟨63922494600000000, inventoryTime_lt⟩
  collectedAt := ⟨63922494600000000, inventoryTime_lt⟩

/-- Jobs and the inventory, each on its own schedule. -/
def twoClasses : CollectorConfig := scheduled { jobs := some {}, inventory := some {} }

def inventoryPlan : List RequestSpec := [
  ⟨"clients", "clients", .str "nwrestapi/v3/global/clients",
    [("fl", "resourceId,hostname,clientState,operatingSystem,backupType")]⟩,
  ⟨"policies", "policies", .str "nwrestapi/v3/global/protectionpolicies",
    [("fl", "name,comment,resourceId,workflows")]⟩]

theorem status_true_inventory :
    NetworkerRun.StatusTrue (fun _ => true) twoClasses (inventoryRun fun _ _ => .success (.obj [])) inventoryPlan := by
  refine (NetworkerRun.status_true_iff (fun _ => true) twoClasses (by decide) (by decide) (by decide +kernel)
    (inventoryRun fun _ _ => .success (.obj [])) inventoryPlan rfl).mpr ⟨?_, ?_, ?_⟩
  · exact ⟨_, List.mem_cons_self, rfl⟩
  · exact NetworkerRun.fit_of_no_items rfl rfl
  · exact fun h => h.2 rfl

/-- Both endpoints of the inventory answer with an error: the collection is ok, and partial. -/
theorem total_failure_succeeds : ¬ ∀ (isFile : Str → Bool) (c : CollectorConfig) (x : NetworkerRun)
    (plan : List RequestSpec), c.type = lit "Networker" → c.protocol = lit "rest" → c.skipReason isFile = .ok none →
    x.plan c = .ok plan → plan ≠ [] → NetworkerRun.StatusTrue isFile c x plan := by
  intro h
  have htrue := h (fun _ => true) twoClasses (inventoryRun fun _ _ => .status 503 "HTTPStatusError: 503") inventoryPlan
    (by decide) (by decide) (by decide +kernel) rfl (by simp [inventoryPlan])
  obtain ⟨request, hrequest, hok⟩ :=
    htrue.exists_answered (fun _ => true) (by decide) (by decide) (by decide +kernel) rfl
  rcases List.mem_cons.mp hrequest with rfl | hrequest
  · cases hok
  · obtain rfl := List.mem_singleton.mp hrequest
    cases hok

end Example

end BackupCollector
