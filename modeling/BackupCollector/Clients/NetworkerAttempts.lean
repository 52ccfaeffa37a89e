/-
# The attempts of a NetWorker collection

What the retry loop does is said once (`attempts_ends`): it makes its attempts in order, each but
the last asking for another, and leaves with what the last came to.  Everything else in this module
follows from that and is said of the log of a whole collection.

* Every attempt has the parameters of its plan, so that no retry drops the filter of a request
  (`attempts_filtered`).
* Every planned endpoint is attempted until the first outcome that is not retried, at most
  `maxAttempts` times, and ends among the payloads or among the errors, never both and never
  neither (`ServedAsDue`).
* The line after the loop, which raises, is never reached (`not_exhausted`).

There is one exception, and `conforms_iff` is exact about it.  The wait before an attempt is a
float times a power of two; from the 1025th attempt on the power does not fit a float, the
multiplication raises outside the `try`, and the endpoint is lost with its count of attempts.  No
sensible configuration gets there.  But nothing forbids it.

The transport is a parameter, a function from an endpoint and the number of an attempt to an
outcome, so it may answer differently each time.  An endpoint that is configured under one of the
reserved names of a payload is overwritten by what the collection itself puts there, and is left
out of the account of results.
-/
import BackupCollector.Clients.NetworkerRest

namespace BackupCollector.NetworkerRest

open Py

/-! ## 1. The loop

The loop of the source counts down the passes that are left.  The statement counts up the attempts
that were made. -/

/-- Does an outcome ask for another attempt? -/
def Outcome.retried : Outcome → Bool
  | .success _ => false
  | .status code _ => decide (code = 429 ∨ 500 ≤ code)
  | .timeout _ => true
  | .other _ => false

/-- What an outcome is for the caller when it is the last. -/
def Outcome.result : Outcome → Except Str Json
  | .success payload => .ok payload
  | .status _ error => .error error
  | .timeout error => .error error
  | .other error => .error error

/-- The first attempts at a request. -/
def firstAttempts (transport : Nat → Outcome) (request : RequestSpec) (start count : Nat) : List HttpAttempt :=
  (List.range' start count).map fun i => ⟨request, i, transport i⟩

/-- How a loop ends that starts with the attempt `start`: `n` is its last. -/
structure Ends (transport : Nat → Outcome) (request : RequestSpec) (maxAttempts start : Nat)
    (run : Requests HttpAttempt Failure Json) (n : Nat) : Prop where
  started : start ≤ n
  bounded : n ≤ maxAttempts
  log : run.log = firstAttempts transport request start (n + 1 - start)
  retried : ∀ i, start ≤ i → i < n → (transport i).retried = true ∧ i ≤ 1024
  last : (((transport n).retried = false ∨ n = maxAttempts) ∧ run.outcome = (transport n).result.mapError .raised) ∨
    ((transport n).retried = true ∧ n < maxAttempts ∧ 1024 < n ∧ run.outcome = .error .backoff)

theorem firstAttempts_one (transport : Nat → Outcome) (request : RequestSpec) (start : Nat) :
    firstAttempts transport request start (start + 1 - start) = [⟨request, start, transport start⟩] := by
  rw [Nat.add_sub_cancel_left]
  rfl

theorem firstAttempts_succ (transport : Nat → Outcome) (request : RequestSpec) {start n : Nat} (h : start + 1 ≤ n) :
    firstAttempts transport request start (n + 1 - start) =
      ⟨request, start, transport start⟩ :: firstAttempts transport request (start + 1) (n + 1 - (start + 1)) := by
  have hcount : n + 1 - start = (n + 1 - (start + 1)) + 1 := by omega
  rw [hcount]
  rfl

/-- The pass of an attempt: it ends the loop, or it waits and goes on. -/
theorem attempts_pass (transport : Nat → Outcome) (request : RequestSpec) (maxAttempts left attempt : Nat) :
    attempts transport request maxAttempts (left + 1) attempt =
      if (transport attempt).retried = true ∧ attempt ≠ maxAttempts then
        ⟨⟨request, attempt, transport attempt⟩ ::
            (Requests.lift (backoff attempt) >>= fun _ => attempts transport request maxAttempts left (attempt + 1)).log,
          (Requests.lift (backoff attempt) >>= fun _ =>
            attempts transport request maxAttempts left (attempt + 1)).outcome⟩
      else ⟨[⟨request, attempt, transport attempt⟩], (transport attempt).result.mapError .raised⟩ := by
  rw [attempts, Requests.ask_bind]
  cases h : transport attempt with
  | success payload => rfl
  | status code error =>
    by_cases hclient : code ≠ 429 ∧ code < 500
    · simp [Outcome.retried, Outcome.result, Except.mapError, Requests.lift, hclient]
    · have hretried : code = 429 ∨ 500 ≤ code := by omega
      by_cases hlast : attempt = maxAttempts
      · simp [Outcome.retried, Outcome.result, Except.mapError, Requests.lift, hclient, hlast]
      · simp [Outcome.retried, hclient, hretried, hlast]
  | timeout error =>
    by_cases hlast : attempt = maxAttempts
    · simp [Outcome.retried, Outcome.result, Except.mapError, Requests.lift, hlast]
    · simp [Outcome.retried, hlast]
  | other error => rfl

/-- The loop, from any attempt on. -/
theorem attempts_ends (transport : Nat → Outcome) (request : RequestSpec) (maxAttempts left attempt : Nat)
    (hleft : attempt + (left + 1) = maxAttempts + 1) :
    ∃ n, Ends transport request maxAttempts attempt (attempts transport request maxAttempts (left + 1) attempt) n := by
  induction left generalizing attempt with
  | zero =>
    have hlast : attempt = maxAttempts := by omega
    rw [attempts_pass, if_neg (fun h => h.2 hlast)]
    refine ⟨attempt, le_rfl, hlast.le, (firstAttempts_one transport request attempt).symm, fun i h h' => ?_, ?_⟩
    · omega
    · exact Or.inl ⟨Or.inr hlast, rfl⟩
  | succ left ih =>
    rw [attempts_pass]
    split
    · rename_i hretry
      obtain ⟨hretried, -⟩ := hretry
      by_cases hwait : attempt - 1 < 1024
      · obtain ⟨n, hn⟩ := ih (attempt + 1) (by omega)
        have hback : backoff attempt = .ok () := if_pos hwait
        rw [hback, Requests.lift_ok_bind]
        have hstarted := hn.started
        refine ⟨n, by omega, hn.bounded, ?_, fun i hi hin => ?_, hn.last⟩
        · rw [firstAttempts_succ transport request hn.started, ← hn.log]
        · rcases Nat.eq_or_lt_of_le hi with rfl | hlt
          · exact ⟨hretried, by omega⟩
          · exact hn.retried i hlt hin
      · have hback : backoff attempt = .error .backoff := if_neg hwait
        rw [hback, Requests.lift_error_bind]
        refine ⟨attempt, le_rfl, by omega, (firstAttempts_one transport request attempt).symm, fun i h h' => ?_, ?_⟩
        · omega
        · exact Or.inr ⟨hretried, by omega, by omega, rfl⟩
    · rename_i hstop
      refine ⟨attempt, le_rfl, by omega, (firstAttempts_one transport request attempt).symm, fun i h h' => ?_, ?_⟩
      · omega
      · refine Or.inl ⟨Or.inl ?_, rfl⟩
        have hne : attempt ≠ maxAttempts := by omega
        cases hr : (transport attempt).retried with
        | false => rfl
        | true => exact absurd ⟨hr, hne⟩ hstop

theorem one_le_maxAttempts (c : CollectorConfig) : 1 ≤ maxAttempts c := by
  unfold maxAttempts
  omega

/-- The loop of a request. -/
theorem getJson_ends (c : CollectorConfig) (transport : Nat → Outcome) (request : RequestSpec) :
    ∃ n, Ends transport request (maxAttempts c) 1 (getJson c transport request) n := by
  have hone := one_le_maxAttempts c
  obtain ⟨left, hleft⟩ := Nat.exists_eq_add_of_le' hone
  unfold getJson
  rw [hleft]
  exact attempts_ends transport request (left + 1) left 1 (by omega)

/-- The end of the loop is never reached. -/
theorem not_exhausted (c : CollectorConfig) (transport : Nat → Outcome) (request : RequestSpec) :
    (getJson c transport request).outcome ≠ .error .exhausted := by
  obtain ⟨n, hn⟩ := getJson_ends c transport request
  rcases hn.last with ⟨-, h⟩ | ⟨-, -, -, h⟩
  · rw [h]
    cases (transport n).result with
    | ok payload => exact fun h => (nomatch h)
    | error text => exact fun h => (nomatch h)
  · rw [h]
    exact fun h => (nomatch h)

/-! ## 2. The plan

A plan is a list of requests, one for each endpoint of the class, in order.  What its requests ask
for is read off the name. -/

/-- The requests a collection is going to make, when it gets that far. -/
def requestPlan (c : CollectorConfig) (collectionClass : Option CollectionClass) (windowEnd : Instant) :
    Except Err (List RequestSpec) := do
  let windows ← queryWindows c (plannedEndpoints c collectionClass) windowEnd
  buildRequestPlan (plannedEndpoints c collectionClass) windows windowEnd c.networkerFieldFilter

/-- A dictionary comprehension over names holds what was computed for each. -/
theorem get?_of_mapM {ν : Type} {f : Str → Except Err ν} {names : List Str} {d : Dict Str ν}
    (h : (names.mapM fun name => do
      let v ← f name
      return (name, v)) = .ok d) {name : Str} (hname : name ∈ names) :
    ∃ v, Dict.get? d name = some v ∧ f name = .ok v := by
  have hall := mapM_eq_ok.mp h
  clear h
  induction hall with
  | nil => cases hname
  | cons hhead _ ih =>
    rename_i other entry names entries _
    obtain ⟨v, hv, hentry⟩ := bind_eq_ok.mp hhead
    obtain rfl := Except.ok.inj hentry
    rw [Dict.get?_cons]
    split
    · rename_i heq
      exact ⟨v, rfl, heq ▸ hv⟩
    · rename_i hne
      exact ih ((List.mem_cons.mp hname).resolve_left (Ne.symm hne))

/-- A window that was computed ends the minutes of its endpoint before the collection. -/
theorem get?_queryWindows {c : CollectorConfig} {endpoints : Obj} {windowEnd : Instant} {windows : Dict Str Instant}
    (h : queryWindows c endpoints windowEnd = .ok windows) {name : Str} (hname : name ∈ Dict.keys endpoints)
    {minutes : Int} (hminutes : Dict.get? (minutesByEndpoint c) name = some minutes) :
    ∃ start, Dict.get? windows name = some start ∧ subtractMinutes windowEnd minutes = .ok start := by
  have htimed : name ∈ Dict.keys (minutesByEndpoint c) := Dict.get?_isSome_iff.mp (by rw [hminutes]; rfl)
  obtain ⟨start, hstart, hsubtract⟩ := get?_of_mapM h (List.mem_filter.mpr ⟨hname, decide_eq_true htimed⟩)
  rw [hminutes] at hsubtract
  exact ⟨start, hstart, hsubtract⟩

/-- The parameters of a planned request are those of its name. -/
theorem params_of_mem_plan {endpoints : Obj} {windows : Dict Str Instant} {windowEnd : Instant} {fieldFilter : Bool}
    {plan : List RequestSpec} (h : buildRequestPlan endpoints windows windowEnd fieldFilter = .ok plan)
    {request : RequestSpec} (hrequest : request ∈ plan) :
    request.resultName = request.endpointName ∧ request.endpointName ∈ Dict.keys endpoints ∧
      requestParams windows windowEnd fieldFilter request.endpointName = .ok request.params := by
  obtain ⟨p, hp, hspec⟩ := exists_of_forall₂ (mapM_eq_ok.mp h) request hrequest
  obtain ⟨params, hparams, hspec⟩ := bind_eq_ok.mp hspec
  obtain rfl := Except.ok.inj hspec
  exact ⟨rfl, List.mem_map_of_mem hp, hparams⟩

/-- A plan has one request for each endpoint, in order. -/
theorem names_of_plan {endpoints : Obj} {windows : Dict Str Instant} {windowEnd : Instant} {fieldFilter : Bool}
    {plan : List RequestSpec} (h : buildRequestPlan endpoints windows windowEnd fieldFilter = .ok plan) :
    plan.map RequestSpec.resultName = Dict.keys endpoints := by
  have hall := mapM_eq_ok.mp h
  clear h
  induction hall with
  | nil => rfl
  | cons hhead _ ih =>
    obtain ⟨params, -, hspec⟩ := bind_eq_ok.mp hhead
    obtain rfl := Except.ok.inj hspec
    exact congrArg (_ :: ·) ih

/-- With its windows a plan can be built. -/
theorem buildRequestPlan_isOk {c : CollectorConfig} {endpoints : Obj} {windowEnd : Instant} {windows : Dict Str Instant}
    (h : queryWindows c endpoints windowEnd = .ok windows) (fieldFilter : Bool) :
    (buildRequestPlan endpoints windows windowEnd fieldFilter).isOk = true := by
  refine isOk_mapM.mpr fun p hp => ?_
  have hname : p.1 ∈ Dict.keys endpoints := List.mem_map_of_mem hp
  have hrange : ∀ minutes field params, Dict.get? (minutesByEndpoint c) p.1 = some minutes →
      ∃ found, rangeParams windows windowEnd p.1 field params = .ok found := by
    intro minutes field params hminutes
    obtain ⟨start, hstart, -⟩ := get?_queryWindows h hname hminutes
    unfold rangeParams
    rw [hstart]
    exact ⟨_, rfl⟩
  suffices ∃ params, requestParams windows windowEnd fieldFilter p.1 = .ok params by
    obtain ⟨params, hparams⟩ := this
    exact isOk_bind.mpr ⟨params, hparams, rfl⟩
  unfold requestParams
  split
  · rename_i hjobs
    refine hrange c.networkerJobsQueryWindowMinutes _ _ ?_
    rw [hjobs]
    rfl
  · split
    · rename_i hbackups
      refine hrange c.networkerBackupsQueryWindowMinutes _ _ ?_
      rw [hbackups]
      rfl
    · exact ⟨_, rfl⟩

/-- The parameters of a request for a closed time range, and nothing else. -/
def RangeOnly (windowEnd : Instant) (minutes : Int) (field : Str) (params : Dict Str Str) : Prop :=
  ∃ start, subtractMinutes windowEnd minutes = .ok start ∧
    params = [(lit "q", timeRangeQuery field start windowEnd)]

/-- Jobs and backups are planned with their range and without a field list. -/
theorem rangeOnly_of_planned {c : CollectorConfig} {endpoints : Obj} {windows : Dict Str Instant} {windowEnd : Instant}
    {fieldFilter : Bool} (hwindows : queryWindows c endpoints windowEnd = .ok windows) {name : Str} {params : Dict Str Str}
    (hname : name ∈ Dict.keys endpoints) (hparams : requestParams windows windowEnd fieldFilter name = .ok params) :
    (name = lit "jobs" → RangeOnly windowEnd c.networkerJobsQueryWindowMinutes "endTime" params) ∧
      (name = lit "backups" → RangeOnly windowEnd c.networkerBackupsQueryWindowMinutes "saveTime" params) := by
  constructor
  · rintro rfl
    have hminutes : Dict.get? (minutesByEndpoint c) "jobs" = some c.networkerJobsQueryWindowMinutes := rfl
    obtain ⟨start, hstart, hsubtract⟩ := get?_queryWindows hwindows hname hminutes
    have hnofl : fieldParams fieldFilter (lit "jobs") = [] := by cases fieldFilter <;> rfl
    unfold requestParams rangeParams at hparams
    rw [if_pos rfl, hstart, hnofl] at hparams
    exact ⟨start, hsubtract, (Except.ok.inj hparams).symm⟩
  · rintro rfl
    have hminutes : Dict.get? (minutesByEndpoint c) "backups" = some c.networkerBackupsQueryWindowMinutes := rfl
    obtain ⟨start, hstart, hsubtract⟩ := get?_queryWindows hwindows hname hminutes
    have hnofl : fieldParams fieldFilter (lit "backups") = [] := by cases fieldFilter <;> rfl
    unfold requestParams rangeParams at hparams
    rw [if_neg (by decide), if_pos rfl, hstart, hnofl] at hparams
    exact ⟨start, hsubtract, (Except.ok.inj hparams).symm⟩

/-! ## 3. The results

Results go to one of two maps by their kind, so what is under a name is what the request of that
name came to. -/

theorem sortResult_of_ne {r : RequestSpec × Except Failure Json} {name : Str} (h : r.1.resultName ≠ name)
    (acc : Obj × Obj) : Dict.get? (sortResult acc r).1 name = Dict.get? acc.1 name ∧
      Dict.get? (sortResult acc r).2 name = Dict.get? acc.2 name := by
  unfold sortResult
  cases r.2 with
  | ok payload => exact ⟨Dict.get?_set_ne _ _ h, rfl⟩
  | error failure => exact ⟨rfl, Dict.get?_set_ne _ _ h⟩

theorem foldl_sortResult_of_notMem {results : List (RequestSpec × Except Failure Json)} {name : Str}
    (h : name ∉ results.map fun r => r.1.resultName) (acc : Obj × Obj) :
    Dict.get? (results.foldl sortResult acc).1 name = Dict.get? acc.1 name ∧
      Dict.get? (results.foldl sortResult acc).2 name = Dict.get? acc.2 name := by
  induction results generalizing acc with
  | nil => exact ⟨rfl, rfl⟩
  | cons r results ih =>
    rw [List.map_cons, List.mem_cons, not_or] at h
    obtain ⟨h1, h2⟩ := sortResult_of_ne (Ne.symm h.1) acc
    obtain ⟨h3, h4⟩ := ih h.2 (sortResult acc r)
    exact ⟨h3.trans h1, h4.trans h2⟩

/-- Where a result of its name only is found. -/
def Sorted (sorted : Obj × Obj) (name : Str) (result : Except Failure Json) : Prop :=
  match result with
  | .ok payload => Dict.get? sorted.1 name = some payload ∧ Dict.get? sorted.2 name = none
  | .error failure => Dict.get? sorted.1 name = none ∧ Dict.get? sorted.2 name = some (.str failure.text)

theorem foldl_sortResult_of_mem {results : List (RequestSpec × Except Failure Json)}
    (hnodup : (results.map fun r => r.1.resultName).Nodup) {r : RequestSpec × Except Failure Json} (hr : r ∈ results)
    {acc : Obj × Obj} (hacc : Dict.get? acc.1 r.1.resultName = none ∧ Dict.get? acc.2 r.1.resultName = none) :
    Sorted (results.foldl sortResult acc) r.1.resultName r.2 := by
  induction results generalizing acc with
  | nil => cases hr
  | cons head results ih =>
    rw [List.map_cons, List.nodup_cons] at hnodup
    rw [List.foldl_cons]
    rcases List.mem_cons.mp hr with rfl | hr
    · obtain ⟨h1, h2⟩ := foldl_sortResult_of_notMem hnodup.1 (sortResult acc r)
      unfold Sorted
      rw [h1, h2]
      unfold sortResult
      cases r.2 with
      | ok payload => exact ⟨Dict.get?_set_self _ _ _, hacc.2⟩
      | error failure => exact ⟨hacc.1, Dict.get?_set_self _ _ _⟩
    · have hne : head.1.resultName ≠ r.1.resultName := by
        intro heq
        exact hnodup.1 (heq ▸ List.mem_map_of_mem hr)
      obtain ⟨h1, h2⟩ := sortResult_of_ne hne acc
      exact ih hnodup.2 hr ⟨h1.trans hacc.1, h2.trans hacc.2⟩

/-- A response is combined under its name. -/
theorem get?_combineResponses (endpoints responses : Obj) (name : Str) :
    Dict.get? (combineResponses endpoints responses) name =
      if name ∈ Dict.keys endpoints then Dict.get? responses name else none := by
  unfold combineResponses
  induction Dict.keys endpoints with
  | nil => rfl
  | cons other names ih =>
    rw [List.filterMap_cons]
    cases hother : Dict.get? responses other with
    | none =>
      dsimp only [Option.map_none]
      rw [ih]
      by_cases heq : name = other
      · subst heq
        simp [hother]
      · simp [heq]
    | some response =>
      dsimp only [Option.map_some]
      rw [Dict.get?_cons, ih]
      by_cases heq : other = name
      · subst heq
        simp [hother]
      · simp [heq, Ne.symm heq]

/-- The reserved names of a payload. -/
def reserved : List Str := ["_query_window", errorsKey]

theorem get?_addWindow {payloads : Obj} {name : Str} (h : name ≠ lit "_query_window") (window : Option Obj) :
    Dict.get? (addWindow payloads window) name = Dict.get? payloads name := by
  cases window with
  | none => rfl
  | some window => exact Dict.get?_set_ne _ _ (Ne.symm h)

theorem get?_assemble {endpoints : Obj} {windows : Dict Str Instant} {windowEnd : Instant} {responses errors : Obj}
    {name : Str} (hname : name ∉ reserved) :
    Dict.get? (assemble endpoints windows windowEnd responses errors) name =
      Dict.get? (combineResponses endpoints responses) name := by
  simp only [reserved, List.mem_cons, List.not_mem_nil, or_false, not_or] at hname
  unfold assemble
  dsimp only
  split
  · exact get?_addWindow hname.1 _
  · rw [Dict.get?_set_ne _ _ (Ne.symm hname.2)]
    exact get?_addWindow hname.1 _

/-- The errors of a collection: those of its requests or, when there are none, whatever stands
under their key. -/
theorem endpointErrors_assemble (endpoints : Obj) (windows : Dict Str Instant) (windowEnd : Instant)
    (responses errors : Obj) : endpointErrors (assemble endpoints windows windowEnd responses errors) =
      if errors.isEmpty then endpointErrors (combineResponses endpoints responses) else errors := by
  unfold assemble endpointErrors Obj.get
  dsimp only
  split
  · rw [get?_addWindow (by decide)]
  · rw [Dict.get?_set_self]
    rfl

/-- No endpoint has the name of the errors: they are those of the requests. -/
theorem endpointErrors_assemble_of_notMem {endpoints : Obj} {windows : Dict Str Instant} {windowEnd : Instant}
    {responses errors : Obj} (herrors : errorsKey ∉ Dict.keys endpoints) :
    endpointErrors (assemble endpoints windows windowEnd responses errors) = errors := by
  rw [endpointErrors_assemble]
  split
  · rename_i hempty
    unfold endpointErrors Obj.get
    rw [get?_combineResponses, if_neg herrors]
    exact (List.isEmpty_iff.mp hempty).symm
  · rfl

/-! ## 4. One collection

The log of a collection is that of its requests, one after another, and the attempts at one
endpoint are found in it by name. -/

/-- Where an endpoint is found after its last attempt: among the payloads, or among the errors. -/
def PlacedBy (outcome : Outcome) (name : Str) (payloads : Obj) : Prop :=
  match outcome.result with
  | .ok payload => Dict.get? payloads name = some payload ∧ name ∉ Dict.keys (endpointErrors payloads)
  | .error text => name ∉ Dict.keys payloads ∧ Dict.get? (endpointErrors payloads) name = some (.str text)

/-- An endpoint is attempted until the first outcome that is not retried, and at most `maxAttempts`
times, and ends where its last attempt puts it. -/
def ServedAsDue (transport : Nat → Outcome) (maxAttempts : Nat) (request : RequestSpec) (log : List HttpAttempt)
    (payloads : Obj) : Prop :=
  ∃ n, 1 ≤ n ∧ n ≤ maxAttempts ∧ log = firstAttempts transport request 1 n ∧
    (∀ i, 1 ≤ i → i < n → (transport i).retried = true) ∧ ((transport n).retried = false ∨ n = maxAttempts) ∧
    PlacedBy (transport n) request.resultName payloads

/-- The attempts of a log at one endpoint. -/
def attemptsAt (name : Str) (log : List HttpAttempt) : List HttpAttempt :=
  log.filter fun a => decide (a.request.endpointName = name)

/-- What a collection owes the server it asks, and its caller: jobs and backups are asked for with
their range and nothing else in every attempt, every planned endpoint is served as is due, and no
loop runs past its end. -/
structure Conforms (c : CollectorConfig) (transport : Str → Nat → Outcome) (collectionClass : Option CollectionClass)
    (windowEnd : Instant) : Prop where
  jobs : ∀ a ∈ (fetchPayloads c transport collectionClass windowEnd).log, a.request.endpointName = lit "jobs" →
    RangeOnly windowEnd c.networkerJobsQueryWindowMinutes "endTime" a.request.params
  backups : ∀ a ∈ (fetchPayloads c transport collectionClass windowEnd).log, a.request.endpointName = lit "backups" →
    RangeOnly windowEnd c.networkerBackupsQueryWindowMinutes "saveTime" a.request.params
  served : ∀ plan, requestPlan c collectionClass windowEnd = .ok plan →
    ∃ payloads, (fetchPayloads c transport collectionClass windowEnd).outcome = .ok payloads ∧
      ∀ request ∈ plan, ServedAsDue (transport request.resultName) (maxAttempts c) request
        (attemptsAt request.endpointName (fetchPayloads c transport collectionClass windowEnd).log) payloads
  reached : ∀ plan, requestPlan c collectionClass windowEnd = .ok plan → ∀ request ∈ plan,
    (getJson c (transport request.resultName) request).outcome ≠ .error .exhausted

/-- A collection that has no plan asks nothing, and one that has asks for what is planned. -/
theorem fetchPayloads_of_plan {c : CollectorConfig} {collectionClass : Option CollectionClass} {windowEnd : Instant}
    {plan : List RequestSpec} (h : requestPlan c collectionClass windowEnd = .ok plan) (transport : Str → Nat → Outcome) :
    ∃ windows, queryWindows c (plannedEndpoints c collectionClass) windowEnd = .ok windows ∧
      buildRequestPlan (plannedEndpoints c collectionClass) windows windowEnd c.networkerFieldFilter = .ok plan ∧
      fetchPayloads c transport collectionClass windowEnd =
        ⟨plan.flatMap fun request => (getJson c (transport request.resultName) request).log,
          .ok (assemble (plannedEndpoints c collectionClass) windows windowEnd
            (sortResults (plan.map fun request => (request, (getJson c (transport request.resultName) request).outcome))).1
            (sortResults (plan.map fun request =>
              (request, (getJson c (transport request.resultName) request).outcome))).2)⟩ := by
  obtain ⟨windows, hwindows, hplan⟩ := bind_eq_ok.mp h
  refine ⟨windows, hwindows, hplan, ?_⟩
  unfold fetchPayloads
  dsimp only
  rw [hwindows, Requests.lift_ok_bind, hplan, Requests.lift_ok_bind, Requests.bind_of_ok rfl]
  exact congrArg₂ Requests.mk (List.append_nil _) rfl

theorem requestPlan_names {c : CollectorConfig} {collectionClass : Option CollectionClass} {windowEnd : Instant}
    {plan : List RequestSpec} (h : requestPlan c collectionClass windowEnd = .ok plan) :
    plan.map RequestSpec.resultName = Dict.keys (plannedEndpoints c collectionClass) := by
  obtain ⟨windows, -, hplan⟩ := bind_eq_ok.mp h
  exact names_of_plan hplan

/-- A class takes its endpoints from the endpoint map. -/
theorem plannedEndpoints_sublist (c : CollectorConfig) (collectionClass : Option CollectionClass) :
    (Dict.keys (plannedEndpoints c collectionClass)).Sublist (Dict.keys (c.endpointsOr defaultEndpoints)) := by
  unfold plannedEndpoints endpointsForClass
  cases collectionClass with
  | none => exact List.Sublist.refl _
  | some collectionClass => exact List.filter_sublist.map Prod.fst

/-- The attempts a collection makes at an endpoint are those of its request. -/
theorem attemptsAt_flatMap {plan : List RequestSpec} {logs : RequestSpec → List HttpAttempt}
    (hlogs : ∀ request, ∀ a ∈ logs request, a.request = request)
    (hnodup : (plan.map RequestSpec.endpointName).Nodup) {request : RequestSpec} (hrequest : request ∈ plan) :
    attemptsAt request.endpointName (plan.flatMap logs) = logs request := by
  have hnone : ∀ other, other.endpointName ≠ request.endpointName → attemptsAt request.endpointName (logs other) = [] := by
    intro other hne
    refine List.filter_eq_nil_iff.mpr fun a ha => ?_
    rw [hlogs other a ha]
    simpa using hne
  have hall : attemptsAt request.endpointName (logs request) = logs request := by
    refine List.filter_eq_self.mpr fun a ha => ?_
    rw [hlogs request a ha]
    exact decide_eq_true rfl
  induction plan with
  | nil => cases hrequest
  | cons head plan ih =>
    rw [List.map_cons, List.nodup_cons] at hnodup
    have hsplit : attemptsAt request.endpointName ((head :: plan).flatMap logs) =
        attemptsAt request.endpointName (logs head) ++ attemptsAt request.endpointName (plan.flatMap logs) := by
      rw [List.flatMap_cons]
      exact List.filter_append ..
    rw [hsplit]
    rcases List.mem_cons.mp hrequest with rfl | hmem
    · have hrest : attemptsAt request.endpointName (plan.flatMap logs) = [] := by
        refine List.filter_eq_nil_iff.mpr fun a ha => ?_
        obtain ⟨other, hother, ha⟩ := List.mem_flatMap.mp ha
        rw [hlogs other a ha]
        have hne : other.endpointName ≠ request.endpointName := by
          intro heq
          exact hnodup.1 (heq ▸ List.mem_map_of_mem hother)
        simpa using hne
      rw [hall, hrest, List.append_nil]
    · have hne : head.endpointName ≠ request.endpointName := by
        intro heq
        exact hnodup.1 (heq ▸ List.mem_map_of_mem hmem)
      rw [hnone head hne, ih hnodup.2 hmem]
      rfl

theorem firstAttempts_request {transport : Nat → Outcome} {request : RequestSpec} {start count : Nat} :
    ∀ a ∈ firstAttempts transport request start count, a.request = request := by
  intro a ha
  obtain ⟨i, -, rfl⟩ := List.mem_map.mp ha
  rfl

theorem getJson_request (c : CollectorConfig) (transport : Nat → Outcome) (request : RequestSpec) :
    ∀ a ∈ (getJson c transport request).log, a.request = request := by
  obtain ⟨n, hn⟩ := getJson_ends c transport request
  rw [hn.log]
  exact firstAttempts_request

/-- The attempts of a collection are filtered as planned. -/
theorem attempts_filtered (c : CollectorConfig) (transport : Str → Nat → Outcome)
    (collectionClass : Option CollectionClass) (windowEnd : Instant) :
    ∀ a ∈ (fetchPayloads c transport collectionClass windowEnd).log,
      (a.request.endpointName = lit "jobs" →
        RangeOnly windowEnd c.networkerJobsQueryWindowMinutes "endTime" a.request.params) ∧
      (a.request.endpointName = lit "backups" →
        RangeOnly windowEnd c.networkerBackupsQueryWindowMinutes "saveTime" a.request.params) := by
  cases hplan : requestPlan c collectionClass windowEnd with
  | error e =>
    have hlog : (fetchPayloads c transport collectionClass windowEnd).log = [] := by
      unfold fetchPayloads
      dsimp only
      rcases bind_eq_error.mp hplan with hwindows | ⟨windows, hwindows, hplan⟩
      · rw [hwindows, Requests.lift_error_bind]
        rfl
      · rw [hwindows, Requests.lift_ok_bind, hplan, Requests.lift_error_bind]
        rfl
    rw [hlog]
    exact fun a ha => (nomatch ha)
  | ok plan =>
    obtain ⟨windows, hwindows, hbuilt, hfetch⟩ := fetchPayloads_of_plan hplan transport
    rw [hfetch]
    intro a ha
    obtain ⟨request, hrequest, ha⟩ := List.mem_flatMap.mp ha
    rw [getJson_request c _ request a ha]
    obtain ⟨-, hname, hparams⟩ := params_of_mem_plan hbuilt hrequest
    exact rangeOnly_of_planned hwindows hname hparams

/-- The loop of a request ends with its last attempt, unless the wait before the next is too long. -/
theorem ends_duly {transport : Nat → Outcome} {request : RequestSpec} {maxAttempts n : Nat}
    {run : Requests HttpAttempt Failure Json} (hn : Ends transport request maxAttempts 1 run n)
    (hwaits : maxAttempts ≤ 1025 ∨ ∃ i, 1 ≤ i ∧ i ≤ 1025 ∧ (transport i).retried = false) :
    ((transport n).retried = false ∨ n = maxAttempts) ∧ run.outcome = (transport n).result.mapError .raised := by
  rcases hn.last with h | ⟨hretried, hmax, hlong, -⟩
  · exact h
  · rcases hwaits with hfew | ⟨i, hi, hle, hstop⟩
    · omega
    · rcases Nat.lt_or_ge i n with hlt | hge
      · rw [(hn.retried i hi hlt).1] at hstop
        cases hstop
      · obtain rfl : i = n := by omega
        rw [hretried] at hstop
        cases hstop

/-- What the loop of a request ends with is where its name is found. -/
theorem placedBy_of_sorted {endpoints : Obj} {windows : Dict Str Instant} {windowEnd : Instant} {sorted : Obj × Obj}
    {name : Str} (hname : name ∈ Dict.keys endpoints) (hreserved : name ∉ reserved)
    (herrors : errorsKey ∉ Dict.keys endpoints) {outcome : Outcome}
    (h : Sorted sorted name (outcome.result.mapError .raised)) :
    PlacedBy outcome name (assemble endpoints windows windowEnd sorted.1 sorted.2) := by
  have hget : Dict.get? (assemble endpoints windows windowEnd sorted.1 sorted.2) name = Dict.get? sorted.1 name := by
    rw [get?_assemble hreserved, get?_combineResponses, if_pos hname]
  unfold PlacedBy
  rw [endpointErrors_assemble_of_notMem herrors]
  cases hresult : outcome.result with
  | ok payload =>
    rw [hresult] at h
    refine ⟨hget.trans h.1, fun hkey => ?_⟩
    have hsome := Dict.get?_isSome_iff.mpr hkey
    rw [h.2] at hsome
    cases hsome
  | error text =>
    rw [hresult] at h
    refine ⟨fun hkey => ?_, h.2⟩
    have hsome := Dict.get?_isSome_iff.mpr hkey
    rw [hget, h.1] at hsome
    cases hsome

section OneMap

variable {c : CollectorConfig} {transport : Str → Nat → Outcome} {collectionClass : Option CollectionClass}
  {windowEnd : Instant} {plan : List RequestSpec}

/-- The attempts a collection makes at a planned endpoint are those of its loop. -/
theorem attemptsAt_eq (hnodup : (Dict.keys (c.endpointsOr defaultEndpoints)).Nodup)
    (hplan : requestPlan c collectionClass windowEnd = .ok plan) {request : RequestSpec} (hrequest : request ∈ plan) :
    attemptsAt request.endpointName (fetchPayloads c transport collectionClass windowEnd).log =
      (getJson c (transport request.resultName) request).log := by
  obtain ⟨windows, -, hbuilt, hfetch⟩ := fetchPayloads_of_plan hplan transport
  rw [hfetch]
  refine attemptsAt_flatMap (fun request => getJson_request c _ request) ?_ hrequest
  have hnames : plan.map RequestSpec.endpointName = plan.map RequestSpec.resultName :=
    List.map_congr_left fun request hrequest => (params_of_mem_plan hbuilt hrequest).1.symm
  rw [hnames, requestPlan_names hplan]
  exact (plannedEndpoints_sublist c collectionClass).nodup hnodup

/-- A collection that conforms never needs the wait after a 1025th attempt. -/
theorem Conforms.waits (h : Conforms c transport collectionClass windowEnd)
    (hnodup : (Dict.keys (c.endpointsOr defaultEndpoints)).Nodup)
    (hplan : requestPlan c collectionClass windowEnd = .ok plan) {request : RequestSpec} (hrequest : request ∈ plan) :
    maxAttempts c ≤ 1025 ∨ ∃ i, 1 ≤ i ∧ i ≤ 1025 ∧ (transport request.resultName i).retried = false := by
  obtain ⟨payloads, -, hserved⟩ := h.served plan hplan
  obtain ⟨n, -, -, hattempts, -, hlast, -⟩ := hserved request hrequest
  obtain ⟨m, hm⟩ := getJson_ends c (transport request.resultName) request
  rw [attemptsAt_eq hnodup hplan hrequest, hm.log] at hattempts
  have hlength := congrArg List.length hattempts
  simp only [firstAttempts, List.length_map, List.length_range'] at hlength
  obtain rfl : m = n := by omega
  rcases hm.last with ⟨hstop, -⟩ | ⟨hretried, hmax, -, -⟩
  · have hfew : m ≤ 1025 := by
      by_contra hmany
      have := (hm.retried 1025 (by omega) (by omega)).2
      omega
    rcases hstop with hstop | hstop
    · exact Or.inr ⟨m, hm.started, hfew, hstop⟩
    · exact Or.inl (hstop ▸ hfew)
  · rcases hlast with hstop | hstop
    · rw [hretried] at hstop
      cases hstop
    · omega

/-- A planned endpoint that does not need it is served as it should be. -/
theorem served_of_waits (hnodup : (Dict.keys (c.endpointsOr defaultEndpoints)).Nodup)
    (hreserved : ∀ name ∈ reserved, name ∉ Dict.keys (c.endpointsOr defaultEndpoints))
    (hplan : requestPlan c collectionClass windowEnd = .ok plan)
    (hwaits : ∀ request ∈ plan,
      maxAttempts c ≤ 1025 ∨ ∃ i, 1 ≤ i ∧ i ≤ 1025 ∧ (transport request.resultName i).retried = false) :
    ∃ payloads, (fetchPayloads c transport collectionClass windowEnd).outcome = .ok payloads ∧
      ∀ request ∈ plan, ServedAsDue (transport request.resultName) (maxAttempts c) request
        (attemptsAt request.endpointName (fetchPayloads c transport collectionClass windowEnd).log) payloads := by
  have hsublist := plannedEndpoints_sublist c collectionClass
  obtain ⟨windows, -, hbuilt, hfetch⟩ := fetchPayloads_of_plan hplan transport
  refine ⟨_, congrArg Requests.outcome hfetch, fun request hrequest => ?_⟩
  obtain ⟨hresultName, hname, -⟩ := params_of_mem_plan hbuilt hrequest
  rw [← hresultName] at hname
  obtain ⟨n, hn⟩ := getJson_ends c (transport request.resultName) request
  obtain ⟨hstop, houtcome⟩ := ends_duly hn (hwaits request hrequest)
  refine ⟨n, hn.started, hn.bounded, ?_, fun i hi hin => (hn.retried i hi hin).1, hstop, ?_⟩
  · rw [attemptsAt_eq hnodup hplan hrequest, hn.log, Nat.add_sub_cancel]
  · refine placedBy_of_sorted hname (fun hmem => hreserved _ hmem (hsublist.subset hname))
      (fun hmem => hreserved errorsKey (by simp [reserved]) (hsublist.subset hmem)) ?_
    rw [← houtcome]
    refine foldl_sortResult_of_mem ?_ (List.mem_map_of_mem hrequest) ⟨rfl, rfl⟩
    rw [List.map_map]
    change (plan.map RequestSpec.resultName).Nodup
    rw [requestPlan_names hplan]
    exact hsublist.nodup hnodup

end OneMap

/-- **NetWorker requests are bounded and always filtered**, exactly when no endpoint needs the wait
after its 1025th attempt.  The collection is one that has its plan; one that has none makes no
request. -/
theorem conforms_iff (c : CollectorConfig) (transport : Str → Nat → Outcome)
    (collectionClass : Option CollectionClass) (windowEnd : Instant)
    (hnodup : (Dict.keys (c.endpointsOr defaultEndpoints)).Nodup)
    (hreserved : ∀ name ∈ reserved, name ∉ Dict.keys (c.endpointsOr defaultEndpoints)) :
    Conforms c transport collectionClass windowEnd ↔
      ∀ plan, requestPlan c collectionClass windowEnd = .ok plan → ∀ request ∈ plan,
        maxAttempts c ≤ 1025 ∨ ∃ i, 1 ≤ i ∧ i ≤ 1025 ∧ (transport request.resultName i).retried = false := by
  constructor
  · intro h plan hplan request hrequest
    exact h.waits hnodup hplan hrequest
  · intro hwaits
    exact ⟨fun a ha => (attempts_filtered c transport collectionClass windowEnd a ha).1,
      fun a ha => (attempts_filtered c transport collectionClass windowEnd a ha).2,
      fun plan hplan => served_of_waits hnodup hreserved hplan (hwaits plan hplan),
      fun plan _ request _ => not_exhausted c _ request⟩

/-- A NetWorker collector with the default endpoints. -/
def retrying (retries : Int) : CollectorConfig where
  name := "networker_core"
  type := "Networker"
  protocol := "rest"
  enabled := true
  retries := retries

/-- A server that never answers in time. -/
def silent : Str → Nat → Outcome := fun _ _ => .timeout "ReadTimeout: timed out"

theorem conforms_iff_one_retry : Conforms (retrying 1) silent none ⟨63922494600000000, by decide⟩ :=
  (conforms_iff (retrying 1) silent none ⟨63922494600000000, by decide⟩ (by decide) (by decide)).mpr
    fun _ _ _ _ => Or.inl (by decide)

/-- With 1025 retries a silent server is attempted 1025 times, not 1026. -/
theorem wait_too_long : ¬ ∀ (c : CollectorConfig) (transport : Str → Nat → Outcome)
    (collectionClass : Option CollectionClass) (windowEnd : Instant),
    (Dict.keys (c.endpointsOr defaultEndpoints)).Nodup →
    (∀ name ∈ reserved, name ∉ Dict.keys (c.endpointsOr defaultEndpoints)) →
    Conforms c transport collectionClass windowEnd := by
  intro h
  have hconforms := h (retrying 1025) silent (some .inventory) ⟨63922494600000000, by decide⟩ (by decide) (by decide)
  have hplan : requestPlan (retrying 1025) (some .inventory) ⟨63922494600000000, by decide⟩ =
      .ok [⟨"clients", "clients", .str "nwrestapi/v3/global/clients",
          [("fl", "resourceId,hostname,clientState,operatingSystem,backupType")]⟩,
        ⟨"policies", "policies", .str "nwrestapi/v3/global/protectionpolicies",
          [("fl", "name,comment,resourceId,workflows")]⟩] := rfl
  rcases hconforms.waits (by decide) hplan List.mem_cons_self with hfew | ⟨i, -, -, hstop⟩
  · exact absurd hfew (by decide)
  · cases hstop

end BackupCollector.NetworkerRest
