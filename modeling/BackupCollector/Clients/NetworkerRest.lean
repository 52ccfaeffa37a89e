/-
# The NetWorker client

One collection asks for the endpoints of its class, one after the other.  Jobs and backups are
asked for with a closed time range that ends at the collection instant and never with a field list;
every request has its own bounded retry loop, and what still fails is kept as a text.

The module translates the client and proves nothing about it: `NetworkerAttempts` is about the
loop, `ClassRequests` about what is asked for, `NetworkerStatus` about what becomes of it.  Three
things are kept as the source has them, because these modules depend on them.

* The order: windows first, then the plan, then the requests.  A window outside the calendar ends
  the collection before anything was asked.
* The wait before a retry, as a float that may not exist.
* The reserved names under which the errors and the window stand in the payload, next to the
  endpoints.

The transport is a parameter: what the attempts at an endpoint come to, by their number.
Concurrency is not modelled, since the requests of one collection are awaited one after the other.
The texts of exceptions are theirs.
-/
import BackupCollector.Clients.Rest
import BackupCollector.Py.Datetime
import BackupCollector.Scheduler.NextRun

namespace BackupCollector.NetworkerRest

open Py

/-! ## 1. Endpoints

The tables of the source, and the endpoints of a class among those that are configured. -/

/-- `DEFAULT_ENDPOINTS` -/
def defaultEndpoints : Dict Str Str := [
  ("jobs", "nwrestapi/v3/global/jobs"),
  ("clients", "nwrestapi/v3/global/clients"),
  ("backups", "nwrestapi/v3/global/backups"),
  ("policies", "nwrestapi/v3/global/protectionpolicies")]

/-- `FAST_ENDPOINTS` -/
def fastEndpoints : List Str := ["jobs", "backups"]

/-- `SLOW_ENDPOINTS` -/
def slowEndpoints : List Str := ["clients", "policies"]

/-- `CLASS_ENDPOINTS` -/
def classEndpoints : CollectionClass → List Str
  | .fast => fastEndpoints
  | .slow => slowEndpoints
  | .jobs => ["jobs"]
  | .backups => ["backups"]
  | .inventory => slowEndpoints

/-- `_endpoints_for_class` -/
def endpointsForClass (endpoints : Obj) (collectionClass : Option CollectionClass) : Obj :=
  match collectionClass with
  | none => endpoints
  | some collectionClass => endpoints.filter fun p => decide (p.1 ∈ classEndpoints collectionClass)

/-- The endpoints a collection asks for. -/
def plannedEndpoints (c : CollectorConfig) (collectionClass : Option CollectionClass) : Obj :=
  endpointsForClass (c.endpointsOr defaultEndpoints) collectionClass

/-! ## 2. The request plan

A request is an endpoint with its parameters.  Windows are in minutes, each endpoint with its own,
and are subtracted in the calendar, which can fail. -/

/-- `FIELD_FILTERS` -/
def fieldFilters : Dict Str Str := [
  ("clients", "resourceId,hostname,clientState,operatingSystem,backupType"),
  ("policies", "name,comment,resourceId,workflows")]

/-- `_RequestSpec` -/
structure RequestSpec where
  resultName : Str
  endpointName : Str
  endpoint : Json
  params : Dict Str Str

/-- `_format_query_time` -/
def formatQueryTime (t : Instant) : Str :=
  yearText t.year ++ lit "-" ++ Str.digitsPad 2 t.month ++ lit "-" ++ Str.digitsPad 2 t.day ++ lit "T" ++
    Str.digitsPad 2 t.hour ++ lit ":" ++ Str.digitsPad 2 t.minute ++ lit ":" ++ Str.digitsPad 2 t.second

/-- `_time_range_query` -/
def timeRangeQuery (field : Str) (start windowEnd : Instant) : Str :=
  field ++ lit ":[\"" ++ formatQueryTime start ++ lit "\" TO \"" ++ formatQueryTime windowEnd ++ lit "\"]"

/-- `window_end - timedelta(minutes=minutes)` -/
def subtractMinutes (windowEnd : Instant) (minutes : Int) : Except Err Instant :=
  let days := minutes * usPerMinute / usPerDay
  if days < -2147483648 ∨ 2147483647 < days then
    .error ⟨.overflowError, "Python int too large to convert to C int"⟩
  else if 999999999 < days.natAbs then
    .error ⟨.overflowError, lit "days=" ++ Str.ofInt days ++ lit "; must have magnitude <= 999999999"⟩
  else match Instant.ofUs (windowEnd.us - minutes * usPerMinute) with
    | some start => .ok start
    | none => .error ⟨.overflowError, "date value out of range"⟩

/-- `minutes_by_endpoint` -/
def minutesByEndpoint (c : CollectorConfig) : Dict Str Int := [
  ("jobs", c.networkerJobsQueryWindowMinutes),
  ("backups", c.networkerBackupsQueryWindowMinutes)]

/-- `_query_windows` -/
def queryWindows (c : CollectorConfig) (endpoints : Obj) (windowEnd : Instant) : Except Err (Dict Str Instant) :=
  ((Dict.keys endpoints).filter fun name => decide (name ∈ Dict.keys (minutesByEndpoint c))).mapM fun name => do
    let start ← subtractMinutes windowEnd ((Dict.get? (minutesByEndpoint c) name).getD 0)
    return (name, start)

/-- The field list of an endpoint: clients always have theirs, others with the setting. -/
def fieldParams (fieldFilter : Bool) (name : Str) : Dict Str Str :=
  if name = lit "clients" ∨ (fieldFilter = true ∧ name ∈ Dict.keys fieldFilters) then
    [("fl", (Dict.get? fieldFilters name).getD [])]
  else []

/-- The parameters of a request for a time range, which has to be there. -/
def rangeParams (queryWindows : Dict Str Instant) (windowEnd : Instant) (name field : Str) (fieldParams : Dict Str Str) :
    Except Err (Dict Str Str) :=
  match Dict.get? queryWindows name with
  | some start => .ok (Dict.update [("q", timeRangeQuery field start windowEnd)] fieldParams)
  | none => .error ⟨.keyError, name⟩

/-- The parameters `_build_request_plan` gives the request for a name. -/
def requestParams (queryWindows : Dict Str Instant) (windowEnd : Instant) (fieldFilter : Bool) (name : Str) :
    Except Err (Dict Str Str) :=
  if name = lit "jobs" then rangeParams queryWindows windowEnd name "endTime" (fieldParams fieldFilter name)
  else if name = lit "backups" then rangeParams queryWindows windowEnd name "saveTime" (fieldParams fieldFilter name)
  else .ok (fieldParams fieldFilter name)

/-- `_build_request_plan` -/
def buildRequestPlan (endpoints : Obj) (queryWindows : Dict Str Instant) (windowEnd : Instant) (fieldFilter : Bool) :
    Except Err (List RequestSpec) :=
  endpoints.mapM fun p => do
    let params ← requestParams queryWindows windowEnd fieldFilter p.1
    return ⟨p.1, p.1, p.2, params⟩

/-! ## 3. The retry loop

A pass of the loop is an attempt and what follows from its outcome. -/

/-- What one attempt comes to: the decoded response, an `HTTPStatusError`, a `TimeoutException` or
another exception, the exceptions with their class and text. -/
inductive Outcome where
  | success (payload : Json)
  | status (code : Int) (error : Str)
  | timeout (error : Str)
  | other (error : Str)

/-- One HTTP attempt: its request, its number and what it came to. -/
structure HttpAttempt where
  request : RequestSpec
  attempt : Nat
  outcome : Outcome

/-- The exceptions that leave `_get_json`. -/
inductive Failure where
  | raised (error : Str)
  | backoff
  | exhausted

/-- The class and the text of an exception. -/
def Failure.text : Failure → Str
  | .raised error => error
  | .backoff => "OverflowError: int too large to convert to float"
  | .exhausted => "RuntimeError: NetWorker REST request retry loop exited unexpectedly"

/-- `RETRY_BACKOFF_SECONDS * (2 ** (attempt - 1))`: a float times an integer, which has to fit a
float. -/
def backoff (attempt : Nat) : Except Failure Unit := if attempt - 1 < 1024 then .ok () else .error .backoff

/-- The loop of `_get_json`, with the passes that are left and the number of the next. -/
def attempts (transport : Nat → Outcome) (request : RequestSpec) (maxAttempts : Nat) :
    (left attempt : Nat) → Requests HttpAttempt Failure Json
  | 0, _ => .lift (.error .exhausted)
  | left + 1, attempt => do
    let outcome ← Requests.ask ⟨request, attempt, transport attempt⟩ (transport attempt)
    match outcome with
    | .success payload => return payload
    | .status code error =>
      if code ≠ 429 ∧ code < 500 then .lift (.error (.raised error))
      else if attempt = maxAttempts then .lift (.error (.raised error))
      else do
        Requests.lift (backoff attempt)
        attempts transport request maxAttempts left (attempt + 1)
    | .timeout error =>
      if attempt = maxAttempts then .lift (.error (.raised error))
      else do
        Requests.lift (backoff attempt)
        attempts transport request maxAttempts left (attempt + 1)
    | .other error => .lift (.error (.raised error))

/-- `max(1, self.config.retries + 1)` -/
def maxAttempts (c : CollectorConfig) : Nat := (max 1 (c.retries + 1)).toNat

/-- `_get_json` -/
def getJson (c : CollectorConfig) (transport : Nat → Outcome) (request : RequestSpec) :
    Requests HttpAttempt Failure Json :=
  attempts transport request (maxAttempts c) (maxAttempts c) 1

/-! ## 4. One collection

The results are sorted and put together with the windows they were asked for. -/

/-- Where the result of one request goes: the responses or the errors. -/
def sortResult (acc : Obj × Obj) (r : RequestSpec × Except Failure Json) : Obj × Obj :=
  match r.2 with
  | .ok payload => (Dict.set acc.1 r.1.resultName payload, acc.2)
  | .error failure => (acc.1, Dict.set acc.2 r.1.resultName (.str failure.text))

/-- The responses and the errors of a plan, by result name. -/
def sortResults (results : List (RequestSpec × Except Failure Json)) : Obj × Obj := results.foldl sortResult ([], [])

/-- `_combine_responses` -/
def combineResponses (endpoints responses : Obj) : Obj :=
  (Dict.keys endpoints).filterMap fun name => (Dict.get? responses name).map fun response => (name, response)

/-- `int((window_end - start).total_seconds() / 60)` -/
def windowMinutes (start windowEnd : Instant) : Int := (windowEnd.us - start.us : Int).tdiv usPerMinute

/-- One of the `timed_windows`. -/
def timedWindow (start windowEnd : Instant) : Obj := [
  ("start", .str (formatQueryTime start)),
  ("end", .str (formatQueryTime windowEnd)),
  ("minutes", .int (windowMinutes start windowEnd))]

/-- The start of the longest window, the first of several. -/
def longestWindow (windowEnd : Instant) : List Instant → Option Instant
  | [] => none
  | start :: starts => some (starts.foldl (fun longest next =>
      if windowMinutes longest windowEnd < windowMinutes next windowEnd then next else longest) start)

/-- What is stored under `_query_window`: the longest window, and all of them. -/
def queryWindow (windows : Dict Str Instant) (windowEnd : Instant) : Option Obj :=
  (longestWindow windowEnd (Dict.values windows)).map fun start =>
    Dict.set (timedWindow start windowEnd) "endpoints"
      (.obj (windows.map fun p => (p.1, .obj (timedWindow p.2 windowEnd))))

/-- `payloads["_query_window"] = …`, when there are windows. -/
def addWindow (payloads : Obj) : Option Obj → Obj
  | some window => Dict.set payloads "_query_window" (.obj window)
  | none => payloads

/-- The payloads of a collection, from its windows and its results. -/
def assemble (endpoints : Obj) (windows : Dict Str Instant) (windowEnd : Instant) (responses errors : Obj) : Obj :=
  let payloads := addWindow (combineResponses endpoints responses) (queryWindow windows windowEnd)
  if errors.isEmpty then payloads else Dict.set payloads errorsKey (.obj errors)

/-- `fetch_payloads`: `windowEnd` is the instant of the collection. -/
def fetchPayloads (c : CollectorConfig) (transport : Str → Nat → Outcome) (collectionClass : Option CollectionClass)
    (windowEnd : Instant) : Requests HttpAttempt Err Obj := do
  let endpoints := plannedEndpoints c collectionClass
  let windows ← Requests.lift (queryWindows c endpoints windowEnd)
  let plan ← Requests.lift (buildRequestPlan endpoints windows windowEnd c.networkerFieldFilter)
  let results ← Requests.each (fun request => getJson c (transport request.resultName) request) plan
  let (responses, errors) := sortResults results
  return assemble endpoints windows windowEnd responses errors

end BackupCollector.NetworkerRest
