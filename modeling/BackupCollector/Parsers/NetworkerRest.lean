/-
# The NetWorker REST parser

`parse_networker_rest_payload` turns the raw responses of one collection into records, a summary
and a monthly report.  Records stay dictionaries, in the source's key order, because everything
downstream merges and reads them by key: the documents of the writer are these records with a few
fields set.

The parser can raise: on an unsupported source, on a timestamp whose offset leaves the years of
`datetime`, on an attribute whose `values` is no sequence, on a size that is no number of bytes,
and on a total too large to divide.  `Totality` proves that the list is complete.

The records are read leniently otherwise.  A field that is missing is empty, a name that is missing
is looked for under other keys and in the attributes, a status is matched by what it contains.
None of that is judged here: the definitions say what a record becomes, and the modules that follow
say what survives.  What no modelled function reads of a record is still in it, since it is
published.
-/
import BackupCollector.Values
import BackupCollector.Py.Str

namespace BackupCollector

open Py

variable [Unicode]

/-! ## 1. Helpers

The private helpers of the parser.  Those it shares with the document builder are in `Values`. -/

/-- `_items`: the dictionaries of a list response, or of the list under `key`. -/
def items (payload : Json) (key : Str) : List Obj :=
  match payload with
  | .obj d =>
    match Obj.get d key with
    | .arr xs => dictItems xs
    | _ => []
  | .arr xs => dictItems xs
  | _ => []

/-- `_as_list` -/
def asList : Json → List Json
  | .null => []
  | .arr xs => xs
  | v => [v]

/-- `_int` -/
def int (value : Json) : Option Int := parseInt (Str.strip (Json.toStr value))

/-- `_number` -/
def number (value : Json) : Option Float := parseFloat (Str.strip (Json.toStr value))

/-- `_first_string` -/
def firstString : List Json → Str
  | [] => []
  | v :: vs => if (string v).isEmpty then firstString vs else string v

/-- `_resource_id` -/
def resourceId (item : Obj) : Str :=
  match Obj.get item "resourceId" with
  | .obj d => string (Obj.get d "id")
  | v => string v

/-- `_strip_policy_suffix` -/
def stripPolicySuffix (value : Str) : Str := Str.strip (Str.splitFirst (chr ':') value)

/-- `values[0]`, which only a list or a text has. -/
def firstValue : Json → Except Err Json
  | .arr (x :: _) => .ok x
  | .str (c :: _) => .ok (.str [c])
  | .obj _ => .error ⟨.keyError, "0"⟩
  | _ => .error ⟨.typeError, "object is not subscriptable"⟩

/-- `_attributes` -/
def attributes (value : Json) : Except Err (Dict Str Str) :=
  (dictItems (asList value)).foldlM (fun result item => do
    let values := (Obj.get item "values").orElse (.arr [])
    let first ← if values.truthy then firstValue values else .ok (.str [])
    return Dict.set result (string (Obj.get item "key")) (string first)) []

/-- The multipliers of `_size_bytes`. -/
def sizeMultipliers : Dict Str Nat :=
  [("", 1), ("byte", 1), ("bytes", 1), ("kb", 1000), ("kib", 1024), ("mb", 1000 ^ 2), ("mib", 1024 ^ 2),
   ("gb", 1000 ^ 3), ("gib", 1024 ^ 3), ("tb", 1000 ^ 4), ("tib", 1024 ^ 4)]

/-- `_size_bytes` -/
def sizeBytes (value : Json) : Except Err Json :=
  let (num, unit) := match value with
    | .obj d => (number (Obj.get d "value"), Str.lower (string (Obj.get d "unit")))
    | v => (number v, [])
  match num, Dict.get? sizeMultipliers unit with
  | some n, some multiplier => (floatToInt (n * Float.ofNat multiplier)).map .int
  | _, _ => .ok .null

/-- `_job_status` -/
def jobStatus (completionStatus state : Str) (exitCode : Option Int) : Str :=
  let completion := Str.lower completionStatus
  let normalizedState := Str.lower state
  let running : List Str := ["running", "active", "queued", "pending"]
  let canceled : List Str := ["canceled", "cancelled", "aborted"]
  let succeeded : List Str := ["completed", "succeeded", "success"]
  let failed : List Str := ["failed", "failure"]
  if completion ∈ running then "running"
  else if completion ∈ canceled then "canceled"
  else if completion ∈ succeeded then "success"
  else if completion ∈ failed then "failed"
  else if normalizedState ∈ running then "running"
  else if normalizedState ∈ canceled then "canceled"
  else if normalizedState ∈ failed then "failed"
  else match exitCode with
    | some code => if code = 0 then "success" else "failed"
    | none => if normalizedState ∈ succeeded then "success" else "unknown"

/-- `_os_family` -/
def osFamily (value : Str) : Str :=
  let normalized := Str.lower value
  if lit "aix" <:+: normalized then "AIX"
  else if lit "linux" <:+: normalized ∨ lit "rhel" <:+: normalized ∨ lit "sles" <:+: normalized then "Linux"
  else if lit "win" <:+: normalized then "Windows"
  else if value.isEmpty then "Unknown" else "Other"

/-- `_normalize_client_state` -/
def normalizeClientState (value : Json) : Str :=
  let normalized := Str.lower (string value)
  if normalized ∈ (["enabled", "active", "online"] : List Str) then "enabled"
  else if normalized ∈ (["disabled", "inactive", "offline"] : List Str) then "disabled"
  else orText normalized "unknown"

/-- `_protection_group`: reads `save -g` as a protection group, never as a workflow or policy. -/
def protectionGroup (command : Json) : Str :=
  match command with
  | .str text =>
    if (Str.strip text).isEmpty then []
    else match Shlex.tokens text with
      | none => []
      | some tokens =>
        match (List.range tokens.length).filter (fun i => decide (tokens[i]? = some (lit "-g"))) with
        | [position] =>
          match tokens[position + 1]? with
          | none => []
          | some token =>
            let value := Str.strip token
            if value.head? = some (chr '-') then [] else value
        | _ => []
  | _ => []

/-! ## 2. Records

One definition for each kind of record.  `_normalize_policies` makes two kinds from one list, a
policy and its workflows. -/

/-- `_normalize_job` -/
def normalizeJob (item : Obj) (server : Str) (source : Source) : Except Err Obj := do
  let stateRaw := string (Obj.get item "state")
  let completionStatus := string (Obj.get item "completionStatus")
  let state := orText stateRaw completionStatus
  let statusRaw := orText completionStatus stateRaw
  let exitCode := int (Obj.get item "exitCode")
  let status := jobStatus completionStatus stateRaw exitCode
  let startTime ← parseDatetime (Obj.get item "startTime")
  let endTime ← parseDatetime (Obj.get item "endTime")
  let duration ← durationSeconds startTime endTime
  let jobType := string (Obj.get item "type")
  let isSaveJob := decide (Str.lower jobType = lit "save job")
  let named := orText (string (Obj.get item "clientName")) (string (Obj.get item "clientHostname"))
  let clientName := if named.isEmpty && isSaveJob then string (Obj.get item "runOnHost") else named
  let dataSize ← sizeBytes (Obj.get item "dataSize")
  return [
    ("server", .str server),
    ("source_networker", .str source.name),
    ("job_id", (Obj.get item "id").orElse (Obj.get item "jobId")),
    ("name", .str (string (Obj.get item "name"))),
    ("type", .str jobType),
    ("state", .str state),
    ("state_raw", .str stateRaw),
    ("completion_status", .str completionStatus),
    ("status_raw", .str statusRaw),
    ("status", .str status),
    ("status_normalized", .str status),
    ("exit_code", Json.ofOption .int exitCode),
    ("policy_name", .str (string (Obj.get item "policyName"))),
    ("workflow_name", .str (string (Obj.get item "workflowName"))),
    ("protection_group", .str (if isSaveJob then protectionGroup (Obj.get item "command") else [])),
    ("client_name", .str clientName),
    ("run_on_host", .str (string (Obj.get item "runOnHost"))),
    ("start_time", isoformat startTime),
    ("end_time", isoformat endTime),
    ("duration_seconds", duration),
    ("level", .str (string (Obj.get item "level"))),
    ("data_size_bytes", dataSize),
    ("stopped", Obj.get item "stopped"),
    ("root_parent_job_id", Obj.get item "rootParentJobId"),
    ("parent_job_id", Obj.get item "parentJobId"),
    ("previous_job_id", Obj.get item "previousJobId")]

/-- `_normalize_client` -/
def normalizeClient (item : Obj) (server : Str) (source : Source) : Obj :=
  let hostname := orText (string (Obj.get item "hostname")) (string (Obj.get item "name"))
  let osName := firstString [Obj.get item "operatingSystem", Obj.get item "os", Obj.get item "clientOS",
    Obj.get item "platform"]
  [ ("server", .str server),
    ("source_networker", .str source.name),
    ("client_id", .str (resourceId item)),
    ("resource_id", .str (resourceId item)),
    ("client_name", .str hostname),
    ("client_state", .str (normalizeClientState (Obj.get item "clientState"))),
    ("client_os", .str osName),
    ("client_os_family", .str (osFamily osName)),
    ("backup_type", .str (string (Obj.get item "backupType")))]

/-- The policy row of `_normalize_policies`. -/
def normalizePolicy (policy : Obj) (server : Str) : Obj :=
  [ ("server", .str server),
    ("policy_name", .str (string (Obj.get policy "name"))),
    ("comment", .str (string (Obj.get policy "comment"))),
    ("workflow_count", .int (dictItems (asList (Obj.get policy "workflows"))).length),
    ("resource_id", .str (resourceId policy))]

/-- The workflow row of `_normalize_policies`. -/
def normalizeWorkflow (policy workflow : Obj) (server : Str) : Obj :=
  let actions := dictItems (asList (Obj.get workflow "actions"))
  [ ("server", .str server),
    ("policy_name", .str (string (Obj.get policy "name"))),
    ("workflow_name", .str (string (Obj.get workflow "name"))),
    ("enabled", Obj.get workflow "enabled"),
    ("action_count", .int actions.length),
    ("actions", .arr (actions.map fun action => .str (string (Obj.get action "name")))),
    ("protection_groups", (Obj.get workflow "protectionGroups").orElse (.arr [])),
    ("start_time", Obj.get workflow "startTime"),
    ("end_time", Obj.get workflow "endTime")]

/-- `_normalize_policies` -/
def normalizePolicies (payload : Json) (server : Str) : List Obj × List Obj :=
  let policies := items payload "protectionPolicies"
  (policies.map fun policy => normalizePolicy policy server,
   policies.flatMap fun policy =>
    (dictItems (asList (Obj.get policy "workflows"))).map fun workflow =>
      normalizeWorkflow policy workflow server)

/-- A name of a backup: the field itself, else the first of two attributes without its suffix. -/
def backupName (item : Obj) (attrs : Dict Str Str) (field starred plain : Str) : Str :=
  orText (string (Obj.get item field))
    (stripPolicySuffix
      (orText ((Dict.get? attrs starred).getD []) ((Dict.get? attrs plain).getD [])))

/-- `_normalize_backup` -/
def normalizeBackup (item : Obj) (server : Str) (source : Source) : Except Err Obj := do
  let attrs ← attributes (Obj.get item "attributes")
  let policy := backupName item attrs "policyName" "*policy name" "policy name"
  let workflow := backupName item attrs "workflowName" "*policy workflow name" "policy workflow name"
  let action := backupName item attrs "actionName" "*policy action name" "policy action name"
  let size := Obj.get item "size"
  let (sizeRaw, sizeUnitRaw) := match size with
    | .obj d => (Obj.get d "value", string (Obj.get d "unit"))
    | v => (v, [])
  let bytes ← sizeBytes size
  let saveSet := string (Obj.get item "name")
  let saveTime ← parseDatetime (Obj.get item "saveTime")
  let completionTime ← parseDatetime (Obj.get item "completionTime")
  let retentionTime ← parseDatetime (Obj.get item "retentionTime")
  return [
    ("server", .str server),
    ("source_networker", .str source.name),
    ("backup_id", .str (string (Obj.get item "id"))),
    ("client_name", .str (string (Obj.get item "clientHostname"))),
    ("client_id", .str (string (Obj.get item "clientId"))),
    ("policy_name", .str policy),
    ("workflow_name", .str workflow),
    ("action_name", .str action),
    ("group", Json.ofOption .str (Dict.get? attrs "group")),
    ("name", .str saveSet),
    ("save_set", .str saveSet),
    ("type", .str (string (Obj.get item "type"))),
    ("level", .str (string (Obj.get item "level"))),
    ("save_time", isoformat saveTime),
    ("completion_time", isoformat completionTime),
    ("retention_time", isoformat retentionTime),
    ("file_count", Obj.get item "fileCount"),
    ("size_raw", sizeRaw),
    ("size_unit_raw", .str sizeUnitRaw),
    ("size_bytes", bytes),
    ("instances", (Obj.get item "instances").orElse (.arr []))]

/-- `_classify_record`: the configured source wins over whatever the record carries. -/
def classifyRecord (source : Source) (record : Obj) : Obj :=
  let classification : Obj := [
    ("source_networker", .str source.name),
    ("security_domain", .str source.name),
    ("classification_status", .str "matched_source_networker"),
    ("classification_source", .str "source_networker")]
  let client : Obj :=
    if lit "client_name" ∈ Dict.keys record then
      [("client_hostname",
        .str (Str.rstripChr (chr '.') (Str.lower (string (Obj.get record "client_name")))))]
    else []
  Dict.update record (classification ++ client)

end BackupCollector
