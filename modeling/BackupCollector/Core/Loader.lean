/-
# Loading the configuration

`load_config` reads a document and makes one `CollectorConfig` of each entry of `collectors`, for
five kinds of device at once: every entry is read for every field, and a field its type has no use
for is read, converted and kept all the same.  What an entry may leave out, what stands in for it
and which spelling of a value is accepted is decided here and nowhere else.  So what the other
modules say of a collector they say of a LOADED one, and come back here for what that is.

The source is one constructor call with some forty arguments, evaluated in order; the first that
raises decides the error.  A proof that peels the call argument by argument has to do so again for
every field it is about.  Here the call is opened once: `parseCollector_iff_loaded` says that an
entry loads as a configuration exactly when one equation holds for each field (`Loaded`), and
everything after it uses the equations.

* The document is the value the YAML loader returned, and what a file holds is asked of the file
  system, which is the parameter `readText`.
* The conversions are Python's `int`, `float`, `str` and `dict` of any value a document can hold,
  with the errors they raise.
* A name, a type or a protocol that is not a text, and a key that is none, are outside the model:
  the source keeps such a value as it is, and nothing behind the loader could use it.
-/
import BackupCollector.Core.Config
import BackupCollector.Py.Store

namespace BackupCollector

open Py

/-! ## 1. Conversions

An entry gives a number as a number or as a text, and a mapping as a mapping or as a list of
pairs; Python's constructors take all of these.  What they refuse raises out of `load_config`, so
a single entry can keep every collector from starting. -/

/-- `type(v).__name__` -/
def typeName : Json → Str
  | .null => "NoneType"
  | .bool _ => "bool"
  | .int _ => "int"
  | .float _ => "float"
  | .str _ => "str"
  | .arr _ => "list"
  | .obj _ => "dict"

/-- `v.get`: only a mapping has it. -/
def mappingOf : Json → Except Err Obj
  | .obj d => .ok d
  | v => .error ⟨.attributeError, lit "'" ++ typeName v ++ lit "' object has no attribute 'get'"⟩

/-- The error of iterating over what is no collection. -/
def notIterable (v : Json) : Err := ⟨.typeError, lit "'" ++ typeName v ++ lit "' object is not iterable"⟩

/-- The error of hashing a list or a mapping. -/
def unhashable (v : Json) : Err := ⟨.typeError, lit "unhashable type: '" ++ typeName v ++ lit "'"⟩

/-- The pair an element of a sequence stands for in `dict(sequence)`. -/
def pairOf (index : Nat) (element : Json) : Except Err (Json × Json) :=
  let wrongLength (n : Nat) : Except Err (Json × Json) := .error (valueError
    (lit "dictionary update sequence element #" ++ Str.ofNat index ++ lit " has length " ++ Str.ofNat n ++
      lit "; 2 is required"))
  match element with
  | .arr [k, v] => .ok (k, v)
  | .arr xs => wrongLength xs.length
  | .str [k, v] => .ok (.str [k], .str [v])
  | .str s => wrongLength s.length
  | .obj [(k, _), (l, _)] => .ok (.str k, .str l)
  | .obj d => wrongLength d.length
  | _ => .error ⟨.typeError, lit "cannot convert dictionary update sequence element #" ++ Str.ofNat index ++
      lit " to a sequence"⟩

/-- The entries of `dict(sequence)`, from the given index on. -/
def entriesOf : Nat → List Json → Except Err Obj
  | _, [] => .ok []
  | index, element :: rest => do
    let (k, v) ← pairOf index element
    match k with
    | .str key =>
      let entries ← entriesOf (index + 1) rest
      return (key, v) :: entries
    | .arr _ | .obj _ => .error (unhashable k)
    -- a key that is no text: outside the model
    | _ => .error ⟨.other, "a key that is no text"⟩

section Conversions

variable [Unicode]

/-- `dict(v)` -/
def dictOf : Json → Except Err Obj
  | .obj d => .ok d
  | .arr xs => (entriesOf 0 xs).map Dict.written
  | .str [] => .ok []
  | .str _ => .error (valueError "dictionary update sequence element #0 has length 1; 2 is required")
  | v => .error (notIterable v)

/-- `int(v)` -/
def integerOf (v : Json) : Except Err Int :=
  match v with
  | .int n => .ok n
  | .bool b => .ok (if b then 1 else 0)
  | .float f => floatToInt f
  | .str s =>
    match parseInt s with
    | some n => .ok n
    | none => .error (valueError (lit "invalid literal for int() with base 10: " ++ Py.reprStr s))
  | v => .error ⟨.typeError, lit "int() argument must be a string, a bytes-like object or a real number, not '" ++
      typeName v ++ lit "'"⟩

/-- `float(v)` -/
def numberOf (v : Json) : Except Err Float :=
  match v with
  | .float f => .ok f
  | .int n => intToFloat n
  | .bool b => .ok (if b then 1.0 else 0.0)
  | .str s =>
    match parseFloat s with
    | some f => .ok f
    | none => .error (valueError (lit "could not convert string to float: " ++ Py.reprStr s))
  | v => .error ⟨.typeError, lit "float() argument must be a string or a real number, not '" ++ typeName v ++ lit "'"⟩

/-- `str(v)` -/
def textOf (v : Json) : Except Err Str :=
  if v.printable then .ok (Json.toStr v)
  else .error (valueError
    "Exceeds the limit (4300 digits) for integer string conversion; use sys.set_int_max_str_digits() to increase the limit")

/-- `int(d[key]) if d.get(key) is not None else None` -/
def optionalInteger (d : Obj) (key : Str) : Except Err (Option Int) :=
  match Obj.get d key with
  | .null => .ok none
  | v => (integerOf v).map some

/-- `_optional` -/
def optionalText (value : Json) : Except Err (Option Str) :=
  match value with
  | .null => .ok none
  | value => do
    let text ← textOf value
    let normalized := Str.strip text
    return if isUnfilledPlaceholder normalized then none else some normalized

/-! ## 2. Schedules

A `schedule` gives numbers for the one class `fast`, or a mapping for each class it names.  Which
of the two it is depends on whether any class name is among its keys. -/

/-- `_schedule_from_mapping` -/
def scheduleFromMapping (raw : Obj) (targetType : Str) (defaultIntervalMinutes defaultSecondValue : Int) :
    Except Err ScheduleConfig := do
  let intervalMinutes ← integerOf (getOr raw "interval_minutes" (.int defaultIntervalMinutes))
  let offset ← defaultMinuteOffset targetType
  let defaultOffset := if intervalMinutes ≤ offset then 0 else offset
  let minuteOffset ← integerOf (getOr raw "minute_offset" (.int defaultOffset))
  let second ← integerOf (getOr raw "second" (.int defaultSecondValue))
  return { intervalMinutes, minuteOffset, second }

/-- The interval of a class that gives none. -/
def defaultIntervalMinutes (targetType : Str) : CollectionClass → Int
  | .fast => 5
  | .slow => 60
  | .jobs => 5
  | .backups => 15
  | .inventory => if targetType = lit "Networker" then 1440 else 60

/-- The second of a class that gives none. -/
def defaultSecondValue : CollectionClass → Int
  | .slow => 30
  | _ => 0

/-- A class is scheduled when it is named; `slow` has to be given a value too. -/
def named (scheduleRaw : Obj) (collectionClass : CollectionClass) : Bool :=
  match Dict.get? scheduleRaw collectionClass.name with
  | none => false
  | some v => decide (collectionClass ≠ .slow) || decide (v ≠ .null)

/-- The schedule of one class of a `schedule` that names classes. -/
def scheduleOfClass (scheduleRaw : Obj) (targetType : Str) (collectionClass : CollectionClass) :
    Except Err (Option ScheduleConfig) :=
  if named scheduleRaw collectionClass then do
    let raw ← mappingOf ((Obj.get scheduleRaw collectionClass.name).orElse (.obj []))
    let schedule ← scheduleFromMapping raw targetType (defaultIntervalMinutes targetType collectionClass)
      (defaultSecondValue collectionClass)
    return some schedule
  else .ok none

/-- `bool(schedule_classes.intersection(v))` -/
def namesClass (v : Json) : Except Err Bool :=
  let isClass (x : Json) : Bool :=
    [CollectionClass.fast, .slow, .jobs, .backups, .inventory].any fun c => decide (x = .str c.name)
  match v with
  | .obj d => .ok ((Dict.keys d).any fun k => isClass (.str k))
  | .arr xs =>
    match xs.find? fun x => !x.hashable with
    | some x => .error (unhashable x)
    | none => .ok (xs.any isClass)
  | .str s => .ok (s.any fun c => isClass (.str [c]))
  | v => .error (notIterable v)

/-- `_parse_schedule`, with the second of the deprecated `schedule_second`. -/
def parseSchedule (raw : Obj) (targetType : Str) : Except Err (Schedule × Option Int) := do
  match Dict.get? raw "schedule" with
  | some v =>
    let scheduleRaw := v.orElse (.obj [])
    let byClass ← namesClass scheduleRaw
    let scheduleRaw ← mappingOf scheduleRaw
    if byClass then
      let fast ← scheduleOfClass scheduleRaw targetType .fast
      let slow ← scheduleOfClass scheduleRaw targetType .slow
      let jobs ← scheduleOfClass scheduleRaw targetType .jobs
      let backups ← scheduleOfClass scheduleRaw targetType .backups
      let inventory ← scheduleOfClass scheduleRaw targetType .inventory
      return (.classes { fast, slow, jobs, backups, inventory }, none)
    else
      let schedule ← scheduleFromMapping scheduleRaw targetType 5 0
      return (.single schedule, none)
  | none =>
    match Dict.get? raw "schedule_second" with
    | some v =>
      let second ← integerOf v
      return (.single { intervalMinutes := 1, minuteOffset := 0, second, legacyScheduleSecond := some second },
        some second)
    | none =>
      let schedule ← defaultSchedule targetType
      return (.single schedule, none)

/-! ## 3. One collector

Texts that a template leaves open go through `_optional`, which makes `None` of a placeholder;
secrets may stand in a file instead.  Every other field has a default and is converted. -/

variable (readText : Str → Except Err Str)

/-- `_optional_secret`: the value itself, or what the file named next to it holds. -/
def optionalSecret (raw : Obj) (key : Str) : Except Err (Option Str) := do
  match ← optionalText (Obj.get raw key) with
  | some value => return some value
  | none =>
    match ← optionalText (Obj.get raw (key ++ lit "_file")) with
    | none => return none
    | some path =>
      let text ← readText path
      optionalText (.str text)

/-- `raw[key]`, a text. -/
def requiredText (raw : Obj) (key : Str) : Except Err Str :=
  match Dict.get? raw key with
  | some (.str s) => .ok s
  | some _ => .error ⟨.other, "a name, type or protocol that is no text"⟩
  | none => .error ⟨.keyError, key⟩

/-- `_parse_collector` -/
def parseCollector (raw : Obj) : Except Err CollectorConfig := do
  let type ← requiredText raw "type"
  let (schedule, scheduleSecond) ← parseSchedule raw type
  let rest := (Obj.get raw "rest").orElse (.obj [])
  let name ← requiredText raw "name"
  let protocol ← requiredText raw "protocol"
  let enabled := (getOr raw "enabled" (.bool true)).truthy
  let host ← optionalText (Obj.get raw "host")
  let port ← integerOf (getOr raw "port" (.int 161))
  let snmpPort ← optionalInteger raw "snmp_port"
  let sshPort ← optionalInteger raw "ssh_port"
  let community ← optionalSecret readText raw "community"
  let version ← textOf (getOr raw "version" (.str "2c"))
  let timeoutSeconds ← integerOf (getOr raw "timeout_seconds" (.int 5))
  let retries ← integerOf (getOr raw "retries" (.int 1))
  let oids ← dictOf (getOr raw "oids" (.obj []))
  let walkOids ← dictOf (getOr raw "walk_oids" (.obj []))
  let baseUrl ← optionalText (Obj.get raw "base_url")
  let endpoint ← optionalText (Obj.get raw "endpoint")
  let endpoints ← dictOf (getOr raw "endpoints" (.obj []))
  let method ← textOf (getOr raw "method" (.str "GET"))
  let token ← optionalSecret readText raw "token"
  let username ← optionalSecret readText raw "username"
  let password ← optionalSecret readText raw "password"
  let verifyTls := (getOr raw "verify_tls" (.bool true)).truthy
  let caCerts ← optionalText (Obj.get raw "ca_certs")
  let rest ← mappingOf rest
  let restMaxConcurrency ← integerOf (getOr rest "max_concurrency" (.int 4))
  let restRequestSpacingSeconds ← numberOf (getOr rest "request_spacing_seconds" (.int 0))
  let networkerQueryWindowMinutes ← integerOf (getOr rest "query_window_minutes" (.int 20))
  let networkerJobsQueryWindowMinutes ←
    integerOf (getOr rest "jobs_query_window_minutes" (getOr rest "query_window_minutes" (.int 10)))
  let networkerBackupsQueryWindowMinutes ←
    integerOf (getOr rest "backups_query_window_minutes" (getOr rest "query_window_minutes" (.int 20)))
  let networkerFieldFilter := (getOr rest "field_filter" (.bool true)).truthy
  let commands ← dictOf (getOr raw "commands" (.obj []))
  let sshKeyPath ← optionalText (Obj.get raw "ssh_key_path")
  let sshKnownHostsPath ← optionalText (Obj.get raw "ssh_known_hosts_path")
  let jumpHost ← optionalText (Obj.get raw "jump_host")
  let jumpPort ← integerOf (getOr raw "jump_port" (.int 22))
  let jumpUsername ← optionalText (Obj.get raw "jump_username")
  let jumpSshKeyPath ← optionalText (Obj.get raw "jump_ssh_key_path")
  let commandTimeout ← integerOf (getOr raw "command_timeout" (.int 30))
  let sourceNetworker ← optionalText (Obj.get raw "source_networker")
  return {
    name, type, protocol, enabled, schedule, scheduleSecond, host, port, snmpPort, sshPort, community, version,
    timeoutSeconds, retries, oids, walkOids, baseUrl, endpoint, endpoints, method := Str.upper method, token,
    username, password, verifyTls, caCerts, restMaxConcurrency, restRequestSpacingSeconds,
    networkerQueryWindowMinutes, networkerJobsQueryWindowMinutes, networkerBackupsQueryWindowMinutes,
    networkerFieldFilter, commands, sshKeyPath, sshKnownHostsPath, jumpHost, jumpPort, jumpUsername,
    jumpSshKeyPath, commandTimeout, sourceNetworker }

/-! ## 4. The document

The hosts and the prefix of the store are not converted, and the collectors are loaded in order:
the first entry that raises is the error of the document. -/

/-- `ElasticsearchConfig`; its hosts and texts are not converted. -/
structure ElasticsearchConfig where
  enabled : Bool := false
  hosts : List Json := [.str "http://elasticsearch:9200"]
  indexPrefix : Json := .str "backup-dashboard"
  username : Option Str := none
  password : Option Str := none
  verifyCerts : Bool := true
  caCerts : Json := .null

/-- `ElasticsearchConfig.is_ready` -/
def ElasticsearchConfig.isReady (c : ElasticsearchConfig) : Bool :=
  c.enabled && !hasUnfilledValues (.obj [("hosts", .arr c.hosts)])

/-- The elements of `for x in v`. -/
def elementsOf : Json → Except Err (List Json)
  | .arr xs => .ok xs
  | .str s => .ok (s.map fun c => .str [c])
  | .obj d => .ok ((Dict.keys d).map .str)
  | v => .error (notIterable v)

/-- `_parse_elasticsearch` -/
def parseElasticsearch (v : Json) : Except Err ElasticsearchConfig := do
  let raw ← mappingOf v
  let hosts ← elementsOf (getOr raw "hosts" (.arr [.str "http://elasticsearch:9200"]))
  let username ← optionalSecret readText raw "username"
  let password ← optionalSecret readText raw "password"
  return {
    enabled := (getOr raw "enabled" (.bool false)).truthy
    hosts
    indexPrefix := getOr raw "index_prefix" (.str "backup-dashboard")
    username, password
    verifyCerts := (getOr raw "verify_certs" (.bool true)).truthy
    caCerts := Obj.get raw "ca_certs" }

/-- `AppConfig` -/
structure AppConfig where
  name : Json
  logLevel : Json
  elasticsearch : ElasticsearchConfig
  collectors : List CollectorConfig

/-- An entry of `collectors` as a mapping: `raw["type"]` is what is asked of it first. -/
def entryOf : Json → Except Err Obj
  | .obj d => .ok d
  | .str _ => .error ⟨.typeError, "string indices must be integers, not 'str'"⟩
  | .arr _ => .error ⟨.typeError, "list indices must be integers or slices, not str"⟩
  | v => .error ⟨.typeError, lit "'" ++ typeName v ++ lit "' object is not subscriptable"⟩

/-- `load_config`, of the document the YAML loader returned. -/
def loadConfig (document : Json) : Except Err AppConfig := do
  let raw ← mappingOf (document.orElse (.obj []))
  let elasticsearch ← parseElasticsearch readText (getOr raw "elasticsearch" (.obj []))
  let items ← elementsOf (getOr raw "collectors" (.arr []))
  let collectors ← items.mapM fun item => do
    let entry ← entryOf item
    parseCollector readText entry
  let app ← mappingOf (getOr raw "app" (.obj []))
  return {
    name := getOr app "name" (.str "backup-dashboard-collector")
    logLevel := getOr app "log_level" (.str "INFO")
    elasticsearch, collectors }

variable {readText}

/-! ## 5. What a loaded collector holds

The equations of a loaded configuration, field by field.  The numbers of the REST section come
from a mapping of their own, which `_parse_collector` takes as empty when it is missing or
falsy. -/

/-- The mapping under `key`; empty when there is none. -/
def mappingUnder (d : Obj) (key : Str) : Obj := (Obj.get d key).asObj?.getD []

variable (readText) in
/-- A configuration that was loaded from an entry: what each of its fields was read from, and that
the reading returned.  It is the whole of what a later module may use of the loader. -/
structure Loaded (raw : Obj) (c : CollectorConfig) : Prop where
  name : requiredText raw "name" = .ok c.name
  type : requiredText raw "type" = .ok c.type
  protocol : requiredText raw "protocol" = .ok c.protocol
  enabled : (getOr raw "enabled" (.bool true)).truthy = c.enabled
  schedule : parseSchedule raw c.type = .ok (c.schedule, c.scheduleSecond)
  host : optionalText (Obj.get raw "host") = .ok c.host
  port : integerOf (getOr raw "port" (.int 161)) = .ok c.port
  snmpPort : optionalInteger raw "snmp_port" = .ok c.snmpPort
  sshPort : optionalInteger raw "ssh_port" = .ok c.sshPort
  community : optionalSecret readText raw "community" = .ok c.community
  version : textOf (getOr raw "version" (.str "2c")) = .ok c.version
  timeoutSeconds : integerOf (getOr raw "timeout_seconds" (.int 5)) = .ok c.timeoutSeconds
  retries : integerOf (getOr raw "retries" (.int 1)) = .ok c.retries
  oids : dictOf (getOr raw "oids" (.obj [])) = .ok c.oids
  walkOids : dictOf (getOr raw "walk_oids" (.obj [])) = .ok c.walkOids
  baseUrl : optionalText (Obj.get raw "base_url") = .ok c.baseUrl
  endpoint : optionalText (Obj.get raw "endpoint") = .ok c.endpoint
  endpoints : dictOf (getOr raw "endpoints" (.obj [])) = .ok c.endpoints
  method : (textOf (getOr raw "method" (.str "GET"))).map Str.upper = .ok c.method
  token : optionalSecret readText raw "token" = .ok c.token
  username : optionalSecret readText raw "username" = .ok c.username
  password : optionalSecret readText raw "password" = .ok c.password
  verifyTls : (getOr raw "verify_tls" (.bool true)).truthy = c.verifyTls
  caCerts : optionalText (Obj.get raw "ca_certs") = .ok c.caCerts
  rest : mappingOf ((Obj.get raw "rest").orElse (.obj [])) = .ok (mappingUnder raw "rest")
  restMaxConcurrency : integerOf (getOr (mappingUnder raw "rest") "max_concurrency" (.int 4)) = .ok c.restMaxConcurrency
  restRequestSpacingSeconds :
    numberOf (getOr (mappingUnder raw "rest") "request_spacing_seconds" (.int 0)) = .ok c.restRequestSpacingSeconds
  networkerQueryWindowMinutes :
    integerOf (getOr (mappingUnder raw "rest") "query_window_minutes" (.int 20)) = .ok c.networkerQueryWindowMinutes
  networkerJobsQueryWindowMinutes :
    integerOf (getOr (mappingUnder raw "rest") "jobs_query_window_minutes"
      (getOr (mappingUnder raw "rest") "query_window_minutes" (.int 10))) = .ok c.networkerJobsQueryWindowMinutes
  networkerBackupsQueryWindowMinutes :
    integerOf (getOr (mappingUnder raw "rest") "backups_query_window_minutes"
      (getOr (mappingUnder raw "rest") "query_window_minutes" (.int 20))) = .ok c.networkerBackupsQueryWindowMinutes
  networkerFieldFilter : (getOr (mappingUnder raw "rest") "field_filter" (.bool true)).truthy = c.networkerFieldFilter
  commands : dictOf (getOr raw "commands" (.obj [])) = .ok c.commands
  sshKeyPath : optionalText (Obj.get raw "ssh_key_path") = .ok c.sshKeyPath
  sshKnownHostsPath : optionalText (Obj.get raw "ssh_known_hosts_path") = .ok c.sshKnownHostsPath
  jumpHost : optionalText (Obj.get raw "jump_host") = .ok c.jumpHost
  jumpPort : integerOf (getOr raw "jump_port" (.int 22)) = .ok c.jumpPort
  jumpUsername : optionalText (Obj.get raw "jump_username") = .ok c.jumpUsername
  jumpSshKeyPath : optionalText (Obj.get raw "jump_ssh_key_path") = .ok c.jumpSshKeyPath
  commandTimeout : integerOf (getOr raw "command_timeout" (.int 30)) = .ok c.commandTimeout
  sourceNetworker : optionalText (Obj.get raw "source_networker") = .ok c.sourceNetworker

omit [Unicode] in
/-- `v or {}`, asked for a key, is the mapping `v` is, or empty. -/
theorem mappingOf_orElse {v : Json} {d : Obj} (h : mappingOf (v.orElse (.obj [])) = .ok d) : d = v.asObj?.getD [] := by
  unfold Json.orElse at h
  by_cases hv : v.truthy = true
  · rw [if_pos hv] at h
    cases v with
    | obj e => exact (Except.ok.inj h).symm
    | _ => cases h
  · rw [if_neg hv] at h
    have hempty : d = [] := (Except.ok.inj h).symm
    rw [hempty]
    cases v with
    | obj e =>
      cases e with
      | nil => rfl
      | cons p e => exact absurd rfl hv
    | _ => rfl

/-- **An entry loads as a configuration exactly when the equations of its fields hold.**

Which error an entry raises that does not load is not said here; the definition is. -/
theorem parseCollector_iff_loaded {raw : Obj} {c : CollectorConfig} :
    parseCollector readText raw = .ok c ↔ Loaded readText raw c := by
  constructor
  · intro h
    unfold parseCollector at h
    -- the identity and the schedule
    obtain ⟨type, htype, h⟩ := bind_eq_ok.mp h
    obtain ⟨⟨schedule, second⟩, hschedule, h⟩ := bind_eq_ok.mp h
    obtain ⟨name, hname, h⟩ := bind_eq_ok.mp h
    obtain ⟨protocol, hprotocol, h⟩ := bind_eq_ok.mp h
    -- the connection
    obtain ⟨host, hhost, h⟩ := bind_eq_ok.mp h
    obtain ⟨port, hport, h⟩ := bind_eq_ok.mp h
    obtain ⟨snmpPort, hsnmpPort, h⟩ := bind_eq_ok.mp h
    obtain ⟨sshPort, hsshPort, h⟩ := bind_eq_ok.mp h
    obtain ⟨community, hcommunity, h⟩ := bind_eq_ok.mp h
    obtain ⟨version, hversion, h⟩ := bind_eq_ok.mp h
    obtain ⟨timeout, htimeout, h⟩ := bind_eq_ok.mp h
    obtain ⟨retries, hretries, h⟩ := bind_eq_ok.mp h
    obtain ⟨oids, hoids, h⟩ := bind_eq_ok.mp h
    obtain ⟨walkOids, hwalkOids, h⟩ := bind_eq_ok.mp h
    obtain ⟨baseUrl, hbaseUrl, h⟩ := bind_eq_ok.mp h
    obtain ⟨endpoint, hendpoint, h⟩ := bind_eq_ok.mp h
    obtain ⟨endpoints, hendpoints, h⟩ := bind_eq_ok.mp h
    obtain ⟨method, hmethod, h⟩ := bind_eq_ok.mp h
    -- the credentials
    obtain ⟨token, htoken, h⟩ := bind_eq_ok.mp h
    obtain ⟨username, husername, h⟩ := bind_eq_ok.mp h
    obtain ⟨password, hpassword, h⟩ := bind_eq_ok.mp h
    obtain ⟨caCerts, hcaCerts, h⟩ := bind_eq_ok.mp h
    -- the REST section
    obtain ⟨rest, hrest, h⟩ := bind_eq_ok.mp h
    obtain ⟨concurrency, hconcurrency, h⟩ := bind_eq_ok.mp h
    obtain ⟨spacing, hspacing, h⟩ := bind_eq_ok.mp h
    obtain ⟨window, hwindow, h⟩ := bind_eq_ok.mp h
    obtain ⟨jobsWindow, hjobsWindow, h⟩ := bind_eq_ok.mp h
    obtain ⟨backupsWindow, hbackupsWindow, h⟩ := bind_eq_ok.mp h
    -- the command line
    obtain ⟨commands, hcommands, h⟩ := bind_eq_ok.mp h
    obtain ⟨keyPath, hkeyPath, h⟩ := bind_eq_ok.mp h
    obtain ⟨knownHosts, hknownHosts, h⟩ := bind_eq_ok.mp h
    obtain ⟨jumpHost, hjumpHost, h⟩ := bind_eq_ok.mp h
    obtain ⟨jumpPort, hjumpPort, h⟩ := bind_eq_ok.mp h
    obtain ⟨jumpUsername, hjumpUsername, h⟩ := bind_eq_ok.mp h
    obtain ⟨jumpKeyPath, hjumpKeyPath, h⟩ := bind_eq_ok.mp h
    obtain ⟨commandTimeout, hcommandTimeout, h⟩ := bind_eq_ok.mp h
    obtain ⟨source, hsource, h⟩ := bind_eq_ok.mp h
    obtain rfl : rest = mappingUnder raw "rest" := mappingOf_orElse hrest
    rw [← Except.ok.inj h]
    exact {
      name := hname, type := htype, protocol := hprotocol, enabled := rfl, schedule := hschedule, host := hhost
      port := hport, snmpPort := hsnmpPort, sshPort := hsshPort, community := hcommunity, version := hversion
      timeoutSeconds := htimeout, retries := hretries, oids := hoids, walkOids := hwalkOids, baseUrl := hbaseUrl
      endpoint := hendpoint, endpoints := hendpoints, method := map_eq_ok.mpr ⟨method, hmethod, rfl⟩
      token := htoken, username := husername, password := hpassword, verifyTls := rfl, caCerts := hcaCerts
      rest := hrest, restMaxConcurrency := hconcurrency, restRequestSpacingSeconds := hspacing
      networkerQueryWindowMinutes := hwindow, networkerJobsQueryWindowMinutes := hjobsWindow
      networkerBackupsQueryWindowMinutes := hbackupsWindow, networkerFieldFilter := rfl, commands := hcommands
      sshKeyPath := hkeyPath, sshKnownHostsPath := hknownHosts, jumpHost := hjumpHost, jumpPort := hjumpPort
      jumpUsername := hjumpUsername, jumpSshKeyPath := hjumpKeyPath, commandTimeout := hcommandTimeout
      sourceNetworker := hsource }
  · intro h
    obtain ⟨method, hmethod, hupper⟩ := map_eq_ok.mp h.method
    simp only [parseCollector, bind_eq_ok, Prod.exists]
    refine ⟨_, h.type, _, _, h.schedule, _, h.name, _, h.protocol, _, h.host, _, h.port, _, h.snmpPort, _, h.sshPort,
      _, h.community, _, h.version, _, h.timeoutSeconds, _, h.retries, _, h.oids, _, h.walkOids, _, h.baseUrl,
      _, h.endpoint, _, h.endpoints, _, hmethod, _, h.token, _, h.username, _, h.password, _, h.caCerts, _, h.rest,
      _, h.restMaxConcurrency, _, h.restRequestSpacingSeconds, _, h.networkerQueryWindowMinutes,
      _, h.networkerJobsQueryWindowMinutes, _, h.networkerBackupsQueryWindowMinutes, _, h.commands, _, h.sshKeyPath,
      _, h.sshKnownHostsPath, _, h.jumpHost, _, h.jumpPort, _, h.jumpUsername, _, h.jumpSshKeyPath,
      _, h.commandTimeout, _, h.sourceNetworker, ?_⟩
    rw [h.enabled, h.verifyTls, h.networkerFieldFilter, hupper]
    rfl

end Conversions

end BackupCollector
