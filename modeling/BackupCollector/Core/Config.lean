/-
# Collector configuration

Schedules, the configuration of one collector, and `skip_reason`: the one predicate that decides
whether a collector is run at all.  Whether a CA file exists is asked of the file system, so it is
the parameter `isFile`.

A configuration without a schedule falls back to the default of its type, and an unknown type has
none: that lookup raises.  Everything that asks for the schedules can therefore raise,
`skip_reason` among them, although a collector of an unknown type is never built.

The reasons are texts and are kept as the source has them; the scheduler reports them.  `Readiness`
says what it takes that there is none.  Here the direction is the other one, what later modules
take from a collector that is not skipped: its schedules are valid and its source is known.

The fields of a configuration that no modelled function reads are not here.
-/
import BackupCollector.Values

namespace BackupCollector

open Py

/-! ## 1. Schedules

A collector has one schedule, one for each of some classes, or none. -/

/-- `CollectionClass` -/
inductive CollectionClass where
  | fast | slow | jobs | backups | inventory
deriving DecidableEq, Repr

def CollectionClass.name : CollectionClass → Str
  | .fast => "fast"
  | .slow => "slow"
  | .jobs => "jobs"
  | .backups => "backups"
  | .inventory => "inventory"

/-- `ScheduleConfig` -/
structure ScheduleConfig where
  intervalMinutes : Int := 5
  minuteOffset : Int := 0
  second : Int := 0
  legacyScheduleSecond : Option Int := none
deriving DecidableEq

/-- `ScheduleConfig.skip_reason` -/
def ScheduleConfig.skipReason (s : ScheduleConfig) : Option Str :=
  if s.intervalMinutes ≤ 0 then
    some (lit "invalid schedule.interval_minutes: " ++ Str.ofInt s.intervalMinutes)
  else if s.minuteOffset < 0 ∨ s.intervalMinutes ≤ s.minuteOffset then
    some (lit "invalid schedule.minute_offset: " ++ Str.ofInt s.minuteOffset)
  else if s.second < 0 ∨ 59 < s.second then
    some (lit "invalid schedule.second: " ++ Str.ofInt s.second)
  else none

/-- `CollectionSchedulesConfig` -/
structure CollectionSchedulesConfig where
  fast : Option ScheduleConfig := none
  slow : Option ScheduleConfig := none
  jobs : Option ScheduleConfig := none
  backups : Option ScheduleConfig := none
  inventory : Option ScheduleConfig := none

/-- `getattr(self, collection_class)` -/
def CollectionSchedulesConfig.get (c : CollectionSchedulesConfig) : CollectionClass → Option ScheduleConfig
  | .fast => c.fast
  | .slow => c.slow
  | .jobs => c.jobs
  | .backups => c.backups
  | .inventory => c.inventory

/-- `CollectionSchedulesConfig.items` -/
def CollectionSchedulesConfig.items (c : CollectionSchedulesConfig) : List (CollectionClass × ScheduleConfig) :=
  [CollectionClass.fast, .jobs, .backups, .inventory, .slow].filterMap fun collectionClass =>
    (c.get collectionClass).map fun schedule => (collectionClass, schedule)

/-- What the `schedule` of a configuration may be. -/
inductive Schedule where
  | unset
  | single (schedule : ScheduleConfig)
  | classes (schedules : CollectionSchedulesConfig)

/-- `default_minute_offset`; an unknown type raises `KeyError`. -/
def defaultMinuteOffset (targetType : Str) : Except Err Int :=
  match Dict.get? ([("DXi", 0), ("DD", 1), ("i6000", 2), ("Networker", 3), ("ZFS", 4)] : Dict Str Int)
      targetType with
  | some offset => .ok offset
  | none => .error ⟨.keyError, targetType⟩

/-- `default_schedule` -/
def defaultSchedule (targetType : Str) : Except Err ScheduleConfig := do
  let offset ← defaultMinuteOffset targetType
  return { intervalMinutes := 5, minuteOffset := offset, second := 0 }

/-! ## 2. Unfilled values

A template leaves a placeholder where something is to be filled in; it may stand at any depth. -/

/-- `TO_BE_FILLED` -/
def toBeFilled : Str := "TO_BE_FILLED"

/-- `is_unfilled_placeholder` -/
def isUnfilledPlaceholder (value : Str) : Bool :=
  let normalized := Str.strip value
  decide (normalized = []) || decide (normalized = toBeFilled) ||
    decide ((lit "_" ++ toBeFilled) <:+ normalized)

mutual

/-- `has_unfilled_values` -/
def hasUnfilledValues : Json → Bool
  | .null => true
  | .str s => isUnfilledPlaceholder s
  | .arr xs => anyUnfilled xs
  | .obj kvs => anyUnfilledEntry kvs
  | _ => false

def anyUnfilled : List Json → Bool
  | [] => false
  | x :: xs => hasUnfilledValues x || anyUnfilled xs

def anyUnfilledEntry : List (Str × Json) → Bool
  | [] => false
  | (_, v) :: kvs => hasUnfilledValues v || anyUnfilledEntry kvs

end

/-! ## 3. One collector

One definition for each protocol, in the order in which the reasons are looked for. -/

/-- `CollectorConfig` -/
structure CollectorConfig where
  name : Str
  type : Str
  protocol : Str
  enabled : Bool
  schedule : Schedule := .unset
  scheduleSecond : Option Int := none
  host : Option Str := none
  port : Int := 161
  snmpPort : Option Int := none
  sshPort : Option Int := none
  community : Option Str := none
  version : Str := "2c"
  timeoutSeconds : Int := 5
  retries : Int := 1
  oids : Obj := []
  walkOids : Obj := []
  baseUrl : Option Str := none
  endpoint : Option Str := none
  endpoints : Obj := []
  method : Str := "GET"
  token : Option Str := none
  username : Option Str := none
  password : Option Str := none
  verifyTls : Bool := true
  caCerts : Option Str := none
  restMaxConcurrency : Int := 4
  restRequestSpacingSeconds : Float := 0.0
  networkerQueryWindowMinutes : Int := 20
  networkerJobsQueryWindowMinutes : Int := 10
  networkerBackupsQueryWindowMinutes : Int := 20
  networkerFieldFilter : Bool := true
  commands : Obj := []
  sshKeyPath : Option Str := none
  sshKnownHostsPath : Option Str := none
  jumpHost : Option Str := none
  jumpPort : Int := 22
  jumpUsername : Option Str := none
  jumpSshKeyPath : Option Str := none
  commandTimeout : Int := 30
  sourceNetworker : Option Str := none

/-- An optional text as the value it is. -/
def optional (v : Option Str) : Json := Json.ofOption .str v

/-- `bool(v)` of an optional text. -/
def given (v : Option Str) : Bool := (optional v).truthy

namespace CollectorConfig

/-- `effective_schedule` -/
def effectiveSchedule (c : CollectorConfig) : Except Err ScheduleConfig :=
  match c.schedule with
  | .classes schedules =>
    match schedules.items with
    | (_, schedule) :: _ => .ok schedule
    | [] => defaultSchedule c.type
  | .single schedule => .ok schedule
  | .unset =>
    match c.scheduleSecond with
    | some second => .ok
      { intervalMinutes := 1, minuteOffset := 0, second := second, legacyScheduleSecond := some second }
    | none => defaultSchedule c.type

/-- `effective_schedules` -/
def effectiveSchedules (c : CollectorConfig) : Except Err (List (CollectionClass × ScheduleConfig)) :=
  match c.schedule with
  | .classes schedules => .ok schedules.items
  | _ => do
    let schedule ← c.effectiveSchedule
    return [(.fast, schedule)]

/-- The reason of the first schedule that has one. -/
def schedulesSkipReason : List (CollectionClass × ScheduleConfig) → Option Str
  | [] => none
  | (collectionClass, schedule) :: rest =>
    match schedule.skipReason with
    | some reason => some (collectionClass.name ++ lit " " ++ reason)
    | none => schedulesSkipReason rest

/-- `_snmp_skip_reason` -/
def snmpSkipReason (c : CollectorConfig) : Option Str :=
  let required : Obj := [("host", optional c.host), ("community", optional c.community),
    ("oids", .obj c.oids), ("walk_oids", .obj c.walkOids)]
  if hasUnfilledValues (.obj required) then some "SNMP config contains TO_BE_FILLED values"
  else if c.oids.isEmpty && c.walkOids.isEmpty then some "SNMP OID list is empty"
  else none

section Rest

variable [Unicode] (isFile : Str → Bool)

/-- What `_rest_skip_reason` asks of a NetWorker collector before it looks for unfilled values. -/
def networkerSkipReason (c : CollectorConfig) : Option Str :=
  if c.networkerQueryWindowMinutes ≤ 0 then
    some (lit "invalid rest.query_window_minutes: " ++ Str.ofInt c.networkerQueryWindowMinutes)
  else if c.networkerJobsQueryWindowMinutes ≤ 0 then
    some (lit "invalid rest.jobs_query_window_minutes: " ++ Str.ofInt c.networkerJobsQueryWindowMinutes)
  else if c.networkerBackupsQueryWindowMinutes ≤ 0 then
    some (lit "invalid rest.backups_query_window_minutes: " ++ Str.ofInt c.networkerBackupsQueryWindowMinutes)
  else match validateSourceNetworker (optional c.sourceNetworker) with
    | .error e => some e.msg
    | .ok _ =>
      match c.caCerts with
      | some path =>
        if c.verifyTls && !path.isEmpty && !isFile path then
          some (lit "REST CA certificate does not exist: " ++ path)
        else none
      | none => none

/-- The values a REST configuration of this type must fill. -/
def restRequired (c : CollectorConfig) : Obj :=
  let endpoints : List (Str × Json) := if c.endpoints.isEmpty then [] else [("endpoints", .obj c.endpoints)]
  (lit "base_url", optional c.baseUrl) ::
    (if c.type = lit "i6000" then
      [("username", optional c.username), ("password", optional c.password), ("endpoints", .obj c.endpoints)]
    else if c.type = lit "Networker" then
      List.append endpoints [("source_networker", optional c.sourceNetworker),
        ("username", optional c.username), ("password", optional c.password)]
    else if c.type = lit "ZFS" then endpoints
    else [("endpoint", optional c.endpoint)])

/-- `_rest_skip_reason` -/
def restSkipReason (c : CollectorConfig) : Option Str :=
  if c.restMaxConcurrency ≤ 0 then
    some (lit "invalid rest.max_concurrency: " ++ Str.ofInt c.restMaxConcurrency)
  else if c.restRequestSpacingSeconds < 0 then
    some (lit "invalid rest.request_spacing_seconds: " ++ reprFloat c.restRequestSpacingSeconds)
  else
    let typed :=
      if c.type = lit "Networker" then c.networkerSkipReason isFile
      else if c.type = lit "ZFS" ∧ !given c.token ∧ !(given c.username && given c.password) then
        some (lit "REST config requires token or username/password")
      else none
    match typed with
    | some reason => some reason
    | none =>
      if hasUnfilledValues (.obj c.restRequired) then some "REST config contains TO_BE_FILLED values"
      else if c.type ≠ lit "Networker" ∧ c.type ≠ lit "ZFS" ∧ !given c.endpoint ∧ c.endpoints.isEmpty then
        some "REST endpoint list is empty"
      else none

/-- `_ssh_skip_reason` -/
def sshSkipReason (c : CollectorConfig) : Option Str :=
  let required : Obj := [("host", optional c.host), ("username", optional c.username),
    ("commands", .obj c.commands)]
  let jumpRequired : Obj := [("jump_host", optional c.jumpHost), ("jump_username", optional c.jumpUsername),
    ("ssh_known_hosts_path", optional c.sshKnownHostsPath)]
  if !given c.password && !given c.sshKeyPath then some "SSH config requires password or ssh_key_path"
  else if hasUnfilledValues (.obj required) then some "SSH config contains TO_BE_FILLED values"
  else if hasUnfilledValues (optional c.password) && hasUnfilledValues (optional c.sshKeyPath) then
    some "SSH config contains TO_BE_FILLED values"
  else if c.commands.isEmpty then some "SSH command list is empty"
  else if given c.jumpHost then
    if hasUnfilledValues (.obj jumpRequired) then some "SSH jump config contains TO_BE_FILLED values"
    else if !given c.jumpSshKeyPath && !given c.sshKeyPath then
      some "SSH jump config requires jump_ssh_key_path or ssh_key_path"
    else none
  else none

/-- `CollectorConfig.skip_reason` -/
def skipReason (c : CollectorConfig) : Except Err (Option Str) :=
  if !c.enabled then .ok (some "collector is disabled")
  else do
    let schedules ← c.effectiveSchedules
    match schedulesSkipReason schedules with
    | some reason => return some reason
    | none =>
      return (
        if c.protocol = lit "snmp" then c.snmpSkipReason
        else if c.protocol = lit "rest" then c.restSkipReason isFile
        else if c.protocol = lit "ssh" ∨ c.protocol = lit "cli" then c.sshSkipReason
        else some (lit "unsupported protocol: " ++ c.protocol))

end Rest

end CollectorConfig

/-! ## 4. What an accepted schedule and an accepted source satisfy

Conclusions from the absence of a reason, for the scheduler and for the writer. -/

/-- A schedule without a skip reason has a positive interval, its offset inside it and a second
of the minute. -/
theorem ScheduleConfig.skipReason_eq_none {s : ScheduleConfig} :
    s.skipReason = none ↔
      0 < s.intervalMinutes ∧ 0 ≤ s.minuteOffset ∧ s.minuteOffset < s.intervalMinutes ∧
        0 ≤ s.second ∧ s.second ≤ 59 := by
  unfold ScheduleConfig.skipReason
  split_ifs with h1 h2 h3
  · simp only [false_iff]
    omega
  · simp only [false_iff]
    omega
  · simp only [false_iff]
    omega
  · simp only [true_iff]
    omega

namespace CollectorConfig

variable [Unicode] {isFile : Str → Bool}

omit [Unicode] in
/-- Of a collector that is not skipped, every schedule is valid. -/
theorem schedulesSkipReason_eq_none {schedules : List (CollectionClass × ScheduleConfig)}
    (h : schedulesSkipReason schedules = none) : ∀ p ∈ schedules, p.2.skipReason = none := by
  induction schedules with
  | nil => simp
  | cons q rest ih =>
    obtain ⟨collectionClass, schedule⟩ := q
    unfold schedulesSkipReason at h
    cases hs : schedule.skipReason with
    | some reason => rw [hs] at h; cases h
    | none =>
      rw [hs] at h
      intro p hp
      rcases List.mem_cons.mp hp with rfl | hp
      · exact hs
      · exact ih h p hp

theorem networkerSkipReason_eq_none {c : CollectorConfig} (h : c.networkerSkipReason isFile = none) :
    ∃ s, validateSourceNetworker (optional c.sourceNetworker) = .ok s := by
  unfold networkerSkipReason at h
  cases hv : validateSourceNetworker (optional c.sourceNetworker) with
  | ok s => exact ⟨s, rfl⟩
  | error e =>
    rw [hv] at h
    split_ifs at h

theorem restSkipReason_eq_none {c : CollectorConfig} (hn : c.type = lit "Networker")
    (h : c.restSkipReason isFile = none) : c.networkerSkipReason isFile = none := by
  unfold restSkipReason at h
  rw [if_pos hn] at h
  cases hs : c.networkerSkipReason isFile with
  | none => rfl
  | some reason =>
    rw [hs] at h
    split_ifs at h

/-- A NetWorker collector that is not skipped has a valid source. -/
theorem source_of_not_skipped {c : CollectorConfig} (hn : c.type = lit "Networker")
    (hr : c.protocol = lit "rest") (h : c.skipReason isFile = .ok none) :
    ∃ s, validateSourceNetworker (optional c.sourceNetworker) = .ok s := by
  have hne : ¬ c.protocol = lit "snmp" := by rw [hr]; decide
  unfold skipReason at h
  by_cases he : (!c.enabled) = true
  · rw [if_pos he] at h
    cases h
  · rw [if_neg he] at h
    obtain ⟨schedules, -, h⟩ := bind_eq_ok.mp h
    cases hs : schedulesSkipReason schedules with
    | some reason => rw [hs] at h; cases h
    | none =>
      rw [hs] at h
      dsimp only at h
      rw [if_neg hne, if_pos hr] at h
      exact networkerSkipReason_eq_none (restSkipReason_eq_none hn (Except.ok.inj h))

end CollectorConfig

end BackupCollector
