/-
# The ZFS parser

`parse_zfs_rest_payload` turns what the client collected into rows.  Which pool and project a
response belongs to is written into its key by the client and read off the key again here: the key
is cut at its first slash, so a key without one raises, and the cut finds the pool again exactly
when the pool's name has no slash.

The parser trusts the keys and nothing else.  A row that names its own pool or project keeps them,
so the key decides only for rows that do not; a response of an unknown kind has no rows; a response
whose key is of a kind but has no place in it takes the whole payload down
(`parseZfsRestPayload_isOk`).

What is proved here is what the collector's account needs: the pool and the project are read back
(`poolAndProject_iff`), and the rows of a kind are those of its responses, one response after the
other (`placedRows_eq`).  That the client writes keys of this form, and one for each thing it asks
about, is in `Collectors/ZfsRows`.

The sums over the pools are floats added up as the interpreter adds them: integers until the first
number that is not zero, and with the lost low-order parts from there on.
-/
import BackupCollector.Clients.Rest

namespace BackupCollector.ZfsRest

open Py

section Parser

variable [Unicode]

/-! ## 1. Values

The conversions of the parser, and the built-in `sum`, which is not a fold of `+` on floats. -/

/-- `_float` -/
def float (value : Json) : Option Float :=
  if value.printable then parseFloat (Str.strip (Json.toStr value)) else none

/-- `_float(item.get(key))`, as the row holds it. -/
def floatJson (item : Obj) (key : Str) : Json := Json.ofOption .float (float (Obj.get item key))

/-- `_string(item.get(key))` -/
def stringOf (item : Obj) (key : Str) : Str := string (Obj.get item key)

/-- `_first_mapping` -/
def firstMapping (payload : Json) (key : Str) : Obj :=
  match payload with
  | .obj d => ((Obj.get d key).asObj?).getD []
  | _ => []

/-- `_used_percent` -/
def usedPercent (used total : Option Float) : Option Float :=
  match used, total with
  | some used, some total => if total == 0 then none else some (round3 (used / total * 100.0))
  | _, _ => none

/-- A running `sum`: an integer zero until the first number that is not zero, then a float with
the low-order parts lost so far. -/
inductive Summing where
  | zero
  | float (sum lost : Float)

/-- One addend of `sum(value or 0 for ...)`, with the compensation of the interpreter. -/
def Summing.add : Summing → Option Float → Summing
  | .zero, none => .zero
  | .zero, some x => if x == 0 then .zero else .float x 0.0
  | .float sum lost, none => .float (sum + 0.0) lost
  | .float sum lost, some x =>
    if x == 0 then .float (sum + 0.0) lost
    else
      let total := sum + x
      .float total (lost + (if x.abs ≤ sum.abs then (sum - total) + x else (x - total) + sum))

/-- What the sum comes to. -/
def Summing.result : Summing → Json
  | .zero => .int 0
  | .float sum lost => .float (if lost == 0 ∨ !lost.isFinite then sum else sum + lost)

/-- `sum(value or 0 for value in values)` -/
def sumOf (values : List (Option Float)) : Json := (values.foldl Summing.add .zero).result

/-- A sum as a float; an integer zero divides and is tested like `0.0`. -/
def sumFloat : Json → Float
  | .float f => f
  | _ => 0.0

/-! ## 2. Pools and projects

A pool is read from its detail, where the client fetched one, and from the list otherwise. -/

/-- `source.get("usage") if isinstance(source.get("usage"), dict) else {}` -/
def usageOf (source : Obj) : Obj := ((Obj.get source "usage").asObj?).getD []

/-- `detail or item` -/
def detailOr (detail item : Obj) : Obj := if detail.isEmpty then item else detail

/-- A pool, as the parser reads it. -/
structure Pool where
  name : Str
  source : Obj

namespace Pool

variable (p : Pool)

def usage : Obj := usageOf p.source

def state : Str := stringOf p.source "state"

def up : Nat := if Str.lower p.state = lit "online" then 1 else 0

def total : Option Float := float (Obj.get p.usage "total")

def used : Option Float := float ((Obj.get p.usage "used").orElse (Obj.get p.usage "usage_total"))

def free : Option Float := float ((Obj.get p.usage "free").orElse (Obj.get p.usage "available"))

/-- Its row. -/
def row (deviceName : Str) : Obj := [
  ("device_name", .str deviceName),
  ("name", .str p.name),
  ("state", .str p.state),
  ("up", .int p.up),
  ("profile", .str (stringOf p.source "profile")),
  ("owner", .str (stringOf p.source "owner")),
  ("peer", .str (stringOf p.source "peer")),
  ("asn", .str (stringOf p.source "asn")),
  ("scrub_schedule", .str (stringOf p.source "scrub_schedule")),
  ("total_bytes", Json.ofOption .float p.total),
  ("used_bytes", Json.ofOption .float p.used),
  ("free_bytes", Json.ofOption .float p.free),
  ("used_percent", Json.ofOption .float (usedPercent p.used p.total)),
  ("compression", floatJson p.usage "compression"),
  ("dedup_ratio", floatJson p.usage "dedupratio"),
  ("snapshot_bytes", floatJson p.usage "usage_snapshots"),
  ("replication_bytes", floatJson p.usage "usage_replication")]

end Pool

/-- The pools of `_normalize_pools`: each one of the list, by its detail where there is one. -/
def pools (payloads : Obj) : List Pool :=
  (items (Obj.get payloads "pools") "pools").map fun item =>
    let name := stringOf item "name"
    ⟨name, detailOr (firstMapping (Obj.get payloads (lit "pool:" ++ name)) "pool") item⟩

/-- What follows a kind in a key of that kind. -/
def afterKind (kind : String) (key : Str) : Option Str :=
  if lit kind <+: key then some (key.drop (lit kind).length) else none

/-- One row of `_normalize_projects`. -/
def projectRow (payloads : Obj) (deviceName pool : Str) (project : Obj) : Obj :=
  let name := stringOf project "name"
  let source := detailOr (firstMapping (Obj.get payloads (lit "project:" ++ pool ++ lit "/" ++ name)) "project") project
  [("device_name", .str deviceName),
   ("pool", .str pool),
   ("name", .str name),
   ("mountpoint", .str (stringOf source "mountpoint")),
   ("creation", .str (stringOf source "creation")),
   ("dedup", Obj.get source "dedup"),
   ("sharenfs", .str (stringOf source "sharenfs")),
   ("sharesmb", .str (stringOf source "sharesmb")),
   ("quota", floatJson source "quota"),
   ("reservation", floatJson source "reservation")]

/-- `_normalize_projects` -/
def normalizeProjects (payloads : Obj) (deviceName : Str) : List Obj :=
  payloads.flatMap fun p =>
    match afterKind "projects:" p.1 with
    | none => []
    | some pool => (items p.2 "projects").map (projectRow payloads deviceName pool)

/-! ## 3. Filesystems and volumes

Both kinds go through the same steps: the responses of the kind, the place in the key, the rows
under it. -/

/-- `text.split("/", 1)`, unpacked into two. -/
def poolAndProject (text : Str) : Except Err (Str × Str) :=
  if chr '/' ∈ text then
    .ok (text.takeWhile (· ≠ chr '/'), (text.dropWhile (· ≠ chr '/')).tail)
  else .error (valueError "not enough values to unpack (expected 2, got 1)")

/-- The pool and project a row names, or those of its key. -/
def placeOf (place : Str × Str) (item : Obj) : Str × Str :=
  (orText (stringOf item "pool") place.1, orText (stringOf item "project") place.2)

/-- One row of `_normalize_filesystems`. -/
def filesystemRow (deviceName : Str) (place : Str × Str) (item : Obj) : Obj := [
  ("device_name", .str deviceName),
  ("pool", .str (placeOf place item).1),
  ("project", .str (placeOf place item).2),
  ("name", .str (stringOf item "name")),
  ("mountpoint", .str (stringOf item "mountpoint")),
  ("quota", floatJson item "quota"),
  ("reservation", floatJson item "reservation"),
  ("usage", .obj (usageOf item))]

/-- One row of `_normalize_luns`. -/
def lunRow (deviceName : Str) (place : Str × Str) (item : Obj) : Obj := [
  ("device_name", .str deviceName),
  ("pool", .str (placeOf place item).1),
  ("project", .str (placeOf place item).2),
  ("name", .str (stringOf item "name")),
  ("id", .str (stringOf item "id")),
  ("status", .str (stringOf item "status")),
  ("volsize", floatJson item "volsize"),
  ("sparse", Obj.get item "sparse"),
  ("usage", .obj (usageOf item))]

/-- The rows of one response; it has some when its key is of the kind. -/
def responseRows (kind : String) (itemKey : Str) (row : Str × Str → Obj → Obj) (p : Str × Json) : Except Err (List Obj) :=
  match afterKind kind p.1 with
  | none => .ok []
  | some text => do
    let place ← poolAndProject text
    return (items p.2 itemKey).map (row place)

/-- The rows of every response of a kind. -/
def placedRows (kind : String) (itemKey : Str) (row : Str × Str → Obj → Obj) (payloads : Obj) : Except Err (List Obj) := do
  let rows ← payloads.mapM (responseRows kind itemKey row)
  return rows.flatten

/-- `_normalize_filesystems` -/
def normalizeFilesystems (payloads : Obj) (deviceName : Str) : Except Err (List Obj) :=
  placedRows "filesystems:" "filesystems" (filesystemRow deviceName) payloads

/-- `_normalize_luns` -/
def normalizeLuns (payloads : Obj) (deviceName : Str) : Except Err (List Obj) :=
  placedRows "luns:" "luns" (lunRow deviceName) payloads

/-! ## 4. Logs and the summary

Alerts and faults are counted together and apart.  `Parsed` is the summary, with the rows as
dictionaries. -/

/-- `_normalize_logs` -/
def normalizeLogs (payload : Json) (severity deviceName : Str) : List Obj :=
  (items payload "logs").map fun item => [
    ("device_name", .str deviceName),
    ("severity", .str severity),
    ("timestamp", .str (stringOf item "timestamp")),
    ("summary", .str (stringOf item "summary")),
    ("user", .str (stringOf item "user")),
    ("address", .str (stringOf item "address")),
    ("annotation", .str (stringOf item "annotation"))]

/-- The alerts, then the faults. -/
def alerts (payloads : Obj) (deviceName : Str) : List Obj :=
  normalizeLogs (Obj.get payloads "alert_logs") "alert" deviceName ++
    normalizeLogs (Obj.get payloads "fault_logs") "fault" deviceName

/-- `alert_counts.get(severity, 0)` -/
def alertCount (severity : Str) (rows : List Obj) : Nat :=
  (Dict.get? (Dict.counter (rows.map fun row => textField row "severity")) severity).getD 0

/-- What `parse_zfs_rest_payload` returns. -/
structure Parsed where
  summary : Obj
  pools : List Obj
  projects : List Obj
  filesystems : List Obj
  luns : List Obj
  alerts : List Obj

/-- `parse_zfs_rest_payload` -/
def parseZfsRestPayload (payloads : Obj) (fallbackName : Str) : Except Err Parsed := do
  let version := firstMapping (Obj.get payloads "version") "version"
  let deviceName := orText (stringOf version "os_nodename") fallbackName
  let poolsRead := pools payloads
  let projects := normalizeProjects payloads deviceName
  let filesystems ← normalizeFilesystems payloads deviceName
  let luns ← normalizeLuns payloads deviceName
  let alerts := alerts payloads deviceName
  let total := sumOf (poolsRead.map Pool.total)
  let used := sumOf (poolsRead.map Pool.used)
  return {
    summary := [
      ("device_name", .str deviceName),
      ("product", .str (orText (stringOf version "ak_product") (stringOf version "hw_product"))),
      ("os_version", .str (stringOf version "os_version")),
      ("serial_number", .str (stringOf version "hw_csn")),
      ("pool_count", .int poolsRead.length),
      ("project_count", .int projects.length),
      ("filesystem_count", .int filesystems.length),
      ("lun_count", .int luns.length),
      ("alert_count", .int (alertCount "alert" alerts)),
      ("fault_count", .int (alertCount "fault" alerts)),
      ("total_bytes", total),
      ("used_bytes", used),
      ("free_bytes", sumOf (poolsRead.map Pool.free)),
      ("used_percent", Json.ofOption .float (usedPercent (some (sumFloat used)) (some (sumFloat total))))]
    pools := poolsRead.map fun p => p.row deviceName
    projects, filesystems, luns, alerts }

/-- The name the rows are published under. -/
def deviceName (payloads : Obj) (fallbackName : Str) : Str :=
  orText (stringOf (firstMapping (Obj.get payloads "version") "version") "os_nodename") fallbackName

end Parser

/-! ## 5. Where a response belongs

Keys in and keys out.  `placeKey` is what the client writes; everything after it is about reading
it again. -/

/-- The key under which the client asks for what a project holds. -/
def placeKey (kind : String) (place : Str × Str) : Str := lit kind ++ (place.1 ++ lit "/" ++ place.2)

theorem afterKind_append (kind : String) (text : Str) : afterKind kind (lit kind ++ text) = some text := by
  rw [afterKind, if_pos (List.prefix_append _ _), List.drop_left]

theorem afterKind_eq_some {kind : String} {key text : Str} : afterKind kind key = some text ↔ key = lit kind ++ text := by
  constructor
  · intro h
    unfold afterKind at h
    split_ifs at h with hprefix
    obtain ⟨rest, rfl⟩ := hprefix
    rw [← Option.some.inj h, List.drop_left]
  · rintro rfl
    exact afterKind_append kind text

/-- **The pool and the project are read back exactly when the pool's name has no slash.**  The
project may have any name. -/
theorem poolAndProject_iff (pool project : Str) :
    poolAndProject (pool ++ lit "/" ++ project) = .ok (pool, project) ↔ chr '/' ∉ pool := by
  have hslash : chr '/' ∈ pool ++ lit "/" ++ project := by simp [lit]
  have hcut : pool ++ lit "/" ++ project = pool ++ chr '/' :: project := by simp [lit]
  unfold poolAndProject
  rw [if_pos hslash, hcut]
  constructor
  · intro h hmem
    have htake := (Prod.mk.inj (Except.ok.inj h)).1
    rw [← htake] at hmem
    simpa using List.mem_takeWhile_imp hmem
  · intro h
    have hall : ∀ c ∈ pool, decide (c ≠ chr '/') = true := fun c hc => decide_eq_true fun hceq => h (hceq ▸ hc)
    rw [List.takeWhile_append_of_pos hall, List.dropWhile_append_of_pos hall]
    simp

theorem poolAndProject_isOk (text : Str) : (poolAndProject text).isOk = true ↔ chr '/' ∈ text := by
  unfold poolAndProject
  by_cases h : chr '/' ∈ text
  · simp [h, Except.isOk, Except.toBool]
  · simp [h, Except.isOk, Except.toBool]

/-- A key of a kind that names a pool and a project has the slash between them. -/
def Placed (kind : String) (key : Str) : Prop := ∀ text, afterKind kind key = some text → chr '/' ∈ text

theorem responseRows_isOk {kind : String} {itemKey : Str} {row : Str × Str → Obj → Obj} {p : Str × Json} :
    (responseRows kind itemKey row p).isOk = true ↔ Placed kind p.1 := by
  unfold responseRows Placed
  cases afterKind kind p.1 with
  | none => simp [Except.isOk, Except.toBool]
  | some text =>
    simp only [Option.some.injEq, forall_eq']
    rw [← poolAndProject_isOk]
    cases poolAndProject text with
    | ok place => simp [Except.isOk, Except.toBool, bind, Except.bind, pure, Except.pure]
    | error e => simp [Except.isOk, Except.toBool, bind, Except.bind]

/-- The rows of a response under what follows the kind in its key. -/
def rowsUnder (itemKey : Str) (row : Str × Str → Obj → Obj) (text : Str) (response : Json) : List Obj :=
  (poolAndProject text).toOption.elim [] fun place => (items response itemKey).map (row place)

theorem responseRows_eq {kind : String} {itemKey : Str} {row : Str × Str → Obj → Obj} {p : Str × Json} {rows : List Obj}
    (h : responseRows kind itemKey row p = .ok rows) :
    rows = (afterKind kind p.1).elim [] fun text => rowsUnder itemKey row text p.2 := by
  unfold responseRows at h
  cases hkind : afterKind kind p.1 with
  | none =>
    rw [hkind] at h
    exact (Except.ok.inj h).symm
  | some text =>
    rw [hkind] at h
    obtain ⟨place, hplace, h⟩ := bind_eq_ok.mp h
    rw [← Except.ok.inj h, Option.elim_some, rowsUnder, hplace]
    rfl

/-- The rows of a kind are read exactly when every key of the kind is placed. -/
theorem placedRows_isOk {kind : String} {itemKey : Str} {row : Str × Str → Obj → Obj} {payloads : Obj} :
    (placedRows kind itemKey row payloads).isOk = true ↔ ∀ key ∈ Dict.keys payloads, Placed kind key := by
  have hrows : (placedRows kind itemKey row payloads).isOk = (payloads.mapM (responseRows kind itemKey row)).isOk :=
    isOk_map
  rw [hrows, isOk_mapM]
  simp only [responseRows_isOk, Dict.keys, List.forall_mem_map]

/-- The responses of a kind, by what follows the kind in their keys. -/
def responsesOf (kind : String) (payloads : Obj) : List (Str × Json) :=
  payloads.filterMap fun p => (afterKind kind p.1).map fun text => (text, p.2)

theorem mem_responsesOf {kind : String} {payloads : Obj} {text : Str} {response : Json} :
    (text, response) ∈ responsesOf kind payloads ↔ (lit kind ++ text, response) ∈ payloads := by
  unfold responsesOf
  rw [List.mem_filterMap]
  constructor
  · rintro ⟨p, hp, hmap⟩
    obtain ⟨text', htext, hpair⟩ := Option.map_eq_some_iff.mp hmap
    obtain ⟨rfl, rfl⟩ := Prod.mk.inj hpair
    rw [← afterKind_eq_some.mp htext]
    exact hp
  · intro hp
    exact ⟨_, hp, by rw [afterKind_append]; rfl⟩

/-- The rows of a kind are the rows of its responses, one response after the other. -/
theorem placedRows_eq {kind : String} {itemKey : Str} {row : Str × Str → Obj → Obj} {payloads : Obj} {rows : List Obj}
    (h : placedRows kind itemKey row payloads = .ok rows) :
    rows = (responsesOf kind payloads).flatMap fun r => rowsUnder itemKey row r.1 r.2 := by
  obtain ⟨parts, hparts, h⟩ := bind_eq_ok.mp h
  have hflat : ∀ {entries : Obj} {parts : List (List Obj)},
      List.Forall₂ (fun p part => responseRows kind itemKey row p = .ok part) entries parts →
        parts.flatten = (responsesOf kind entries).flatMap fun r => rowsUnder itemKey row r.1 r.2 := by
    intro entries parts hparts
    induction hparts with
    | nil => rfl
    | @cons p part entries parts hpart _ ih =>
      rw [List.flatten_cons, ih, responseRows_eq hpart, responsesOf, responsesOf, List.filterMap_cons]
      cases afterKind kind p.1 with
      | none => rfl
      | some text => rfl
  rw [← Except.ok.inj h, hflat (mapM_eq_ok.mp hparts)]

section Parsed

variable [Unicode]

/-- What the parser returns holds the rows of both kinds. -/
theorem parse_eq_ok {payloads : Obj} {fallbackName : Str} {parsed : Parsed}
    (h : parseZfsRestPayload payloads fallbackName = .ok parsed) :
    normalizeFilesystems payloads (deviceName payloads fallbackName) = .ok parsed.filesystems ∧
      normalizeLuns payloads (deviceName payloads fallbackName) = .ok parsed.luns := by
  obtain ⟨filesystems, hfilesystems, h⟩ := bind_eq_ok.mp h
  obtain ⟨luns, hluns, h⟩ := bind_eq_ok.mp h
  rw [← Except.ok.inj h]
  exact ⟨hfilesystems, hluns⟩

/-- The parser returns exactly when every filesystem and volume key is placed. -/
theorem parseZfsRestPayload_isOk (payloads : Obj) (fallbackName : Str) :
    (parseZfsRestPayload payloads fallbackName).isOk = true ↔
      (∀ key ∈ Dict.keys payloads, Placed "filesystems:" key) ∧ ∀ key ∈ Dict.keys payloads, Placed "luns:" key := by
  have hfilesystems : (normalizeFilesystems payloads (deviceName payloads fallbackName)).isOk = true ↔
      ∀ key ∈ Dict.keys payloads, Placed "filesystems:" key := placedRows_isOk
  have hluns : (normalizeLuns payloads (deviceName payloads fallbackName)).isOk = true ↔
      ∀ key ∈ Dict.keys payloads, Placed "luns:" key := placedRows_isOk
  rw [← hfilesystems, ← hluns]
  constructor
  · intro h
    obtain ⟨parsed, hparsed⟩ := isOk_iff.mp h
    obtain ⟨hfilesystems, hluns⟩ := parse_eq_ok hparsed
    exact ⟨isOk_iff.mpr ⟨_, hfilesystems⟩, isOk_iff.mpr ⟨_, hluns⟩⟩
  · rintro ⟨hfilesystems, hluns⟩
    obtain ⟨filesystems, hfilesystems⟩ := isOk_iff.mp hfilesystems
    obtain ⟨luns, hluns⟩ := isOk_iff.mp hluns
    exact isOk_bind.mpr ⟨filesystems, hfilesystems, isOk_bind.mpr ⟨luns, hluns, rfl⟩⟩

end Parsed

end BackupCollector.ZfsRest
