/-
# The DXi CLI parser

`parse_dxi_cli_outputs` reads the texts of the appliance's commands with regular expressions and
converts what they capture.  Each expression is a `Py.Item` list under the name of what it reads,
and the matching is that of `Py/Pattern`; the expressions are short, but whether a digit or a blank
of another script matches them decides what the conversions are handed, so nothing of them is left
out.

The conversions are where the parser can fail.  `_float` and `_int` sit in a `try`, and give `None`
for what is no number.  `_parse_size` and the speed of an interface do not: they call `float()` on
what an expression captured, and `[\d.]+` captures `1.2.3` as readily as `1.2`.  Which texts get
through is the subject of `Collectors/DxiCli`, where one unreadable size costs the whole payload.

A number of a size is a float, multiplied by a power of 1000 or of 1024.  The powers are exact as
floats; the products are rounded as the interpreter rounds them.

The module only says what the parser computes.  Nothing is proved in it.
-/
import BackupCollector.Py.Decimals
import BackupCollector.Py.Quotients
import BackupCollector.Values

namespace BackupCollector.DxiCli

open Py

/-- A record of a command's output: its keys and values as written. -/
abbrev Record := Dict Str Str

def recordJson (record : Record) : Json := .obj (record.map fun p => (p.1, .str p.2))

def recordsJson (records : List Record) : Json := .arr (records.map recordJson)

/-! ## 1. Patterns

What the expressions are made of, and the search for the first line that has a label.  The flags of
an expression, for lines and for case, are part of the items. -/

def spaces : Item := .many Str.isSpace

/-- `[^\r\n]` -/
def inLine (c : Chr) : Bool := !isChr '\r' c && !isChr '\n' c

/-- `^\s*\[[^]]+\]\s*$` -/
def headerLine : List Item :=
  [.textStart, spaces, .one (isChr '['), .many1 (!isChr ']' ·), .one (isChr ']'), spaces, .textEnd]

/-- `^\s*([^=]+?)\s*=\s*(.*?)\s*$` -/
def fieldLine : List Item :=
  [.textStart, spaces, .openGroup, .chars (!isChr '=' ·) 1 none false, .closeGroup, spaces, .one (isChr '='), spaces,
    .openGroup, .chars (!isChr '\n' ·) 0 none false, .closeGroup, spaces, .textEnd]

/-- `^NAME\s*=\s*([^\r\n]+)` -/
def assignment (name : String) : List Item :=
  .lineStart :: letters name ++ [spaces, .one (isChr '='), spaces, .openGroup, .many1 inLine, .closeGroup]

/-- `^\*{5,}\s*$` -/
def starLine : List Item := [.lineStart, .chars (isChr '*') 5 none true, spaces, .lineEnd]

/-- `^\s*-?\s*LABEL\s*=\s*` -/
def labelled (label : String) : List Item :=
  [.lineStart, spaces, .opt (isChr '-'), spaces] ++ letters label ++ [spaces, .one (isChr '='), spaces]

section Parser

variable [Unicode]

/-- `[KMGTPE]` under `re.IGNORECASE` -/
def unitLetter (c : Chr) : Bool := (lit "kmgtpe").contains (foldCase c)

/-- `[KMGTPE]?i?B` -/
def unitItems : List Item := [.opt unitLetter, .opt (sameLetter 'i'), .one (sameLetter 'B')]

/-- A label and `([\d.]+\s*[KMGTPE]?i?B)` -/
def sizeLine (label : String) : List Item :=
  labelled label ++ [.openGroup, .many1 isFigure, spaces] ++ unitItems ++ [.closeGroup]

/-- A label and `([\d.]+)\s*:\s*1` -/
def ratioLine (label : String) : List Item :=
  labelled label ++
    [.openGroup, .many1 isFigure, .closeGroup, spaces, .one (isChr ':'), spaces, .one (isChr '1')]

/-- `([\d.]+)\s*([KMGTPE]?i?B)` -/
def sizeParts : List Item :=
  [.openGroup, .many1 isFigure, .closeGroup, spaces, .openGroup] ++ unitItems ++ [.closeGroup]

/-- `([\d.]+)\s*Mb/s` -/
def speedText : List Item := [.openGroup, .many1 isFigure, .closeGroup, spaces] ++ letters "Mb/s"

/-- `^MTU\s*=\s*(\d+)` -/
def mtuLine : List Item :=
  .lineStart :: letters "MTU" ++ [spaces, .one (isChr '='), spaces, .openGroup, .many1 isDecimal, .closeGroup]

/-- `_first_match` -/
def firstMatch (text : Str) (patterns : List (List Item)) : Option Str :=
  patterns.findSome? fun pattern => ((search pattern text).bind List.head?).map Str.strip

/-! ## 2. Conversions

The two kinds of conversion: those that have a value for everything, and those that raise. -/

/-- `d[k]` -/
def item {ν : Type} (d : Dict Str ν) (k : Str) : Except Err ν :=
  match Dict.get? d k with
  | some v => .ok v
  | none => .error ⟨.keyError, Py.reprStr k⟩

/-- `_lower` -/
def lower (value : Option Str) : Str :=
  match value with
  | some s => Str.lower (Str.strip s)
  | none => []

/-- `_float` -/
def float (value : Option Str) : Option Float := value.bind parseFloat

/-- `_int` -/
def int (value : Option Str) : Option Int := value.bind parseInt

/-- The power of 1000 or 1024 a unit stands for. -/
def unitExponents : Dict Str Nat := [
  ("B", 0), ("KB", 1), ("KIB", 1), ("MB", 2), ("MIB", 2), ("GB", 3), ("GIB", 3),
  ("TB", 4), ("TIB", 4), ("PB", 5), ("PIB", 5), ("EB", 6), ("EIB", 6)]

/-- `(1024 if "IB" in unit else 1000) ** exponent`; as a float it is exact. -/
def unitFactor (unit : Str) (exponent : Nat) : Float :=
  Float.ofNat ((if lit "IB" <:+: unit then 1024 else 1000) ^ exponent)

/-- The number and the unit of a size, in figures and letters. -/
def splitSize (value : Str) : Option (Str × Str) :=
  match matchStart sizeParts (Str.strip value) with
  | some [number, unit] => some (number, unit)
  | _ => none

/-- `float(text)` -/
def floatOf (text : Str) : Except Err Float :=
  match parseFloat text with
  | some f => .ok f
  | none => .error (valueError (lit "could not convert string to float: " ++ Py.reprStr text))

/-- `_parse_size` -/
def parseSize (value : Option Str) : Except Err (Option Int) :=
  match value.bind splitSize with
  | none => .ok none
  | some (digits, letters) => do
    let number ← floatOf digits
    let unit := Str.upper letters
    let exponent ← item unitExponents unit
    let bytes ← roundToInt (number * unitFactor unit exponent)
    return some bytes

/-- `_size_field` -/
def sizeField (text : Str) (label : String) : Except Err (Option Int) := parseSize (firstMatch text [sizeLine label])

/-- `_ratio_field` -/
def ratioField (text : Str) (label : String) : Option Float := float (firstMatch text [ratioLine label])

/-! ## 3. Sections

One definition for each section of the output, under its name in the source.  A section that is
missing from the output reads as one of an empty text. -/

/-- One line of `_parse_records`: what is closed, and what is open. -/
def recordStep (state : List Record × Option Record) (line : Str) : List Record × Option Record :=
  if (matchStart headerLine line).isSome then
    (match state.2 with
      | some current => if current.isEmpty then state.1 else state.1 ++ [current]
      | none => state.1, some [])
  else match matchStart fieldLine line, state.2 with
    | some [key, value], some current => (state.1, some (Dict.set current (Str.strip key) (Str.strip value)))
    | _, _ => state

/-- `_parse_records` -/
def parseRecords (text : Str) : List Record :=
  match (Str.splitlines text).foldl recordStep ([], none) with
  | (records, some current) => if current.isEmpty then records else records ++ [current]
  | (records, none) => records

/-- `round((used / total) * 100, 3) if total and used is not None else None` -/
def usedPercent (total used : Option Int) : Except Err (Option Float) :=
  match total, used with
  | some t, some u =>
    if t = 0 then .ok none
    else do
      let share ← trueDiv u t
      return some (round3 (share * 100.0))
  | _, _ => .ok none

/-- `_parse_capacity` -/
def parseCapacity (text : Str) : Except Err Obj := do
  let total ← sizeField text "Disk Capacity"
  let available ← sizeField text "Available Disk Space"
  let free ← sizeField text "Free Space"
  let reclaimable ← sizeField text "Reclaimable Space"
  let used ← sizeField text "Used Disk Space"
  let deduplicated ← sizeField text "Deduplicated Data"
  let metadata ← sizeField text "System Metadata"
  let notDeduplicated ← sizeField text "Data Not Intended for Deduplication"
  let percent ← usedPercent total used
  return [
    ("total_bytes", Json.ofOption .int total),
    ("used_bytes", Json.ofOption .int used),
    ("available_bytes", Json.ofOption .int available),
    ("free_bytes", Json.ofOption .int free),
    ("reclaimable_bytes", Json.ofOption .int reclaimable),
    ("deduplicated_bytes", Json.ofOption .int deduplicated),
    ("metadata_bytes", Json.ofOption .int metadata),
    ("not_deduplicated_bytes", Json.ofOption .int notDeduplicated),
    ("used_percent", Json.ofOption .float percent)]

/-- `_parse_data_reduction` -/
def parseDataReduction (text : Str) : Except Err Obj := do
  let before ← sizeField text "Data Size Before Reduction"
  let after ← sizeField text "Data Size After Reduction"
  return [
    ("before_bytes", Json.ofOption .int before),
    ("after_bytes", Json.ofOption .int after),
    ("total_reduction_ratio", Json.ofOption .float (ratioField text "Total Reduction Ratio")),
    ("deduplication_ratio", Json.ofOption .float (ratioField text "Deduplication Ratio")),
    ("compression_ratio", Json.ofOption .float (ratioField text "Compression Ratio"))]

/-- A row of `_parse_vtls`. -/
def vtlRow (record : Record) : Obj :=
  let text (key : Str) : Json := Json.ofOption .str (Dict.get? record key)
  let count (key : Str) : Json := Json.ofOption .int (int (Dict.get? record key))
  let mode := lower (Dict.get? record "mode")
  [ ("name", text "name"),
    ("mode", .str mode),
    ("online", .int (if mode = lit "online" then 1 else 0)),
    ("model", text "model"),
    ("drive_model", text "drivemodel"),
    ("drive_count", count "drives"),
    ("media_count", count "media"),
    ("slot_count", count "slots"),
    ("ie_slot_count", count "ieslots"),
    ("serial", text "serial"),
    ("dedup_enabled", .bool (decide (lower (Dict.get? record "dedup") = lit "enabled"))),
    ("replication_enabled", .bool (decide (lower (Dict.get? record "replication") = lit "enabled")))]

/-- `_parse_vtls` -/
def parseVtls (text : Str) : List Obj :=
  ((parseRecords text).filter fun record : Record => (Dict.get? record "name").isSome).map vtlRow

/-- The text an interface's speed is read from: `str(record.get("Value", ""))`. -/
def speedOf (record : Record) : Option Str := firstMatch ((Dict.get? record "Value").getD []) [speedText]

/-- `float(speed) if speed else None` -/
def speedNumber (record : Record) : Except Err (Option Float) :=
  match speedOf record with
  | none => .ok none
  | some speed => if speed.isEmpty then .ok none else (floatOf speed).map some

/-- A row of `_parse_interfaces`. -/
def interfaceRow (record : Record) : Except Err Obj := do
  let speed ← speedNumber record
  let status := orText (lower (Dict.get? record "Status")) "unknown"
  return [
    ("name", Json.ofOption .str (Dict.get? record "Name")),
    ("state", .str status),
    ("up", .int (if status = lit "up" then 1 else 0)),
    ("speed_bps", Json.ofOption .float (speed.map (· * 1000000.0)))]

/-- `record.get("Name")` that is neither missing nor empty. -/
def isInterface (record : Record) : Bool := (Dict.get? record "Name").any (!·.isEmpty)

/-- `_parse_interfaces` -/
def parseInterfaces (text : Str) : Except Err (List Obj) := ((parseRecords text).filter isInterface).mapM interfaceRow

/-- The host name a network configuration sets. -/
def hostname (text : Str) : Option Str := firstMatch text [assignment "Hostname", assignment "HOSTNAME"]

/-- A configured interface of `_parse_network_config`. -/
def configuredRow (block : Str) : Option Obj :=
  match firstMatch block [assignment "DEVICE"] with
  | none => none
  | some device =>
    let text (name : String) : Json := Json.ofOption .str (firstMatch block [assignment name])
    if device.isEmpty then none
    else some [
      ("name", .str device),
      ("type", text "TYPE"),
      ("master", text "MASTER"),
      ("ip_address", text "IPADDR"),
      ("netmask", text "NETMASK"),
      ("mtu", Json.ofOption .int (int (firstMatch block [mtuLine])))]

/-- `_parse_network_config` -/
def parseNetworkConfig (text : Str) : Obj := [
  ("hostname", Json.ofOption .str (hostname text)),
  ("gateway", Json.ofOption .str (firstMatch text [assignment "GATEWAY"])),
  ("configured_interfaces", .arr (((splitPattern starLine text).filterMap configuredRow).map .obj))]

/-! ## 4. States and counts

A state is one of four and the worst of the records wins; a record without a status is passed over,
and where no record has one the state is unknown.  The tickets are counted by the severity their
priority stands for. -/

/-- `_STATUS_RANK` -/
def statusRank : Dict Str Nat := [("normal", 0), ("unknown", 1), ("warning", 2), ("critical", 3)]

/-- `_normalize_status` -/
def normalizeStatus (value : Str) : Str :=
  let normalized := Str.lower (Str.strip value)
  if normalized ∈ [lit "normal", lit "ok", lit "up", lit "online", lit "healthy"] then "normal"
  else if normalized ∈ [lit "warning", lit "degraded"] then "warning"
  else if normalized ∈ [lit "critical", lit "failed", lit "failure", lit "error"] then "critical"
  else "unknown"

/-- One record of `_overall_hardware_state`: the worst status so far, and whether there is any. -/
def hardwareStep (state : Str × Bool) (record : Record) : Except Err (Str × Bool) :=
  match Dict.get? record "Status" with
  | none => .ok state
  | some status => do
    let normalized := normalizeStatus status
    let rank ← item statusRank normalized
    let worst ← item statusRank state.1
    return (if worst < rank then normalized else state.1, true)

/-- `_overall_hardware_state` -/
def overallHardwareState (hardware : Dict Str (List Record)) : Except Err Str := do
  let state ← (Dict.values hardware).flatten.foldlM hardwareStep (lit "normal", false)
  return if state.2 then state.1 else "unknown"

/-- The severity a ticket's priority stands for. -/
def priorityMap : Dict Str Str := [("high", "critical"), ("middle", "warning"), ("low", "info")]

/-- One ticket of `_alert_counts`. -/
def countTicket (counts : Dict Str Nat) (ticket : Record) : Except Err (Dict Str Nat) := do
  let severity := (Dict.get? priorityMap (lower (Dict.get? ticket "Priority"))).getD "unclassified"
  let count ← item counts severity
  return Dict.set counts severity (count + 1)

/-- `_alert_counts` -/
def alertCounts (adminAlerts tickets : List Record) : Except Err (Dict Str Nat) := do
  let counts ← tickets.foldlM countTicket
    [(lit "critical", 0), (lit "warning", 0), (lit "info", 0), (lit "unclassified", adminAlerts.length)]
  return Dict.set counts "total" (adminAlerts.length + tickets.length)

/-! ## 5. The summary

The sections put together, in the order of the source. -/

/-- `outputs.get(name, "")` -/
def output (outputs : Dict Str Str) (name : Str) : Str := (Dict.get? outputs name).getD []

/-- `parse_dxi_cli_outputs` -/
def parseDxiCliOutputs (outputs : Dict Str Str) (fallbackName : Str) : Except Err Obj := do
  let hardware : Dict Str (List Record) := [
    ("common_components", parseRecords (output outputs "common_components")),
    ("storage_arrays", parseRecords (output outputs "storage_arrays")),
    ("system_board", parseRecords (output outputs "system_board"))]
  let vtls := parseVtls (output outputs "vtls")
  let adminAlerts := parseRecords (output outputs "admin_alerts")
  let serviceTickets := parseRecords (output outputs "service_tickets")
  let state ← overallHardwareState hardware
  let host := (hostname (output outputs "network_config")).getD []
  let reduction ← parseDataReduction (output outputs "dedup")
  let counts ← alertCounts adminAlerts serviceTickets
  let capacity ← parseCapacity (output outputs "capacity")
  let interfaces ← parseInterfaces (output outputs "interfaces")
  return [
    ("device_name", .str (orText host fallbackName)),
    ("state", .str state),
    ("capacity", .obj capacity),
    ("dedup_ratio", Obj.get reduction "deduplication_ratio"),
    ("data_reduction", .obj reduction),
    ("hardware", .obj (hardware.map fun p => (p.1, recordsJson p.2))),
    ("vtls", .arr (vtls.map .obj)),
    ("interfaces", .arr (interfaces.map .obj)),
    ("network", .obj (parseNetworkConfig (output outputs "network_config"))),
    ("admin_alerts", recordsJson adminAlerts),
    ("service_tickets", recordsJson serviceTickets),
    ("alert_counts", .obj (counts.map fun p => (p.1, .int p.2)))]

end Parser

end BackupCollector.DxiCli
