/-
# The Data Domain SNMP parser

`parse_dd_snmp_payload` turns the scalars and tables of a Data Domain into one summary.  Columns
that describe one kind of thing (compression periods, replication pairs, storage units) are joined
by the instance of their rows.  Where the summary has a single figure for a column it is the figure
of the column's FIRST row, and each column is read on its own.

That is the question settled here.  The four figures of the capacity (total, used, available,
percent) come from four columns, and nothing ties their first rows together: a walk that lacks the
first instance in one column puts the figures of two file systems side by side.
`oneFileSystem_iff` says when they are of one: exactly when the leading rows of the columns are of
one instance.

What "comes from the rows of an instance" means needs a definition that does not repeat the parser.
`ComesFrom` takes a figure to come from an instance when the rows of OTHER instances may hold
anything without changing it; so the theorem compares readings and not code.

The numbers are searched for in the texts: the first of them, with its thousands and its fraction.
Nothing here says that the unit of a column is the one the summary takes it for.
-/
import BackupCollector.Clients.Snmp
import BackupCollector.Py.Decimals
import BackupCollector.Py.Repr

namespace BackupCollector.DdSnmp

open Py Snmp

/-! ## 1. Rows

A walk is a list of rows with an instance and a value; anything that lacks one of the two is no
row. -/

/-- What the parser reads of a row. -/
structure Row where
  /-- the table instance -/
  inst : Str
  value : Str
deriving DecidableEq

/-- The fields of a row, when it has both. -/
def readRow (row : RowDict) : Option Row :=
  match Dict.get? row "instance", Dict.get? row "value" with
  | some inst, some value => some ⟨inst, value⟩
  | _, _ => none

/-- `_walk_rows` -/
def walkRows : Option SnmpValue → List Row
  | some (.rows rows) => rows.filterMap readRow
  | _ => []

/-- `_first_value` -/
def firstValue : Option SnmpValue → Option Str
  | some (.rows rows) => (walkRows (some (.rows rows))).head?.map Row.value
  | some (.text value) => some value
  | none => none

/-! ## 2. Numbers

The search for the first number of a text.  A number with thousands in groups of three is read with
them, any other up to the first comma. -/

section Numbers

variable [Unicode]

/-- `(?:,\d{3})*`: what it takes, and what follows. -/
def takeThousands : Str → Str × Str
  | c :: d₁ :: d₂ :: d₃ :: s =>
    if isChr ',' c && isDecimal d₁ && isDecimal d₂ && isDecimal d₃ then
      let (taken, rest) := takeThousands s
      (c :: d₁ :: d₂ :: d₃ :: taken, rest)
    else ([], c :: d₁ :: d₂ :: d₃ :: s)
  | s => ([], s)

/-- `\.\d+` -/
def takeFraction : Str → Option Str
  | c :: s =>
    let digits := s.takeWhile isDecimal
    if isChr '.' c && !digits.isEmpty then some (c :: digits) else none
  | [] => none

/-- `(?:\d+(?:,\d{3})*(?:\.\d+)?|\.\d+)` at the head of a text. -/
def unsignedAt (s : Str) : Option Str :=
  let digits := s.takeWhile isDecimal
  if digits.isEmpty then takeFraction s
  else
    let (thousands, rest) := takeThousands (s.dropWhile isDecimal)
    some (digits ++ thousands ++ (takeFraction rest).getD [])

/-- `[-+]?(?:...)` at the head of a text. -/
def numberAt : Str → Option Str
  | c :: s => if isChr '-' c || isChr '+' c then (unsignedAt s).map (c :: ·) else unsignedAt (c :: s)
  | [] => none

/-- `re.search`: the leftmost number. -/
def searchNumber : Str → Option Str
  | [] => none
  | c :: s => (numberAt (c :: s)).or (searchNumber s)

/-- `_to_float` -/
def toFloat (value : Option Str) : Option Float := do
  let number ← searchNumber (Str.strip (← value))
  parseFloat (number.filter (!isChr ',' ·))

/-- `_first_float` -/
def firstFloat (value : Option SnmpValue) : Option Float := toFloat (firstValue value)

/-- `GIB` -/
def gib : Float := 1073741824

end Numbers

/-! ## 3. Tables

A table is the rows of several columns by their instance, in the order in which the instances first
appear. -/

section Tables

variable [Unicode]

/-- `_table_rows` -/
def tableRows (columns : List (Str × Option SnmpValue)) (numericKeys : List Str) : List Obj :=
  let cell (key : Str) (row : Row) : Json :=
    if key ∈ numericKeys then Json.ofOption .float (toFloat (some row.value)) else .str row.value
  Dict.values <| columns.foldl (fun (byInstance : Dict Str Obj) column =>
    (walkRows column.2).foldl (fun byInstance row =>
      Dict.modify byInstance row.inst [("instance", .str row.inst)] fun target =>
        Dict.set target column.1 (cell column.1 row)) byInstance) []

/-- `_count_values` -/
def countValues (value : Option SnmpValue) : Dict Str Nat :=
  Dict.counter (((walkRows value).map fun row => Str.lower (Str.strip row.value)).filter (· ≠ []))

/-- `_enabled` -/
def enabled : Option Str → Option Bool
  | none => none
  | some value =>
    let normalized := Str.lower (Str.strip value)
    if normalized ∈ [lit "1", lit "enabled", lit "up", lit "true"] then some true
    else if normalized ∈ [lit "2", lit "disabled", lit "down", lit "false"] then some false
    else none

/-- `_state_up` -/
def stateUp : Json → Bool
  | .null => false
  | value => Str.lower (Str.strip (Json.toStr value)) ∈
      [lit "1", lit "enabled", lit "up", lit "ok", lit "online", lit "normal", lit "connected"]

end Tables

/-! ## 4. The summary

The parts of the summary, each under its name in the source. -/

/-- The capacity of the file system. -/
structure Capacity where
  totalBytes : Option Float
  usedBytes : Option Float
  availableBytes : Option Float
  usedPercent : Option Float

structure Ddboost where
  enabled : Option Bool
  status : Option Str
  throughputKbps : Dict Str (Option Float)
  connections : Dict Str (Option Float)
  compressionRatio : Option Float
  ifgroups : List Obj
  users : List Obj
  storageUnits : List Obj

structure Summary where
  deviceName : Str
  serialNumber : Option Str
  model : Option Str
  version : Option Str
  fileSystemStatus : Option Str
  capacity : Capacity
  compression : List Obj
  dedupRatio : Json
  compressionRatio : Json
  reductionPercent : Option Float
  alertCounts : Dict Str Nat
  replication : List Obj
  ddboost : Ddboost

section Summary

variable [Unicode]

/-- GiB as bytes, `None` as `None`. -/
def gibBytes : Json → Json
  | .float f => .float (f * gib)
  | _ => .null

/-- What `_parse_compression` makes of a joined row. -/
def compressionRow (row : Obj) : Obj :=
  let preGib := Obj.get row "pre_compression_gib"
  let postGib := Obj.get row "post_compression_gib"
  let popped := row.filter fun field => field.1 ∉ [lit "pre_compression_gib", lit "post_compression_gib"]
  let sized := Dict.set (Dict.set popped "pre_compression_bytes" (gibBytes preGib))
    "post_compression_bytes" (gibBytes postGib)
  match Obj.get sized "total_ratio", preGib, postGib with
  | .null, .float pre, .float post => if post == 0 then sized else Dict.set sized "total_ratio" (.float (pre / post))
  | _, _, _ => sized

/-- `_parse_compression` -/
def parseCompression (payload : SnmpPayload) : List Obj :=
  let rows := tableRows [
    ("period", Dict.get? payload "file_system_compression_period"),
    ("pre_compression_gib", Dict.get? payload "file_system_pre_compression_size"),
    ("post_compression_gib", Dict.get? payload "file_system_post_compression_size"),
    ("global_ratio", Dict.get? payload "file_system_global_compression_factor"),
    ("local_ratio", Dict.get? payload "file_system_local_compression_factor"),
    ("total_ratio", Dict.get? payload "file_system_total_compression_factor"),
    ("reduction_percent", Dict.get? payload "file_system_reduction_percent")]
    ["pre_compression_gib", "post_compression_gib", "global_ratio", "local_ratio", "total_ratio", "reduction_percent"]
  rows.map compressionRow

/-- `_first_compression_value` -/
def firstCompressionValue (rows : List Obj) (key : Str) : Json :=
  (rows.findSome? fun row =>
    let value := Obj.get row key
    if value = .null then none else some value).getD .null

/-- `_parse_capacity` -/
def parseCapacity (payload : SnmpPayload) : Capacity where
  totalBytes := (firstFloat (Dict.get? payload "file_system_space_size")).map (· * gib)
  usedBytes := (firstFloat (Dict.get? payload "file_system_space_used")).map (· * gib)
  availableBytes := (firstFloat (Dict.get? payload "file_system_space_available")).map (· * gib)
  usedPercent := firstFloat (Dict.get? payload "file_system_percent_used")

/-- `_parse_ddboost` -/
def parseDdboost (payload : SnmpPayload) : Ddboost :=
  let status := firstValue (Dict.get? payload "ddboost_status")
  { enabled := enabled status
    status := status
    throughputKbps := [
      ("pre_compression", firstFloat (Dict.get? payload "ddboost_pre_comp_kbps")),
      ("post_compression", firstFloat (Dict.get? payload "ddboost_post_comp_kbps")),
      ("network", firstFloat (Dict.get? payload "ddboost_network_kbps")),
      ("read", firstFloat (Dict.get? payload "ddboost_read_kbps"))]
    connections := [
      ("backup", firstFloat (Dict.get? payload "ddboost_backup_connections")),
      ("restore", firstFloat (Dict.get? payload "ddboost_restore_connections"))]
    compressionRatio := firstFloat (Dict.get? payload "ddboost_compression_ratio")
    ifgroups := tableRows [
      ("name", Dict.get? payload "ddboost_ifgroup_name"),
      ("status", Dict.get? payload "ddboost_ifgroup_status")] []
    users := tableRows [
      ("name", Dict.get? payload "ddboost_user_name"),
      ("tenant_unit", Dict.get? payload "ddboost_user_default_tenant_unit")] []
    storageUnits := tableRows [
      ("name", Dict.get? payload "ddboost_storage_unit_name"),
      ("bytes", Dict.get? payload "ddboost_storage_unit_bytes"),
      ("global_compression", Dict.get? payload "ddboost_storage_unit_global_comp"),
      ("local_compression", Dict.get? payload "ddboost_storage_unit_local_comp"),
      ("metadata_bytes", Dict.get? payload "ddboost_storage_unit_metadata"),
      ("status", Dict.get? payload "ddboost_storage_unit_status"),
      ("pre_compression_bytes", Dict.get? payload "ddboost_storage_unit_pre_comp"),
      ("user", Dict.get? payload "ddboost_storage_unit_user"),
      ("report_physical_size", Dict.get? payload "ddboost_storage_unit_report_physical_size"),
      ("bytes_hc", Dict.get? payload "ddboost_storage_unit_bytes_hc")]
      ["bytes", "global_compression", "local_compression", "metadata_bytes", "pre_compression_bytes",
        "report_physical_size", "bytes_hc"] }

/-- What `_parse_replication` adds to a joined row. -/
def replicationRow (row : Obj) : Obj :=
  let name := ((Obj.get row "destination").orElse (Obj.get row "source")).orElse (Obj.get row "instance")
  let state := (Obj.get row "state").orElse (Obj.get row "status")
  Dict.set (Dict.set row "name" name) "up" (.int (if stateUp state then 1 else 0))

/-- `_parse_replication` -/
def parseReplication (payload : SnmpPayload) : List Obj :=
  let rows := tableRows [
    ("source", Dict.get? payload "replication_source"),
    ("destination", Dict.get? payload "replication_destination"),
    ("state", Dict.get? payload "replication_state"),
    ("status", Dict.get? payload "replication_status")] []
  rows.map replicationRow

/-- `value or fallback` for a text that may be `None`. -/
def textOr (value : Option Str) (fallback : Str) : Str :=
  match value with
  | some (c :: s) => c :: s
  | _ => fallback

/-- `parse_dd_snmp_payload` -/
def parseDdSnmpPayload (payload : SnmpPayload) (fallbackName : Str) : Summary :=
  let compression := parseCompression payload
  { deviceName := textOr (firstValue (Dict.get? payload "system_hostname")) fallbackName
    serialNumber := firstValue (Dict.get? payload "system_serial_number")
    model := firstValue (Dict.get? payload "system_model")
    version := firstValue (Dict.get? payload "system_version")
    fileSystemStatus := firstValue (Dict.get? payload "file_system_status")
    capacity := parseCapacity payload
    compression := compression
    dedupRatio := firstCompressionValue compression "global_ratio"
    compressionRatio := firstCompressionValue compression "local_ratio"
    reductionPercent := firstFloat (Dict.get? payload "file_system_reduction_percent")
    alertCounts := countValues (Dict.get? payload "current_alert_severity")
    replication := parseReplication payload
    ddboost := parseDdboost payload }

end Summary

/-! ## 5. Which rows the capacity comes from

The figures of the capacity are read one column at a time.  A figure comes from the rows of an
instance when the rows of other instances may hold anything without changing it. -/

/-- The figures of the capacity. -/
inductive Figure where
  | totalBytes | usedBytes | availableBytes | usedPercent
deriving DecidableEq

namespace Figure

/-- The column a figure is read from. -/
def column : Figure → Str
  | .totalBytes => "file_system_space_size"
  | .usedBytes => "file_system_space_used"
  | .availableBytes => "file_system_space_available"
  | .usedPercent => "file_system_percent_used"

/-- What a figure is of the number read. -/
def scale : Figure → Float → Float
  | .usedPercent, f => f
  | _, f => f * gib

def of (capacity : Capacity) : Figure → Option Float
  | .totalBytes => capacity.totalBytes
  | .usedBytes => capacity.usedBytes
  | .availableBytes => capacity.availableBytes
  | .usedPercent => capacity.usedPercent

end Figure

/-- Two readings of one column that differ at most in what the rows of other instances hold. -/
def SameAt (inst : Str) : Option SnmpValue → Option SnmpValue → Prop
  | some (.rows rows), some (.rows rows') =>
    List.Forall₂ (fun row row' => row'.inst = row.inst ∧ (row.inst = inst → row' = row))
      (walkRows (some (.rows rows))) (walkRows (some (.rows rows')))
  | value, value' => value' = value

theorem sameAt_rows {inst : Str} {rows rows' : List RowDict} :
    SameAt inst (some (.rows rows)) (some (.rows rows')) ↔
      List.Forall₂ (fun row row' => row'.inst = row.inst ∧ (row.inst = inst → row' = row))
        (walkRows (some (.rows rows))) (walkRows (some (.rows rows'))) :=
  Iff.rfl

theorem sameAt_refl (inst : Str) (value : Option SnmpValue) : SameAt inst value value := by
  unfold SameAt
  split
  · exact List.forall₂_same.mpr fun row _ => ⟨rfl, fun _ => rfl⟩
  · rfl

section Capacity

variable [Unicode]

/-- A figure comes from the rows of one instance: it is the same whatever the other rows hold. -/
def ComesFrom (payload : SnmpPayload) (inst : Str) (figure : Figure) : Prop :=
  ∀ payload', (∀ key, SameAt inst (Dict.get? payload key) (Dict.get? payload' key)) →
    figure.of (parseCapacity payload') = figure.of (parseCapacity payload)

/-- All figures that are there come from the rows of one instance. -/
def OneFileSystem (payload : SnmpPayload) : Prop :=
  ∃ inst, ∀ figure : Figure, figure.of (parseCapacity payload) ≠ none → ComesFrom payload inst figure

/-- The first row of a figure's column, when it holds a number. -/
def leadingRow (payload : SnmpPayload) (figure : Figure) : Option Row :=
  (walkRows (Dict.get? payload figure.column)).head?.filter fun row => (toFloat (some row.value)).isSome

theorem figure_eq (payload : SnmpPayload) (figure : Figure) :
    figure.of (parseCapacity payload) = (firstFloat (Dict.get? payload figure.column)).map figure.scale := by
  cases figure with
  | usedPercent => exact Option.map_id'.symm
  | _ => rfl

omit [Unicode] in
/-- A column whose first row is of the instance has the same first value in both readings. -/
theorem firstValue_of_sameAt {inst : Str} {value value' : Option SnmpValue} (h : SameAt inst value value')
    (hfirst : ∀ row ∈ (walkRows value).head?, row.inst = inst) : firstValue value' = firstValue value := by
  unfold SameAt at h
  split at h
  · rename_i rows rows'
    simp only [firstValue]
    generalize walkRows (some (.rows rows)) = ws at h hfirst ⊢
    generalize walkRows (some (.rows rows')) = ws' at h ⊢
    cases h with
    | nil => rfl
    | cons hrow _ =>
      rw [List.head?_cons, List.head?_cons, hrow.2 (hfirst _ (by simp))]
  · rw [h]

omit [Unicode] in
/-- A column that has rows is a table. -/
theorem eq_rows_of_walkRows {value : Option SnmpValue} (h : walkRows value ≠ []) :
    ∃ rows, value = some (.rows rows) := by
  match value with
  | some (.rows rows) => exact ⟨rows, rfl⟩
  | some (.text _) => exact absurd rfl h
  | none => exact absurd rfl h

/-- A row with its two fields. -/
def rowDict (row : Row) : RowDict := [("instance", row.inst), ("value", row.value)]

omit [Unicode] in
theorem walkRows_rowDict (rows : List Row) : walkRows (some (.rows (rows.map rowDict))) = rows := by
  simp only [walkRows, List.filterMap_map]
  exact (List.filterMap_congr fun row _ => by simp [rowDict, readRow]).trans List.filterMap_some

theorem firstFloat_of_leadingRow {payload : SnmpPayload} {figure : Figure} {row : Row}
    (h : (walkRows (Dict.get? payload figure.column)).head? = some row) :
    firstFloat (Dict.get? payload figure.column) = toFloat (some row.value) := by
  obtain ⟨rest, hrows⟩ := List.head?_eq_some_iff.mp h
  obtain ⟨rows, hcolumn⟩ := eq_rows_of_walkRows (hrows ▸ List.cons_ne_nil row rest)
  rw [firstFloat, hcolumn, firstValue, ← hcolumn, h]
  rfl

theorem figure_of_leadingRow {payload : SnmpPayload} {figure : Figure} {row : Row}
    (h : leadingRow payload figure = some row) : figure.of (parseCapacity payload) ≠ none := by
  obtain ⟨hhead, hnumber⟩ := Option.filter_eq_some_iff.mp h
  rw [figure_eq, firstFloat_of_leadingRow hhead, Ne, Option.map_eq_none_iff]
  exact Option.isSome_iff_ne_none.mp hnumber

/-- A figure that comes from the rows of an instance has its leading row there: blanked, that row
would leave no figure. -/
theorem inst_of_comesFrom {payload : SnmpPayload} {figure : Figure} {row : Row} {inst : Str}
    (hlead : leadingRow payload figure = some row) (h : ComesFrom payload inst figure) : row.inst = inst := by
  obtain ⟨hhead, hnumber⟩ := Option.filter_eq_some_iff.mp hlead
  obtain ⟨rest, hrows⟩ := List.head?_eq_some_iff.mp hhead
  obtain ⟨rows, hcolumn⟩ := eq_rows_of_walkRows (hrows ▸ List.cons_ne_nil row rest)
  by_contra hne
  let blanked : SnmpPayload :=
    Dict.set payload figure.column (.rows ((⟨row.inst, []⟩ :: rest : List Row).map rowDict))
  have hsame : ∀ key, SameAt inst (Dict.get? payload key) (Dict.get? blanked key) := by
    intro key
    by_cases hkey : figure.column = key
    · subst hkey
      rw [Dict.get?_set_self, hcolumn, sameAt_rows, walkRows_rowDict, ← hcolumn, hrows]
      refine List.Forall₂.cons ⟨rfl, fun he => absurd he hne⟩ ?_
      exact List.forall₂_same.mpr fun _ _ => ⟨rfl, fun _ => rfl⟩
    · rw [Dict.get?_set_ne _ _ hkey]
      exact sameAt_refl inst _
  have hfigure := h blanked hsame
  have hblank : firstFloat (Dict.get? blanked figure.column) = none := by
    rw [Dict.get?_set_self, firstFloat, firstValue, walkRows_rowDict]
    rfl
  rw [figure_eq, figure_eq, hblank, firstFloat_of_leadingRow hhead] at hfigure
  obtain ⟨f, hf⟩ := Option.isSome_iff_exists.mp hnumber
  rw [hf] at hfigure
  cases hfigure

/-- A figure whose leading row is of the instance comes from its rows; so does one that is there
without a leading row, since a scalar is all it was read from. -/
theorem comesFrom_of_inst {payload : SnmpPayload} {figure : Figure} {inst : Str}
    (hthere : figure.of (parseCapacity payload) ≠ none)
    (h : ∀ row, leadingRow payload figure = some row → row.inst = inst) : ComesFrom payload inst figure := by
  intro payload' hsame
  rw [figure_eq, figure_eq]
  have hfirst : ∀ row ∈ (walkRows (Dict.get? payload figure.column)).head?, row.inst = inst := by
    intro row hrow
    refine h row (Option.filter_eq_some_iff.mpr ⟨hrow, ?_⟩)
    rw [figure_eq, Ne, Option.map_eq_none_iff] at hthere
    rw [firstFloat_of_leadingRow hrow] at hthere
    exact Option.isSome_iff_ne_none.mpr hthere
  rw [firstFloat, firstFloat, firstValue_of_sameAt (hsame figure.column) hfirst]

/-- **The capacity is of one file system exactly when the leading rows of its columns are of one
instance.**  A column that is a scalar, or whose first row holds no number, has no leading row and
puts no condition on the others. -/
theorem oneFileSystem_iff (payload : SnmpPayload) :
    OneFileSystem payload ↔
      ∀ figure figure' row row', leadingRow payload figure = some row → leadingRow payload figure' = some row' →
        row.inst = row'.inst := by
  constructor
  · rintro ⟨inst, h⟩ figure figure' row row' hlead hlead'
    rw [inst_of_comesFrom hlead (h figure (figure_of_leadingRow hlead)),
      inst_of_comesFrom hlead' (h figure' (figure_of_leadingRow hlead'))]
  · intro h
    by_cases hsome : ∃ figure row, leadingRow payload figure = some row
    · obtain ⟨figure, row, hlead⟩ := hsome
      exact ⟨row.inst, fun figure' hthere => comesFrom_of_inst hthere fun row' hlead' =>
        h figure' figure row' row hlead' hlead⟩
    · exact ⟨[], fun figure hthere => comesFrom_of_inst hthere fun row hlead => absurd ⟨figure, row, hlead⟩ hsome⟩

end Capacity

section Example

attribute [local instance] Unicode.ascii

/-- The size of two file systems, and a walk of the used space that lacks the first. -/
def shiftedColumns : SnmpPayload := [
  ("file_system_space_size", .rows [walkRow "1.3.6.1" ("1.3.6.1.1", "1000"), walkRow "1.3.6.1" ("1.3.6.1.2", "500")]),
  ("file_system_space_used", .rows [walkRow "1.3.6.2" ("1.3.6.2.2", "400")])]

/-- The total is of file system `1` then, the used space of file system `2`. -/
theorem not_oneFileSystem_shiftedColumns : ¬ OneFileSystem shiftedColumns := by
  have htotal : leadingRow shiftedColumns .totalBytes = some ⟨"1", "1000"⟩ := by decide +kernel
  have hused : leadingRow shiftedColumns .usedBytes = some ⟨"2", "400"⟩ := by decide +kernel
  rintro ⟨inst, h⟩
  have hone : lit "1" = inst := inst_of_comesFrom htotal (h .totalBytes (figure_of_leadingRow htotal))
  have htwo : lit "2" = inst := inst_of_comesFrom hused (h .usedBytes (figure_of_leadingRow hused))
  exact absurd (hone.trans htwo.symm) (by simp)

end Example

end BackupCollector.DdSnmp
