/-
# The i6000 parser

`parse_i6000_rest_payload` searches the responses for the objects of a library by key, wherever
they stand.  A search finds nothing where there is nothing, and every conversion has a value for
what it cannot read, so nothing here raises.  That is a choice with a price: an endpoint that
failed reads as one that answered with nothing, and the summary does not say which it was.  The
payload does, next to the summary; see the collector.

Two questions are settled, both of the kind that a parser which cannot fail leaves behind.

* Is every drive reported as it is?  The drives of the status carry their mode and state, and their
  rows repeat them.  The drives response carries them too, but on the way through
  `_normalize_drive_detail` they are dropped, and what is not given counts as well.
  `drives_reported_iff`: the rows are right exactly when the status lists the drives, or when every
  drive of the drives response is online anyway.
* Does a library have one name?  It may be named by the physical library, by the ping or by the
  configuration, in this order, and these are requests of DIFFERENT classes.  `one_name_iff` says
  when a fast collection, a slow one and an unscheduled one agree.

A search is by the lower case of a key, and goes on below what it finds.  Not covered here: what a
response looks like before it is a dictionary (`XmlSearch` takes the XML ones), and the gauges (the
collector has them).
-/
import BackupCollector.Clients.Rest
import BackupCollector.Parsers.NetworkerRest

namespace BackupCollector.I6000

open Py

section Parser

variable [Unicode]

/-! ## 1. Searching

Every search descends into dictionaries and lists alike.  A key that is found adds its value, or
the elements of it when it is a list, and then what is found inside. -/

mutual

/-- `_find_values`: what stands under a key, at any depth. -/
def findValues (key : Str) : Json → List Json
  | .obj entries => findInEntries key entries
  | .arr xs => findInItems key xs
  | _ => []

def findInEntries (key : Str) : List (Str × Json) → List Json
  | [] => []
  | (itemKey, itemValue) :: entries =>
    (if Str.lower itemKey = Str.lower key then asList itemValue else []) ++ findValues key itemValue ++
      findInEntries key entries

def findInItems (key : Str) : List Json → List Json
  | [] => []
  | x :: xs => findValues key x ++ findInItems key xs

end

/-- `_first_mapping` -/
def firstMapping (values : List Json) : Obj := ((dictItems values).head?).getD []

/-- `_boolish` -/
def boolish (value : Json) : Option Bool :=
  match value with
  | .null => none
  | value =>
    let normalized := Str.lower (string value)
    if normalized ∈ [lit "true", lit "1", lit "yes"] then some true
    else if normalized ∈ [lit "false", lit "0", lit "no"] then some false
    else none

/-- `_int(item.get(key))` -/
def intOf (item : Obj) (key : Str) : Option Int := int (Obj.get item key)

/-- `_string(item.get(key))` -/
def stringOf (item : Obj) (key : Str) : Str := string (Obj.get item key)

/-- `value in {1, None}` -/
def oneOrNone (value : Option Int) : Bool := decide (value = some 1) || decide (value = none)

def intJson (value : Option Int) : Json := Json.ofOption .int value

/-! ## 2. Rows

A row keeps numbers as numbers or `null`, and texts as texts.  `up` is `1` where mode and state are
each `1` or not given, a rule that is easy on a library that says little. -/

/-- A row of `_parse_robots`. -/
def robotRow (item : Obj) : Obj :=
  let status := intOf item "status"
  let state := intOf item "state"
  [ ("name", .str (orText (stringOf item "serialNumber") (orText (stringOf item "location") "robot"))),
    ("status", intJson status),
    ("state", intJson state),
    ("up", .int (if oneOrNone status && oneOrNone state then 1 else 0))]

/-- `_parse_robots` -/
def parseRobots (status : Obj) : List Obj := (dictItems (asList (Obj.get status "robot"))).map robotRow

/-- `_parse_partitions` -/
def parsePartitions (status : Obj) : List Obj :=
  (dictItems (asList (Obj.get status "partition"))).map fun item =>
    [ ("name", .str (orText (stringOf item "name") "partition")),
      ("mode", intJson (intOf item "mode")),
      ("type", intJson (intOf item "type"))]

/-- `_drive_serial` -/
def driveSerial (item : Obj) : Str :=
  orText (stringOf item "logicalSerialNumber") (orText (stringOf item "physicalSerialNumber")
    (orText (stringOf item "serialNumber") (stringOf item "serial_number")))

/-- `_normalize_drive_detail` -/
def normalizeDriveDetail (item : Obj) : Obj :=
  [ ("name", .str (stringOf item "name")),
    ("serial_number", .str (driveSerial item)),
    ("model", .str (orText (stringOf item "model") (stringOf item "productId")))]

/-- The drive objects a library status lists. -/
def statusDrives (status : Obj) : List Obj := dictItems (asList (Obj.get status "drive"))

/-- The drive objects of the drives response. -/
def payloadDrives (payload : Json) : List Obj := dictItems (findValues "drive" payload)

/-- The details that have a serial number, by it. -/
def detailBySerial (details : List Obj) : Dict Str Obj :=
  (details.filter fun detail => (Obj.get detail "serial_number").truthy).foldl
    (fun acc detail => Dict.set acc (textField detail "serial_number") detail) []

/-- A row of `_parse_drives`. -/
def driveRow (details : Dict Str Obj) (errorCounts : Dict Str Nat) (item : Obj) : Obj :=
  let serial := driveSerial item
  let detail := (Dict.get? details serial).getD []
  let mode := intOf item "mode"
  let state := intOf item "state"
  [ ("name", .str (orText serial (orText (stringOf detail "name") (orText (stringOf item "location") "drive")))),
    ("serial_number", .str serial),
    ("model", .str (stringOf detail "model")),
    ("mode", intJson mode),
    ("state", intJson state),
    ("up", .int (if oneOrNone mode && oneOrNone state then 1 else 0)),
    ("error_count", .int ((Dict.get? errorCounts serial).getD 0 : Nat))]

/-- `_parse_drives` -/
def parseDrives (status : Obj) (drivePayload : Json) (driveErrorCounts : Dict Str Nat) : List Obj :=
  let detailed := (payloadDrives drivePayload).map normalizeDriveDetail
  let source := if (statusDrives status).isEmpty then detailed else statusDrives status
  source.map (driveRow (detailBySerial detailed) driveErrorCounts)

/-- `_parse_towers` -/
def parseTowers (status : Obj) (towerPayload : Json) : List Obj :=
  let found := findValues "tower" towerPayload
  let source := if found.isEmpty then asList (Obj.get status "tower") else found
  (dictItems source).map fun item =>
    [ ("name", .str (orText (stringOf item "id") (orText (stringOf item "frameNumber")
        (orText (stringOf item "serialNumber") "tower")))),
      ("serial_number", .str (stringOf item "serialNumber")),
      ("mode", intJson (intOf item "mode")),
      ("state", intJson (intOf item "state")),
      ("status", intJson (intOf item "status")),
      ("door_opened", Json.ofOption .bool (boolish (Obj.get item "doorOpened")))]

/-- `_parse_ie_stations` -/
def parseIeStations (payload : Json) : List Obj :=
  (dictItems (findValues "ieStation" payload)).map fun item =>
    [ ("name", .str (orText (stringOf item "number") (orText (stringOf item "id")
        (orText (stringOf item "name") "ieStation")))),
      ("status", intJson (intOf item "status")),
      ("state", intJson (intOf item "state")),
      ("mode", intJson (intOf item "mode")),
      ("lock", intJson (intOf item "lock"))]

/-- `status.get("ras") if isinstance(status.get("ras"), dict) else {}` -/
def rasOf (status : Obj) : Obj := ((Obj.get status "ras").asObj?).getD []

/-- `_parse_ras_status` -/
def parseRasStatus (status : Obj) (rasPayload : Json) : List Obj :=
  let rawStatus := asList (Obj.get (rasOf status) "status") ++ findValues "RASGroupStatus" rasPayload ++
    findValues "status" rasPayload
  ((dictItems rawStatus).filter fun item => decide (lit "group" ∈ Dict.keys item ∧ lit "status" ∈ Dict.keys item)).map
    fun item => [("group", intJson (intOf item "group")), ("status", intJson (intOf item "status"))]

/-- `_ras_opened_tickets` -/
def rasOpenedTickets (status : Obj) : Option Int :=
  (intOf (rasOf status) "openedTickets").or (intOf status "openedTickets")

/-! ## 3. Counts

A ticket without a serial number counts for `unknown`, and a segment without a size counts for one
slot. -/

/-- The tickets of a response, under either of their names. -/
def tickets (payload : Json) : List Json := findValues "ticket" payload ++ findValues "rasTicket" payload

/-- `_drive_error_counts` -/
def driveErrorCounts (payload : Json) : Dict Str Nat :=
  Dict.counter (((dictItems (tickets payload)).filter fun ticket =>
    decide (intOf (((Obj.get ticket "groupStatus").asObj?).getD []) "group" = some 4)).map fun ticket =>
      orText (stringOf ticket "serialNumber") "unknown")

/-- `_ticket_count` -/
def ticketCount (payload : Json) : Nat := (tickets payload).length

/-- The severity of a ticket. -/
def severityName : Option Int → Str
  | some 1 => "critical"
  | some 2 => "degraded"
  | some 3 => "warning"
  | some 4 => "attention"
  | some 5 => "informational"
  | _ => "unknown"

/-- `_ras_ticket_counts` -/
def rasTicketCounts (payload : Json) : Dict Str Nat :=
  Dict.counter ((dictItems (tickets payload)).map fun ticket => severityName (intOf ticket "severity"))

/-- What a segment counts for: its size, one without a size. -/
def segmentSize (segment : Obj) : Int := (intOf segment "size").getD 1

/-- `_segment_slot_count` -/
def segmentSlotCount (payload : Json) : Int := ((dictItems (findValues "segment" payload)).map segmentSize).sum

/-- `len(_find_values(payload, "media"))` -/
def mediaCount (payload : Json) : Nat := (findValues "media" payload).length

/-! ## 4. The summary

The fields of the summary, in the order of the source.  What no response gives is `null` where the
field is a number that is read, and `0` where it is counted. -/

/-- The mapping a response holds under a key. -/
def mappingOf (payloads : Obj) (endpoint key : Str) : Obj := firstMapping (findValues key (Obj.get payloads endpoint))

/-- `parse_i6000_rest_payload` -/
def parseI6000RestPayload (payloads : Obj) (fallbackName : Str) : Obj :=
  let ping := mappingOf payloads "ping" "ping"
  let physicalLibrary := mappingOf payloads "physical_library" "physicalLibrary"
  let status := mappingOf payloads "status" "libraryStatus"
  let deviceName := orText (stringOf physicalLibrary "name") (orText (stringOf ping "serialNumber")
    (orText (stringOf ping "productName") fallbackName))
  let state := (intOf status "state").or (intOf physicalLibrary "state")
  let mode := (intOf status "mode").or (intOf physicalLibrary "mode")
  let libraryStatus : Option Int :=
    if state = some 1 ∧ mode = some 1 then some 1
    else if state ≠ none ∨ mode ≠ none then some 0 else none
  let rasTickets := Obj.get payloads "ras_tickets"
  let towers := parseTowers status (Obj.get payloads "towers")
  [ ("device_name", .str deviceName),
    ("product_name", .str (orText (stringOf ping "productName") (stringOf physicalLibrary "productId"))),
    ("serial_number", .str (orText (stringOf ping "serialNumber") (stringOf physicalLibrary "serialNumber"))),
    ("firmware_version", .str (orText (stringOf ping "firmwareVersion") (stringOf physicalLibrary "firmwareVersion"))),
    ("vendor", .str (orText (stringOf ping "vendor") (stringOf physicalLibrary "vendorId"))),
    ("library_state", intJson state),
    ("library_mode", intJson mode),
    ("library_status", intJson libraryStatus),
    ("snmp_started", Json.ofOption .bool (boolish (Obj.get status "snmpStarted"))),
    ("ras_status", .arr ((parseRasStatus status (Obj.get payloads "ras_status")).map .obj)),
    ("ras_opened_tickets", intJson ((rasOpenedTickets status).or (some (ticketCount rasTickets)))),
    ("robots", .arr ((parseRobots status).map .obj)),
    ("partitions", .arr ((parsePartitions status).map .obj)),
    ("drives", .arr ((parseDrives status (Obj.get payloads "drives") (driveErrorCounts rasTickets)).map .obj)),
    ("towers", .arr (towers.map .obj)),
    ("library_main_door_open", .bool (towers.any fun item => decide (Obj.get item "door_opened" = .bool true))),
    ("ie_stations", .arr ((parseIeStations (Obj.get payloads "ie_stations")).map .obj)),
    ("slot_used_count", .int (segmentSlotCount (Obj.get payloads "segments_storage_used"))),
    ("slot_free_count", .int (segmentSlotCount (Obj.get payloads "segments_storage_available"))),
    ("media_count", .int (mediaCount (Obj.get payloads "media"))),
    ("ras_ticket_counts", .obj ((rasTicketCounts rasTickets).map fun p => (p.1, .int p.2)))]

/-! ## 5. The drives

The rows are compared with the drive objects they are made from, whichever response those are in.
The comparison is of `up` alone; the mode and the state of a row from the drives response are those
of its detail, which are `null`. -/

/-- A drive whose mode and state are each 1 or not given.  One that says nothing is online. -/
def Online (drive : Obj) : Prop := oneOrNone (intOf drive "mode") = true ∧ oneOrNone (intOf drive "state") = true

instance (drive : Obj) : Decidable (Online drive) := inferInstanceAs (Decidable (_ ∧ _))

/-- The drive objects the rows are about: those of the status, and those of the drives response
when the status lists none. -/
def driveObjects (status : Obj) (drivePayload : Json) : List Obj :=
  if (statusDrives status).isEmpty then payloadDrives drivePayload else statusDrives status

/-- Each drive object has its row, in order, with `up` exactly when it is online. -/
def DrivesReported (status : Obj) (drivePayload : Json) (driveErrorCounts : Dict Str Nat) : Prop :=
  List.Forall₂ (fun drive row => Obj.get row "up" = .int (if Online drive then 1 else 0))
    (driveObjects status drivePayload) (parseDrives status drivePayload driveErrorCounts)

theorem up_driveRow (details : Dict Str Obj) (errorCounts : Dict Str Nat) (item : Obj) :
    Obj.get (driveRow details errorCounts item) "up" = .int (if Online item then 1 else 0) := by
  by_cases h : Online item
  · rw [if_pos h]
    simp [driveRow, h.1, h.2]
  · rw [if_neg h]
    simp only [Online, ← Bool.and_eq_true] at h
    simp [driveRow, h]

/-- No number is read where none is given. -/
theorem int_null : int .null = none := by
  have htext : Str.strip (Json.toStr .null) = lit "None" := by
    change Str.strip (lit "None") = lit "None"
    decide
  have hread : toAsciiDigits (lit "None") = some (lit "None") := toAsciiDigits_of_ascii (by decide)
  unfold int parseInt
  rw [htext, hread]
  decide

/-- The detail of a drive has lost its mode and state, so it looks online. -/
theorem online_normalizeDriveDetail (item : Obj) : Online (normalizeDriveDetail item) := by
  simp [Online, normalizeDriveDetail, intOf, int_null, oneOrNone]

/-- **Every drive is reported as it is exactly when the status lists the drives or every drive of
the drives response is online.**  The error counts play no part, and a drive may be listed twice. -/
theorem drives_reported_iff (status : Obj) (drivePayload : Json) (driveErrorCounts : Dict Str Nat) :
    DrivesReported status drivePayload driveErrorCounts ↔
      statusDrives status ≠ [] ∨ ∀ drive ∈ payloadDrives drivePayload, Online drive := by
  unfold DrivesReported driveObjects parseDrives
  dsimp only
  by_cases hstatus : statusDrives status = []
  · rw [hstatus, List.isEmpty_nil, if_pos rfl, if_pos rfl, List.map_map, List.forall₂_map_right_iff, List.forall₂_same]
    constructor
    · intro h
      refine Or.inr fun drive hdrive => ?_
      by_contra hoffline
      have hup := h drive hdrive
      rw [Function.comp_apply, up_driveRow, if_pos (online_normalizeDriveDetail drive), if_neg hoffline] at hup
      cases hup
    · rintro (hne | h) drive hdrive
      · exact absurd rfl hne
      · rw [Function.comp_apply, up_driveRow, if_pos (online_normalizeDriveDetail drive), if_pos (h drive hdrive)]
  · rw [if_neg (by simpa using hstatus), if_neg (by simpa using hstatus), List.forall₂_map_right_iff, List.forall₂_same]
    exact ⟨fun _ => Or.inl hstatus, fun _ drive _ => up_driveRow _ _ drive⟩

end Parser

section OneDrive

attribute [local instance] Unicode.ascii

/-- A drive in another mode that only the drives response has. -/
def offlineDrive : Json := .obj [("drive", .obj [("serialNumber", .str "D1"), ("mode", .int 2), ("state", .int 1)])]

/-- It is reported up. -/
theorem offline_drive_up : ¬ ∀ (status : Obj) (drivePayload : Json) (driveErrorCounts : Dict Str Nat),
    DrivesReported status drivePayload driveErrorCounts := by
  intro h
  have hrow := (List.forall₂_iff_get.mp (h [] offlineDrive [])).2 0 (by decide +kernel) (by decide +kernel)
  revert hrow
  decide +kernel

end OneDrive

/-! ## 6. The name

The classes split the requests, and the physical library is a slow one, the ping a fast one.  So a
fast collection never sees the name of the physical library, and a slow one never sees that of the
ping. -/

section Name

variable [Unicode]

/-- The name the ping response gives a library. -/
def pingName (payloads : Obj) (fallbackName : Str) : Str :=
  orText (stringOf (mappingOf payloads "ping" "ping") "serialNumber")
    (orText (stringOf (mappingOf payloads "ping" "ping") "productName") fallbackName)

/-- The name the physical library has. -/
def libraryName (payloads : Obj) : Str := stringOf (mappingOf payloads "physical_library" "physicalLibrary") "name"

theorem device_name_eq (payloads : Obj) (fallbackName : Str) :
    Obj.get (parseI6000RestPayload payloads fallbackName) "device_name" =
      .str (orText (libraryName payloads) (pingName payloads fallbackName)) := by
  simp [parseI6000RestPayload, libraryName, pingName]

omit [Unicode] in
theorem get_endpointsForClass (payloads : Obj) (collectionClass : CollectionClass) (name : Str) :
    Obj.get (endpointsForClass payloads (some collectionClass)) name =
      if name ∈ classEndpoints collectionClass then Obj.get payloads name else .null := by
  unfold endpointsForClass
  dsimp only
  induction payloads with
  | nil => simp
  | cons p payloads ih =>
    obtain ⟨key, value⟩ := p
    by_cases hkey : key ∈ classEndpoints collectionClass
    · rw [List.filter_cons_of_pos (by simpa using hkey), Obj.get_cons, Obj.get_cons, ih]
      by_cases hname : key = name
      · rw [if_pos hname, if_pos hname, if_pos (hname ▸ hkey)]
      · rw [if_neg hname, if_neg hname]
    · rw [List.filter_cons_of_neg (by simpa using hkey), ih, Obj.get_cons]
      by_cases hname : key = name
      · rw [if_neg (hname ▸ hkey), if_neg (hname ▸ hkey)]
      · rw [if_neg hname]

/-- Where a response is missing, nothing is found in it. -/
theorem mappingOf_of_missing {payloads : Obj} {endpoint : Str} (h : Obj.get payloads endpoint = .null) (key : Str) :
    mappingOf payloads endpoint key = [] := by
  unfold mappingOf
  rw [h]
  rfl

theorem mappingOf_of_present {payloads : Obj} {collectionClass : CollectionClass} {endpoint : Str}
    (h : endpoint ∈ classEndpoints collectionClass) (key : Str) :
    mappingOf (endpointsForClass payloads (some collectionClass)) endpoint key = mappingOf payloads endpoint key := by
  unfold mappingOf
  rw [get_endpointsForClass, if_pos h]

theorem mappingOf_of_absent {payloads : Obj} {collectionClass : CollectionClass} {endpoint : Str}
    (h : endpoint ∉ classEndpoints collectionClass) (key : Str) :
    mappingOf (endpointsForClass payloads (some collectionClass)) endpoint key = [] :=
  mappingOf_of_missing (by rw [get_endpointsForClass, if_neg h]) key

/-- What the fast responses and the slow ones name the library. -/
theorem device_name_by_class (payloads : Obj) (fallbackName : Str) :
    Obj.get (parseI6000RestPayload (endpointsForClass payloads (some .fast)) fallbackName) "device_name" =
        .str (pingName payloads fallbackName) ∧
      Obj.get (parseI6000RestPayload (endpointsForClass payloads (some .slow)) fallbackName) "device_name" =
        .str (orText (libraryName payloads) fallbackName) := by
  constructor
  · rw [device_name_eq, libraryName, pingName, mappingOf_of_absent (by decide), mappingOf_of_present (by decide)]
    rfl
  · rw [device_name_eq, libraryName, pingName, mappingOf_of_present (by decide), mappingOf_of_absent (by decide)]
    rfl

/-- **A library keeps one name across its classes exactly when its ping and its physical library
give the same one**, or when the physical library gives none and the ping falls back to the
configured name.  The responses are taken to be the same in all three readings. -/
theorem one_name_iff (payloads : Obj) (fallbackName : Str) :
    (Obj.get (parseI6000RestPayload (endpointsForClass payloads (some .fast)) fallbackName) "device_name" =
        Obj.get (parseI6000RestPayload (endpointsForClass payloads (some .slow)) fallbackName) "device_name" ∧
      Obj.get (parseI6000RestPayload (endpointsForClass payloads (some .slow)) fallbackName) "device_name" =
        Obj.get (parseI6000RestPayload payloads fallbackName) "device_name") ↔
      (libraryName payloads ≠ [] ∧ pingName payloads fallbackName = libraryName payloads) ∨
        (libraryName payloads = [] ∧ pingName payloads fallbackName = fallbackName) := by
  obtain ⟨hfast, hslow⟩ := device_name_by_class payloads fallbackName
  rw [hfast, hslow, device_name_eq]
  simp only [Json.str.injEq]
  cases hname : libraryName payloads with
  | nil =>
    simp only [orText, List.isEmpty_nil, if_true, ne_eq, not_true_eq_false, false_and, true_and, false_or]
    exact ⟨fun h => h.1, fun h => ⟨h, h.symm⟩⟩
  | cons c name =>
    simp only [orText, List.isEmpty_cons, Bool.false_eq_true, if_false, and_true, ne_eq, reduceCtorEq, not_false_eq_true,
      true_and, false_and, or_false]

end Name

section TwoNames

attribute [local instance] Unicode.ascii

/-- A library whose physical name is not its serial number, all endpoints answered. -/
def namedLibrary : Obj := [
  ("ping", .obj [("ping", .obj [("serialNumber", .str "SN1")])]),
  ("physical_library", .obj [("physicalLibrary", .obj [("name", .str "LIB")])]),
  ("status", .obj []), ("drives", .obj []), ("media", .obj []), ("segments_storage_used", .obj []),
  ("segments_storage_available", .obj []), ("towers", .obj []), ("ie_stations", .obj []), ("ras_status", .obj []),
  ("ras_tickets", .obj [])]

/-- It has two names. -/
theorem two_names : ¬ ∀ (payloads : Obj) (fallbackName : Str),
    (∀ name ∈ Dict.keys defaultEndpoints, name ∈ Dict.keys payloads) →
    Obj.get (parseI6000RestPayload (endpointsForClass payloads (some .fast)) fallbackName) "device_name" =
        Obj.get (parseI6000RestPayload (endpointsForClass payloads (some .slow)) fallbackName) "device_name" ∧
      Obj.get (parseI6000RestPayload (endpointsForClass payloads (some .slow)) fallbackName) "device_name" =
        Obj.get (parseI6000RestPayload payloads fallbackName) "device_name" := by
  intro h
  have hnames := (h namedLibrary "i6000_core" (fun _ hname => hname)).1
  revert hnames
  decide +kernel

end TwoNames

end BackupCollector.I6000
