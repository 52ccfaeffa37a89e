/-
# The i6000 collector

A collection logs in, asks for the endpoints of its class, parses whatever came back, sets the
gauges and returns a payload.  The parser raises on nothing, so a collection that got past its
login and logout always publishes, and what it publishes is made of the responses there are: a
missing response is read as an empty one.  Two things follow, and both are proved here.

* The payload is what tells a complete collection from a partial one.  Every request that was
  made has a response or a failure in it, and it is a `success` exactly when there is no failure
  (`requests_reported`).  The account is that of `fetch_named`; a login adds nothing to it.
* The gauges are not.  They are set or left alone, and never removed, so a drive that the library
  no longer lists keeps its last state.  `drives_current_iff` says when that does no harm: the
  drive gauges show the latest collection, after each one of a history, exactly when no drive goes
  away.  The media gauge is set by every collection that is about it and shows the latest one
  (`media_latest`), also where its request FAILED: then it shows `0`.

The classes divide the gauges between them, `fast` everything that moves, `slow` the media; a
collection of one class leaves the gauges of the other alone, and with one schedule a collection
sets them all.

Not covered: a collection whose login or logout raises, which has no payload and sets no gauge;
a library that changes its name, whose old children stay as they were; and a number too large for
a float, which the metrics library refuses.
-/
import BackupCollector.Collectors.Answers
import BackupCollector.Collectors.Base
import BackupCollector.Collectors.NetworkerRest
import BackupCollector.Parsers.I6000Rest
import BackupCollector.Py.Gauges

namespace BackupCollector.I6000

open Py

/-! ## 1. What a collection publishes

Each write is under the name of the library, and those of robots and drives under theirs.  Two
drives of one name share their children, and the later row is the one they show. -/

/-- The gauges of a library. -/
inductive Gauge where
  | deviceUp | tapeLibraryStatus | tapeSlotUsedCount | tapeSlotFreeCount | tapeMediaCount
  | tapeRobotStatus | tapeDriveStatus | tapeDriveErrorCount
deriving DecidableEq, Repr

/-- One `labels(...).set(...)`: the gauge, its label values, the number. -/
abbrev Write := (Gauge × List Str) × Json

/-- Does a class carry the state of the library? -/
def carriesState : Option CollectionClass → Bool
  | none | some .fast => true
  | _ => false

/-- Does a class carry the media? -/
def carriesMedia : Option CollectionClass → Bool
  | none | some .slow => true
  | _ => false

section Publish

variable [Unicode]

/-- The name of a robot or a drive. -/
def rowName (row : Obj) : Str := Json.toStr (Obj.get row "name")

/-- The writes of one robot. -/
def publishRobot (deviceName : Str) (robot : Obj) : Write :=
  ((.tapeRobotStatus, [deviceName, rowName robot]), Obj.get robot "up")

/-- The child of a drive. -/
def driveChild (deviceName drive : Str) : Gauge × List Str := (.tapeDriveStatus, [deviceName, drive])

/-- The writes of one drive. -/
def publishDrive (deviceName : Str) (drive : Obj) : List Write := [
  (driveChild deviceName (rowName drive), Obj.get drive "up"),
  ((.tapeDriveErrorCount, [deviceName, rowName drive]), getOr drive "error_count" (.int 0))]

/-- `_publish_metrics` -/
def publishMetrics (name : Str) (summary : Obj) (collectionClass : Option CollectionClass) : List Write :=
  let deviceName := deviceLabel name (Obj.get summary "device_name")
  (if carriesState collectionClass then
    ((Gauge.deviceUp, [lit "i6000", deviceName]), .int 1) ::
      Gauges.setIfKnown (Gauge.tapeLibraryStatus, [deviceName]) (Obj.get summary "library_status") ++
      Gauges.setIfKnown (Gauge.tapeSlotUsedCount, [deviceName]) (Obj.get summary "slot_used_count") ++
      Gauges.setIfKnown (Gauge.tapeSlotFreeCount, [deviceName]) (Obj.get summary "slot_free_count")
  else []) ++
    (if carriesMedia collectionClass then
      Gauges.setIfKnown (Gauge.tapeMediaCount, [deviceName]) (Obj.get summary "media_count")
    else []) ++
    if carriesState collectionClass then
      (rowsOf summary "robots").map (publishRobot deviceName) ++ (rowsOf summary "drives").flatMap (publishDrive deviceName)
    else []

/-- The payload of a collection. -/
def collectedPayload (raw summary : Obj) : Obj := [
  ("summary", .obj summary),
  ("raw", .obj raw),
  ("collection_status", .str (if (endpointErrors raw).isEmpty then "success" else "partial")),
  ("endpoint_errors", .obj (endpointErrors raw))]

/-- `_collect_payload_for_class`: the gauge writes of a collection and its payload. -/
def collectPayloadForClass (c : CollectorConfig) (login logout : Except Err Unit) (fetch : Str → Json → Except Str Json)
    (collectionClass : CollectionClass) : Requests Str Err (List Write × Obj) := do
  let schedules ← Requests.lift c.effectiveSchedules
  let active := activeClass schedules collectionClass
  let raw ← fetchPayloads c login logout fetch active
  let summary := parseI6000RestPayload raw c.name
  return (publishMetrics c.name summary active, collectedPayload raw summary)

/-! ## 2. Every request is reported

The requests of a collection are those of one mapping of endpoints; the session requests around
them are not in the log, and one that raises ends the collection. -/

/-- **Every request of a collection is reported**, as a response or as a failure.

Nothing is said of a collection that raises, or of an endpoint that is configured under the key of
the failures. -/
theorem requests_reported {c : CollectorConfig} (hreserved : errorsKey ∉ Dict.keys c.endpoints)
    {login logout : Except Err Unit} {fetch : Str → Json → Except Str Json} {collectionClass : CollectionClass}
    {writes : List Write} {payload : Obj}
    (h : (collectPayloadForClass c login logout fetch collectionClass).outcome = .ok (writes, payload)) :
    Reported (collectPayloadForClass c login logout fetch collectionClass).log payload := by
  obtain ⟨schedules, hschedules, h⟩ := Requests.outcome_bind.mp h
  obtain ⟨raw, hraw, h⟩ := Requests.outcome_bind.mp h
  obtain ⟨rfl, rfl⟩ := Prod.mk.inj (Except.ok.inj h)
  have hlog : (collectPayloadForClass c login logout fetch collectionClass).log =
      (fetchPayloads c login logout fetch (activeClass schedules collectionClass)).log := by
    unfold collectPayloadForClass
    rw [Requests.bind_of_ok hschedules, Requests.bind_of_ok hraw]
    exact List.append_nil _
  have hdefaults : errorsKey ∉ Dict.keys defaultEndpoints := by decide
  have hasked : errorsKey ∉
      Dict.keys (endpointsForClass (c.endpointsOr defaultEndpoints) (activeClass schedules collectionClass)) := by
    have hall := errorsKey_notMem_endpointsOr hreserved hdefaults
    cases activeClass schedules collectionClass with
    | none => exact hall
    | some active => exact fun hmem => hall ((List.filter_sublist.map Prod.fst).subset hmem)
  have hkept : RequestsKept (fetchPayloads c login logout fetch (activeClass schedules collectionClass)).log raw := by
    unfold fetchPayloads at hraw ⊢
    obtain ⟨_, hlogin, hraw⟩ := Requests.outcome_bind.mp hraw
    obtain ⟨payloads, hpayloads, hraw⟩ := Requests.outcome_bind.mp hraw
    obtain ⟨_, hlogout, hraw⟩ := Requests.outcome_bind.mp hraw
    obtain rfl : payloads = raw := Except.ok.inj hraw
    have hnames := requestsKept_fetchNamed hpayloads hasked
    rw [← log_fetchNamed fetch] at hnames
    rw [Requests.bind_of_ok hlogin, Requests.bind_of_ok hpayloads, Requests.bind_of_ok hlogout]
    -- the session requests and the return leave the log as it is
    change RequestsKept ([] ++ ((fetchNamed fetch _).log ++ ([] ++ []))) payloads
    rwa [List.nil_append, List.append_nil, List.append_nil]
  rw [hlog]
  refine reported_of hkept ?_ ?_ ?_
  · simp [collectedPayload]
  · simp [collectedPayload]
  · simp [collectedPayload]

/-! ## 3. The gauges over a history

A collection is, for its gauges, the class it was active for and the responses it had.  Those of
one class do not touch the gauges of the other, so a history of both is, for a gauge, the history
of the collections that carry it. -/

/-- A collection that publishes. -/
structure Published where
  active : Option CollectionClass
  raw : Obj

/-- The gauge writes of a collection. -/
def Published.gaugeWrites (name : Str) (x : Published) : List Write :=
  publishMetrics name (parseI6000RestPayload x.raw name) x.active

/-- The name a collection is published under. -/
def Published.label (name : Str) (x : Published) : Str :=
  deviceLabel name (Obj.get (parseI6000RestPayload x.raw name) "device_name")

/-- The drives of a collection. -/
def Published.drives (x : Published) : List Obj :=
  parseDrives (mappingOf x.raw "status" "libraryStatus") (Obj.get x.raw "drives")
    (driveErrorCounts (Obj.get x.raw "ras_tickets"))

/-- What a collection says of a drive: the state in the last of its rows, nothing where it has none. -/
def Published.driveUp (drive : Str) (x : Published) : Json :=
  ((x.drives.filter fun row => decide (rowName row = drive)).getLast?.map fun row => Obj.get row "up").getD .null

/-- What the child of a drive reads after a list of collections, nothing before it is first set. -/
def driveGauge (name deviceName drive : Str) (xs : List Published) : Json :=
  Gauges.shown (Published.gaugeWrites name) .null (driveChild deviceName drive) xs

/-- What the media gauge reads after a list of collections. -/
def mediaGauge (name deviceName : Str) (xs : List Published) : Json :=
  Gauges.shown (Published.gaugeWrites name) .null (.tapeMediaCount, [deviceName]) xs

theorem rowsOf_drives (name : Str) (x : Published) : rowsOf (parseI6000RestPayload x.raw name) "drives" = x.drives := by
  refine rowsOf_eq ?_
  simp [parseI6000RestPayload, Published.drives]

/-- The children of the drives are written by the drive loop only. -/
theorem filter_drives (name : Str) (x : Published) :
    (x.gaugeWrites name).filter (Gauges.isOf .tapeDriveStatus) =
      if carriesState x.active then
        x.drives.map fun row => (driveChild (x.label name) (rowName row), Obj.get row "up")
      else [] := by
  have hrobots : ∀ deviceName (rows : List Obj),
      (rows.map (publishRobot deviceName)).filter (Gauges.isOf .tapeDriveStatus) = [] :=
    fun deviceName => Gauges.filter_map_of_ne fun _ => by simp [publishRobot]
  have hdrives : ∀ deviceName (rows : List Obj),
      (rows.flatMap (publishDrive deviceName)).filter (Gauges.isOf .tapeDriveStatus) =
        rows.map fun row => (driveChild deviceName (rowName row), Obj.get row "up") := by
    intro deviceName rows
    have hone : ∀ row, (publishDrive deviceName row).filter (Gauges.isOf .tapeDriveStatus) =
        [(driveChild deviceName (rowName row), Obj.get row "up")] := fun _ => rfl
    rw [List.filter_flatMap, List.map_eq_flatMap]
    simp only [hone]
  unfold Published.gaugeWrites publishMetrics
  rw [rowsOf_drives]
  by_cases hstate : carriesState x.active = true
  · by_cases hmedia : carriesMedia x.active = true
    · simp [hstate, hmedia, hdrives, hrobots, Gauges.filter_setIfKnown, Published.label]
    · simp [hstate, hmedia, hdrives, hrobots, Gauges.filter_setIfKnown, Published.label]
  · by_cases hmedia : carriesMedia x.active = true
    · simp [hstate, hmedia, Gauges.filter_setIfKnown]
    · simp [hstate, hmedia]

/-- The media child is written where the class carries it, and always has a number. -/
theorem filter_media (name : Str) (x : Published) :
    (x.gaugeWrites name).filter (Gauges.isOf .tapeMediaCount) =
      if carriesMedia x.active then
        [((Gauge.tapeMediaCount, [x.label name]), Json.int (mediaCount (Obj.get x.raw "media")))]
      else [] := by
  have hcount : Obj.get (parseI6000RestPayload x.raw name) "media_count" = .int (mediaCount (Obj.get x.raw "media")) := by
    simp [parseI6000RestPayload]
  have hknown : ∀ (child : Gauge × List Str) (n : Int), Gauges.setIfKnown child (.int n) = [(child, .int n)] :=
    fun _ _ => rfl
  have hrobots : ∀ deviceName (rows : List Obj),
      (rows.map (publishRobot deviceName)).filter (Gauges.isOf .tapeMediaCount) = [] :=
    fun deviceName => Gauges.filter_map_of_ne fun _ => by simp [publishRobot]
  have hdrives : ∀ deviceName (rows : List Obj),
      (rows.flatMap (publishDrive deviceName)).filter (Gauges.isOf .tapeMediaCount) = [] :=
    fun deviceName => Gauges.filter_flatMap_of_nil fun _ => rfl
  unfold Published.gaugeWrites publishMetrics
  rw [hcount]
  by_cases hstate : carriesState x.active = true
  · by_cases hcarries : carriesMedia x.active = true
    · simp [hstate, hcarries, hknown, hrobots, hdrives, Gauges.filter_setIfKnown, Published.label]
    · simp [hstate, hcarries, hrobots, hdrives, Gauges.filter_setIfKnown]
  · by_cases hcarries : carriesMedia x.active = true
    · simp [hstate, hcarries, hknown, Published.label]
    · simp [hstate, hcarries]

/-- Is a collection about the state of the library, under a name? -/
def Published.isStateOf (name deviceName : Str) (x : Published) : Bool :=
  carriesState x.active && decide (x.label name = deviceName)

/-- Is a collection about the media of the library, under a name? -/
def Published.isMediaOf (name deviceName : Str) (x : Published) : Bool :=
  carriesMedia x.active && decide (x.label name = deviceName)

/-- The state of a drive is a number. -/
theorem up_of_mem_drives {x : Published} {row : Obj} (h : row ∈ x.drives) : Obj.get row "up" ≠ .null := by
  obtain ⟨item, -, rfl⟩ := List.mem_map.mp h
  rw [up_driveRow]
  exact Json.noConfusion

/-- A collection says something of a drive exactly when it lists it. -/
theorem driveUp_ne_null (drive : Str) (x : Published) : x.driveUp drive ≠ .null ↔ drive ∈ x.drives.map rowName := by
  unfold Published.driveUp
  cases hlast : (x.drives.filter fun row => decide (rowName row = drive)).getLast? with
  | none =>
    have hnone := List.getLast?_eq_none_iff.mp hlast
    simpa [List.filter_eq_nil_iff] using hnone
  | some row =>
    have hmem : row ∈ x.drives.filter fun row => decide (rowName row = drive) := List.mem_of_getLast? hlast
    obtain ⟨hrow, hname⟩ := List.mem_filter.mp hmem
    have hlisted : drive ∈ x.drives.map rowName := List.mem_map.mpr ⟨row, hrow, of_decide_eq_true hname⟩
    exact ⟨fun _ => hlisted, fun _ => up_of_mem_drives hrow⟩

/-- What a collection writes to the child of a drive. -/
theorem lastWrite_drive (name deviceName drive : Str) (x : Published) :
    Dict.lastWrite (x.gaugeWrites name) (driveChild deviceName drive) =
      if x.isStateOf name deviceName then (if x.driveUp drive = .null then none else some (x.driveUp drive)) else none := by
  have hchild : ∀ label row, driveChild label row = driveChild deviceName drive ↔ label = deviceName ∧ row = drive := by
    intro label row
    simp [driveChild]
  rw [driveChild, ← Gauges.lastWrite_filter_isOf, filter_drives]
  by_cases hstate : carriesState x.active = true
  · rw [if_pos hstate, ← driveChild, Dict.lastWrite_map]
    by_cases hlabel : x.label name = deviceName
    · have hof : x.isStateOf name deviceName = true := by simp [Published.isStateOf, hstate, hlabel]
      rw [if_pos hof]
      simp only [hchild, hlabel, true_and]
      cases hlast : (x.drives.filter fun row => decide (rowName row = drive)).getLast? with
      | none => simp [Published.driveUp, hlast]
      | some row =>
        have hknown := up_of_mem_drives (List.mem_of_mem_filter (List.mem_of_getLast? hlast))
        simp [Published.driveUp, hlast, hknown]
    · have hof : ¬ x.isStateOf name deviceName = true := by simp [Published.isStateOf, hlabel]
      simp [hof, hchild, hlabel]
  · have hof : ¬ x.isStateOf name deviceName = true := by simp [Published.isStateOf, hstate]
    rw [if_neg hstate, if_neg hof]
    rfl

/-- **The drive gauges of a library show the latest collection exactly when no drive goes away**:
after each collection about its state, the child of a drive reads what that collection says of it,
if and only if no collection before it lists the drive where it does not. -/
theorem drives_current_iff (name deviceName drive : Str) (xs : List Published) :
    (∀ cs x, cs ++ [x] <+: xs → x.isStateOf name deviceName = true →
        driveGauge name deviceName drive (cs ++ [x]) = x.driveUp drive) ↔
      (xs.filter (Published.isStateOf name deviceName)).Pairwise fun earlier later =>
        drive ∈ earlier.drives.map rowName → drive ∈ later.drives.map rowName := by
  have hsets : ∀ x ∈ xs, x.isStateOf name deviceName = true →
      Gauges.Sets (Published.gaugeWrites name) (Published.driveUp drive) .null (driveChild deviceName drive) x := by
    intro x _ hstate
    unfold Gauges.Sets
    rw [lastWrite_drive, if_pos hstate]
  have hskip : ∀ x ∈ xs, x.isStateOf name deviceName = false →
      Dict.lastWrite (x.gaugeWrites name) (driveChild deviceName drive) = none := by
    intro x _ hother
    rw [lastWrite_drive, hother]
    rfl
  have hlasting := Gauges.shows_carried_iff hsets hskip
  simp only [Gauges.Lasting, driveUp_ne_null] at hlasting
  exact hlasting

/-- **The media gauge shows the latest collection about the media**, whatever came before it and
whatever collections of other classes or names come after.  A collection whose media request failed
is about the media too: it shows none. -/
theorem media_latest (name deviceName : Str) (before after : List Published) (x : Published)
    (hmedia : x.isMediaOf name deviceName = true) (hafter : ∀ y ∈ after, y.isMediaOf name deviceName = false) :
    mediaGauge name deviceName (before ++ [x] ++ after) = .int (mediaCount (Obj.get x.raw "media")) := by
  have hwrites : ∀ y : Published, Dict.lastWrite (y.gaugeWrites name) (Gauge.tapeMediaCount, [deviceName]) =
      if y.isMediaOf name deviceName then some (.int (mediaCount (Obj.get y.raw "media"))) else none := by
    intro y
    rw [← Gauges.lastWrite_filter_isOf, filter_media]
    by_cases hcarries : carriesMedia y.active = true
    · by_cases hlabel : y.label name = deviceName
      · simp [Published.isMediaOf, hcarries, hlabel, Dict.lastWrite]
      · simp [Published.isMediaOf, hlabel, hcarries, Dict.lastWrite]
    · simp [Published.isMediaOf, hcarries, Dict.lastWrite]
  unfold mediaGauge
  rw [Gauges.shown_append_of_none]
  · exact Gauges.shown_concat_of_some Json.null before (by rw [hwrites, if_pos hmedia])
  · intro y hy
    rw [hwrites, hafter y hy]
    rfl

end Publish

end BackupCollector.I6000
