/-
# Collectors and their results

`build_collector` chooses the collector of a configuration, and `BaseCollector.collect` turns
whatever happens during a collection into one result: a skipped one, a successful one with the
payload, or a failed one with an empty payload and the error's text.  So a result is where an
exception stops.  Behind it, in the writer and in the scheduler, nothing tells a failed collection
from a successful one but the fields of the result.

The payload is a parameter: each collector's module says what its collection comes to, an object
or the exception it raised, and `collect` is applied to that.  Only `Exception`s are caught; a
cancellation passes through and leaves no result, which is the scheduler's concern.
-/
import BackupCollector.Core.Config
import BackupCollector.Py.Datetime

namespace BackupCollector

open Py

/-! ## 1. Collection results

One result per collection: which collector, which class, when, and either the payload or the
error.  `to_document` is the raw document before the writer adds its own fields. -/

/-- `CollectionResult` -/
structure CollectionResult where
  collector : Str
  targetType : Str
  protocol : Str
  collectedAt : Instant
  ok : Bool
  payload : Obj := []
  error : Option Str := none
  skipped : Bool := false
  skipReason : Option Str := none
  collectionClass : CollectionClass := .fast

/-- `CollectionResult.skipped_result` -/
def CollectionResult.skippedResult (collector targetType protocol : Str) (now : Instant) (reason : Str)
    (collectionClass : CollectionClass) : CollectionResult where
  collector := collector
  targetType := targetType
  protocol := protocol
  collectedAt := now
  ok := false
  skipped := true
  skipReason := some reason
  collectionClass := collectionClass

/-- `to_document` -/
def CollectionResult.toDocument (r : CollectionResult) : Obj := [
  ("@timestamp", .str r.collectedAt.isoformat),
  ("collector", .str r.collector),
  ("target_type", .str r.targetType),
  ("protocol", .str r.protocol),
  ("ok", .bool r.ok),
  ("payload", .obj r.payload),
  ("error", Json.ofOption .str r.error),
  ("skipped", .bool r.skipped),
  ("skip_reason", Json.ofOption .str r.skipReason),
  ("collection_class", .str r.collectionClass.name)]

/-! ## 2. Collectors -/

/-- The collector classes. -/
inductive CollectorKind where
  | ddSnmp | dxiCli | i6000Rest | networkerRest | zfsRest
deriving DecidableEq, Repr

/-- `build_collector` -/
def buildCollector (c : CollectorConfig) : Except Err CollectorKind :=
  if c.type = lit "i6000" ∧ c.protocol = lit "snmp" then
    .error (valueError "i6000 SNMP collection is not supported; use protocol=rest")
  else if c.type = lit "DXi" ∧ (c.protocol = lit "snmp" ∨ c.protocol = lit "ssh") then
    .error (valueError "DXi SNMP/legacy collection is not supported; use protocol=cli")
  else if c.protocol = lit "snmp" ∧ c.type = lit "DD" then .ok .ddSnmp
  else if c.protocol = lit "rest" ∧ c.type = lit "i6000" then .ok .i6000Rest
  else if c.protocol = lit "rest" ∧ c.type = lit "Networker" then .ok .networkerRest
  else if c.protocol = lit "rest" ∧ c.type = lit "ZFS" then .ok .zfsRest
  else if c.protocol = lit "cli" ∧ c.type = lit "DXi" then .ok .dxiCli
  else .error (valueError (lit "Unsupported collector protocol: " ++ c.protocol))

/-- The target type each collector serves. -/
def CollectorKind.targetType : CollectorKind → Str
  | .ddSnmp => "DD"
  | .dxiCli => "DXi"
  | .i6000Rest => "i6000"
  | .networkerRest => "Networker"
  | .zfsRest => "ZFS"

/-- The protocol each collector speaks. -/
def CollectorKind.protocol : CollectorKind → Str
  | .ddSnmp => "snmp"
  | .dxiCli => "cli"
  | _ => "rest"

/-- A collector is built only for its own type and protocol. -/
theorem buildCollector_eq_ok {c : CollectorConfig} {k : CollectorKind} (h : buildCollector c = .ok k) :
    c.type = k.targetType ∧ c.protocol = k.protocol := by
  unfold buildCollector at h
  split_ifs at h with h1 h2 h3 h4 h5 h6 h7 <;> cases h
  · exact ⟨h3.2, h3.1⟩
  · exact ⟨h4.2, h4.1⟩
  · exact ⟨h5.2, h5.1⟩
  · exact ⟨h6.2, h6.1⟩
  · exact ⟨h7.2, h7.1⟩

section Collect

variable [Unicode] (isFile : Str → Bool)

/-- `BaseCollector.collect`: `outcome` is what `_collect_payload_for_class` returned or raised,
`now` when the result was made. -/
def collect (c : CollectorConfig) (outcome : Except Err Obj) (now : Instant)
    (collectionClass : CollectionClass) : Except Err CollectionResult := do
  match ← c.skipReason isFile with
  | some reason => return .skippedResult c.name c.type c.protocol now reason collectionClass
  | none =>
    let result : CollectionResult := {
      collector := c.name
      targetType := c.type
      protocol := c.protocol
      collectedAt := now
      ok := true
      collectionClass := collectionClass }
    match outcome with
    | .ok payload => return { result with payload := payload }
    | .error e => return { result with ok := false, error := some e.msg }

/-- What `collect` writes to the metrics of a collector: the skip gauge, the counter of collections
by how they ended, and the time of the last success. -/
inductive CollectorWrite where
  | skipped (reason : Str)
  | total (status : Str)
  | lastSuccess (collectedAt : Instant)
deriving DecidableEq

/-- The metric writes of `BaseCollector.collect`. -/
def collectWrites (c : CollectorConfig) (outcome : Except Err Obj) (now : Instant) :
    Except Err (List CollectorWrite) := do
  match ← c.skipReason isFile with
  | some reason => return [.skipped reason, .total "skipped"]
  | none =>
    match outcome with
    | .ok _ => return [.total "success", .lastSuccess now]
    | .error _ => return [.total "error"]

/-- A collector that is not skipped always has a result. -/
theorem collect_of_not_skipped {c : CollectorConfig} (h : c.skipReason isFile = .ok none)
    (outcome : Except Err Obj) (now : Instant) (collectionClass : CollectionClass) :
    ∃ r, collect isFile c outcome now collectionClass = .ok r ∧ r.collector = c.name ∧
      r.targetType = c.type ∧ r.collectionClass = collectionClass ∧ r.collectedAt = now ∧
      r.payload = (match outcome with
        | .ok payload => payload
        | .error _ => []) := by
  unfold collect
  rw [h]
  cases outcome with
  | ok payload => exact ⟨_, rfl, rfl, rfl, rfl, rfl, rfl⟩
  | error e => exact ⟨_, rfl, rfl, rfl, rfl, rfl, rfl⟩

/-- It succeeds with what was returned, and fails with what was raised. -/
theorem collect_outcome {c : CollectorConfig} (h : c.skipReason isFile = .ok none) (outcome : Except Err Obj)
    (now : Instant) (collectionClass : CollectionClass) :
    ∃ r writes, collect isFile c outcome now collectionClass = .ok r ∧ collectWrites isFile c outcome now = .ok writes ∧
      match outcome with
      | .ok payload => r.ok = true ∧ r.payload = payload ∧ writes = [.total "success", .lastSuccess now]
      | .error _ => r.ok = false ∧ r.payload = [] ∧ writes = [.total "error"] := by
  unfold collect collectWrites
  rw [h]
  cases outcome with
  | ok payload => exact ⟨_, _, rfl, rfl, by simp⟩
  | error e => exact ⟨_, _, rfl, rfl, by simp⟩

/-- A result is stamped when it is made, with the class that was asked for. -/
theorem collect_eq_ok {c : CollectorConfig} {outcome : Except Err Obj} {now : Instant} {collectionClass : CollectionClass}
    {r : CollectionResult} (h : collect isFile c outcome now collectionClass = .ok r) :
    r.collectedAt = now ∧ r.collectionClass = collectionClass := by
  unfold collect at h
  obtain ⟨skip, -, h⟩ := bind_eq_ok.mp h
  cases skip with
  | some reason =>
    rw [← Except.ok.inj h]
    exact ⟨rfl, rfl⟩
  | none =>
    cases outcome with
    | ok payload =>
      rw [← Except.ok.inj h]
      exact ⟨rfl, rfl⟩
    | error e =>
      rw [← Except.ok.inj h]
      exact ⟨rfl, rfl⟩

end Collect

/-! ## 3. What the gauges are published from

A collector publishes from the summary it parsed, under the name the device stated or, where it
stated none, the collector's own.  The name is a label of nearly every gauge: a device that is
named otherwise in one collection than in the next starts new children, and the old ones stay as
they were. -/

/-- The name a summary is published under: `str(summary.get("device_name") or self.name)`. -/
def deviceLabel [Unicode] (name : Str) (stated : Json) : Str := Json.toStr (stated.orElse (.str name))

/-- The rows a summary lists under a key. -/
def rowsOf (summary : Obj) (key : Str) : List Obj :=
  match Obj.get summary key with
  | .arr rows => dictItems rows
  | _ => []

/-- The rows that were put there. -/
theorem rowsOf_eq {summary : Obj} {key : Str} {rows : List Obj} (h : Obj.get summary key = .arr (rows.map .obj)) :
    rowsOf summary key = rows := by
  have hitems : dictItems (rows.map .obj) = rows := by simp [dictItems, List.filterMap_map, Function.comp_def, Json.asObj?]
  rw [rowsOf, h]
  exact hitems

/-- The mapping a summary holds under a key. -/
def sectionOf (summary : Obj) (key : Str) : Obj := ((Obj.get summary key).asObj?).getD []

end BackupCollector
