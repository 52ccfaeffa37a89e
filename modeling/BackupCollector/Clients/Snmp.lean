/-
# The SNMP client

`collect_values` asks for the scalars of a configuration one by one, then walks its tables.  A
scalar becomes the text of the value, a table the list of its rows, each under the instance the
row's OID ends in.  The first answer that carries an error ends the collection, so a payload is
complete or there is none.

The parser reads rows with `get`, and would pass over one that lacks a field.  It never meets one:
the client builds every row with all of its fields (`fullTables_collectValues`).  That is the one
thing proved here.

What the agent answers is a parameter, and its names and values are texts already, as the client
prints them.  The engine below, with its timeouts and retries, is the third-party library's.
-/
import BackupCollector.Py.Requests

namespace BackupCollector.Snmp

open Py

/-! ## 1. Payloads

What the client returns, by the names of the configuration. -/

/-- A row of a walk, as the dictionary the client builds. -/
abbrev RowDict := Dict Str Str

/-- A value of the payload: the text of a scalar, or the rows of a walk. -/
inductive SnmpValue where
  | text (value : Str)
  | rows (rows : List RowDict)
deriving DecidableEq

abbrev SnmpPayload := Dict Str SnmpValue

/-! ## 2. Answers

An answer has an error indication, an error status, or variables. -/

/-- An answer of the agent, its names and values as they print. -/
structure Answer where
  /-- `error_indication`, when there is one -/
  errorIndication : Option Str := none
  /-- `error_status`, when it is not zero -/
  errorStatus : Option Str := none
  /-- `int(error_index)`, when it is a number -/
  errorIndex : Option Int := none
  varBinds : List (Str × Str) := []

/-- `_failing_oid` -/
def failingOid (errorIndex : Option Int) (varBinds : List (Str × Str)) : Str :=
  match errorIndex with
  | none => "unknown"
  | some index =>
    if index ≤ 0 then "unknown"
    else match varBinds[(index - 1).toNat]? with
      | some failingBind => failingBind.1
      | none => "unknown"

/-- `_raise_on_error` -/
def raiseOnError (answer : Answer) : Except Err Unit :=
  match answer.errorIndication, answer.errorStatus with
  | some indication, _ => .error ⟨.runtimeError, indication⟩
  | none, some status =>
    .error ⟨.runtimeError, status ++ lit " at " ++ failingOid answer.errorIndex answer.varBinds⟩
  | none, none => .ok ()

/-! ## 3. Walks

The instance of a row is what its OID has beyond that of the table. -/

/-- `_instance_from_oid` -/
def instanceFromOid (baseOid oid : Str) : Str :=
  let normalizedBase := Str.rstripChr (chr '.') baseOid
  if oid = normalizedBase then []
  else if normalizedBase ++ lit "." <+: oid then oid.drop (normalizedBase.length + 1)
  else oid

/-- The row of one variable of a walk. -/
def walkRow (baseOid : Str) (varBind : Str × Str) : RowDict := [
  ("oid", varBind.1),
  ("instance", instanceFromOid baseOid varBind.1),
  ("value", varBind.2)]

/-- `_walk_oid` -/
def walkOid (baseOid : Str) : List Answer → Except Err (List RowDict)
  | [] => return []
  | answer :: answers => do
    raiseOnError answer
    let rows ← walkOid baseOid answers
    return answer.varBinds.map (walkRow baseOid) ++ rows

/-- `_collect_values`: `getCmd` and `walkCmd` are what the agent answers for each metric, or what
the transport raises. -/
def collectValues (oids walkOids : Dict Str Str) (getCmd : Str → Except Err Answer)
    (walkCmd : Str → Except Err (List Answer)) : Except Err SnmpPayload := do
  let values ← oids.foldlM (fun (values : SnmpPayload) (metric : Str × Str) => do
    let answer ← getCmd metric.1
    raiseOnError answer
    return answer.varBinds.foldl (fun values bind => Dict.set values metric.1 (.text bind.2)) values) []
  walkOids.foldlM (fun (values : SnmpPayload) (metric : Str × Str) => do
    let answers ← walkCmd metric.1
    let rows ← walkOid metric.2 answers
    return Dict.set values metric.1 (.rows rows)) values

/-! ## 4. What the payload holds

A payload is built one metric at a time, so its tables are full when each walk's rows are. -/

/-- A row as the client builds it: every field is there. -/
def FullRow (row : RowDict) : Prop :=
  (Dict.get? row "instance").isSome = true ∧ (Dict.get? row "value").isSome = true

theorem fullRow_walkRow (baseOid : Str) (varBind : Str × Str) : FullRow (walkRow baseOid varBind) := by
  simp [FullRow, walkRow]

/-- A walk that returns has full rows only. -/
theorem fullRow_of_walkOid {baseOid : Str} {answers : List Answer} {rows : List RowDict}
    (h : walkOid baseOid answers = .ok rows) : ∀ row ∈ rows, FullRow row := by
  induction answers generalizing rows with
  | nil =>
    obtain rfl : [] = rows := Except.ok.inj h
    simp
  | cons answer answers ih =>
    rw [walkOid] at h
    obtain ⟨_, -, h⟩ := bind_eq_ok.mp h
    obtain ⟨rest, hrest, h⟩ := bind_eq_ok.mp h
    rw [← Except.ok.inj h]
    intro row hrow
    rcases List.mem_append.mp hrow with hrow | hrow
    · obtain ⟨varBind, -, rfl⟩ := List.mem_map.mp hrow
      exact fullRow_walkRow baseOid varBind
    · exact ih hrest row hrow

/-- Every table of the payload has full rows. -/
def FullTables (payload : SnmpPayload) : Prop :=
  ∀ key rows, Dict.get? payload key = some (.rows rows) → ∀ row ∈ rows, FullRow row

theorem FullTables.set_text {payload : SnmpPayload} (h : FullTables payload) (metric value : Str) :
    FullTables (Dict.set payload metric (.text value)) := by
  intro key rows hget
  rw [Dict.get?_set] at hget
  split at hget
  · cases hget
  · exact h key rows hget

theorem FullTables.set_rows {payload : SnmpPayload} (h : FullTables payload) (metric : Str) {rows : List RowDict}
    (hrows : ∀ row ∈ rows, FullRow row) : FullTables (Dict.set payload metric (.rows rows)) := by
  intro key rows' hget
  rw [Dict.get?_set] at hget
  split at hget
  · obtain rfl : rows = rows' := by simpa using hget
    exact hrows
  · exact h key rows' hget

/-- What `_collect_values` returns has full tables only. -/
theorem fullTables_collectValues {oids walkOids : Dict Str Str} {getCmd : Str → Except Err Answer}
    {walkCmd : Str → Except Err (List Answer)} {payload : SnmpPayload}
    (h : collectValues oids walkOids getCmd walkCmd = .ok payload) : FullTables payload := by
  obtain ⟨scalars, hscalars, htables⟩ := bind_eq_ok.mp h
  have hstart : FullTables scalars := by
    refine foldlM_invariant (fun values metric values' hvalues hpass => ?_) (by simp [FullTables]) hscalars
    obtain ⟨answer, -, hpass⟩ := bind_eq_ok.mp hpass
    obtain ⟨_, -, hpass⟩ := bind_eq_ok.mp hpass
    rw [← Except.ok.inj hpass]
    exact List.foldlRecOn answer.varBinds _ hvalues fun values hvalues bind _ => hvalues.set_text metric.1 bind.2
  refine foldlM_invariant (fun values metric values' hvalues hpass => ?_) hstart htables
  obtain ⟨answers, -, hpass⟩ := bind_eq_ok.mp hpass
  obtain ⟨rows, hrows, hpass⟩ := bind_eq_ok.mp hpass
  rw [← Except.ok.inj hpass]
  exact hvalues.set_rows metric.1 (fullRow_of_walkOid hrows)

end BackupCollector.Snmp
