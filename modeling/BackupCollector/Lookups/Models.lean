/-
# The values of the action lookup

The ids, timestamps and digests the lookup is made of, and its value objects: names, issues,
evidence and coverage.  A `Coverage` is an attestation that its constructor has accepted; the
structure carries what the constructor checks, so an attestation that is not valid cannot be built.

The lookup reads more strictly than the parser, and these are the functions that make it so.

* An id is a positive decimal, without sign, zeros in front or spaces (`positiveId`).
* A time has an offset, or it is none: an ambiguous local date must not establish what an execution
  covers (`timestamp`).
* A name loses at most one trailing number, and keeps its original beside it (`normalizeName`).
* A source is stated by the document at its top and nested, and all statements have to agree
  (`sourceOf`).

What each of them accepts is proved where it matters: the names in `Names`, the ids in `RunKeys`
and `Admission`, the times in `EpochTimes`.  The digest is SHA-256 of the canonical text, computed
in `Py/Sha256`.
-/
import BackupCollector.Values
import BackupCollector.Py.Sets

namespace BackupCollector

open Py

variable [Unicode]

/-! ## 1. Ids, timestamps and digests

The conversions, with the exceptions they raise. -/

omit [Unicode] in
/-- `[1-9][0-9]*` -/
def isPositiveDecimal (text : Str) : Bool :=
  match text with
  | [] => false
  | c :: _ => text.all isAsciiDigit && decide (c ≠ chr '0')

omit [Unicode] in
/-- `positive_id` of a text: the API's own spelling is kept. -/
def positiveIdText (value : Str) : Option Str :=
  let text := Str.strip value
  if isPositiveDecimal text then some text else none

omit [Unicode] in
/-- `positive_id`; the interpreter refuses to print integers of more than 4300 digits. -/
def positiveId : Json → Except Err (Option Str)
  | .str s => .ok (positiveIdText s)
  | .int n =>
    if 4300 < (Str.ofNat n.natAbs).length then
      .error (valueError "Exceeds the limit (4300 digits) for integer string conversion")
    else .ok (positiveIdText (Str.ofInt n))
  | _ => .ok none

omit [Unicode] in
/-- `timestamp` of a JSON value: ambiguous local dates must not establish execution coverage. -/
def timestamp : Json → Option Instant
  | .str s =>
    match fromisoformat (s.flatMap fun c => if c = chr 'Z' then lit "+00:00" else [c]) with
    | some (t, some off) => (toUtc t off).toOption
    | _ => none
  | _ => none

/-- `float(value)`; `none` for every way it raises. -/
def toFloat : Json → Option Float
  | .bool b => some (if b then 1.0 else 0.0)
  | .int n => (intToFloat n).toOption
  | .float f => some f
  | .str s => parseFloat s
  | _ => none

/-- `api_timestamp`: seconds or milliseconds, else a timestamp text. -/
def apiTimestamp (value : Json) : Option Instant :=
  match value with
  | .bool _ => none
  | _ =>
    match toFloat value with
    | none => timestamp value
    | some number =>
      if !number.isFinite then none
      else match fromTimestamp (if 1000000000000.0 ≤ number.abs then number / 1000.0 else number) with
        | .ok t => some t
        | .error _ => timestamp value

omit [Unicode] in
/-- `digest` -/
def digest [Hashlib] (value : Json) : Except Err Str :=
  if value.printable then sha256Hex (Json.dumps value)
  else .error (valueError "Exceeds the limit (4300 digits) for integer string conversion")

/-- The sources a document states, at its top and nested. -/
def statedSources (document : Obj) (raw : Bool) : List Json :=
  let payload := ((Obj.get document "payload").asObj?).getD []
  let nested := if raw then ((Obj.get payload "summary").asObj?).getD [] else payload
  [Obj.get document "source_networker", Obj.get nested "source_networker"].filter (· ≠ .null)

/-- `source_of` -/
def sourceOf (document : Obj) (raw : Bool) : Except Err Source := do
  match ← (statedSources document raw).mapM validateSourceNetworker with
  | [] => .error (valueError "missing_or_conflicting_source_networker")
  | s :: rest =>
    if rest.all (fun r => decide (r = s)) then return s
    else .error (valueError "missing_or_conflicting_source_networker")

omit [Unicode] in
/-- `unwrap`: the document of a hit and where it stands. -/
def unwrap (hit : Json) : Except Err (Obj × Obj) :=
  match hit with
  | .obj h =>
    match (Dict.get? h "_source").getD hit with
    | .obj document => .ok (document, [("index", Obj.get h "_index"), ("id", Obj.get h "_id")])
    | _ => .error (valueError "invalid_source_document")
  | _ => .error (valueError "invalid_source_document")

/-! ## 2. Value objects

Records of the source.  A key is a source and an action id, so the actions of two servers never
share one. -/

/-- `Name` -/
structure Name where
  original : Str
  normalized : Str
  suffix : Option Str := none
deriving DecidableEq

/-- `Issue` -/
structure Issue where
  reason : Str
  source : Option Source := none
  actionId : Option Str := none
  reference : Obj := []
  details : Json := .null

/-- A public relation: policy, workflow and protection group. -/
abbrev Candidate := List Str

/-- `Evidence` -/
structure Evidence where
  source : Source
  actionId : Str
  backupId : Option Str
  policy : Name
  workflow : Name
  group : Name
  attributes : List Obj
  reference : Obj
  observedAt : Option Instant
  saveTime : Json := .null
  completionTime : Json := .null
deriving DecidableEq

namespace Evidence

def candidate (e : Evidence) : Candidate := [e.policy.normalized, e.workflow.normalized, e.group.normalized]

def originalCandidate (e : Evidence) : Candidate := [e.policy.original, e.workflow.original, e.group.original]

end Evidence

/-- A source and an action id. -/
abbrev ActionKey := Source × Str

omit [Unicode] in
/-- The text of a key. -/
def ActionKey.text (key : ActionKey) : Str := key.1.name ++ lit ":" ++ key.2

/-- An aware or naive `datetime`: the clock it shows and its UTC offset in microseconds. -/
structure Datetime where
  clock : Instant
  offset : Option Int
deriving DecidableEq

namespace Datetime

/-- Microseconds since the first instant, in UTC; two aware datetimes compare by it. -/
def utc (d : Datetime) : Int := d.clock.us - d.offset.getD 0

/-- `timestamp` of a datetime is not `None`. -/
def isTimestamp (d : Datetime) : Bool :=
  match d.offset with
  | some off => (toUtc d.clock off).isOk
  | none => false

/-- The offset as `isoformat` writes it. -/
def offsetText (off : Int) : Str :=
  let n := off.natAbs
  let seconds := n / 1000000
  lit (if off < 0 then "-" else "+") ++ Str.digitsPad 2 (seconds / 3600) ++ lit ":" ++
    Str.digitsPad 2 (seconds / 60 % 60) ++
    (if seconds % 60 = 0 ∧ n % 1000000 = 0 then [] else lit ":" ++ Str.digitsPad 2 (seconds % 60)) ++
    (if n % 1000000 = 0 then [] else lit "." ++ Str.digitsPad 6 (n % 1000000))

/-- `isoformat()` -/
def isoformat (d : Datetime) : Str :=
  d.clock.isoLocal ++ (match d.offset with
    | some off => offsetText off
    | none => [])

end Datetime

/-- `Coverage`: an explicit attestation for one action, never inferred from a successful poll. -/
structure Coverage where
  source : Str
  actionId : Json
  start : Option Datetime := none
  finish : Option Datetime := none
  jobsComplete : Bool := false
  backupsComplete : Bool := false
  partialPoll : Bool := false
  queryWindowGap : Bool := false
  suffixReviewed : Bool := false
  proofReference : Str := []
  /-- The identity the constructor validated. -/
  key : ActionKey
  source_valid : validateSourceNetworker (.str source) = .ok key.1
  id_valid : positiveId actionId = .ok (some key.2)
  start_aware : ∀ d ∈ start, d.offset.isSome
  finish_aware : ∀ d ∈ finish, d.offset.isSome

/-- `complete_for`: the attestation is complete and its window contains the action. -/
def Coverage.completeFor (c : Coverage) (start finish : Option Instant) : Bool :=
  match c.start, c.finish, start, finish with
  | some opened, some closed, some s, some e =>
    c.jobsComplete && c.backupsComplete && !c.partialPoll && !c.queryWindowGap &&
      !(Str.strip c.proofReference).isEmpty &&
      decide (opened.utc ≤ s.us) && decide (s ≤ e) && decide ((e.us : Int) ≤ closed.utc)
  | _, _, _, _ => false

/-! ## 3. Names of a relation

`normalize_name` strips a name and, for policies and workflows, cuts a trailing colon with digits
off it.  Nothing is lost: the original text stays beside the normalized one. -/

/-- `NORMALIZATION_VERSION` -/
def normalizationVersion : Str := "trailing-ascii-numeric-v1"

/-- The text before and after the last colon. -/
def splitLastColon (text : Str) : Option (Str × Str) :=
  if text.contains (chr ':') then
    some ((text.rdropWhile fun c => decide (c ≠ chr ':')).dropLast,
      text.rtakeWhile fun c => decide (c ≠ chr ':'))
  else none

/-- `\s*([0-9]+)` -/
def suffixDigits (tail : Str) : Option Str :=
  let digits := tail.dropWhile Str.isAsciiSpace
  if !digits.isEmpty && digits.all isAsciiDigit then some digits else none

/-- `SUFFIX.fullmatch` of a stripped text: a name without line breaks, the last colon, digits. -/
def matchSuffix (text : Str) : Option (Str × Str) :=
  match splitLastColon text with
  | some (name, tail) =>
    match suffixDigits tail with
    | some digits =>
      if !name.isEmpty && name.all (fun c => decide (c ≠ chr '\n')) then some (name, digits) else none
    | none => none
  | none => none

/-- `:\s*[0-9]+` -/
def isBareSuffix (text : Str) : Bool :=
  match text with
  | c :: tail => decide (c = chr ':') && (suffixDigits tail).isSome
  | [] => false

/-- `normalize_name` of a text. -/
def normalizeName (value : Str) (stripSuffix : Bool) : Except Err Name :=
  let text := Str.strip value
  if text.isEmpty then .error (valueError "empty_or_invalid_name")
  else if stripSuffix && isBareSuffix text then .error (valueError "empty_name_before_suffix")
  else match (if stripSuffix then matchSuffix text else none) with
    | some (name, digits) =>
      let name := Str.strip name
      if name.isEmpty then .error (valueError "empty_name_before_suffix")
      else .ok ⟨value, name, some digits⟩
    | none => .ok ⟨value, text, none⟩

omit [Unicode] in
/-- What a name says: it keeps its original and is not empty. -/
theorem normalizeName_eq_ok {value : Str} {stripSuffix : Bool} {n : Name}
    (h : normalizeName value stripSuffix = .ok n) : n.original = value ∧ n.normalized ≠ [] := by
  unfold normalizeName at h
  extract_lets text at h
  split at h
  · cases h
  rename_i hne
  split at h
  · cases h
  split at h
  · extract_lets name at h
    split at h
    · cases h
    · rename_i hname
      rw [← Except.ok.inj h]
      exact ⟨rfl, by simpa using hname⟩
  · rw [← Except.ok.inj h]
    exact ⟨rfl, by simpa using hne⟩

example : normalizeName (lit " SYNTH: POLICY: 42 ") true = .ok ⟨lit " SYNTH: POLICY: 42 ", lit "SYNTH: POLICY", some "42"⟩ := by
  decide +kernel

end BackupCollector
