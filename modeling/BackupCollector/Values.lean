/-
# Reading loosely typed values

Three parts of the program read values whose type nobody promises: the parser reads the API's,
the derived-document builder reads the parser's records back out of a payload, and the
configuration and the lookup read a stored source.  The parser and the builder each carry the
same private helpers for it, `_string`, `_parse_datetime`, `_datetime_from_epoch`, `_isoformat`.
The two copies agree line by line, so they are modelled once.

What holds the two readers together is that a time survives being written and read: the parser
writes its instants with `isoformat`, the builder reads them back, and `parseDatetime_isoformat`
says that nothing is lost in between.  Whatever the program proves about a time of the API passes
through this lemma.  The first reading is another matter.  It accepts numbers, numeric texts and
ISO texts with or without an offset, takes a number for milliseconds from 10^11 on, and raises
where the conversion to UTC leaves the years of `datetime`; nothing here says that two texts of
one moment are read alike.
-/
import BackupCollector.Py.Datetime

namespace BackupCollector

open Py

/-! ## 1. Loosely typed values -/

section Reading

variable [Unicode]

/-- `_string` -/
def string : Json → Str
  | .null => []
  | v => Str.strip (Json.toStr v)

/-- `_datetime_from_epoch`: NetWorker versions may return Unix seconds or milliseconds. -/
def datetimeFromEpoch (value : Float) : Except Err Instant :=
  fromTimestamp (if 100000000000.0 ≤ value.abs then value / 1000.0 else value)

/-- A trailing `Z` in either case becomes the offset `fromisoformat` reads. -/
def zuluToOffset (text : Str) : Str :=
  if text.getLast? = some (chr 'Z') ∨ text.getLast? = some (chr 'z') then
    text.dropLast ++ lit "+00:00"
  else text

/-- `_parse_datetime`.  The conversion to UTC stands outside every `try`, so an offset that
leaves the years of `datetime` raises. -/
def parseDatetime (value : Json) : Except Err (Option Instant) :=
  match value with
  | .bool b => .ok (datetimeFromEpoch (if b then 1.0 else 0.0)).toOption
  | .int n => .ok ((intToFloat n).bind datetimeFromEpoch).toOption
  | .float f => .ok (datetimeFromEpoch f).toOption
  | v =>
    let text := string v
    if text.isEmpty then .ok none
    else match (parseFloat text).bind (fun f => (datetimeFromEpoch f).toOption) with
      | some t => .ok (some t)
      | none =>
        match fromisoformat (zuluToOffset text) with
        | none => .ok none
        | some (t, none) => .ok (some t)
        | some (t, some off) => (toUtc t off).map some

/-- `_isoformat` -/
def isoformat (t : Option Instant) : Json := Json.ofOption (fun t => .str t.isoformat) t

/-- `int((end - start).total_seconds())`, when both ends are known and in order. -/
def durationSeconds (start finish : Option Instant) : Except Err Json :=
  match start, finish with
  | some s, some e =>
    if s ≤ e then do
      let seconds ← trueDiv (e.us - s.us) 1000000
      return .int (← floatToInt seconds)
    else .ok .null
  | _, _ => .ok .null

/-- `isinstance(v, list)` with its elements that are dictionaries. -/
def dictItems (xs : List Json) : List Obj := xs.filterMap Json.asObj?

/-- `a or b` on texts. -/
def orText (a b : Str) : Str := if a.isEmpty then b else a

/-- `d.get(key, default)` -/
def getOr (d : Obj) (key : Str) (default : Json) : Json := (Dict.get? d key).getD default

/-- A record field that holds a text. -/
def textField (record : Obj) (key : Str) : Str := ((Obj.get record key).asStr?).getD []

/-! ## 2. What a written instant reads back as -/

omit [Unicode] in
theorem isoformat_ne_nil (t : Instant) : t.isoformat ≠ [] := by
  rw [Instant.isoformat_eq]
  simp

@[simp] theorem string_str (s : Str) : string (.str s) = Str.strip s := rfl

@[simp] theorem string_null : string .null = [] := rfl

theorem strip_string (v : Json) : Str.strip (string v) = string v := by
  cases v with
  | null => rfl
  | _ => exact Str.strip_strip _

omit [Unicode] in
theorem zuluToOffset_isoformat (t : Instant) : zuluToOffset t.isoformat = t.isoformat := by
  have hlast : t.isoformat.getLast? = some (chr '0') := by
    rw [Instant.isoformat_eq]
    simp [lit, List.getLast?_append, List.getLast?_cons]
  unfold zuluToOffset
  rw [hlast, if_neg]
  simp

omit [Unicode] in
theorem toUtc_of_ofUs {t u : Instant} {off : Int} (h : Instant.ofUs (t.us - off) = some u) :
    toUtc t off = .ok u := by
  unfold toUtc
  rw [h]

/-- A text that is no number and reads as a local time with an offset. -/
theorem parseDatetime_of_fromisoformat {s : Str} {t u : Instant} {off : Int}
    (hne : (Str.strip s).isEmpty = false) (hf : parseFloat (Str.strip s) = none)
    (hiso : fromisoformat (zuluToOffset (Str.strip s)) = some (t, some off))
    (hutc : toUtc t off = .ok u) : parseDatetime (.str s) = .ok (some u) := by
  unfold parseDatetime
  simp only [string_str, hne, Bool.false_eq_true, if_false, hf, Option.bind_none, hiso, hutc, Except.map]

/-- A timestamp the program wrote is read back as the same instant. -/
theorem parseDatetime_isoformat (t : Instant) : parseDatetime (.str t.isoformat) = .ok (some t) := by
  have hstrip := t.strip_isoformat
  have hutc : Instant.ofUs (t.us - (0 : Int)) = some t := by rw [Int.sub_zero, Instant.ofUs_us]
  refine parseDatetime_of_fromisoformat ?_ ?_ ?_ (toUtc_of_ofUs hutc)
  · rw [hstrip, List.isEmpty_eq_false_iff]
    exact isoformat_ne_nil t
  · rw [hstrip, t.parseFloat_isoformat]
  · rw [hstrip, zuluToOffset_isoformat, t.fromisoformat_isoformat]

@[simp] theorem parseDatetime_null : parseDatetime .null = .ok none := rfl

/-- What `_isoformat` stored is read back, present or not. -/
@[simp] theorem parseDatetime_isoformat_option (t : Option Instant) :
    parseDatetime (isoformat t) = .ok t := by
  cases t with
  | none => rfl
  | some t => exact parseDatetime_isoformat t

end Reading

/-! ## 3. The configured source of a NetWorker server

`validate_source_networker` is the one place that turns a configured or stored value into a
security domain.  Its result is a `Source`: a name together with the fact that it is one of the
three the program knows, so nothing downstream has to check it again. -/

/-- The sources the program knows. -/
def sourceNames : List Str := ["core", "chnl", "info"]

theorem core_known : lit "core" ∈ sourceNames := by decide

/-- A validated source. -/
structure Source where
  name : Str
  known : name ∈ sourceNames
deriving DecidableEq

variable [Unicode]

/-- Return the configured domain; never infer a default from a host or name. -/
def validateSourceNetworker (value : Json) : Except Err Source :=
  let source := match value with
    | .str s => Str.lower (Str.strip s)
    | _ => []
  if h : source ∈ sourceNames then .ok ⟨source, h⟩
  else .error (valueError (lit "unsupported source_networker: " ++ Json.toStr value))

omit [Unicode] in
theorem Source.cases (s : Source) : s.name = lit "core" ∨ s.name = lit "chnl" ∨ s.name = lit "info" := by
  simpa [sourceNames] using s.known

omit [Unicode] in
/-- Whatever is decidable of a source is decided on the three of them. -/
theorem Source.forall {P : Str → Prop} (h : ∀ n ∈ sourceNames, P n) (s : Source) : P s.name :=
  h s.name s.known

omit [Unicode] in
theorem Source.isAscii (s : Source) : isAscii s.name = true := by
  rcases s.cases with h | h | h <;> rw [h] <;> decide

omit [Unicode] in
theorem Source.strip (s : Source) : Str.strip s.name = s.name := by
  rcases s.cases with h | h | h <;> rw [h] <;> decide

omit [Unicode] in
theorem Source.asciiLower (s : Source) : asciiLower s.name = s.name := by
  rcases s.cases with h | h | h <;> rw [h] <;> decide

theorem Source.lower (s : Source) : Str.lower s.name = s.name := by
  rw [Str.lower_of_ascii s.isAscii, s.asciiLower]

/-- A source is validated to itself: storing one and reading it back changes nothing. -/
@[simp] theorem validateSourceNetworker_name (s : Source) :
    validateSourceNetworker (.str s.name) = .ok s := by
  unfold validateSourceNetworker
  simp only [s.strip, s.lower]
  rw [dif_pos s.known]

/-- Validation rejects by raising `ValueError`, which its callers catch. -/
theorem validateSourceNetworker_error {v : Json} {e : Err} (h : validateSourceNetworker v = .error e) :
    e.kind = .valueError := by
  unfold validateSourceNetworker at h
  extract_lets source at h
  by_cases hs : source ∈ sourceNames
  · rw [dif_pos hs] at h
    cases h
  · rw [dif_neg hs] at h
    cases h
    rfl

end BackupCollector
