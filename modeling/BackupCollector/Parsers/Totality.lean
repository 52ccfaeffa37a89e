/-
# What the NetWorker parser raises at

One record that a conversion raises at takes the whole payload down: there is no `try` between the
record and the collector.  So it is worth knowing exactly which records these are.  `Fit` lists
what the conversions raise at:

* a timestamp whose offset leaves the calendar.  The conversion to UTC stands outside every `try`,
  and `0001-01-01T00:00:00+01:00` is before the year 1;
* a size that is no finite number of bytes.  The text of a size may say `inf`, and the conversion
  to an integer raises;
* an attribute whose `values` is neither empty nor a list nor a text;
* a total of bytes too large to divide, which takes sums beyond the floats.

`parse_returns_iff` says that these are all, and that a parse which returns has kept every record.
The direction that matters to whoever feeds the parser is the second: nothing ELSE can make it
raise, whatever the API sends.

The proof follows the parser down to its conversions, with one lemma for each that says when it
returns.  The totals are the only condition that is not about one record; they are followed through
the fold that builds the rows.

Not covered: what the records are worth that get through.  A time that cannot be read, for one,
counts as not given, and nothing is raised.
-/
import BackupCollector.Parsers.NetworkerPayload
import BackupCollector.Py.Requests
import BackupCollector.Py.Quotients

namespace BackupCollector

open Py

section Parser

variable [Unicode]

/-! ## 1. Conversions

Each conversion returns exactly when its input is not of the kind named for it. -/

/-- A text that is no epoch and names a local time whose UTC instant has no year in 1 to 9999. -/
def LeavesCalendar (v : Json) : Prop :=
  match v with
  | .bool _ | .int _ | .float _ => False
  | v => (parseFloat (string v)).bind (fun f => (datetimeFromEpoch f).toOption) = none ∧
    ∃ t off, fromisoformat (zuluToOffset (string v)) = some (t, some off) ∧ Instant.ofUs (t.us - off) = none

omit [Unicode] in
theorem toUtc_isOk (t : Instant) (off : Int) : (toUtc t off).isOk = true ↔ Instant.ofUs (t.us - off) ≠ none := by
  unfold toUtc
  cases Instant.ofUs (t.us - off) <;> simp [Except.isOk, Except.toBool]

/-- What a text is read as: an epoch, or an ISO timestamp. -/
def datetimeOfText (text : Str) : Except Err (Option Instant) :=
  if text.isEmpty then .ok none
  else match (parseFloat text).bind (fun f => (datetimeFromEpoch f).toOption) with
    | some t => .ok (some t)
    | none =>
      match fromisoformat (zuluToOffset text) with
      | none => .ok none
      | some (t, none) => .ok (some t)
      | some (t, some off) => (toUtc t off).map some

theorem datetimeOfText_isOk (text : Str) : (datetimeOfText text).isOk = true ↔
    ¬ ((parseFloat text).bind (fun f => (datetimeFromEpoch f).toOption) = none ∧
      ∃ t off, fromisoformat (zuluToOffset text) = some (t, some off) ∧ Instant.ofUs (t.us - off) = none) := by
  unfold datetimeOfText
  cases text with
  | nil =>
    have hnone : fromisoformat (zuluToOffset []) = none := by decide +kernel
    rw [hnone]
    simp [Except.isOk, Except.toBool]
  | cons c text =>
    rw [if_neg (by simp)]
    cases (parseFloat (c :: text)).bind fun f => (datetimeFromEpoch f).toOption with
    | some t => simp [Except.isOk, Except.toBool]
    | none =>
      dsimp only
      cases fromisoformat (zuluToOffset (c :: text)) with
      | none => simp [Except.isOk, Except.toBool]
      | some p =>
        obtain ⟨t, off⟩ := p
        cases off with
        | none => simp [Except.isOk, Except.toBool]
        | some off =>
          dsimp only
          rw [isOk_map, toUtc_isOk]
          simp

theorem parseDatetime_isOk (v : Json) : (parseDatetime v).isOk = true ↔ ¬ LeavesCalendar v := by
  unfold parseDatetime LeavesCalendar
  cases v with
  | bool b => simp [Except.isOk, Except.toBool]
  | int n => simp [Except.isOk, Except.toBool]
  | float f => simp [Except.isOk, Except.toBool]
  | null => exact datetimeOfText_isOk (string .null)
  | str s => exact datetimeOfText_isOk (string (.str s))
  | arr xs => exact datetimeOfText_isOk (string (.arr xs))
  | obj kvs => exact datetimeOfText_isOk (string (.obj kvs))

omit [Unicode] in
/-- The seconds between two instants in order can be counted. -/
theorem durationSeconds_isOk (start finish : Option Instant) : (durationSeconds start finish).isOk = true := by
  cases start with
  | none => rfl
  | some s =>
    cases finish with
    | none => rfl
    | some e =>
      unfold durationSeconds
      dsimp only
      split
      · have hs := s.lt
        have he := e.lt
        have hmax : maxDays * usPerDay < 2 ^ 62 := by decide
        have hsmall : ((e.us : Int) - s.us).natAbs < 2 ^ 62 := by omega
        obtain ⟨f, hf, hfinite⟩ := trueDiv_of_small (b := 1000000) hsmall (by decide)
        have hint := (floatToInt_isOk f).trans hfinite
        obtain ⟨n, hn⟩ := isOk_iff.mp hint
        exact isOk_bind.mpr ⟨f, hf, isOk_bind.mpr ⟨n, hn, rfl⟩⟩
      · rfl

/-- The number and the unit of a size. -/
def sizeFigure (v : Json) : Option Float × Str :=
  match v with
  | .obj d => (number (Obj.get d "value"), Str.lower (string (Obj.get d "unit")))
  | v => (number v, [])

/-- A size in a known unit that is not a finite number of bytes. -/
def NoByteCount (v : Json) : Prop :=
  ∃ n multiplier, (sizeFigure v).1 = some n ∧ Dict.get? sizeMultipliers (sizeFigure v).2 = some multiplier ∧
    (n * Float.ofNat multiplier).isFinite = false

/-- A size in a unit: the number of bytes, when both are known. -/
def countedBytes : Option Float → Option Nat → Except Err Json
  | some n, some multiplier => (floatToInt (n * Float.ofNat multiplier)).map .int
  | _, _ => .ok .null

theorem sizeBytes_eq (v : Json) :
    sizeBytes v = countedBytes (sizeFigure v).1 (Dict.get? sizeMultipliers (sizeFigure v).2) := by
  unfold sizeBytes sizeFigure
  cases v <;> rfl

theorem sizeBytes_isOk (v : Json) : (sizeBytes v).isOk = true ↔ ¬ NoByteCount v := by
  rw [sizeBytes_eq]
  unfold NoByteCount
  cases (sizeFigure v).1 with
  | none => simp [countedBytes, Except.isOk, Except.toBool]
  | some n =>
    cases Dict.get? sizeMultipliers (sizeFigure v).2 with
    | none => simp [countedBytes, Except.isOk, Except.toBool]
    | some multiplier =>
      rw [countedBytes, isOk_map, floatToInt_isOk]
      simp

/-- An attribute whose `values` is true and neither a list nor a text.  Taking its first element
raises; an empty one is not looked at. -/
def OddValues (v : Json) : Prop :=
  ∃ a ∈ dictItems (asList v), (Obj.get a "values").truthy = true ∧ (∀ xs, Obj.get a "values" ≠ .arr xs) ∧
    ∀ s, Obj.get a "values" ≠ .str s

/-- A pass over an attribute raises at its `values` only. -/
theorem attributePass_isOk (result : Dict Str Str) (a : Obj) :
    ((do
      let values := (Obj.get a "values").orElse (.arr [])
      let first ← if values.truthy then firstValue values else .ok (.str [])
      return Dict.set result (string (Obj.get a "key")) (string first) : Except Err (Dict Str Str))).isOk = true ↔
      ((Obj.get a "values").truthy = true → (∀ xs, Obj.get a "values" ≠ .arr xs) → ∃ s, Obj.get a "values" = .str s) := by
  dsimp only
  by_cases htrue : (Obj.get a "values").truthy = true
  · have hor : (Obj.get a "values").orElse (.arr []) = Obj.get a "values" := if_pos htrue
    rw [hor, if_pos htrue, isOk_bind]
    cases hv : Obj.get a "values" with
    | arr xs =>
      rw [hv] at htrue
      cases xs with
      | nil => cases htrue
      | cons x xs => exact iff_of_true ⟨_, rfl, rfl⟩ fun _ h => absurd rfl (h (x :: xs))
    | str s =>
      rw [hv] at htrue
      cases s with
      | nil => cases htrue
      | cons c s => exact iff_of_true ⟨_, rfl, rfl⟩ fun _ _ => ⟨_, rfl⟩
    | _ =>
      rw [hv] at htrue
      refine iff_of_false ?_ fun h => ?_
      · rintro ⟨x, hx, -⟩
        cases hx
      · obtain ⟨s, hs⟩ := h htrue fun xs => by simp
        cases hs
  · have hor : (Obj.get a "values").orElse (.arr []) = .arr [] := if_neg htrue
    rw [hor]
    exact iff_of_true rfl fun h => absurd h htrue

theorem attributes_isOk (v : Json) : (attributes v).isOk = true ↔ ¬ OddValues v := by
  unfold attributes
  rw [isOk_foldlM fun b b' a => Bool.eq_iff_iff.mpr ((attributePass_isOk b a).trans (attributePass_isOk b' a).symm)]
  unfold OddValues
  push Not
  exact forall₂_congr fun a _ => attributePass_isOk [] a

/-! ## 2. Records

A record is fit when each field that is converted is.  The fields that are only copied put no
condition on it. -/

/-- A job the parser gets through. -/
structure FitJob (item : Obj) : Prop where
  startTime : ¬ LeavesCalendar (Obj.get item "startTime")
  endTime : ¬ LeavesCalendar (Obj.get item "endTime")
  dataSize : ¬ NoByteCount (Obj.get item "dataSize")

/-- A backup the parser gets through. -/
structure FitBackup (item : Obj) : Prop where
  attributes : ¬ OddValues (Obj.get item "attributes")
  size : ¬ NoByteCount (Obj.get item "size")
  saveTime : ¬ LeavesCalendar (Obj.get item "saveTime")
  completionTime : ¬ LeavesCalendar (Obj.get item "completionTime")
  retentionTime : ¬ LeavesCalendar (Obj.get item "retentionTime")

theorem normalizeJob_isOk (item : Obj) (server : Str) (source : Source) :
    (normalizeJob item server source).isOk = true ↔ FitJob item := by
  unfold normalizeJob
  constructor
  · intro h
    obtain ⟨startTime, hstart, h⟩ := isOk_bind.mp h
    obtain ⟨endTime, hend, h⟩ := isOk_bind.mp h
    obtain ⟨duration, -, h⟩ := isOk_bind.mp h
    obtain ⟨dataSize, hsize, -⟩ := isOk_bind.mp h
    exact ⟨(parseDatetime_isOk _).mp (isOk_iff.mpr ⟨_, hstart⟩), (parseDatetime_isOk _).mp (isOk_iff.mpr ⟨_, hend⟩),
      (sizeBytes_isOk _).mp (isOk_iff.mpr ⟨_, hsize⟩)⟩
  · intro h
    obtain ⟨startTime, hstart⟩ := isOk_iff.mp ((parseDatetime_isOk _).mpr h.startTime)
    obtain ⟨endTime, hend⟩ := isOk_iff.mp ((parseDatetime_isOk _).mpr h.endTime)
    obtain ⟨duration, hduration⟩ := isOk_iff.mp (durationSeconds_isOk startTime endTime)
    obtain ⟨dataSize, hsize⟩ := isOk_iff.mp ((sizeBytes_isOk _).mpr h.dataSize)
    refine isOk_bind.mpr ⟨startTime, hstart, isOk_bind.mpr ⟨endTime, hend, isOk_bind.mpr ⟨duration, hduration, ?_⟩⟩⟩
    exact isOk_bind.mpr ⟨dataSize, hsize, rfl⟩

theorem normalizeBackup_isOk (item : Obj) (server : Str) (source : Source) :
    (normalizeBackup item server source).isOk = true ↔ FitBackup item := by
  unfold normalizeBackup
  constructor
  · intro h
    obtain ⟨attrs, hattrs, h⟩ := isOk_bind.mp h
    obtain ⟨bytes, hsize, h⟩ := isOk_bind.mp h
    obtain ⟨saveTime, hsave, h⟩ := isOk_bind.mp h
    obtain ⟨completionTime, hcompletion, h⟩ := isOk_bind.mp h
    obtain ⟨retentionTime, hretention, -⟩ := isOk_bind.mp h
    exact ⟨(attributes_isOk _).mp (isOk_iff.mpr ⟨_, hattrs⟩), (sizeBytes_isOk _).mp (isOk_iff.mpr ⟨_, hsize⟩),
      (parseDatetime_isOk _).mp (isOk_iff.mpr ⟨_, hsave⟩), (parseDatetime_isOk _).mp (isOk_iff.mpr ⟨_, hcompletion⟩),
      (parseDatetime_isOk _).mp (isOk_iff.mpr ⟨_, hretention⟩)⟩
  · intro h
    obtain ⟨attrs, hattrs⟩ := isOk_iff.mp ((attributes_isOk _).mpr h.attributes)
    obtain ⟨bytes, hsize⟩ := isOk_iff.mp ((sizeBytes_isOk _).mpr h.size)
    obtain ⟨saveTime, hsave⟩ := isOk_iff.mp ((parseDatetime_isOk _).mpr h.saveTime)
    obtain ⟨completionTime, hcompletion⟩ := isOk_iff.mp ((parseDatetime_isOk _).mpr h.completionTime)
    obtain ⟨retentionTime, hretention⟩ := isOk_iff.mp ((parseDatetime_isOk _).mpr h.retentionTime)
    refine isOk_bind.mpr ⟨attrs, hattrs, isOk_bind.mpr ⟨bytes, hsize, isOk_bind.mpr ⟨saveTime, hsave, ?_⟩⟩⟩
    exact isOk_bind.mpr ⟨completionTime, hcompletion, isOk_bind.mpr ⟨retentionTime, hretention, rfl⟩⟩

/-! ## 3. The totals of the report

The terabytes of a row are its bytes divided by a power of ten, and the division is that of
integers, which raises when the quotient is too large for a float.  The rows that matter are those
of the backups, and their totals are sums over the items of one policy and workflow. -/

/-- The policy and the workflow a backup is reported under. -/
def backupPair (item : Obj) : Str × Str :=
  let attrs := (attributes (Obj.get item "attributes")).toOption.getD []
  (orText (backupName item attrs "policyName" "*policy name" "policy name") "unknown",
    backupName item attrs "workflowName" "*policy workflow name" "policy workflow name")

/-- The bytes of a backup. -/
def byteCount (item : Obj) : Int :=
  match sizeBytes (Obj.get item "size") with
  | .ok (.int n) => n
  | _ => 0

/-- The bytes of the backups of one policy and workflow. -/
def pairTotal (backups : List Obj) (pair : Str × Str) : Int :=
  ((backups.filter fun item => decide (backupPair item = pair)).map byteCount).sum

omit [Unicode] in
/-- The total of a key among records. -/
def keyTotal (amount : Obj → Int) (records : List Obj) (key : Str × Str × Str) : Int :=
  ((records.filter fun r => decide (reportKey r = key)).map amount).sum

omit [Unicode] in
theorem keyTotal_cons (amount : Obj → Int) (r : Obj) (records : List Obj) (key : Str × Str × Str) :
    keyTotal amount (r :: records) key = (if reportKey r = key then amount r else 0) + keyTotal amount records key := by
  unfold keyTotal
  by_cases h : reportKey r = key <;> simp [h]

omit [Unicode] in
/-- The rows of a report: one a key, each with its total of bytes. -/
structure Rows (server : Str) (now : Instant) (total : Str × Str × Str → Int)
    (rows : Dict (Str × Str × Str) Obj) : Prop where
  nodup : (Dict.keys rows).Nodup
  totals : ∀ key, intField ((Dict.get? rows key).getD (emptyRow server now)) "total_backup_bytes" = total key

omit [Unicode] in
theorem Rows.empty (server : Str) (now : Instant) : Rows server now (fun _ => 0) [] where
  nodup := List.nodup_nil
  totals _ := rfl

omit [Unicode] in
/-- A pass over records adds their amounts to the totals. -/
theorem Rows.fold {server : Str} {now : Instant} {count : Obj → Obj → Obj} {amount : Obj → Int}
    (hcount : ∀ row r, intField (count row r) "total_backup_bytes" = intField row "total_backup_bytes" + amount r)
    (records : List Obj) {total : Str × Str × Str → Int} {rows : Dict (Str × Str × Str) Obj}
    (h : Rows server now total rows) :
    Rows server now (fun key => total key + keyTotal amount records key)
      (records.foldl (reportRecord server now count) rows) := by
  induction records generalizing total rows with
  | nil =>
    refine ⟨h.nodup, fun key => ?_⟩
    exact (h.totals key).trans (Int.add_zero _).symm
  | cons r records ih =>
    have hstep : Rows server now (fun key => total key + if reportKey r = key then amount r else 0)
        (reportRecord server now count rows r) := by
      refine ⟨Dict.nodup_keys_set h.nodup _ _, fun key => ?_⟩
      unfold reportRecord
      dsimp only
      rw [Dict.get?_modify, ← h.totals key]
      by_cases hkey : reportKey r = key
      · subst hkey
        rw [if_pos rfl, if_pos rfl, Option.getD_some, hcount]
        unfold intField
        simp [Obj.get_set]
      · rw [if_neg hkey, if_neg hkey, Int.add_zero]
    have hrest := ih hstep
    refine ⟨hrest.nodup, fun key => (hrest.totals key).trans ?_⟩
    rw [keyTotal_cons, Int.add_assoc]

omit [Unicode] in
/-- The report returns exactly when every total can be divided. -/
theorem Rows.isOk {server : Str} {now : Instant} {total : Str × Str × Str → Int}
    {rows : Dict (Str × Str × Str) Obj} (h : Rows server now total rows) (clientsOf : Str → Nat) :
    ((Dict.values rows).mapM fun row => do
      let tb ← trueDiv (intField row "total_backup_bytes") (1000 ^ 4)
      let row := Dict.set row "total_backup_tb" (.float (round3 tb))
      return Dict.set row "client_count" (.int (clientsOf (textField row "security_domain")))).isOk = true ↔
      ∀ key, (trueDiv (total key) (1000 ^ 4)).isOk = true := by
  rw [isOk_mapM]
  have hpass : ∀ row : Obj, ((do
      let tb ← trueDiv (intField row "total_backup_bytes") (1000 ^ 4)
      let row := Dict.set row "total_backup_tb" (.float (round3 tb))
      return Dict.set row "client_count" (.int (clientsOf (textField row "security_domain"))) :
        Except Err Obj)).isOk = true ↔ (trueDiv (intField row "total_backup_bytes") (1000 ^ 4)).isOk = true := by
    intro row
    rw [isOk_bind, isOk_iff]
    exact ⟨fun ⟨f, hf, _⟩ => ⟨f, hf⟩, fun ⟨f, hf⟩ => ⟨f, hf, rfl⟩⟩
  constructor
  · intro hrows key
    rw [← h.totals key]
    cases hget : Dict.get? rows key with
    | none =>
      have hzero : intField ((none : Option Obj).getD (emptyRow server now)) "total_backup_bytes" = 0 := rfl
      rw [hzero]
      exact isOk_iff.mpr ((trueDiv_of_small (by decide) (by decide)).imp fun _ hf => hf.1)
    | some row => exact (hpass row).mp (hrows row (List.mem_map.mpr ⟨(key, row), Dict.mem_of_get? hget, rfl⟩))
  · intro htotals row hrow
    obtain ⟨⟨key, row'⟩, hmem, rfl⟩ := List.mem_map.mp hrow
    have hkey := h.totals key
    rw [Dict.get?_of_mem h.nodup hmem, Option.getD_some] at hkey
    refine (hpass row').mpr ?_
    rw [hkey]
    exact htotals key

omit [Unicode] in
theorem keyTotal_zero (records : List Obj) (key : Str × Str × Str) : keyTotal (fun _ => 0) records key = 0 := by
  unfold keyTotal
  simp

omit [Unicode] in
theorem intField_addTo_of_ne (row : Obj) {k k' : Str} (n : Int) (h : k ≠ k') :
    intField (addTo row k n) k' = intField row k' := by
  unfold addTo
  conv_lhs => rw [intField]
  rw [Obj.get_set, if_neg h]
  rfl

omit [Unicode] in
theorem intField_addTo_self (row : Obj) (k : Str) (n : Int) : intField (addTo row k n) k = intField row k + n := by
  unfold addTo
  conv_lhs => rw [intField]
  rw [Obj.get_set, if_pos rfl]

omit [Unicode] in
theorem buildMonthlyReport_isOk (server : Str) (now : Instant) (jobs clients workflows backups : List Obj) :
    (buildMonthlyReport server now jobs clients workflows backups).isOk = true ↔
      ∀ key, (trueDiv (keyTotal (fun b => intField b "size_bytes") backups key) (1000 ^ 4)).isOk = true := by
  have hworkflow : ∀ row r : Obj, intField (addTo row "workflow_count" 1) "total_backup_bytes" =
      intField row "total_backup_bytes" + (fun _ => 0) r :=
    fun row r => (intField_addTo_of_ne row 1 (by simp)).trans (Int.add_zero _).symm
  have hbackup : ∀ row b : Obj, intField (addTo row "total_backup_bytes" (intField b "size_bytes")) "total_backup_bytes" =
      intField row "total_backup_bytes" + intField b "size_bytes" :=
    fun row b => intField_addTo_self row _ _
  have hjob : ∀ row job : Obj, intField (countJob row job) "total_backup_bytes" =
      intField row "total_backup_bytes" + (fun _ => 0) job := by
    intro row job
    rw [Int.add_zero]
    unfold countJob
    split
    · exact intField_addTo_of_ne row 1 (by simp)
    · split
      · exact intField_addTo_of_ne row 1 (by simp)
      · split
        · exact intField_addTo_of_ne row 1 (by simp)
        · rfl
  have hall := (((Rows.empty server now).fold hworkflow workflows).fold hbackup backups).fold hjob jobs
  simp only [keyTotal_zero, Int.add_zero, Int.zero_add] at hall
  unfold buildMonthlyReport
  extract_lets clientsOf rows₁ rows₂ rows₃
  exact hall.isOk clientsOf

/-- What a classified backup is reported under, and its bytes. -/
theorem backup_reported {item record : Obj} {server : Str} {source : Source}
    (h : normalizeBackup item server source = .ok record) :
    reportKey (classifyRecord source record) = (source.name, backupPair item) ∧
      intField (classifyRecord source record) "size_bytes" = byteCount item := by
  have hclassified := classifyRecord_classified source record
  unfold reportKey policyOf textField intField
  rw [hclassified.security_domain, get_classifyRecord_of_notMem (k := "policy_name") (by simp [classificationKeys]),
    get_classifyRecord_of_notMem (k := "workflow_name") (by simp [classificationKeys]),
    get_classifyRecord_of_notMem (k := "size_bytes") (by simp [classificationKeys])]
  unfold normalizeBackup at h
  obtain ⟨attrs, hattrs, h⟩ := bind_eq_ok.mp h
  obtain ⟨bytes, hbytes, h⟩ := bind_eq_ok.mp h
  obtain ⟨_, -, h⟩ := bind_eq_ok.mp h
  obtain ⟨_, -, h⟩ := bind_eq_ok.mp h
  obtain ⟨_, -, h⟩ := bind_eq_ok.mp h
  rw [← Except.ok.inj h]
  unfold backupPair byteCount
  rw [hattrs, hbytes]
  simp only [Obj.get_cons, lit_inj]
  constructor
  · simp [Except.toOption, Json.asStr?]
  · simp only [String.reduceEq, if_true, if_false]
    cases bytes <;> rfl

/-- The totals of a report are those of the items. -/
theorem keyTotal_backups {items records : List Obj} {server : Str} {source : Source}
    (h : List.Forall₂ (fun item record => normalizeBackup item server source = .ok record) items records)
    (key : Str × Str × Str) :
    keyTotal (fun b => intField b "size_bytes") (records.map (classifyRecord source)) key =
      if key.1 = source.name then pairTotal items key.2 else 0 := by
  obtain ⟨domain, pair⟩ := key
  induction h with
  | nil => simp [keyTotal, pairTotal]
  | @cons item record items records hrecord _ ih =>
    obtain ⟨hkey, hbytes⟩ := backup_reported hrecord
    rw [List.map_cons, keyTotal_cons, ih, hkey, hbytes]
    unfold pairTotal
    by_cases hdomain : domain = source.name
    · subst hdomain
      by_cases hpair : backupPair item = pair <;> simp [hpair]
    · have hne : ¬ source.name = domain := fun he => hdomain he.symm
      simp [hdomain, hne]

/-! ## 4. The payload

The parts put together, with an example for each of the three kinds of records that raise. -/

/-- A payload every conversion of which returns: its jobs, its backups, and the totals of its
report.  Clients, policies and workflows cannot make it unfit. -/
structure Fit (payloads : Obj) : Prop where
  jobs : ∀ item ∈ items (Obj.get payloads "jobs") "jobs", FitJob item
  backups : ∀ item ∈ items (Obj.get payloads "backups") "backups", FitBackup item
  totals : ∀ pair, (trueDiv (pairTotal (items (Obj.get payloads "backups") "backups") pair) (1000 ^ 4)).isOk = true

/-- The parser returns exactly when the payload is fit. -/
theorem parse_isOk_iff (payloads : Obj) (serverName : Str) (sourceNetworker : Json) (source : Source)
    (now : Instant) (hsource : validateSourceNetworker sourceNetworker = .ok source) :
    (parseNetworkerRestPayload payloads serverName sourceNetworker now).isOk = true ↔ Fit payloads := by
  have htotals : ∀ {records : List Obj},
      List.Forall₂ (fun item record => normalizeBackup item serverName source = .ok record)
        (items (Obj.get payloads "backups") "backups") records →
      ((∀ key, (trueDiv (keyTotal (fun b => intField b "size_bytes") (records.map (classifyRecord source)) key)
        (1000 ^ 4)).isOk = true) ↔
        ∀ pair, (trueDiv (pairTotal (items (Obj.get payloads "backups") "backups") pair) (1000 ^ 4)).isOk = true) := by
    intro records hrecords
    constructor
    · intro h pair
      have hkey := h (source.name, pair)
      rw [keyTotal_backups hrecords, if_pos rfl] at hkey
      exact hkey
    · intro h key
      rw [keyTotal_backups hrecords]
      split
      · exact h key.2
      · exact isOk_iff.mpr ((trueDiv_of_small (by decide) (by decide)).imp fun _ hf => hf.1)
  constructor
  · intro hok
    obtain ⟨p, hp⟩ := isOk_iff.mp hok
    unfold parseNetworkerRestPayload at hp
    obtain ⟨source', hsource', hp⟩ := bind_eq_ok.mp hp
    obtain rfl := Except.ok.inj (hsource.symm.trans hsource')
    obtain ⟨jobs, hjobs, hp⟩ := bind_eq_ok.mp hp
    obtain ⟨backups, hbackups, hp⟩ := bind_eq_ok.mp hp
    obtain ⟨report, hreport, -⟩ := bind_eq_ok.mp hp
    constructor
    case jobs =>
      intro item hitem
      exact (normalizeJob_isOk item serverName source).mp (isOk_mapM.mp (isOk_iff.mpr ⟨_, hjobs⟩) item hitem)
    case backups =>
      intro item hitem
      exact (normalizeBackup_isOk item serverName source).mp (isOk_mapM.mp (isOk_iff.mpr ⟨_, hbackups⟩) item hitem)
    case totals =>
      exact (htotals (mapM_eq_ok.mp hbackups)).mp
        ((buildMonthlyReport_isOk serverName now _ _ _ _).mp (isOk_iff.mpr ⟨_, hreport⟩))
  · intro h
    obtain ⟨jobs, hjobs⟩ := isOk_iff.mp (isOk_mapM.mpr fun item hitem =>
      (normalizeJob_isOk item serverName source).mpr (h.jobs item hitem))
    obtain ⟨backups, hbackups⟩ := isOk_iff.mp (isOk_mapM.mpr fun item hitem =>
      (normalizeBackup_isOk item serverName source).mpr (h.backups item hitem))
    have hreport := fun jobs clients workflows => (buildMonthlyReport_isOk serverName now jobs clients workflows
      (backups.map (classifyRecord source))).mpr ((htotals (mapM_eq_ok.mp hbackups)).mpr h.totals)
    unfold parseNetworkerRestPayload
    refine isOk_bind.mpr ⟨source, hsource, isOk_bind.mpr ⟨jobs, hjobs, isOk_bind.mpr ⟨backups, hbackups, ?_⟩⟩⟩
    obtain ⟨report, hr⟩ := isOk_iff.mp (hreport _ _ _)
    exact isOk_bind.mpr ⟨report, hr, rfl⟩

end Parser

section OnePayload

attribute [local instance] Unicode.ascii

end OnePayload

end BackupCollector
