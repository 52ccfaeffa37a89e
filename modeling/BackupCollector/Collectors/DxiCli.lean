/-
# When a DXi reaches its payload

The texts of a DXi's commands reach the payload only past the parser, and the collector puts the
raw text into the payload it builds AFTER parsing.  So a text the parser raises at loses the raw
text as well, and that of every other command.  When does it raise?

The expressions are generous and the conversions are not.  `[\d.]+` takes a figure with any number
of points, `float` takes one; `[KMGTPE]?i?B` takes `iB`, which is no unit of the table; a size of
any length is captured, and the integer of an infinite one cannot be taken; the speed of an
interface is converted without a `try`.  `Readable` says that no captured text is one of these, and
`payload_iff` that the payload is built exactly then.  The rest cannot fail: a status always has a
rank, a severity always has a counter, and a share can always be taken, and each of these is a
lemma, since each is an index or a conversion that raises on other inputs.

* `unread_is_null`: what is NOT captured costs nothing.  A label that is missing, a size in no
  known form and a count that is no number leave their field `None`.
* `dotted_capacity_raises`: a capacity of `1.2.3 TB` costs everything.

The conditions are on the texts, by what the expressions capture in them.  The commands themselves,
and the sessions they run in, are `Clients/DxiSessions`.
-/
import BackupCollector.Collectors.Base
import BackupCollector.Parsers.DxiCli
import BackupCollector.Py.Requests
import BackupCollector.Py.Sha256

namespace BackupCollector.DxiCli

open Py

/-! ## 1. The collector

What the client hands over is a text for every command that ran and the names of those that failed. -/

/-- What the client brings back: the text of every command, and the commands that failed. -/
structure DxiCliResult where
  outputs : Dict Str Str
  errors : Obj

def textsJson (texts : Dict Str Str) : Json := .obj (texts.map fun p => (p.1, .str p.2))

section Collector

variable [Unicode]

/-- `DXiCliCollector._collect_payload` after the commands have run.  `_publish_metrics` only sets
gauges to what the summary holds. -/
def collectPayload (result : DxiCliResult) (name : Str) : Except Err Obj := do
  let summary ← parseDxiCliOutputs result.outputs name
  return [
    ("summary", .obj summary),
    ("collection_status", .str (if result.errors.isEmpty then "success" else "partial")),
    ("command_errors", .obj result.errors),
    ("raw", .obj [("cli", textsJson result.outputs)])]

/-! ## 2. What a conversion accepts

A size is a number and a unit.  Both were captured by an expression, so both have a known alphabet,
and that is where the exact conditions come from. -/

/-- The number and the unit of a size stand for a number of bytes. -/
structure SizeReads (digits letters : Str) : Prop where
  decimal : DecimalText digits
  unit : (Dict.get? unitExponents (Str.upper letters)).isSome = true
  finite : ∀ number exponent, parseFloat digits = some number →
    Dict.get? unitExponents (Str.upper letters) = some exponent →
    (number * unitFactor (Str.upper letters) exponent).isFinite = true

theorem floatOf_isOk (text : Str) : (floatOf text).isOk = (parseFloat text).isSome := by
  unfold floatOf
  cases parseFloat text <;> rfl

theorem item_isOk {ν : Type} (d : Dict Str ν) (k : Str) : (item d k).isOk = (Dict.get? d k).isSome := by
  unfold item
  cases Dict.get? d k <;> rfl

/-- The number of a size is made of figures. -/
theorem splitSize_figures {value digits letters : Str} (h : splitSize value = some (digits, letters)) :
    ∀ c ∈ digits, isFigure c = true := by
  unfold splitSize at h
  split at h
  · rename_i number unit hm
    obtain ⟨g, gs, hgroups, hfigures, -⟩ := matchStart_group hm
    cases h
    cases hgroups
    exact hfigures
  · cases h

/-- The text of a speed is made of figures, and there are some. -/
theorem speedOf_figures {record : Record} {speed : Str} (h : speedOf record = some speed) :
    (∀ c ∈ speed, isFigure c = true) ∧ speed.isEmpty = false := by
  unfold speedOf firstMatch at h
  obtain ⟨pattern, hpattern, hspeed⟩ := List.exists_of_findSome?_eq_some h
  obtain rfl := List.mem_singleton.mp hpattern
  obtain ⟨group, hgroup, rfl⟩ := Option.map_eq_some_iff.mp hspeed
  obtain ⟨groups, hsearch, hhead⟩ := Option.bind_eq_some_iff.mp hgroup
  obtain ⟨g, gs, rfl, hfigures, hlen⟩ := searchFrom_group hsearch
  obtain rfl : g = group := Option.some.inj hhead
  rw [Str.strip_of_no_space fun c hc => isSpace_of_figure (hfigures c hc)]
  exact ⟨hfigures, List.isEmpty_eq_false_iff.mpr (List.ne_nil_of_length_pos hlen)⟩

/-- A size is converted exactly when its number and its unit stand for a number of bytes. -/
theorem parseSize_isOk (value : Option Str) : (parseSize value).isOk = true ↔
    ∀ digits letters, value.bind splitSize = some (digits, letters) → SizeReads digits letters := by
  unfold parseSize
  cases hsplit : value.bind splitSize with
  | none => exact ⟨fun _ _ _ h => (nomatch h), fun _ => rfl⟩
  | some p =>
    obtain ⟨digits, letters⟩ := p
    obtain ⟨text, -, htext⟩ := Option.bind_eq_some_iff.mp hsplit
    have hfigures := splitSize_figures htext
    simp only [isOk_bind]
    constructor
    · rintro ⟨number, hnumber, exponent, hexponent, bytes, hbytes, -⟩ _ _ heq
      cases heq
      have hparse : parseFloat digits = some number := by
        unfold floatOf at hnumber
        cases hp : parseFloat digits with
        | none => rw [hp] at hnumber; cases hnumber
        | some f => rw [hp] at hnumber; cases hnumber; rfl
      have hunit : Dict.get? unitExponents (Str.upper letters) = some exponent := by
        unfold item at hexponent
        cases hp : Dict.get? unitExponents (Str.upper letters) with
        | none => rw [hp] at hexponent; cases hexponent
        | some e => rw [hp] at hexponent; cases hexponent; rfl
      refine ⟨(parseFloat_figures hfigures).mp (by rw [hparse]; rfl), by rw [hunit]; rfl, ?_⟩
      intro number' exponent' hn he
      rw [hparse, Option.some.injEq] at hn
      rw [hunit, Option.some.injEq] at he
      subst hn he
      rw [← roundToInt_isOk, hbytes]
      rfl
    · intro h
      have hreads := h digits letters rfl
      obtain ⟨number, hnumber⟩ := Option.isSome_iff_exists.mp ((parseFloat_figures hfigures).mpr hreads.decimal)
      obtain ⟨exponent, hexponent⟩ := Option.isSome_iff_exists.mp hreads.unit
      obtain ⟨bytes, hbytes⟩ := isOk_iff.mp ((roundToInt_isOk _).trans (hreads.finite number exponent hnumber hexponent))
      refine ⟨number, ?_, exponent, ?_, bytes, hbytes, rfl⟩
      · unfold floatOf
        rw [hnumber]
      · unfold item
        rw [hexponent]

/-- What a size is converted to is an integer that a float was rounded to. -/
theorem parseSize_sized {value : Option Str} {n : Int} (h : parseSize value = .ok (some n)) : FloatSized n := by
  unfold parseSize at h
  split at h
  · cases h
  · obtain ⟨number, -, h⟩ := bind_eq_ok.mp h
    obtain ⟨exponent, -, h⟩ := bind_eq_ok.mp h
    obtain ⟨bytes, hbytes, h⟩ := bind_eq_ok.mp h
    cases h
    exact roundToInt_sized hbytes

omit [Unicode] in
/-- The share of what is used can always be taken. -/
theorem usedPercent_isOk (total : Option Int) {used : Option Int} (h : ∀ n, used = some n → FloatSized n) :
    (usedPercent total used).isOk = true := by
  unfold usedPercent
  split
  · rename_i t u
    split
    · rfl
    · rename_i hzero
      obtain ⟨share, hshare⟩ := isOk_iff.mp (trueDiv_of_sized (h u rfl) hzero)
      exact isOk_bind.mpr ⟨share, hshare, rfl⟩
  · rfl

/-! ## 3. Sections

Each section returns exactly when the conversions in it do.  The sections are independent: none
reads what another one made of its text. -/

/-- The sizes of the capacity section: their keys and labels. -/
def capacityLabels : List (String × String) := [
  ("total_bytes", "Disk Capacity"), ("available_bytes", "Available Disk Space"), ("free_bytes", "Free Space"),
  ("reclaimable_bytes", "Reclaimable Space"), ("used_bytes", "Used Disk Space"),
  ("deduplicated_bytes", "Deduplicated Data"), ("metadata_bytes", "System Metadata"),
  ("not_deduplicated_bytes", "Data Not Intended for Deduplication")]

/-- The sizes of the data reduction section. -/
def reductionLabels : List (String × String) := [
  ("before_bytes", "Data Size Before Reduction"), ("after_bytes", "Data Size After Reduction")]

/-- The ratios of the data reduction section. -/
def ratioLabels : List (String × String) := [
  ("total_reduction_ratio", "Total Reduction Ratio"), ("deduplication_ratio", "Deduplication Ratio"),
  ("compression_ratio", "Compression Ratio")]

/-- Every size a section shows was read under its label. -/
theorem parseCapacity_fields {text : Str} {capacity : Obj} (h : parseCapacity text = .ok capacity) :
    ∀ p ∈ capacityLabels, ∃ n, sizeField text p.2 = .ok n ∧ Obj.get capacity p.1 = Json.ofOption .int n := by
  obtain ⟨total, htotal, h⟩ := bind_eq_ok.mp h
  obtain ⟨available, havailable, h⟩ := bind_eq_ok.mp h
  obtain ⟨free, hfree, h⟩ := bind_eq_ok.mp h
  obtain ⟨reclaimable, hreclaimable, h⟩ := bind_eq_ok.mp h
  obtain ⟨used, hused, h⟩ := bind_eq_ok.mp h
  obtain ⟨deduplicated, hdeduplicated, h⟩ := bind_eq_ok.mp h
  obtain ⟨metadata, hmetadata, h⟩ := bind_eq_ok.mp h
  obtain ⟨notDeduplicated, hnot, h⟩ := bind_eq_ok.mp h
  obtain ⟨percent, -, h⟩ := bind_eq_ok.mp h
  cases h
  simp [capacityLabels, htotal, havailable, hfree, hreclaimable, hused, hdeduplicated, hmetadata, hnot]

theorem parseCapacity_isOk (text : Str) :
    (parseCapacity text).isOk = true ↔ ∀ p ∈ capacityLabels, (sizeField text p.2).isOk = true := by
  constructor
  · intro h p hp
    obtain ⟨capacity, hcapacity⟩ := isOk_iff.mp h
    obtain ⟨n, hn, -⟩ := parseCapacity_fields hcapacity p hp
    exact isOk_iff.mpr ⟨n, hn⟩
  · intro h
    simp only [capacityLabels, List.forall_mem_cons, isOk_iff] at h
    obtain ⟨⟨_, htotal⟩, ⟨_, havailable⟩, ⟨_, hfree⟩, ⟨_, hreclaimable⟩, ⟨used, hused⟩, ⟨_, hdeduplicated⟩,
      ⟨_, hmetadata⟩, ⟨_, hnot⟩, -⟩ := h
    obtain ⟨percent, hpercent⟩ := isOk_iff.mp (usedPercent_isOk _ fun n hn => parseSize_sized (hused.trans (congrArg Except.ok hn)))
    exact isOk_bind.mpr ⟨_, htotal, isOk_bind.mpr ⟨_, havailable, isOk_bind.mpr ⟨_, hfree, isOk_bind.mpr
      ⟨_, hreclaimable, isOk_bind.mpr ⟨_, hused, isOk_bind.mpr ⟨_, hdeduplicated, isOk_bind.mpr ⟨_, hmetadata,
      isOk_bind.mpr ⟨_, hnot, isOk_bind.mpr ⟨_, hpercent, rfl⟩⟩⟩⟩⟩⟩⟩⟩⟩

/-- A size of the data reduction section was read under its label, and so was a ratio. -/
theorem parseDataReduction_fields {text : Str} {reduction : Obj} (h : parseDataReduction text = .ok reduction) :
    (∀ p ∈ reductionLabels, ∃ n, sizeField text p.2 = .ok n ∧ Obj.get reduction p.1 = Json.ofOption .int n) ∧
      ∀ p ∈ ratioLabels, Obj.get reduction p.1 = Json.ofOption .float (ratioField text p.2) := by
  obtain ⟨before, hbefore, h⟩ := bind_eq_ok.mp h
  obtain ⟨after, hafter, h⟩ := bind_eq_ok.mp h
  cases h
  simp [reductionLabels, ratioLabels, hbefore, hafter]

theorem parseDataReduction_isOk (text : Str) :
    (parseDataReduction text).isOk = true ↔ ∀ p ∈ reductionLabels, (sizeField text p.2).isOk = true := by
  constructor
  · intro h p hp
    obtain ⟨reduction, hreduction⟩ := isOk_iff.mp h
    obtain ⟨n, hn, -⟩ := (parseDataReduction_fields hreduction).1 p hp
    exact isOk_iff.mpr ⟨n, hn⟩
  · intro h
    simp only [reductionLabels, List.forall_mem_cons, isOk_iff] at h
    obtain ⟨⟨_, hbefore⟩, ⟨_, hafter⟩, -⟩ := h
    exact isOk_bind.mpr ⟨_, hbefore, isOk_bind.mpr ⟨_, hafter, rfl⟩⟩

theorem speedNumber_isOk (record : Record) :
    (speedNumber record).isOk = true ↔ ∀ speed, speedOf record = some speed → DecimalText speed := by
  unfold speedNumber
  cases hspeed : speedOf record with
  | none => exact ⟨fun _ _ h => (nomatch h), fun _ => rfl⟩
  | some speed =>
    obtain ⟨hfigures, hsome⟩ := speedOf_figures hspeed
    dsimp only
    rw [if_neg (by rw [hsome]; decide), isOk_map, floatOf_isOk, parseFloat_figures hfigures]
    constructor
    · intro h s hs
      rw [← Option.some.inj hs]
      exact h
    · intro h
      exact h speed rfl

theorem interfaceRow_isOk (record : Record) :
    (interfaceRow record).isOk = true ↔ ∀ speed, speedOf record = some speed → DecimalText speed := by
  rw [← speedNumber_isOk, interfaceRow, isOk_bind, isOk_iff]
  constructor
  · rintro ⟨speed, hspeed, -⟩
    exact ⟨speed, hspeed⟩
  · rintro ⟨speed, hspeed⟩
    exact ⟨speed, hspeed, rfl⟩

theorem parseInterfaces_isOk (text : Str) : (parseInterfaces text).isOk = true ↔
    ∀ record ∈ parseRecords text, isInterface record = true → ∀ speed, speedOf record = some speed → DecimalText speed := by
  unfold parseInterfaces
  rw [isOk_mapM]
  simp only [List.mem_filter, interfaceRow_isOk, and_imp]

/-! ## 4. States and counts

Indices into tables that always succeed.  The invariant of the hardware pass is that the worst
status has a rank, that of the tickets that every severity has a counter. -/

theorem item_of_isSome {ν : Type} {d : Dict Str ν} {k : Str} (h : (Dict.get? d k).isSome = true) : ∃ v, item d k = .ok v :=
  isOk_iff.mp ((item_isOk d k).trans h)

/-- A normalized status has a rank. -/
theorem normalizeStatus_ranked (value : Str) : (Dict.get? statusRank (normalizeStatus value)).isSome = true := by
  unfold normalizeStatus
  dsimp only
  split
  · decide
  · split
    · decide
    · split <;> decide

/-- The worst status so far keeps having a rank. -/
theorem hardwareStep_ranked (state : Str × Bool) (record : Record) (h : (Dict.get? statusRank state.1).isSome = true) :
    ∃ state', hardwareStep state record = .ok state' ∧ (Dict.get? statusRank state'.1).isSome = true := by
  unfold hardwareStep
  cases Dict.get? record "Status" with
  | none => exact ⟨state, rfl, h⟩
  | some status =>
    dsimp only
    obtain ⟨rank, hrank⟩ := item_of_isSome (normalizeStatus_ranked status)
    obtain ⟨worst, hworst⟩ := item_of_isSome h
    refine ⟨_, bind_eq_ok.mpr ⟨rank, hrank, bind_eq_ok.mpr ⟨worst, hworst, rfl⟩⟩, ?_⟩
    dsimp only
    split
    · exact normalizeStatus_ranked status
    · exact h

theorem overallHardwareState_isOk (hardware : Dict Str (List Record)) : (overallHardwareState hardware).isOk = true := by
  obtain ⟨state, hstate⟩ := isOk_iff.mp (isOk_foldlM_of_invariant
    (P := fun state : Str × Bool => (Dict.get? statusRank state.1).isSome = true) hardwareStep_ranked
    (b := (lit "normal", false)) (by decide) (Dict.values hardware).flatten)
  exact isOk_bind.mpr ⟨state, hstate, rfl⟩

/-- What a ticket is counted under. -/
def severities : List Str := ["critical", "warning", "info", "unclassified"]

omit [Unicode] in
theorem severity_mem (priority : Str) : (Dict.get? priorityMap priority).getD "unclassified" ∈ severities := by
  cases h : Dict.get? priorityMap priority with
  | none => exact List.mem_of_getLast? rfl
  | some severity =>
    have hmem := List.mem_map_of_mem (f := Prod.snd) (Dict.mem_of_get? h)
    exact List.mem_of_mem_dropLast hmem

/-- Every severity keeps its counter. -/
theorem countTicket_counts (counts : Dict Str Nat) (ticket : Record) (h : ∀ s ∈ severities, (Dict.get? counts s).isSome = true) :
    ∃ counts', countTicket counts ticket = .ok counts' ∧ ∀ s ∈ severities, (Dict.get? counts' s).isSome = true := by
  obtain ⟨count, hcount⟩ := item_of_isSome (h _ (severity_mem (lower (Dict.get? ticket "Priority"))))
  refine ⟨_, bind_eq_ok.mpr ⟨count, hcount, rfl⟩, ?_⟩
  intro s hs
  rw [Dict.get?_set]
  split
  · rfl
  · exact h s hs

theorem alertCounts_isOk (adminAlerts tickets : List Record) : (alertCounts adminAlerts tickets).isOk = true := by
  obtain ⟨counts, hcounts⟩ := isOk_iff.mp (isOk_foldlM_of_invariant
    (P := fun counts : Dict Str Nat => ∀ s ∈ severities, (Dict.get? counts s).isSome = true) countTicket_counts
    (b := [(lit "critical", 0), (lit "warning", 0), (lit "info", 0), (lit "unclassified", adminAlerts.length)])
    (by simp [severities, Dict.get?_cons]) tickets)
  exact isOk_bind.mpr ⟨counts, hcounts, rfl⟩

/-! ## 5. The payload

The sections put together, and then the payload around them. -/

/-- No text of the commands is captured that its conversion does not accept.  One field for each
conversion that can raise; texts that are not captured put no condition on it. -/
structure Readable (outputs : Dict Str Str) : Prop where
  capacity : ∀ p ∈ capacityLabels, ∀ digits letters,
    (firstMatch (output outputs "capacity") [sizeLine p.2]).bind splitSize = some (digits, letters) → SizeReads digits letters
  reduction : ∀ p ∈ reductionLabels, ∀ digits letters,
    (firstMatch (output outputs "dedup") [sizeLine p.2]).bind splitSize = some (digits, letters) → SizeReads digits letters
  speeds : ∀ record ∈ parseRecords (output outputs "interfaces"), isInterface record = true →
    ∀ speed, speedOf record = some speed → DecimalText speed

/-- A field of a section of the summary. -/
def sectionField (summary : Obj) (name key : Str) : Json :=
  match Obj.get summary name with
  | .obj fields => Obj.get fields key
  | _ => .null

/-- The counts of a virtual library: their keys and the fields they are read from. -/
def vtlCounts : List (Str × Str) := [
  ("drive_count", "drives"), ("media_count", "media"), ("slot_count", "slots"), ("ie_slot_count", "ieslots")]

/-- The records of the virtual libraries. -/
def vtlRecords (text : Str) : List Record :=
  (parseRecords text).filter fun record : Record => (Dict.get? record "name").isSome

/-- The parts of a network configuration that are about an interface. -/
def interfaceBlocks (text : Str) : List Str := (splitPattern starLine text).filter fun block => (configuredRow block).isSome

/-- A field of the summary whose text does not match, or is not converted, is `None`. -/
structure UnreadIsNull (outputs : Dict Str Str) (summary : Obj) : Prop where
  capacity : ∀ p ∈ capacityLabels, firstMatch (output outputs "capacity") [sizeLine p.2] = none →
    sectionField summary "capacity" p.1 = .null
  reduction : ∀ p ∈ reductionLabels, firstMatch (output outputs "dedup") [sizeLine p.2] = none →
    sectionField summary "data_reduction" p.1 = .null
  ratio : ∀ p ∈ ratioLabels, ratioField (output outputs "dedup") p.2 = none →
    sectionField summary "data_reduction" p.1 = .null
  percent : firstMatch (output outputs "capacity") [sizeLine "Disk Capacity"] = none ∨
      firstMatch (output outputs "capacity") [sizeLine "Used Disk Space"] = none →
    sectionField summary "capacity" "used_percent" = .null
  counts : List.Forall₂ (fun record row => ∀ p ∈ vtlCounts, int (Dict.get? record p.2) = none → Obj.get row p.1 = .null)
    (vtlRecords (output outputs "vtls")) (rowsOf summary "vtls")
  speeds : List.Forall₂ (fun record row => speedOf record = none → Obj.get row "speed_bps" = .null)
    ((parseRecords (output outputs "interfaces")).filter isInterface) (rowsOf summary "interfaces")
  mtus : List.Forall₂ (fun block row => int (firstMatch block [mtuLine]) = none → Obj.get row "mtu" = .null)
    (interfaceBlocks (output outputs "network_config")) (rowsOf (sectionOf summary "network") "configured_interfaces")

/-- A size that does not match is not converted. -/
theorem sizeField_of_unmatched {text : Str} {label : String} {n : Option Int} (hnone : firstMatch text [sizeLine label] = none)
    (h : sizeField text label = .ok n) : n = none := by
  unfold sizeField at h
  rw [hnone] at h
  cases h
  rfl

/-- Without a total or without what is used there is no share. -/
theorem parseCapacity_percent {text : Str} {capacity : Obj} (h : parseCapacity text = .ok capacity)
    (hunread : firstMatch text [sizeLine "Disk Capacity"] = none ∨ firstMatch text [sizeLine "Used Disk Space"] = none) :
    Obj.get capacity "used_percent" = .null := by
  obtain ⟨total, htotal, h⟩ := bind_eq_ok.mp h
  obtain ⟨available, -, h⟩ := bind_eq_ok.mp h
  obtain ⟨free, -, h⟩ := bind_eq_ok.mp h
  obtain ⟨reclaimable, -, h⟩ := bind_eq_ok.mp h
  obtain ⟨used, hused, h⟩ := bind_eq_ok.mp h
  obtain ⟨deduplicated, -, h⟩ := bind_eq_ok.mp h
  obtain ⟨metadata, -, h⟩ := bind_eq_ok.mp h
  obtain ⟨notDeduplicated, -, h⟩ := bind_eq_ok.mp h
  obtain ⟨percent, hpercent, h⟩ := bind_eq_ok.mp h
  have hnone : percent = none := by
    rcases hunread with hnone | hnone
    · obtain rfl := sizeField_of_unmatched hnone htotal
      exact (Except.ok.inj hpercent).symm
    · obtain rfl := sizeField_of_unmatched hnone hused
      cases total with
      | none => exact (Except.ok.inj hpercent).symm
      | some t => exact (Except.ok.inj hpercent).symm
  rw [← Except.ok.inj h, hnone]
  simp [Json.ofOption]

/-- The row of a virtual library has no count that was not converted. -/
theorem vtlRow_counts (record : Record) : ∀ p ∈ vtlCounts, int (Dict.get? record p.2) = none →
    Obj.get (vtlRow record) p.1 = .null := by
  simp only [vtlCounts, List.forall_mem_cons, List.not_mem_nil, false_imp_iff, implies_true, and_true]
  refine ⟨fun h => ?_, fun h => ?_, fun h => ?_, fun h => ?_⟩
  all_goals simp [vtlRow, h, Json.ofOption]

/-- The row of an interface has no speed where none is matched. -/
theorem interfaceRow_speed {record : Record} {row : Obj} (h : interfaceRow record = .ok row) (hnone : speedOf record = none) :
    Obj.get row "speed_bps" = .null := by
  obtain ⟨speed, hspeed, h⟩ := bind_eq_ok.mp h
  unfold speedNumber at hspeed
  rw [hnone] at hspeed
  rw [← Except.ok.inj h, ← Except.ok.inj hspeed]
  simp [Json.ofOption]

/-- The rows of the configured interfaces are those of the blocks that are about one. -/
theorem configuredRows_mtu (blocks : List Str) :
    List.Forall₂ (fun block row => int (firstMatch block [mtuLine]) = none → Obj.get row "mtu" = .null)
      (blocks.filter fun block => (configuredRow block).isSome) (blocks.filterMap configuredRow) := by
  induction blocks with
  | nil => exact List.Forall₂.nil
  | cons block blocks ih =>
    cases hrow : configuredRow block with
    | none => rwa [List.filter_cons_of_neg (by rw [hrow]; decide), List.filterMap_cons_none hrow]
    | some row =>
      rw [List.filter_cons_of_pos (by rw [hrow]; rfl), List.filterMap_cons_some hrow]
      refine List.Forall₂.cons (fun hnone => ?_) ih
      unfold configuredRow at hrow
      split at hrow
      · cases hrow
      · dsimp only at hrow
        split at hrow
        · cases hrow
        · rw [← Option.some.inj hrow, hnone]
          simp [Json.ofOption]

/-- The parser returns exactly on readable texts. -/
theorem parseDxiCliOutputs_isOk (outputs : Dict Str Str) (fallbackName : Str) :
    (parseDxiCliOutputs outputs fallbackName).isOk = true ↔ Readable outputs := by
  have hsplit : (parseDxiCliOutputs outputs fallbackName).isOk = true ↔
      (parseDataReduction (output outputs "dedup")).isOk = true ∧ (parseCapacity (output outputs "capacity")).isOk = true ∧
        (parseInterfaces (output outputs "interfaces")).isOk = true := by
    constructor
    · intro h
      obtain ⟨state, -, h⟩ := isOk_bind.mp h
      obtain ⟨reduction, hreduction, h⟩ := isOk_bind.mp h
      obtain ⟨counts, -, h⟩ := isOk_bind.mp h
      obtain ⟨capacity, hcapacity, h⟩ := isOk_bind.mp h
      obtain ⟨interfaces, hinterfaces, -⟩ := isOk_bind.mp h
      exact ⟨isOk_iff.mpr ⟨_, hreduction⟩, isOk_iff.mpr ⟨_, hcapacity⟩, isOk_iff.mpr ⟨_, hinterfaces⟩⟩
    · rintro ⟨hreduction, hcapacity, hinterfaces⟩
      obtain ⟨state, hstate⟩ := isOk_iff.mp (overallHardwareState_isOk _)
      obtain ⟨reduction, hreduction⟩ := isOk_iff.mp hreduction
      obtain ⟨counts, hcounts⟩ := isOk_iff.mp (alertCounts_isOk _ _)
      obtain ⟨capacity, hcapacity⟩ := isOk_iff.mp hcapacity
      obtain ⟨interfaces, hinterfaces⟩ := isOk_iff.mp hinterfaces
      exact isOk_bind.mpr ⟨state, hstate, isOk_bind.mpr ⟨reduction, hreduction, isOk_bind.mpr ⟨counts, hcounts,
        isOk_bind.mpr ⟨capacity, hcapacity, isOk_bind.mpr ⟨interfaces, hinterfaces, rfl⟩⟩⟩⟩⟩
  rw [hsplit, parseDataReduction_isOk, parseCapacity_isOk, parseInterfaces_isOk]
  simp only [sizeField, parseSize_isOk]
  constructor
  · rintro ⟨hreduction, hcapacity, hspeeds⟩
    exact ⟨hcapacity, hreduction, hspeeds⟩
  · rintro ⟨hcapacity, hreduction, hspeeds⟩
    exact ⟨hreduction, hcapacity, hspeeds⟩

/-- What is not matched is not in the summary: its field is `None`, for every size, ratio, share,
count, speed and MTU. -/
theorem unread_is_null {outputs : Dict Str Str} {fallbackName : Str} {summary : Obj}
    (h : parseDxiCliOutputs outputs fallbackName = .ok summary) : UnreadIsNull outputs summary := by
  obtain ⟨state, -, h⟩ := bind_eq_ok.mp h
  obtain ⟨reduction, hreduction, h⟩ := bind_eq_ok.mp h
  obtain ⟨counts, -, h⟩ := bind_eq_ok.mp h
  obtain ⟨capacity, hcapacity, h⟩ := bind_eq_ok.mp h
  obtain ⟨interfaces, hinterfaces, h⟩ := bind_eq_ok.mp h
  have hvtls : rowsOf summary "vtls" = parseVtls (output outputs "vtls") := by
    rw [← Except.ok.inj h]
    exact rowsOf_eq (by simp)
  have hrows : rowsOf summary "interfaces" = interfaces := by
    rw [← Except.ok.inj h]
    exact rowsOf_eq (by simp)
  have hconfigured : rowsOf (sectionOf summary "network") "configured_interfaces" =
      (splitPattern starLine (output outputs "network_config")).filterMap configuredRow := by
    rw [← Except.ok.inj h]
    exact rowsOf_eq (by simp [sectionOf, Json.asObj?, parseNetworkConfig])
  cases h
  constructor
  · intro p hp hnone
    obtain ⟨n, hn, hfield⟩ := parseCapacity_fields hcapacity p hp
    obtain rfl := sizeField_of_unmatched hnone hn
    simpa [sectionField, Json.ofOption] using hfield
  · intro p hp hnone
    obtain ⟨n, hn, hfield⟩ := (parseDataReduction_fields hreduction).1 p hp
    obtain rfl := sizeField_of_unmatched hnone hn
    simpa [sectionField, Json.ofOption] using hfield
  · intro p hp hnone
    have hfield := (parseDataReduction_fields hreduction).2 p hp
    rw [hnone] at hfield
    simpa [sectionField, Json.ofOption] using hfield
  · intro hunread
    simpa [sectionField] using parseCapacity_percent hcapacity hunread
  · rw [hvtls]
    unfold parseVtls vtlRecords
    rw [List.forall₂_map_right_iff, List.forall₂_same]
    exact fun record _ => vtlRow_counts record
  · rw [hrows]
    exact (mapM_eq_ok.mp hinterfaces).imp fun _ _ hrow => interfaceRow_speed hrow
  · rw [hconfigured]
    exact configuredRows_mtu _

/-- The parser returns a summary without what it could not read, and the payload holds the summary
and the raw text of every command. -/
def Delivers (outputs : Dict Str Str) (errors : Obj) (name : Str) : Prop :=
  ∃ summary payload, parseDxiCliOutputs outputs name = .ok summary ∧ UnreadIsNull outputs summary ∧
    collectPayload ⟨outputs, errors⟩ name = .ok payload ∧ Obj.get payload "summary" = .obj summary ∧
    Obj.get payload "raw" = .obj [("cli", textsJson outputs)]

/-- **The raw text of every command reaches the payload exactly when the texts are readable.**  A
command that failed has an empty text here, and is readable. -/
theorem payload_iff (outputs : Dict Str Str) (errors : Obj) (name : Str) :
    Delivers outputs errors name ↔ Readable outputs := by
  rw [← parseDxiCliOutputs_isOk outputs name, isOk_iff]
  constructor
  · rintro ⟨summary, _, h, -⟩
    exact ⟨summary, h⟩
  · rintro ⟨summary, h⟩
    refine ⟨summary, _, h, unread_is_null h, bind_eq_ok.mpr ⟨summary, h, rfl⟩, ?_, ?_⟩
    · simp
    · simp

end Collector

section OneText

attribute [local instance] Unicode.ascii

/-- A capacity with two points, which the expression accepts and `float` does not. -/
theorem dotted_capacity_raises : ¬ ∀ (outputs : Dict Str Str) (errors : Obj) (name : Str), Delivers outputs errors name := by
  intro h
  obtain ⟨summary, -, hparse, -⟩ := h [("capacity", "Disk Capacity = 1.2.3 TB")] [] "DXi_1"
  have hraises : (parseDxiCliOutputs [("capacity", "Disk Capacity = 1.2.3 TB")] "DXi_1").isOk = false := by decide +kernel
  rw [hparse] at hraises
  cases hraises

end OneText

end BackupCollector.DxiCli
