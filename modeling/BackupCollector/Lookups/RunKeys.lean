/-
# The two run keys of an action job

A job-run document names the workflow run its job belongs to (`workflow_run_key`, built by the
derived processor), and the lookup names the run of the action it has selected
(`action_workflow_run_key`, built from what `read_job` accepted).  Rows are joined on the two, so
both sides have to accept the same ids and spell them alike.

Each side has its own rule for an id.  The processor wants a text of ASCII digits that are not all
zero; the lookup wants one that starts with a digit other than zero.  `accepts_iff` is the
difference between the two rules, `workflowRunKey_eq` brings the processor's key to the form the
lookup's has, and `runKeyAgrees_iff` says when the keys of a job agree: exactly when its id is not
written with zeros in front.

Two more things could go wrong and do not.  The source is a part of both keys and is normalized by
each side with its own functions, which agree on valid sources (`lower_string_source`); and the
separator does not occur in a source or in an id, so two keys are equal only when their parts are.

The statement is about one job and the key of its workflow run.  That the two SIDES see the same
jobs is another matter.
-/
import BackupCollector.Lookups.Build
import BackupCollector.Processors.NetworkerDocuments
import BackupCollector.Py.Sha256

namespace BackupCollector

open Py

/-! ## 1. The rules for an id

The two rules, as predicates on the trimmed text of an id. -/

/-- The trimmed text of an id; neither side takes anything but a text or an integer. -/
def idText : Json → Option Str
  | .str s => some (Str.strip s)
  | .int n => some (Str.strip (Str.ofInt n))
  | _ => none

/-- The rule of `_workflow_run_key`: ASCII digits, and not all of them zero. -/
def isNonzeroDigits (text : Str) : Bool :=
  !(text.isEmpty || !isAscii text || !text.all isAsciiDigit || text.all (fun c => decide (c = chr '0')))

/-- A number written with zeros in front. -/
def isZeroPadded (text : Str) : Bool :=
  text.all isAsciiDigit && decide (text.head? = some (chr '0')) && !text.all (fun c => decide (c = chr '0'))

theorem isAscii_of_digits {text : Str} (h : text.all isAsciiDigit = true) : isAscii text = true := by
  refine List.all_eq_true.mpr fun c hc => ?_
  have hdigit := List.all_eq_true.mp h c hc
  simp only [isAsciiDigit, Bool.and_eq_true, decide_eq_true_eq] at hdigit
  exact decide_eq_true (by omega)

theorem not_isZeroPadded_of_isPositiveDecimal {text : Str} (h : isPositiveDecimal text = true) :
    isZeroPadded text = false := by
  cases text with
  | nil => cases h
  | cons c cs =>
    simp only [isPositiveDecimal, Bool.and_eq_true, decide_eq_true_eq] at h
    have hhead : ¬ (c :: cs).head? = some (chr '0') := fun hc => h.2 (Option.some.inj hc)
    simp only [isZeroPadded, decide_eq_false hhead, Bool.and_false, Bool.false_and]

/-- What the processor accepts and the lookup does not are exactly the zero padded numbers. -/
theorem accepts_iff (text : Str) :
    isNonzeroDigits text = true ↔ isPositiveDecimal text = true ∨ isZeroPadded text = true := by
  cases text with
  | nil => decide
  | cons c cs =>
    by_cases hdigits : (c :: cs).all isAsciiDigit = true
    · have hascii := isAscii_of_digits hdigits
      simp only [isNonzeroDigits, isPositiveDecimal, isZeroPadded, hdigits, hascii, List.isEmpty_cons, Bool.not_true,
        Bool.false_or, Bool.true_and, List.head?_cons]
      by_cases hc : c = chr '0'
      · simp [hc]
      · simp [hc]
    · have hdigits' := Bool.eq_false_iff.mpr hdigits
      simp only [isNonzeroDigits, isPositiveDecimal, isZeroPadded, hdigits', Bool.not_false, Bool.or_true,
        Bool.true_or, Bool.not_true, Bool.false_and, Bool.false_eq_true, or_false]

/-- `positive_id` through the trimmed text. -/
theorem positiveId_eq {value : Json} (h : value.printable = true) :
    positiveId value = .ok ((idText value).filter isPositiveDecimal) := by
  cases value with
  | str s => simp only [positiveId, positiveIdText, idText, Option.filter_some]
  | int n =>
    have hshort : ¬ 4300 < (Str.ofNat n.natAbs).length := by
      have := of_decide_eq_true h
      omega
    simp only [positiveId, if_neg hshort, positiveIdText, idText, Option.filter_some]
  | _ => rfl

/-- An id written with zeros in front. -/
def zeroPaddedId (value : Json) : Bool := (idText value).any isZeroPadded

/-- Both rules take the same of an id that is not zero padded. -/
theorem filter_isNonzeroDigits {value : Json} (h : zeroPaddedId value = false) :
    (idText value).filter isNonzeroDigits = (idText value).filter isPositiveDecimal := by
  unfold zeroPaddedId at h
  cases ht : idText value with
  | none => rfl
  | some text =>
    rw [ht, Option.any_some] at h
    have hsame : isNonzeroDigits text = isPositiveDecimal text := by
      rw [Bool.eq_iff_iff, accepts_iff, h]
      simp
    rw [Option.filter_some, Option.filter_some, hsame]

/-- A zero padded id is the processor's alone. -/
theorem filter_of_zeroPaddedId {value : Json} (h : zeroPaddedId value = true) :
    ∃ text, (idText value).filter isNonzeroDigits = some text ∧ (idText value).filter isPositiveDecimal = none := by
  unfold zeroPaddedId at h
  cases ht : idText value with
  | none =>
    rw [ht] at h
    cases h
  | some text =>
    have hpadded : isZeroPadded text = true := by rwa [ht] at h
    have hnonzero : isNonzeroDigits text = true := (accepts_iff text).mpr (Or.inr hpadded)
    have hpositive : ¬ isPositiveDecimal text = true := by
      intro hp
      rw [not_isZeroPadded_of_isPositiveDecimal hp] at hpadded
      cases hpadded
    exact ⟨text, by rw [Option.filter_some, if_pos hnonzero], by rw [Option.filter_some, if_neg hpositive]⟩

/-! ## 2. The key of the processor

A workflow is a run of its own; an action and a save job belong to the run of their root. -/

section
variable [Unicode]

/-- The id a run key is made from: a workflow's own, and the root of what runs below one. -/
def runIdOf (job : Obj) : Json :=
  let jobType := Str.lower (string (Obj.get job "type"))
  if jobType = lit "workflow job" then Obj.get job "job_id"
  else if jobType = lit "backup action job" ∨ jobType = lit "save job" then Obj.get job "root_parent_job_id"
  else .null

/-- The processor reads a valid source as the classifier does. -/
theorem lower_string_source {value : Json} {source : Source} (h : validateSourceNetworker value = .ok source) :
    Str.lower (string value) = source.name := by
  unfold validateSourceNetworker at h
  extract_lets name at h
  split at h
  · obtain rfl := Except.ok.inj h
    rename_i hknown
    cases value with
    | str s => rfl
    | _ => exact absurd (show ([] : Str) ∈ sourceNames from hknown) (by decide)
  · cases h

omit [Unicode] in
/-- A source has nothing in it that the key's separator could be mistaken for. -/
theorem Source.unambiguous (s : Source) :
    (s.name.isEmpty || s.name.contains (chr ':') || s.name.any Str.isSpace) = false := by
  rcases s.cases with h | h | h <;> rw [h] <;> decide

/-- The key of a job with a valid source: the source and the id, when the rule accepts it. -/
theorem workflowRunKey_eq {job : Obj} {source : Source}
    (hs : validateSourceNetworker (Obj.get job "source_networker") = .ok source) :
    workflowRunKey job =
      match (idText (runIdOf job)).filter isNonzeroDigits with
      | some text => ActionKey.text (source, text)
      | none => [] := by
  unfold workflowRunKey
  extract_lets name jobType value identity
  have hname : name = source.name := lower_string_source hs
  have hvalue : value = runIdOf job := rfl
  have hidentity : identity = Str.strip (Json.toStr value) := rfl
  rw [hname, if_neg (by rw [source.unambiguous]; exact Bool.false_ne_true), ← hvalue, hidentity]
  clear_value identity value
  have hcases : ∀ text : Str,
      (if (text.isEmpty || !isAscii text || !text.all isAsciiDigit ||
          text.all fun c => decide (c = chr '0')) = true then []
        else source.name ++ lit ":" ++ text) =
      match (some text).filter isNonzeroDigits with
      | some text => ActionKey.text (source, text)
      | none => [] := by
    intro text
    rw [Option.filter_some, isNonzeroDigits]
    cases (text.isEmpty || !isAscii text || !text.all isAsciiDigit ||
      text.all fun c => decide (c = chr '0')) <;> rfl
  cases value with
  | str s => exact hcases (Str.strip s)
  | int n => exact hcases (Str.strip (Str.ofInt n))
  | _ => rfl

/-! ## 3. The key of the lookup

What `read_job` accepts of a document.  It raises at ids that are none, and then there is no key on
this side. -/

/-- What an accepted copy keeps of its document: the source, the kind and the root. -/
theorem readJob_eq_ok {hit : Json} {read : Job} (h : readJob hit = .ok read) :
    ∃ document reference payload kind, unwrap hit = .ok (document, reference) ∧
      sourceOf document false = .ok read.source ∧ Obj.get document "payload" = .obj payload ∧
      Obj.get payload "type" = .str kind ∧ read.kind = Str.lower (Str.strip kind) ∧
      positiveId (Obj.get payload "root_parent_job_id") = .ok read.root := by
  unfold readJob at h
  obtain ⟨⟨document, reference⟩, hunwrap, h⟩ := bind_eq_ok.mp h
  obtain ⟨source, hsource, h⟩ := bind_eq_ok.mp h
  split at h
  · rename_i payload hpayload
    split at h
    · cases h
    obtain ⟨identity, -, h⟩ := bind_eq_ok.mp h
    cases identity with
    | none => cases h
    | some identity =>
      dsimp only at h
      split at h
      · rename_i kind status hkind hstatus
        obtain ⟨parent, -, h⟩ := bind_eq_ok.mp h
        obtain ⟨root, hroot, h⟩ := bind_eq_ok.mp h
        obtain rfl := Except.ok.inj h
        exact ⟨document, reference, payload, kind, hunwrap, hsource, hpayload, hkind, rfl, hroot⟩
      · cases h
  · cases h

/-- A document whose own source is valid is read under that source. -/
theorem sourceOf_of_top {document : Obj} {source found : Source}
    (hs : validateSourceNetworker (Obj.get document "source_networker") = .ok source)
    (h : sourceOf document false = .ok found) : found = source := by
  have hne : Obj.get document "source_networker" ≠ .null := by
    intro hnull
    rw [hnull] at hs
    cases hs
  unfold sourceOf at h
  obtain ⟨sources, hsources, h⟩ := bind_eq_ok.mp h
  unfold statedSources at hsources
  dsimp only at hsources
  rw [List.filter_cons_of_pos (by simpa using hne)] at hsources
  have hzip := mapM_eq_ok.mp hsources
  cases hzip with
  | cons hfirst _ =>
    rw [hs] at hfirst
    obtain rfl := Except.ok.inj hfirst
    dsimp only at h
    split at h
    · exact (Except.ok.inj h).symm
    · cases h

/-! ## 4. When the two agree

The job, the document the processor makes of it, and what the lookup reads from that. -/

omit [Unicode] in
/-- The run key a row is joined on: an empty text joins no more than a null. -/
def joinKey : Json → Option Str
  | .str [] => none
  | .str key => some key
  | _ => none

variable [Hashlib]

/-- What the join relies on for one job of a source: both sides take the same ids, spell them
alike, and a key names one run. -/
structure RunKeyAgrees (job : Obj) (source : Source) : Prop where
  /-- The job has a key exactly when `positive_id` accepts the id it is made from. -/
  accepted : workflowRunKey job ≠ [] ↔ ∃ id, positiveId (runIdOf job) = .ok (some id)
  /-- The key is the source and that id. -/
  spelled : ∀ id, positiveId (runIdOf job) = .ok (some id) → workflowRunKey job = ActionKey.text (source, id)
  /-- When the lookup reads the job-run document of an action and selects it, it shows the key the document
  carries. -/
  joined : ∀ rawDocument record hit reference read, jobRunRecord job = .ok (some record) →
    unwrap hit = .ok (jobRunDocument rawDocument record, reference) → readJob hit = .ok read →
    read.kind = actionType →
    ∀ (b : Builder) synced coverage generation limit d,
      (b.verdict (read.source, read.identity) synced coverage).action = some read →
      b.document (read.source, read.identity) synced coverage generation limit = .ok d →
      joinKey (Obj.get d "action_workflow_run_key") = joinKey (Obj.get record "workflow_run_key")
  /-- No other job has the same key but one of the same source and the same accepted id. -/
  unique : ∀ other otherSource, validateSourceNetworker (Obj.get other "source_networker") = .ok otherSource →
    (runIdOf other).printable = true → workflowRunKey other = workflowRunKey job → workflowRunKey job ≠ [] →
    otherSource = source ∧
      ∃ id, positiveId (runIdOf job) = .ok (some id) ∧ positiveId (runIdOf other) = .ok (some id)

omit [Unicode] [Hashlib] in
theorem ActionKey.text_ne_nil (key : ActionKey) : key.text ≠ [] := by
  unfold ActionKey.text
  exact List.append_ne_nil_of_left_ne_nil (List.append_ne_nil_of_right_ne_nil _ (List.cons_ne_nil _ _)) _

omit [Hashlib] in
/-- The derived key of a job whose id is not zero padded is what `positive_id` makes of the id. -/
theorem workflowRunKey_canonical {job : Obj} {source : Source}
    (hs : validateSourceNetworker (Obj.get job "source_networker") = .ok source)
    (h : zeroPaddedId (runIdOf job) = false) :
    workflowRunKey job =
      match (idText (runIdOf job)).filter isPositiveDecimal with
      | some id => ActionKey.text (source, id)
      | none => [] := by
  rw [workflowRunKey_eq hs, filter_isNonzeroDigits h]

omit [Hashlib] in
/-- What the lookup reads of the job-run document of an action job. -/
theorem readJob_jobRunDocument {job rawDocument record reference : Obj} {source : Source} {hit : Json} {read : Job}
    (hs : validateSourceNetworker (Obj.get job "source_networker") = .ok source)
    (hrecord : jobRunRecord job = .ok (some record))
    (hunwrap : unwrap hit = .ok (jobRunDocument rawDocument record, reference)) (hread : readJob hit = .ok read)
    (hkind : read.kind = actionType) :
    read.source = source ∧ positiveId (runIdOf job) = .ok read.root := by
  obtain ⟨startTime, endTime, event, duration, -, -, -, rfl⟩ := jobRunRecord_eq_some hrecord
  have hdocument := (jobRunDocument_monthly rawDocument (jobRun job startTime endTime event duration)
    (get_jobRun_month job startTime endTime event duration)).toDocumentOf
  obtain ⟨document, reference', payload, kind, hunwrap', hsource, hpayload, htype, hkind', hroot⟩ := readJob_eq_ok hread
  obtain ⟨rfl, -⟩ := Prod.mk.inj (Except.ok.inj (hunwrap.symm.trans hunwrap'))
  obtain rfl := Json.obj.inj (hdocument.payload.symm.trans hpayload)
  rw [get_jobRun _ _ _ _ _ (by decide)] at htype hroot
  have hid : runIdOf job = Obj.get job "root_parent_job_id" := by
    have hlower : Str.lower (string (Obj.get job "type")) = lit "backup action job" := by
      rw [htype]
      exact hkind'.symm.trans hkind
    unfold runIdOf
    rw [hlower]
    rfl
  refine ⟨sourceOf_of_top ?_ hsource, by rw [hid, hroot]⟩
  rw [hdocument.source_networker, get_jobRun _ _ _ _ _ (by decide), hs]

/-- **The run keys.**  For a job of a valid source everything the join relies on holds exactly when
the id its key is made from is not written with zeros in front.  An integer is one `json.loads`
reads: it refuses those of more than 4300 digits. -/
theorem runKeyAgrees_iff {job : Obj} {source : Source}
    (hs : validateSourceNetworker (Obj.get job "source_networker") = .ok source)
    (hp : (runIdOf job).printable = true) :
    RunKeyAgrees job source ↔ zeroPaddedId (runIdOf job) = false := by
  constructor
  · intro hagrees
    by_contra hpadded
    obtain ⟨text, hnonzero, hnone⟩ := filter_of_zeroPaddedId (Bool.eq_true_of_not_eq_false hpadded)
    have hkey : workflowRunKey job = ActionKey.text (source, text) := by rw [workflowRunKey_eq hs, hnonzero]
    obtain ⟨id, hid⟩ := hagrees.accepted.mp (by rw [hkey]; exact ActionKey.text_ne_nil _)
    rw [positiveId_eq hp, hnone] at hid
    cases hid
  · intro hpadded
    have hkey := workflowRunKey_canonical hs hpadded
    have hid := positiveId_eq hp
    generalize hfound : (idText (runIdOf job)).filter isPositiveDecimal = found at hkey hid
    refine ⟨?_, ?_, ?_, ?_⟩
    · cases found with
      | none => simp [hkey, hid]
      | some id => simp [hkey, hid, ActionKey.text_ne_nil]
    · intro id hid'
      obtain rfl := Except.ok.inj (hid.symm.trans hid')
      exact hkey
    · intro rawDocument record hit reference read hrecord hunwrap hread hkind b synced coverage generation limit d
        haction hd
      obtain ⟨rfl, hroot⟩ := readJob_jobRunDocument hs hrecord hunwrap hread hkind
      obtain rfl := Except.ok.inj (hid.symm.trans hroot)
      obtain ⟨startTime, endTime, event, duration, -, -, -, rfl⟩ := jobRunRecord_eq_some hrecord
      have hderived : Obj.get (jobRun job startTime endTime event duration) "workflow_run_key" =
          .str (workflowRunKey job) := by
        simp [jobRun, Obj.get_set]
      have hshown := (document_shown hd).workflow
      rw [haction] at hshown
      rw [hderived, hkey, Obj.get, hshown, Option.getD_some, Option.bind_some]
      cases read.root with
      | none => rfl
      | some root => rfl
    · intro other otherSource hos hop heq hne
      cases found with
      | none => exact absurd hkey hne
      | some id =>
        have hother := workflowRunKey_eq hos
        cases hfound' : (idText (runIdOf other)).filter isNonzeroDigits with
        | none =>
          rw [hfound', heq] at hother
          exact absurd hother hne
        | some id' =>
          rw [hfound', heq, hkey] at hother
          obtain ⟨rfl, rfl⟩ := Prod.mk.inj (Builder.text_injective hother)
          have hpositive := (Option.filter_eq_some_iff.mp hfound).2
          have htext := (Option.filter_eq_some_iff.mp hfound').1
          exact ⟨rfl, id, hid, by rw [positiveId_eq hop, htext, Option.filter_some, if_pos hpositive]⟩

end

section
attribute [local instance] Unicode.ascii Hashlib.hashlib

/-- An action job below the root it is given. -/
def actionBelow (root : Json) : Obj := [
  ("job_id", .str "1302"),
  ("type", .str "Backup Action Job"),
  ("source_networker", .str " Core "),
  ("root_parent_job_id", root)]

/-- The source of those jobs. -/
def coreSource : Source := ⟨"core", core_known⟩

theorem runKeyAgrees_action :
    RunKeyAgrees (actionBelow (.int 1300)) coreSource ↔ zeroPaddedId (runIdOf (actionBelow (.int 1300))) = false :=
  runKeyAgrees_iff (by decide +kernel) (by decide +kernel)

/-- A root `0012` makes a key in the derived document that the lookup never shows. -/
theorem not_runKeyAgrees_padded :
    workflowRunKey (actionBelow (.str "0012")) = lit "core:0012" ∧
      positiveId (runIdOf (actionBelow (.str "0012"))) = .ok none ∧
      ¬ RunKeyAgrees (actionBelow (.str "0012")) coreSource := by
  have hkey : workflowRunKey (actionBelow (.str "0012")) = lit "core:0012" := by decide +kernel
  have hid : positiveId (runIdOf (actionBelow (.str "0012"))) = .ok none := by rfl
  refine ⟨hkey, hid, fun hagrees => ?_⟩
  obtain ⟨id, h⟩ := hagrees.accepted.mp (by rw [hkey]; decide)
  rw [hid] at h
  cases h

end

end BackupCollector
