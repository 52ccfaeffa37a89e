/-
# The ledger as a list of marks

What a hit does to the ledger does not depend on the ledger: a RAW hit or a job hit leaves a list
of marks, and may end with an exception.  A run of calls is therefore one list of marks, and the
ledger is what that list leaves.  Everything the documents read off the ledger is a question about
the marks made so far, and each mark is a small step.

This is the step relation of the lookup.  The builder has three loops inside each other and two
ways to be interrupted; with the marks there is one induction over a list for every invariant, and
the loops are gone through once, here.  `run_eq` is the theorem that pays for it.

Which hits a run gets to is a question of its own.  `add_raw` stops at the first hit that raises,
and what is behind it in the same call is never read, while `add_jobs` goes on.  So there are two
lists, what the calls were HANDED (`givenHits`) and what they GOT TO (`fedHits`), and `lostHits` is
the difference.  A property of everything that was reported has to be about the first.
-/
import BackupCollector.Lookups.Aggregate
import BackupCollector.Py.Gen

namespace BackupCollector

open Py

variable [Unicode] [Hashlib]

/-! ## 1. Marks

A mark is one assignment of the source, with what it assigns. -/

/-- One step of the ledger. -/
inductive Mark where
  | issue (i : Issue)
  | incomplete (sources : Finset Source)
  | unattributed
  | blocked (key : ActionKey) (reason : Str)
  | identity (source : Source) (backupId fingerprint actionId : Str)
  | evidence (fingerprint : Str) (item : Evidence)
  | copy (job : Job)

omit [Unicode] [Hashlib] in
/-- A mark is made. -/
def Builder.mark (b : Builder) : Mark → Builder
  | .issue i => { b with issues := b.issues ++ [i] }
  | .incomplete sources => { b with incompleteSources := b.incompleteSources ∪ sources }
  | .unattributed => { b with unknownSourceErrors := true }
  | .blocked key reason => b.block key reason
  | .identity source backupId fingerprint actionId =>
    b.recordIdentity (source, backupId) fingerprint (source, actionId)
  | .evidence fingerprint item => b.storeEvidence item.key fingerprint item
  | .copy job => { b with jobs := Dict.modify b.jobs job.key [] fun copies => keepCopy copies job }

omit [Unicode] [Hashlib] in
/-- A list of marks, one after the other. -/
def Builder.marks (b : Builder) (ms : List Mark) : Builder := ms.foldl Builder.mark b

/-- The marks of one item of an extraction. -/
def Evidence.marks (item : Evidence) : Gen Mark :=
  .ofExcept (digest (fingerprintValue item)) fun fingerprint =>
    match item.backupId with
    | some backupId =>
      ⟨[.identity item.source backupId fingerprint item.actionId, .evidence fingerprint item], none⟩
    | none =>
      (Gen.yield (.blocked item.key "backup_identity_missing")).andThen
        (.ofExcept (digest (.obj item.reference)) fun d => Gen.yield (.evidence (fingerprint ++ d) item))

omit [Unicode] [Hashlib] in
/-- What one issue marks besides itself. -/
def Issue.marks (i : Issue) : List Mark :=
  match i.source, i.actionId with
  | none, _ => [.unattributed]
  | some source, some actionId => [.blocked (source, actionId) "invalid_backup_evidence"]
  | some _, none => []

/-- The marks of an extraction. -/
def Extraction.marks (x : Extraction) : Gen Mark :=
  (⟨x.issues.map .issue ++ [.incomplete x.incompleteSources] ++ x.issues.flatMap Issue.marks, none⟩ : Gen Mark).andThen
    (Gen.each Evidence.marks x.evidence)

/-- The marks of a RAW hit. -/
def rawMarks (hit : Json) : Gen Mark := .ofExcept (extractRaw hit) Extraction.marks

omit [Hashlib] in
/-- The marks of a job hit. -/
def jobMarks (hit : Json) : Gen Mark :=
  match readJob hit with
  | .error e => ⟨[.issue { reason := e.msg, details := hit }, .unattributed], none⟩
  | .ok job =>
    ⟨.copy job :: (if job.kind = lit "save job" ∧ job.parent = none then
      [.issue { reason := "invalid_save_parent", source := some job.source, reference := job.reference }] else []),
      none⟩

/-! ## 2. Every method makes its marks

For each method, that it leaves what its marks leave. -/

omit [Unicode] [Hashlib] in
theorem Builder.marks_append (b : Builder) (xs ys : List Mark) : b.marks (xs ++ ys) = (b.marks xs).marks ys :=
  List.foldl_append

/-- A loop that marks at each pass, until a pass raises. -/
def Builder.through {α : Type} (step : Builder → α → Builder × Option Err) (b : Builder) :
    List α → Builder × Option Err
  | [] => (b, none)
  | x :: xs =>
    match step b x with
    | (b, none) => Builder.through step b xs
    | (b, some e) => (b, some e)

omit [Unicode] [Hashlib] in
theorem Builder.through_eq {α : Type} {step : Builder → α → Builder × Option Err} {g : α → Gen Mark}
    (hstep : ∀ b x, step b x = (b.marks (g x).items, (g x).err)) (b : Builder) (xs : List α) :
    Builder.through step b xs = (b.marks (Gen.each g xs).items, (Gen.each g xs).err) := by
  induction xs generalizing b with
  | nil => rfl
  | cons x xs ih =>
    unfold Builder.through Gen.each Gen.andThen
    rw [hstep]
    cases hg : (g x).err with
    | none =>
      dsimp only
      rw [ih, Builder.marks_append]
    | some e =>
      dsimp only
      rw [hg]

omit [Unicode] in
theorem addItem_eq (b : Builder) (item : Evidence) :
    b.addItem item = (b.marks item.marks.items, item.marks.err) := by
  unfold Builder.addItem Evidence.marks
  cases hf : digest (fingerprintValue item) with
  | error e => rfl
  | ok fingerprint =>
    dsimp only [Gen.ofExcept]
    cases hid : item.backupId with
    | some backupId => rfl
    | none =>
      dsimp only
      cases hd : digest (.obj item.reference) with
      | error e => rfl
      | ok d => rfl

omit [Unicode] in
theorem addItems_eq (b : Builder) (items : List Evidence) :
    b.addItems items = (b.marks (Gen.each Evidence.marks items).items, (Gen.each Evidence.marks items).err) := by
  rw [← Builder.through_eq addItem_eq]
  induction items generalizing b with
  | nil => rfl
  | cons item items ih =>
    unfold Builder.addItems Builder.through
    cases b.addItem item with
    | mk b' err =>
      cases err with
      | none => exact ih b'
      | some e => rfl

omit [Unicode] [Hashlib] in
theorem recordIssue_eq (b : Builder) (i : Issue) : b.recordIssue i = b.marks i.marks := by
  obtain ⟨reason, source, actionId, reference, details⟩ := i
  cases source with
  | none => rfl
  | some s => cases actionId <;> rfl

omit [Unicode] [Hashlib] in
theorem recordIssues_eq (b : Builder) (is : List Issue) :
    is.foldl Builder.recordIssue b = b.marks (is.flatMap Issue.marks) := by
  induction is generalizing b with
  | nil => rfl
  | cons i is ih => rw [List.foldl_cons, ih, recordIssue_eq, List.flatMap_cons, Builder.marks_append]

omit [Unicode] [Hashlib] in
theorem marks_issues (b : Builder) (is : List Issue) :
    b.marks (is.map .issue) = { b with issues := b.issues ++ is } := by
  induction is generalizing b with
  | nil =>
    rw [List.append_nil]
    rfl
  | cons i is ih =>
    have hstep : b.marks ((i :: is).map .issue) = (b.mark (.issue i)).marks (is.map .issue) := rfl
    rw [hstep, ih]
    simp [Builder.mark]

theorem addRawHit_eq (b : Builder) (hit : Json) :
    b.addRawHit hit = (b.marks (rawMarks hit).items, (rawMarks hit).err) := by
  unfold Builder.addRawHit rawMarks
  cases hx : extractRaw hit with
  | error e => rfl
  | ok x =>
    dsimp only [Gen.ofExcept]
    unfold Extraction.marks
    rw [Gen.andThen_of_ok rfl, addItems_eq, recordIssues_eq, Builder.marks_append, Builder.marks_append,
      Builder.marks_append, marks_issues]
    rfl

/-- `add_raw` makes the marks of its hits, up to the first that raises. -/
theorem addRaw_eq (b : Builder) (hits : List Json) :
    b.addRaw hits = (b.marks (Gen.each rawMarks hits).items, (Gen.each rawMarks hits).err) := by
  rw [← Builder.through_eq addRawHit_eq]
  induction hits generalizing b with
  | nil => rfl
  | cons hit hits ih =>
    unfold Builder.addRaw Builder.through
    cases b.addRawHit hit with
    | mk b' err =>
      cases err with
      | none => exact ih b'
      | some e => rfl

omit [Hashlib] in
theorem jobMarks_err (hit : Json) : (jobMarks hit).err = none := by
  unfold jobMarks
  cases readJob hit <;> rfl

omit [Hashlib] in
theorem addJobHit_eq (b : Builder) (hit : Json) : b.addJobHit hit = b.marks (jobMarks hit).items := by
  unfold Builder.addJobHit jobMarks
  cases readJob hit with
  | error e => rfl
  | ok job =>
    dsimp only
    split <;> rfl

omit [Hashlib] in
/-- `add_jobs` makes the marks of all its hits. -/
theorem addJobs_eq (b : Builder) (hits : List Json) :
    b.addJobs hits = b.marks (hits.flatMap fun hit => (jobMarks hit).items) := by
  unfold Builder.addJobs
  induction hits generalizing b with
  | nil => rfl
  | cons hit hits ih => rw [List.foldl_cons, ih, addJobHit_eq, List.flatMap_cons, Builder.marks_append]

/-! ## 3. Runs

A run goes on after a call that raised, as a caller does that reports the error and continues. -/

/-- A call of one of the two methods. -/
inductive LookupCall where
  | addRaw (hits : List Json)
  | addJobs (hits : List Json)

/-- One hit, handed to one of the two methods. -/
inductive LookupHit where
  | raw (hit : Json)
  | job (hit : Json)

def LookupHit.marks : LookupHit → Gen Mark
  | .raw hit => rawMarks hit
  | .job hit => jobMarks hit

/-- The hits a call gets to: `add_raw` stops at the first that raises. -/
def LookupCall.fed : LookupCall → List LookupHit
  | .addRaw hits => (Gen.reached rawMarks hits).map .raw
  | .addJobs hits => hits.map .job

/-- A call, and what it raises. -/
def Builder.call (b : Builder) : LookupCall → Builder × Option Err
  | .addRaw hits => b.addRaw hits
  | .addJobs hits => (b.addJobs hits, none)

/-- A sequence of calls; what a call raises does not stop the caller. -/
def Builder.run (b : Builder) (calls : List LookupCall) : Builder :=
  calls.foldl (fun b c => (b.call c).1) b

/-- The hits a sequence of calls gets to. -/
def fedHits (calls : List LookupCall) : List LookupHit := calls.flatMap LookupCall.fed

/-- The marks a sequence of hits makes. -/
def hitMarks (hits : List LookupHit) : List Mark := hits.flatMap fun h => h.marks.items

theorem call_eq (b : Builder) (c : LookupCall) : (b.call c).1 = b.marks (hitMarks c.fed) := by
  cases c with
  | addRaw hits =>
    unfold Builder.call LookupCall.fed hitMarks
    dsimp only
    rw [addRaw_eq, Gen.each_items, List.flatMap_map]
    rfl
  | addJobs hits =>
    unfold Builder.call LookupCall.fed hitMarks
    dsimp only
    rw [addJobs_eq, List.flatMap_map]
    rfl

theorem hitMarks_append (xs ys : List LookupHit) : hitMarks (xs ++ ys) = hitMarks xs ++ hitMarks ys :=
  List.flatMap_append

/-- **A run leaves what the marks of the hits it gets to leave.** -/
theorem run_eq (b : Builder) (calls : List LookupCall) : b.run calls = b.marks (hitMarks (fedHits calls)) := by
  induction calls generalizing b with
  | nil => rfl
  | cons c calls ih =>
    have hcons : fedHits (c :: calls) = c.fed ++ fedHits calls := rfl
    rw [hcons, hitMarks_append, Builder.marks_append, ← call_eq, ← ih]
    rfl

theorem Builder.run_append (b : Builder) (xs ys : List LookupCall) : b.run (xs ++ ys) = (b.run xs).run ys :=
  List.foldl_append

/-! ## 4. What the calls are handed

Of the hits that are handed over, those are lost that stand behind a raising one. -/

/-- None of the calls raises. -/
def Builder.returns (b : Builder) : List LookupCall → Bool
  | [] => true
  | c :: calls => (b.call c).2.isNone && (b.call c).1.returns calls

omit [Unicode] [Hashlib] in
/-- The hits a call is handed. -/
def LookupCall.hits : LookupCall → List LookupHit
  | .addRaw hits => hits.map .raw
  | .addJobs hits => hits.map .job

omit [Unicode] [Hashlib] in
/-- The hits a sequence of calls is handed. -/
def givenHits (calls : List LookupCall) : List LookupHit := calls.flatMap LookupCall.hits

theorem fed_of_returns {b : Builder} {c : LookupCall} (h : (b.call c).2 = none) :
    c.fed = c.hits ∧ ∀ hit ∈ c.hits, hit.marks.err = none := by
  cases c with
  | addRaw hits =>
    unfold Builder.call at h
    dsimp only at h
    rw [addRaw_eq] at h
    have herr := Gen.err_of_each h
    refine ⟨congrArg (List.map _) (Gen.reached_of_ok herr), fun hit hhit => ?_⟩
    obtain ⟨raw, hraw, rfl⟩ := List.mem_map.mp hhit
    exact herr raw hraw
  | addJobs hits =>
    refine ⟨rfl, fun hit hhit => ?_⟩
    obtain ⟨job, -, rfl⟩ := List.mem_map.mp hhit
    exact jobMarks_err job

/-- A run that returns has read every hit it was handed. -/
theorem fedHits_of_returns {b : Builder} {calls : List LookupCall} (h : b.returns calls = true) :
    fedHits calls = givenHits calls ∧ ∀ hit ∈ givenHits calls, hit.marks.err = none := by
  induction calls generalizing b with
  | nil => exact ⟨rfl, fun hit hhit => nomatch hhit⟩
  | cons c calls ih =>
    unfold Builder.returns at h
    rw [Bool.and_eq_true, Option.isNone_iff_eq_none] at h
    obtain ⟨hfed, herr⟩ := fed_of_returns h.1
    obtain ⟨hfeds, herrs⟩ := ih h.2
    refine ⟨congrArg₂ (· ++ ·) hfed hfeds, fun hit hhit => ?_⟩
    exact (List.mem_append.mp hhit).elim (herr hit) (herrs hit)

/-- A run returns exactly when each of its hits is got through. -/
theorem returns_iff {b : Builder} {calls : List LookupCall} :
    b.returns calls = true ↔ ∀ hit ∈ givenHits calls, hit.marks.err = none := by
  refine ⟨fun h => (fedHits_of_returns h).2, fun h => ?_⟩
  induction calls generalizing b with
  | nil => rfl
  | cons c calls ih =>
    unfold Builder.returns
    rw [Bool.and_eq_true, Option.isNone_iff_eq_none]
    refine ⟨?_, ih fun hit hhit => h hit (List.mem_append_right _ hhit)⟩
    cases c with
    | addRaw hits =>
      have hall : ∀ hit ∈ hits, (rawMarks hit).err = none :=
        fun hit hhit => h (.raw hit) (List.mem_append_left _ (List.mem_map.mpr ⟨hit, hhit, rfl⟩))
      unfold Builder.call
      dsimp only
      rw [addRaw_eq, Gen.each_of_ok hall]
    | addJobs hits => rfl

/-- The hits a call is handed and never gets to. -/
def LookupCall.lost : LookupCall → List LookupHit
  | .addRaw hits => (Gen.unreached rawMarks hits).map .raw
  | .addJobs _ => []

/-- The hits a sequence of calls is handed and never gets to. -/
def lostHits (calls : List LookupCall) : List LookupHit := calls.flatMap LookupCall.lost

theorem LookupCall.fed_append_lost (c : LookupCall) : c.fed ++ c.lost = c.hits := by
  cases c with
  | addRaw hits =>
    unfold fed lost LookupCall.hits
    dsimp only
    rw [← List.map_append, Gen.reached_append_unreached]
  | addJobs hits => exact List.append_nil _

/-- A hit that was handed over was got to or lost. -/
theorem mem_givenHits {calls : List LookupCall} {hit : LookupHit} :
    hit ∈ givenHits calls ↔ hit ∈ fedHits calls ∨ hit ∈ lostHits calls := by
  unfold givenHits fedHits lostHits
  simp only [List.mem_flatMap, ← LookupCall.fed_append_lost, List.mem_append, and_or_left, exists_or]

/-- Of the hits that are never lost, the calls get to all they are handed, in the same order. -/
theorem filter_fedHits {p : LookupHit → Bool} {calls : List LookupCall} (h : ∀ hit ∈ lostHits calls, p hit = false) :
    (fedHits calls).filter p = (givenHits calls).filter p := by
  unfold fedHits givenHits
  rw [List.filter_flatMap, List.filter_flatMap]
  refine List.flatMap_congr fun c hc => ?_
  have hlost : c.lost.filter p = [] := List.filter_eq_nil_iff.mpr fun hit hhit =>
    Bool.eq_false_iff.mp (h hit (List.mem_flatMap.mpr ⟨c, hc, hhit⟩))
  rw [← c.fed_append_lost, List.filter_append, hlost, List.append_nil]

/-- Only RAW hits are lost. -/
theorem raw_of_lost {calls : List LookupCall} {hit : LookupHit} (h : hit ∈ lostHits calls) :
    ∃ before bad after raw, .addRaw (before ++ bad :: after) ∈ calls ∧ (rawMarks bad).err ≠ none ∧ raw ∈ after ∧
      hit = .raw raw := by
  obtain ⟨c, hc, hhit⟩ := List.mem_flatMap.mp h
  cases c with
  | addRaw hits =>
    obtain ⟨raw, hraw, rfl⟩ := List.mem_map.mp hhit
    obtain ⟨before, bad, after, rfl, hbad, hraw⟩ := Gen.mem_unreached.mp hraw
    exact ⟨before, bad, after, raw, hc, hbad, hraw, rfl⟩
  | addJobs hits => cases hhit

end BackupCollector
