/-
# The evidence ledger and its documents

`ActionLookupBuilder` collects evidence and job copies, hit by hit, and never forgets: the ledger
keeps one observation per revision of a backup, every distinct copy of a job, and three kinds of
marks that make an action unpublishable.  `build` reads one document per action off the ledger.

The program has to decide from partial and repeated reports which policy, workflow and action a
backup action belongs to, and to publish nothing rather than something wrong.  The ledger is where
it remembers what speaks against publishing:

* `blocked`: reasons against one action, such as evidence that contradicts itself;
* `incomplete_sources`: sources of which something could not be read, so that nothing of theirs is
  certain;
* `unknown_source_errors`: whether a hit named no source at all, which holds back everything.

A hit that raises has already left the marks it made before; the methods therefore return the
ledger together with the exception, and a call that goes through several hits keeps what the hits
before the raising one have left.  What is behind it was never read.

Sets and dictionaries are lists without repetitions, in the order in which things were first seen.
That order reaches the documents in one place, the records of a key; everywhere else the source
sorts or the modules that follow prove that it does not matter.
-/
import BackupCollector.Lookups.Extract
import BackupCollector.Lookups.Validate
import BackupCollector.Py.Equality
import BackupCollector.Py.Sha256

namespace BackupCollector

open Py

variable [Unicode] [Hashlib]

/-! ## 1. The ledger

The marks and the records.  Nothing is ever taken out; an observation is replaced by a later one of
the same revision. -/

/-- `LOOKUP_INDEX` -/
def lookupIndex : Str := "nw-ops-lookup-actionrun-v1"

/-- `ActionLookupBuilder` -/
structure Builder where
  evidence : Dict ActionKey (Dict Str Evidence) := []
  jobs : JobTable := []
  issues : List Issue := []
  incompleteSources : Finset Source := ∅
  unknownSourceErrors : Bool := false
  blocked : Dict ActionKey (Finset Str) := []
  identities : Dict (Source × Str) (Dict Str ActionKey) := []

namespace Builder

/-- `self.blocked[key].add(reason)` -/
def block (b : Builder) (key : ActionKey) (reason : Str) : Builder :=
  { b with blocked := Dict.modify b.blocked key ∅ (insert reason) }

/-- What one issue marks. -/
def recordIssue (b : Builder) (issue : Issue) : Builder :=
  match issue.source, issue.actionId with
  | none, _ => { b with unknownSourceErrors := true }
  | some source, some actionId => b.block (source, actionId) "invalid_backup_evidence"
  | some _, none => b

/-- A backup id seen before with another fingerprint blocks both actions; the fingerprint is
then recorded. -/
def recordIdentity (b : Builder) (identity : Source × Str) (fingerprint : Str) (key : ActionKey) : Builder :=
  let b := ((Dict.get? b.identities identity).getD []).foldl (fun b old =>
    if old.1 ≠ fingerprint then
      (b.block old.2 "backup_revision_conflict").block key "backup_revision_conflict"
    else b) b
  { b with identities := Dict.modify b.identities identity [] fun d => Dict.set d fingerprint key }

end Builder

/-- The new observation replaces the old one: it is dated, and later. -/
def Evidence.supersedes (item previous : Evidence) : Bool :=
  match item.observedAt, previous.observedAt with
  | none, _ => false
  | some _, none => true
  | some t, some p => decide (p < t)

/-- What the records of a key become when an observation arrives. -/
def keepLatest (records : Dict Str Evidence) (fingerprint : Str) (item : Evidence) : Dict Str Evidence :=
  match Dict.get? records fingerprint with
  | none => Dict.set records fingerprint item
  | some previous => if item.supersedes previous then Dict.set records fingerprint item else records

namespace Builder

/-- The evidence of a key, updated. -/
def storeEvidence (b : Builder) (key : ActionKey) (fingerprint : Str) (item : Evidence) : Builder :=
  { b with evidence := Dict.modify b.evidence key [] fun records => keepLatest records fingerprint item }

end Builder

/-! ## 2. Feeding it

One definition per loop of the source, from an item up to a call. -/

/-- The values of the attributes of an item, by name. -/
def attributeSets (attributes : List Obj) : Dict Str (Finset Str) :=
  attributes.foldl (fun d a => Dict.modify d (textField a "key") ∅
    (· ∪ ((nonBlankTexts (Obj.get a "values")).getD []).toFinset)) []

def strArray (xs : List Str) : Json := .arr (xs.map .str)

/-- What a fingerprint is the digest of. -/
def fingerprintValue (item : Evidence) : Json := .obj [
  ("id", Json.ofOption .str item.backupId),
  ("action", .str item.actionId),
  ("original", strArray item.originalCandidate),
  ("attributes", .obj ((attributeSets item.attributes).map fun a => (a.1, strArray (sorted a.2)))),
  ("save_time", item.saveTime),
  ("completion_time", item.completionTime)]

def Evidence.key (item : Evidence) : ActionKey := (item.source, item.actionId)

namespace Builder

/-- One item of an extraction. -/
def addItem (b : Builder) (item : Evidence) : Builder × Option Err :=
  match digest (fingerprintValue item) with
  | .error e => (b, some e)
  | .ok fingerprint =>
    match item.backupId with
    | some backupId =>
      ((b.recordIdentity (item.source, backupId) fingerprint item.key).storeEvidence item.key fingerprint item,
        none)
    | none =>
      let b := b.block item.key "backup_identity_missing"
      match digest (.obj item.reference) with
      | .error e => (b, some e)
      | .ok d => (b.storeEvidence item.key (fingerprint ++ d) item, none)

/-- The items of an extraction, until one raises. -/
def addItems (b : Builder) : List Evidence → Builder × Option Err
  | [] => (b, none)
  | item :: items =>
    match b.addItem item with
    | (b, none) => b.addItems items
    | (b, some e) => (b, some e)

/-- One hit of `add_raw`. -/
def addRawHit (b : Builder) (hit : Json) : Builder × Option Err :=
  match extractRaw hit with
  | .error e => (b, some e)
  | .ok extraction =>
    let b := { b with
      issues := b.issues ++ extraction.issues
      incompleteSources := b.incompleteSources ∪ extraction.incompleteSources }
    (extraction.issues.foldl recordIssue b).addItems extraction.evidence

/-- `add_raw` -/
def addRaw (b : Builder) : List Json → Builder × Option Err
  | [] => (b, none)
  | hit :: hits =>
    match b.addRawHit hit with
    | (b, none) => b.addRaw hits
    | (b, some e) => (b, some e)

end Builder

/-- Two copies of a job are equal, reference included. -/
def Job.same (a b : Job) : Bool :=
  decide (a.source = b.source) && decide (a.identity = b.identity) && decide (a.kind = b.kind) &&
  decide (a.parent = b.parent) && decide (a.root = b.root) && decide (a.status = b.status) &&
  decide (a.start = b.start) && decide (a.finish = b.finish) && decide (a.observedAt = b.observedAt) &&
  Json.pyEq (.obj a.reference) (.obj b.reference)

def Job.key (j : Job) : ActionKey := (j.source, j.identity)

/-- A copy is kept unless an equal one is there. -/
def keepCopy (copies : List Job) (job : Job) : List Job :=
  if copies.any (Job.same job) then copies else copies ++ [job]

namespace Builder

/-- One hit of `add_jobs`. -/
def addJobHit (b : Builder) (hit : Json) : Builder :=
  match readJob hit with
  | .error e => { b with issues := b.issues ++ [{ reason := e.msg, details := hit }], unknownSourceErrors := true }
  | .ok job =>
    let b := { b with jobs := Dict.modify b.jobs job.key [] fun copies => keepCopy copies job }
    if job.kind = lit "save job" ∧ job.parent = none then
      { b with issues := b.issues ++
          [{ reason := "invalid_save_parent", source := some job.source, reference := job.reference }] }
    else b

/-- `add_jobs`; what a job hit raises is a `ValueError`, which is caught. -/
def addJobs (b : Builder) (hits : List Json) : Builder := hits.foldl addJobHit b

end Builder

/-! ## 3. The verdict on one action

The verdict is what the source computes before it writes the document.  Its fields have the names
of the source's local variables, in their order. -/

/-- What a document is computed from. -/
structure Verdict where
  records : List Evidence
  action : Option Job
  blocked : Finset Str
  pending : Finset Str

/-- A backup whose times the API did not give. -/
def timeUnconfirmed (e : Evidence) : Bool :=
  (apiTimestamp e.saveTime).isNone || (apiTimestamp e.completionTime).isNone

/-- A backup outside the action, or one that completed before it was saved. -/
def timeConflict (start finish : Option Instant) (e : Evidence) : Bool :=
  !timeUnconfirmed e &&
    (beforeInstant (apiTimestamp e.completionTime) (apiTimestamp e.saveTime) ||
      beforeInstant (apiTimestamp e.saveTime) start || beforeInstant finish (apiTimestamp e.completionTime))

/-- The raw document of an item can be found again. -/
def hasRawReference (e : Evidence) : Bool :=
  (Obj.get e.reference "raw_document_id").truthy ||
    ((Obj.get e.reference "index").truthy && (Obj.get e.reference "id").truthy)

/-- Observed after the synchronisation. -/
def observedAfter (synced : Datetime) (observedAt : Option Instant) : Bool :=
  observedAt.any fun t => decide (synced.utc < (t.us : Int))

def reasonIf (c : Bool) (reason : Str) : Finset Str := if c then {reason} else ∅

namespace Builder

/-- The records of a key, in the order they were first seen. -/
def records (b : Builder) (key : ActionKey) : List Evidence := Dict.values ((Dict.get? b.evidence key).getD [])

/-- What the marks of the ledger, the records and the coverage leave pending. -/
def pendingReasons (b : Builder) (key : ActionKey) (records : List Evidence) (action : Option Job)
    (synced : Datetime) (coverage : Option Coverage) : Finset Str :=
  let start := action.bind Job.start
  let finish := action.bind Job.finish
  let complete := coverage.any fun c => c.completeFor start finish
  reasonIf b.unknownSourceErrors "unattributed_input_errors" ∪
  reasonIf (decide (key.1 ∈ b.incompleteSources) || coverage.any (·.partialPoll)) "partial_collection" ∪
  reasonIf (coverage.any (·.queryWindowGap)) "query_window_gap" ∪
  reasonIf (records.any (·.observedAt.isNone)) "missing_observation_time" ∪
  reasonIf (records.any (!hasRawReference ·)) "missing_raw_reference" ∪
  reasonIf (!coverage.any (·.suffixReviewed)) "suffix_rule_unreviewed" ∪
  reasonIf (records.any timeUnconfirmed) "backup_time_unconfirmed" ∪
  reasonIf (records.any (observedAfter synced ·.observedAt) ||
    observedAfter synced (action.bind Job.observedAt)) "future_observation_time" ∪
  reasonIf (!complete) "coverage_unverified" ∪
  reasonIf records.isEmpty (if complete then "no_backup_in_covered_window" else "awaiting_backups")

/-- The first half of `_document`. -/
def verdict (b : Builder) (key : ActionKey) (synced : Datetime) (coverage : Option Coverage) : Verdict :=
  let records := b.records key
  let (action, blocked, pending) := executionCheck key b.jobs
  { records := records
    action := action
    blocked := blocked ∪ (Dict.get? b.blocked key).getD ∅ ∪
      reasonIf (records.any (timeConflict (action.bind Job.start) (action.bind Job.finish)))
        "backup_execution_time_conflict"
    pending := pending ∪ b.pendingReasons key records action synced coverage }

end Builder

namespace Verdict

def candidates (v : Verdict) : Finset Candidate := (v.records.map Evidence.candidate).toFinset

def originals (v : Verdict) : Finset Candidate := (v.records.map Evidence.originalCandidate).toFinset

/-- `mapping_status` -/
def mapping (v : Verdict) : Str :=
  if 1 < v.candidates.card then "ambiguous"
  else if v.candidates.Nonempty then "resolved"
  else if v.blocked.Nonempty then "invalid"
  else "unresolved"

/-- `verification_status` -/
def verification (v : Verdict) : Str :=
  if v.blocked.Nonempty then "blocked"
  else if v.pending.Nonempty then "provisional"
  else if v.mapping = lit "resolved" then "verified"
  else "unverified"

/-- The names a document publishes. -/
def published (v : Verdict) : Option Candidate :=
  if v.mapping = lit "resolved" ∧ v.verification = lit "verified" then (sorted v.candidates).head? else none

def reasons (v : Verdict) : List Str := sorted (v.blocked ∪ v.pending)

/-- The reasons a document leads with. -/
def priority : List Str := ["job_id_reuse_or_execution_conflict", "target_type_mismatch",
  "backup_revision_conflict", "invalid_backup_evidence", "missing_action_job", "partial_collection",
  "query_window_gap", "awaiting_backups", "no_backup_in_covered_window"]

/-- `evidence_state` -/
def evidenceState (v : Verdict) : Str :=
  match priority.find? (fun r => decide (r ∈ v.reasons)) with
  | some reason => reason
  | none => if v.mapping = lit "ambiguous" then "ambiguous" else v.reasons.head?.getD "verified"

/-- The observations a document rests on. -/
def observed (v : Verdict) : List Instant :=
  v.records.filterMap (·.observedAt) ++ (v.action.bind Job.observedAt).toList

end Verdict

/-! ## 4. The documents

The document is the verdict written out, with the audit list cut at the limit.  `build` refuses two
attestations for one key before it builds anything. -/

/-- One published name. -/
def publicName (published : Option Candidate) (i : Nat) : Json :=
  match published with
  | some names => Json.ofOption .str names[i]?
  | none => .null

/-- The audit entry of a record. -/
def auditEntry (e : Evidence) : Json := .obj [
  ("original", strArray e.originalCandidate),
  ("normalized", strArray e.candidate),
  ("policy_suffix", Json.ofOption .str e.policy.suffix),
  ("workflow_suffix", Json.ofOption .str e.workflow.suffix),
  ("attributes", .arr (e.attributes.map .obj)),
  ("reference", .obj e.reference)]

/-- `sorted(references, key=digest)` -/
def sortedReferences (records : List Evidence) : Except Err (List Obj) := do
  let keyed ← records.mapM fun e => (digest (.obj e.reference)).map fun d => (d, e.reference)
  return (keyed.insertionSort fun a b => a.1 ≤ b.1).map Prod.snd

/-- The second half of `_document`. -/
def Verdict.document (v : Verdict) (key : ActionKey) (synced : Datetime) (coverage : Option Coverage)
    (generation : Str) (limit : Nat) : Except Err Obj := do
  let references ← sortedReferences v.records
  let fingerprint ← digest (.arr ((sorted v.candidates).map strArray))
  return [
    ("action_run_key", .str key.text),
    ("source_networker", .str key.1.name),
    ("action_job_id", .str key.2),
    ("action_job_type", Json.ofOption .str (v.action.map Job.kind)),
    ("action_status", Json.ofOption .str (v.action.map Job.status)),
    ("action_workflow_run_key",
      Json.ofOption (fun root => .str (key.1.name ++ lit ":" ++ root)) (v.action.bind Job.root)),
    ("policy_name", publicName v.published 0),
    ("workflow_name", publicName v.published 1),
    ("protection_group", publicName v.published 2),
    ("mapping_status", .str v.mapping),
    ("verification_status", .str v.verification),
    ("evidence_state", .str v.evidenceState),
    ("reason", .str (Str.join ";" v.reasons)),
    ("candidate_count", .int v.candidates.card),
    ("raw_candidate_count", .int v.originals.card),
    ("normalization_version", .str normalizationVersion),
    ("suffix_validation", .str (if coverage.any (·.suffixReviewed) then "reviewed" else "unreviewed")),
    ("lookup_generation", .str generation),
    ("candidate_fingerprint", .str fingerprint),
    ("action_start_time", isoformat (v.action.bind Job.start)),
    ("action_end_time", isoformat (v.action.bind Job.finish)),
    ("lookup_observed_at", isoformat (maxBy Instant.us v.observed)),
    ("lookup_synced_at", .str synced.isoformat),
    ("coverage_from", Json.ofOption (fun d => .str d.isoformat) (coverage.bind (·.start))),
    ("coverage_to", Json.ofOption (fun d => .str d.isoformat) (coverage.bind (·.finish))),
    ("backup_reference_count", .int references.length),
    ("backup_reference_truncated", .bool (decide (limit < references.length))),
    ("backup_references", .obj [("items", .arr ((references.take limit).map .obj))]),
    ("candidate_evidence", .obj [
      ("items", .arr ((v.records.take limit).map auditEntry)),
      ("truncated", .bool (decide (limit < v.records.length))),
      ("coverage_proof", .str ((coverage.map (·.proofReference)).getD []))])]

namespace Builder

/-- `_document` -/
def document (b : Builder) (key : ActionKey) (synced : Datetime) (coverage : Option Coverage)
    (generation : Str) (limit : Nat) : Except Err Obj :=
  (b.verdict key synced coverage).document key synced coverage generation limit

/-- The keys `build` returns, before they are sorted. -/
def keys (b : Builder) : List ActionKey :=
  (Dict.keys b.evidence ++ Dict.keys b.blocked ++
    (b.jobs.filter fun p => p.2.any fun j => decide (j.kind = actionType)).map Prod.fst ++
    (Dict.values b.jobs).flatMap fun copies =>
      (copies.filter fun j => decide (j.kind = lit "save job")).filterMap fun j =>
        j.parent.map fun parent => (j.source, parent)).dedup

/-- The attestations by key; two for one key are refused. -/
def attestations : List Coverage → Except Err (Dict ActionKey Coverage)
  | [] => .ok []
  | c :: cs => do
    let rest ← attestations cs
    if (Dict.get? rest c.key).isSome then .error (valueError "invalid_or_duplicate_coverage_key")
    else return (c.key, c) :: rest

/-- The default of `reference_limit`. -/
def defaultReferenceLimit : Int := 20

/-- `build` -/
def build (b : Builder) (synced : Datetime) (coverage : List Coverage) (generation : Str)
    (referenceLimit : Int) : Except Err (Dict Str Obj) := do
  if synced.isTimestamp = false ∨ referenceLimit < 1 then
    .error (valueError "aware_synced_at_and_positive_reference_limit_required")
  else
    let attested ← attestations coverage
    (b.keys.insertionSort fun a b => [a.1.name, a.2] ≤ [b.1.name, b.2]).mapM fun key =>
      (b.document key synced (Dict.get? attested key) generation referenceLimit.toNat).map fun d => (key.text, d)

end Builder

end BackupCollector
