/-
# The lookup store

`InMemoryLookupStore.commit` replaces a batch of lookup documents, the checkpoint and the version
together.  It first checks every document of the batch against itself and against what is stored
under its key, and only then builds the replacement: a blocked document revokes the public names of
its key but keeps the execution that is stored, and files its own under
`candidate_evidence.conflicting_execution`.

The checks are the store's own defence.  It does not know how a document was built and trusts
nothing about it: the documents are loosely typed here, fields may be missing or of any type, and
reading one that is not there raises.  So a commit can raise in many ways.  Everything that can
raise is in `Batch.replacement`, which reads the store; the three assignments to the store come
after it, and that is where the atomicity of a call comes from.

Two things about a batch are assumed by its type: distinct keys, since it is a dictionary in the
source, and candidate counts that are integers where they are present, since the source compares
them with integers and a float would compare too.  Versions are counters, and a call with an old
version raises before it looks at anything.  What is proved about the store is in `Commit` and
`StoreLaws`; this module only translates.
-/
import BackupCollector.Lookups.Models
import BackupCollector.Py.Equality

namespace BackupCollector

open Py

variable [Unicode]

/-! ## 1. Reading loosely typed documents

Each helper is one way in which the source reads a document, with what it raises. -/

/-- `d[name]` -/
def field (d : Obj) (name : Str) : Except Err Json :=
  match Dict.get? d name with
  | some v => .ok v
  | none => .error ⟨.keyError, name⟩

/-- `v[name]` for a text `name`. -/
def subscript (v : Json) (name : Str) : Except Err Json :=
  match v with
  | .obj d => field d name
  | _ => .error ⟨.typeError, "indices must be integers or not subscriptable"⟩

/-- The elements `for x in v` goes through. -/
def iterate : Json → Except Err (List Json)
  | .arr xs => .ok xs
  | .str s => .ok (s.map fun c => .str [c])
  | .obj d => .ok ((Dict.keys d).map .str)
  | _ => .error ⟨.typeError, "object is not iterable"⟩

/-- `d["candidate_count"]`, for a comparison with an integer. -/
def candidateCount (d : Obj) : Except Err Int := do
  match ← field d "candidate_count" with
  | .int n => return n
  | .bool b => return (if b then 1 else 0)
  | _ => .error ⟨.typeError, "'>' not supported between these instances"⟩

/-- `tuple(item["normalized"])`, as a member of a set. -/
def auditedCandidate (item : Json) : Except Err (List Json) := do
  let names ← iterate (← subscript item "normalized")
  if names.all Json.hashable then return names.map Json.canon
  else .error ⟨.typeError, "unhashable type"⟩

/-- The set of the candidates a document's audit list shows. -/
def auditedCandidates (d : Obj) : Except Err (Finset (List Json)) := do
  let items ← iterate (← subscript (← field d "candidate_evidence") "items")
  let candidates ← items.mapM auditedCandidate
  return candidates.toFinset

/-- A check that raises a `ValueError` when it fails. -/
def refuse (reason : Str) (c : Bool) : Except Err Unit :=
  if c then .error (valueError reason) else .ok ()

/-! ## 2. The checks of one document

The order of the checks is that of the source, since the first to fail decides the error.  Two of
them are given up for a blocked document. -/

def publicNames : List Str := ["policy_name", "workflow_name", "protection_group"]

/-- `any(document[name] is not None for name in names)` -/
def anyNamed (document : Obj) : List Str → Except Err Bool
  | [] => .ok false
  | name :: names => do
    if (← field document name) ≠ .null then return true
    else anyNamed document names

/-- `all(isinstance(document[name], str) and document[name] for name in names)` -/
def allNamed (document : Obj) : List Str → Except Err Bool
  | [] => .ok true
  | name :: names => do
    match ← field document name with
    | .str (_ :: _) => allNamed document names
    | _ => return false

/-- The key, the source and the action id of a document belong together. -/
def checkIdentity (key : Str) (document : Obj) : Except Err Unit := do
  let source ← field document "source_networker"
  let _ ← validateSourceNetworker source
  let runKey ← field document "action_run_key"
  refuse "invalid_lookup_document_identity" (runKey ≠ .str key)
  let jobId ← field document "action_job_id"
  refuse "invalid_lookup_document_identity" (← positiveId jobId).isNone
  refuse "lookup_key_mismatch" (key ≠ Json.toStr source ++ lit ":" ++ Json.toStr jobId)

omit [Unicode] in
/-- A document is resolved and verified; the second field is read only when the first agrees. -/
def isVerified (document : Obj) : Except Err Bool := do
  if (← field document "mapping_status") = .str "resolved" then
    return decide ((← field document "verification_status") = .str "verified")
  else return false

omit [Unicode] in
/-- Only a resolved and verified document has public names, and it has all three. -/
def checkNames (document : Obj) : Except Err Unit := do
  if ← isVerified document then
    let count ← field document "candidate_count"
    if Json.pyEq count (.int 1) then refuse "invalid_verified_relationship" (!(← allNamed document publicNames))
    else refuse "invalid_verified_relationship" true
  else refuse "unverified_public_relationship" (← anyNamed document publicNames)

omit [Unicode] in
/-- The document is not blocked. -/
def notBlocked (document : Obj) : Except Err Bool := do
  return decide ((← field document "verification_status") ≠ .str "blocked")

omit [Unicode] in
/-- Another start than the stored one, on a document that is not blocked. -/
def replacesExecution (old document : Obj) : Except Err Bool := do
  let stored ← field old "action_start_time"
  if stored.truthy then
    if Json.pyEq (← field document "action_start_time") stored then return false
    else notBlocked document
  else return false

omit [Unicode] in
/-- `old["candidate_fingerprint"] != document["candidate_fingerprint"]` -/
def changesFingerprint (old document : Obj) : Except Err Bool := do
  let stored ← field old "candidate_fingerprint"
  return !(Json.pyEq stored (← field document "candidate_fingerprint"))

omit [Unicode] in
/-- Fewer candidates than stored, or as many but others. -/
def losesCandidates (old document : Obj) : Except Err Bool := do
  let stored ← candidateCount old
  let incoming ← candidateCount document
  if incoming < stored then return true
  else if stored = incoming then changesFingerprint old document
  else return false

omit [Unicode] in
/-- The stored audit list does not show all stored candidates, or the incoming one does not
show them again. -/
def dropsAudited (old document : Obj) : Except Err Bool := do
  let stored ← candidateCount old
  if stored = 0 then return false
  else if ← changesFingerprint old document then
    let previous ← auditedCandidates old
    let incoming ← auditedCandidates document
    return !(decide ((previous.card : Int) = stored) && decide (previous ⊆ incoming))
  else return false

/-- `{"success", "failed", "canceled"}` -/
def storedTerminal : List Str := ["success", "failed", "canceled"]

omit [Unicode] in
/-- A running status over a terminal one, on a document that is not blocked. -/
def regressesStatus (old document : Obj) : Except Err Bool := do
  let stored ← field old "action_status"
  if !stored.hashable then .error ⟨.typeError, "unhashable type"⟩
  else if stored ∈ storedTerminal.map Json.str then
    if (← field document "action_status") = .str "running" then notBlocked document
    else return false
  else return false

omit [Unicode] in
/-- The checks of a document against the one stored under its key. -/
def checkStored (old document : Obj) : Except Err Unit := do
  refuse "execution_replacement_requires_review" (← replacesExecution old document)
  refuse "incomplete_or_replaced_candidate_ledger" (← losesCandidates old document)
  refuse "incomplete_or_replaced_candidate_ledger" (← dropsAudited old document)
  refuse "terminal_state_regression" (← regressesStatus old document)

/-- The stored document of a key; an empty one counts as none. -/
def storedDocument (documents : Dict Str Obj) (key : Str) : Option Obj :=
  (Dict.get? documents key).filter fun old => !old.isEmpty

/-- The checks of one document of a batch. -/
def checkDocument (documents : Dict Str Obj) (key : Str) (document : Obj) : Except Err Unit := do
  checkIdentity key document
  checkNames document
  match storedDocument documents key with
  | some old => checkStored old document
  | none => return ()

/-! ## 3. The replacement

The replacement is computed for the whole batch before anything is stored. -/

/-- The fields that describe an execution. -/
def executionFields : List Str :=
  ["action_start_time", "action_end_time", "action_status", "action_job_type", "action_workflow_run_key"]

omit [Unicode] in
/-- `{name: document[name] for name in fields}` -/
def executionOf (document : Obj) : Except Err Obj :=
  executionFields.mapM fun name => (field document name).map fun v => (name, v)

omit [Unicode] in
/-- A blocked document over a stored one: the stored execution stays, the incoming one is filed. -/
def freezeExecution (old incoming : Obj) : Except Err Obj := do
  let conflicting ← executionOf incoming
  match ← field incoming "candidate_evidence" with
  | .obj evidence =>
    let execution ← executionOf old
    return Dict.update
      (Dict.set incoming "candidate_evidence" (.obj (Dict.set evidence "conflicting_execution" (.obj conflicting))))
      execution
  | _ => .error ⟨.typeError, "object does not support item assignment"⟩

omit [Unicode] in
/-- What a commit stores for one document of its batch. -/
def replacementOf (documents : Dict Str Obj) (key : Str) (incoming : Obj) : Except Err Obj := do
  match storedDocument documents key with
  | some old => if ← notBlocked incoming then return incoming else freezeExecution old incoming
  | none => return incoming

/-- A batch of documents: JSON objects under distinct keys, whose candidate counts are integers
where they are present. -/
structure Batch where
  entries : Dict Str Obj
  nodup : (Dict.keys entries).Nodup
  count_int : ∀ p ∈ entries, ∀ v, Dict.get? p.2 "candidate_count" = some v → ∃ n : Int, v = .int n

/-- Everything a commit computes before it assigns: the checks of the whole batch, then its
replacement documents, written over a copy of what is stored. -/
def Batch.replacement (batch : Batch) (documents : Dict Str Obj) : Except Err (Dict Str Obj) := do
  let _ ← batch.entries.mapM fun p => checkDocument documents p.1 p.2
  let written ← batch.entries.mapM fun p => (replacementOf documents p.1 p.2).map fun d => (p.1, d)
  return Dict.update documents written

/-! ## 4. The store

A call returns the new version or raises; a run is a list of calls, and a call that raised is part
of it. -/

/-- `Checkpoint` -/
structure Checkpoint where
  cursor : Str
  evidenceGeneration : Str
deriving DecidableEq

/-- `InMemoryLookupStore` -/
structure InMemoryLookupStore where
  version : Int := 0
  documents : Dict Str Obj := []
  checkpoint : Option Checkpoint := none

/-- The arguments of one call of `commit`. -/
structure Commit where
  batch : Batch
  expectedVersion : Int
  checkpoint : Checkpoint

namespace InMemoryLookupStore

/-- `commit`: the store it leaves, and the new version or what it raises. -/
def commit (s : InMemoryLookupStore) (c : Commit) : InMemoryLookupStore × Except Err Int :=
  if c.expectedVersion ≠ s.version then
    (s, .error ⟨.runtimeError, "stale_fake_state_version"⟩)
  else match c.batch.replacement s.documents with
    | .error e => (s, .error e)
    | .ok documents =>
      let s := { s with documents := documents }
      let s := { s with checkpoint := some c.checkpoint }
      let s := { s with version := s.version + 1 }
      (s, .ok s.version)

/-- A sequence of calls, some of which may raise. -/
def run (s : InMemoryLookupStore) (calls : List Commit) : InMemoryLookupStore :=
  calls.foldl (fun s c => (s.commit c).1) s

end InMemoryLookupStore

end BackupCollector
