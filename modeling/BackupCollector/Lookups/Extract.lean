/-
# Extraction of backup evidence

`extract_raw` reads the nested backup response of one raw hit.  Every entry of the response ends in
one of two ways: one `Evidence`, or one `Issue` that says why there is none, which marks the source
incomplete when the entry does not even name its action.

The extraction is deliberately strict where the NetWorker parser is lenient.  An attribute has to
be well formed, a required name has to be there, with one distinct value; what is missing is an
issue and is not filled in from anywhere else, since a wrong relation is worse than none.  All
errors of an entry are collected before it is given up, so that the issue can name them.

An issue keeps the reference of its hit.  A hit that cannot be attributed to a source leaves one
issue without a source, and the builder holds back everything because of it.

What an extraction says is the subject of `Extraction`.  Here are the definitions, in the order of
the source; the texts of the errors are the source's.
-/
import BackupCollector.Lookups.Models

namespace BackupCollector

open Py

variable [Unicode]

/-- `Extraction` -/
structure Extraction where
  evidence : List Evidence := []
  issues : List Issue := []
  incompleteSources : Finset Source := ∅

/-- What two parts of an extraction found, one after the other. -/
def Extraction.append (a b : Extraction) : Extraction where
  evidence := a.evidence ++ b.evidence
  issues := a.issues ++ b.issues
  incompleteSources := a.incompleteSources ∪ b.incompleteSources

/-- An issue, which may leave its source incomplete. -/
def Extraction.issue (i : Issue) (incomplete : Finset Source) : Extraction :=
  { issues := [i], incompleteSources := incomplete }

/-- `ACTION_ID` -/
def actionIdKey : Str := "*policy action jobid"

/-- `REQUIRED[1:]` -/
def requiredNames : List Str := ["*policy name", "*policy workflow name", "group"]

/-! ## 1. The attributes of one entry

The attributes of an entry are a list of keys and values, and a key may occur more than once. -/

omit [Unicode] in
/-- A list of non-blank texts. -/
def nonBlankTexts : Json → Option (List Str)
  | .arr xs =>
    let texts := xs.filterMap Json.asStr?
    if xs.isEmpty || decide (texts.length ≠ xs.length) || texts.any (fun t => (Str.strip t).isEmpty) then none
    else some texts
  | _ => none

/-- One well-formed attribute. -/
structure Attribute where
  key : Str
  values : List Str

omit [Unicode] in
/-- The key and the values of an attribute, or what is wrong with it. -/
def readAttribute (value : Json) : Except Str Attribute :=
  match value with
  | .obj a =>
    match Obj.get a "key" with
    | .str key =>
      if (Str.strip key).isEmpty then .error "invalid_attribute_key"
      else match nonBlankTexts (Obj.get a "values") with
        | some values => .ok ⟨key, values⟩
        | none => .error "invalid_attribute_values"
    | _ => .error "invalid_attribute_key"
  | _ => .error "invalid_attribute_key"

/-- The attribute values by key and the errors met on the way. -/
structure AttributeValues where
  values : Dict Str (List Str) := []
  errors : List Str := []

omit [Unicode] in
/-- One pass of the attribute loop. -/
def AttributeValues.add (v : AttributeValues) (value : Json) : AttributeValues :=
  match readAttribute value with
  | .error e => { v with errors := v.errors ++ [e] }
  | .ok a => { v with values := Dict.modify v.values a.key [] (· ++ a.values) }

omit [Unicode] in
/-- The attribute values of an entry. -/
def attributeValues : Json → AttributeValues
  | .arr (a :: as) => (a :: as).foldl AttributeValues.add {}
  | _ => { errors := ["missing_or_invalid_attributes"] }

omit [Unicode] in
/-- The values of one key. -/
def AttributeValues.get (v : AttributeValues) (key : Str) : List Str := (Dict.get? v.values key).getD []

omit [Unicode] in
/-- The only distinct value of a key. -/
def AttributeValues.single (v : AttributeValues) (key : Str) : Option Str :=
  match (v.get key).dedup with
  | [value] => some value
  | _ => none

omit [Unicode] in
/-- The action an entry names. -/
def AttributeValues.actionId (v : AttributeValues) : Option Str := (v.single actionIdKey).bind positiveIdText

omit [Unicode] in
/-- What is wrong with a required name; several dimensions have no declared pairing. -/
def AttributeValues.nameErrors (v : AttributeValues) (key : Str) : List Str :=
  match Dict.get? v.values key with
  | none => [lit "missing_attribute:" ++ key]
  | some values => if values.dedup.length = 1 then [] else [lit "multiple_attribute_values:" ++ key]

omit [Unicode] in
/-- All errors of an entry. -/
def AttributeValues.allErrors (v : AttributeValues) : List Str :=
  v.errors ++ (if v.actionId.isSome then [] else [lit "missing_multiple_or_invalid_action_id"]) ++
    requiredNames.flatMap v.nameErrors

omit [Unicode] in
/-- The first value of a key. -/
def AttributeValues.first (v : AttributeValues) (key : Str) : Str := (v.get key).headD []

/-! ## 2. One entry

The names of a relation come from three attributes, and the identity and the times of a backup from
its fields. -/

omit [Unicode] in
/-- The three names of an entry. -/
def relationNames (v : AttributeValues) : Except Err (Name × Name × Name) := do
  let policy ← normalizeName (v.first "*policy name") true
  let workflow ← normalizeName (v.first "*policy workflow name") true
  let group ← normalizeName (v.first "group") false
  return (policy, workflow, group)

omit [Unicode] in
/-- The id of a backup, when it has one. -/
def backupIdentity (backup : Obj) : Option Str :=
  match Obj.get backup "id" with
  | .str s => if (Str.strip s).isEmpty then none else some (Str.strip s)
  | _ => none

omit [Unicode] in
/-- `_extract_backup` -/
def extractBackup (backup : Json) (source : Source) (reference : Obj) (observedAt : Option Instant) :
    Extraction :=
  match backup with
  | .obj b =>
    let v := attributeValues (Obj.get b "attributes")
    match v.actionId, v.allErrors with
    | none, errors =>
      .issue ⟨Str.join ";" (sorted errors.toFinset), some source, none, reference, backup⟩ {source}
    | some actionId, error :: errors =>
      .issue ⟨Str.join ";" (sorted (error :: errors).toFinset), some source, some actionId, reference, backup⟩ ∅
    | some actionId, [] =>
      match relationNames v with
      | .error e => .issue ⟨e.msg, some source, some actionId, reference, backup⟩ ∅
      | .ok (policy, workflow, group) =>
        let backupId := backupIdentity b
        { evidence := [{
            source := source
            actionId := actionId
            backupId := backupId
            policy := policy
            workflow := workflow
            group := group
            attributes := match Obj.get b "attributes" with
              | .arr xs => dictItems xs
              | _ => []
            reference := Dict.set reference "backup_id" (Json.ofOption .str backupId)
            observedAt := observedAt
            saveTime := Obj.get b "saveTime"
            completionTime := Obj.get b "completionTime" }] }
  | _ => .issue ⟨"invalid_backup", some source, none, reference, backup⟩ {source}

/-! ## 3. One hit

The response is looked up in the payload, and every entry of it is extracted on its own. -/

omit [Unicode] in
/-- The response list of a payload, if it has that shape. -/
def backupResponse (payload : Obj) : Option (List Json) :=
  let response := match Obj.get payload "raw" with
    | .obj raw => Obj.get raw "backups"
    | _ => .null
  let response := match response with
    | .obj r => Obj.get r "backups"
    | r => r
  match response with
  | .arr xs => some xs
  | _ => none

omit [Unicode] in
/-- A collection that did not get everything; asking an unhashable status raises. -/
def isPartialCollection (document payload : Obj) : Except Err Bool :=
  if Obj.get document "ok" = .bool false then .ok true
  else
    let status := Obj.get payload "collection_status"
    if !status.hashable then .error ⟨.typeError, "unhashable type"⟩
    else .ok (decide (status = .str "partial") || decide (status = .str "error") ||
      (Obj.get payload "endpoint_errors").truthy)

omit [Unicode] in
/-- The reference of an entry. -/
def entryReference (document reference : Obj) (position : Nat) : Obj :=
  Dict.update reference [("raw_document_id", Obj.get document "raw_document_id"), ("position", .int position)]

omit [Unicode] in
/-- The entries of a response, one after the other. -/
def extractEntries (document reference : Obj) (source : Source) (response : List Json) : Extraction :=
  (response.zipIdx.map fun entry =>
    extractBackup entry.1 source (entryReference document reference entry.2)
      (timestamp (Obj.get document "@timestamp"))).foldl Extraction.append {}

/-- `extract_raw` -/
def extractRaw (hit : Json) : Except Err Extraction :=
  match (unwrap hit).bind fun (document, reference) =>
      (sourceOf document true).map fun source => (document, reference, source) with
  | .error e => .ok (.issue ⟨e.msg, none, none, [], hit⟩ ∅)
  | .ok (document, reference, source) =>
    match Obj.get document "payload" with
    | .obj payload => do
      let partialFound ← isPartialCollection document payload
      let collection : Extraction :=
        if partialFound then .issue ⟨"partial_collection", some source, none, reference, .null⟩ {source} else {}
      match backupResponse payload with
      | none =>
        return collection.append
          (.issue ⟨"invalid_backup_response", some source, none, reference, .null⟩ {source})
      | some response => return collection.append (extractEntries document reference source response)
    | _ => .ok (.issue ⟨"invalid_payload", some source, none, reference, .null⟩ {source})

end BackupCollector
