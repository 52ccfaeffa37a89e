/-
# The Elasticsearch writer

A result becomes a list of bulk actions: a raw document, for two classes the current one, and for
NetWorker the derived documents.  Each action has an index, an id and a document; the bulk helper
and the server are outside.

Names are where the writer does its work.  The index of a NetWorker document is made of the source,
the kind of the document and a month, and normalized as one text.  The source of a result is stated
by its payload or guessed from its collector's name, and the month of a document is its own when it
has one and that of the collection otherwise.

The list is a generator (`Py/Gen`), and for a reason.  The documents of a result are derived while
the actions are consumed, and deriving can raise; what was yielded before has been handed to the
bulk helper by then.  So a result whose derivation raises is written in PART, and which part is
written is visible in the model.

The devices have a raw and a current action and no derived ones here.  The definitions are proved
about in `Routing`, `Current`, `History` and the modules about runs and backups.
-/
import BackupCollector.Processors.Derived
import BackupCollector.Collectors.Base
import BackupCollector.Values

namespace BackupCollector

open Py

/-- One bulk action; the writer only ever indexes. -/
structure Action where
  index : Str
  id : Str
  source : Obj

namespace Action

def opType : Str := "index"

/-- What a bulk write is keyed by. -/
def key (a : Action) : Str × Str := (a.index, a.id)

/-- The write an action is. -/
def write (a : Action) : (Str × Str) × Obj := (a.key, a.source)

end Action

variable [Unicode] [Hashlib]

/-! ## 1. Names

Every function that makes a part of a name, with the cases of the source. -/

/-- `SITE_ALIASES` -/
def siteAliases : Dict Str Str := [("core", "CORE"), ("chnl", "CHNL"), ("info", "INFO")]

omit [Hashlib] in
/-- `_site_segment` -/
def siteSegment (collector : Str) : Str :=
  let normalized := Str.replaceChr (chr '-') (chr '_') (Str.lower collector)
  match siteAliases.find? (fun p => decide (p.1 ∈ Str.split (chr '_') normalized)) with
  | some (_, segment) => segment
  | none => Str.upper collector

omit [Hashlib] in
/-- `_normalize_index_name` -/
def normalizeIndexName (indexName : Str) : Str := Str.lower indexName

omit [Hashlib] in
/-- `_networker_source`: what the payload's summary says, else a token of the collector's name. -/
def networkerSource (result : CollectionResult) : Str :=
  let stated := Obj.get (summaryOf result.payload) "source_networker"
  let source := if stated.truthy then Str.lower (Str.strip (Json.toStr stated))
    else Str.lower (siteSegment result.collector)
  if source ∈ sourceNames then source else "unknown"

omit [Hashlib] in
/-- `_security_domain` -/
def securityDomain (document : Obj) : Str :=
  let domain := match Obj.get document "payload" with
    | .obj payload => Obj.get payload "security_domain"
    | _ => .null
  let normalized := Str.lower (Str.strip (Json.toStr (domain.orElse (.str "unmapped"))))
  if normalized ∈ sourceNames then normalized else "unmapped"

omit [Hashlib] in
/-- `_networker_entity_segment` -/
def networkerEntitySegment (document : Obj) : Str :=
  let documentType :=
    Str.lower (Str.strip (Json.toStr ((Obj.get document "document_type").orElse (.str "unknown"))))
  if documentType = lit "monthly-report" then "MONTHLY" else Str.upper documentType

omit [Hashlib] in
/-- `_networker_document_month`: the document's own month when it is one, else the collection's.
`int` may still refuse what `isdigit` accepts. -/
def networkerDocumentMonth (document : Obj) (fallback : Str) : Except Err Str :=
  let value := Json.toStr ((Obj.get document "index_month").orElse (.str []))
  if value.length = 7 ∧ value[4]? = some (chr '-') ∧ (value.take 4).all Unicode.isDigit = true ∧
      (value.drop 5).all Unicode.isDigit = true then
    match parseInt (value.drop 5) with
    | none => .error (valueError "invalid literal for int() with base 10")
    | some m => .ok (if 1 ≤ m ∧ m ≤ 12 then value else fallback)
  else .ok fallback

/-- `_raw_document_id` -/
def rawDocumentId (result : CollectionResult) : Str :=
  Str.join ":" [result.collector, "raw", result.collectedAt.compact]

/-- `_current_document_id` -/
def currentDocumentId (result : CollectionResult) : Str := Str.join ":" [result.collector, "current"]

omit [Hashlib] in
/-- `_solution` -/
def solution (result : CollectionResult) : Str :=
  (Dict.get? solutionNames result.targetType).getD (Str.lower result.targetType)

/-- The index families of the target types. -/
def indexFamilies : Dict Str Str :=
  [("DD", "VTL"), ("DXi", "VTL"), ("i6000", "PTL"), ("Networker", "NW"), ("ZFS", "ZFS")]

omit [Hashlib] in
/-- `_index_family` -/
def indexFamily (result : CollectionResult) : Str :=
  (Dict.get? indexFamilies result.targetType).getD (Str.upper result.targetType)

omit [Hashlib] in
/-- The first of the summary's names that is not blank, else the collector's. -/
def firstName (summary : Obj) (fallback : Str) : List Str → Str
  | [] => fallback
  | key :: keys =>
    let value := Obj.get summary key
    if value ≠ .null ∧ (Str.strip (Json.toStr value)).isEmpty = false then Str.strip (Json.toStr value)
    else firstName summary fallback keys

omit [Hashlib] in
/-- `_device_name` -/
def deviceName (result : CollectionResult) : Str :=
  firstName (summaryOf result.payload) result.collector ["device_name", "server", "name"]

/-! ## 2. Documents

The envelope of a result, without and with its payload. -/

omit [Hashlib] in
/-- `_raw_document` -/
def rawDocument (result : CollectionResult) : Obj :=
  Dict.update result.toDocument [
    ("raw_document_id", .str (rawDocumentId result)),
    ("device_name", .str (deviceName result)),
    ("solution", .str (solution result)),
    ("document_family", .str "raw"),
    ("document_type", .str "collection"),
    ("processing_mode", .str "elt")]

omit [Hashlib] in
/-- `_current_document` -/
def currentDocument (result : CollectionResult) : Obj := [
  ("@timestamp", .str result.collectedAt.isoformat),
  ("current_document_id", .str (currentDocumentId result)),
  ("collector", .str result.collector),
  ("device_name", .str (deviceName result)),
  ("target_type", .str result.targetType),
  ("solution", .str (solution result)),
  ("protocol", .str result.protocol),
  ("ok", .bool result.ok),
  ("error", Json.ofOption .str result.error),
  ("skipped", .bool result.skipped),
  ("skip_reason", Json.ofOption .str result.skipReason),
  ("collection_class", .str result.collectionClass.name),
  ("collection_status", (Dict.get? result.payload "collection_status").getD
    (.str (if result.ok then "success" else "error"))),
  ("endpoint_errors", (Dict.get? result.payload "endpoint_errors").getD (.obj [])),
  ("document_family", .str "current"),
  ("document_type", .str "status"),
  ("processing_mode", .str "etl"),
  ("summary", .obj (summaryOf result.payload))]

/-! ## 3. Actions

The order is that of the source: raw, current, derived. -/

/-- The classes that refresh the current document. -/
def refreshesCurrent (c : CollectionClass) : Bool := decide (c = .fast) || decide (c = .jobs)

omit [Hashlib] in
/-- The raw action of a NetWorker result. -/
def networkerRawAction (result : CollectionResult) : Action where
  index := normalizeIndexName (lit "NW-OPS-RAW-" ++ Str.upper (networkerSource result) ++ lit "-" ++
    result.collectedAt.yearMonth)
  id := rawDocumentId result
  source := rawDocument result

omit [Hashlib] in
/-- The current action of a NetWorker result. -/
def networkerCurrentAction (result : CollectionResult) : Action where
  index := normalizeIndexName (lit "NW-OPS-CURRENT-" ++ Str.upper (networkerSource result))
  id := currentDocumentId result
  source := currentDocument result

omit [Hashlib] in
/-- The action of one derived document. -/
def derivedAction (collectionMonth : Str) (document : Obj) : Except Err Action := do
  let documentMonth ← networkerDocumentMonth document collectionMonth
  return {
    index := normalizeIndexName (lit "NW-" ++ Str.upper (securityDomain document) ++ lit "-" ++
      networkerEntitySegment document ++ lit "-" ++ documentMonth)
    id := textField document "derived_id"
    source := document }

/-- The derived actions of a NetWorker result. -/
def networkerDerivedActions (result : CollectionResult) : Gen Action :=
  Gen.through (fun document =>
    Gen.ofExcept (derivedAction result.collectedAt.yearMonth document) Gen.yield)
    (iterDerivedDocuments (rawDocument result))

omit [Hashlib] in
/-- The current actions of a NetWorker result: one for the fast and jobs classes. -/
def networkerCurrentActions (result : CollectionResult) : Gen Action :=
  if refreshesCurrent result.collectionClass then Gen.yield (networkerCurrentAction result) else Gen.empty

/-- `_iter_networker_actions` -/
def iterNetworkerActions (result : CollectionResult) : Gen Action :=
  (Gen.yield (networkerRawAction result)).andThen
    ((networkerCurrentActions result).andThen (networkerDerivedActions result))

omit [Hashlib] in
/-- `_index_name` of a result. -/
def indexName (result : CollectionResult) (current : Bool) : Str :=
  if current then normalizeIndexName (indexFamily result ++ lit "-CURRENT")
  else normalizeIndexName (indexFamily result ++ lit "-RAW-" ++ result.collectedAt.yearMonth)

/-- `_iter_actions_for_result` -/
def iterActionsForResult (result : CollectionResult) : Gen Action :=
  if result.targetType = lit "Networker" then iterNetworkerActions result
  else
    (Gen.yield ⟨indexName result false, rawDocumentId result, rawDocument result⟩).andThen
      (if refreshesCurrent result.collectionClass then
        Gen.yield ⟨indexName result true, currentDocumentId result, currentDocument result⟩
      else Gen.empty)

end BackupCollector
