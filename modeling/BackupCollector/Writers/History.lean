/-
# The actions of a history

A NetWorker collector writes one collection after the other: a raw document, for two classes the
current document, and the documents derived from what was parsed.  This module says which actions a
collection yields, in order, and what the key of an action tells about its document.  The results
about a whole history, of job runs and of backups, are read off that.

The way from a document in the store back to the record it was made from has three parts, and each
is an injectivity.

* The index of a derived document determines its type and its month (`networkerIndex_inj`), and no
  operations index is one (`opsIndex_ne`).
* The id determines what the document is about, within one collector and one kind (`join_id_inj`).
* The documents of one kind about one thing are, in the order of the actions, those of the records
  about it (`filter_actions`).

Failed and skipped collections are part of a history.  They have a raw document and no records, and
`Collected` covers them.

The month a document is filed under is its own only when its year has four digits; `strftime`
writes the years before 1000 with fewer, and the writer then takes the month of the collection.
-/
import BackupCollector.Writers.Routing

namespace BackupCollector

open Py

section History

variable [Unicode]

/-! ## 1. One collection

What a result holds, whatever became of its collection. -/

/-- What a result holds of its collection: every record is classified with the source, and
every job and backup comes from a received item. -/
structure Collected (c : CollectorConfig) (s : Source) (x : NetworkerCollection) (r : CollectionResult) :
    Prop where
  collector : r.collector = c.name
  targetType : r.targetType = c.type
  collectedAt : r.collectedAt = x.collectedAt
  classified : ∀ key ∈ recordKeys, ∀ record ∈ payloadRecords r.payload key, Classified s record
  jobs : ∀ job ∈ payloadRecords r.payload "jobs", ∃ item ∈ x.items "jobs", ∃ record,
    JobFields item record ∧ job = classifyRecord s record
  backups : ∀ backup ∈ payloadRecords r.payload "backups", ∃ item ∈ x.items "backups", ∃ record,
    BackupFields item record ∧ backup = classifyRecord s record

theorem collected_of_delivered {c : CollectorConfig} {s : Source} {x : NetworkerCollection}
    {r : CollectionResult} {payloads : Obj} {parsed : Parsed} (hcollector : r.collector = c.name)
    (htype : r.targetType = c.type) (hat : r.collectedAt = x.collectedAt) (hraw : x.raw = .ok payloads)
    (hto : ParsesTo payloads c.name s parsed) (hcarries : Carries r.payload parsed) : Collected c s x r := by
  obtain ⟨hjobs, hbackups, -, -, -⟩ := hcarries.records
  have hitems : ∀ key, x.items key = items (Obj.get payloads key) key := by
    intro key
    unfold NetworkerCollection.items
    rw [hraw]
  refine ⟨hcollector, htype, hat, fun key hkey => hto.classified hcarries hkey, ?_, ?_⟩
  · intro job hjob
    obtain ⟨records, heq, hall⟩ := hto.jobs
    rw [hjobs, heq] at hjob
    obtain ⟨record, hrecord, rfl⟩ := List.mem_map.mp hjob
    obtain ⟨item, hitem, hnorm⟩ := exists_of_forall₂ hall record hrecord
    exact ⟨item, hitems "jobs" ▸ hitem, record, normalizeJob_fields hnorm, rfl⟩
  · intro backup hbackup
    obtain ⟨records, heq, hall⟩ := hto.backups
    rw [hbackups, heq] at hbackup
    obtain ⟨record, hrecord, rfl⟩ := List.mem_map.mp hbackup
    obtain ⟨item, hitem, hnorm⟩ := exists_of_forall₂ hall record hrecord
    exact ⟨item, hitems "backups" ▸ hitem, record, normalizeBackup_fields hnorm, rfl⟩

theorem collected_of_empty {c : CollectorConfig} {s : Source} {x : NetworkerCollection} {r : CollectionResult}
    (hcollector : r.collector = c.name) (htype : r.targetType = c.type) (hat : r.collectedAt = x.collectedAt)
    (hempty : r.payload = []) : Collected c s x r := by
  have hrecords : ∀ key, payloadRecords r.payload key = [] := by
    intro key
    rw [hempty]
    rfl
  refine ⟨hcollector, htype, hat, ?_, ?_, ?_⟩
  · intro key _ record h
    simp [hrecords] at h
  · intro job h
    simp [hrecords] at h
  · intro backup h
    simp [hrecords] at h

/-- Every result of a collection, skipped and failed ones included, holds what was collected. -/
theorem result_collected {isFile : Str → Bool} {c : CollectorConfig} {s : Source}
    (hs : validateSourceNetworker (optional c.sourceNetworker) = .ok s) {x : NetworkerCollection}
    {r : CollectionResult} (h : x.result isFile c = .ok r) : Collected c s x r := by
  unfold NetworkerCollection.result collect at h
  obtain ⟨reason, -, h⟩ := bind_eq_ok.mp h
  cases reason with
  | some reason =>
    rw [← Except.ok.inj h]
    exact collected_of_empty rfl rfl rfl rfl
  | none =>
    cases hp : networkerPayload c x.raw x.clock with
    | ok payload =>
      rw [hp] at h
      obtain ⟨payloads, parsed, hraw, hto, hcarries⟩ := networkerPayload_eq_ok hs hp
      rw [← Except.ok.inj h]
      exact collected_of_delivered rfl rfl rfl hraw hto hcarries
    | error e =>
      rw [hp] at h
      rw [← Except.ok.inj h]
      exact collected_of_empty rfl rfl rfl rfl

/-! ## 2. The month of a document

The writer reads a month back from a text, and refuses some. -/

/-- The month a document is filed under: its own when that has four digits of year, else the
month of the collection. -/
def filedMonth (t collectedAt : Instant) : Str :=
  if 1000 ≤ t.year then t.yearMonth else collectedAt.yearMonth

omit [Unicode] in
theorem filedMonth_yearMonth (t collectedAt : Instant) : ∃ u : Instant, filedMonth t collectedAt = u.yearMonth := by
  unfold filedMonth
  split
  · exact ⟨t, rfl⟩
  · exact ⟨collectedAt, rfl⟩

theorem networkerDocumentMonth_of_null {document : Obj} (h : Obj.get document "index_month" = .null)
    (fallback : Str) : networkerDocumentMonth document fallback = .ok fallback := by
  unfold networkerDocumentMonth
  rw [h]
  exact if_neg (by simp [Json.orElse, Json.truthy, Json.toStr])

/-- A document's own month is accepted exactly when its year has four digits. -/
theorem networkerDocumentMonth_of_month {document : Obj} {t : Instant}
    (h : Obj.get document "index_month" = .str t.yearMonth) (collectedAt : Instant) :
    networkerDocumentMonth document collectedAt.yearMonth = .ok (filedMonth t collectedAt) := by
  have htext : Json.toStr ((Obj.get document "index_month").orElse (.str [])) = t.yearMonth := by
    rw [h]
    simp [Json.orElse, Json.truthy, t.yearMonth_ne_nil, Json.toStr]
  unfold networkerDocumentMonth
  rw [htext]
  dsimp only
  by_cases hyear : 1000 ≤ t.year
  · have hlen : (Str.digitsPad 4 t.year).length = 4 := Str.digitsPad_length 4 t.year
    have hdigit : ∀ k n : Nat, (Str.digitsPad k n).all Unicode.isDigit = true := by
      intro k n
      refine List.all_eq_true.mpr fun c hc => ?_
      have hd := Str.digitsPad_digits k n c hc
      have hlt : c.val < 128 := by
        simp only [isAsciiDigit, Bool.and_eq_true, decide_eq_true_eq] at hd
        omega
      rw [Unicode.isDigit_ascii c hlt, hd]
    have hyearText : t.yearMonth = Str.digitsPad 4 t.year ++ chr '-' :: Str.digitsPad 2 t.month :=
      Instant.yearMonth_eq hyear
    have hdash : t.yearMonth[4]? = some (chr '-') := by
      rw [hyearText, List.getElem?_append_right (by omega), hlen]
      rfl
    have htake : t.yearMonth.take 4 = Str.digitsPad 4 t.year := by
      rw [hyearText]
      exact List.take_left' hlen
    have hdrop : t.yearMonth.drop 5 = Str.digitsPad 2 t.month := by
      rw [hyearText, List.drop_append, List.drop_eq_nil_of_le (by omega), hlen]
      rfl
    have hmonth : parseInt (Str.digitsPad 2 t.month) = some (t.month : Int) :=
      parseInt_digitsPad (by omega) (by omega) t.month_lt
    have hseven : t.yearMonth.length = 7 := by
      rw [hyearText]
      simp
    rw [htake, hdrop, if_pos ⟨hseven, hdash, hdigit _ _, hdigit _ _⟩, hmonth]
    dsimp only
    have hrange : (1 : Int) ≤ t.month ∧ (t.month : Int) ≤ 12 := by
      have h1 := t.isDate.month_pos
      have h2 := t.isDate.month_le
      omega
    rw [if_pos hrange, filedMonth, if_pos hyear]
  · have hshort := Instant.yearMonth_length_lt (t := t) (by omega)
    rw [if_neg (by omega), filedMonth, if_neg hyear]

/-! ## 3. The action of a document

Documents and actions are one to one, in order. -/

/-- The month of a derived document: the collection's for a record, its own for a dated one. -/
def documentMonth (collectedAt : Instant) (document : Obj) : Str :=
  match networkerDocumentMonth document collectedAt.yearMonth with
  | .ok m => m
  | .error _ => []

/-- The action a derived document becomes. -/
def documentAction (s : Source) (collectedAt : Instant) (document : Obj) : Action where
  index := networkerIndex s.name (textField document "document_type") (documentMonth collectedAt document)
  id := textField document "derived_id"
  source := document

/-- What the writer asks of a derived document of source `s`: a known type, the source as the
domain of its record, and either no month or one of an instant. -/
structure Routable (s : Source) (rawDocument document : Obj) : Prop where
  built : ∃ documentType ∈ documentTypes, ∃ record, DocumentOf rawDocument documentType record document ∧
    Obj.get record "security_domain" = .str s.name
  month : Obj.get document "index_month" = .null ∨
    ∃ t : Instant, Obj.get document "index_month" = .str t.yearMonth

/-- A routable document is filed under the month text of some instant. -/
theorem Routable.month_eq_ok {s : Source} {rawDocument document : Obj} (h : Routable s rawDocument document)
    (collectedAt : Instant) : ∃ u : Instant,
      networkerDocumentMonth document collectedAt.yearMonth = .ok u.yearMonth := by
  rcases h.month with hnull | ⟨t, ht⟩
  · exact ⟨collectedAt, networkerDocumentMonth_of_null hnull _⟩
  · obtain ⟨u, hu⟩ := filedMonth_yearMonth t collectedAt
    exact ⟨u, hu ▸ networkerDocumentMonth_of_month ht collectedAt⟩

theorem documentMonth_of_month {document : Obj} {t : Instant}
    (h : Obj.get document "index_month" = .str t.yearMonth) (collectedAt : Instant) :
    documentMonth collectedAt document = filedMonth t collectedAt := by
  unfold documentMonth
  rw [networkerDocumentMonth_of_month h]

/-- The writer never raises on a routable document. -/
theorem derivedAction_of_routable {s : Source} {rawDocument document : Obj} (h : Routable s rawDocument document)
    (collectedAt : Instant) :
    derivedAction collectedAt.yearMonth document = .ok (documentAction s collectedAt document) := by
  obtain ⟨documentType, htype, record, hd, hdomain⟩ := h.built
  obtain ⟨u, hu⟩ := h.month_eq_ok collectedAt
  obtain ⟨a, ha⟩ : ∃ a, derivedAction collectedAt.yearMonth document = .ok a := by
    unfold derivedAction
    rw [hu]
    exact ⟨_, rfl⟩
  obtain ⟨m, hm, heq⟩ := derivedAction_eq_ok hd htype hdomain h.month ha
  have htext : textField document "document_type" = documentType := by
    simp [textField, hd.document_type, Json.asStr?]
  rw [ha, heq, documentAction, htext, documentMonth, hm]

section Result

variable [Hashlib]

/-- The documents a result's payload yields. -/
def resultDocuments (r : CollectionResult) : Gen Obj := iterNetworkerDocuments (rawDocument r) r.payload

theorem routable_of_mem {c : CollectorConfig} {s : Source} {x : NetworkerCollection} {r : CollectionResult}
    (hr : Collected c s x r) {document : Obj} (h : document ∈ (resultDocuments r).items) :
    Routable s (rawDocument r) document := by
  obtain ⟨t, ht, key, hkey, origin, horigin, record, hd, -, hdomain, hmonth⟩ := mem_iterNetworkerDocuments h
  have hclass := hr.classified key hkey origin horigin
  exact ⟨⟨t, ht, record, hd, hdomain.trans hclass.security_domain⟩, hmonth⟩

/-- The derived actions of a result are its documents, one action each and in order. -/
theorem networkerDerivedActions_items {c : CollectorConfig} {s : Source} {x : NetworkerCollection}
    {r : CollectionResult} (hnetworker : c.type = lit "Networker") (hr : Collected c s x r) :
    (networkerDerivedActions r).items = (resultDocuments r).items.map (documentAction s r.collectedAt) := by
  have hdocs : iterDerivedDocuments (rawDocument r) = resultDocuments r :=
    iterDerivedDocuments_rawDocument (hr.targetType.trans hnetworker)
  have haction : ∀ document ∈ (resultDocuments r).items,
      Gen.ofExcept (derivedAction r.collectedAt.yearMonth document) Gen.yield =
        Gen.yield (documentAction s r.collectedAt document) := by
    intro document hd
    rw [derivedAction_of_routable (routable_of_mem hr hd) r.collectedAt]
    rfl
  unfold networkerDerivedActions
  rw [hdocs, Gen.through_of_ok fun document hd => by rw [haction document hd]; rfl]
  dsimp only
  rw [List.flatMap_congr fun document hd => by rw [haction document hd], ← List.flatMap_pure_eq_map]
  rfl

/-! ## 4. The history of a collector

The actions of all collections, one after another, and the store that they leave. -/

/-- The actions one collection yields. -/
def NetworkerCollection.actions (isFile : Str → Bool) (c : CollectorConfig) (x : NetworkerCollection) :
    List Action :=
  match x.result isFile c with
  | .ok r => (iterActionsForResult r).items
  | .error _ => []

/-- The actions a sequence of collections yields. -/
def history (isFile : Str → Bool) (c : CollectorConfig) (xs : List NetworkerCollection) : List Action :=
  xs.flatMap (·.actions isFile c)

/-- The store those actions leave. -/
def stored (isFile : Str → Bool) (c : CollectorConfig) (xs : List NetworkerCollection) :
    Dict (Str × Str) Obj :=
  Dict.written ((history isFile c xs).map Action.write)

omit [Hashlib] in
/-- The given records of every result of a history, each with its result. -/
def overResults (isFile : Str → Bool) (c : CollectorConfig) (xs : List NetworkerCollection)
    (records : CollectionResult → List Obj) : List (CollectionResult × Obj) :=
  xs.flatMap fun x =>
    match x.result isFile c with
    | .ok r => (records r).map fun record => (r, record)
    | .error _ => []

omit [Hashlib] in
theorem mem_overResults {isFile : Str → Bool} {c : CollectorConfig} {xs : List NetworkerCollection}
    {records : CollectionResult → List Obj} {o : CollectionResult × Obj} :
    o ∈ overResults isFile c xs records ↔ ∃ x ∈ xs, x.result isFile c = .ok o.1 ∧ o.2 ∈ records o.1 := by
  unfold overResults
  rw [List.mem_flatMap]
  refine exists_congr fun x => and_congr_right fun _ => ?_
  cases x.result isFile c with
  | error e => simp
  | ok r =>
    obtain ⟨r', record⟩ := o
    simp only [List.mem_map, Prod.mk.injEq, Except.ok.injEq]
    constructor
    · rintro ⟨record', hrecord, rfl, rfl⟩
      exact ⟨rfl, hrecord⟩
    · rintro ⟨rfl, hrecord⟩
      exact ⟨record, hrecord, rfl, rfl⟩

section Keys

variable {isFile : Str → Bool} {c : CollectorConfig} {s : Source} {x : NetworkerCollection}
  {r : CollectionResult}

theorem actions_of_result (hnetworker : c.type = lit "Networker") (hr : Collected c s x r)
    (h : x.result isFile c = .ok r) :
    x.actions isFile c = networkerRawAction r :: ((networkerCurrentActions r).items ++
      (resultDocuments r).items.map (documentAction s r.collectedAt)) := by
  unfold NetworkerCollection.actions iterActionsForResult
  rw [h]
  dsimp only
  rw [if_pos (hr.targetType.trans hnetworker), iterNetworkerActions, Gen.andThen_of_ok rfl,
    Gen.andThen_of_ok (networkerCurrentActions_err r), networkerDerivedActions_items hnetworker hr]
  rfl

omit [Unicode] [Hashlib] in
/-- An operations index is never the index of a derived document. -/
theorem opsIndex_ne (s : Source) (rest t m : Str) : lit "nw-ops-" ++ rest ≠ networkerIndex s.name t m := by
  intro h
  have h3 : (lit "nw-ops-" ++ rest)[3]? = (networkerIndex s.name t m)[3]? := by rw [h]
  rcases s.cases with hs | hs | hs <;>
    · rw [networkerIndex, hs] at h3
      exact absurd (Option.some.inj h3) (by decide)

omit [Unicode] [Hashlib] in
/-- The index of a derived document determines its type and its month. -/
theorem networkerIndex_inj {source t t' : Str} (ht : t ∈ documentTypes) (ht' : t' ∈ documentTypes)
    {u u' : Instant} (h : networkerIndex source t u.yearMonth = networkerIndex source t' u'.yearMonth) :
    t = t' ∧ u.yearMonth = u'.yearMonth := by
  -- a type has no digit in it and a month starts with one, so the first digit separates them
  have hsplit : ∀ t ∈ documentTypes, ∀ u : Instant,
      (t ++ lit "-" ++ u.yearMonth).takeWhile (fun ch => !isAsciiDigit ch) = t ++ lit "-" := by
    intro t ht u
    obtain ⟨d, rest, hu, hd⟩ := u.yearMonth_head
    have hplain : ∀ ch ∈ t ++ lit "-", (!isAsciiDigit ch) = true := by
      refine List.all_eq_true.mp ?_
      simp only [documentTypes, List.mem_cons, List.not_mem_nil, or_false] at ht
      rcases ht with rfl | rfl | rfl | rfl | rfl | rfl <;> rfl
    rw [List.takeWhile_append_of_pos hplain, hu, List.takeWhile_cons, hd]
    simp
  have hrest : t ++ lit "-" ++ u.yearMonth = t' ++ lit "-" ++ u'.yearMonth := by
    have h' := List.append_cancel_left h
    simp only [List.append_assoc] at h' ⊢
    exact List.append_cancel_left h'
  have htypes : t ++ lit "-" = t' ++ lit "-" := by
    rw [← hsplit t ht u, hrest, hsplit t' ht' u']
  refine ⟨List.append_cancel_right htypes, ?_⟩
  rw [htypes] at hrest
  exact List.append_cancel_left hrest

/-- An action in the index of a document type is the action of a document of that type. -/
theorem mem_actions_of_index (hnetworker : c.type = lit "Networker") (hr : Collected c s x r)
    (h : x.result isFile c = .ok r) {a : Action} (ha : a ∈ x.actions isFile c) {t : Str}
    (ht : t ∈ documentTypes) {u : Instant} (hindex : a.index = networkerIndex s.name t u.yearMonth) :
    ∃ document ∈ (resultDocuments r).items, a = documentAction s r.collectedAt document ∧
      Obj.get document "document_type" = .str t := by
  rw [actions_of_result hnetworker hr h] at ha
  rcases List.mem_cons.mp ha with rfl | ha
  · rw [networkerRawAction_index] at hindex
    exact absurd hindex (by
      rw [show lit "nw-ops-raw-" = lit "nw-ops-" ++ lit "raw-" from rfl]
      simp only [List.append_assoc]
      exact opsIndex_ne s _ t _)
  · rcases List.mem_append.mp ha with ha | ha
    · rw [mem_networkerCurrentActions ha, networkerCurrentAction_index] at hindex
      exact absurd hindex (by
        rw [show lit "nw-ops-current-" = lit "nw-ops-" ++ lit "current-" from rfl]
        simp only [List.append_assoc]
        exact opsIndex_ne s _ t _)
    · obtain ⟨document, hdoc, rfl⟩ := List.mem_map.mp ha
      have hroutable := routable_of_mem hr hdoc
      obtain ⟨t', ht', record, hd, -⟩ := hroutable.built
      obtain ⟨u', hu'⟩ := hroutable.month_eq_ok r.collectedAt
      have htext : textField document "document_type" = t' := by
        simp [textField, hd.document_type, Json.asStr?]
      have hmonth : documentMonth r.collectedAt document = u'.yearMonth := by
        rw [documentMonth, hu']
      rw [documentAction, htext, hmonth] at hindex
      obtain ⟨rfl, -⟩ := networkerIndex_inj ht' ht hindex
      exact ⟨document, hdoc, rfl, hd.document_type⟩

end Keys

/-! ## 5. Documents of one kind about one thing

From the actions of a history to those that are about one thing. -/

omit [Unicode] [Hashlib] in
/-- Ids of one collector and one kind are told apart by their last part. -/
theorem join_id_inj {collector kind id id' : Str}
    (h : Str.join ":" [collector, kind, id] = Str.join ":" [collector, kind, id']) : id = id' := by
  have h' := List.append_cancel_left h
  exact List.append_cancel_left h'

/-- A document of the given type whose record has the given id. -/
def isDocumentOf (documentType field id : Str) (document : Obj) : Bool :=
  decide (Obj.get document "document_type" = .str documentType) &&
    match Obj.get document "payload" with
    | .obj record => decide (Obj.get record field = .str id)
    | _ => false

omit [Unicode] [Hashlib] in
theorem isDocumentOf_of_documentOf {rawDocument record document : Obj} {documentType t field id : Str}
    (h : DocumentOf rawDocument documentType record document) :
    isDocumentOf t field id document = true ↔ documentType = t ∧ Obj.get record field = .str id := by
  unfold isDocumentOf
  rw [h.document_type, h.payload]
  simp

/-- The documents of a result, part by part: records, backups and, unless a backup raised, job
runs. -/
theorem resultDocuments_items (r : CollectionResult) :
    (resultDocuments r).items =
      iterRecordDocuments (rawDocument r) r.payload "networker" networkerSpecs ++
        ((iterNetworkerBackupDocuments (rawDocument r) r.payload).items ++
          if (iterNetworkerBackupDocuments (rawDocument r) r.payload).err.isNone then
            (iterNetworkerJobRunDocuments (rawDocument r) r.payload).items
          else []) := by
  unfold resultDocuments iterNetworkerDocuments
  rw [Gen.andThen_of_ok rfl, Gen.andThen_items]

omit [Unicode] [Hashlib] in
theorem type_of_isDocumentOf {t field id : Str} {document : Obj} (h : isDocumentOf t field id document = true) :
    Obj.get document "document_type" = .str t :=
  of_decide_eq_true (Bool.and_eq_true_iff.mp h).1

omit [Hashlib] in
/-- A record document is neither a backup nor a job run. -/
theorem type_of_recordDocument {rawDocument payload document : Obj}
    (h : document ∈ iterRecordDocuments rawDocument payload "networker" networkerSpecs) :
    Obj.get document "document_type" ≠ .str "backup" ∧ Obj.get document "document_type" ≠ .str "job-run" := by
  obtain ⟨spec, hspec, h⟩ := List.mem_flatMap.mp h
  obtain ⟨entry, -, rfl⟩ := List.mem_map.mp h
  rw [(recordDocument_documentOf rawDocument spec entry.1 entry.2).1.document_type]
  simp only [networkerSpecs, List.mem_cons, List.not_mem_nil, or_false] at hspec
  rcases hspec with rfl | rfl | rfl | rfl <;> decide

theorem type_of_backupDocument {rawDocument payload document : Obj}
    (h : document ∈ (iterNetworkerBackupDocuments rawDocument payload).items) :
    Obj.get document "document_type" = .str "backup" := by
  obtain ⟨backup, -, h⟩ := Gen.mem_each h
  obtain ⟨_, event, identity, -, -, -, -, rfl⟩ := mem_networkerBackupDocument h
  exact (backupDocument_monthly rawDocument backup identity.1 identity.2 event).document_type

omit [Hashlib] in
theorem type_of_jobRunDocument {rawDocument payload document : Obj}
    (h : document ∈ (iterNetworkerJobRunDocuments rawDocument payload).items) :
    Obj.get document "document_type" = .str "job-run" := by
  obtain ⟨job, -, h⟩ := Gen.mem_each h
  obtain ⟨record, hrecord, rfl⟩ := mem_networkerJobRunDocument h
  obtain ⟨startTime, endTime, event, duration, -, -, -, rfl⟩ := jobRunRecord_eq_some hrecord
  exact (jobRunDocument_monthly rawDocument _
    (get_jobRun_month job startTime endTime event duration)).document_type

/-- The actions of a class of derived documents are the actions of the documents of that class. -/
theorem filter_actions {isFile : Str → Bool} {c : CollectorConfig} {s : Source} {x : NetworkerCollection}
    {r : CollectionResult} (hnetworker : c.type = lit "Networker") (hr : Collected c s x r)
    (h : x.result isFile c = .ok r) {p : Obj → Bool}
    (hp : ∀ document, p document = true → ∃ t ∈ documentTypes, Obj.get document "document_type" = .str t) :
    (x.actions isFile c).filter (fun a => p a.source) =
      ((resultDocuments r).items.filter p).map (documentAction s r.collectedAt) := by
  have hother : ∀ t' : Str, t' ∉ documentTypes → ∀ document : Obj,
      Obj.get document "document_type" = .str t' → ¬ p document = true := by
    intro t' ht' document hd hdoc
    obtain ⟨t, ht, htype⟩ := hp document hdoc
    have htt : t' = t := by
      simpa using hd.symm.trans htype
    exact ht' (htt ▸ ht)
  have hraw : ¬ p (networkerRawAction r).source = true :=
    hother "collection" (by decide) _ (by simp [networkerRawAction, rawDocument, Obj.get_set])
  have hcurrent : (networkerCurrentActions r).items.filter (fun a => p a.source) = [] := by
    refine List.filter_eq_nil_iff.mpr fun a ha => ?_
    rw [mem_networkerCurrentActions ha]
    exact hother "status" (by decide) _ (by simp [networkerCurrentAction, currentDocument])
  rw [actions_of_result hnetworker hr h, List.filter_cons, if_neg hraw, List.filter_append, hcurrent,
    List.nil_append, List.filter_map]
  rfl

end Result

end History

end BackupCollector
