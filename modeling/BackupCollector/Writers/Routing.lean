/-
# Which index a NetWorker result goes to

The writer routes by three values: the source of the whole result, the security domain of each
derived document and the document's month.  The first two come from the payload, and the parser has
overwritten them with the configured source in every record, so whatever the API sends, a record
stays in the indexes of that source (`networker_result_routed_by_source`).

The theorem is about any payload of any class.  Two servers may report jobs of each other, a
response may claim to be of another domain, and a collector may have a misleading name; none of
that has a way into an index name, and `spoofed_result_routed_by_source` is a response that tries
all of it.

Index names are lower-cased as one string.  Every part of a name is ASCII, so lower-casing it is
the fixed rule of `asciiLower` and depends on no character table; and some parts are upper-cased
before, which lower-casing undoes for the known sources.

The month may come from anywhere, but a text that is none is not taken.  A result WITHOUT a parse,
which has nothing derived, is routed by its name, and is the subject of `Current`.
-/
import BackupCollector.Writers.Elasticsearch
import BackupCollector.Processors.NetworkerDocuments
import BackupCollector.Collectors.NetworkerRest
import BackupCollector.Py.Sha256

namespace BackupCollector

open Py

section Routing

variable [Unicode] [Hashlib]

/-! ## 1. The parts of an index name

What a name can be made of, and that lower-casing it is harmless. -/

omit [Hashlib] in
/-- A lower-cased index name whose middle part was upper-cased for it. -/
theorem normalizeIndexName_upper (pre post : Str) {mid : Str} (hpre : isAscii pre = true)
    (hmid : isAscii mid = true) (hpost : isAscii post = true) (hlow : asciiLower (asciiUpper mid) = mid) :
    normalizeIndexName (pre ++ Str.upper mid ++ post) = asciiLower pre ++ mid ++ asciiLower post := by
  rw [Str.upper_of_ascii hmid]
  have hascii : isAscii (pre ++ asciiUpper mid ++ post) = true := by
    rw [isAscii_append, isAscii_append, hpre, isAscii_upper hmid, hpost]
    rfl
  rw [normalizeIndexName, Str.lower_of_ascii hascii, asciiLower_append, asciiLower_append, hlow]

omit [Unicode] [Hashlib] in
theorem Source.lower_upper (s : Source) : Py.asciiLower (asciiUpper s.name) = s.name := by
  rcases s.cases with h | h | h <;> rw [h] <;> decide

/-- The index of a derived document. -/
def networkerIndex (source documentType month : Str) : Str :=
  lit "nw-" ++ source ++ (lit "-" ++ documentType ++ lit "-" ++ month)

omit [Unicode] [Hashlib] in
theorem documentTypes_ascii : ∀ t ∈ documentTypes,
    isAscii t = true ∧ asciiLower t = t ∧ asciiLower (asciiUpper t) = t ∧ Str.strip t = t ∧
      t ≠ [] ∧ t ≠ lit "monthly-report" := by
  intro t ht
  simp only [documentTypes, List.mem_cons, List.not_mem_nil, or_false] at ht
  rcases ht with rfl | rfl | rfl | rfl | rfl | rfl <;> decide

omit [Hashlib] in
theorem networkerEntitySegment_of {document : Obj} {t : Str} (ht : t ∈ documentTypes)
    (h : Obj.get document "document_type" = .str t) : networkerEntitySegment document = asciiUpper t := by
  obtain ⟨hascii, hlow, -, hstrip, hne, hmonthly⟩ := documentTypes_ascii t ht
  have htext : (Json.str t).orElse (.str "unknown") = .str t := by
    simp [Json.orElse, Json.truthy, hne]
  unfold networkerEntitySegment
  rw [h, htext]
  simp only [Json.toStr, hstrip, Str.lower_of_ascii hascii, hlow, if_neg hmonthly, Str.upper_of_ascii hascii]

omit [Hashlib] in
/-- A domain that is a known source is kept as it is. -/
theorem securityDomain_of {document record : Obj} {s : Source}
    (hp : Obj.get document "payload" = .obj record)
    (hd : Obj.get record "security_domain" = .str s.name) : securityDomain document = s.name := by
  have hne : s.name ≠ [] := by rcases s.cases with h | h | h <;> rw [h] <;> decide
  have htext : (Json.str s.name).orElse (.str "unmapped") = .str s.name := by
    simp [Json.orElse, Json.truthy, hne]
  unfold securityDomain
  simp only [hp, hd, htext, Json.toStr, s.strip, s.lower, if_pos s.known]

omit [Hashlib] in
/-- The month of a document that returns is its own month text or the fallback. -/
theorem networkerDocumentMonth_eq_ok {document : Obj} {fallback m : Str}
    (h : networkerDocumentMonth document fallback = .ok m) :
    m = fallback ∨ m = Json.toStr ((Obj.get document "index_month").orElse (.str [])) := by
  unfold networkerDocumentMonth at h
  dsimp only at h
  split at h
  · split at h
    · cases h
    · split at h
      · exact Or.inr (Except.ok.inj h).symm
      · exact Or.inl (Except.ok.inj h).symm
  · exact Or.inl (Except.ok.inj h).symm

omit [Hashlib] in
/-- A month an index can carry: ASCII and already in lower case. -/
theorem networkerDocumentMonth_ascii {document : Obj} {t : Instant} {m : Str}
    (hm : Obj.get document "index_month" = .null ∨ ∃ u : Instant, Obj.get document "index_month" = .str u.yearMonth)
    (h : networkerDocumentMonth document t.yearMonth = .ok m) : ∃ u : Instant, m = [] ∨ m = u.yearMonth := by
  rcases networkerDocumentMonth_eq_ok h with rfl | rfl
  · exact ⟨t, Or.inr rfl⟩
  · rcases hm with hm | ⟨u, hm⟩
    · refine ⟨t, Or.inl ?_⟩
      rw [hm]
      rfl
    · refine ⟨u, Or.inr ?_⟩
      rw [hm]
      simp [Json.orElse, Json.truthy, u.yearMonth_ne_nil, Json.toStr]

/-! ## 2. One derived action

The index of an action, from what its document says. -/

omit [Hashlib] in
/-- The index of a derived action, from what its document says. -/
theorem derivedAction_eq_ok {rawDocument record document : Obj} {documentType : Str} {s : Source} {t : Instant}
    {a : Action} (hd : DocumentOf rawDocument documentType record document) (ht : documentType ∈ documentTypes)
    (hdomain : Obj.get record "security_domain" = .str s.name)
    (hm : Obj.get document "index_month" = .null ∨
      ∃ u : Instant, Obj.get document "index_month" = .str u.yearMonth)
    (h : derivedAction t.yearMonth document = .ok a) :
    ∃ m, networkerDocumentMonth document t.yearMonth = .ok m ∧
      a = ⟨networkerIndex s.name documentType m, textField document "derived_id", document⟩ := by
  obtain ⟨m, hmonth, ha⟩ := bind_eq_ok.mp h
  refine ⟨m, hmonth, ?_⟩
  obtain ⟨hascii, -, hlow, -, -, -⟩ := documentTypes_ascii documentType ht
  obtain ⟨u, hu⟩ := networkerDocumentMonth_ascii hm hmonth
  have hmascii : isAscii m = true := by
    rcases hu with rfl | rfl
    · rfl
    · exact u.isAscii_yearMonth
  have hmlow : asciiLower m = m := by
    rcases hu with rfl | rfl
    · rfl
    · exact u.asciiLower_yearMonth
  have hrest : isAscii (lit "-" ++ asciiUpper documentType ++ lit "-" ++ m) = true := by
    rw [isAscii_append, isAscii_append, isAscii_append, isAscii_upper hascii, hmascii]
    rfl
  have hindex : normalizeIndexName (lit "NW-" ++ Str.upper s.name ++ lit "-" ++ asciiUpper documentType ++
      lit "-" ++ m) = networkerIndex s.name documentType m := by
    have h1 := normalizeIndexName_upper (lit "NW-") _ (by decide) s.isAscii hrest s.lower_upper
    simp only [List.append_assoc] at h1 ⊢
    rw [h1]
    simp only [asciiLower_append, hlow, hmlow, networkerIndex, List.append_assoc]
    rfl
  rw [securityDomain_of hd.payload hdomain, networkerEntitySegment_of ht hd.document_type, hindex] at ha
  exact (Except.ok.inj ha).symm

/-! ## 3. The result of a collection

The payload carries a parse, and the parse carries the source. -/

/-- A NetWorker result whose payload carries a parse with the configured source. -/
structure WritesParse (result : CollectionResult) (parsed : Parsed) : Prop where
  networker : result.targetType = lit "Networker"
  carries : Carries result.payload parsed

omit [Unicode] [Hashlib] in
/-- The lists of a payload are the lists of the parse it carries. -/
theorem Carries.records {payload : Obj} {parsed : Parsed} (h : Carries payload parsed) :
    payloadRecords payload "jobs" = parsed.jobs ∧ payloadRecords payload "backups" = parsed.backups ∧
      payloadRecords payload "clients" = parsed.clients ∧ payloadRecords payload "policies" = parsed.policies ∧
      payloadRecords payload "workflows" = parsed.workflows := by
  have hdict : ∀ rs : List Obj, dictItems (rs.map .obj) = rs := by
    intro rs
    rw [dictItems, List.filterMap_map]
    exact List.filterMap_some
  simp only [payloadRecords, h.jobs, h.backups, h.clients, h.policies, h.workflows, hdict, and_self]

omit [Hashlib] in
/-- Every record of a parse carries the configured source. -/
theorem ParsesTo.classified {payloads : Obj} {serverName : Str} {source : Source} {parsed : Parsed}
    (h : ParsesTo payloads serverName source parsed) {payload : Obj} (hc : Carries payload parsed)
    {key : Str} (hkey : key ∈ recordKeys) : ∀ r ∈ payloadRecords payload key, Classified source r := by
  obtain ⟨jobs, hjobs, -⟩ := h.jobs
  obtain ⟨backups, hbackups, -⟩ := h.backups
  obtain ⟨h1, h2, h3, h4, h5⟩ := hc.records
  have hmap : ∀ rs : List Obj, ∀ r ∈ rs.map (classifyRecord source), Classified source r := by
    intro rs r hr
    obtain ⟨r', -, rfl⟩ := List.mem_map.mp hr
    exact classifyRecord_classified source r'
  simp only [recordKeys, List.mem_cons, List.not_mem_nil, or_false] at hkey
  rcases hkey with rfl | rfl | rfl | rfl | rfl
  · rw [h1, hjobs]
    exact hmap _
  · rw [h3, h.clients]
    exact hmap _
  · rw [h4, h.policies]
    exact hmap _
  · rw [h5, h.workflows]
    exact hmap _
  · rw [h2, hbackups]
    exact hmap _

omit [Hashlib] in
theorem ParsesTo.summary_source {payloads : Obj} {serverName : Str} {source : Source} {parsed : Parsed}
    (h : ParsesTo payloads serverName source parsed) :
    Obj.get parsed.summary "source_networker" = .str source.name := by
  obtain ⟨extra, hkeys, hsummary⟩ := h.summary
  have hnot : lit "source_networker" ∉ Dict.keys extra := by
    intro hmem
    rcases hkeys _ hmem with he | he <;> simp at he
  rw [hsummary, Obj.get_update_of_notMem hnot, Obj.get_set, if_pos rfl]

omit [Hashlib] in
theorem networkerSource_of {result : CollectionResult} {summary : Obj} {s : Source}
    (hp : Obj.get result.payload "summary" = .obj summary)
    (hs : Obj.get summary "source_networker" = .str s.name) : networkerSource result = s.name := by
  have hne : (Json.str s.name).truthy = true := by
    rcases s.cases with h | h | h <;> rw [h] <;> decide
  have hsum : summaryOf result.payload = summary := by simp [summaryOf, hp, Json.asObj?]
  unfold networkerSource
  simp only [hsum, hs, hne, if_true, Json.toStr, s.strip, s.lower, if_pos s.known]

omit [Hashlib] in
/-- The source of a result is a known one or `unknown`; either way upper-casing it for an index
name and lower-casing the name gives it back. -/
theorem networkerSource_plain (result : CollectionResult) :
    isAscii (networkerSource result) = true ∧
      Py.asciiLower (asciiUpper (networkerSource result)) = networkerSource result := by
  unfold networkerSource
  extract_lets stated source
  by_cases h : source ∈ sourceNames
  · rw [if_pos h]
    exact ⟨Source.isAscii ⟨source, h⟩, Source.lower_upper ⟨source, h⟩⟩
  · rw [if_neg h]
    decide

omit [Hashlib] in
theorem networkerRawAction_index (result : CollectionResult) :
    (networkerRawAction result).index =
      lit "nw-ops-raw-" ++ networkerSource result ++ (lit "-" ++ result.collectedAt.yearMonth) := by
  have hpost : isAscii (lit "-" ++ result.collectedAt.yearMonth) = true := by
    rw [isAscii_append, result.collectedAt.isAscii_yearMonth]
    rfl
  obtain ⟨hascii, hlow⟩ := networkerSource_plain result
  have h1 := normalizeIndexName_upper (lit "NW-OPS-RAW-") _ (by decide) hascii hpost hlow
  simp only [networkerRawAction]
  rw [List.append_assoc, h1, asciiLower_append, result.collectedAt.asciiLower_yearMonth]
  rfl

omit [Hashlib] in
theorem networkerCurrentAction_index (result : CollectionResult) :
    (networkerCurrentAction result).index = lit "nw-ops-current-" ++ networkerSource result := by
  obtain ⟨hascii, hlow⟩ := networkerSource_plain result
  have h1 := normalizeIndexName_upper (lit "NW-OPS-CURRENT-") [] (by decide) hascii (by decide) hlow
  simp only [networkerCurrentAction]
  rw [List.append_nil] at h1
  rw [h1]
  exact List.append_nil _

/-! ## 4. Every action of a result

The three kinds of actions, each with its index. -/

/-- The raw document of a NetWorker result is read by the NetWorker builder. -/
theorem iterDerivedDocuments_rawDocument {result : CollectionResult}
    (h : result.targetType = lit "Networker") :
    iterDerivedDocuments (rawDocument result) = iterNetworkerDocuments (rawDocument result) result.payload := by
  have hp : Obj.get (rawDocument result) "payload" = .obj result.payload := by
    simp [rawDocument, CollectionResult.toDocument, Obj.get_set]
  have ht : Obj.get (rawDocument result) "target_type" = .str "Networker" := by
    simp [rawDocument, CollectionResult.toDocument, Obj.get_set, h]
  unfold iterDerivedDocuments
  rw [hp]
  simp only [ht, if_true]

/-- A derived action of a NetWorker result that carries a parse: its document keeps the
configured source, and its index is the one of that source, the document's kind and a month. -/
theorem mem_networkerDerivedActions {payloads : Obj} {serverName : Str} {s : Source} {parsed : Parsed}
    {result : CollectionResult} (hparse : ParsesTo payloads serverName s parsed)
    (hw : WritesParse result parsed) {a : Action} (ha : a ∈ (networkerDerivedActions result).items) :
    Classified s a.source ∧ ∃ t ∈ documentTypes, ∃ m, a.index = networkerIndex s.name t m := by
  obtain ⟨document, hdoc, ha⟩ := Gen.mem_through ha
  obtain ⟨action, haction, ha⟩ := Gen.mem_ofExcept ha
  rw [iterDerivedDocuments_rawDocument hw.networker] at hdoc
  obtain ⟨t, ht, key, hkey, origin, horigin, record, hd, hsource, hdomain, hmonth⟩ :=
    mem_iterNetworkerDocuments hdoc
  have hclass := hparse.classified hw.carries hkey origin horigin
  have hrd := hdomain.trans hclass.security_domain
  obtain ⟨m, -, haction⟩ := derivedAction_eq_ok hd ht hrd hmonth haction
  obtain rfl : a = action := by simpa [Gen.yield] using ha
  subst haction
  exact ⟨⟨hd.source_networker.trans (hsource.trans hclass.source_networker),
    hd.security_domain.trans hrd⟩, t, ht, m, rfl⟩

omit [Hashlib] in
theorem networkerCurrentActions_err (result : CollectionResult) :
    (networkerCurrentActions result).err = none := by
  unfold networkerCurrentActions
  split <;> rfl

omit [Hashlib] in
theorem mem_networkerCurrentActions {result : CollectionResult} {a : Action}
    (h : a ∈ (networkerCurrentActions result).items) : a = networkerCurrentAction result := by
  unfold networkerCurrentActions at h
  split at h
  · exact List.mem_singleton.mp h
  · simp [Gen.empty] at h

/-- What routing by the configured source means for one result: each of its actions is accounted
for, goes to an index of the source, and the derived ones carry it. -/
structure RoutedBySource (s : Source) (result : CollectionResult) : Prop where
  /-- The result's actions are the raw one, for two classes the current one, and the derived
  ones. -/
  actions : (iterActionsForResult result).items =
    networkerRawAction result :: ((networkerCurrentActions result).items ++
      (networkerDerivedActions result).items)
  raw : (lit "nw-ops-raw-" ++ s.name ++ lit "-") <+: (networkerRawAction result).index
  current : ∀ a ∈ (networkerCurrentActions result).items, a.index = lit "nw-ops-current-" ++ s.name
  derived : ∀ a ∈ (networkerDerivedActions result).items,
    (lit "nw-" ++ s.name ++ lit "-") <+: a.index ∧ Classified s a.source

/-- **Whatever a response says, the result is routed by the configured source**: its raw and
current documents and every derived one go to indexes of that source, and the derived ones carry it
in both fields.  A result without a parse is not covered. -/
theorem networker_result_routed_by_source {payloads : Obj} {serverName : Str} {configured : Json} {s : Source}
    {now : Instant} {parsed : Parsed} (hs : validateSourceNetworker configured = .ok s)
    (hparse : parseNetworkerRestPayload payloads serverName configured now = .ok parsed)
    (result : CollectionResult) (htype : result.targetType = lit "Networker")
    (hpayload : result.payload = parsed.toObj ∨ ∃ raw, result.payload = collectedPayload raw parsed) :
    RoutedBySource s result := by
  obtain ⟨source, hsource, hp⟩ := parse_eq_ok hparse
  obtain rfl : source = s := Except.ok.inj (hsource.symm.trans hs)
  have hcarries : Carries result.payload parsed := by
    rcases hpayload with h | ⟨raw, h⟩ <;> rw [h]
    · exact toObj_carries parsed
    · exact collectedPayload_carries raw parsed
  obtain ⟨summary, hsummary, hstated⟩ := hcarries.source
  have hnetworker := networkerSource_of hsummary (hstated.trans hp.summary_source)
  constructor
  · unfold iterActionsForResult
    rw [if_pos htype, iterNetworkerActions, Gen.andThen_of_ok rfl,
      Gen.andThen_of_ok (networkerCurrentActions_err result)]
    rfl
  · rw [networkerRawAction_index, hnetworker]
    exact ⟨result.collectedAt.yearMonth, by simp only [List.append_assoc]⟩
  · intro a ha
    rw [mem_networkerCurrentActions ha, networkerCurrentAction_index, hnetworker]
  · intro a ha
    obtain ⟨hclass, t, -, m, hindex⟩ := mem_networkerDerivedActions hp ⟨htype, hcarries⟩ ha
    refine ⟨⟨t ++ lit "-" ++ m, ?_⟩, hclass⟩
    rw [hindex, networkerIndex]
    simp only [List.append_assoc]

end Routing

/-! ## 5. A response that names another domain

A payload that names two other domains. -/

section Spoofed

attribute [local instance] Unicode.ascii Hashlib.hashlib

/-- A job that claims to belong to two other sources. -/
def spoofedPayloads : Obj := [("jobs", .obj [("jobs", .arr [.obj [
  ("id", .int 7), ("startTime", .str "2026-10-01T00:00:00Z"), ("completionStatus", .str "Failed"),
  ("security_domain", .str "info"), ("source_networker", .str "chnl")]])])]

/-- 2025-11-29T08:00:00Z -/
def spoofedAt : Instant := ⟨63900000000000000, by decide⟩

/-- The result of a collector whose name points elsewhere, too. -/
def spoofedResult (parsed : Parsed) : CollectionResult where
  collector := "nw-info-01"
  targetType := "Networker"
  protocol := "rest"
  collectedAt := spoofedAt
  ok := true
  payload := collectedPayload spoofedPayloads parsed

theorem spoofed_result_routed_by_source : ∃ parsed,
    parseNetworkerRestPayload spoofedPayloads "nw-info-01" (.str " Core ") spoofedAt = .ok parsed ∧
      RoutedBySource ⟨"core", by decide⟩ (spoofedResult parsed) := by
  obtain ⟨parsed, h⟩ := ok_of_isOk (x := parseNetworkerRestPayload spoofedPayloads "nw-info-01"
    (.str " Core ") spoofedAt) (by decide +kernel)
  have hs : validateSourceNetworker (.str " Core ") = .ok ⟨"core", by decide⟩ := by decide +kernel
  exact ⟨parsed, h, networker_result_routed_by_source hs h (spoofedResult parsed) rfl
    (Or.inr ⟨spoofedPayloads, rfl⟩)⟩

end Spoofed

end BackupCollector
