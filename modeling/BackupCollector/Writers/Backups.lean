/-
# One stored event per backup

A backup is its id and its save time.  It is observed many times, since the windows of
consecutive collections overlap, and an early observation may not have a completion yet.  The
writer files a document under an index and an id, and the store keeps the last document written
under each pair.  The id is the collector, `backup` and the document id, so it is the same for
every observation; but the index carries the MONTH OF THE EVENT, and the event is the completion
where there is one, else the save time.  A backup saved at the end of a month and completed at
the beginning of the next is therefore filed under two months, once before it completed and once
after, and the store holds it twice (`boundary_backup_stored_twice`).

`one_backup_event_iff` says when that does not happen, exactly, and in terms of the times the API
sent.  A history keeps one document of a backup when

* all its observations the writer gets to fall in one UTC month, by their own event (an event
  before the year 1000 has no month the writer accepts, and counts with its collection's time);
* of what is filed under the backup's id in that month, the last is an observation of THIS
  backup.  An id that is used again with another save time in the same month takes over the
  document; in another month it does not touch it.

The second condition also says that an observed backup is filed at all: the loop over the backups
ends at the first that cannot be identified, and what stands behind it is not filed.

Of the collector only its type and a valid source are used.  Nothing is assumed of the payloads,
of the order of the collections or of their times.
-/
import BackupCollector.Writers.BackupPasses

namespace BackupCollector

open Py

section Backups

variable [Unicode] [Hashlib]

/-! ## 1. The observations of a backup

What a history observes are the backups of its results; what it files are those the writer gets
to.  Both are lists in the order of the collections, and in the order of the payload within one. -/

/-- The backups a history observes. -/
def observedBackups (isFile : Str → Bool) (c : CollectorConfig) (xs : List NetworkerCollection) :
    List (CollectionResult × Obj) :=
  overResults isFile c xs fun r => payloadRecords r.payload "backups"

/-- The backups that the writer gets to. -/
def filedBackups (isFile : Str → Bool) (c : CollectorConfig) (xs : List NetworkerCollection) :
    List (CollectionResult × Obj) :=
  overResults isFile c xs reachedBackups

omit [Hashlib] in
/-- A record is an observation of the backup with this id and this save time; without an event it
is none, since no document is made of it. -/
def Observes (b : Str) (save : Option Instant) (backup : Obj) : Prop :=
  string (Obj.get backup "backup_id") = b ∧ timeOf backup "save_time" = save ∧ (eventOf backup).isSome = true

omit [Hashlib] in
instance (b : Str) (save : Option Instant) (backup : Obj) : Decidable (Observes b save backup) :=
  inferInstanceAs (Decidable (_ ∧ _))

/-- The id a backup is filed under: its own, else the digest of its client, save set and completion. -/
def documentId (backup : Obj) : Str :=
  ((networkerBackupIdentity backup (timeOf backup "completion_time")).toOption.getD ([], [])).1

/-- A record is filed under an id. -/
def FiledUnder (b : Str) (backup : Obj) : Prop := documentId backup = b ∧ (eventOf backup).isSome = true

instance (b : Str) (backup : Obj) : Decidable (FiledUnder b backup) := inferInstanceAs (Decidable (_ ∧ _))

omit [Hashlib] in
/-- The time whose month an observation is filed under. -/
def filedAt (o : CollectionResult × Obj) : Instant :=
  if 1000 ≤ ((eventOf o.2).getD o.1.collectedAt).year then (eventOf o.2).getD o.1.collectedAt else o.1.collectedAt

omit [Unicode] [Hashlib] in
/-- Two instants in one UTC month. -/
def SameMonth (t u : Instant) : Prop := t.year = u.year ∧ t.month = u.month

omit [Unicode] [Hashlib] in
instance (t u : Instant) : Decidable (SameMonth t u) := inferInstanceAs (Decidable (_ ∧ _))

/-- A document of the given backup. -/
def isBackupOf (b : Str) (save : Option Instant) (document : Obj) : Bool :=
  isDocumentOf "backup" "backup_id" b document &&
    match Obj.get document "payload" with
    | .obj record => decide (Obj.get record "save_time" = isoformat save)
    | _ => false

/-- What one stored event per backup means for a history: all its documents go to one place, and
once it is observed the store has one document of it. -/
structure OneBackupEvent (isFile : Str → Bool) (c : CollectorConfig) (xs : List NetworkerCollection) (b : Str)
    (save : Option Instant) : Prop where
  sameKey : ∀ a ∈ history isFile c xs, ∀ a' ∈ history isFile c xs,
    isBackupOf b save a.source = true → isBackupOf b save a'.source = true → a.key = a'.key
  one : (∃ o ∈ observedBackups isFile c xs, Observes b save o.2) →
    ∃ e, (stored isFile c xs).filter (fun e => isBackupOf b save e.2) = [e]

/-- The condition: the observations that are filed fall in one month, and the last backup that is
filed under the id in that month is one of them. -/
structure FiledInOneMonth (isFile : Str → Bool) (c : CollectorConfig) (xs : List NetworkerCollection) (b : Str)
    (save : Option Instant) : Prop where
  sameMonth : ∀ o ∈ filedBackups isFile c xs, ∀ o' ∈ filedBackups isFile c xs,
    Observes b save o.2 → Observes b save o'.2 → SameMonth (filedAt o) (filedAt o')
  last : (∃ o ∈ observedBackups isFile c xs, Observes b save o.2) → ∃ o, Observes b save o.2 ∧
    ((filedBackups isFile c xs).filter fun o' =>
      decide (FiledUnder b o'.2 ∧ SameMonth (filedAt o') (filedAt o))).getLast? = some o

/-! ## 2. The write of an observation

A backup the writer gets to becomes one write, or none.  Its key is the month of its event and its
document id, and its document says which backup it is of. -/

/-- The key of a backup document. -/
def backupKey (c : CollectorConfig) (s : Source) (b : Str) (t : Instant) : Str × Str :=
  (networkerIndex s.name "backup" t.yearMonth, Str.join ":" [c.name, "backup", b])

/-- What a backup that the writer gets to is written as. -/
def backupWrite (c : CollectorConfig) (s : Source) (o : CollectionResult × Obj) : Option ((Str × Str) × Obj) :=
  (backupFiling (rawDocument o.1) o.2).map fun document => (backupKey c s (documentId o.2) (filedAt o), document)

omit [Unicode] [Hashlib] in
theorem backupKey_eq_iff {c : CollectorConfig} {s : Source} {b b' : Str} {t t' : Instant} :
    backupKey c s b t = backupKey c s b' t' ↔ b = b' ∧ SameMonth t t' := by
  unfold backupKey SameMonth
  rw [Prod.mk.injEq, ← Instant.yearMonth_inj]
  constructor
  · rintro ⟨hindex, hid⟩
    exact ⟨join_id_inj hid, List.append_cancel_left (List.append_cancel_left hindex)⟩
  · rintro ⟨rfl, hmonth⟩
    rw [hmonth]
    exact ⟨rfl, rfl⟩

/-- A backup is filed when it has an identity with an id and an event. -/
theorem backupFiling_eq_some {rawDocument backup document : Obj} : backupFiling rawDocument backup = some document ↔
    ∃ identity event, networkerBackupIdentity backup (timeOf backup "completion_time") = .ok identity ∧
      eventOf backup = some event ∧ identity.1 ≠ [] ∧
        document = backupDocument rawDocument backup identity.1 identity.2 event := by
  unfold backupFiling
  cases networkerBackupIdentity backup (timeOf backup "completion_time") with
  | error e => simp [Except.toOption]
  | ok identity =>
    cases eventOf backup with
    | none => simp [Except.toOption]
    | some event =>
      by_cases hempty : identity.1 = []
      · simp [Except.toOption, hempty]
      · have hfiled : (if identity.1.isEmpty then none
            else some (backupDocument rawDocument backup identity.1 identity.2 event)) = some document ↔
            backupDocument rawDocument backup identity.1 identity.2 event = document := by
          rw [if_neg (by simpa using hempty), Option.some.injEq]
        refine hfiled.trans ⟨fun h => ⟨identity, event, rfl, rfl, hempty, h.symm⟩, ?_⟩
        rintro ⟨identity', event', hidentity, hevent, -, rfl⟩
        obtain rfl := Except.ok.inj hidentity
        obtain rfl := Option.some.inj hevent
        rfl

omit [Unicode] [Hashlib] in
theorem get_backupRecord_field (backup : Obj) (backupId identitySource : Str) (eventTime : Instant) {k : Str}
    (h : k = lit "backup_id" ∨ k = lit "save_time") :
    Obj.get (backupRecord backup backupId identitySource eventTime) k = Obj.get backup k := by
  rcases h with rfl | rfl
  · exact get_backupRecord _ _ _ _ (by decide)
  · exact get_backupRecord _ _ _ _ (by decide)

/-- The document of a backup says which backup it is of. -/
theorem isBackupOf_filing {rawDocument backup document : Obj} {id : Str} {saveTime completionTime : Option Instant}
    (hparsed : ParsedBackup backup id saveTime completionTime) (h : backupFiling rawDocument backup = some document)
    (b : Str) (save : Option Instant) : isBackupOf b save document = true ↔ Observes b save backup := by
  obtain ⟨identity, event, -, hevent, -, rfl⟩ := backupFiling_eq_some.mp h
  have hd := backupDocument_monthly rawDocument backup identity.1 identity.2 event
  have hsave : isoformat saveTime = isoformat save ↔ saveTime = save := by
    constructor
    · intro hiso
      have hread := congrArg parseDatetime hiso
      rw [parseDatetime_isoformat_option, parseDatetime_isoformat_option] at hread
      exact Except.ok.inj hread
    · rintro rfl
      rfl
  unfold isBackupOf Observes
  rw [Bool.and_eq_true, isDocumentOf_of_documentOf hd.toDocumentOf, hd.payload, hparsed.id_eq, hparsed.timeOf_save]
  dsimp only
  rw [decide_eq_true_iff, get_backupRecord_field _ _ _ _ (Or.inl rfl), get_backupRecord_field _ _ _ _ (Or.inr rfl),
    hparsed.backup_id, hparsed.save_time, hsave]
  simp [hevent]

/-- An observation of a backup with an id is filed, under that id. -/
theorem filing_of_observes (rawDocument : Obj) {backup : Obj} {b : Str} {save : Option Instant} (hb : b ≠ [])
    (h : Observes b save backup) : documentId backup = b ∧ (backupFiling rawDocument backup).isSome = true := by
  obtain ⟨hid, -, hevent⟩ := h
  obtain ⟨event, hevent⟩ := Option.isSome_iff_exists.mp hevent
  have hidentity := networkerBackupIdentity_of_id (hid.symm ▸ hb) (timeOf backup "completion_time")
  constructor
  · rw [documentId, hidentity, hid]
    rfl
  · exact Option.isSome_iff_exists.mpr ⟨_, backupFiling_eq_some.mpr ⟨_, event, hidentity, hevent, hid.symm ▸ hb, rfl⟩⟩

/-- What is filed is filed under an id. -/
theorem filedUnder_of_filing {rawDocument backup document : Obj} (h : backupFiling rawDocument backup = some document)
    (b : Str) : FiledUnder b backup ↔ documentId backup = b := by
  obtain ⟨identity, event, -, hevent, -, -⟩ := backupFiling_eq_some.mp h
  exact and_iff_left (by rw [hevent]; rfl)

theorem filing_of_filedUnder (rawDocument : Obj) {backup : Obj} {b : Str} (hb : b ≠ []) (h : FiledUnder b backup) :
    (backupFiling rawDocument backup).isSome = true := by
  obtain ⟨hid, hevent⟩ := h
  obtain ⟨event, hevent⟩ := Option.isSome_iff_exists.mp hevent
  unfold documentId at hid
  cases hidentity : networkerBackupIdentity backup (timeOf backup "completion_time") with
  | error e =>
    rw [hidentity] at hid
    exact absurd hid.symm hb
  | ok identity =>
    rw [hidentity] at hid
    have hne : identity.1 ≠ [] := by
      rw [show identity.1 = b from hid]
      exact hb
    exact Option.isSome_iff_exists.mpr ⟨_, backupFiling_eq_some.mpr ⟨identity, event, hidentity, hevent, hne, rfl⟩⟩

section Result

variable {isFile : Str → Bool} {c : CollectorConfig} {s : Source} {x : NetworkerCollection} {r : CollectionResult}

/-- The key of a backup document, from what the document says. -/
theorem documentAction_filing (hr : Collected c s x r) {backup document : Obj}
    (h : backupFiling (rawDocument r) backup = some document) :
    (documentAction s r.collectedAt document).write = (backupKey c s (documentId backup) (filedAt (r, backup)), document) := by
  obtain ⟨identity, event, hidentity, hevent, -, rfl⟩ := backupFiling_eq_some.mp h
  have hd := backupDocument_monthly (rawDocument r) backup identity.1 identity.2 event
  have htype : textField (backupDocument (rawDocument r) backup identity.1 identity.2 event) "document_type" =
      lit "backup" := by
    simp [textField, hd.document_type, Json.asStr?]
  have hfiled : documentMonth r.collectedAt (backupDocument (rawDocument r) backup identity.1 identity.2 event) =
      (filedAt (r, backup)).yearMonth := by
    rw [documentMonth_of_month hd.index_month, filedMonth, filedAt, hevent, Option.getD_some]
    split <;> rfl
  have hcollector : Obj.get (rawDocument r) "collector" = .str c.name := by
    simp [rawDocument, CollectionResult.toDocument, Obj.get_set, hr.collector]
  have hid : documentId backup = identity.1 := by
    rw [documentId, hidentity]
    rfl
  have hderived : textField (backupDocument (rawDocument r) backup identity.1 identity.2 event) "derived_id" =
      Str.join ":" [c.name, "backup", documentId backup] := by
    simp [textField, hd.derived_id, Json.asStr?, hcollector, Json.toStr, hid]
  simp only [Action.write, Action.key, documentAction, backupKey, htype, hfiled, hderived]

/-- A document of type `backup`. -/
def isBackupDocument (document : Obj) : Bool := decide (Obj.get document "document_type" = .str "backup")

/-- The backup documents of a result are those of the backups the writer gets to. -/
theorem filter_resultDocuments_backup (hr : Collected c s x r) : (resultDocuments r).items.filter isBackupDocument =
    (reachedBackups r).filterMap (backupFiling (rawDocument r)) := by
  have hrecords : (iterRecordDocuments (rawDocument r) r.payload "networker" networkerSpecs).filter isBackupDocument = [] :=
    List.filter_eq_nil_iff.mpr fun document hdoc hyes => (type_of_recordDocument hdoc).1 (of_decide_eq_true hyes)
  have hbackups : (iterNetworkerBackupDocuments (rawDocument r) r.payload).items.filter isBackupDocument =
      (iterNetworkerBackupDocuments (rawDocument r) r.payload).items :=
    List.filter_eq_self.mpr fun document hdoc => decide_eq_true (type_of_backupDocument hdoc)
  have hjobRuns : ((if (iterNetworkerBackupDocuments (rawDocument r) r.payload).err.isNone then
      (iterNetworkerJobRunDocuments (rawDocument r) r.payload).items else []) : List Obj).filter isBackupDocument = [] := by
    refine List.filter_eq_nil_iff.mpr fun document hdoc hyes => ?_
    split at hdoc
    · exact absurd ((type_of_jobRunDocument hdoc).symm.trans (of_decide_eq_true hyes)) (by decide)
    · cases hdoc
  rw [resultDocuments_items, List.filter_append, List.filter_append, hrecords, hbackups, hjobRuns, backupLoop_items hr,
    List.nil_append, List.append_nil]

/-- The backup writes of a collection are those of the backups the writer gets to. -/
theorem backupWrites_of_result (hnetworker : c.type = lit "Networker") (hr : Collected c s x r)
    (h : x.result isFile c = .ok r) :
    ((x.actions isFile c).filter fun a => isBackupDocument a.source).map Action.write =
      ((reachedBackups r).map fun backup => (r, backup)).filterMap (backupWrite c s) := by
  rw [filter_actions (p := isBackupDocument) hnetworker hr h fun document hyes => ⟨"backup", by decide, of_decide_eq_true hyes⟩,
    filter_resultDocuments_backup hr, List.filterMap_map, List.map_map, List.map_filterMap]
  refine List.filterMap_congr fun backup _ => ?_
  unfold backupWrite
  dsimp only [Function.comp]
  cases hfiling : backupFiling (rawDocument r) backup with
  | none => rfl
  | some document => exact congrArg some (documentAction_filing hr hfiling)

end Result

/-! ## 3. The backup writes of a history -/

section Run

variable {isFile : Str → Bool} {c : CollectorConfig} {s : Source} (hnetworker : c.type = lit "Networker")
  (hs : validateSourceNetworker (optional c.sourceNetworker) = .ok s) {xs : List NetworkerCollection}

include hnetworker hs

/-- The backup writes of a history are those of the backups it files, in order. -/
theorem backupWrites_of_history :
    ((history isFile c xs).map Action.write).filter (fun w => isBackupDocument w.2) =
      (filedBackups isFile c xs).filterMap (backupWrite c s) := by
  unfold history filedBackups overResults
  rw [List.filter_map, List.filter_flatMap, List.map_flatMap, List.filterMap_flatMap]
  refine List.flatMap_congr fun x _ => ?_
  cases h : x.result isFile c with
  | error e =>
    unfold NetworkerCollection.actions
    rw [h]
    rfl
  | ok r => exact backupWrites_of_result hnetworker (result_collected hs h) h

/-- What is written under a backup key is a backup document. -/
theorem isBackupDocument_of_key {w : (Str × Str) × Obj} (hw : w ∈ (history isFile c xs).map Action.write) {b : Str}
    {t : Instant} (hkey : w.1 = backupKey c s b t) : isBackupDocument w.2 = true := by
  obtain ⟨a, ha, rfl⟩ := List.mem_map.mp hw
  obtain ⟨x, -, ha⟩ := List.mem_flatMap.mp ha
  cases h : x.result isFile c with
  | error e =>
    unfold NetworkerCollection.actions at ha
    rw [h] at ha
    cases ha
  | ok r =>
    obtain ⟨document, -, rfl, htype⟩ := mem_actions_of_index hnetworker (result_collected hs h) h ha (by decide)
      (congrArg Prod.fst hkey)
    exact decide_eq_true htype

omit [Hashlib] hnetworker in
/-- A filed backup is one that the parser made. -/
theorem parsedBackup_of_filed {o : CollectionResult × Obj} (ho : o ∈ filedBackups isFile c xs) :
    ∃ id saveTime completionTime, ParsedBackup o.2 id saveTime completionTime := by
  obtain ⟨x, -, h, hreached⟩ := mem_overResults.mp ho
  obtain ⟨item, -, saveTime, completionTime, -, -, hparsed⟩ := parsedBackup_of_collected (result_collected hs h)
    ((List.takeWhile_prefix _).subset hreached)
  exact ⟨_, saveTime, completionTime, hparsed⟩

/-- A write of a backup is the write of one of its observations. -/
theorem observation_of_write {b : Str} {save : Option Instant} {w : (Str × Str) × Obj}
    (hw : w ∈ (history isFile c xs).map Action.write) (hyes : isBackupOf b save w.2 = true) :
    ∃ o ∈ filedBackups isFile c xs, Observes b save o.2 ∧ backupWrite c s o = some w := by
  have hbackup : isBackupDocument w.2 = true := decide_eq_true (type_of_isDocumentOf (Bool.and_eq_true_iff.mp hyes).1)
  have hmem : w ∈ ((history isFile c xs).map Action.write).filter fun w => isBackupDocument w.2 :=
    List.mem_filter.mpr ⟨hw, hbackup⟩
  rw [backupWrites_of_history hnetworker hs] at hmem
  obtain ⟨o, ho, hwrite⟩ := List.mem_filterMap.mp hmem
  obtain ⟨document, hfiling, rfl⟩ := Option.map_eq_some_iff.mp hwrite
  obtain ⟨id, saveTime, completionTime, hparsed⟩ := parsedBackup_of_filed hs ho
  exact ⟨o, ho, (isBackupOf_filing hparsed hfiling b save).mp hyes, hwrite⟩

/-- An observation that is filed is written, under the backup's id. -/
theorem write_of_observation {b : Str} (hb : b ≠ []) {save : Option Instant} {o : CollectionResult × Obj}
    (ho : o ∈ filedBackups isFile c xs) (h : Observes b save o.2) : ∃ w ∈ (history isFile c xs).map Action.write,
      backupWrite c s o = some w ∧ w.1 = backupKey c s b (filedAt o) ∧ isBackupOf b save w.2 = true := by
  obtain ⟨hid, hfiled⟩ := filing_of_observes (rawDocument o.1) hb h
  obtain ⟨document, hfiling⟩ := Option.isSome_iff_exists.mp hfiled
  obtain ⟨id, saveTime, completionTime, hparsed⟩ := parsedBackup_of_filed hs ho
  have hwrite : backupWrite c s o = some (backupKey c s b (filedAt o), document) := by
    rw [backupWrite, hfiling, hid]
    rfl
  refine ⟨_, ?_, hwrite, rfl, (isBackupOf_filing hparsed hfiling b save).mpr h⟩
  have hmem := List.mem_filterMap.mpr ⟨o, ho, hwrite⟩
  rw [← backupWrites_of_history hnetworker hs] at hmem
  exact (List.mem_filter.mp hmem).1

/-- What is written under the key of a backup and a month is what is filed under its id there. -/
theorem writes_under_key (b : Str) (t : Instant) :
    ((history isFile c xs).map Action.write).filter (fun w => decide (w.1 = backupKey c s b t)) =
      ((filedBackups isFile c xs).filter fun o => decide (FiledUnder b o.2 ∧ SameMonth (filedAt o) t)).filterMap
        (backupWrite c s) := by
  have hbackups : ((history isFile c xs).map Action.write).filter (fun w => decide (w.1 = backupKey c s b t)) =
      (((history isFile c xs).map Action.write).filter fun w => isBackupDocument w.2).filter
        fun w => decide (w.1 = backupKey c s b t) := by
    rw [List.filter_filter]
    refine List.filter_congr fun w hw => ?_
    by_cases hkey : w.1 = backupKey c s b t
    · simp [hkey, isBackupDocument_of_key hnetworker hs hw hkey]
    · simp [hkey]
  rw [hbackups, backupWrites_of_history hnetworker hs, List.filter_filterMap, List.filterMap_filter]
  refine List.filterMap_congr fun o _ => ?_
  unfold backupWrite
  cases hfiling : backupFiling (rawDocument o.1) o.2 with
  | none => simp
  | some document =>
    have hiff : backupKey c s (documentId o.2) (filedAt o) = backupKey c s b t ↔
        FiledUnder b o.2 ∧ SameMonth (filedAt o) t := by
      rw [backupKey_eq_iff, filedUnder_of_filing hfiling b]
    by_cases hunder : FiledUnder b o.2 ∧ SameMonth (filedAt o) t
    · simp [hunder, hiff.mpr hunder]
    · simp [hunder, hiff.not.mpr hunder]

end Run

omit [Unicode] [Hashlib] in
/-- The last element that is kept, of a list of which every element is. -/
theorem getLast?_filterMap_of_isSome {α β : Type} {f : α → Option β} {l : List α} (h : ∀ a ∈ l, (f a).isSome = true) :
    (l.filterMap f).getLast? = l.getLast?.bind f := by
  rcases List.eq_nil_or_concat l with rfl | ⟨l, a, rfl⟩
  · rfl
  · obtain ⟨b, hb⟩ := Option.isSome_iff_exists.mp (h a (by simp))
    simp [hb]

omit [Unicode] [Hashlib] in
theorem SameMonth.congr {t u : Instant} (h : SameMonth t u) (v : Instant) : SameMonth v t ↔ SameMonth v u := by
  unfold SameMonth at h ⊢
  rw [h.1, h.2]

/-- The last that is filed under an id in a month was filed in that month. -/
theorem filed_of_last {isFile : Str → Bool} {c : CollectorConfig} {xs : List NetworkerCollection} {b : Str} {t : Instant}
    {o : CollectionResult × Obj}
    (h : ((filedBackups isFile c xs).filter fun o => decide (FiledUnder b o.2 ∧ SameMonth (filedAt o) t)).getLast? = some o) :
    o ∈ filedBackups isFile c xs ∧ SameMonth (filedAt o) t := by
  obtain ⟨ho, hunder⟩ := List.mem_filter.mp (List.mem_of_getLast? h)
  exact ⟨ho, (of_decide_eq_true hunder).2⟩

/-! ## 4. One event -/

section Event

variable {isFile : Str → Bool} {c : CollectorConfig} {s : Source} (hnetworker : c.type = lit "Networker")
  (hs : validateSourceNetworker (optional c.sourceNetworker) = .ok s) {xs : List NetworkerCollection} {b : Str}
  (hb : b ≠ []) {save : Option Instant}

include hnetworker hs hb

/-- What the store holds under the key of a backup and a month: the last that is filed there. -/
theorem lastWrite_backupKey (t : Instant) : Dict.lastWrite ((history isFile c xs).map Action.write) (backupKey c s b t) =
    (((filedBackups isFile c xs).filter fun o => decide (FiledUnder b o.2 ∧ SameMonth (filedAt o) t)).getLast?.bind
      (backupWrite c s)).map Prod.snd := by
  unfold Dict.lastWrite
  rw [writes_under_key hnetworker hs b t, getLast?_filterMap_of_isSome]
  intro o ho
  have hunder := (of_decide_eq_true (List.mem_filter.mp ho).2).1
  unfold backupWrite
  rw [Option.isSome_map]
  exact filing_of_filedUnder (rawDocument o.1) hb hunder

end Event

/-- **A history keeps one document of a backup exactly when its filed observations fall in one
month and the last backup filed there under its id is one of them.** -/
theorem one_backup_event_iff {isFile : Str → Bool} {c : CollectorConfig} {s : Source}
    (hnetworker : c.type = lit "Networker")
    (hs : validateSourceNetworker (optional c.sourceNetworker) = .ok s)
    (xs : List NetworkerCollection) {b : Str} (hb : b ≠ []) (save : Option Instant) :
    OneBackupEvent isFile c xs b save ↔ FiledInOneMonth isFile c xs b save := by
  constructor
  · intro h
    have hmonths : ∀ o ∈ filedBackups isFile c xs, ∀ o' ∈ filedBackups isFile c xs,
        Observes b save o.2 → Observes b save o'.2 → SameMonth (filedAt o) (filedAt o') := by
      intro o ho o' ho' hobserves hobserves'
      obtain ⟨w, hw, -, hkey, hyes⟩ := write_of_observation hnetworker hs hb ho hobserves
      obtain ⟨w', hw', -, hkey', hyes'⟩ := write_of_observation hnetworker hs hb ho' hobserves'
      obtain ⟨a, ha, rfl⟩ := List.mem_map.mp hw
      obtain ⟨a', ha', rfl⟩ := List.mem_map.mp hw'
      have hsame := h.sameKey a ha a' ha' hyes hyes'
      exact (backupKey_eq_iff.mp ((hkey.symm.trans hsame).trans hkey')).2
    refine ⟨hmonths, fun hobserved => ?_⟩
    obtain ⟨e, he⟩ := h.one hobserved
    -- the one entry is the last write to its key, and an observation's
    obtain ⟨hstored, hyes⟩ := List.mem_filter.mp (he ▸ List.mem_singleton_self e :
      e ∈ (stored isFile c xs).filter fun e => isBackupOf b save e.2)
    have hwritten := Dict.mem_of_mem_written hstored
    obtain ⟨o, ho, hobserves, hwrite⟩ := observation_of_write hnetworker hs hwritten hyes
    obtain ⟨w, -, hwrite', hkey, -⟩ := write_of_observation hnetworker hs hb ho hobserves
    obtain rfl : e = w := Option.some.inj (hwrite.symm.trans hwrite')
    have hlast : Dict.lastWrite ((history isFile c xs).map Action.write) e.1 = some e.2 := Dict.mem_written.mp hstored
    rw [hkey, lastWrite_backupKey hnetworker hs hb] at hlast
    obtain ⟨w', hfound, hvalue⟩ := Option.map_eq_some_iff.mp hlast
    obtain ⟨o', hlast, hwrite'⟩ := Option.bind_eq_some_iff.mp hfound
    obtain ⟨ho', hmonth⟩ := filed_of_last hlast
    obtain ⟨id, saveTime, completionTime, hparsed⟩ := parsedBackup_of_filed hs ho'
    obtain ⟨document, hfiling, rfl⟩ := Option.map_eq_some_iff.mp hwrite'
    have hvalue : document = e.2 := hvalue
    refine ⟨o', (isBackupOf_filing hparsed hfiling b save).mp (by rw [hvalue]; exact hyes), ?_⟩
    simp only [hmonth.congr]
    exact hlast
  · intro h
    have hkeys : ∀ w ∈ (history isFile c xs).map Action.write, isBackupOf b save w.2 = true →
        ∃ o ∈ filedBackups isFile c xs, Observes b save o.2 ∧ w.1 = backupKey c s b (filedAt o) := by
      intro w hw hyes
      obtain ⟨o, ho, hobserves, hwrite⟩ := observation_of_write hnetworker hs hw hyes
      obtain ⟨w', -, hwrite', hkey, -⟩ := write_of_observation hnetworker hs hb ho hobserves
      obtain rfl : w = w' := Option.some.inj (hwrite.symm.trans hwrite')
      exact ⟨o, ho, hobserves, hkey⟩
    refine ⟨?_, fun hobserved => ?_⟩
    · intro a ha a' ha' hyes hyes'
      obtain ⟨o, ho, hobserves, hkey⟩ := hkeys a.write (List.mem_map_of_mem ha) hyes
      obtain ⟨o', ho', hobserves', hkey'⟩ := hkeys a'.write (List.mem_map_of_mem ha') hyes'
      have hmonth := h.sameMonth o ho o' ho' hobserves hobserves'
      exact hkey.trans ((backupKey_eq_iff.mpr ⟨rfl, hmonth⟩).trans hkey'.symm)
    · obtain ⟨o, hobserves, hlast⟩ := h.last hobserved
      obtain ⟨ho, -⟩ := filed_of_last hlast
      obtain ⟨w, -, hwrite, hkey, hyes⟩ := write_of_observation hnetworker hs hb ho hobserves
      have hone : ∀ w ∈ (history isFile c xs).map Action.write, isBackupOf b save w.2 = true →
          w.1 = backupKey c s b (filedAt o) := by
        intro w' hw' hyes'
        obtain ⟨o', ho', hobserves', hkey'⟩ := hkeys w' hw' hyes'
        exact hkey'.trans (backupKey_eq_iff.mpr ⟨rfl, h.sameMonth o' ho' o ho hobserves' hobserves⟩)
      refine ⟨w, (Dict.written_filter_eq_singleton_iff hone).mpr ⟨hkey, ?_, hyes⟩⟩
      rw [lastWrite_backupKey hnetworker hs hb, hlast, Option.bind_some, hwrite]
      rfl

end Backups

/-! ## 5. A backup across the end of a month -/

section Boundary

attribute [local instance] Unicode.ascii Hashlib.hashlib

/-- One collection that observes the backup `b1`, saved at 23:50 on the last day of October. -/
def boundaryCollection (completionTime : Json) (now : Instant) : NetworkerCollection where
  collectionClass := .backups
  raw := .ok [("backups", .obj [("backups", .arr [.obj [
    ("id", .str "b1"), ("saveTime", .str "2026-10-31T23:50:00Z"), ("completionTime", completionTime)]])])]
  clock := now
  collectedAt := now

/-- The backup is observed at 23:55 and, completed at ten past midnight, at a quarter past. -/
def boundaryCollections : List NetworkerCollection := [
  boundaryCollection .null ⟨63929087700000000, by decide⟩,
  boundaryCollection (.str "2026-11-01T00:10:00Z") ⟨63929088900000000, by decide⟩]

/-- 2026-10-31T23:50:00Z -/
def boundarySave : Instant := ⟨63929087400000000, by decide⟩

theorem boundary_backup_stored_twice :
    ¬ OneBackupEvent (fun _ => false) networkerCore boundaryCollections "b1" (some boundarySave) := by
  intro h
  have hsame := h.sameKey
  revert hsame
  decide +kernel

theorem boundary_backup_condition :
    OneBackupEvent (fun _ => false) networkerCore boundaryCollections "b1" (some boundarySave) ↔
      FiledInOneMonth (fun _ => false) networkerCore boundaryCollections "b1" (some boundarySave) :=
  one_backup_event_iff (s := ⟨"core", by decide⟩) rfl (by decide +kernel) boundaryCollections (by decide) _

end Boundary

end BackupCollector
