/-
# The backup loop of a result

`_iter_networker_backup_documents` goes over the backups of a payload, and each pass yields one
document or none.  A pass can also raise, and then the loop ends, and with it the generator of
ALL derived documents of the result: the backups behind it and every job run are lost, since
the job runs are yielded last.  So what becomes of a backup, or of a job, depends on the other
backups of its result, and the results on both have to say which.

Three things are settled here, for the results a NetWorker collector makes.

* A pass raises in one case only (`pass_err`).  The parser has turned the times into ISO texts or
  nothing, so reading them back never fails; what is left is the fallback identity.  A backup
  WITHOUT an id is identified by a digest of its client, its save set and its completion, and
  `.encode("utf-8")` raises on a lone surrogate, which a JSON escape can carry into either of the
  first two.  `Unidentifiable` is that case, in terms of the record's fields.
* So the writer gets to the backups in front of the first such one (`reachedBackups`).
* A pass that returns yields at most one document, and which one is read off the record
  (`backupFiling`).

Nothing is said of payloads that no collection of a NetWorker collector delivers: on an
arbitrary record a time may fail to parse, and then a pass raises for another reason.
-/
import BackupCollector.Writers.History
import BackupCollector.Py.Encoding

namespace BackupCollector

open Py

section Passes

variable [Unicode] [Hashlib]

/-! ## 1. What a parsed backup states

The parser leaves an id without blanks around it and two times, each an ISO text or `None`; the
derived documents read the times again.  `timeOf` is that second reading, and on a parsed record
it gives back what the parser had read from the API. -/

omit [Hashlib] in
/-- The time a record states under a field. -/
def timeOf (record : Obj) (field : Str) : Option Instant := (parseDatetime (Obj.get record field)).toOption.join

omit [Hashlib] in
/-- The event of a backup: its completion, else its save time. -/
def eventOf (backup : Obj) : Option Instant := (timeOf backup "completion_time").or (timeOf backup "save_time")

omit [Hashlib] in
/-- A backup as the parser leaves it: its times are texts of instants or empty, so that reading
them again cannot raise. -/
structure ParsedBackup (backup : Obj) (id : Str) (saveTime completionTime : Option Instant) : Prop where
  backup_id : Obj.get backup "backup_id" = .str id
  trimmed : Str.strip id = id
  save_time : Obj.get backup "save_time" = isoformat saveTime
  completion_time : Obj.get backup "completion_time" = isoformat completionTime

omit [Hashlib] in
/-- A backup of a result states the id and the times that the API sent for one of its items. -/
theorem parsedBackup_of_collected {c : CollectorConfig} {s : Source} {x : NetworkerCollection} {r : CollectionResult}
    (hr : Collected c s x r) {backup : Obj} (hbackup : backup ∈ payloadRecords r.payload "backups") :
    ∃ item ∈ x.items "backups", ∃ saveTime completionTime,
      parseDatetime (Obj.get item "saveTime") = .ok saveTime ∧
      parseDatetime (Obj.get item "completionTime") = .ok completionTime ∧
      ParsedBackup backup (string (Obj.get item "id")) saveTime completionTime := by
  obtain ⟨item, hitem, record, hfields, rfl⟩ := hr.backups backup hbackup
  obtain ⟨saveTime, hsave, hsaveText⟩ := hfields.save_time
  obtain ⟨completionTime, hcompletion, hcompletionText⟩ := hfields.completion_time
  refine ⟨item, hitem, saveTime, completionTime, hsave, hcompletion, ?_⟩
  exact {
    backup_id := by rw [get_classifyRecord_of_notMem (by decide), hfields.backup_id]
    trimmed := strip_string _
    save_time := by rw [get_classifyRecord_of_notMem (by decide), hsaveText]
    completion_time := by rw [get_classifyRecord_of_notMem (by decide), hcompletionText] }

section Parsed

variable {backup : Obj} {id : Str} {saveTime completionTime : Option Instant}

omit [Hashlib] in
theorem ParsedBackup.id_eq (h : ParsedBackup backup id saveTime completionTime) :
    string (Obj.get backup "backup_id") = id := by
  rw [h.backup_id, string_str, h.trimmed]

omit [Hashlib] in
theorem ParsedBackup.timeOf_save (h : ParsedBackup backup id saveTime completionTime) :
    timeOf backup "save_time" = saveTime := by
  rw [timeOf, h.save_time, parseDatetime_isoformat_option]
  rfl

omit [Hashlib] in
theorem ParsedBackup.timeOf_completion (h : ParsedBackup backup id saveTime completionTime) :
    timeOf backup "completion_time" = completionTime := by
  rw [timeOf, h.completion_time, parseDatetime_isoformat_option]
  rfl

end Parsed

/-! ## 2. Which passes raise -/

omit [Hashlib] in
/-- The client of a fallback identity. -/
def fallbackClient (backup : Obj) : Str := Str.rstripChr (chr '.') (Str.lower (string (Obj.get backup "client_name")))

omit [Hashlib] in
/-- The save set of a fallback identity. -/
def fallbackSaveSet (backup : Obj) : Str :=
  if (string (Obj.get backup "save_set")).isEmpty then string (Obj.get backup "name") else string (Obj.get backup "save_set")

omit [Hashlib] in
/-- A backup without an id whose client and save set cannot both be encoded, though it has them
and a completion: the one kind that makes the loop raise. -/
def Unidentifiable (backup : Obj) : Prop :=
  string (Obj.get backup "backup_id") = [] ∧ fallbackClient backup ≠ [] ∧ fallbackSaveSet backup ≠ [] ∧
    (timeOf backup "completion_time").isSome = true ∧
      ¬ (encodable (fallbackClient backup) = true ∧ encodable (fallbackSaveSet backup) = true)

omit [Hashlib] in
instance (backup : Obj) : Decidable (Unidentifiable backup) := inferInstanceAs (Decidable (_ ∧ _))

omit [Unicode] [Hashlib] in
theorem nul_lt : 0 < 0x110000 := by decide

omit [Unicode] [Hashlib] in
/-- The text a fallback identity is a digest of. -/
theorem encodable_identityText (client saveSet : Str) (completion : Instant) :
    encodable (Str.join [⟨0, nul_lt⟩] [client, saveSet, completion.isoformat]) = true ↔
      encodable client = true ∧ encodable saveSet = true := by
  have hdate : encodable completion.isoformat = true := by
    refine List.all_eq_true.mpr fun ch hch => ?_
    have hlow : ch.val < 128 := by
      have h := List.all_eq_true.mp completion.isAscii_isoformat ch hch
      simpa using h
    rw [encodable_of_plainChr hlow]
    rfl
  rw [encodable_join (by decide)]
  simp [hdate]

theorem networkerBackupIdentity_of_id {backup : Obj} (h : string (Obj.get backup "backup_id") ≠ []) (t : Option Instant) :
    networkerBackupIdentity backup t = .ok (string (Obj.get backup "backup_id"), "backup_id") := by
  unfold networkerBackupIdentity
  dsimp only
  rw [if_pos (by simpa using h)]
  rfl

theorem networkerBackupIdentity_of_no_id {backup : Obj} (h : string (Obj.get backup "backup_id") = []) (t : Option Instant) :
    networkerBackupIdentity backup t = t.elim (.ok ([], [])) fun completion =>
      if fallbackClient backup = [] ∨ fallbackSaveSet backup = [] then .ok ([], [])
      else (sha256Hex (Str.join [⟨0, nul_lt⟩] [fallbackClient backup, fallbackSaveSet backup, completion.isoformat])).map
        fun digest => (lit "fallback:" ++ digest, "client_save_set_completion_time") := by
  unfold networkerBackupIdentity
  dsimp only
  rw [if_neg (by simp [h])]
  cases t with
  | none => rfl
  | some completion =>
    rw [Option.elim_some]
    by_cases hmissing : fallbackClient backup = [] ∨ fallbackSaveSet backup = []
    · rw [if_pos hmissing]
      refine if_pos ?_
      rw [Bool.or_eq_true, List.isEmpty_iff, List.isEmpty_iff]
      exact hmissing
    · rw [if_neg hmissing]
      refine (if_neg ?_).trans ?_
      · rw [Bool.or_eq_true, List.isEmpty_iff, List.isEmpty_iff]
        exact hmissing
      · unfold fallbackClient fallbackSaveSet
        cases sha256Hex _ with
        | ok digest => rfl
        | error e => rfl

/-- An identity is found unless the backup is one that cannot be identified. -/
theorem identity_isOk (backup : Obj) : (networkerBackupIdentity backup (timeOf backup "completion_time")).isOk = true ↔
    ¬ Unidentifiable backup := by
  unfold Unidentifiable
  by_cases hid : string (Obj.get backup "backup_id") = []
  · rw [networkerBackupIdentity_of_no_id hid]
    cases timeOf backup "completion_time" with
    | none => exact iff_of_true rfl fun h => absurd h.2.2.2.1 (by simp)
    | some completion =>
      rw [Option.elim_some]
      by_cases hmissing : fallbackClient backup = [] ∨ fallbackSaveSet backup = []
      · rw [if_pos hmissing]
        refine iff_of_true rfl fun h => ?_
        rcases hmissing with hclient | hsaveSet
        · exact h.2.1 hclient
        · exact h.2.2.1 hsaveSet
      · rw [if_neg hmissing, isOk_map, sha256Hex_isOk, encodable_identityText]
        obtain ⟨hclient, hsaveSet⟩ := not_or.mp hmissing
        simp [hid, hclient, hsaveSet]
  · rw [networkerBackupIdentity_of_id hid]
    exact iff_of_true rfl fun h => hid h.1

/-! ## 3. What a pass yields -/

/-- The document a backup becomes: none without an identity, an id or an event. -/
def backupFiling (rawDocument backup : Obj) : Option Obj :=
  (networkerBackupIdentity backup (timeOf backup "completion_time")).toOption.bind fun identity =>
    (eventOf backup).bind fun event =>
      if identity.1.isEmpty then none else some (backupDocument rawDocument backup identity.1 identity.2 event)

section Parsed

variable {backup : Obj} {id : Str} {saveTime completionTime : Option Instant}

/-- The parsed times are read back, so a pass is decided by the identity. -/
theorem networkerBackupDocument_of_parsed (h : ParsedBackup backup id saveTime completionTime) (rawDocument : Obj) :
    networkerBackupDocument rawDocument backup =
      Gen.ofExcept (networkerBackupIdentity backup (timeOf backup "completion_time")) fun identity =>
        (eventOf backup).elim Gen.empty fun event =>
          if identity.1.isEmpty then Gen.empty
          else Gen.yield (backupDocument rawDocument backup identity.1 identity.2 event) := by
  rw [eventOf, h.timeOf_completion, h.timeOf_save]
  unfold networkerBackupDocument
  rw [h.completion_time, h.save_time, parseDatetime_isoformat_option, parseDatetime_isoformat_option]
  cases completionTime with
  | none => cases saveTime <;> rfl
  | some completion => rfl

theorem pass_items (h : ParsedBackup backup id saveTime completionTime) (rawDocument : Obj) :
    (networkerBackupDocument rawDocument backup).items = (backupFiling rawDocument backup).toList := by
  rw [networkerBackupDocument_of_parsed h, backupFiling]
  cases networkerBackupIdentity backup (timeOf backup "completion_time") with
  | error e => rfl
  | ok identity =>
    cases eventOf backup with
    | none => rfl
    | some event =>
      simp only [Gen.ofExcept, Option.elim_some, Except.toOption, Option.bind_some]
      split <;> rfl

/-- **A pass raises exactly on a backup that cannot be identified.** -/
theorem pass_err (h : ParsedBackup backup id saveTime completionTime) (rawDocument : Obj) :
    (networkerBackupDocument rawDocument backup).err = none ↔ ¬ Unidentifiable backup := by
  rw [← identity_isOk, networkerBackupDocument_of_parsed h]
  cases networkerBackupIdentity backup (timeOf backup "completion_time") with
  | error e => simp [Gen.ofExcept, Gen.raise, Except.isOk, Except.toBool]
  | ok identity =>
    refine iff_of_true ?_ rfl
    cases eventOf backup with
    | none => rfl
    | some event =>
      simp only [Gen.ofExcept, Option.elim_some]
      split <;> rfl

end Parsed

/-! ## 4. The loop -/

/-- The backups of a result that the writer gets to: those in front of the first that cannot be
identified. -/
def reachedBackups (r : CollectionResult) : List Obj :=
  (payloadRecords r.payload "backups").takeWhile fun backup => decide (¬ Unidentifiable backup)

section Result

variable {c : CollectorConfig} {s : Source} {x : NetworkerCollection} {r : CollectionResult}

/-- The loop returns when every backup can be identified. -/
theorem backupLoop_err (hr : Collected c s x r) : (iterNetworkerBackupDocuments (rawDocument r) r.payload).err = none ↔
    ∀ backup ∈ payloadRecords r.payload "backups", ¬ Unidentifiable backup := by
  have hpass : ∀ backup ∈ payloadRecords r.payload "backups",
      ((networkerBackupDocument (rawDocument r) backup).err = none ↔ ¬ Unidentifiable backup) := by
    intro backup hbackup
    obtain ⟨item, -, saveTime, completionTime, -, -, hparsed⟩ := parsedBackup_of_collected hr hbackup
    exact pass_err hparsed (rawDocument r)
  unfold iterNetworkerBackupDocuments
  constructor
  · intro h backup hbackup
    exact (hpass backup hbackup).mp (Gen.err_of_each h backup hbackup)
  · intro h
    rw [Gen.each_of_ok fun backup hbackup => (hpass backup hbackup).mpr (h backup hbackup)]

/-- The documents of the loop are those of the backups it gets to. -/
theorem backupLoop_items (hr : Collected c s x r) : (iterNetworkerBackupDocuments (rawDocument r) r.payload).items =
    (reachedBackups r).filterMap (backupFiling (rawDocument r)) := by
  have hparsed : ∀ backup ∈ payloadRecords r.payload "backups", ∃ id saveTime completionTime,
      ParsedBackup backup id saveTime completionTime := by
    intro backup hbackup
    obtain ⟨item, -, saveTime, completionTime, -, -, hparsed⟩ := parsedBackup_of_collected hr hbackup
    exact ⟨_, saveTime, completionTime, hparsed⟩
  have hreached : ∀ backup ∈ reachedBackups r, backup ∈ payloadRecords r.payload "backups" :=
    fun backup hbackup => (List.takeWhile_prefix _).subset hbackup
  unfold iterNetworkerBackupDocuments
  rw [Gen.each_items_of_silent (p := fun backup => decide (¬ Unidentifiable backup)), List.filterMap_eq_flatMap_toList]
  · refine List.flatMap_congr fun backup hbackup => ?_
    obtain ⟨id, saveTime, completionTime, hparsed⟩ := hparsed backup (hreached backup hbackup)
    exact pass_items hparsed (rawDocument r)
  · intro backup hbackup
    obtain ⟨id, saveTime, completionTime, hparsed⟩ := hparsed backup hbackup
    rw [Bool.eq_iff_iff, decide_eq_true_iff, ← pass_err hparsed (rawDocument r), Option.isNone_iff_eq_none]
  · intro backup hbackup hraises
    obtain ⟨id, saveTime, completionTime, hparsed⟩ := hparsed backup hbackup
    have hnone : ¬ (networkerBackupIdentity backup (timeOf backup "completion_time")).isOk = true := by
      rw [identity_isOk]
      exact of_decide_eq_false hraises
    rw [pass_items hparsed, backupFiling]
    cases hidentity : networkerBackupIdentity backup (timeOf backup "completion_time") with
    | error e => rfl
    | ok identity => exact absurd (by rw [hidentity]; rfl) hnone

end Result

end Passes

end BackupCollector
