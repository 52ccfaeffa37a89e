/-
# What a fingerprint stands for

A fingerprint is the digest of the canonical text of a backup.  The builder compares fingerprints
where it means backups: two observations of one backup id are the same revision when their
fingerprints agree, and a conflict when they do not.

The text can be read back: two backups with the same text name the same action and the same
relation (`Evidence.text_injective`).  That two backups of a run with the same DIGEST have the same
text is what the program trusts SHA-256 for.  `CollisionFree` states it for the texts a run hashes,
and nothing more: no property of the digest on other texts is used anywhere, and the digest is
computed, so a run with concrete hits can be checked.

Under this hypothesis a revision determines the action and the relation (`of_revision`), and so
does a fingerprint (`of_fingerprint`).  This is the only place in which the modules about the
lookup argue about digests; everything that follows argues about relations.

That the serialisation of an attribute mapping does not depend on the order of its keys is part of
the same story and is in `Revisions`.
-/
import BackupCollector.Lookups.Ledger
import BackupCollector.Lookups.Extraction
import BackupCollector.Py.Dumps

namespace BackupCollector

open Py

/-! ## 1. The text of a fingerprint

The canonical text is `dumps` with sorted keys, and what it is a text of is read off again by
injectivity. -/

/-- The text a fingerprint is the digest of. -/
def Evidence.text (e : Evidence) : Str := Json.dumps (fingerprintValue e)

/-- The fields of a fingerprint in the order of their keys. -/
theorem sortKeys_fingerprint (a b c d e f : Str) :
    Json.sortKeys [(lit "id", a), (lit "action", b), (lit "original", c), (lit "attributes", d),
        (lit "save_time", e), (lit "completion_time", f)] =
      [(lit "action", b), (lit "attributes", d), (lit "completion_time", f), (lit "id", a), (lit "original", c),
        (lit "save_time", e)] := by
  with_unfolding_all rfl

/-- The attributes of a fingerprint. -/
def Evidence.attributeValue (e : Evidence) : Json :=
  .obj ((attributeSets e.attributes).map fun a => (a.1, strArray (sorted a.2)))

theorem Evidence.text_eq (e : Evidence) : e.text =
    lit "\x7b\"action\": " ++ (Json.dumps (.str e.actionId) ++ (lit ", \"attributes\": " ++
      (Json.dumps e.attributeValue ++ (lit ", \"completion_time\": " ++ (Json.dumps e.completionTime ++
        (lit ", \"id\": " ++ (Json.dumps (Json.ofOption .str e.backupId) ++
          (lit ", \"original\": " ++ (Json.dumps (strArray e.originalCandidate) ++
            (lit ", \"save_time\": " ++ (Json.dumps e.saveTime ++ lit "\x7d"))))))))))) := by
  unfold Evidence.text fingerprintValue
  rw [dumps_obj]
  simp only [Json.dumpsObj]
  rw [sortKeys_fingerprint]
  simp only [List.map_cons, List.map_nil, Str.join, List.append_assoc]
  rfl

/-- The text of a fingerprint names the action and the relation as the backup spelled it. -/
theorem Evidence.text_injective {a b : Evidence} (h : a.text = b.text) :
    a.actionId = b.actionId ∧ a.originalCandidate = b.originalCandidate := by
  rw [Evidence.text_eq, Evidence.text_eq] at h
  replace h := List.append_cancel_left h
  obtain ⟨haction, h⟩ := dumps_append_inj (Stops.lit rfl _) (Stops.lit rfl _) h
  replace h := List.append_cancel_left h
  obtain ⟨-, h⟩ := dumps_append_inj (Stops.lit rfl _) (Stops.lit rfl _) h
  replace h := List.append_cancel_left h
  obtain ⟨-, h⟩ := dumps_append_inj (Stops.lit rfl _) (Stops.lit rfl _) h
  replace h := List.append_cancel_left h
  obtain ⟨-, h⟩ := dumps_append_inj (Stops.lit rfl _) (Stops.lit rfl _) h
  replace h := List.append_cancel_left h
  obtain ⟨horiginal, -⟩ := dumps_append_inj (Stops.lit rfl _) (Stops.lit rfl _) h
  rw [dumps_str, dumps_str] at haction
  exact ⟨quote_injective haction, dumps_texts_injective horiginal⟩

/-! ## 2. The marks of an item

What an item leaves in the ledger, mark by mark.  Without a backup id a record is kept under its
reference. -/

section Marks

variable [Hashlib]

/-- The digest of the text of a backup: its revision. -/
def Evidence.revision (e : Evidence) : Str := Hashlib.sha256 e.text

/-- The fingerprint a record is kept under; without a backup id the reference is part of it. -/
def Evidence.fingerprint (e : Evidence) : Str :=
  match e.backupId with
  | some _ => e.revision
  | none => e.revision ++ Hashlib.sha256 (Json.dumps (.obj e.reference))

theorem digest_ok {v : Json} {d : Str} (h : digest v = .ok d) : d = Hashlib.sha256 (Json.dumps v) := by
  unfold digest at h
  split at h
  · exact sha256Hex_ok h
  · cases h

/-- An item marks its own revision and its own record, nothing else. -/
theorem Evidence.mem_marks {e : Evidence} {m : Mark} (h : m ∈ e.marks.items) :
    m = .evidence e.fingerprint e ∨ (e.backupId = none ∧ m = .blocked e.key "backup_identity_missing") ∨
      ∃ backupId, e.backupId = some backupId ∧ m = .identity e.source backupId e.revision e.actionId := by
  unfold Evidence.marks at h
  obtain ⟨fingerprint, hf, h⟩ := Gen.mem_ofExcept h
  have hrevision : fingerprint = e.revision := digest_ok hf
  cases hid : e.backupId with
  | some backupId =>
    rw [hid] at h
    have hfp : e.fingerprint = e.revision := by
      unfold Evidence.fingerprint
      rw [hid]
    rcases List.mem_cons.mp h with rfl | h
    · exact Or.inr (Or.inr ⟨backupId, rfl, by rw [hrevision]⟩)
    · rw [List.mem_singleton.mp h, hrevision, hfp]
      exact Or.inl rfl
  | none =>
    rw [hid] at h
    rcases Gen.mem_andThen h with h | h
    · exact Or.inr (Or.inl ⟨rfl, List.mem_singleton.mp h⟩)
    · obtain ⟨d, hd, h⟩ := Gen.mem_ofExcept h
      have hfp : e.fingerprint = e.revision ++ d := by
        unfold Evidence.fingerprint
        rw [hid, digest_ok hd]
      rw [List.mem_singleton.mp h, hrevision, hfp]
      exact Or.inl rfl

/-- An item that does not raise is kept, and its identity, or the lack of one, is marked. -/
theorem Evidence.marks_of_ok {e : Evidence} (h : e.marks.err = none) :
    .evidence e.fingerprint e ∈ e.marks.items ∧
      (e.backupId = none → .blocked e.key "backup_identity_missing" ∈ e.marks.items) := by
  unfold Evidence.marks at h ⊢
  cases hf : digest (fingerprintValue e) with
  | error err =>
    rw [hf] at h
    cases h
  | ok fingerprint =>
    have hrevision : fingerprint = e.revision := digest_ok hf
    rw [hf] at h
    dsimp only [Gen.ofExcept] at h ⊢
    cases hid : e.backupId with
    | some backupId =>
      have hfp : e.fingerprint = fingerprint := by
        unfold Evidence.fingerprint
        rw [hid, hrevision]
      rw [hfp]
      exact ⟨List.mem_cons_of_mem _ List.mem_cons_self, fun hnone => by cases hnone⟩
    | none =>
      rw [hid] at h
      dsimp only at h ⊢
      rw [Gen.andThen_of_ok rfl] at h ⊢
      cases hd : digest (.obj e.reference) with
      | error err =>
        rw [hd] at h
        cases h
      | ok d =>
        have hfp : e.fingerprint = fingerprint ++ d := by
          unfold Evidence.fingerprint
          rw [hid, hrevision, digest_ok hd]
        rw [hfp]
        exact ⟨List.mem_append_right _ List.mem_cons_self, fun _ => List.mem_cons_self⟩

/-! ## 3. The marks of a hit

A hit leaves the marks of its items and of its issues, and every mark comes from one of them. -/

variable [Unicode]

/-- The marks of a RAW hit are those of its extraction. -/
theorem rawMarks_items {hit : Json} {x : Extraction} (hx : extractRaw hit = .ok x) :
    (rawMarks hit).items = x.issues.map .issue ++ [.incomplete x.incompleteSources] ++
      x.issues.flatMap Issue.marks ++ (Gen.each Evidence.marks x.evidence).items := by
  unfold rawMarks
  rw [hx]
  dsimp only [Gen.ofExcept]
  unfold Extraction.marks
  rw [Gen.andThen_of_ok rfl]

theorem rawMarks_err {hit : Json} {x : Extraction} (hx : extractRaw hit = .ok x) :
    (rawMarks hit).err = (Gen.each Evidence.marks x.evidence).err := by
  unfold rawMarks
  rw [hx]
  dsimp only [Gen.ofExcept]
  unfold Extraction.marks
  rw [Gen.andThen_of_ok rfl]

/-- The items a hit brings. -/
def LookupHit.items : LookupHit → List Evidence
  | .raw hit => match extractRaw hit with
    | .ok x => x.evidence
    | .error _ => []
  | .job _ => []

omit [Hashlib] in
theorem LookupHit.items_raw {hit : Json} {x : Extraction} (hx : extractRaw hit = .ok x) :
    (LookupHit.raw hit).items = x.evidence := by
  unfold LookupHit.items
  dsimp only
  rw [hx]

/-- Where a mark of a hit comes from. -/
inductive MarkOf : LookupHit → Mark → Prop where
  | issue (h : LookupHit) (i : Issue) : MarkOf h (.issue i)
  | incomplete (hit : Json) (x : Extraction) (hx : extractRaw hit = .ok x) :
      MarkOf (.raw hit) (.incomplete x.incompleteSources)
  | unattributedRaw (hit : Json) (x : Extraction) (hx : extractRaw hit = .ok x) (i : Issue) (hi : i ∈ x.issues)
      (hsource : i.source = none) : MarkOf (.raw hit) .unattributed
  | unattributedJob (hit : Json) (e : Err) (he : readJob hit = .error e) : MarkOf (.job hit) .unattributed
  | invalid (hit : Json) (x : Extraction) (hx : extractRaw hit = .ok x) (i : Issue) (hi : i ∈ x.issues)
      (source : Source) (hsource : i.source = some source) (actionId : Str) (haction : i.actionId = some actionId) :
      MarkOf (.raw hit) (.blocked (source, actionId) "invalid_backup_evidence")
  | unidentified (h : LookupHit) (e : Evidence) (he : e ∈ h.items) (hid : e.backupId = none) :
      MarkOf h (.blocked e.key "backup_identity_missing")
  | identity (h : LookupHit) (e : Evidence) (he : e ∈ h.items) (backupId : Str) (hid : e.backupId = some backupId) :
      MarkOf h (.identity e.source backupId e.revision e.actionId)
  | evidence (h : LookupHit) (e : Evidence) (he : e ∈ h.items) : MarkOf h (.evidence e.fingerprint e)
  | copy (hit : Json) (job : Job) (hjob : readJob hit = .ok job) : MarkOf (.job hit) (.copy job)

/-- Every mark of a hit comes from what it says. -/
theorem LookupHit.markOf {h : LookupHit} {m : Mark} (hm : m ∈ h.marks.items) : MarkOf h m := by
  cases h with
  | raw hit =>
    change m ∈ (rawMarks hit).items at hm
    cases hx : extractRaw hit with
    | error e =>
      unfold rawMarks at hm
      rw [hx] at hm
      cases hm
    | ok x =>
      rw [rawMarks_items hx] at hm
      rcases List.mem_append.mp hm with hm | hm
      · rcases List.mem_append.mp hm with hm | hm
        · rcases List.mem_append.mp hm with hm | hm
          · obtain ⟨i, -, rfl⟩ := List.mem_map.mp hm
            exact .issue _ i
          · rw [List.mem_singleton.mp hm]
            exact .incomplete hit x hx
        · obtain ⟨i, hi, hm⟩ := List.mem_flatMap.mp hm
          unfold Issue.marks at hm
          split at hm
          · rename_i hsource
            rw [List.mem_singleton.mp hm]
            exact .unattributedRaw hit x hx i hi hsource
          · rename_i source actionId hsource haction
            rw [List.mem_singleton.mp hm]
            exact .invalid hit x hx i hi source hsource actionId haction
          · cases hm
      · obtain ⟨e, he, hm⟩ := Gen.mem_each hm
        have he' : e ∈ LookupHit.items (.raw hit) := by
          rw [LookupHit.items_raw hx]
          exact he
        rcases Evidence.mem_marks hm with rfl | ⟨hid, rfl⟩ | ⟨backupId, hid, rfl⟩
        · exact .evidence _ e he'
        · exact .unidentified _ e he' hid
        · exact .identity _ e he' backupId hid
  | job hit =>
    change m ∈ (jobMarks hit).items at hm
    unfold jobMarks at hm
    cases hjob : readJob hit with
    | error e =>
      rw [hjob] at hm
      rcases List.mem_cons.mp hm with rfl | hm
      · exact .issue _ _
      · rw [List.mem_singleton.mp hm]
        exact .unattributedJob hit e hjob
    | ok job =>
      rw [hjob] at hm
      rcases List.mem_cons.mp hm with rfl | hm
      · exact .copy hit job hjob
      · split at hm
        · rw [List.mem_singleton.mp hm]
          exact .issue _ _
        · cases hm

theorem mem_hitMarks {hits : List LookupHit} {m : Mark} : m ∈ hitMarks hits ↔ ∃ h ∈ hits, m ∈ h.marks.items :=
  List.mem_flatMap

/-! ## 4. Collision-free runs

The hypothesis about the digest, and what it is worth. -/

/-- SHA-256 as the program relies on it: digests are 64 characters long, and no two of the backup
texts that a sequence of hits has hashed collide. -/
structure CollisionFree (hits : List LookupHit) : Prop where
  length : ∀ text, (Hashlib.sha256 text).length = 64
  injective : ∀ a ∈ hits.flatMap LookupHit.items, ∀ b ∈ hits.flatMap LookupHit.items,
    Hashlib.sha256 a.text = Hashlib.sha256 b.text → a.text = b.text

/-- In a collision-free run a revision determines the action and the relation. -/
theorem CollisionFree.of_revision {hits : List LookupHit} (h : CollisionFree hits) {a b : Evidence}
    (ha : a ∈ hits.flatMap LookupHit.items) (hb : b ∈ hits.flatMap LookupHit.items) (hrev : a.revision = b.revision) :
    a.actionId = b.actionId ∧ a.originalCandidate = b.originalCandidate :=
  Evidence.text_injective (h.injective a ha b hb hrev)

/-- And so does a fingerprint. -/
theorem CollisionFree.of_fingerprint {hits : List LookupHit} (h : CollisionFree hits) {a b : Evidence}
    (ha : a ∈ hits.flatMap LookupHit.items) (hb : b ∈ hits.flatMap LookupHit.items)
    (hfp : a.fingerprint = b.fingerprint) :
    a.actionId = b.actionId ∧ a.originalCandidate = b.originalCandidate := by
  have hlen : ∀ e : Evidence, e.revision.length = 64 := fun e => h.length e.text
  have htake : ∀ e : Evidence, e.fingerprint.take 64 = e.revision := by
    intro e
    unfold Evidence.fingerprint
    cases e.backupId with
    | some _ => exact List.take_of_length_le (le_of_eq (hlen e))
    | none => exact List.take_left' (hlen e)
  refine h.of_revision ha hb ?_
  rw [← htake a, hfp, htake b]

end Marks

end BackupCollector
