/-
# Malformed input is quarantined

`add_raw` and `add_jobs` take whatever a search returned.  What they cannot use becomes an issue,
and the rest of the call goes on: that is `Quarantined`.  The module asks for which inputs it is
true, with no assumption on the hits at all: any JSON value may come.

`add_jobs` keeps to it for every input, since everything `read_job` raises is a `ValueError`, and
that is caught.  `add_raw` catches less.  It raises at two kinds of hits: one whose
`collection_status` has no hash, which the membership test needs, and one with an entry that cannot
be fingerprinted.  `quarantined_iff` says that it raises at no others, and that where it raises
something is lost.

The property has three parts, and the equivalence is for their conjunction: every call returns;
what could not be used stands in the issues; what could be used stands in the ledger.  A hit behind
a raising one fails the last two, since it is never read.  So the condition is on ALL hits that
were handed over.

Both failing inputs are ordinary JSON. One call with either of them raises, and the hits after it
leave nothing (`malformed_hit_raises`).
-/
import BackupCollector.Lookups.FailClosed
import BackupCollector.Lookups.Hashing

namespace BackupCollector

open Py

/-! ## 1. What is caught

What the readers of a hit can raise, and that it is caught. -/

section Caught

variable [Unicode]

omit [Unicode] in
theorem unwrap_error {hit : Json} {e : Err} (h : unwrap hit = .error e) : e.kind = .valueError := by
  unfold unwrap at h
  split at h
  · split at h
    · cases h
    · cases h
      rfl
  · cases h
    rfl

theorem sourceOf_error {document : Obj} {raw : Bool} {e : Err} (h : sourceOf document raw = .error e) :
    e.kind = .valueError := by
  unfold sourceOf at h
  rcases bind_eq_error.mp h with h | ⟨sources, -, h⟩
  · obtain ⟨v, -, hv⟩ := mapM_eq_error h
    exact validateSourceNetworker_error hv
  · split at h
    · cases h
      rfl
    · split at h
      · cases h
      · cases h
        rfl

omit [Unicode] in
theorem positiveId_error {v : Json} {e : Err} (h : positiveId v = .error e) : e.kind = .valueError := by
  unfold positiveId at h
  split at h
  · cases h
  · split at h
    · cases h
      rfl
    · cases h
  · cases h

/-- Whatever `read_job` raises is a `ValueError`, which `add_jobs` catches. -/
theorem readJob_error {hit : Json} {e : Err} (h : readJob hit = .error e) : e.kind = .valueError := by
  unfold readJob at h
  rcases bind_eq_error.mp h with h | ⟨⟨document, reference⟩, -, h⟩
  · exact unwrap_error h
  rcases bind_eq_error.mp h with h | ⟨source, -, h⟩
  · exact sourceOf_error h
  cases hp : Obj.get document "payload" with
  | obj payload =>
    rw [hp] at h
    dsimp only at h
    split at h
    · cases h
      rfl
    rcases bind_eq_error.mp h with h | ⟨identity, -, h⟩
    · exact positiveId_error h
    cases identity with
    | none =>
      cases h
      rfl
    | some identity =>
      dsimp only at h
      split at h
      · rcases bind_eq_error.mp h with h | ⟨parent, -, h⟩
        · exact positiveId_error h
        rcases bind_eq_error.mp h with h | ⟨root, -, h⟩
        · exact positiveId_error h
        cases h
      · cases h
        rfl
  | _ =>
    rw [hp] at h
    cases h
    rfl

/-- Whatever the attribution of a RAW hit raises is a `ValueError`, which `extract_raw` catches. -/
theorem attribution_error {hit : Json} {e : Err}
    (h : ((unwrap hit).bind fun p => sourceOf p.1 true) = .error e) : e.kind = .valueError := by
  rcases bind_eq_error.mp h with h | ⟨p, -, h⟩
  · exact unwrap_error h
  · exact sourceOf_error h

end Caught

/-! ## 2. The hits that raise

The exceptions that are not caught, traced back to the hit. -/

section Hits

variable [Unicode]

/-- A usable entry that cannot be fingerprinted: what the fingerprint covers holds a lone
surrogate or an integer too long to print, or, without an id, the reference of the entry does. -/
def UnhashableEntry (hit : Json) : Prop :=
  ∃ document reference, unwrap hit = .ok (document, reference) ∧ ∃ b position,
    (.obj b, position) ∈ (responseEntries hit).zipIdx ∧ usable (.obj b) = true ∧
      ((∃ v ∈ fingerprinted b, v.encodes = false) ∨
        (backupIdentity b = none ∧ (Json.obj (entryReference document reference position)).encodes = false))

/-- A hit `add_raw` does not get through: an attributed one whose status has no hash, or one with
an entry that cannot be fingerprinted.  A hit of nobody is got through, since it is given up before
either is looked at. -/
def Unfit (hit : Json) : Prop := (rawSource hit).isSome = true ∧ (UnhashableStatus hit ∨ UnhashableEntry hit)

omit [Unicode] in
theorem unwrap_reference {hit : Json} {document reference : Obj} (h : unwrap hit = .ok (document, reference)) :
    ∃ i j, reference = [(lit "index", i), (lit "id", j)] := by
  unfold unwrap at h
  cases hit with
  | obj kvs =>
    dsimp only at h
    cases hd : (Dict.get? kvs "_source").getD (.obj kvs) with
    | obj d =>
      rw [hd] at h
      exact ⟨_, _, (Prod.mk.inj (Except.ok.inj h)).2.symm⟩
    | _ =>
      rw [hd] at h
      cases h
  | _ => cases h

omit [Unicode] in
/-- Noting that there is no backup id adds nothing that could not be hashed. -/
theorem encodes_reference {hit : Json} {document reference : Obj} (h : unwrap hit = .ok (document, reference))
    (position : Nat) :
    (Json.obj (Dict.set (entryReference document reference position) "backup_id" .null)).encodes =
      (Json.obj (entryReference document reference position)).encodes := by
  obtain ⟨i, j, rfl⟩ := unwrap_reference h
  have hkey : encodable (lit "backup_id") = true := by decide +kernel
  have hset : Dict.set (entryReference document [("index", i), ("id", j)] position) "backup_id" .null =
      entryReference document [("index", i), ("id", j)] position ++ [(lit "backup_id", .null)] := by
    simp [entryReference, Dict.update, Dict.set]
  rw [hset, Bool.eq_iff_iff, Json.encodes, Json.encodes, Json.encodesObj_iff, Json.encodesObj_iff,
    List.forall_mem_append]
  simp [hkey, Json.encodes]

/-- The evidence of an attributed hit comes entry by entry. -/
theorem extractRaw_evidence {hit : Json} {source : Source} {x : Extraction} (h : rawSource hit = some source)
    (hx : extractRaw hit = .ok x) {document reference : Obj} (hu : unwrap hit = .ok (document, reference)) :
    x.evidence = (responseEntries hit).zipIdx.flatMap fun p =>
      (extractBackup p.1 source (entryReference document reference p.2)
        (timestamp (Obj.get document "@timestamp"))).evidence := by
  obtain ⟨document', reference', hu', hs⟩ := rawSource_eq_some h
  obtain ⟨rfl, rfl⟩ := Prod.mk.inj (Except.ok.inj (hu.symm.trans hu'))
  by_cases hp : ∃ payload, Obj.get document "payload" = .obj payload
  · obtain ⟨payload, hp⟩ := hp
    rw [extractRaw_payload hu hs hp] at hx
    obtain ⟨partialFound, -, rfl⟩ := map_eq_ok.mp hx
    have hcollection : (collectionPart source reference partialFound).evidence = [] := by
      cases partialFound <;> rfl
    rw [responseEntries_eq hu hp]
    unfold Extraction.append
    rw [hcollection, List.nil_append]
    cases backupResponse payload with
    | none => rfl
    | some response =>
      dsimp only [Option.getD_some]
      unfold extractEntries
      rw [(Extraction.foldl_append _ {}).1, List.flatMap_map]
      rfl
  · obtain ⟨heq, hentries⟩ := extractRaw_noPayload hu hs fun payload h => hp ⟨payload, h⟩
    rw [heq] at hx
    obtain rfl := Except.ok.inj hx
    rw [hentries]
    rfl

omit [Unicode] in
/-- An entry that cannot be used leaves one issue of its source, which keeps the entry. -/
theorem extractBackup_unusable {entry : Json} (h : usable entry = false) (source : Source) (reference : Obj)
    (observedAt : Option Instant) : ∃ i, (extractBackup entry source reference observedAt).issues = [i] ∧
      i.source = some source ∧ i.details = entry := by
  cases entry with
  | obj b =>
    unfold usable at h
    unfold extractBackup
    dsimp only at h ⊢
    cases hid : (attributeValues (Obj.get b "attributes")).actionId with
    | none => exact ⟨_, rfl, rfl, rfl⟩
    | some actionId =>
      cases herrors : (attributeValues (Obj.get b "attributes")).allErrors with
      | cons error errors => exact ⟨_, rfl, rfl, rfl⟩
      | nil =>
        cases hnames : relationNames (attributeValues (Obj.get b "attributes")) with
        | error e => exact ⟨_, rfl, rfl, rfl⟩
        | ok names =>
          rw [hid, herrors, hnames] at h
          cases h
  | _ => exact ⟨_, rfl, rfl, rfl⟩

/-- A RAW hit has a list of backups in the place where they are looked for. -/
def HasResponse (hit : Json) : Prop :=
  ∃ document reference payload response, unwrap hit = .ok (document, reference) ∧
    Obj.get document "payload" = .obj payload ∧ backupResponse payload = some response

/-- A hit without such a list leaves an issue of its source. -/
theorem extractRaw_shapeless {hit : Json} {source : Source} {x : Extraction} (h : rawSource hit = some source)
    (hx : extractRaw hit = .ok x) (hshape : ¬ HasResponse hit) : ∃ i ∈ x.issues, i.source = some source := by
  obtain ⟨document, reference, hu, hs⟩ := rawSource_eq_some h
  by_cases hp : ∃ payload, Obj.get document "payload" = .obj payload
  · obtain ⟨payload, hp⟩ := hp
    rw [extractRaw_payload hu hs hp] at hx
    obtain ⟨partialFound, -, rfl⟩ := map_eq_ok.mp hx
    cases hr : backupResponse payload with
    | none => exact ⟨_, List.mem_append_right _ (List.mem_singleton_self _), rfl⟩
    | some response => exact absurd ⟨document, reference, payload, response, hu, hp, hr⟩ hshape
  · obtain ⟨heq, -⟩ := extractRaw_noPayload hu hs fun payload h => hp ⟨payload, h⟩
    rw [heq] at hx
    obtain rfl := Except.ok.inj hx
    exact ⟨_, List.mem_singleton_self _, rfl⟩

/-- An unhashable status raises in an attributed hit. -/
theorem extractRaw_status {hit : Json} {source : Source} (h : rawSource hit = some source)
    (hstatus : UnhashableStatus hit) : ∃ e, extractRaw hit = .error e := by
  obtain ⟨document, reference, payload, hu, hp, hok, hhash⟩ := hstatus
  obtain ⟨document', reference', hu', hs⟩ := rawSource_eq_some h
  obtain ⟨rfl, rfl⟩ := Prod.mk.inj (Except.ok.inj (hu.symm.trans hu'))
  rw [extractRaw_payload hu hs hp]
  unfold isPartialCollection
  rw [if_neg hok]
  dsimp only
  rw [hhash]
  exact ⟨_, rfl⟩

variable [Hashlib]

/-- The entries that cannot be fingerprinted are those whose evidence raises. -/
theorem unhashableEntry_iff {hit : Json} {source : Source} {x : Extraction} (h : rawSource hit = some source)
    (hx : extractRaw hit = .ok x) : UnhashableEntry hit ↔ ∃ e ∈ x.evidence, e.marks.err ≠ none := by
  obtain ⟨document, reference, hu, hs⟩ := rawSource_eq_some h
  rw [extractRaw_evidence h hx hu]
  have hraises : ∀ {b : Obj} {position : Nat} {e : Evidence},
      e.ReadFrom b (entryReference document reference position) → (e.marks.err ≠ none ↔
        (∃ v ∈ fingerprinted b, v.encodes = false) ∨
          (backupIdentity b = none ∧ (Json.obj (entryReference document reference position)).encodes = false)) := by
    intro b position e he
    rw [ne_eq, Evidence.marks_err_iff, he.encodes_iff, he.backupId, he.reference, not_and_or]
    refine or_congr ?_ ?_
    · push Not
      simp only [Bool.not_eq_true]
    · rw [Classical.not_imp, Bool.not_eq_true]
      refine and_congr_right fun hid => ?_
      rw [hid, Json.ofOption, encodes_reference hu]
  constructor
  · rintro ⟨document', reference', hu', b, position, hentry, husable, hfails⟩
    obtain ⟨rfl, rfl⟩ := Prod.mk.inj (Except.ok.inj (hu.symm.trans hu'))
    obtain ⟨e, he⟩ := (usable_iff source (entryReference document reference position)
      (timestamp (Obj.get document "@timestamp"))).mp husable
    obtain ⟨b', hb, hread⟩ := mem_extractBackup he
    obtain rfl := Json.obj.inj hb
    exact ⟨e, List.mem_flatMap.mpr ⟨_, hentry, he⟩, (hraises hread).mpr hfails⟩
  · rintro ⟨e, he, herr⟩
    obtain ⟨⟨entry, position⟩, hentry, he⟩ := List.mem_flatMap.mp he
    have husable := (usable_iff source _ _).mpr ⟨e, he⟩
    obtain ⟨b, rfl, hread⟩ := mem_extractBackup he
    exact ⟨document, reference, hu, b, position, hentry, husable, (hraises hread).mp herr⟩

/-- `add_raw` gets through a hit exactly when it is fit. -/
theorem rawMarks_err_iff (hit : Json) : (rawMarks hit).err = none ↔ ¬ Unfit hit := by
  unfold Unfit
  cases hs : rawSource hit with
  | none =>
    obtain ⟨i, hx, -, -⟩ := extractRaw_unattributed hs
    rw [rawMarks_err hx]
    exact iff_of_true rfl fun h => absurd h.1 (by decide)
  | some source =>
    by_cases hstatus : UnhashableStatus hit
    · obtain ⟨e, hx⟩ := extractRaw_status hs hstatus
      have hraises : (rawMarks hit).err = some e := by
        unfold rawMarks
        rw [hx]
        rfl
      rw [hraises]
      exact iff_of_false (by simp) fun h => h ⟨rfl, Or.inl hstatus⟩
    · obtain ⟨x, hx⟩ := extractRaw_isOk hs hstatus
      rw [rawMarks_err hx, unhashableEntry_iff hs hx]
      constructor
      · rintro herr ⟨-, hstatus' | ⟨e, he, hraises⟩⟩
        · exact hstatus hstatus'
        · exact hraises (Gen.err_of_each herr e he)
      · intro h
        have hall : ∀ e ∈ x.evidence, e.marks.err = none := by
          intro e he
          by_contra hraises
          exact h ⟨rfl, Or.inr ⟨e, he, hraises⟩⟩
        rw [Gen.each_of_ok hall]

end Hits

/-! ## 3. Runs

From one hit to a run of calls. -/

section Runs

variable [Unicode] [Hashlib]

omit [Unicode] [Hashlib] in
theorem issues_mark (b : Builder) (m : Mark) : (b.mark m).issues = match m with
    | .issue i => b.issues ++ [i]
    | _ => b.issues := by
  cases m with
  | identity source backupId fingerprint actionId =>
    obtain ⟨blocked, heq, -⟩ := b.mark_identity source backupId fingerprint actionId
    rw [heq]
  | _ => rfl

omit [Unicode] [Hashlib] in
/-- An issue that was marked stays in the list. -/
theorem mem_issues_marks {b : Builder} {ms : List Mark} {i : Issue} (h : .issue i ∈ ms ∨ i ∈ b.issues) :
    i ∈ (b.marks ms).issues := by
  induction ms generalizing b with
  | nil => exact h.resolve_left (List.not_mem_nil)
  | cons m ms ih =>
    have hcons : b.marks (m :: ms) = (b.mark m).marks ms := rfl
    rw [hcons]
    refine ih ?_
    rw [issues_mark]
    rcases h with h | h
    · rcases List.mem_cons.mp h with rfl | h
      · exact Or.inr (List.mem_append_right _ (List.mem_singleton_self i))
      · exact Or.inl h
    · right
      cases m with
      | issue j => exact List.mem_append_left _ h
      | _ => exact h

/-- A hit handed to `add_raw` behind one it does not get through, in the same call: it is never read. -/
def BehindUnfit (calls : List LookupCall) (hit : Json) : Prop :=
  ∃ before bad after, .addRaw (before ++ bad :: after) ∈ calls ∧ Unfit bad ∧ hit ∈ after

/-- What a run loses stands behind an unfit hit. -/
theorem mem_lostHits {calls : List LookupCall} {hit : LookupHit} :
    hit ∈ lostHits calls ↔ ∃ raw, hit = .raw raw ∧ BehindUnfit calls raw := by
  constructor
  · intro h
    obtain ⟨before, bad, after, raw, hcall, hbad, hraw, rfl⟩ := raw_of_lost h
    exact ⟨raw, rfl, before, bad, after, hcall, not_not.mp ((rawMarks_err_iff bad).not.mp hbad), hraw⟩
  · rintro ⟨raw, rfl, before, bad, after, hcall, hbad, hraw⟩
    refine List.mem_flatMap.mpr ⟨_, hcall, List.mem_map.mpr ⟨raw, Gen.mem_unreached.mpr ?_, rfl⟩⟩
    exact ⟨before, bad, after, rfl, (rawMarks_err_iff bad).not.mpr (not_not.mpr hbad), hraw⟩

/-- Every call of a run returns, what could not be used stands in the issues, and what could be
used stands in the ledger. -/
structure Quarantined (calls : List LookupCall) : Prop where
  returns : ({} : Builder).returns calls = true
  unattributed : ∀ hit, .raw hit ∈ givenHits calls → rawSource hit = none →
    ∃ i ∈ (Builder.run {} calls).issues, i.source = none ∧ i.details = hit
  shapeless : ∀ hit source, .raw hit ∈ givenHits calls → rawSource hit = some source → ¬ HasResponse hit →
    ∃ i ∈ (Builder.run {} calls).issues, i.source = some source
  unusable : ∀ hit source, .raw hit ∈ givenHits calls → rawSource hit = some source →
    ∀ entry ∈ responseEntries hit, usable entry = false →
      ∃ i ∈ (Builder.run {} calls).issues, i.source = some source ∧ i.details = entry
  unread : ∀ hit e, .job hit ∈ givenHits calls → readJob hit = .error e →
    e.kind = .valueError ∧ ∃ i ∈ (Builder.run {} calls).issues, i.details = hit
  evidence : ∀ hit source document reference, .raw hit ∈ givenHits calls → rawSource hit = some source →
    unwrap hit = .ok (document, reference) → ∀ entry position, (entry, position) ∈ (responseEntries hit).zipIdx →
      ∀ e ∈ (extractBackup entry source (entryReference document reference position)
        (timestamp (Obj.get document "@timestamp"))).evidence,
      ∃ stored, Dict.get? ((Builder.run {} calls).recordsOf e.key) e.fingerprint = some stored ∧
        stored.key = e.key ∧ stored.fingerprint = e.fingerprint
  jobs : ∀ hit j, .job hit ∈ givenHits calls → readJob hit = .ok j →
    ∃ j' ∈ (Builder.run {} calls).jobs.copies j.key, j'.core = j.core

/-- An issue of a hit that was got through stands in the issues of the run. -/
theorem issue_of_run {calls : List LookupCall} (hreturns : ({} : Builder).returns calls = true) {hit : LookupHit}
    (hhit : hit ∈ givenHits calls) {i : Issue} (hi : .issue i ∈ hit.marks.items) :
    i ∈ (Builder.run {} calls).issues := by
  rw [run_eq]
  refine mem_issues_marks (Or.inl (mem_hitMarks.mpr ⟨hit, ?_, hi⟩))
  rw [(fedHits_of_returns hreturns).1]
  exact hhit

theorem issue_mem_marks {hit : Json} {x : Extraction} (hx : extractRaw hit = .ok x) {i : Issue} (hi : i ∈ x.issues) :
    .issue i ∈ (rawMarks hit).items := by
  rw [rawMarks_items hx]
  exact List.mem_append_left _ (List.mem_append_left _ (List.mem_append_left _ (List.mem_map.mpr ⟨i, hi, rfl⟩)))

/-- **Malformed input is quarantined exactly when no RAW hit has an unhashable status or an entry
that cannot be fingerprinted.**  The hits are all that the calls were handed, in any order and any
division into calls. -/
theorem quarantined_iff (calls : List LookupCall) :
    Quarantined calls ↔ ∀ hit, .raw hit ∈ givenHits calls → ¬ Unfit hit := by
  constructor
  · intro h hit hhit
    exact (rawMarks_err_iff hit).mp (returns_iff.mp h.returns _ hhit)
  · intro h
    have herr : ∀ hit ∈ givenHits calls, hit.marks.err = none := by
      intro hit hhit
      cases hit with
      | raw hit => exact (rawMarks_err_iff hit).mpr (h hit hhit)
      | job hit => exact jobMarks_err hit
    have hreturns : ({} : Builder).returns calls = true := returns_iff.mpr herr
    have hfed := (fedHits_of_returns hreturns).1
    constructor
    case returns => exact hreturns
    case unattributed =>
      intro hit hhit hs
      obtain ⟨i, hx, hsource, hdetails⟩ := extractRaw_unattributed hs
      exact ⟨i, issue_of_run hreturns hhit (issue_mem_marks hx (List.mem_singleton_self i)), hsource, hdetails⟩
    case shapeless =>
      intro hit source hhit hs hshape
      obtain ⟨x, hx, -⟩ := evidence_mem_marks (herr _ hhit)
      obtain ⟨i, hi, hsource⟩ := extractRaw_shapeless hs hx hshape
      exact ⟨i, issue_of_run hreturns hhit (issue_mem_marks hx hi), hsource⟩
    case unusable =>
      intro hit source hhit hs entry hentry husable
      obtain ⟨x, hx, -⟩ := evidence_mem_marks (herr _ hhit)
      obtain ⟨ref, observedAt, hpart⟩ := (extractRaw_attributed hs hx).entries entry hentry
      obtain ⟨i, hi, hsource, hdetails⟩ := extractBackup_unusable husable source ref observedAt
      have hmem : i ∈ x.issues := hpart.issues (hi ▸ List.mem_singleton_self i)
      exact ⟨i, issue_of_run hreturns hhit (issue_mem_marks hx hmem), hsource, hdetails⟩
    case unread =>
      intro hit e hhit he
      have hmark : .issue { reason := e.msg, details := hit } ∈ (LookupHit.job hit).marks.items := by
        change _ ∈ (jobMarks hit).items
        unfold jobMarks
        rw [he]
        exact List.mem_cons_self
      exact ⟨readJob_error he, _, issue_of_run hreturns hhit hmark, rfl⟩
    case evidence =>
      intro hit source document reference hhit hs hu entry position hentry e he
      obtain ⟨x, hx, hevidence⟩ := evidence_mem_marks (herr _ hhit)
      have hmem : e ∈ x.evidence := by
        rw [extractRaw_evidence hs hx hu]
        exact List.mem_flatMap.mpr ⟨_, hentry, he⟩
      have hmark : .evidence e.fingerprint e ∈ hitMarks (fedHits calls) := by
        rw [hfed]
        exact mem_hitMarks.mpr ⟨_, hhit, hevidence e hmem⟩
      obtain ⟨stored, -, hstored, hkey, hget⟩ := exists_record hmark
      rw [← run_eq] at hget
      exact ⟨stored, hget, hkey, (evidence_of_hitMarks hstored).2.symm⟩
    case jobs =>
      intro hit j hhit hj
      exact copy_of_run (hfed ▸ hhit) hj

end Runs

section OneHit

attribute [local instance] Unicode.ascii Hashlib.hashlib

/-- A RAW document with one backup, whose `saveTime` is a lone surrogate. -/
def surrogateRaw : Json := .obj [("_source", .obj [
  ("source_networker", .str "core"),
  ("payload", .obj [("raw", .obj [("backups", .arr [.obj [
    ("id", .str "b1"),
    ("saveTime", .str [⟨0xD800, by decide⟩]),
    ("attributes", .arr [
      .obj [("key", .str "*policy action jobid"), ("values", .arr [.str "7"])],
      .obj [("key", .str "*policy name"), ("values", .arr [.str "Gold"])],
      .obj [("key", .str "*policy workflow name"), ("values", .arr [.str "Daily"])],
      .obj [("key", .str "group"), ("values", .arr [.str "db"])]])]])])])])]

/-- One call with a list for a `collection_status` or with a lone surrogate raises, and the hits
after it in the call leave nothing. -/
theorem malformed_hit_raises : ¬ Quarantined [.addRaw [listStatusRaw, goldRaw]] ∧
    ¬ Quarantined [.addRaw [surrogateRaw, goldRaw]] ∧
    (Builder.run {} [.addRaw [listStatusRaw, goldRaw]]).evidence = [] ∧
    (Builder.run {} [.addRaw [listStatusRaw, goldRaw]]).issues.length = 0 := by
  refine ⟨fun h => ?_, fun h => ?_, by decide +kernel, by decide +kernel⟩
  · exact absurd h.returns (by decide +kernel)
  · exact absurd h.returns (by decide +kernel)

end OneHit

end BackupCollector
