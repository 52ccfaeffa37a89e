/-
# What an extraction says of a hit

Every entry of a response list leaves exactly one piece of evidence or exactly one issue, and an
issue that names no action leaves the source incomplete.  `extractBackup_cases` is the case
analysis; the rest of the module lifts it to the entries of a response and to a whole hit.

It is the bottom of the fail-closed argument: if nothing of a response can vanish between the hit
and the extraction, then a ledger that keeps every extraction has kept everything.  So the
statements are exact.  `FromEntries` says that an extraction holds what its entries yield and
nothing else, and `ExtractedFrom` adds what a hit may contribute by itself: that its collection did
not get everything, that its payload has no response list, that it cannot be attributed.

`Evidence.Named` is the other thing needed later.  An item's candidate is determined by what the
item spells, so two items with the same spelling are for the same candidate, and a fingerprint of
the spelling is one of the candidate.

A hit on which the extraction raises is not described here; it has no extraction.
-/
import BackupCollector.Lookups.Extract

namespace BackupCollector

open Py

/-! ## 1. One entry

The outcome of an entry by cases.  What an entry names is read before anything can go wrong with
the rest of it. -/

/-- The action an entry names, when it names one. -/
def entryActionId (backup : Json) : Option Str :=
  match backup with
  | .obj b => (attributeValues (Obj.get b "attributes")).actionId
  | _ => none

/-- The names of an item are the normalized names of what it spells, so the spelling decides the
candidate.  The converse does not hold: two spellings may be normalized alike. -/
structure Evidence.Named (e : Evidence) : Prop where
  policy : normalizeName e.policy.original true = .ok e.policy
  workflow : normalizeName e.workflow.original true = .ok e.workflow
  group : normalizeName e.group.original false = .ok e.group

/-- The same spelling is the same candidate. -/
theorem Evidence.Named.candidate_eq {a b : Evidence} (ha : a.Named) (hb : b.Named)
    (h : a.originalCandidate = b.originalCandidate) : a.candidate = b.candidate := by
  unfold Evidence.originalCandidate at h
  simp only [List.cons.injEq, and_true] at h
  obtain ⟨hp, hw, hg⟩ := h
  have hpolicy : a.policy = b.policy := Except.ok.inj (ha.policy.symm.trans (hp ▸ hb.policy))
  have hworkflow : a.workflow = b.workflow := Except.ok.inj (ha.workflow.symm.trans (hw ▸ hb.workflow))
  have hgroup : a.group = b.group := Except.ok.inj (ha.group.symm.trans (hg ▸ hb.group))
  unfold Evidence.candidate
  rw [hpolicy, hworkflow, hgroup]

/-- The relation of an entry is named by what it spells. -/
theorem relationNames_eq_ok {v : AttributeValues} {p w g : Name} (h : relationNames v = .ok (p, w, g)) :
    normalizeName p.original true = .ok p ∧ normalizeName w.original true = .ok w ∧
      normalizeName g.original false = .ok g := by
  unfold relationNames at h
  obtain ⟨p', hp, h⟩ := bind_eq_ok.mp h
  obtain ⟨w', hw, h⟩ := bind_eq_ok.mp h
  obtain ⟨g', hg, h⟩ := bind_eq_ok.mp h
  obtain ⟨rfl, rfl, rfl⟩ : p' = p ∧ w' = w ∧ g' = g := by simpa using Except.ok.inj h
  refine ⟨?_, ?_, ?_⟩
  · rw [(normalizeName_eq_ok hp).1, hp]
  · rw [(normalizeName_eq_ok hw).1, hw]
  · rw [(normalizeName_eq_ok hg).1, hg]

/-- What one entry yields: an item for the action it names, an issue for it, or an issue that names
no action and leaves the source incomplete. -/
inductive EntryOutcome (backup : Json) (source : Source) (reference : Obj) (observedAt : Option Instant) :
    Extraction → Prop where
  | evidence (e : Evidence) (hid : entryActionId backup = some e.actionId) (hsource : e.source = source)
      (hobserved : e.observedAt = observedAt) (hnamed : e.Named)
      (hreference : e.reference = Dict.set reference "backup_id" (Json.ofOption .str e.backupId)) :
      EntryOutcome backup source reference observedAt { evidence := [e] }
  | invalid (i : Issue) (actionId : Str) (hid : entryActionId backup = some actionId) (hsource : i.source = some source)
      (haction : i.actionId = some actionId) : EntryOutcome backup source reference observedAt (.issue i ∅)
  | unnamed (i : Issue) (hid : entryActionId backup = none) (hsource : i.source = some source)
      (haction : i.actionId = none) : EntryOutcome backup source reference observedAt (.issue i {source})

/-- **An entry yields one piece of evidence for the action it names, one issue for it, or, when it
names none, one issue that leaves the source incomplete.** -/
theorem extractBackup_cases (backup : Json) (source : Source) (reference : Obj) (observedAt : Option Instant) :
    EntryOutcome backup source reference observedAt (extractBackup backup source reference observedAt) := by
  cases backup with
  | obj b =>
    unfold extractBackup
    dsimp only
    cases hid : (attributeValues (Obj.get b "attributes")).actionId with
    | none => exact .unnamed _ hid rfl rfl
    | some actionId =>
      cases herrors : (attributeValues (Obj.get b "attributes")).allErrors with
      | cons error errors => exact .invalid _ actionId hid rfl rfl
      | nil =>
        dsimp only
        cases hnames : relationNames (attributeValues (Obj.get b "attributes")) with
        | error e => exact .invalid _ actionId hid rfl rfl
        | ok names =>
          obtain ⟨policy, workflow, group⟩ := names
          obtain ⟨hp, hw, hg⟩ := relationNames_eq_ok hnames
          exact .evidence _ hid rfl rfl ⟨hp, hw, hg⟩ rfl
  | _ => exact .unnamed _ rfl rfl rfl

/-! ## 2. The entries of a response

Extractions are put together part by part, and everything that is said of one is kept by this. -/

theorem Extraction.foldl_append (parts : List Extraction) (init : Extraction) :
    (parts.foldl Extraction.append init).evidence = init.evidence ++ parts.flatMap (·.evidence) ∧
      (parts.foldl Extraction.append init).issues = init.issues ++ parts.flatMap (·.issues) ∧
      ∀ s, s ∈ (parts.foldl Extraction.append init).incompleteSources ↔
        s ∈ init.incompleteSources ∨ ∃ part ∈ parts, s ∈ part.incompleteSources := by
  induction parts generalizing init with
  | nil => simp
  | cons part parts ih =>
    obtain ⟨hevidence, hissues, hincomplete⟩ := ih (init.append part)
    rw [List.foldl_cons, hevidence, hissues]
    refine ⟨by simp [Extraction.append], by simp [Extraction.append], fun s => ?_⟩
    rw [hincomplete s]
    simp [Extraction.append, or_assoc]

/-- One extraction is part of another. -/
structure Extraction.PartOf (part x : Extraction) : Prop where
  evidence : part.evidence ⊆ x.evidence
  issues : part.issues ⊆ x.issues
  incomplete : part.incompleteSources ⊆ x.incompleteSources

theorem Extraction.PartOf.append_right {part x : Extraction} (h : part.PartOf x) (c : Extraction) :
    part.PartOf (c.append x) :=
  ⟨fun _ he => List.mem_append_right _ (h.evidence he), fun _ hi => List.mem_append_right _ (h.issues hi),
    fun _ ht => Finset.mem_union_right _ (h.incomplete ht)⟩

/-- An extraction that holds what the entries of a response yield, and nothing of another source. -/
structure Extraction.FromEntries (source : Source) (response : List Json) (x : Extraction) : Prop where
  evidence : ∀ e ∈ x.evidence, e.source = source ∧ e.Named ∧ ∃ entry ∈ response, entryActionId entry = some e.actionId
  issues : ∀ i ∈ x.issues, i.source = some source
  incomplete : ∀ t ∈ x.incompleteSources, t = source
  unnamed : ∀ i ∈ x.issues, i.actionId = none → source ∈ x.incompleteSources
  entries : ∀ entry ∈ response, ∃ ref observedAt, (extractBackup entry source ref observedAt).PartOf x

theorem Extraction.FromEntries.issue {source : Source} {i : Issue} (hi : i.source = some source) :
    (Extraction.issue i {source}).FromEntries source [] where
  evidence e he := nomatch he
  issues j hj := by
    rw [List.mem_singleton.mp hj]
    exact hi
  incomplete t ht := Finset.mem_singleton.mp ht
  unnamed _ _ _ := Finset.mem_singleton_self source
  entries entry h := nomatch h

theorem Extraction.FromEntries.append {source : Source} {response : List Json} {c x : Extraction}
    (hc : c.FromEntries source []) (hx : x.FromEntries source response) : (c.append x).FromEntries source response where
  evidence e he := by
    rcases List.mem_append.mp he with he | he
    · obtain ⟨_, _, entry, hentry, _⟩ := hc.evidence e he
      cases hentry
    · exact hx.evidence e he
  issues i hi := (List.mem_append.mp hi).elim (hc.issues i) (hx.issues i)
  incomplete t ht := (Finset.mem_union.mp ht).elim (hc.incomplete t) (hx.incomplete t)
  unnamed i hi hnone := by
    rcases List.mem_append.mp hi with hi | hi
    · exact Finset.mem_union_left _ (hc.unnamed i hi hnone)
    · exact Finset.mem_union_right _ (hx.unnamed i hi hnone)
  entries entry hentry := by
    obtain ⟨ref, observedAt, hpart⟩ := hx.entries entry hentry
    exact ⟨ref, observedAt, hpart.append_right c⟩

theorem fromEntries_extractEntries (document reference : Obj) (source : Source) (response : List Json) :
    (extractEntries document reference source response).FromEntries source response := by
  unfold extractEntries
  obtain ⟨hevidence, hissues, hincomplete⟩ := Extraction.foldl_append (response.zipIdx.map fun entry =>
    extractBackup entry.1 source (entryReference document reference entry.2)
      (timestamp (Obj.get document "@timestamp"))) {}
  simp only [List.nil_append, List.flatMap_map] at hevidence hissues
  have hcases := fun entry : Json × Nat => extractBackup_cases entry.1 source
    (entryReference document reference entry.2) (timestamp (Obj.get document "@timestamp"))
  constructor
  case evidence =>
    intro e he
    rw [hevidence] at he
    obtain ⟨entry, hentry, he⟩ := List.mem_flatMap.mp he
    have h := hcases entry
    generalize extractBackup entry.1 source _ _ = part at h he
    cases h with
    | evidence e' hid hsource _ hnamed =>
      obtain rfl := List.mem_singleton.mp he
      exact ⟨hsource, hnamed, entry.1, List.fst_mem_of_mem_zipIdx hentry, hid⟩
    | invalid => cases he
    | unnamed => cases he
  case issues =>
    intro i hi
    rw [hissues] at hi
    obtain ⟨entry, hentry, hi⟩ := List.mem_flatMap.mp hi
    have h := hcases entry
    generalize extractBackup entry.1 source _ _ = part at h hi
    cases h with
    | evidence => cases hi
    | invalid i' _ _ hsource =>
      obtain rfl := List.mem_singleton.mp hi
      exact hsource
    | unnamed i' _ hsource =>
      obtain rfl := List.mem_singleton.mp hi
      exact hsource
  case incomplete =>
    intro t ht
    obtain ⟨part, hmem, ht⟩ := ((hincomplete t).mp ht).resolve_left (Finset.notMem_empty t)
    obtain ⟨entry, hentry, rfl⟩ := List.mem_map.mp hmem
    have h := hcases entry
    generalize extractBackup entry.1 source _ _ = part at h ht
    cases h with
    | evidence => exact absurd ht (Finset.notMem_empty t)
    | invalid => exact absurd ht (Finset.notMem_empty t)
    | unnamed => exact Finset.mem_singleton.mp ht
  case unnamed =>
    intro i hi hnone
    rw [hissues] at hi
    obtain ⟨entry, hentry, hi⟩ := List.mem_flatMap.mp hi
    refine (hincomplete source).mpr (Or.inr ⟨_, List.mem_map_of_mem hentry, ?_⟩)
    have h := hcases entry
    generalize extractBackup entry.1 source _ _ = part at h hi
    cases h with
    | evidence => cases hi
    | invalid i' actionId _ _ haction =>
      obtain rfl := List.mem_singleton.mp hi
      rw [hnone] at haction
      cases haction
    | unnamed => exact Finset.mem_singleton_self source
  case entries =>
    intro entry hentry
    obtain ⟨i, hi, rfl⟩ := List.mem_iff_getElem.mp hentry
    have hzip : (response[i], i) ∈ response.zipIdx := by
      rw [List.mem_zipIdx_iff_getElem?]
      exact List.getElem?_eq_getElem hi
    refine ⟨entryReference document reference i, timestamp (Obj.get document "@timestamp"),
      ⟨fun e he => ?_, fun j hj => ?_, fun t ht => ?_⟩⟩
    · rw [hevidence]
      exact List.mem_flatMap.mpr ⟨_, hzip, he⟩
    · rw [hissues]
      exact List.mem_flatMap.mpr ⟨_, hzip, hj⟩
    · exact (hincomplete t).mpr (Or.inr ⟨_, List.mem_map_of_mem hzip, ht⟩)

/-! ## 3. One hit

A hit has a source or not, a payload or not, a response list or not. -/

section Hits

variable [Unicode]

/-- The source a RAW hit is attributed to. -/
def rawSource (hit : Json) : Option Source := ((unwrap hit).bind fun p => sourceOf p.1 true).toOption

/-- The entries of the response list of a RAW hit. -/
def responseEntries (hit : Json) : List Json :=
  match unwrap hit with
  | .ok (document, _) =>
    match Obj.get document "payload" with
    | .obj payload => (backupResponse payload).getD []
    | _ => []
  | .error _ => []

omit [Unicode] in
/-- A RAW hit of a collection that got everything, whose entries all name their action. -/
def WholeHit (hit : Json) : Prop :=
  ∃ document reference payload response, unwrap hit = .ok (document, reference) ∧
    Obj.get document "payload" = .obj payload ∧ isPartialCollection document payload = .ok false ∧
    backupResponse payload = some response ∧ ∀ entry ∈ response, (entryActionId entry).isSome = true

/-- What the extraction of an attributed hit holds: what its entries yield, and what the hit itself
may add.  No part of it is of another source. -/
structure ExtractedFrom (hit : Json) (source : Source) (x : Extraction) : Prop
    extends Extraction.FromEntries source (responseEntries hit) x where
  whole : source ∉ x.incompleteSources → WholeHit hit

/-- A hit that cannot be attributed leaves one issue without a source, which keeps the hit. -/
theorem extractRaw_unattributed {hit : Json} (h : rawSource hit = none) :
    ∃ i : Issue, extractRaw hit = .ok (.issue i ∅) ∧ i.source = none ∧ i.details = hit := by
  unfold rawSource at h
  unfold extractRaw
  cases hu : unwrap hit with
  | error e => exact ⟨_, rfl, rfl, rfl⟩
  | ok p =>
    obtain ⟨document, reference⟩ := p
    rw [hu] at h
    change (sourceOf document true).toOption = none at h
    cases hs : sourceOf document true with
    | error e =>
      dsimp only [Except.bind]
      rw [hs]
      exact ⟨_, rfl, rfl, rfl⟩
    | ok s =>
      rw [hs] at h
      cases h

theorem rawSource_eq_some {hit : Json} {source : Source} (h : rawSource hit = some source) :
    ∃ document reference, unwrap hit = .ok (document, reference) ∧ sourceOf document true = .ok source := by
  unfold rawSource at h
  cases hu : unwrap hit with
  | error e =>
    rw [hu] at h
    cases h
  | ok p =>
    obtain ⟨document, reference⟩ := p
    rw [hu] at h
    change (sourceOf document true).toOption = some source at h
    cases hs : sourceOf document true with
    | error e =>
      rw [hs] at h
      cases h
    | ok s =>
      rw [hs] at h
      obtain rfl := Option.some.inj h
      exact ⟨document, reference, rfl, hs⟩

omit [Unicode] in
theorem responseEntries_eq {hit : Json} {document reference payload : Obj} (hu : unwrap hit = .ok (document, reference))
    (hp : Obj.get document "payload" = .obj payload) : responseEntries hit = (backupResponse payload).getD [] := by
  unfold responseEntries
  rw [hu]
  dsimp only
  rw [hp]

/-- The issue of a collection that did not get everything. -/
def collectionPart (source : Source) (reference : Obj) (partialFound : Bool) : Extraction :=
  if partialFound then .issue ⟨"partial_collection", some source, none, reference, .null⟩ {source} else {}

omit [Unicode] in
theorem fromEntries_collectionPart (source : Source) (reference : Obj) (partialFound : Bool) :
    (collectionPart source reference partialFound).FromEntries source [] := by
  cases partialFound with
  | true => exact .issue rfl
  | false =>
    exact ⟨fun e he => (nomatch he), fun i hi => (nomatch hi), fun t ht => absurd ht (Finset.notMem_empty t),
      fun i hi => (nomatch hi), fun entry h => (nomatch h)⟩

/-- What a hit with a payload yields. -/
theorem extractRaw_payload {hit : Json} {source : Source} {document reference payload : Obj}
    (hu : unwrap hit = .ok (document, reference)) (hs : sourceOf document true = .ok source)
    (hp : Obj.get document "payload" = .obj payload) :
    extractRaw hit = (isPartialCollection document payload).map fun partialFound =>
      (collectionPart source reference partialFound).append (match backupResponse payload with
        | none => .issue ⟨"invalid_backup_response", some source, none, reference, .null⟩ {source}
        | some response => extractEntries document reference source response) := by
  unfold extractRaw
  rw [hu]
  dsimp only [Except.bind]
  rw [hs]
  dsimp only [Except.map]
  rw [hp]
  dsimp only
  cases isPartialCollection document payload with
  | error e => rfl
  | ok found => cases backupResponse payload <;> rfl

/-- What a hit without one yields. -/
theorem extractRaw_noPayload {hit : Json} {source : Source} {document reference : Obj}
    (hu : unwrap hit = .ok (document, reference)) (hs : sourceOf document true = .ok source)
    (hp : ∀ payload, Obj.get document "payload" ≠ .obj payload) :
    extractRaw hit = .ok (.issue ⟨"invalid_payload", some source, none, reference, .null⟩ {source}) ∧
      responseEntries hit = [] := by
  unfold extractRaw responseEntries
  rw [hu]
  dsimp only [Except.bind]
  rw [hs]
  dsimp only [Except.map]
  cases hpayload : Obj.get document "payload" with
  | obj payload => exact absurd hpayload (hp payload)
  | _ => exact ⟨rfl, rfl⟩

/-- The extraction of an attributed hit. -/
theorem extractRaw_attributed {hit : Json} {source : Source} {x : Extraction} (h : rawSource hit = some source)
    (hx : extractRaw hit = .ok x) : ExtractedFrom hit source x := by
  obtain ⟨document, reference, hu, hs⟩ := rawSource_eq_some h
  by_cases hp : ∃ payload, Obj.get document "payload" = .obj payload
  · obtain ⟨payload, hp⟩ := hp
    rw [extractRaw_payload hu hs hp] at hx
    obtain ⟨partialFound, hincomplete, rfl⟩ := map_eq_ok.mp hx
    have hcollection := fromEntries_collectionPart source reference partialFound
    have hentries := responseEntries_eq hu hp
    cases hr : backupResponse payload with
    | none =>
      rw [hr] at hentries
      refine ⟨hentries ▸ hcollection.append (.issue rfl), fun hnot => absurd ?_ hnot⟩
      exact Finset.mem_union_right _ (Finset.mem_singleton_self source)
    | some response =>
      rw [hr] at hentries
      have hfrom := hcollection.append (fromEntries_extractEntries document reference source response)
      refine ⟨hentries ▸ hfrom, fun hnot => ?_⟩
      have hfalse : partialFound = false := by
        cases partialFound with
        | false => rfl
        | true => exact absurd (Finset.mem_union_left _ (Finset.mem_singleton_self source)) hnot
      refine ⟨document, reference, payload, response, hu, hp, hfalse ▸ hincomplete, hr, fun entry hentry => ?_⟩
      obtain ⟨ref, observedAt, hpart⟩ := hfrom.entries entry hentry
      have hcase := extractBackup_cases entry source ref observedAt
      generalize extractBackup entry source ref observedAt = part at hpart hcase
      cases hcase with
      | evidence e hid => rw [hid]; rfl
      | invalid i actionId hid => rw [hid]; rfl
      | unnamed i hid => exact absurd (hpart.incomplete (Finset.mem_singleton_self source)) hnot
  · obtain ⟨heq, hentries⟩ := extractRaw_noPayload hu hs fun payload h => hp ⟨payload, h⟩
    rw [heq] at hx
    obtain rfl := Except.ok.inj hx
    exact ⟨hentries ▸ .issue rfl, fun hnot => absurd (Finset.mem_singleton_self source) hnot⟩

end Hits

end BackupCollector
