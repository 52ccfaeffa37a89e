/-
# The order of arrival

Searches return hits in no particular order, and the lookup is fed page by page.  What it publishes
should therefore be a function of WHICH hits it read and not of when it read them.

Which marks a run of calls makes depends on the hits it gets to, not on their order, and most of
what the documents read off the ledger is a question about which marks there are.  The exceptions
choose: of the observations of one revision the first of the latest is kept, of the copies of a
job the first of the latest is selected.  Where nothing ties (`Untied`), two runs over the same hits
leave ledgers that no key can tell apart, the order of its records aside (`sameFor_perm`).

Three things keep this from being an equality of documents, and the statement names each:

* Hits are LOST behind one at which `add_raw` raises, and which hits those are does depend on the
  order.  So the calls have to return; `Isolation.lean` has the run where one does not.
* The order of the records is the order of their arrival.  Every field but two is computed from the
  set of records; the references are sorted by their digest before they are written.
* The audit list is NOT sorted before it is cut off at `limit`.  With more records than that, the two
  documents show different entries of the same list, and only the list that was cut is the same
  (`SameDocument.evidence`).

Where two observations tie, the one that came first is shown.
-/
import BackupCollector.Lookups.Revisions
import BackupCollector.Lookups.Selection
import BackupCollector.Py.Ties

namespace BackupCollector

open Py

/-! ## 1. What the marks leave

What is read off a ledger, as a question about which marks were made. -/

theorem mem_blockedOf_marks {ms : List Mark} (hnamed : RevisionsNamed ms) {key : ActionKey} {r : Str} :
    r ∈ (({} : Builder).marks ms).blockedOf key ↔
      .blocked key r ∈ ms ∨ (r = lit "backup_revision_conflict" ∧ RevisionsClash ms key) := by
  constructor
  · exact given_or_clash
  · rintro (hgiven | ⟨rfl, hclash⟩)
    · exact Builder.mem_blockedOf_of_mark hgiven
    · exact mem_blockedOf_of_clash hnamed hclash

/-- The copies of a job, in the order they were brought. -/
def copiesIn (ms : List Mark) (key : ActionKey) : List Job :=
  ms.filterMap fun m => match m with
    | .copy job => if job.key = key then some job else none
    | _ => none

theorem mem_copiesIn {ms : List Mark} {key : ActionKey} {j : Job} :
    j ∈ copiesIn ms key ↔ .copy j ∈ ms ∧ j.key = key := by
  unfold copiesIn
  rw [List.mem_filterMap]
  constructor
  · rintro ⟨m, hm, h⟩
    cases m with
    | copy job =>
      dsimp only at h
      split at h
      · rename_i hkey
        obtain rfl := Option.some.inj h
        exact ⟨hm, hkey⟩
      · cases h
    | _ => cases h
  · rintro ⟨hm, hkey⟩
    exact ⟨_, hm, by simp [hkey]⟩

/-- The ledger holds, hits aside, the copies that were brought. -/
theorem cores_copiesIn (ms : List Mark) (key : ActionKey) (c : Job) :
    (∃ j ∈ copiesIn ms key, j.core = c) ↔ ∃ j ∈ (({} : Builder).marks ms).jobs.copies key, j.core = c := by
  rw [Builder.mem_copies_core]
  simp only [mem_copiesIn, and_assoc]

/-- Where the latest copies are alike, hits aside, two lists with the same copies select alike. -/
theorem selectedCopy_congr {xs ys : List Job} (h : Decided selectionKey Job.core (selectionPool xs))
    (hcores : ∀ c : Job, (∃ j ∈ xs, j.core = c) ↔ ∃ j ∈ ys, j.core = c) :
    (selectedCopy xs).map Job.core = (selectedCopy ys).map Job.core := by
  have hmap : ∀ c, c ∈ xs.map Job.core ↔ c ∈ ys.map Job.core := by simpa only [List.mem_map] using hcores
  have hmem : ∀ c, c ∈ selectionPool (xs.map Job.core) ↔ c ∈ selectionPool (ys.map Job.core) := by
    intro c
    simp only [mem_selectionPool, hmap]
  have hdecided : Decided selectionKey id (selectionPool (xs.map Job.core)) := by
    rw [selectionPool_core]
    intro a ha b hb hmax hab
    obtain ⟨j, hj, rfl⟩ := List.mem_map.mp ha
    obtain ⟨k, hk, rfl⟩ := List.mem_map.mp hb
    exact h j hj k hk (fun c hc => hmax c.core (List.mem_map_of_mem hc)) hab
  rw [selectedCopy_core, selectedCopy_core]
  simpa [selectedCopy] using hdecided.maxBy_eq hmem

/-! ## 2. Ties

Two observations of one revision tie when neither is later, and so do two copies that a selection
may take.  The first one of them is then kept or taken. -/

section Runs

variable [Unicode] [Hashlib]

/-- The observation of a revision that one hit brings: the first of its latest. -/
def LookupHit.latest (h : LookupHit) (key : ActionKey) (fp : Str) : Option Evidence :=
  maxBy Evidence.observedRank (observations h.marks.items key fp)

/-- Nothing ties among the hits: two hits that bring a latest observation of one revision bring the
same one, and two copies of one job that a selection may take agree in all but the hit. -/
structure Untied (hits : List LookupHit) : Prop where
  evidence : ∀ key fp, Decided Evidence.observedRank id (hits.filterMap fun h => h.latest key fp)
  copies : ∀ key, Decided selectionKey Job.core (selectionPool (copiesIn (hitMarks hits) key))

theorem mem_hitMarks_perm {hits hits' : List LookupHit} (h : hits.Perm hits') (m : Mark) :
    m ∈ hitMarks hits ↔ m ∈ hitMarks hits' := by
  rw [mem_hitMarks, mem_hitMarks]
  exact exists_congr fun hit => and_congr_left fun _ => h.mem_iff

theorem Untied.perm {hits hits' : List LookupHit} (h : Untied hits) (hperm : hits.Perm hits') : Untied hits' := by
  refine ⟨fun key fp => (h.evidence key fp).of_mem_iff fun a => (hperm.filterMap _).mem_iff, fun key => ?_⟩
  refine (h.copies key).of_mem_iff fun j => ?_
  simp only [mem_selectionPool, mem_copiesIn, mem_hitMarks_perm hperm]

/-- The record of a revision does not depend on the order of the hits. -/
theorem recordsOf_perm {hits hits' : List LookupHit} (huntied : Untied hits) (hperm : hits.Perm hits')
    (key : ActionKey) (fp : Str) :
    Dict.get? ((({} : Builder).marks (hitMarks hits)).recordsOf key) fp =
      Dict.get? ((({} : Builder).marks (hitMarks hits')).recordsOf key) fp := by
  have hgroups : ∀ hits : List LookupHit, observations (hitMarks hits) key fp =
      hits.flatMap fun h => observations h.marks.items key fp := by
    intro hits
    induction hits with
    | nil => rfl
    | cons h hits ih =>
      rw [List.flatMap_cons, ← ih]
      exact List.filterMap_append
  rw [Builder.get?_recordsOf, Builder.get?_recordsOf, hgroups, hgroups]
  simpa using maxBy_flatMap_perm hperm (huntied.evidence key fp)

/-- Two runs over the same hits leave ledgers that no key can tell apart. -/
theorem sameFor_perm {hits hits' : List LookupHit} (hnamed : RevisionsNamed (hitMarks hits)) (huntied : Untied hits)
    (hperm : hits.Perm hits') (key : ActionKey) :
    (({} : Builder).marks (hitMarks hits)).SameFor (({} : Builder).marks (hitMarks hits')) key := by
  have hmem := mem_hitMarks_perm hperm
  have hnamed' : RevisionsNamed (hitMarks hits') := by
    intro source backupId fingerprint actionId actionId' ha ha'
    exact hnamed source backupId fingerprint actionId actionId' ((hmem _).mpr ha) ((hmem _).mpr ha')
  refine ⟨?_, fun k _ => ?_, ?_, ?_, ?_⟩
  · exact (Dict.perm_of_get? (Builder.nodup_recordsOf _ key) (Builder.nodup_recordsOf _ key)
      (recordsOf_perm huntied hperm key)).map Prod.snd
  · have hcores : ∀ c : Job, (∃ j ∈ copiesIn (hitMarks hits) k, j.core = c) ↔
        ∃ j ∈ (({} : Builder).marks (hitMarks hits')).jobs.copies k, j.core = c := by
      intro c
      rw [← cores_copiesIn]
      simp only [mem_copiesIn, hmem]
    refine ⟨fun c => (cores_copiesIn _ k c).symm.trans (hcores c), ?_⟩
    rw [← selectedCopy_congr (huntied.copies k) hcores]
    exact (selectedCopy_congr (huntied.copies k) (cores_copiesIn _ k)).symm
  · ext r
    have hclash : RevisionsClash (hitMarks hits) key ↔ RevisionsClash (hitMarks hits') key :=
      ⟨fun h => h.mono fun m => (hmem m).mp, fun h => h.mono fun m => (hmem m).mpr⟩
    rw [mem_blockedOf_marks hnamed, mem_blockedOf_marks hnamed', hmem, hclash]
  · rw [Bool.eq_iff_iff, Builder.unknownSourceErrors_marks, Builder.unknownSourceErrors_marks, hmem]
  · rw [Builder.mem_incompleteSources_marks, Builder.mem_incompleteSources_marks]
    simp only [hmem]

/-! ## 3. Documents

A document is written from a verdict, and two verdicts that say the same are written alike. -/

/-- Two documents agree: in every field but the last two they are the same, their references are the
same JSON, and their audit lists show the first `limit` of the same entries in whatever order, hence
the same entries when nothing was cut off. -/
structure SameDocument (limit : Nat) (d d' : Obj) : Prop where
  keys : Dict.keys d = Dict.keys d'
  fields : ∀ name, name ≠ lit "backup_references" → name ≠ lit "candidate_evidence" →
    Dict.get? d name = Dict.get? d' name
  references : ∃ r r', Dict.get? d "backup_references" = some r ∧ Dict.get? d' "backup_references" = some r' ∧
    Json.dumps r = Json.dumps r'
  evidence : ∃ (audit audit' : List Json) (rest : Obj), audit.Perm audit' ∧
    Dict.get? d "candidate_evidence" = some (.obj (("items", .arr (audit.take limit)) :: rest)) ∧
    Dict.get? d' "candidate_evidence" = some (.obj (("items", .arr (audit'.take limit)) :: rest)) ∧
    Obj.get rest "truncated" = .bool (decide (limit < audit.length)) ∧
    (audit.length ≤ limit → (audit.take limit).Perm (audit'.take limit))

omit [Unicode] [Hashlib] in
theorem dumps_items {xs ys : List Obj} (h : xs.map (fun r => Json.dumps (.obj r)) = ys.map fun r => Json.dumps (.obj r)) :
    Json.dumps (.obj [("items", .arr (xs.map .obj))]) = Json.dumps (.obj [("items", .arr (ys.map .obj))]) := by
  have hlist : ∀ zs : List Obj, Json.dumpsList (zs.map .obj) = zs.map fun r => Json.dumps (.obj r) := by
    intro zs
    induction zs with
    | nil => rfl
    | cons z zs ih => rw [List.map_cons, Json.dumpsList, ih, List.map_cons]
  have harr : Json.dumps (.arr (xs.map .obj)) = Json.dumps (.arr (ys.map .obj)) := by
    rw [Json.dumps, Json.dumps, hlist, hlist, h]
  rw [dumps_obj, dumps_obj, dumpsObj_eq, dumpsObj_eq]
  simp [harr]

/-- No two of the references collide: those with one digest have one text. -/
def ReferencesDiffer (records : List Evidence) : Prop :=
  ∀ a ∈ records, ∀ b ∈ records,
    Hashlib.sha256 (Json.dumps (.obj a.reference)) = Hashlib.sha256 (Json.dumps (.obj b.reference)) →
      Json.dumps (.obj a.reference) = Json.dumps (.obj b.reference)

omit [Unicode] in
/-- The sorted references are the same JSON over every order of the records. -/
theorem sortedReferences_perm {records records' : List Evidence} (hdiffer : ReferencesDiffer records)
    (hperm : records.Perm records') {references : List Obj} (h : sortedReferences records = .ok references) :
    ∃ references', sortedReferences records' = .ok references' ∧
      references.map (fun r => Json.dumps (.obj r)) = references'.map fun r => Json.dumps (.obj r) := by
  unfold sortedReferences at h ⊢
  obtain ⟨keyed, hkeyed, h⟩ := bind_eq_ok.mp h
  obtain rfl := Except.ok.inj h
  have hall := mapM_eq_ok.mp hkeyed
  obtain ⟨keyed', hall', hperm'⟩ := List.perm_comp_forall₂ hperm.symm hall
  have hentry : ∀ p ∈ keyed, ∃ e ∈ records,
      p.1 = Hashlib.sha256 (Json.dumps (.obj e.reference)) ∧ p.2 = e.reference := by
    intro p hp
    obtain ⟨e, he, hmap⟩ := exists_of_forall₂ hall p hp
    obtain ⟨d, hd, rfl⟩ := map_eq_ok.mp hmap
    exact ⟨e, he, digest_ok hd, rfl⟩
  refine ⟨(keyed'.insertionSort fun a b => a.1 ≤ b.1).map Prod.snd, bind_eq_ok.mpr ⟨keyed', mapM_eq_ok.mpr hall', rfl⟩, ?_⟩
  rw [List.map_map, List.map_map]
  refine map_eq_of_map_eq (map_insertionSort_perm Prod.fst hperm'.symm) fun p hp q hq hpq => ?_
  obtain ⟨a, ha, hpa, hpa'⟩ := hentry p ((List.mem_insertionSort _).mp hp)
  obtain ⟨b, hb, hqb, hqb'⟩ := hentry q (hperm'.mem_iff.mp ((List.mem_insertionSort _).mp hq))
  rw [Function.comp_apply, Function.comp_apply, hpa', hqb']
  exact hdiffer a ha b hb (hpa.symm.trans (hpq.trans hqb))

omit [Unicode] [Hashlib] in
theorem candidates_perm {v v' : Verdict} (h : v.Same v') : v.candidates = v'.candidates :=
  List.toFinset_eq_of_perm _ _ (h.records.map Evidence.candidate)

omit [Unicode] [Hashlib] in
theorem originals_perm {v v' : Verdict} (h : v.Same v') : v.originals = v'.originals :=
  List.toFinset_eq_of_perm _ _ (h.records.map Evidence.originalCandidate)

omit [Unicode] [Hashlib] in
/-- The latest observation of two verdicts that say the same is the same instant. -/
theorem latest_observed_perm {v v' : Verdict} (h : v.Same v') :
    maxBy Instant.us v.observed = maxBy Instant.us v'.observed := by
  have haction : v.action.bind Job.observedAt = v'.action.bind Job.observedAt :=
    bind_of_core (f := Job.observedAt) (fun _ => rfl) h.action
  refine maxBy_eq_of_mem_iff (fun t => ?_) fun a _ b _ hab => Instant.ext hab
  unfold Verdict.observed
  rw [haction, List.mem_append, List.mem_append, (h.records.filterMap _).mem_iff]

/-- Two verdicts that say the same give documents that agree, and raise together. -/
theorem document_perm {v v' : Verdict} (h : v.Same v') (hdiffer : ReferencesDiffer v.records) {key : ActionKey}
    {synced : Datetime} {coverage : Option Coverage} {generation : Str} {limit : Nat} {d : Obj}
    (hd : v.document key synced coverage generation limit = .ok d) :
    ∃ d', v'.document key synced coverage generation limit = .ok d' ∧ SameDocument limit d d' := by
  have hcandidates := candidates_perm h
  have hmapping : v.mapping = v'.mapping := by
    unfold Verdict.mapping
    rw [hcandidates, h.blocked]
  have hverification : v.verification = v'.verification := by
    unfold Verdict.verification
    rw [h.blocked, h.pending, hmapping]
  have hpublished : v.published = v'.published := by
    unfold Verdict.published
    rw [hmapping, hverification, hcandidates]
  have hreasons : v.reasons = v'.reasons := by
    unfold Verdict.reasons
    rw [h.blocked, h.pending]
  have hstate : v.evidenceState = v'.evidenceState := by
    unfold Verdict.evidenceState
    rw [hreasons, hmapping]
  have hstart := bind_of_core (f := Job.start) (fun _ => rfl) h.action
  have hfinish := bind_of_core (f := Job.finish) (fun _ => rfl) h.action
  have hroot := bind_of_core (f := Job.root) (fun _ => rfl) h.action
  have hkind : v.action.map Job.kind = v'.action.map Job.kind := by
    simpa only [Option.map_eq_bind] using bind_of_core (f := some ∘ Job.kind) (fun _ => rfl) h.action
  have hstatus : v.action.map Job.status = v'.action.map Job.status := by
    simpa only [Option.map_eq_bind] using bind_of_core (f := some ∘ Job.status) (fun _ => rfl) h.action
  unfold Verdict.document at hd
  obtain ⟨references, hreferences, hd⟩ := bind_eq_ok.mp hd
  obtain ⟨fingerprint, hfingerprint, hd⟩ := bind_eq_ok.mp hd
  obtain ⟨references', hreferences', htexts⟩ := sortedReferences_perm hdiffer h.records hreferences
  have hlength : references.length = references'.length := by simpa using congrArg List.length htexts
  have hfingerprint' := hcandidates ▸ hfingerprint
  obtain ⟨d', hd'⟩ : ∃ d', v'.document key synced coverage generation limit = .ok d' := by
    unfold Verdict.document
    exact ⟨_, bind_eq_ok.mpr ⟨references', hreferences', bind_eq_ok.mpr ⟨fingerprint, hfingerprint', rfl⟩⟩⟩
  refine ⟨d', hd', ?_⟩
  unfold Verdict.document at hd'
  obtain ⟨_, hr, hd'⟩ := bind_eq_ok.mp hd'
  obtain rfl := Except.ok.inj (hreferences'.symm.trans hr)
  obtain ⟨_, hf, hd'⟩ := bind_eq_ok.mp hd'
  obtain rfl := Except.ok.inj (hfingerprint'.symm.trans hf)
  replace hd := Except.ok.inj hd
  replace hd' := Except.ok.inj hd'
  rw [hmapping, hverification, hpublished, hreasons, hstate, hstart, hfinish, hroot, hkind, hstatus, hcandidates,
    originals_perm h, latest_observed_perm h, hlength, h.records.length_eq] at hd
  subst hd hd'
  refine ⟨rfl, fun name href hevidence => ?_, ⟨_, _, rfl, rfl, dumps_items ?_⟩, ?_⟩
  · have hlast : ∀ rest : Obj, Dict.keys rest = [lit "backup_references", lit "candidate_evidence"] →
        name ∉ Dict.keys rest := by
      intro rest hrest
      rw [hrest]
      simp [href, hevidence]
    refine Dict.get?_congr_of_take 27 ?_ (hlast _ ?_) (hlast _ ?_)
    · rfl
    · rfl
    · rfl
  · rw [List.map_take, List.map_take, htexts]
  · refine ⟨v.records.map auditEntry, v'.records.map auditEntry,
      [("truncated", .bool (decide (limit < v'.records.length))),
        ("coverage_proof", .str ((coverage.map (·.proofReference)).getD []))],
      h.records.map auditEntry, ?_, ?_, ?_, fun hlimit => ?_⟩
    · rw [← List.map_take]
      rfl
    · rw [← List.map_take]
      rfl
    · rw [List.length_map, h.records.length_eq]
      rfl
    · rw [List.take_of_length_le hlimit, List.take_of_length_le ((h.records.map auditEntry).length_eq ▸ hlimit)]
      exact h.records.map auditEntry

/-! ## 4. Builds

The documents of a build, key by key. -/

/-- Two results of `build` agree: both raise, or they return agreeing documents under the same keys
in the same order. -/
def BuildsAlike (limit : Nat) : Except Err (Dict Str Obj) → Except Err (Dict Str Obj) → Prop
  | .ok docs, .ok docs' => List.Forall₂ (fun p p' => p.1 = p'.1 ∧ SameDocument limit p.2 p'.2) docs docs'
  | .error _, .error _ => True
  | _, _ => False

/-- What one ledger builds another with the same keys builds, document by document. -/
theorem build_related {b b' : Builder} (hkeys : ∀ key, key ∈ b.keys ↔ key ∈ b'.keys) {synced : Datetime}
    {coverage : List Coverage} {generation : Str} {limit : Int} {R : Obj → Obj → Prop}
    (hdoc : ∀ key c d, b.document key synced c generation limit.toNat = .ok d →
      ∃ d', b'.document key synced c generation limit.toNat = .ok d' ∧ R d d')
    {docs : Dict Str Obj} (h : b.build synced coverage generation limit = .ok docs) :
    ∃ docs', b'.build synced coverage generation limit = .ok docs' ∧
      List.Forall₂ (fun p p' => p.1 = p'.1 ∧ R p.2 p'.2) docs docs' := by
  unfold Builder.build at h ⊢
  split
  · rename_i hargs
    rw [if_pos hargs] at h
    cases h
  · rename_i hargs
    rw [if_neg hargs] at h
    obtain ⟨attested, hattested, h⟩ := bind_eq_ok.mp h
    rw [Builder.sortedKeys_congr hkeys] at h
    have hentry : ∀ key p, (b.document key synced (Dict.get? attested key) generation limit.toNat).map
          (fun d => (ActionKey.text key, d)) = .ok p →
        ∃ p', (b'.document key synced (Dict.get? attested key) generation limit.toNat).map
          (fun d => (ActionKey.text key, d)) = .ok p' ∧ p.1 = p'.1 ∧ R p.2 p'.2 := by
      intro key p hp
      obtain ⟨d, hd, rfl⟩ := map_eq_ok.mp hp
      obtain ⟨d', hd', hR⟩ := hdoc key _ d hd
      exact ⟨(key.text, d'), map_eq_ok.mpr ⟨d', hd', rfl⟩, rfl, hR⟩
    obtain ⟨docs', hdocs', hall⟩ := mapM_related (fun key _ => hentry key) h
    exact ⟨docs', bind_eq_ok.mpr ⟨attested, hattested, hdocs'⟩, hall⟩

/-- No two of the references that a sequence of hits brought collide.  The references are hashed
only to be sorted, so this is all that is asked of their digests. -/
def DistinctReferences (hits : List LookupHit) : Prop := ReferencesDiffer (hits.flatMap LookupHit.items)

theorem document_of_perm {hits hits' : List LookupHit} (hnamed : RevisionsNamed (hitMarks hits)) (huntied : Untied hits)
    (hdistinct : DistinctReferences hits) (hperm : hits.Perm hits') {key : ActionKey} {synced : Datetime}
    {coverage : Option Coverage} {generation : Str} {limit : Nat} {d : Obj}
    (hd : (({} : Builder).marks (hitMarks hits)).document key synced coverage generation limit = .ok d) :
    ∃ d', (({} : Builder).marks (hitMarks hits')).document key synced coverage generation limit = .ok d' ∧
      SameDocument limit d d' := by
  refine document_perm (verdict_congr (Builder.sound_jobs _) (Builder.sound_jobs _)
    (sameFor_perm hnamed huntied hperm key) synced coverage) (fun a ha b hb => ?_) hd
  have hitem : ∀ e ∈ (({} : Builder).marks (hitMarks hits)).records key, e ∈ hits.flatMap LookupHit.items := by
    intro e he
    obtain ⟨fp, hm, -⟩ := mem_records he
    exact (evidence_of_hitMarks hm).1
  rw [verdict_records] at ha hb
  exact hdistinct a (hitem a ha) b (hitem b hb)

theorem keys_perm {hits hits' : List LookupHit} (hnamed : RevisionsNamed (hitMarks hits)) (huntied : Untied hits)
    (hperm : hits.Perm hits') (key : ActionKey) :
    key ∈ (({} : Builder).marks (hitMarks hits)).keys ↔ key ∈ (({} : Builder).marks (hitMarks hits')).keys := by
  have hsame := sameFor_perm hnamed huntied hperm key
  rw [Builder.mem_keys, Builder.mem_keys]
  refine Builder.concerns_congr ⟨fun hnil => ?_, fun hnil => ?_⟩ hsame.blocked hsame.copies
  · exact (hnil ▸ hsame.records).nil_eq.symm
  · exact (hnil ▸ hsame.records).eq_nil

/-- A run over the hits of a run that returns returns too, and both get to all of them. -/
theorem fedHits_of_perm {calls calls' : List LookupCall} (hreturns : ({} : Builder).returns calls = true)
    (hperm : (givenHits calls).Perm (givenHits calls')) :
    fedHits calls = givenHits calls ∧ fedHits calls' = givenHits calls' := by
  obtain ⟨hfed, herr⟩ := fedHits_of_returns hreturns
  have hreturns' : ({} : Builder).returns calls' = true :=
    returns_iff.mpr fun hit hhit => herr hit (hperm.mem_iff.mpr hhit)
  exact ⟨hfed, (fedHits_of_returns hreturns').1⟩

/-- **The order of arrival does not matter where nothing ties**: two runs that are handed the same
hits, in any order and cut into calls in any way, build the same keys and agreeing documents, or both
raise.  The calls have to return, and no two digests of the run collide; with ties, or with more
records than `limit`, the first to arrive is shown. -/
theorem arrival_order_immaterial (calls calls' : List LookupCall) (hreturns : ({} : Builder).returns calls = true)
    (hperm : (givenHits calls).Perm (givenHits calls'))
    (hfree : CollisionFree (givenHits calls)) (hdistinct : DistinctReferences (givenHits calls))
    (huntied : Untied (givenHits calls)) (synced : Datetime) (coverage : List Coverage) (generation : Str) (limit : Int) :
    BuildsAlike limit.toNat ((Builder.run {} calls).build synced coverage generation limit)
      ((Builder.run {} calls').build synced coverage generation limit) := by
  have hnamed := hfree.revisionsNamed
  have hmem : ∀ e, e ∈ (givenHits calls').flatMap LookupHit.items ↔ e ∈ (givenHits calls).flatMap LookupHit.items :=
    fun e => (hperm.symm.flatMap_right _).mem_iff
  have hfree' : CollisionFree (givenHits calls') :=
    ⟨hfree.length, fun a ha b hb => hfree.injective a ((hmem a).mp ha) b ((hmem b).mp hb)⟩
  have hdistinct' : DistinctReferences (givenHits calls') := fun a ha b hb =>
    hdistinct a ((hmem a).mp ha) b ((hmem b).mp hb)
  obtain ⟨hfed, hfed'⟩ := fedHits_of_perm hreturns hperm
  rw [run_eq, run_eq, hfed, hfed']
  cases hb : (({} : Builder).marks (hitMarks (givenHits calls))).build synced coverage generation limit with
  | ok docs =>
    obtain ⟨docs', hdocs', hall⟩ := build_related (keys_perm hnamed huntied hperm)
      (fun _ _ _ hd => document_of_perm hnamed huntied hdistinct hperm hd) hb
    rw [hdocs']
    exact hall
  | error e =>
    cases hb' : (({} : Builder).marks (hitMarks (givenHits calls'))).build synced coverage generation limit with
    | error e' => trivial
    | ok docs' =>
      obtain ⟨docs, hdocs, -⟩ := build_related
        (keys_perm hfree'.revisionsNamed (huntied.perm hperm) hperm.symm)
        (fun _ _ _ hd => document_of_perm hfree'.revisionsNamed (huntied.perm hperm) hdistinct' hperm.symm hd) hb'
      rw [hb] at hdocs
      cases hdocs

/-- Nothing ties among RAW hits that never bring a revision twice. -/
theorem Untied.of_items {hits : List LookupHit} (hraw : ∀ hit, .job hit ∉ hits)
    (hitems : ∀ a ∈ hits.flatMap LookupHit.items, ∀ b ∈ hits.flatMap LookupHit.items,
      a.fingerprint = b.fingerprint → a = b) : Untied hits := by
  have hlatest : ∀ {key fp e}, e ∈ hits.filterMap (fun h => h.latest key fp) →
      e ∈ hits.flatMap LookupHit.items ∧ fp = e.fingerprint := by
    intro key fp e he
    obtain ⟨h, hh, he⟩ := List.mem_filterMap.mp he
    exact evidence_of_hitMarks (mem_hitMarks.mpr ⟨h, hh, (mem_observations.mp (maxBy_spec he).1).1⟩)
  refine ⟨fun key fp a ha b hb _ _ => ?_, fun key a ha => ?_⟩
  · obtain ⟨ha, hfp⟩ := hlatest ha
    obtain ⟨hb, hfp'⟩ := hlatest hb
    exact hitems a ha b hb (hfp.symm.trans hfp')
  · obtain ⟨h, hh, hm⟩ := mem_hitMarks.mp (mem_copiesIn.mp (mem_of_mem_selectionPool ha)).1
    cases LookupHit.markOf hm with
    | copy hit => exact absurd hh (hraw _)

end Runs

section Example

attribute [local instance] Unicode.ascii Hashlib.hashlib

/-- Two revisions of one backup, in either order and in one call or two. -/
theorem arrival_order_immaterial_silver :
    BuildsAlike (Int.toNat 20) ((Builder.run {} [.addRaw [goldRaw, silverRaw]]).build (hourOf 4 (by decide)) [] "g" 20)
      ((Builder.run {} [.addRaw [silverRaw], .addRaw [goldRaw]]).build (hourOf 4 (by decide)) [] "g" 20) := by
  have hgiven : givenHits [.addRaw [goldRaw, silverRaw]] = [.raw goldRaw, .raw silverRaw] := rfl
  have hgiven' : givenHits [.addRaw [silverRaw], .addRaw [goldRaw]] = [.raw silverRaw, .raw goldRaw] := rfl
  have hperm : (givenHits [.addRaw [goldRaw, silverRaw]]).Perm (givenHits [.addRaw [silverRaw], .addRaw [goldRaw]]) := by
    rw [hgiven, hgiven']
    exact List.Perm.swap _ _ []
  have hreturns : ({} : Builder).returns [.addRaw [goldRaw, silverRaw]] = true := by decide +kernel
  have hfree : CollisionFree (givenHits [.addRaw [goldRaw, silverRaw]]) :=
    (fedHits_of_returns hreturns).1 ▸ collisionFree_silver
  have hdistinct : DistinctReferences (givenHits [.addRaw [goldRaw, silverRaw]]) := by
    unfold DistinctReferences ReferencesDiffer
    decide +kernel
  have huntied : Untied (givenHits [.addRaw [goldRaw, silverRaw]]) := by
    refine Untied.of_items ?_ (by decide +kernel)
    rw [hgiven]
    simp
  have hour : 4 < 24 := by decide
  generalize hourOf 4 hour = synced
  exact arrival_order_immaterial _ _ hreturns hperm hfree hdistinct huntied synced [] (lit "g") 20

end Example

end BackupCollector
