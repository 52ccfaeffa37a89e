/-
# Sources do not see each other, where the calls are read to their end

The servers reuse the same numeric ids, so the lookup must never let one server's backups speak for
another's.  Every map of the ledger is keyed by source, and a mark made for one source changes
nothing that the documents of another are read from.  The ledger, as one source sees it
(`Builder.AgreeOn`), is what the marks made for that source leave, and the flag for unattributed
input is all that is shared.  So far the design holds, and sections 1 and 2 prove it mark by mark.

What the sources do share is the CALL.  `add_raw` reads the hits of all sources in one loop, and an
exception at a hit of one source ends the loop for the hits of every other: the hits behind it never
become marks (`BehindUnfit`).  Two runs that are handed the same hits of `core` can therefore give
`core` different documents, because `chnl` sent a malformed one in the first.  `source_isolation` is
the law for the runs in which nothing of the source stands behind such a hit (`ReadsAll`), and
`foreign_hit_hides` is the run that breaks it without that condition.

The two runs may otherwise differ in everything: in the other sources' hits, ids, conflicts and
partial polls, in how the hits are cut into calls, and in which of the calls raise.
-/
import BackupCollector.Lookups.PublishedNames

namespace BackupCollector

open Py

/-! ## 1. Whose mark it is

A mark carries the source it was made for, and changes what is read for that source only. -/

/-- A mark made for a source. -/
def Mark.isFor (s : Source) : Mark → Bool
  | .issue _ => false
  | .incomplete sources => decide (s ∈ sources)
  | .unattributed => false
  | .blocked key _ => decide (key.1 = s)
  | .identity source _ _ _ => decide (source = s)
  | .evidence _ item => decide (item.source = s)
  | .copy job => decide (job.source = s)

/-- Two ledgers a source cannot tell apart, the flag for unattributed input aside.  The flag is
kept out because hits of nobody raise it for all sources. -/
structure Builder.AgreeOn (s : Source) (b b' : Builder) : Prop where
  records : ∀ key : ActionKey, key.1 = s → b.recordsOf key = b'.recordsOf key
  copies : ∀ key : ActionKey, key.1 = s → b.jobs.copies key = b'.jobs.copies key
  blocked : ∀ key : ActionKey, key.1 = s → b.blockedOf key = b'.blockedOf key
  revisions : ∀ id, b.revisionsOf (s, id) = b'.revisionsOf (s, id)
  incomplete : s ∈ b.incompleteSources ↔ s ∈ b'.incompleteSources

namespace Builder

theorem AgreeOn.refl (s : Source) (b : Builder) : b.AgreeOn s b :=
  ⟨fun _ _ => rfl, fun _ _ => rfl, fun _ _ => rfl, fun _ => rfl, Iff.rfl⟩

theorem AgreeOn.symm {s : Source} {b b' : Builder} (h : b.AgreeOn s b') : b'.AgreeOn s b :=
  ⟨fun key hk => (h.records key hk).symm, fun key hk => (h.copies key hk).symm, fun key hk => (h.blocked key hk).symm,
    fun id => (h.revisions id).symm, h.incomplete.symm⟩

theorem AgreeOn.trans {s : Source} {a b c : Builder} (h : a.AgreeOn s b) (h' : b.AgreeOn s c) : a.AgreeOn s c :=
  ⟨fun key hk => (h.records key hk).trans (h'.records key hk), fun key hk => (h.copies key hk).trans (h'.copies key hk),
    fun key hk => (h.blocked key hk).trans (h'.blocked key hk), fun id => (h.revisions id).trans (h'.revisions id),
    h.incomplete.trans h'.incomplete⟩

/-- The revisions of a backup name actions of its own source. -/
def RevisionsOwn (b : Builder) : Prop := ∀ identity, ∀ p ∈ b.revisionsOf identity, p.2.1 = identity.1

theorem revisionsOwn (ms : List Mark) : (({} : Builder).marks ms).RevisionsOwn := by
  refine marks_induction (P := fun _ b => b.RevisionsOwn) (fun _ p hp => nomatch hp) (fun _ b m ih => ?_) ms
  intro identity p hp
  rw [revisionsOf_mark] at hp
  cases m with
  | identity source backupId fingerprint actionId =>
    dsimp only at hp
    split at hp
    · rename_i hid
      subst hid
      rcases Dict.mem_set hp with hp | rfl
      · exact ih _ p hp
      · rfl
    · exact ih identity p hp
  | _ => exact ih identity p hp

/-- A mark made for another source changes nothing this one sees. -/
theorem agreeOn_mark_of_not {b : Builder} (hown : b.RevisionsOwn) {s : Source} {m : Mark} (hm : m.isFor s = false) :
    (b.mark m).AgreeOn s b where
  records key hk := by
    rw [recordsOf_mark]
    cases m with
    | evidence fingerprint item =>
      have hne : item.source ≠ s := of_decide_eq_false hm
      refine if_neg fun h => hne ?_
      rw [← hk, ← h]
      rfl
    | _ => rfl
  copies key hk := by
    rw [copies_mark]
    cases m with
    | copy job =>
      have hne : job.source ≠ s := of_decide_eq_false hm
      refine if_neg fun h => hne ?_
      rw [← hk, ← h]
      rfl
    | _ => rfl
  blocked key hk := by
    refine Finset.Subset.antisymm (fun r hr => ?_) (blockedOf_mark_subset b m key)
    rcases mem_blockedOf_mark.mp hr with hr | hadds
    · exact hr
    · cases m with
      | blocked k reason =>
        obtain ⟨rfl, -⟩ := hadds
        exact absurd hk (of_decide_eq_false hm)
      | identity source backupId fingerprint actionId =>
        obtain ⟨-, old, hold, -, hkey⟩ := hadds
        have hsource : source ≠ s := of_decide_eq_false hm
        rcases hkey with rfl | rfl
        · exact absurd ((hown _ old hold).symm.trans hk) hsource
        · exact absurd hk hsource
      | _ => exact hadds.elim
  revisions id := by
    rw [revisionsOf_mark]
    cases m with
    | identity source backupId fingerprint actionId =>
      exact if_neg fun h => of_decide_eq_false hm (congrArg Prod.fst h)
    | _ => rfl
  incomplete := by
    rw [incompleteSources_mark]
    cases m with
    | incomplete sources =>
      have hne : s ∉ sources := of_decide_eq_false hm
      simp [hne]
    | _ => exact Iff.rfl

/-- What a mark changes of the view of a source depends on that view only. -/
theorem AgreeOn.mark {s : Source} {b b' : Builder} (h : b.AgreeOn s b') {m : Mark} (hm : m.isFor s = true) :
    (b.mark m).AgreeOn s (b'.mark m) where
  records key hk := by
    rw [recordsOf_mark, recordsOf_mark, h.records key hk]
  copies key hk := by
    rw [copies_mark, copies_mark, h.copies key hk]
  blocked key hk := by
    ext r
    rw [mem_blockedOf_mark, mem_blockedOf_mark, h.blocked key hk]
    refine or_congr_right ?_
    cases m with
    | identity source backupId fingerprint actionId =>
      obtain rfl := of_decide_eq_true hm
      dsimp only [Adds]
      rw [h.revisions]
    | _ => exact Iff.rfl
  revisions id := by
    rw [revisionsOf_mark, revisionsOf_mark, h.revisions]
  incomplete := by
    rw [incompleteSources_mark, incompleteSources_mark]
    cases m with
    | incomplete sources =>
      dsimp only
      rw [Finset.mem_union, Finset.mem_union, h.incomplete]
    | _ => exact h.incomplete

/-- A source sees what the marks made for it leave. -/
theorem agreeOn_filter (s : Source) (ms : List Mark) :
    (({} : Builder).marks ms).AgreeOn s (({} : Builder).marks (ms.filter (Mark.isFor s))) := by
  induction ms using List.reverseRecOn with
  | nil => exact AgreeOn.refl s _
  | append_singleton ms m ih =>
    rw [marks_concat, List.filter_append]
    cases hm : m.isFor s with
    | true =>
      have hone : [m].filter (Mark.isFor s) = [m] := by simp [hm]
      rw [hone, marks_concat]
      exact ih.mark hm
    | false =>
      have hnone : [m].filter (Mark.isFor s) = [] := by simp [hm]
      rw [hnone, List.append_nil]
      exact (agreeOn_mark_of_not (revisionsOwn ms) hm).trans ih

end Builder

/-! ## 2. Whose hit it is

A hit makes marks for the source it is attributed to; one that is attributed to nobody raises the
flag that all sources see. -/

section Runs

variable [Unicode] [Hashlib]

omit [Hashlib] in
/-- The source a hit is attributed to; a RAW hit that names none and an invalid job document have
none. -/
def LookupHit.source : LookupHit → Option Source
  | .raw hit => rawSource hit
  | .job hit => (readJob hit).toOption.map Job.source

omit [Hashlib] in
theorem LookupHit.source_of_job {hit : Json} {job : Job} (h : readJob hit = .ok job) :
    (LookupHit.job hit).source = some job.source := by
  unfold LookupHit.source
  dsimp only
  rw [h]
  rfl

omit [Hashlib] in
/-- The items of a hit are of its source. -/
theorem LookupHit.source_of_item {h : LookupHit} {e : Evidence} (he : e ∈ h.items) : h.source = some e.source := by
  cases h with
  | raw hit =>
    cases hx : extractRaw hit with
    | error err =>
      unfold LookupHit.items at he
      dsimp only at he
      rw [hx] at he
      cases he
    | ok x =>
      rw [LookupHit.items_raw hx] at he
      cases hs : rawSource hit with
      | none =>
        obtain ⟨i, hi, -⟩ := extractRaw_unattributed hs
        obtain rfl := Except.ok.inj (hx.symm.trans hi)
        cases he
      | some source =>
        rw [((extractRaw_attributed hs hx).evidence e he).1]
        exact hs
  | job hit => cases he

/-- A hit makes marks for its own source only. -/
theorem LookupHit.source_of_mark {h : LookupHit} {m : Mark} {s : Source} (hm : m ∈ h.marks.items)
    (hfor : m.isFor s = true) : h.source = some s := by
  cases LookupHit.markOf hm with
  | issue => cases hfor
  | incomplete hit x hx =>
    have hin : s ∈ x.incompleteSources := of_decide_eq_true hfor
    cases hs : rawSource hit with
    | none =>
      obtain ⟨i, hi, -⟩ := extractRaw_unattributed hs
      obtain rfl := Except.ok.inj (hx.symm.trans hi)
      exact absurd hin (Finset.notMem_empty s)
    | some source =>
      rw [(extractRaw_attributed hs hx).incomplete s hin]
      exact hs
  | unattributedRaw => cases hfor
  | unattributedJob => cases hfor
  | invalid hit x hx i hi source hsource actionId haction =>
    obtain rfl : source = s := of_decide_eq_true hfor
    cases hs : rawSource hit with
    | none =>
      obtain ⟨i', hi', hnone, -⟩ := extractRaw_unattributed hs
      obtain rfl := Except.ok.inj (hx.symm.trans hi')
      rw [List.mem_singleton.mp hi, hnone] at hsource
      cases hsource
    | some source' =>
      have heq := (extractRaw_attributed hs hx).issues i hi
      rw [hsource] at heq
      rw [Option.some.inj heq]
      exact hs
  | unidentified _ e he =>
    rw [LookupHit.source_of_item he, show e.source = s from of_decide_eq_true hfor]
  | identity _ e he =>
    rw [LookupHit.source_of_item he, show e.source = s from of_decide_eq_true hfor]
  | evidence _ e he =>
    rw [LookupHit.source_of_item he, show e.source = s from of_decide_eq_true hfor]
  | copy hit job hjob =>
    rw [LookupHit.source_of_job hjob, show job.source = s from of_decide_eq_true hfor]

/-- The marks a source sees come from its own hits. -/
theorem hitMarks_filter (s : Source) (hits : List LookupHit) :
    (hitMarks hits).filter (Mark.isFor s) =
      (hitMarks (hits.filter fun h => decide (h.source = some s))).filter (Mark.isFor s) := by
  induction hits with
  | nil => rfl
  | cons h hits ih =>
    have hcons : hitMarks (h :: hits) = h.marks.items ++ hitMarks hits := rfl
    rw [hcons, List.filter_append, ih, List.filter_cons]
    by_cases hs : h.source = some s
    · rw [if_pos (decide_eq_true hs)]
      have hcons' : ∀ rest, hitMarks (h :: rest) = h.marks.items ++ hitMarks rest := fun _ => rfl
      rw [hcons', List.filter_append]
    · rw [if_neg (by simpa using hs)]
      have hnone : h.marks.items.filter (Mark.isFor s) = [] := by
        rw [List.filter_eq_nil_iff]
        exact fun m hm hfor => hs (LookupHit.source_of_mark hm hfor)
      rw [hnone, List.nil_append]

/-- The flag for unattributed input says that a hit had no source. -/
theorem unattributed_mem_hitMarks {hits : List LookupHit} :
    .unattributed ∈ hitMarks hits ↔ ∃ h ∈ hits, h.source = none := by
  constructor
  · intro hm
    obtain ⟨h, hh, hm⟩ := mem_hitMarks.mp hm
    refine ⟨h, hh, ?_⟩
    cases LookupHit.markOf hm with
    | unattributedRaw hit x hx i hi hsource =>
      cases hs : rawSource hit with
      | none => exact hs
      | some source =>
        have heq := (extractRaw_attributed hs hx).issues i hi
        rw [hsource] at heq
        cases heq
    | unattributedJob hit e he =>
      unfold LookupHit.source
      dsimp only
      rw [he]
      rfl
  · rintro ⟨h, hh, hnone⟩
    refine mem_hitMarks.mpr ⟨h, hh, ?_⟩
    cases h with
    | raw hit => exact unattributed_mem_marks hnone
    | job hit =>
      cases hj : readJob hit with
      | error e => exact unread_mem_marks hj
      | ok job =>
        rw [LookupHit.source_of_job hj] at hnone
        cases hnone

/-! ## 3. Two runs

What a source is handed against what is read of it. -/

omit [Hashlib] in
/-- The attestation of a key is read off the attestations of its source. -/
theorem attestationOf_filter (coverage : List Coverage) (key : ActionKey) :
    Builder.attestationOf coverage key =
      Builder.attestationOf (coverage.filter fun c => decide (c.key.1 = key.1)) key := by
  unfold Builder.attestationOf
  induction coverage with
  | nil => rfl
  | cons c coverage ih =>
    rw [List.find?_cons, List.filter_cons]
    by_cases hk : c.key = key
    · simp [hk]
    · by_cases hs : c.key.1 = key.1
      · rw [if_pos (decide_eq_true hs), List.find?_cons]
        simp only [hk, decide_false]
        exact ih
      · rw [if_neg (by simpa using hs)]
        simp only [hk, decide_false]
        exact ih

/-- Nothing that concerns a source is lost in a run: every hit that stands behind an unfit one is
attributed, to another source. -/
def ReadsAll (s : Source) (calls : List LookupCall) : Prop :=
  ∀ hit, BehindUnfit calls hit → ∃ other, rawSource hit = some other ∧ other ≠ s

/-- A run that loses nothing of a source gets to all of its hits, in order. -/
theorem ReadsAll.filter_eq {s : Source} {calls : List LookupCall} (h : ReadsAll s calls) :
    (fedHits calls).filter (fun hit => decide (hit.source = some s)) =
      (givenHits calls).filter fun hit => decide (hit.source = some s) := by
  refine filter_fedHits fun hit hhit => decide_eq_false fun hs => ?_
  obtain ⟨raw, rfl, hbehind⟩ := mem_lostHits.mp hhit
  obtain ⟨other, hother, hne⟩ := h raw hbehind
  exact hne (Option.some.inj (hother.symm.trans hs))

/-- It gets to a hit of nobody when it is handed one. -/
theorem ReadsAll.unattributed_iff {s : Source} {calls : List LookupCall} (h : ReadsAll s calls) :
    (∃ hit ∈ fedHits calls, hit.source = none) ↔ ∃ hit ∈ givenHits calls, hit.source = none := by
  constructor
  · rintro ⟨hit, hhit, hs⟩
    exact ⟨hit, mem_givenHits.mpr (Or.inl hhit), hs⟩
  · rintro ⟨hit, hhit, hs⟩
    rcases mem_givenHits.mp hhit with hhit | hhit
    · exact ⟨hit, hhit, hs⟩
    · obtain ⟨raw, rfl, hbehind⟩ := mem_lostHits.mp hhit
      obtain ⟨other, hother, -⟩ := h raw hbehind
      cases hs.symm.trans hother

/-- **Source isolation**, in the runs that lose nothing of the source: two of them that are handed the
same hits of a source, and agree on whether some hit was unattributed, give every key of the source
the same document, whatever else they were handed. -/
theorem source_isolation (s : Source) (calls calls' : List LookupCall) (coverage coverage' : List Coverage)
    (hreads : ReadsAll s calls) (hreads' : ReadsAll s calls')
    (hhits : (givenHits calls).filter (fun h => decide (h.source = some s)) =
      (givenHits calls').filter fun h => decide (h.source = some s))
    (hflag : (∃ h ∈ givenHits calls, h.source = none) ↔ ∃ h ∈ givenHits calls', h.source = none)
    (hcoverage : coverage.filter (fun c => decide (c.key.1 = s)) = coverage'.filter fun c => decide (c.key.1 = s))
    (synced : Datetime) (generation : Str) (limit : Int) (docs docs' : Dict Str Obj)
    (hbuild : (Builder.run {} calls).build synced coverage generation limit = .ok docs)
    (hbuild' : (Builder.run {} calls').build synced coverage' generation limit = .ok docs')
    (actionId : Str) :
    Dict.get? docs (ActionKey.text (s, actionId)) = Dict.get? docs' (ActionKey.text (s, actionId)) := by
  have hagree : (Builder.run {} calls).AgreeOn s (Builder.run {} calls') := by
    rw [run_eq, run_eq]
    have hview := Builder.agreeOn_filter s (hitMarks (fedHits calls))
    have hview' := Builder.agreeOn_filter s (hitMarks (fedHits calls'))
    rw [hitMarks_filter, hreads.filter_eq, hhits, ← hreads'.filter_eq, ← hitMarks_filter] at hview
    exact hview.trans hview'.symm
  have hunknown : (Builder.run {} calls).unknownSourceErrors = (Builder.run {} calls').unknownSourceErrors := by
    rw [Bool.eq_iff_iff, run_eq, run_eq, Builder.unknownSourceErrors_marks, Builder.unknownSourceErrors_marks,
      unattributed_mem_hitMarks, unattributed_mem_hitMarks, hreads.unattributed_iff, hreads'.unattributed_iff, hflag]
  have hattested : Builder.attestationOf coverage (s, actionId) = Builder.attestationOf coverage' (s, actionId) := by
    rw [attestationOf_filter coverage, attestationOf_filter coverage', hcoverage]
  have hcopies : ∀ k : ActionKey, k.1 = s →
      SameCopies ((Builder.run {} calls).jobs.copies k) ((Builder.run {} calls').jobs.copies k) := by
    intro k hk
    rw [hagree.copies k hk]
    exact SameCopies.refl _
  have hrecords : (Builder.run {} calls).records (s, actionId) = (Builder.run {} calls').records (s, actionId) :=
    congrArg Dict.values (hagree.records (s, actionId) rfl)
  have hblocked := hagree.blocked (s, actionId) rfl
  have hsame : (Builder.run {} calls).SameFor (Builder.run {} calls') (s, actionId) :=
    ⟨by rw [hrecords], hcopies, hblocked, hunknown, hagree.incomplete⟩
  have hsound : (Builder.run {} calls).jobs.Sound := run_eq {} calls ▸ Builder.sound_jobs _
  have hsound' : (Builder.run {} calls').jobs.Sound := run_eq {} calls' ▸ Builder.sound_jobs _
  have hdocument := document_congr (verdict_congr hsound hsound' hsame synced
      (Builder.attestationOf coverage (s, actionId)))
    (by rw [verdict_records, verdict_records, hrecords]) (s, actionId) synced
    (Builder.attestationOf coverage (s, actionId)) generation limit.toNat
  have hkeys : (s, actionId) ∈ (Builder.run {} calls).keys ↔ (s, actionId) ∈ (Builder.run {} calls').keys := by
    have hconcerns : (Builder.run {} calls).Concerns (s, actionId) ↔ (Builder.run {} calls').Concerns (s, actionId) :=
      Builder.concerns_congr (by rw [hrecords]) hblocked hcopies
    rw [run_eq, run_eq, Builder.mem_keys, Builder.mem_keys, ← run_eq, ← run_eq]
    exact hconcerns
  obtain ⟨-, hin, hout⟩ := Builder.build_eq_ok hbuild (s, actionId)
  obtain ⟨-, hin', hout'⟩ := Builder.build_eq_ok hbuild' (s, actionId)
  by_cases hkey : (s, actionId) ∈ (Builder.run {} calls).keys
  · obtain ⟨d, hd, hdoc⟩ := hin hkey
    obtain ⟨d', hd', hdoc'⟩ := hin' (hkeys.mp hkey)
    rw [hd, hd']
    have heq : (.ok d : Except Err Obj) = .ok d' := by
      rw [← hdoc, ← hdoc', ← hattested]
      exact hdocument
    rw [Except.ok.inj heq]
  · rw [hout hkey, hout' fun h => hkey (hkeys.mpr h)]

end Runs

/-! ## 4. Another server with the same ids

Two servers with one id, and the run in which one of them hides the other. -/

section OneAction

attribute [local instance] Unicode.ascii Hashlib.hashlib

/-- A RAW document of the source `chnl` that names the action 7 and the backup of the good one, under
another policy and in a partial collection. -/
def chnlRaw : Json := .obj [
  ("_source", .obj [
    ("source_networker", .str "chnl"),
    ("@timestamp", .str "2026-01-01T03:30:00+00:00"),
    ("payload", .obj [
      ("collection_status", .str "partial"),
      ("raw", .obj [("backups", .arr [backupOf "b1" "Silver" "Servers"])])])])]

theorem chnlRaw_source : LookupHit.source (.raw chnlRaw) = some ⟨"chnl", by decide⟩ := by decide +kernel

theorem core_ne_chnl : (⟨"chnl", by decide⟩ : Source) ≠ ⟨"core", by decide⟩ := by decide

theorem chnlRaw_fit : ¬ Unfit chnlRaw := (rawMarks_err_iff chnlRaw).mp (by decide +kernel)

/-- A run whose calls return loses nothing of any source. -/
theorem readsAll_of_fit {calls : List LookupCall} (h : ∀ hits, .addRaw hits ∈ calls → ∀ hit ∈ hits, ¬ Unfit hit)
    (s : Source) : ReadsAll s calls := by
  rintro hit ⟨before, bad, after, hcall, hbad, -⟩
  exact absurd hbad (h _ hcall bad (List.mem_append_right _ List.mem_cons_self))

/-- A hit of `chnl` changes neither the hits of `core` nor the flag. -/
theorem chnlRaw_aside (calls : List LookupCall) :
    (givenHits calls).filter (fun h => decide (h.source = some ⟨"core", by decide⟩)) =
      (givenHits (calls ++ [.addRaw [chnlRaw]])).filter (fun h => decide (h.source = some ⟨"core", by decide⟩)) ∧
    ((∃ h ∈ givenHits calls, h.source = none) ↔ ∃ h ∈ givenHits (calls ++ [.addRaw [chnlRaw]]), h.source = none) := by
  have hgiven : givenHits (calls ++ [.addRaw [chnlRaw]]) = givenHits calls ++ [LookupHit.raw chnlRaw] :=
    List.flatMap_append
  rw [hgiven]
  generalize givenHits calls = hits
  constructor
  · rw [List.filter_append, List.filter_singleton, chnlRaw_source,
      decide_eq_false fun h => core_ne_chnl (Option.some.inj h)]
    exact (List.append_nil _).symm
  · simp [or_and_right, exists_or, chnlRaw_source]

/-- The document of the action 7 of `core` is the same when `chnl` was read too. -/
theorem source_isolation_chnl : ∃ docs docs', goldDocument goldCalls = .ok docs ∧
    goldDocument (goldCalls ++ [.addRaw [chnlRaw]]) = .ok docs' ∧
    Dict.get? docs (lit "core:7") = Dict.get? docs' (lit "core:7") := by
  obtain ⟨docs, d, hbuild, -, -⟩ := documentOf_build (goldDocument goldCalls) (lit "core:7") namesGold
    (by decide +kernel)
  obtain ⟨docs', d', hbuild', -, -⟩ := documentOf_build (goldDocument (goldCalls ++ [.addRaw [chnlRaw]]))
    (lit "core:7") namesGold (by decide +kernel)
  obtain ⟨hhits, hflag⟩ := chnlRaw_aside goldCalls
  have hfit : ∀ hits, .addRaw hits ∈ goldCalls → ∀ hit ∈ hits, ¬ Unfit hit := by
    intro hits hcall hit hhit
    rw [goldRaw_of_mem hcall, List.mem_singleton] at hhit
    exact hhit ▸ goldRaw_fit
  have hfit' : ∀ hits, .addRaw hits ∈ goldCalls ++ [.addRaw [chnlRaw]] → ∀ hit ∈ hits, ¬ Unfit hit := by
    intro hits hcall hit hhit
    rcases List.mem_append.mp hcall with hcall | hcall
    · exact hfit hits hcall hit hhit
    · obtain rfl := LookupCall.addRaw.inj (List.mem_singleton.mp hcall)
      exact List.mem_singleton.mp hhit ▸ chnlRaw_fit
  refine ⟨docs, docs', hbuild, hbuild', ?_⟩
  have hsame := source_isolation ⟨"core", by decide⟩ goldCalls (goldCalls ++ [.addRaw [chnlRaw]]) [goldCoverage]
    [goldCoverage] (readsAll_of_fit hfit _) (readsAll_of_fit hfit' _) hhits hflag rfl
  exact hsame (hourOf 4 (by decide)) "g" 20 docs docs' hbuild hbuild' "7"

theorem chnlListStatusRaw_source : LookupHit.source (.raw chnlListStatusRaw) = some ⟨"chnl", by decide⟩ := by
  decide +kernel

/-- The calls of the one action, with a malformed document of `chnl` in front of the good one. -/
def foreignCalls : List LookupCall := [.addRaw [chnlListStatusRaw, goldRaw], .addJobs goldJobs]

/-- The hits of `core` are the same in two runs, and so is the flag, and the document of its action
7 is not: the good hit stands behind a malformed one of `chnl` in the first. -/
theorem foreign_hit_hides :
    (givenHits foreignCalls).filter (fun h => decide (h.source = some ⟨"core", by decide⟩)) =
      (givenHits goldCalls).filter (fun h => decide (h.source = some ⟨"core", by decide⟩)) ∧
    ((∃ h ∈ givenHits foreignCalls, h.source = none) ↔ ∃ h ∈ givenHits goldCalls, h.source = none) ∧
    ∃ docs docs', goldDocument foreignCalls = .ok docs ∧ goldDocument goldCalls = .ok docs' ∧
      Dict.get? docs (lit "core:7") ≠ Dict.get? docs' (lit "core:7") := by
  have hgiven : givenHits foreignCalls = .raw chnlListStatusRaw :: givenHits goldCalls := rfl
  refine ⟨?_, ?_, ?_⟩
  · rw [hgiven, List.filter_cons_of_neg]
    rw [chnlListStatusRaw_source]
    exact fun h => core_ne_chnl (Option.some.inj (of_decide_eq_true h))
  · rw [hgiven]
    simp [chnlListStatusRaw_source]
  · obtain ⟨docs, d, hbuild, hd, hnull⟩ := documentOf_build (goldDocument foreignCalls) (lit "core:7")
      (fun d => decide (Dict.get? d (lit "policy_name") = some .null)) (by decide +kernel)
    obtain ⟨docs', d', hbuild', hd', hgold⟩ := documentOf_build (goldDocument goldCalls) (lit "core:7") namesGold
      (by decide +kernel)
    refine ⟨docs, docs', hbuild, hbuild', fun hsame => ?_⟩
    rw [hd, hd'] at hsame
    obtain rfl := Option.some.inj hsame
    cases (of_decide_eq_true hnull).symm.trans (of_decide_eq_true hgold)

end OneAction

end BackupCollector
