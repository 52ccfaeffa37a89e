/-
# The ledger only grows

Marks are never taken back, so keys, copies, reasons and candidates only come.  A reason of the
ledger is there for good.  This is what makes withholding final: a document that is ambiguous, or
has a reason of the ledger against it, is never published by whatever is fed later
(`ledger_only_grows`).

Two things make the argument longer than "a union only grows".

* Candidates are read off records, and a record is replaced by a later observation of the same
  revision.  That the candidate set does not lose anything by this needs that a revision determines
  its candidate, which is the hypothesis on the digest.  It is made for the hits of the whole run
  and of no others.
* A contradiction between copies is read off the copies again at each build, and the SELECTED
  copies may be other ones by then.  But a contradiction is one between copies, selected or not,
  and where the workflow of an action changes, its copies contradict each other in that
  (`ConflictAt.later`).

What a document shows is a text that joins its reasons.  Since no reason contains the separator,
the reasons can be told apart again, and the theorem speaks of what is SHOWN.

The other direction does not hold and is not claimed.  A document that is merely pending may be
published later, and one that is published may be withheld.
-/
import BackupCollector.Lookups.Reasons
import BackupCollector.Lookups.Rereading

namespace BackupCollector

open Py

/-! ## 1. More marks

From a mark to a list of marks: what is read off the ledger for a key. -/

namespace Builder

theorem records_marks_ne_nil {b : Builder} (ms : List Mark) {key : ActionKey} (h : b.recordsOf key ≠ []) :
    (b.marks ms).recordsOf key ≠ [] := by
  induction ms generalizing b with
  | nil => exact h
  | cons m ms ih =>
    refine ih (b := b.mark m) ?_
    rw [recordsOf_mark]
    cases m with
    | evidence fingerprint item =>
      dsimp only
      split
      · exact keepLatest_ne_nil _ _ _
      · exact h
    | _ => exact h

theorem mem_copies_mark {b : Builder} (m : Mark) {key : ActionKey} {j : Job} (h : j ∈ b.jobs.copies key) :
    j ∈ (b.mark m).jobs.copies key := by
  rw [copies_mark]
  cases m with
  | copy job =>
    dsimp only
    split
    · rcases keepCopy_cases (b.jobs.copies key) job with ⟨hsame, -⟩ | hnew
      · rw [hsame]
        exact h
      · rw [hnew]
        exact List.mem_append_left _ h
    · exact h
  | _ => exact h

/-- A copy is never taken out. -/
theorem mem_copies_marks {b : Builder} (ms : List Mark) {key : ActionKey} {j : Job} (h : j ∈ b.jobs.copies key) :
    j ∈ (b.marks ms).jobs.copies key := by
  induction ms generalizing b with
  | nil => exact h
  | cons m ms ih => exact ih (mem_copies_mark m h)

/-- What a key has to be documented for stays. -/
theorem Concerns.marks {b : Builder} {key : ActionKey} (h : b.Concerns key) (ms : List Mark) :
    (b.marks ms).Concerns key := by
  rcases h with h | h | ⟨j, hj, hkind⟩ | ⟨k, hk, j, hj, hsave⟩
  · refine Or.inl fun hnil => ?_
    exact records_marks_ne_nil (b := b) ms (fun hrec => h (congrArg Dict.values hrec)) (values_eq_nil.mp hnil)
  · exact Or.inr (Or.inl (h.mono (blockedOf_marks_subset b ms key)))
  · exact Or.inr (Or.inr (Or.inl ⟨j, mem_copies_marks ms hj, hkind⟩))
  · exact Or.inr (Or.inr (Or.inr ⟨k, hk, j, mem_copies_marks ms hj, hsave⟩))

theorem keys_marks_subset (ms later : List Mark) {key : ActionKey} (h : key ∈ (({} : Builder).marks ms).keys) :
    key ∈ (({} : Builder).marks (ms ++ later)).keys := by
  rw [mem_keys] at h ⊢
  rw [marks_append]
  exact h.marks later

end Builder

/-! ## 2. Candidates

The candidates of a key are those of its observations, whichever of them are kept. -/

/-- The candidates the ledger holds for a key. -/
def Builder.candidatesOf (b : Builder) (key : ActionKey) : Finset Candidate :=
  ((b.records key).map Evidence.candidate).toFinset

section Runs

variable [Unicode] [Hashlib]

omit [Hashlib] in
theorem verdict_records (b : Builder) (key : ActionKey) (synced : Datetime) (coverage : Option Coverage) :
    (b.verdict key synced coverage).records = b.records key := by
  unfold Builder.verdict
  cases executionCheck key b.jobs
  rfl

omit [Hashlib] in
theorem verdict_candidates (b : Builder) (key : ActionKey) (synced : Datetime) (coverage : Option Coverage) :
    (b.verdict key synced coverage).candidates = b.candidatesOf key := by
  unfold Verdict.candidates Builder.candidatesOf
  rw [verdict_records]

omit [Hashlib] in
/-- The items of a hit are named by what they spell. -/
theorem LookupHit.named {h : LookupHit} {e : Evidence} (he : e ∈ h.items) : e.Named := by
  cases h with
  | raw hit =>
    cases hx : extractRaw hit with
    | error err =>
      unfold LookupHit.items at he
      dsimp only at he
      rw [hx] at he
      cases he
    | ok x =>
      rw [LookupHit.items_raw hx] at he
      cases hs : rawSource hit with
      | none =>
        obtain ⟨i, hi, -⟩ := extractRaw_unattributed hs
        obtain rfl := Except.ok.inj (hx.symm.trans hi)
        cases he
      | some source => exact ((extractRaw_attributed hs hx).evidence e he).2.1
  | job hit => cases he

/-- An observation that was marked was brought by a hit. -/
theorem evidence_of_hitMarks {hits : List LookupHit} {fp : Str} {e : Evidence} (h : .evidence fp e ∈ hitMarks hits) :
    e ∈ hits.flatMap LookupHit.items ∧ fp = e.fingerprint := by
  obtain ⟨hit, hhit, hm⟩ := mem_hitMarks.mp h
  cases LookupHit.markOf hm with
  | evidence _ _ he => exact ⟨List.mem_flatMap.mpr ⟨hit, hhit, he⟩, rfl⟩

omit [Unicode] [Hashlib] in
/-- A record of a key is one of the observations that were marked. -/
theorem mem_records {ms : List Mark} {key : ActionKey} {e : Evidence}
    (h : e ∈ (({} : Builder).marks ms).records key) : ∃ fp, .evidence fp e ∈ ms ∧ e.key = key := by
  obtain ⟨⟨fp, e'⟩, hp, rfl⟩ := List.mem_map.mp h
  have hget := Dict.get?_of_mem (Builder.nodup_recordsOf ms key) hp
  rw [Builder.get?_recordsOf] at hget
  exact ⟨fp, mem_observations.mp (maxBy_spec hget).1⟩

omit [Unicode] [Hashlib] in
/-- A fingerprint that was observed has a record. -/
theorem exists_record {ms : List Mark} {fp : Str} {e : Evidence} (h : .evidence fp e ∈ ms) :
    ∃ r ∈ (({} : Builder).marks ms).records e.key, .evidence fp r ∈ ms ∧ r.key = e.key ∧
      Dict.get? ((({} : Builder).marks ms).recordsOf e.key) fp = some r := by
  have hmem : e ∈ observations ms e.key fp := mem_observations.mpr ⟨h, rfl⟩
  cases hmax : maxBy Evidence.observedRank (observations ms e.key fp) with
  | none =>
    rw [maxBy_eq_none.mp hmax] at hmem
    cases hmem
  | some r =>
    have hget := (Builder.get?_recordsOf ms e.key fp).trans hmax
    obtain ⟨hr, hkey⟩ := mem_observations.mp (maxBy_spec hmax).1
    exact ⟨r, List.mem_map.mpr ⟨(fp, r), Dict.mem_of_get? hget, rfl⟩, hr, hkey, hget⟩

/-- In a collision-free run the candidates of a key are those of all its observations. -/
theorem mem_candidatesOf {hits : List LookupHit} (hfree : CollisionFree hits) {key : ActionKey} {c : Candidate} :
    c ∈ (({} : Builder).marks (hitMarks hits)).candidatesOf key ↔
      ∃ fp e, .evidence fp e ∈ hitMarks hits ∧ e.key = key ∧ e.candidate = c := by
  unfold Builder.candidatesOf
  rw [List.mem_toFinset, List.mem_map]
  constructor
  · rintro ⟨e, he, rfl⟩
    obtain ⟨fp, hm, hkey⟩ := mem_records he
    exact ⟨fp, e, hm, hkey, rfl⟩
  · rintro ⟨fp, e, hm, rfl, rfl⟩
    obtain ⟨r, hr, hrm, -, -⟩ := exists_record hm
    obtain ⟨he, hfp⟩ := evidence_of_hitMarks hm
    obtain ⟨hr', hfp'⟩ := evidence_of_hitMarks hrm
    obtain ⟨-, horiginal⟩ := hfree.of_fingerprint hr' he (hfp'.symm.trans hfp)
    obtain ⟨_, _, hin⟩ := List.mem_flatMap.mp he
    obtain ⟨_, _, hin'⟩ := List.mem_flatMap.mp hr'
    exact ⟨r, hr, (LookupHit.named hin').candidate_eq (LookupHit.named hin) horiginal⟩

theorem CollisionFree.of_append {xs ys : List LookupHit} (h : CollisionFree (xs ++ ys)) : CollisionFree xs :=
  ⟨h.length, fun a ha b hb => h.injective a (by rw [List.flatMap_append]; exact List.mem_append_left _ ha)
    b (by rw [List.flatMap_append]; exact List.mem_append_left _ hb)⟩

/-- Candidates only come. -/
theorem candidatesOf_subset {hits later : List LookupHit} (hfree : CollisionFree (hits ++ later)) (key : ActionKey) :
    (({} : Builder).marks (hitMarks hits)).candidatesOf key ⊆
      (({} : Builder).marks (hitMarks (hits ++ later))).candidatesOf key := by
  intro c hc
  obtain ⟨fp, e, hm, hkey, hcand⟩ := (mem_candidatesOf hfree.of_append).mp hc
  refine (mem_candidatesOf hfree).mpr ⟨fp, e, ?_, hkey, hcand⟩
  rw [hitMarks_append]
  exact List.mem_append_left _ hm

/-! ## 3. The reasons of a verdict

A verdict has reasons from the ledger, from the copies, and from what is missing.  The first kind
stays as it is. -/

omit [Unicode] [Hashlib] in
theorem reasonIf_subset {c : Bool} {r : Str} {s : Finset Str} (h : r ∈ s) : reasonIf c r ⊆ s := by
  unfold reasonIf
  split
  · exact Finset.singleton_subset_iff.mpr h
  · exact Finset.empty_subset s

omit [Hashlib] in
theorem pendingReasons_subset (b : Builder) (key : ActionKey) (records : List Evidence) (action : Option Job)
    (synced : Datetime) (coverage : Option Coverage) :
    b.pendingReasons key records action synced coverage ⊆ otherReasons := by
  unfold Builder.pendingReasons
  dsimp only
  refine Finset.union_subset (Finset.union_subset (Finset.union_subset (Finset.union_subset (Finset.union_subset
    (Finset.union_subset (Finset.union_subset (Finset.union_subset (Finset.union_subset (reasonIf_subset ?_)
    (reasonIf_subset ?_)) (reasonIf_subset ?_)) (reasonIf_subset ?_)) (reasonIf_subset ?_)) (reasonIf_subset ?_))
    (reasonIf_subset ?_)) (reasonIf_subset ?_)) (reasonIf_subset ?_)) (reasonIf_subset ?_)
  case refine_10 => split <;> simp [otherReasons]
  all_goals simp [otherReasons]

/-- The reasons the hits of a run leave are those of the ledger. -/
theorem blockedOf_subset (hits : List LookupHit) (key : ActionKey) :
    (({} : Builder).marks (hitMarks hits)).blockedOf key ⊆ ledgerReasons := by
  have hgiven : ∀ k r, .blocked k r ∈ hitMarks hits → r ∈ ledgerReasons := by
    intro k r hm
    obtain ⟨hit, -, hm⟩ := mem_hitMarks.mp hm
    cases LookupHit.markOf hm <;> simp [ledgerReasons]
  generalize hitMarks hits = ms at hgiven
  induction ms using List.reverseRecOn with
  | nil => exact Finset.empty_subset _
  | append_singleton ms m ih =>
    intro r hr
    rw [Builder.marks_concat] at hr
    rcases Builder.mem_blockedOf_mark.mp hr with hr | hadds
    · exact ih (fun k r h => hgiven k r (List.mem_append_left _ h)) hr
    · cases m with
      | blocked k reason =>
        obtain ⟨-, rfl⟩ := hadds
        exact hgiven k r (List.mem_append_right _ List.mem_cons_self)
      | identity source backupId fingerprint actionId =>
        rw [hadds.1]
        simp [ledgerReasons]
      | _ => exact hadds.elim

omit [Hashlib] in
/-- Where a reason of a verdict comes from. -/
theorem mem_verdict_reasons {b : Builder} (hs : b.jobs.Sound) {key : ActionKey} {synced : Datetime}
    {coverage : Option Coverage} {r : Str} (hr : r ∈ (b.verdict key synced coverage).reasons) :
    r ∈ b.blockedOf key ∨ ConflictAt key b.jobs r ∨ r ∈ otherReasons := by
  unfold Verdict.reasons at hr
  rw [mem_sorted] at hr
  have hexec := @mem_executionCheck key b.jobs hs r
  unfold Builder.verdict at hr
  cases hx : executionCheck key b.jobs with
  | mk action rest =>
    obtain ⟨blocked, pending⟩ := rest
    rw [hx] at hr hexec
    dsimp only at hr hexec
    rcases Finset.mem_union.mp hr with hr | hr
    · rcases Finset.mem_union.mp hr with hr | hr
      · rcases Finset.mem_union.mp hr with hr | hr
        · exact Or.inr (hexec (Or.inl hr))
        · exact Or.inl hr
      · exact Or.inr (Or.inr (reasonIf_subset (s := otherReasons) (by simp [otherReasons]) hr))
    · rcases Finset.mem_union.mp hr with hr | hr
      · exact Or.inr (hexec (Or.inr hr))
      · exact Or.inr (Or.inr (pendingReasons_subset b key _ _ _ _ hr))

omit [Hashlib] in
theorem mem_verdict_blocked {b : Builder} {key : ActionKey} {synced : Datetime} {coverage : Option Coverage} {r : Str}
    (hr : r ∈ b.blockedOf key ∨ r ∈ (executionCheck key b.jobs).2.1) :
    r ∈ (b.verdict key synced coverage).blocked := by
  unfold Builder.verdict
  cases hx : executionCheck key b.jobs with
  | mk action rest =>
    obtain ⟨blocked, pending⟩ := rest
    rw [hx] at hr
    refine Finset.mem_union_left _ ?_
    rcases hr with hr | hr
    · exact Finset.mem_union_right _ hr
    · exact Finset.mem_union_left _ hr

/-! ## 4. What is withheld for good

Which reasons are final, as they stand in a document. -/

/-- The reasons a document shows: its `reason`, taken apart. -/
def shownReasons (d : Obj) : List Str :=
  match Dict.get? d "reason" with
  | some (.str text) => text.splitOn (chr ';')
  | _ => []

omit [Unicode] [Hashlib] in
theorem join_eq_intercalate (xs : List Str) : Str.join (lit ";") xs = [chr ';'].intercalate xs := by
  induction xs with
  | nil => rfl
  | cons x xs ih =>
    cases xs with
    | nil => simp [Str.join]
    | cons y ys =>
      rw [List.intercalate_cons_cons, ← ih]
      rfl

omit [Unicode] [Hashlib] in
theorem reasons_plain : ∀ r ∈ ledgerReasons ∪ conflictReasons ∪ otherReasons, r.contains (chr ';') = false := by
  unfold ledgerReasons conflictReasons otherReasons
  decide +kernel

omit [Unicode] in
/-- A document shows the reasons of its verdict, and no others. -/
theorem Verdict.Shown.mem_shownReasons {v : Verdict} {key : ActionKey} {limit : Nat} {d : Obj} (h : v.Shown key limit d)
    (hplain : ∀ r ∈ v.reasons, chr ';' ∉ r) {r : Str} (hr : r ∈ shownReasons d) : r = [] ∨ r ∈ v.reasons := by
  unfold shownReasons at hr
  rw [h.reason] at hr
  dsimp only at hr
  change r ∈ List.splitOn (chr ';') (Str.join (lit ";") v.reasons) at hr
  rw [join_eq_intercalate] at hr
  cases hnil : v.reasons with
  | nil =>
    rw [hnil] at hr
    exact Or.inl (List.mem_singleton.mp hr)
  | cons x xs =>
    rw [List.splitOn_intercalate _ hplain (by rw [hnil]; exact List.cons_ne_nil x xs), hnil] at hr
    exact Or.inr hr

omit [Unicode] [Hashlib] in
/-- A verdict with a reason to block, or with two candidates, publishes nothing. -/
theorem published_eq_none {v : Verdict} (h : v.blocked.Nonempty ∨ 1 < v.candidates.card) : v.published = none := by
  unfold Verdict.published
  refine if_neg fun hpub => ?_
  rcases h with h | h
  · have hblocked : v.verification = lit "blocked" := by
      unfold Verdict.verification
      exact if_pos h
    rw [hblocked] at hpub
    exact absurd hpub.2 (by decide)
  · have hambiguous : v.mapping = lit "ambiguous" := by
      unfold Verdict.mapping
      exact if_pos h
    rw [hambiguous] at hpub
    exact absurd hpub.1 (by decide)

omit [Unicode] [Hashlib] in
theorem one_lt_candidates {v : Verdict} (h : v.mapping = lit "ambiguous") : 1 < v.candidates.card := by
  unfold Verdict.mapping at h
  split at h
  · assumption
  · split at h
    · exact absurd h (by decide)
    · split at h
      · exact absurd h (by decide)
      · exact absurd h (by decide)

theorem fedHits_append (xs ys : List LookupCall) : fedHits (xs ++ ys) = fedHits xs ++ fedHits ys :=
  List.flatMap_append

/-- The reasons of a verdict of a run can be told apart in the text that joins them. -/
theorem verdict_reasons_plain (hits : List LookupHit) {key : ActionKey} {synced : Datetime}
    {coverage : Option Coverage} {r : Str}
    (hr : r ∈ ((({} : Builder).marks (hitMarks hits)).verdict key synced coverage).reasons) : chr ';' ∉ r := by
  have hset : r ∈ ledgerReasons ∪ conflictReasons ∪ otherReasons := by
    rcases mem_verdict_reasons (Builder.sound_jobs _) hr with h | ⟨-, k, -, h⟩ | h
    · exact Finset.mem_union_left _ (Finset.mem_union_left _ (blockedOf_subset hits key h))
    · exact Finset.mem_union_left _ (Finset.mem_union_right _ (copyConflicts_subset _ h))
    · exact Finset.mem_union_right _ h
  have hplain := reasons_plain r hset
  rw [List.contains_eq_mem] at hplain
  exact of_decide_eq_false hplain

/-- A document that withholds its names for good: it is ambiguous, or it gives a reason of the
ledger or a contradiction between copies. -/
def WithheldForGood (d : Obj) : Prop :=
  Dict.get? d "mapping_status" = some (.str "ambiguous") ∨
    ∃ r ∈ ledgerReasons ∪ conflictReasons, r ∈ shownReasons d

/-- What withholds the names of a key for good is still there after more hits. -/
theorem published_later {hits later : List LookupHit} (hfree : CollisionFree (hits ++ later)) {key : ActionKey}
    {synced synced' : Datetime} {coverage coverage' : Option Coverage} {limit : Nat} {d : Obj}
    (hshown : ((({} : Builder).marks (hitMarks hits)).verdict key synced coverage).Shown key limit d)
    (hwithheld : WithheldForGood d) :
    ((({} : Builder).marks (hitMarks (hits ++ later))).verdict key synced' coverage').published = none := by
  rcases hwithheld with hambiguous | ⟨r, hr, hin⟩
  · rw [hshown.mapping] at hambiguous
    have hcard := one_lt_candidates (Json.str.inj (Option.some.inj hambiguous))
    rw [verdict_candidates] at hcard
    refine published_eq_none (Or.inr ?_)
    rw [verdict_candidates]
    exact lt_of_lt_of_le hcard (Finset.card_le_card (candidatesOf_subset hfree key))
  · have hne : r ≠ [] := by
      rintro rfl
      exact absurd hr (by decide)
    have hreason := (hshown.mem_shownReasons (fun _ => verdict_reasons_plain hits) hin).resolve_left hne
    refine published_eq_none (Or.inl ?_)
    rw [hitMarks_append, Builder.marks_append]
    rcases mem_verdict_reasons (Builder.sound_jobs _) hreason with h | h | h
    · exact ⟨r, mem_verdict_blocked (Or.inl (Builder.blockedOf_marks_subset _ _ _ h))⟩
    · have hsound : ((({} : Builder).marks (hitMarks hits)).marks (hitMarks later)).jobs.Sound :=
        Builder.marks_append _ _ _ ▸ Builder.sound_jobs _
      obtain ⟨r', hr'⟩ := h.later hsound fun _ _ => Builder.mem_copies_marks _
      exact ⟨r', mem_verdict_blocked (Or.inr (hr'.blocks hsound))⟩
    · rcases Finset.mem_union.mp hr with hr | hr
      · exact absurd h (ledgerReasons_fresh r hr).2
      · exact absurd h (conflictReasons_fresh r hr).2

/-- **Whatever more is fed**: the candidates of a key are still there, every key that was
documented is, and a key that was withheld for good is never published.  The coverage and the limit
of the second build may be other ones. -/
theorem ledger_only_grows (calls later : List LookupCall) (hfree : CollisionFree (fedHits (calls ++ later))) :
    (∀ key, (Builder.run {} calls).candidatesOf key ⊆ (Builder.run {} (calls ++ later)).candidatesOf key) ∧
    ∀ (synced synced' : Datetime) (coverage coverage' : List Coverage) (generation generation' : Str)
      (limit limit' : Int) (docs docs' : Dict Str Obj),
      (Builder.run {} calls).build synced coverage generation limit = .ok docs →
      (Builder.run {} (calls ++ later)).build synced' coverage' generation' limit' = .ok docs' →
      Dict.keys docs ⊆ Dict.keys docs' ∧
      ∀ text d d', Dict.get? docs text = some d → Dict.get? docs' text = some d' → WithheldForGood d →
        Dict.get? d' "policy_name" = some .null ∧ Dict.get? d' "workflow_name" = some .null ∧
          Dict.get? d' "protection_group" = some .null := by
  rw [run_eq, run_eq]
  rw [fedHits_append] at hfree ⊢
  refine ⟨candidatesOf_subset hfree, ?_⟩
  intro synced synced' coverage coverage' generation generation' limit limit' docs docs' hbuild hbuild'
  refine ⟨fun text htext => ?_, fun text d d' hd hd' hwithheld => ?_⟩
  · obtain ⟨key, rfl⟩ := Builder.key_of_build hbuild htext
    obtain ⟨d, hd⟩ := Option.isSome_iff_exists.mp (Dict.get?_isSome_iff.mpr htext)
    have hkey := (Builder.document_of_build hbuild hd).1
    have hkey' := Builder.keys_marks_subset _ (hitMarks (fedHits later)) hkey
    rw [← hitMarks_append] at hkey'
    obtain ⟨d', hd', -⟩ := (Builder.build_eq_ok hbuild' key).2.1 hkey'
    exact Dict.get?_isSome_iff.mp (Option.isSome_iff_exists.mpr ⟨d', hd'⟩)
  · obtain ⟨key, rfl⟩ := Builder.key_of_build hbuild (Dict.get?_isSome_iff.mp (Option.isSome_iff_exists.mpr ⟨d, hd⟩))
    have hshown := document_shown (Builder.document_of_build hbuild hd).2
    have hshown' := document_shown (Builder.document_of_build hbuild' hd').2
    exact hshown'.unpublished (published_later hfree hshown hwithheld)

end Runs

/-! ## 5. A relation that comes too late

The example is the order that a last-write-wins design gets wrong: the bad entry first, the good
one after it. -/

section OneHit

attribute [local instance] Unicode.ascii Hashlib.hashlib

theorem documentOf_build (built : Except Err (Dict Str Obj)) (text : Str) (p : Obj → Bool)
    (h : (built.toOption.bind fun docs => Dict.get? docs text).any p = true) :
    ∃ docs d, built = .ok docs ∧ Dict.get? docs text = some d ∧ p d = true := by
  cases built with
  | error e => cases h
  | ok docs =>
    change (Dict.get? docs text).any p = true at h
    cases hd : Dict.get? docs text with
    | none =>
      rw [hd] at h
      cases h
    | some d =>
      rw [hd] at h
      exact ⟨docs, d, rfl, hd, h⟩

/-- A backup that names its action and no protection group. -/
def grouplessRaw : Json :=
  rawHit "r0" "2026-01-01T02:30:00+00:00" [.obj [("attributes", .arr [attributeOf "*policy action jobid" "7"])]]

/-- The action 7 of a run that read a groupless backup is not published when a good one is read. -/
theorem ledger_only_grows_groupless : ∃ docs' d',
    (Builder.run {} ([.addRaw [grouplessRaw]] ++ [.addRaw [goldRaw]])).build (hourOf 4 (by decide)) [] "g" 20 =
      .ok docs' ∧
    Dict.get? docs' (lit "core:7") = some d' ∧ Dict.get? d' "policy_name" = some .null := by
  obtain ⟨docs, d, hbuild, hd, hreason⟩ := documentOf_build
    ((Builder.run {} [.addRaw [grouplessRaw]]).build (hourOf 4 (by decide)) [] "g" 20) (lit "core:7")
    (fun d => decide (lit "invalid_backup_evidence" ∈ shownReasons d)) (by decide +kernel)
  obtain ⟨docs', d', hbuild', hd', -⟩ := documentOf_build
    ((Builder.run {} ([.addRaw [grouplessRaw]] ++ [.addRaw [goldRaw]])).build (hourOf 4 (by decide)) [] "g" 20)
    (lit "core:7") (fun _ => true) (by decide +kernel)
  have hgrows := (ledger_only_grows [.addRaw [grouplessRaw]] [.addRaw [goldRaw]]
    (CollisionFree.of_length_le_one (by decide +kernel))).2 _ _ _ _ _ _ _ _ docs docs' hbuild hbuild'
  exact ⟨docs', d', hbuild', hd',
    (hgrows.2 _ d d' hd hd' (Or.inr ⟨_, by decide, of_decide_eq_true hreason⟩)).1⟩

end OneHit

end BackupCollector
