/-
# Published names are safe, where every hit was read

A document publishes the names of an action only past about twenty gates, and behind each of them
stands a mark that some hit left on the ledger: an issue without a source, a source that is
incomplete, a reason against the key, a copy of a job.  `Publication.lean` reads off the verdict
what every gate says about the LEDGER.  This file says what the gates say about the HITS that were
handed over, which is what the operator of the lookup means.

The step between the two is that a hit leaves its mark, and there it can go wrong:

* `add_raw` reads `collection_status in {"partial", "error"}` and hashes what it fingerprints
  without catching anything.  At a hit where that raises (`Unfit`) the call ends: the hit is as
  malformed as any other, but the source is not marked incomplete, and the entries behind the bad
  one are gone.
* The hits behind it in the same call are never pulled from the iterable (`BehindUnfit`).  They may
  be partial or belong to nobody, and nothing says so.

Neither can be repaired by a gate of the document, because the document never learns of it.
`published_safely_iff` says that these two are the only ways: whatever was published is safe exactly
when no hit of the source is unfit and the hits that were lost are sound (`SoundlyFed`).  Nothing is
assumed about coverage, about the order of the calls or about which of them raised.
-/
import BackupCollector.Lookups.Quarantine

namespace BackupCollector

open Py

/-! ## 1. What a published name promises

The promise is about the hits a run was handed, `givenHits`, not about those it got to: a caller
that catches the exception of one call and goes on to build has handed over every hit of it. -/

section Names

variable [Unicode] [Hashlib]

/-- What holds of a run that has published names of a key.  `names` and `verified` are about the
ledger and what it was verified with; the last four are about the hits: the copies of the action
agree, everything was attributed, every job was read, and every RAW hit of the source was whole and
could be fingerprinted to its end. -/
structure PublishedSafely (calls : List LookupCall) (key : ActionKey) (synced : Datetime) (coverage : List Coverage)
    (d : Obj) : Prop where
  mapping : Dict.get? d "mapping_status" = some (.str "resolved")
  verification : Dict.get? d "verification_status" = some (.str "verified")
  count : Dict.get? d "candidate_count" = some (.int 1)
  names : ∃ policy workflow group, (Builder.run {} calls).candidatesOf key = {[policy, workflow, group]} ∧
    Dict.get? d "policy_name" = some (.str policy) ∧ Dict.get? d "workflow_name" = some (.str workflow) ∧
    Dict.get? d "protection_group" = some (.str group)
  verified : ∃ action, ∃ c ∈ coverage, c.key = key ∧ VerifiedBy (Builder.run {} calls) key synced action c
  copies : ∀ hit j hit' j', .job hit ∈ givenHits calls → readJob hit = .ok j → j.key = key →
    .job hit' ∈ givenHits calls → readJob hit' = .ok j' → j'.key = key →
    j.start = j'.start ∧ j.kind = j'.kind ∧ j.parent = j'.parent ∧ j.root = j'.root
  attributed : ∀ hit, .raw hit ∈ givenHits calls → (rawSource hit).isSome = true
  jobs : ∀ hit, .job hit ∈ givenHits calls → (readJob hit).isOk = true
  whole : ∀ hit, .raw hit ∈ givenHits calls → rawSource hit = some key.1 → WholeHit hit ∧ ¬ UnhashableEntry hit

/-- The hits of a run that could leave no mark are in order: those of the source are fit, and those
that stand behind an unfit hit of any source are attributed and, when they are the source's, whole.
It is about the input alone, and about nothing that leaves a mark. -/
structure SoundlyFed (calls : List LookupCall) (source : Source) : Prop where
  fit : ∀ hit, .raw hit ∈ givenHits calls → rawSource hit = some source → ¬ Unfit hit
  attributed : ∀ hit, BehindUnfit calls hit → (rawSource hit).isSome = true
  whole : ∀ hit, BehindUnfit calls hit → rawSource hit = some source → WholeHit hit

omit [Hashlib] in
/-- A whole hit without an entry that cannot be fingerprinted is fit. -/
theorem fit_of_whole {hit : Json} (h : WholeHit hit ∧ ¬ UnhashableEntry hit) : ¬ Unfit hit := by
  rintro ⟨-, hstatus | hentry⟩
  · exact hstatus.not_whole h.1
  · exact h.2 hentry

omit [Hashlib] in
theorem hashable_of_fit {hit : Json} {source : Source} (hs : rawSource hit = some source) (h : ¬ Unfit hit) :
    ¬ UnhashableStatus hit ∧ ¬ UnhashableEntry hit := by
  have hsome : (rawSource hit).isSome = true := by
    rw [hs]
    rfl
  exact ⟨fun hstatus => h ⟨hsome, Or.inl hstatus⟩, fun hentry => h ⟨hsome, Or.inr hentry⟩⟩

theorem job_fed_of_given {calls : List LookupCall} {hit : Json} (h : .job hit ∈ givenHits calls) :
    .job hit ∈ fedHits calls := by
  rcases mem_givenHits.mp h with h | h
  · exact h
  · obtain ⟨raw, heq, -⟩ := mem_lostHits.mp h
    cases heq

theorem raw_fed_or_behind {calls : List LookupCall} {hit : Json} (h : .raw hit ∈ givenHits calls) :
    .raw hit ∈ fedHits calls ∨ BehindUnfit calls hit := by
  rcases mem_givenHits.mp h with h | h
  · exact Or.inl h
  · obtain ⟨raw, heq, hbehind⟩ := mem_lostHits.mp h
    obtain rfl := LookupHit.raw.inj heq
    exact Or.inr hbehind

theorem given_of_behind {calls : List LookupCall} {hit : Json} (h : BehindUnfit calls hit) :
    .raw hit ∈ givenHits calls :=
  mem_givenHits.mpr (Or.inr (mem_lostHits.mpr ⟨hit, rfl, h⟩))

/-! ## 2. When the promise is kept

One direction is short: the promise covers the hits that could leave no mark.  For the other, a hit
the run got to has left its mark, so the empty sets of reasons speak for it, and the condition
speaks for the rest. -/

/-- The copies of an action that were handed over agree, because the copies in the ledger do. -/
theorem copies_of_run {calls : List LookupCall} {key : ActionKey} {action : Job}
    (h : SoundExecution (Builder.run {} calls).jobs key action) {hit : Json} {j : Job}
    (hhit : .job hit ∈ givenHits calls) (hj : readJob hit = .ok j) (hkey : j.key = key) :
    j.start = action.start ∧ j.kind = action.kind ∧ j.parent = action.parent ∧ j.root = action.root := by
  obtain ⟨copy, hcopy, hcore⟩ := copy_of_run (job_fed_of_given hhit) hj
  obtain ⟨hstart, hkind, hparent, hroot⟩ := h.copies copy (hkey ▸ hcopy)
  unfold Job.core at hcore
  simp only [Job.mk.injEq] at hcore
  rw [← hstart, ← hkind, ← hparent, ← hroot]
  exact ⟨hcore.2.2.2.2.2.2.1.symm, hcore.2.2.1.symm, hcore.2.2.2.1.symm, hcore.2.2.2.2.1.symm⟩

/-- **Names are published safely exactly when the hits that could leave no mark are in order.**  For
every run, coverage and limit, and every document of the build that publishes a name.  It says
nothing about documents that publish none, and it does not say that names are published at all. -/
theorem published_safely_iff (calls : List LookupCall) (synced : Datetime) (coverage : List Coverage)
    (generation : Str) (limit : Int) (docs : Dict Str Obj) (key : ActionKey) (d : Obj)
    (hbuild : (Builder.run {} calls).build synced coverage generation limit = .ok docs)
    (hd : Dict.get? docs key.text = some d) (hpub : Publishes d) :
    PublishedSafely calls key synced coverage d ↔ SoundlyFed calls key.1 := by
  constructor
  · intro h
    exact {
      fit := fun hit hhit hs => fit_of_whole (h.whole hit hhit hs)
      attributed := fun hit hbehind => h.attributed hit (given_of_behind hbehind)
      whole := fun hit hbehind hs => (h.whole hit (given_of_behind hbehind) hs).1 }
  · intro hfed
    have hshown := document_shown (Builder.document_of_build hbuild hd).2
    obtain ⟨names, hnames⟩ := hshown.published hpub
    obtain ⟨hmapping, hverification, hcandidates⟩ := published_eq_some hnames
    obtain ⟨action, c, -, hc, hverified⟩ := verifiedBy hverification
    obtain ⟨hcmem, hckey⟩ := mem_of_attestationOf hc
    obtain ⟨hattributed, hjobs⟩ := attributed_of_run hverified.attributed
    have hledger := verdict_candidates (Builder.run {} calls) key synced (Builder.attestationOf coverage key)
    obtain ⟨e, -, rfl⟩ : ∃ e ∈ (Builder.run {} calls).records key, e.candidate = names := by
      have hmem : names ∈ (Builder.run {} calls).candidatesOf key := by
        rw [← hledger, hcandidates]
        exact Finset.mem_singleton_self names
      simpa [Builder.candidatesOf] using hmem
    exact {
      mapping := by rw [hshown.mapping, hmapping]
      verification := by rw [hshown.verification, hverification]
      count := by rw [hshown.count, hcandidates, Finset.card_singleton]; rfl
      names := by
        refine ⟨e.policy.normalized, e.workflow.normalized, e.group.normalized, hledger ▸ hcandidates, ?_, ?_, ?_⟩
        · rw [hshown.policyName, hnames]
          rfl
        · rw [hshown.workflowName, hnames]
          rfl
        · rw [hshown.groupName, hnames]
          rfl
      verified := ⟨action, c, hcmem, hckey, hverified⟩
      copies := by
        intro hit j hit' j' hhit hj hkey hhit' hj' hkey'
        obtain ⟨h₁, h₂, h₃, h₄⟩ := copies_of_run hverified.execution hhit hj hkey
        obtain ⟨h₁', h₂', h₃', h₄'⟩ := copies_of_run hverified.execution hhit' hj' hkey'
        exact ⟨h₁.trans h₁'.symm, h₂.trans h₂'.symm, h₃.trans h₃'.symm, h₄.trans h₄'.symm⟩
      attributed := fun hit hhit => (raw_fed_or_behind hhit).elim (hattributed hit) (hfed.attributed hit)
      jobs := fun hit hhit => hjobs hit (job_fed_of_given hhit)
      whole := by
        intro hit hhit hs
        obtain ⟨hstatus, hentry⟩ := hashable_of_fit hs (hfed.fit hit hhit hs)
        refine ⟨?_, hentry⟩
        rcases raw_fed_or_behind hhit with hread | hbehind
        · obtain ⟨x, hx⟩ := extractRaw_isOk hs hstatus
          exact whole_of_run hverified.complete hread hs hx
        · exact hfed.whole hit hbehind hs }

end Names

section OneAction

attribute [local instance] Unicode.ascii Hashlib.hashlib

theorem goldRaw_fit : ¬ Unfit goldRaw := (rawMarks_err_iff goldRaw).mp (by decide +kernel)

/-- Whatever is handed over in `goldCalls` as RAW is the good document. -/
theorem goldRaw_of_mem {hits : List Json} (h : .addRaw hits ∈ goldCalls) : hits = [goldRaw] := by
  simpa [goldCalls] using h

/-- The run of the one action loses nothing. -/
theorem soundlyFed_gold : SoundlyFed goldCalls ⟨"core", by decide⟩ := by
  have hnone : ∀ hit, ¬ BehindUnfit goldCalls hit := by
    rintro hit ⟨before, bad, after, hcall, hbad, -⟩
    have hmem : bad ∈ [goldRaw] := goldRaw_of_mem hcall ▸ List.mem_append_right before List.mem_cons_self
    exact goldRaw_fit (List.mem_singleton.mp hmem ▸ hbad)
  refine ⟨fun hit hhit _ => ?_, fun hit hbehind => absurd hbehind (hnone hit), fun hit hbehind => absurd hbehind (hnone hit)⟩
  obtain ⟨call, hcall, hhit⟩ := List.mem_flatMap.mp hhit
  cases call with
  | addRaw hits =>
    obtain ⟨raw, hraw, heq⟩ := List.mem_map.mp hhit
    obtain rfl := LookupHit.raw.inj heq
    rw [goldRaw_of_mem hcall, List.mem_singleton] at hraw
    exact hraw ▸ goldRaw_fit
  | addJobs hits =>
    obtain ⟨_, -, heq⟩ := List.mem_map.mp hhit
    cases heq

/-- The names of the action 7 are published, and safely. -/
theorem published_safely_iff_gold : ∃ d, PublishedSafely goldCalls (⟨"core", by decide⟩, "7") (hourOf 4 (by decide))
    [goldCoverage] d := by
  obtain ⟨docs, d, hbuild, hd, hgold⟩ := documentOf_build (goldDocument goldCalls) (lit "core:7") namesGold
    (by decide +kernel)
  exact ⟨d, (published_safely_iff goldCalls (hourOf 4 (by decide)) [goldCoverage] "g" 20 docs
    (⟨"core", by decide⟩, "7") d hbuild hd (publishes_of_namesGold hgold)).mpr soundlyFed_gold⟩

/-- A RAW document that belongs to no source. -/
def ownerlessRaw : Json := .obj [("_source", .obj [("payload", .obj [])])]

/-- The names of the action 7 are published although a malformed RAW document of its source was fed,
and although a document of no source was handed over behind a malformed one of another source. -/
theorem unhashable_status_unmarked :
    (∃ docs d, goldDocument (.addRaw [listStatusRaw] :: goldCalls) = .ok docs ∧
      Dict.get? docs (lit "core:7") = some d ∧ Dict.get? d (lit "policy_name") = some (.str "Gold") ∧
      ¬ PublishedSafely (.addRaw [listStatusRaw] :: goldCalls) (⟨"core", by decide⟩, "7") (hourOf 4 (by decide))
        [goldCoverage] d) ∧
    ∃ docs d, goldDocument (.addRaw [chnlListStatusRaw, ownerlessRaw] :: goldCalls) = .ok docs ∧
      Dict.get? docs (lit "core:7") = some d ∧ Dict.get? d (lit "policy_name") = some (.str "Gold") ∧
      ¬ PublishedSafely (.addRaw [chnlListStatusRaw, ownerlessRaw] :: goldCalls) (⟨"core", by decide⟩, "7")
        (hourOf 4 (by decide)) [goldCoverage] d := by
  constructor
  · obtain ⟨docs, d, hbuild, hd, hgold⟩ := documentOf_build (goldDocument (.addRaw [listStatusRaw] :: goldCalls))
      (lit "core:7") namesGold (by decide +kernel)
    refine ⟨docs, d, hbuild, hd, of_decide_eq_true hgold, fun h => ?_⟩
    have hwhole := h.whole listStatusRaw List.mem_cons_self (by decide +kernel)
    exact UnhashableStatus.not_whole ⟨_, _, _, rfl, rfl, by decide, rfl⟩ hwhole.1
  · obtain ⟨docs, d, hbuild, hd, hgold⟩ := documentOf_build
      (goldDocument (.addRaw [chnlListStatusRaw, ownerlessRaw] :: goldCalls)) (lit "core:7") namesGold (by decide +kernel)
    refine ⟨docs, d, hbuild, hd, of_decide_eq_true hgold, fun h => ?_⟩
    have hsource := h.attributed ownerlessRaw (List.mem_cons_of_mem _ List.mem_cons_self)
    exact absurd hsource (by decide +kernel)

end OneAction

end BackupCollector
