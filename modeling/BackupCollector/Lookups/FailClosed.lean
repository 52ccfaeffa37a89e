/-
# No backup is dropped from a verified action

In a run whose calls all return, every hit that was handed over was read to its end.  An entry of a
response then stands in the ledger in one of three ways: as evidence under its fingerprint, as a
reason against the action it names, or as a mark on its source.  A verified document leaves only
the first, so it rests on EVERY entry that names its action (`verified_drops_nothing`).

The marks are permanent, which is what makes the statement one about runs: whatever is fed after an
entry, what it left stays.  So a document that is verified at the end is verified against all of
the run, and not against what was fed last.

That the calls return is a condition, and a real one.  A hit that raises takes the hits behind it
with it, in a call that has several; what becomes of a run then is said in `PublishedNames` and
`Quarantine`, where the hits are those that were HANDED OVER and not those that were read.

The example is a run with one action and one entry that names it.
-/
import BackupCollector.Lookups.Publication

namespace BackupCollector

open Py

/-! ## 1. Runs that return

A call that returned has gone through all of its hits. -/

section Runs

variable [Unicode] [Hashlib]

/-- A RAW hit that was read to its end has an extraction, all of whose evidence is marked. -/
theorem evidence_mem_marks {hit : Json} (h : (rawMarks hit).err = none) :
    ∃ x, extractRaw hit = .ok x ∧ ∀ e ∈ x.evidence, .evidence e.fingerprint e ∈ (rawMarks hit).items := by
  cases hx : extractRaw hit with
  | error err =>
    unfold rawMarks at h
    rw [hx] at h
    cases h
  | ok x =>
    rw [rawMarks_err hx] at h
    have herr := Gen.err_of_each h
    refine ⟨x, rfl, fun e he => ?_⟩
    rw [rawMarks_items hx, Gen.each_of_ok herr]
    exact List.mem_append_right _ (List.mem_flatMap.mpr ⟨e, he, (Evidence.marks_of_ok (herr e he)).1⟩)

/-! ## 2. What an entry leaves

One mark for each entry, and the mark is there for good. -/

omit [Unicode] [Hashlib] in
/-- An entry yields exactly one piece of evidence or exactly one issue. -/
theorem extractBackup_one (entry : Json) (source : Source) (reference : Obj) (observedAt : Option Instant) :
    ((extractBackup entry source reference observedAt).evidence.length = 1 ∧
      (extractBackup entry source reference observedAt).issues = []) ∨
    ((extractBackup entry source reference observedAt).evidence = [] ∧
      (extractBackup entry source reference observedAt).issues.length = 1) := by
  have h := extractBackup_cases entry source reference observedAt
  generalize extractBackup entry source reference observedAt = part at h
  cases h with
  | evidence => exact Or.inl ⟨rfl, rfl⟩
  | invalid => exact Or.inr ⟨rfl, rfl⟩
  | unnamed => exact Or.inr ⟨rfl, rfl⟩

/-- What an extraction leaves for good, whatever is fed after it: an issue for an action blocks it,
one that names no action marks its source, and a hit of nobody withholds everything. -/
structure FailsClosed (calls : List LookupCall) : Prop where
  blocks : ∀ hit x i source actionId, .raw hit ∈ givenHits calls → extractRaw hit = .ok x → i ∈ x.issues →
    i.source = some source → i.actionId = some actionId → ∀ later,
    lit "invalid_backup_evidence" ∈ (Builder.run {} (calls ++ later)).blockedOf (source, actionId)
  marks : ∀ hit x i source, .raw hit ∈ givenHits calls → extractRaw hit = .ok x → i ∈ x.issues →
    i.source = some source → i.actionId = none → ∀ later,
    source ∈ (Builder.run {} (calls ++ later)).incompleteSources
  withholds : ∀ hit, .raw hit ∈ givenHits calls → rawSource hit = none → ∀ later synced coverage generation limit docs
    text d, (Builder.run {} (calls ++ later)).build synced coverage generation limit = .ok docs →
    Dict.get? docs text = some d → Dict.get? d "verification_status" ≠ some (.str "verified")

/-- A mark of a hit that was fed is a mark of every later run. -/
theorem mem_marks_of_fed {calls : List LookupCall} (hit : LookupHit) {m : Mark} (hhit : hit ∈ fedHits calls)
    (hm : m ∈ hit.marks.items) (later : List LookupCall) : m ∈ hitMarks (fedHits (calls ++ later)) := by
  rw [fedHits_append]
  exact mem_hitMarks.mpr ⟨hit, List.mem_append_left _ hhit, hm⟩

theorem failsClosed {calls : List LookupCall} (h : ({} : Builder).returns calls = true) : FailsClosed calls := by
  obtain ⟨hfed, -⟩ := fedHits_of_returns h
  constructor
  case blocks =>
    intro hit x i source actionId hhit hx hi hsource haction later
    rw [run_eq]
    exact Builder.mem_blockedOf_of_mark
      (mem_marks_of_fed (.raw hit) (hfed ▸ hhit) (blocked_mem_marks hx hi hsource haction) later)
  case marks =>
    intro hit x i source hhit hx hi hsource haction later
    have hin : source ∈ x.incompleteSources := by
      cases hs : rawSource hit with
      | none =>
        obtain ⟨i', hx', hi', -⟩ := extractRaw_unattributed hs
        obtain rfl := Except.ok.inj (hx.symm.trans hx')
        rw [List.mem_singleton.mp hi, hi'] at hsource
        cases hsource
      | some s =>
        have hfrom := extractRaw_attributed hs hx
        obtain rfl := Option.some.inj ((hfrom.issues i hi).symm.trans hsource)
        exact hfrom.unnamed i hi haction
    rw [run_eq]
    exact (Builder.mem_incompleteSources_marks _ _).mpr
      ⟨_, mem_marks_of_fed (.raw hit) (hfed ▸ hhit) (incomplete_mem_marks hx) later, hin⟩
  case withholds =>
    intro hit hhit hs later synced coverage generation limit docs text d hbuild hd hverified
    obtain ⟨key, rfl⟩ := Builder.key_of_build hbuild (Dict.get?_isSome_iff.mp (Option.isSome_iff_exists.mpr ⟨d, hd⟩))
    have hshown := document_shown (Builder.document_of_build hbuild hd).2
    rw [hshown.verification] at hverified
    obtain ⟨_, _, -, -, hby⟩ := verifiedBy (Json.str.inj (Option.some.inj hverified))
    have hmark := mem_marks_of_fed (.raw hit) (hfed ▸ hhit) (unattributed_mem_marks hs) later
    have hunknown := (Builder.unknownSourceErrors_marks _).mpr hmark
    rw [← run_eq, hby.attributed] at hunknown
    cases hunknown

/-! ## 3. Verified documents

What a verified document excludes, mark by mark. -/

/-- Every entry of a run that names a key is kept as evidence of it, and no entry, hit or source
went unread. -/
structure NothingDropped (calls : List LookupCall) (key : ActionKey) : Prop where
  kept : ∀ hit, .raw hit ∈ givenHits calls → rawSource hit = some key.1 → ∀ entry ∈ responseEntries hit,
    entryActionId entry = some key.2 → ∃ ref observedAt e stored,
      (extractBackup entry key.1 ref observedAt).evidence = [e] ∧
      Dict.get? ((Builder.run {} calls).recordsOf key) e.fingerprint = some stored ∧
      stored.key = key ∧ stored.fingerprint = e.fingerprint
  named : ∀ hit, .raw hit ∈ givenHits calls → rawSource hit = some key.1 → ∀ entry ∈ responseEntries hit,
    (entryActionId entry).isSome = true
  attributed : ∀ hit, .raw hit ∈ givenHits calls → (rawSource hit).isSome = true

/-- **A verified document rests on every entry that names its action**; whatever could not be read
keeps documents from being verified for good.  The hits are all that the calls were given, and the
calls are those of a run that returns. -/
theorem verified_drops_nothing (calls : List LookupCall) (hreturns : ({} : Builder).returns calls = true) :
    (∀ (synced : Datetime) (coverage : List Coverage) (generation : Str) (limit : Int) (docs : Dict Str Obj)
      (key : ActionKey) (d : Obj), (Builder.run {} calls).build synced coverage generation limit = .ok docs →
      Dict.get? docs key.text = some d → Dict.get? d "verification_status" = some (.str "verified") →
      NothingDropped calls key) ∧
    (∀ entry source reference observedAt,
      ((extractBackup entry source reference observedAt).evidence.length = 1 ∧
        (extractBackup entry source reference observedAt).issues = []) ∨
      ((extractBackup entry source reference observedAt).evidence = [] ∧
        (extractBackup entry source reference observedAt).issues.length = 1)) ∧
    FailsClosed calls := by
  refine ⟨fun synced coverage generation limit docs key d hbuild hd hverified => ?_, extractBackup_one,
    failsClosed hreturns⟩
  obtain ⟨hfed, herr⟩ := fedHits_of_returns hreturns
  have hshown := document_shown (Builder.document_of_build hbuild hd).2
  rw [hshown.verification] at hverified
  obtain ⟨_, _, -, -, hby⟩ := verifiedBy (Json.str.inj (Option.some.inj hverified))
  have hattributed := (attributed_of_run hby.attributed).1
  rw [hfed] at hattributed
  -- every entry of a hit of the source names its action
  have hnamed : ∀ hit, .raw hit ∈ givenHits calls → rawSource hit = some key.1 → ∀ entry ∈ responseEntries hit,
      (entryActionId entry).isSome = true := by
    intro hit hhit hs entry hentry
    obtain ⟨x, hx, -⟩ := evidence_mem_marks (herr _ hhit)
    obtain ⟨ref, observedAt, hpart⟩ := (extractRaw_attributed hs hx).entries entry hentry
    have hcase := extractBackup_cases entry key.1 ref observedAt
    generalize extractBackup entry key.1 ref observedAt = part at hpart hcase
    cases hcase with
    | evidence e hid => rw [hid]; rfl
    | invalid i actionId hid => rw [hid]; rfl
    | unnamed i _ hsource haction =>
      have hmark := (failsClosed hreturns).marks hit x i key.1 hhit hx (hpart.issues (List.mem_singleton_self i))
        hsource haction []
      rw [List.append_nil] at hmark
      exact absurd hmark hby.complete
  refine ⟨fun hit hhit hs entry hentry hid => ?_, hnamed, hattributed⟩
  obtain ⟨x, hx, hevidence⟩ := evidence_mem_marks (herr _ hhit)
  obtain ⟨ref, observedAt, hpart⟩ := (extractRaw_attributed hs hx).entries entry hentry
  have hcase := extractBackup_cases entry key.1 ref observedAt
  refine ⟨ref, observedAt, ?_⟩
  generalize extractBackup entry key.1 ref observedAt = part at hpart hcase ⊢
  cases hcase with
  | evidence e he hsource =>
    have hkey : e.key = key := Prod.ext hsource (Option.some.inj (he.symm.trans hid))
    have hmark : .evidence e.fingerprint e ∈ hitMarks (fedHits calls) := by
      rw [hfed]
      exact mem_hitMarks.mpr ⟨_, hhit, hevidence e (hpart.evidence (List.mem_singleton_self e))⟩
    obtain ⟨stored, -, hstored, hskey, hget⟩ := exists_record hmark
    rw [← run_eq, hkey] at hget
    exact ⟨e, stored, rfl, hget, hskey.trans hkey, (evidence_of_hitMarks hstored).2.symm⟩
  | invalid i actionId he hsource haction =>
    have hblocked := (failsClosed hreturns).blocks hit x i key.1 actionId hhit hx
      (hpart.issues (List.mem_singleton_self i)) hsource haction []
    obtain rfl := Option.some.inj (he.symm.trans hid)
    rw [List.append_nil] at hblocked
    have hnone := hby.unblocked
    rw [Prod.mk.eta] at hblocked
    rw [hnone] at hblocked
    exact absurd hblocked (Finset.notMem_empty _)
  | unnamed i he =>
    rw [hid] at he
    cases he

end Runs

section OneAction

attribute [local instance] Unicode.ascii Hashlib.hashlib

/-- The action 7 is verified, and the one entry that names it is kept. -/
theorem verified_drops_nothing_gold : NothingDropped goldCalls (⟨"core", by decide⟩, "7") := by
  obtain ⟨docs, d, hbuild, hd, hverified⟩ := documentOf_build (goldDocument goldCalls) (lit "core:7")
    (fun d => decide (Dict.get? d (lit "verification_status") = some (.str "verified"))) (by decide +kernel)
  exact (verified_drops_nothing goldCalls (by decide +kernel)).1 (hourOf 4 (by decide)) [goldCoverage] "g" 20 docs
    (⟨"core", by decide⟩, "7") d hbuild hd (of_decide_eq_true hverified)

end OneAction

end BackupCollector
