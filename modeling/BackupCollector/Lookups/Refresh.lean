/-
# Refreshing the store from a ledger

A collector feeds one ledger for as long as it runs, and commits the documents it builds, again and
again, to one store.  The ledger and the store were made separately: the ledger forgets nothing,
and the store refuses documents that forget something.  So the question is whether they fit
together, that is, whether a store ever refuses a ledger that did nothing wrong.

It does, for one reason.  The audit lists of the documents are cut off at a limit, and the store
compares them when the candidates of a key have changed; a list that was cut may lack a candidate
that the stored one shows.  Every other guard lets whatever a growing ledger builds pass
(`refresh_accepted_iff`), and as long as no list is cut nothing is refused at all
(`refresh_accepted`).

Three laws about what ends up in the store follow from the same account.

* What is stored was built by a refresh of the run, with its own execution or one that an earlier
  refresh stored (`run_recorded`).
* Names that were withheld for good when a document was stored are never stored later
  (`withheld_stays_unpublished`).
* After a refresh from the whole input, a rebuild from PART of it, as after a restart, leaves no
  names that the whole input would not have (`rebuild_publishes_sole`).

A run may interleave calls and refreshes in any way, and any of them may raise; a refresh that
raised leaves the store as it is.  One ledger and one store, with no other writer.  Coverage,
generation and limit may differ from refresh to refresh.
-/
import BackupCollector.Lookups.Admission
import BackupCollector.Lookups.Selection

namespace BackupCollector

open Py

section Runs

variable [Unicode] [Hashlib]

/-! ## 1. Runs

The state is a ledger and a store, and a step changes one of them. -/

/-- One refresh: what `build` is called with, and the checkpoint of the commit. -/
structure Refresh where
  synced : Datetime
  coverage : List Coverage
  generation : Str
  limit : Int
  checkpoint : Checkpoint

/-- A ledger and the store it is committed to. -/
structure LookupState where
  ledger : Builder := {}
  store : InMemoryLookupStore := {}

/-- A call of the ledger, or a refresh of the store. -/
inductive LookupStep where
  | feed (call : LookupCall)
  | refresh (r : Refresh)

namespace LookupState

/-- `build`, then `commit` against the current version: the store it leaves, and the new version or
what it raises. -/
def refresh (s : LookupState) (r : Refresh) : InMemoryLookupStore × Except Err Int :=
  match h : s.ledger.build r.synced r.coverage r.generation r.limit with
  | .error e => (s.store, .error e)
  | .ok _ => s.store.commit ⟨Batch.ofBuild h, s.store.version, r.checkpoint⟩

def step (s : LookupState) : LookupStep → LookupState
  | .feed call => { s with ledger := (s.ledger.call call).1 }
  | .refresh r => { s with store := (s.refresh r).1 }

/-- A sequence of steps, some of which may raise. -/
def run (s : LookupState) (steps : List LookupStep) : LookupState := steps.foldl step s

end LookupState

/-- The calls a run feeds its ledger. -/
def fedCalls (steps : List LookupStep) : List LookupCall :=
  steps.filterMap fun
    | .feed call => some call
    | .refresh _ => none

namespace LookupState

theorem run_concat (s : LookupState) (steps : List LookupStep) (x : LookupStep) :
    s.run (steps ++ [x]) = (s.run steps).step x := by
  unfold run
  rw [List.foldl_append]
  rfl

/-- The ledger of a run is what its calls leave; a refresh does not change it. -/
theorem run_ledger (steps : List LookupStep) : (run {} steps).ledger = Builder.run {} (fedCalls steps) := by
  induction steps using List.reverseRecOn with
  | nil => rfl
  | append_singleton steps x ih =>
    rw [run_concat]
    cases x with
    | feed call =>
      have hfed : fedCalls (steps ++ [.feed call]) = fedCalls steps ++ [call] := by simp [fedCalls]
      rw [hfed, Builder.run_append, ← ih]
      rfl
    | refresh r =>
      have hfed : fedCalls (steps ++ [.refresh r]) = fedCalls steps := by simp [fedCalls]
      rw [hfed, ← ih]
      rfl

theorem run_marks (steps : List LookupStep) :
    (run {} steps).ledger = ({} : Builder).marks (hitMarks (fedHits (fedCalls steps))) := by
  rw [run_ledger, run_eq]

end LookupState

omit [Hashlib] in
theorem fedCalls_append (xs ys : List LookupStep) : fedCalls (xs ++ ys) = fedCalls xs ++ fedCalls ys :=
  List.filterMap_append

/-- What a refresh does: nothing when something raises, else it commits what the ledger builds. -/
theorem refresh_eq {s : LookupState} {r : Refresh} {docs : Dict Str Obj}
    (h : s.ledger.build r.synced r.coverage r.generation r.limit = .ok docs) :
    s.refresh r = s.store.commit ⟨Batch.ofBuild h, s.store.version, r.checkpoint⟩ := by
  unfold LookupState.refresh
  split
  · rename_i e he
    rw [he] at h
    cases h
  · rename_i docs' hdocs
    obtain rfl := Except.ok.inj (h.symm.trans hdocs)
    rfl

theorem refresh_raised {s : LookupState} {r : Refresh} {e : Err}
    (h : s.ledger.build r.synced r.coverage r.generation r.limit = .error e) : s.refresh r = (s.store, .error e) := by
  unfold LookupState.refresh
  split
  · rename_i e' he
    rw [Except.error.inj (h.symm.trans he)]
  · rename_i docs hdocs
    rw [h] at hdocs
    cases hdocs

/-- A ledger builds when what its documents hash can be encoded: the references of their records,
and the names of their candidates. -/
theorem Builder.isOk_build {b : Builder} {synced : Datetime} {coverage : List Coverage} {attested : Dict ActionKey Coverage}
    {generation : Str} {limit : Int} (hattested : attestations coverage = .ok attested) (hsynced : synced.isTimestamp = true)
    (hlimit : 1 ≤ limit)
    (hencodes : ∀ key ∈ b.keys,
      (∀ e ∈ (b.verdict key synced (Dict.get? attested key)).records, (Json.obj e.reference).encodes = true) ∧
      (Json.arr ((sorted (b.verdict key synced (Dict.get? attested key)).candidates).map strArray)).encodes = true) :
    (b.build synced coverage generation limit).isOk = true := by
  unfold build
  rw [if_neg (not_or.mpr ⟨by rw [hsynced]; decide, not_lt.mpr hlimit⟩)]
  refine isOk_bind.mpr ⟨attested, hattested, isOk_mapM.mpr fun key hkey => ?_⟩
  obtain ⟨hrecords, hcandidates⟩ := hencodes key ((List.mem_insertionSort _).mp hkey)
  rw [isOk_map]
  have hreferences : (sortedReferences (b.verdict key synced (Dict.get? attested key)).records).isOk = true := by
    have hdigests : ∀ e ∈ (b.verdict key synced (Dict.get? attested key)).records,
        ((digest (.obj e.reference)).map fun d => (d, e.reference)).isOk = true := by
      intro e he
      rw [isOk_map, digest_isOk_iff]
      exact hrecords e he
    obtain ⟨keyed, hkeyed⟩ := isOk_iff.mp (isOk_mapM.mpr hdigests)
    exact isOk_bind.mpr ⟨keyed, hkeyed, rfl⟩
  obtain ⟨references, hreferences⟩ := isOk_iff.mp hreferences
  obtain ⟨fingerprint, hfingerprint⟩ := isOk_iff.mp (digest_isOk_iff.trans hcandidates)
  exact isOk_bind.mpr ⟨references, hreferences, isOk_bind.mpr ⟨fingerprint, hfingerprint, rfl⟩⟩

/-! ## 2. What is stored

Invariants of a run about the store, from what one refresh leaves under a key. -/

/-- A document that a refresh of the run has built, with the part of the run that was its ledger.
It need not have been accepted. -/
structure BuiltIn (steps : List LookupStep) (key : ActionKey) (v : Verdict) (limit : Nat) (d : Obj) : Prop where
  built : ∃ pre r later, steps = pre ++ .refresh r :: later ∧ limit = r.limit.toNat ∧
    v = (LookupState.run {} pre).ledger.verdict key r.synced (Builder.attestationOf r.coverage key)
  shown : v.Shown key limit d

theorem BuiltIn.later {steps later : List LookupStep} {key : ActionKey} {v : Verdict} {limit : Nat} {d : Obj}
    (h : BuiltIn steps key v limit d) : BuiltIn (steps ++ later) key v limit d := by
  obtain ⟨⟨pre, r, rest, rfl, hlimit, hv⟩, hshown⟩ := h
  exact ⟨⟨pre, r, rest ++ later, by simp, hlimit, hv⟩, hshown⟩

/-- A stored document was built by a refresh of the run, and so was the execution it keeps. -/
def Recorded (steps : List LookupStep) (key : ActionKey) (d : Obj) : Prop :=
  ∃ v limit built w limit' acted, BuiltIn steps key v limit built ∧ BuiltIn steps key w limit' acted ∧
    Kept built acted d

theorem Recorded.later {steps later : List LookupStep} {key : ActionKey} {d : Obj} (h : Recorded steps key d) :
    Recorded (steps ++ later) key d := by
  obtain ⟨v, limit, built, w, limit', acted, hbuilt, hacted, hkept⟩ := h
  exact ⟨v, limit, built, w, limit', acted, hbuilt.later, hacted.later, hkept⟩

/-- What a refresh leaves under a key: what stood there, or a document it has built, with its own
execution or the one that was stored. -/
theorem refresh_get? (s : LookupState) (r : Refresh) (text : Str) :
    Dict.get? (s.refresh r).1.documents text = Dict.get? s.store.documents text ∨
    ∃ key incoming new, text = ActionKey.text key ∧ Dict.get? (s.refresh r).1.documents text = some new ∧
      (s.ledger.verdict key r.synced (Builder.attestationOf r.coverage key)).Shown key r.limit.toNat incoming ∧
      (Kept incoming incoming new ∨ ∃ old, storedDocument s.store.documents text = some old ∧
        ∀ built acted, Kept built acted old → Kept incoming acted new) := by
  cases hbuild : s.ledger.build r.synced r.coverage r.generation r.limit with
  | error e =>
    rw [refresh_raised hbuild]
    exact Or.inl rfl
  | ok docs =>
    rw [refresh_eq hbuild]
    rcases commit_cases s.store ⟨Batch.ofBuild hbuild, s.store.version, r.checkpoint⟩ with
      ⟨e, he⟩ | ⟨documents, -, hreplacement, hcommit⟩
    · rw [he]
      exact Or.inl rfl
    · rw [hcommit]
      obtain ⟨hout, hin⟩ := Batch.get?_replacement hreplacement text
      cases hget : Dict.get? docs text with
      | none => exact Or.inl (hout hget)
      | some incoming =>
        obtain ⟨new, hnew, hnewReplacement⟩ := hin incoming hget
        obtain ⟨key, rfl, -, hshown⟩ := shown_of_build hbuild hget
        exact Or.inr ⟨key, incoming, new, rfl, hnew, hshown, kept_of_replacement hnewReplacement⟩

/-- Whatever is stored in a run was recorded in it. -/
theorem run_recorded (steps : List LookupStep) (key : ActionKey) (d : Obj)
    (h : Dict.get? (LookupState.run {} steps).store.documents key.text = some d) : Recorded steps key d := by
  induction steps using List.reverseRecOn generalizing d with
  | nil => cases h
  | append_singleton steps x ih =>
    rw [LookupState.run_concat] at h
    cases x with
    | feed call => exact (ih d h).later
    | refresh r =>
      rcases refresh_get? (LookupState.run {} steps) r key.text with
        hsame | ⟨key', incoming, new, htext, hnew, hshown, hkept⟩
      · exact (ih d (hsame ▸ h)).later
      · obtain rfl : d = new := Option.some.inj (h.symm.trans hnew)
        obtain rfl := Builder.text_injective htext
        have hbuilt : BuiltIn (steps ++ [.refresh r]) key _ r.limit.toNat incoming :=
          ⟨⟨steps, r, [], rfl, rfl, rfl⟩, hshown⟩
        rcases hkept with hkept | ⟨old, hold, hkept⟩
        · exact ⟨_, _, incoming, _, _, incoming, hbuilt, hbuilt, hkept⟩
        · obtain ⟨v, limit, built, w, limit', acted, -, hacted, hold⟩ := ih old (get?_of_storedDocument hold)
          exact ⟨_, _, incoming, w, limit', acted, hbuilt, hacted.later, hkept built acted hold⟩

/-! ## 3. What the store accepts

Each guard in turn, against a document that an earlier ledger of the run has built.  All but one
never refuse. -/

/-- The ledger a document was built from has grown into the ledger of the run. -/
theorem BuiltIn.grown {steps : List LookupStep} {key : ActionKey} {v : Verdict} {limit : Nat} {d : Obj}
    (h : BuiltIn steps key v limit d) : ∃ pre later synced coverage,
      fedHits (fedCalls steps) = pre ++ later ∧ v = (({} : Builder).marks (hitMarks pre)).verdict key synced coverage := by
  obtain ⟨⟨pre, r, later, rfl, -, hv⟩, -⟩ := h
  refine ⟨fedHits (fedCalls pre), fedHits (fedCalls (.refresh r :: later)), r.synced,
    Builder.attestationOf r.coverage key, ?_, ?_⟩
  · rw [fedCalls_append, fedHits_append]
  · rw [hv, LookupState.run_marks]

section Grown

variable {pre later : List LookupHit} {key : ActionKey} {synced synced' : Datetime} {coverage coverage' : Option Coverage}

/-- The start of a copy is still the start of the selected copy, or a reason to block. -/
theorem start_later {s : Instant}
    (h : ((({} : Builder).marks (hitMarks pre)).verdict key synced coverage).action.bind Job.start = some s) :
    ((({} : Builder).marks (hitMarks (pre ++ later))).verdict key synced' coverage').blocked.Nonempty ∨
      ((({} : Builder).marks (hitMarks (pre ++ later))).verdict key synced' coverage').action.bind Job.start = some s := by
  obtain ⟨a, ha, hstart⟩ := Option.bind_eq_some_iff.mp h
  rw [verdict_action] at ha
  have hcopy : a ∈ (({} : Builder).marks (hitMarks (pre ++ later))).jobs.copies key := by
    rw [hitMarks_append, Builder.marks_append]
    exact Builder.mem_copies_marks _ (selectJob_some ha).2
  obtain ⟨a', ha'⟩ := exists_selected (List.ne_nil_of_mem hcopy)
  rw [verdict_action, ha']
  by_cases hsame : a'.start = a.start
  · exact Or.inr (hsame.trans hstart)
  · have hconflict := (execution_conflict_iff ha').mpr ⟨a', (selectJob_some ha').2, a, hcopy, Or.inl hsame⟩
    refine Or.inl ⟨lit "job_id_reuse_or_execution_conflict", mem_verdict_blocked (Or.inr ?_)⟩
    rw [executionCheck_some ha']
    exact Finset.mem_union_left _ (Finset.mem_union_left _ (Finset.mem_union_left _ hconflict))

/-- Once a copy is terminal, the selected copy is. -/
theorem terminal_later {a : Job}
    (h : ((({} : Builder).marks (hitMarks pre)).verdict key synced coverage).action = some a) (hterminal : a.isTerminal = true) :
    ∃ a', ((({} : Builder).marks (hitMarks (pre ++ later))).verdict key synced' coverage').action = some a' ∧
      a'.isTerminal = true := by
  rw [verdict_action] at h
  have hcopy : a ∈ (({} : Builder).marks (hitMarks (pre ++ later))).jobs.copies key := by
    rw [hitMarks_append, Builder.marks_append]
    exact Builder.mem_copies_marks _ (selectJob_some h).2
  obtain ⟨a', ha'⟩ := exists_selected (List.ne_nil_of_mem hcopy)
  rw [verdict_action]
  exact ⟨a', ha', (mem_selectionPool.mp (selected_latest ha').1).2 ⟨a, hcopy, hterminal⟩⟩

end Grown

/-- Of the guards against a stored document only the one over the audit lists can refuse what the
ledger of the run builds. -/
theorem checkStored_isOk_iff {steps : List LookupStep} (hfree : CollisionFree (fedHits (fedCalls steps)))
    {key : ActionKey} {old d : Obj} (hold : Recorded steps key old) {synced : Datetime} {coverage : Option Coverage}
    {limit : Nat} (hshown : ((LookupState.run {} steps).ledger.verdict key synced coverage).Shown key limit d) :
    (checkStored old d).isOk = true ↔ dropsAudited old d = .ok false := by
  obtain ⟨v, limit', built, w, limit'', acted, hbuilt, hacted, hkept⟩ := hold
  obtain ⟨pre, later, synced₁, coverage₁, hhits, hv⟩ := hbuilt.grown
  obtain ⟨pre', later', synced₂, coverage₂, hhits', hw⟩ := hacted.grown
  rw [LookupState.run_marks] at hshown
  have hcandidates : v.candidates ⊆
      ((({} : Builder).marks (hitMarks (fedHits (fedCalls steps)))).verdict key synced coverage).candidates := by
    rw [hv, verdict_candidates, verdict_candidates, hhits]
    exact candidatesOf_subset (hhits ▸ hfree) key
  have hreplaces : replacesExecution old d = .ok false := by
    refine replacesExecution_of hkept hacted.shown hshown fun s hs => ?_
    rw [hw] at hs
    rw [hhits']
    exact start_later hs
  have hloses : losesCandidates old d = .ok false := losesCandidates_of hkept hbuilt.shown hshown hcandidates
  have hregresses : regressesStatus old d = .ok false := by
    refine regressesStatus_of hkept hacted.shown hshown fun a ha hterminal => ?_
    rw [hw] at ha
    rw [hhits']
    exact terminal_later ha hterminal
  obtain ⟨b, hb, -⟩ := dropsAudited_of hkept hbuilt.shown hshown
  unfold checkStored
  rw [hreplaces, hloses, hb, hregresses]
  cases b with
  | true => exact ⟨fun h => (nomatch h), fun h => (nomatch h)⟩
  | false => exact ⟨fun _ => rfl, fun _ => rfl⟩

/-- **A refresh is refused exactly when the audit lists of some key do not carry its candidates
over**: every other guard of the store lets whatever a growing ledger builds pass. -/
theorem refresh_accepted_iff (steps : List LookupStep) (hfree : CollisionFree (fedHits (fedCalls steps))) (r : Refresh)
    (docs : Dict Str Obj)
    (hbuild : (LookupState.run {} steps).ledger.build r.synced r.coverage r.generation r.limit = .ok docs) :
    ((LookupState.run {} steps).refresh r).2.isOk = true ↔
      ∀ text old d, Dict.get? (LookupState.run {} steps).store.documents text = some old →
        Dict.get? docs text = some d → dropsAudited old d = .ok false := by
  rw [refresh_eq hbuild, commit_isOk_iff _ _ rfl, Batch.replacement_isOk_iff]
  have hentries : (Batch.ofBuild hbuild).entries = docs := rfl
  rw [hentries]
  constructor
  · intro hall text old d hold hd
    obtain ⟨key, rfl, -, hshown⟩ := shown_of_build hbuild hd
    have hrecorded := run_recorded steps key old hold
    have hcheck := (hall _ (Dict.mem_of_get? hd)).1
    obtain ⟨v, limit, built, w, limit', acted, hbuilt, -, hkept⟩ := id hrecorded
    have hrunKey := (hkept.rest "action_run_key" (by decide)).trans hbuilt.shown.runKey
    unfold checkDocument at hcheck
    rw [storedDocument_of_field hold hrunKey] at hcheck
    obtain ⟨_, -, hcheck⟩ := isOk_bind.mp hcheck
    obtain ⟨_, -, hcheck⟩ := isOk_bind.mp hcheck
    exact (checkStored_isOk_iff hfree hrecorded hshown).mp hcheck
  · rintro hguard ⟨text, d⟩ hp
    have hd := Dict.get?_of_mem (nodup_of_build hbuild) hp
    obtain ⟨key, rfl, hkey, hshown⟩ := shown_of_build hbuild hd
    refine ⟨?_, ?_⟩
    · have hmarks := hshown
      rw [LookupState.run_marks] at hkey hmarks
      unfold checkDocument
      refine isOk_bind.mpr ⟨(), checkIdentity_of_shown hmarks (keys_ids hkey), isOk_bind.mpr ⟨(),
        checkNames_of_shown hmarks fun c hc => candidate_filled (verdict_candidates _ _ _ _ ▸ hc), ?_⟩⟩
      cases hold : storedDocument (LookupState.run {} steps).store.documents key.text with
      | none => rfl
      | some old =>
        have hget := get?_of_storedDocument hold
        exact (checkStored_isOk_iff hfree (run_recorded steps key old hget) hshown).mpr (hguard _ old d hget hd)
    · refine isOk_iff.mpr (replacementOf_isOk hshown fun old hold => ?_)
      obtain ⟨v, limit, built, w, limit', acted, -, hacted, hkept⟩ :=
        run_recorded steps key old (get?_of_storedDocument hold)
      exact ⟨built, acted, limit', w, hkept, hacted.shown⟩

/-! ## 4. Whole audit lists

With room for every record an audit list shows every candidate, and the last guard is silent too. -/

omit [Unicode] [Hashlib] in
/-- Records only come. -/
theorem records_length_le (ms later : List Mark) (key : ActionKey) :
    ((({} : Builder).marks ms).records key).length ≤ ((({} : Builder).marks (ms ++ later)).records key).length := by
  have hkeys : Dict.keys ((({} : Builder).marks ms).recordsOf key) ⊆
      Dict.keys ((({} : Builder).marks (ms ++ later)).recordsOf key) := by
    intro fp hfp
    rw [← Dict.get?_isSome_iff, Builder.get?_recordsOf] at hfp ⊢
    obtain ⟨e, he⟩ := Option.isSome_iff_exists.mp hfp
    obtain ⟨hm, hkey⟩ := mem_observations.mp (maxBy_spec he).1
    have hmem : e ∈ observations (ms ++ later) key fp := mem_observations.mpr ⟨List.mem_append_left _ hm, hkey⟩
    rw [Option.isSome_iff_ne_none, ne_eq, maxBy_eq_none]
    exact List.ne_nil_of_mem hmem
  have hlength := (List.Nodup.subperm (Builder.nodup_recordsOf ms key) hkeys).length_le
  simpa [Builder.records, Builder.recordsOf, Dict.values, Dict.keys] using hlength

omit [Unicode] [Hashlib] in
/-- An audit list that is not cut off shows all candidates. -/
theorem shownCandidates_of_length_le {v : Verdict} {limit : Nat} (h : v.records.length ≤ limit) :
    v.shownCandidates limit = v.candidates := by
  unfold Verdict.shownCandidates Verdict.candidates
  rw [List.take_of_length_le h]

/-- The refreshes of a run. -/
def refreshes (steps : List LookupStep) : List Refresh :=
  steps.filterMap fun
    | .feed _ => none
    | .refresh r => some r

/-- **No refresh is refused as long as the reference limit of every refresh is at least the number
of backups that any action has.**  The refresh has to build, and the digests of the run must not
collide; a limit that was once too small can be too small for good, since the list it cut is
stored. -/
theorem refresh_accepted (steps : List LookupStep) (hfree : CollisionFree (fedHits (fedCalls steps))) (r : Refresh)
    (hlimit : ∀ r' ∈ r :: refreshes steps, ∀ key,
      ((LookupState.run {} steps).ledger.records key).length ≤ r'.limit.toNat)
    (docs : Dict Str Obj)
    (hbuild : (LookupState.run {} steps).ledger.build r.synced r.coverage r.generation r.limit = .ok docs) :
    ((LookupState.run {} steps).refresh r).2.isOk = true := by
  refine (refresh_accepted_iff steps hfree r docs hbuild).mpr fun text old d hold hd => ?_
  obtain ⟨key, rfl, -, hshown⟩ := shown_of_build hbuild hd
  obtain ⟨v, limit, built, w, limit', acted, hbuilt, -, hkept⟩ := run_recorded steps key old hold
  obtain ⟨dropped, hdrops, hiff⟩ := dropsAudited_of hkept hbuilt.shown hshown
  have hkeeps : dropped ≠ true := fun htrue => by
    obtain ⟨-, -, hmissing⟩ := hiff.mp htrue
    refine hmissing ⟨?_, ?_⟩
    · -- the stored document was built from fewer records, by a refresh of the run
      obtain ⟨⟨pre, r', later, rfl, rfl, rfl⟩, -⟩ := hbuilt
      refine shownCandidates_of_length_le (le_trans ?_ (hlimit r' (by simp [refreshes]) key))
      rw [verdict_records, LookupState.run_marks, LookupState.run_marks, fedCalls_append, fedHits_append, hitMarks_append]
      exact records_length_le _ _ key
    · rw [shownCandidates_of_length_le (by rw [verdict_records]; exact hlimit r List.mem_cons_self key)]
      obtain ⟨pre, later, synced, coverage, hhits, hv⟩ := hbuilt.grown
      rw [hv, LookupState.run_marks, verdict_candidates, verdict_candidates, hhits]
      exact candidatesOf_subset (hhits ▸ hfree) key
  rw [hdrops, Bool.eq_false_iff.mpr hkeeps]

omit [Unicode] [Hashlib] in
theorem records_length_le_of {b : Builder} {n : Nat} (h : ∀ p ∈ b.evidence, p.2.length ≤ n) (key : ActionKey) :
    (b.records key).length ≤ n := by
  unfold Builder.records Dict.values
  rw [List.length_map]
  cases hget : Dict.get? b.evidence key with
  | none => exact Nat.zero_le n
  | some records => exact h _ (Dict.mem_of_get? hget)

/-! ## 5. What stays unpublished

A document that withholds its names was built by some refresh, and its ledger has grown since; so
what withholds them is still there. -/

omit [Unicode] [Hashlib] in
/-- A kept document publishes what it was built with, and withholds it for the same reasons. -/
theorem Kept.publishes {built acted d : Obj} (h : Kept built acted d) (hpub : Publishes d) : Publishes built := by
  obtain ⟨field, hfield, name, hname, hne⟩ := hpub
  refine ⟨field, hfield, name, ?_, hne⟩
  rw [← h.rest field (by
    simp only [List.mem_cons, List.not_mem_nil, or_false] at hfield
    rcases hfield with rfl | rfl | rfl <;> decide)]
  exact hname

omit [Unicode] [Hashlib] in
theorem Kept.withheld {built acted d : Obj} (h : Kept built acted d) (hwithheld : WithheldForGood d) :
    WithheldForGood built := by
  unfold WithheldForGood shownReasons at hwithheld ⊢
  rwa [← h.rest "mapping_status" (by decide), ← h.rest "reason" (by decide)]

/-- What a refresh of the run withheld for good is not published from the ledger of the run. -/
theorem BuiltIn.withheld {steps : List LookupStep} (hfree : CollisionFree (fedHits (fedCalls steps))) {key : ActionKey}
    {v : Verdict} {limit : Nat} {built : Obj} (h : BuiltIn steps key v limit built) (hwithheld : WithheldForGood built)
    (synced : Datetime) (coverage : Option Coverage) :
    ((LookupState.run {} steps).ledger.verdict key synced coverage).published = none := by
  obtain ⟨pre, later, synced', coverage', hhits, hv⟩ := h.grown
  have hshown := h.shown
  rw [hv] at hshown
  rw [LookupState.run_marks, hhits]
  exact published_later (hhits ▸ hfree) hshown hwithheld

/-- Nor was it published by that refresh. -/
theorem BuiltIn.unpublished {steps : List LookupStep} (hfree : CollisionFree (fedHits (fedCalls steps))) {key : ActionKey}
    {v : Verdict} {limit : Nat} {built : Obj} (h : BuiltIn steps key v limit built) (hwithheld : WithheldForGood built) :
    v.published = none := by
  obtain ⟨pre, later, synced, coverage, hhits, hv⟩ := h.grown
  have hshown := h.shown
  rw [hv] at hshown
  have hnone : ((({} : Builder).marks (hitMarks (pre ++ []))).verdict key synced coverage).published = none := by
    refine published_later ?_ hshown hwithheld
    rw [List.append_nil]
    exact (hhits ▸ hfree).of_append
  rwa [List.append_nil, ← hv] at hnone

/-- **Names that were withheld for good when a document was stored are never stored later**,
whatever is fed in between and whichever refreshes are accepted.  It says nothing of names that
were only pending. -/
theorem withheld_stays_unpublished (pre later : List LookupStep)
    (hfree : CollisionFree (fedHits (fedCalls (pre ++ later)))) (key : ActionKey) (old new : Obj)
    (hold : Dict.get? (LookupState.run {} pre).store.documents key.text = some old) (hwithheld : WithheldForGood old)
    (hnew : Dict.get? (LookupState.run {} (pre ++ later)).store.documents key.text = some new) :
    ¬ Publishes new := by
  obtain ⟨v, limit, built, w, limit', acted, hbuilt, -, hkept⟩ := run_recorded pre key old hold
  have hwithheld' := hkept.withheld hwithheld
  induction later using List.reverseRecOn generalizing new with
  | nil =>
    rw [List.append_nil] at hfree hnew
    obtain rfl : old = new := Option.some.inj (hold.symm.trans hnew)
    intro hpub
    obtain ⟨names, hnames⟩ := hbuilt.shown.published (hkept.publishes hpub)
    rw [hbuilt.unpublished hfree hwithheld'] at hnames
    cases hnames
  | append_singleton later x ih =>
    rw [← List.append_assoc] at hfree hnew
    rw [LookupState.run_concat] at hnew
    have hfree' : CollisionFree (fedHits (fedCalls (pre ++ later))) := by
      rw [fedCalls_append, fedHits_append] at hfree
      exact hfree.of_append
    cases x with
    | feed call => exact ih hfree' new hnew
    | refresh r =>
      rcases refresh_get? (LookupState.run {} (pre ++ later)) r key.text with
        hsame | ⟨key', incoming, d, htext, hd, hshown, hstored⟩
      · exact ih hfree' new (hsame ▸ hnew)
      · obtain rfl : d = new := Option.some.inj (hd.symm.trans hnew)
        obtain rfl := Builder.text_injective htext
        have hpublishes : Publishes d → Publishes incoming := by
          rcases hstored with hkept' | ⟨old', hold', hkept'⟩
          · exact hkept'.publishes
          · obtain ⟨_, _, built', _, _, acted', -, -, hbefore⟩ :=
              run_recorded (pre ++ later) key old' (get?_of_storedDocument hold')
            exact (hkept' built' acted' hbefore).publishes
        intro hpub
        obtain ⟨names, hnames⟩ := hshown.published (hpublishes hpub)
        rw [hbuilt.later.withheld hfree' hwithheld' r.synced] at hnames
        cases hnames

/-! ## 6. A rebuild from part of the input

The rebuilt ledger knows less and would publish more.  It does not get past the store, which has
the counts. -/

theorem CollisionFree.of_subset {hits part : List LookupHit} (h : CollisionFree hits) (hsub : part ⊆ hits) :
    CollisionFree part := by
  have hitems : ∀ e ∈ part.flatMap LookupHit.items, e ∈ hits.flatMap LookupHit.items := by
    intro e he
    obtain ⟨hit, hhit, he⟩ := List.mem_flatMap.mp he
    exact List.mem_flatMap.mpr ⟨hit, hsub hhit, he⟩
  exact ⟨h.length, fun a ha b hb => h.injective a (hitems a ha) b (hitems b hb)⟩

/-- A ledger from part of the input has no other candidates. -/
theorem candidatesOf_part {hits part : List LookupHit} (hfree : CollisionFree hits) (hsub : part ⊆ hits) (key : ActionKey) :
    (({} : Builder).marks (hitMarks part)).candidatesOf key ⊆ (({} : Builder).marks (hitMarks hits)).candidatesOf key := by
  intro c hc
  obtain ⟨fp, e, hm, hkey, hcand⟩ := (mem_candidatesOf (hfree.of_subset hsub)).mp hc
  obtain ⟨hit, hhit, hm⟩ := mem_hitMarks.mp hm
  exact (mem_candidatesOf hfree).mpr ⟨fp, e, mem_hitMarks.mpr ⟨hit, hsub hhit, hm⟩, hkey, hcand⟩

/-- The names a document publishes are those of the only candidate, and there is only one.  A
document that publishes nothing has no such names. -/
def NamesSole (b : Builder) (key : ActionKey) (d : Obj) : Prop :=
  ∃ policy workflow group, b.candidatesOf key = {[policy, workflow, group]} ∧
    Dict.get? d "policy_name" = some (.str policy) ∧ Dict.get? d "workflow_name" = some (.str workflow) ∧
    Dict.get? d "protection_group" = some (.str group)

/-- A document that was built and then kept publishes the only candidate of its ledger. -/
theorem namesSole_of_kept {hits : List LookupHit} {key : ActionKey} {synced : Datetime} {coverage : Option Coverage}
    {limit : Nat} {built acted d : Obj}
    (hshown : ((({} : Builder).marks (hitMarks hits)).verdict key synced coverage).Shown key limit built)
    (hkept : Kept built acted d) (hpub : Publishes d) : NamesSole (({} : Builder).marks (hitMarks hits)) key d := by
  obtain ⟨names, hnames⟩ := hshown.published (hkept.publishes hpub)
  obtain ⟨-, -, hsole⟩ := published_eq_some hnames
  rw [verdict_candidates] at hsole
  obtain ⟨policy, workflow, group, rfl, -⟩ := candidate_filled (hsole ▸ Finset.mem_singleton_self names)
  refine ⟨policy, workflow, group, hsole, ?_, ?_, ?_⟩
  · rw [hkept.rest "policy_name" (by decide), hshown.policyName, hnames]
    rfl
  · rw [hkept.rest "workflow_name" (by decide), hshown.workflowName, hnames]
    rfl
  · rw [hkept.rest "protection_group" (by decide), hshown.groupName, hnames]
    rfl

omit [Unicode] [Hashlib] in
theorem exists_kept {documents : Dict Str Obj} {key : Str} {incoming new : Obj}
    (h : replacementOf documents key incoming = .ok new) : ∃ acted, Kept incoming acted new := by
  rcases kept_of_replacement h with hkept | ⟨old, -, hkept⟩
  · exact ⟨incoming, hkept⟩
  · exact ⟨old, hkept old old (Kept.refl old)⟩

/-- What an accepted refresh leaves under a key of its ledger. -/
theorem refresh_accepted_get? {s : LookupState} {r : Refresh} (hok : (s.refresh r).2.isOk = true) {key : ActionKey}
    (hkey : key ∈ s.ledger.keys) : ∃ incoming acted new, Dict.get? (s.refresh r).1.documents key.text = some new ∧
      (s.ledger.verdict key r.synced (Builder.attestationOf r.coverage key)).Shown key r.limit.toNat incoming ∧
      Kept incoming acted new := by
  cases hbuild : s.ledger.build r.synced r.coverage r.generation r.limit with
  | error e =>
    rw [refresh_raised hbuild] at hok
    cases hok
  | ok docs =>
    rw [refresh_eq hbuild] at hok ⊢
    rcases commit_cases s.store ⟨Batch.ofBuild hbuild, s.store.version, r.checkpoint⟩ with
      ⟨e, he⟩ | ⟨documents, -, hreplacement, hcommit⟩
    · rw [he] at hok
      cases hok
    · obtain ⟨incoming, hin, hdoc⟩ := (Builder.build_eq_ok hbuild key).2.1 hkey
      obtain ⟨new, hnew, hkept⟩ := (Batch.get?_replacement hreplacement key.text).2 incoming hin
      obtain ⟨acted, hkept⟩ := exists_kept hkept
      rw [hcommit]
      exact ⟨incoming, acted, new, hnew, document_shown hdoc, hkept⟩

/-- A refresh from part of the input publishes over a document of the whole input what the whole
input publishes there: the store compares the counts of the candidates. -/
theorem refresh_part {hits part : List LookupHit} (hfree : CollisionFree hits) (hpart : part ⊆ hits) {s : LookupState}
    (hledger : s.ledger = ({} : Builder).marks (hitMarks part)) {key : ActionKey} {synced : Datetime}
    {coverage : Option Coverage} {limit : Nat} {built acted stored d : Obj}
    (hshown : ((({} : Builder).marks (hitMarks hits)).verdict key synced coverage).Shown key limit built)
    (hkept : Kept built acted stored) (hstored : Dict.get? s.store.documents key.text = some stored) (r : Refresh)
    (hd : Dict.get? (s.refresh r).1.documents key.text = some d) (hpub : Publishes d) :
    NamesSole (({} : Builder).marks (hitMarks hits)) key d := by
  have hunchanged : Dict.get? (s.refresh r).1.documents key.text = Dict.get? s.store.documents key.text →
      NamesSole (({} : Builder).marks (hitMarks hits)) key d := fun hsame => by
    obtain rfl : stored = d := Option.some.inj (hstored.symm.trans (hsame.symm.trans hd))
    exact namesSole_of_kept hshown hkept hpub
  cases hbuild : s.ledger.build r.synced r.coverage r.generation r.limit with
  | error e => exact hunchanged (by rw [refresh_raised hbuild])
  | ok docs =>
    rw [refresh_eq hbuild] at hd hunchanged
    rcases commit_cases s.store ⟨Batch.ofBuild hbuild, s.store.version, r.checkpoint⟩ with
      ⟨e, he⟩ | ⟨documents, -, hreplacement, hcommit⟩
    · exact hunchanged (by rw [he])
    · rw [hcommit] at hd hunchanged
      obtain ⟨hout, hin⟩ := Batch.get?_replacement hreplacement key.text
      cases hget : Dict.get? docs key.text with
      | none => exact hunchanged (hout hget)
      | some incoming =>
        obtain ⟨new, hnew, hreplaced⟩ := hin incoming hget
        obtain rfl : new = d := Option.some.inj (hnew.symm.trans hd)
        obtain ⟨acted', hkept'⟩ := exists_kept hreplaced
        have hshown' := document_shown (Builder.document_of_build hbuild hget).2
        rw [hledger] at hshown'
        obtain ⟨policy, workflow, group, hsole, hnames⟩ := namesSole_of_kept hshown' hkept' hpub
        refine ⟨policy, workflow, group, ?_, hnames⟩
        have haccepted := Batch.replacement_eq_ok hreplacement key.text
        have hentries : Dict.get? (Batch.ofBuild hbuild).entries key.text = some incoming := hget
        rw [hentries] at haccepted
        obtain ⟨_, -, haccepted⟩ := haccepted
        have hrunKey := (hkept.rest "action_run_key" (by decide)).trans hshown.runKey
        obtain ⟨n, m, hn, hm, hle⟩ := (haccepted.continues stored (storedDocument_of_field hstored hrunKey)).count
        rw [hkept.count hshown, verdict_candidates] at hn
        rw [candidateCount_of_int hshown'.count, verdict_candidates, hsole] at hm
        rw [← Except.ok.inj hn, ← Except.ok.inj hm, Finset.card_singleton] at hle
        have hsub := candidatesOf_part hfree hpart key
        rw [hsole] at hsub
        exact (Finset.eq_of_subset_of_card_le hsub (by rw [Finset.card_singleton]; exact_mod_cast hle)).symm

/-- **A rebuild publishes the sole candidate or nothing.**  After a refresh from the whole input, a
rebuild from part of it, refused or accepted, leaves no names in the store but those of the only
candidate that the whole input has for the key.  The store may have held anything before; keys that
the whole input does not document are not covered. -/
theorem rebuild_publishes_sole (s : InMemoryLookupStore) (calls part : List LookupCall)
    (hpart : fedHits part ⊆ fedHits calls) (hfree : CollisionFree (fedHits calls)) (r r' : Refresh)
    (whole rebuilt : LookupState) (hwhole : whole = ⟨Builder.run {} calls, s⟩)
    (hok : (whole.refresh r).2.isOk = true) (hrebuilt : rebuilt = ⟨Builder.run {} part, (whole.refresh r).1⟩)
    (key : ActionKey) (hkey : key ∈ whole.ledger.keys) (d : Obj)
    (hd : Dict.get? (rebuilt.refresh r').1.documents key.text = some d) (hpub : Publishes d) :
    NamesSole whole.ledger key d := by
  obtain ⟨incoming, acted, stored, hstored, hshown, hkept⟩ := refresh_accepted_get? hok hkey
  have hledger : whole.ledger = ({} : Builder).marks (hitMarks (fedHits calls)) := by
    rw [hwhole, ← run_eq]
  have hledger' : rebuilt.ledger = ({} : Builder).marks (hitMarks (fedHits part)) := by
    rw [hrebuilt, ← run_eq]
  rw [hledger] at hshown ⊢
  refine refresh_part hfree hpart hledger' hshown hkept ?_ r' hd hpub
  rw [hrebuilt]
  exact hstored

end Runs

/-! ## 7. Three refreshes

A limit of one and three candidates: the refresh that is refused, and the one with room that is
not. -/

section Examples

attribute [local instance] Unicode.ascii Hashlib.hashlib

/-- A refresh on the first of January 2026, at the given hour. -/
def refreshAt (hour : Nat) (h : hour < 24) (coverage : List Coverage) (limit : Int) : Refresh :=
  ⟨hourOf hour h, coverage, "g", limit, ⟨"cursor", "generation"⟩⟩

def bronzeRaw : Json := rawHit "r3" "2026-01-01T03:30:00+00:00" [backupOf "b3" "Bronze" "Servers"]

/-- A third candidate arrives after a refresh whose audit list shows one of two. -/
def cutSteps (r : Refresh) : List LookupStep := [
  .feed (.addRaw [rawHit "r1" "2026-01-01T03:00:00+00:00" [backupOf "b1" "Gold" "Servers", backupOf "b2" "Silver" "Servers"]]),
  .refresh r,
  .feed (.addRaw [bronzeRaw])]

/-- Its documents are built, whatever they show. -/
theorem isOk_build_cut (r : Refresh) {limit : Int} (hlimit : 1 ≤ limit) :
    ((LookupState.run {} (cutSteps r)).ledger.build (hourOf 5 (by decide)) [] "g" limit).isOk = true := by
  have hcalls : fedCalls (cutSteps r) = [
      .addRaw [rawHit "r1" "2026-01-01T03:00:00+00:00" [backupOf "b1" "Gold" "Servers", backupOf "b2" "Silver" "Servers"]],
      .addRaw [bronzeRaw]] := rfl
  rw [LookupState.run_ledger, hcalls]
  exact Builder.isOk_build rfl (by decide +kernel) hlimit (by decide +kernel)

theorem collisionFree_cut (r : Refresh) : CollisionFree (fedHits (fedCalls (cutSteps r))) := by
  refine ⟨Sha256.length_hexdigest, ?_⟩
  change ∀ a ∈ (fedHits [_, _]).flatMap LookupHit.items, ∀ b ∈ (fedHits [_, _]).flatMap LookupHit.items, _
  decide +kernel

/-- The next refresh is refused, as the audit list says. -/
theorem refresh_accepted_iff_cut : ∃ docs,
    (LookupState.run {} (cutSteps (refreshAt 4 (by decide) [] 1))).ledger.build (hourOf 5 (by decide)) [] "g" 1 = .ok docs ∧
    (((LookupState.run {} (cutSteps (refreshAt 4 (by decide) [] 1))).refresh (refreshAt 5 (by decide) [] 1)).2.isOk = true ↔
      ∀ text old d,
        Dict.get? (LookupState.run {} (cutSteps (refreshAt 4 (by decide) [] 1))).store.documents text = some old →
        Dict.get? docs text = some d → dropsAudited old d = .ok false) ∧
    ((LookupState.run {} (cutSteps (refreshAt 4 (by decide) [] 1))).refresh (refreshAt 5 (by decide) [] 1)).2.isOk = false := by
  obtain ⟨docs, hbuild⟩ := ok_of_isOk (isOk_build_cut (refreshAt 4 (by decide) [] 1) (le_refl 1))
  exact ⟨docs, hbuild, refresh_accepted_iff _ (collisionFree_cut _) (refreshAt 5 (by decide) [] 1) docs hbuild,
    by decide +kernel⟩

/-- With room for all three it is not. -/
theorem refresh_accepted_cut :
    ((LookupState.run {} (cutSteps (refreshAt 4 (by decide) [] 3))).refresh (refreshAt 5 (by decide) [] 3)).2.isOk = true := by
  obtain ⟨docs, hbuild⟩ := ok_of_isOk (isOk_build_cut (refreshAt 4 (by decide) [] 3) (show (1 : Int) ≤ 3 by decide))
  have hrecords : ∀ p ∈ (LookupState.run {} (cutSteps (refreshAt 4 (by decide) [] 3))).ledger.evidence, p.2.length ≤ 3 := by
    decide +kernel
  refine refresh_accepted _ (collisionFree_cut _) (refreshAt 5 (by decide) [] 3) (fun r' hr' key => ?_) docs hbuild
  have hlimit : r'.limit = 3 := by
    simp only [cutSteps, refreshes, List.filterMap_cons, List.filterMap_nil, List.mem_cons, List.not_mem_nil, or_false] at hr'
    rcases hr' with rfl | rfl <;> rfl
  rw [hlimit]
  exact records_length_le_of hrecords key

/-- A document that the store holds. -/
theorem exists_stored (s : InMemoryLookupStore) (text : Str) (p : Obj → Bool)
    (h : (Dict.get? s.documents text).any p = true) : ∃ d, Dict.get? s.documents text = some d ∧ p d = true := by
  rwa [Option.any_eq_true] at h

/-- A groupless backup of the action 7 is read before a refresh. -/
def grouplessSteps (r : Refresh) : List LookupStep := [.feed (.addRaw [grouplessRaw]), .refresh r]

/-- A good one is, and its jobs. -/
def goldSteps (r : Refresh) : List LookupStep := [.feed (.addRaw [goldRaw]), .feed (.addJobs goldJobs), .refresh r]

/-- The action 7 of a groupless backup stays unpublished. -/
theorem withheld_stays_unpublished_groupless : ∃ new,
    Dict.get? (LookupState.run {} (grouplessSteps (refreshAt 4 (by decide) [goldCoverage] 20) ++
      goldSteps (refreshAt 5 (by decide) [goldCoverage] 20))).store.documents (lit "core:7") = some new ∧
    ¬ Publishes new := by
  obtain ⟨old, hold, hreason⟩ := exists_stored
    (LookupState.run {} (grouplessSteps (refreshAt 4 (by decide) [goldCoverage] 20))).store (lit "core:7")
    (fun d => decide (lit "invalid_backup_evidence" ∈ shownReasons d)) (by decide +kernel)
  obtain ⟨new, hnew, -⟩ := exists_stored
    (LookupState.run {} (grouplessSteps (refreshAt 4 (by decide) [goldCoverage] 20) ++
      goldSteps (refreshAt 5 (by decide) [goldCoverage] 20))).store (lit "core:7") (fun _ => true) (by decide +kernel)
  have hfree : CollisionFree (fedHits (fedCalls (grouplessSteps (refreshAt 4 (by decide) [goldCoverage] 20) ++
      goldSteps (refreshAt 5 (by decide) [goldCoverage] 20)))) := CollisionFree.of_length_le_one (by decide +kernel)
  exact ⟨new, hnew, withheld_stays_unpublished _ _ hfree (⟨"core", core_known⟩, "7") old new hold
    (Or.inr ⟨_, by decide, of_decide_eq_true hreason⟩) hnew⟩

/-- The whole input of the action 7. -/
def wholeLedger : LookupState := ⟨Builder.run {} [.addRaw [grouplessRaw, goldRaw], .addJobs goldJobs], {}⟩

/-- A rebuild that has lost the groupless backup. -/
def rebuiltLedger (r : Refresh) : LookupState := ⟨Builder.run {} goldCalls, (wholeLedger.refresh r).1⟩

/-- It publishes what only the good one names. -/
theorem rebuild_publishes_sole_gold : ∃ d, Publishes d ∧ NamesSole wholeLedger.ledger (⟨"core", core_known⟩, "7") d := by
  obtain ⟨d, hd, hgold⟩ := exists_stored
    ((rebuiltLedger (refreshAt 4 (by decide) [goldCoverage] 20)).refresh (refreshAt 5 (by decide) [goldCoverage] 20)).1
    (lit "core:7") namesGold (by decide +kernel)
  have hpart : fedHits goldCalls ⊆ fedHits [.addRaw [grouplessRaw, goldRaw], .addJobs goldJobs] := by
    have hread : (rawMarks grouplessRaw).err = none ∧ (rawMarks goldRaw).err = none := by decide +kernel
    simp [fedHits, goldCalls, LookupCall.fed, Gen.reached_of_ok, hread]
  have hfree : CollisionFree (fedHits [.addRaw [grouplessRaw, goldRaw], .addJobs goldJobs]) :=
    CollisionFree.of_length_le_one (by decide +kernel)
  have hkey : ((⟨"core", core_known⟩, "7") : ActionKey) ∈ wholeLedger.ledger.keys := by decide +kernel
  have hok : (wholeLedger.refresh (refreshAt 4 (by decide) [goldCoverage] 20)).2.isOk = true := by decide +kernel
  have hfour : 4 < 24 := by decide
  have hfive : 5 < 24 := by decide
  generalize refreshAt 4 hfour [goldCoverage] 20 = r at hd hok
  generalize refreshAt 5 hfive [goldCoverage] 20 = r' at hd
  have hpub := publishes_of_namesGold hgold
  exact ⟨d, hpub, rebuild_publishes_sole {} [.addRaw [grouplessRaw, goldRaw], .addJobs goldJobs] goldCalls hpart hfree r r'
    wholeLedger (rebuiltLedger r) rfl hok rfl _ hkey d hd hpub⟩

end Examples

end BackupCollector
