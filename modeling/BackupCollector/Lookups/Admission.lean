/-
# What a ledger offers the store

A commit checks every document of its batch, and `Commit` reads off what a call that succeeded has
passed.  Here is the other direction, for the documents that a LEDGER builds: they stand under
their own keys, their ids are ids, they have every field that is read, and they name a relation
exactly when they are verified.  So the checks of a document against itself never fail, and nothing
raises on the way.  Nothing but what is stored already can make the store refuse them.

What remains are the checks against the stored document, and they are turned into questions about
the ledger here:

* does the candidate set shrink, or change at the same size?  A ledger only grows, so this is
  settled elsewhere;
* was a candidate dropped from the audit list?  The lists are cut at a limit, so this one can
  really happen;
* is an execution replaced by another one, or a terminal status by a running one?

`commit_isOk_iff` puts the parts together: a call against the current version succeeds exactly when
its batch is written.  `Refresh` answers the questions along a run.

A stored document need not be the one that was built: a blocked one keeps the execution of the
document before it.  `Kept` is what survives this, and the induction over refreshes needs no more.
-/
import BackupCollector.Lookups.StoreLaws
import BackupCollector.Lookups.Publication
import BackupCollector.Lookups.Revisions
import BackupCollector.Py.Requests

namespace BackupCollector

open Py

/-! ## 1. The ids of a ledger

The ids of a ledger have been read by `positive_id`, so reading them again gives them back. -/

/-- An id that is read again is read as it is spelled. -/
theorem positiveIdText_again {value text : Str} (h : positiveIdText value = some text) :
    positiveIdText text = some text := by
  unfold positiveIdText at h ⊢
  dsimp only at h ⊢
  split at h
  · rename_i hdecimal
    obtain rfl := Option.some.inj h
    rw [Str.strip_strip, if_pos hdecimal]
  · cases h

theorem positiveId_again {value : Json} {text : Str} (h : positiveId value = .ok (some text)) :
    positiveIdText text = some text := by
  cases value with
  | str s => exact positiveIdText_again (Except.ok.inj h)
  | int n =>
    unfold positiveId at h
    dsimp only at h
    split at h
    · cases h
    · exact positiveIdText_again (Except.ok.inj h)
  | _ => cases h

theorem entryActionId_again {entry : Json} {text : Str} (h : entryActionId entry = some text) :
    positiveIdText text = some text := by
  cases entry with
  | obj b =>
    obtain ⟨value, -, hvalue⟩ := Option.bind_eq_some_iff.mp h
    exact positiveIdText_again hvalue
  | _ => cases h

section Ledger

variable [Unicode]

/-- The ids a job was read with. -/
theorem readJob_ids {hit : Json} {j : Job} (h : readJob hit = .ok j) :
    positiveIdText j.identity = some j.identity ∧ ∀ parent, j.parent = some parent → positiveIdText parent = some parent := by
  unfold readJob at h
  obtain ⟨⟨document, reference⟩, -, h⟩ := bind_eq_ok.mp h
  obtain ⟨source, -, h⟩ := bind_eq_ok.mp h
  split at h
  · split at h
    · cases h
    · obtain ⟨id?, hid, h⟩ := bind_eq_ok.mp h
      cases id? with
      | none => cases h
      | some identity =>
        dsimp only at h
        split at h
        · obtain ⟨parent?, hparent, h⟩ := bind_eq_ok.mp h
          obtain ⟨root?, -, h⟩ := bind_eq_ok.mp h
          obtain rfl := Except.ok.inj h
          refine ⟨positiveId_again hid, fun parent hp => ?_⟩
          dsimp only at hp
          exact positiveId_again (hp ▸ hparent)
        · cases h
  · cases h

/-- The action an item of a hit is for. -/
theorem LookupHit.item_id {h : LookupHit} {e : Evidence} (he : e ∈ h.items) :
    positiveIdText e.actionId = some e.actionId := by
  cases h with
  | raw hit =>
    cases hx : extractRaw hit with
    | error err =>
      unfold LookupHit.items at he
      dsimp only at he
      rw [hx] at he
      cases he
    | ok x =>
      rw [LookupHit.items_raw hx] at he
      cases hs : rawSource hit with
      | none =>
        obtain ⟨i, hi, -⟩ := extractRaw_unattributed hs
        obtain rfl := Except.ok.inj (hx.symm.trans hi)
        cases he
      | some source =>
        obtain ⟨-, -, entry, -, hentry⟩ := (extractRaw_attributed hs hx).evidence e he
        exact entryActionId_again hentry
  | job hit => cases he

omit [Unicode] in
/-- The action an issue of an entry is for. -/
theorem extractEntries_ids {document reference : Obj} {source : Source} {response : List Json} {i : Issue}
    (hi : i ∈ (extractEntries document reference source response).issues) {actionId : Str}
    (haction : i.actionId = some actionId) : positiveIdText actionId = some actionId := by
  unfold extractEntries at hi
  rw [(Extraction.foldl_append _ {}).2.1, List.nil_append, List.flatMap_map] at hi
  obtain ⟨entry, -, hi⟩ := List.mem_flatMap.mp hi
  have hcase := extractBackup_cases entry.1 source (entryReference document reference entry.2)
    (timestamp (Obj.get document "@timestamp"))
  generalize extractBackup entry.1 source _ _ = part at hcase hi
  cases hcase with
  | evidence => cases hi
  | invalid i' actionId' hid _ hnamed =>
    obtain rfl := List.mem_singleton.mp hi
    obtain rfl := Option.some.inj (hnamed.symm.trans haction)
    exact entryActionId_again hid
  | unnamed i' _ _ hnone =>
    obtain rfl := List.mem_singleton.mp hi
    rw [hnone] at haction
    cases haction

/-- The action an issue of a hit is for. -/
theorem extractRaw_ids {hit : Json} {x : Extraction} (hx : extractRaw hit = .ok x) {i : Issue} (hi : i ∈ x.issues)
    {source : Source} (hsource : i.source = some source) {actionId : Str} (haction : i.actionId = some actionId) :
    positiveIdText actionId = some actionId := by
  cases hs : rawSource hit with
  | none =>
    obtain ⟨i', hi', hnone, -⟩ := extractRaw_unattributed hs
    obtain rfl := Except.ok.inj (hx.symm.trans hi')
    obtain rfl := List.mem_singleton.mp hi
    rw [hnone] at hsource
    cases hsource
  | some s =>
    obtain ⟨document, reference, hu, hstated⟩ := rawSource_eq_some hs
    by_cases hp : ∃ payload, Obj.get document "payload" = .obj payload
    · obtain ⟨payload, hp⟩ := hp
      rw [extractRaw_payload hu hstated hp] at hx
      obtain ⟨partialFound, -, rfl⟩ := map_eq_ok.mp hx
      rcases List.mem_append.mp hi with hi | hi
      · cases partialFound with
        | false => cases hi
        | true =>
          obtain rfl := List.mem_singleton.mp hi
          cases haction
      · cases hr : backupResponse payload with
        | none =>
          rw [hr] at hi
          obtain rfl := List.mem_singleton.mp hi
          cases haction
        | some response =>
          rw [hr] at hi
          exact extractEntries_ids hi haction
    · obtain ⟨heq, -⟩ := extractRaw_noPayload hu hstated fun payload h => hp ⟨payload, h⟩
      rw [heq] at hx
      obtain rfl := Except.ok.inj hx
      obtain rfl := List.mem_singleton.mp hi
      cases haction

variable [Hashlib]

/-- Every key of a ledger has an id. -/
theorem keys_ids {hits : List LookupHit} {key : ActionKey} (h : key ∈ (({} : Builder).marks (hitMarks hits)).keys) :
    positiveIdText key.2 = some key.2 := by
  rcases (Builder.mem_keys _ _).mp h with h | ⟨r, h⟩ | ⟨j, hj, -⟩ | ⟨k, -, j, hj, -, hparent⟩
  · obtain ⟨e, he⟩ := List.exists_mem_of_ne_nil _ h
    obtain ⟨fp, hm, rfl⟩ := mem_records he
    obtain ⟨hit, -, hin⟩ := List.mem_flatMap.mp (evidence_of_hitMarks hm).1
    exact LookupHit.item_id hin
  · rcases given_or_clash h with hm | ⟨-, backupId, fp, fp', actionId, hm, -⟩
    · obtain ⟨hit, -, hm⟩ := mem_hitMarks.mp hm
      cases LookupHit.markOf hm with
      | invalid hit x hx i hi source hsource actionId haction => exact extractRaw_ids hx hi hsource haction
      | unidentified hit e he => exact LookupHit.item_id he
    · obtain ⟨hit, -, hm⟩ := mem_hitMarks.mp hm
      obtain ⟨source, actionId⟩ := key
      cases LookupHit.markOf hm with
      | identity hit e he => exact LookupHit.item_id he
  · obtain ⟨j', hm, rfl, -⟩ := (Builder.mem_copies_core _ key j.core).mp ⟨j, hj, rfl⟩
    obtain ⟨hit, -, hm⟩ := mem_hitMarks.mp hm
    cases LookupHit.markOf hm with
    | copy hit _ hjob => exact (readJob_ids hjob).1
  · obtain ⟨j', hm, -, hcore⟩ := (Builder.mem_copies_core _ k j.core).mp ⟨j, hj, rfl⟩
    have hparent' : j'.core.parent = j.core.parent := by rw [hcore]
    obtain ⟨hit, -, hm⟩ := mem_hitMarks.mp hm
    cases LookupHit.markOf hm with
    | copy hit _ hjob => exact (readJob_ids hjob).2 _ (hparent'.trans hparent)

end Ledger

/-! ## 2. A document against itself

The checks that do not look at the store.  None of them can fail for a document of a ledger. -/

section Documents

theorem refuse_of_false {reason : Str} {c : Bool} (h : c = false) : refuse reason c = .ok () := refuse_eq_ok.mpr h

variable [Unicode] [Hashlib]

omit [Hashlib] in
theorem verdict_action (b : Builder) (key : ActionKey) (synced : Datetime) (coverage : Option Coverage) :
    (b.verdict key synced coverage).action = (selectJob (b.jobs.copies key)).1 := by
  have haction : (executionCheck key b.jobs).1 = (selectJob (b.jobs.copies key)).1 := by
    unfold executionCheck
    cases selectJob (b.jobs.copies key) with
    | mk action reasons => cases action <;> rfl
  rw [← haction]
  unfold Builder.verdict
  cases executionCheck key b.jobs
  rfl

/-- A candidate of a ledger names all three parts of a relation. -/
theorem candidate_filled {hits : List LookupHit} {key : ActionKey} {c : Candidate}
    (hc : c ∈ (({} : Builder).marks (hitMarks hits)).candidatesOf key) :
    ∃ policy workflow group, c = [policy, workflow, group] ∧ policy ≠ [] ∧ workflow ≠ [] ∧ group ≠ [] := by
  unfold Builder.candidatesOf at hc
  rw [List.mem_toFinset, List.mem_map] at hc
  obtain ⟨e, he, rfl⟩ := hc
  obtain ⟨fp, hm, -⟩ := mem_records he
  obtain ⟨hit, -, hin⟩ := List.mem_flatMap.mp (evidence_of_hitMarks hm).1
  have hnamed := LookupHit.named hin
  exact ⟨_, _, _, rfl, (normalizeName_eq_ok hnamed.policy).2, (normalizeName_eq_ok hnamed.workflow).2,
    (normalizeName_eq_ok hnamed.group).2⟩

/-- A document stands under the key its source and its id spell. -/
theorem checkIdentity_of_shown {v : Verdict} {key : ActionKey} {limit : Nat} {d : Obj} (h : v.Shown key limit d)
    (hid : positiveIdText key.2 = some key.2) : checkIdentity key.text d = .ok () := by
  unfold checkIdentity
  refine bind_eq_ok.mpr ⟨_, field_eq_ok.mpr h.source, bind_eq_ok.mpr ⟨_, validateSourceNetworker_name key.1,
    bind_eq_ok.mpr ⟨_, field_eq_ok.mpr h.runKey, bind_eq_ok.mpr ⟨(), refuse_of_false (by simp),
    bind_eq_ok.mpr ⟨_, field_eq_ok.mpr h.jobId, bind_eq_ok.mpr ⟨some key.2, ?_, bind_eq_ok.mpr ⟨(), refuse_of_false rfl,
    refuse_of_false ?_⟩⟩⟩⟩⟩⟩⟩
  · exact congrArg Except.ok hid
  · exact decide_eq_false (not_not.mpr rfl)

omit [Unicode] in
theorem isVerified_of_shown {v : Verdict} {key : ActionKey} {limit : Nat} {d : Obj} (h : v.Shown key limit d) :
    isVerified d = .ok (decide (v.mapping = lit "resolved" ∧ v.verification = lit "verified")) := by
  unfold isVerified
  refine bind_eq_ok.mpr ⟨_, field_eq_ok.mpr h.mapping, ?_⟩
  by_cases hmapping : v.mapping = lit "resolved"
  · rw [if_pos (congrArg Json.str hmapping)]
    refine bind_eq_ok.mpr ⟨_, field_eq_ok.mpr h.verification, ?_⟩
    simp only [Json.str.injEq, hmapping, true_and]
    rfl
  · rw [if_neg fun heq => hmapping (Json.str.inj heq)]
    simp only [hmapping, false_and, decide_false]
    rfl

omit [Unicode] [Hashlib] in
/-- A verdict publishes exactly when it is resolved and verified. -/
theorem published_isSome_iff {v : Verdict} :
    v.published.isSome = true ↔ v.mapping = lit "resolved" ∧ v.verification = lit "verified" := by
  constructor
  · intro h
    obtain ⟨names, hnames⟩ := Option.isSome_iff_exists.mp h
    exact ⟨(published_eq_some hnames).1, (published_eq_some hnames).2.1⟩
  · intro h
    obtain ⟨c, hc⟩ := candidates_of_resolved h.1
    have hmem : c ∈ sorted v.candidates := by simp [hc]
    unfold Verdict.published
    rw [if_pos h, List.isSome_head?]
    exact List.ne_nil_of_mem hmem

omit [Unicode] in
/-- A document names a relation exactly when it is verified, and names all of it. -/
theorem checkNames_of_shown {v : Verdict} {key : ActionKey} {limit : Nat} {d : Obj} (h : v.Shown key limit d)
    (hfilled : ∀ c ∈ v.candidates, ∃ policy workflow group,
      c = [policy, workflow, group] ∧ policy ≠ [] ∧ workflow ≠ [] ∧ group ≠ []) : checkNames d = .ok () := by
  unfold checkNames
  refine bind_eq_ok.mpr ⟨_, isVerified_of_shown h, ?_⟩
  cases hpub : v.published with
  | none =>
    have hnot : ¬ (v.mapping = lit "resolved" ∧ v.verification = lit "verified") := fun hboth => by
      rw [← published_isSome_iff, hpub] at hboth
      cases hboth
    obtain ⟨hpolicy, hworkflow, hgroup⟩ := h.unpublished hpub
    rw [decide_eq_false hnot, if_neg Bool.false_ne_true]
    refine bind_eq_ok.mpr ⟨false, ?_, refuse_of_false rfl⟩
    simp only [publicNames, anyNamed, field_eq_ok.mpr hpolicy, field_eq_ok.mpr hworkflow, field_eq_ok.mpr hgroup]
    rfl
  | some names =>
    obtain ⟨hmapping, hverification, hnames⟩ := published_eq_some hpub
    obtain ⟨policy, workflow, group, rfl, hp, hw, hg⟩ := hfilled names (by simp [hnames])
    have hcount : Dict.get? d "candidate_count" = some (.int 1) := by
      rw [h.count, hnames]
      rfl
    have hpolicy : Dict.get? d "policy_name" = some (.str policy) := by
      rw [h.policyName, hpub]
      rfl
    have hworkflow : Dict.get? d "workflow_name" = some (.str workflow) := by
      rw [h.workflowName, hpub]
      rfl
    have hgroup : Dict.get? d "protection_group" = some (.str group) := by
      rw [h.groupName, hpub]
      rfl
    rw [decide_eq_true ⟨hmapping, hverification⟩, if_pos rfl]
    refine bind_eq_ok.mpr ⟨_, field_eq_ok.mpr hcount, ?_⟩
    rw [if_pos (Json.pyEq_int.mpr rfl)]
    refine bind_eq_ok.mpr ⟨true, ?_, refuse_of_false rfl⟩
    obtain ⟨p, ps, rfl⟩ := List.exists_cons_of_ne_nil hp
    obtain ⟨w, ws, rfl⟩ := List.exists_cons_of_ne_nil hw
    obtain ⟨g, gs, rfl⟩ := List.exists_cons_of_ne_nil hg
    simp only [publicNames, allNamed, field_eq_ok.mpr hpolicy, field_eq_ok.mpr hworkflow, field_eq_ok.mpr hgroup]
    rfl

end Documents

/-! ## 3. What is kept of a document

What is stored after any number of accepted commits is a document of the ledger with an execution
that is its own or an earlier one. -/

/-- A stored document: the one that was built, with the execution of one built then or before. -/
structure Kept (built acted d : Obj) : Prop where
  rest : ∀ name ∉ lit "candidate_evidence" :: executionFields, Dict.get? d name = Dict.get? built name
  audited : auditedCandidates d = auditedCandidates built
  execution : ∀ name ∈ executionFields, Dict.get? d name = Dict.get? acted name

theorem Kept.refl (d : Obj) : Kept d d d := ⟨fun _ _ => rfl, rfl, fun _ _ => rfl⟩

/-- Filing an execution leaves the audit list of a document as it is. -/
theorem freezeExecution_audited {old incoming new : Obj} (h : freezeExecution old incoming = .ok new) :
    auditedCandidates new = auditedCandidates incoming := by
  unfold freezeExecution at h
  obtain ⟨conflicting, -, h⟩ := bind_eq_ok.mp h
  obtain ⟨v, hv, h⟩ := bind_eq_ok.mp h
  cases v with
  | obj evidence =>
    obtain ⟨execution, hexecution, h⟩ := bind_eq_ok.mp h
    obtain ⟨hkeys, -⟩ := record_eq_ok hexecution
    obtain rfl := Except.ok.inj h
    have hread : field (Dict.update (Dict.set incoming "candidate_evidence"
        (.obj (Dict.set evidence "conflicting_execution" (.obj conflicting)))) execution) "candidate_evidence" =
          .ok (.obj (Dict.set evidence "conflicting_execution" (.obj conflicting))) := by
      rw [field_eq_ok, Dict.get?_update_of_notMem (hkeys ▸ by decide), Dict.get?_set_self]
    have hitems : field (Dict.set evidence "conflicting_execution" (.obj conflicting)) "items" =
        field evidence "items" := by
      unfold field
      rw [Dict.get?_set_ne _ _ (by decide)]
    unfold auditedCandidates subscript
    rw [hread, hv]
    simp only [bind, Except.bind, hitems]
  | _ => cases h

/-- The execution of a document is kept, its own or the one it would replace. -/
theorem kept_of_replacement {documents : Dict Str Obj} {key : Str} {incoming new : Obj}
    (h : replacementOf documents key incoming = .ok new) :
    Kept incoming incoming new ∨ ∃ old, storedDocument documents key = some old ∧
      ∀ built acted, Kept built acted old → Kept incoming acted new := by
  have hstored := replacementOf_eq_ok h
  cases hstored with
  | asGiven hsame _ =>
    rw [hsame]
    exact Or.inl (Kept.refl incoming)
  | frozen old hold hblocked hfrozen =>
    refine Or.inr ⟨old, hold, fun built acted hkept => ⟨hfrozen.rest, ?_, fun name hname => ?_⟩⟩
    · unfold replacementOf at h
      rw [hold] at h
      obtain ⟨b, hb, h⟩ := bind_eq_ok.mp h
      rw [(notBlocked_eq_ok hb).mpr hblocked, if_neg Bool.false_ne_true] at h
      exact freezeExecution_audited h
    · rw [hfrozen.kept name hname]
      exact hkept.execution name hname

section Stored

variable [Hashlib] {v w u : Verdict} {key : ActionKey} {limit limit' limit'' : Nat} {built acted old d : Obj}

theorem Verdict.Shown.execution_isSome (h : v.Shown key limit d) : ∀ name ∈ executionFields, ∃ x, field d name = .ok x := by
  intro name hname
  simp only [executionFields, List.mem_cons, List.not_mem_nil, or_false] at hname
  rcases hname with rfl | rfl | rfl | rfl | rfl
  · exact ⟨_, field_eq_ok.mpr h.start⟩
  · exact ⟨_, field_eq_ok.mpr h.finish⟩
  · exact ⟨_, field_eq_ok.mpr h.status⟩
  · exact ⟨_, field_eq_ok.mpr h.jobType⟩
  · exact ⟨_, field_eq_ok.mpr h.workflow⟩

omit [Hashlib] in
theorem executionOf_isOk (h : ∀ name ∈ executionFields, ∃ x, field d name = .ok x) : ∃ e, executionOf d = .ok e := by
  unfold executionOf
  refine isOk_iff.mp (isOk_mapM.mpr fun name hname => ?_)
  obtain ⟨x, hx⟩ := h name hname
  rw [hx]
  rfl

theorem notBlocked_of_shown (h : v.Shown key limit d) : notBlocked d = .ok (decide (¬ v.blocked.Nonempty)) := by
  have hverification : v.verification ≠ lit "blocked" ↔ ¬ v.blocked.Nonempty := by
    refine not_congr ⟨fun heq => ?_, fun hblocked => ?_⟩
    · unfold Verdict.verification at heq
      by_contra hnone
      rw [if_neg hnone] at heq
      split at heq
      · exact absurd heq (by decide)
      · split at heq <;> exact absurd heq (by decide)
    · unfold Verdict.verification
      exact if_pos hblocked
  unfold notBlocked
  refine bind_eq_ok.mpr ⟨_, field_eq_ok.mpr h.verification, ?_⟩
  simp only [ne_eq, Json.str.injEq, hverification]
  rfl

/-- What is stored for a document of the ledger, over what was stored for one. -/
theorem replacementOf_isOk {documents : Dict Str Obj} (h : v.Shown key limit d)
    (hstored : ∀ old, storedDocument documents key.text = some old →
      ∃ built acted limit' w, Kept built acted old ∧ Verdict.Shown w key limit' acted) :
    ∃ new, replacementOf documents key.text d = .ok new := by
  unfold replacementOf
  cases hold : storedDocument documents key.text with
  | none => exact ⟨d, rfl⟩
  | some old =>
    obtain ⟨built, acted, limit', w, hkept, hacted⟩ := hstored old hold
    obtain ⟨conflicting, hconflicting⟩ := executionOf_isOk h.execution_isSome
    obtain ⟨execution, hexecution⟩ := executionOf_isOk (d := old) fun name hname => by
      obtain ⟨x, hx⟩ := hacted.execution_isSome name hname
      exact ⟨x, field_eq_ok.mpr ((hkept.execution name hname).trans (field_eq_ok.mp hx))⟩
    obtain ⟨rest, hevidence⟩ := h.evidence
    dsimp only
    rw [notBlocked_of_shown h]
    cases decide (¬ v.blocked.Nonempty) with
    | true => exact ⟨d, rfl⟩
    | false =>
      unfold freezeExecution
      rw [hconflicting, field_eq_ok.mpr hevidence, hexecution]
      exact ⟨_, rfl⟩

/-! ## 4. A document against a stored one

Each check against the store, said in terms of verdicts and candidates. -/

/-- The candidates that the first records of a verdict show. -/
def Verdict.shownCandidates (v : Verdict) (limit : Nat) : Finset Candidate :=
  ((v.records.take limit).map Evidence.candidate).toFinset

omit [Hashlib] in
theorem auditedCandidate_entry (e : Evidence) : auditedCandidate (auditEntry e) = .ok (e.candidate.map .str) := by
  have hnames : subscript (auditEntry e) "normalized" = .ok (strArray e.candidate) := rfl
  unfold auditedCandidate
  rw [hnames]
  have hcanon : (e.candidate.map Json.str).map Json.canon = e.candidate.map .str := by simp
  refine bind_eq_ok.mpr ⟨_, rfl, bind_eq_ok.mpr ⟨e.candidate.map Json.str, rfl, ?_⟩⟩
  rw [if_pos (by simp [Json.hashable]), hcanon]
  rfl

/-- The audit list of a document shows the candidates of its first records. -/
theorem Verdict.Shown.audited (h : v.Shown key limit d) :
    auditedCandidates d = .ok ((v.shownCandidates limit).image (List.map Json.str)) := by
  obtain ⟨rest, hevidence⟩ := h.evidence
  unfold auditedCandidates
  refine bind_eq_ok.mpr ⟨_, field_eq_ok.mpr hevidence, bind_eq_ok.mpr ⟨.arr ((v.records.take limit).map auditEntry), rfl,
    bind_eq_ok.mpr ⟨_, rfl, bind_eq_ok.mpr ⟨(v.records.take limit).map fun e => e.candidate.map Json.str, ?_, ?_⟩⟩⟩⟩
  · rw [mapM_eq_ok, List.forall₂_map_left_iff, List.forall₂_map_right_iff, List.forall₂_same]
    exact fun e _ => auditedCandidate_entry e
  · unfold Verdict.shownCandidates
    refine congrArg Except.ok (Finset.ext fun names => ?_)
    simp only [List.mem_toFinset, Finset.mem_image, List.mem_map, exists_exists_and_eq_and]

/-- The count of a kept document is the one it was built with. -/
theorem Kept.count (hkept : Kept built acted old) (hbuilt : v.Shown key limit built) :
    candidateCount old = .ok v.candidates.card :=
  candidateCount_of_int ((hkept.rest "candidate_count" (by decide)).trans hbuilt.count)

/-- Whether the digest of the candidates is another one. -/
theorem changesFingerprint_of (hkept : Kept built acted old) (hbuilt : v.Shown key limit built)
    (h : u.Shown key limit' d) :
    ∃ b, changesFingerprint old d = .ok b ∧ (v.candidates = u.candidates → b = false) := by
  obtain ⟨fp, hfp, hold⟩ := hbuilt.fingerprint
  obtain ⟨fp', hfp', hnew⟩ := h.fingerprint
  unfold changesFingerprint
  rw [field_eq_ok.mpr ((hkept.rest "candidate_fingerprint" (by decide)).trans hold), field_eq_ok.mpr hnew]
  refine ⟨_, rfl, fun hsame => ?_⟩
  rw [hsame] at hfp
  obtain rfl := Except.ok.inj (hfp.symm.trans hfp')
  simp [Json.pyEq_str.mpr rfl]

/-- More candidates are no loss. -/
theorem losesCandidates_of (hkept : Kept built acted old) (hbuilt : v.Shown key limit built) (h : u.Shown key limit' d)
    (hsub : v.candidates ⊆ u.candidates) : losesCandidates old d = .ok false := by
  have hcard := Finset.card_le_card hsub
  obtain ⟨b, hb, hsame⟩ := changesFingerprint_of hkept hbuilt h
  unfold losesCandidates
  refine bind_eq_ok.mpr ⟨_, hkept.count hbuilt, bind_eq_ok.mpr ⟨_, candidateCount_of_int h.count, ?_⟩⟩
  rw [if_neg (by omega)]
  by_cases hcount : (v.candidates.card : Int) = u.candidates.card
  · rw [if_pos hcount, hb, hsame (Finset.eq_of_subset_of_card_le hsub (by omega))]
  · rw [if_neg hcount]
    rfl

/-- The audit lists are compared when there were candidates and their digest is another one: the
stored list has to show them all, and the new one all of these. -/
theorem dropsAudited_of (hkept : Kept built acted old) (hbuilt : v.Shown key limit built) (h : u.Shown key limit' d) :
    ∃ b, dropsAudited old d = .ok b ∧ (b = true ↔ v.candidates.Nonempty ∧ changesFingerprint old d = .ok true ∧
      ¬ (v.shownCandidates limit = v.candidates ∧ v.candidates ⊆ u.shownCandidates limit')) := by
  have hinj : Function.Injective (List.map Json.str) := List.map_injective_iff.mpr fun _ _ => Json.str.inj
  have hshown : v.shownCandidates limit ⊆ v.candidates := by
    intro c hc
    unfold Verdict.shownCandidates at hc
    unfold Verdict.candidates
    rw [List.mem_toFinset, List.mem_map] at hc ⊢
    exact hc.imp fun e he => ⟨List.mem_of_mem_take he.1, he.2⟩
  obtain ⟨changed, hchanged, -⟩ := changesFingerprint_of hkept hbuilt h
  unfold dropsAudited
  rw [hkept.count hbuilt]
  rcases Finset.eq_empty_or_nonempty v.candidates with hnone | hsome
  · refine ⟨false, ?_, by simp [hnone]⟩
    rw [hnone]
    rfl
  · have hne : ¬ ((v.candidates.card : Int) = 0) := by
      have := Finset.card_pos.mpr hsome
      omega
    simp only [bind, Except.bind, if_neg hne, hchanged, hkept.audited, hbuilt.audited, h.audited, pure, Except.pure]
    cases changed with
    | false => exact ⟨false, rfl, by simp⟩
    | true =>
      refine ⟨_, if_pos rfl, ?_⟩
      have hall : ((v.shownCandidates limit).card : Int) = v.candidates.card ↔ v.shownCandidates limit = v.candidates :=
        ⟨fun hcard => Finset.eq_of_subset_of_card_le hshown (by omega), fun heq => by rw [heq]⟩
      simp only [Finset.card_image_of_injective _ hinj, Finset.image_subset_image_iff hinj, hall, hsome, true_and,
        Bool.not_eq_true', Bool.and_eq_false_iff, decide_eq_false_iff_not, not_and_or]
      constructor
      · rintro (hmissing | hlost)
        · exact Or.inl hmissing
        · by_cases heq : v.shownCandidates limit = v.candidates
          · exact Or.inr (heq ▸ hlost)
          · exact Or.inl heq
      · rintro (hmissing | hlost)
        · exact Or.inl hmissing
        · by_cases heq : v.shownCandidates limit = v.candidates
          · exact Or.inr (heq ▸ hlost)
          · exact Or.inl heq

/-- The same start, or a reason to block, is no replacement. -/
theorem replacesExecution_of (hkept : Kept built acted old) (hacted : w.Shown key limit'' acted) (h : u.Shown key limit' d)
    (hstart : ∀ s, w.action.bind Job.start = some s → u.blocked.Nonempty ∨ u.action.bind Job.start = some s) :
    replacesExecution old d = .ok false := by
  unfold replacesExecution
  refine bind_eq_ok.mpr ⟨_, field_eq_ok.mpr ((hkept.execution "action_start_time" (by decide)).trans hacted.start), ?_⟩
  cases hs : w.action.bind Job.start with
  | none => rfl
  | some s =>
    split
    · refine bind_eq_ok.mpr ⟨_, field_eq_ok.mpr h.start, ?_⟩
      rcases hstart s hs with hblocked | hsame
      · split
        · rfl
        · rw [notBlocked_of_shown h, decide_eq_false (not_not.mpr hblocked)]
      · have hequal : Json.pyEq (isoformat (some s)) (isoformat (some s)) = true := Json.pyEq_str.mpr rfl
        rw [hsame, if_pos hequal]
        rfl
    · rfl

/-- A terminal copy stays terminal. -/
theorem regressesStatus_of (hkept : Kept built acted old) (hacted : w.Shown key limit'' acted) (h : u.Shown key limit' d)
    (hterminal : ∀ a, w.action = some a → a.isTerminal = true → ∃ a', u.action = some a' ∧ a'.isTerminal = true) :
    regressesStatus old d = .ok false := by
  unfold regressesStatus
  refine bind_eq_ok.mpr ⟨_, field_eq_ok.mpr ((hkept.execution "action_status" (by decide)).trans hacted.status), ?_⟩
  cases ha : w.action with
  | none => rfl
  | some a =>
    rw [if_neg (by simp [Json.ofOption, Json.hashable])]
    split
    · rename_i hmem
      have hended : a.isTerminal = true := by
        obtain ⟨status, hstatus, heq⟩ := List.mem_map.mp hmem
        unfold Job.isTerminal
        rw [← Json.str.inj heq]
        exact decide_eq_true hstatus
      obtain ⟨a', ha', hended'⟩ := hterminal a ha hended
      refine bind_eq_ok.mpr ⟨_, field_eq_ok.mpr h.status, ?_⟩
      rw [ha', if_neg]
      · rfl
      · intro heq
        have hrunning : a'.status = lit "running" := Json.str.inj heq
        unfold Job.isTerminal at hended'
        rw [hrunning] at hended'
        exact absurd hended' (by decide)
    · rfl

end Stored

/-! ## 5. A batch of a ledger

From documents to a batch, and from a batch to a call. -/

section Batches

variable [Unicode] [Hashlib] {b : Builder} {synced : Datetime} {coverage : List Coverage} {generation : Str} {limit : Int}
  {docs : Dict Str Obj}

/-- A build returns one document per key. -/
theorem nodup_of_build (h : b.build synced coverage generation limit = .ok docs) : (Dict.keys docs).Nodup := by
  unfold Builder.build at h
  split at h
  · cases h
  obtain ⟨attested, -, h⟩ := bind_eq_ok.mp h
  have hkeys : Dict.keys docs = (b.keys.insertionSort fun a b => [a.1.name, a.2] ≤ [b.1.name, b.2]).map ActionKey.text :=
    Dict.keys_of_mapM (fun key p hp => by
      obtain ⟨d, -, rfl⟩ := map_eq_ok.mp hp
      rfl) h
  rw [hkeys]
  refine List.Nodup.map (fun _ _ => Builder.text_injective) ?_
  exact (List.perm_insertionSort _ _).nodup_iff.mpr (List.nodup_dedup _)

/-- An entry of a build is the document of its key. -/
theorem shown_of_build (h : b.build synced coverage generation limit = .ok docs) {text : Str} {d : Obj}
    (hd : Dict.get? docs text = some d) : ∃ key : ActionKey, text = key.text ∧ key ∈ b.keys ∧
      (b.verdict key synced (Builder.attestationOf coverage key)).Shown key limit.toNat d := by
  obtain ⟨key, rfl⟩ := Builder.key_of_build h (Dict.get?_isSome_iff.mp (Option.isSome_iff_exists.mpr ⟨d, hd⟩))
  obtain ⟨hkey, hdoc⟩ := Builder.document_of_build h hd
  exact ⟨key, rfl, hkey, document_shown hdoc⟩

theorem count_of_build (h : b.build synced coverage generation limit = .ok docs) :
    ∀ p ∈ docs, ∀ v, Dict.get? p.2 "candidate_count" = some v → ∃ n : Int, v = .int n := by
  rintro ⟨text, d⟩ hp v hv
  obtain ⟨key, -, -, hshown⟩ := shown_of_build h (Dict.get?_of_mem (nodup_of_build h) hp)
  exact ⟨_, Option.some.inj (hv.symm.trans hshown.count)⟩

/-- What a build returns, as a batch. -/
def Batch.ofBuild (h : b.build synced coverage generation limit = .ok docs) : Batch where
  entries := docs
  nodup := nodup_of_build h
  count_int := count_of_build h

end Batches

section Calls

variable [Unicode]

/-- A batch is written when every document of it passes its checks and has a replacement. -/
theorem Batch.replacement_isOk_iff {batch : Batch} {documents : Dict Str Obj} :
    (batch.replacement documents).isOk = true ↔ ∀ p ∈ batch.entries,
      (checkDocument documents p.1 p.2).isOk = true ∧ (replacementOf documents p.1 p.2).isOk = true := by
  unfold Batch.replacement
  constructor
  · intro h
    obtain ⟨units, hchecks, h⟩ := isOk_bind.mp h
    obtain ⟨written, hwritten, -⟩ := isOk_bind.mp h
    intro p hp
    refine ⟨isOk_mapM.mp (isOk_iff.mpr ⟨units, hchecks⟩) p hp, ?_⟩
    rw [← isOk_map]
    exact isOk_mapM.mp (isOk_iff.mpr ⟨written, hwritten⟩) p hp
  · intro h
    obtain ⟨units, hchecks⟩ := isOk_iff.mp (isOk_mapM.mpr fun p hp => (h p hp).1)
    obtain ⟨written, hwritten⟩ := isOk_iff.mp (isOk_mapM (f := fun p => (replacementOf documents p.1 p.2).map fun d =>
      (p.1, d)) |>.mpr fun p hp => isOk_map.trans (h p hp).2)
    exact isOk_bind.mpr ⟨units, hchecks, isOk_bind.mpr ⟨written, hwritten, rfl⟩⟩

/-- What stands under a key after a batch is written: its replacement, or what stood there. -/
theorem Batch.get?_replacement {batch : Batch} {documents documents' : Dict Str Obj}
    (h : batch.replacement documents = .ok documents') (key : Str) :
    (Dict.get? batch.entries key = none → Dict.get? documents' key = Dict.get? documents key) ∧
    ∀ incoming, Dict.get? batch.entries key = some incoming →
      ∃ new, Dict.get? documents' key = some new ∧ replacementOf documents key incoming = .ok new := by
  unfold Batch.replacement at h
  obtain ⟨_, -, h⟩ := bind_eq_ok.mp h
  obtain ⟨written, hwritten, h⟩ := bind_eq_ok.mp h
  obtain rfl := Except.ok.inj h
  let R : Str → Obj → Obj → Prop := fun k d d' => replacementOf documents k d = .ok d'
  have hstored : List.Forall₂ (fun p q => q.1 = p.1 ∧ R p.1 p.2 q.2) batch.entries written := by
    refine (mapM_eq_ok.mp hwritten).imp fun p q hpq => ?_
    obtain ⟨d, hd, rfl⟩ := map_eq_ok.mp hpq
    exact ⟨rfl, hd⟩
  have hread := Dict.get?_of_forall₂ (R := R) hstored key
  rw [Dict.get?_update, Dict.lastWrite_of_nodup ((Dict.keys_of_forall₂ (R := R) hstored).symm ▸ batch.nodup)]
  refine ⟨fun hnone => ?_, fun incoming hin => ?_⟩
  · rw [hnone] at hread
    rw [hread]
    rfl
  · rw [hin] at hread
    obtain ⟨new, hnew, hreplacement⟩ := hread
    rw [hnew]
    exact ⟨new, rfl, hreplacement⟩

/-- A call against the current version succeeds when its batch is written. -/
theorem commit_isOk_iff (s : InMemoryLookupStore) (c : Commit) (hversion : c.expectedVersion = s.version) :
    (s.commit c).2.isOk = true ↔ (c.batch.replacement s.documents).isOk = true := by
  unfold InMemoryLookupStore.commit
  rw [if_neg (not_not.mpr hversion)]
  cases c.batch.replacement s.documents <;> rfl

end Calls

end BackupCollector
