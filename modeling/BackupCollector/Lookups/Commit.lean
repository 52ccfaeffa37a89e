/-
# What a commit can do

`commit_cases` says once what a call of `commit` does: it raises and leaves the store as it is, or
it stores, under each key of its batch, a document that passed the checks, and touches no other
key.  A stored document is the incoming one, or the incoming one with the execution of the document
it replaces.  Every law of the store is read off these facts, and the runs follow by induction.

Nothing is assumed of the documents of a batch: they are loosely typed and come from anywhere.
What a stored document satisfies is therefore what the CHECKS have established, and each check is
turned into the property it leaves behind, in the order of the source.  Three of them matter later:
a document says under which key it belongs (`IdentityOf`), a document with a public name is
resolved, verified and names one candidate in full (`NamesVerified`), and a document over a stored
one respects what is stored (`Continues`).

The blocked documents are the exception in two of the checks, and the reason for `Frozen`: such a
document may revoke names whatever is stored, and in return it cannot change the execution.  What
it says of the execution is filed in its evidence.

The converse, that a document with these properties is accepted, is in `Admission`, where it is
needed.
-/
import BackupCollector.Lookups.Adapters
import BackupCollector.Py.Store

namespace BackupCollector

open Py

/-! ## 1. What a passed check says

One lemma for each check, from "it returned" to what holds.  A check that reads a field also says
that the field was there. -/

theorem field_eq_ok {d : Obj} {name : Str} {v : Json} : field d name = .ok v ↔ Dict.get? d name = some v := by
  unfold field
  cases Dict.get? d name <;> simp

theorem refuse_eq_ok {reason : Str} {c : Bool} {u : Unit} : refuse reason c = .ok u ↔ c = false := by
  unfold refuse
  cases c <;> simp

/-- No public name of the document is set. -/
theorem anyNamed_eq_false {document : Obj} {names : List Str} (h : anyNamed document names = .ok false) :
    ∀ name ∈ names, Dict.get? document name = some .null := by
  induction names with
  | nil => simp
  | cons name names ih =>
    unfold anyNamed at h
    obtain ⟨v, hv, h⟩ := bind_eq_ok.mp h
    split at h
    · cases h
    · rename_i hnull
      intro n hn
      rcases List.mem_cons.mp hn with rfl | hn
      · rw [field_eq_ok.mp hv, not_not.mp hnull]
      · exact ih h n hn

/-- Every public name of the document is a non-empty text. -/
theorem allNamed_eq_true {document : Obj} {names : List Str} (h : allNamed document names = .ok true) :
    ∀ name ∈ names, ∃ s : Str, s ≠ [] ∧ Dict.get? document name = some (.str s) := by
  induction names with
  | nil => simp
  | cons name names ih =>
    unfold allNamed at h
    obtain ⟨v, hv, h⟩ := bind_eq_ok.mp h
    split at h
    · rename_i c s
      intro n hn
      rcases List.mem_cons.mp hn with rfl | hn
      · exact ⟨c :: s, by simp, field_eq_ok.mp hv⟩
      · exact ih h n hn
    · cases h

theorem isVerified_eq_true {document : Obj} (h : isVerified document = .ok true) :
    Dict.get? document "mapping_status" = some (.str "resolved") ∧
      Dict.get? document "verification_status" = some (.str "verified") := by
  unfold isVerified at h
  obtain ⟨m, hm, h⟩ := bind_eq_ok.mp h
  split at h
  · rename_i hr
    obtain ⟨v, hv, h⟩ := bind_eq_ok.mp h
    rw [← hr, ← of_decide_eq_true (Except.ok.inj h)]
    exact ⟨field_eq_ok.mp hm, field_eq_ok.mp hv⟩
  · cases h

/-- The document says it is blocked.  The store looks at this one field, and not at the reasons. -/
def Blocked (document : Obj) : Prop := Dict.get? document "verification_status" = some (.str "blocked")

theorem notBlocked_eq_ok {document : Obj} {b : Bool} (h : notBlocked document = .ok b) :
    b = false ↔ Blocked document := by
  unfold notBlocked at h
  obtain ⟨v, hv, h⟩ := bind_eq_ok.mp h
  obtain rfl := Except.ok.inj h
  unfold Blocked
  rw [field_eq_ok.mp hv]
  simp

section Identity

variable [Unicode]

/-- A document says under which key it belongs: its source and its action id. -/
structure IdentityOf (key : Str) (document : Obj) : Prop where
  runKey : Dict.get? document "action_run_key" = some (.str key)
  sourceAndId : ∃ (source jobId : Json) (s : Source) (id : Str),
    Dict.get? document "source_networker" = some source ∧ validateSourceNetworker source = .ok s ∧
    Dict.get? document "action_job_id" = some jobId ∧ positiveId jobId = .ok (some id) ∧
    key = Json.toStr source ++ lit ":" ++ Json.toStr jobId

theorem checkIdentity_eq_ok {key : Str} {document : Obj} {u : Unit} (h : checkIdentity key document = .ok u) :
    IdentityOf key document := by
  unfold checkIdentity at h
  obtain ⟨source, hsource, h⟩ := bind_eq_ok.mp h
  obtain ⟨s, hs, h⟩ := bind_eq_ok.mp h
  obtain ⟨runKey, hrun, h⟩ := bind_eq_ok.mp h
  obtain ⟨_, hsame, h⟩ := bind_eq_ok.mp h
  obtain ⟨jobId, hjob, h⟩ := bind_eq_ok.mp h
  obtain ⟨id?, hid, h⟩ := bind_eq_ok.mp h
  obtain ⟨_, hpos, h⟩ := bind_eq_ok.mp h
  obtain rfl : runKey = .str key := by simpa using refuse_eq_ok.mp hsame
  have hpos' : id?.isNone = false := refuse_eq_ok.mp hpos
  obtain ⟨id, rfl⟩ := Option.ne_none_iff_exists'.mp (Option.isNone_eq_false_iff.mp hpos' |> Option.isSome_iff_ne_none.mp)
  have hkey : key = Json.toStr source ++ lit ":" ++ Json.toStr jobId := by
    simpa using refuse_eq_ok.mp h
  exact ⟨field_eq_ok.mp hrun, source, jobId, s, id, field_eq_ok.mp hsource, hs, field_eq_ok.mp hjob, hid, hkey⟩

end Identity

/-- A document with a public name is resolved, verified and names one candidate in full. -/
def NamesVerified (document : Obj) : Prop :=
  (∃ name ∈ publicNames, ∃ v, Dict.get? document name = some v ∧ v ≠ .null) →
    Dict.get? document "mapping_status" = some (.str "resolved") ∧
    Dict.get? document "verification_status" = some (.str "verified") ∧
    (∃ count, Dict.get? document "candidate_count" = some count ∧ Json.pyEq count (.int 1) = true) ∧
    ∀ name ∈ publicNames, ∃ s : Str, s ≠ [] ∧ Dict.get? document name = some (.str s)

theorem checkNames_eq_ok {document : Obj} {u : Unit} (h : checkNames document = .ok u) :
    NamesVerified document := by
  unfold checkNames at h
  obtain ⟨verified, hv, h⟩ := bind_eq_ok.mp h
  cases verified with
  | true =>
    obtain ⟨hmapping, hverification⟩ := isVerified_eq_true hv
    obtain ⟨count, hcount, h⟩ := bind_eq_ok.mp h
    cases hone : Json.pyEq count (.int 1) with
    | true =>
      rw [hone, if_pos rfl] at h
      obtain ⟨all, hall, h⟩ := bind_eq_ok.mp h
      have hall' : all = true := by simpa using refuse_eq_ok.mp h
      subst hall'
      exact fun _ => ⟨hmapping, hverification, ⟨count, field_eq_ok.mp hcount, hone⟩, allNamed_eq_true hall⟩
    | false =>
      rw [hone, if_neg Bool.false_ne_true] at h
      cases refuse_eq_ok.mp h
  | false =>
    obtain ⟨any, hany, h⟩ := bind_eq_ok.mp h
    obtain rfl := refuse_eq_ok.mp h
    rintro ⟨name, hname, v, hget, hne⟩
    rw [anyNamed_eq_false hany name hname] at hget
    exact absurd (Option.some.inj hget).symm hne

/-- What a document over a stored one has to respect: the start and the status unless it is
blocked, and the candidates in any case. -/
structure Continues (old document : Obj) : Prop where
  start : ∀ v, Dict.get? old "action_start_time" = some v → v.truthy = true →
    Blocked document ∨ ∃ w, Dict.get? document "action_start_time" = some w ∧ Json.pyEq w v = true
  count : ∃ n m, candidateCount old = .ok n ∧ candidateCount document = .ok m ∧ n ≤ m
  status : ∀ v ∈ storedTerminal.map Json.str, Dict.get? old "action_status" = some v →
    Blocked document ∨ ∃ w, Dict.get? document "action_status" = some w ∧ w ≠ .str "running"

theorem replacesExecution_eq_false {old document : Obj} (h : replacesExecution old document = .ok false) :
    ∀ v, Dict.get? old "action_start_time" = some v → v.truthy = true →
      Blocked document ∨ ∃ w, Dict.get? document "action_start_time" = some w ∧ Json.pyEq w v = true := by
  unfold replacesExecution at h
  obtain ⟨stored, hstored, h⟩ := bind_eq_ok.mp h
  intro v hv htruthy
  obtain rfl : stored = v := Option.some.inj ((field_eq_ok.mp hstored).symm.trans hv)
  rw [if_pos htruthy] at h
  obtain ⟨w, hw, h⟩ := bind_eq_ok.mp h
  cases hsame : Json.pyEq w stored with
  | true => exact Or.inr ⟨w, field_eq_ok.mp hw, hsame⟩
  | false =>
    rw [hsame, if_neg Bool.false_ne_true] at h
    exact Or.inl ((notBlocked_eq_ok h).mp rfl)

theorem losesCandidates_eq_false {old document : Obj} (h : losesCandidates old document = .ok false) :
    ∃ n m, candidateCount old = .ok n ∧ candidateCount document = .ok m ∧ n ≤ m := by
  unfold losesCandidates at h
  obtain ⟨n, hn, h⟩ := bind_eq_ok.mp h
  obtain ⟨m, hm, h⟩ := bind_eq_ok.mp h
  refine ⟨n, m, hn, hm, ?_⟩
  split at h
  · cases h
  · omega

theorem regressesStatus_eq_false {old document : Obj} (h : regressesStatus old document = .ok false) :
    ∀ v ∈ storedTerminal.map Json.str, Dict.get? old "action_status" = some v →
      Blocked document ∨ ∃ w, Dict.get? document "action_status" = some w ∧ w ≠ .str "running" := by
  unfold regressesStatus at h
  obtain ⟨stored, hstored, h⟩ := bind_eq_ok.mp h
  intro v hterminal hv
  obtain rfl : stored = v := Option.some.inj ((field_eq_ok.mp hstored).symm.trans hv)
  split at h
  · cases h
  · obtain ⟨w, hw, h⟩ := bind_eq_ok.mp h
    split at h
    · exact Or.inl ((notBlocked_eq_ok h).mp rfl)
    · rename_i hrunning
      exact Or.inr ⟨w, field_eq_ok.mp hw, hrunning⟩

theorem checkStored_eq_ok {old document : Obj} {u : Unit} (h : checkStored old document = .ok u) :
    Continues old document := by
  unfold checkStored at h
  obtain ⟨replaces, hreplaces, h⟩ := bind_eq_ok.mp h
  obtain ⟨_, hr, h⟩ := bind_eq_ok.mp h
  obtain ⟨loses, hloses, h⟩ := bind_eq_ok.mp h
  obtain ⟨_, hl, h⟩ := bind_eq_ok.mp h
  obtain ⟨_, _, h⟩ := bind_eq_ok.mp h
  obtain ⟨_, _, h⟩ := bind_eq_ok.mp h
  obtain ⟨regresses, hregresses, h⟩ := bind_eq_ok.mp h
  rw [refuse_eq_ok.mp hr] at hreplaces
  rw [refuse_eq_ok.mp hl] at hloses
  rw [refuse_eq_ok.mp h] at hregresses
  exact ⟨replacesExecution_eq_false hreplaces, losesCandidates_eq_false hloses,
    regressesStatus_eq_false hregresses⟩

/-! ## 2. What is stored for a document

A replacement changes at most the execution fields and one entry of the evidence. -/

/-- A record of the given fields of a document. -/
theorem record_eq_ok {d : Obj} {names : List Str} {e : Obj}
    (h : names.mapM (fun name => (field d name).map fun v => (name, v)) = .ok e) :
    Dict.keys e = names ∧ ∀ name ∈ names, Dict.get? e name = Dict.get? d name ∧ (Dict.get? d name).isSome = true := by
  induction names generalizing e with
  | nil =>
    obtain rfl := Except.ok.inj h
    exact ⟨rfl, by simp⟩
  | cons name names ih =>
    rw [List.mapM_cons] at h
    obtain ⟨p, hp, h⟩ := bind_eq_ok.mp h
    obtain ⟨rest, hrest, h⟩ := bind_eq_ok.mp h
    obtain ⟨v, hv, rfl⟩ := map_eq_ok.mp hp
    obtain rfl := Except.ok.inj h
    obtain ⟨hkeys, hget⟩ := ih hrest
    refine ⟨by rw [← hkeys]; rfl, fun n hn => ?_⟩
    have hv' := field_eq_ok.mp hv
    by_cases hnn : name = n
    · subst hnn
      simp [hv']
    · rw [Dict.get?_cons, if_neg hnn]
      exact hget n ((List.mem_cons.mp hn).resolve_left fun he => hnn he.symm)

/-- A blocked document over a stored one: the execution fields are the stored ones, the incoming
ones are filed in the evidence, whose other entries are those of the incoming document, and
nothing else is changed. -/
structure Frozen (old incoming new : Obj) : Prop where
  kept : ∀ name ∈ executionFields, Dict.get? new name = Dict.get? old name
  filed : ∃ given evidence conflicting, Dict.get? incoming "candidate_evidence" = some (.obj given) ∧
    Dict.get? new "candidate_evidence" = some (.obj evidence) ∧
    Dict.get? evidence "conflicting_execution" = some (.obj conflicting) ∧
    Dict.keys conflicting = executionFields ∧
    (∀ name ∈ executionFields, Dict.get? conflicting name = Dict.get? incoming name) ∧
    ∀ name ≠ lit "conflicting_execution", Dict.get? evidence name = Dict.get? given name
  rest : ∀ name ∉ lit "candidate_evidence" :: executionFields, Dict.get? new name = Dict.get? incoming name

theorem freezeExecution_eq_ok {old incoming new : Obj} (h : freezeExecution old incoming = .ok new) :
    Frozen old incoming new := by
  unfold freezeExecution at h
  obtain ⟨conflicting, hconflicting, h⟩ := bind_eq_ok.mp h
  obtain ⟨hnames, hcopy⟩ := record_eq_ok hconflicting
  obtain ⟨v, hv, h⟩ := bind_eq_ok.mp h
  cases v with
  | obj evidence =>
    obtain ⟨execution, hexecution, h⟩ := bind_eq_ok.mp h
    obtain ⟨hkeys, hget⟩ := record_eq_ok hexecution
    obtain rfl := Except.ok.inj h
    have hother : ∀ name ∉ executionFields, ∀ d : Obj,
        Dict.get? (Dict.update d execution) name = Dict.get? d name := fun name hname d =>
      Dict.get?_update_of_notMem (hkeys ▸ hname)
    refine ⟨fun name hname => ?_,
      ⟨evidence, Dict.set evidence "conflicting_execution" (.obj conflicting), conflicting, field_eq_ok.mp hv, ?_,
        Dict.get?_set_self _ _ _, hnames, fun name hname => (hcopy name hname).1,
        fun name hname => Dict.get?_set_ne _ _ (Ne.symm hname)⟩,
      fun name hname => ?_⟩
    · obtain ⟨hsame, hsome⟩ := hget name hname
      have hnodup : (Dict.keys execution).Nodup := by
        rw [hkeys]
        decide
      rw [Dict.get?_update, Dict.lastWrite_of_nodup hnodup, hsame]
      obtain ⟨w, hw⟩ := Option.isSome_iff_exists.mp hsome
      rw [hw]
      rfl
    · rw [hother "candidate_evidence" (by decide), Dict.get?_set_self]
    · simp only [List.mem_cons, not_or] at hname
      rw [hother name hname.2, Dict.get?_set_ne _ _ (Ne.symm hname.1)]
  | _ => cases h

/-- A document as it is stored: the incoming one, unless it is blocked and replaces another. -/
inductive StoredAs (old : Option Obj) (incoming new : Obj) : Prop where
  | asGiven (hsame : new = incoming) (hopen : old = none ∨ ¬ Blocked incoming)
  | frozen (previous : Obj) (hold : old = some previous) (hblocked : Blocked incoming)
      (hfrozen : Frozen previous incoming new)

theorem replacementOf_eq_ok {documents : Dict Str Obj} {key : Str} {incoming new : Obj}
    (h : replacementOf documents key incoming = .ok new) :
    StoredAs (storedDocument documents key) incoming new := by
  unfold replacementOf at h
  cases hold : storedDocument documents key with
  | none =>
    rw [hold] at h
    exact .asGiven (Except.ok.inj h).symm (Or.inl rfl)
  | some old =>
    rw [hold] at h
    obtain ⟨b, hb, h⟩ := bind_eq_ok.mp h
    cases b with
    | true =>
      refine .asGiven (Except.ok.inj h).symm (Or.inr fun hblocked => ?_)
      cases (notBlocked_eq_ok hb).mpr hblocked
    | false => exact .frozen old rfl ((notBlocked_eq_ok hb).mp rfl) (freezeExecution_eq_ok h)

section Store

variable [Unicode]

/-! ## 3. One call

The batch is a fold over distinct keys, so what stands under a key afterwards is the replacement of
its own document, or what stood there. -/

/-- A document of a batch that is accepted over what is stored: it has passed every check, and what
is stored for it is known. -/
structure Accepted (documents : Dict Str Obj) (key : Str) (incoming new : Obj) : Prop where
  identity : IdentityOf key incoming
  names : NamesVerified incoming
  continues : ∀ old, storedDocument documents key = some old → Continues old incoming
  stored : StoredAs (storedDocument documents key) incoming new

theorem checkDocument_eq_ok {documents : Dict Str Obj} {key : Str} {document : Obj} {u : Unit}
    (h : checkDocument documents key document = .ok u) :
    IdentityOf key document ∧ NamesVerified document ∧
      ∀ old, storedDocument documents key = some old → Continues old document := by
  unfold checkDocument at h
  obtain ⟨_, hidentity, h⟩ := bind_eq_ok.mp h
  obtain ⟨_, hnames, h⟩ := bind_eq_ok.mp h
  refine ⟨checkIdentity_eq_ok hidentity, checkNames_eq_ok hnames, fun old hold => ?_⟩
  rw [hold] at h
  exact checkStored_eq_ok h

/-- What stands in the store under a key after a batch is written over it. -/
theorem Batch.replacement_eq_ok {batch : Batch} {documents documents' : Dict Str Obj}
    (h : batch.replacement documents = .ok documents') (key : Str) :
    match Dict.get? batch.entries key with
    | none => Dict.get? documents' key = Dict.get? documents key
    | some incoming => ∃ new, Dict.get? documents' key = some new ∧ Accepted documents key incoming new := by
  unfold Batch.replacement at h
  obtain ⟨units, hchecks, h⟩ := bind_eq_ok.mp h
  obtain ⟨written, hwritten, h⟩ := bind_eq_ok.mp h
  obtain rfl := Except.ok.inj h
  have hstored : List.Forall₂ (fun p q => q.1 = p.1 ∧ replacementOf documents p.1 p.2 = .ok q.2)
      batch.entries written := by
    refine (mapM_eq_ok.mp hwritten).imp fun p q hpq => ?_
    obtain ⟨d, hd, rfl⟩ := map_eq_ok.mp hpq
    exact ⟨rfl, hd⟩
  let R : Str → Obj → Obj → Prop := fun k d d' => replacementOf documents k d = .ok d'
  have hkeys := Dict.keys_of_forall₂ (R := R) hstored
  have hnodup : (Dict.keys written).Nodup := hkeys.symm ▸ batch.nodup
  have hread := Dict.get?_of_forall₂ (R := R) hstored key
  rw [Dict.get?_update, Dict.lastWrite_of_nodup hnodup]
  cases hget : Dict.get? batch.entries key with
  | none =>
    rw [hget] at hread
    dsimp only at hread ⊢
    rw [hread]
    rfl
  | some incoming =>
    rw [hget] at hread
    obtain ⟨new, hnew, hreplacement⟩ := hread
    refine ⟨new, by rw [hnew]; rfl, ?_⟩
    obtain ⟨⟨⟩, -, hcheck⟩ := exists_of_forall₂_left (mapM_eq_ok.mp hchecks) _ (Dict.mem_of_get? hget)
    obtain ⟨hidentity, hnames, hcontinues⟩ := checkDocument_eq_ok hcheck
    exact ⟨hidentity, hnames, hcontinues, replacementOf_eq_ok hreplacement⟩

/-- **A call either raises and leaves the store as it is, or advances it as a whole**: the version
by one, the checkpoint, and the document of every key of its batch, each accepted over what was
stored under its key. -/
theorem commit_cases (s : InMemoryLookupStore) (c : Commit) :
    (∃ e, s.commit c = (s, .error e)) ∨
    ∃ documents, c.expectedVersion = s.version ∧ c.batch.replacement s.documents = .ok documents ∧
      s.commit c = (⟨s.version + 1, documents, some c.checkpoint⟩, .ok (s.version + 1)) := by
  unfold InMemoryLookupStore.commit
  by_cases hversion : c.expectedVersion = s.version
  · rw [if_neg (not_not.mpr hversion)]
    cases hr : c.batch.replacement s.documents with
    | error e => exact Or.inl ⟨e, rfl⟩
    | ok documents => exact Or.inr ⟨documents, hversion, rfl, rfl⟩
  · rw [if_pos hversion]
    exact Or.inl ⟨_, rfl⟩

end Store

end BackupCollector
