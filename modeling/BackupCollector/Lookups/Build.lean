/-
# What `build` returns

`build` returns one document per key, under the text of the key.  A key is there when the ledger
holds evidence or a reason for it, a copy of it that is an action job, or a save job that names it
as parent.

The later modules reason about documents and not about the function that builds them.  Three facts
carry them.

* Which keys there are (`mem_keys`), as a property of a key.  Whether a key is there does not
  depend on the order in which hits arrived.
* What is returned under the text of a key is the document of that key, and of no other, since the
  text names one key (`build_eq_ok`, `document_of_build`).
* What a document says of its verdict, field by field (`Verdict.Shown`).  It is the only place
  where the layout of a document is taken apart; whoever needs a field takes it from the structure.

The keys are returned in an order, and a document is stored under a text, so two ledgers with the
same keys and the same documents build the same list (`build_congr`).  The limit on the audit list
is an argument throughout.
-/
import BackupCollector.Lookups.Verdicts

namespace BackupCollector

open Py

/-! ## 1. The keys

The four ways a key comes to be there.  That a key of the evidence has records, and a key of the
blocked map a reason, is kept by every step of the builder. -/

namespace Builder

theorem keepLatest_ne_nil (records : Dict Str Evidence) (fingerprint : Str) (item : Evidence) :
    keepLatest records fingerprint item ≠ [] := by
  intro hnil
  have hget := get?_keepLatest records fingerprint item fingerprint
  rw [hnil, if_pos rfl] at hget
  split at hget
  · cases hget
  · split at hget <;> cases hget

/-- A key of the evidence has records. -/
theorem evidence_ne_nil (ms : List Mark) {key : ActionKey} {records : Dict Str Evidence}
    (h : Dict.get? (({} : Builder).marks ms).evidence key = some records) : records ≠ [] := by
  refine marks_induction (P := fun _ b => ∀ key records, Dict.get? b.evidence key = some records → records ≠ [])
    (fun _ _ h => by cases h) (fun ms b m ih key records h => ?_) ms key records h
  cases m with
  | evidence fingerprint item =>
    have hmark : Dict.get? (b.mark (.evidence fingerprint item)).evidence key =
      if item.key = key then some (keepLatest ((Dict.get? b.evidence item.key).getD []) fingerprint item)
      else Dict.get? b.evidence key :=
      Dict.get?_modify b.evidence item.key [] (fun records => keepLatest records fingerprint item) key
    rw [hmark] at h
    split at h
    · rw [← Option.some.inj h]
      exact keepLatest_ne_nil _ _ _
    · exact ih key records h
  | identity source backupId fingerprint actionId =>
    obtain ⟨blocked, heq, -⟩ := b.mark_identity source backupId fingerprint actionId
    rw [heq] at h
    exact ih key records h
  | _ => exact ih key records h

/-- Every key in the blocked map has a reason. -/
def ReasonsGiven (b : Builder) : Prop := ∀ key reasons, Dict.get? b.blocked key = some reasons → reasons.Nonempty

theorem ReasonsGiven.block {b : Builder} (h : b.ReasonsGiven) (key : ActionKey) (reason : Str) :
    (b.block key reason).ReasonsGiven := by
  intro k reasons hget
  have hmark : Dict.get? (b.block key reason).blocked k =
    if key = k then some (insert reason ((Dict.get? b.blocked key).getD ∅)) else Dict.get? b.blocked k :=
    Dict.get?_modify b.blocked key ∅ _ k
  rw [hmark] at hget
  split at hget
  · rw [← Option.some.inj hget]
    exact Finset.insert_nonempty _ _
  · exact h k reasons hget

theorem ReasonsGiven.recordIdentity {b : Builder} (h : b.ReasonsGiven) (identity : Source × Str) (fingerprint : Str)
    (key : ActionKey) : (b.recordIdentity identity fingerprint key).ReasonsGiven := by
  have hfold : ∀ (olds : Dict Str ActionKey) (b : Builder), b.ReasonsGiven →
      (olds.foldl (fun b old =>
        if old.1 ≠ fingerprint then
          (b.block old.2 "backup_revision_conflict").block key "backup_revision_conflict"
        else b) b).ReasonsGiven := by
    intro olds
    induction olds with
    | nil => exact fun _ hb => hb
    | cons old olds ih =>
      intro b hb
      rw [List.foldl_cons]
      split
      · exact ih _ ((hb.block old.2 _).block key _)
      · exact ih _ hb
  exact hfold _ b h

theorem reasonsGiven (ms : List Mark) : (({} : Builder).marks ms).ReasonsGiven := by
  refine marks_induction (P := fun _ b => b.ReasonsGiven) (fun _ _ h => by cases h) (fun ms b m ih => ?_) ms
  cases m with
  | blocked key reason => exact ih.block key reason
  | identity source backupId fingerprint actionId => exact ih.recordIdentity _ _ _
  | _ => exact ih

theorem values_eq_nil {κ ν : Type} {d : Dict κ ν} : Dict.values d = [] ↔ d = [] := List.map_eq_nil_iff

theorem mem_keys_evidence (ms : List Mark) (key : ActionKey) :
    key ∈ Dict.keys (({} : Builder).marks ms).evidence ↔ (({} : Builder).marks ms).records key ≠ [] := by
  rw [← Dict.get?_isSome_iff]
  unfold Builder.records
  cases hget : Dict.get? (({} : Builder).marks ms).evidence key with
  | none => simp [Dict.values]
  | some records =>
    have hne := evidence_ne_nil ms hget
    simp [values_eq_nil, hne]

theorem mem_keys_blocked (ms : List Mark) (key : ActionKey) :
    key ∈ Dict.keys (({} : Builder).marks ms).blocked ↔ ((({} : Builder).marks ms).blockedOf key).Nonempty := by
  rw [← Dict.get?_isSome_iff]
  unfold blockedOf
  cases hget : Dict.get? (({} : Builder).marks ms).blocked key with
  | none => simp
  | some reasons =>
    have hne := reasonsGiven ms key reasons hget
    simpa using hne

/-- A key has something to be documented: evidence, a reason against it, a copy of it that is an
action job, or a save job that names it as its parent. -/
def Concerns (b : Builder) (key : ActionKey) : Prop :=
  b.records key ≠ [] ∨ (b.blockedOf key).Nonempty ∨ (∃ j ∈ b.jobs.copies key, j.kind = actionType) ∨
    ∃ k : ActionKey, k.1 = key.1 ∧ ∃ j ∈ b.jobs.copies k, j.kind = lit "save job" ∧ j.parent = some key.2

/-- The keys of the documents. -/
theorem mem_keys (ms : List Mark) (key : ActionKey) :
    key ∈ (({} : Builder).marks ms).keys ↔ (({} : Builder).marks ms).Concerns key := by
  have hsound := sound_jobs ms
  unfold Builder.keys
  rw [List.mem_dedup, List.mem_append, List.mem_append, List.mem_append, mem_keys_evidence, mem_keys_blocked]
  generalize ({} : Builder).marks ms = b at hsound
  have hget : ∀ {k : ActionKey} {copies : List Job}, (k, copies) ∈ b.jobs → b.jobs.copies k = copies := by
    intro k copies h
    unfold JobTable.copies
    rw [Dict.get?_of_mem hsound.nodup h]
    rfl
  have hentry : ∀ {k : ActionKey} {j : Job}, j ∈ b.jobs.copies k → (k, b.jobs.copies k) ∈ b.jobs := by
    intro k j hj
    unfold JobTable.copies at hj ⊢
    cases h : Dict.get? b.jobs k with
    | none =>
      rw [h] at hj
      cases hj
    | some copies => exact Dict.mem_of_get? h
  constructor
  · rintro (((h | h) | h) | h)
    · exact Or.inl h
    · exact Or.inr (Or.inl h)
    · obtain ⟨⟨k, copies⟩, hp, rfl⟩ := List.mem_map.mp h
      obtain ⟨hmem, hany⟩ := List.mem_filter.mp hp
      obtain ⟨j, hj, hkind⟩ := List.any_eq_true.mp hany
      refine Or.inr (Or.inr (Or.inl ⟨j, ?_, of_decide_eq_true hkind⟩))
      rw [hget hmem]
      exact hj
    · obtain ⟨copies, hcopies, hkey⟩ := List.mem_flatMap.mp h
      obtain ⟨⟨k, copies'⟩, hmem, rfl⟩ := List.mem_map.mp hcopies
      obtain ⟨j, hj, hkey⟩ := List.mem_filterMap.mp hkey
      obtain ⟨hj, hkind⟩ := List.mem_filter.mp hj
      obtain ⟨parent, hparent, rfl⟩ := Option.map_eq_some_iff.mp hkey
      have hjk : j ∈ b.jobs.copies k := by
        rw [hget hmem]
        exact hj
      have hsource : j.source = k.1 := congrArg Prod.fst (hsound.key k j hjk)
      exact Or.inr (Or.inr (Or.inr ⟨k, hsource.symm, j, hjk, of_decide_eq_true hkind, hparent⟩))
  · rintro (h | h | ⟨j, hj, hkind⟩ | ⟨k, hk, j, hj, hkind, hparent⟩)
    · exact Or.inl (Or.inl (Or.inl h))
    · exact Or.inl (Or.inl (Or.inr h))
    · refine Or.inl (Or.inr (List.mem_map.mpr ⟨_, List.mem_filter.mpr ⟨hentry hj, ?_⟩, rfl⟩))
      exact List.any_eq_true.mpr ⟨j, hj, decide_eq_true hkind⟩
    · refine Or.inr (List.mem_flatMap.mpr ⟨_, List.mem_map.mpr ⟨_, hentry hj, rfl⟩, ?_⟩)
      refine List.mem_filterMap.mpr ⟨j, List.mem_filter.mpr ⟨hj, decide_eq_true hkind⟩, ?_⟩
      have hsource : j.source = key.1 := (congrArg Prod.fst (hsound.key k j hj)).trans hk
      rw [hparent, Option.map_some, hsource]

/-- Whether a key has something to be documented does not depend on the hits of its copies. -/
theorem concerns_congr {b b' : Builder} {key : ActionKey} (hrecords : b.records key = [] ↔ b'.records key = [])
    (hblocked : b.blockedOf key = b'.blockedOf key)
    (hcopies : ∀ k : ActionKey, k.1 = key.1 → SameCopies (b.jobs.copies k) (b'.jobs.copies k)) :
    b.Concerns key ↔ b'.Concerns key := by
  have haction := exists_of_cores (hcopies key rfl).cores (p := fun j => j.kind = actionType) fun _ => Iff.rfl
  unfold Concerns
  rw [hblocked, haction, Ne, Ne, hrecords]
  refine or_congr_right (or_congr_right (or_congr_right (exists_congr fun k => and_congr_right fun hk => ?_)))
  exact exists_of_cores (hcopies k hk).cores (p := fun j => j.kind = lit "save job" ∧ j.parent = some key.2)
    fun _ => Iff.rfl

/-! ## 2. The documents

From the list that `build` returns to the document of one key and back. -/

/-- The order of the keys. -/
def keyOrder (a b : ActionKey) : Prop := [a.1.name, a.2] ≤ [b.1.name, b.2]

theorem source_name_injective {a b : Source} (h : a.name = b.name) : a = b := by
  cases a
  cases b
  simpa using h

theorem keyOrder_antisymm {a b : ActionKey} (hab : keyOrder a b) (hba : keyOrder b a) : a = b := by
  have h := le_antisymm hab hba
  simp only [List.cons.injEq, and_true] at h
  exact Prod.ext (source_name_injective h.1) h.2

/-- The same keys are returned in the same order. -/
theorem sortedKeys_congr {b b' : Builder} (h : ∀ key, key ∈ b.keys ↔ key ∈ b'.keys) :
    b.keys.insertionSort (fun a b => [a.1.name, a.2] ≤ [b.1.name, b.2]) =
      b'.keys.insertionSort (fun a b => [a.1.name, a.2] ≤ [b.1.name, b.2]) := by
  have hperm : b.keys.Perm b'.keys :=
    (List.perm_ext_iff_of_nodup (List.nodup_dedup _) (List.nodup_dedup _)).mpr h
  let r : ActionKey → ActionKey → Prop := fun a b => [a.1.name, a.2] ≤ [b.1.name, b.2]
  have : Std.Total r := ⟨fun a b => le_total [a.1.name, a.2] [b.1.name, b.2]⟩
  have : IsTrans ActionKey r := ⟨fun _ _ _ => le_trans⟩
  refine (((List.perm_insertionSort r _).trans hperm).trans (List.perm_insertionSort r _).symm).eq_of_pairwise
    (fun x y _ _ hxy hyx => keyOrder_antisymm hxy hyx) (List.pairwise_insertionSort r _)
    (List.pairwise_insertionSort r _)

theorem mapM_congr {α β : Type} {f g : α → Except Err β} {xs : List α} (h : ∀ x ∈ xs, f x = g x) :
    xs.mapM f = xs.mapM g := by
  induction xs with
  | nil => rfl
  | cons x xs ih =>
    rw [List.mapM_cons, List.mapM_cons, h x List.mem_cons_self, ih fun y hy => h y (List.mem_cons_of_mem x hy)]

variable [Unicode] [Hashlib]

/-- Two ledgers with the same keys and the same document for each of them build the same. -/
theorem build_congr {b b' : Builder} (hkeys : ∀ key, key ∈ b.keys ↔ key ∈ b'.keys) {synced : Datetime}
    {generation : Str} (hdoc : ∀ key coverage limit,
      b.document key synced coverage generation limit = b'.document key synced coverage generation limit)
    (coverage : List Coverage) (referenceLimit : Int) :
    b.build synced coverage generation referenceLimit = b'.build synced coverage generation referenceLimit := by
  unfold build
  rw [sortedKeys_congr hkeys]
  have hmap : ∀ (attested : Dict ActionKey Coverage) (keys : List ActionKey),
      keys.mapM (fun key => (b.document key synced (Dict.get? attested key) generation referenceLimit.toNat).map
        fun d => (key.text, d)) =
      keys.mapM (fun key => (b'.document key synced (Dict.get? attested key) generation referenceLimit.toNat).map
        fun d => (key.text, d)) := fun attested keys => mapM_congr fun key _ => by rw [hdoc]
  simp only [hmap]

omit [Unicode] [Hashlib] in
/-- The text of a key is the text of one key. -/
theorem text_injective {a b : ActionKey} (h : a.text = b.text) : a = b := by
  have hlen : ∀ s : Source, s.name.length = 4 := by
    intro s
    rcases s.cases with h | h | h <;> rw [h] <;> rfl
  unfold ActionKey.text at h
  rw [List.append_assoc, List.append_assoc] at h
  obtain ⟨hname, hrest⟩ := List.append_inj h ((hlen a.1).trans (hlen b.1).symm)
  exact Prod.ext (source_name_injective hname) (List.append_cancel_left hrest)

omit [Hashlib] in
/-- The attestation of a key is the one that was supplied for it. -/
theorem get?_attestations {coverage : List Coverage} {attested : Dict ActionKey Coverage}
    (h : attestations coverage = .ok attested) (key : ActionKey) :
    Dict.get? attested key = coverage.find? fun c => decide (c.key = key) := by
  induction coverage generalizing attested with
  | nil =>
    obtain rfl := Except.ok.inj h
    rfl
  | cons c cs ih =>
    unfold attestations at h
    obtain ⟨rest, hrest, h⟩ := bind_eq_ok.mp h
    split at h
    · cases h
    · obtain rfl := Except.ok.inj h
      rw [Dict.get?_cons, List.find?_cons, ih hrest]
      by_cases hk : c.key = key <;> simp [hk]

/-- The supplied attestation of a key. -/
def attestationOf (coverage : List Coverage) (key : ActionKey) : Option Coverage :=
  coverage.find? fun c => decide (c.key = key)

/-- What `build` returns under the text of a key. -/
theorem build_eq_ok {b : Builder} {synced : Datetime} {coverage : List Coverage} {generation : Str} {limit : Int}
    {docs : Dict Str Obj} (h : b.build synced coverage generation limit = .ok docs) (key : ActionKey) :
    0 < limit ∧
    (key ∈ b.keys → ∃ d, Dict.get? docs key.text = some d ∧
      b.document key synced (attestationOf coverage key) generation limit.toNat = .ok d) ∧
    (key ∉ b.keys → Dict.get? docs key.text = none) := by
  unfold build at h
  split at h
  · cases h
  rename_i hargs
  obtain ⟨attested, hattested, h⟩ := bind_eq_ok.mp h
  have hall := mapM_eq_ok.mp h
  have hlimit : 0 < limit := by
    rw [not_or] at hargs
    omega
  have hdoc : ∀ k p, (b.document k synced (Dict.get? attested k) generation limit.toNat).map
      (fun d => (ActionKey.text k, d)) = .ok p →
      p.1 = k.text ∧ b.document k synced (attestationOf coverage k) generation limit.toNat = .ok p.2 := by
    intro k p hp
    obtain ⟨d, hd, rfl⟩ := map_eq_ok.mp hp
    rw [get?_attestations hattested] at hd
    exact ⟨rfl, hd⟩
  refine ⟨hlimit, fun hkey => ?_, fun hkey => ?_⟩
  · obtain ⟨p, hp, hmap⟩ := exists_of_forall₂_left hall key ((List.mem_insertionSort _).mpr hkey)
    obtain ⟨htext, hd⟩ := hdoc key p hmap
    obtain ⟨d, hget⟩ : ∃ d, Dict.get? docs key.text = some d :=
      Option.isSome_iff_exists.mp (Dict.get?_isSome_iff.mpr (htext ▸ List.mem_map_of_mem hp))
    -- an entry under the text of the key was computed from the key
    obtain ⟨k, -, hk⟩ := exists_of_forall₂ hall (key.text, d) (Dict.mem_of_get? hget)
    obtain ⟨hktext, hkd⟩ := hdoc k (key.text, d) hk
    obtain rfl := text_injective hktext
    exact ⟨d, hget, hkd⟩
  · by_contra hne
    obtain ⟨d, hget⟩ := Option.ne_none_iff_exists'.mp hne
    obtain ⟨k, hmem, hk⟩ := exists_of_forall₂ hall (key.text, d) (Dict.mem_of_get? hget)
    obtain ⟨hktext, -⟩ := hdoc k (key.text, d) hk
    obtain rfl := text_injective hktext
    exact hkey ((List.mem_insertionSort _).mp hmem)

/-- A document stands under the text of a key. -/
theorem key_of_build {b : Builder} {synced : Datetime} {coverage : List Coverage} {generation : Str} {limit : Int}
    {docs : Dict Str Obj} (h : b.build synced coverage generation limit = .ok docs) {text : Str}
    (htext : text ∈ Dict.keys docs) : ∃ key : ActionKey, text = key.text := by
  unfold build at h
  split at h
  · cases h
  obtain ⟨attested, -, h⟩ := bind_eq_ok.mp h
  obtain ⟨p, hp, rfl⟩ := List.mem_map.mp htext
  obtain ⟨k, -, hk⟩ := exists_of_forall₂ (mapM_eq_ok.mp h) p hp
  obtain ⟨d, -, rfl⟩ := map_eq_ok.mp hk
  exact ⟨k, rfl⟩

/-- The document of a key. -/
theorem document_of_build {b : Builder} {synced : Datetime} {coverage : List Coverage} {generation : Str} {limit : Int}
    {docs : Dict Str Obj} (h : b.build synced coverage generation limit = .ok docs) {key : ActionKey} {d : Obj}
    (hd : Dict.get? docs key.text = some d) :
    key ∈ b.keys ∧ b.document key synced (attestationOf coverage key) generation limit.toNat = .ok d := by
  obtain ⟨-, hin, hout⟩ := build_eq_ok h key
  by_cases hkey : key ∈ b.keys
  · obtain ⟨d', hd', hdoc⟩ := hin hkey
    obtain rfl := Option.some.inj (hd.symm.trans hd')
    exact ⟨hkey, hdoc⟩
  · rw [hout hkey] at hd
    cases hd

end Builder

/-! ## 3. The fields of a document

A document, read off as the verdict it was written from. -/

/-- What a document says of its verdict, one field of the document after another.  Nothing else of
a document is used anywhere. -/
structure Verdict.Shown [Hashlib] (v : Verdict) (key : ActionKey) (limit : Nat) (d : Obj) : Prop where
  runKey : Dict.get? d "action_run_key" = some (.str key.text)
  source : Dict.get? d "source_networker" = some (.str key.1.name)
  jobId : Dict.get? d "action_job_id" = some (.str key.2)
  jobType : Dict.get? d "action_job_type" = some (Json.ofOption .str (v.action.map Job.kind))
  status : Dict.get? d "action_status" = some (Json.ofOption .str (v.action.map Job.status))
  workflow : Dict.get? d "action_workflow_run_key" =
    some (Json.ofOption (fun root => .str (key.1.name ++ lit ":" ++ root)) (v.action.bind Job.root))
  policyName : Dict.get? d "policy_name" = some (publicName v.published 0)
  workflowName : Dict.get? d "workflow_name" = some (publicName v.published 1)
  groupName : Dict.get? d "protection_group" = some (publicName v.published 2)
  mapping : Dict.get? d "mapping_status" = some (.str v.mapping)
  verification : Dict.get? d "verification_status" = some (.str v.verification)
  reason : Dict.get? d "reason" = some (.str (Str.join ";" v.reasons))
  count : Dict.get? d "candidate_count" = some (.int v.candidates.card)
  fingerprint : ∃ fp, digest (.arr ((sorted v.candidates).map strArray)) = .ok fp ∧
    Dict.get? d "candidate_fingerprint" = some (.str fp)
  start : Dict.get? d "action_start_time" = some (isoformat (v.action.bind Job.start))
  finish : Dict.get? d "action_end_time" = some (isoformat (v.action.bind Job.finish))
  evidence : ∃ rest : Obj, Dict.get? d "candidate_evidence" =
    some (.obj (("items", .arr ((v.records.take limit).map auditEntry)) :: rest))

theorem document_shown [Unicode] [Hashlib] {v : Verdict} {key : ActionKey} {synced : Datetime} {coverage : Option Coverage}
    {generation : Str} {limit : Nat} {d : Obj} (h : v.document key synced coverage generation limit = .ok d) :
    v.Shown key limit d := by
  unfold Verdict.document at h
  obtain ⟨references, -, h⟩ := bind_eq_ok.mp h
  obtain ⟨fingerprint, hf, h⟩ := bind_eq_ok.mp h
  obtain rfl := Except.ok.inj h
  exact ⟨rfl, rfl, rfl, rfl, rfl, rfl, rfl, rfl, rfl, rfl, rfl, rfl, rfl, ⟨fingerprint, hf, rfl⟩, rfl, rfl, ⟨_, rfl⟩⟩

/-- The names of a document are null when nothing is published. -/
theorem Verdict.Shown.unpublished [Hashlib] {v : Verdict} {key : ActionKey} {limit : Nat} {d : Obj}
    (h : v.Shown key limit d) (hnone : v.published = none) :
    Dict.get? d "policy_name" = some .null ∧ Dict.get? d "workflow_name" = some .null ∧
      Dict.get? d "protection_group" = some .null := by
  refine ⟨?_, ?_, ?_⟩
  · rw [h.policyName, hnone]
    rfl
  · rw [h.workflowName, hnone]
    rfl
  · rw [h.groupName, hnone]
    rfl

end BackupCollector
