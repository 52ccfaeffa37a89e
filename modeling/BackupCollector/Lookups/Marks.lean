/-
# What a mark changes

The documents read five things off the ledger for a key: its records, its blocked reasons, the
copies of a job, and the two flags.  Each mark changes at most one of them, at one key, and none is
ever taken back: records and copies are only added, reasons and flags stay.

So there is a lemma for each pair of a thing that is read and a mark, and from each, by induction,
one for a list of marks.  What a list of marks leaves is said outright where that is possible: a
reason is there when a mark adds it, a copy when a mark brings one that is equal to it but for the
hit, and the record of a fingerprint is the first of the latest observations of it
(`get?_recordsOf`).

The one mark that changes more than its own key is that of an identity.  A backup id that was seen
with another fingerprint blocks the actions of BOTH, the earlier and the present one; `Adds` is a
case analysis because of it.

Whether two lists of marks leave the same is not asked here; `Rereading` and `ArrivalOrder` answer
it, from these lemmas.
-/
import BackupCollector.Lookups.Ledger

namespace BackupCollector

open Py

/-! ## 1. Reading the ledger

The five things, as functions of the ledger. -/

namespace Builder

/-- The reasons the ledger itself holds against a key. -/
def blockedOf (b : Builder) (key : ActionKey) : Finset Str := (Dict.get? b.blocked key).getD ∅

/-- The records of a key, by fingerprint. -/
def recordsOf (b : Builder) (key : ActionKey) : Dict Str Evidence := (Dict.get? b.evidence key).getD []

/-- The fingerprints a backup id has been seen with, and the actions they named. -/
def revisionsOf (b : Builder) (identity : Source × Str) : Dict Str ActionKey :=
  (Dict.get? b.identities identity).getD []

theorem blockedOf_block (b : Builder) (k : ActionKey) (reason : Str) (key : ActionKey) :
    (b.block k reason).blockedOf key = if k = key then insert reason (b.blockedOf key) else b.blockedOf key := by
  unfold blockedOf block
  rw [Dict.get?_modify]
  by_cases h : k = key
  · subst h
    simp
  · simp [h]

theorem mem_blockedOf_block {b : Builder} {k key : ActionKey} {reason r : Str} :
    r ∈ (b.block k reason).blockedOf key ↔ r ∈ b.blockedOf key ∨ (k = key ∧ r = reason) := by
  rw [blockedOf_block]
  by_cases h : k = key
  · simp [h, or_comm]
  · simp [h]

/-- The two blocks of every earlier revision with another fingerprint. -/
theorem blocks_eq (olds : Dict Str ActionKey) (fingerprint : Str) (key : ActionKey) (b : Builder) :
    ∃ blocked, olds.foldl (fun b old =>
        if old.1 ≠ fingerprint then
          (b.block old.2 "backup_revision_conflict").block key "backup_revision_conflict"
        else b) b = { b with blocked := blocked } ∧
      ∀ k r, r ∈ ({ b with blocked := blocked } : Builder).blockedOf k ↔ r ∈ b.blockedOf k ∨
        (r = lit "backup_revision_conflict" ∧ ∃ old ∈ olds, old.1 ≠ fingerprint ∧ (k = old.2 ∨ k = key)) := by
  induction olds generalizing b with
  | nil => exact ⟨b.blocked, rfl, by simp⟩
  | cons old olds ih =>
    rw [List.foldl_cons]
    by_cases h : old.1 ≠ fingerprint
    · rw [if_pos h]
      obtain ⟨blocked, heq, hmem⟩ := ih ((b.block old.2 "backup_revision_conflict").block key "backup_revision_conflict")
      refine ⟨blocked, heq, fun k r => ?_⟩
      have hread : ({ b with blocked := blocked } : Builder).blockedOf k =
          ({ (b.block old.2 "backup_revision_conflict").block key "backup_revision_conflict" with
            blocked := blocked } : Builder).blockedOf k := rfl
      rw [hread, hmem k r, mem_blockedOf_block, mem_blockedOf_block]
      constructor
      · rintro (((hr | ⟨rfl, hr⟩) | ⟨rfl, hr⟩) | ⟨hr, old', hold', hne, hk⟩)
        · exact Or.inl hr
        · exact Or.inr ⟨hr, old, by simp, h, Or.inl rfl⟩
        · exact Or.inr ⟨hr, old, by simp, h, Or.inr rfl⟩
        · exact Or.inr ⟨hr, old', List.mem_cons_of_mem old hold', hne, hk⟩
      · rintro (hr | ⟨hr, old', hold', hne, hk⟩)
        · exact Or.inl (Or.inl (Or.inl hr))
        · rcases List.mem_cons.mp hold' with rfl | hold'
          · rcases hk with rfl | rfl
            · exact Or.inl (Or.inl (Or.inr ⟨rfl, hr⟩))
            · exact Or.inl (Or.inr ⟨rfl, hr⟩)
          · exact Or.inr ⟨hr, old', hold', hne, hk⟩
    · rw [if_neg h]
      obtain ⟨blocked, heq, hmem⟩ := ih b
      refine ⟨blocked, heq, fun k r => ?_⟩
      rw [hmem k r]
      constructor
      · rintro (hr | ⟨hr, old', hold', hrest⟩)
        · exact Or.inl hr
        · exact Or.inr ⟨hr, old', List.mem_cons_of_mem old hold', hrest⟩
      · rintro (hr | ⟨hr, old', hold', hne, hk⟩)
        · exact Or.inl hr
        · rcases List.mem_cons.mp hold' with rfl | hold'
          · exact absurd hne h
          · exact Or.inr ⟨hr, old', hold', hne, hk⟩

/-- What recording a revision does: it blocks the actions of the other revisions and its own, and
then stands for its fingerprint. -/
theorem mark_identity (b : Builder) (source : Source) (backupId fingerprint actionId : Str) :
    ∃ blocked, b.mark (.identity source backupId fingerprint actionId) =
        { b with
          blocked := blocked
          identities := Dict.modify b.identities (source, backupId) [] fun d =>
            Dict.set d fingerprint (source, actionId) } ∧
      ∀ k r, r ∈ (b.mark (.identity source backupId fingerprint actionId)).blockedOf k ↔ r ∈ b.blockedOf k ∨
        (r = lit "backup_revision_conflict" ∧
          ∃ old ∈ b.revisionsOf (source, backupId), old.1 ≠ fingerprint ∧ (k = old.2 ∨ k = (source, actionId))) := by
  obtain ⟨blocked, heq, hmem⟩ := blocks_eq (b.revisionsOf (source, backupId)) fingerprint (source, actionId) b
  unfold revisionsOf at heq
  have hmark : b.mark (.identity source backupId fingerprint actionId) =
      { b with
        blocked := blocked
        identities := Dict.modify b.identities (source, backupId) [] fun d =>
          Dict.set d fingerprint (source, actionId) } := by
    unfold mark recordIdentity
    dsimp only
    rw [heq]
  refine ⟨blocked, hmark, fun k r => ?_⟩
  rw [← hmem k r, hmark]
  rfl

/-! ## 2. One mark

What each of them becomes by one mark. -/

/-- The records of a key after a mark: an observation of the key is kept if it is the latest. -/
theorem recordsOf_mark (b : Builder) (m : Mark) (key : ActionKey) :
    (b.mark m).recordsOf key = match m with
      | .evidence fingerprint item =>
        if item.key = key then keepLatest (b.recordsOf key) fingerprint item else b.recordsOf key
      | _ => b.recordsOf key := by
  cases m with
  | evidence fingerprint item =>
    unfold recordsOf mark storeEvidence
    dsimp only
    rw [Dict.get?_modify]
    by_cases h : item.key = key
    · rw [if_pos h, if_pos h, h]
      rfl
    · rw [if_neg h, if_neg h]
  | identity source backupId fingerprint actionId =>
    obtain ⟨blocked, heq, -⟩ := b.mark_identity source backupId fingerprint actionId
    rw [heq]
    rfl
  | _ => rfl

/-- The copies of a job after a mark: a new copy of it is appended. -/
theorem copies_mark (b : Builder) (m : Mark) (key : ActionKey) :
    (b.mark m).jobs.copies key = match m with
      | .copy job => if job.key = key then keepCopy (b.jobs.copies key) job else b.jobs.copies key
      | _ => b.jobs.copies key := by
  cases m with
  | copy job =>
    unfold JobTable.copies mark
    dsimp only
    rw [Dict.get?_modify]
    by_cases h : job.key = key
    · rw [if_pos h, if_pos h, h]
      rfl
    · rw [if_neg h, if_neg h]
  | identity source backupId fingerprint actionId =>
    obtain ⟨blocked, heq, -⟩ := b.mark_identity source backupId fingerprint actionId
    rw [heq]
  | _ => rfl

/-- The revisions of a backup after a mark. -/
theorem revisionsOf_mark (b : Builder) (m : Mark) (identity : Source × Str) :
    (b.mark m).revisionsOf identity = match m with
      | .identity source backupId fingerprint actionId =>
        if (source, backupId) = identity then Dict.set (b.revisionsOf identity) fingerprint (source, actionId)
        else b.revisionsOf identity
      | _ => b.revisionsOf identity := by
  cases m with
  | identity source backupId fingerprint actionId =>
    obtain ⟨blocked, heq, -⟩ := b.mark_identity source backupId fingerprint actionId
    rw [heq]
    unfold revisionsOf
    dsimp only
    rw [Dict.get?_modify]
    by_cases h : (source, backupId) = identity
    · rw [if_pos h, if_pos h, h]
      rfl
    · rw [if_neg h, if_neg h]
  | _ => rfl

/-- What a mark adds to the reasons against a key.  An identity adds to its own key and to those
that other revisions of the backup have named; the other marks add to one key or to none. -/
def Adds (b : Builder) (m : Mark) (key : ActionKey) (r : Str) : Prop :=
  match m with
  | .blocked k reason => k = key ∧ r = reason
  | .identity source backupId fingerprint actionId => r = lit "backup_revision_conflict" ∧
      ∃ old ∈ b.revisionsOf (source, backupId), old.1 ≠ fingerprint ∧ (key = old.2 ∨ key = (source, actionId))
  | _ => False

theorem mem_blockedOf_mark {b : Builder} {m : Mark} {key : ActionKey} {r : Str} :
    r ∈ (b.mark m).blockedOf key ↔ r ∈ b.blockedOf key ∨ b.Adds m key r := by
  cases m with
  | blocked k reason => exact mem_blockedOf_block
  | identity source backupId fingerprint actionId =>
    obtain ⟨_, -, hmem⟩ := b.mark_identity source backupId fingerprint actionId
    exact hmem key r
  | _ =>
    unfold Adds
    rw [or_false]
    rfl

theorem unknownSourceErrors_mark (b : Builder) (m : Mark) :
    (b.mark m).unknownSourceErrors = match m with
      | .unattributed => true
      | _ => b.unknownSourceErrors := by
  cases m with
  | identity source backupId fingerprint actionId =>
    obtain ⟨blocked, heq, -⟩ := b.mark_identity source backupId fingerprint actionId
    rw [heq]
  | _ => rfl

theorem incompleteSources_mark (b : Builder) (m : Mark) :
    (b.mark m).incompleteSources = match m with
      | .incomplete sources => b.incompleteSources ∪ sources
      | _ => b.incompleteSources := by
  cases m with
  | identity source backupId fingerprint actionId =>
    obtain ⟨blocked, heq, -⟩ := b.mark_identity source backupId fingerprint actionId
    rw [heq]
  | _ => rfl

/-! ## 3. A list of marks

And by a list of them.  Observations are ordered by their time, an undated one before all others,
and an earlier one of the same time wins. -/

theorem marks_concat (b : Builder) (ms : List Mark) (m : Mark) : b.marks (ms ++ [m]) = (b.marks ms).mark m := by
  rw [marks_append]
  rfl

/-- What holds of the empty ledger and is kept by every mark holds of every ledger. -/
theorem marks_induction {P : List Mark → Builder → Prop} (hnil : P [] {})
    (hstep : ∀ ms b m, P ms b → P (ms ++ [m]) (b.mark m)) (ms : List Mark) :
    P ms (({} : Builder).marks ms) := by
  induction ms using List.reverseRecOn with
  | nil => exact hnil
  | append_singleton ms m ih =>
    rw [marks_concat]
    exact hstep ms _ m ih

end Builder

/-- The order of observations: an undated one comes first. -/
def Evidence.observedRank (e : Evidence) : WithBot Nat := e.observedAt.map Instant.us

theorem Evidence.supersedes_iff {item previous : Evidence} :
    item.supersedes previous = true ↔ previous.observedRank < item.observedRank := by
  unfold Evidence.supersedes Evidence.observedRank
  cases item.observedAt with
  | none =>
    simp only [Option.map_none, Bool.false_eq_true, false_iff]
    exact not_lt_bot (α := WithBot Nat)
  | some t =>
    cases previous.observedAt with
    | none =>
      simp only [Option.map_some, Option.map_none, true_iff]
      exact WithBot.bot_lt_coe t.us
    | some p =>
      simp only [Option.map_some, decide_eq_true_eq]
      exact (WithBot.coe_lt_coe (a := p.us) (b := t.us)).symm

/-- The records of a fingerprint after one more observation. -/
theorem get?_keepLatest (records : Dict Str Evidence) (fingerprint : Str) (item : Evidence) (fp : Str) :
    Dict.get? (keepLatest records fingerprint item) fp =
      if fingerprint = fp then match Dict.get? records fp with
        | none => some item
        | some m => if m.observedRank < item.observedRank then some item else some m
      else Dict.get? records fp := by
  unfold keepLatest
  cases hget : Dict.get? records fingerprint with
  | none =>
    dsimp only
    rw [Dict.get?_set]
    split
    · rename_i h
      rw [← h, hget]
    · rfl
  | some previous =>
    dsimp only
    by_cases hs : item.supersedes previous = true
    · rw [if_pos hs, Dict.get?_set]
      split
      · rename_i h
        rw [← h, hget]
        exact (if_pos (Evidence.supersedes_iff.mp hs)).symm
      · rfl
    · rw [if_neg hs]
      split
      · rename_i h
        rw [← h, hget]
        exact (if_neg fun hlt => hs (Evidence.supersedes_iff.mpr hlt)).symm
      · rfl

theorem keys_keepLatest (records : Dict Str Evidence) (fingerprint : Str) (item : Evidence) :
    Dict.keys (keepLatest records fingerprint item) =
      if fingerprint ∈ Dict.keys records then Dict.keys records else Dict.keys records ++ [fingerprint] := by
  unfold keepLatest
  cases hget : Dict.get? records fingerprint with
  | none =>
    dsimp only
    rw [Dict.keys_set]
    split <;> simp_all
  | some previous =>
    have hmem : fingerprint ∈ Dict.keys records :=
      Dict.get?_isSome_iff.mp (Option.isSome_iff_exists.mpr ⟨previous, hget⟩)
    have hset : Dict.keys (Dict.set records fingerprint item) = Dict.keys records := by
      rw [Dict.keys_set]
      simp [hmem]
    refine Eq.trans ?_ (if_pos hmem).symm
    dsimp only
    split
    · exact hset
    · rfl

/-- A copy without the hit it was read from: what the execution checks see of it. -/
def Job.core (j : Job) : Job := { j with reference := [] }

theorem Job.core_of_same {a b : Job} (h : Job.same a b = true) : a.core = b.core := by
  unfold Job.same at h
  simp only [Bool.and_eq_true, decide_eq_true_eq] at h
  obtain ⟨⟨⟨⟨⟨⟨⟨⟨⟨h₁, h₂⟩, h₃⟩, h₄⟩, h₅⟩, h₆⟩, h₇⟩, h₈⟩, h₉⟩, -⟩ := h
  unfold Job.core
  rw [h₁, h₂, h₃, h₄, h₅, h₆, h₇, h₈, h₉]

theorem keepCopy_cases (copies : List Job) (job : Job) :
    (keepCopy copies job = copies ∧ ∃ c ∈ copies, c.core = job.core) ∨ keepCopy copies job = copies ++ [job] := by
  unfold keepCopy
  cases h : copies.any (Job.same job) with
  | true =>
    obtain ⟨c, hc, hsame⟩ := List.any_eq_true.mp h
    exact Or.inl ⟨rfl, c, hc, (Job.core_of_same hsame).symm⟩
  | false => exact Or.inr rfl

/-- The observations of one revision of a key, in the order they were made. -/
def observations (ms : List Mark) (key : ActionKey) (fp : Str) : List Evidence :=
  ms.filterMap fun m => match m with
    | .evidence fingerprint item => if item.key = key ∧ fingerprint = fp then some item else none
    | _ => none

theorem mem_observations {ms : List Mark} {key : ActionKey} {fp : Str} {item : Evidence} :
    item ∈ observations ms key fp ↔ .evidence fp item ∈ ms ∧ item.key = key := by
  unfold observations
  rw [List.mem_filterMap]
  constructor
  · rintro ⟨m, hm, h⟩
    cases m with
    | evidence fingerprint other =>
      dsimp only at h
      split at h
      · rename_i hkey
        obtain rfl := Option.some.inj h
        obtain ⟨hk, rfl⟩ := hkey
        exact ⟨hm, hk⟩
      · cases h
    | _ => cases h
  · rintro ⟨hm, hkey⟩
    exact ⟨_, hm, by simp [hkey]⟩

namespace Builder

/-- The record of a fingerprint is the first of the latest observations of it. -/
theorem get?_recordsOf (ms : List Mark) (key : ActionKey) (fp : Str) :
    Dict.get? ((({} : Builder).marks ms).recordsOf key) fp =
      maxBy Evidence.observedRank (observations ms key fp) := by
  refine marks_induction (P := fun ms b =>
    Dict.get? (b.recordsOf key) fp = maxBy Evidence.observedRank (observations ms key fp)) rfl (fun ms b m ih => ?_) ms
  have hobs : observations (ms ++ [m]) key fp = observations ms key fp ++ observations [m] key fp :=
    List.filterMap_append
  rw [hobs, recordsOf_mark]
  cases m with
  | evidence fingerprint item =>
    by_cases hkey : item.key = key
    · by_cases hfp : fingerprint = fp
      · have hone : observations [.evidence fingerprint item] key fp = [item] := by
          simp [observations, hkey, hfp]
        rw [hone, maxBy_concat, ← ih]
        simp only [hkey, if_true]
        rw [get?_keepLatest, if_pos hfp]
        cases Dict.get? (b.recordsOf key) fp with
        | none => rfl
        | some previous => exact if_congr Iff.rfl rfl rfl
      · have hnone : observations [.evidence fingerprint item] key fp = [] := by
          simp [observations, hfp]
        rw [hnone, List.append_nil, ← ih]
        simp only [hkey, if_true]
        rw [get?_keepLatest, if_neg hfp]
    · have hnone : observations [.evidence fingerprint item] key fp = [] := by
        simp [observations, hkey]
      rw [hnone, List.append_nil, ← ih]
      simp only [hkey, if_false]
  | _ => simpa [observations] using ih

/-- The fingerprints of a key are distinct. -/
theorem nodup_recordsOf (ms : List Mark) (key : ActionKey) :
    (Dict.keys ((({} : Builder).marks ms).recordsOf key)).Nodup := by
  refine marks_induction (P := fun _ b => (Dict.keys (b.recordsOf key)).Nodup) List.nodup_nil
    (fun _ b m ih => ?_) ms
  rw [recordsOf_mark]
  cases m with
  | evidence fingerprint item =>
    dsimp only
    split
    · rw [keys_keepLatest]
      split
      · exact ih
      · rename_i hnew
        exact List.nodup_append.mpr ⟨ih, List.nodup_singleton _, by
          intro a ha c hc hac
          obtain rfl := List.mem_singleton.mp hc
          exact hnew (hac ▸ ha)⟩
    · exact ih
  | _ => exact ih

/-- The copies of a job are those the marks brought, each of them once at most. -/
theorem mem_copies_core (ms : List Mark) (key : ActionKey) (c : Job) :
    (∃ j ∈ (({} : Builder).marks ms).jobs.copies key, j.core = c) ↔
      ∃ j, .copy j ∈ ms ∧ j.key = key ∧ j.core = c := by
  refine marks_induction (P := fun ms b => (∃ j ∈ b.jobs.copies key, j.core = c) ↔
    ∃ j, .copy j ∈ ms ∧ j.key = key ∧ j.core = c) (by simp [JobTable.copies]) (fun ms b m ih => ?_) ms
  rw [copies_mark]
  cases m with
  | copy job =>
    have hsplit : (∃ j, .copy j ∈ ms ++ [.copy job] ∧ j.key = key ∧ j.core = c) ↔
        (∃ j, .copy j ∈ ms ∧ j.key = key ∧ j.core = c) ∨ (job.key = key ∧ job.core = c) := by
      simp only [List.mem_append, List.mem_singleton, Mark.copy.injEq]
      constructor
      · rintro ⟨j, hj | rfl, hrest⟩
        · exact Or.inl ⟨j, hj, hrest⟩
        · exact Or.inr hrest
      · rintro (⟨j, hj, hrest⟩ | hrest)
        · exact ⟨j, Or.inl hj, hrest⟩
        · exact ⟨job, Or.inr rfl, hrest⟩
    rw [hsplit, ← ih]
    by_cases hkey : job.key = key
    · simp only [hkey, if_true, true_and]
      rcases keepCopy_cases (b.jobs.copies key) job with ⟨hsame, c', hc', hcore⟩ | hnew
      · rw [hsame]
        refine ⟨Or.inl, ?_⟩
        rintro (h | rfl)
        · exact h
        · exact ⟨c', hc', hcore⟩
      · rw [hnew]
        simp only [List.mem_append, List.mem_singleton]
        constructor
        · rintro ⟨j, hj | rfl, hcore⟩
          · exact Or.inl ⟨j, hj, hcore⟩
          · exact Or.inr hcore
        · rintro (⟨j, hj, hcore⟩ | hcore)
          · exact ⟨j, Or.inl hj, hcore⟩
          · exact ⟨job, Or.inr rfl, hcore⟩
    · simp [hkey]
  | _ =>
    rw [ih]
    simp

theorem unknownSourceErrors_marks (ms : List Mark) :
    (({} : Builder).marks ms).unknownSourceErrors = true ↔ .unattributed ∈ ms := by
  refine marks_induction (P := fun ms b => b.unknownSourceErrors = true ↔ .unattributed ∈ ms) (by simp)
    (fun ms b m ih => ?_) ms
  rw [unknownSourceErrors_mark]
  cases m with
  | unattributed => simp
  | _ => simpa using ih

theorem mem_incompleteSources_marks (ms : List Mark) (s : Source) :
    s ∈ (({} : Builder).marks ms).incompleteSources ↔ ∃ sources, .incomplete sources ∈ ms ∧ s ∈ sources := by
  refine marks_induction (P := fun ms b => s ∈ b.incompleteSources ↔ ∃ sources, .incomplete sources ∈ ms ∧ s ∈ sources)
    (by simp) (fun ms b m ih => ?_) ms
  rw [incompleteSources_mark]
  cases m with
  | incomplete sources =>
    dsimp only
    rw [Finset.mem_union, ih]
    simp only [List.mem_append, List.mem_singleton, Mark.incomplete.injEq]
    constructor
    · rintro (⟨xs, hxs, hs⟩ | hs)
      · exact ⟨xs, Or.inl hxs, hs⟩
      · exact ⟨sources, Or.inr rfl, hs⟩
    · rintro ⟨xs, hxs | rfl, hs⟩
      · exact Or.inl ⟨xs, hxs, hs⟩
      · exact Or.inr hs
  | _ => simpa using ih

/-- The jobs of the ledger stand under distinct keys. -/
theorem nodup_jobs (ms : List Mark) : (Dict.keys (({} : Builder).marks ms).jobs).Nodup := by
  refine marks_induction (P := fun _ b => (Dict.keys b.jobs).Nodup) List.nodup_nil (fun _ b m ih => ?_) ms
  cases m with
  | copy job => exact Dict.nodup_keys_set ih _ _
  | identity source backupId fingerprint actionId =>
    obtain ⟨blocked, heq, -⟩ := b.mark_identity source backupId fingerprint actionId
    rw [heq]
    exact ih
  | _ => exact ih

/-- A copy stands under its own key. -/
theorem key_of_mem_copies (ms : List Mark) {key : ActionKey} {j : Job}
    (h : j ∈ (({} : Builder).marks ms).jobs.copies key) : j.key = key := by
  obtain ⟨j', -, hkey, hcore⟩ := (mem_copies_core ms key j.core).mp ⟨j, h, rfl⟩
  have hsame : j.core.key = j'.core.key := by rw [hcore]
  exact hsame.trans hkey

end Builder

end BackupCollector
