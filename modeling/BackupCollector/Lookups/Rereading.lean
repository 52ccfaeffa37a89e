/-
# Reading a hit again

Hits are read more than once: a search that is repeated, a page that overlaps, a restart.  So
reading a hit again must change nothing, however much was read in between
(`rereading_changes_nothing`).

For sets and flags this is clear, and the ledger has three things that are neither.

* A record is replaced by a later observation of its revision.  The record is at least as late as
  any observation that was made before, so the same observation does not replace it again, and one
  that lost before loses again.
* A copy is kept unless an equal one is there, and equality includes the hit it was read from.  A
  repeated hit brings an equal copy, so the list does not grow.
* A revision blocks the other revisions of its backup when it arrives.  When it arrives again it
  blocks those that came after it; but these have blocked IT when they came, and both actions are
  blocked already.

The last needs that a revision names one action, which is where the run must be free of collisions.
Ledgers that differ in nothing a document shows are `Alike`, and the induction goes over the marks
that are made again.

Only hits that were FED are read again.  One that a call did not get to is new when it comes again.
-/
import BackupCollector.Lookups.Build
import BackupCollector.Lookups.Fingerprints

namespace BackupCollector

open Py

/-! ## 1. Revisions

The blocks that two revisions of a backup have left, and that both are there. -/

namespace Builder

theorem nodup_revisionsOf (ms : List Mark) (identity : Source × Str) :
    (Dict.keys ((({} : Builder).marks ms).revisionsOf identity)).Nodup := by
  refine marks_induction (P := fun _ b => (Dict.keys (b.revisionsOf identity)).Nodup) List.nodup_nil
    (fun _ b m ih => ?_) ms
  rw [revisionsOf_mark]
  cases m with
  | identity source backupId fingerprint actionId =>
    dsimp only
    split
    · exact Dict.nodup_keys_set ih _ _
    · exact ih
  | _ => exact ih

theorem blockedOf_mark_subset (b : Builder) (m : Mark) (key : ActionKey) :
    b.blockedOf key ⊆ (b.mark m).blockedOf key := fun _ hr => mem_blockedOf_mark.mpr (Or.inl hr)

theorem blockedOf_marks_subset (b : Builder) (ms : List Mark) (key : ActionKey) :
    b.blockedOf key ⊆ (b.marks ms).blockedOf key := by
  induction ms generalizing b with
  | nil => exact Finset.Subset.refl _
  | cons m ms ih => exact (blockedOf_mark_subset b m key).trans (ih (b.mark m))

/-- A reason given by a mark stays. -/
theorem mem_blockedOf_of_mark {ms : List Mark} {key : ActionKey} {reason : Str} (h : .blocked key reason ∈ ms) :
    reason ∈ (({} : Builder).marks ms).blockedOf key := by
  obtain ⟨xs, ys, rfl⟩ := List.append_of_mem h
  have hcons : ({} : Builder).marks (xs ++ .blocked key reason :: ys) =
      ((({} : Builder).marks xs).mark (.blocked key reason)).marks ys := by
    rw [marks_append]
    rfl
  rw [hcons]
  exact blockedOf_marks_subset _ ys key (mem_blockedOf_mark.mpr (Or.inr ⟨rfl, rfl⟩))

/-- Of two revisions of one backup, the action of each is blocked. -/
def ConflictsBlocked (b : Builder) : Prop :=
  ∀ identity fp fp' key key', Dict.get? (b.revisionsOf identity) fp = some key →
    Dict.get? (b.revisionsOf identity) fp' = some key' → fp ≠ fp' →
    lit "backup_revision_conflict" ∈ b.blockedOf key

theorem conflictsBlocked (ms : List Mark) : (({} : Builder).marks ms).ConflictsBlocked := by
  induction ms using List.reverseRecOn with
  | nil =>
    intro identity fp fp' key key' hfp
    cases hfp
  | append_singleton ms m ih =>
    rw [marks_concat]
    generalize ({} : Builder).marks ms = b at ih
    intro identity fp fp' key key' hfp hfp' hne
    rw [revisionsOf_mark] at hfp hfp'
    have hkept : ∀ {fp fp' key key'}, Dict.get? (b.revisionsOf identity) fp = some key →
        Dict.get? (b.revisionsOf identity) fp' = some key' → fp ≠ fp' →
        lit "backup_revision_conflict" ∈ (b.mark m).blockedOf key := fun h h' hne =>
      blockedOf_mark_subset b m _ (ih identity _ _ _ _ h h' hne)
    cases m with
    | identity source backupId fingerprint actionId =>
      dsimp only at hfp hfp'
      split at hfp
      · rename_i hid
        subst hid
        rw [if_pos rfl] at hfp'
        rw [Dict.get?_set] at hfp hfp'
        split at hfp
        · rename_i heq
          subst heq
          rw [if_neg hne] at hfp'
          obtain rfl := Option.some.inj hfp
          -- the new revision against an older one
          exact mem_blockedOf_mark.mpr (Or.inr ⟨rfl, (fp', key'), Dict.mem_of_get? hfp', Ne.symm hne, Or.inr rfl⟩)
        · rename_i hnew
          split at hfp'
          · -- an older revision against the new one
            exact mem_blockedOf_mark.mpr (Or.inr ⟨rfl, (fp, key), Dict.mem_of_get? hfp, Ne.symm hnew, Or.inl rfl⟩)
          · exact hkept hfp hfp' hne
      · rename_i hid
        rw [if_neg hid] at hfp'
        exact hkept hfp hfp' hne
    | _ => exact hkept hfp hfp' hne

/-- A revision that was marked stands for an action it was marked with. -/
theorem get?_revisionsOf {ms : List Mark} {source : Source} {backupId fingerprint actionId : Str}
    (h : .identity source backupId fingerprint actionId ∈ ms) :
    ∃ actionId', .identity source backupId fingerprint actionId' ∈ ms ∧
      Dict.get? ((({} : Builder).marks ms).revisionsOf (source, backupId)) fingerprint = some (source, actionId') := by
  induction ms using List.reverseRecOn generalizing actionId with
  | nil => cases h
  | append_singleton ms m ih =>
    rw [marks_concat, revisionsOf_mark]
    have hold : ∀ {a}, .identity source backupId fingerprint a ∈ ms → ∃ a',
        .identity source backupId fingerprint a' ∈ ms ++ [m] ∧
        Dict.get? ((({} : Builder).marks ms).revisionsOf (source, backupId)) fingerprint = some (source, a') := by
      intro a ha
      obtain ⟨a', ha', hget⟩ := ih ha
      exact ⟨a', List.mem_append_left _ ha', hget⟩
    rcases List.mem_append.mp h with hin | hin
    · cases m with
      | identity s i f a =>
        dsimp only
        split
        · rename_i hid
          obtain ⟨rfl, rfl⟩ := Prod.mk.inj hid
          rw [Dict.get?_set]
          split
          · rename_i hf
            subst hf
            exact ⟨a, List.mem_append_right _ List.mem_cons_self, rfl⟩
          · exact hold hin
        · exact hold hin
      | _ => exact hold hin
    · obtain rfl := List.mem_singleton.mp hin
      dsimp only
      rw [if_pos rfl, Dict.get?_set_self]
      exact ⟨actionId, List.mem_append_right _ List.mem_cons_self, rfl⟩

end Builder

/-- A revision of a backup names one action. -/
def RevisionsNamed (ms : List Mark) : Prop :=
  ∀ source backupId fingerprint actionId actionId', .identity source backupId fingerprint actionId ∈ ms →
    .identity source backupId fingerprint actionId' ∈ ms → actionId = actionId'

/-! ## 2. A mark made again

Each mark, made a second time.  The statement is that it shows nowhere, and not that the ledger is
equal. -/

/-- Two ledgers that show the same in every document: the same records and copies as far as
documents show them, the same reasons, and the same flags. -/
structure Builder.Alike (b b' : Builder) : Prop where
  records : ∀ key, b.recordsOf key = b'.recordsOf key
  copies : ∀ key, SameCopies (b.jobs.copies key) (b'.jobs.copies key)
  blocked : ∀ key, b.blockedOf key = b'.blockedOf key
  unknown : b.unknownSourceErrors = b'.unknownSourceErrors
  incomplete : ∀ s, s ∈ b.incompleteSources ↔ s ∈ b'.incompleteSources

theorem Builder.Alike.refl (b : Builder) : b.Alike b :=
  ⟨fun _ => rfl, fun _ => SameCopies.refl _, fun _ => rfl, rfl, fun _ => Iff.rfl⟩

theorem Builder.Alike.trans {a b c : Builder} (h : a.Alike b) (h' : b.Alike c) : a.Alike c :=
  ⟨fun key => (h.records key).trans (h'.records key), fun key => (h.copies key).trans (h'.copies key),
    fun key => (h.blocked key).trans (h'.blocked key), h.unknown.trans h'.unknown,
    fun s => (h.incomplete s).trans (h'.incomplete s)⟩

theorem selectionPool_core (xs : List Job) : selectionPool (xs.map Job.core) = (selectionPool xs).map Job.core := by
  have hfilter : (xs.map Job.core).filter Job.isTerminal = (xs.filter Job.isTerminal).map Job.core :=
    List.filter_map
  unfold selectionPool
  rw [hfilter, List.isEmpty_map]
  split <;> rfl

theorem selectedCopy_core (xs : List Job) : (selectedCopy xs).map Job.core = selectedCopy (xs.map Job.core) := by
  have hmap : ∀ ys : List Job, (maxBy selectionKey ys).map Job.core = maxBy selectionKey (ys.map Job.core) := by
    intro ys
    induction ys with
    | nil => rfl
    | cons y ys ih =>
      rw [List.map_cons, maxBy, maxBy, ← ih]
      cases maxBy selectionKey ys with
      | none => rfl
      | some m =>
        dsimp only [Option.map_some]
        have hkey : (selectionKey y.core < selectionKey m.core) = (selectionKey y < selectionKey m) := rfl
        simp only [hkey]
        split <;> rfl
  unfold selectedCopy
  rw [hmap, selectionPool_core]

/-- A copy that is there already is not selected for coming again. -/
theorem selectedCopy_concat_of_mem {xs : List Job} {c : Job} (h : c ∈ xs) :
    selectedCopy (xs ++ [c]) = selectedCopy xs := by
  unfold selectedCopy selectionPool
  rw [List.filter_append]
  by_cases hc : c.isTerminal = true
  · have hmem : c ∈ xs.filter Job.isTerminal := List.mem_filter.mpr ⟨h, hc⟩
    have hne : (xs.filter Job.isTerminal).isEmpty = false :=
      List.isEmpty_eq_false_iff.mpr (List.ne_nil_of_mem hmem)
    have hone : [c].filter Job.isTerminal = [c] := by simp [hc]
    have hne' : (xs.filter Job.isTerminal ++ [c]).isEmpty = false := by simp
    rw [hone, hne, hne', if_neg Bool.false_ne_true, if_neg Bool.false_ne_true]
    exact maxBy_concat_of_mem hmem
  · have hnone : [c].filter Job.isTerminal = [] := by simp [hc]
    rw [hnone, List.append_nil]
    split
    · exact maxBy_concat_of_mem h
    · rfl

theorem SameCopies.keepCopy {xs : List Job} {job : Job} (h : ∃ c ∈ xs, c.core = job.core) :
    SameCopies (keepCopy xs job) xs := by
  rcases keepCopy_cases xs job with ⟨hsame, -⟩ | hnew
  · rw [hsame]
    exact SameCopies.refl xs
  · rw [hnew]
    refine ⟨fun c => ?_, ?_⟩
    · simp only [List.mem_append, List.mem_singleton]
      constructor
      · rintro ⟨j, hj | rfl, hcore⟩
        · exact ⟨j, hj, hcore⟩
        · obtain ⟨c', hc', hsame⟩ := h
          exact ⟨c', hc', hsame.trans hcore⟩
      · rintro ⟨j, hj, hcore⟩
        exact ⟨j, Or.inl hj, hcore⟩
    · obtain ⟨c', hc', hsame⟩ := h
      rw [selectedCopy_core, selectedCopy_core, List.map_append, List.map_singleton]
      exact selectedCopy_concat_of_mem (hsame ▸ List.mem_map_of_mem hc')

/-- An observation that was kept, or lost to a later one, leaves the records as they are. -/
theorem keepLatest_of_mem {ms : List Mark} {fingerprint : Str} {item : Evidence} (h : .evidence fingerprint item ∈ ms) :
    keepLatest ((({} : Builder).marks ms).recordsOf item.key) fingerprint item =
      (({} : Builder).marks ms).recordsOf item.key := by
  have hmem : item ∈ observations ms item.key fingerprint := mem_observations.mpr ⟨h, rfl⟩
  have hget := Builder.get?_recordsOf ms item.key fingerprint
  unfold keepLatest
  cases hmax : maxBy Evidence.observedRank (observations ms item.key fingerprint) with
  | none =>
    rw [maxBy_eq_none.mp hmax] at hmem
    cases hmem
  | some m =>
    rw [hget, hmax]
    have hle := (maxBy_spec hmax).2 item hmem
    have hnot : ¬ item.supersedes m = true := fun hs => absurd (Evidence.supersedes_iff.mp hs) (not_lt.mpr hle)
    exact if_neg hnot

/-- A mark that was made before shows nowhere when it is made again. -/
theorem mark_again {ms : List Mark} (hnamed : RevisionsNamed ms) {m : Mark} (hm : m ∈ ms) :
    (({} : Builder).marks (ms ++ [m])).Alike (({} : Builder).marks ms) := by
  rw [Builder.marks_concat]
  refine ⟨fun key => ?_, fun key => ?_, fun key => ?_, ?_, fun s => ?_⟩
  · rw [Builder.recordsOf_mark]
    cases m with
    | evidence fingerprint item =>
      dsimp only
      split
      · rename_i hkey
        subst hkey
        exact keepLatest_of_mem hm
      · rfl
    | _ => rfl
  · rw [Builder.copies_mark]
    cases m with
    | copy job =>
      dsimp only
      split
      · rename_i hkey
        exact SameCopies.keepCopy ((Builder.mem_copies_core ms key job.core).mpr ⟨job, hm, hkey, rfl⟩)
      · exact SameCopies.refl _
    | _ => exact SameCopies.refl _
  · refine Finset.Subset.antisymm (fun r hr => ?_) (Builder.blockedOf_mark_subset _ m key)
    rcases Builder.mem_blockedOf_mark.mp hr with hr | hadds
    · exact hr
    · cases m with
      | blocked k reason =>
        obtain ⟨rfl, rfl⟩ := hadds
        exact Builder.mem_blockedOf_of_mark hm
      | identity source backupId fingerprint actionId =>
        obtain ⟨rfl, old, hold, hne, hkey⟩ := hadds
        obtain ⟨actionId', hmark, hget⟩ := Builder.get?_revisionsOf hm
        obtain rfl := hnamed source backupId fingerprint actionId actionId' hm hmark
        have hget' := Dict.get?_of_mem (Builder.nodup_revisionsOf ms (source, backupId)) hold
        rcases hkey with rfl | rfl
        · exact Builder.conflictsBlocked ms _ _ _ _ _ hget' hget hne
        · exact Builder.conflictsBlocked ms _ _ _ _ _ hget hget' (Ne.symm hne)
      | _ => exact hadds.elim
  · rw [Builder.unknownSourceErrors_mark]
    cases m with
    | unattributed => exact ((Builder.unknownSourceErrors_marks ms).mpr hm).symm
    | _ => rfl
  · rw [Builder.incompleteSources_mark]
    cases m with
    | incomplete sources =>
      dsimp only
      rw [Finset.mem_union]
      exact ⟨fun h => h.elim id fun h => (Builder.mem_incompleteSources_marks ms s).mpr ⟨sources, hm, h⟩, Or.inl⟩
    | _ => exact Iff.rfl

/-- Nor do any number of them. -/
theorem marks_again {ms : List Mark} (hnamed : RevisionsNamed ms) {again : List Mark} (h : ∀ m ∈ again, m ∈ ms) :
    (({} : Builder).marks (ms ++ again)).Alike (({} : Builder).marks ms) := by
  induction again using List.reverseRecOn with
  | nil =>
    rw [List.append_nil]
    exact Builder.Alike.refl _
  | append_singleton again m ih =>
    have hagain : ∀ x ∈ again, x ∈ ms := fun x hx => h x (List.mem_append_left _ hx)
    have hsub : ∀ x ∈ ms ++ again, x ∈ ms := fun x hx => (List.mem_append.mp hx).elim id (hagain x)
    have hnamed' : RevisionsNamed (ms ++ again) := fun s i f a a' ha ha' =>
      hnamed s i f a a' (hsub _ ha) (hsub _ ha')
    rw [← List.append_assoc]
    exact (mark_again hnamed' (List.mem_append_left _ (h m (List.mem_append_right _ List.mem_cons_self)))).trans
      (ih hagain)

/-! ## 3. Reading again

Any number of calls over hits that were fed before. -/

section Runs

variable [Unicode] [Hashlib]

/-- What looks alike builds the same. -/
theorem build_of_alike {ms ms' : List Mark} (h : (({} : Builder).marks ms).Alike (({} : Builder).marks ms'))
    (synced : Datetime) (coverage : List Coverage) (generation : Str) (limit : Int) :
    (({} : Builder).marks ms).build synced coverage generation limit =
      (({} : Builder).marks ms').build synced coverage generation limit := by
  have hrecords : ∀ key, (({} : Builder).marks ms).records key = (({} : Builder).marks ms').records key := fun key =>
    congrArg Dict.values (h.records key)
  refine Builder.build_congr (fun key => ?_) (fun key c n => ?_) coverage limit
  · rw [Builder.mem_keys, Builder.mem_keys]
    exact Builder.concerns_congr (by rw [hrecords key]) (h.blocked key) fun k _ => h.copies k
  · have hsame : (({} : Builder).marks ms).SameFor (({} : Builder).marks ms') key :=
      ⟨by rw [hrecords key], fun k _ => h.copies k, h.blocked key, h.unknown, h.incomplete key.1⟩
    exact document_congr (verdict_congr (Builder.sound_jobs ms) (Builder.sound_jobs ms') hsame synced c)
      (hrecords key) key synced c generation n

/-- In a collision-free run a revision names one action. -/
theorem CollisionFree.revisionsNamed {hits : List LookupHit} (h : CollisionFree hits) :
    RevisionsNamed (hitMarks hits) := by
  have hitem : ∀ {source : Source} {backupId fingerprint actionId : Str},
      .identity source backupId fingerprint actionId ∈ hitMarks hits →
      ∃ e ∈ hits.flatMap LookupHit.items, e.revision = fingerprint ∧ e.actionId = actionId := by
    intro source backupId fingerprint actionId hm
    obtain ⟨hit, hhit, hm⟩ := mem_hitMarks.mp hm
    cases LookupHit.markOf hm with
    | identity _ e he _ _ => exact ⟨e, List.mem_flatMap.mpr ⟨hit, hhit, he⟩, rfl, rfl⟩
  intro source backupId fingerprint actionId actionId' ha ha'
  obtain ⟨e, he, hrev, rfl⟩ := hitem ha
  obtain ⟨e', he', hrev', rfl⟩ := hitem ha'
  exact (h.of_revision he he' (hrev.trans hrev'.symm)).1

/-- **Feeding hits that were fed before**, in any calls and any number of times, changes nothing
that `build` returns: the same documents, or the same error. -/
theorem rereading_changes_nothing (calls again : List LookupCall)
    (hagain : ∀ h ∈ fedHits again, h ∈ fedHits calls) (hfree : CollisionFree (fedHits calls))
    (synced : Datetime) (coverage : List Coverage) (generation : Str) (limit : Int) :
    (Builder.run {} (calls ++ again)).build synced coverage generation limit =
      (Builder.run {} calls).build synced coverage generation limit := by
  have hmarks : ∀ m ∈ hitMarks (fedHits again), m ∈ hitMarks (fedHits calls) := by
    intro m hm
    obtain ⟨h, hh, hm⟩ := mem_hitMarks.mp hm
    exact mem_hitMarks.mpr ⟨h, hagain h hh, hm⟩
  rw [Builder.run_append, run_eq, run_eq, ← Builder.marks_append]
  exact build_of_alike (marks_again hfree.revisionsNamed hmarks) synced coverage generation limit

end Runs

/-! ## 4. One RAW document -/

section OneHit

attribute [local instance] Unicode.ascii Hashlib.hashlib

/-- A run whose hits bring one item at most has no collisions. -/
theorem CollisionFree.of_length_le_one {hits : List LookupHit} (h : (hits.flatMap LookupHit.items).length ≤ 1) :
    CollisionFree hits := by
  refine ⟨Sha256.length_hexdigest, fun a ha b hb _ => ?_⟩
  match hits.flatMap LookupHit.items, h, ha, hb with
  | [_], _, ha, hb => rw [List.mem_singleton.mp ha, List.mem_singleton.mp hb]

/-- An attribute of a backup. -/
def attributeOf (key value : Str) : Json := .obj [("key", .str key), ("values", .arr [.str value])]

/-- A backup of the action 7 under the given names. -/
def backupOf (id policy group : Str) : Json := .obj [
  ("id", .str id),
  ("attributes", .arr [attributeOf "*policy action jobid" "7", attributeOf "*policy name" policy,
    attributeOf "*policy workflow name" "Daily", attributeOf "group" group]),
  ("saveTime", .str "2026-01-01T01:00:00+00:00"),
  ("completionTime", .str "2026-01-01T02:00:00+00:00")]

/-- A RAW document of the source `core` with the given backups. -/
def rawHit (id observed : Str) (backups : List Json) : Json := .obj [
  ("_index", .str "nw-ops-raw-core-2026-01"),
  ("_id", .str id),
  ("_source", .obj [
    ("source_networker", .str "core"),
    ("raw_document_id", .str id),
    ("@timestamp", .str observed),
    ("payload", .obj [("raw", .obj [("backups", .arr backups)])])])]

/-- The first of January 2026, at the given hour. -/
def hourOf (hour : Nat) (h : hour < 24) : Datetime :=
  ⟨⟨739616 * usPerDay + hour * 3600000000, by unfold usPerDay maxDays; omega⟩, some 0⟩

def goldRaw : Json := rawHit "r1" "2026-01-01T03:00:00+00:00" [backupOf "b1" "Gold" "Servers"]

/-- One document, read twice more. -/
theorem rereading_changes_nothing_gold :
    (Builder.run {} ([.addRaw [goldRaw]] ++ [.addRaw [goldRaw, goldRaw]])).build (hourOf 4 (by decide)) [] "g" 20 =
      (Builder.run {} [.addRaw [goldRaw]]).build (hourOf 4 (by decide)) [] "g" 20 := by
  refine rereading_changes_nothing [.addRaw [goldRaw]] [.addRaw [goldRaw, goldRaw]] (fun h hh => ?_)
    (CollisionFree.of_length_le_one (by decide +kernel)) _ _ _ _
  have honce : .raw goldRaw ∈ fedHits [.addRaw [goldRaw]] := List.mem_cons_self
  obtain ⟨call, hcall, hh⟩ := List.mem_flatMap.mp hh
  obtain rfl := List.mem_singleton.mp hcall
  obtain ⟨hit, hhit, rfl⟩ := List.mem_map.mp hh
  obtain rfl : hit = goldRaw := by simpa using Gen.mem_of_mem_reached hhit
  exact honce

end OneHit

end BackupCollector
