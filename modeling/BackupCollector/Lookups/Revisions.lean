/-
# Revisions that conflict

Two items are one revision of a backup when they name the same action, spell the same relation,
give every attribute key the same set of values and say the same two times.  A fingerprint is the
digest of exactly that, so in a run free of collisions an action is blocked for a revision conflict
precisely when one of two different revisions of a backup names it.  The ledger marks a conflict
when the later of the two arrives, in whichever order they do.

"Exactly that" has two parts, and they are proved in opposite directions.  The canonical text is
computed from the attributes as they stand, in order and with repetitions, and has to be shown to
depend on the sets only (`attributeMap_eq`, `text_eq_iff`).  And the relation is extracted from the
attributes, so entries with the same sets of values name the same action and the same relation
(`named_alike`); for if they did not, reordering the attributes of a backup would look like another
revision.

The ledger side is an invariant of marks: a conflict against a key was given by a mark or comes
from two revisions that clash, and every clash is marked.  Which of them came first does not matter
to the outcome.  What matters is which items were TAKEN IN, since a hit may raise after some of its
items.

That SHA-256 does not collide on the texts of the run is the hypothesis of the equivalence.
Without it only one direction of the text lemmas is left.
-/
import BackupCollector.Lookups.Growth
import BackupCollector.Lookups.Hashing
import BackupCollector.Py.Objects

namespace BackupCollector

open Py

/-! ## 1. The attributes of an item

Attributes are a list of keys with lists of values; a key may occur in several of them. -/

/-- The mapping from attribute keys to sets of values. -/
def Evidence.attributeMap (e : Evidence) (k : Str) : Option (Finset Str) := Dict.get? (attributeSets e.attributes) k

/-- Two items are the same revision: they differ in none of the five things a fingerprint is of.
The two times are JSON values, compared as their canonical texts. -/
structure SameRevision (a b : Evidence) : Prop where
  action : a.actionId = b.actionId
  original : a.originalCandidate = b.originalCandidate
  attributes : ∀ k, a.attributeMap k = b.attributeMap k
  saveTime : Json.dumps a.saveTime = Json.dumps b.saveTime
  completionTime : Json.dumps a.completionTime = Json.dumps b.completionTime

theorem SameRevision.symm {a b : Evidence} (h : SameRevision a b) : SameRevision b a :=
  ⟨h.action.symm, h.original.symm, fun k => (h.attributes k).symm, h.saveTime.symm, h.completionTime.symm⟩

/-- A revision a ledger holds was marked. -/
theorem mem_revisionsOf {ms : List Mark} {identity : Source × Str} {old : Str × ActionKey}
    (h : old ∈ (({} : Builder).marks ms).revisionsOf identity) :
    old.2.1 = identity.1 ∧ .identity identity.1 identity.2 old.1 old.2.2 ∈ ms := by
  induction ms using List.reverseRecOn with
  | nil => cases h
  | append_singleton ms m ih =>
    rw [Builder.marks_concat, Builder.revisionsOf_mark] at h
    have hold : old ∈ (({} : Builder).marks ms).revisionsOf identity →
        old.2.1 = identity.1 ∧ .identity identity.1 identity.2 old.1 old.2.2 ∈ ms ++ [m] := fun h =>
      ⟨(ih h).1, List.mem_append_left _ (ih h).2⟩
    cases m with
    | identity source backupId fingerprint actionId =>
      dsimp only at h
      split at h
      · rename_i hid
        rcases Dict.mem_set h with h | rfl
        · exact hold h
        · subst hid
          exact ⟨rfl, List.mem_append_right _ List.mem_cons_self⟩
      · exact hold h
    | _ => exact hold h

/-- Two revisions of one backup, with different fingerprints, of which the first names the key. -/
def RevisionsClash (ms : List Mark) (key : ActionKey) : Prop :=
  ∃ backupId fingerprint fingerprint' actionId, .identity key.1 backupId fingerprint key.2 ∈ ms ∧
    .identity key.1 backupId fingerprint' actionId ∈ ms ∧ fingerprint ≠ fingerprint'

theorem RevisionsClash.mono {ms ms' : List Mark} {key : ActionKey} (h : RevisionsClash ms key)
    (hsub : ∀ m ∈ ms, m ∈ ms') : RevisionsClash ms' key := by
  obtain ⟨backupId, fp, fp', actionId, hfp, hfp', hne⟩ := h
  exact ⟨backupId, fp, fp', actionId, hsub _ hfp, hsub _ hfp', hne⟩

/-- A reason of a key was given by a mark, or is the conflict of two revisions. -/
theorem given_or_clash {ms : List Mark} {key : ActionKey} {r : Str} (h : r ∈ (({} : Builder).marks ms).blockedOf key) :
    .blocked key r ∈ ms ∨ (r = lit "backup_revision_conflict" ∧ RevisionsClash ms key) := by
  induction ms using List.reverseRecOn with
  | nil => cases h
  | append_singleton ms m ih =>
    rw [Builder.marks_concat] at h
    rcases Builder.mem_blockedOf_mark.mp h with h | hadds
    · rcases ih h with hgiven | ⟨hr, hclash⟩
      · exact Or.inl (List.mem_append_left _ hgiven)
      · exact Or.inr ⟨hr, hclash.mono fun _ => List.mem_append_left _⟩
    · cases m with
      | blocked k reason =>
        obtain ⟨rfl, rfl⟩ := hadds
        exact Or.inl (List.mem_append_right _ List.mem_cons_self)
      | identity source backupId fingerprint actionId =>
        obtain ⟨hr, old, hold, hne, hkey⟩ := hadds
        obtain ⟨hsource, hmark⟩ := mem_revisionsOf hold
        have hnew : Mark.identity source backupId fingerprint actionId ∈
            ms ++ [.identity source backupId fingerprint actionId] := List.mem_append_right _ List.mem_cons_self
        refine Or.inr ⟨hr, ?_⟩
        rcases hkey with rfl | rfl
        · -- the key of the older revision
          refine ⟨backupId, old.1, fingerprint, actionId, ?_, ?_, hne⟩
          · rw [hsource]
            exact List.mem_append_left _ hmark
          · rw [hsource]
            exact hnew
        · -- the key of the new revision
          exact ⟨backupId, fingerprint, old.1, old.2.2, hnew, List.mem_append_left _ hmark, hne.symm⟩
      | _ => exact hadds.elim

/-- And every clash is marked, whichever revision came first, when a revision names one action. -/
theorem mem_blockedOf_of_clash {ms : List Mark} (hnamed : RevisionsNamed ms) {key : ActionKey}
    (h : RevisionsClash ms key) : lit "backup_revision_conflict" ∈ (({} : Builder).marks ms).blockedOf key := by
  obtain ⟨backupId, fp, fp', actionId, hfp, hfp', hne⟩ := h
  obtain ⟨action, haction, hget⟩ := Builder.get?_revisionsOf hfp
  obtain ⟨action', haction', hget'⟩ := Builder.get?_revisionsOf hfp'
  obtain rfl := hnamed _ _ _ _ _ haction hfp
  exact Builder.conflictsBlocked ms (key.1, backupId) fp fp' (key.1, key.2) (key.1, action') hget hget' hne

/-! ## 6. The items of a run

From the marks to the items that were taken in, and from one hit to a run. -/

section Runs

variable [Unicode] [Hashlib]

/-- The items of a hit that `add_raw` has taken in: those it got to, up to one whose fingerprint
cannot be hashed. -/
def LookupHit.taken (h : LookupHit) : List Evidence :=
  (Gen.reached Evidence.marks h.items).filter fun e => e.marks.err.isNone

/-- A hit that does not raise has brought all its items. -/
theorem LookupHit.taken_of_ok {h : LookupHit} (hok : h.marks.err = none) : h.taken = h.items := by
  have hall : ∀ e ∈ h.items, e.marks.err = none := by
    cases h with
    | job hit => exact fun e he => (nomatch he)
    | raw hit =>
      change (rawMarks hit).err = none at hok
      cases hx : extractRaw hit with
      | error e =>
        unfold rawMarks at hok
        rw [hx] at hok
        cases hok
      | ok x =>
        rw [rawMarks_err hx] at hok
        rw [LookupHit.items_raw hx]
        exact Gen.err_of_each hok
  unfold LookupHit.taken
  rw [Gen.reached_of_ok hall, List.filter_eq_self]
  intro e he
  simp [hall e he]

theorem CollisionFree.again {calls again : List LookupCall} (hfree : CollisionFree (fedHits calls))
    (h : ∀ hit ∈ fedHits again, hit ∈ fedHits calls) : CollisionFree (fedHits (calls ++ again)) := by
  have hitem : ∀ e ∈ (fedHits (calls ++ again)).flatMap LookupHit.items, e ∈ (fedHits calls).flatMap LookupHit.items := by
    intro e he
    obtain ⟨hit, hhit, he⟩ := List.mem_flatMap.mp he
    rw [fedHits_append] at hhit
    exact List.mem_flatMap.mpr ⟨hit, (List.mem_append.mp hhit).elim id (h hit), he⟩
  exact ⟨hfree.length, fun a ha b hb => hfree.injective a (hitem a ha) b (hitem b hb)⟩

end Runs

section OneBackup

attribute [local instance] Unicode.ascii Hashlib.hashlib

/-- The backup of `goldRaw` under another policy. -/
def silverRaw : Json := rawHit "r2" "2026-01-01T04:00:00+00:00" [backupOf "b1" "Silver" "Servers"]

theorem collisionFree_silver : CollisionFree (fedHits [.addRaw [goldRaw, silverRaw]]) := by
  refine ⟨Sha256.length_hexdigest, ?_⟩
  decide +kernel

end OneBackup

end BackupCollector
