/-
# The current document of a NetWorker collector

The current document of a collector is meant to be overwritten by every fast or jobs result,
failures included, so that there is ONE and it is the latest.  Its id is the collector's name, and
its index is named after the source.  The writer knows the source of a result in two ways: a
payload states it, and for an empty payload, which is what a failed collection has, it is guessed
from the tokens of the collector's name.  The two agree only when the name happens to spell the
configured source.

When they do not, a collector has two current documents, and the one that is out of date is the one
that says that everything is well: a success is filed under the source and stays there, the failure
after it is filed under `unknown`.

`one_current_document_iff` is exact for every sequence of collections.  There is one document when
the name spells the source, or when the results that refresh it are all delivered, or when all of
them failed.  The other classes refresh nothing and do not matter.

The current ACTIONS are compared, by their index and id.  What the store does with an action that
it refuses is not part of it.
-/
import BackupCollector.Writers.History

namespace BackupCollector

open Py

section Current

variable [Unicode] (isFile : Str → Bool)

/-! ## 1. A sequence of collections

What is asked for, and what the writer reads off a name. -/

/-- The current actions the writer yields for a sequence of collections. -/
def currentActions (c : CollectorConfig) (xs : List NetworkerCollection) : List Action :=
  xs.flatMap fun x =>
    match x.result isFile c with
    | .ok r => (networkerCurrentActions r).items
    | .error _ => []

/-- Every result overwrites the current document of the one before, so what is stored is the
latest one. -/
structure OneCurrentDocument (c : CollectorConfig) (xs : List NetworkerCollection) : Prop where
  sameKey : ∀ a ∈ currentActions isFile c xs, ∀ b ∈ currentActions isFile c xs, a.key = b.key
  latest : ∀ a, (currentActions isFile c xs).getLast? = some a →
    Dict.written ((currentActions isFile c xs).map Action.write) = [a.write]

/-- What the writer reads off a collector's name: the source it spells, or the name itself. -/
def nameSource (c : CollectorConfig) : Str := Str.lower (siteSegment c.name)

/-! ## 2. The key of one result

The key of a result is decided by whether its collection delivered. -/

/-- The key under which a result of the given source is current. -/
def currentKey (c : CollectorConfig) (source : Str) : Str × Str :=
  (lit "nw-ops-current-" ++ source, Str.join ":" [c.name, "current"])

/-- The source the writer takes for a collection. -/
def writtenSource (c : CollectorConfig) (s : Source) (x : NetworkerCollection) : Str :=
  if x.delivers c then s.name else if nameSource c ∈ sourceNames then nameSource c else "unknown"

variable {isFile}

/-- The current action of one collection, for a class that has one. -/
theorem result_currentActions {c : CollectorConfig} {s : Source}
    (hskip : c.skipReason isFile = .ok none) (hs : validateSourceNetworker (optional c.sourceNetworker) = .ok s)
    (x : NetworkerCollection) :
    ∃ r, x.result isFile c = .ok r ∧
      if refreshesCurrent x.collectionClass then
        ∃ a, (networkerCurrentActions r).items = [a] ∧ a.key = currentKey c (writtenSource c s x)
      else (networkerCurrentActions r).items = [] := by
  obtain ⟨r, hr, hname, htype, hclass, hat, hpayload⟩ := collect_of_not_skipped isFile hskip
    (networkerPayload c x.raw x.clock) x.collectedAt x.collectionClass
  refine ⟨r, hr, ?_⟩
  unfold networkerCurrentActions
  rw [hclass]
  split
  · refine ⟨networkerCurrentAction r, rfl, ?_⟩
    have hsource : networkerSource r = writtenSource c s x := by
      unfold writtenSource NetworkerCollection.delivers
      cases hp : networkerPayload c x.raw x.clock with
      | ok payload =>
        have hpayload' : r.payload = payload := by rw [hpayload, hp]
        obtain ⟨payloads, parsed, -, hto, hcarries⟩ := networkerPayload_eq_ok hs hp
        obtain ⟨summary, hsummary, hstated⟩ := hcarries.source
        rw [← hpayload'] at hsummary
        exact networkerSource_of hsummary (hstated.trans hto.summary_source)
      | error e =>
        rw [hp] at hpayload
        unfold networkerSource nameSource
        rw [hpayload, hname]
        rfl
    have hindex := networkerCurrentAction_index r
    rw [hsource] at hindex
    refine Prod.ext hindex ?_
    simp only [Action.key, networkerCurrentAction, currentDocumentId, currentKey, hname]
  · rfl

/-! ## 3. The keys of a sequence

Two keys that differ are two documents. -/

section Sequence

variable {c : CollectorConfig} {s : Source} (hskip : c.skipReason isFile = .ok none)
  (hs : validateSourceNetworker (optional c.sourceNetworker) = .ok s) {xs : List NetworkerCollection}

include hskip hs

theorem mem_currentActions {a : Action} (ha : a ∈ currentActions isFile c xs) :
    ∃ x ∈ xs, refreshesCurrent x.collectionClass = true ∧ a.key = currentKey c (writtenSource c s x) := by
  obtain ⟨x, hx, ha⟩ := List.mem_flatMap.mp ha
  obtain ⟨r, hr, h⟩ := result_currentActions hskip hs x
  rw [hr] at ha
  dsimp only at ha
  by_cases href : refreshesCurrent x.collectionClass = true
  · rw [if_pos href] at h
    obtain ⟨b, hb, hkey⟩ := h
    rw [hb] at ha
    rw [List.mem_singleton.mp ha]
    exact ⟨x, hx, href, hkey⟩
  · rw [if_neg href] at h
    rw [h] at ha
    exact absurd ha (by simp)

theorem exists_currentAction {x : NetworkerCollection} (hx : x ∈ xs)
    (href : refreshesCurrent x.collectionClass = true) :
    ∃ a ∈ currentActions isFile c xs, a.key = currentKey c (writtenSource c s x) := by
  obtain ⟨r, hr, h⟩ := result_currentActions hskip hs x
  rw [if_pos href] at h
  obtain ⟨a, ha, hkey⟩ := h
  refine ⟨a, List.mem_flatMap.mpr ⟨x, hx, ?_⟩, hkey⟩
  rw [hr]
  dsimp only
  rw [ha]
  exact List.mem_singleton_self a

end Sequence

omit [Unicode] in
theorem currentKey_inj {c : CollectorConfig} {source source' : Str}
    (h : currentKey c source = currentKey c source') : source = source' :=
  List.append_cancel_left (congrArg Prod.fst h)

/-- A failed collection is filed under the configured source only when the name spells it. -/
theorem writtenSource_eq_iff {c : CollectorConfig} {s : Source} (x : NetworkerCollection) :
    writtenSource c s x = s.name ↔ nameSource c = s.name ∨ x.delivers c = true := by
  unfold writtenSource
  by_cases hd : x.delivers c = true
  · simp [hd]
  · rw [if_neg hd]
    by_cases hn : nameSource c ∈ sourceNames
    · simp [hn, hd]
    · rw [if_neg hn]
      have hname : nameSource c ≠ s.name := fun h => hn (h ▸ s.known)
      have hunknown : lit "unknown" ≠ s.name := fun h => absurd (h ▸ s.known) (by decide)
      simp [hname, hunknown, hd]

theorem writtenSource_of_failed {c : CollectorConfig} {s : Source} {x y : NetworkerCollection}
    (hx : ¬ x.delivers c = true) (hy : ¬ y.delivers c = true) : writtenSource c s x = writtenSource c s y := by
  unfold writtenSource
  rw [if_neg hx, if_neg hy]

/-- **A NetWorker collector has one current document exactly when its name spells its source, or
its results that refresh the document are all delivered, or all failed.**  The collector is one
that runs, and so its source is a known one. -/
theorem one_current_document_iff {c : CollectorConfig} (hkind : buildCollector c = .ok .networkerRest)
    (hskip : c.skipReason isFile = .ok none) :
    ∃ s, validateSourceNetworker (optional c.sourceNetworker) = .ok s ∧
      ∀ xs, OneCurrentDocument isFile c xs ↔
        nameSource c = s.name ∨
        (∀ x ∈ xs, refreshesCurrent x.collectionClass = true → x.delivers c = true) ∨
        (∀ x ∈ xs, refreshesCurrent x.collectionClass = true → x.delivers c = false) := by
  obtain ⟨htype, hprotocol⟩ := buildCollector_eq_ok hkind
  obtain ⟨s, hs⟩ := CollectorConfig.source_of_not_skipped htype hprotocol hskip
  refine ⟨s, hs, fun xs => ⟨fun h => ?_, fun h => ?_⟩⟩
  · -- a delivered and a failed result share the key only through the name
    by_contra hnot
    simp only [not_or, not_forall, Bool.not_eq_true, Bool.not_eq_false] at hnot
    obtain ⟨hname, ⟨x, hx, hxr, hxd⟩, ⟨y, hy, hyr, hyd⟩⟩ := hnot
    obtain ⟨a, ha, hakey⟩ := exists_currentAction hskip hs hx hxr
    obtain ⟨b, hb, hbkey⟩ := exists_currentAction hskip hs hy hyr
    have hsame : currentKey c (writtenSource c s x) = currentKey c (writtenSource c s y) := by
      rw [← hakey, ← hbkey]
      exact h.sameKey a ha b hb
    have hysource : writtenSource c s y = s.name := (writtenSource_eq_iff y).mpr (Or.inr hyd)
    have hxsource : writtenSource c s x = s.name := (currentKey_inj hsame).trans hysource
    rcases (writtenSource_eq_iff x).mp hxsource with hn | hd
    · exact hname hn
    · rw [hxd] at hd
      cases hd
  · have hsource : ∀ x ∈ xs, ∀ y ∈ xs, refreshesCurrent x.collectionClass = true →
        refreshesCurrent y.collectionClass = true → writtenSource c s x = writtenSource c s y := by
      intro x hx y hy hxr hyr
      rcases h with hname | hall | hnone
      · rw [(writtenSource_eq_iff x).mpr (Or.inl hname), (writtenSource_eq_iff y).mpr (Or.inl hname)]
      · rw [(writtenSource_eq_iff x).mpr (Or.inr (hall x hx hxr)),
          (writtenSource_eq_iff y).mpr (Or.inr (hall y hy hyr))]
      · exact writtenSource_of_failed (by simp [hnone x hx hxr]) (by simp [hnone y hy hyr])
    have hkeys : ∀ a ∈ currentActions isFile c xs, ∀ b ∈ currentActions isFile c xs, a.key = b.key := by
      intro a ha b hb
      obtain ⟨x, hx, hxr, hakey⟩ := mem_currentActions hskip hs ha
      obtain ⟨y, hy, hyr, hbkey⟩ := mem_currentActions hskip hs hb
      rw [hakey, hbkey, hsource x hx y hy hxr hyr]
    refine ⟨hkeys, fun a hlast => ?_⟩
    have ha : a ∈ currentActions isFile c xs := List.mem_of_getLast? hlast
    exact Dict.written_of_single (fun w hw => by
      obtain ⟨b, hb, rfl⟩ := List.mem_map.mp hw
      exact hkeys b hb a ha) (by rw [List.getLast?_map, hlast]; rfl)

end Current

/-! ## 4. A name without the source

A success and then a failure, of a collector whose name spells no source. -/

section Unspelled

attribute [local instance] Unicode.ascii

/-- A NetWorker collector whose name does not spell its source. -/
def unspelledCollector : CollectorConfig := { networkerCore with name := "nw-backup-01" }

theorem unspelledTime_lt : 63900000000000000 < maxDays * usPerDay := by decide

/-- 2025-11-29T08:00:00Z -/
def unspelledAt : Instant := ⟨63900000000000000, unspelledTime_lt⟩

/-- An empty but successful response, and a server that refuses the connection. -/
def successThenFailure : List NetworkerCollection := [
  ⟨.fast, .ok [("jobs", .obj [("jobs", .arr [])])], unspelledAt, unspelledAt⟩,
  ⟨.fast, .error ⟨.runtimeError, "connection refused"⟩, unspelledAt, unspelledAt⟩]

theorem unspelled_not_skipped : unspelledCollector.skipReason (fun _ => false) = .ok none := by
  decide +kernel

/-- The success is filed under `core` and stays there; the failure is filed under `unknown`. -/
theorem unspelled_collector_keeps_success :
    buildCollector unspelledCollector = .ok .networkerRest ∧
      unspelledCollector.skipReason (fun _ => false) = .ok none ∧
      ¬ OneCurrentDocument (fun _ => false) unspelledCollector successThenFailure := by
  refine ⟨by decide +kernel, unspelled_not_skipped, fun h => ?_⟩
  have hsame := h.sameKey
  revert hsame
  decide +kernel

theorem unspelled_collector_condition :
    ∃ s, validateSourceNetworker (optional unspelledCollector.sourceNetworker) = .ok s ∧
      ∀ xs, OneCurrentDocument (fun _ => false) unspelledCollector xs ↔
        nameSource unspelledCollector = s.name ∨
        (∀ x ∈ xs, refreshesCurrent x.collectionClass = true → x.delivers unspelledCollector = true) ∨
        (∀ x ∈ xs, refreshesCurrent x.collectionClass = true → x.delivers unspelledCollector = false) :=
  one_current_document_iff (by decide +kernel) unspelled_not_skipped

end Unspelled

end BackupCollector
