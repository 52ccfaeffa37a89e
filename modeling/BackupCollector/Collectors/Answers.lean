/-
# Answers and failures

Two of the REST clients ask for a mapping of endpoints and keep whatever comes back.  A failed
request leaves no payload and does not stop the others, so a collection can return with most of
the device unseen.  What keeps that honest is that the payload of the collection names every
request that failed, and this module says so once for both clients: of one mapping
(`requestsKept_fetchNamed`), and of a payload that carries the account on (`reported_of`).

The failures travel by an unusual road.  `fetch_named` files them under a reserved key of the same
dictionary the answers are in, and the collector reads the key off again.  Every result here is
therefore about names OTHER than that key:

* an endpoint of the reserved name is asked for like any other, and its answer would stand where
  the failures are looked for;
* so the account needs that no endpoint bears the name (`hreserved`).  Neither client's defaults
  do (`errorsKey_notMem_endpointsOr`); a configuration could.

Not covered: how a request fails.  Its text is part of the answer and nothing looks into it.
-/
import BackupCollector.Clients.Rest
import BackupCollector.Py.Store

namespace BackupCollector

open Py

/-! ## 1. One mapping

`fetch_named` splits the results of a mapping into payloads and failures, in the order of the
mapping.  The two parts are filters of the same list, so a name is in one of them at least, and in
both only where the mapping has it twice. -/

/-- The answers to a mapping of endpoints, by name. -/
def answersNamed (fetch : Str → Json → Except Str Json) (endpoints : Obj) : Obj :=
  endpoints.filterMap fun p => (fetch p.1 p.2).toOption.map fun payload => (p.1, payload)

/-- The text of a failure. -/
def failureText : Except Str Json → Option Str
  | .error text => some text
  | .ok _ => none

/-- The failures of a mapping of endpoints, with their texts. -/
def failuresNamed (fetch : Str → Json → Except Str Json) (endpoints : Obj) : Obj :=
  endpoints.filterMap fun p => ((failureText (fetch p.1 p.2)).map .str).map fun text => (p.1, text)

/-- All of a mapping is asked for; the answers come back under their names, the failures under a
key of their own. -/
theorem fetchNamed_outcome {fetch : Str → Json → Except Str Json} {endpoints payloads : Obj}
    (h : (fetchNamed fetch endpoints).outcome = .ok payloads) :
    payloads = if (failuresNamed fetch endpoints).isEmpty then answersNamed fetch endpoints
      else Dict.set (answersNamed fetch endpoints) errorsKey (.obj (failuresNamed fetch endpoints)) := by
  unfold fetchNamed at h
  obtain ⟨results, hresults, h⟩ := Requests.outcome_bind.mp h
  have hanswers : results.filterMap (fun r => r.2.toOption.map fun payload => (r.1.1, payload)) = answersNamed fetch endpoints := by
    rw [← Except.ok.inj hresults, List.filterMap_map]
    rfl
  rw [hanswers] at h
  refine (Except.ok.inj h).symm.trans ?_
  rw [(?_ : List.filterMap _ results = failuresNamed fetch endpoints)]
  rw [← Except.ok.inj hresults, List.filterMap_map]
  unfold failuresNamed
  congr 1
  funext p
  dsimp only [Function.comp]
  cases fetch p.1 p.2 with
  | ok payload => rfl
  | error text => rfl

theorem fetchNamed_get? {fetch : Str → Json → Except Str Json} {endpoints payloads : Obj}
    (hnodup : (Dict.keys endpoints).Nodup) (h : (fetchNamed fetch endpoints).outcome = .ok payloads) {k : Str}
    (hk : k ≠ errorsKey) : Dict.get? payloads k = (Dict.get? endpoints k).bind fun v => (fetch k v).toOption := by
  have hanswers : Dict.get? (answersNamed fetch endpoints) k = (Dict.get? endpoints k).bind fun v => (fetch k v).toOption :=
    Dict.get?_filterMap hnodup (fun name endpoint => (fetch name endpoint).toOption) k
  rw [fetchNamed_outcome h]
  split
  · exact hanswers
  · rw [Dict.get?_set_ne _ _ (Ne.symm hk)]
    exact hanswers

theorem fetchNamed_nodup {fetch : Str → Json → Except Str Json} {endpoints payloads : Obj}
    (hnodup : (Dict.keys endpoints).Nodup) (h : (fetchNamed fetch endpoints).outcome = .ok payloads) :
    (Dict.keys payloads).Nodup := by
  have hanswers : (Dict.keys (answersNamed fetch endpoints)).Nodup :=
    Dict.nodup_keys_filterMap hnodup fun name endpoint => (fetch name endpoint).toOption
  rw [fetchNamed_outcome h]
  split
  · exact hanswers
  · exact Dict.nodup_keys_set hanswers _ _

/-! ## 2. The account

What is asked for is a log of names, what came back a dictionary.  The account of the two is that
a name is in the log exactly when it has a payload or a failure; the names on either side may
repeat. -/

/-- Every name that was asked for has a payload or a failure, and nothing else has.  The failures
stand among the payloads, under a key of their own. -/
def RequestsKept (log : List Str) (payloads : Obj) : Prop :=
  ∀ name, name ∈ log ↔ (name ∈ Dict.keys payloads ∧ name ≠ errorsKey) ∨ name ∈ Dict.keys (endpointErrors payloads)

theorem mem_keys_answersNamed {fetch : Str → Json → Except Str Json} {endpoints : Obj} {name : Str} :
    name ∈ Dict.keys (answersNamed fetch endpoints) ↔ ∃ p ∈ endpoints, p.1 = name ∧ (fetch p.1 p.2).isOk = true := by
  simp only [answersNamed, Dict.keys, List.mem_map, List.mem_filterMap, Option.map_eq_some_iff]
  constructor
  · rintro ⟨_, ⟨p, hp, payload, hpayload, rfl⟩, rfl⟩
    refine ⟨p, hp, rfl, ?_⟩
    cases hfetch : fetch p.1 p.2 with
    | ok payload => rfl
    | error text =>
      rw [hfetch] at hpayload
      cases hpayload
  · rintro ⟨p, hp, rfl, hok⟩
    cases hfetch : fetch p.1 p.2 with
    | ok payload => exact ⟨_, ⟨p, hp, payload, by rw [hfetch]; rfl, rfl⟩, rfl⟩
    | error text =>
      rw [hfetch] at hok
      cases hok

theorem mem_keys_failuresNamed {fetch : Str → Json → Except Str Json} {endpoints : Obj} {name : Str} :
    name ∈ Dict.keys (failuresNamed fetch endpoints) ↔ ∃ p ∈ endpoints, p.1 = name ∧ ¬ (fetch p.1 p.2).isOk = true := by
  simp only [failuresNamed, Dict.keys, List.mem_map, List.mem_filterMap, Option.map_eq_some_iff]
  constructor
  · rintro ⟨_, ⟨p, hp, _, ⟨text, htext, rfl⟩, rfl⟩, rfl⟩
    refine ⟨p, hp, rfl, fun hok => ?_⟩
    cases hfetch : fetch p.1 p.2 with
    | ok payload =>
      rw [hfetch] at htext
      cases htext
    | error text =>
      rw [hfetch] at hok
      cases hok
  · rintro ⟨p, hp, rfl, hfails⟩
    cases hfetch : fetch p.1 p.2 with
    | ok payload => exact absurd (by rw [hfetch]; rfl) hfails
    | error text => exact ⟨_, ⟨p, hp, _, ⟨text, by rw [hfetch]; rfl, rfl⟩, rfl⟩, rfl⟩

/-- The failures stand under their key, unless the key itself is asked for. -/
theorem endpointErrors_fetchNamed {fetch : Str → Json → Except Str Json} {endpoints payloads : Obj}
    (h : (fetchNamed fetch endpoints).outcome = .ok payloads) (hreserved : errorsKey ∉ Dict.keys endpoints) :
    endpointErrors payloads = failuresNamed fetch endpoints := by
  rw [fetchNamed_outcome h]
  by_cases hnone : (failuresNamed fetch endpoints).isEmpty = true
  · have hfresh : errorsKey ∉ Dict.keys (answersNamed fetch endpoints) := by
      rw [mem_keys_answersNamed]
      rintro ⟨p, hp, hkey, -⟩
      exact hreserved (hkey ▸ List.mem_map_of_mem hp)
    rw [← Dict.get?_isSome_iff, Option.not_isSome_iff_eq_none] at hfresh
    rw [if_pos hnone, List.isEmpty_iff.mp hnone, endpointErrors, Obj.get, hfresh]
    rfl
  · rw [if_neg hnone, endpointErrors, Obj.get_set, if_pos rfl]
    rfl

/-- One mapping of endpoints is accounted for. -/
theorem requestsKept_fetchNamed {fetch : Str → Json → Except Str Json} {endpoints payloads : Obj}
    (h : (fetchNamed fetch endpoints).outcome = .ok payloads) (hreserved : errorsKey ∉ Dict.keys endpoints) :
    RequestsKept (Dict.keys endpoints) payloads := by
  intro name
  have hkeys : name ∈ Dict.keys payloads ∧ name ≠ errorsKey ↔ name ∈ Dict.keys (answersNamed fetch endpoints) := by
    have hfresh : name ∈ Dict.keys (answersNamed fetch endpoints) → name ≠ errorsKey := by
      rw [mem_keys_answersNamed]
      rintro ⟨p, hp, rfl, -⟩ hname
      exact hreserved (hname ▸ List.mem_map_of_mem hp)
    rw [fetchNamed_outcome h]
    split
    · exact ⟨And.left, fun hmem => ⟨hmem, hfresh hmem⟩⟩
    · rw [Dict.mem_keys_set]
      constructor
      · rintro ⟨hmem, hname⟩
        exact hmem.resolve_left hname
      · intro hmem
        exact ⟨Or.inr hmem, hfresh hmem⟩
  rw [hkeys, endpointErrors_fetchNamed h hreserved, mem_keys_answersNamed, mem_keys_failuresNamed]
  constructor
  · intro hname
    obtain ⟨p, hp, rfl⟩ := List.mem_map.mp hname
    by_cases hok : (fetch p.1 p.2).isOk = true
    · exact Or.inl ⟨p, hp, rfl, hok⟩
    · exact Or.inr ⟨p, hp, rfl, hok⟩
  · rintro (⟨p, hp, rfl, -⟩ | ⟨p, hp, rfl, -⟩)
    · exact List.mem_map_of_mem hp
    · exact List.mem_map_of_mem hp

/-! ## 3. A payload that reports

A collector copies the responses into its payload as they are, reads the failures off them, and
calls the collection a success when there are none. -/

/-- What a payload says about the requests it was made of: each has a response in `raw` or a
failure in `endpoint_errors`, nothing else has, and a collection without failures is a success. -/
def Reported (log : List Str) (payload : Obj) : Prop :=
  ∃ raw errors, Obj.get payload "raw" = .obj raw ∧ Obj.get payload "endpoint_errors" = .obj errors ∧
    (∀ name, name ∈ log ↔ (name ∈ Dict.keys raw ∧ name ≠ errorsKey) ∨ name ∈ Dict.keys errors) ∧
    (Obj.get payload "collection_status" = .str "success" ↔ errors = []) ∧
    (Obj.get payload "collection_status" = .str "partial" ↔ errors ≠ [])

/-- A payload made of accounted responses reports every request. -/
theorem reported_of {log : List Str} {payload raw : Obj} (hkept : RequestsKept log raw)
    (hraw : Obj.get payload "raw" = .obj raw) (herrors : Obj.get payload "endpoint_errors" = .obj (endpointErrors raw))
    (hstatus : Obj.get payload "collection_status" = .str (if (endpointErrors raw).isEmpty then "success" else "partial")) :
    Reported log payload := by
  refine ⟨raw, endpointErrors raw, hraw, herrors, hkept, ?_, ?_⟩
  · rw [hstatus]
    cases endpointErrors raw with
    | nil => simp
    | cons error errors => simp
  · rw [hstatus]
    cases endpointErrors raw with
    | nil => simp
    | cons error errors => simp

/-- No collection asks under the key of the failures, unless it is configured to. -/
theorem errorsKey_notMem_endpointsOr {c : CollectorConfig} {defaults : Dict Str Str} (h : errorsKey ∉ Dict.keys c.endpoints)
    (hdefaults : errorsKey ∉ Dict.keys defaults) : errorsKey ∉ Dict.keys (c.endpointsOr defaults) := by
  unfold CollectorConfig.endpointsOr
  split
  · have hkeys : Dict.keys (defaults.map fun p => (p.1, Json.str p.2)) = Dict.keys defaults := by
      simp [Dict.keys, Function.comp_def]
    rwa [hkeys]
  · exact h

end BackupCollector
