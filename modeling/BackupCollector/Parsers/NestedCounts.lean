/-
# Nested counts

`_nested_counts` turns counts of pairs of a domain and a policy into a dictionary of dictionaries.
The summary of the NetWorker parser is full of these, and their totals are compared with those of
the monthly report, which counts the same records under other keys.  For that the nesting must lose
nothing.

* Read pair by pair, the nested dictionary holds the same counts (`nestedCounts_spec`), and it has
  each domain once and each policy once in it.
* Added up, it comes to the number of the pairs counted (`nestedTotal_counter`).

Both are proved along the fold of the source, one pair after another: `nestCount` is a step of it,
and what a step does to one entry and to the total is all the induction needs.
-/
import BackupCollector.Parsers.NetworkerPayload
import BackupCollector.Py.Store

namespace BackupCollector

open Py

/-! ## 1. Reading

A nested count reads as a count of pairs.  The dictionary of a domain is created when its first
policy arrives, which is why a step has two cases. -/

/-- Reading a nested count: the domain, then the policy. -/
def nestedGet (nested : Dict Str (Dict Str Nat)) (pair : Str × Str) : Option Nat :=
  (Dict.get? nested pair.1).bind fun policies => Dict.get? policies pair.2

/-- One step of `_nested_counts`. -/
def nestCount (nested : Dict Str (Dict Str Nat)) (c : (Str × Str) × Nat) : Dict Str (Dict Str Nat) :=
  Dict.modify nested c.1.1 [] fun policies => Dict.set policies c.1.2 c.2

theorem nestedGet_nestCount (nested : Dict Str (Dict Str Nat)) (c : (Str × Str) × Nat) (pair : Str × Str) :
    nestedGet (nestCount nested c) pair = if c.1 = pair then some c.2 else nestedGet nested pair := by
  obtain ⟨⟨domain, policy⟩, n⟩ := c
  obtain ⟨domain', policy'⟩ := pair
  unfold nestedGet nestCount
  dsimp only
  rw [Dict.get?_modify]
  by_cases hd : domain = domain'
  · subst hd
    rw [if_pos rfl, Option.bind_some, Dict.get?_set]
    by_cases hp : policy = policy'
    · subst hp
      simp
    · have hne : ¬ (domain, policy) = (domain, policy') := fun h => hp (congrArg Prod.snd h)
      rw [if_neg hp, if_neg hne]
      cases Dict.get? nested domain <;> simp
  · have hne : ¬ (domain, policy) = (domain', policy') := fun h => hd (congrArg Prod.fst h)
    rw [if_neg hd, if_neg hne]

/-- Distinct domains, and distinct policies in each. -/
structure NestedNodup (nested : Dict Str (Dict Str Nat)) : Prop where
  domains : (Dict.keys nested).Nodup
  policies : ∀ e ∈ nested, (Dict.keys e.2).Nodup

theorem nestCount_nodup {nested : Dict Str (Dict Str Nat)} (h : NestedNodup nested) (c : (Str × Str) × Nat) :
    NestedNodup (nestCount nested c) := by
  have hdomains : (Dict.keys (nestCount nested c)).Nodup := Dict.nodup_keys_set h.domains _ _
  refine ⟨hdomains, fun e he => ?_⟩
  have hget := Dict.get?_of_mem hdomains he
  unfold nestCount at hget
  rw [Dict.get?_modify] at hget
  split at hget
  · rw [← Option.some.inj hget]
    refine Dict.nodup_keys_set ?_ _ _
    cases hold : Dict.get? nested c.1.1 with
    | none => simp [Dict.keys]
    | some policies => exact h.policies _ (Dict.mem_of_get? hold)
  · exact h.policies e (Dict.mem_of_get? hget)

/-- **What `_nested_counts` holds**: the counts, one domain and one policy at a time, and nothing
under any other pair. -/
theorem nestedCounts_spec {counts : Dict (Str × Str) Nat} (h : (Dict.keys counts).Nodup) :
    NestedNodup (nestedCounts counts) ∧ ∀ pair, nestedGet (nestedCounts counts) pair = Dict.get? counts pair := by
  have hfold : ∀ (cs : Dict (Str × Str) Nat) (nested : Dict Str (Dict Str Nat)), NestedNodup nested →
      NestedNodup (cs.foldl nestCount nested) ∧ ∀ pair, nestedGet (cs.foldl nestCount nested) pair =
        (Dict.lastWrite cs pair).or (nestedGet nested pair) := by
    intro cs
    induction cs with
    | nil => exact fun nested hn => ⟨hn, fun pair => by simp [Dict.lastWrite]⟩
    | cons c cs ih =>
      intro nested hn
      obtain ⟨hnodup, hget⟩ := ih (nestCount nested c) (nestCount_nodup hn c)
      refine ⟨hnodup, fun pair => ?_⟩
      rw [List.foldl_cons, hget, nestedGet_nestCount, Dict.lastWrite_cons]
      by_cases hc : c.1 = pair
      · rw [if_pos hc, if_pos hc]
        cases Dict.lastWrite cs pair <;> rfl
      · rw [if_neg hc, if_neg hc, Option.or_none]
  obtain ⟨hnodup, hget⟩ := hfold counts [] ⟨by simp [Dict.keys], by simp⟩
  refine ⟨hnodup, fun pair => ?_⟩
  rw [← Dict.lastWrite_of_nodup h pair]
  exact (hget pair).trans (by simp [nestedGet])

/-! ## 2. Adding up

The total of the outer dictionary is the sum of the totals of the inner ones. -/

/-- All the counts of a nested count. -/
def nestedTotal (nested : Dict Str (Dict Str Nat)) : Int := Dict.total (Dict.total fun n : Nat => (n : Int)) nested

theorem nestedTotal_nestCount {nested : Dict Str (Dict Str Nat)} {c : (Str × Str) × Nat} (h : nestedGet nested c.1 = none) :
    nestedTotal (nestCount nested c) = nestedTotal nested + c.2 := by
  have hfresh : Dict.get? ((Dict.get? nested c.1.1).getD []) c.1.2 = none := by
    unfold nestedGet at h
    cases hpolicies : Dict.get? nested c.1.1 with
    | none => rfl
    | some policies =>
      rw [hpolicies] at h
      exact h
  have hzero : Dict.total (fun n : Nat => (n : Int)) ([] : Dict Str Nat) = 0 := rfl
  unfold nestedTotal nestCount
  rw [Dict.total_modify _ _ hzero, Dict.total_set, hfresh]
  simp only [Option.map_none, Option.getD_none]
  ring

theorem nestedTotal_foldl {counts : Dict (Str × Str) Nat} (hnodup : (Dict.keys counts).Nodup)
    {nested : Dict Str (Dict Str Nat)} (hfresh : ∀ pair ∈ Dict.keys counts, nestedGet nested pair = none) :
    nestedTotal (counts.foldl nestCount nested) = nestedTotal nested + Dict.total (fun n : Nat => (n : Int)) counts := by
  induction counts generalizing nested with
  | nil => exact (Int.add_zero _).symm
  | cons c counts ih =>
    have hkeys : Dict.keys (c :: counts) = c.1 :: Dict.keys counts := rfl
    rw [hkeys, List.nodup_cons] at hnodup
    rw [hkeys, List.forall_mem_cons] at hfresh
    have hstill : ∀ pair ∈ Dict.keys counts, nestedGet (nestCount nested c) pair = none := by
      intro pair hpair
      have hne : c.1 ≠ pair := fun heq => hnodup.1 (heq ▸ hpair)
      rw [nestedGet_nestCount, if_neg hne]
      exact hfresh.2 pair hpair
    rw [List.foldl_cons, ih hnodup.2 hstill, nestedTotal_nestCount hfresh.1, Dict.total_cons, Int.add_assoc]

/-- The nested counts of pairs add up to their number. -/
theorem nestedTotal_counter (pairs : List (Str × Str)) : nestedTotal (nestedCounts (Dict.counter pairs)) = pairs.length := by
  have hfresh : ∀ pair ∈ Dict.keys (Dict.counter pairs), nestedGet [] pair = none := fun pair _ => rfl
  refine (nestedTotal_foldl (Dict.nodup_keys_counter pairs) hfresh).trans ?_
  rw [Dict.total_counter]
  exact Int.zero_add _

end BackupCollector
