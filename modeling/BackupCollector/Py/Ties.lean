/-
# What does not depend on an order

`max` returns the first of several greatest elements, so over two orders of the same elements it
may return two of them.  When the elements arrive in groups, only the groups change places: the
first greatest element of each group is settled inside the group, and the maximum of the whole is
the maximum of these.  `Decided` says that whatever ties there agrees in what is looked at; then
`max` says the same over every order.

A stable sort by a key likewise returns the same keys over every order, and a mapping with distinct
keys the same entries.

These are the three places where a program that means a set computes with a list.  The conditions
are stated on the elements and not on the order, so they can be checked once for all orders; and
they are about a projection `f` of the elements, since ties that differ only in what nobody reads
do no harm.

Nothing is said of which order elements arrive in.
-/
import BackupCollector.Py.Sets
import BackupCollector.Py.Value

namespace Py

/-! ## 1. The greatest element

From all orders of the elements to all orders of their groups. -/

section Max

variable {α β γ κ : Type} [LinearOrder κ] {key : α → κ} {f : α → β}

/-- All greatest elements agree in `f`.  There may be many of them; what they do not share is not
looked at. -/
def Decided (key : α → κ) (f : α → β) (xs : List α) : Prop :=
  ∀ a ∈ xs, ∀ b ∈ xs, (∀ c ∈ xs, key c ≤ key a) → key a ≤ key b → f a = f b

theorem Decided.of_mem_iff {xs ys : List α} (h : Decided key f xs) (hmem : ∀ a, a ∈ xs ↔ a ∈ ys) :
    Decided key f ys := by
  intro a ha b hb hmax hab
  exact h a ((hmem a).mpr ha) b ((hmem b).mpr hb) (fun c hc => hmax c ((hmem c).mp hc)) hab

/-- Over another order of the same elements the maximum agrees in `f`. -/
theorem Decided.maxBy_eq {xs ys : List α} (h : Decided key f xs) (hmem : ∀ a, a ∈ xs ↔ a ∈ ys) :
    (maxBy key xs).map f = (maxBy key ys).map f := by
  cases hx : maxBy key xs with
  | none =>
    have hnil : ys = [] := by
      rw [maxBy_eq_none.mp hx] at hmem
      exact List.eq_nil_iff_forall_not_mem.mpr fun a ha => by simpa using (hmem a).mpr ha
    rw [hnil]
    rfl
  | some a =>
    obtain ⟨ha, hmax⟩ := maxBy_spec hx
    cases hy : maxBy key ys with
    | none =>
      rw [maxBy_eq_none.mp hy] at hmem
      exact absurd ((hmem a).mp ha) (by simp)
    | some b =>
      obtain ⟨hb, hmax'⟩ := maxBy_spec hy
      rw [Option.map_some, Option.map_some]
      exact congrArg some (h a ha b ((hmem b).mpr hb) hmax (hmax' a ((hmem a).mp ha)))

/-- The maximum of two lists one after the other: of the second only when it exceeds the first. -/
theorem maxBy_append (xs ys : List α) :
    maxBy key (xs ++ ys) = match maxBy key xs, maxBy key ys with
      | none, r => r
      | some a, none => some a
      | some a, some b => if key a < key b then some b else some a := by
  induction ys using List.reverseRecOn with
  | nil =>
    rw [List.append_nil]
    cases maxBy key xs <;> rfl
  | append_singleton ys y ih =>
    rw [← List.append_assoc, maxBy_concat, maxBy_concat, ih]
    cases maxBy key xs with
    | none => cases maxBy key ys <;> rfl
    | some a =>
      cases maxBy key ys with
      | none => rfl
      | some b =>
        dsimp only
        by_cases hab : key a < key b
        · rw [if_pos hab]
          dsimp only
          by_cases hby : key b < key y
          · simp [hby, hab.trans hby]
          · simp [hby, hab]
        · rw [if_neg hab]
          dsimp only
          by_cases hby : key b < key y
          · simp [hby]
          · have hay : ¬ key a < key y := fun h => hab (h.trans_le (not_lt.mp hby))
            simp [hby, hab, hay]

/-- The maximum of the groups is the maximum of their maxima. -/
theorem maxBy_flatMap (g : γ → List α) (xs : List γ) :
    maxBy key (xs.flatMap g) = maxBy key (xs.filterMap fun x => maxBy key (g x)) := by
  induction xs with
  | nil => rfl
  | cons x xs ih =>
    rw [List.flatMap_cons, maxBy_append, ih, List.filterMap_cons]
    cases hx : maxBy key (g x) with
    | none => rfl
    | some a =>
      dsimp only
      rw [maxBy]
      cases maxBy key (xs.filterMap fun x => maxBy key (g x)) <;> rfl

/-- Groups that arrive in another order have the same maximum where their maxima are decided. -/
theorem maxBy_flatMap_perm {g : γ → List α} {xs ys : List γ} (hperm : xs.Perm ys)
    (h : Decided key f (xs.filterMap fun x => maxBy key (g x))) :
    (maxBy key (xs.flatMap g)).map f = (maxBy key (ys.flatMap g)).map f := by
  rw [maxBy_flatMap, maxBy_flatMap]
  exact h.maxBy_eq fun a => (hperm.filterMap _).mem_iff

end Max

/-! ## 2. Sorted lists

Sorting by a key that is not injective leaves the order of ties open, and the keys decided. -/

section Sorting

variable {α κ : Type} [LinearOrder κ]

/-- The keys of a list sorted by a key do not depend on its order. -/
theorem map_insertionSort_perm (key : α → κ) {xs ys : List α} (h : xs.Perm ys) :
    (xs.insertionSort fun a b => key a ≤ key b).map key = (ys.insertionSort fun a b => key a ≤ key b).map key := by
  let r : α → α → Prop := fun a b => key a ≤ key b
  have : Std.Total r := ⟨fun a b => le_total (key a) (key b)⟩
  have : IsTrans α r := ⟨fun _ _ _ => le_trans⟩
  have hperm : ((xs.insertionSort r).map key).Perm ((ys.insertionSort r).map key) :=
    (((List.perm_insertionSort r xs).trans h).trans (List.perm_insertionSort r ys).symm).map key
  have hsorted : ∀ zs : List α, ((zs.insertionSort r).map key).Pairwise (· ≤ ·) := fun zs =>
    List.pairwise_map.mpr (List.pairwise_insertionSort r zs)
  exact hperm.eq_of_pairwise (fun a b _ _ hab hba => le_antisymm hab hba) (hsorted xs) (hsorted ys)

end Sorting

/-! ## 3. Mappings and comprehensions

A dictionary read key by key, and a comprehension over two lists that agree. -/

/-- Two mappings with distinct keys that map every key alike have the same entries. -/
theorem Dict.perm_of_get? {κ ν : Type} [DecidableEq κ] {d e : Dict κ ν} (hd : (Dict.keys d).Nodup)
    (he : (Dict.keys e).Nodup) (h : ∀ k, Dict.get? d k = Dict.get? e k) : d.Perm e := by
  refine (List.perm_ext_iff_of_nodup hd.of_map he.of_map).mpr ?_
  rintro ⟨k, v⟩
  constructor
  · intro hp
    exact Dict.mem_of_get? ((h k).symm.trans (Dict.get?_of_mem hd hp))
  · intro hp
    exact Dict.mem_of_get? ((h k).trans (Dict.get?_of_mem he hp))

theorem Dict.get?_append_of_notMem {κ ν : Type} [DecidableEq κ] (pre : Dict κ ν) {d e : Dict κ ν} {k : κ}
    (hd : k ∉ Dict.keys d) (he : k ∉ Dict.keys e) : Dict.get? (pre ++ d) k = Dict.get? (pre ++ e) k := by
  have hnone : ∀ {d : Dict κ ν}, k ∉ Dict.keys d → Dict.get? d k = none := fun h =>
    Option.not_isSome_iff_eq_none.mp fun hsome => h (Dict.get?_isSome_iff.mp hsome)
  induction pre with
  | nil => exact (hnone hd).trans (hnone he).symm
  | cons p pre ih =>
    obtain ⟨l, v⟩ := p
    rw [List.cons_append, List.cons_append, Dict.get?_cons, Dict.get?_cons, ih]

theorem Dict.get?_congr_of_take {κ ν : Type} [DecidableEq κ] {d e : Dict κ ν} (n : Nat) (h : d.take n = e.take n)
    {k : κ} (hd : k ∉ Dict.keys (d.drop n)) (he : k ∉ Dict.keys (e.drop n)) : Dict.get? d k = Dict.get? e k := by
  rw [← List.take_append_drop n d, ← List.take_append_drop n e, h]
  exact Dict.get?_append_of_notMem _ hd he

/-- What is a function of the keys of two lists with the same keys is the same. -/
theorem map_eq_of_map_eq {α β κ : Type} {key : α → κ} {f : α → β} {xs ys : List α} (h : xs.map key = ys.map key)
    (hf : ∀ a ∈ xs, ∀ b ∈ ys, key a = key b → f a = f b) : xs.map f = ys.map f := by
  induction xs generalizing ys with
  | nil =>
    rw [List.map_eq_nil_iff.mp h.symm]
  | cons x xs ih =>
    obtain ⟨y, ys, rfl, hkey, hkeys⟩ := List.map_eq_cons_iff.mp h.symm
    rw [List.map_cons, List.map_cons, hf x List.mem_cons_self y List.mem_cons_self hkey.symm]
    refine congrArg _ (ih hkeys.symm fun a ha b hb => ?_)
    exact hf a (List.mem_cons_of_mem x ha) b (List.mem_cons_of_mem y hb)

/-- Of two comprehensions over one list, the second returns when the first does, and what it
returns is related element by element. -/
theorem mapM_related {α β γ : Type} {f : α → Except Err β} {g : α → Except Err γ} {R : β → γ → Prop} {xs : List α}
    (h : ∀ x ∈ xs, ∀ b, f x = .ok b → ∃ c, g x = .ok c ∧ R b c) {bs : List β} (hf : xs.mapM f = .ok bs) :
    ∃ cs, xs.mapM g = .ok cs ∧ List.Forall₂ R bs cs := by
  induction xs generalizing bs with
  | nil =>
    obtain rfl := Except.ok.inj hf
    exact ⟨[], rfl, .nil⟩
  | cons x xs ih =>
    rw [List.mapM_cons] at hf
    obtain ⟨b, hb, hf⟩ := bind_eq_ok.mp hf
    obtain ⟨bs', hbs, hf⟩ := bind_eq_ok.mp hf
    obtain rfl := Except.ok.inj hf
    obtain ⟨c, hc, hR⟩ := h x List.mem_cons_self b hb
    obtain ⟨cs, hcs, hall⟩ := ih (fun y hy => h y (List.mem_cons_of_mem x hy)) hbs
    refine ⟨c :: cs, ?_, .cons hR hall⟩
    rw [List.mapM_cons, hc, hcs]
    rfl

end Py
