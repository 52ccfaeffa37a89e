/-
# Sets, sorting and `max`

A Python `set` of hashable values is a `Finset`; what a program does with its iteration order is
sort it.  `sorted` is that sorted list, computed by insertion so that it evaluates in a proof.
`maxBy` is `max(xs, key=…)`, which returns the FIRST of several greatest elements.

"The first" makes the result depend on the order of a list, which is where programs that keep the
latest of something become dependent on the order of arrival.  The rules say when they do not: an
element that is there already does not change the maximum (`maxBy_concat_of_mem`), and with one
element at most for each key value it depends on the elements only (`maxBy_eq_of_mem_iff`).  What
is left, elements that tie and differ, is in `Py/Ties`.

Iteration order of a set is not modelled otherwise, since it is not specified.
-/
import Mathlib

namespace Py

section Sorted

variable {α : Type} [LinearOrder α]

/-- `sorted(s)` -/
def sorted (s : Finset α) : List α :=
  Quot.liftOn s.val (fun l => l.insertionSort (· ≤ ·)) fun a b h => by
    have hperm : (a.insertionSort (· ≤ ·)).Perm (b.insertionSort (· ≤ ·)) :=
      ((List.perm_insertionSort (· ≤ ·) a).trans h).trans (List.perm_insertionSort (· ≤ ·) b).symm
    exact hperm.eq_of_pairwise (fun x y _ _ hxy hyx => le_antisymm hxy hyx)
      (List.pairwise_insertionSort (· ≤ ·) a) (List.pairwise_insertionSort (· ≤ ·) b)

@[simp] theorem mem_sorted {s : Finset α} {a : α} : a ∈ sorted s ↔ a ∈ s := by
  obtain ⟨m, hm⟩ := s
  induction m using Quot.ind with
  | mk l => exact List.mem_insertionSort (· ≤ ·)

@[simp] theorem sorted_eq_nil {s : Finset α} : sorted s = [] ↔ s = ∅ := by
  constructor
  · intro h
    refine Finset.eq_empty_of_forall_notMem fun a ha => ?_
    have := mem_sorted.mpr ha
    rw [h] at this
    simp at this
  · rintro rfl
    rfl

end Sorted

section Max

variable {α κ : Type} [LinearOrder κ]

/-- `max(xs, key=key)`: the first of the greatest elements. -/
def maxBy (key : α → κ) : List α → Option α
  | [] => none
  | x :: xs =>
    match maxBy key xs with
    | none => some x
    | some y => if key x < key y then some y else some x

theorem maxBy_eq_none {key : α → κ} {xs : List α} : maxBy key xs = none ↔ xs = [] := by
  cases xs with
  | nil => simp [maxBy]
  | cons x xs =>
    unfold maxBy
    split
    · simp
    · split <;> simp

/-- The greatest element is one of them, and no other exceeds it. -/
theorem maxBy_spec {key : α → κ} {xs : List α} {m : α} (h : maxBy key xs = some m) :
    m ∈ xs ∧ ∀ x ∈ xs, key x ≤ key m := by
  induction xs generalizing m with
  | nil => cases h
  | cons x xs ih =>
    unfold maxBy at h
    cases hr : maxBy key xs with
    | none =>
      rw [hr] at h
      obtain rfl := Option.some.inj h
      rw [maxBy_eq_none.mp hr]
      simp
    | some y =>
      rw [hr] at h
      dsimp only at h
      obtain ⟨hy, hall⟩ := ih hr
      split at h
      · rename_i hlt
        obtain rfl := Option.some.inj h
        refine ⟨List.mem_cons_of_mem x hy, fun z hz => ?_⟩
        rcases List.mem_cons.mp hz with rfl | hz
        · exact le_of_lt hlt
        · exact hall z hz
      · rename_i hge
        obtain rfl := Option.some.inj h
        refine ⟨List.mem_cons_self, fun z hz => ?_⟩
        rcases List.mem_cons.mp hz with rfl | hz
        · exact le_refl _
        · exact (hall z hz).trans (not_lt.mp hge)

/-- A later element replaces the maximum only when it exceeds it. -/
theorem maxBy_concat (key : α → κ) (xs : List α) (a : α) :
    maxBy key (xs ++ [a]) = match maxBy key xs with
      | none => some a
      | some m => if key m < key a then some a else some m := by
  induction xs with
  | nil => rfl
  | cons x xs ih =>
    rw [List.cons_append, maxBy, ih]
    cases hr : maxBy key xs with
    | none => simp [maxBy, hr]
    | some y =>
      simp only [maxBy, hr]
      by_cases hya : key y < key a
      · rw [if_pos hya]
        dsimp only
        by_cases hxy : key x < key y
        · rw [if_pos hxy, if_pos (hxy.trans hya)]
          simp [hya]
        · rw [if_neg hxy]
      · rw [if_neg hya]
        dsimp only
        by_cases hxy : key x < key y
        · rw [if_pos hxy]
          simp [hya]
        · have hxa : ¬ key x < key a := not_lt.mpr ((not_lt.mp hya).trans (not_lt.mp hxy))
          rw [if_neg hxy]
          simp [hxa]

/-- An element that is there already does not change the maximum. -/
theorem maxBy_concat_of_mem {key : α → κ} {xs : List α} {a : α} (h : a ∈ xs) :
    maxBy key (xs ++ [a]) = maxBy key xs := by
  rw [maxBy_concat]
  cases hr : maxBy key xs with
  | none =>
    rw [maxBy_eq_none.mp hr] at h
    cases h
  | some m => simp [not_lt.mpr ((maxBy_spec hr).2 a h)]

/-- With one element at most for each key value, the maximum depends on the elements only. -/
theorem maxBy_eq_of_mem_iff {key : α → κ} {xs ys : List α} (hmem : ∀ a, a ∈ xs ↔ a ∈ ys)
    (hinj : ∀ a ∈ xs, ∀ b ∈ xs, key a = key b → a = b) : maxBy key xs = maxBy key ys := by
  cases hx : maxBy key xs with
  | none =>
    have hnil := maxBy_eq_none.mp hx
    subst hnil
    have hys : ys = [] := List.eq_nil_iff_forall_not_mem.mpr fun a ha => by simpa using (hmem a).mpr ha
    rw [hys]
    rfl
  | some m =>
    obtain ⟨hm, hmax⟩ := maxBy_spec hx
    cases hy : maxBy key ys with
    | none =>
      rw [maxBy_eq_none.mp hy] at hmem
      exact absurd ((hmem m).mp hm) (by simp)
    | some m' =>
      obtain ⟨hm', hmax'⟩ := maxBy_spec hy
      have hmx' := (hmem m').mpr hm'
      rw [hinj m hm m' hmx' (le_antisymm (hmax' m ((hmem m).mp hm)) (hmax m' hmx'))]

end Max

end Py
