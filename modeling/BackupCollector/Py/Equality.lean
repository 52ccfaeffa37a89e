/-
# Python's `==` on JSON values

`True == 1 == 1.0`, and two dictionaries are equal whatever the order of their keys.  A program
that compares loosely typed values compares them so, and calls two documents equal that were
written differently.

`canon` writes a value in one way only: numbers that are integers as integers, keys in order.  Two
values are equal when their canonical forms are, unless one holds a NaN; so equality is decidable,
and transitive where it holds.  It is not reflexive, which is why `hasNan` is part of it.

Equal values are true together.  That is the second fact a program uses without saying so, when it
replaces a value by an equal one and tests it.

Floats are compared by what they are and not by their text.  Python compares an integer with a
float exactly, and so does the canonical form, since a float that is an integer is written as that
integer.
-/
import BackupCollector.Py.Value
import BackupCollector.Py.Sets

namespace Py

open Float.Model

/-- A float that is an integer. -/
def floatInteger (f : Float) : Option Int :=
  match f.toModel.unpack with
  | .zero _ => some 0
  | .finite s m e _ =>
    let signed (n : Nat) : Int := match s with
      | .positive => n
      | .negative => -n
    if 0 ≤ e then some (signed (m * 2 ^ e.toNat))
    else if m % 2 ^ (-e).toNat = 0 then some (signed (m / 2 ^ (-e).toNat))
    else none
  | _ => none

namespace Json

mutual

/-- The canonical form of a value. -/
def canon : Json → Json
  | .bool b => .int (if b then 1 else 0)
  | .float f => match floatInteger f with
    | some n => .int n
    | none => .float f
  | .arr xs => .arr (canonList xs)
  | .obj kvs => .obj ((canonObj kvs).insertionSort fun a b => a.1 ≤ b.1)
  | v => v

def canonList : List Json → List Json
  | [] => []
  | x :: xs => canon x :: canonList xs

def canonObj : List (Str × Json) → List (Str × Json)
  | [] => []
  | (k, v) :: kvs => (k, canon v) :: canonObj kvs

end

mutual

/-- A NaN somewhere in the value. -/
def hasNan : Json → Bool
  | .float f => f.isNaN
  | .arr xs => anyNan xs
  | .obj kvs => anyNanEntry kvs
  | _ => false

def anyNan : List Json → Bool
  | [] => false
  | x :: xs => hasNan x || anyNan xs

def anyNanEntry : List (Str × Json) → Bool
  | [] => false
  | (_, v) :: kvs => hasNan v || anyNanEntry kvs

end

/-- `a == b` -/
def pyEq (a b : Json) : Bool := decide (canon a = canon b) && !hasNan a && !hasNan b

theorem pyEq_iff {a b : Json} : pyEq a b = true ↔ canon a = canon b ∧ hasNan a = false ∧ hasNan b = false := by
  simp [pyEq, and_assoc]

theorem pyEq_trans {a b c : Json} (h : pyEq a b = true) (h' : pyEq b c = true) : pyEq a c = true := by
  obtain ⟨hab, ha, -⟩ := pyEq_iff.mp h
  obtain ⟨hbc, -, hc⟩ := pyEq_iff.mp h'
  exact pyEq_iff.mpr ⟨hab.trans hbc, ha, hc⟩

@[simp] theorem canon_str (s : Str) : canon (.str s) = .str s := by simp [canon]

@[simp] theorem canon_null : canon .null = .null := by simp [canon]

@[simp] theorem hasNan_str (s : Str) : hasNan (.str s) = false := by simp [hasNan]

@[simp] theorem hasNan_null : hasNan .null = false := by simp [hasNan]

/-- A text is equal to itself only. -/
theorem pyEq_str {s : Str} {v : Json} : pyEq v (.str s) = true ↔ v = .str s := by
  rw [pyEq_iff]
  constructor
  · rintro ⟨h, -, -⟩
    cases v with
    | str t => simpa using h
    | float f =>
      simp only [canon] at h
      split at h <;> cases h
    | _ => simp [canon] at h
  · rintro rfl
    simp

theorem pyEq_int {n m : Int} : pyEq (.int n) (.int m) = true ↔ n = m := by
  simp [pyEq, canon, hasNan]

/-! ## Equal values are true together -/

theorem unpack_zero : (0 : Float).toModel.unpack = .zero .positive := by with_unfolding_all rfl

/-- A float is equal to zero when it is one of the two zeros. -/
theorem beq_zero (f : Float) : (f == 0) = match f.toModel.unpack with
    | .zero _ => true
    | _ => false := by
  have h : (f == 0) = f.toModel.unpack.beq (.zero .positive) := by
    rw [← unpack_zero]
    rfl
  rw [h]
  unfold UnpackedFloat.beq
  cases f.toModel.unpack with
  | finite s m e hm => cases s <;> rfl
  | infinity s => cases s <;> rfl
  | _ => rfl

/-- The integer of a float is zero when the float is. -/
theorem floatInteger_eq_some {f : Float} {n : Int} (h : floatInteger f = some n) : (f == 0) = decide (n = 0) := by
  unfold floatInteger at h
  rw [beq_zero]
  cases hu : f.toModel.unpack with
  | zero s =>
    rw [hu] at h
    obtain rfl := Option.some.inj h
    rfl
  | finite s m e hm =>
    rw [hu] at h
    dsimp only at h ⊢
    have hsigned : ∀ k : Nat, 0 < k → (match s with
        | .positive => (k : Int)
        | .negative => -(k : Int)) ≠ 0 := by
      intro k hk
      cases s <;> dsimp only <;> omega
    have hne : n ≠ 0 := by
      split at h
      · rw [← Option.some.inj h]
        exact hsigned _ (Nat.mul_pos hm (Nat.two_pow_pos _))
      · split at h
        · rename_i hdiv
          rw [← Option.some.inj h]
          exact hsigned _ (Nat.div_pos (Nat.le_of_dvd hm (Nat.dvd_of_mod_eq_zero hdiv)) (Nat.two_pow_pos _))
        · cases h
    simp [hne]
  | infinity s =>
    rw [hu] at h
    cases h
  | notANumber =>
    rw [hu] at h
    cases h

theorem length_canonObj (kvs : List (Str × Json)) : (canonObj kvs).length = kvs.length := by
  induction kvs with
  | nil => rfl
  | cons p kvs ih =>
    obtain ⟨k, v⟩ := p
    simp [canonObj, ih]

theorem truthy_canon (v : Json) : (canon v).truthy = v.truthy := by
  cases v with
  | bool b => cases b <;> rfl
  | float f =>
    unfold canon
    cases h : floatInteger f with
    | none => rfl
    | some n =>
      have hzero := floatInteger_eq_some h
      simp [truthy, hzero]
  | arr xs =>
    cases xs with
    | nil => rfl
    | cons x xs => simp [canon, truthy, canonList]
  | obj kvs =>
    have hlen : ((canonObj kvs).insertionSort fun a b => a.1 ≤ b.1).length = kvs.length := by
      rw [List.length_insertionSort, length_canonObj]
    unfold canon truthy
    rw [Bool.eq_iff_iff]
    simp only [Bool.not_eq_true', List.isEmpty_eq_false_iff, ← List.length_pos_iff, hlen]
  | _ => rfl

theorem truthy_of_pyEq {a b : Json} (h : pyEq a b = true) : a.truthy = b.truthy := by
  rw [← truthy_canon a, ← truthy_canon b, (pyEq_iff.mp h).1]

end Json

end Py
