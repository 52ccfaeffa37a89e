/-
# Numbers: `int`, `float`, and the text of both

A Python `float` is Lean's `Float`, which has a logical model of IEEE binary64, so what is computed
here is what the interpreter computes, bit by bit.  Python's `int` is unbounded; the conversions
between the two raise where Python's do.

Reading is lenient in the ways the interpreter is.  Decimal digits of any script are digits, spaces
around a number are dropped, underscores may stand between two digits, and `inf` and `nan` are
numbers in any case.  An integer has a limit on its digits, a float has none.

Writing is the shortest decimal that reads back as the float, in the notation `repr` chooses by the
place of the point.  It is computed by search over the number of digits, and that the search
succeeds is not needed anywhere: no proof takes a float back from its text.

What the conversions preserve and how far they round is in `Py/Rounding` and `Py/Quotients`.
-/
import BackupCollector.Py.Value

namespace Py

open Float.Model

/-! ## 1. Between `int` and `float`

Conversions that round once, and their exceptions. -/

/-- `int(f)`: truncation, with the two ways it raises. -/
def floatToInt (f : Float) : Except Err Int :=
  match f.toModel.unpack with
  | .notANumber => .error (valueError "cannot convert float NaN to integer")
  | .infinity _ => .error ⟨.overflowError, "cannot convert float infinity to integer"⟩
  | u => .ok (u.toInt 0 0)

/-- `float(n)` -/
def intToFloat (n : Int) : Except Err Float :=
  let f := Float.ofInt n
  if f.isInf then .error ⟨.overflowError, "int too large to convert to float"⟩ else .ok f

/-- An integer as an unpacked float, before any rounding. -/
def unpackInt (n : Int) : UnpackedFloat :=
  if h : n.natAbs = 0 then .zero .positive
  else .finite (if n < 0 then .negative else .positive) n.natAbs 0 (Nat.pos_of_ne_zero h)

/-- `a / b` for integers: the quotient rounded once, not the quotient of two rounded floats. -/
def trueDiv (a b : Int) : Except Err Float :=
  let f := Float.ofModel (.pack (UnpackedFloat.div Format.binary64 (unpackInt a) (unpackInt b)))
  if f.isInf then .error ⟨.overflowError, "integer division result too large for a float"⟩ else .ok f

/-- A natural quotient rounded half to even. -/
def roundHalfEven (num den : Nat) : Nat :=
  let q := num / den
  let r := num % den
  if 2 * r < den then q
  else if den < 2 * r then q + 1
  else if q % 2 = 0 then q else q + 1

/-- `round(f)` of a finite float, half to even; `0` where `round` raises. -/
def roundFloat (f : Float) : Int :=
  match f.toModel.unpack with
  | .finite s m e _ =>
    let n := if 0 ≤ e then m * 2 ^ e.toNat else roundHalfEven m (2 ^ (-e).toNat)
    s.apply n
  | _ => 0

/-- `round(f, 3)`: the exact binary value rounded to three decimals, then to a float. -/
def round3 (f : Float) : Float :=
  match f.toModel.unpack with
  | .finite s m e _ =>
    let n := if 0 ≤ e then m * 2 ^ e.toNat * 1000 else roundHalfEven (m * 1000) (2 ^ (-e).toNat)
    let r := Float.ofScientific n true 3
    match s with
    | .positive => r
    | .negative => -r
  | _ => f

/-! ## 2. Reading a number

A text is translated to ASCII and cut into its parts; each part may be missing where the
interpreter allows it. -/

/-- The value of a run of ASCII digits. -/
def digitsVal (s : Str) : Nat := s.foldl (fun n c => n * 10 + (c.val - 48)) 0

/-- What `float` and `int` do to a text first: every decimal digit becomes its ASCII digit,
every space a blank; any other code point outside ASCII makes the text invalid. -/
def toAsciiDigits [Unicode] : Str → Option Str
  | [] => some []
  | c :: s =>
    match (if c.val < 128 then some c
      else if Str.isSpace c then some (chr ' ')
      else (Unicode.decimal c).map Str.digitChr) with
    | none => none
    | some c' => (toAsciiDigits s).map (c' :: ·)

/-- Underscores may stand between two digits only; they are then dropped. -/
def dropUnderscores : Option Chr → Str → Option Str
  | prev, [] => if prev = some (chr '_') then none else some []
  | prev, c :: s =>
    if c = chr '_' then
      if prev.any isAsciiDigit then dropUnderscores (some c) s else none
    else if prev = some (chr '_') && !isAsciiDigit c then none
    else (dropUnderscores (some c) s).map (c :: ·)

/-- The sign of a number's text and what follows it. -/
def takeSign : Str → Bool × Str
  | [] => (false, [])
  | c :: s => if c = chr '-' then (true, s) else if c = chr '+' then (false, s) else (false, c :: s)

/-- The exponent of a float's text, `0` when there is none. -/
def parseExponent : Str → Option Int
  | [] => some 0
  | c :: s =>
    if c = chr 'e' ∨ c = chr 'E' then
      let (neg, ds) := takeSign s
      if ds.isEmpty || !ds.all isAsciiDigit then none
      else some (if neg then -(digitsVal ds : Int) else digitsVal ds)
    else none

/-- An unsigned float text, ASCII and without underscores. -/
def parseUnsigned (s : Str) : Option Float :=
  if asciiLower s = lit "inf" ∨ asciiLower s = lit "infinity" then
    some (1.0 / 0.0)
  else if asciiLower s = lit "nan" then some (0.0 / 0.0)
  else
    let whole := s.takeWhile isAsciiDigit
    let rest := s.dropWhile isAsciiDigit
    let (frac, rest) := match rest with
      | c :: r => if c = chr '.' then (r.takeWhile isAsciiDigit, r.dropWhile isAsciiDigit) else ([], rest)
      | [] => ([], [])
    if whole.isEmpty && frac.isEmpty then none
    else (parseExponent rest).map fun (e : Int) =>
      let m := digitsVal (whole ++ frac)
      let e : Int := e - frac.length
      if 0 ≤ e then Float.ofScientific m false e.toNat else Float.ofScientific m true (-e).toNat

/-- `float(text)`; `none` is the `ValueError`. -/
def parseFloat [Unicode] (s : Str) : Option Float := do
  let t ← toAsciiDigits s
  let t ← dropUnderscores none (Str.strip t)
  let (neg, u) := takeSign t
  let f ← parseUnsigned u
  return if neg then -f else f

/-- `int(text)`; `none` is the `ValueError`, which the digit limit also raises. -/
def parseInt [Unicode] (s : Str) : Option Int := do
  let t ← toAsciiDigits s
  let (neg, u) := takeSign (Str.strip t)
  let ds ← dropUnderscores none u
  if ds.isEmpty || !ds.all isAsciiDigit || decide (4300 < ds.length) then none
  else some (if neg then -(digitsVal ds : Int) else digitsVal ds)

/-! ### Texts that are plain digits -/

open Str in
theorem digitsVal_append_digit (s : Str) (d : Nat) :
    digitsVal (s ++ [digitChr d]) = digitsVal s * 10 + d % 10 := by
  simp [digitsVal, digitChr_val]

open Str in
/-- Padded digits read back as the number. -/
theorem digitsVal_digitsPad : ∀ {k n : Nat}, n < 10 ^ k → digitsVal (digitsPad k n) = n
  | 0, n, h => by simp at h; simp [digitsPad, digitsVal, h]
  | k + 1, n, h => by
    have hq : n / 10 < 10 ^ k := by rw [Nat.pow_succ] at h; omega
    rw [digitsPad, digitsVal_append_digit, digitsVal_digitsPad hq]
    omega

theorem toAsciiDigits_of_ascii [Unicode] : ∀ {s : Str}, isAscii s = true → toAsciiDigits s = some s
  | [], _ => rfl
  | c :: s, h => by
    simp only [isAscii, List.all_cons, Bool.and_eq_true, decide_eq_true_eq] at h
    simp only [toAsciiDigits, if_pos h.1, toAsciiDigits_of_ascii (s := s) h.2, Option.map_some]

theorem dropUnderscores_of_none : ∀ {p : Option Chr} {s : Str}, p ≠ some (chr '_') →
    (∀ c ∈ s, c ≠ chr '_') → dropUnderscores p s = some s
  | p, [], hp, _ => by simp [dropUnderscores, hp]
  | p, c :: s, hp, h => by
    have hc : c ≠ chr '_' := h c (by simp)
    have ih := dropUnderscores_of_none (p := some c) (s := s) (by simpa using hc)
      fun d hd => h d (List.mem_cons_of_mem c hd)
    simp [dropUnderscores, hc, hp, ih]

open Str in
/-- Padded digits are read as the number by `int`. -/
theorem parseInt_digitsPad [Unicode] {k n : Nat} (h0 : 0 < k) (hk : k ≤ 4300) (h : n < 10 ^ k) :
    parseInt (digitsPad k n) = some (n : Int) := by
  have hdigits := digitsPad_digits k n
  have hascii : isAscii (digitsPad k n) = true := by
    refine List.all_eq_true.mpr fun c hc => ?_
    have hd := hdigits c hc
    simp only [isAsciiDigit, Bool.and_eq_true, decide_eq_true_eq] at hd
    exact decide_eq_true (by omega)
  have hstrip : strip (digitsPad k n) = digitsPad k n :=
    strip_of_no_space fun c hc => isSpace_of_digit (hdigits c hc)
  have hmark : ∀ c ∈ digitsPad k n, ∀ d : Char, isAsciiDigit (chr d) = false → c ≠ chr d := by
    rintro c hc d hd rfl
    rw [hdigits _ hc] at hd
    cases hd
  have hsign : takeSign (digitsPad k n) = (false, digitsPad k n) := by
    cases hs : digitsPad k n with
    | nil => rfl
    | cons c s =>
      have hc : c ∈ digitsPad k n := by rw [hs]; exact List.mem_cons_self
      simp [takeSign, hmark c hc '-' (by decide), hmark c hc '+' (by decide)]
  have hscore : dropUnderscores none (digitsPad k n) = some (digitsPad k n) :=
    dropUnderscores_of_none (by simp) fun c hc => hmark c hc '_' (by decide)
  have hne : (digitsPad k n).isEmpty = false := by
    rw [List.isEmpty_eq_false_iff, ← List.length_pos_iff, digitsPad_length]
    exact h0
  have hall : (digitsPad k n).all isAsciiDigit = true := List.all_eq_true.mpr hdigits
  have hlen : ¬ 4300 < (digitsPad k n).length := by
    rw [digitsPad_length]
    omega
  unfold parseInt
  simp only [toAsciiDigits_of_ascii hascii, Option.bind_eq_bind, Option.bind_some, hstrip, hsign, hscore, hne,
    hall, hlen, Bool.not_true, Bool.or_false, decide_false, Bool.false_eq_true, if_false,
    digitsVal_digitsPad h]

/-! ## 3. The text of a float

The digits, and where the point goes. -/

/-- The `n` significant digits nearest to `num / den`, as an integer and the power of ten its
last digit stands for; `k` is the decimal exponent of the leading digit. -/
def significant (num den : Nat) (k : Int) (n : Nat) : Nat × Int :=
  let p := k - (n - 1 : Nat)
  let d := if 0 ≤ p then roundHalfEven num (den * 10 ^ p.toNat)
    else roundHalfEven (num * 10 ^ (-p).toNat) den
  (d, p)

/-- The decimal exponent of the leading digit of `num / den`. -/
def leadingExponent (num den : Nat) : Int :=
  let guess : Int := (Nat.toDigits 10 num).length - (Nat.toDigits 10 den).length
  let atLeast (k : Int) : Bool :=
    if 0 ≤ k then decide (den * 10 ^ k.toNat ≤ num) else decide (den ≤ num * 10 ^ (-k).toNat)
  if atLeast guess then guess else guess - 1

/-- The shortest decimal that reads back as the float. -/
def shortest (f : Float) (num den : Nat) : Nat × Int :=
  let k := leadingExponent num den
  let back (d : Nat × Int) : Float :=
    if 0 ≤ d.2 then Float.ofScientific d.1 false d.2.toNat else Float.ofScientific d.1 true (-d.2).toNat
  match ((List.range 17).map (fun i => significant num den k (i + 1))).find?
      (fun d => decide (back d = f)) with
  | some d => d
  | none => significant num den k 17

/-- Digits `ds` of a decimal whose point stands after `pt` of them, the way `repr` writes it. -/
def reprDigits (ds : Str) (pt : Int) : Str :=
  if -4 < pt ∧ pt ≤ 16 then
    if pt ≤ 0 then lit "0." ++ List.replicate (-pt).toNat (chr '0') ++ ds
    else if (ds.length : Int) ≤ pt then ds ++ List.replicate (pt.toNat - ds.length) (chr '0') ++ lit ".0"
    else ds.take pt.toNat ++ lit "." ++ ds.drop pt.toNat
  else
    let e := pt - 1
    let es := Str.ofNat e.natAbs
    let mant := ds.take 1 ++ (if ds.length ≤ 1 then [] else chr '.' :: ds.drop 1)
    mant ++ lit (if e < 0 then "e-" else "e+") ++ (if es.length < 2 then chr '0' :: es else es)

/-- `repr(f)` -/
def reprFloat (f : Float) : Str :=
  match f.toModel.unpack with
  | .notANumber => lit "nan"
  | .infinity .positive => lit "inf"
  | .infinity .negative => lit "-inf"
  | .zero .positive => lit "0.0"
  | .zero .negative => lit "-0.0"
  | .finite s m e _ =>
    let num := if 0 ≤ e then m * 2 ^ e.toNat else m
    let den := if 0 ≤ e then 1 else 2 ^ (-e).toNat
    let abs := if s == .negative then -f else f
    let (d, p) := shortest abs num den
    let ds := Str.ofNat d
    let ds' := ds.rdropWhile (fun c => decide (c = chr '0'))
    let body := reprDigits ds' (p + ds.length)
    if s == .negative then chr '-' :: body else body

end Py
