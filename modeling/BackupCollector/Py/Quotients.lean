/-
# Quotients that fit a float

`a / b` of two integers raises only when the quotient is too large for a float.  The exponent of a
quotient is bounded by the lengths of its two sides.  So the quotient is a finite float between
integers of at most 62 bits, and of every integer that a float was rounded to, whatever divides it;
and `int` of a finite float never raises.

A program that computes shares and averages needs this, and only this: that a division it does not
guard cannot fail.  How large the quotient is, is not of interest, so the proofs carry a bound on
the exponent through the operations of the float model and forget the mantissa.

The path of a quotient is long.  Two integers are unpacked, divided as numbers with enough bits,
shifted to the target exponent, rounded to 53 bits, and packed; each of these is a lemma about the
exponent.  `FloatSized` is the condition on the dividend, 53 bits and then zeros, which is what
`round` of a float returns and what sums of sizes need not satisfy.
-/
import BackupCollector.Py.Number

namespace Py

open Float.Model UnpackedFloat

/-! ## 1. Finite floats

What finite means on the packed form. -/

/-- `int(f)` raises exactly when `f` is not finite. -/
theorem floatToInt_isOk (f : Float) : (floatToInt f).isOk = f.isFinite := by
  have hfinite : f.isFinite = f.toModel.unpack.isFinite := rfl
  rw [hfinite]
  unfold floatToInt
  cases f.toModel.unpack <;> rfl

/-- A finite float whose exponent is in range stays finite when it is packed. -/
theorem isFinite_pack {s : Sign} {m : Nat} {e : Int} (hm : 0 < m) (he : e ≤ 971) :
    (UnpackedFloat.unpack Format.binary64 (UnpackedFloat.pack Format.binary64 (.finite s m e hm))).isFinite = true := by
  have hfinite : ∀ (x : BitVec Format.binary64.exponentBits) (y : BitVec Format.binary64.mantissaBitsWithoutImplicit),
      x ≠ -1#_ → (UnpackedFloat.unpack Format.binary64 (packComponents Format.binary64 s x y)).isFinite = true := by
    intro x y hx
    unfold UnpackedFloat.unpack
    simp only [unpackMantissa_packComponents, unpackExponent_packComponents, if_neg hx]
    split
    · split <;> rfl
    · rfl
  unfold UnpackedFloat.pack
  dsimp only
  split
  · rename_i hover
    have hbias : Format.binary64.exponentBias = 1023 := by decide
    rw [hbias] at hover
    omega
  · rename_i hover
    split
    · refine hfinite _ _ fun heq => hover ?_
      have hnat := congrArg BitVec.toNat heq
      rw [BitVec.toNat_ofNat, BitVec.neg_one_eq_allOnes, BitVec.toNat_allOnes] at hnat
      have hle := Nat.mod_le (e + Format.binary64.exponentBias + Format.binary64.mantissaBitsWithoutImplicit).toNat
        (2 ^ Format.binary64.exponentBits)
      have hpos := Nat.two_pow_pos Format.binary64.exponentBits
      omega
    · exact hfinite _ _ (by decide)

/-! ## 2. Rounding

The steps of rounding, each with what it does to the exponent. -/

theorem mantissa_repeat (n : Nat) (em : ExtendedMantissa) :
    (n.repeat ExtendedMantissa.shiftRightOne em).mantissa = em.mantissa / 2 ^ n := by
  induction n with
  | zero => exact (Nat.div_one em.mantissa).symm
  | succ n ih =>
    rw [Nat.repeat, Nat.pow_succ, ← Nat.div_div_eq_div_mul, ← ih]
    rfl

/-- Shifting out zeros loses nothing. -/
theorem repeat_exact (n a : Nat) :
    n.repeat ExtendedMantissa.shiftRightOne ⟨a * 2 ^ n, false, false⟩ = ⟨a, false, false⟩ := by
  induction n generalizing a with
  | zero => simp [Nat.repeat]
  | succ n ih =>
    rw [Nat.repeat, Nat.pow_succ', ← Nat.mul_assoc, ih]
    simp [ExtendedMantissa.shiftRightOne]

theorem ofMantissaAndAccuracy_mantissa (m : Nat) (acc : Accuracy) :
    (ExtendedMantissa.ofMantissaAndAccuracy m acc).mantissa = m := by
  unfold ExtendedMantissa.ofMantissaAndAccuracy
  split <;> rfl

/-- The exponent a number is shifted to. -/
def shiftTarget (m : Nat) (e : Int) : Int := max ((m.log2 : Int) + 1 + e - 53) (-1074)

/-- Shifting raises the exponent to its target at most, and drops as many bits. -/
theorem shiftToTargetExponent_eq (m : Nat) (e : Int) (acc : Accuracy) :
    shiftToTargetExponent Format.binary64 m e acc =
      ((shiftTarget m e - e).toNat.repeat ExtendedMantissa.shiftRightOne (.ofMantissaAndAccuracy m acc),
        max e (shiftTarget m e)) := by
  have hbits : Format.binary64.mantissaBits = 53 := by decide
  have hmin : Format.binary64.minExponent = -1074 := by decide
  have htarget : Format.binary64.targetExponent (totalExponent m e) = shiftTarget m e := by
    unfold Format.targetExponent totalExponent shiftTarget
    rw [hbits, hmin]
    rfl
  unfold shiftToTargetExponent shiftToExponent
  dsimp only
  rw [htarget]
  exact Prod.ext rfl (by omega)

theorem roundedMantissa_le (em : ExtendedMantissa) : em.roundedMantissa ≤ em.mantissa + 1 := by
  unfold ExtendedMantissa.roundedMantissa Accuracy.roundToNearestEven
  split <;> omega

theorem log2_le {m k : Nat} (h : m < 2 ^ (k + 1)) : m.log2 ≤ k := by
  rcases Nat.eq_zero_or_pos m with rfl | hm
  · exact Nat.zero_le k
  · exact Nat.lt_succ_iff.mp ((Nat.log2_lt (Nat.ne_of_gt hm)).mpr h)

/-- A shifted mantissa has at most 53 bits. -/
theorem shifted_lt (m : Nat) (e : Int) : m / 2 ^ (shiftTarget m e - e).toNat < 2 ^ 53 := by
  have hshift : m.log2 + 1 ≤ 53 + (shiftTarget m e - e).toNat := by
    unfold shiftTarget
    omega
  refine Nat.div_lt_of_lt_mul ?_
  rw [← Nat.pow_add]
  exact Nat.lt_log2_self.trans_le (Nat.pow_le_pow_right (by decide) (by omega))

/-- Rounding ends in range when the rounded mantissa and its exponent do. -/
theorem isFinite_roundWithAccuracy (s : Sign) {m : Nat} {e : Int} {acc : Accuracy} {r : Nat} {k : Nat}
    (hr : ((shiftTarget m e - e).toNat.repeat ExtendedMantissa.shiftRightOne (.ofMantissaAndAccuracy m acc)).roundedMantissa = r)
    (hk : r < 2 ^ (k + 1)) (hrange : max e (shiftTarget m e) + max 0 (k - 52) ≤ 971) :
    (UnpackedFloat.unpack Format.binary64 (UnpackedFloat.pack Format.binary64 (roundWithAccuracy Format.binary64 s m e acc))).isFinite = true := by
  have hlog := log2_le hk
  unfold roundWithAccuracy
  rw [shiftToTargetExponent_eq]
  dsimp only
  rw [hr, shiftToTargetExponent_eq]
  dsimp only
  split
  · cases s <;> rfl
  · refine isFinite_pack _ ?_
    have htarget : shiftTarget r (max e (shiftTarget m e)) =
        max ((r.log2 : Int) + 1 + max e (shiftTarget m e) - 53) (-1074) := rfl
    rw [htarget]
    omega

/-- A number below `2 ^ 1023` is rounded to a finite float. -/
theorem isFinite_round_of_lt (s : Sign) {m k : Nat} {e : Int} (acc : Accuracy) (hm : m < 2 ^ k) (hk : k + e ≤ 1023)
    (he : e ≤ 0) : (UnpackedFloat.unpack Format.binary64 (UnpackedFloat.pack Format.binary64 (roundWithAccuracy Format.binary64 s m e acc))).isFinite = true := by
  have hlog : m.log2 ≤ k := log2_le (hm.trans_le (Nat.pow_le_pow_right (by decide) (by omega)))
  have hlt := shifted_lt m e
  have hle := roundedMantissa_le ((shiftTarget m e - e).toNat.repeat ExtendedMantissa.shiftRightOne (.ofMantissaAndAccuracy m acc))
  rw [mantissa_repeat, ofMantissaAndAccuracy_mantissa] at hle
  refine isFinite_roundWithAccuracy s rfl (k := 53) (by omega) ?_
  have hpositive : m.log2 + 1 ≤ max k 1 := by
    rcases Nat.eq_zero_or_pos m with rfl | hpos
    · exact le_max_right k 1
    · exact ((Nat.log2_lt (Nat.ne_of_gt hpos)).mpr hm).trans_le (le_max_left k 1)
  unfold shiftTarget
  omega

/-- A number that is a float already is rounded to itself. -/
theorem isFinite_round_exact (s : Sign) {a j : Nat} (ha : a < 2 ^ 53) (hj : j ≤ 971) :
    (UnpackedFloat.unpack Format.binary64 (UnpackedFloat.pack Format.binary64 (roundWithAccuracy Format.binary64 s (a * 2 ^ j) 0 .exact))).isFinite = true := by
  have hlt : a * 2 ^ j < 2 ^ (52 + j + 1) := by
    calc a * 2 ^ j < 2 ^ 53 * 2 ^ j := Nat.mul_lt_mul_of_pos_right ha (Nat.two_pow_pos j)
      _ = 2 ^ (52 + j + 1) := by rw [← Nat.pow_add]; congr 1; omega
  have hlog := log2_le hlt
  have htarget : (shiftTarget (a * 2 ^ j) 0 - 0).toNat ≤ j ∧ shiftTarget (a * 2 ^ j) 0 ≤ j := by
    unfold shiftTarget
    omega
  have hsmall := shifted_lt (a * 2 ^ j) 0
  obtain ⟨d, hd⟩ := Nat.exists_eq_add_of_le htarget.1
  have hsplit : a * 2 ^ j = a * 2 ^ d * 2 ^ (shiftTarget (a * 2 ^ j) 0 - 0).toNat := by
    conv_lhs => rw [hd]
    rw [Nat.add_comm, Nat.pow_add, Nat.mul_assoc]
  have hround : ((shiftTarget (a * 2 ^ j) 0 - 0).toNat.repeat ExtendedMantissa.shiftRightOne
      (.ofMantissaAndAccuracy (a * 2 ^ j) .exact)).roundedMantissa = a * 2 ^ d := by
    have hmantissa : ExtendedMantissa.ofMantissaAndAccuracy (a * 2 ^ j) .exact =
        ⟨a * 2 ^ d * 2 ^ (shiftTarget (a * 2 ^ j) 0 - 0).toNat, false, false⟩ := by
      rw [← hsplit]
      rfl
    rw [hmantissa, repeat_exact]
    rfl
  have hquotient : a * 2 ^ j / 2 ^ (shiftTarget (a * 2 ^ j) 0 - 0).toNat = a * 2 ^ d :=
    Nat.div_eq_of_eq_mul_left (Nat.two_pow_pos _) hsplit
  refine isFinite_roundWithAccuracy s hround (k := 52) (hquotient ▸ hsmall) ?_
  omega

/-- A packed number, read through the float it makes. -/
theorem isFinite_ofModel_pack {u : UnpackedFloat}
    (h : (UnpackedFloat.unpack Format.binary64 (UnpackedFloat.pack Format.binary64 u)).isFinite = true) :
    (Float.ofModel (.pack u)).isFinite = true ∧ (Float.ofModel (.pack u)).isInf = false := by
  have hunpack : (Float.Model.pack u).unpack =
      UnpackedFloat.unpack Format.binary64 (UnpackedFloat.pack Format.binary64 u) := rfl
  have hfinite : (Float.ofModel (.pack u)).isFinite = (Float.Model.pack u).unpack.isFinite := rfl
  have hinf : (Float.ofModel (.pack u)).isInf = (Float.Model.pack u).unpack.isInf := rfl
  rw [hfinite, hinf, hunpack]
  generalize UnpackedFloat.unpack Format.binary64 (UnpackedFloat.pack Format.binary64 u) = v at h ⊢
  cases v with
  | zero => exact ⟨rfl, rfl⟩
  | finite => exact ⟨rfl, rfl⟩
  | infinity => cases h
  | notANumber => cases h

/-! ## 3. Division

The division, from the bounds of its sides. -/

theorem shiftLeft_div_lt {m n k sh : Nat} (h : m < n * 2 ^ k) : m <<< sh / n < 2 ^ (k + sh) := by
  refine Nat.div_lt_of_lt_mul ?_
  rw [Nat.shiftLeft_eq, Nat.pow_add, ← Nat.mul_assoc]
  exact Nat.mul_lt_mul_of_pos_right h (Nat.two_pow_pos sh)

/-- A quotient below `2 ^ 1023` is in range. -/
theorem isFinite_div {s t : Sign} {m n k : Nat} (hm : 0 < m) (hn : 0 < n) (h : m < n * 2 ^ k) (hk : k ≤ 1023) :
    (UnpackedFloat.unpack Format.binary64 (UnpackedFloat.pack Format.binary64
      (UnpackedFloat.div Format.binary64 (.finite s m 0 hm) (.finite t n 0 hn)))).isFinite = true := by
  unfold UnpackedFloat.div divCore
  dsimp only
  generalize htarget : min ((0 : Int) - 0) (Format.binary64.targetExponent
    (totalExponent m 0 - totalExponent n 0)) = target
  have hle : target ≤ 0 := by omega
  refine isFinite_round_of_lt _ _ (shiftLeft_div_lt h) ?_ hle
  omega

/-- A float divided by one is in range. -/
theorem isFinite_div_one {s t : Sign} {a j : Nat} (hm : 0 < a * 2 ^ j) (ha : a < 2 ^ 53) (hlow : 53 ≤ j) (hj : j ≤ 971) :
    (UnpackedFloat.unpack Format.binary64 (UnpackedFloat.pack Format.binary64
      (UnpackedFloat.div Format.binary64 (.finite s (a * 2 ^ j) 0 hm) (.finite t 1 0 Nat.one_pos)))).isFinite = true := by
  have hbits : Format.binary64.mantissaBits = 53 := by decide
  have hlog : 53 ≤ (a * 2 ^ j).log2 := by
    refine (Nat.le_log2 (Nat.ne_of_gt hm)).mpr ?_
    have hpos : 0 < a := Nat.pos_of_mul_pos_right hm
    exact (Nat.pow_le_pow_right (by decide) hlow).trans (Nat.le_mul_of_pos_left _ hpos)
  have htarget : min ((0 : Int) - 0) (Format.binary64.targetExponent
      (totalExponent (a * 2 ^ j) 0 - totalExponent 1 0)) = 0 := by
    have hone : Nat.log2 1 = 0 := by decide
    unfold Format.targetExponent totalExponent
    rw [hbits, hone]
    omega
  unfold UnpackedFloat.div divCore
  dsimp only
  rw [htarget]
  have hexact : accuracyOfFraction ((a * 2 ^ j) <<< ((0 : Int) - 0 - 0).toNat % 1) 1 = .exact := by
    rw [Nat.mod_one]
    rfl
  rw [hexact, Nat.div_one]
  exact isFinite_round_exact _ ha hj

/-- The quotient of two unpacked integers, read through the float it makes. -/
theorem trueDiv_of_finite {a b : Int}
    (h : (UnpackedFloat.unpack Format.binary64 (UnpackedFloat.pack Format.binary64
      (UnpackedFloat.div Format.binary64 (unpackInt a) (unpackInt b)))).isFinite = true) :
    ∃ f, trueDiv a b = .ok f ∧ f.isFinite = true := by
  obtain ⟨hok, hinf⟩ := isFinite_ofModel_pack h
  refine ⟨_, ?_, hok⟩
  unfold trueDiv
  dsimp only
  rw [hinf]
  rfl

/-- The quotient of two integers of at most 62 bits is a finite float. -/
theorem trueDiv_of_small {a b : Int} (ha : a.natAbs < 2 ^ 62) (hpos : b ≠ 0) :
    ∃ f, trueDiv a b = .ok f ∧ f.isFinite = true := by
  have hb0 : ¬ b.natAbs = 0 := by omega
  refine trueDiv_of_finite ?_
  unfold unpackInt
  rw [dif_neg hb0]
  split
  · unfold UnpackedFloat.div
    dsimp only
    cases (Sign.positive / if b < 0 then Sign.negative else Sign.positive) <;> rfl
  · exact isFinite_div (k := 62) _ _ (ha.trans_le (Nat.le_mul_of_pos_left _ (Nat.pos_of_ne_zero hb0))) (by decide)

/-! ## 4. Integers that floats are rounded to

Sizes come from floats that were rounded, and dividing one of these never leaves the range. -/

/-- `round(f)`, with the two ways it raises. -/
def roundToInt (f : Float) : Except Err Int :=
  match f.toModel.unpack with
  | .notANumber => .error (valueError "cannot convert float NaN to integer")
  | .infinity _ => .error ⟨.overflowError, "cannot convert float infinity to integer"⟩
  | _ => .ok (roundFloat f)

/-- `round(f)` raises exactly when `f` is not finite. -/
theorem roundToInt_isOk (f : Float) : (roundToInt f).isOk = f.isFinite := by
  have hfinite : f.isFinite = f.toModel.unpack.isFinite := rfl
  rw [hfinite]
  unfold roundToInt
  cases f.toModel.unpack <;> rfl

/-- An unpacked float has at most 53 bits, the last of them below `2 ^ 972`. -/
theorem unpack_bound {b : BitVec Format.binary64.numBits} {s : Sign} {m : Nat} {e : Int} {hm : 0 < m}
    (h : UnpackedFloat.unpack Format.binary64 b = .finite s m e hm) : m < 2 ^ 53 ∧ e ≤ 971 := by
  have hbias : Format.binary64.exponentBias = 1023 := by decide
  have hexponent : (unpackExponent b).toNat < 2048 := (unpackExponent b).isLt
  unfold UnpackedFloat.unpack at h
  dsimp only at h
  split at h
  · split at h <;> cases h
  · rename_i hfinite
    have hne : (unpackExponent b).toNat ≠ 2047 := fun he => hfinite (BitVec.eq_of_toNat_eq (he.trans (by decide)))
    split at h
    · rename_i hsubnormal
      have hzero : (unpackExponent b).toNat = 0 := congrArg BitVec.toNat hsubnormal
      split at h
      · cases h
      · cases h
        have hlt : (unpackMantissa b).toNat < 2 ^ 52 := (unpackMantissa b).isLt
        rw [hbias, hzero]
        exact ⟨by omega, by decide⟩
    · cases h
      have hlt : (1#1 ++ unpackMantissa b).toNat < 2 ^ 53 := (1#1 ++ unpackMantissa b).isLt
      rw [hbias]
      exact ⟨hlt, by omega⟩

/-- An integer that some float is rounded to: at most 53 bits and then zeros. -/
def FloatSized (n : Int) : Prop := ∃ a j, n.natAbs = a * 2 ^ j ∧ a < 2 ^ 53 ∧ j ≤ 971

theorem roundHalfEven_le (num den : Nat) : roundHalfEven num den ≤ num / den + 1 := by
  unfold roundHalfEven
  dsimp only
  split
  · omega
  · split
    · omega
    · split <;> omega

theorem natAbs_apply (s : Sign) (n : Nat) : (s.apply n).natAbs = n := by
  cases s with
  | positive => rfl
  | negative => exact Int.natAbs_neg n

theorem roundFloat_sized (f : Float) : FloatSized (roundFloat f) := by
  have hzero : FloatSized 0 := ⟨0, 0, rfl, Nat.two_pow_pos 53, Nat.zero_le 971⟩
  unfold roundFloat
  split
  · rename_i s m e hm h
    obtain ⟨hbits, hexp⟩ := unpack_bound h
    dsimp only
    unfold FloatSized
    rw [natAbs_apply]
    split
    · exact ⟨m, e.toNat, rfl, hbits, by omega⟩
    · rename_i hneg
      refine ⟨_, 0, (Nat.mul_one _).symm, ?_, Nat.zero_le 971⟩
      have htwo : 2 ≤ 2 ^ (-e).toNat := by
        obtain ⟨i, hi⟩ : ∃ i, (-e).toNat = i + 1 := ⟨(-e).toNat - 1, by omega⟩
        rw [hi, Nat.pow_succ]
        have hpos := Nat.two_pow_pos i
        omega
      have hhalf : m / 2 ^ (-e).toNat ≤ m / 2 := Nat.div_le_div_left htwo (by decide)
      have hle := roundHalfEven_le m (2 ^ (-e).toNat)
      omega
  · exact hzero

theorem roundToInt_sized {f : Float} {n : Int} (h : roundToInt f = .ok n) : FloatSized n := by
  unfold roundToInt at h
  split at h
  · cases h
  · cases h
  · rw [← Except.ok.inj h]
    exact roundFloat_sized f

/-- What a float was rounded to can be divided by every integer but zero. -/
theorem trueDiv_of_sized {a b : Int} (ha : FloatSized a) (hpos : b ≠ 0) : (trueDiv a b).isOk = true := by
  obtain ⟨m, j, hm, hbits, hj⟩ := ha
  have hb0 : ¬ b.natAbs = 0 := by omega
  suffices h : (UnpackedFloat.unpack Format.binary64 (UnpackedFloat.pack Format.binary64
      (UnpackedFloat.div Format.binary64 (unpackInt a) (unpackInt b)))).isFinite = true by
    obtain ⟨f, hf, -⟩ := trueDiv_of_finite h
    rw [hf]
    rfl
  have hlt : a.natAbs < 2 ^ (53 + j) := by
    rw [hm, Nat.pow_add]
    exact Nat.mul_lt_mul_of_pos_right hbits (Nat.two_pow_pos j)
  unfold unpackInt
  rw [dif_neg hb0]
  split
  · unfold UnpackedFloat.div
    dsimp only
    cases (Sign.positive / if b < 0 then Sign.negative else Sign.positive) <;> rfl
  · rename_i ha0
    have hpos0 := Nat.pos_of_ne_zero ha0
    by_cases hone : b.natAbs = 1
    · by_cases hlow : 53 ≤ j
      · -- Dividing by one keeps the float.
        have hquot := isFinite_div_one (s := if a < 0 then Sign.negative else Sign.positive)
          (t := if b < 0 then Sign.negative else Sign.positive) (hm ▸ hpos0) hbits hlow hj
        simpa only [hm, hone] using hquot
      · refine isFinite_div (k := 53 + j) _ _ ?_ (by omega)
        rw [hone, Nat.one_mul]
        exact hlt
    · refine isFinite_div (k := 52 + j) _ _ (hlt.trans_le ?_) (by omega)
      have hsplit : 2 ^ (53 + j) = 2 * 2 ^ (52 + j) := by rw [← Nat.pow_succ']; congr 1; omega
      rw [hsplit]
      exact Nat.mul_le_mul_right _ (by omega)

end Py
