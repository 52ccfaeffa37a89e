/-
# Floats of normal size

What an operation on two floats of normal size makes of their mantissas and exponents.  A float
that is packed is read back as it was (`unpack_pack`), a mantissa of 53 bits is not rounded
(`round_exact`), and a longer one keeps its value up to one part in `2 ^ 52` (`round_near`).

The bounds are stated in natural numbers: a rounded mantissa `r` with `k` dropped bits stands for
`r * 2 ^ k` units of the mantissa it was made from.  No rationals and no reals are needed, and
every step is arithmetic of natural numbers once the powers of two are named.

`IsFloat` is how other modules speak of a float: finite, with this sign, mantissa and exponent.
From it come the exact operations, an integer of at most 53 bits and a product that fits, and the
rounded ones, product and quotient, each with its error.  Comparison is by exponent and then by
mantissa.

Subnormal floats are read back as they are, and the error bounds are for normal ones; what the
program does with times and sizes stays in that range.  Signs go through unchanged, and are treated
last and apart.
-/
import BackupCollector.Py.Quotients

namespace Py

open Float.Model UnpackedFloat

/-! ## 1. Reading back what was packed

The packed form of a float and what is read from it determine each other. -/

/-- The mantissa and the exponent of a finite float: 53 bits, or fewer at the lowest exponent. -/
structure Canonical (m : Nat) (e : Int) : Prop where
  pos : 0 < m
  high : m < 2 ^ 53
  above : -1074 ≤ e
  below : e ≤ 971
  full : 2 ^ 52 ≤ m ∨ e = -1074

theorem canonical_of_normal {m : Nat} {e : Int} (hlow : 2 ^ 52 ≤ m) (hhigh : m < 2 ^ 53) (habove : -1074 ≤ e)
    (hbelow : e ≤ 971) : Canonical m e :=
  ⟨(Nat.two_pow_pos 52).trans_le hlow, hhigh, habove, hbelow, Or.inl hlow⟩

theorem log2_of_normal {m : Nat} (hlow : 2 ^ 52 ≤ m) (hhigh : m < 2 ^ 53) : m.log2 = 52 := by
  have hpos : m ≠ 0 := Nat.ne_of_gt ((Nat.two_pow_pos 52).trans_le hlow)
  exact (Nat.log2_eq_iff hpos).mpr ⟨hlow, hhigh⟩

theorem sign_packComponents {s : Sign} {x : BitVec Format.binary64.exponentBits}
    {y : BitVec Format.binary64.mantissaBitsWithoutImplicit} :
    Sign.ofBitVec (unpackSign (packComponents Format.binary64 s x y)) = s := by
  have hsign : unpackSign (packComponents Format.binary64 s x y) = s.toBitVec := by
    refine BitVec.eq_of_getLsbD_eq fun i hi => ?_
    obtain rfl : i = 0 := by omega
    simp only [unpackSign, packComponents, BitVec.getLsbD_cast, BitVec.getLsbD_extractLsb]
    rw [BitVec.getLsbD_append, if_neg (by decide), BitVec.getLsbD_append, if_neg (by decide)]
    rfl
  rw [hsign]
  cases s <;> rfl

/-- The mantissa with its leading bit put back. -/
theorem toNat_implicit {m : Nat} (hlow : 2 ^ 52 ≤ m) (hhigh : m < 2 ^ 53) :
    (1#1 ++ BitVec.ofNat 52 m).toNat = m := by
  rw [BitVec.toNat_append, BitVec.toNat_ofNat, BitVec.toNat_ofNat]
  have hmod : m % 2 ^ 52 = m - 2 ^ 52 := by omega
  rw [hmod, ← Nat.shiftLeft_add_eq_or_of_lt (by omega : m - 2 ^ 52 < 2 ^ 52)]
  omega

theorem finite_congr {s : Sign} {m m' : Nat} {e e' : Int} {hm : 0 < m} {hm' : 0 < m'} (h : m = m') (he : e = e') :
    UnpackedFloat.finite s m e hm = .finite s m' e' hm' := by
  subst h he
  rfl

/-- A finite float is read back as it was packed. -/
theorem unpack_pack {s : Sign} {m : Nat} {e : Int} (h : Canonical m e) (hm : 0 < m) :
    UnpackedFloat.unpack Format.binary64 (UnpackedFloat.pack Format.binary64 (.finite s m e hm)) = .finite s m e hm := by
  have hbias : Format.binary64.exponentBias = 1023 := by decide
  have habove := h.above
  have hbelow := h.below
  have hhigh := h.high
  have hrange : ¬ 2 ^ Format.binary64.exponentBits ≤
      (e + Format.binary64.exponentBias + Format.binary64.mantissaBitsWithoutImplicit).toNat + 1 := by
    rw [hbias]
    change ¬ 2 ^ 11 ≤ (e + 1023 + 52).toNat + 1
    omega
  unfold UnpackedFloat.pack
  dsimp only
  rw [if_neg hrange]
  by_cases hlow : 2 ^ 52 ≤ m
  · have hbits : m.log2 + 1 = Format.binary64.mantissaBits := by rw [log2_of_normal hlow hhigh]; decide
    rw [if_pos hbits, hbias]
    have hexponent : (e + (1023 : Nat) + (52 : Nat)).toNat < 2 ^ 11 - 1 := by omega
    have hread : (BitVec.ofNat 11 (e + (1023 : Nat) + (52 : Nat)).toNat).toNat = (e + (1023 : Nat) + (52 : Nat)).toNat := by
      rw [BitVec.toNat_ofNat, Nat.mod_eq_of_lt (by omega)]
    have hnotfull : BitVec.ofNat 11 (e + (1023 : Nat) + (52 : Nat)).toNat ≠ -1#11 := by
      intro heq
      have hnat := congrArg BitVec.toNat heq
      rw [hread] at hnat
      exact absurd hnat (Nat.ne_of_lt hexponent)
    have hnotzero : BitVec.ofNat 11 (e + (1023 : Nat) + (52 : Nat)).toNat ≠ 0#11 := by
      intro heq
      have hnat := congrArg BitVec.toNat heq
      rw [hread] at hnat
      change (e + (1023 : Nat) + (52 : Nat)).toNat = 0 at hnat
      omega
    unfold UnpackedFloat.unpack
    simp only [unpackMantissa_packComponents, unpackExponent_packComponents, sign_packComponents, hbias]
    rw [if_neg hnotfull, if_neg hnotzero]
    have hmantissa := toNat_implicit hlow hhigh
    have hback : ((BitVec.ofNat 11 (e + (1023 : Nat) + (52 : Nat)).toNat).toNat : Int) - ((1023 : Nat) + (52 : Nat)) = e := by
      rw [hread]
      omega
    exact finite_congr hmantissa hback
  · obtain rfl : e = -1074 := h.full.resolve_left hlow
    have hsmall : m < 2 ^ 52 := Nat.lt_of_not_le hlow
    have hbits : ¬ m.log2 + 1 = Format.binary64.mantissaBits := by
      have hlog : m.log2 < 52 := (Nat.log2_lt (Nat.ne_of_gt hm)).mpr hsmall
      change ¬ m.log2 + 1 = 53
      omega
    have hread : (BitVec.ofNat 52 m).toNat = m := by rw [BitVec.toNat_ofNat, Nat.mod_eq_of_lt hsmall]
    have hnotzero : BitVec.ofNat 52 m ≠ 0#52 := by
      intro heq
      have hnat := congrArg BitVec.toNat heq
      rw [hread] at hnat
      exact Nat.ne_of_gt hm hnat
    rw [if_neg hbits]
    unfold UnpackedFloat.unpack
    simp only [unpackMantissa_packComponents, unpackExponent_packComponents, sign_packComponents, hbias]
    rw [if_neg (by decide), if_pos trivial, dif_neg hnotzero]
    exact finite_congr hread (by decide)

/-- What is read of a float is canonical. -/
theorem canonical_of_unpack {b : BitVec Format.binary64.numBits} {s : Sign} {m : Nat} {e : Int} {hm : 0 < m}
    (h : UnpackedFloat.unpack Format.binary64 b = .finite s m e hm) : Canonical m e := by
  have hbias : Format.binary64.exponentBias = 1023 := by decide
  obtain ⟨hhigh, hbelow⟩ := unpack_bound h
  have hrest : -1074 ≤ e ∧ (2 ^ 52 ≤ m ∨ e = -1074) := by
    unfold UnpackedFloat.unpack at h
    dsimp only at h
    split at h
    · split at h <;> cases h
    · split at h
      · rename_i hsubnormal
        have hzero : (unpackExponent b).toNat = 0 := congrArg BitVec.toNat hsubnormal
        split at h
        · cases h
        · cases h
          rw [hbias, hzero]
          exact ⟨by decide, Or.inr (by decide)⟩
      · rename_i hnormal
        cases h
        have hpos : 0 < (unpackExponent b).toNat := by
          refine Nat.pos_of_ne_zero fun hz => hnormal (BitVec.eq_of_toNat_eq ?_)
          rw [hz]
          rfl
        rw [hbias]
        refine ⟨?_, Or.inl ?_⟩
        · change -1074 ≤ ((unpackExponent b).toNat : Int) - ((1023 : Nat) + (52 : Nat))
          omega
        · rw [BitVec.toNat_append]
          have himplicit : (1#1).toNat <<< Format.binary64.mantissaBitsWithoutImplicit = 2 ^ 52 := by decide
          rw [himplicit]
          exact Nat.left_le_or
  exact ⟨hm, hhigh, hrest.1, hbelow, hrest.2⟩

/-- A finite float with its sign, mantissa and exponent, in the form it is packed in. -/
def IsFloat (f : Float) (s : Sign) (m : Nat) (e : Int) : Prop :=
  ∃ hm : 0 < m, f.toModel.unpack = .finite s m e hm

theorem IsFloat.canonical {f : Float} {s : Sign} {m : Nat} {e : Int} (h : IsFloat f s m e) : Canonical m e := by
  obtain ⟨hm, hunpack⟩ := h
  exact canonical_of_unpack hunpack

theorem isFloat_pack {s : Sign} {m : Nat} {e : Int} (h : Canonical m e) (hm : 0 < m) :
    IsFloat (Float.ofModel (.pack (.finite s m e hm))) s m e := ⟨hm, unpack_pack h hm⟩

/-! ## 2. Rounding

Three cases by the length of the mantissa: full, longer, shorter. -/

theorem log2_mul_pow {a n : Nat} (ha : 2 ^ 52 ≤ a) (hlt : a < 2 ^ 53) : (a * 2 ^ n).log2 = 52 + n := by
  have hpos : a * 2 ^ n ≠ 0 := Nat.ne_of_gt (Nat.mul_pos ((Nat.two_pow_pos 52).trans_le ha) (Nat.two_pow_pos n))
  refine (Nat.log2_eq_iff hpos).mpr ⟨?_, ?_⟩
  · rw [Nat.pow_add]
    exact Nat.mul_le_mul_right _ ha
  · rw [Nat.add_right_comm, Nat.pow_add]
    exact Nat.mul_lt_mul_of_pos_right hlt (Nat.two_pow_pos n)

/-- A mantissa of 53 bits stays as it is. -/
theorem shift_full {a : Nat} {e : Int} (ha : 2 ^ 52 ≤ a) (hlt : a < 2 ^ 53) (he : -1074 ≤ e) :
    shiftToTargetExponent Format.binary64 a e .exact = (⟨a, false, false⟩, e) := by
  have htarget : shiftTarget a e = e := by
    unfold shiftTarget
    rw [log2_of_normal ha hlt]
    omega
  rw [shiftToTargetExponent_eq, htarget, Int.sub_self]
  exact Prod.ext rfl (max_self e)

/-- Fifty-three bits and zeros behind them are rounded to those bits. -/
theorem round_exact {s : Sign} {a n : Nat} {e : Int} (ha : 2 ^ 52 ≤ a) (hlt : a < 2 ^ 53) (he : -1074 ≤ e + n) :
    ∃ h, roundWithAccuracy Format.binary64 s (a * 2 ^ n) e .exact = .finite s a (e + n) h := by
  have hpos : 0 < a := (Nat.two_pow_pos 52).trans_le ha
  have htarget : shiftTarget (a * 2 ^ n) e = e + n := by
    unfold shiftTarget
    rw [log2_mul_pow ha hlt]
    omega
  have hshift : (e + n - e).toNat = n := by omega
  have hmax : max e (e + n) = e + n := by omega
  have hmantissa : ExtendedMantissa.ofMantissaAndAccuracy (a * 2 ^ n) .exact = ⟨a * 2 ^ n, false, false⟩ := rfl
  refine ⟨hpos, ?_⟩
  unfold roundWithAccuracy
  rw [shiftToTargetExponent_eq, htarget, hshift, hmax, hmantissa, repeat_exact]
  dsimp only
  have hrounded : (⟨a, false, false⟩ : ExtendedMantissa).roundedMantissa = a := rfl
  rw [hrounded, shift_full ha hlt he]
  exact dif_neg (Nat.ne_of_gt hpos)

theorem roundedMantissa_ge (em : ExtendedMantissa) : em.mantissa ≤ em.roundedMantissa := by
  unfold ExtendedMantissa.roundedMantissa Accuracy.roundToNearestEven
  split <;> omega

/-- A longer mantissa keeps its value up to one part in `2 ^ 52`. -/
theorem round_near {s : Sign} {m : Nat} {e : Int} {acc : Accuracy} (hm : 2 ^ 52 ≤ m) (he : -1074 ≤ m.log2 + e - 52) :
    ∃ r k h, roundWithAccuracy Format.binary64 s m e acc = .finite s r (e + (k : Nat)) h ∧
      2 ^ 52 ≤ r ∧ r < 2 ^ 53 ∧ k ≤ m.log2 - 51 ∧ r * 2 ^ k ≤ m + m / 2 ^ 52 ∧ m ≤ r * 2 ^ k + m / 2 ^ 52 := by
  have hpos : m ≠ 0 := Nat.ne_of_gt ((Nat.two_pow_pos 52).trans_le hm)
  obtain ⟨n, hn⟩ : ∃ n, m.log2 = 52 + n := Nat.exists_eq_add_of_le ((Nat.le_log2 hpos).mpr hm)
  obtain ⟨hlow, hhigh⟩ := (Nat.log2_eq_iff hpos).mp hn
  have htarget : shiftTarget m e = e + n := by
    unfold shiftTarget
    omega
  have hshift : (e + n - e).toNat = n := by omega
  have hmax : max e (e + n) = e + n := by omega
  -- What is dropped is less than one part in `2 ^ 52`.
  have hunit : 2 ^ n ≤ m / 2 ^ 52 := by
    rw [Nat.le_div_iff_mul_le (Nat.two_pow_pos 52), Nat.mul_comm, ← Nat.pow_add]
    exact hlow
  have hquotLow : 2 ^ 52 ≤ m / 2 ^ n := by
    rw [Nat.le_div_iff_mul_le (Nat.two_pow_pos n), ← Nat.pow_add]
    exact hlow
  have hquotHigh : m / 2 ^ n < 2 ^ 53 := by
    rw [Nat.div_lt_iff_lt_mul (Nat.two_pow_pos n), ← Nat.pow_add]
    exact hhigh.trans_eq (by congr 1; omega)
  have hsplit := Nat.div_add_mod m (2 ^ n)
  have hmod := Nat.mod_lt m (Nat.two_pow_pos n)
  unfold roundWithAccuracy
  rw [shiftToTargetExponent_eq, htarget, hshift, hmax]
  dsimp only
  generalize hem : n.repeat ExtendedMantissa.shiftRightOne (.ofMantissaAndAccuracy m acc) = em
  have hmantissa : em.mantissa = m / 2 ^ n := by
    rw [← hem, mantissa_repeat, ofMantissaAndAccuracy_mantissa]
  have hge := roundedMantissa_ge em
  have hle := roundedMantissa_le em
  rw [hmantissa] at hge hle
  generalize em.roundedMantissa = r at hge hle
  have hup : r * 2 ^ n ≤ m + m / 2 ^ 52 := by
    calc r * 2 ^ n ≤ (m / 2 ^ n + 1) * 2 ^ n := Nat.mul_le_mul_right _ hle
      _ = 2 ^ n * (m / 2 ^ n) + 2 ^ n := by ring
      _ ≤ m + m / 2 ^ 52 := by omega
  have hdown : m ≤ r * 2 ^ n + m / 2 ^ 52 := by
    have hmul : 2 ^ n * (m / 2 ^ n) ≤ r * 2 ^ n := by
      rw [Nat.mul_comm]
      exact Nat.mul_le_mul_right _ hge
    omega
  by_cases hfull : r < 2 ^ 53
  · have hr : 0 < r := (Nat.two_pow_pos 52).trans_le (hquotLow.trans hge)
    refine ⟨r, n, hr, ?_, hquotLow.trans hge, hfull, by omega, hup, hdown⟩
    rw [shift_full (hquotLow.trans hge) hfull (by omega)]
    exact dif_neg (Nat.ne_of_gt hr)
  · -- Rounding has carried: the mantissa is a power of two.
    obtain rfl : r = 2 ^ 53 := by omega
    have hcarried : shiftToTargetExponent Format.binary64 (2 ^ 53) (e + n) .exact =
        (⟨2 ^ 52, false, false⟩, e + (n + 1 : Nat)) := by
      have htarget' : shiftTarget (2 ^ 53) (e + n) = e + (n + 1 : Nat) := by
        unfold shiftTarget
        rw [Nat.log2_two_pow]
        omega
      have hone : (e + (n + 1 : Nat) - (e + n)).toNat = 1 := by omega
      rw [shiftToTargetExponent_eq, htarget', hone]
      refine Prod.ext ?_ (by omega)
      rfl
    have hdouble : 2 ^ 52 * 2 ^ (n + 1) = 2 ^ 53 * 2 ^ n := by ring
    refine ⟨2 ^ 52, n + 1, Nat.two_pow_pos 52, ?_, le_rfl, by decide, by omega, ?_, ?_⟩
    · rw [hcarried]
      exact dif_neg (Nat.ne_of_gt (Nat.two_pow_pos 52))
    · rw [hdouble]
      exact hup
    · rw [hdouble]
      exact hdown

/-- A short mantissa is filled up with zeros and nothing is rounded. -/
theorem round_short {s : Sign} {n : Nat} {e : Int} (hpos : 0 < n) (hlt : n < 2 ^ 53) (he : -1022 ≤ e) :
    ∃ h, UnpackedFloat.round Format.binary64 s n e = .finite s (n * 2 ^ (52 - n.log2)) (e - (52 - n.log2 : Nat)) h ∧
      2 ^ 52 ≤ n * 2 ^ (52 - n.log2) ∧ n * 2 ^ (52 - n.log2) < 2 ^ 53 := by
  have hlog : n.log2 ≤ 52 := log2_le hlt
  obtain ⟨hlow, hhigh⟩ := (Nat.log2_eq_iff (Nat.ne_of_gt hpos)).mp rfl
  have hfull : 2 ^ 52 ≤ n * 2 ^ (52 - n.log2) := by
    calc 2 ^ 52 = 2 ^ n.log2 * 2 ^ (52 - n.log2) := by rw [← Nat.pow_add]; congr 1; omega
      _ ≤ n * 2 ^ (52 - n.log2) := Nat.mul_le_mul_right _ hlow
  have hshort : n * 2 ^ (52 - n.log2) < 2 ^ 53 := by
    calc n * 2 ^ (52 - n.log2) < 2 ^ (n.log2 + 1) * 2 ^ (52 - n.log2) :=
          Nat.mul_lt_mul_of_pos_right hhigh (Nat.two_pow_pos _)
      _ = 2 ^ 53 := by rw [← Nat.pow_add]; congr 1; omega
  have htarget : Format.binary64.targetExponent (totalExponent n e) = e - (52 - n.log2 : Nat) := by
    change max ((n.log2 : Int) + 1 + e - 53) (-1074) = e - (52 - n.log2 : Nat)
    omega
  have hshift : (e - (e - (52 - n.log2 : Nat))).toNat = 52 - n.log2 := by omega
  obtain ⟨h, hround⟩ := round_exact (s := s) (n := 0) (e := e - (52 - n.log2 : Nat)) hfull hshort (by omega)
  rw [Nat.pow_zero, Nat.mul_one, Int.natCast_zero, Int.add_zero] at hround
  refine ⟨h, ?_, hfull, hshort⟩
  unfold UnpackedFloat.round decreaseExponent
  dsimp only
  rw [htarget, hshift, Nat.shiftLeft_eq]
  exact hround

/-! ## 3. Integers

Integers go in and come out without loss as long as they are short. -/

theorem IsFloat.neg {f : Float} {s : Sign} {m : Nat} {e : Int} (h : IsFloat f s m e) : IsFloat (-f) (-s) m e := by
  obtain ⟨hm, hunpack⟩ := h
  have hneg : -f = Float.ofModel (.pack f.toModel.unpack.neg) := rfl
  rw [hneg, hunpack]
  exact isFloat_pack (canonical_of_unpack hunpack) hm

theorem IsFloat.abs {f : Float} {s : Sign} {m : Nat} {e : Int} (h : IsFloat f s m e) : IsFloat f.abs .positive m e := by
  obtain ⟨hm, hunpack⟩ := h
  have habs : f.abs = Float.ofModel (.pack f.toModel.unpack.abs) := rfl
  rw [habs, hunpack]
  exact isFloat_pack (canonical_of_unpack hunpack) hm

/-- A product that fits 53 bits, with zeros behind them, is exact. -/
theorem isFloat_mul_exact {f g : Float} {s t : Sign} {a n : Nat} {d e : Int} (hf : IsFloat f s a d) (hg : IsFloat g t (2 ^ n) e)
    (ha : 2 ^ 52 ≤ a) (hlt : a < 2 ^ 53) (habove : -1074 ≤ d + e + n) (hbelow : d + e + n ≤ 971) :
    IsFloat (f * g) (s * t) a (d + e + n) := by
  obtain ⟨ha', hfu⟩ := hf
  obtain ⟨hn', hgu⟩ := hg
  have hmul : f * g = Float.ofModel (.pack (UnpackedFloat.mul Format.binary64 f.toModel.unpack g.toModel.unpack)) := rfl
  obtain ⟨h, hround⟩ := round_exact (s := s * t) (n := n) (e := d + e) ha hlt habove
  rw [hmul, hfu, hgu]
  unfold UnpackedFloat.mul
  dsimp only
  rw [hround]
  exact isFloat_pack (canonical_of_normal ha hlt habove hbelow) h

/-- An integer of at most 53 bits is a float. -/
theorem isFloat_ofNat {n : Nat} (hpos : 0 < n) (hlt : n < 2 ^ 53) :
    IsFloat (Float.ofNat n) .positive (n * 2 ^ (52 - n.log2)) (-(52 - n.log2 : Nat)) := by
  have hlog : n.log2 ≤ 52 := log2_le hlt
  obtain ⟨hm, hround, hfull, hshort⟩ := round_short (s := .positive) (e := 0) hpos hlt (by decide)
  have hcanonical : Canonical (n * 2 ^ (52 - n.log2)) (-(52 - n.log2 : Nat)) :=
    canonical_of_normal hfull hshort (by omega) (by omega)
  have hcast : IsFloat n.toUInt64.toFloat .positive (n * 2 ^ (52 - n.log2)) (-(52 - n.log2 : Nat)) := by
    have hmodel : n.toUInt64.toFloat = Float.ofModel (.pack (UnpackedFloat.ofNat Format.binary64 n.toUInt64.toNat)) := rfl
    have hn : n.toUInt64.toNat = n := Nat.mod_eq_of_lt (hlt.trans (by decide))
    rw [hmodel, hn]
    unfold UnpackedFloat.ofNat UnpackedFloat.ofInt UnpackedFloat.normalize
    rw [Int.compare_eq_gt.mpr (by omega)]
    dsimp only
    rw [Int.toNat_natCast, hround]
    have hz : (0 : Int) - (52 - n.log2 : Nat) = -(52 - n.log2 : Nat) := Int.zero_sub _
    rw [finite_congr rfl hz]
    exact isFloat_pack hcanonical hm
  have hone : IsFloat Float.exactlyRepresentablePowersOfTen[0] .positive (2 ^ 52) (-52) := ⟨by decide, rfl⟩
  have hproduct := isFloat_mul_exact hcast hone hfull hshort (by omega) (by omega)
  have hscientific : Float.ofNat n = n.toUInt64.toFloat * Float.exactlyRepresentablePowersOfTen[0] := by
    change Float.ofScientific n false 0 = _
    unfold Float.ofScientific
    rw [dif_pos ⟨hlt, by decide⟩]
    rfl
  rw [hscientific]
  have hexponent : -((52 - n.log2 : Nat) : Int) + -52 + (52 : Nat) = -(52 - n.log2 : Nat) := by omega
  rw [hexponent] at hproduct
  exact hproduct

theorem isFloat_ofInt {s : Sign} {n : Nat} (hpos : 0 < n) (hlt : n < 2 ^ 53) :
    IsFloat (Float.ofInt (s.apply n)) s (n * 2 ^ (52 - n.log2)) (-(52 - n.log2 : Nat)) := by
  cases s with
  | positive => exact isFloat_ofNat hpos hlt
  | negative =>
    obtain ⟨k, rfl⟩ : ∃ k, n = k + 1 := ⟨n - 1, by omega⟩
    exact (isFloat_ofNat hpos hlt).neg

/-- `int` of a float without whole exponent drops the fraction. -/
theorem floatToInt_isFloat {f : Float} {s : Sign} {m k : Nat} (h : IsFloat f s m (-(k : Int))) :
    floatToInt f = .ok (s.apply (m / 2 ^ k : Nat)) := by
  obtain ⟨hm, hunpack⟩ := h
  have hshift : (-(k : Int) - 0).toNat = 0 ∧ ((0 : Int) - (-(k : Int) - (0 : Nat))).toNat = k := by omega
  unfold floatToInt
  rw [hunpack]
  change Except.ok (UnpackedFloat.roundToInt s m (-(k : Int))) = _
  unfold UnpackedFloat.roundToInt decreaseExponent
  dsimp only
  rw [hshift.1, Nat.shiftLeft_zero]
  unfold shiftToExponent
  dsimp only
  rw [hshift.2]
  have hmantissa : (ExtendedMantissa.ofMantissaAndAccuracy m .exact >>> k : ExtendedMantissa).mantissa = m / 2 ^ k := by
    change (k.repeat ExtendedMantissa.shiftRightOne _).mantissa = _
    rw [mantissa_repeat, ofMantissaAndAccuracy_mantissa]
  rw [hmantissa]

/-! ## 4. Products and quotients

The error of a product and of a quotient, in units of the last place. -/

/-- The product of two normal floats, up to one part in `2 ^ 52`. -/
theorem isFloat_mul {f g : Float} {s t : Sign} {a b : Nat} {d e : Int} (hf : IsFloat f s a d) (hg : IsFloat g t b e)
    (ha : 2 ^ 52 ≤ a) (hb : 2 ^ 52 ≤ b) (habove : -900 ≤ d + e) (hbelow : d + e ≤ 900) :
    ∃ r k : Nat, IsFloat (f * g) (s * t) r (d + e + k) ∧ 2 ^ 52 ≤ r ∧ k ≤ 54 ∧
      r * 2 ^ k ≤ a * b + a * b / 2 ^ 52 ∧ a * b ≤ r * 2 ^ k + a * b / 2 ^ 52 := by
  have hahigh := hf.canonical.high
  have hbhigh := hg.canonical.high
  obtain ⟨ha', hfu⟩ := hf
  obtain ⟨hb', hgu⟩ := hg
  have hlow : 2 ^ 104 ≤ a * b := by
    calc 2 ^ 104 = 2 ^ 52 * 2 ^ 52 := by rw [← Nat.pow_add]
      _ ≤ a * b := Nat.mul_le_mul ha hb
  have hhigh : a * b < 2 ^ (105 + 1) := by
    calc a * b < 2 ^ 53 * 2 ^ 53 := Nat.mul_lt_mul'' hahigh hbhigh
      _ = 2 ^ (105 + 1) := by rw [← Nat.pow_add]
  have hpos : a * b ≠ 0 := Nat.ne_of_gt ((Nat.two_pow_pos 104).trans_le hlow)
  have hlog : 104 ≤ (a * b).log2 ∧ (a * b).log2 ≤ 105 := ⟨(Nat.le_log2 hpos).mpr hlow, log2_le hhigh⟩
  have hfull : 2 ^ 52 ≤ a * b := (Nat.pow_le_pow_right (by decide) (by decide)).trans hlow
  obtain ⟨r, k, hr, hround, hrlow, hrhigh, hk, hup, hdown⟩ :=
    @round_near (s * t) (a * b) (d + e) .exact hfull (by omega)
  refine ⟨r, k, ?_, hrlow, by omega, hup, hdown⟩
  have hmul : f * g = Float.ofModel (.pack (UnpackedFloat.mul Format.binary64 f.toModel.unpack g.toModel.unpack)) := rfl
  rw [hmul, hfu, hgu]
  unfold UnpackedFloat.mul
  dsimp only
  rw [hround]
  exact isFloat_pack (canonical_of_normal hrlow hrhigh (by omega) (by omega)) hr

/-- The quotient of two normal floats, of which the divisor has its first bits in front: what is divided
is `a` with 53 zeros behind it. -/
theorem isFloat_div {f g : Float} {s t : Sign} {a b : Nat} {d e : Int} (hf : IsFloat f s a d) (hg : IsFloat g t b e)
    (ha : 2 ^ 52 ≤ a) (hb : 2 ^ 52 ≤ b) (habove : -900 ≤ d - e) (hbelow : d - e ≤ 900) :
    ∃ r k : Nat, IsFloat (f / g) (s / t) r (d - e - 53 + k) ∧ 2 ^ 52 ≤ r ∧ k ≤ 2 ∧
      r * 2 ^ k ≤ a * 2 ^ 53 / b + a * 2 ^ 53 / b / 2 ^ 52 ∧ a * 2 ^ 53 / b ≤ r * 2 ^ k + a * 2 ^ 53 / b / 2 ^ 52 := by
  have hahigh := hf.canonical.high
  have hbhigh := hg.canonical.high
  obtain ⟨ha', hfu⟩ := hf
  obtain ⟨hb', hgu⟩ := hg
  have htarget : min (d - e) (Format.binary64.targetExponent (totalExponent a d - totalExponent b e)) = d - e - 53 := by
    change min (d - e) (max ((a.log2 : Int) + 1 + d - ((b.log2 : Int) + 1 + e) - 53) (-1074)) = d - e - 53
    rw [log2_of_normal ha hahigh, log2_of_normal hb hbhigh]
    omega
  have hshift : (d - e - (d - e - 53)).toNat = 53 := by omega
  have hlow : 2 ^ 52 ≤ a * 2 ^ 53 / b := by
    rw [Nat.le_div_iff_mul_le hb']
    exact Nat.mul_le_mul ha hbhigh.le
  have hhigh : a * 2 ^ 53 / b < 2 ^ (53 + 1) := by
    rw [Nat.div_lt_iff_lt_mul hb']
    calc a * 2 ^ 53 < 2 ^ 53 * 2 ^ 53 := Nat.mul_lt_mul_of_pos_right hahigh (Nat.two_pow_pos 53)
      _ = 2 ^ (53 + 1) * 2 ^ 52 := by rw [← Nat.pow_add, ← Nat.pow_add]
      _ ≤ 2 ^ (53 + 1) * b := Nat.mul_le_mul_left _ hb
  have hlog : (a * 2 ^ 53 / b).log2 ≤ 53 := log2_le hhigh
  obtain ⟨r, k, hr, hround, hrlow, hrhigh, hk, hup, hdown⟩ :=
    @round_near (s / t) (a * 2 ^ 53 / b) (d - e - 53) (accuracyOfFraction (a * 2 ^ 53 % b) b) hlow (by omega)
  refine ⟨r, k, ?_, hrlow, by omega, hup, hdown⟩
  have hdiv : f / g = Float.ofModel (.pack (UnpackedFloat.div Format.binary64 f.toModel.unpack g.toModel.unpack)) := rfl
  rw [hdiv, hfu, hgu]
  unfold UnpackedFloat.div divCore
  dsimp only
  rw [htarget, hshift, Nat.shiftLeft_eq, hround]
  exact isFloat_pack (canonical_of_normal hrlow hrhigh (by omega) (by omega)) hr

/-! ## 5. Comparing

Order, for floats of one sign. -/

/-- Normal floats of positive sign are compared by exponent and then by mantissa. -/
theorem le_isFloat {a b : Float} {m n : Nat} {d e : Int} (ha : IsFloat a .positive m d) (hb : IsFloat b .positive n e) :
    a ≤ b ↔ d < e ∨ d = e ∧ m ≤ n := by
  obtain ⟨hm, hau⟩ := ha
  obtain ⟨hn, hbu⟩ := hb
  have hle : a ≤ b ↔ (a.toModel.unpack.compare b.toModel.unpack).any (·.isLE) = true := decide_eq_true_iff
  rw [hle, hau, hbu]
  change (((compare d e).then (compare m n)).isLE = true) ↔ _
  rcases lt_trichotomy d e with h | h | h
  · simp [Int.compare_eq_lt.mpr h, h]
  · subst h
    simp [Nat.isLE_compare]
  · simp [Int.compare_eq_gt.mpr h, h.le, Int.ne_of_gt h]

/-! ## 6. Signs

Rounding has no influence on a sign. -/

/-- The sign a packed float is read back with. -/
theorem sign_of_unpack {b : BitVec Format.binary64.numBits} {s : Sign} {m : Nat} {e : Int} {hm : 0 < m}
    (h : UnpackedFloat.unpack Format.binary64 b = .finite s m e hm) : Sign.ofBitVec (unpackSign b) = s := by
  unfold UnpackedFloat.unpack at h
  dsimp only at h
  split at h
  · split at h <;> cases h
  · split at h
    · split at h
      · cases h
      · exact (UnpackedFloat.finite.inj h).1
    · exact (UnpackedFloat.finite.inj h).1

theorem pack_finite_sign (s : Sign) (m : Nat) (e : Int) (hm : 0 < m) :
    Sign.ofBitVec (unpackSign (UnpackedFloat.pack Format.binary64 (.finite s m e hm))) = s := by
  unfold UnpackedFloat.pack
  dsimp only
  split
  · exact sign_packComponents
  · split
    · exact sign_packComponents
    · exact sign_packComponents

/-- Rounding keeps the sign. -/
theorem pack_round_sign (s : Sign) (m : Nat) (e : Int) (acc : Accuracy) :
    Sign.ofBitVec (unpackSign (UnpackedFloat.pack Format.binary64 (roundWithAccuracy Format.binary64 s m e acc))) = s := by
  unfold roundWithAccuracy
  dsimp only
  split
  · exact sign_packComponents
  · exact pack_finite_sign _ _ _ _

theorem roundToInt_positive (m : Nat) (e : Int) : 0 ≤ UnpackedFloat.roundToInt .positive m e :=
  Int.natCast_nonneg _

/-- A float read back without a minus sign has no negative whole part. -/
theorem floatToInt_nonneg {b : BitVec Format.binary64.numBits} {f : Float} {n : Int}
    (hunpack : f.toModel.unpack = UnpackedFloat.unpack Format.binary64 b)
    (hsign : Sign.ofBitVec (unpackSign b) = .positive) (h : floatToInt f = .ok n) : 0 ≤ n := by
  unfold floatToInt at h
  rw [hunpack] at h
  split at h
  · cases h
  · cases h
  · rw [← Except.ok.inj h]
    cases hu : UnpackedFloat.unpack Format.binary64 b with
    | notANumber => exact le_refl 0
    | infinity s => cases s <;> exact le_refl 0
    | zero s => exact le_refl 0
    | finite s m e hm =>
      obtain rfl := hsign.symm.trans (sign_of_unpack hu)
      exact roundToInt_positive m e

/-- A quotient of two whole numbers that are not negative has no negative whole part. -/
theorem floatToInt_trueDiv {a b : Int} {f : Float} {n : Int} (ha : 0 ≤ a) (hb : 0 < b)
    (hf : trueDiv a b = .ok f) (hn : floatToInt f = .ok n) : 0 ≤ n := by
  unfold trueDiv at hf
  dsimp only at hf
  split at hf
  · cases hf
  obtain rfl := Except.ok.inj hf
  refine floatToInt_nonneg rfl ?_ hn
  have hb0 : ¬ b.natAbs = 0 := by omega
  have ha0 : ¬ a < 0 := by omega
  have hbneg : ¬ b < 0 := by omega
  unfold unpackInt
  rw [dif_neg hb0, if_neg hbneg]
  by_cases hzero : a.natAbs = 0
  · rw [dif_pos hzero]
    exact sign_packComponents
  · rw [dif_neg hzero, if_neg ha0]
    exact pack_round_sign _ _ _ _

end Py
