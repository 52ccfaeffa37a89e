/-
# What `fromtimestamp` makes of a float

`datetime.fromtimestamp` splits a float into its whole seconds and a fraction, and rounds the
fraction to microseconds.  `fromTimestamp_isFloat` says how far the instant can be from the whole
seconds, and `isFloat_div_thousand` what a division by a thousand leaves of them.  Together they
tell seconds from milliseconds: the two readings of a float between `1e11` and `1e12` are years
apart (`readings_differ`).

A program that guesses the unit of an epoch by its size compares it with a bound.  Two programs
with different bounds then disagree on the numbers in between, and this module is what makes
"disagree" a theorem and not an example: for EVERY float of that range, with all its rounding, the
one reading is within seventy years of the epoch and the other is not.

The error terms are crude on purpose.  Two seconds for the fraction and a part in `2 ^ 52` for the
division are more than enough when the readings are decades apart, and crude bounds keep the float
arithmetic to the few facts of `Py/Rounding`.
-/
import BackupCollector.Py.Rounding
import BackupCollector.Py.Datetime

namespace Py

open Float.Model UnpackedFloat

/-! ## 1. The fraction of a second

The whole seconds are exact; the fraction is the bits behind the point, multiplied and rounded. -/

theorem sign_mul_positive (s : Sign) : s * Sign.positive = s := by cases s <;> rfl

theorem sign_div_positive (s : Sign) : s / Sign.positive = s := by cases s <;> rfl

theorem sign_apply_sub (s : Sign) (a b : Int) : s.apply a - s.apply b = s.apply (a - b) := by
  cases s
  · change -a - -b = -(a - b)
    omega
  · rfl

/-- Signed mantissas are rounded as their magnitudes are. -/
theorem normalize_apply {s : Sign} {d : Nat} {e : Int} (hd : 0 < d) :
    UnpackedFloat.normalize Format.binary64 (s.apply d) e .positive = UnpackedFloat.round Format.binary64 s d e := by
  cases s with
  | positive =>
    change (match compare (d : Int) 0 with
      | .lt => _
      | .eq => _
      | .gt => _) = _
    rw [Int.compare_eq_gt.mpr (by omega)]
    rfl
  | negative =>
    change (match compare (-(d : Int)) 0 with
      | .lt => _
      | .eq => _
      | .gt => _) = _
    rw [Int.compare_eq_lt.mpr (by omega)]
    have hback : (-Sign.negative.apply (d : Int)).toNat = d := by
      change (-(-(d : Int))).toNat = d
      rw [Int.neg_neg, Int.toNat_natCast]
    dsimp only
    rw [hback]

/-- The remainder of a float and its whole part: nothing, or the bits behind the point. -/
theorem sub_whole {f : Float} {s : Sign} {m k : Nat} (h : IsFloat f s m (-(k : Int))) (hk : k ≤ 52) (hm : 2 ^ 52 ≤ m) :
    (m % 2 ^ k = 0 ∧ (f - Float.ofInt (s.apply (m / 2 ^ k : Nat))).toModel.unpack = .zero .positive) ∨
    0 < m % 2 ^ k ∧ IsFloat (f - Float.ofInt (s.apply (m / 2 ^ k : Nat))) s
      (m % 2 ^ k * 2 ^ (52 - (m % 2 ^ k).log2)) (-(k : Int) - (52 - (m % 2 ^ k).log2 : Nat)) := by
  have hhigh := h.canonical.high
  have hwhole : 0 < m / 2 ^ k := by
    refine Nat.div_pos ?_ (Nat.two_pow_pos k)
    exact (Nat.pow_le_pow_right (by decide) hk).trans hm
  have hlog : (m / 2 ^ k).log2 = 52 - k := by
    refine (Nat.log2_eq_iff (Nat.ne_of_gt hwhole)).mpr ⟨?_, ?_⟩
    · rw [Nat.le_div_iff_mul_le (Nat.two_pow_pos k), ← Nat.pow_add, Nat.sub_add_cancel hk]
      exact hm
    · rw [Nat.div_lt_iff_lt_mul (Nat.two_pow_pos k), ← Nat.pow_add]
      exact hhigh.trans_eq (by congr 1; omega)
  have hint := isFloat_ofInt (s := s) hwhole ((Nat.div_le_self m (2 ^ k)).trans_lt hhigh)
  have hbits : 52 - (52 - k) = k := by omega
  rw [hlog, hbits] at hint
  obtain ⟨hm', hf⟩ := h
  obtain ⟨hw', hw⟩ := hint
  have hsub : ∀ g : Float, f - g =
      Float.ofModel (.pack (UnpackedFloat.sub Format.binary64 f.toModel.unpack g.toModel.unpack)) := fun g => rfl
  have hmod : m - m / 2 ^ k * 2 ^ k = m % 2 ^ k := by
    have := Nat.div_add_mod m (2 ^ k)
    rw [Nat.mul_comm] at this
    omega
  have hle : m / 2 ^ k * 2 ^ k ≤ m := Nat.div_mul_le_self m (2 ^ k)
  have hdifference : UnpackedFloat.sub Format.binary64 (.finite s m (-(k : Int)) hm')
      (.finite s (m / 2 ^ k * 2 ^ k) (-(k : Int)) hw') =
        UnpackedFloat.normalize Format.binary64 (s.apply (m % 2 ^ k : Nat)) (-(k : Int)) .positive := by
    unfold UnpackedFloat.sub decreaseExponent
    dsimp only
    rw [Int.min_self, Int.sub_self]
    simp only [Int.toNat_zero, Nat.shiftLeft_zero]
    rw [sign_apply_sub, ← hmod, Int.natCast_sub hle]
  rw [hsub, hf, hw, hdifference]
  rcases Nat.eq_zero_or_pos (m % 2 ^ k) with hzero | hpos
  · refine Or.inl ⟨hzero, ?_⟩
    have hnothing : UnpackedFloat.normalize Format.binary64 (s.apply (0 : Nat)) (-(k : Int)) .positive = .zero .positive := by
      cases s <;> rfl
    rw [hzero, hnothing]
    rfl
  · refine Or.inr ⟨hpos, ?_⟩
    have hlt : m % 2 ^ k < 2 ^ 53 := (Nat.mod_le m (2 ^ k)).trans_lt hhigh
    obtain ⟨hr, hround, hfull, hshort⟩ := round_short (s := s) (e := -(k : Int)) hpos hlt (by omega)
    rw [normalize_apply hpos, hround]
    exact isFloat_pack (canonical_of_normal hfull hshort (by omega) (by omega)) hr

/-- What `round` makes of a float, from a bound on the whole of its bits. -/
theorem roundFloat_isFloat {f : Float} {s : Sign} {r i n b : Nat} (h : IsFloat f s r (-(n : Int) + i))
    (hb : r * 2 ^ i < b * 2 ^ n) : ∃ x : Nat, x ≤ b ∧ roundFloat f = s.apply x := by
  obtain ⟨hr, hunpack⟩ := h
  have hround : roundFloat f = s.apply (if 0 ≤ -(n : Int) + i then r * 2 ^ (-(n : Int) + i).toNat
      else roundHalfEven r (2 ^ (-(-(n : Int) + i)).toNat) : Nat) := by
    unfold roundFloat
    rw [hunpack]
  refine ⟨_, ?_, hround⟩
  split
  · have hsplit : (-(n : Int) + i).toNat + n = i := by omega
    have hlt : r * 2 ^ (-(n : Int) + i).toNat * 2 ^ n < b * 2 ^ n := by
      rw [Nat.mul_assoc, ← Nat.pow_add, hsplit]
      exact hb
    exact (Nat.lt_of_mul_lt_mul_right hlt).le
  · have hsplit : (-(-(n : Int) + i)).toNat + i = n := by omega
    have hlt : r * 2 ^ i < b * 2 ^ (-(-(n : Int) + i)).toNat * 2 ^ i := by
      rw [Nat.mul_assoc, ← Nat.pow_add, hsplit]
      exact hb
    have hquot : r / 2 ^ (-(-(n : Int) + i)).toNat < b := by
      rw [Nat.div_lt_iff_lt_mul (Nat.two_pow_pos _)]
      exact Nat.lt_of_mul_lt_mul_right hlt
    exact (roundHalfEven_le _ _).trans hquot

/-- Rounded to microseconds, the fraction is at most two seconds and points away from zero. -/
theorem roundFloat_fraction {f : Float} {s : Sign} {m k : Nat} (h : IsFloat f s m (-(k : Int))) (hk : k ≤ 52)
    (hm : 2 ^ 52 ≤ m) : ∃ n : Nat, n ≤ 2000000 ∧
      roundFloat ((f - Float.ofInt (s.apply (m / 2 ^ k : Nat))) * 1000000.0) = s.apply n := by
  have hmillion : IsFloat 1000000.0 .positive (1000000 * 2 ^ 33) (-33) := ⟨by decide, rfl⟩
  rcases sub_whole h hk hm with ⟨-, hzero⟩ | ⟨hpos, hd⟩
  · have hmul : ∀ g : Float, g * 1000000.0 =
        Float.ofModel (.pack (UnpackedFloat.mul Format.binary64 g.toModel.unpack (1000000.0 : Float).toModel.unpack)) :=
      fun g => rfl
    obtain ⟨_, hunpack⟩ := hmillion
    have hproduct : UnpackedFloat.mul Format.binary64 (.zero .positive) (1000000.0 : Float).toModel.unpack =
        .zero .positive := by
      rw [hunpack]
      rfl
    have hnothing : (Float.ofModel (.pack (.zero .positive))).toModel.unpack = .zero .positive := rfl
    refine ⟨0, by decide, ?_⟩
    rw [hmul, hzero, hproduct]
    unfold roundFloat
    rw [hnothing]
    cases s <;> rfl
  · generalize hdef : m % 2 ^ k = d at hpos hd
    have hlt : d < 2 ^ k := hdef ▸ Nat.mod_lt m (Nat.two_pow_pos k)
    generalize hj : 52 - d.log2 = j at hd
    have hfull : 2 ^ 52 ≤ d * 2 ^ j := hd.canonical.full.resolve_right (by omega)
    have hexponent : -(k : Int) - (j : Nat) + -33 = -((k + j + 33 : Nat) : Int) := by omega
    obtain ⟨r, i, hproduct, -, -, hup, -⟩ := isFloat_mul hd hmillion hfull (by decide) (by omega) (by omega)
    rw [sign_mul_positive, hexponent] at hproduct
    refine roundFloat_isFloat hproduct ?_
    calc r * 2 ^ i ≤ d * 2 ^ j * (1000000 * 2 ^ 33) + d * 2 ^ j * (1000000 * 2 ^ 33) / 2 ^ 52 := hup
      _ ≤ d * (2 ^ j * (2000000 * 2 ^ 33)) := by
          have hle := Nat.div_le_self (d * 2 ^ j * (1000000 * 2 ^ 33)) (2 ^ 52)
          have hdouble : d * (2 ^ j * (2000000 * 2 ^ 33)) =
            d * 2 ^ j * (1000000 * 2 ^ 33) + d * 2 ^ j * (1000000 * 2 ^ 33) := by ring
          rw [hdouble]
          exact Nat.add_le_add_left hle _
      _ < 2 ^ k * (2 ^ j * (2000000 * 2 ^ 33)) :=
          Nat.mul_lt_mul_of_pos_right hlt (Nat.mul_pos (Nat.two_pow_pos j) (by decide))
      _ = 2000000 * 2 ^ (k + j + 33) := by ring

/-- The microseconds of the first second of the epoch. -/
def epochUs : Int := 719162 * usPerDay

/-- `fromtimestamp` of a float: its whole seconds and at most two seconds more. -/
theorem fromTimestamp_isFloat {f : Float} {s : Sign} {m k : Nat} (h : IsFloat f s m (-(k : Int))) (hk : k ≤ 52)
    (hm : 2 ^ 52 ≤ m) : ∃ n : Nat, n ≤ 2000000 ∧
      fromTimestamp f = match Instant.ofUs (epochUs + s.apply (m / 2 ^ k * 1000000 + n : Nat)) with
        | some t => .ok t
        | none => .error (valueError "year is out of range") := by
  obtain ⟨n, hn, hround⟩ := roundFloat_fraction h hk hm
  refine ⟨n, hn, ?_⟩
  have hus : 719162 * usPerDay + s.apply (m / 2 ^ k : Nat) * 1000000 + s.apply n =
      epochUs + s.apply (m / 2 ^ k * 1000000 + n : Nat) := by
    unfold epochUs
    cases s
    · change 719162 * usPerDay + -((m / 2 ^ k : Nat) : Int) * 1000000 + -(n : Int) =
        719162 * usPerDay + -((m / 2 ^ k * 1000000 + n : Nat) : Int)
      rw [Int.natCast_add, Int.natCast_mul]
      ring
    · change 719162 * usPerDay + ((m / 2 ^ k : Nat) : Int) * 1000000 + (n : Int) =
        719162 * usPerDay + ((m / 2 ^ k * 1000000 + n : Nat) : Int)
      rw [Int.natCast_add, Int.natCast_mul]
      ring
  unfold fromTimestamp
  rw [floatToInt_isFloat h]
  dsimp only [bind, Except.bind]
  cases hinstant : Instant.ofUs (epochUs + s.apply (m / 2 ^ k * 1000000 + n : Nat)) <;> rw [hround, hus, hinstant]

/-! ## 2. Seconds and milliseconds

In the range in question a float has few bits behind the point, and its thousandth is some whole
seconds near the epoch. -/

/-- A finite float of at least one hundred billion is normal. -/
theorem isFloat_of_le_abs {f : Float} (hfinite : f.isFinite = true) (hlow : 100000000000.0 ≤ f.abs) :
    ∃ s m e, IsFloat f s m e ∧ (-16 < e ∨ e = -16 ∧ 100000000000 * 2 ^ 16 ≤ m) := by
  have hbound : IsFloat 100000000000.0 .positive (100000000000 * 2 ^ 16) (-16) := ⟨by decide, rfl⟩
  have hisFinite : f.isFinite = f.toModel.unpack.isFinite := rfl
  rw [hisFinite] at hfinite
  have habs : f.abs = Float.ofModel (.pack f.toModel.unpack.abs) := rfl
  cases hunpack : f.toModel.unpack with
  | infinity s => rw [hunpack] at hfinite; cases hfinite
  | notANumber => rw [hunpack] at hfinite; cases hfinite
  | zero s =>
    rw [hunpack] at habs
    have hzero : ¬ (100000000000.0 : Float) ≤ Float.ofModel (.pack (.zero .positive)) := by decide +kernel
    rw [habs] at hlow
    exact absurd hlow hzero
  | finite s m e hm =>
    have hf : IsFloat f s m e := ⟨hm, hunpack⟩
    refine ⟨s, m, e, hf, ?_⟩
    rcases (le_isFloat hbound hf.abs).mp hlow with h | ⟨rfl, h⟩
    · exact Or.inl h
    · exact Or.inr ⟨rfl, h⟩

/-- Between the two bounds a float has 13 to 16 bits behind the point. -/
theorem isFloat_between {f : Float} (hfinite : f.isFinite = true) (hlow : 100000000000.0 ≤ f.abs)
    (hhigh : ¬ 1000000000000.0 ≤ f.abs) :
    ∃ s m k, IsFloat f s m (-((k : Nat) : Int)) ∧ 13 ≤ k ∧ k ≤ 16 ∧ 2 ^ 52 ≤ m ∧
      100000000000 ≤ m / 2 ^ k ∧ m / 2 ^ k < 1000000000000 := by
  have hbound : IsFloat 1000000000000.0 .positive (1000000000000 * 2 ^ 13) (-13) := ⟨by decide, rfl⟩
  obtain ⟨s, m, e, hf, he⟩ := isFloat_of_le_abs hfinite hlow
  have hlt : ¬ (-13 < e ∨ -13 = e ∧ 1000000000000 * 2 ^ 13 ≤ m) := fun h => hhigh ((le_isFloat hbound hf.abs).mpr h)
  have hm := hf.canonical.high
  have hfull : 2 ^ 52 ≤ m := hf.canonical.full.resolve_right (by omega)
  obtain ⟨k, rfl⟩ : ∃ k : Nat, e = -(k : Int) := ⟨(-e).toNat, by omega⟩
  refine ⟨s, m, k, hf, by omega, by omega, hfull, ?_⟩
  obtain rfl | rfl | rfl | rfl : k = 13 ∨ k = 14 ∨ k = 15 ∨ k = 16 := by omega
  all_goals omega

/-- The larger bound is above the smaller one. -/
theorem le_abs_of_le_abs {f : Float} (hhigh : 1000000000000.0 ≤ f.abs) : 100000000000.0 ≤ f.abs := by
  have hsmall : IsFloat 100000000000.0 .positive (100000000000 * 2 ^ 16) (-16) := ⟨by decide, rfl⟩
  have hlarge : IsFloat 1000000000000.0 .positive (1000000000000 * 2 ^ 13) (-13) := ⟨by decide, rfl⟩
  have habs : f.abs = Float.ofModel (.pack f.toModel.unpack.abs) := rfl
  cases hunpack : f.toModel.unpack with
  | finite s m e hm =>
    have hf : IsFloat f s m e := ⟨hm, hunpack⟩
    refine (le_isFloat hsmall hf.abs).mpr ?_
    have hcase := (le_isFloat hlarge hf.abs).mp hhigh
    omega
  | infinity s =>
    rw [habs, hunpack]
    cases s <;> decide +kernel
  | notANumber =>
    rw [habs, hunpack] at hhigh
    exact absurd hhigh (by decide +kernel)
  | zero s =>
    rw [habs, hunpack] at hhigh
    exact absurd hhigh (by cases s <;> decide +kernel)

theorem floatToInt_of_not_finite {f : Float} (h : f.isFinite = false) : (floatToInt f).isOk = false := by
  rw [floatToInt_isOk, h]

/-- A thousandth of what is not finite is not finite. -/
theorem isFinite_div_thousand {f : Float} (h : f.isFinite = false) : (f / 1000.0).isFinite = false := by
  have hthousand : (1000.0 : Float).toModel.unpack = .finite .positive (1000 * 2 ^ 43) (-43) (by decide) := rfl
  have hdiv : f / 1000.0 =
      Float.ofModel (.pack (UnpackedFloat.div Format.binary64 f.toModel.unpack (1000.0 : Float).toModel.unpack)) := rfl
  have hisFinite : f.isFinite = f.toModel.unpack.isFinite := rfl
  rw [hisFinite] at h
  rw [hdiv, hthousand]
  cases hunpack : f.toModel.unpack with
  | finite s m e hm => rw [hunpack] at h; cases h
  | zero s => rw [hunpack] at h; cases h
  | notANumber => rfl
  | infinity s => cases s <;> rfl

/-- A thousandth of a float between the bounds is some whole seconds near the epoch. -/
theorem isFloat_div_thousand {f : Float} {s : Sign} {m k : Nat} (h : IsFloat f s m (-(k : Int))) (hk : 13 ≤ k) (hk' : k ≤ 16)
    (hm : 2 ^ 52 ≤ m) (hlow : 100000000000 ≤ m / 2 ^ k) (hhigh : m / 2 ^ k < 1000000000000) :
    ∃ r i : Nat, IsFloat (f / 1000.0) s r (-(i : Int)) ∧ i ≤ 52 ∧ 2 ^ 52 ≤ r ∧
      40000000 ≤ r / 2 ^ i ∧ r / 2 ^ i < 2100000000 := by
  have hthousand : IsFloat 1000.0 .positive (1000 * 2 ^ 43) (-43) := ⟨by decide, rfl⟩
  obtain ⟨r, j, hquot, hr, hj, hup, hdown⟩ := isFloat_div h hthousand hm (by decide) (by omega) (by omega)
  have hexponent : -(k : Int) - -43 - 53 + j = -((k + 10 - j : Nat) : Int) := by omega
  rw [sign_div_positive, hexponent] at hquot
  refine ⟨r, k + 10 - j, hquot, by omega, hr, ?_⟩
  have hcancel : r / 2 ^ (k + 10 - j) = r * 2 ^ j / 2 ^ (k + 10) := by
    have hsplit : 2 ^ (k + 10) = 2 ^ (k + 10 - j) * 2 ^ j := by rw [← Nat.pow_add]; congr 1; omega
    rw [hsplit, Nat.mul_div_mul_right _ _ (Nat.two_pow_pos j)]
  rw [hcancel]
  generalize r * 2 ^ j = x at hup hdown
  have hq : m * 2 ^ 53 / (1000 * 2 ^ 43) = m * 1024 / 1000 := by
    rw [show m * 2 ^ 53 = m * 1024 * 2 ^ 43 by ring, Nat.mul_div_mul_right _ _ (Nat.two_pow_pos 43)]
  rw [hq] at hup hdown
  obtain rfl | rfl | rfl | rfl : k = 13 ∨ k = 14 ∨ k = 15 ∨ k = 16 := by omega
  all_goals omega

/-- The instants a given number of seconds around the epoch. -/
theorem ofUs_near {s : Sign} {n : Nat} (hn : n < 3000000000 * 1000000) :
    ∃ t : Instant, Instant.ofUs (epochUs + s.apply n) = some t ∧ (t.us : Int) = epochUs + s.apply n := by
  have hepoch : epochUs = 62135596800000000 := by decide
  have hmax : (maxDays : Int) * usPerDay = 315537897600000000 := by decide
  have hrange : 0 ≤ epochUs + s.apply n ∧ epochUs + s.apply n < maxDays * usPerDay := by
    rw [hepoch, hmax]
    cases s with
    | positive =>
      change 0 ≤ (62135596800000000 : Int) + n ∧ (62135596800000000 : Int) + n < 315537897600000000
      omega
    | negative =>
      change 0 ≤ (62135596800000000 : Int) + -n ∧ (62135596800000000 : Int) + -n < 315537897600000000
      omega
  have hsome : ∃ t, Instant.ofUs (epochUs + s.apply n) = some t := ⟨_, dif_pos hrange⟩
  obtain ⟨t, ht⟩ := hsome
  exact ⟨t, ht, Instant.us_of_ofUs ht⟩

/-- A number of seconds is not the number of milliseconds: between the bounds the one reading is within
seventy years of the epoch, the other is not. -/
theorem readings_differ {f : Float} (hfinite : f.isFinite = true) (hlow : 100000000000.0 ≤ f.abs)
    (hhigh : ¬ 1000000000000.0 ≤ f.abs) :
    ∃ t, fromTimestamp (f / 1000.0) = .ok t ∧ ∀ u, fromTimestamp f = .ok u → u ≠ t := by
  obtain ⟨s, m, k, hf, hk, hk', hm, hwhole, hwhole'⟩ := isFloat_between hfinite hlow hhigh
  obtain ⟨r, i, hquot, hi, hr, hsec, hsec'⟩ := isFloat_div_thousand hf hk hk' hm hwhole hwhole'
  obtain ⟨n, hn, hmillis⟩ := fromTimestamp_isFloat hquot hi hr
  obtain ⟨n', -, hseconds⟩ := fromTimestamp_isFloat hf (by omega) hm
  obtain ⟨t, ht, htus⟩ := ofUs_near (s := s) (n := r / 2 ^ i * 1000000 + n) (by omega)
  rw [ht] at hmillis
  refine ⟨t, hmillis, ?_⟩
  rintro u hu rfl
  rw [hseconds] at hu
  cases hus : Instant.ofUs (epochUs + s.apply (m / 2 ^ k * 1000000 + n' : Nat)) with
  | none =>
    rw [hus] at hu
    cases hu
  | some v =>
    rw [hus] at hu
    obtain rfl := Except.ok.inj hu
    have hsame := (Instant.us_of_ofUs hus).symm.trans htus
    have hmagnitude : m / 2 ^ k * 1000000 + n' = r / 2 ^ i * 1000000 + n := by
      cases s with
      | positive =>
        change epochUs + ((m / 2 ^ k * 1000000 + n' : Nat) : Int) = epochUs + ((r / 2 ^ i * 1000000 + n : Nat) : Int) at hsame
        omega
      | negative =>
        change epochUs + -((m / 2 ^ k * 1000000 + n' : Nat) : Int) = epochUs + -((r / 2 ^ i * 1000000 + n : Nat) : Int) at hsame
        omega
    omega

end Py
