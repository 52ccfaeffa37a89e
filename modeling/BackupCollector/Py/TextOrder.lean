/-
# The order of timestamp texts

Padded digits compare as the numbers they show, so texts built of padded fields compare as the
tuples of their fields.  The one field of an `isoformat` text that is not padded is the fraction,
left out when it is zero: there the text goes on with the sign of its offset, which comes before
the point.  So the texts of instants compare as the instants do (`isoformat_lt_iff`).

Programs sort timestamps as texts and take the greatest text for the latest.  That is right for the
texts of ONE writer in ONE zone, which is what this module is about, and wrong as soon as offsets
are mixed or fractions are cut at different places.  The order is of code points, so the marks
between the fields matter only where one text ends and another goes on, and that happens at the
fraction alone.

The dates are compared through their day numbers: years, months and days in this order, each with
what it adds at most.
-/
import BackupCollector.Py.Datetime

namespace Py

open Str

/-! ## 1. Padded fields

A field of fixed width decides, or is equal and the rest decides. -/

theorem append_lt_append {a b : Str} (hlen : a.length = b.length) (h : a < b) (s t : Str) : a ++ s < b ++ t := by
  induction a generalizing b with
  | nil =>
    obtain rfl := List.eq_nil_of_length_eq_zero hlen.symm
    exact absurd h (lt_irrefl _)
  | cons c a ih =>
    cases b with
    | nil => simp at hlen
    | cons d b =>
      rw [List.cons_append, List.cons_append, List.cons_lt_cons_iff]
      rcases List.cons_lt_cons_iff.mp h with hcd | ⟨rfl, hab⟩
      · exact Or.inl hcd
      · exact Or.inr ⟨rfl, ih (by simpa using hlen) hab⟩

/-- Padded digits compare as the numbers do. -/
theorem digitsPad_lt : ∀ (k : Nat) {a b : Nat}, b < 10 ^ k → a < b → digitsPad k a < digitsPad k b
  | 0, a, b, hb, h => by simp at hb; omega
  | k + 1, a, b, hb, h => by
    have hb' : b / 10 < 10 ^ k := by rw [Nat.pow_succ] at hb; omega
    rw [digitsPad, digitsPad]
    rcases Nat.lt_or_ge (a / 10) (b / 10) with hq | hq
    · exact append_lt_append (by simp) (digitsPad_lt k hb' hq) _ _
    · have hq' : a / 10 = b / 10 := by omega
      rw [hq']
      refine List.append_left_lt (List.cons_lt_cons_iff.mpr (Or.inl ?_))
      rw [Fin.lt_def, digitChr_val, digitChr_val]
      omega

/-- Texts that begin with a padded field compare by it first. -/
theorem field_lt {k a b : Nat} {s t : Str} (hb : b < 10 ^ k) (h : a < b ∨ a = b ∧ s < t) :
    digitsPad k a ++ s < digitsPad k b ++ t := by
  rcases h with h | ⟨rfl, h⟩
  · exact append_lt_append (by simp) (digitsPad_lt k hb h) _ _
  · exact List.append_left_lt h

theorem mark_lt (c : Chr) {s t : Str} (h : s < t) : c :: s < c :: t :=
  List.cons_lt_cons_iff.mpr (Or.inr ⟨rfl, h⟩)

/-- The fraction, and what an offset adds to it. -/
theorem fracText_lt {a b : Nat} (hb : b < 1000000) (h : a < b) :
    fracText a ++ lit "+00:00" < fracText b ++ lit "+00:00" := by
  have hb0 : b ≠ 0 := by omega
  by_cases ha0 : a = 0
  · rw [fracText, fracText, if_pos ha0, if_neg hb0]
    exact List.cons_lt_cons_iff.mpr (Or.inl (by decide))
  · rw [fracText, fracText, if_neg ha0, if_neg hb0, List.cons_append, List.cons_append]
    exact mark_lt _ (field_lt hb (Or.inl h))

/-! ## 2. The fields of an instant

A day is at most the days of its month, a month at most those of its year. -/

theorem daysBeforeMonth_succ (leap : Bool) {m : Nat} (hpos : 1 ≤ m) (hle : m < 12) :
    daysBeforeMonth leap (m + 1) = daysBeforeMonth leap m + daysInMonth leap m := by
  have hlen : m - 1 < (monthLengths leap).length := by
    simp only [monthLengths, List.length_cons, List.length_nil]
    omega
  have hm : m + 1 - 1 = m - 1 + 1 := by omega
  rw [daysBeforeMonth, daysBeforeMonth, daysInMonth, hm, List.sum_take_succ _ _ hlen, List.getD_eq_getElem _ _ hlen]

/-- The months of a year follow each other. -/
theorem daysBeforeMonth_add_le (leap : Bool) {m : Nat} (hpos : 1 ≤ m) (k : Nat) (hle : m + 1 + k ≤ 12) :
    daysBeforeMonth leap m + daysInMonth leap m ≤ daysBeforeMonth leap (m + 1 + k) := by
  induction k with
  | zero => rw [Nat.add_zero, daysBeforeMonth_succ leap hpos (by omega)]
  | succ k ih =>
    have hstep := daysBeforeMonth_succ leap (show 1 ≤ m + 1 + k by omega) (by omega)
    have := ih (by omega)
    rw [← Nat.add_assoc, hstep]
    omega

namespace Instant

variable {a b : Instant}

theorem year_spec (t : Instant) : daysBeforeYear t.year ≤ t.days ∧ t.days < daysBeforeYear (t.year + 1) :=
  (yearOf_spec t.days).2

/-- Days are ordered as their dates are. -/
theorem date_lt (h : a.days < b.days) :
    a.year < b.year ∨ a.year = b.year ∧ (a.month < b.month ∨ a.month = b.month ∧ a.day < b.day) := by
  have hyear : a.year ≤ b.year := by
    by_contra hlt
    have hmono : daysBeforeYear (b.year + 1) ≤ daysBeforeYear a.year := daysBeforeYear_mono (by omega)
    have ha := a.year_spec.1
    have hb := b.year_spec.2
    omega
  rcases Nat.lt_or_eq_of_le hyear with hy | hy
  · exact Or.inl hy
  refine Or.inr ⟨hy, ?_⟩
  have hna := a.isDate.number
  have hnb := b.isDate.number
  have hda := a.isDate.day_pos
  have hdb := b.isDate.day_pos
  have hle := b.isDate.day_le
  have hmonth : a.month ≤ b.month := by
    by_contra hlt
    obtain ⟨k, hk⟩ : ∃ k, a.month = b.month + 1 + k := ⟨a.month - (b.month + 1), by omega⟩
    have hnext := daysBeforeMonth_add_le (isLeap b.year) b.isDate.month_pos k (hk ▸ a.isDate.month_le)
    rw [hy, hk] at hna
    omega
  rcases Nat.lt_or_eq_of_le hmonth with hm | hm
  · exact Or.inl hm
  refine Or.inr ⟨hm, ?_⟩
  rw [hy, hm] at hna
  omega

/-- Times of a day are ordered as their clock readings are. -/
theorem clock_lt (h : a.tod < b.tod) :
    a.hour < b.hour ∨ a.hour = b.hour ∧ (a.minute < b.minute ∨ a.minute = b.minute ∧
      (a.second < b.second ∨ a.second = b.second ∧ a.micro < b.micro)) := by
  have ha := a.tod_eq
  have hb := b.tod_eq
  have h1 := a.minute_lt
  have h2 := a.second_lt
  have h3 := a.micro_lt
  have h4 := b.minute_lt
  have h5 := b.second_lt
  have h6 := b.micro_lt
  omega

theorem days_lt_or (h : a < b) : a.days < b.days ∨ a.days = b.days ∧ a.tod < b.tod := by
  have ha := a.us_eq
  have hb := b.us_eq
  have h1 := a.tod_lt
  have h2 := b.tod_lt
  rw [lt_def] at h
  unfold usPerDay at *
  omega

/-! ## 3. The texts of instants

The date first, then the clock, then the fraction. -/

theorem isoformat_date (t : Instant) : t.isoformat =
    digitsPad 4 t.year ++ chr '-' :: (digitsPad 2 t.month ++ chr '-' :: (digitsPad 2 t.day ++
      chr 'T' :: (clockText t.hour t.minute t.second t.micro ++ lit "+00:00"))) := by
  rw [isoformat_eq]
  simp only [List.append_assoc, List.cons_append]

theorem clockText_lt (h : a.tod < b.tod) :
    clockText a.hour a.minute a.second a.micro ++ lit "+00:00" <
      clockText b.hour b.minute b.second b.micro ++ lit "+00:00" := by
  have hb := b.hour_lt
  have hmin := b.minute_lt
  have hsec := b.second_lt
  simp only [clockText, List.append_assoc, List.cons_append]
  refine field_lt (by omega) ((clock_lt h).imp_right (And.imp_right fun h => mark_lt _ ?_))
  refine field_lt (by omega) (h.imp_right (And.imp_right fun h => mark_lt _ ?_))
  exact field_lt (by omega) (h.imp_right (And.imp_right (fracText_lt b.micro_lt)))

/-- An earlier instant has the smaller text. -/
theorem isoformat_lt (h : a < b) : a.isoformat < b.isoformat := by
  rw [isoformat_date, isoformat_date]
  rcases days_lt_or h with hdays | ⟨hdays, htod⟩
  · refine field_lt b.year_lt ((date_lt hdays).imp_right (And.imp_right fun h => mark_lt _ ?_))
    refine field_lt b.month_lt (h.imp_right (And.imp_right fun h => mark_lt _ ?_))
    exact field_lt b.day_lt (Or.inl h)
  · have hyear : a.year = b.year := by rw [year, year, hdays]
    have hmonth : a.month = b.month := by rw [month, month, hdays]
    have hday : a.day = b.day := by rw [day, day, hdays]
    refine field_lt b.year_lt (Or.inr ⟨hyear, mark_lt _ ?_⟩)
    refine field_lt b.month_lt (Or.inr ⟨hmonth, mark_lt _ ?_⟩)
    exact field_lt b.day_lt (Or.inr ⟨hday, mark_lt _ (clockText_lt htod)⟩)

/-- The texts of instants compare as the instants do. -/
theorem isoformat_lt_iff : a.isoformat < b.isoformat ↔ a < b := by
  constructor
  · intro h
    rcases Nat.lt_trichotomy a.us b.us with hab | hab | hab
    · exact hab
    · rw [Instant.ext hab] at h
      exact absurd h (lt_irrefl _)
    · exact absurd h (lt_asymm (isoformat_lt hab))
  · exact isoformat_lt

theorem isoformat_injective : Function.Injective isoformat := by
  intro a b h
  have ha := a.fromisoformat_isoformat
  rw [h, b.fromisoformat_isoformat] at ha
  exact (Prod.mk.inj (Option.some.inj ha)).1.symm

end Instant

end Py
