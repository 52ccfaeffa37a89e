/-
# Instants and the calendar

Every timestamp the program keeps is an aware UTC `datetime` between the years 1 and 9999: here a
count of microseconds since 0001-01-01T00:00:00.  The calendar is the proleptic Gregorian one of
`datetime`.  An instant carries its bound, so an addition that leaves the calendar has no result,
as in the interpreter, where it raises.

The result the texts rest on is `dayNumber_civil`: a day read as year, month and day and numbered
again is the same day.  The year is found by an estimate from the mean length of a year, which is
off by one at most (`yearOf_spec`), and the month by walking the lengths of the months; both are as
`datetime` does it, and both are computed, not searched for.

The last section is about schedules and names none: the multiples of a period, moved by an offset.
After any instant there is exactly one slot within a period, and it is the first one.  It needs
nothing of the calendar but that instants are numbers.

Time zones, leap seconds and other calendars are absent, here as there.
-/
import BackupCollector.Py.Repr

namespace Py

/-! ## 1. Instants

An instant is a number below the end of the year 9999. -/

def usPerDay : Nat := 86400000000

/-- Days from 0001-01-01 to 9999-12-31, both included. -/
def maxDays : Nat := 3652059

/-- A UTC `datetime`, in microseconds since 0001-01-01T00:00:00. -/
structure Instant where
  us : Nat
  lt : us < maxDays * usPerDay
deriving DecidableEq

namespace Instant

instance : LT Instant := ⟨fun a b => a.us < b.us⟩
instance : LE Instant := ⟨fun a b => a.us ≤ b.us⟩
instance : DecidableRel (α := Instant) (· < ·) := fun a b => inferInstanceAs (Decidable (a.us < b.us))
instance : DecidableRel (α := Instant) (· ≤ ·) := fun a b => inferInstanceAs (Decidable (a.us ≤ b.us))

theorem lt_def {a b : Instant} : a < b ↔ a.us < b.us := Iff.rfl
theorem le_def {a b : Instant} : a ≤ b ↔ a.us ≤ b.us := Iff.rfl

@[ext] theorem ext {a b : Instant} (h : a.us = b.us) : a = b := by
  cases a; cases b; simpa using h

/-- The instant `n` microseconds after the first one, when there is one. -/
def ofUs (n : Int) : Option Instant :=
  if h : 0 ≤ n ∧ n < maxDays * usPerDay then some ⟨n.toNat, by omega⟩ else none

theorem ofUs_us (t : Instant) : ofUs t.us = some t := by
  have := t.lt
  simp only [ofUs]
  rw [dif_pos (by omega)]
  simp

theorem us_of_ofUs {n : Int} {t : Instant} (h : ofUs n = some t) : (t.us : Int) = n := by
  unfold ofUs at h
  split at h
  · rename_i hn
    rw [← Option.some.inj h]
    exact Int.toNat_of_nonneg hn.1
  · cases h

end Instant

/-! ## 2. The calendar

From a day number to a date and back; a date that does not exist has no number. -/

def isLeap (y : Nat) : Bool := decide (y % 4 = 0) && (decide (y % 100 ≠ 0) || decide (y % 400 = 0))

/-- Days before January 1 of the year. -/
def daysBeforeYear (y : Nat) : Nat := (y - 1) * 365 + (y - 1) / 4 - (y - 1) / 100 + (y - 1) / 400

def monthLengths (leap : Bool) : List Nat :=
  [31, if leap then 29 else 28, 31, 30, 31, 30, 31, 31, 30, 31, 30, 31]

def daysInMonth (leap : Bool) (m : Nat) : Nat := (monthLengths leap).getD (m - 1) 0

/-- Days of the year before the first of the month. -/
def daysBeforeMonth (leap : Bool) (m : Nat) : Nat := ((monthLengths leap).take (m - 1)).sum

/-- The year that holds the `n`-th day: an estimate by mean year length, off by one at most. -/
def yearOf (n : Nat) : Nat :=
  let y := n * 400 / 146097 + 1
  if n < daysBeforeYear y then y - 1 else if daysBeforeYear (y + 1) ≤ n then y + 1 else y

/-- Month and day of the `n`-th day of a year, walking the month lengths from month `m`. -/
def monthDay : List Nat → Nat → Nat → Nat × Nat
  | [], m, n => (m, n + 1)
  | l :: ls, m, n => if n < l then (m, n + 1) else monthDay ls (m + 1) (n - l)

/-- Year, month and day of the `n`-th day since 0001-01-01. -/
def civil (n : Nat) : Nat × Nat × Nat :=
  let y := yearOf n
  let md := monthDay (monthLengths (isLeap y)) 1 (n - daysBeforeYear y)
  (y, md.1, md.2)

/-- The day number of a calendar date, `none` when there is no such date. -/
def dayNumber (y m d : Nat) : Option Nat :=
  if 1 ≤ y ∧ y ≤ 9999 ∧ 1 ≤ m ∧ m ≤ 12 ∧ 1 ≤ d ∧ d ≤ daysInMonth (isLeap y) m then
    some (daysBeforeYear y + daysBeforeMonth (isLeap y) m + (d - 1))
  else none

namespace Instant

def days (t : Instant) : Nat := t.us / usPerDay
def tod (t : Instant) : Nat := t.us % usPerDay
def year (t : Instant) : Nat := (civil t.days).1
def month (t : Instant) : Nat := (civil t.days).2.1
def day (t : Instant) : Nat := (civil t.days).2.2
def hour (t : Instant) : Nat := t.tod / 3600000000
def minute (t : Instant) : Nat := t.tod / 60000000 % 60
def second (t : Instant) : Nat := t.tod / 1000000 % 60
def micro (t : Instant) : Nat := t.tod % 1000000

end Instant

/-! ## 3. A day number and its date determine each other

The two directions are inverse to each other, field by field. -/

theorem daysBeforeYear_succ (k : Nat) :
    daysBeforeYear (k + 2) = daysBeforeYear (k + 1) + (if isLeap (k + 1) then 366 else 365) := by
  have h4 := Nat.succ_div (a := k) (b := 4)
  have h100 := Nat.succ_div (a := k) (b := 100)
  have h400 := Nat.succ_div (a := k) (b := 400)
  simp only [Nat.dvd_iff_mod_eq_zero] at h4 h100 h400
  simp only [daysBeforeYear, isLeap, Bool.and_eq_true, Bool.or_eq_true, decide_eq_true_eq,
    Nat.add_sub_cancel, show k + 2 - 1 = k + 1 from rfl, h4, h100, h400]
  have hle : k / 100 ≤ k / 4 := by omega
  clear h4 h100 h400
  generalize k / 4 = a at *
  generalize k / 100 = b at *
  split <;> split_ifs <;> omega

theorem daysBeforeYear_mono : Monotone daysBeforeYear := by
  refine monotone_nat_of_le_succ fun y => ?_
  cases y with
  | zero => decide
  | succ k => rw [daysBeforeYear_succ k]; omega

/-- The estimate of `yearOf` is off by one at most, so one correction reaches the year. -/
theorem yearOf_spec (n : Nat) :
    1 ≤ yearOf n ∧ daysBeforeYear (yearOf n) ≤ n ∧ n < daysBeforeYear (yearOf n + 1) := by
  unfold yearOf
  dsimp only
  by_cases h1 : n < daysBeforeYear (n * 400 / 146097 + 1)
  · rw [if_pos h1]
    simp only [daysBeforeYear] at *
    omega
  · rw [if_neg h1]
    by_cases h2 : daysBeforeYear (n * 400 / 146097 + 1 + 1) ≤ n
    · rw [if_pos h2]
      simp only [daysBeforeYear] at *
      omega
    · rw [if_neg h2]
      simp only [daysBeforeYear] at *
      omega

theorem yearOf_le {n : Nat} (h : n < maxDays) : yearOf n ≤ 9999 := by
  by_contra hc
  have h1 := (yearOf_spec n).2.1
  have h2 : daysBeforeYear 10000 ≤ daysBeforeYear (yearOf n) := daysBeforeYear_mono (by omega)
  have h3 : daysBeforeYear 10000 = maxDays := by decide
  omega

/-- The day of the year is below the length of the year. -/
theorem dayOfYear_lt (n : Nat) :
    n - daysBeforeYear (yearOf n) < (monthLengths (isLeap (yearOf n))).sum := by
  obtain ⟨h1, h2, h3⟩ := yearOf_spec n
  obtain ⟨k, hk⟩ : ∃ k, yearOf n = k + 1 := ⟨yearOf n - 1, by omega⟩
  rw [hk] at h2 h3 ⊢
  rw [daysBeforeYear_succ k] at h3
  have hs : (monthLengths (isLeap (k + 1))).sum = if isLeap (k + 1) then 366 else 365 := by
    cases isLeap (k + 1) <;> rfl
  rw [hs]
  split at h3 <;> simp only [*, if_true, Bool.false_eq_true, if_false] <;> omega

/-- Walking the month lengths ends in the month whose days contain the day. -/
theorem monthDay_spec : ∀ (ls : List Nat) (m n : Nat), n < ls.sum →
    ∃ i < ls.length, (monthDay ls m n).1 = m + i ∧ 1 ≤ (monthDay ls m n).2 ∧
      (monthDay ls m n).2 ≤ ls.getD i 0 ∧ (ls.take i).sum + ((monthDay ls m n).2 - 1) = n
  | [], m, n, h => by simp at h
  | l :: ls, m, n, h => by
    by_cases hn : n < l
    · refine ⟨0, by simp, ?_⟩
      simp [monthDay, hn]
    · have hrest : n - l < ls.sum := by simp only [List.sum_cons] at h; omega
      obtain ⟨i, hi, h1, h2, h3, h4⟩ := monthDay_spec ls (m + 1) (n - l) hrest
      refine ⟨i + 1, by simpa using hi, ?_⟩
      simp only [monthDay, hn, if_false, List.take_succ_cons, List.sum_cons, List.getD_cons_succ]
      omega

/-- What the calendar says of a day: a year of four digits, a month of the year, a day of the
month. -/
structure IsDate (n y m d : Nat) : Prop where
  year_pos : 1 ≤ y
  year_le : y ≤ 9999
  month_pos : 1 ≤ m
  month_le : m ≤ 12
  day_pos : 1 ≤ d
  day_le : d ≤ daysInMonth (isLeap y) m
  number : daysBeforeYear y + daysBeforeMonth (isLeap y) m + (d - 1) = n

theorem civil_isDate {n : Nat} (h : n < maxDays) :
    IsDate n (civil n).1 (civil n).2.1 (civil n).2.2 := by
  obtain ⟨h1, h2, -⟩ := yearOf_spec n
  obtain ⟨i, hi, hm, hd, hdl, hs⟩ := monthDay_spec _ 1 _ (dayOfYear_lt n)
  have hi' : i < 12 := by simpa [monthLengths] using hi
  have hi1 : 1 + i - 1 = i := by omega
  constructor
  · exact h1
  · exact yearOf_le h
  · simp only [civil, hm]; omega
  · simp only [civil, hm]; omega
  · exact hd
  · simpa only [civil, daysInMonth, hm, hi1] using hdl
  · simp only [civil, daysBeforeMonth, hm, hi1]
    omega

theorem daysInMonth_le (leap : Bool) (m : Nat) : daysInMonth leap m ≤ 31 := by
  unfold daysInMonth monthLengths
  generalize m - 1 = i
  cases leap <;> match i with
    | 0 | 1 | 2 | 3 | 4 | 5 | 6 | 7 | 8 | 9 | 10 | 11 => decide
    | _ + 12 => simp

/-- Numbering the date of a day gives the day back. -/
theorem dayNumber_civil {n : Nat} (h : n < maxDays) :
    dayNumber (civil n).1 (civil n).2.1 (civil n).2.2 = some n := by
  have hd := civil_isDate h
  unfold dayNumber
  rw [if_pos ⟨hd.year_pos, hd.year_le, hd.month_pos, hd.month_le, hd.day_pos, hd.day_le⟩, hd.number]

namespace Instant

theorem days_lt (t : Instant) : t.days < maxDays := by
  have h := t.lt
  unfold days usPerDay at *
  omega

theorem isDate (t : Instant) : IsDate t.days t.year t.month t.day := civil_isDate t.days_lt

theorem year_lt (t : Instant) : t.year < 10000 := by have := t.isDate.year_le; omega

theorem month_lt (t : Instant) : t.month < 100 := by have := t.isDate.month_le; omega

theorem day_lt (t : Instant) : t.day < 100 := by
  have h1 := t.isDate.day_le
  have h2 := daysInMonth_le (isLeap t.year) t.month
  omega

theorem tod_lt (t : Instant) : t.tod < usPerDay := Nat.mod_lt _ (by decide)

theorem hour_lt (t : Instant) : t.hour < 24 := by
  have h := t.tod_lt
  unfold hour usPerDay at *
  omega

theorem minute_lt (t : Instant) : t.minute < 60 := Nat.mod_lt _ (by decide)

theorem second_lt (t : Instant) : t.second < 60 := Nat.mod_lt _ (by decide)

theorem micro_lt (t : Instant) : t.micro < 1000000 := Nat.mod_lt _ (by decide)

/-- The clock reading determines the microsecond of the day. -/
theorem tod_eq (t : Instant) :
    ((t.hour * 60 + t.minute) * 60 + t.second) * 1000000 + t.micro = t.tod := by
  unfold hour minute second micro
  omega

theorem us_eq (t : Instant) : t.days * usPerDay + t.tod = t.us := by
  unfold days tod
  exact Nat.div_add_mod' t.us usPerDay

end Instant

/-! ## 4. Slots of a period

The multiples of a period, moved by an offset.  After any instant there is exactly one slot within
a period, and it is the first.  Slots counted from two offsets are the same slots when the offsets
are a multiple of the period apart, and have none in common otherwise. -/

section Slots

/-- The slots of a period: its multiples, moved by an offset. -/
def IsSlot (period offset x : Int) : Prop := ∃ k : Int, x = offset + k * period

/-- The first slot after an instant: later than it, and by a period at most. -/
structure IsNextSlot (period offset t x : Int) : Prop where
  slot : IsSlot period offset x
  after : t < x
  within : x ≤ t + period

variable {period offset t x y : Int}

/-- Two slots less than a period apart are one. -/
theorem IsSlot.eq_of_near (hx : IsSlot period offset x) (hy : IsSlot period offset y) (hxy : x < y + period)
    (hyx : y < x + period) : x = y := by
  obtain ⟨k, rfl⟩ := hx
  obtain ⟨l, rfl⟩ := hy
  have hkl : k = l := by
    rcases lt_trichotomy k l with h | h | h
    · nlinarith
    · exact h
    · nlinarith
  rw [hkl]

/-- There is one slot in the period that follows an instant. -/
theorem IsNextSlot.unique (hx : IsNextSlot period offset t x) (hy : IsNextSlot period offset t y) : x = y :=
  hx.slot.eq_of_near hy.slot (by linarith [hx.within, hy.after]) (by linarith [hy.within, hx.after])

/-- No slot comes before the first one. -/
theorem IsNextSlot.first (hx : IsNextSlot period offset t x) (hy : IsSlot period offset y) (hty : t < y) : x ≤ y := by
  by_contra hlt
  rw [not_le] at hlt
  have heq := hx.unique ⟨hy, hty, by linarith [hx.within]⟩
  linarith

/-- The first slot after a later instant that the slot has not passed is the same one. -/
theorem IsNextSlot.later (hx : IsNextSlot period offset t x) {u : Int} (htu : t ≤ u) (hux : u < x) :
    IsNextSlot period offset u x :=
  ⟨hx.slot, hux, by linarith [hx.within]⟩

/-- After a slot comes the next one, a period later. -/
theorem IsSlot.next (hx : IsSlot period offset x) (hperiod : 0 < period) : IsNextSlot period offset x (x + period) := by
  obtain ⟨k, rfl⟩ := hx
  exact ⟨⟨k + 1, by ring⟩, by linarith, le_refl _⟩

/-- Slots counted from two origins are the same slots, or have none in common. -/
theorem isSlot_of_dvd {offset' : Int} (h : period ∣ offset' - offset) : IsSlot period offset x ↔ IsSlot period offset' x := by
  obtain ⟨m, hm⟩ := h
  constructor
  · rintro ⟨k, rfl⟩
    exact ⟨k - m, by linear_combination -hm⟩
  · rintro ⟨k, rfl⟩
    exact ⟨k + m, by linear_combination hm⟩

theorem dvd_of_isSlot {offset' : Int} (h : IsSlot period offset x) (h' : IsSlot period offset' x) :
    period ∣ offset' - offset := by
  obtain ⟨k, hk⟩ := h
  obtain ⟨l, hl⟩ := h'
  exact ⟨k - l, by linear_combination hk - hl⟩

end Slots

end Py
