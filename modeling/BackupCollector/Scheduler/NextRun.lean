/-
# The next run of a schedule

`seconds_until_next_run` floors the current minute of the UTC day to the interval, adds the offset
and the second, and moves one interval on when that is not in the future.  The result is the first
slot after the current instant: one step is enough, and never too much (`next_run_is_first_slot`).
That the code takes `max(0, …)` of the difference is then harmless, since the difference is
positive anyway.

The slots are counted from the UTC midnight of the day in which the delay is computed.  Two
computations for one run agree exactly when their midnights are a multiple of the interval apart,
and the run after a run is one interval later exactly when the same holds of its two midnights
(`cadence_stable_iff`).  For intervals that divide a day this is always so.  For others, seven
minutes being one, the schedule starts again at midnight; the tests of the program pin this, so it
is its meaning and not a slip.

Delays are exact, in microseconds.  The calendar ends after the year 9999, and a slot beyond it has
no delay.
-/
import BackupCollector.Core.Config
import BackupCollector.Py.Calendar

namespace BackupCollector

open Py

/-! ## 1. The delay

The computation, step by step, and its bounds. -/

def usPerMinute : Int := 60000000

/-- The UTC midnight of the day. -/
def dayStart (t : Instant) : Int := (t.us / usPerDay * usPerDay : Nat)

/-- The whole minutes since midnight. -/
def elapsedMinutes (t : Instant) : Int := (t.us - dayStart t) / usPerMinute

/-- `t + timedelta(microseconds=us)` -/
def addTimedelta (t us : Int) : Except Err Int :=
  let days := us / usPerDay
  if 999999999 < days.natAbs then
    .error ⟨.overflowError, lit "days=" ++ Str.ofInt days ++ lit "; must have magnitude <= 999999999"⟩
  else if 0 ≤ t + us ∧ t + us < maxDays * usPerDay then .ok (t + us)
  else .error ⟨.overflowError, "date value out of range"⟩

/-- The slot of the interval the current minute is in. -/
def ScheduleConfig.targetMinute (s : ScheduleConfig) (now : Instant) : Int :=
  elapsedMinutes now - elapsedMinutes now % s.intervalMinutes + s.minuteOffset

/-- A target that is not in the future is moved on by one interval. -/
def ScheduleConfig.moveOn (s : ScheduleConfig) (now : Instant) (target : Int) : Except Err Int :=
  if target ≤ now.us then addTimedelta target (s.intervalMinutes * usPerMinute) else .ok target

/-- `seconds_until_next_run`, in microseconds. -/
def secondsUntilNextRun (s : ScheduleConfig) (now : Instant) : Except Err Int :=
  match s.skipReason with
  | some reason => .error (valueError reason)
  | none => do
    let target ← addTimedelta (dayStart now) (s.targetMinute now * usPerMinute + s.second * 1000000)
    let target ← s.moveOn now target
    return max 0 (target - now.us)

theorem addTimedelta_eq_ok {t us x : Int} (h : addTimedelta t us = .ok x) : x = t + us := by
  unfold addTimedelta at h
  dsimp only at h
  split at h
  · cases h
  · split at h
    · exact (Except.ok.inj h).symm
    · cases h

/-- The period of a schedule. -/
def ScheduleConfig.period (s : ScheduleConfig) : Int := s.intervalMinutes * usPerMinute

/-- Where the slots of a schedule stand, counted from a midnight. -/
def ScheduleConfig.anchor (s : ScheduleConfig) (midnight : Int) : Int :=
  midnight + s.minuteOffset * usPerMinute + s.second * 1000000

theorem dayStart_le (t : Instant) : dayStart t ≤ t.us ∧ (t.us : Int) < dayStart t + usPerDay := by
  unfold dayStart usPerDay
  omega

theorem elapsedMinutes_bounds (t : Instant) :
    0 ≤ elapsedMinutes t ∧ dayStart t + elapsedMinutes t * usPerMinute ≤ t.us ∧
      (t.us : Int) < dayStart t + (elapsedMinutes t + 1) * usPerMinute := by
  have h := dayStart_le t
  unfold elapsedMinutes usPerMinute
  omega

/-- The first target lies less than a period from the current instant, on either side. -/
theorem target_bounds {s : ScheduleConfig} (hs : s.skipReason = none) (now : Instant) :
    let target := dayStart now + (s.targetMinute now * usPerMinute + s.second * 1000000)
    IsSlot s.period (s.anchor (dayStart now)) target ∧ target < now.us + s.period ∧ (now.us : Int) < target + s.period := by
  obtain ⟨hinterval, hoffset, hoffset', hsecond, hsecond'⟩ := ScheduleConfig.skipReason_eq_none.mp hs
  obtain ⟨-, hlow, hhigh⟩ := elapsedMinutes_bounds now
  have hmod := Int.emod_nonneg (elapsedMinutes now) (ne_of_gt hinterval)
  have hmod' := Int.emod_lt_of_pos (elapsedMinutes now) hinterval
  have hdiv := Int.emod_add_mul_ediv (elapsedMinutes now) s.intervalMinutes
  unfold ScheduleConfig.targetMinute ScheduleConfig.period ScheduleConfig.anchor usPerMinute at *
  refine ⟨⟨elapsedMinutes now / s.intervalMinutes, ?_⟩, by linarith, by linarith⟩
  linear_combination (-60000000 : Int) * hdiv

/-- The delay leads to the first slot after the current instant, and is not cut off at zero. -/
theorem secondsUntilNextRun_spec {s : ScheduleConfig} {now : Instant} {d : Int} (h : secondsUntilNextRun s now = .ok d) :
    s.skipReason = none ∧ IsNextSlot s.period (s.anchor (dayStart now)) now.us (now.us + d) := by
  unfold secondsUntilNextRun at h
  cases hs : s.skipReason with
  | some reason =>
    rw [hs] at h
    cases h
  | none =>
    rw [hs] at h
    obtain ⟨target, htarget, h⟩ := bind_eq_ok.mp h
    obtain ⟨target', htarget', h⟩ := bind_eq_ok.mp h
    obtain ⟨hslot, hbefore, hafter⟩ := target_bounds hs now
    rw [← addTimedelta_eq_ok htarget] at hslot hbefore hafter
    have hnext : IsNextSlot s.period (s.anchor (dayStart now)) now.us target' := by
      unfold ScheduleConfig.moveOn at htarget'
      split at htarget'
      · rename_i hpassed
        rw [addTimedelta_eq_ok htarget']
        obtain ⟨k, hk⟩ := hslot
        exact ⟨⟨k + 1, by rw [hk]; unfold ScheduleConfig.period; ring⟩, hafter, by
          unfold ScheduleConfig.period
          linarith⟩
      · rename_i hfuture
        obtain rfl := Except.ok.inj htarget'
        exact ⟨hslot, not_le.mp hfuture, hbefore.le⟩
    have hd : d = target' - now.us := by
      rw [← Except.ok.inj h]
      exact max_eq_right (by linarith [hnext.after])
    refine ⟨rfl, ?_⟩
    rw [hd]
    have heq : (now.us : Int) + (target' - now.us) = target' := by ring
    rw [heq]
    exact hnext

/-! ## 2. When there is a delay

It raises where the calendar ends, and for schedules that are not valid. -/

theorem addTimedelta_isOk {t us : Int} (ht : 0 ≤ t ∧ t < maxDays * usPerDay) :
    (addTimedelta t us).isOk = true ↔ 0 ≤ t + us ∧ t + us < maxDays * usPerDay := by
  unfold addTimedelta
  dsimp only
  constructor
  · intro h
    split at h
    · cases h
    · split at h
      · assumption
      · cases h
  · intro hrange
    have hdays : ¬ 999999999 < (us / (usPerDay : Int)).natAbs := by
      unfold maxDays usPerDay at *
      omega
    rw [if_neg hdays, if_pos hrange]
    rfl

/-- A valid schedule has a next slot. -/
theorem exists_nextSlot {s : ScheduleConfig} (hs : s.skipReason = none) (now : Instant) :
    ∃ x, IsNextSlot s.period (s.anchor (dayStart now)) now.us x := by
  obtain ⟨hslot, hbefore, hafter⟩ := target_bounds hs now
  generalize dayStart now + (s.targetMinute now * usPerMinute + s.second * 1000000) = target at *
  by_cases hpast : target ≤ now.us
  · obtain ⟨k, hk⟩ := hslot
    exact ⟨target + s.period, ⟨k + 1, by rw [hk]; ring⟩, hafter, by linarith⟩
  · exact ⟨target, hslot, not_le.mp hpast, hbefore.le⟩

/-- The first target is not before the first midnight. -/
theorem target_nonneg {s : ScheduleConfig} (hs : s.skipReason = none) (now : Instant) :
    0 ≤ dayStart now + (s.targetMinute now * usPerMinute + s.second * 1000000) := by
  obtain ⟨hinterval, hoffset, -, hsecond, -⟩ := ScheduleConfig.skipReason_eq_none.mp hs
  have hday : 0 ≤ dayStart now := Int.natCast_nonneg _
  have hquot := Int.ediv_nonneg (elapsedMinutes_bounds now).1 hinterval.le
  have hfloor : 0 ≤ elapsedMinutes now - elapsedMinutes now % s.intervalMinutes := by
    have hdiv := Int.emod_add_mul_ediv (elapsedMinutes now) s.intervalMinutes
    have hprod := mul_nonneg hinterval.le hquot
    linarith
  have htarget : 0 ≤ s.targetMinute now := add_nonneg hfloor hoffset
  have hmicros : 0 ≤ s.targetMinute now * usPerMinute := mul_nonneg htarget (by decide)
  linarith

/-- There is a delay when the schedule is valid and its next slot lies in the calendar. -/
theorem secondsUntilNextRun_isOk (s : ScheduleConfig) (now : Instant) :
    (secondsUntilNextRun s now).isOk = true ↔ s.skipReason = none ∧
      ∃ x, IsNextSlot s.period (s.anchor (dayStart now)) now.us x ∧ x < maxDays * usPerDay := by
  have hnow : (now.us : Int) < maxDays * usPerDay := mod_cast now.lt
  have hstart := dayStart_le now
  have hday : 0 ≤ dayStart now := Int.natCast_nonneg _
  constructor
  · intro h
    obtain ⟨d, hd⟩ := ok_of_isOk h
    obtain ⟨hs, hnext⟩ := secondsUntilNextRun_spec hd
    refine ⟨hs, _, hnext, ?_⟩
    unfold secondsUntilNextRun at hd
    rw [hs] at hd
    obtain ⟨target, htarget, hd⟩ := bind_eq_ok.mp hd
    obtain ⟨target', htarget', hd⟩ := bind_eq_ok.mp hd
    have hrange := (addTimedelta_isOk (t := dayStart now) ⟨hday, hstart.1.trans_lt hnow⟩).mp (by rw [htarget]; rfl)
    rw [← addTimedelta_eq_ok htarget] at hrange
    have hrange' : target' < maxDays * usPerDay := by
      unfold ScheduleConfig.moveOn at htarget'
      split at htarget'
      · have h' := (addTimedelta_isOk (t := target) hrange).mp (by rw [htarget']; rfl)
        rw [addTimedelta_eq_ok htarget']
        exact h'.2
      · rw [← Except.ok.inj htarget']
        exact hrange.2
    rw [← Except.ok.inj hd] at hnext ⊢
    have hafter := hnext.after
    omega
  · rintro ⟨hs, x, hx, hlt⟩
    obtain ⟨hslot, hbefore, hafter⟩ := target_bounds hs now
    have hnonneg := target_nonneg hs now
    have hle : dayStart now + (s.targetMinute now * usPerMinute + s.second * 1000000) ≤ x := by
      rcases le_or_gt (dayStart now + (s.targetMinute now * usPerMinute + s.second * 1000000)) now.us with hpast | hfuture
      · exact hpast.trans hx.after.le
      · exact (IsNextSlot.unique ⟨hslot, hfuture, hbefore.le⟩ hx).le
    obtain ⟨y, hy⟩ := ok_of_isOk ((addTimedelta_isOk ⟨hday, hstart.1.trans_lt hnow⟩).mpr ⟨hnonneg, hle.trans_lt hlt⟩)
    rw [← addTimedelta_eq_ok hy] at hslot hbefore hafter hnonneg hle
    have hmove : (s.moveOn now y).isOk = true := by
      unfold ScheduleConfig.moveOn
      split
      · have hnext : IsNextSlot s.period (s.anchor (dayStart now)) now.us (y + s.period) := by
          obtain ⟨k, hk⟩ := hslot
          exact ⟨⟨k + 1, by rw [hk]; ring⟩, hafter, by linarith⟩
        have heq := hnext.unique hx
        have hpos : 0 ≤ y + s.period := by linarith
        exact (addTimedelta_isOk ⟨hnonneg, hle.trans_lt hlt⟩).mpr ⟨hpos, heq.trans_lt hlt⟩
      · rfl
    obtain ⟨z, hz⟩ := ok_of_isOk hmove
    unfold secondsUntilNextRun
    rw [hs]
    dsimp only
    rw [hy]
    dsimp only [bind, Except.bind]
    rw [hz]
    rfl

/-! ## 3. The first slot

First, and within a period; so it is the only slot there. -/

/-- **The delay of an accepted schedule is positive, at most an interval, ends at a slot of the day
and passes none**; there is one unless that slot lies after the year 9999. -/
theorem next_run_is_first_slot (s : ScheduleConfig) (hs : s.skipReason = none) (t : Instant) :
    (∀ d, secondsUntilNextRun s t = .ok d →
      0 < d ∧ d ≤ s.intervalMinutes * usPerMinute ∧
      (∃ k : Int, t.us + d =
        dayStart t + (k * s.intervalMinutes + s.minuteOffset) * usPerMinute + s.second * 1000000) ∧
      ∀ k : Int,
        ¬ ((t.us : Int) < dayStart t + (k * s.intervalMinutes + s.minuteOffset) * usPerMinute + s.second * 1000000 ∧
          dayStart t + (k * s.intervalMinutes + s.minuteOffset) * usPerMinute + s.second * 1000000 < t.us + d)) ∧
    (t.us + s.intervalMinutes * usPerMinute < maxDays * usPerDay → (secondsUntilNextRun s t).isOk = true) := by
  have hform : ∀ k : Int, s.anchor (dayStart t) + k * s.period =
      dayStart t + (k * s.intervalMinutes + s.minuteOffset) * usPerMinute + s.second * 1000000 := by
    intro k
    unfold ScheduleConfig.anchor ScheduleConfig.period
    ring
  constructor
  · intro d h
    obtain ⟨-, hnext⟩ := secondsUntilNextRun_spec h
    have hafter := hnext.after
    have hwithin := hnext.within
    unfold ScheduleConfig.period at hwithin
    obtain ⟨k, hk⟩ := hnext.slot
    refine ⟨by linarith, by linarith, ⟨k, hk.trans (hform k)⟩, fun l hl => ?_⟩
    have hfirst := hnext.first ⟨l, rfl⟩ (by rw [hform l]; exact hl.1)
    rw [hform l] at hfirst
    linarith [hl.2]
  · intro hroom
    obtain ⟨x, hx⟩ := exists_nextSlot hs t
    refine (secondsUntilNextRun_isOk s t).mpr ⟨hs, x, hx, ?_⟩
    have hwithin := hx.within
    unfold ScheduleConfig.period at hwithin
    linarith

/-- Every five minutes, at minute two: at 00:01 it is one minute to the next run. -/
theorem next_run_is_first_slot_one_minute : ∃ t : Instant, t.us = 60000000 ∧ (0 : Int) < 60000000 ∧
    ∃ k : Int, t.us + 60000000 = dayStart t + (k * 5 + 2) * usPerMinute + 0 * 1000000 :=
  have h := (next_run_is_first_slot { minuteOffset := 2 } (by decide) ⟨60000000, by decide⟩).1 60000000 (by decide +kernel)
  ⟨_, rfl, h.1, h.2.2.1⟩

/-! ## 4. The cadence

Slots of one midnight against those of another. -/

theorem dayStart_eq (t : Instant) : dayStart t = (t.us / usPerDay : Nat) * (1440 * usPerMinute) := by
  unfold dayStart usPerDay usPerMinute
  push_cast
  ring

/-- The midnights of two instants are a multiple of the period apart when the minutes between them
are a multiple of the interval. -/
theorem period_dvd_iff {s : ScheduleConfig} {t u : Instant} :
    s.period ∣ s.anchor (dayStart u) - s.anchor (dayStart t) ↔
      s.intervalMinutes ∣ 1440 * ((u.us / usPerDay : Nat) - (t.us / usPerDay : Nat) : Int) := by
  have hdiff : s.anchor (dayStart u) - s.anchor (dayStart t) =
      1440 * ((u.us / usPerDay : Nat) - (t.us / usPerDay : Nat) : Int) * usPerMinute := by
    unfold ScheduleConfig.anchor
    rw [dayStart_eq, dayStart_eq]
    ring
  rw [hdiff]
  unfold ScheduleConfig.period
  exact mul_dvd_mul_iff_right (by decide)

/-- **A delay computed again before the run leads to the same run exactly when the minutes between
the two midnights are a multiple of the interval.**  The run after a run is one interval later
exactly when the minutes between their midnights are.  Where the two midnights are one, both always
hold. -/
theorem cadence_stable_iff (s : ScheduleConfig) (t u : Instant) (d e : Int) (ht : secondsUntilNextRun s t = .ok d)
    (hu : secondsUntilNextRun s u = .ok e) (htu : t ≤ u) (hud : (u.us : Int) < t.us + d) :
    (u.us + e = t.us + d ↔ s.intervalMinutes ∣ 1440 * ((u.us / usPerDay : Nat) - (t.us / usPerDay : Nat) : Int)) ∧
    ∀ (f : Instant) (g : Int), (f.us : Int) = t.us + d → secondsUntilNextRun s f = .ok g →
      (g = s.intervalMinutes * usPerMinute ↔
        s.intervalMinutes ∣ 1440 * ((f.us / usPerDay : Nat) - (t.us / usPerDay : Nat) : Int)) := by
  obtain ⟨hs, hnext⟩ := secondsUntilNextRun_spec ht
  obtain ⟨-, hnext'⟩ := secondsUntilNextRun_spec hu
  constructor
  · rw [← period_dvd_iff]
    constructor
    · intro heq
      rw [heq] at hnext'
      exact dvd_of_isSlot hnext.slot hnext'.slot
    · intro hdvd
      have hlater := hnext.later (Int.ofNat_le.mpr (Instant.le_def.mp htu)) hud
      exact hnext'.unique ⟨(isSlot_of_dvd hdvd).mp hlater.slot, hlater.after, hlater.within⟩
  · intro f g hf hg
    obtain ⟨-, hnext''⟩ := secondsUntilNextRun_spec hg
    have hfired : IsSlot s.period (s.anchor (dayStart t)) f.us := by
      rw [hf]
      exact hnext.slot
    rw [← period_dvd_iff]
    constructor
    · intro hinterval
      have hback : IsSlot s.period (s.anchor (dayStart f)) f.us := by
        obtain ⟨k, hk⟩ := hnext''.slot
        refine ⟨k - 1, ?_⟩
        unfold ScheduleConfig.period at hk ⊢
        linear_combination hk - hinterval
      exact dvd_of_isSlot hfired hback
    · intro hdvd
      have hperiod : 0 < s.period := by
        have hinterval := (ScheduleConfig.skipReason_eq_none.mp hs).1
        unfold ScheduleConfig.period usPerMinute
        omega
      have heq := hnext''.unique (((isSlot_of_dvd hdvd).mp hfired).next hperiod)
      unfold ScheduleConfig.period at heq
      linarith

/-- Hourly at minute zero: computed at 00:10 and at 00:20, the run is the one at 01:00. -/
theorem cadence_stable_iff_hourly : ∃ t u : Instant, t.us = 600000000 ∧ u.us = 1200000000 ∧
    (u.us + 2400000000 : Int) = t.us + 3000000000 :=
  ⟨⟨600000000, by decide⟩, ⟨1200000000, by decide⟩, rfl, rfl,
    (cadence_stable_iff { intervalMinutes := 60 } ⟨600000000, by decide⟩ ⟨1200000000, by decide⟩ 3000000000 2400000000
      (by decide +kernel) (by decide +kernel) (by decide) (by decide)).1.mpr (by decide)⟩

/-- Every seven minutes: at 23:59 the next run is at 00:02, at midnight it is at 00:07. -/
theorem seven_minutes_move : ∃ t u : Instant, ({ intervalMinutes := 7 } : ScheduleConfig).skipReason = none ∧ t ≤ u ∧
    secondsUntilNextRun { intervalMinutes := 7 } t = .ok 180000000 ∧ (u.us : Int) < t.us + 180000000 ∧
    secondsUntilNextRun { intervalMinutes := 7 } u = .ok 420000000 ∧ (u.us : Int) + 420000000 ≠ t.us + 180000000 :=
  ⟨⟨86340000000, by decide⟩, ⟨86400000000, by decide⟩, by decide, by decide, by decide +kernel, by decide,
    by decide +kernel, by decide⟩

end BackupCollector
