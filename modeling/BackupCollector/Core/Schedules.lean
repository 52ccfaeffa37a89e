/-
# Which classes are scheduled

A collector that is loaded has a schedule, and the scheduler runs it for the classes of that
schedule and skips it when a number of it is out of range.  Both are decided by the loader, from
an entry that may give a mapping for each class, numbers for the one class `fast`, a deprecated
second of the minute, or nothing.  `loaded_schedules` says what the scheduler is given:

* exactly the classes the entry names, once each, and `fast` where it names none (`Scheduled`;
  `slow` has to be given a value too, which the other classes do not);
* for each of them a schedule that is invalid only through a number THE ENTRY GIVES
  (`GivenInRange`).

The second part is about the defaults.  Every number has one, and the default of the minute offset
depends on the interval, so that a default could leave the range although no number of the entry
does; that none does is what the guards of `GivenInRange` keep in the statement.  A default
interval that is not positive would break it.

Not covered: an entry that does not load, and what the scheduler does with an invalid schedule.
-/
import BackupCollector.Core.Loader

namespace BackupCollector

open Py

section Schedules

variable [Unicode] {readText : Str → Except Err Str}

/-! ## 1. What an entry says

The classes a `schedule` names are scheduled, and if it names none, `fast` alone.  The numbers of
a class stand in the mapping of the class, or in the `schedule` itself. -/

/-- The `schedule` of an entry. -/
def scheduleRaw (raw : Obj) : Obj := mappingUnder raw "schedule"

/-- Whether it names a class. -/
def byClass (raw : Obj) : Bool :=
  [CollectionClass.fast, .slow, .jobs, .backups, .inventory].any fun c => decide (c.name ∈ Dict.keys (scheduleRaw raw))

/-- The class is scheduled for an entry. -/
def Scheduled (raw : Obj) (collectionClass : CollectionClass) : Prop :=
  if byClass raw then named (scheduleRaw raw) collectionClass = true else collectionClass = .fast

/-- The mapping that gives the numbers of a class; `schedule_second` is one of them, given alone. -/
def numbersOf (raw : Obj) (collectionClass : CollectionClass) : Obj :=
  if byClass raw then mappingUnder (scheduleRaw raw) collectionClass.name
  else match Dict.get? raw "schedule", Dict.get? raw "schedule_second" with
    | none, some second => [("second", second)]
    | _, _ => scheduleRaw raw

/-- Every number of a schedule that its mapping gives is in its range.  It says nothing of a number
that is left to a default. -/
structure GivenInRange (numbers : Obj) (s : ScheduleConfig) : Prop where
  interval : (Dict.get? numbers "interval_minutes").isSome = true → 0 < s.intervalMinutes
  offset : (Dict.get? numbers "minute_offset").isSome = true → 0 ≤ s.minuteOffset ∧ s.minuteOffset < s.intervalMinutes
  second : (Dict.get? numbers "second").isSome = true → 0 ≤ s.second ∧ s.second ≤ 59

/-! ## 2. Defaults are in range

A number the entry does not give is a default, and a default is always in range: what makes a
schedule invalid is a number of the entry. -/

omit [Unicode] in
theorem defaultMinuteOffset_range {targetType : Str} {offset : Int} (h : defaultMinuteOffset targetType = .ok offset) :
    0 ≤ offset ∧ offset < 5 := by
  unfold defaultMinuteOffset at h
  simp only [Dict.get?_cons, Dict.get?_nil] at h
  split_ifs at h <;> cases h <;> decide

omit [Unicode] in
theorem defaultIntervalMinutes_pos (targetType : Str) (collectionClass : CollectionClass) :
    0 < defaultIntervalMinutes targetType collectionClass := by
  cases collectionClass <;> simp only [defaultIntervalMinutes]
  case inventory => split_ifs <;> decide
  all_goals decide

omit [Unicode] in
theorem defaultSecondValue_range (collectionClass : CollectionClass) :
    0 ≤ defaultSecondValue collectionClass ∧ defaultSecondValue collectionClass ≤ 59 := by
  cases collectionClass <;> decide

omit [Unicode] in
/-- Of a valid schedule every number is in range. -/
theorem givenInRange_of_valid {numbers : Obj} {s : ScheduleConfig} (h : s.skipReason = none) : GivenInRange numbers s := by
  obtain ⟨hpositive, hlow, hhigh, hfirst, hlast⟩ := ScheduleConfig.skipReason_eq_none.mp h
  exact ⟨fun _ => hpositive, fun _ => ⟨hlow, hhigh⟩, fun _ => ⟨hfirst, hlast⟩⟩

/-- With defaults in range, a schedule is invalid only through a number its mapping gives. -/
theorem scheduleFromMapping_valid {raw : Obj} {targetType : Str} {interval second : Int} {s : ScheduleConfig}
    (h : scheduleFromMapping raw targetType interval second = .ok s) (hinterval : 0 < interval)
    (hsecond : 0 ≤ second ∧ second ≤ 59) : s.skipReason = none ↔ GivenInRange raw s := by
  unfold scheduleFromMapping at h
  obtain ⟨minutes, hminutes, h⟩ := bind_eq_ok.mp h
  obtain ⟨default, hdefault, h⟩ := bind_eq_ok.mp h
  obtain ⟨minuteOffset, hoffset, h⟩ := bind_eq_ok.mp h
  obtain ⟨atSecond, hat, h⟩ := bind_eq_ok.mp h
  rw [← Except.ok.inj h]
  have hrange := defaultMinuteOffset_range hdefault
  constructor
  · exact givenInRange_of_valid
  · rintro ⟨hgivenInterval, hgivenOffset, hgivenSecond⟩
    rw [ScheduleConfig.skipReason_eq_none]
    have hpositive : 0 < minutes := by
      cases hgiven : Dict.get? raw "interval_minutes" with
      | some v => exact hgivenInterval (by rw [hgiven]; rfl)
      | none =>
        rw [getOr, hgiven] at hminutes
        rw [← Except.ok.inj hminutes]
        exact hinterval
    have hoffsetRange : 0 ≤ minuteOffset ∧ minuteOffset < minutes := by
      cases hgiven : Dict.get? raw "minute_offset" with
      | some v => exact hgivenOffset (by rw [hgiven]; rfl)
      | none =>
        rw [getOr, hgiven] at hoffset
        rw [← Except.ok.inj hoffset]
        split_ifs with hlarge
        · exact ⟨le_refl 0, hpositive⟩
        · exact ⟨hrange.1, Int.not_le.mp hlarge⟩
    have hsecondRange : 0 ≤ atSecond ∧ atSecond ≤ 59 := by
      cases hgiven : Dict.get? raw "second" with
      | some v => exact hgivenSecond (by rw [hgiven]; rfl)
      | none =>
        rw [getOr, hgiven] at hat
        rw [← Except.ok.inj hat]
        exact hsecond
    exact ⟨hpositive, hoffsetRange.1, hoffsetRange.2, hsecondRange.1, hsecondRange.2⟩

/-- The schedule of a class is there when the class is named, and valid when its numbers are in range. -/
theorem scheduleOfClass_valid {d : Obj} {targetType : Str} {collectionClass : CollectionClass}
    {schedule : Option ScheduleConfig} (h : scheduleOfClass d targetType collectionClass = .ok schedule) :
    (schedule.isSome = true ↔ named d collectionClass = true) ∧
      ∀ s, schedule = some s → (s.skipReason = none ↔ GivenInRange (mappingUnder d collectionClass.name) s) := by
  unfold scheduleOfClass at h
  by_cases hnamed : named d collectionClass = true
  · rw [if_pos hnamed] at h
    obtain ⟨numbers, hnumbers, h⟩ := bind_eq_ok.mp h
    obtain ⟨s, hs, h⟩ := bind_eq_ok.mp h
    rw [← Except.ok.inj h]
    refine ⟨by simp [hnamed], ?_⟩
    intro s' hs'
    rw [← Option.some.inj hs', mappingUnder, ← mappingOf_orElse hnumbers]
    exact scheduleFromMapping_valid hs (defaultIntervalMinutes_pos targetType collectionClass)
      (defaultSecondValue_range collectionClass)
  · rw [if_neg hnamed] at h
    rw [← Except.ok.inj h]
    exact ⟨by simp [hnamed], fun s hs => by cases hs⟩

/-! ## 3. The schedules of a loaded collector

`effective_schedules` lists the classes in an order of its own, not the entry's; what is in it is
said by membership. -/

omit [Unicode] in
theorem mem_items {schedules : CollectionSchedulesConfig} {collectionClass : CollectionClass} {s : ScheduleConfig} :
    (collectionClass, s) ∈ schedules.items ↔ schedules.get collectionClass = some s := by
  unfold CollectionSchedulesConfig.items
  rw [List.mem_filterMap]
  constructor
  · rintro ⟨c, -, hc⟩
    obtain ⟨t, ht, hpair⟩ := Option.map_eq_some_iff.mp hc
    obtain ⟨rfl, rfl⟩ := Prod.mk.inj hpair
    exact ht
  · intro h
    refine ⟨collectionClass, by cases collectionClass <;> simp, ?_⟩
    rw [h]
    rfl

omit [Unicode] in
/-- The keys an entrywise selection keeps stand in their order. -/
theorem filterMap_keys_sublist (f : CollectionClass → Option ScheduleConfig) (classes : List CollectionClass) :
    ((classes.filterMap fun c => (f c).map fun s => (c, s)).map Prod.fst).Sublist classes := by
  induction classes with
  | nil => exact List.Sublist.slnil
  | cons c classes ih =>
    rw [List.filterMap_cons]
    cases f c with
    | none => exact ih.cons c
    | some s => exact ih.cons_cons c

omit [Unicode] in
/-- Of a mapping the loader asks which classes it names. -/
theorem namesClass_obj {d : Obj} {b : Bool} (h : namesClass (.obj d) = .ok b) :
    b = [CollectionClass.fast, .slow, .jobs, .backups, .inventory].any fun c => decide (c.name ∈ Dict.keys d) := by
  unfold namesClass at h
  rw [← Except.ok.inj h, Bool.eq_iff_iff]
  simp only [List.any_eq_true, decide_eq_true_iff, Json.str.injEq]
  constructor
  · rintro ⟨k, hk, c, hc, rfl⟩
    exact ⟨c, hc, hk⟩
  · rintro ⟨c, hc, hk⟩
    exact ⟨c.name, hk, c, hc, rfl⟩

omit [Unicode] in
/-- The deprecated `schedule_second` runs every minute, and is valid when it is a second of the minute. -/
theorem legacy_valid (second : Int) (v : Json) :
    ScheduleConfig.skipReason ⟨1, 0, second, some second⟩ = none ↔
      GivenInRange [("second", v)] ⟨1, 0, second, some second⟩ := by
  refine ⟨givenInRange_of_valid, ?_⟩
  rintro ⟨-, -, hgiven⟩
  obtain ⟨hfirst, hlast⟩ := hgiven rfl
  exact ScheduleConfig.skipReason_eq_none.mpr ⟨one_pos, le_refl 0, one_pos, hfirst, hlast⟩

omit [Unicode] in
/-- The default schedule of a type is valid. -/
theorem defaultSchedule_valid {targetType : Str} {s : ScheduleConfig} (h : defaultSchedule targetType = .ok s) :
    s.skipReason = none := by
  unfold defaultSchedule at h
  obtain ⟨offset, hoffset, h⟩ := bind_eq_ok.mp h
  obtain ⟨hlow, hhigh⟩ := defaultMinuteOffset_range hoffset
  rw [← Except.ok.inj h, ScheduleConfig.skipReason_eq_none]
  dsimp only
  omega

/-- What `_parse_schedule` returns, by the way the entry gives its schedule. -/
theorem parseSchedule_cases {raw : Obj} {targetType : Str} {schedule : Schedule} {legacy : Option Int}
    (h : parseSchedule raw targetType = .ok (schedule, legacy)) :
    (byClass raw = true ∧ ∃ schedules, schedule = .classes schedules ∧ ∀ collectionClass,
        scheduleOfClass (scheduleRaw raw) targetType collectionClass = .ok (schedules.get collectionClass)) ∨
      (byClass raw = false ∧ ∃ s, schedule = .single s ∧
        (s.skipReason = none ↔ GivenInRange (numbersOf raw .fast) s)) := by
  unfold parseSchedule at h
  cases hv : Dict.get? raw "schedule" with
  | some v =>
    rw [hv] at h
    obtain ⟨b, hb, h⟩ := bind_eq_ok.mp h
    obtain ⟨d, hd, h⟩ := bind_eq_ok.mp h
    have hraw : scheduleRaw raw = d := by
      rw [scheduleRaw, mappingUnder, Obj.get, hv]
      exact (mappingOf_orElse hd).symm
    have hobj : v.orElse (.obj []) = .obj d := by
      cases hor : v.orElse (.obj []) with
      | obj e => rw [hor] at hd; rw [Except.ok.inj hd]
      | _ => rw [hor] at hd; cases hd
    have hby : b = byClass raw := by
      rw [hobj] at hb
      rw [byClass, hraw]
      exact namesClass_obj hb
    cases hclass : byClass raw with
    | true =>
      rw [hby, hclass, if_pos rfl] at h
      obtain ⟨fast, hfast, h⟩ := bind_eq_ok.mp h
      obtain ⟨slow, hslow, h⟩ := bind_eq_ok.mp h
      obtain ⟨jobs, hjobs, h⟩ := bind_eq_ok.mp h
      obtain ⟨backups, hbackups, h⟩ := bind_eq_ok.mp h
      obtain ⟨inventory, hinventory, h⟩ := bind_eq_ok.mp h
      obtain ⟨hschedule, -⟩ := Prod.mk.inj (Except.ok.inj h)
      refine Or.inl ⟨rfl, _, hschedule.symm, ?_⟩
      rw [hraw]
      intro collectionClass
      cases collectionClass
      · exact hfast
      · exact hslow
      · exact hjobs
      · exact hbackups
      · exact hinventory
    | false =>
      rw [hby, hclass, if_neg (by decide)] at h
      obtain ⟨s, hs, h⟩ := bind_eq_ok.mp h
      obtain ⟨hschedule, -⟩ := Prod.mk.inj (Except.ok.inj h)
      have hnumbers : numbersOf raw .fast = d := by
        rw [numbersOf, hclass, if_neg (by decide), hv, hraw]
      refine Or.inr ⟨rfl, s, hschedule.symm, ?_⟩
      rw [hnumbers]
      exact scheduleFromMapping_valid hs (by decide) (by decide)
  | none =>
    have hempty : scheduleRaw raw = [] := by
      rw [scheduleRaw, mappingUnder, Obj.get, hv]
      rfl
    have hclass : byClass raw = false := by
      rw [byClass, hempty]
      rfl
    rw [hv] at h
    refine Or.inr ⟨hclass, ?_⟩
    cases hsecond : Dict.get? raw "schedule_second" with
    | some v =>
      rw [hsecond] at h
      obtain ⟨second, -, h⟩ := bind_eq_ok.mp h
      obtain ⟨hschedule, -⟩ := Prod.mk.inj (Except.ok.inj h)
      have hnumbers : numbersOf raw .fast = [(lit "second", v)] := by
        rw [numbersOf, hclass, if_neg (by decide), hv, hsecond]
      refine ⟨_, hschedule.symm, ?_⟩
      rw [hnumbers]
      exact legacy_valid second v
    | none =>
      rw [hsecond] at h
      obtain ⟨s, hs, h⟩ := bind_eq_ok.mp h
      obtain ⟨hschedule, -⟩ := Prod.mk.inj (Except.ok.inj h)
      have hvalid : s.skipReason = none := defaultSchedule_valid hs
      exact ⟨s, hschedule.symm, fun _ => givenInRange_of_valid hvalid, fun _ => hvalid⟩

/-- **A loaded collector is scheduled for exactly the classes its entry names** (for `fast` if it
names none), once each, and a schedule is invalid only through a number the entry gives. -/
theorem loaded_schedules {raw : Obj} {c : CollectorConfig} (h : parseCollector readText raw = .ok c) :
    ∃ schedules, c.effectiveSchedules = .ok schedules ∧ (schedules.map Prod.fst).Nodup ∧
      (∀ collectionClass, (∃ s, (collectionClass, s) ∈ schedules) ↔ Scheduled raw collectionClass) ∧
      ∀ collectionClass s, (collectionClass, s) ∈ schedules →
        (s.skipReason = none ↔ GivenInRange (numbersOf raw collectionClass) s) := by
  rcases parseSchedule_cases (parseCollector_iff_loaded.mp h).schedule with ⟨hby, schedules, hc, hclasses⟩ | ⟨hby, s, hc, hvalid⟩
  · refine ⟨schedules.items, by simp only [CollectorConfig.effectiveSchedules, hc], ?_, ?_, ?_⟩
    · have hdistinct : [CollectionClass.fast, .jobs, .backups, .inventory, .slow].Nodup := by decide
      refine hdistinct.sublist ?_
      unfold CollectionSchedulesConfig.items
      exact filterMap_keys_sublist schedules.get _
    · intro collectionClass
      simp only [mem_items, Scheduled, hby, if_true, ← (scheduleOfClass_valid (hclasses collectionClass)).1,
        Option.isSome_iff_exists]
    · intro collectionClass s hs
      rw [numbersOf, if_pos hby]
      exact (scheduleOfClass_valid (hclasses collectionClass)).2 s (mem_items.mp hs)
  · refine ⟨[(.fast, s)], by simp only [CollectorConfig.effectiveSchedules, CollectorConfig.effectiveSchedule, hc]; rfl,
      List.nodup_singleton _, ?_, ?_⟩
    · intro collectionClass
      simp [Scheduled, hby]
    · intro collectionClass t ht
      obtain ⟨rfl, rfl⟩ := Prod.mk.inj (List.mem_singleton.mp ht)
      exact hvalid

end Schedules

section Scheduled

attribute [local instance] Unicode.ascii

/-- A file system without files. -/
def noFiles (_ : Str) : Except Err Str := .error ⟨.other, "No such file or directory"⟩

/-- A library entry that names three classes, one of them left empty. -/
def i6000Entry : Obj := [
  ("name", .str "i6000_1"), ("type", .str "i6000"), ("protocol", .str "rest"),
  ("schedule", .obj [("fast", .obj [("interval_minutes", .int 2)]), ("slow", .null), ("inventory", .obj [("second", .int 75)])])]

/-- Two classes are scheduled, the empty `slow` is not, and the second of `inventory` is out of range. -/
theorem loaded_schedules_i6000 : ∃ c schedules, parseCollector noFiles i6000Entry = .ok c ∧
    c.effectiveSchedules = .ok schedules ∧ (∃ s, (CollectionClass.fast, s) ∈ schedules) ∧
      (¬ ∃ s, (CollectionClass.slow, s) ∈ schedules) ∧
        ∃ s, (CollectionClass.inventory, s) ∈ schedules ∧
          (s.skipReason = none ↔ GivenInRange [("second", .int 75)] s) := by
  obtain ⟨c, hc⟩ := ok_of_isOk (by decide +kernel : (parseCollector noFiles i6000Entry).isOk = true)
  obtain ⟨schedules, hschedules, -, hclasses, hvalid⟩ := loaded_schedules hc
  have hnamed : byClass i6000Entry = true := by decide
  refine ⟨c, schedules, hc, hschedules, ?_, ?_, ?_⟩
  · rw [hclasses, Scheduled, if_pos hnamed]
    decide
  · rw [hclasses, Scheduled, if_pos hnamed]
    decide
  · have hinventory : ∃ s, (CollectionClass.inventory, s) ∈ schedules := by
      rw [hclasses, Scheduled, if_pos hnamed]
      decide
    obtain ⟨s, hs⟩ := hinventory
    refine ⟨s, hs, ?_⟩
    have hnumbers : numbersOf i6000Entry .inventory = [(lit "second", .int 75)] := by decide
    rw [← hnumbers]
    exact hvalid .inventory s hs

end Scheduled

end BackupCollector
