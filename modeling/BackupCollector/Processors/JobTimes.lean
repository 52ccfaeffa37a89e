/-
# The times of a job run

The parser writes a job's times as texts and its duration as a number; the derived processor reads
the texts back and computes the duration again.  Two computations of one duration, with a
conversion to text between them: they agree, for every job on which the parser returns
(`jobRun_times_agree`), and this module says why.

The texts are `isoformat` texts of UTC instants.  The second reader tries a number first, and no
such text is one; it then reads them as the same instants, microseconds included.  So both
durations are of one pair of instants, whatever the API wrote: an epoch in seconds or milliseconds,
a text with an offset, a text without.

`TimesOf` is what both records are compared with, two instants and what lies between them.  That
each record is of this form is one lemma, and that the form determines the times is another.  A job
without an end, or whose end is before its start, has no duration in either.  Whether the API's
times are right is not asked.
-/
import BackupCollector.Processors.NetworkerDocuments
import BackupCollector.Py.Rounding

namespace BackupCollector

open Py

/-- A duration is null or a whole number of seconds that is not negative. -/
theorem durationSeconds_whole {start finish : Option Instant} {duration : Json}
    (h : durationSeconds start finish = .ok duration) : duration = .null ∨ ∃ n : Nat, duration = .int n := by
  unfold durationSeconds at h
  split at h
  · rename_i s e
    split at h
    · rename_i hle
      obtain ⟨seconds, hseconds, h⟩ := bind_eq_ok.mp h
      obtain ⟨n, hn, h⟩ := bind_eq_ok.mp h
      have hpos : (0 : Int) ≤ e.us - s.us := by
        rw [Instant.le_def] at hle
        omega
      obtain ⟨k, rfl⟩ := Int.eq_ofNat_of_zero_le (floatToInt_trueDiv hpos (by decide) hseconds hn)
      exact Or.inr ⟨k, (Except.ok.inj h).symm⟩
    · exact Or.inl (Except.ok.inj h).symm
  · exact Or.inl (Except.ok.inj h).symm

section General

variable [Unicode]

/-- What a job says of its times: two instants as texts, and what they last. -/
structure TimesOf (job : Obj) (startTime endTime : Option Instant) : Prop where
  start_text : Obj.get job "start_time" = isoformat startTime
  end_text : Obj.get job "end_time" = isoformat endTime
  duration : durationSeconds startTime endTime = .ok (Obj.get job "duration_seconds")

section

variable {job : Obj} {startTime endTime startTime' endTime' : Option Instant}

omit [Unicode] in
/-- Two jobs that say the same instants say the same times. -/
theorem TimesOf.agree {record : Obj} (h : TimesOf job startTime endTime) (h' : TimesOf record startTime endTime) :
    Obj.get record "start_time" = Obj.get job "start_time" ∧ Obj.get record "end_time" = Obj.get job "end_time" ∧
      Obj.get record "duration_seconds" = Obj.get job "duration_seconds" := by
  refine ⟨h'.start_text.trans h.start_text.symm, h'.end_text.trans h.end_text.symm, ?_⟩
  exact Except.ok.inj (h'.duration.symm.trans h.duration)

/-- The instants a job says are read back from its texts. -/
theorem TimesOf.read (h : TimesOf job startTime endTime) :
    parseDatetime (Obj.get job "start_time") = .ok startTime ∧
      parseDatetime (Obj.get job "end_time") = .ok endTime := by
  rw [h.start_text, h.end_text]
  exact ⟨parseDatetime_isoformat_option startTime, parseDatetime_isoformat_option endTime⟩

end

/-- The parser's record says the instants the API's values stand for. -/
theorem normalizeJob_times {item job : Obj} {server : Str} {source : Source}
    (h : normalizeJob item server source = .ok job) :
    ∃ startTime endTime, parseDatetime (Obj.get item "startTime") = .ok startTime ∧
      parseDatetime (Obj.get item "endTime") = .ok endTime ∧ TimesOf job startTime endTime := by
  unfold normalizeJob at h
  obtain ⟨startTime, hstart, h⟩ := bind_eq_ok.mp h
  obtain ⟨endTime, hend, h⟩ := bind_eq_ok.mp h
  obtain ⟨duration, hduration, h⟩ := bind_eq_ok.mp h
  obtain ⟨dataSize, -, h⟩ := bind_eq_ok.mp h
  rw [← Except.ok.inj h]
  refine ⟨startTime, endTime, hstart, hend, by simp, by simp, ?_⟩
  rw [hduration]
  simp

/-- The processor's record says the instants it reads from the job. -/
theorem jobRunRecord_times {job record : Obj} (h : jobRunRecord job = .ok (some record)) :
    ∃ startTime endTime, parseDatetime (Obj.get job "start_time") = .ok startTime ∧
      parseDatetime (Obj.get job "end_time") = .ok endTime ∧ TimesOf record startTime endTime := by
  unfold jobRunRecord at h
  obtain ⟨startTime, hstart, h⟩ := bind_eq_ok.mp h
  obtain ⟨endTime, hend, h⟩ := bind_eq_ok.mp h
  refine ⟨startTime, endTime, hstart, hend, ?_⟩
  split at h
  · cases h
  · split at h
    · cases h
    · obtain ⟨duration, hduration, h⟩ := bind_eq_ok.mp h
      rw [← Option.some.inj (Except.ok.inj h)]
      refine ⟨?_, ?_, ?_⟩
      · simp [jobRun, Obj.get_set]
      · simp [jobRun, Obj.get_set]
      · rw [hduration]
        simp [jobRun, Obj.get_set]

/-- **The parser's record and the run's record say the same times, and these are the ones the API's
values stand for**, for every job on which the parser returns.  A value that stands for no instant
is a time that is not known, in both. -/
theorem jobRun_times_agree {item job record : Obj} {server : Str} {source : Source}
    (hjob : normalizeJob item server source = .ok job) (hrecord : jobRunRecord job = .ok (some record)) :
    (Obj.get record "start_time" = Obj.get job "start_time" ∧ Obj.get record "end_time" = Obj.get job "end_time" ∧
      Obj.get record "duration_seconds" = Obj.get job "duration_seconds") ∧
    (∃ startTime endTime, parseDatetime (Obj.get item "startTime") = .ok startTime ∧
      parseDatetime (Obj.get item "endTime") = .ok endTime ∧
      parseDatetime (Obj.get job "start_time") = .ok startTime ∧
      parseDatetime (Obj.get job "end_time") = .ok endTime ∧ TimesOf record startTime endTime) ∧
    (Obj.get job "duration_seconds" = .null ∨ ∃ n : Nat, Obj.get job "duration_seconds" = .int n) := by
  obtain ⟨startTime, endTime, hstart, hend, htimes⟩ := normalizeJob_times hjob
  obtain ⟨hstart', hend'⟩ := htimes.read
  obtain ⟨s, e, hs, he, hread⟩ := jobRunRecord_times hrecord
  obtain rfl := Except.ok.inj (hstart'.symm.trans hs)
  obtain rfl := Except.ok.inj (hend'.symm.trans he)
  exact ⟨htimes.agree hread, ⟨_, _, hstart, hend, hstart', hend', hread⟩, durationSeconds_whole htimes.duration⟩

end General

section Concrete

attribute [local instance] Unicode.ascii

/-- A job whose start has an offset and whose end has a fraction. -/
def offsetJob : Obj := [
  ("id", .int 7), ("completionStatus", .str "Succeeded"),
  ("startTime", .str "2025-08-28T15:00:00+02:00"), ("endTime", .str "2025-08-28T13:00:01.500Z")]

theorem jobRun_times_agree_offset : ∃ job record,
    normalizeJob offsetJob "nw" ⟨"core", by decide⟩ = .ok job ∧ jobRunRecord job = .ok (some record) ∧
      (Obj.get record "start_time" = Obj.get job "start_time" ∧ Obj.get record "end_time" = Obj.get job "end_time" ∧
        Obj.get record "duration_seconds" = Obj.get job "duration_seconds") := by
  have hbuilt : ((normalizeJob offsetJob "nw" ⟨"core", by decide⟩).bind jobRunRecord).toOption.join.isSome = true := by
    decide +kernel
  obtain ⟨record, hrecord⟩ := Option.isSome_iff_exists.mp hbuilt
  cases hjob : normalizeJob offsetJob "nw" ⟨"core", by decide⟩ with
  | error e => rw [hjob] at hrecord; cases hrecord
  | ok job =>
    rw [hjob] at hrecord
    change (jobRunRecord job).toOption.join = some record at hrecord
    cases hrun : jobRunRecord job with
    | error e => rw [hrun] at hrecord; cases hrecord
    | ok found =>
      rw [hrun] at hrecord
      obtain rfl : found = some record := hrecord
      exact ⟨job, record, rfl, hrun, (jobRun_times_agree hjob hrun).1⟩

end Concrete

end BackupCollector
