/-
# The loop of one schedule

`start` launches one task for every class of every collector, whether or not the schedule is valid.
A turn of the task computes the delay, sleeps and collects; whatever is raised is counted and the
next turn starts.  The only await a turn is SURE to reach is the sleep, and computing the delay
raises before it: for a schedule that `skip_reason` rejects, and for one whose next slot lies after
the year 9999.  The loop of such a schedule never gives the event loop a turn, and with it stops
everything that runs on it.

`loop_yields_iff` is the exact condition, over every task, every turn and every outcome of a
collection: each turn yields exactly when the schedule is valid and has a next slot in the
calendar.  A configuration file can contain the other kind.  An interval of zero is loaded like any
other, and `zero_interval_spins` is its loop.

Sleeping for no time still yields.  Whether a collection yields is not known and not needed.
-/
import BackupCollector.Scheduler.NextRun

namespace BackupCollector

open Py

/-! ## 1. One turn

The steps of a turn, in order, and which of them yield. -/

/-- What a turn of the loop does, in order. -/
inductive LoopStep where
  /-- `asyncio.sleep`: it yields to the event loop, for a delay of zero as well -/
  | sleep (us : Int)
  /-- `_collect_write_record`: a run that is skipped does not yield -/
  | collectWriteRecord
  /-- `SCHEDULER_LOOP_ERROR_TOTAL.labels(collector, collection_class).inc()` -/
  | countError (collector collectionClass : Str)
deriving DecidableEq

/-- The steps that yield to the event loop in any case. -/
def LoopStep.yields : LoopStep → Bool
  | .sleep _ => true
  | _ => false

/-- A task of `start`. -/
structure LoopTask where
  collector : CollectorConfig
  collectionClass : CollectionClass
  schedule : ScheduleConfig

/-- The tasks `start` launches. -/
def startedTasks : List CollectorConfig → Except Err (List LoopTask)
  | [] => .ok []
  | c :: rest => do
    let schedules ← c.effectiveSchedules
    let tasks ← startedTasks rest
    return schedules.map (fun p => ⟨c, p.1, p.2⟩) ++ tasks

namespace LoopTask

def countError (t : LoopTask) : LoopStep := .countError t.collector.name t.collectionClass.name

/-- A turn of `_run_collector_forever` that computes the delay at `now`; `outcome` is what
`_collect_write_record` returned or raised. -/
def turn (t : LoopTask) (now : Instant) (outcome : Except Err Unit) : List LoopStep :=
  match secondsUntilNextRun t.schedule now with
  | .error _ => [t.countError]
  | .ok d =>
    .sleep d :: .collectWriteRecord ::
      match outcome with
      | .ok _ => []
      | .error _ => [t.countError]

/-- The event loop gets a turn before the next turn of the loop starts. -/
def YieldsIn (t : LoopTask) (now : Instant) (outcome : Except Err Unit) : Prop :=
  ∃ x ∈ t.turn now outcome, x.yields = true

/-- A turn yields exactly when the delay is computed. -/
theorem yieldsIn_iff (t : LoopTask) (now : Instant) (outcome : Except Err Unit) :
    t.YieldsIn now outcome ↔ (secondsUntilNextRun t.schedule now).isOk = true := by
  unfold YieldsIn turn
  cases hd : secondsUntilNextRun t.schedule now with
  | error e =>
    constructor
    · rintro ⟨x, hx, hyields⟩
      rw [List.mem_singleton.mp hx] at hyields
      cases hyields
    · intro h
      cases h
  | ok d => exact ⟨fun _ => rfl, fun _ => ⟨.sleep d, List.mem_cons_self, rfl⟩⟩

/-- The schedule has a first slot after the instant, and the calendar reaches it. -/
def HasNextRun (s : ScheduleConfig) (now : Instant) : Prop :=
  s.skipReason = none ∧ ∃ x, IsNextSlot s.period (s.anchor (dayStart now)) now.us x ∧ x < maxDays * usPerDay

end LoopTask

/-! ## 2. The loop

From one turn to all turns of a task. -/

/-- **The loop of a task yields in each of its turns exactly when its schedule is valid and has a
next slot in the calendar at each of them.**  A turn may start at any instant, and what its
collection returns or raises plays no part. -/
theorem loop_yields_iff (t : LoopTask) (turns : List (Instant × Except Err Unit)) :
    (∀ x ∈ turns, t.YieldsIn x.1 x.2) ↔ ∀ x ∈ turns, LoopTask.HasNextRun t.schedule x.1 := by
  constructor
  · intro h x hx
    exact (secondsUntilNextRun_isOk t.schedule x.1).mp ((t.yieldsIn_iff x.1 x.2).mp (h x hx))
  · intro h x hx
    exact (t.yieldsIn_iff x.1 x.2).mpr ((secondsUntilNextRun_isOk t.schedule x.1).mpr (h x hx))

/-- A collector with one schedule. -/
def scheduledCollector (s : ScheduleConfig) : CollectorConfig where
  name := "zfs-1"
  type := "ZFS"
  protocol := "rest"
  enabled := true
  schedule := .single s

/-- A schedule every zero minutes is launched, and its loop never yields. -/
theorem zero_interval_spins : ∃ t : LoopTask,
    startedTasks [scheduledCollector { intervalMinutes := 0 }] = .ok [t] ∧
      ∀ (now : Instant) (outcome : Except Err Unit), ¬ t.YieldsIn now outcome := by
  refine ⟨⟨scheduledCollector { intervalMinutes := 0 }, .fast, { intervalMinutes := 0 }⟩, rfl, ?_⟩
  intro now outcome h
  have hok := (LoopTask.yieldsIn_iff _ _ _).mp h
  cases hok

end BackupCollector
