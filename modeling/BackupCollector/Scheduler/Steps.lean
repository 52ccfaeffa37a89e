/-
# One collector under the scheduler

The state of one collector: its lock, the time its last scheduled run ended, where each of its
class tasks and each `run_once` call stands, and what has been recorded and written.  A step is
what happens between two awaits: tasks and calls interleave only there, in any order, and any await
can raise or be cancelled.

A scheduled run holds the lock from the cooldown to the record; a `run_once` call collects class
after class, writes and records at the end, and never looks at the lock.  A phase is the await at
which a task or a call stands.

Everything that is proved about the scheduler is proved about the runs of this relation: which
tasks have the lock (`Exclusion`), how their runs are spaced (`Cooldown`), which collections
overlap (`Overlap`), and what is shown of them (`Status`).  The relation is made to be inverted:
every constructor has the phase it leaves, its guard and the whole new state.

Three fields are histories, kept for the statements only.  Two clocks are state: the monotonic one
that the cooldown reads, and the wall clock that stamps a result; both are moved by steps of their
own, and forward only.  One collector is modelled, since collectors share nothing but the event
loop and the writer.
-/
import BackupCollector.Collectors.Base
import BackupCollector.Py.AsyncLock
import BackupCollector.Py.Runs
import BackupCollector.Writers.Elasticsearch

namespace BackupCollector

open Py

/-! ## 1. The status of a result

What of a result is shown.  The rest of it is dropped when it is recorded. -/

def statusKeys : List Str := ["summary", "collection_status", "endpoint_errors"]

/-- `_status_result` -/
def statusResult (r : CollectionResult) : CollectionResult :=
  { r with payload := statusKeys.filterMap fun key => (Dict.get? r.payload key).map fun value => (key, value) }

@[simp] theorem statusResult_collectedAt (r : CollectionResult) : (statusResult r).collectedAt = r.collectedAt := rfl
@[simp] theorem statusResult_collectionClass (r : CollectionResult) :
    (statusResult r).collectionClass = r.collectionClass := rfl

/-! ## 2. The state

Phases, spans and the record, with the frame of every update. -/

/-- Results between their collection and their record; `unwritten` are those `write_many` has
still to write. -/
structure Delivery where
  unwritten : List CollectionResult
  results : List CollectionResult

/-- A delivery before anything is written. -/
def Delivery.start (results : List CollectionResult) : Delivery := ⟨results, results⟩

/-- Where a task is in `_collect_write_record`. -/
inductive Phase (T : Type) where
  | away
  /-- in `acquire`, in the queue of the lock -/
  | queued
  /-- in the sleep of `_wait_for_networker_cooldown` -/
  | cooling (wakeAt : T)
  | collecting
  | delivering (d : Delivery)

/-- Where a `run_once` call is with this collector. -/
inductive CallPhase where
  | idle
  /-- in the `collect` of a class, with the results it has and the classes that follow -/
  | collecting (done : List CollectionResult) (collectionClass : CollectionClass) (rest : List CollectionClass)
  /-- waiting for the other collectors -/
  | gathered (results : List CollectionResult)
  | delivering (d : Delivery)

/-- `collect_one` goes on with the next class. -/
def CallPhase.next (done : List CollectionResult) : List CollectionClass → CallPhase
  | [] => .gathered done
  | collectionClass :: rest => .collecting done collectionClass rest

/-- A scheduled collection: when `collect` started, and when the run ended. -/
structure Span (τ T : Type) where
  task : τ
  start : T
  finish : Option T := none

/-- One collector: `now` is the monotonic clock and `wall` the UTC clock.  The last three fields
are histories, newest first. -/
structure CollectorState (τ ρ T : Type) where
  now : T
  wall : Instant
  lock : AsyncLock τ := {}
  finishedAt : Option T := none
  phase : τ → Phase T := fun _ => .away
  calls : ρ → CallPhase := fun _ => .idle
  lastResult : Option CollectionResult := none
  lastResultsByClass : Dict CollectionClass CollectionResult := []
  /-- the result whose current document was written last -/
  current : Option CollectionResult := none
  spans : List (Span τ T) := []
  recorded : List CollectionResult := []
  written : List CollectionResult := []

/-- What the runs of a collector read: its configuration, the exact value of
`rest_request_spacing_seconds`, and the class of each of its tasks. -/
structure CollectorSetup (τ T : Type) where
  config : CollectorConfig
  spacing : T
  classOf : τ → CollectionClass
  isFile : Str → Bool

namespace CollectorState

variable {τ ρ T : Type}

/-- `_record_result` -/
def recordResult (s : CollectorState τ ρ T) (r : CollectionResult) : CollectorState τ ρ T :=
  { s with
    lastResult := some (statusResult r)
    lastResultsByClass := Dict.set s.lastResultsByClass r.collectionClass (statusResult r)
    recorded := r :: s.recorded }

def recordResults (s : CollectorState τ ρ T) (results : List CollectionResult) : CollectorState τ ρ T :=
  results.foldl recordResult s

/-- The store takes the documents of a result, among them the current one, or the write is lost. -/
def writeResult (s : CollectorState τ ρ T) (r : CollectionResult) (landed : Bool) : CollectorState τ ρ T :=
  if landed && refreshesCurrent r.collectionClass then { s with current := some r, written := r :: s.written } else s

/-! What is recorded and written changes nothing else. -/

theorem recordResults_frame {β : Type} (f : CollectorState τ ρ T → β) (hf : ∀ s r, f (s.recordResult r) = f s)
    (results : List CollectionResult) : ∀ s, f (s.recordResults results) = f s := by
  induction results with
  | nil => exact fun _ => rfl
  | cons r rest ih => exact fun s => (ih (s.recordResult r)).trans (hf s r)

theorem writeResult_frame {β : Type} (f : CollectorState τ ρ T → β)
    (hf : ∀ (s : CollectorState τ ρ T) current written, f { s with current := current, written := written } = f s)
    (s : CollectorState τ ρ T) (r : CollectionResult) (landed : Bool) : f (s.writeResult r landed) = f s := by
  unfold writeResult
  split
  · exact hf s _ _
  · rfl

section Frame

variable (s : CollectorState τ ρ T) (r : CollectionResult) (results : List CollectionResult) (landed : Bool)

@[simp] theorem recordResults_now : (s.recordResults results).now = s.now := recordResults_frame now (fun _ _ => rfl) _ s
@[simp] theorem recordResults_wall : (s.recordResults results).wall = s.wall :=
  recordResults_frame wall (fun _ _ => rfl) _ s
@[simp] theorem recordResults_lock : (s.recordResults results).lock = s.lock :=
  recordResults_frame lock (fun _ _ => rfl) _ s
@[simp] theorem recordResults_finishedAt : (s.recordResults results).finishedAt = s.finishedAt :=
  recordResults_frame finishedAt (fun _ _ => rfl) _ s
@[simp] theorem recordResults_phase : (s.recordResults results).phase = s.phase :=
  recordResults_frame phase (fun _ _ => rfl) _ s
@[simp] theorem recordResults_calls : (s.recordResults results).calls = s.calls :=
  recordResults_frame calls (fun _ _ => rfl) _ s
@[simp] theorem recordResults_spans : (s.recordResults results).spans = s.spans :=
  recordResults_frame spans (fun _ _ => rfl) _ s
@[simp] theorem recordResults_current : (s.recordResults results).current = s.current :=
  recordResults_frame current (fun _ _ => rfl) _ s
@[simp] theorem recordResults_written : (s.recordResults results).written = s.written :=
  recordResults_frame written (fun _ _ => rfl) _ s

@[simp] theorem writeResult_now : (s.writeResult r landed).now = s.now := writeResult_frame now (fun _ _ _ => rfl) s r landed
@[simp] theorem writeResult_wall : (s.writeResult r landed).wall = s.wall :=
  writeResult_frame wall (fun _ _ _ => rfl) s r landed
@[simp] theorem writeResult_lock : (s.writeResult r landed).lock = s.lock :=
  writeResult_frame lock (fun _ _ _ => rfl) s r landed
@[simp] theorem writeResult_finishedAt : (s.writeResult r landed).finishedAt = s.finishedAt :=
  writeResult_frame finishedAt (fun _ _ _ => rfl) s r landed
@[simp] theorem writeResult_phase : (s.writeResult r landed).phase = s.phase :=
  writeResult_frame phase (fun _ _ _ => rfl) s r landed
@[simp] theorem writeResult_calls : (s.writeResult r landed).calls = s.calls :=
  writeResult_frame calls (fun _ _ _ => rfl) s r landed
@[simp] theorem writeResult_spans : (s.writeResult r landed).spans = s.spans :=
  writeResult_frame spans (fun _ _ _ => rfl) s r landed
@[simp] theorem writeResult_recorded : (s.writeResult r landed).recorded = s.recorded :=
  writeResult_frame recorded (fun _ _ _ => rfl) s r landed
@[simp] theorem writeResult_lastResultsByClass :
    (s.writeResult r landed).lastResultsByClass = s.lastResultsByClass :=
  writeResult_frame lastResultsByClass (fun _ _ _ => rfl) s r landed

end Frame

section Tasks

variable [DecidableEq τ]

def setPhase (s : CollectorState τ ρ T) (t : τ) (p : Phase T) : CollectorState τ ρ T :=
  { s with phase := Function.update s.phase t p }

/-- `collect` starts. -/
def beginCollect (s : CollectorState τ ρ T) (t : τ) : CollectorState τ ρ T :=
  { s.setPhase t .collecting with spans := { task := t, start := s.now } :: s.spans }

/-- The end of `async with lock`. -/
def leave (s : CollectorState τ ρ T) (t : τ) : CollectorState τ ρ T :=
  { s.setPhase t .away with lock := s.lock.release }

/-- The spans of a task that are open end now. -/
def closeSpans (t : τ) (now : T) (spans : List (Span τ T)) : List (Span τ T) :=
  spans.map fun x => if x.task = t ∧ x.finish.isNone then { x with finish := some now } else x

/-- The `finally` of a run, and the end of `async with lock`. -/
def finish (s : CollectorState τ ρ T) (t : τ) : CollectorState τ ρ T :=
  ({ s with finishedAt := some s.now, spans := closeSpans t s.now s.spans } : CollectorState τ ρ T).leave t

end Tasks

section Calls

variable [DecidableEq ρ]

def setCall (s : CollectorState τ ρ T) (r : ρ) (p : CallPhase) : CollectorState τ ρ T :=
  { s with calls := Function.update s.calls r p }

end Calls

section Cooldown

variable [DecidableEq τ] [AddCommGroup T] [LinearOrder T]

/-- `_wait_for_networker_cooldown`: when the sleep ends, if there is one. -/
def networkerCooldown (u : CollectorSetup τ T) (s : CollectorState τ ρ T) : Option T :=
  if u.config.type ≠ lit "Networker" then none
  else
    match s.finishedAt with
    | none => none
    | some finishedAt =>
      let remaining := u.spacing - (s.now - finishedAt)
      if 0 < remaining then some (s.now + remaining) else none

/-- The task has the lock: it sleeps for the cooldown, or collects. -/
def enter (u : CollectorSetup τ T) (s : CollectorState τ ρ T) (t : τ) : CollectorState τ ρ T :=
  match s.networkerCooldown u with
  | some wakeAt => s.setPhase t (.cooling wakeAt)
  | none => s.beginCollect t

end Cooldown

end CollectorState

/-! ## 3. The steps

One constructor for each way from one await to the next. -/

/-- What happens in a step. -/
inductive SchedulerEvent (τ ρ T : Type) where
  | tick (now : T) (wall : Instant)
  /-- `_collect_write_record` is called -/
  | invoke (t : τ)
  /-- a woken waiter's task runs -/
  | resume (t : τ)
  /-- the task is cancelled while it waits or sleeps -/
  | cancel (t : τ)
  /-- a cancelled waiter's task runs -/
  | giveUp (t : τ)
  /-- the cooldown is over -/
  | cooled (t : τ)
  /-- `collect` returns -/
  | collected (t : τ)
  /-- `write_many` writes its next result -/
  | write (t : τ)
  /-- `write_many` returns, and the results are recorded -/
  | record (t : τ)
  /-- `collect` or `write_many` raises or is cancelled -/
  | abort (t : τ)
  | call (r : ρ)
  | callCollected (r : ρ)
  /-- the other collectors are done too -/
  | callGathered (r : ρ)
  | callWrite (r : ρ)
  | callRecord (r : ρ)
  /-- the collector's part of a `run_once` ends without results: it raises or is cancelled.  Where
  `gather` leaves it running behind a call that is over, there is no such step: its collections
  go on as those of the call -/
  | callAbort (r : ρ)

section Step

variable {τ ρ T : Type} [DecidableEq τ] [DecidableEq ρ] [AddCommGroup T] [LinearOrder T] [Unicode]

/-- One step of one collector.  Which task moves is free, and so are what a collection comes to,
whether a write lands, and where a task is cancelled. -/
inductive SchedulerStep (u : CollectorSetup τ T) (s : CollectorState τ ρ T) :
    SchedulerEvent τ ρ T → CollectorState τ ρ T → Prop where
  | tick {now : T} {wall : Instant} (hnow : s.now ≤ now) (hwall : s.wall ≤ wall) :
      SchedulerStep u s (.tick now wall) { s with now := now, wall := wall }
  | skip {t : τ} (hp : s.phase t = .away) (hc : u.classOf t = .jobs) (hl : s.lock.locked = true) :
      SchedulerStep u s (.invoke t) s
  | acquire {t : τ} (hp : s.phase t = .away) (hc : ¬ (u.classOf t = .jobs ∧ s.lock.locked = true)) (hf : s.lock.Free) :
      SchedulerStep u s (.invoke t) (({ s with lock := s.lock.hold } : CollectorState τ ρ T).enter u t)
  | enqueue {t : τ} (hp : s.phase t = .away) (hc : ¬ (u.classOf t = .jobs ∧ s.lock.locked = true)) (hf : ¬ s.lock.Free) :
      SchedulerStep u s (.invoke t) { s.setPhase t .queued with lock := s.lock.enqueue t }
  | resume {t : τ} (hp : s.phase t = .queued) (hw : (t, .woken) ∈ s.lock.waiters) :
      SchedulerStep u s (.resume t) (({ s with lock := s.lock.grant t } : CollectorState τ ρ T).enter u t)
  | cancelWaiter {t : τ} (hp : s.phase t = .queued) (hw : (t, .pending) ∈ s.lock.waiters) :
      SchedulerStep u s (.cancel t) { s with lock := s.lock.cancel t }
  -- a task that is cancelled after it was woken runs to be cancelled as well
  | giveUp {t : τ} (hp : s.phase t = .queued) (hw : (t, .cancelled) ∈ s.lock.waiters ∨ (t, .woken) ∈ s.lock.waiters) :
      SchedulerStep u s (.giveUp t) { s.setPhase t .away with lock := s.lock.giveUp t }
  | cooled {t : τ} {wakeAt : T} (hp : s.phase t = .cooling wakeAt) (hnow : wakeAt ≤ s.now) :
      SchedulerStep u s (.cooled t) (s.beginCollect t)
  | cancelCooldown {t : τ} {wakeAt : T} (hp : s.phase t = .cooling wakeAt) :
      SchedulerStep u s (.cancel t) (s.leave t)
  | collected {t : τ} {outcome : Except Err Obj} {r : CollectionResult} (hp : s.phase t = .collecting)
      (hr : collect u.isFile u.config outcome s.wall (u.classOf t) = .ok r) :
      SchedulerStep u s (.collected t) (s.setPhase t (.delivering (.start [r])))
  | write {t : τ} {r : CollectionResult} {rest results : List CollectionResult}
      (hp : s.phase t = .delivering ⟨r :: rest, results⟩) (landed : Bool) :
      SchedulerStep u s (.write t) ((s.writeResult r landed).setPhase t (.delivering ⟨rest, results⟩))
  | record {t : τ} {results : List CollectionResult} (hp : s.phase t = .delivering ⟨[], results⟩) :
      SchedulerStep u s (.record t) ((s.recordResults results).finish t)
  | abortCollect {t : τ} (hp : s.phase t = .collecting) : SchedulerStep u s (.abort t) (s.finish t)
  | abortWrite {t : τ} {d : Delivery} (hp : s.phase t = .delivering d) : SchedulerStep u s (.abort t) (s.finish t)
  | call {r : ρ} {schedules : List (CollectionClass × ScheduleConfig)} (hp : s.calls r = .idle)
      (hs : u.config.effectiveSchedules = .ok schedules) :
      SchedulerStep u s (.call r) (s.setCall r (.next [] (schedules.map Prod.fst)))
  | callCollected {r : ρ} {done : List CollectionResult} {collectionClass : CollectionClass} {rest : List CollectionClass}
      {outcome : Except Err Obj} {x : CollectionResult} (hp : s.calls r = .collecting done collectionClass rest)
      (hr : collect u.isFile u.config outcome s.wall collectionClass = .ok x) :
      SchedulerStep u s (.callCollected r) (s.setCall r (.next (done ++ [x]) rest))
  | callGathered {r : ρ} {results : List CollectionResult} (hp : s.calls r = .gathered results) :
      SchedulerStep u s (.callGathered r) (s.setCall r (.delivering (.start results)))
  | callWrite {r : ρ} {x : CollectionResult} {rest results : List CollectionResult}
      (hp : s.calls r = .delivering ⟨x :: rest, results⟩) (landed : Bool) :
      SchedulerStep u s (.callWrite r) ((s.writeResult x landed).setCall r (.delivering ⟨rest, results⟩))
  | callRecord {r : ρ} {results : List CollectionResult} (hp : s.calls r = .delivering ⟨[], results⟩) :
      SchedulerStep u s (.callRecord r) ((s.recordResults results).setCall r .idle)
  | callAbort {r : ρ} : SchedulerStep u s (.callAbort r) (s.setCall r .idle)

end Step

end BackupCollector
