/-
# The lock of a collector

A scheduled run takes the collector's lock before it does anything and releases it when it ends,
however it ends.  That one task at most is past its lock in every state is the argument about the
users of any lock (`Excludes` is `LockUsers` at the phases of a task): a step of the scheduler is
one operation of the lock together with the move of the task that performs it, and the steps that
do not touch the lock do not change who has it.

What is special to the scheduler is the SKIP.  A jobs run is not to wait behind a long collection,
so it looks at the lock first and is skipped when it is held.  But the look and the wait are two
different questions:

* the skip asks `locked()`, which is false from the moment of a release;
* the wait asks whether the lock is FREE, which it is not while a waiter that was woken has not had
  its turn.

Between the release and that turn the answers differ.  A jobs run that is invoked there is neither
skipped nor served, it queues, and `jobs_never_queued_iff` says that this handover is the only
way: the jobs runs never queue exactly when none is invoked in one.

Not covered: `run_once`, which takes no lock and is what the overlaps are about.
-/
import BackupCollector.Py.LockUsers
import BackupCollector.Scheduler.Steps
import BackupCollector.Writers.Current

namespace BackupCollector

open Py

/-! ## 1. One holder -/

/-- The task has the lock. -/
def Phase.Holding {T : Type} : Phase T → Prop
  | .away => False
  | .queued => False
  | _ => True

theorem Phase.Holding.ne_queued {T : Type} {p : Phase T} (h : p.Holding) : p ≠ .queued := by
  rintro rfl
  exact h

/-- The lock and the phases of the tasks agree, and one task at most has the lock. -/
abbrev Excludes {τ T : Type} (lock : AsyncLock τ) (phase : τ → Phase T) : Prop :=
  LockUsers (fun p => p = .queued) Phase.Holding lock phase

namespace Excludes

variable {τ T : Type} {lock : AsyncLock τ} {phase : τ → Phase T} {t : τ} {p : Phase T}

theorem start : Excludes ({} : AsyncLock τ) (fun _ => (.away : Phase T)) :=
  LockUsers.start fun _ => ⟨(fun hq => nomatch hq), fun hq => hq⟩

variable [DecidableEq τ]

/-- The task that has the lock goes on. -/
theorem goOn (h : Excludes lock phase) (ht : (phase t).Holding) (hp : p.Holding) :
    Excludes lock (Function.update phase t p) :=
  LockUsers.goOn h ht ht.ne_queued hp hp.ne_queued

/-- The task that has the lock releases it. -/
theorem release (h : Excludes lock phase) (ht : (phase t).Holding) :
    Excludes lock.release (Function.update phase t .away) :=
  LockUsers.release h ht ht.ne_queued (fun hq => hq) (fun hq => nomatch hq)

end Excludes

/-! ## 2. The steps keep it -/

section Steps

variable {τ ρ T : Type} [DecidableEq τ] [DecidableEq ρ] [AddCommGroup T] [LinearOrder T] [Unicode]
  {u : CollectorSetup τ T} {s s' : CollectorState τ ρ T} {e : SchedulerEvent τ ρ T}

namespace CollectorState

/-- The phase of a task that has just taken the lock. -/
def entered (u : CollectorSetup τ T) (s : CollectorState τ ρ T) : Phase T :=
  match s.networkerCooldown u with
  | some wakeAt => .cooling wakeAt
  | none => .collecting

omit [Unicode] [DecidableEq ρ] [DecidableEq τ] in
theorem entered_cases (u : CollectorSetup τ T) (s : CollectorState τ ρ T) :
    (∃ wakeAt, s.networkerCooldown u = some wakeAt ∧ s.entered u = .cooling wakeAt) ∨
      (s.networkerCooldown u = none ∧ s.entered u = .collecting) := by
  unfold entered
  cases s.networkerCooldown u with
  | some wakeAt => exact .inl ⟨wakeAt, rfl, rfl⟩
  | none => exact .inr ⟨rfl, rfl⟩

omit [Unicode] [DecidableEq ρ] [DecidableEq τ] in
theorem entered_holding (u : CollectorSetup τ T) (s : CollectorState τ ρ T) : (s.entered u).Holding := by
  rcases s.entered_cases u with ⟨_, _, heq⟩ | ⟨_, heq⟩
  · rw [heq]
    trivial
  · rw [heq]
    trivial

omit [Unicode] [DecidableEq ρ] in
/-- A task that enters has the lock; the lock itself is as it was. -/
theorem enter_tasks (s : CollectorState τ ρ T) (t : τ) :
    (s.enter u t).lock = s.lock ∧ (s.enter u t).phase = Function.update s.phase t (s.entered u) := by
  unfold enter entered
  cases s.networkerCooldown u with
  | some wakeAt => exact ⟨rfl, rfl⟩
  | none => exact ⟨rfl, rfl⟩

end CollectorState

theorem SchedulerStep.excludes (h : SchedulerStep u s e s') (hs : Excludes s.lock s.phase) : Excludes s'.lock s'.phase := by
  cases h with
  | tick => exact hs
  | skip => exact hs
  | @acquire t hp hc hf =>
    obtain ⟨hlock, hphase⟩ := ({ s with lock := s.lock.hold } : CollectorState τ ρ T).enter_tasks (u := u) t
    rw [hphase, hlock]
    have hentered := s.entered_holding u
    exact LockUsers.hold hs hf (by rw [hp]; exact fun hq => nomatch hq) hentered hentered.ne_queued
  | @enqueue t hp hc hf =>
    exact LockUsers.enqueue hs (by rw [hp]; exact fun hq => hq) (by rw [hp]; exact fun hq => nomatch hq) (fun hq => hq) rfl
  | @resume t hp hw =>
    obtain ⟨hlock, hphase⟩ := ({ s with lock := s.lock.grant t } : CollectorState τ ρ T).enter_tasks (u := u) t
    rw [hphase, hlock]
    have hentered := s.entered_holding u
    exact LockUsers.grant hs hw hentered hentered.ne_queued
  | @cancelWaiter t hp hw => exact LockUsers.cancel hs t
  | @giveUp t hp hw => exact LockUsers.giveUp hs (by rw [hp]; exact fun hq => hq) (fun hq => hq) (fun hq => nomatch hq)
  | cooled hp => exact hs.goOn (by rw [hp]; trivial) trivial
  | cancelCooldown hp => exact hs.release (by rw [hp]; trivial)
  | collected hp => exact hs.goOn (by rw [hp]; trivial) trivial
  | @write t r rest results hp landed =>
    have hnext := hs.goOn (t := t) (p := .delivering ⟨rest, results⟩) (by rw [hp]; trivial) trivial
    rw [← s.writeResult_lock r landed, ← s.writeResult_phase r landed] at hnext
    exact hnext
  | @record t results hp =>
    have hnext := hs.release (t := t) (by rw [hp]; trivial)
    rw [← s.recordResults_lock results, ← s.recordResults_phase results] at hnext
    exact hnext
  | abortCollect hp => exact hs.release (by rw [hp]; trivial)
  | abortWrite hp => exact hs.release (by rw [hp]; trivial)
  | call => exact hs
  | callCollected => exact hs
  | callGathered => exact hs
  | @callWrite r x rest results hp landed =>
    rw [← s.writeResult_lock x landed, ← s.writeResult_phase x landed] at hs
    exact hs
  | @callRecord r results hp =>
    rw [← s.recordResults_lock results, ← s.recordResults_phase results] at hs
    exact hs
  | callAbort => exact hs

/-- The state of a collector when the scheduler is built. -/
def CollectorState.initial (now : T) (wall : Instant) : CollectorState τ ρ T := { now := now, wall := wall }

/-- In every state of a run, one task at most has the lock. -/
theorem excludes_of_run {now : T} {wall : Instant} {xs : List (CollectorState τ ρ T × SchedulerEvent τ ρ T)}
    (h : Trace (SchedulerStep u) (.initial now wall) xs s') : ∀ m ∈ visited xs s', Excludes m.lock m.phase :=
  h.invariant (P := fun m => Excludes m.lock m.phase) (fun _ _ _ hm hstep => hstep.excludes hm) Excludes.start

/-! ## 3. Who queues -/

/-- The new phase of the task that a step moves. -/
inductive PhaseChange (u : CollectorSetup τ T) (s : CollectorState τ ρ T) (t : τ) :
    SchedulerEvent τ ρ T → Phase T → Prop where
  | queue (hc : ¬ (u.classOf t = .jobs ∧ s.lock.locked = true)) (hf : ¬ s.lock.Free) : PhaseChange u s t (.invoke t) .queued
  | acquire (hp : s.phase t = .away) (hf : s.lock.Free) : PhaseChange u s t (.invoke t) (s.entered u)
  | resume (hp : s.phase t = .queued) : PhaseChange u s t (.resume t) (s.entered u)
  | cooled {wakeAt : T} (hp : s.phase t = .cooling wakeAt) : PhaseChange u s t (.cooled t) .collecting
  | deliver {e : SchedulerEvent τ ρ T} (d : Delivery) : PhaseChange u s t e (.delivering d)
  | leave {e : SchedulerEvent τ ρ T} : PhaseChange u s t e .away

/-- A step moves one task at most. -/
theorem SchedulerStep.phase (h : SchedulerStep u s e s') :
    s'.phase = s.phase ∨ ∃ t p, PhaseChange u s t e p ∧ s'.phase = Function.update s.phase t p := by
  cases h with
  | tick => exact .inl rfl
  | skip => exact .inl rfl
  | acquire hp hc hf => exact .inr ⟨_, _, .acquire hp hf, (CollectorState.enter_tasks _ _).2⟩
  | enqueue hp hc hf => exact .inr ⟨_, _, .queue hc hf, rfl⟩
  | resume hp hw => exact .inr ⟨_, _, .resume hp, (CollectorState.enter_tasks _ _).2⟩
  | cancelWaiter => exact .inl rfl
  | giveUp => exact .inr ⟨_, _, .leave, rfl⟩
  | cooled hp => exact .inr ⟨_, _, .cooled hp, rfl⟩
  | cancelCooldown => exact .inr ⟨_, _, .leave, rfl⟩
  | collected => exact .inr ⟨_, _, .deliver _, rfl⟩
  | @write t r rest results hp landed =>
    refine .inr ⟨t, _, .deliver ⟨rest, results⟩, ?_⟩
    rw [← s.writeResult_phase r landed]
    rfl
  | @record t results hp =>
    refine .inr ⟨t, _, .leave, ?_⟩
    rw [← s.recordResults_phase results]
    rfl
  | abortCollect => exact .inr ⟨_, _, .leave, rfl⟩
  | abortWrite => exact .inr ⟨_, _, .leave, rfl⟩
  | call => exact .inl rfl
  | callCollected => exact .inl rfl
  | callGathered => exact .inl rfl
  | callWrite hp landed => exact .inl (s.writeResult_phase _ landed)
  | callRecord => exact .inl (s.recordResults_phase _)
  | callAbort => exact .inl rfl

/-- A task is in the queue because it was, or because it is invoked and the lock is not free. -/
theorem SchedulerStep.queued (h : SchedulerStep u s e s') {a : τ} (ha : s'.phase a = .queued) :
    s.phase a = .queued ∨ (e = .invoke a ∧ ¬ (u.classOf a = .jobs ∧ s.lock.locked = true) ∧ ¬ s.lock.Free) := by
  rcases h.phase with hsame | ⟨t, p, hchange, hphase⟩
  · exact .inl (hsame ▸ ha)
  · rw [hphase] at ha
    by_cases hat : a = t
    · subst hat
      rw [Function.update_self] at ha
      cases hchange with
      | queue hc hf => exact .inr ⟨rfl, hc, hf⟩
      | acquire => rcases s.entered_cases u with ⟨_, _, heq⟩ | ⟨_, heq⟩ <;> rw [heq] at ha <;> cases ha
      | resume => rcases s.entered_cases u with ⟨_, _, heq⟩ | ⟨_, heq⟩ <;> rw [heq] at ha <;> cases ha
      | cooled => cases ha
      | deliver => cases ha
      | leave => cases ha
    · rw [Function.update_of_ne hat] at ha
      exact .inl ha

/-- The lock is released, and the task it is meant for has not run. -/
def HandingOver (l : AsyncLock τ) : Prop := l.locked = false ∧ ∃ w ∈ l.waiters, w.2 ≠ .cancelled

omit [DecidableEq τ] [Unicode] in
theorem handingOver_iff {l : AsyncLock τ} : HandingOver l ↔ l.locked = false ∧ ¬ l.Free := by
  unfold HandingOver AsyncLock.Free
  constructor
  · rintro ⟨hl, w, hw, hlive⟩
    exact ⟨hl, fun hf => hlive (hf.2 w hw)⟩
  · rintro ⟨hl, hf⟩
    refine ⟨hl, ?_⟩
    by_contra hnone
    refine hf ⟨hl, fun w hw => ?_⟩
    by_contra hlive
    exact hnone ⟨w, hw, hlive⟩

/-- A jobs run that is invoked while the lock changes hands is queued. -/
theorem SchedulerStep.jobs_queued {t : τ} (h : SchedulerStep u s (.invoke t) s') (hl : HandingOver s.lock) :
    s'.phase t = .queued := by
  obtain ⟨hunlocked, hfree⟩ := handingOver_iff.mp hl
  cases h with
  | skip hp hc hlocked =>
    rw [hunlocked] at hlocked
    cases hlocked
  | acquire hp hc hf => exact absurd hf hfree
  | enqueue hp hc hf => exact Function.update_self ..

/-- A run that is invoked is skipped because the lock is held, or has the lock at once. -/
def ServedAtOnce (u : CollectorSetup τ T) (s : CollectorState τ ρ T) (t : τ) : Prop :=
  ∀ s' : CollectorState τ ρ T, SchedulerStep u s (.invoke t) s' → (s.lock.locked = true ∧ s' = s) ∨ (s'.phase t).Holding

/-- An invoked run is served at once, unless the lock is not free and it is not skipped. -/
theorem served_or_queued {t : τ} (h : SchedulerStep u s (.invoke t) s') :
    ((s.lock.locked = true ∧ s' = s) ∨ (s'.phase t).Holding) ∨ s'.phase t = .queued := by
  cases h with
  | skip hp hc hl => exact .inl (.inl ⟨hl, rfl⟩)
  | acquire hp hc hf =>
    refine .inl (.inr ?_)
    rw [(CollectorState.enter_tasks _ _).2, Function.update_self]
    exact CollectorState.entered_holding u _
  | enqueue hp hc hf => exact .inr (Function.update_self ..)

/-- **The jobs runs are served at once**, and none is ever in the queue of the lock, exactly when
none is invoked while the lock is unlocked with a waiter that is not cancelled.  In that window
`locked()` is false and `acquire` waits all the same. -/
theorem jobs_never_queued_iff {now : T} {wall : Instant} {xs : List (CollectorState τ ρ T × SchedulerEvent τ ρ T)}
    (h : Trace (SchedulerStep u) (.initial now wall) xs s') :
    ((∀ x ∈ xs, ∀ t, x.2 = .invoke t → u.classOf t = .jobs → ServedAtOnce u x.1 t) ∧
      ∀ m ∈ visited xs s', ∀ t, u.classOf t = .jobs → ¬ m.lock.Waits t) ↔
      ∀ x ∈ xs, ∀ t, x.2 = .invoke t → u.classOf t = .jobs → ¬ HandingOver x.1.lock := by
  have hexcludes := excludes_of_run h
  constructor
  · rintro ⟨-, hnone⟩ ⟨m, e⟩ hx t rfl hjobs hover
    obtain ⟨m', hm', hstep⟩ := h.step_of_mem hx
    exact hnone m' hm' t hjobs (((hexcludes m' hm').waits t).mp (hstep.jobs_queued hover))
  · intro hmet
    have hnot : ∀ (m : CollectorState τ ρ T) (e : SchedulerEvent τ ρ T) (m' : CollectorState τ ρ T),
        (∀ t, e = .invoke t → u.classOf t = .jobs → ¬ HandingOver m.lock) → SchedulerStep u m e m' →
          ∀ t, u.classOf t = .jobs → m'.phase t = .queued → m.phase t = .queued := by
      intro m e m' hc hstep t hjobs hq
      rcases hstep.queued hq with hq | ⟨rfl, hheld, hfree⟩
      · exact hq
      · have hunlocked : m.lock.locked = false := by
          cases hl : m.lock.locked with
          | false => rfl
          | true => exact absurd ⟨hjobs, hl⟩ hheld
        exact absurd (handingOver_iff.mpr ⟨hunlocked, hfree⟩) (hc t rfl hjobs)
    have hrun := h.invariant_of (P := fun m => ∀ t, u.classOf t = .jobs → m.phase t ≠ .queued)
      (C := fun m e => ∀ t, e = .invoke t → u.classOf t = .jobs → ¬ HandingOver m.lock)
      (fun m e m' hm hc hstep t hjobs hq => hm t hjobs (hnot m e m' hc hstep t hjobs hq))
      (fun t _ hq => nomatch hq) hmet
    constructor
    · rintro ⟨m, e⟩ hx t rfl hjobs m' hstep
      rcases served_or_queued hstep with hserved | hq
      · exact hserved
      · exact absurd (hnot m _ m' (hmet _ hx) hstep t hjobs hq) (hrun m (Trace.mem_visited_of_mem hx) t hjobs)
    · intro m hm t hjobs hwaits
      exact hrun m hm t hjobs (((hexcludes m hm).waits t).mpr hwaits)

end Steps

/-! ## 4. A jobs timer in a handover -/

section Handover

attribute [local instance] Unicode.ascii

/-- The collector of the core source, with a task for jobs, backups and inventory each. -/
def coreSetup : CollectorSetup CollectionClass Int where
  config := { networkerCore with schedule := .classes { jobs := some {}, backups := some {}, inventory := some {} } }
  spacing := 30
  classOf := id
  isFile := fun _ => false

theorem coreSetup_not_skipped : coreSetup.config.skipReason coreSetup.isFile = .ok none := by
  decide +kernel

/-- A result of the collector with an empty payload. -/
def coreResult (collectionClass : CollectionClass) (t : Instant) : CollectionResult where
  collector := coreSetup.config.name
  targetType := coreSetup.config.type
  protocol := coreSetup.config.protocol
  collectedAt := t
  ok := true
  collectionClass := collectionClass

theorem collect_core (collectionClass : CollectionClass) (t : Instant) :
    collect coreSetup.isFile coreSetup.config (.ok []) t collectionClass = .ok (coreResult collectionClass t) := by
  unfold collect
  rw [coreSetup_not_skipped]
  rfl

/-- The first steps: backups takes the lock, inventory queues, and backups ends. -/
theorem handover_run : ∃ (xs : List (CollectorState CollectionClass Unit Int × SchedulerEvent CollectionClass Unit Int))
    (s : CollectorState CollectionClass Unit Int), Trace (SchedulerStep coreSetup) (.initial 0 unspelledAt) xs s ∧
      s.phase .jobs = .away ∧ s.lock = ⟨false, [(.inventory, .woken)]⟩ := by
  have h0 : Trace (SchedulerStep coreSetup) (.initial 0 unspelledAt : CollectorState CollectionClass Unit Int) [] _ := .start
  have h1 := h0.next (.acquire (t := .backups) rfl (by decide) (by decide))
  have h2 := h1.next (.enqueue (t := .inventory) rfl (by decide) (by decide))
  have h3 := h2.next (.collected (t := .backups) rfl (collect_core .backups unspelledAt))
  have h4 := h3.next (.write (t := .backups) rfl true)
  have h5 := h4.next (.record (t := .backups) rfl)
  exact ⟨_, _, h5, rfl, rfl⟩

/-- A jobs run that meets an idle lock is not queued. -/
theorem jobs_never_queued_iff_idle :
    ∃ (xs : List (CollectorState CollectionClass Unit Int × SchedulerEvent CollectionClass Unit Int))
      (s : CollectorState CollectionClass Unit Int), Trace (SchedulerStep coreSetup) (.initial 0 unspelledAt) xs s ∧
        xs.map Prod.snd = [.invoke .jobs] ∧ ∀ m ∈ visited xs s, ∀ t, coreSetup.classOf t = .jobs → ¬ m.lock.Waits t := by
  have h0 : Trace (SchedulerStep coreSetup) (.initial 0 unspelledAt : CollectorState CollectionClass Unit Int) [] _ := .start
  have h1 := h0.next (.acquire (t := .jobs) rfl (by decide) (by decide))
  refine ⟨_, _, h1, rfl, ((jobs_never_queued_iff h1).mpr ?_).2⟩
  rintro x hx t - - ⟨-, w, hw, -⟩
  rw [List.mem_singleton.mp hx] at hw
  cases hw

/-- The jobs timer fires after backups has released the lock and before inventory takes it: the
jobs run is not skipped, and queues. -/
theorem jobs_queued_in_handover :
    ∃ (xs : List (CollectorState CollectionClass Unit Int × SchedulerEvent CollectionClass Unit Int))
      (s : CollectorState CollectionClass Unit Int), Trace (SchedulerStep coreSetup) (.initial 0 unspelledAt) xs s ∧
        coreSetup.classOf .jobs = .jobs ∧ s.lock.Waits .jobs := by
  obtain ⟨xs, s, htrace, hphase, hlock⟩ := handover_run
  have hnot : ¬ s.lock.Free := by
    rw [hlock]
    decide
  have hunlocked : ¬ (coreSetup.classOf .jobs = .jobs ∧ s.lock.locked = true) := by
    rw [hlock]
    decide
  refine ⟨_, _, .next htrace (.enqueue hphase hunlocked hnot), rfl, ?_⟩
  exact (AsyncLock.enqueue_waits s.lock .jobs .jobs).mpr (.inr rfl)

end Handover

end BackupCollector
