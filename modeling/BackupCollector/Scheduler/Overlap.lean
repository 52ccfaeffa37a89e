/-
# Collections that overlap

Two entry points reach `collect`: a scheduled run, which has the lock of the collector, and
`run_once`, which does not ask for it.  Scheduled runs exclude one another; with a `run_once` call
in flight, nothing keeps another collection of the same collector from starting.

`collections_never_overlap_iff` is about whole runs.  Collections never overlap in one exactly when
no collection starts while another is in flight and one of the two is that of a `run_once` call.
The condition is on the events of the run and the state before each, and it says where the
exclusion stops: at the calls, in both directions, since neither waits for the other.

The proof is by what a step can do to the set of collections in flight.  It adds at most the one
that starts, and that one was not there; so an overlap arises at a start and nowhere else.  That
two SCHEDULED ones cannot be both in flight is the lock, and is taken from `Exclusion`.

Whether overlapping collections do harm is another question.  `Status` is about one that they can
do.
-/
import BackupCollector.Scheduler.Exclusion

namespace BackupCollector

open Py

variable {τ ρ T : Type}

/-! ## 1. Collections in flight

Tasks and calls in `collect`, and what a step does to them. -/

/-- A task or a call is in `collect`. -/
def CollectorState.InFlight (s : CollectorState τ ρ T) : τ ⊕ ρ → Prop
  | .inl t => s.phase t = .collecting
  | .inr r => ∃ done collectionClass rest, s.calls r = .collecting done collectionClass rest

/-- One collection at most is in flight, of a task or of a call. -/
def CollectorState.NoOverlap (s : CollectorState τ ρ T) : Prop :=
  ∀ a b, s.InFlight a → s.InFlight b → a = b

section Steps

variable [DecidableEq τ] [DecidableEq ρ] [AddCommGroup T] [LinearOrder T] {u : CollectorSetup τ T}
  {s s' : CollectorState τ ρ T} {e : SchedulerEvent τ ρ T}

/-- The task or call starts to collect when the event happens. -/
def CollectorState.Starts (u : CollectorSetup τ T) (s : CollectorState τ ρ T) : SchedulerEvent τ ρ T → τ ⊕ ρ → Prop
  | .invoke t, a => a = .inl t ∧ s.lock.Free ∧ s.networkerCooldown u = none
  | .resume t, a => a = .inl t ∧ s.networkerCooldown u = none
  | .cooled t, a => a = .inl t
  | .call r, a => a = .inr r ∧ ∃ k rest, u.config.effectiveSchedules = .ok (k :: rest)
  | _, _ => False

omit [DecidableEq τ] [DecidableEq ρ] in
/-- One task or call starts at a time. -/
theorem CollectorState.Starts.unique {a b : τ ⊕ ρ} (ha : s.Starts u e a) (hb : s.Starts u e b) : a = b := by
  cases e with
  | invoke t => exact ha.1.trans hb.1.symm
  | resume t => exact ha.1.trans hb.1.symm
  | cooled t => exact Eq.trans ha (Eq.symm hb)
  | call r => exact ha.1.trans hb.1.symm
  | _ => exact ha.elim

variable [Unicode]

/-- The new phase of the call that a step moves. -/
inductive CallChange (u : CollectorSetup τ T) (s : CollectorState τ ρ T) (r : ρ) : SchedulerEvent τ ρ T → CallPhase → Prop where
  | start {schedules : List (CollectionClass × ScheduleConfig)} (hp : s.calls r = .idle)
      (hs : u.config.effectiveSchedules = .ok schedules) : CallChange u s r (.call r) (.next [] (schedules.map Prod.fst))
  | goOn {done done' : List CollectionResult} {collectionClass : CollectionClass} {rest : List CollectionClass}
      (hp : s.calls r = .collecting done collectionClass rest) : CallChange u s r (.callCollected r) (.next done' rest)
  | deliver {e : SchedulerEvent τ ρ T} (d : Delivery) : CallChange u s r e (.delivering d)
  | idle {e : SchedulerEvent τ ρ T} : CallChange u s r e .idle

omit [DecidableEq ρ] [Unicode] in
theorem CollectorState.enter_calls (t : τ) : (s.enter u t).calls = s.calls := by
  unfold enter
  split <;> rfl

/-- A step moves one call at most. -/
theorem SchedulerStep.calls (h : SchedulerStep u s e s') :
    s'.calls = s.calls ∨ ∃ r p, CallChange u s r e p ∧ s'.calls = Function.update s.calls r p := by
  cases h with
  | tick => exact .inl rfl
  | skip => exact .inl rfl
  | acquire => exact .inl (CollectorState.enter_calls _)
  | enqueue => exact .inl rfl
  | resume => exact .inl (CollectorState.enter_calls _)
  | cancelWaiter => exact .inl rfl
  | giveUp => exact .inl rfl
  | cooled => exact .inl rfl
  | cancelCooldown => exact .inl rfl
  | collected => exact .inl rfl
  | write hp landed => exact .inl (s.writeResult_calls _ landed)
  | record hp => exact .inl (s.recordResults_calls _)
  | abortCollect => exact .inl rfl
  | abortWrite => exact .inl rfl
  | call hp hs => exact .inr ⟨_, _, .start hp hs, rfl⟩
  | callCollected hp hr => exact .inr ⟨_, _, .goOn hp, rfl⟩
  | callGathered hp => exact .inr ⟨_, _, .deliver _, rfl⟩
  | @callWrite r x rest results hp landed =>
    refine .inr ⟨r, _, .deliver ⟨rest, results⟩, ?_⟩
    rw [← s.writeResult_calls x landed]
    rfl
  | @callRecord r results hp =>
    refine .inr ⟨r, _, .idle, ?_⟩
    rw [← s.recordResults_calls results]
    rfl
  | callAbort => exact .inr ⟨_, _, .idle, rfl⟩

/-- What is in flight after a step was before, or starts with it. -/
theorem SchedulerStep.inFlight (h : SchedulerStep u s e s') {a : τ ⊕ ρ} (ha : s'.InFlight a) :
    s.InFlight a ∨ s.Starts u e a := by
  cases a with
  | inl t =>
    have hcollecting : s'.phase t = .collecting := ha
    rcases h.phase with hsame | ⟨t', p, hchange, hphase⟩
    · rw [hsame] at hcollecting
      exact .inl hcollecting
    · rw [hphase] at hcollecting
      by_cases ht : t = t'
      · subst ht
        rw [Function.update_self] at hcollecting
        cases hchange with
        | queue => cases hcollecting
        | acquire hp hf =>
          rcases s.entered_cases u with ⟨_, _, heq⟩ | ⟨hcool, _⟩
          · rw [heq] at hcollecting
            cases hcollecting
          · exact .inr ⟨rfl, hf, hcool⟩
        | resume hp =>
          rcases s.entered_cases u with ⟨_, _, heq⟩ | ⟨hcool, _⟩
          · rw [heq] at hcollecting
            cases hcollecting
          · exact .inr ⟨rfl, hcool⟩
        | cooled hp => exact .inr rfl
        | deliver => cases hcollecting
        | leave => cases hcollecting
      · rw [Function.update_of_ne ht] at hcollecting
        exact .inl hcollecting
  | inr r =>
    obtain ⟨done, collectionClass, rest, hcollecting⟩ := ha
    rcases h.calls with hsame | ⟨r', p, hchange, hcalls⟩
    · rw [hsame] at hcollecting
      exact .inl ⟨done, collectionClass, rest, hcollecting⟩
    · rw [hcalls] at hcollecting
      by_cases hr : r = r'
      · subst hr
        rw [Function.update_self] at hcollecting
        cases hchange with
        | @start schedules hp hs =>
          cases schedules with
          | nil => cases hcollecting
          | cons k schedules => exact .inr ⟨rfl, k, schedules, hs⟩
        | goOn hp => exact .inl ⟨_, _, _, hp⟩
        | deliver => cases hcollecting
        | idle => cases hcollecting
      · rw [Function.update_of_ne hr] at hcollecting
        exact .inl ⟨done, collectionClass, rest, hcollecting⟩

/-- A task or call that starts was not in flight, is now, and the others stay in flight. -/
theorem SchedulerStep.starts (h : SchedulerStep u s e s') {a : τ ⊕ ρ} (ha : s.Starts u e a) :
    ¬ s.InFlight a ∧ s'.InFlight a ∧ ∀ b, s.InFlight b → s'.InFlight b := by
  have htask : ∀ (m : CollectorState τ ρ T) (t : τ), s.phase t ≠ .collecting →
      m.phase = Function.update s.phase t .collecting → m.calls = s.calls →
      ¬ s.InFlight (.inl t) ∧ m.InFlight (.inl t) ∧ ∀ b, s.InFlight b → m.InFlight b := by
    intro m t hp hphase hcalls
    refine ⟨hp, ?_, fun b hb => ?_⟩
    · show m.phase t = .collecting
      rw [hphase, Function.update_self]
    · cases b with
      | inl t' =>
        show m.phase t' = .collecting
        rw [hphase]
        by_cases ht : t' = t
        · rw [ht, Function.update_self]
        · rw [Function.update_of_ne ht]
          exact hb
      | inr r =>
        show ∃ done collectionClass rest, m.calls r = .collecting done collectionClass rest
        rw [hcalls]
        exact hb
  have henter : ∀ (lock : AsyncLock τ) (t : τ), s.networkerCooldown u = none →
      (({ s with lock := lock } : CollectorState τ ρ T).enter u t).phase = Function.update s.phase t .collecting := by
    intro lock t hcool
    rw [(CollectorState.enter_tasks _ _).2]
    rcases s.entered_cases u with ⟨_, hsome, _⟩ | ⟨_, heq⟩
    · rw [hcool] at hsome
      cases hsome
    · exact congrArg (Function.update s.phase t) heq
  cases h with
  | @skip t hp hc hl =>
    rw [ha.2.1.1] at hl
    cases hl
  | @acquire t hp hc hf =>
    obtain ⟨rfl, -, hcool⟩ := ha
    exact htask _ t (by rw [hp]; exact fun hq => nomatch hq) (henter _ t hcool) (CollectorState.enter_calls t)
  | enqueue hp hc hf => exact absurd ha.2.1 hf
  | @resume t hp hw =>
    obtain ⟨rfl, hcool⟩ := ha
    exact htask _ t (by rw [hp]; exact fun hq => nomatch hq) (henter _ t hcool) (CollectorState.enter_calls t)
  | @cooled t wakeAt hp hnow =>
    obtain rfl : a = .inl t := ha
    exact htask _ t (by rw [hp]; exact fun hq => nomatch hq) rfl rfl
  | @call r schedules hp hs =>
    obtain ⟨rfl, k, rest, hrest⟩ := ha
    rw [hs] at hrest
    obtain rfl := Except.ok.inj hrest
    have hidle : ¬ s.InFlight (.inr r) := by
      rintro ⟨done, collectionClass, rest, hcollecting⟩
      rw [hp] at hcollecting
      cases hcollecting
    refine ⟨hidle, ⟨[], k.1, rest.map Prod.fst, Function.update_self ..⟩, fun b hb => ?_⟩
    cases b with
    | inl t => exact hb
    | inr r' =>
      obtain ⟨done, collectionClass, rest', hcollecting⟩ := hb
      have hr : r' ≠ r := by
        rintro rfl
        exact hidle ⟨done, collectionClass, rest', hcollecting⟩
      exact ⟨done, collectionClass, rest', (Function.update_of_ne hr _ _).trans hcollecting⟩
  | tick => exact ha.elim
  | cancelWaiter => exact ha.elim
  | giveUp => exact ha.elim
  | cancelCooldown => exact ha.elim
  | collected => exact ha.elim
  | write => exact ha.elim
  | record => exact ha.elim
  | abortCollect => exact ha.elim
  | abortWrite => exact ha.elim
  | callCollected => exact ha.elim
  | callGathered => exact ha.elim
  | callWrite => exact ha.elim
  | callRecord => exact ha.elim
  | callAbort => exact ha.elim

/-! ## 2. When they overlap

At a start, and only there. -/

/-- One of the two that starts while the other collects is a `run_once` call. -/
def CallInvolved (u : CollectorSetup τ T) (s : CollectorState τ ρ T) (e : SchedulerEvent τ ρ T) : Prop :=
  ∃ a b, s.Starts u e a ∧ s.InFlight b ∧ ¬ (a.isLeft = true ∧ b.isLeft = true)

/-- Scheduled runs do not overlap: the collections of a state are those before, unless a call is
one of them. -/
theorem SchedulerStep.noOverlap (h : SchedulerStep u s e s') (hs : s.NoOverlap) (hlock : Excludes s'.lock s'.phase)
    (hcall : ¬ CallInvolved u s e) : s'.NoOverlap := by
  have hnew : ∀ a b, s.Starts u e a → s.InFlight b → s'.InFlight a → s'.InFlight b → a = b := by
    intro a b hstart hb ha' hb'
    have hboth : a.isLeft = true ∧ b.isLeft = true := by
      by_contra hnot
      exact hcall ⟨a, b, hstart, hb, hnot⟩
    cases a with
    | inr r => cases hboth.1
    | inl t =>
      cases b with
      | inr r => cases hboth.2
      | inl t' =>
        have hholds : ∀ x, s'.InFlight (.inl x) → (s'.phase x).Holding := by
          intro x hx
          rw [show s'.phase x = .collecting from hx]
          trivial
        rw [hlock.one t t' (hholds t ha') (hholds t' hb')]
  intro a b ha hb
  rcases h.inFlight ha with hbefore | hstart
  · rcases h.inFlight hb with hbefore' | hstart'
    · exact hs a b hbefore hbefore'
    · exact (hnew b a hstart' hbefore hb ha).symm
  · rcases h.inFlight hb with hbefore' | hstart'
    · exact hnew a b hstart hbefore' ha hb
    · exact hstart.unique hstart'

/-- **Collections of one collector never overlap exactly when no collection starts while another
one is in flight and one of the two is that of a `run_once` call.**  Two tasks need no condition:
the lock keeps them apart, with failures and cancellations at every await. -/
theorem collections_never_overlap_iff {now : T} {wall : Instant}
    {xs : List (CollectorState τ ρ T × SchedulerEvent τ ρ T)} (h : Trace (SchedulerStep u) (.initial now wall) xs s') :
    (∀ m ∈ visited xs s', m.NoOverlap) ↔ ∀ x ∈ xs, ¬ CallInvolved u x.1 x.2 := by
  constructor
  · rintro hnone ⟨m, e⟩ hx ⟨a, b, hstart, hb, -⟩
    obtain ⟨m', hm', hstep⟩ := h.step_of_mem hx
    obtain ⟨hnot, hnow, hothers⟩ := hstep.starts hstart
    obtain rfl := hnone m' hm' a b hnow (hothers b hb)
    exact hnot hb
  · intro hmet m hm
    have hboth := h.invariant_of (P := fun m => Excludes m.lock m.phase ∧ m.NoOverlap)
      (C := fun m e => ¬ CallInvolved u m e)
      (fun _ _ _ hp hc hstep => ⟨hstep.excludes hp.1, hstep.noOverlap hp.2 (hstep.excludes hp.1) hc⟩)
      ⟨Excludes.start, fun a b ha _ => by
        cases a with
        | inl t => cases ha
        | inr r =>
          obtain ⟨_, _, _, hcollecting⟩ := ha
          cases hcollecting⟩ hmet m hm
    exact hboth.2

end Steps

/-! ## 3. A call during a scheduled collection

A run in which nothing overlaps, and one in which two collections do. -/

section Sample

attribute [local instance] Unicode.ascii

/-- A scheduled run alone does not overlap. -/
theorem collections_never_overlap_iff_alone :
    ∃ (xs : List (CollectorState CollectionClass Unit Int × SchedulerEvent CollectionClass Unit Int))
      (s : CollectorState CollectionClass Unit Int), Trace (SchedulerStep coreSetup) (.initial 0 unspelledAt) xs s ∧
        xs.map Prod.snd = [.invoke .inventory] ∧ ∀ m ∈ visited xs s, m.NoOverlap := by
  have h0 : Trace (SchedulerStep coreSetup) (.initial 0 unspelledAt : CollectorState CollectionClass Unit Int) [] _ := .start
  have h1 := h0.next (.acquire (t := .inventory) rfl (by decide) (by decide))
  refine ⟨_, _, h1, rfl, (collections_never_overlap_iff h1).mpr ?_⟩
  rintro x hx ⟨a, b, -, hb, -⟩
  rw [List.mem_singleton.mp hx] at hb
  cases b with
  | inl t => cases hb
  | inr r =>
    obtain ⟨_, _, _, hcollecting⟩ := hb
    cases hcollecting

/-- Inventory is being collected when `run_once` is called: the call collects jobs at once. -/
theorem call_overlaps_scheduled :
    ∃ (xs : List (CollectorState CollectionClass Unit Int × SchedulerEvent CollectionClass Unit Int))
      (s : CollectorState CollectionClass Unit Int), Trace (SchedulerStep coreSetup) (.initial 0 unspelledAt) xs s ∧
        s.InFlight (.inl .inventory) ∧ s.InFlight (.inr ()) ∧ ¬ s.NoOverlap := by
  have h0 : Trace (SchedulerStep coreSetup) (.initial 0 unspelledAt : CollectorState CollectionClass Unit Int) [] _ := .start
  have h1 := h0.next (.acquire (t := .inventory) rfl (by decide) (by decide))
  have h2 := h1.next (.call (r := ()) rfl rfl)
  exact ⟨_, _, h2, rfl, ⟨[], .jobs, [.backups, .inventory], rfl⟩,
    fun h => nomatch h (.inl .inventory) (.inr ()) rfl ⟨[], .jobs, [.backups, .inventory], rfl⟩⟩

end Sample

end BackupCollector
