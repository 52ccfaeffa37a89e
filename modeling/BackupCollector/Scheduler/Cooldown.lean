/-
# The cooldown of a NetWorker collector

The end of a scheduled run is noted in a `finally`, and the next run sleeps for what is missing to
the spacing, with the lock HELD: nobody can end a run in between, so the wait that was computed
before the sleep is still right after it.  A run that is cancelled while it waits or sleeps notes
nothing, and needs not to: it has collected nothing.

That is the design, and `scheduled_runs_spaced` says that it works: in every state of every run the
scheduled collections of a NetWorker collector do not overlap, and each started at least the
spacing after the one before it ended.  It holds with failures and cancellations at every await,
also during the cooldown and during the collection.

A span is a collection from its start to the end of its run.  The invariant `Spaced` ties the
clock, the lock and the last end together, and lists the spans in order; a step is then one of few
kinds, and only two of them touch a span, its start and its end.

The clock is monotonic and moves by any amount between two steps.  `run_once` calls do not sleep
and are not spaced; their collections are no spans.  The spacing is that of the configuration, as
an exact number.
-/
import BackupCollector.Scheduler.Exclusion

namespace BackupCollector

open Py

variable {τ ρ T : Type} [AddCommGroup T] [LinearOrder T] {u : CollectorSetup τ T} {s : CollectorState τ ρ T}

/-! ## 1. The spans

What the history says, and how starting and ending change it. -/

/-- The task is in the `try` of a run. -/
def Phase.Running : Phase T → Prop
  | .collecting => True
  | .delivering _ => True
  | _ => False

omit [AddCommGroup T] [LinearOrder T] in
theorem Phase.Running.holding {p : Phase T} (h : p.Running) : p.Holding := by
  cases p with
  | away => exact h
  | queued => exact h
  | cooling => trivial
  | collecting => trivial
  | delivering => trivial

/-- What the history of a collector says about its clock, its lock and its last end. -/
structure Spaced (u : CollectorSetup τ T) (s : CollectorState τ ρ T) : Prop where
  clock : ∀ f, s.finishedAt = some f → f ≤ s.now
  started : ∀ x ∈ s.spans, x.start ≤ s.now
  running : ∀ x ∈ s.spans, x.finish = none → (s.phase x.task).Running
  ended : ∀ x ∈ s.spans, ∀ f, x.finish = some f → x.start ≤ f ∧ ∃ g, s.finishedAt = some g ∧ f ≤ g
  cooling : ∀ t wakeAt, s.phase t = .cooling wakeAt → ∃ g, s.finishedAt = some g ∧ g + u.spacing ≤ wakeAt
  apart : s.spans.Pairwise fun later earlier => ∃ f, earlier.finish = some f ∧ f + u.spacing ≤ later.start

namespace Spaced

theorem initial (now : T) (wall : Instant) : Spaced u (.initial now wall : CollectorState τ ρ T) where
  clock _ h := nomatch h
  started _ h := nomatch h
  running _ h := nomatch h
  ended _ h := nomatch h
  cooling _ _ h := nomatch h
  apart := List.Pairwise.nil

theorem tick (h : Spaced u s) {now : T} (hnow : s.now ≤ now) (wall : Instant) :
    Spaced u ({ s with now := now, wall := wall } : CollectorState τ ρ T) where
  clock f hf := (h.clock f hf).trans hnow
  started x hx := (h.started x hx).trans hnow
  running := h.running
  ended := h.ended
  cooling := h.cooling
  apart := h.apart

section Tasks

variable [DecidableEq τ]

/-- A task that is not in a run moves to a phase other than the cooldown, or one that is stays in it. -/
theorem setPhase (h : Spaced u s) {t : τ} {p : Phase T} (hrun : (s.phase t).Running → p.Running)
    (hcool : ∀ wakeAt, p ≠ .cooling wakeAt) : Spaced u (s.setPhase t p) where
  clock := h.clock
  started := h.started
  running x hx hopen := by
    show (Function.update s.phase t p x.task).Running
    by_cases ht : x.task = t
    · rw [ht, Function.update_self]
      exact hrun (ht ▸ h.running x hx hopen)
    · rw [Function.update_of_ne ht]
      exact h.running x hx hopen
  ended := h.ended
  cooling a wakeAt ha := by
    have hphase : Function.update s.phase t p a = .cooling wakeAt := ha
    by_cases hat : a = t
    · subst hat
      rw [Function.update_self] at hphase
      exact absurd hphase (hcool wakeAt)
    · rw [Function.update_of_ne hat] at hphase
      exact h.cooling a wakeAt hphase
  apart := h.apart

/-- A collection starts when nobody is in a run and the spacing is over. -/
theorem beginCollect (h : Spaced u s) (hidle : ∀ a, ¬ (s.phase a).Running)
    (hover : ∀ g, s.finishedAt = some g → g + u.spacing ≤ s.now) [IsOrderedAddMonoid T] (t : τ) :
    Spaced u (s.beginCollect t) where
  clock := h.clock
  started x hx := by
    rcases List.mem_cons.mp hx with rfl | hx
    · exact le_refl _
    · exact h.started x hx
  running x hx hopen := by
    rcases List.mem_cons.mp hx with rfl | hx
    · show (Function.update s.phase t .collecting t).Running
      rw [Function.update_self]
      trivial
    · exact absurd (h.running x hx hopen) (hidle x.task)
  ended x hx f hf := by
    rcases List.mem_cons.mp hx with rfl | hx
    · cases hf
    · exact h.ended x hx f hf
  cooling a wakeAt ha := by
    have hphase : Function.update s.phase t .collecting a = .cooling wakeAt := ha
    by_cases hat : a = t
    · subst hat
      rw [Function.update_self] at hphase
      cases hphase
    · rw [Function.update_of_ne hat] at hphase
      exact h.cooling a wakeAt hphase
  apart := by
    refine List.Pairwise.cons (fun x hx => ?_) h.apart
    cases hfinish : x.finish with
    | none => exact absurd (h.running x hx hfinish) (hidle x.task)
    | some f =>
      obtain ⟨-, g, hg, hfg⟩ := h.ended x hx f hfinish
      exact ⟨f, rfl, (add_le_add_left hfg u.spacing).trans (hover g hg)⟩

omit [AddCommGroup T] [LinearOrder T] in
/-- The spans after a task's end: its open spans are closed, and the others are as they were. -/
theorem mem_closeSpans {t : τ} {now : T} {spans : List (Span τ T)} {x : Span τ T}
    (hx : x ∈ CollectorState.closeSpans t now spans) :
    ∃ y ∈ spans, x.task = y.task ∧ x.start = y.start ∧
      (x.finish = y.finish ∧ (y.finish = none → y.task ≠ t) ∨ y.finish = none ∧ x.finish = some now) := by
  obtain ⟨y, hy, heq⟩ := List.mem_map.mp hx
  split at heq
  · rename_i hopen
    subst heq
    exact ⟨y, hy, rfl, rfl, .inr ⟨Option.isNone_iff_eq_none.mp hopen.2, rfl⟩⟩
  · rename_i hclosed
    subst heq
    refine ⟨y, hy, rfl, rfl, .inl ⟨rfl, fun hnone htask => hclosed ⟨htask, ?_⟩⟩⟩
    rw [hnone]
    rfl

/-- A run ends: it was the only one. -/
theorem finish (h : Spaced u s) {t : τ} (hone : ∀ a, (s.phase a).Holding → a = t) : Spaced u (s.finish t) where
  clock f hf := (Option.some.inj hf).ge
  started x hx := by
    obtain ⟨y, hy, -, hstart, -⟩ := mem_closeSpans hx
    rw [hstart]
    exact h.started y hy
  running x hx hopen := by
    obtain ⟨y, hy, -, -, ⟨hsame, hother⟩ | ⟨-, hclosed⟩⟩ := mem_closeSpans hx
    · rw [hopen] at hsame
      exact absurd (hone _ (h.running y hy hsame.symm).holding) (hother hsame.symm)
    · rw [hopen] at hclosed
      cases hclosed
  ended x hx f hf := by
    obtain ⟨y, hy, -, hstart, ⟨hsame, -⟩ | ⟨-, hclosed⟩⟩ := mem_closeSpans hx
    · rw [hf] at hsame
      obtain ⟨hle, g, hg, hfg⟩ := h.ended y hy f hsame.symm
      exact ⟨hstart ▸ hle, s.now, rfl, hfg.trans (h.clock g hg)⟩
    · obtain rfl := Option.some.inj (hf.symm.trans hclosed)
      exact ⟨hstart ▸ h.started y hy, s.now, rfl, le_refl _⟩
  cooling a wakeAt ha := by
    have hphase : Function.update s.phase t .away a = .cooling wakeAt := ha
    by_cases hat : a = t
    · subst hat
      rw [Function.update_self] at hphase
      cases hphase
    · rw [Function.update_of_ne hat] at hphase
      exact absurd (hone a (by rw [hphase]; trivial)) hat
  apart := by
    refine List.pairwise_map.mpr (h.apart.imp ?_)
    rintro later earlier ⟨f, hf, hle⟩
    refine ⟨f, ?_, ?_⟩
    · rw [if_neg (fun hopen => by rw [hf] at hopen; cases hopen.2)]
      exact hf
    · split
      · exact hle
      · exact hle

end Tasks

end Spaced

/-! ## 2. The steps

One lemma for the steps that matter, and a congruence for those that do not. -/

section Steps

variable [DecidableEq τ] [DecidableEq ρ] [IsOrderedAddMonoid T] [Unicode] {s' : CollectorState τ ρ T}
  {e : SchedulerEvent τ ρ T}

omit [DecidableEq τ] [DecidableEq ρ] [Unicode] in
/-- Without a cooldown, the spacing since the last end is over. -/
theorem spacing_over (hn : u.config.type = lit "Networker") (hcool : s.networkerCooldown u = none) :
    ∀ g, s.finishedAt = some g → g + u.spacing ≤ s.now := by
  intro g hg
  unfold CollectorState.networkerCooldown at hcool
  rw [if_neg (fun hne => hne hn), hg] at hcool
  dsimp only at hcool
  split at hcool
  · cases hcool
  · rename_i hremaining
    have hle : u.spacing - (s.now - g) ≤ 0 := not_lt.mp hremaining
    have heq : g + u.spacing = s.now + (u.spacing - (s.now - g)) := by abel
    rw [heq]
    exact add_le_of_nonpos_right hle

omit [DecidableEq τ] [DecidableEq ρ] [IsOrderedAddMonoid T] [Unicode] in
/-- A cooldown ends when the spacing since the last end is over. -/
theorem cooldown_ends {wakeAt : T} (hcool : s.networkerCooldown u = some wakeAt) :
    ∃ g, s.finishedAt = some g ∧ g + u.spacing ≤ wakeAt := by
  unfold CollectorState.networkerCooldown at hcool
  split at hcool
  · cases hcool
  · cases hg : s.finishedAt with
    | none =>
      rw [hg] at hcool
      cases hcool
    | some g =>
      rw [hg] at hcool
      dsimp only at hcool
      split at hcool
      · refine ⟨g, rfl, le_of_eq ?_⟩
        rw [← Option.some.inj hcool]
        abel
      · cases hcool

omit [DecidableEq ρ] [Unicode] in
/-- A task that takes the lock sleeps for the cooldown, or starts when the spacing is over. -/
theorem Spaced.enter (h : Spaced u s) (hn : u.config.type = lit "Networker") (hidle : ∀ a, ¬ (s.phase a).Holding) (t : τ) :
    Spaced u (s.enter u t) := by
  unfold CollectorState.enter
  cases hcool : s.networkerCooldown u with
  | none => exact h.beginCollect (fun a ha => hidle a ha.holding) (spacing_over hn hcool) t
  | some wakeAt =>
    refine ⟨h.clock, h.started, fun x hx hopen => absurd (h.running x hx hopen).holding (hidle x.task), h.ended, ?_, h.apart⟩
    intro a wake ha
    have hphase : Function.update s.phase t (.cooling wakeAt) a = .cooling wake := ha
    by_cases hat : a = t
    · subst hat
      rw [Function.update_self] at hphase
      cases hphase
      exact cooldown_ends hcool
    · rw [Function.update_of_ne hat] at hphase
      exact h.cooling a wake hphase

omit [DecidableEq τ] [DecidableEq ρ] [IsOrderedAddMonoid T] [Unicode] in
/-- Only the clock, the last end, the phases and the spans matter. -/
theorem Spaced.congr (h : Spaced u s) {s' : CollectorState τ ρ T} (hnow : s'.now = s.now) (hfinished : s'.finishedAt = s.finishedAt)
    (hphase : s'.phase = s.phase) (hspans : s'.spans = s.spans) : Spaced u s' := by
  obtain ⟨hclock, hstarted, hrunning, hended, hcooling, hapart⟩ := h
  rw [← hnow] at hclock hstarted
  rw [← hfinished] at hclock hended hcooling
  rw [← hspans] at hstarted hrunning hended hapart
  rw [← hphase] at hrunning hcooling
  exact ⟨hclock, hstarted, hrunning, hended, hcooling, hapart⟩

theorem SchedulerStep.spaced (hn : u.config.type = lit "Networker") (h : SchedulerStep u s e s')
    (hlock : Excludes s.lock s.phase) (hs : Spaced u s) : Spaced u s' := by
  cases h with
  | tick hnow => exact hs.tick hnow _
  | skip => exact hs
  | @acquire t hp hc hf =>
    exact Spaced.enter (s := { s with lock := s.lock.hold }) (hs.congr rfl rfl rfl rfl) hn (hlock.not_holding hf.1) t
  | @enqueue t hp hc hf =>
    exact (hs.setPhase (t := t) (p := .queued) (by rw [hp]; exact False.elim) (fun _ hq => nomatch hq)).congr rfl rfl rfl rfl
  | @resume t hp hw =>
    exact Spaced.enter (s := { s with lock := s.lock.grant t }) (hs.congr rfl rfl rfl rfl) hn
      (hlock.not_holding (hlock.ordered.woken t hw).1) t
  | cancelWaiter => exact hs.congr rfl rfl rfl rfl
  | @giveUp t hp hw =>
    exact (hs.setPhase (t := t) (p := .away) (by rw [hp]; exact False.elim) (fun _ hq => nomatch hq)).congr rfl rfl rfl rfl
  | @cooled t wakeAt hp hnow =>
    -- the task that slept has the lock, so nobody is in a run
    refine hs.beginCollect (fun a ha => ?_) (fun g hg => ?_) t
    · rw [hlock.one a t ha.holding (by rw [hp]; trivial), hp] at ha
      exact ha
    · obtain ⟨f, hf, hle⟩ := hs.cooling t wakeAt hp
      rw [hg] at hf
      rw [Option.some.inj hf]
      exact hle.trans hnow
  | @cancelCooldown t wakeAt hp =>
    exact (hs.setPhase (t := t) (p := .away) (by rw [hp]; exact False.elim) (fun _ hq => nomatch hq)).congr rfl rfl rfl rfl
  | collected hp => exact hs.setPhase (fun _ => trivial) (fun _ hq => nomatch hq)
  | @write t r rest results hp landed =>
    have hwritten : Spaced u (s.writeResult r landed) := hs.congr (by simp) (by simp) (by simp) (by simp)
    exact hwritten.setPhase (fun _ => trivial) (fun _ hq => nomatch hq)
  | @record t results hp =>
    have hrecorded : Spaced u (s.recordResults results) := hs.congr (by simp) (by simp) (by simp) (by simp)
    refine hrecorded.finish (fun a ha => ?_)
    rw [CollectorState.recordResults_phase] at ha
    exact hlock.one a t ha (by rw [hp]; trivial)
  | @abortCollect t hp => exact hs.finish (fun a ha => hlock.one a t ha (by rw [hp]; trivial))
  | @abortWrite t d hp => exact hs.finish (fun a ha => hlock.one a t ha (by rw [hp]; trivial))
  | call => exact hs.congr rfl rfl rfl rfl
  | callCollected => exact hs.congr rfl rfl rfl rfl
  | callGathered => exact hs.congr rfl rfl rfl rfl
  | @callWrite r x rest results hp landed =>
    have hwritten : Spaced u (s.writeResult x landed) := hs.congr (by simp) (by simp) (by simp) (by simp)
    exact hwritten.congr rfl rfl rfl rfl
  | @callRecord r results hp =>
    have hrecorded : Spaced u (s.recordResults results) := hs.congr (by simp) (by simp) (by simp) (by simp)
    exact hrecorded.congr rfl rfl rfl rfl
  | callAbort => exact hs.congr rfl rfl rfl rfl

/-- **In every state of a run, the scheduled collections of a NetWorker collector do not overlap,
and each started at least the spacing after the one before it ended.**  The collections of
`run_once` calls are not among them. -/
theorem scheduled_runs_spaced (hn : u.config.type = lit "Networker") {now : T} {wall : Instant}
    {xs : List (CollectorState τ ρ T × SchedulerEvent τ ρ T)}
    (h : Trace (SchedulerStep u) (.initial now wall) xs s') : ∀ m ∈ visited xs s',
      (m.spans.Pairwise fun later earlier => ∃ f, earlier.finish = some f ∧ f + u.spacing ≤ later.start) ∧
      ∀ x ∈ m.spans, ∀ f, x.finish = some f → x.start ≤ f := by
  intro m hm
  have hboth := h.invariant (P := fun m => Excludes m.lock m.phase ∧ Spaced u m)
    (fun _ _ _ hp hstep => ⟨hstep.excludes hp.1, hstep.spaced hn hp.1 hp.2⟩) ⟨Excludes.start, Spaced.initial now wall⟩ m hm
  exact ⟨hboth.2.apart, fun x hx f hf => (hboth.2.ended x hx f hf).1⟩

end Steps

section Sample

attribute [local instance] Unicode.ascii

/-- Two runs: the second sleeps until the spacing is over. -/
theorem scheduled_runs_spaced_twice : ∃ s : CollectorState CollectionClass Unit Int,
    s.spans.map Span.start = [30, 0] ∧
      s.spans.Pairwise fun later earlier => ∃ f, earlier.finish = some f ∧ f + coreSetup.spacing ≤ later.start := by
  have h0 : Trace (SchedulerStep coreSetup) (.initial 0 unspelledAt : CollectorState CollectionClass Unit Int) [] _ := .start
  have h1 := h0.next (.acquire (t := .backups) rfl (by decide) (by decide))
  have h2 := h1.next (.abortCollect (t := .backups) rfl)
  have h3 := h2.next (.acquire (t := .inventory) rfl (by decide) (by decide))
  have h4 := h3.next (.tick (by decide : (0 : Int) ≤ 30) (le_refl unspelledAt.us))
  have h5 := h4.next (.cooled (t := .inventory) rfl (by decide))
  exact ⟨_, rfl, (scheduled_runs_spaced rfl h5 _ (self_mem_visited _ _)).1⟩

end Sample

end BackupCollector
