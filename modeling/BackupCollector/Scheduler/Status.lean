/-
# The status of a collector over time

A scheduled run collects, writes and records one result with the lock held.  A `run_once` call
collects every class first, waits for the other collectors, and then writes and records them all; a
result that has waited is older than what a scheduled run has recorded in between, and replaces it.
So the status of a collector can go back in time.

The module says when it does not.  Results between their collection and their record are QUEUES,
what has been recorded and what has been written are LOGS, and the invariant is that the logs are
in order: each class is recorded in the order of collection, and so are the current documents
written.  What is shown is the head of a log, so in order means up to date (`InOrder.upToDate`).  A
step keeps the order unless it records or writes past an older result that somebody else still
holds, and that takes a call as one of the two, since tasks hold results only with the lock.

`status_never_goes_back` is about every run in which nobody is overtaken in this way.  It is a
sufficient condition: a result that is held may be lost before it is recorded, by a cancellation or
by a write that fails, and then overtaking it did no harm.

The collections are of one collector.  What `write_many` does to the store beyond the current
document is in the modules about the writer.
-/
import BackupCollector.Scheduler.Overlap
import BackupCollector.Py.Runs

namespace BackupCollector

open Py

variable {τ ρ T : Type}

/-! ## 1. Queues and logs

Queues of results, for tasks and for calls, in the order in which they will be recorded. -/

def Phase.results : Phase T → List CollectionResult
  | .delivering d => d.results
  | _ => []

def Phase.unwritten : Phase T → List CollectionResult
  | .delivering d => d.unwritten
  | _ => []

def CallPhase.results : CallPhase → List CollectionResult
  | .idle => []
  | .collecting done _ _ => done
  | .gathered results => results
  | .delivering d => d.results

def CallPhase.unwritten : CallPhase → List CollectionResult
  | .delivering d => d.unwritten
  | p => p.results

@[simp] theorem CallPhase.next_results (done : List CollectionResult) (rest : List CollectionClass) :
    (CallPhase.next done rest).results = done := by
  cases rest <;> rfl

@[simp] theorem CallPhase.next_unwritten (done : List CollectionResult) (rest : List CollectionClass) :
    (CallPhase.next done rest).unwritten = done := by
  cases rest <;> rfl

namespace CollectorState

/-- The results a task or a call has collected and not recorded. -/
def unrecorded (s : CollectorState τ ρ T) : τ ⊕ ρ → List CollectionResult :=
  Sum.elim (Phase.results ∘ s.phase) (CallPhase.results ∘ s.calls)

/-- The results a task or a call has collected and not written. -/
def unwritten (s : CollectorState τ ρ T) : τ ⊕ ρ → List CollectionResult :=
  Sum.elim (Phase.unwritten ∘ s.phase) (CallPhase.unwritten ∘ s.calls)

/-- What `last_results_by_class` and the current document show is the newest of what was recorded
and written. -/
structure UpToDate (s : CollectorState τ ρ T) : Prop where
  recorded : ∀ x ∈ s.recorded, (Dict.get? s.lastResultsByClass x.collectionClass).isSome = true
  entry : ∀ k e, Dict.get? s.lastResultsByClass k = some e → ∃ r ∈ s.recorded, r.collectionClass = k ∧
    e = statusResult r ∧ ∀ x ∈ s.recorded, x.collectionClass = k → x.collectedAt ≤ e.collectedAt
  written : ∀ x ∈ s.written, s.current.isSome = true
  current : ∀ c, s.current = some c → c ∈ s.written ∧ refreshesCurrent c.collectionClass = true ∧
    ∀ x ∈ s.written, x.collectedAt ≤ c.collectedAt

/-! ## 2. What is shown is the head of the log

The head of each log is what the program shows. -/

/-- The entry of a class is the last result recorded of it, the current document the last one
written. -/
structure ShowsLast (s : CollectorState τ ρ T) : Prop where
  entry : ∀ k, Dict.get? s.lastResultsByClass k = (s.recorded.find? fun r => decide (r.collectionClass = k)).map statusResult
  current : s.current = s.written.head?
  written : ∀ x ∈ s.written, refreshesCurrent x.collectionClass = true

namespace ShowsLast

variable {s : CollectorState τ ρ T}

theorem congr (h : ShowsLast s) {s' : CollectorState τ ρ T} (hentries : s'.lastResultsByClass = s.lastResultsByClass)
    (hrecorded : s'.recorded = s.recorded) (hcurrent : s'.current = s.current) (hwritten : s'.written = s.written) :
    ShowsLast s' := by
  obtain ⟨hentry, hlast, hrefresh⟩ := h
  rw [← hentries, ← hrecorded] at hentry
  rw [← hcurrent, ← hwritten] at hlast
  rw [← hwritten] at hrefresh
  exact ⟨hentry, hlast, hrefresh⟩

theorem recordResult (h : ShowsLast s) (r : CollectionResult) : ShowsLast (s.recordResult r) where
  entry k := by
    show Dict.get? (Dict.set s.lastResultsByClass r.collectionClass (statusResult r)) k =
      ((r :: s.recorded).find? fun r => decide (r.collectionClass = k)).map statusResult
    rw [Dict.get?_set, List.find?_cons]
    by_cases hk : r.collectionClass = k
    · rw [if_pos hk, decide_eq_true hk]
      rfl
    · rw [if_neg hk, decide_eq_false hk]
      exact h.entry k
  current := h.current
  written := h.written

theorem recordResults (results : List CollectionResult) : ∀ s : CollectorState τ ρ T, ShowsLast s →
    ShowsLast (s.recordResults results) := by
  induction results with
  | nil => exact fun _ h => h
  | cons r rest ih => exact fun s h => ih (s.recordResult r) (h.recordResult r)

theorem writeResult (h : ShowsLast s) (r : CollectionResult) (landed : Bool) : ShowsLast (s.writeResult r landed) := by
  unfold CollectorState.writeResult
  split
  · rename_i hlanded
    have hrefresh := (Bool.and_eq_true_iff.mp hlanded).2
    refine ⟨h.entry, rfl, fun x hx => ?_⟩
    rcases List.mem_cons.mp hx with rfl | hx
    · exact hrefresh
    · exact h.written x hx
  · exact h

end ShowsLast

/-! ## 3. The logs are in order

Kept by steps that drop results, collect one, write one, or record some. -/

/-- When a result was collected, in microseconds. -/
def stamp (r : CollectionResult) : Nat := r.collectedAt.us

/-- Each class is recorded in the order of collection, and so are the current documents written. -/
structure InOrder (s : CollectorState τ ρ T) : Prop where
  recorded : FedInOrder (fun q x => q.collectionClass = x.collectionClass) stamp s.wall.us s.unrecorded s.recorded
  written : FedInOrder (fun q _ => refreshesCurrent q.collectionClass = true) stamp s.wall.us s.unwritten s.written

/-- In order, what is shown last is the newest. -/
theorem InOrder.upToDate {s : CollectorState τ ρ T} (h : InOrder s) (hlast : ShowsLast s) : UpToDate s where
  recorded x hx := by
    rw [hlast.entry, Option.isSome_map, List.find?_isSome]
    exact ⟨x, hx, decide_eq_true rfl⟩
  entry k e he := by
    rw [hlast.entry, Option.map_eq_some_iff] at he
    obtain ⟨r, hr, rfl⟩ := he
    have hkind := List.find?_some hr
    have hclass : r.collectionClass = k := of_decide_eq_true hkind
    refine ⟨r, List.mem_of_find?_eq_some hr, hclass, rfl, fun x hx hxk => ?_⟩
    rcases newest_of_find? h.recorded.sorted hr hx (decide_eq_true hxk) with rfl | hsame
    · exact le_refl x.collectedAt.us
    · exact hsame (hclass.trans hxk.symm)
  written x hx := by
    rw [hlast.current]
    cases hw : s.written with
    | nil =>
      rw [hw] at hx
      cases hx
    | cons y rest => rfl
  current c hc := by
    rw [hlast.current] at hc
    obtain ⟨rest, hrest⟩ : ∃ rest, s.written = c :: rest := List.head?_eq_some_iff.mp hc
    have hmem : c ∈ s.written := by
      rw [hrest]
      exact List.mem_cons_self
    refine ⟨hmem, hlast.written c hmem, fun x hx => ?_⟩
    have hsorted := h.written.sorted
    rw [hrest] at hsorted hx
    rcases List.mem_cons.mp hx with rfl | hx
    · exact le_refl x.collectedAt.us
    · exact List.rel_of_pairwise_cons hsorted hx (hlast.written c hmem)

section Moves

variable {s s' : CollectorState τ ρ T} [DecidableEq τ] [DecidableEq ρ]

/-- A task that moves changes its own queues only. -/
theorem queues_task {t : τ} {p : Phase T} (hphase : s'.phase = Function.update s.phase t p) (hcalls : s'.calls = s.calls) :
    s'.unrecorded = Function.update s.unrecorded (.inl t) p.results ∧
      s'.unwritten = Function.update s.unwritten (.inl t) p.unwritten := by
  unfold unrecorded unwritten
  rw [hphase, hcalls, Sum.update_elim_inl, Sum.update_elim_inl, Function.comp_update, Function.comp_update]
  exact ⟨rfl, rfl⟩

omit [DecidableEq τ] [DecidableEq ρ] in
theorem writeResult_queues (s : CollectorState τ ρ T) (r : CollectionResult) (landed : Bool) :
    (s.writeResult r landed).unrecorded = s.unrecorded ∧ (s.writeResult r landed).unwritten = s.unwritten :=
  ⟨writeResult_frame unrecorded (fun _ _ _ => rfl) s r landed, writeResult_frame unwritten (fun _ _ _ => rfl) s r landed⟩

omit [DecidableEq τ] [DecidableEq ρ] in
theorem recordResults_queues (s : CollectorState τ ρ T) (results : List CollectionResult) :
    (s.recordResults results).unrecorded = s.unrecorded ∧ (s.recordResults results).unwritten = s.unwritten :=
  ⟨recordResults_frame unrecorded (fun _ _ => rfl) results s, recordResults_frame unwritten (fun _ _ => rfl) results s⟩

/-- A call that moves changes its own queues only. -/
theorem queues_call {r : ρ} {p : CallPhase} (hphase : s'.phase = s.phase) (hcalls : s'.calls = Function.update s.calls r p) :
    s'.unrecorded = Function.update s.unrecorded (.inr r) p.results ∧
      s'.unwritten = Function.update s.unwritten (.inr r) p.unwritten := by
  unfold unrecorded unwritten
  rw [hphase, hcalls, Sum.update_elim_inr, Sum.update_elim_inr, Function.comp_update, Function.comp_update]
  exact ⟨rfl, rfl⟩

/-- A task or call that drops results, or none, leaves the logs in order. -/
theorem InOrder.shrink (h : InOrder s) {a : τ ⊕ ρ} {results unwritten : List CollectionResult}
    (hqueues : s'.unrecorded = Function.update s.unrecorded a results ∧ s'.unwritten = Function.update s.unwritten a unwritten)
    (hresults : results.Sublist (s.unrecorded a)) (hunwritten : unwritten.Sublist (s.unwritten a))
    (hwall : s'.wall = s.wall) (hrecorded : s'.recorded = s.recorded) (hwritten : s'.written = s.written) : InOrder s' := by
  constructor
  · rw [hqueues.1, hwall, hrecorded]
    exact h.recorded.shrink hresults
  · rw [hqueues.2, hwall, hwritten]
    exact h.written.shrink hunwritten

/-- A task or call that collects a result now leaves the logs in order. -/
theorem InOrder.append (h : InOrder s) {a : τ ⊕ ρ} {r : CollectionResult} (hr : r.collectedAt = s.wall)
    (hqueues : s'.unrecorded = Function.update s.unrecorded a (s.unrecorded a ++ [r]) ∧
      s'.unwritten = Function.update s.unwritten a (s.unwritten a ++ [r]))
    (hwall : s'.wall = s.wall) (hrecorded : s'.recorded = s.recorded) (hwritten : s'.written = s.written) : InOrder s' := by
  have hstamp : stamp r = s.wall.us := congrArg Instant.us hr
  constructor
  · rw [hqueues.1, hwall, hrecorded]
    exact h.recorded.append hstamp
  · rw [hqueues.2, hwall, hwritten]
    exact h.written.append hstamp

/-- A result is written, or lost, while no other queue holds an older one that will be written. -/
theorem InOrder.write (h : InOrder s) {a : τ ⊕ ρ} {r : CollectionResult} {rest : List CollectionResult} {landed : Bool}
    (ha : s.unwritten a = r :: rest)
    (hothers : refreshesCurrent r.collectionClass = true → ∀ b, b ≠ a → ∀ q ∈ s.unwritten b,
      refreshesCurrent q.collectionClass = true → stamp r ≤ stamp q)
    (hqueues : s'.unrecorded = Function.update s.unrecorded a (s.unrecorded a) ∧ s'.unwritten = Function.update s.unwritten a rest)
    (hwall : s'.wall = s.wall) (hrecorded : s'.recorded = s.recorded)
    (hwritten : s'.written = (s.writeResult r landed).written) : InOrder s' := by
  have hshrunk : rest.Sublist (s.unwritten a) := by
    rw [ha]
    exact List.sublist_cons_self r rest
  constructor
  · rw [hqueues.1, hwall, hrecorded]
    exact h.recorded.shrink (List.Sublist.refl _)
  · rw [hqueues.2, hwall, hwritten]
    unfold writeResult
    split
    · rename_i hlanded
      exact h.written.put ha (hothers (Bool.and_eq_true_iff.mp hlanded).2)
    · exact h.written.shrink hshrunk

/-- Results are recorded while no other queue holds an older one of the same class. -/
theorem InOrder.record (h : InOrder s) {a : τ ⊕ ρ} {results : List CollectionResult} (ha : s.unrecorded a = results)
    (hothers : ∀ p ∈ results, ∀ b, b ≠ a → ∀ q ∈ s.unrecorded b, q.collectionClass = p.collectionClass → stamp p ≤ stamp q)
    (hqueues : s'.unrecorded = Function.update s.unrecorded a [] ∧ s'.unwritten = Function.update s.unwritten a [])
    (hwall : s'.wall = s.wall) (hrecorded : s'.recorded = results.reverse ++ s.recorded) (hwritten : s'.written = s.written) :
    InOrder s' := by
  constructor
  · rw [hqueues.1, hwall, hrecorded]
    exact FedInOrder.putAll results s.recorded s.unrecorded h.recorded ha hothers
  · rw [hqueues.2, hwall, hwritten]
    exact h.written.shrink (List.nil_sublist _)

end Moves

theorem recordResults_recorded (results : List CollectionResult) : ∀ s : CollectorState τ ρ T,
    (s.recordResults results).recorded = results.reverse ++ s.recorded := by
  induction results with
  | nil => exact fun _ => rfl
  | cons r rest ih =>
    intro s
    rw [List.reverse_cons, List.append_assoc]
    exact ih (s.recordResult r)

/-! ## 4. Who overtakes whom

Overtaking, as a condition on a step and the state before it. -/

/-- One of the two is a `run_once` call.  Two tasks do not overtake each other, since one of them
has the lock. -/
def ACall (a b : τ ⊕ ρ) : Prop := ¬ (a.isLeft = true ∧ b.isLeft = true)

/-- The task or call records a result while another one holds an older result of the class that
it has still to record, and one of the two is a `run_once` call. -/
def RecordsPast (s : CollectorState τ ρ T) (a : τ ⊕ ρ) : Prop :=
  ∃ p ∈ s.unrecorded a, ∃ b, b ≠ a ∧ ACall a b ∧
    ∃ q ∈ s.unrecorded b, q.collectionClass = p.collectionClass ∧ q.collectedAt < p.collectedAt

/-- The task or call writes a current document while another one holds an older result that it has
still to write one of, and one of the two is a `run_once` call. -/
def WritesPast (s : CollectorState τ ρ T) (a : τ ⊕ ρ) : Prop :=
  ∃ p rest, s.unwritten a = p :: rest ∧ refreshesCurrent p.collectionClass = true ∧ ∃ b, b ≠ a ∧ ACall a b ∧
    ∃ q ∈ s.unwritten b, refreshesCurrent q.collectionClass = true ∧ q.collectedAt < p.collectedAt

/-- The event records or writes past an older result. -/
def Overtakes (s : CollectorState τ ρ T) : SchedulerEvent τ ρ T → Prop
  | .record t => s.RecordsPast (.inl t)
  | .write t => s.WritesPast (.inl t)
  | .callRecord r => s.RecordsPast (.inr r)
  | .callWrite r => s.WritesPast (.inr r)
  | _ => False

/-- Without a call, nobody is overtaken. -/
theorem not_overtakes_of_idle {s : CollectorState τ ρ T} (h : ∀ r, s.calls r = .idle) (e : SchedulerEvent τ ρ T) :
    ¬ s.Overtakes e := by
  have hnone : ∀ r, s.unrecorded (.inr r) = [] ∧ s.unwritten (.inr r) = [] := by
    intro r
    unfold unrecorded unwritten
    simp only [Sum.elim_inr, Function.comp, h r]
    exact ⟨rfl, rfl⟩
  have hrecords : ∀ a, ¬ s.RecordsPast a := by
    rintro a ⟨p, hp, b, -, hcall, q, hq, -⟩
    cases a with
    | inr r =>
      rw [(hnone r).1] at hp
      cases hp
    | inl t =>
      cases b with
      | inl t' => exact hcall ⟨rfl, rfl⟩
      | inr r =>
        rw [(hnone r).1] at hq
        cases hq
  have hwrites : ∀ a, ¬ s.WritesPast a := by
    rintro a ⟨p, rest, hp, -, b, -, hcall, q, hq, -⟩
    cases a with
    | inr r =>
      rw [(hnone r).2] at hp
      cases hp
    | inl t =>
      cases b with
      | inl t' => exact hcall ⟨rfl, rfl⟩
      | inr r =>
        rw [(hnone r).2] at hq
        cases hq
  cases e with
  | write t => exact hwrites _
  | record t => exact hrecords _
  | callWrite r => exact hwrites _
  | callRecord r => exact hrecords _
  | _ => exact fun hfalse => hfalse

theorem queues_of_not_holding {s : CollectorState τ ρ T} {t : τ} (h : ¬ (s.phase t).Holding) :
    s.unrecorded (.inl t) = [] ∧ s.unwritten (.inl t) = [] := by
  unfold unrecorded unwritten
  simp only [Sum.elim_inl, Function.comp]
  cases hp : s.phase t with
  | delivering d =>
    rw [hp] at h
    exact absurd trivial h
  | _ => exact ⟨rfl, rfl⟩

/-- A task with a result has the lock, so no other task has one: only a call can hold an older one. -/
theorem older_of_call {s : CollectorState τ ρ T} (hlock : Excludes s.lock s.phase) {a b : τ ⊕ ρ} (hne : b ≠ a)
    (ha : s.unrecorded a ≠ [] ∨ s.unwritten a ≠ []) (hb : s.unrecorded b ≠ [] ∨ s.unwritten b ≠ []) : ACall a b := by
  rintro ⟨hleft, hleft'⟩
  cases a with
  | inr r => cases hleft
  | inl t =>
    cases b with
    | inr r => cases hleft'
    | inl t' =>
      have hholding : ∀ x, (s.unrecorded (.inl x) ≠ [] ∨ s.unwritten (.inl x) ≠ []) → (s.phase x).Holding := by
        intro x hx
        by_contra hnot
        obtain ⟨hresults, hunwritten⟩ := queues_of_not_holding hnot
        rcases hx with hx | hx
        · exact hx hresults
        · exact hx hunwritten
      exact hne (congrArg Sum.inl (hlock.one t' t (hholding t' hb) (hholding t ha)))

/-- Without an overtaken result, what is recorded is not newer than what others have still to record. -/
theorem record_oldest {s : CollectorState τ ρ T} (hlock : Excludes s.lock s.phase) {a : τ ⊕ ρ} (hmet : ¬ s.RecordsPast a) :
    ∀ p ∈ s.unrecorded a, ∀ b, b ≠ a → ∀ q ∈ s.unrecorded b, q.collectionClass = p.collectionClass → stamp p ≤ stamp q := by
  intro p hp b hb q hq hclass
  by_contra hlt
  refine hmet ⟨p, hp, b, hb, older_of_call hlock hb (.inl ?_) (.inl ?_), q, hq, hclass, not_le.mp hlt⟩
  · exact List.ne_nil_of_mem hp
  · exact List.ne_nil_of_mem hq

/-- Without an overtaken result, what is written is not newer than what others have still to write. -/
theorem write_oldest {s : CollectorState τ ρ T} (hlock : Excludes s.lock s.phase) {a : τ ⊕ ρ} {r : CollectionResult}
    {rest : List CollectionResult} (ha : s.unwritten a = r :: rest) (hmet : ¬ s.WritesPast a) :
    refreshesCurrent r.collectionClass = true → ∀ b, b ≠ a → ∀ q ∈ s.unwritten b,
      refreshesCurrent q.collectionClass = true → stamp r ≤ stamp q := by
  intro hr b hb q hq hrefresh
  by_contra hlt
  refine hmet ⟨r, rest, ha, hr, b, hb, older_of_call hlock hb (.inr ?_) (.inr ?_), q, hq, hrefresh, not_le.mp hlt⟩
  · rw [ha]
    exact List.cons_ne_nil r rest
  · exact List.ne_nil_of_mem hq

end CollectorState

/-! ## 5. The steps

Each step of the scheduler, and then all runs. -/

section Steps

variable [DecidableEq τ] [DecidableEq ρ] [AddCommGroup T] [LinearOrder T] {u : CollectorSetup τ T}
  {s s' : CollectorState τ ρ T} {e : SchedulerEvent τ ρ T}

namespace CollectorState

omit [DecidableEq ρ] in
theorem enter_logs (t : τ) : (s.enter u t).wall = s.wall ∧ (s.enter u t).recorded = s.recorded ∧
    (s.enter u t).written = s.written ∧ (s.enter u t).lastResultsByClass = s.lastResultsByClass ∧
    (s.enter u t).current = s.current := by
  unfold enter
  split
  · exact ⟨rfl, rfl, rfl, rfl, rfl⟩
  · exact ⟨rfl, rfl, rfl, rfl, rfl⟩

omit [DecidableEq τ] [DecidableEq ρ] in
theorem entered_queues (u : CollectorSetup τ T) (s : CollectorState τ ρ T) :
    (s.entered u).results = [] ∧ (s.entered u).unwritten = [] := by
  rcases s.entered_cases u with ⟨_, _, heq⟩ | ⟨_, heq⟩
  · rw [heq]
    exact ⟨rfl, rfl⟩
  · rw [heq]
    exact ⟨rfl, rfl⟩

/-- A task that enters holds no result yet. -/
theorem InOrder.enter (h : InOrder s) (lock : AsyncLock τ) (t : τ) :
    InOrder (({ s with lock := lock } : CollectorState τ ρ T).enter u t) := by
  obtain ⟨hwall, hrecorded, hwritten, -, -⟩ := ({ s with lock := lock } : CollectorState τ ρ T).enter_logs (u := u) t
  obtain ⟨-, hphase⟩ := ({ s with lock := lock } : CollectorState τ ρ T).enter_tasks (u := u) t
  have hqueues := queues_task (s := s) hphase (enter_calls t)
  obtain ⟨hresults, hunwritten⟩ := ({ s with lock := lock } : CollectorState τ ρ T).entered_queues u
  refine h.shrink hqueues ?_ ?_ hwall hrecorded hwritten
  · rw [hresults]
    exact List.nil_sublist _
  · rw [hunwritten]
    exact List.nil_sublist _

end CollectorState

variable [Unicode]

/-- What is shown is the head of the logs after every step. -/
theorem SchedulerStep.showsLast (h : SchedulerStep u s e s') (hs : s.ShowsLast) : s'.ShowsLast := by
  cases h with
  | tick => exact hs.congr rfl rfl rfl rfl
  | skip => exact hs
  | @acquire t hp hc hf =>
    obtain ⟨-, hrecorded, hwritten, hentries, hcurrent⟩ :=
      ({ s with lock := s.lock.hold } : CollectorState τ ρ T).enter_logs (u := u) t
    exact hs.congr hentries hrecorded hcurrent hwritten
  | enqueue => exact hs.congr rfl rfl rfl rfl
  | @resume t hp hw =>
    obtain ⟨-, hrecorded, hwritten, hentries, hcurrent⟩ :=
      ({ s with lock := s.lock.grant t } : CollectorState τ ρ T).enter_logs (u := u) t
    exact hs.congr hentries hrecorded hcurrent hwritten
  | cancelWaiter => exact hs.congr rfl rfl rfl rfl
  | giveUp => exact hs.congr rfl rfl rfl rfl
  | cooled => exact hs.congr rfl rfl rfl rfl
  | cancelCooldown => exact hs.congr rfl rfl rfl rfl
  | collected => exact hs.congr rfl rfl rfl rfl
  | @write t r rest results hp landed => exact (hs.writeResult r landed).congr rfl rfl rfl rfl
  | @record t results hp =>
    exact (CollectorState.ShowsLast.recordResults results s hs).congr rfl rfl rfl rfl
  | abortCollect => exact hs.congr rfl rfl rfl rfl
  | abortWrite => exact hs.congr rfl rfl rfl rfl
  | call => exact hs.congr rfl rfl rfl rfl
  | callCollected => exact hs.congr rfl rfl rfl rfl
  | callGathered => exact hs.congr rfl rfl rfl rfl
  | @callWrite r x rest results hp landed => exact (hs.writeResult x landed).congr rfl rfl rfl rfl
  | @callRecord r results hp =>
    exact (CollectorState.ShowsLast.recordResults results s hs).congr rfl rfl rfl rfl
  | callAbort => exact hs.congr rfl rfl rfl rfl

open CollectorState in
/-- A step that overtakes nobody leaves the logs in order. -/
theorem SchedulerStep.inOrder (h : SchedulerStep u s e s') (hlock : Excludes s.lock s.phase) (hmet : ¬ s.Overtakes e)
    (hs : s.InOrder) : s'.InOrder := by
  cases h with
  | @tick now wall hnow hwall => exact ⟨hs.recorded.later hwall, hs.written.later hwall⟩
  | skip => exact hs
  | @acquire t hp hc hf => exact hs.enter s.lock.hold t
  | enqueue => exact hs.shrink (queues_task rfl rfl) (List.nil_sublist _) (List.nil_sublist _) rfl rfl rfl
  | @resume t hp hw => exact hs.enter (s.lock.grant t) t
  | cancelWaiter => exact ⟨hs.recorded, hs.written⟩
  | giveUp => exact hs.shrink (queues_task rfl rfl) (List.nil_sublist _) (List.nil_sublist _) rfl rfl rfl
  | cooled => exact hs.shrink (queues_task rfl rfl) (List.nil_sublist _) (List.nil_sublist _) rfl rfl rfl
  | cancelCooldown => exact hs.shrink (queues_task rfl rfl) (List.nil_sublist _) (List.nil_sublist _) rfl rfl rfl
  | @collected t outcome r hp hr =>
    have hempty : s.unrecorded (.inl t) = [] ∧ s.unwritten (.inl t) = [] := by
      unfold unrecorded unwritten
      simp only [Sum.elim_inl, Function.comp, hp]
      exact ⟨rfl, rfl⟩
    refine hs.append (a := .inl t) (collect_eq_ok _ hr).1 ?_ rfl rfl rfl
    rw [hempty.1, hempty.2]
    exact queues_task (p := .delivering (.start [r])) rfl rfl
  | @write t r rest results hp landed =>
    have hqueue : s.unwritten (.inl t) = r :: rest ∧ s.unrecorded (.inl t) = results := by
      unfold unrecorded unwritten
      simp only [Sum.elim_inl, Function.comp, hp]
      exact ⟨rfl, rfl⟩
    refine hs.write hqueue.1 (write_oldest hlock hqueue.1 hmet) ?_ (s.writeResult_wall r landed)
      (s.writeResult_recorded r landed) rfl
    rw [hqueue.2, ← (s.writeResult_queues r landed).1, ← (s.writeResult_queues r landed).2]
    exact queues_task (p := .delivering ⟨rest, results⟩) rfl rfl
  | @record t results hp =>
    have hqueue : s.unrecorded (.inl t) = results := by
      unfold unrecorded
      simp only [Sum.elim_inl, Function.comp, hp]
      rfl
    refine hs.record hqueue (by rw [← hqueue]; exact record_oldest hlock hmet) ?_ (s.recordResults_wall results)
      (recordResults_recorded results s) (s.recordResults_written results)
    rw [← (s.recordResults_queues results).1, ← (s.recordResults_queues results).2]
    exact queues_task (p := .away) rfl rfl
  | abortCollect => exact hs.shrink (queues_task rfl rfl) (List.nil_sublist _) (List.nil_sublist _) rfl rfl rfl
  | abortWrite => exact hs.shrink (queues_task rfl rfl) (List.nil_sublist _) (List.nil_sublist _) rfl rfl rfl
  | call =>
    refine hs.shrink (queues_call rfl rfl) ?_ ?_ rfl rfl rfl
    · rw [CallPhase.next_results]
      exact List.nil_sublist _
    · rw [CallPhase.next_unwritten]
      exact List.nil_sublist _
  | @callCollected r done collectionClass rest outcome x hp hr =>
    have hqueue : s.unrecorded (.inr r) = done ∧ s.unwritten (.inr r) = done := by
      unfold unrecorded unwritten
      simp only [Sum.elim_inr, Function.comp, hp]
      exact ⟨rfl, rfl⟩
    refine hs.append (a := .inr r) (collect_eq_ok _ hr).1 ?_ rfl rfl rfl
    have hphase : (s.setCall r (.next (done ++ [x]) rest)).phase = s.phase := rfl
    have hmoved := queues_call hphase rfl
    rw [CallPhase.next_results, CallPhase.next_unwritten] at hmoved
    rw [hqueue.1, hqueue.2]
    exact hmoved
  | @callGathered r results hp =>
    have hqueue : s.unrecorded (.inr r) = results ∧ s.unwritten (.inr r) = results := by
      unfold unrecorded unwritten
      simp only [Sum.elim_inr, Function.comp, hp]
      exact ⟨rfl, rfl⟩
    refine hs.shrink (queues_call rfl rfl) ?_ ?_ rfl rfl rfl
    · rw [hqueue.1]
      exact List.Sublist.refl _
    · rw [hqueue.2]
      exact List.Sublist.refl _
  | @callWrite r x rest results hp landed =>
    have hqueue : s.unwritten (.inr r) = x :: rest ∧ s.unrecorded (.inr r) = results := by
      unfold unrecorded unwritten
      simp only [Sum.elim_inr, Function.comp, hp]
      exact ⟨rfl, rfl⟩
    refine hs.write hqueue.1 (write_oldest hlock hqueue.1 hmet) ?_ (s.writeResult_wall x landed)
      (s.writeResult_recorded x landed) rfl
    rw [hqueue.2, ← (s.writeResult_queues x landed).1, ← (s.writeResult_queues x landed).2]
    exact queues_call (p := .delivering ⟨rest, results⟩) rfl rfl
  | @callRecord r results hp =>
    have hqueue : s.unrecorded (.inr r) = results := by
      unfold unrecorded
      simp only [Sum.elim_inr, Function.comp, hp]
      rfl
    refine hs.record hqueue (by rw [← hqueue]; exact record_oldest hlock hmet) ?_ (s.recordResults_wall results)
      (recordResults_recorded results s) (s.recordResults_written results)
    rw [← (s.recordResults_queues results).1, ← (s.recordResults_queues results).2]
    exact queues_call (p := .idle) rfl rfl
  | callAbort => exact hs.shrink (queues_call rfl rfl) (List.nil_sublist _) (List.nil_sublist _) rfl rfl rfl

/-- **The status of a collector never goes back in time**, in a run in which no `run_once` call
records or writes past an older result that another run holds, nor another run past that of a call.
Nothing is said of the runs in which one does. -/
theorem status_never_goes_back {now : T} {wall : Instant} {xs : List (CollectorState τ ρ T × SchedulerEvent τ ρ T)}
    (h : Trace (SchedulerStep u) (.initial now wall) xs s') (hmet : ∀ x ∈ xs, ¬ x.1.Overtakes x.2) :
    ∀ m ∈ visited xs s', m.UpToDate := by
  intro m hm
  have hboth := h.invariant_of (P := fun m => Excludes m.lock m.phase ∧ m.ShowsLast ∧ m.InOrder)
    (C := fun m e => ¬ m.Overtakes e)
    (fun _ _ _ hp hc hstep => ⟨hstep.excludes hp.1, hstep.showsLast hp.2.1, hstep.inOrder hp.1 hc hp.2.2⟩)
    ⟨Excludes.start, ⟨fun _ => rfl, rfl, fun _ hx => nomatch hx⟩, ?_⟩ hmet m hm
  · exact hboth.2.2.upToDate hboth.2.1
  · have hempty : ∀ a : τ ⊕ ρ, (CollectorState.initial now wall : CollectorState τ ρ T).unrecorded a = [] ∧
        (CollectorState.initial now wall : CollectorState τ ρ T).unwritten a = [] := by
      intro a
      cases a with
      | inl t => exact ⟨rfl, rfl⟩
      | inr r => exact ⟨rfl, rfl⟩
    constructor
    · rw [show (CollectorState.initial now wall : CollectorState τ ρ T).unrecorded = fun _ => [] from
        funext fun a => (hempty a).1]
      exact FedInOrder.start _
    · rw [show (CollectorState.initial now wall : CollectorState τ ρ T).unwritten = fun _ => [] from
        funext fun a => (hempty a).2]
      exact FedInOrder.start _

end Steps

/-! ## 6. A call that waits

One call and one scheduled run, in the order that goes back. -/

section Sample

attribute [local instance] Unicode.ascii

/-- The collector of the core source, with a task for jobs only. -/
def jobsSetup : CollectorSetup CollectionClass Int :=
  { coreSetup with config := { networkerCore with schedule := .classes { jobs := some {} } } }

theorem collect_jobs (t : Instant) :
    collect jobsSetup.isFile jobsSetup.config (.ok []) t .jobs = .ok (coreResult .jobs t) := by
  have hskip : jobsSetup.config.skipReason jobsSetup.isFile = .ok none := by decide +kernel
  unfold collect
  rw [hskip]
  rfl

/-- An hour after the first instant. -/
def unspelledLater : Instant := ⟨63900003600000000, by decide⟩

/-- A scheduled run alone shows its result. -/
theorem status_never_goes_back_alone :
    ∃ s : CollectorState CollectionClass Unit Int, s.recorded = [coreResult .jobs unspelledAt] ∧ s.UpToDate := by
  have h0 : Trace (SchedulerStep jobsSetup) (.initial 0 unspelledAt : CollectorState CollectionClass Unit Int) [] _ := .start
  have h1 := h0.next (.acquire (t := .jobs) rfl (by decide) (by decide))
  have h2 := h1.next (.collected (t := .jobs) rfl (collect_jobs unspelledAt))
  have h3 := h2.next (.write (t := .jobs) rfl true)
  have h4 := h3.next (.record (t := .jobs) rfl)
  refine ⟨_, rfl, status_never_goes_back h4 (fun x hx => ?_) _ (self_mem_visited _ _)⟩
  refine CollectorState.not_overtakes_of_idle (fun r => ?_) x.2
  simp only [List.nil_append, List.mem_append, List.mem_singleton] at hx
  rcases hx with ((rfl | rfl) | rfl) | rfl
  · rfl
  · rfl
  · rfl
  · rfl

/-- A call collects jobs and waits for the other collectors; a scheduled run collects and records
jobs an hour later; the call then records its older result. -/
theorem call_records_older :
    ∃ (xs : List (CollectorState CollectionClass Unit Int × SchedulerEvent CollectionClass Unit Int))
      (s : CollectorState CollectionClass Unit Int), Trace (SchedulerStep jobsSetup) (.initial 0 unspelledAt) xs s ∧
        s.recorded = [coreResult .jobs unspelledAt, coreResult .jobs unspelledLater] ∧
        s.current = some (coreResult .jobs unspelledAt) ∧ ¬ s.UpToDate := by
  have h0 : Trace (SchedulerStep jobsSetup) (.initial 0 unspelledAt : CollectorState CollectionClass Unit Int) [] _ := .start
  have h1 := h0.next (.call (r := ()) rfl rfl)
  have h2 := h1.next (.callCollected (r := ()) rfl (collect_jobs unspelledAt))
  have h3 := h2.next (.tick (le_refl (0 : Int)) (by decide : unspelledAt ≤ unspelledLater))
  have h4 := h3.next (.acquire (t := .jobs) rfl (by decide) (by decide))
  have h5 := h4.next (.collected (t := .jobs) rfl (collect_jobs unspelledLater))
  have h6 := h5.next (.write (t := .jobs) rfl true)
  have h7 := h6.next (.record (t := .jobs) rfl)
  have h8 := h7.next (.callGathered (r := ()) rfl)
  have h9 := h8.next (.callWrite (r := ()) rfl true)
  have h10 := h9.next (.callRecord (r := ()) rfl)
  refine ⟨_, _, h10, rfl, rfl, fun h => ?_⟩
  have hnewest := (h.current (coreResult .jobs unspelledAt) rfl).2.2 (coreResult .jobs unspelledLater)
    (List.mem_cons_of_mem _ List.mem_cons_self)
  revert hnewest
  decide

end Sample

end BackupCollector
