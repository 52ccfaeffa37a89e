/-
# The selected copy

`select_job` takes the greatest copy of a pool by the text of its observation and by its status.
Copies of one job are reported again and again while it runs, and what is known of an execution is
what the latest of them says; a terminal one wins over even a later running one.

That the comparison is of TEXTS is where this could go wrong.  Texts of instants compare as the
instants do, microseconds or not, since `isoformat` writes its parts from the largest to the
smallest and a text without a fraction is below the same text with one; and a missing observation
is the empty text, below all others (`observedText_lt_iff`).  So the selected copy is a latest one,
a missing observation counting as earliest.

Which of several equal copies it is depends on their order; what it says of observation and status
does not (`selected_perm`).  The conflicts that a selection reports are those between ALL copies,
and three iff lemmas say which they are.
-/
import BackupCollector.Lookups.Reasons
import BackupCollector.Py.TextOrder

namespace BackupCollector

open Py

/-! ## 1. The order of a selection

Observations in the order of time against their texts in the order of texts. -/

/-- An observation is strictly earlier than another; a missing one is earliest. -/
def observedBefore : Option Instant → Option Instant → Prop
  | some a, some b => a < b
  | none, some _ => True
  | _, none => False

/-- The text an observation is ordered by. -/
def observedText (t : Option Instant) : Str := (t.map Instant.isoformat).getD []

/-- Observations are ordered as their texts are. -/
theorem observedText_lt_iff {a b : Option Instant} : observedText a < observedText b ↔ observedBefore a b := by
  cases a with
  | none =>
    cases b with
    | none => simp [observedText, observedBefore]
    | some b =>
      obtain ⟨c, s, hs⟩ := List.exists_cons_of_ne_nil (isoformat_ne_nil b)
      simp [observedText, observedBefore, hs]
  | some a =>
    cases b with
    | none => simp [observedText, observedBefore]
    | some b => exact Instant.isoformat_lt_iff

theorem observedText_injective : Function.Injective observedText := by
  intro a b h
  cases a with
  | none =>
    cases b with
    | none => rfl
    | some b => exact absurd h.symm (isoformat_ne_nil b)
  | some a =>
    cases b with
    | none => exact absurd h (isoformat_ne_nil a)
    | some b => exact congrArg some (Instant.isoformat_injective h)

theorem selectionKey_eq (j : Job) : selectionKey j = [observedText j.observedAt, j.status] := rfl

theorem selectionKey_lt {a b : Job} (h : observedBefore a.observedAt b.observedAt) :
    selectionKey a < selectionKey b := by
  rw [selectionKey_eq, selectionKey_eq]
  exact List.cons_lt_cons_iff.mpr (Or.inl (observedText_lt_iff.mpr h))

theorem selectionKey_inj {a b : Job} (h : selectionKey a = selectionKey b) :
    (a.observedAt, a.status) = (b.observedAt, b.status) := by
  rw [selectionKey_eq, selectionKey_eq] at h
  obtain ⟨hobs, hstatus⟩ := List.cons_eq_cons.mp h
  rw [observedText_injective hobs, (List.cons_eq_cons.mp hstatus).1]

/-! ## 2. The pool

The terminal copies when there are any.  The greatest of a pool is the first of the greatest. -/

/-- The terminal copies if there are any, else all copies. -/
theorem mem_selectionPool {jobs : List Job} {j : Job} :
    j ∈ selectionPool jobs ↔ j ∈ jobs ∧ ((∃ t ∈ jobs, t.isTerminal = true) → j.isTerminal = true) := by
  unfold selectionPool
  by_cases hempty : (jobs.filter Job.isTerminal).isEmpty = true
  · rw [if_pos hempty]
    have hno : ¬ ∃ t ∈ jobs, t.isTerminal = true := by
      rintro ⟨t, ht, hterm⟩
      have hmem : t ∈ jobs.filter Job.isTerminal := List.mem_filter.mpr ⟨ht, hterm⟩
      rw [List.isEmpty_iff.mp hempty] at hmem
      cases hmem
    simp [hno]
  · rw [if_neg hempty]
    obtain ⟨t, ht⟩ := List.exists_mem_of_ne_nil _ (fun h => hempty (List.isEmpty_iff.mpr h))
    have hsome : ∃ t ∈ jobs, t.isTerminal = true := ⟨t, List.mem_filter.mp ht⟩
    simp [hsome]

theorem maxBy_key_perm {α κ : Type} [LinearOrder κ] {key : α → κ} {xs ys : List α} {a b : α}
    (hmem : ∀ c, c ∈ xs ↔ c ∈ ys) (ha : maxBy key xs = some a) (hb : maxBy key ys = some b) : key a = key b := by
  obtain ⟨hax, hamax⟩ := maxBy_spec ha
  obtain ⟨hby, hbmax⟩ := maxBy_spec hb
  exact le_antisymm (hbmax a ((hmem a).mp hax)) (hamax b ((hmem b).mpr hby))

theorem selectJob_fst (jobs : List Job) : (selectJob jobs).1 = maxBy selectionKey (selectionPool jobs) := by
  unfold selectJob
  split <;> simp_all

/-- Every copy of the pool was observed no later than the selected one. -/
theorem selected_latest {jobs : List Job} {job : Job} (h : (selectJob jobs).1 = some job) :
    job ∈ selectionPool jobs ∧ ∀ j ∈ selectionPool jobs, ¬ observedBefore job.observedAt j.observedAt := by
  rw [selectJob_fst] at h
  obtain ⟨hmem, hmax⟩ := maxBy_spec h
  exact ⟨hmem, fun j hj hbefore => not_lt.mpr (hmax j hj) (selectionKey_lt hbefore)⟩

/-- The selections from two orders of the same copies say the same. -/
theorem selected_perm {jobs jobs' : List Job} {job job' : Job} (hmem : ∀ j, j ∈ jobs ↔ j ∈ jobs')
    (h : (selectJob jobs).1 = some job) (h' : (selectJob jobs').1 = some job') :
    (job.observedAt, job.status) = (job'.observedAt, job'.status) := by
  rw [selectJob_fst] at h h'
  refine selectionKey_inj (maxBy_key_perm (fun j => ?_) h h')
  rw [mem_selectionPool, mem_selectionPool]
  simp [hmem]

/-! ## 3. The conflicts of the copies

Each of the three checks compares what the copies say of one thing. -/

/-- A conflict is reported by one of the three checks. -/
theorem mem_copyConflicts {jobs : List Job} {r : Str} :
    r ∈ copyConflicts jobs ↔
      ((disagree Job.start jobs || disagree Job.kind jobs) = true ∧ r = lit "job_id_reuse_or_execution_conflict") ∨
      (disagree (fun j => (j.parent, j.root)) jobs = true ∧ r = lit "job_hierarchy_conflict") ∨
      (disagree (fun j => (j.status, j.finish)) (jobs.filter Job.isTerminal) = true ∧
        r = lit "terminal_state_conflict") := by
  have hite : ∀ (b : Bool) (name : String),
      r ∈ (if b = true then {lit name} else ∅ : Finset Str) ↔ b = true ∧ r = lit name := by
    intro b name
    cases b <;> simp
  simp only [copyConflicts, Finset.mem_union, hite, or_assoc]

section Reported

variable {jobs : List Job} {job : Job} (h : (selectJob jobs).1 = some job)

include h

theorem mem_reasons {r : Str} (hr : r ≠ lit "invalid_job_time_or_status") :
    r ∈ (selectJob jobs).2 ↔ r ∈ copyConflicts jobs := by
  rw [selectJob_some_snd h, Finset.mem_union]
  have hno : r ∉ (if invalidTimes job then {lit "invalid_job_time_or_status"} else ∅ : Finset Str) := by
    split <;> simp [hr]
  simp [hno]

theorem execution_conflict_iff : lit "job_id_reuse_or_execution_conflict" ∈ (selectJob jobs).2 ↔
    ∃ a ∈ jobs, ∃ b ∈ jobs, a.start ≠ b.start ∨ a.kind ≠ b.kind := by
  rw [mem_reasons h (by decide), mem_copyConflicts, Bool.or_eq_true, disagree_iff, disagree_iff]
  constructor
  · rintro (⟨⟨a, ha, b, hb, hab⟩ | ⟨a, ha, b, hb, hab⟩, -⟩ | ⟨-, hr⟩ | ⟨-, hr⟩)
    · exact ⟨a, ha, b, hb, Or.inl hab⟩
    · exact ⟨a, ha, b, hb, Or.inr hab⟩
    · exact absurd hr (by decide)
    · exact absurd hr (by decide)
  · rintro ⟨a, ha, b, hb, hab | hab⟩
    · exact Or.inl ⟨Or.inl ⟨a, ha, b, hb, hab⟩, rfl⟩
    · exact Or.inl ⟨Or.inr ⟨a, ha, b, hb, hab⟩, rfl⟩

theorem hierarchy_conflict_iff : lit "job_hierarchy_conflict" ∈ (selectJob jobs).2 ↔
    ∃ a ∈ jobs, ∃ b ∈ jobs, a.parent ≠ b.parent ∨ a.root ≠ b.root := by
  rw [mem_reasons h (by decide), mem_copyConflicts, disagree_iff]
  constructor
  · rintro (⟨-, hr⟩ | ⟨⟨a, ha, b, hb, hab⟩, -⟩ | ⟨-, hr⟩)
    · exact absurd hr (by decide)
    · exact ⟨a, ha, b, hb, by rwa [Ne, Prod.mk.injEq, not_and_or] at hab⟩
    · exact absurd hr (by decide)
  · rintro ⟨a, ha, b, hb, hab⟩
    exact Or.inr (Or.inl ⟨⟨a, ha, b, hb, by rwa [Ne, Prod.mk.injEq, not_and_or]⟩, rfl⟩)

theorem terminal_conflict_iff : lit "terminal_state_conflict" ∈ (selectJob jobs).2 ↔
    ∃ a ∈ jobs, ∃ b ∈ jobs, a.isTerminal = true ∧ b.isTerminal = true ∧
      (a.status ≠ b.status ∨ a.finish ≠ b.finish) := by
  rw [mem_reasons h (by decide), mem_copyConflicts, disagree_iff (f := fun j => (j.status, j.finish))]
  constructor
  · rintro (⟨-, hr⟩ | ⟨-, hr⟩ | ⟨⟨a, ha, b, hb, hab⟩, -⟩)
    · exact absurd hr (by decide)
    · exact absurd hr (by decide)
    · obtain ⟨ha, hat⟩ := List.mem_filter.mp ha
      obtain ⟨hb, hbt⟩ := List.mem_filter.mp hb
      exact ⟨a, ha, b, hb, hat, hbt, by rwa [Ne, Prod.mk.injEq, not_and_or] at hab⟩
  · rintro ⟨a, ha, b, hb, hat, hbt, hab⟩
    refine Or.inr (Or.inr ⟨⟨a, List.mem_filter.mpr ⟨ha, hat⟩, b, List.mem_filter.mpr ⟨hb, hbt⟩, ?_⟩, rfl⟩)
    rwa [Ne, Prod.mk.injEq, not_and_or]

end Reported

/-! ## 4. The selection

The parts put together, as one structure. -/

/-- What a selection promises of the copies it chooses from: where it chooses, that nothing there
is later, that the order of the copies does not matter, and which conflicts it reports. -/
structure SelectsLatest (jobs : List Job) (job : Job) : Prop where
  mem : job ∈ jobs
  terminal : (∃ t ∈ jobs, t.isTerminal = true) → job.isTerminal = true
  latest : ∀ j ∈ jobs, ((∃ t ∈ jobs, t.isTerminal = true) → j.isTerminal = true) →
    ¬ observedBefore job.observedAt j.observedAt
  order : ∀ jobs', jobs'.Perm jobs → ∃ job', (selectJob jobs').1 = some job' ∧
    (job'.observedAt, job'.status) = (job.observedAt, job.status)
  execution : lit "job_id_reuse_or_execution_conflict" ∈ (selectJob jobs).2 ↔
    ∃ a ∈ jobs, ∃ b ∈ jobs, a.start ≠ b.start ∨ a.kind ≠ b.kind
  hierarchy : lit "job_hierarchy_conflict" ∈ (selectJob jobs).2 ↔
    ∃ a ∈ jobs, ∃ b ∈ jobs, a.parent ≠ b.parent ∨ a.root ≠ b.root
  conclusion : lit "terminal_state_conflict" ∈ (selectJob jobs).2 ↔
    ∃ a ∈ jobs, ∃ b ∈ jobs, a.isTerminal = true ∧ b.isTerminal = true ∧
      (a.status ≠ b.status ∨ a.finish ≠ b.finish)

/-- **A selection takes the latest admissible copy and reports exactly what copies disagree in.**
There is at least one copy; of none nothing is selected. -/
theorem selectJob_latest {jobs : List Job} (hne : jobs ≠ []) :
    ∃ job, (selectJob jobs).1 = some job ∧ SelectsLatest jobs job := by
  obtain ⟨job, h⟩ := exists_selected hne
  obtain ⟨hmem, hlatest⟩ := selected_latest h
  obtain ⟨hjob, hterminal⟩ := mem_selectionPool.mp hmem
  refine ⟨job, h, hjob, hterminal, ?_, ?_, execution_conflict_iff h, hierarchy_conflict_iff h,
    terminal_conflict_iff h⟩
  · intro j hj hpool
    exact hlatest j (mem_selectionPool.mpr ⟨hj, hpool⟩)
  · intro jobs' hperm
    have hne' : jobs' ≠ [] := by
      rintro rfl
      exact hne hperm.nil_eq.symm
    obtain ⟨job', h'⟩ := exists_selected hne'
    exact ⟨job', h', selected_perm (fun j => hperm.mem_iff) h' h⟩

/-- A copy that says nothing but its status and when it was observed. -/
def bareCopy (status : Str) (observedAt : Option Instant) : Job :=
  { source := ⟨"core", core_known⟩, identity := "1", kind := actionType, parent := none, root := none,
    status := status, start := none, finish := none, observedAt := observedAt, reference := [] }

/-- A terminal copy without an observation beside a running one that has one. -/
theorem selectJob_latest_terminal :
    [bareCopy "success" none, bareCopy "running" (some ⟨1000000, by decide⟩)] ≠ [] ∧
      ∃ job, (selectJob [bareCopy "success" none, bareCopy "running" (some ⟨1000000, by decide⟩)]).1 = some job ∧
        SelectsLatest [bareCopy "success" none, bareCopy "running" (some ⟨1000000, by decide⟩)] job :=
  ⟨by simp, selectJob_latest (by simp)⟩

end BackupCollector
