/-
# Where a reason comes from

The reasons against an action have four origins: the ledger, the copies of its job, of its workflow
job and of the save jobs that name it, the comparison of its job with these, and its backups.  A
reason of the ledger is never one of the others, so a document that gives it has it from the
ledger; and a contradiction between copies is still one when more copies have come.

Which reasons are final depends on this division.  Reasons of the ledger are permanent by
construction.  Reasons of a comparison are not: they are read off the selected copies, and another
copy may be selected later.  In between stand the contradictions between copies, which are computed
anew each time and are permanent nevertheless, by an argument (`ConflictAt.later`).

The names of the reasons are the source's texts, in three lists without a common element; that they
are disjoint is checked by evaluation.
-/
import BackupCollector.Lookups.Build
import BackupCollector.Lookups.Fingerprints

namespace BackupCollector

open Py

/-! ## 1. The reasons of the ledger

The lists, and what a selection holds against a job. -/

/-- The reasons `add_raw` holds against a key. -/
def ledgerReasons : Finset Str :=
  {lit "backup_revision_conflict", lit "invalid_backup_evidence", lit "backup_identity_missing"}

/-- What the copies of one job can contradict each other in. -/
def conflictReasons : Finset Str :=
  {lit "job_id_reuse_or_execution_conflict", lit "job_hierarchy_conflict", lit "terminal_state_conflict"}

/-- The reasons that are neither the ledger's nor a contradiction between copies. -/
def otherReasons : Finset Str :=
  {lit "invalid_job_time_or_status", lit "workflow_type_mismatch", lit "workflow_time_conflict",
    lit "not_a_save_job", lit "source_mismatch", lit "save_parent_mismatch", lit "target_type_mismatch",
    lit "save_root_conflict", lit "save_time_conflict", lit "missing_action_job", lit "action_not_terminal",
    lit "workflow_root_unconfirmed", lit "workflow_job_missing", lit "backup_execution_time_conflict",
    lit "unattributed_input_errors", lit "partial_collection", lit "query_window_gap",
    lit "missing_observation_time", lit "missing_raw_reference", lit "suffix_rule_unreviewed",
    lit "backup_time_unconfirmed", lit "future_observation_time", lit "coverage_unverified",
    lit "no_backup_in_covered_window", lit "awaiting_backups"}

theorem ledgerReasons_fresh : ∀ r ∈ ledgerReasons, r ∉ conflictReasons ∧ r ∉ otherReasons := by
  unfold ledgerReasons conflictReasons otherReasons
  decide +kernel

theorem conflictReasons_fresh : ∀ r ∈ conflictReasons, r ∉ ledgerReasons ∧ r ∉ otherReasons := by
  unfold ledgerReasons conflictReasons otherReasons
  decide +kernel

theorem ite_subset {s t : Finset Str} {p : Prop} [Decidable p] (h : s ⊆ t) : (if p then s else ∅) ⊆ t := by
  split
  · exact h
  · exact Finset.empty_subset t

theorem copyConflicts_subset (jobs : List Job) : copyConflicts jobs ⊆ conflictReasons := by
  unfold copyConflicts
  refine Finset.union_subset (Finset.union_subset (ite_subset ?_) (ite_subset ?_)) (ite_subset ?_) <;>
    simp [conflictReasons]

/-- A contradiction between some copies is one between more of them. -/
theorem copyConflicts_mono {xs ys : List Job} (h : ∀ j ∈ xs, j ∈ ys) : copyConflicts xs ⊆ copyConflicts ys := by
  have hdis : ∀ {α : Type} [DecidableEq α] (f : Job → α) {us vs : List Job}, (∀ j ∈ us, j ∈ vs) →
      disagree f us = true → disagree f vs = true := by
    intro α _ f us vs huv hd
    obtain ⟨a, ha, b, hb, hne⟩ := disagree_iff.mp hd
    exact disagree_iff.mpr ⟨a, huv a ha, b, huv b hb, hne⟩
  have hite : ∀ {p q : Prop} [Decidable p] [Decidable q] {s : Finset Str}, (p → q) →
      (if p then s else ∅) ⊆ (if q then s else ∅) := by
    intro p q _ _ s hpq
    by_cases hp : p
    · rw [if_pos hp, if_pos (hpq hp)]
    · rw [if_neg hp]
      exact Finset.empty_subset _
  unfold copyConflicts
  refine Finset.union_subset_union (Finset.union_subset_union (hite fun hp => ?_) (hite (hdis _ h))) (hite (hdis _ ?_))
  · rw [Bool.or_eq_true] at hp ⊢
    exact hp.imp (hdis _ h) (hdis _ h)
  · intro j hj
    obtain ⟨hmem, ht⟩ := List.mem_filter.mp hj
    exact List.mem_filter.mpr ⟨h j hmem, ht⟩

/-- What a selection holds against a job: the contradictions of its copies, and its own. -/
theorem selectJob_some_snd {jobs : List Job} {j : Job} (h : (selectJob jobs).1 = some j) :
    (selectJob jobs).2 = copyConflicts jobs ∪ (if invalidTimes j then {lit "invalid_job_time_or_status"} else ∅) := by
  unfold selectJob at h ⊢
  cases hx : maxBy selectionKey (selectionPool jobs) with
  | none =>
    rw [hx] at h
    cases h
  | some j' =>
    rw [hx] at h
    obtain rfl := Option.some.inj h
    rfl

theorem selectJob_none {jobs : List Job} (h : (selectJob jobs).1 = none) :
    jobs = [] ∧ (selectJob jobs).2 = {lit "missing_action_job"} := by
  unfold selectJob at h ⊢
  cases hx : maxBy selectionKey (selectionPool jobs) with
  | none => exact ⟨selectionPool_eq_nil.mp (maxBy_eq_none.mp hx), rfl⟩
  | some j =>
    rw [hx] at h
    cases h

theorem exists_selected {jobs : List Job} (h : jobs ≠ []) : ∃ j, (selectJob jobs).1 = some j := by
  cases hs : (selectJob jobs).1 with
  | none => exact absurd (selectJob_none hs).1 h
  | some j => exact ⟨j, rfl⟩

/-! ## 2. The reasons of an execution

The checks of an execution are a chain: the action, its workflow, its saves.  A reason of the chain
comes from one link of it. -/

theorem workflowConflicts_subset (workflow action : Job) : workflowConflicts workflow action ⊆ otherReasons := by
  unfold workflowConflicts
  refine Finset.union_subset (Finset.union_subset (ite_subset ?_) (ite_subset ?_)) (ite_subset ?_) <;>
    simp [otherReasons]

theorem validateSave_subset (save action : Job) : validateSave save action ⊆ otherReasons := by
  unfold validateSave
  refine Finset.union_subset (Finset.union_subset (Finset.union_subset (Finset.union_subset (Finset.union_subset
    (Finset.union_subset (ite_subset ?_) (ite_subset ?_)) (ite_subset ?_)) (ite_subset ?_)) (ite_subset ?_))
    (ite_subset ?_)) (ite_subset ?_) <;>
    simp [otherReasons]

theorem executionCheck_none {key : ActionKey} {jobs : JobTable} (h : (selectJob (jobs.copies key)).1 = none) :
    executionCheck key jobs = (none, ∅, {lit "missing_action_job"}) := by
  have hreasons := (selectJob_none h).2
  unfold executionCheck
  cases hx : selectJob (jobs.copies key) with
  | mk action reasons =>
    rw [hx] at h hreasons
    dsimp only at h hreasons
    subst h hreasons
    rfl

theorem executionCheck_some {key : ActionKey} {jobs : JobTable} {action : Job}
    (h : (selectJob (jobs.copies key)).1 = some action) :
    executionCheck key jobs = (some action,
      (selectJob (jobs.copies key)).2 ∪ (if action.kind ≠ actionType then {lit "target_type_mismatch"} else ∅) ∪
        (workflowCheck action jobs).1 ∪ saveChecks key action jobs,
      (if action.isTerminal then ∅ else {lit "action_not_terminal"}) ∪ (workflowCheck action jobs).2) := by
  unfold executionCheck
  cases hx : selectJob (jobs.copies key) with
  | mk action' reasons =>
    rw [hx] at h
    dsimp only at h
    subst h
    rfl

/-- The copies an execution is checked with: its own, its workflow's, and those of its saves. -/
inductive CheckedWith (key : ActionKey) (jobs : JobTable) : ActionKey → Prop where
  | own : CheckedWith key jobs key
  | workflow (action : Job) (haction : (selectJob (jobs.copies key)).1 = some action) (root : Str)
      (hroot : action.root = some root) : CheckedWith key jobs (action.source, root)
  | save (k : ActionKey) (j : Job) (hj : j ∈ jobs.copies k) (hsave : j.isSaveOf key = true) : CheckedWith key jobs k

/-- A contradiction is held against an execution when the copies of one of its jobs contradict
each other. -/
def ConflictAt (key : ActionKey) (jobs : JobTable) (r : Str) : Prop :=
  jobs.copies key ≠ [] ∧ ∃ k, CheckedWith key jobs k ∧ r ∈ copyConflicts (jobs.copies k)

theorem mem_selectJob_snd {jobs : List Job} {r : Str} (hr : r ∈ (selectJob jobs).2) :
    r ∈ copyConflicts jobs ∨ r ∈ otherReasons := by
  cases hs : (selectJob jobs).1 with
  | none =>
    rw [(selectJob_none hs).2, Finset.mem_singleton] at hr
    rw [hr]
    exact Or.inr (by simp [otherReasons])
  | some j =>
    rw [selectJob_some_snd hs, Finset.mem_union] at hr
    exact hr.imp id fun h => ite_subset (t := otherReasons) (by simp [otherReasons]) h

/-- A reason of the workflow check is a contradiction of the workflow's copies or another one. -/
theorem mem_workflowCheck {action : Job} {jobs : JobTable} {r : Str}
    (hr : r ∈ (workflowCheck action jobs).1 ∨ r ∈ (workflowCheck action jobs).2) :
    (∃ root, action.root = some root ∧ r ∈ copyConflicts (jobs.copies (action.source, root))) ∨ r ∈ otherReasons := by
  unfold workflowCheck at hr
  cases hroot : action.root with
  | none =>
    rw [hroot] at hr
    rcases hr with hr | hr
    · exact absurd hr (Finset.notMem_empty r)
    · rw [Finset.mem_singleton.mp hr]
      exact Or.inr (by simp [otherReasons])
  | some root =>
    rw [hroot] at hr
    dsimp only at hr
    have hreasons := @mem_selectJob_snd (jobs.copies (action.source, root)) r
    cases hx : selectJob (jobs.copies (action.source, root)) with
    | mk workflow reasons =>
      rw [hx] at hr hreasons
      dsimp only at hr hreasons
      cases workflow with
      | none =>
        rcases hr with hr | hr
        · exact absurd hr (Finset.notMem_empty r)
        · rw [Finset.mem_singleton.mp hr]
          exact Or.inr (by simp [otherReasons])
      | some w =>
        rcases hr with hr | hr
        · rcases Finset.mem_union.mp hr with hr | hr
          · exact (hreasons hr).imp (fun h => ⟨root, rfl, h⟩) id
          · exact Or.inr (workflowConflicts_subset w action hr)
        · exact absurd hr (Finset.notMem_empty r)

theorem mem_saveCheck {key : ActionKey} {action : Job} {copies : List Job} {r : Str}
    (hr : r ∈ saveCheck key action copies) :
    (∃ j ∈ copies, j.isSaveOf key = true) ∧ (r ∈ copyConflicts copies ∨ r ∈ otherReasons) := by
  unfold saveCheck at hr
  split at hr
  · exact absurd hr (Finset.notMem_empty r)
  · rename_i hne
    have hex : ∃ j ∈ copies, j.isSaveOf key = true := by
      rw [List.isEmpty_iff] at hne
      obtain ⟨j, hj⟩ := List.exists_mem_of_ne_nil _ hne
      exact ⟨j, List.mem_of_mem_filter hj, (List.mem_filter.mp hj).2⟩
    refine ⟨hex, ?_⟩
    have hreasons := @mem_selectJob_snd copies r
    cases hx : selectJob copies with
    | mk save reasons =>
      rw [hx] at hr hreasons
      cases save with
      | none => exact hreasons hr
      | some s =>
        rcases Finset.mem_union.mp hr with hr | hr
        · exact hreasons hr
        · exact Or.inr (validateSave_subset s action hr)

/-- Where a reason of the execution checks comes from. -/
theorem mem_executionCheck {key : ActionKey} {jobs : JobTable} (hs : jobs.Sound) {r : Str}
    (hr : r ∈ (executionCheck key jobs).2.1 ∨ r ∈ (executionCheck key jobs).2.2) :
    ConflictAt key jobs r ∨ r ∈ otherReasons := by
  cases hsel : (selectJob (jobs.copies key)).1 with
  | none =>
    rw [executionCheck_none hsel] at hr
    rcases hr with hr | hr
    · exact absurd hr (Finset.notMem_empty r)
    · rw [Finset.mem_singleton.mp hr]
      exact Or.inr (by simp [otherReasons])
  | some action =>
    have hne : jobs.copies key ≠ [] := List.ne_nil_of_mem (selectJob_some hsel).2
    have hworkflow := @mem_workflowCheck action jobs r
    rw [executionCheck_some hsel] at hr
    rcases hr with hr | hr
    · rcases Finset.mem_union.mp hr with hr | hr
      · rcases Finset.mem_union.mp hr with hr | hr
        · rcases Finset.mem_union.mp hr with hr | hr
          · exact (mem_selectJob_snd hr).imp (fun h => ⟨hne, key, .own, h⟩) id
          · exact Or.inr (ite_subset (t := otherReasons) (by simp [otherReasons]) hr)
        · exact (hworkflow (Or.inl hr)).imp
            (fun ⟨root, hroot, h⟩ => ⟨hne, _, .workflow action hsel root hroot, h⟩) id
      · obtain ⟨k, hk⟩ := (mem_saveChecks hs.nodup).mp hr
        obtain ⟨⟨j, hj, hsave⟩, hk⟩ := mem_saveCheck hk
        exact hk.imp (fun h => ⟨hne, k, .save k j hj hsave, h⟩) id
    · rcases Finset.mem_union.mp hr with hr | hr
      · split at hr
        · exact absurd hr (Finset.notMem_empty r)
        · rw [Finset.mem_singleton.mp hr]
          exact Or.inr (by simp [otherReasons])
      · exact (hworkflow (Or.inr hr)).imp
          (fun ⟨root, hroot, h⟩ => ⟨hne, _, .workflow action hsel root hroot, h⟩) id

/-- A contradiction blocks. -/
theorem ConflictAt.blocks {key : ActionKey} {jobs : JobTable} (hs : jobs.Sound) {r : Str} (h : ConflictAt key jobs r) :
    r ∈ (executionCheck key jobs).2.1 := by
  obtain ⟨hne, k, hk, hr⟩ := h
  obtain ⟨action, hsel⟩ := exists_selected hne
  rw [executionCheck_some hsel]
  have hconflicts : ∀ {copies : List Job} {j : Job}, (selectJob copies).1 = some j → r ∈ copyConflicts copies →
      r ∈ (selectJob copies).2 := by
    intro copies j hj hr
    rw [selectJob_some_snd hj]
    exact Finset.mem_union_left _ hr
  have hnonempty : ∀ {copies : List Job}, r ∈ copyConflicts copies → copies ≠ [] := by
    rintro copies hr rfl
    simp [copyConflicts, disagree] at hr
  cases hk with
  | own =>
    exact Finset.mem_union_left _ (Finset.mem_union_left _ (Finset.mem_union_left _ (hconflicts hsel hr)))
  | workflow action' hsel' root hroot =>
    obtain rfl := Option.some.inj (hsel.symm.trans hsel')
    refine Finset.mem_union_left _ (Finset.mem_union_right _ ?_)
    obtain ⟨w, hw⟩ := exists_selected (hnonempty hr)
    have hin := hconflicts hw hr
    unfold workflowCheck
    rw [hroot]
    dsimp only
    cases hx : selectJob (jobs.copies (action.source, root)) with
    | mk workflow reasons =>
      rw [hx] at hw hin
      dsimp only at hw hin
      subst hw
      exact Finset.mem_union_left _ hin
  | save k j hj hsave =>
    refine Finset.mem_union_right _ ((mem_saveChecks hs.nodup).mpr ⟨k, ?_⟩)
    obtain ⟨s, hsel'⟩ := exists_selected (List.ne_nil_of_mem hj)
    have hin := hconflicts hsel' hr
    have hmem : j ∈ (jobs.copies k).filter (Job.isSaveOf key) := List.mem_filter.mpr ⟨hj, hsave⟩
    unfold saveCheck
    rw [if_neg (by
      rw [List.isEmpty_iff]
      exact List.ne_nil_of_mem hmem)]
    cases hx : selectJob (jobs.copies k) with
    | mk save reasons =>
      rw [hx] at hsel' hin
      dsimp only at hsel' hin
      subst hsel'
      exact Finset.mem_union_left _ hin

/-- A contradiction between copies stays one when copies come: the action's workflow may become
another one, but then the copies of the action contradict each other. -/
theorem ConflictAt.later {key : ActionKey} {jobs jobs' : JobTable} (hs' : jobs'.Sound)
    (hsub : ∀ k, ∀ j ∈ jobs.copies k, j ∈ jobs'.copies k) {r : Str} (h : ConflictAt key jobs r) :
    ∃ r', ConflictAt key jobs' r' := by
  obtain ⟨hne, k, hk, hr⟩ := h
  have hmono : ∀ k, r ∈ copyConflicts (jobs.copies k) → r ∈ copyConflicts (jobs'.copies k) := fun k h =>
    copyConflicts_mono (hsub k) h
  obtain ⟨j, hj⟩ := List.exists_mem_of_ne_nil _ hne
  have hne' : jobs'.copies key ≠ [] := List.ne_nil_of_mem (hsub key j hj)
  cases hk with
  | own => exact ⟨r, hne', key, .own, hmono key hr⟩
  | save k s hsmem hsave => exact ⟨r, hne', k, .save k s (hsub k s hsmem) hsave, hmono k hr⟩
  | workflow action hsel root hroot =>
    obtain ⟨action', hsel'⟩ := exists_selected hne'
    have hmem := hsub key action (selectJob_some hsel).2
    have hmem' := (selectJob_some hsel').2
    by_cases hsame : action'.root = some root
    · have h1 : action'.source = key.1 := congrArg Prod.fst (hs'.key key action' hmem')
      have h2 : action.source = key.1 := congrArg Prod.fst (hs'.key key action hmem)
      have hsource : action'.source = action.source := h1.trans h2.symm
      refine ⟨r, hne', (action'.source, root), .workflow action' hsel' root hsame, ?_⟩
      rw [hsource]
      exact hmono _ hr
    · have hdis : disagree (fun j : Job => (j.parent, j.root)) (jobs'.copies key) = true := by
        refine disagree_iff.mpr ⟨action, hmem, action', hmem', fun heq => hsame ?_⟩
        rw [← (Prod.mk.inj heq).2, hroot]
      refine ⟨lit "job_hierarchy_conflict", hne', key, .own, ?_⟩
      unfold copyConflicts
      rw [if_pos hdis]
      exact Finset.mem_union_left _ (Finset.mem_union_right _ (Finset.mem_singleton_self _))

end BackupCollector
