/-
# What a verdict depends on

The execution checks see of the copies of a job only which copies there are, hits aside, and which
one is selected; of the job table only the copies under keys of the action's source.  Two ledgers
that agree on that, on the records and on the marks of a key give it the same document.

This is the congruence that three later modules rest on.  `Rereading` compares a ledger with itself
after marks that were made before, `ArrivalOrder` two ledgers over the same hits, `Isolation` two
ledgers that one source cannot tell apart; none of them opens a verdict.  What they need is a
relation that is weak enough for them and strong enough for the documents, and `SameCopies`,
`SameFor` and `Verdict.Same` are the three steps to it: copies, ledgers, verdicts.

"Hits aside" runs through all of them.  A copy carries a reference to the hit it was read from, two
hits may bring the same copy, and no document shows which one it was.
-/
import BackupCollector.Lookups.Marks

namespace BackupCollector

open Py

/-! ## 1. Two lists of copies

Lists of copies up to order, repetition and hits, with the same selection. -/

/-- More than one distinct value: two copies differ. -/
theorem disagree_iff {α : Type} [DecidableEq α] {f : Job → α} {jobs : List Job} :
    disagree f jobs = true ↔ ∃ a ∈ jobs, ∃ b ∈ jobs, f a ≠ f b := by
  unfold disagree
  rw [decide_eq_true_iff, ← List.card_toFinset, Finset.one_lt_card]
  simp

/-- The copy a selection takes. -/
def selectedCopy (jobs : List Job) : Option Job := maxBy selectionKey (selectionPool jobs)

/-- Two lists with the same copies, hits aside, of which the same one is selected. -/
structure SameCopies (xs ys : List Job) : Prop where
  cores : ∀ c : Job, (∃ j ∈ xs, j.core = c) ↔ ∃ j ∈ ys, j.core = c
  selected : (selectedCopy xs).map Job.core = (selectedCopy ys).map Job.core

theorem SameCopies.refl (xs : List Job) : SameCopies xs xs := ⟨fun _ => Iff.rfl, rfl⟩

theorem SameCopies.trans {xs ys zs : List Job} (h : SameCopies xs ys) (h' : SameCopies ys zs) : SameCopies xs zs :=
  ⟨fun c => (h.cores c).trans (h'.cores c), h.selected.trans h'.selected⟩

/-- Two lists have the same copies when a property of copies, hits aside, holds in both or neither. -/
theorem exists_of_cores {xs ys : List Job} (h : ∀ c : Job, (∃ j ∈ xs, j.core = c) ↔ ∃ j ∈ ys, j.core = c)
    {p : Job → Prop} (hp : ∀ j, p j ↔ p j.core) : (∃ j ∈ xs, p j) ↔ ∃ j ∈ ys, p j := by
  have hone : ∀ {us vs : List Job}, (∀ c : Job, (∃ j ∈ us, j.core = c) → ∃ j ∈ vs, j.core = c) →
      (∃ j ∈ us, p j) → ∃ j ∈ vs, p j := by
    rintro us vs huv ⟨j, hj, hpj⟩
    obtain ⟨j', hj', hcore⟩ := huv j.core ⟨j, hj, rfl⟩
    refine ⟨j', hj', ?_⟩
    rw [hp j', hcore, ← hp j]
    exact hpj
  exact ⟨hone fun c => (h c).mp, hone fun c => (h c).mpr⟩

theorem disagree_of_cores {α : Type} [DecidableEq α] {f : Job → α} (hf : ∀ j, f j = f j.core) {xs ys : List Job}
    (h : ∀ c : Job, (∃ j ∈ xs, j.core = c) ↔ ∃ j ∈ ys, j.core = c) : disagree f xs = disagree f ys := by
  rw [Bool.eq_iff_iff, disagree_iff, disagree_iff]
  rw [exists_of_cores h (p := fun a => ∃ b ∈ xs, f a ≠ f b) fun a => by rw [hf a]]
  refine exists_congr fun a => and_congr_right fun _ => ?_
  exact exists_of_cores h fun b => by rw [hf b]

theorem filter_cores {q : Job → Bool} (hq : ∀ j, q j = q j.core) {xs ys : List Job}
    (h : ∀ c : Job, (∃ j ∈ xs, j.core = c) ↔ ∃ j ∈ ys, j.core = c) (c : Job) :
    (∃ j ∈ xs.filter q, j.core = c) ↔ ∃ j ∈ ys.filter q, j.core = c := by
  simp only [List.mem_filter, and_assoc]
  refine exists_of_cores h fun j => ?_
  rw [hq j]
  rfl

theorem Job.isTerminal_core (j : Job) : j.isTerminal = j.core.isTerminal := rfl

theorem isEmpty_of_cores {xs ys : List Job} (h : ∀ c : Job, (∃ j ∈ xs, j.core = c) ↔ ∃ j ∈ ys, j.core = c) :
    xs.isEmpty = ys.isEmpty := by
  have hex := exists_of_cores h (p := fun _ => True) fun _ => Iff.rfl
  rw [Bool.eq_iff_iff, List.isEmpty_iff, List.isEmpty_iff]
  simp only [and_true] at hex
  rw [List.eq_nil_iff_forall_not_mem, List.eq_nil_iff_forall_not_mem, ← not_exists, ← not_exists, hex]

theorem copyConflicts_of_cores {xs ys : List Job}
    (h : ∀ c : Job, (∃ j ∈ xs, j.core = c) ↔ ∃ j ∈ ys, j.core = c) : copyConflicts xs = copyConflicts ys := by
  unfold copyConflicts
  rw [disagree_of_cores (f := Job.start) (fun _ => rfl) h, disagree_of_cores (f := Job.kind) (fun _ => rfl) h,
    disagree_of_cores (f := fun j => (j.parent, j.root)) (fun _ => rfl) h,
    disagree_of_cores (f := fun j => (j.status, j.finish)) (fun _ => rfl) (filter_cores Job.isTerminal_core h)]

theorem invalidTimes_core (j : Job) : invalidTimes j = invalidTimes j.core := rfl

/-- A selection reads off a list what two lists with the same copies share. -/
theorem selectJob_congr {xs ys : List Job} (h : SameCopies xs ys) :
    (selectJob xs).1.map Job.core = (selectJob ys).1.map Job.core ∧ (selectJob xs).2 = (selectJob ys).2 := by
  have hselected := h.selected
  unfold selectedCopy at hselected
  unfold selectJob
  cases hx : maxBy selectionKey (selectionPool xs) with
  | none =>
    rw [hx] at hselected
    rw [Option.map_eq_none_iff.mp hselected.symm]
    exact ⟨rfl, rfl⟩
  | some j =>
    rw [hx] at hselected
    obtain ⟨j', hj', hcore⟩ := Option.map_eq_some_iff.mp hselected.symm
    rw [hj']
    refine ⟨by simp [hcore], ?_⟩
    dsimp only
    rw [copyConflicts_of_cores h.cores, invalidTimes_core j, invalidTimes_core j', hcore]

/-- Nothing is selected from an empty list only. -/
theorem selectionPool_eq_nil {jobs : List Job} : selectionPool jobs = [] ↔ jobs = [] := by
  unfold selectionPool
  split
  · rfl
  · rename_i h
    constructor
    · intro hnil
      rw [hnil] at h
      exact absurd rfl h
    · rintro rfl
      rfl

theorem mem_of_mem_selectionPool {jobs : List Job} {j : Job} (h : j ∈ selectionPool jobs) : j ∈ jobs := by
  unfold selectionPool at h
  split at h
  · exact h
  · exact List.mem_of_mem_filter h

theorem selectJob_some {jobs : List Job} {j : Job} (h : (selectJob jobs).1 = some j) :
    selectedCopy jobs = some j ∧ j ∈ jobs := by
  unfold selectJob at h
  unfold selectedCopy
  cases hx : maxBy selectionKey (selectionPool jobs) with
  | none =>
    rw [hx] at h
    cases h
  | some j' =>
    rw [hx] at h
    obtain rfl := Option.some.inj h
    exact ⟨rfl, mem_of_mem_selectionPool (maxBy_spec hx).1⟩

/-! ## 2. The checks of an action

The checks, one after another, on lists of copies that are the same. -/

theorem mem_foldl_union {α : Type} [DecidableEq α] {r : α} (sets : List (Finset α)) (init : Finset α) :
    r ∈ sets.foldl (· ∪ ·) init ↔ r ∈ init ∨ ∃ s ∈ sets, r ∈ s := by
  induction sets generalizing init with
  | nil => simp
  | cons s sets ih =>
    rw [List.foldl_cons, ih, Finset.mem_union]
    simp [or_assoc]

/-- The save checks, by the key of the save job. -/
theorem mem_saveChecks {key : ActionKey} {action : Job} {jobs : JobTable} (hnodup : (Dict.keys jobs).Nodup)
    {r : Str} : r ∈ saveChecks key action jobs ↔ ∃ k, r ∈ saveCheck key action (jobs.copies k) := by
  unfold saveChecks
  rw [mem_foldl_union]
  simp only [Finset.notMem_empty, false_or, List.mem_map, Dict.values]
  constructor
  · rintro ⟨_, ⟨copies, ⟨⟨k, copies'⟩, hp, rfl⟩, rfl⟩, hr⟩
    refine ⟨k, ?_⟩
    unfold JobTable.copies
    rw [Dict.get?_of_mem hnodup hp]
    exact hr
  · rintro ⟨k, hr⟩
    unfold JobTable.copies at hr
    cases hget : Dict.get? jobs k with
    | none =>
      rw [hget] at hr
      simp [saveCheck] at hr
    | some copies =>
      rw [hget] at hr
      exact ⟨_, ⟨copies, ⟨(k, copies), Dict.mem_of_get? hget, rfl⟩, rfl⟩, hr⟩

theorem workflowConflicts_core (w a : Job) : workflowConflicts w a = workflowConflicts w.core a.core := rfl

theorem validateSave_core (s a : Job) : validateSave s a = validateSave s.core a.core := rfl

theorem saveCheck_congr {key : ActionKey} {action action' : Job} (haction : action.core = action'.core)
    {xs ys : List Job} (h : SameCopies xs ys) : saveCheck key action xs = saveCheck key action' ys := by
  unfold saveCheck
  rw [isEmpty_of_cores (filter_cores (q := Job.isSaveOf key) (fun _ => rfl) h.cores)]
  split
  · rfl
  · obtain ⟨hselected, hreasons⟩ := selectJob_congr h
    cases hx : selectJob xs with
    | mk save reasons =>
      cases hy : selectJob ys with
      | mk save' reasons' =>
        rw [hx, hy] at hselected hreasons
        dsimp only at hselected hreasons
        subst hreasons
        cases save with
        | none =>
          rw [Option.map_eq_none_iff.mp hselected.symm]
        | some s =>
          obtain ⟨s', rfl, hcore⟩ := Option.map_eq_some_iff.mp hselected.symm
          dsimp only
          rw [validateSave_core s, validateSave_core s', hcore, haction]

/-- A table whose copies stand under their own keys, so that the source of a copy is that of its
key. -/
structure JobTable.Sound (jobs : JobTable) : Prop where
  nodup : (Dict.keys jobs).Nodup
  key : ∀ k, ∀ j ∈ jobs.copies k, j.key = k

theorem Builder.sound_jobs (ms : List Mark) : (({} : Builder).marks ms).jobs.Sound :=
  ⟨Builder.nodup_jobs ms, fun _ _ h => Builder.key_of_mem_copies ms h⟩

/-- A save job that names an action is of the action's source. -/
theorem saveCheck_of_source {key k : ActionKey} {action : Job} {copies : List Job} (hkey : ∀ j ∈ copies, j.key = k)
    (h : k.1 ≠ key.1) : saveCheck key action copies = ∅ := by
  unfold saveCheck
  rw [if_pos]
  rw [List.isEmpty_iff, List.filter_eq_nil_iff]
  intro j hj hsave
  unfold Job.isSaveOf at hsave
  simp only [Bool.and_eq_true, decide_eq_true_eq] at hsave
  have hsource : j.source = k.1 := congrArg Prod.fst (hkey j hj)
  exact h (hsource.symm.trans hsave.1.2)

theorem saveChecks_congr {key : ActionKey} {action action' : Job} (haction : action.core = action'.core)
    {jobs jobs' : JobTable} (hs : jobs.Sound) (hs' : jobs'.Sound)
    (h : ∀ k : ActionKey, k.1 = key.1 → SameCopies (jobs.copies k) (jobs'.copies k)) :
    saveChecks key action jobs = saveChecks key action' jobs' := by
  ext r
  rw [mem_saveChecks hs.nodup, mem_saveChecks hs'.nodup]
  refine exists_congr fun k => ?_
  by_cases hk : k.1 = key.1
  · rw [saveCheck_congr haction (h k hk)]
  · rw [saveCheck_of_source (hs.key k) hk, saveCheck_of_source (hs'.key k) hk]

theorem workflowCheck_congr {source : Source} {action action' : Job} (haction : action.core = action'.core)
    (hsource : action.source = source) {jobs jobs' : JobTable}
    (h : ∀ k : ActionKey, k.1 = source → SameCopies (jobs.copies k) (jobs'.copies k)) :
    workflowCheck action jobs = workflowCheck action' jobs' := by
  have hroot : action.core.root = action'.core.root := by rw [haction]
  have hsame : action'.core.source = action.core.source := by rw [haction]
  have hsource' : action'.source = source := hsame.trans hsource
  change action.root = action'.root at hroot
  unfold workflowCheck
  rw [← hroot]
  cases action.root with
  | none => rfl
  | some root =>
    dsimp only
    rw [hsource, hsource']
    obtain ⟨hselected, hreasons⟩ := selectJob_congr (h (source, root) rfl)
    cases hx : selectJob (jobs.copies (source, root)) with
    | mk workflow reasons =>
      cases hy : selectJob (jobs'.copies (source, root)) with
      | mk workflow' reasons' =>
        rw [hx, hy] at hselected hreasons
        dsimp only at hselected hreasons
        subst hreasons
        cases workflow with
        | none => rw [Option.map_eq_none_iff.mp hselected.symm]
        | some w =>
          obtain ⟨w', rfl, hcore⟩ := Option.map_eq_some_iff.mp hselected.symm
          dsimp only
          rw [workflowConflicts_core w, workflowConflicts_core w', hcore, haction]

/-- The execution checks of an action see the copies under keys of its source, hits aside. -/
theorem executionCheck_congr {key : ActionKey} {jobs jobs' : JobTable} (hs : jobs.Sound) (hs' : jobs'.Sound)
    (h : ∀ k : ActionKey, k.1 = key.1 → SameCopies (jobs.copies k) (jobs'.copies k)) :
    (executionCheck key jobs).1.map Job.core = (executionCheck key jobs').1.map Job.core ∧
      (executionCheck key jobs).2 = (executionCheck key jobs').2 := by
  obtain ⟨hselected, hreasons⟩ := selectJob_congr (h key rfl)
  unfold executionCheck
  cases hx : selectJob (jobs.copies key) with
  | mk action reasons =>
    cases hy : selectJob (jobs'.copies key) with
    | mk action' reasons' =>
      rw [hx, hy] at hselected hreasons
      dsimp only at hselected hreasons
      subst hreasons
      cases action with
      | none =>
        rw [Option.map_eq_none_iff.mp hselected.symm]
        exact ⟨rfl, rfl⟩
      | some a =>
        obtain ⟨a', rfl, hcore⟩ := Option.map_eq_some_iff.mp hselected.symm
        have hmem : a ∈ jobs.copies key := (selectJob_some (congrArg Prod.fst hx)).2
        have hsource : a.source = key.1 := congrArg Prod.fst (hs.key key a hmem)
        have hkind : a.core.kind = a'.core.kind := by rw [hcore]
        have hterminal : a.core.isTerminal = a'.core.isTerminal := by rw [hcore]
        change a.kind = a'.kind at hkind
        change a.isTerminal = a'.isTerminal at hterminal
        refine ⟨by simp [hcore], ?_⟩
        dsimp only
        rw [workflowCheck_congr hcore.symm hsource h, saveChecks_congr hcore.symm hs hs' h, hkind, hterminal]

/-! ## 3. Verdicts and documents

And the documents that are written from the verdicts. -/

theorem bind_of_core {α : Type} {f : Job → Option α} (hf : ∀ j, f j = f j.core) {a a' : Option Job}
    (h : a.map Job.core = a'.map Job.core) : a.bind f = a'.bind f := by
  cases a with
  | none => rw [Option.map_eq_none_iff.mp h.symm]
  | some j =>
    obtain ⟨j', rfl, hcore⟩ := Option.map_eq_some_iff.mp h.symm
    change f j = f j'
    rw [hf j, hf j', hcore]

theorem any_perm {α : Type} {xs ys : List α} (h : xs.Perm ys) (p : α → Bool) : xs.any p = ys.any p := by
  rw [Bool.eq_iff_iff, List.any_eq_true, List.any_eq_true]
  exact exists_congr fun a => and_congr_left fun _ => h.mem_iff

section Documents

variable [Unicode]

/-- Two ledgers that a key cannot tell apart, the order of its records aside. -/
structure Builder.SameFor (b b' : Builder) (key : ActionKey) : Prop where
  records : (b.records key).Perm (b'.records key)
  copies : ∀ k : ActionKey, k.1 = key.1 → SameCopies (b.jobs.copies k) (b'.jobs.copies k)
  blocked : b.blockedOf key = b'.blockedOf key
  unknown : b.unknownSourceErrors = b'.unknownSourceErrors
  incomplete : key.1 ∈ b.incompleteSources ↔ key.1 ∈ b'.incompleteSources

/-- Two verdicts that say the same, the order of their records and the hit of the job aside. -/
structure Verdict.Same (v v' : Verdict) : Prop where
  records : v.records.Perm v'.records
  action : v.action.map Job.core = v'.action.map Job.core
  blocked : v.blocked = v'.blocked
  pending : v.pending = v'.pending

theorem pendingReasons_congr {b b' : Builder} {key : ActionKey} (h : b.SameFor b' key) {action action' : Option Job}
    (haction : action.map Job.core = action'.map Job.core) (synced : Datetime) (coverage : Option Coverage) :
    b.pendingReasons key (b.records key) action synced coverage =
      b'.pendingReasons key (b'.records key) action' synced coverage := by
  have hempty : (b.records key).isEmpty = (b'.records key).isEmpty := by
    rw [Bool.eq_iff_iff, List.isEmpty_iff, List.isEmpty_iff]
    exact ⟨fun hnil => (hnil ▸ h.records).nil_eq.symm, fun hnil => (hnil ▸ h.records).eq_nil⟩
  have hincomplete : decide (key.1 ∈ b.incompleteSources) = decide (key.1 ∈ b'.incompleteSources) :=
    decide_eq_decide.mpr h.incomplete
  unfold Builder.pendingReasons
  rw [h.unknown, hincomplete, any_perm h.records, any_perm h.records, any_perm h.records, any_perm h.records, hempty,
    bind_of_core (f := Job.start) (fun _ => rfl) haction, bind_of_core (f := Job.finish) (fun _ => rfl) haction,
    bind_of_core (f := Job.observedAt) (fun _ => rfl) haction]

/-- Two ledgers a key cannot tell apart give it the same verdict. -/
theorem verdict_congr {b b' : Builder} {key : ActionKey} (hs : b.jobs.Sound) (hs' : b'.jobs.Sound)
    (h : b.SameFor b' key) (synced : Datetime) (coverage : Option Coverage) :
    (b.verdict key synced coverage).Same (b'.verdict key synced coverage) := by
  obtain ⟨haction, hreasons⟩ := executionCheck_congr hs hs' h.copies
  unfold Builder.verdict
  cases hx : executionCheck key b.jobs with
  | mk action reasons =>
    cases hy : executionCheck key b'.jobs with
    | mk action' reasons' =>
      rw [hx, hy] at haction hreasons
      dsimp only at haction hreasons
      subst hreasons
      have hblocked := h.blocked
      unfold Builder.blockedOf at hblocked
      refine ⟨h.records, haction, ?_, ?_⟩
      · dsimp only
        rw [hblocked, any_perm h.records, bind_of_core (f := Job.start) (fun _ => rfl) haction,
          bind_of_core (f := Job.finish) (fun _ => rfl) haction]
      · dsimp only
        rw [pendingReasons_congr h haction]

variable [Hashlib]

/-- A document does not show the hit its job was read from. -/
theorem document_core (v : Verdict) (key : ActionKey) (synced : Datetime) (coverage : Option Coverage)
    (generation : Str) (limit : Nat) :
    v.document key synced coverage generation limit =
      ({ v with action := v.action.map Job.core } : Verdict).document key synced coverage generation limit := by
  obtain ⟨records, action, blocked, pending⟩ := v
  cases action with
  | none => rfl
  | some j => rfl

theorem document_congr {v v' : Verdict} (h : v.Same v') (hrecords : v.records = v'.records) (key : ActionKey)
    (synced : Datetime) (coverage : Option Coverage) (generation : Str) (limit : Nat) :
    v.document key synced coverage generation limit = v'.document key synced coverage generation limit := by
  have heq : ({ v with action := v.action.map Job.core } : Verdict) =
      { v' with action := v'.action.map Job.core } := by
    rw [h.action, hrecords, h.blocked, h.pending]
  rw [document_core v, document_core v', heq]

end Documents

end BackupCollector
