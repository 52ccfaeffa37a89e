/-
# `asyncio.Lock`

A lock is a flag and a queue of waiters, each with the state of its future.  `acquire` takes the
lock at once when the flag is clear and every waiter is cancelled, and queues otherwise.  `release`
clears the flag and wakes the first waiter, which sets the flag only when its task runs next: in
between the lock is NEITHER held NOR free.  A task that is cancelled while it waits leaves the
queue when it runs, and wakes the first waiter if the flag is clear.

That window is what makes the lock worth modelling.  A program that asks `locked()` gets `False` in
it although a waiter is about to have the lock, and a task that comes then has to queue.  Nothing
about the order of tasks is assumed: any waiter may be cancelled at any time, woken or not.

`Ordered` is the invariant.  Every task waits once, and a woken waiter is the first one of an
unlocked lock; this is what makes the lock exclude, since only a woken waiter can set the flag and
there is one at most.  Each operation keeps it, and each has its small lemmas about the flag and
the queue, so that users of the lock need not open it.  `LockUsers` is the next layer: tasks with
phases.

Fairness is not proved, and timeouts are cancellations.  The identity of a task is any type.
-/
import Mathlib.Data.List.Nodup

namespace Py

/-- The future of a waiter. -/
inductive Waiter where
  | pending | woken | cancelled
deriving DecidableEq, Repr

/-- `asyncio.Lock` -/
structure AsyncLock (α : Type) where
  locked : Bool := false
  waiters : List (α × Waiter) := []

namespace AsyncLock

variable {α : Type}

/-! ## 1. The operations

The methods of the class, those that run in one go.  What `acquire` does after its await is two
operations of its own. -/

/-- `acquire` does not wait: the lock is unlocked and all its waiters are cancelled. -/
def Free (l : AsyncLock α) : Prop := l.locked = false ∧ ∀ w ∈ l.waiters, w.2 = .cancelled

instance (l : AsyncLock α) : Decidable l.Free := inferInstanceAs (Decidable (_ ∧ _))

/-- `acquire`, when it does not wait. -/
def hold (l : AsyncLock α) : AsyncLock α := { l with locked := true }

/-- `acquire`, when it waits. -/
def enqueue (l : AsyncLock α) (a : α) : AsyncLock α := { l with waiters := l.waiters ++ [(a, .pending)] }

/-- `_wake_up_first`: nothing happens when the future of the first waiter is done. -/
def wakeUpFirst (l : AsyncLock α) : AsyncLock α :=
  match l.waiters with
  | (a, .pending) :: rest => { l with waiters := (a, .woken) :: rest }
  | _ => l

/-- `release` -/
def release (l : AsyncLock α) : AsyncLock α := ({ l with locked := false } : AsyncLock α).wakeUpFirst

section Queue

variable [DecidableEq α]

/-- `_waiters.remove` -/
def remove (l : AsyncLock α) (a : α) : AsyncLock α := { l with waiters := l.waiters.filter fun w => decide (w.1 ≠ a) }

/-- The rest of `acquire` once the waiter's task runs. -/
def grant (l : AsyncLock α) (a : α) : AsyncLock α := { l.remove a with locked := true }

/-- The future of a waiter is cancelled. -/
def cancel (l : AsyncLock α) (a : α) : AsyncLock α :=
  { l with waiters := l.waiters.map fun w => if w = (a, .pending) then (a, .cancelled) else w }

/-- The rest of `acquire` when the waiter's task runs to be cancelled. -/
def giveUp (l : AsyncLock α) (a : α) : AsyncLock α := if l.locked then l.remove a else (l.remove a).wakeUpFirst

end Queue

/-! ## 2. Who waits

Which tasks are in the queue, and whether the flag is set, after each operation. -/

/-- The task is in the queue. -/
def Waits (l : AsyncLock α) (a : α) : Prop := a ∈ l.waiters.map Prod.fst

theorem wakeUpFirst_names (l : AsyncLock α) : l.wakeUpFirst.waiters.map Prod.fst = l.waiters.map Prod.fst := by
  unfold wakeUpFirst
  split
  · rename_i heq
    rw [heq]
    rfl
  · rfl

@[simp] theorem wakeUpFirst_locked (l : AsyncLock α) : l.wakeUpFirst.locked = l.locked := by
  unfold wakeUpFirst
  split <;> rfl

@[simp] theorem hold_locked (l : AsyncLock α) : l.hold.locked = true := rfl
@[simp] theorem enqueue_locked (l : AsyncLock α) (a : α) : (l.enqueue a).locked = l.locked := rfl

@[simp] theorem release_locked (l : AsyncLock α) : l.release.locked = false := wakeUpFirst_locked _

@[simp] theorem hold_waits (l : AsyncLock α) (b : α) : l.hold.Waits b ↔ l.Waits b := Iff.rfl

@[simp] theorem enqueue_waits (l : AsyncLock α) (a b : α) : (l.enqueue a).Waits b ↔ l.Waits b ∨ b = a := by
  unfold Waits enqueue
  simp

@[simp] theorem wakeUpFirst_waits (l : AsyncLock α) (b : α) : l.wakeUpFirst.Waits b ↔ l.Waits b := by
  unfold Waits
  rw [wakeUpFirst_names]

@[simp] theorem release_waits (l : AsyncLock α) (b : α) : l.release.Waits b ↔ l.Waits b := wakeUpFirst_waits _ b

section Queue

variable [DecidableEq α]

@[simp] theorem remove_locked (l : AsyncLock α) (a : α) : (l.remove a).locked = l.locked := rfl
@[simp] theorem grant_locked (l : AsyncLock α) (a : α) : (l.grant a).locked = true := rfl
@[simp] theorem cancel_locked (l : AsyncLock α) (a : α) : (l.cancel a).locked = l.locked := rfl

@[simp] theorem giveUp_locked (l : AsyncLock α) (a : α) : (l.giveUp a).locked = l.locked := by
  unfold giveUp
  split
  · rfl
  · exact wakeUpFirst_locked _

@[simp] theorem remove_waits (l : AsyncLock α) (a b : α) : (l.remove a).Waits b ↔ l.Waits b ∧ b ≠ a := by
  unfold Waits remove
  simp only [List.mem_map, List.mem_filter, decide_eq_true_eq]
  constructor
  · rintro ⟨w, ⟨hw, hne⟩, rfl⟩
    exact ⟨⟨w, hw, rfl⟩, hne⟩
  · rintro ⟨⟨w, hw, rfl⟩, hne⟩
    exact ⟨w, ⟨hw, hne⟩, rfl⟩

@[simp] theorem grant_waits (l : AsyncLock α) (a b : α) : (l.grant a).Waits b ↔ l.Waits b ∧ b ≠ a := remove_waits l a b

theorem cancel_names (l : AsyncLock α) (a : α) : (l.cancel a).waiters.map Prod.fst = l.waiters.map Prod.fst := by
  unfold cancel
  rw [List.map_map]
  refine List.map_congr_left fun w _ => ?_
  dsimp only [Function.comp]
  split
  · rename_i h
    rw [h]
  · rfl

@[simp] theorem cancel_waits (l : AsyncLock α) (a b : α) : (l.cancel a).Waits b ↔ l.Waits b := by
  unfold Waits
  rw [cancel_names]

@[simp] theorem giveUp_waits (l : AsyncLock α) (a b : α) : (l.giveUp a).Waits b ↔ l.Waits b ∧ b ≠ a := by
  unfold giveUp
  split
  · exact remove_waits l a b
  · rw [wakeUpFirst_waits, remove_waits]

end Queue

/-! ## 3. The order of the queue

The invariant, kept by each operation under the condition that the caller of it meets. -/

/-- Every task waits once, and a woken waiter is the first one of an unlocked lock. -/
structure Ordered (l : AsyncLock α) : Prop where
  nodup : (l.waiters.map Prod.fst).Nodup
  woken : ∀ a, (a, Waiter.woken) ∈ l.waiters → l.locked = false ∧ l.waiters.head? = some (a, .woken)

theorem ordered_new : ({} : AsyncLock α).Ordered := ⟨List.nodup_nil, fun _ h => nomatch h⟩

namespace Ordered

variable {l : AsyncLock α}

/-- The waiter that is woken is one at most. -/
theorem woken_unique (h : l.Ordered) {a b : α} (ha : (a, .woken) ∈ l.waiters) (hb : (b, .woken) ∈ l.waiters) : a = b := by
  have heq := (h.woken a ha).2.symm.trans (h.woken b hb).2
  exact congrArg Prod.fst (Option.some.inj heq)

/-- While the lock is held, nobody is woken. -/
theorem not_woken (h : l.Ordered) (hl : l.locked = true) (a : α) : (a, Waiter.woken) ∉ l.waiters := by
  intro ha
  rw [(h.woken a ha).1] at hl
  cases hl

theorem hold (h : l.Ordered) (hf : l.Free) : l.hold.Ordered :=
  ⟨h.nodup, fun _ ha => nomatch hf.2 _ ha⟩

theorem enqueue (h : l.Ordered) {a : α} (ha : ¬ l.Waits a) : (l.enqueue a).Ordered where
  nodup := by
    unfold AsyncLock.enqueue
    rw [List.map_append]
    exact List.Nodup.append h.nodup (List.nodup_singleton _) (List.disjoint_singleton.mpr ha)
  woken b hb := by
    unfold AsyncLock.enqueue at hb ⊢
    rcases List.mem_append.mp hb with hb | hb
    · obtain ⟨hl, hhead⟩ := h.woken b hb
      refine ⟨hl, ?_⟩
      dsimp only
      rw [List.head?_append, hhead]
      rfl
    · cases List.mem_singleton.mp hb

/-- The first waiter is woken when nobody is, of an unlocked lock. -/
theorem wakeUpFirst (h : l.Ordered) (hl : l.locked = false) : l.wakeUpFirst.Ordered where
  nodup := by
    rw [wakeUpFirst_names]
    exact h.nodup
  woken b hb := by
    refine ⟨(wakeUpFirst_locked l).trans hl, ?_⟩
    unfold AsyncLock.wakeUpFirst at hb ⊢
    split at hb
    · rename_i a rest heq
      rcases List.mem_cons.mp hb with hb | hb
      · exact congrArg some hb.symm
      · -- a second woken waiter would have to be the first one, which is pending
        have hhead := (h.woken b (by rw [heq]; exact List.mem_cons_of_mem _ hb)).2
        rw [heq] at hhead
        cases hhead
    · exact (h.woken b hb).2

theorem release (h : l.Ordered) (hl : l.locked = true) : l.release.Ordered :=
  wakeUpFirst ⟨h.nodup, fun a ha => absurd ha (h.not_woken hl a)⟩ rfl

section Queue

variable [DecidableEq α]

theorem remove (h : l.Ordered) (a : α) : (l.remove a).Ordered where
  nodup := h.nodup.sublist (List.Sublist.map Prod.fst List.filter_sublist)
  woken b hb := by
    unfold AsyncLock.remove at hb ⊢
    obtain ⟨hmem, hne⟩ := List.mem_filter.mp hb
    obtain ⟨hl, hhead⟩ := h.woken b hmem
    refine ⟨hl, ?_⟩
    cases hw : l.waiters with
    | nil => rw [hw] at hhead; cases hhead
    | cons w rest =>
      rw [hw] at hhead
      obtain rfl := Option.some.inj hhead
      have hkept : decide (b ≠ a) = true := hne
      simp [of_decide_eq_true hkept]

theorem grant (h : l.Ordered) {a : α} (ha : (a, .woken) ∈ l.waiters) : (l.grant a).Ordered where
  nodup := (h.remove a).nodup
  woken b hb := by
    obtain ⟨hmem, hne⟩ := List.mem_filter.mp hb
    have heq := h.woken_unique hmem ha
    rw [heq] at hne
    simp at hne

theorem cancel (h : l.Ordered) (a : α) : (l.cancel a).Ordered where
  nodup := by
    rw [cancel_names]
    exact h.nodup
  woken b hb := by
    unfold AsyncLock.cancel at hb ⊢
    obtain ⟨w, hw, heq⟩ := List.mem_map.mp hb
    split at heq
    · cases heq
    · subst heq
      obtain ⟨hl, hhead⟩ := h.woken b hw
      refine ⟨hl, ?_⟩
      dsimp only
      rw [List.head?_map, hhead]
      simp

theorem giveUp (h : l.Ordered) (a : α) : (l.giveUp a).Ordered := by
  unfold AsyncLock.giveUp
  split
  · exact h.remove a
  · rename_i hl
    exact (h.remove a).wakeUpFirst (Bool.not_eq_true _ ▸ hl)

end Queue

end Ordered

end AsyncLock

end Py
