/-
# The users of a lock

Tasks that take one `asyncio.Lock`, each in a phase of its own: in some phases a task waits in the
queue of the lock, in some it has the lock.  `LockUsers` says that the phases agree with the lock
and that one task at most has it; every operation of the lock keeps it, as long as the task that
performs the operation moves to a phase of the right kind.

It is the interface a program with a lock needs.  The lock itself knows nothing of phases, and a
program knows nothing of futures; the two predicates, which phases wait and which hold, are all
that connects them.  A program then proves each step by naming the operation that it performs, and
mutual exclusion is a field of the invariant.

In a phase of neither kind a task may do what it likes, and `move` covers it.

The number of users is not bounded, and the type of their names is arbitrary with decidable
equality.  That a program releases what it took is for the program to show.
-/
import BackupCollector.Py.AsyncLock
import Mathlib.Logic.Function.Basic

namespace Py

/-- The lock and the phases of its users agree, and one user at most has the lock. -/
structure LockUsers {τ P : Type} (queued holding : P → Prop) (lock : AsyncLock τ) (phase : τ → P) : Prop where
  ordered : lock.Ordered
  waits : ∀ t, queued (phase t) ↔ lock.Waits t
  held : lock.locked = true ↔ ∃ t, holding (phase t)
  one : ∀ t u, holding (phase t) → holding (phase u) → t = u

namespace LockUsers

variable {τ P : Type} {queued holding : P → Prop} {lock : AsyncLock τ} {phase : τ → P} {t : τ} {p : P}

/-- A new lock, whose users are all elsewhere. -/
theorem start (h : ∀ t, ¬ queued (phase t) ∧ ¬ holding (phase t)) : LockUsers queued holding ({} : AsyncLock τ) phase where
  ordered := AsyncLock.ordered_new
  waits t := ⟨fun hq => absurd hq (h t).1, (fun hw => nomatch hw)⟩
  held := ⟨(fun hl => nomatch hl), fun ⟨t, ht⟩ => absurd ht (h t).2⟩
  one t _ ht := absurd ht (h t).2

/-- Nobody has an unlocked lock. -/
theorem not_holding (h : LockUsers queued holding lock phase) (hl : lock.locked = false) (t : τ) : ¬ holding (phase t) := by
  intro ht
  rw [h.held.mpr ⟨t, ht⟩] at hl
  cases hl

variable [DecidableEq τ]

/-- A user takes a lock that nobody has. -/
theorem take (h : LockUsers queued holding lock phase) (hl : lock.locked = false) {lock' : AsyncLock τ}
    (hordered : lock'.Ordered) (hlocked : lock'.locked = true) (hwaits : ∀ b, lock'.Waits b ↔ lock.Waits b ∧ b ≠ t)
    (hp : holding p) (hq : ¬ queued p) : LockUsers queued holding lock' (Function.update phase t p) where
  ordered := hordered
  waits b := by
    rw [Function.update_apply, hwaits b, ← h.waits b]
    split
    · rename_i hb
      simp [hq, hb]
    · rename_i hb
      simp [hb]
  held := by
    refine ⟨fun _ => ⟨t, ?_⟩, fun _ => hlocked⟩
    simpa using hp
  one a b ha hb := by
    have honly : ∀ c, holding (Function.update phase t p c) → c = t := by
      intro c hc
      by_contra hne
      rw [Function.update_apply, if_neg hne] at hc
      exact h.not_holding hl c hc
    rw [honly a ha, honly b hb]

/-- `acquire` of a free lock. -/
theorem hold (h : LockUsers queued holding lock phase) (hfree : lock.Free) (ht : ¬ queued (phase t)) (hp : holding p)
    (hq : ¬ queued p) : LockUsers queued holding lock.hold (Function.update phase t p) := by
  refine h.take hfree.1 (h.ordered.hold hfree) rfl (fun b => ⟨fun hb => ⟨hb, ?_⟩, And.left⟩) hp hq
  rintro rfl
  exact ht ((h.waits b).mpr hb)

/-- A woken waiter's task runs. -/
theorem grant (h : LockUsers queued holding lock phase) (hw : (t, .woken) ∈ lock.waiters) (hp : holding p)
    (hq : ¬ queued p) : LockUsers queued holding (lock.grant t) (Function.update phase t p) :=
  h.take (h.ordered.woken t hw).1 (h.ordered.grant hw) rfl (AsyncLock.grant_waits lock t) hp hq

/-- The user that has the lock goes on. -/
theorem goOn (h : LockUsers queued holding lock phase) (ht : holding (phase t)) (hqt : ¬ queued (phase t)) (hp : holding p)
    (hq : ¬ queued p) : LockUsers queued holding lock (Function.update phase t p) := by
  have hsame : ∀ b, holding (Function.update phase t p b) ↔ holding (phase b) := by
    intro b
    rw [Function.update_apply]
    split
    · rename_i hb
      simp [hb, ht, hp]
    · rfl
  refine ⟨h.ordered, fun b => ?_, ?_, fun a b ha hb => h.one a b ((hsame a).mp ha) ((hsame b).mp hb)⟩
  · rw [Function.update_apply, ← h.waits b]
    split
    · rename_i hb
      simp [hb, hqt, hq]
    · rfl
  · rw [h.held]
    exact exists_congr fun b => (hsame b).symm

/-- The user that has the lock releases it. -/
theorem release (h : LockUsers queued holding lock phase) (ht : holding (phase t)) (hqt : ¬ queued (phase t))
    (hp : ¬ holding p) (hq : ¬ queued p) : LockUsers queued holding lock.release (Function.update phase t p) := by
  have hnone : ∀ b, ¬ holding (Function.update phase t p b) := by
    intro b
    rw [Function.update_apply]
    split
    · exact hp
    · rename_i hb
      exact fun hhold => hb (h.one b t hhold ht)
  refine ⟨h.ordered.release (h.held.mpr ⟨t, ht⟩), fun b => ?_, ?_, fun a _ ha => absurd ha (hnone a)⟩
  · rw [Function.update_apply, AsyncLock.release_waits, ← h.waits b]
    split
    · rename_i hb
      simp [hb, hqt, hq]
    · rfl
  · rw [AsyncLock.release_locked]
    exact ⟨(fun hl => nomatch hl), fun ⟨b, hb⟩ => absurd hb (hnone b)⟩

/-- A user that does not have the lock moves into the queue or out of it. -/
theorem move (h : LockUsers queued holding lock phase) (ht : ¬ holding (phase t)) {lock' : AsyncLock τ} (hp : ¬ holding p)
    (hordered : lock'.Ordered) (hlocked : lock'.locked = lock.locked)
    (hwaits : ∀ b, lock'.Waits b ↔ if b = t then queued p else lock.Waits b) :
    LockUsers queued holding lock' (Function.update phase t p) := by
  have hsame : ∀ b, holding (Function.update phase t p b) ↔ holding (phase b) := by
    intro b
    rw [Function.update_apply]
    split
    · rename_i hb
      simp [hb, ht, hp]
    · rfl
  refine ⟨hordered, fun b => ?_, ?_, fun a b ha hb => h.one a b ((hsame a).mp ha) ((hsame b).mp hb)⟩
  · rw [Function.update_apply, hwaits b]
    split
    · rfl
    · exact h.waits b
  · rw [hlocked, h.held]
    exact exists_congr fun b => (hsame b).symm

/-- `acquire` of a lock that is not free. -/
theorem enqueue (h : LockUsers queued holding lock phase) (ht : ¬ holding (phase t)) (hqt : ¬ queued (phase t))
    (hp : ¬ holding p) (hq : queued p) : LockUsers queued holding (lock.enqueue t) (Function.update phase t p) := by
  refine h.move ht hp (h.ordered.enqueue fun hw => hqt ((h.waits t).mpr hw)) rfl fun b => ?_
  rw [AsyncLock.enqueue_waits]
  by_cases hb : b = t
  · simp [hb, hq]
  · simp [hb]

/-- A waiter is cancelled. -/
theorem cancel (h : LockUsers queued holding lock phase) (t : τ) : LockUsers queued holding (lock.cancel t) phase := by
  refine ⟨h.ordered.cancel t, fun b => ?_, h.held, h.one⟩
  rw [AsyncLock.cancel_waits]
  exact h.waits b

/-- A cancelled waiter's task runs. -/
theorem giveUp (h : LockUsers queued holding lock phase) (ht : ¬ holding (phase t)) (hp : ¬ holding p) (hq : ¬ queued p) :
    LockUsers queued holding (lock.giveUp t) (Function.update phase t p) := by
  refine h.move ht hp (h.ordered.giveUp t) (AsyncLock.giveUp_locked lock t) fun b => ?_
  rw [AsyncLock.giveUp_waits]
  by_cases hb : b = t
  · simp [hb, hq]
  · simp [hb]

end LockUsers

end Py
