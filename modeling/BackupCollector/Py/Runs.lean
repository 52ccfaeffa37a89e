/-
# Runs of a step relation

A run is the list of the steps it takes, each a state with the event that happens in it, and the
state it ends in.  Two things are known of runs in general.

* What one step preserves, a run preserves (`Trace.invariant`).  Where a step preserves something
  only under a condition on the state and the event, a run whose steps all meet the condition
  preserves it (`Trace.invariant_of`); that is the form in which a claim about every run is
  repaired when some steps break it.
* A log that several queues are emptied into stays in order under a condition on the one step
  that writes it (`FedInOrder`).  Every queue holds stamped items in the order of their stamps; an
  item may go to the log when no other queue holds an older one that is the same in some respect.
  This is the shape of concurrent workers that finish in another order than they began.

Nothing here says that a run is fair, or ends.
-/
import Mathlib.Order.Basic
import Mathlib.Logic.Function.Basic
import Mathlib.Data.List.Basic

namespace Py

/-! ## 1. Runs and invariants -/

section Runs

variable {σ ε : Type*} {step : σ → ε → σ → Prop}

/-- A run, from the state it starts in. -/
inductive Trace (step : σ → ε → σ → Prop) (s : σ) : List (σ × ε) → σ → Prop
  | start : Trace step s [] s
  | next {xs : List (σ × ε)} {m m' : σ} {e : ε} : Trace step s xs m → step m e m' → Trace step s (xs ++ [(m, e)]) m'

/-- The states a run passes through, the last one included. -/
def visited (xs : List (σ × ε)) (s : σ) : List σ := xs.map Prod.fst ++ [s]

theorem mem_visited_snoc {xs : List (σ × ε)} {m m' x : σ} {e : ε} :
    x ∈ visited (xs ++ [(m, e)]) m' ↔ x ∈ visited xs m ∨ x = m' := by
  unfold visited
  simp [or_assoc]

theorem self_mem_visited (xs : List (σ × ε)) (s : σ) : s ∈ visited xs s := by
  unfold visited
  simp

namespace Trace

/-- What every step preserves holds in every state of a run. -/
theorem invariant {P : σ → Prop} (hstep : ∀ s e s', P s → step s e s' → P s') {s s' : σ} {xs : List (σ × ε)}
    (h : Trace step s xs s') (hs : P s) : ∀ m ∈ visited xs s', P m := by
  induction h with
  | start =>
    intro m hm
    rw [List.mem_singleton.mp hm]
    exact hs
  | next _ hnext ih =>
    intro m hm
    rcases mem_visited_snoc.mp hm with hm | rfl
    · exact ih m hm
    · exact hstep _ _ _ (ih _ (self_mem_visited _ _)) hnext

/-- What every step that meets the condition preserves holds in every state of a run of such steps. -/
theorem invariant_of {P : σ → Prop} {C : σ → ε → Prop} (hstep : ∀ s e s', P s → C s e → step s e s' → P s') {s s' : σ}
    {xs : List (σ × ε)} (h : Trace step s xs s') (hs : P s) (hmet : ∀ x ∈ xs, C x.1 x.2) : ∀ m ∈ visited xs s', P m := by
  induction h with
  | start =>
    intro m hm
    rw [List.mem_singleton.mp hm]
    exact hs
  | @next xs m₁ m₂ e _ hnext ih =>
    have hbefore := ih (fun x hx => hmet x (List.mem_append_left _ hx))
    intro m hm
    rcases mem_visited_snoc.mp hm with hm | rfl
    · exact hbefore m hm
    · exact hstep _ _ _ (hbefore _ (self_mem_visited _ _)) (hmet _ (List.mem_append_right _ (List.mem_singleton_self _))) hnext

/-- A step of a run, with the state after it. -/
theorem step_of_mem {s s' : σ} {xs : List (σ × ε)} (h : Trace step s xs s') {m : σ} {e : ε} (hm : (m, e) ∈ xs) :
    ∃ m' ∈ visited xs s', step m e m' := by
  induction h with
  | start => cases hm
  | next _ hnext ih =>
    rcases List.mem_append.mp hm with hm | hm
    · obtain ⟨m', hm', hstep⟩ := ih hm
      exact ⟨m', mem_visited_snoc.mpr (.inl hm'), hstep⟩
    · cases List.mem_singleton.mp hm
      exact ⟨_, self_mem_visited _ _, hnext⟩

theorem mem_visited_of_mem {s' m : σ} {e : ε} {xs : List (σ × ε)} (hm : (m, e) ∈ xs) : m ∈ visited xs s' :=
  List.mem_append_left _ (List.mem_map.mpr ⟨(m, e), hm, rfl⟩)

end Trace

end Runs

/-! ## 2. A log that queues are emptied into -/

section Feeds

variable {α β N : Type*} [Preorder N]

/-- The queues and the log, newest first, up to the stamp `now`: the log is in order, no queue
holds anything older than what was logged of the same, each queue is in order, and nothing is later
than now. -/
structure FedInOrder (same : β → β → Prop) (stamp : β → N) (now : N) (queues : α → List β) (log : List β) : Prop where
  sorted : log.Pairwise fun later earlier => same later earlier → stamp earlier ≤ stamp later
  ahead : ∀ a, ∀ p ∈ queues a, ∀ x ∈ log, same p x → stamp x ≤ stamp p
  queued : ∀ a, (queues a).Pairwise fun p q => stamp p ≤ stamp q
  pending : ∀ a, ∀ p ∈ queues a, stamp p ≤ now
  logged : ∀ x ∈ log, stamp x ≤ now

namespace FedInOrder

variable {same : β → β → Prop} {stamp : β → N} {now : N} {queues : α → List β} {log : List β}

theorem start (now : N) : FedInOrder same stamp now (fun _ : α => []) [] where
  sorted := List.Pairwise.nil
  ahead _ _ h := nomatch h
  queued _ := List.Pairwise.nil
  pending _ _ h := nomatch h
  logged _ h := nomatch h

theorem later (h : FedInOrder same stamp now queues log) {now' : N} (hnow : now ≤ now') :
    FedInOrder same stamp now' queues log :=
  ⟨h.sorted, h.ahead, h.queued, fun a p hp => (h.pending a p hp).trans hnow, fun x hx => (h.logged x hx).trans hnow⟩

variable [DecidableEq α]

/-- A queue loses items. -/
theorem shrink (h : FedInOrder same stamp now queues log) {a : α} {q : List β} (hq : q.Sublist (queues a)) :
    FedInOrder same stamp now (Function.update queues a q) log := by
  have hsub : ∀ b, (Function.update queues a q b).Sublist (queues b) := by
    intro b
    by_cases hb : b = a
    · subst hb
      rw [Function.update_self]
      exact hq
    · rw [Function.update_of_ne hb]
  exact ⟨h.sorted, fun b p hp => h.ahead b p ((hsub b).subset hp), fun b => (h.queued b).sublist (hsub b),
    fun b p hp => h.pending b p ((hsub b).subset hp), h.logged⟩

/-- A queue gets an item that is stamped now. -/
theorem append (h : FedInOrder same stamp now queues log) {a : α} {p : β} (hp : stamp p = now) :
    FedInOrder same stamp now (Function.update queues a (queues a ++ [p])) log := by
  have hmem : ∀ b, ∀ q ∈ Function.update queues a (queues a ++ [p]) b, q ∈ queues b ∨ q = p := by
    intro b q hq
    by_cases hb : b = a
    · subst hb
      rw [Function.update_self] at hq
      rcases List.mem_append.mp hq with hq | hq
      · exact .inl hq
      · exact .inr (List.mem_singleton.mp hq)
    · rw [Function.update_of_ne hb] at hq
      exact .inl hq
  refine ⟨h.sorted, fun b q hq x hx hsame => ?_, fun b => ?_, fun b q hq => ?_, h.logged⟩
  · rcases hmem b q hq with hq | rfl
    · exact h.ahead b q hq x hx hsame
    · rw [hp]
      exact h.logged x hx
  · by_cases hb : b = a
    · subst hb
      rw [Function.update_self]
      refine List.pairwise_append.mpr ⟨h.queued b, List.pairwise_singleton _ _, fun q hq q' hq' => ?_⟩
      rw [List.mem_singleton.mp hq', hp]
      exact h.pending b q hq
    · rw [Function.update_of_ne hb]
      exact h.queued b
  · rcases hmem b q hq with hq | rfl
    · exact h.pending b q hq
    · exact hp.le

/-- A queue puts its first item, and no other queue has an older one. -/
theorem put (h : FedInOrder same stamp now queues log) {a : α} {p : β} {rest : List β} (ha : queues a = p :: rest)
    (hothers : ∀ b, b ≠ a → ∀ q ∈ queues b, same q p → stamp p ≤ stamp q) :
    FedInOrder same stamp now (Function.update queues a rest) (p :: log) := by
  have hp : p ∈ queues a := by
    rw [ha]
    exact List.mem_cons_self
  have hshrunk := h.shrink (a := a) (q := rest) (by rw [ha]; exact List.sublist_cons_self p rest)
  refine ⟨List.Pairwise.cons (fun x hx hsame => h.ahead a p hp x hx hsame) h.sorted, fun b q hq x hx hsame => ?_,
    hshrunk.queued, hshrunk.pending, fun x hx => ?_⟩
  · rcases List.mem_cons.mp hx with rfl | hx
    · by_cases hb : b = a
      · subst hb
        rw [Function.update_self] at hq
        have hqueued := h.queued b
        rw [ha] at hqueued
        exact List.rel_of_pairwise_cons hqueued hq
      · rw [Function.update_of_ne hb] at hq
        exact hothers b hb q hq hsame
    · exact hshrunk.ahead b q hq x hx hsame
  · rcases List.mem_cons.mp hx with rfl | hx
    · exact h.pending a x hp
    · exact h.logged x hx

/-- A queue puts all its items, and no other queue has an older one. -/
theorem putAll {a : α} : ∀ (items log : List β) (queues : α → List β), FedInOrder same stamp now queues log →
    queues a = items → (∀ p ∈ items, ∀ b, b ≠ a → ∀ q ∈ queues b, same q p → stamp p ≤ stamp q) →
    FedInOrder same stamp now (Function.update queues a []) (items.reverse ++ log)
  | [], log, queues, h, ha, _ => by
    have hshrunk := h.shrink (a := a) (q := []) (List.nil_sublist _)
    exact hshrunk
  | p :: rest, log, queues, h, ha, hothers => by
    have hput := h.put ha (hothers p List.mem_cons_self)
    have hall := putAll rest (p :: log) (Function.update queues a rest) hput (Function.update_self ..)
      (fun p' hp' b hb q hq => by
        rw [Function.update_of_ne hb] at hq
        exact hothers p' (List.mem_cons_of_mem _ hp') b hb q hq)
    rw [Function.update_idem] at hall
    rw [List.reverse_cons, List.append_assoc]
    exact hall

end FedInOrder

/-- The first item of a kind in a log in order is the newest of the kind. -/
theorem newest_of_find? {R : β → β → Prop} {kind : β → Bool} {l : List β} (hl : l.Pairwise R) {a x : β}
    (ha : l.find? kind = some a) (hx : x ∈ l) (hkind : kind x = true) : x = a ∨ R a x := by
  induction l with
  | nil => cases hx
  | cons y l ih =>
    rw [List.pairwise_cons] at hl
    rw [List.find?_cons] at ha
    split at ha
    · obtain rfl := Option.some.inj ha
      rcases List.mem_cons.mp hx with rfl | hx
      · exact .inl rfl
      · exact .inr (hl.1 x hx)
    · rename_i hy
      rcases List.mem_cons.mp hx with rfl | hx
      · rw [hkind] at hy
        cases hy
      · exact ih hl.2 ha hx

end Feeds

end Py
