/-
# Computations that return, raise or ask

A Python function that calls others returns, or raises what one of them raised.  When it also
sends requests, what it sent before it raised has been sent.  The results about the clients need
all three: whether a computation returns, what it asked, and what of a plan it got to before it
raised.  So there are three layers here, each used by the next.

* *Returning.*  `Except` is asked whether it returned, part by part: of both halves of a sequence,
  of every element of a comprehension, and of every pass of a loop whose passes raise at their
  element and not at what they were handed.
* *Asking.*  A `Requests` computation carries the log of what it asked next to its outcome.  A
  sequence asks what its first part asks and, when that returned, what the rest asks; a loop that
  keeps the exceptions of its passes asks what all of them ask.
* *Following a plan.*  A computation follows a plan when it asks a part of the plan from its
  start, and all of it when it returns.  Sequences and loops follow the plans of their parts one
  after the other, so a computation that may raise anywhere is known by one list.  A `finally`
  clause asks after it, whatever became of it.

What the other party does with a request is not described: an answer is part of the outcome.
-/
import BackupCollector.Py.Value

namespace Py

/-! ## 1. Computations that return -/

section Returns

variable {α β : Type}

theorem isOk_iff {x : Except Err α} : x.isOk = true ↔ ∃ a, x = .ok a := by
  refine ⟨ok_of_isOk, ?_⟩
  rintro ⟨a, rfl⟩
  rfl

theorem isOk_bind {x : Except Err α} {f : α → Except Err β} :
    (x >>= f).isOk = true ↔ ∃ a, x = .ok a ∧ (f a).isOk = true := by
  cases x with
  | ok a => simp [bind, Except.bind]
  | error e => simp [bind, Except.bind, Except.isOk, Except.toBool]

theorem isOk_map {x : Except Err α} {f : α → β} : (x.map f).isOk = x.isOk := by
  cases x <;> rfl

theorem isOk_mapM {f : α → Except Err β} {xs : List α} :
    (xs.mapM f).isOk = true ↔ ∀ x ∈ xs, (f x).isOk = true := by
  induction xs with
  | nil => exact ⟨fun _ x hx => (nomatch hx), fun _ => rfl⟩
  | cons x xs ih =>
    rw [List.mapM_cons, isOk_bind, List.forall_mem_cons, ← ih, isOk_iff]
    constructor
    · rintro ⟨y, hy, h⟩
      obtain ⟨ys, hys, -⟩ := isOk_bind.mp h
      exact ⟨⟨y, hy⟩, isOk_iff.mpr ⟨ys, hys⟩⟩
    · rintro ⟨⟨y, hy⟩, h⟩
      obtain ⟨ys, hys⟩ := isOk_iff.mp h
      exact ⟨y, hy, isOk_bind.mpr ⟨ys, hys, rfl⟩⟩

theorem isOk_foldlM {f : β → α → Except Err β} (h : ∀ b b' a, (f b a).isOk = (f b' a).isOk) (b : β) {xs : List α} :
    (xs.foldlM f b).isOk = true ↔ ∀ a ∈ xs, (f b a).isOk = true := by
  induction xs generalizing b with
  | nil => exact ⟨fun _ x hx => (nomatch hx), fun _ => rfl⟩
  | cons x xs ih =>
    rw [List.foldlM_cons, isOk_bind, List.forall_mem_cons]
    constructor
    · rintro ⟨b', hb', hxs⟩
      exact ⟨isOk_iff.mpr ⟨b', hb'⟩, fun a ha => (h b b' a).trans ((ih b').mp hxs a ha)⟩
    · rintro ⟨hx, hxs⟩
      obtain ⟨b', hb'⟩ := isOk_iff.mp hx
      exact ⟨b', hb', (ih b').mpr fun a ha => (h b' b a).trans (hxs a ha)⟩

/-- A loop returns when each pass returns from what every pass leaves behind. -/
theorem isOk_foldlM_of_invariant {f : β → α → Except Err β} {P : β → Prop}
    (hstep : ∀ b a, P b → ∃ b', f b a = .ok b' ∧ P b') {b : β} (h : P b) (xs : List α) : (xs.foldlM f b).isOk = true := by
  induction xs generalizing b with
  | nil => rfl
  | cons x xs ih =>
    obtain ⟨b', hb', hP⟩ := hstep b x h
    rw [List.foldlM_cons]
    exact isOk_bind.mpr ⟨b', hb', ih hP⟩

/-- What every pass that returns preserves holds of what a loop returns. -/
theorem foldlM_invariant {f : β → α → Except Err β} {P : β → Prop} (hstep : ∀ b a b', P b → f b a = .ok b' → P b')
    {b b' : β} (h : P b) {xs : List α} (hloop : xs.foldlM f b = .ok b') : P b' := by
  induction xs generalizing b with
  | nil =>
    obtain rfl := Except.ok.inj hloop
    exact h
  | cons x xs ih =>
    rw [List.foldlM_cons] at hloop
    obtain ⟨next, hnext, hrest⟩ := bind_eq_ok.mp hloop
    exact ih (hstep b x next h hnext) hrest

end Returns

/-! ## 2. Computations that make requests -/

/-- What a computation asked, in order, and what it returned or raised. -/
structure Requests (ι ε α : Type) where
  log : List ι
  outcome : Except ε α

namespace Requests

variable {ι ε ε' α β γ : Type}

/-- A computation that asks nothing. -/
def lift (x : Except ε α) : Requests ι ε α := ⟨[], x⟩

/-- One request, with the answer it got. -/
def ask (r : ι) (a : α) : Requests ι ε α := ⟨[r], .ok a⟩

instance : Monad (Requests ι ε) where
  pure a := ⟨[], .ok a⟩
  bind x f := match x.outcome with
    | .ok a => ⟨x.log ++ (f a).log, (f a).outcome⟩
    | .error e => ⟨x.log, .error e⟩

/-- A loop that goes on after an exception and keeps what each pass returned or raised. -/
def each (f : γ → Requests ι ε α) (xs : List γ) : Requests ι ε' (List (γ × Except ε α)) :=
  ⟨xs.flatMap fun x => (f x).log, .ok (xs.map fun x => (x, (f x).outcome))⟩

theorem bind_of_ok {x : Requests ι ε α} {a : α} (h : x.outcome = .ok a) (f : α → Requests ι ε β) :
    x >>= f = ⟨x.log ++ (f a).log, (f a).outcome⟩ := by
  change (match x.outcome with
    | .ok a => (⟨x.log ++ (f a).log, (f a).outcome⟩ : Requests ι ε β)
    | .error e => ⟨x.log, .error e⟩) = _
  rw [h]

theorem bind_of_error {x : Requests ι ε α} {e : ε} (h : x.outcome = .error e) (f : α → Requests ι ε β) :
    x >>= f = ⟨x.log, .error e⟩ := by
  change (match x.outcome with
    | .ok a => (⟨x.log ++ (f a).log, (f a).outcome⟩ : Requests ι ε β)
    | .error e => ⟨x.log, .error e⟩) = _
  rw [h]

theorem ask_bind (r : ι) (a : α) (f : α → Requests ι ε β) : ask r a >>= f = ⟨r :: (f a).log, (f a).outcome⟩ := rfl

theorem lift_ok_bind (a : α) (f : α → Requests ι ε β) : lift (.ok a) >>= f = f a := rfl

theorem lift_error_bind (e : ε) (f : α → Requests ι ε β) : lift (.error e) >>= f = lift (.error e) := rfl

/-- A sequence returns what its second part returns for what its first part returned. -/
theorem outcome_bind {x : Requests ι ε α} {f : α → Requests ι ε β} {b : β} :
    (x >>= f).outcome = .ok b ↔ ∃ a, x.outcome = .ok a ∧ (f a).outcome = .ok b := by
  cases hx : x.outcome with
  | ok a => simp [bind_of_ok hx]
  | error e => simp [bind_of_error hx]

/-- What a sequence asks satisfies what both its parts' requests do. -/
theorem forall_log_bind {P : ι → Prop} {x : Requests ι ε α} {f : α → Requests ι ε β} (hx : ∀ r ∈ x.log, P r)
    (hf : ∀ a, x.outcome = .ok a → ∀ r ∈ (f a).log, P r) : ∀ r ∈ (x >>= f).log, P r := by
  intro r hr
  cases h : x.outcome with
  | ok a =>
    rw [bind_of_ok h] at hr
    rcases List.mem_append.mp hr with hr | hr
    · exact hx r hr
    · exact hf a h r hr
  | error e =>
    rw [bind_of_error h] at hr
    exact hx r hr

/-- The first part's requests are asked whatever comes after them. -/
theorem mem_log_bind {x : Requests ι ε α} {r : ι} (h : r ∈ x.log) (f : α → Requests ι ε β) : r ∈ (x >>= f).log := by
  cases hx : x.outcome with
  | ok a =>
    rw [bind_of_ok hx]
    exact List.mem_append_left _ h
  | error e =>
    rw [bind_of_error hx]
    exact h

theorem forall_log_lift {P : ι → Prop} (x : Except ε α) : ∀ r ∈ (lift x : Requests ι ε α).log, P r :=
  fun _ hr => (nomatch hr)

/-! ## 3. Computations that follow a plan

The plan is a list, and what a computation has asked is a prefix of it.  This is the invariant of
a session: whichever of its steps raises, one knows what was opened, and so what has to be
closed. -/

/-- One request that may raise. -/
def attempt (r : ι) (x : Except ε α) : Requests ι ε α := ⟨[r], x⟩

/-- `try: x finally: clean`: what is cleaned up may depend on what `x` got to, and what the clause
raises takes the place of what `x` returned or raised. -/
def andFinally (x : Requests ι ε α) (clean : List ι → Requests ι ε Unit) : Requests ι ε α :=
  ⟨x.log ++ (clean x.log).log, (clean x.log).outcome.bind fun _ => x.outcome⟩

/-- `x` asks what the plan says, in the plan's order, and all of it when it returns. -/
structure Follows (x : Requests ι ε α) (plan : List ι) : Prop where
  stays : x.log <+: plan
  completes : ∀ a, x.outcome = .ok a → x.log = plan

theorem follows_pure (a : α) : Follows (pure a : Requests ι ε α) [] := ⟨List.nil_prefix, fun _ _ => rfl⟩

theorem follows_lift (x : Except ε α) : Follows (lift x : Requests ι ε α) [] := ⟨List.nil_prefix, fun _ _ => rfl⟩

theorem follows_ask (r : ι) (a : α) : Follows (ask r a : Requests ι ε α) [r] := ⟨List.prefix_refl _, fun _ _ => rfl⟩

theorem follows_attempt (r : ι) (x : Except ε α) : Follows (attempt r x : Requests ι ε α) [r] :=
  ⟨List.prefix_refl _, fun _ _ => rfl⟩

/-- What raises has done a part of any plan. -/
theorem follows_raise (e : ε) (plan : List ι) : Follows (lift (.error e) : Requests ι ε α) plan :=
  ⟨List.nil_prefix, fun _ h => nomatch h⟩

/-- A sequence follows the plans of its parts. -/
theorem Follows.bind {x : Requests ι ε α} {f : α → Requests ι ε β} {before after : List ι} (hx : Follows x before)
    (hf : ∀ a, x.outcome = .ok a → Follows (f a) after) : Follows (x >>= f) (before ++ after) := by
  cases h : x.outcome with
  | ok a =>
    rw [bind_of_ok h]
    constructor
    · rw [hx.completes a h]
      exact (List.prefix_append_right_inj before).mpr (hf a h).stays
    · intro b hb
      rw [hx.completes a h, (hf a h).completes b hb]
  | error e =>
    rw [bind_of_error h]
    exact ⟨hx.stays.trans (List.prefix_append _ _), fun b hb => nomatch hb⟩

/-- A loop follows the plans of its passes. -/
theorem follows_foldlM {f : β → γ → Requests ι ε β} {plan : γ → List ι} (h : ∀ b x, Follows (f b x) (plan x))
    (xs : List γ) (b : β) : Follows (xs.foldlM f b) (xs.flatMap plan) := by
  induction xs generalizing b with
  | nil => exact follows_pure b
  | cons x xs ih =>
    rw [List.foldlM_cons, List.flatMap_cons]
    exact (h b x).bind fun next _ => ih next

/-- What a `finally` clause lets return has returned, and so has the clause. -/
theorem outcome_andFinally {x : Requests ι ε α} {clean : List ι → Requests ι ε Unit} {a : α}
    (h : (x.andFinally clean).outcome = .ok a) : x.outcome = .ok a ∧ (clean x.log).outcome = .ok () := by
  have houtcome : ((clean x.log).outcome.bind fun _ => x.outcome) = .ok a := h
  cases hclean : (clean x.log).outcome with
  | ok u =>
    rw [hclean] at houtcome
    exact ⟨houtcome, rfl⟩
  | error e =>
    rw [hclean] at houtcome
    cases houtcome

/-- With a `finally` clause, a computation does a part of its plan and cleans up after that part. -/
theorem log_andFinally {x : Requests ι ε α} {clean : List ι → Requests ι ε Unit} {plan : List ι} {cleaning : List ι → List ι}
    (hx : Follows x plan) (hclean : ∀ done, Follows (clean done) (cleaning done)) : ∃ done after,
      (x.andFinally clean).log = done ++ after ∧ done <+: plan ∧ after <+: cleaning done ∧
        ((clean done).outcome = .ok () → after = cleaning done) ∧
        ∀ a, (x.andFinally clean).outcome = .ok a → done = plan ∧ after = cleaning plan := by
  refine ⟨x.log, (clean x.log).log, rfl, hx.stays, (hclean _).stays, (hclean _).completes (), fun a ha => ?_⟩
  obtain ⟨hxa, hcleaned⟩ := outcome_andFinally ha
  have hdone := hx.completes a hxa
  exact ⟨hdone, by rw [← hdone]; exact (hclean _).completes () hcleaned⟩

end Requests

end Py
