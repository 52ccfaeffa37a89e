/-
# Generators

A Python generator that is consumed to its end yields items and then either returns or raises; the
items it yielded before raising have already reached its consumer.  So a generator is here the list
of what it yields together with the exception that ends it, and a `for` loop over one is
`Gen.through`: each item feeds the body until somebody raises.

It is the shape in which a partial result is NOT lost.  An `Except` that fails has nothing to show,
and a model built on it would make every failure atomic; a loop that writes as it goes is not.

The rules say what a composed generator yields.  A loop whose passes never raise yields what its
passes yield, in order; in general it yields what the passes yield that it gets to, and `reached`
are the elements it gets to, up to the first whose pass raises.  What it never gets to stands
behind that one (`unreached`).  Between the two every element is accounted for.

Generators that are not consumed to their end are not modelled, and neither are values sent into
one.
-/
import BackupCollector.Py.Value

namespace Py

/-- What a generator yields, and the exception that ends it. -/
structure Gen (α : Type) where
  items : List α
  err : Option Err

namespace Gen

variable {α β : Type}

def empty : Gen α := ⟨[], none⟩

/-- `yield a` -/
def yield (a : α) : Gen α := ⟨[a], none⟩

/-- `raise e` -/
def raise (e : Err) : Gen α := ⟨[], some e⟩

/-- One generator after the other; the second one never starts when the first raises. -/
def andThen (g h : Gen α) : Gen α :=
  match g.err with
  | some _ => g
  | none => ⟨g.items ++ h.items, h.err⟩

/-- A value that may raise, and the generator that needs it. -/
def ofExcept (x : Except Err α) (f : α → Gen β) : Gen β :=
  match x with
  | .ok a => f a
  | .error e => raise e

/-- `for x in xs: yield from f(x)` -/
def each (f : β → Gen α) : List β → Gen α
  | [] => empty
  | x :: xs => (f x).andThen (each f xs)

/-- `for x in g: yield from f(x)` for a generator `g`. -/
def through (f : β → Gen α) (g : Gen β) : Gen α := (each f g.items).andThen ⟨[], g.err⟩

/-! ## What a composed generator yields -/

theorem mem_andThen {g h : Gen α} {a : α} (ha : a ∈ (g.andThen h).items) :
    a ∈ g.items ∨ a ∈ h.items := by
  unfold andThen at ha
  split at ha
  · exact Or.inl ha
  · exact List.mem_append.mp ha

theorem mem_ofExcept {x : Except Err α} {f : α → Gen β} {b : β} (hb : b ∈ (ofExcept x f).items) :
    ∃ a, x = .ok a ∧ b ∈ (f a).items := by
  cases x with
  | ok a => exact ⟨a, rfl, hb⟩
  | error e => exact absurd hb (by simp [ofExcept, raise])

/-- Everything a loop yields comes from one of its passes. -/
theorem mem_each {f : β → Gen α} {xs : List β} {a : α} (ha : a ∈ (each f xs).items) :
    ∃ x ∈ xs, a ∈ (f x).items := by
  induction xs with
  | nil => exact absurd ha (by simp [each, empty])
  | cons x xs ih =>
    rcases mem_andThen ha with h | h
    · exact ⟨x, by simp, h⟩
    · obtain ⟨y, hy, h'⟩ := ih h
      exact ⟨y, List.mem_cons_of_mem x hy, h'⟩

theorem mem_through {f : β → Gen α} {g : Gen β} {a : α} (ha : a ∈ (through f g).items) :
    ∃ x ∈ g.items, a ∈ (f x).items := by
  rcases mem_andThen ha with h | h
  · exact mem_each h
  · exact absurd h (by simp)

theorem andThen_of_ok {g h : Gen α} (hg : g.err = none) :
    g.andThen h = ⟨g.items ++ h.items, h.err⟩ := by
  simp [andThen, hg]

/-- A loop whose passes never raise yields what its passes yield, in order. -/
theorem each_of_ok {f : β → Gen α} {xs : List β} (h : ∀ x ∈ xs, (f x).err = none) :
    each f xs = ⟨xs.flatMap (fun x => (f x).items), none⟩ := by
  induction xs with
  | nil => rfl
  | cons x xs ih =>
    have hxs := ih (fun y hy => h y (List.mem_cons_of_mem x hy))
    rw [each, andThen_of_ok (h x (by simp)), hxs, List.flatMap_cons]

/-- A loop that does not raise has no pass that does. -/
theorem err_of_each {f : β → Gen α} {xs : List β} (h : (each f xs).err = none) : ∀ x ∈ xs, (f x).err = none := by
  induction xs with
  | nil => simp
  | cons x xs ih =>
    unfold each andThen at h
    cases hx : (f x).err with
    | some e =>
      rw [hx] at h
      dsimp only at h
      rw [hx] at h
      cases h
    | none =>
      rw [hx] at h
      intro y hy
      rcases List.mem_cons.mp hy with rfl | hy
      · exact hx
      · exact ih h y hy

theorem andThen_items (g h : Gen α) :
    (g.andThen h).items = g.items ++ (if g.err.isNone then h.items else []) := by
  unfold andThen
  cases g.err with
  | none => rfl
  | some e => exact (List.append_nil _).symm

/-- The elements a loop gets to: all of them up to the first whose pass raises. -/
def reached (f : β → Gen α) : List β → List β
  | [] => []
  | x :: xs => x :: (if (f x).err.isNone then reached f xs else [])

theorem reached_of_ok {f : β → Gen α} {xs : List β} (h : ∀ x ∈ xs, (f x).err = none) : reached f xs = xs := by
  induction xs with
  | nil => rfl
  | cons x xs ih =>
    rw [reached, h x (by simp), ih fun y hy => h y (List.mem_cons_of_mem x hy)]
    rfl

/-- A loop yields what the passes it gets to yield. -/
theorem each_items (f : β → Gen α) (xs : List β) :
    (each f xs).items = (reached f xs).flatMap (fun x => (f x).items) := by
  induction xs with
  | nil => rfl
  | cons x xs ih =>
    rw [each, andThen_items, reached, List.flatMap_cons, ih]
    split <;> rfl

theorem mem_of_mem_reached {f : β → Gen α} {xs : List β} {x : β} (h : x ∈ reached f xs) : x ∈ xs := by
  induction xs with
  | nil => exact h
  | cons y ys ih =>
    rcases List.mem_cons.mp h with rfl | h
    · exact List.mem_cons_self
    · split at h
      · exact List.mem_cons_of_mem y (ih h)
      · simp at h

/-- When a pass that raises yields nothing, a loop yields what the passes before it yield. -/
theorem each_items_of_silent {f : β → Gen α} {p : β → Bool} {xs : List β} (hp : ∀ x ∈ xs, p x = (f x).err.isNone)
    (hsilent : ∀ x ∈ xs, p x = false → (f x).items = []) :
    (each f xs).items = (xs.takeWhile p).flatMap fun x => (f x).items := by
  induction xs with
  | nil => rfl
  | cons x xs ih =>
    have hrest := ih (fun y hy => hp y (List.mem_cons_of_mem x hy)) fun y hy => hsilent y (List.mem_cons_of_mem x hy)
    rw [each, andThen_items, ← hp x List.mem_cons_self, hrest, List.takeWhile_cons]
    cases hx : p x with
    | true => simp
    | false => simp [hsilent x List.mem_cons_self hx]

/-- The elements a loop never gets to: those behind the first whose pass raises. -/
def unreached (f : β → Gen α) : List β → List β
  | [] => []
  | x :: xs => if (f x).err.isNone then unreached f xs else xs

theorem reached_append_unreached (f : β → Gen α) (xs : List β) : reached f xs ++ unreached f xs = xs := by
  induction xs with
  | nil => rfl
  | cons x xs ih =>
    rw [reached, unreached, List.cons_append]
    split
    · rw [ih]
    · rfl

/-- What a loop never gets to stands behind an element whose pass raises. -/
theorem mem_unreached {f : β → Gen α} {xs : List β} {x : β} :
    x ∈ unreached f xs ↔ ∃ before y after, xs = before ++ y :: after ∧ (f y).err ≠ none ∧ x ∈ after := by
  induction xs with
  | nil => simp [unreached]
  | cons z zs ih =>
    rw [unreached]
    split
    · rename_i hz
      rw [ih]
      constructor
      · rintro ⟨before, y, after, rfl, hy, hx⟩
        exact ⟨z :: before, y, after, rfl, hy, hx⟩
      · rintro ⟨before, y, after, heq, hy, hx⟩
        cases before with
        | nil =>
          obtain ⟨rfl, rfl⟩ := List.cons.inj heq
          exact absurd (Option.isNone_iff_eq_none.mp hz) hy
        | cons w before =>
          obtain ⟨rfl, rfl⟩ := List.cons.inj heq
          exact ⟨before, y, after, rfl, hy, hx⟩
    · rename_i hz
      constructor
      · exact fun hx => ⟨[], z, zs, rfl, fun h => hz (Option.isNone_iff_eq_none.mpr h), hx⟩
      · rintro ⟨before, y, after, heq, -, hx⟩
        cases before with
        | nil =>
          obtain ⟨rfl, rfl⟩ := List.cons.inj heq
          exact hx
        | cons w before =>
          obtain ⟨rfl, rfl⟩ := List.cons.inj heq
          exact List.mem_append_right _ (List.mem_cons_of_mem y hx)

/-- Passes that each yield one item or none filter what they loop over. -/
theorem flatMap_ite_singleton (p : β → Prop) [DecidablePred p] (f : β → α) (xs : List β) :
    xs.flatMap (fun x => if p x then [f x] else []) = (xs.filter fun x => decide (p x)).map f := by
  induction xs with
  | nil => rfl
  | cons x xs ih =>
    rw [List.flatMap_cons, ih, List.filter_cons]
    by_cases h : p x <;> simp [h]

theorem through_of_ok {f : β → Gen α} {g : Gen β} (h : ∀ x ∈ g.items, (f x).err = none) :
    through f g = ⟨g.items.flatMap (fun x => (f x).items), g.err⟩ := by
  rw [through, each_of_ok h, andThen_of_ok rfl, List.append_nil]

end Gen

end Py
