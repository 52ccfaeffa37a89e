/-
# Python dictionaries, JSON values and exceptions

A dictionary is an association list in insertion order: `set` replaces a value in place and appends
a new key at the end, which is what Python's `dict` does and what the order of `dict.values()`
depends on.  A JSON value is what `json.loads` can return, with integers and floats apart.

The lookup lemmas `Dict.get?_set` and `Dict.get?_update` are the whole interface the later files
use: a document built by a chain of merges is read key by key with them, and never unfolded.  They
are simp lemmas, and so is the injectivity of literals that decides whether two constant keys are
the same.

An exception is its class and its text.  The classes are those that the program's code tells apart
in an `except`; a computation that may raise is an `Except`, and the first lemmas say when one that
is made of parts returns or raises.  Loops that yield before they raise need more and are in
`Py/Gen`.

That the keys of a dictionary are distinct is not part of the type, since `json.loads` of an object
with a repeated key and a dictionary built by `set` both keep it, and most lemmas do not need it;
`nodup_keys_set` is for those that do.
-/
import BackupCollector.Py.Str

namespace Py

/-! ## 1. Exceptions

Binding, mapping and comprehensions, for what returns and for what raises. -/

/-- The exception classes the program's code can meet. -/
inductive ErrKind where
  | valueError | typeError | keyError | overflowError | unicodeEncodeError | attributeError
  | runtimeError | other
deriving DecidableEq, Repr

/-- An exception: its class and its text. -/
structure Err where
  kind : ErrKind
  msg : Str
deriving DecidableEq

/-- `ValueError(msg)` -/
def valueError (msg : Str) : Err := ⟨.valueError, msg⟩

/-- A computation that may raise returns exactly when its first part does and the rest does. -/
theorem bind_eq_ok {α β : Type} {x : Except Err α} {f : α → Except Err β} {b : β} :
    (x >>= f) = .ok b ↔ ∃ a, x = .ok a ∧ f a = .ok b := by
  cases x with
  | ok a =>
    refine ⟨fun h => ⟨a, rfl, h⟩, ?_⟩
    rintro ⟨_, ha, h⟩
    rw [Except.ok.inj ha]
    exact h
  | error e =>
    refine ⟨fun h => (nomatch h), ?_⟩
    rintro ⟨_, ha, _⟩
    exact nomatch ha

/-- And raises exactly when its first part does, or the rest. -/
theorem bind_eq_error {α β : Type} {x : Except Err α} {f : α → Except Err β} {e : Err} :
    (x >>= f) = .error e ↔ x = .error e ∨ ∃ a, x = .ok a ∧ f a = .error e := by
  cases x with
  | ok a =>
    refine ⟨fun h => Or.inr ⟨a, rfl, h⟩, ?_⟩
    rintro (h | ⟨_, ha, h⟩)
    · cases h
    · rw [Except.ok.inj ha]
      exact h
  | error e' =>
    refine ⟨fun h => Or.inl (congrArg _ (Except.error.inj h)), ?_⟩
    rintro (h | ⟨_, ha, _⟩)
    · exact congrArg _ (Except.error.inj h)
    · cases ha

theorem ok_of_isOk {α : Type} {x : Except Err α} (h : x.isOk = true) : ∃ a, x = .ok a := by
  cases x with
  | ok a => exact ⟨a, rfl⟩
  | error e => exact absurd h (by simp [Except.isOk, Except.toBool])

theorem map_eq_ok {α β : Type} {x : Except Err α} {f : α → β} {b : β} :
    x.map f = .ok b ↔ ∃ a, x = .ok a ∧ f a = b := by
  cases x with
  | ok a => simp [Except.map]
  | error e => simp [Except.map]

/-- A comprehension over a list raises at the first element that does; otherwise it has one
result per element. -/
theorem mapM_eq_ok {α β : Type} {f : α → Except Err β} : ∀ {xs : List α} {ys : List β},
    xs.mapM f = .ok ys ↔ List.Forall₂ (fun x y => f x = .ok y) xs ys
  | [], ys => by
    rw [List.mapM_nil, List.forall₂_nil_left_iff]
    exact ⟨fun h => (Except.ok.inj h).symm, fun h => by rw [h]; rfl⟩
  | x :: xs, ys => by
    rw [List.mapM_cons, bind_eq_ok]
    constructor
    · rintro ⟨y, hy, h⟩
      obtain ⟨zs, hzs, h'⟩ := bind_eq_ok.mp h
      rw [← Except.ok.inj h']
      exact List.Forall₂.cons hy (mapM_eq_ok.mp hzs)
    · intro h
      cases h with
      | cons hy hys => exact ⟨_, hy, bind_eq_ok.mpr ⟨_, mapM_eq_ok.mpr hys, rfl⟩⟩

/-- What a comprehension raises, one of its elements raised. -/
theorem mapM_eq_error {α β : Type} {f : α → Except Err β} {xs : List α} {e : Err} (h : xs.mapM f = .error e) :
    ∃ x ∈ xs, f x = .error e := by
  induction xs with
  | nil => cases h
  | cons x xs ih =>
    rw [List.mapM_cons] at h
    rcases bind_eq_error.mp h with h | ⟨y, -, h⟩
    · exact ⟨x, List.mem_cons_self, h⟩
    · rcases bind_eq_error.mp h with h | ⟨ys, -, h⟩
      · obtain ⟨z, hz, hfz⟩ := ih h
        exact ⟨z, List.mem_cons_of_mem x hz, hfz⟩
      · cases h

/-- Every element of the second list is related to one of the first. -/
theorem exists_of_forall₂ {α β : Type} {R : α → β → Prop} {xs : List α} {ys : List β}
    (h : List.Forall₂ R xs ys) : ∀ y ∈ ys, ∃ x ∈ xs, R x y := by
  induction h with
  | nil => simp
  | cons hr _ ih =>
    intro y hy
    rcases List.mem_cons.mp hy with rfl | hy
    · exact ⟨_, List.mem_cons_self, hr⟩
    · obtain ⟨x, hx, hxy⟩ := ih y hy
      exact ⟨x, List.mem_cons_of_mem _ hx, hxy⟩

/-- Every element of the first list is related to one of the second. -/
theorem exists_of_forall₂_left {α β : Type} {R : α → β → Prop} {xs : List α} {ys : List β}
    (h : List.Forall₂ R xs ys) : ∀ x ∈ xs, ∃ y, y ∈ ys ∧ R x y := by
  induction h with
  | nil => simp
  | cons hr _ ih =>
    intro x hx
    rcases List.mem_cons.mp hx with rfl | hx
    · exact ⟨_, List.mem_cons_self, hr⟩
    · obtain ⟨y, hy, hxy⟩ := ih x hx
      exact ⟨y, List.mem_cons_of_mem _ hy, hxy⟩

/-! ## 2. Insertion-ordered dictionaries

One write, a merge, and what is read afterwards. -/

/-- A `dict`, in insertion order. -/
abbrev Dict (κ ν : Type) := List (κ × ν)

namespace Dict

variable {κ ν : Type} [DecidableEq κ]

/-- `d.get(k)` -/
def get? : Dict κ ν → κ → Option ν
  | [], _ => none
  | (l, v) :: d, k => if l = k then some v else get? d k

/-- `d[k] = v` -/
def set : Dict κ ν → κ → ν → Dict κ ν
  | [], k, v => [(k, v)]
  | (l, w) :: d, k, v => if l = k then (l, v) :: d else (l, w) :: set d k v

/-- `d | e`, and `d.update(e)`: the right side wins. -/
def update (d e : Dict κ ν) : Dict κ ν := e.foldl (fun acc p => set acc p.1 p.2) d

/-- `d[k] = f(d[k])` for a `defaultdict` with default `z`. -/
def modify (d : Dict κ ν) (k : κ) (z : ν) (f : ν → ν) : Dict κ ν :=
  set d k (f ((get? d k).getD z))

def keys (d : Dict κ ν) : List κ := d.map Prod.fst

def values (d : Dict κ ν) : List ν := d.map Prod.snd

@[simp] theorem get?_nil (k : κ) : get? ([] : Dict κ ν) k = none := rfl

@[simp] theorem get?_cons (l k : κ) (v : ν) (d : Dict κ ν) :
    get? ((l, v) :: d) k = if l = k then some v else get? d k := rfl

/-- Reading after a write. -/
theorem get?_set (d : Dict κ ν) (k : κ) (v : ν) (k' : κ) :
    get? (set d k v) k' = if k = k' then some v else get? d k' := by
  induction d with
  | nil => rfl
  | cons p d ih =>
    obtain ⟨l, w⟩ := p
    by_cases h : l = k
    · subst h
      by_cases h' : l = k' <;> simp [set, h']
    · rw [set, if_neg h, get?_cons, get?_cons, ih]
      by_cases h' : l = k'
      · have hk : ¬ k = k' := fun e => h (h'.trans e.symm)
        rw [if_pos h', if_pos h', if_neg hk]
      · rw [if_neg h', if_neg h']

@[simp] theorem get?_set_self (d : Dict κ ν) (k : κ) (v : ν) : get? (set d k v) k = some v := by
  simp [get?_set]

theorem get?_set_ne (d : Dict κ ν) {k k' : κ} (v : ν) (h : k ≠ k') :
    get? (set d k v) k' = get? d k' := by
  simp [get?_set, h]

@[simp] theorem update_nil (d : Dict κ ν) : update d [] = d := rfl

@[simp] theorem update_cons (d e : Dict κ ν) (p : κ × ν) :
    update d (p :: e) = update (set d p.1 p.2) e := rfl

/-- Reading after a merge, at a key the right side does not have. -/
theorem get?_update_of_notMem {d e : Dict κ ν} {k : κ} (h : k ∉ keys e) :
    get? (update d e) k = get? d k := by
  induction e generalizing d with
  | nil => rfl
  | cons p e ih =>
    simp only [keys, List.map_cons, List.mem_cons, not_or] at h
    rw [update_cons, ih h.2, get?_set_ne _ _ (Ne.symm h.1)]

theorem get?_modify (d : Dict κ ν) (k : κ) (z : ν) (f : ν → ν) (k' : κ) :
    get? (modify d k z f) k' = if k = k' then some (f ((get? d k).getD z)) else get? d k' :=
  get?_set d k _ k'

theorem mem_of_get? {d : Dict κ ν} {k : κ} {v : ν} (h : get? d k = some v) : (k, v) ∈ d := by
  induction d with
  | nil => simp at h
  | cons p d ih =>
    obtain ⟨l, w⟩ := p
    by_cases hl : l = k
    · simp only [get?_cons, hl, if_true, Option.some.injEq] at h
      simp [hl, h]
    · simp only [get?_cons, hl, if_false] at h
      exact List.mem_cons_of_mem _ (ih h)

theorem get?_isSome_iff {d : Dict κ ν} {k : κ} : (get? d k).isSome = true ↔ k ∈ keys d := by
  induction d with
  | nil => simp [keys]
  | cons p d ih =>
    obtain ⟨l, w⟩ := p
    by_cases hl : l = k
    · simp [keys, hl]
    · have hl' : ¬ k = l := fun e => hl e.symm
      simp only [get?_cons, hl, if_false, ih, keys, List.map_cons, List.mem_cons, hl', false_or]

theorem mem_keys_set {d : Dict κ ν} {k k' : κ} {v : ν} :
    k' ∈ keys (set d k v) ↔ k' = k ∨ k' ∈ keys d := by
  rw [← get?_isSome_iff, ← get?_isSome_iff, get?_set]
  by_cases h : k = k'
  · simp [h]
  · have h' : ¬ k' = k := fun e => h e.symm
    simp [h, h']

/-- An entry after a write is an old one or the written one. -/
theorem mem_set {d : Dict κ ν} {k : κ} {v : ν} {p : κ × ν} (h : p ∈ set d k v) : p ∈ d ∨ p = (k, v) := by
  induction d with
  | nil => exact Or.inr (List.mem_singleton.mp h)
  | cons q d ih =>
    obtain ⟨l, w⟩ := q
    unfold set at h
    split at h
    · rename_i hl
      rcases List.mem_cons.mp h with rfl | h
      · exact Or.inr (by rw [hl])
      · exact Or.inl (List.mem_cons_of_mem _ h)
    · rcases List.mem_cons.mp h with rfl | h
      · exact Or.inl List.mem_cons_self
      · exact (ih h).imp (List.mem_cons_of_mem _) id

/-- A new key goes to the end. -/
theorem keys_set (d : Dict κ ν) (k : κ) (v : ν) :
    keys (set d k v) = if k ∈ keys d then keys d else keys d ++ [k] := by
  induction d with
  | nil => rfl
  | cons p d ih =>
    obtain ⟨l, w⟩ := p
    by_cases hl : l = k
    · simp [set, keys, hl]
    · have hl' : ¬ k = l := fun e => hl e.symm
      unfold keys at ih
      simp only [set, hl, if_false, keys, List.map_cons, ih, List.mem_cons, hl', false_or]
      split <;> rfl

/-- The keys of a dictionary are distinct; `set` keeps it so. -/
theorem nodup_keys_set {d : Dict κ ν} (h : (keys d).Nodup) (k : κ) (v : ν) :
    (keys (set d k v)).Nodup := by
  induction d with
  | nil => simp [set, keys]
  | cons p d ih =>
    obtain ⟨l, w⟩ := p
    simp only [keys, List.map_cons, List.nodup_cons] at h
    by_cases hl : l = k
    · simp only [set, hl, if_true, keys, List.map_cons, List.nodup_cons]
      exact hl ▸ h
    · have hmem : l ∉ keys (set d k v) := by
        rw [mem_keys_set]
        exact fun hc => hc.elim hl h.1
      simp only [set, hl, if_false, keys, List.map_cons, List.nodup_cons]
      exact ⟨hmem, ih h.2⟩

/-- In a dictionary with distinct keys the entries are the lookups. -/
theorem get?_of_mem {d : Dict κ ν} (h : (keys d).Nodup) {k : κ} {v : ν} (hm : (k, v) ∈ d) :
    get? d k = some v := by
  induction d with
  | nil => simp at hm
  | cons p d ih =>
    obtain ⟨l, w⟩ := p
    simp only [keys, List.map_cons, List.nodup_cons] at h
    rcases List.mem_cons.mp hm with he | hm'
    · simp only [Prod.mk.injEq] at he
      simp [he.1, he.2]
    · have hl : l ≠ k := by
        rintro rfl
        exact h.1 (List.mem_map.mpr ⟨_, hm', rfl⟩)
      rw [get?_cons, if_neg hl]
      exact ih h.2 hm'

/-! ### Counting -/

/-- `Counter(ks)` -/
def counter (ks : List κ) : Dict κ Nat := ks.foldl (fun d k => modify d k 0 (· + 1)) []

/-- One more count. -/
theorem counter_concat (ks : List κ) (k : κ) :
    counter (ks ++ [k]) = modify (counter ks) k 0 (· + 1) := by
  simp [counter]

/-- A counter holds exactly the keys that occur, each with the number of its occurrences. -/
theorem get?_counter (ks : List κ) (k : κ) :
    get? (counter ks) k = if k ∈ ks then some (ks.count k) else none := by
  induction ks using List.reverseRecOn with
  | nil => rfl
  | append_singleton ks l ih =>
    rw [counter_concat, get?_modify]
    by_cases h : l = k
    · subst h
      have hl : l ∈ ks ++ [l] := List.mem_append_right ks (List.mem_singleton_self l)
      have hc : [l].count l = 1 := by simp
      rw [if_pos rfl, if_pos hl, List.count_append, hc, ih]
      by_cases hm : l ∈ ks
      · rw [if_pos hm, Option.getD_some]
      · rw [if_neg hm, Option.getD_none, List.count_eq_zero_of_not_mem hm]
    · have hk : k ∈ ks ++ [l] ↔ k ∈ ks := by simp [Ne.symm h]
      have hc : [l].count k = 0 := List.count_eq_zero_of_not_mem (by simp [Ne.symm h])
      rw [if_neg h, ih, List.count_append, hc, Nat.add_zero]
      simp only [hk]

theorem get?_counter_countP (ks : List κ) (k : κ) :
    get? (counter ks) k = if k ∈ ks then some (ks.countP fun l => decide (l = k)) else none :=
  get?_counter ks k

theorem nodup_keys_counter (ks : List κ) : (keys (counter ks)).Nodup := by
  induction ks using List.reverseRecOn with
  | nil => simp [counter, keys]
  | append_singleton ks l ih =>
    rw [counter_concat]
    exact nodup_keys_set ih _ _

end Dict

/-! ## 3. JSON values

Values with their truth, their hash and their type tests. -/

/-- What `json.loads` returns. -/
inductive Json where
  | null
  | bool (b : Bool)
  | int (n : Int)
  | float (f : Float)
  | str (s : Str)
  | arr (xs : List Json)
  | obj (kvs : List (Str × Json))

instance : Inhabited Json := ⟨.null⟩

/-- A JSON object. -/
abbrev Obj := Dict Str Json

namespace Json

mutual

def beq : Json → Json → Bool
  | .null, .null => true
  | .bool a, .bool b => decide (a = b)
  | .int a, .int b => decide (a = b)
  | .float a, .float b => decide (a = b)
  | .str a, .str b => decide (a = b)
  | .arr a, .arr b => beqList a b
  | .obj a, .obj b => beqObj a b
  | _, _ => false

def beqList : List Json → List Json → Bool
  | [], [] => true
  | a :: as, b :: bs => beq a b && beqList as bs
  | _, _ => false

def beqObj : List (Str × Json) → List (Str × Json) → Bool
  | [], [] => true
  | (k, a) :: as, (l, b) :: bs => decide (k = l) && beq a b && beqObj as bs
  | _, _ => false

end

mutual

theorem beq_iff : ∀ a b : Json, beq a b = true ↔ a = b
  | .arr a, .arr b => by simp [beq, beqList_iff a b]
  | .obj a, .obj b => by simp [beq, beqObj_iff a b]
  | .null, b => by cases b <;> simp [beq]
  | .bool _, b => by cases b <;> simp [beq]
  | .int _, b => by cases b <;> simp [beq]
  | .float _, b => by cases b <;> simp [beq]
  | .str _, b => by cases b <;> simp [beq]
  | .arr _, .null | .arr _, .bool _ | .arr _, .int _ | .arr _, .float _ | .arr _, .str _
  | .arr _, .obj _ => by simp [beq]
  | .obj _, .null | .obj _, .bool _ | .obj _, .int _ | .obj _, .float _ | .obj _, .str _
  | .obj _, .arr _ => by simp [beq]

theorem beqList_iff : ∀ a b : List Json, beqList a b = true ↔ a = b
  | [], [] => by simp [beqList]
  | a :: as, b :: bs => by simp [beqList, beq_iff a b, beqList_iff as bs]
  | [], _ :: _ | _ :: _, [] => by simp [beqList]

theorem beqObj_iff : ∀ a b : List (Str × Json), beqObj a b = true ↔ a = b
  | [], [] => by simp [beqObj]
  | (k, a) :: as, (l, b) :: bs => by simp [beqObj, beq_iff a b, beqObj_iff as bs, and_assoc]
  | [], _ :: _ | _ :: _, [] => by simp [beqObj]

end

instance : DecidableEq Json := fun a b => decidable_of_iff _ (beq_iff a b)

/-- `bool(v)` -/
def truthy : Json → Bool
  | .null => false
  | .bool b => b
  | .int n => decide (n ≠ 0)
  | .float f => !(f == 0)
  | .str s => !s.isEmpty
  | .arr xs => !xs.isEmpty
  | .obj kvs => !kvs.isEmpty

/-- `a or b` -/
def orElse (a b : Json) : Json := if a.truthy then a else b

/-- Lists and dictionaries have no hash. -/
def hashable : Json → Bool
  | .arr _ | .obj _ => false
  | _ => true

/-- `isinstance(v, dict)`, with the dictionary. -/
def asObj? : Json → Option Obj
  | .obj d => some d
  | _ => none

def asStr? : Json → Option Str
  | .str s => some s
  | _ => none

def ofOption (f : α → Json) : Option α → Json
  | none => .null
  | some a => f a

end Json

/-- `d.get(k)` on a JSON object: `None` when the key is missing. -/
def Obj.get (d : Obj) (k : Str) : Json := (Dict.get? d k).getD .null

@[simp] theorem Obj.get_nil (k : Str) : Obj.get [] k = .null := rfl

@[simp] theorem Obj.get_cons (l k : Str) (v : Json) (d : Obj) :
    Obj.get ((l, v) :: d) k = if l = k then v else Obj.get d k := by
  unfold Obj.get
  rw [Dict.get?_cons]
  split <;> rfl

theorem Obj.get_set (d : Obj) (k : Str) (v : Json) (k' : Str) :
    Obj.get (Dict.set d k v) k' = if k = k' then v else Obj.get d k' := by
  unfold Obj.get
  rw [Dict.get?_set]
  split <;> rfl

theorem Obj.get_update_of_notMem {d e : Obj} {k : Str} (h : k ∉ Dict.keys e) :
    Obj.get (Dict.update d e) k = Obj.get d k := by
  unfold Obj.get
  rw [Dict.get?_update_of_notMem h]

end Py
