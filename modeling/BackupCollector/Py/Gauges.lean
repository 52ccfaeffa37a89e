/-
# Gauges that are only ever set

A gauge child keeps the value it was last set to, and is never removed.  What it reads after a
history of runs is therefore what the LAST run that set it wrote, however long ago that was, and
the question about any exporter is which of its children can be out of date.

* A child that every run sets shows the latest run (`shown_concat_of_some`), and runs that leave
  it alone, because they fail or are about something else, do not count (`shown_append_of_none`).
* A child that a run sets only when it has something other than the resting value to show goes
  back to rest on no run.  It shows the latest run, after each run of a history, exactly when no
  later run has nothing to show where an earlier one had something: `Sets` is what such a run does
  to the child, `shows_latest_iff` the law, and `shows_carried_iff` the law where only some of the
  runs are about the child at all.

A run is the list of its writes, a write is a child and a value, and a child may be anything with
decidable equality.  The last section is for children that are a gauge with label values, and for
the three ways such a child is commonly written.  Nothing here says what a value means; the
resting value is a parameter, and so is what a run has to show.
-/
import BackupCollector.Py.Store

namespace Py.Gauges

variable {κ ν β : Type} [DecidableEq κ] [DecidableEq ν]

/-! ## 1. One run -/

/-- What a run does to the child `k`: it sets it to `now b`, unless that is the resting value. -/
def Sets (writes : β → List (κ × ν)) (now : β → ν) (rest : ν) (k : κ) (b : β) : Prop :=
  Dict.lastWrite (writes b) k = if now b = rest then none else some (now b)

/-- What the child `k` reads after a list of runs; a child that was never set reads the resting
value. -/
def shown (writes : β → List (κ × ν)) (rest : ν) (k : κ) (bs : List β) : ν :=
  (Dict.get? (Dict.written (bs.flatMap writes)) k).getD rest

omit [DecidableEq ν] in
@[simp] theorem shown_nil (writes : β → List (κ × ν)) (rest : ν) (k : κ) : shown writes rest k [] = rest := by
  simp [shown, Dict.written]

/-- One more run: what it sets, or what stood there. -/
theorem shown_concat {writes : β → List (κ × ν)} {now : β → ν} {rest : ν} {k : κ} {b : β} (bs : List β)
    (h : Sets writes now rest k b) :
    shown writes rest k (bs ++ [b]) = if now b = rest then shown writes rest k bs else now b := by
  have hlast : Dict.lastWrite (writes b) k = if now b = rest then none else some (now b) := h
  unfold shown
  simp only [Dict.written_get?, List.flatMap_append, List.flatMap_singleton, Dict.lastWrite_append, hlast]
  by_cases hb : now b = rest
  · simp [hb]
  · simp [hb]

omit [DecidableEq ν] in
/-- A run that leaves the child alone changes nothing. -/
theorem shown_concat_of_none {writes : β → List (κ × ν)} {k : κ} {b : β} (rest : ν) (bs : List β)
    (h : Dict.lastWrite (writes b) k = none) : shown writes rest k (bs ++ [b]) = shown writes rest k bs := by
  unfold shown
  simp [Dict.written_get?, Dict.lastWrite_append, h]

/-! ## 2. A history -/

/-- The child shows the latest run, after each run of a history.  It is about every prefix, so a
child that is right only at the end does not count. -/
def ShowsLatest (writes : β → List (κ × ν)) (now : β → ν) (rest : ν) (k : κ) (bs : List β) : Prop :=
  ∀ cs b, cs ++ [b] <+: bs → shown writes rest k (cs ++ [b]) = now b

/-- Where a run has something to show, so has every later one. -/
def Lasting (now : β → ν) (rest : ν) (bs : List β) : Prop :=
  bs.Pairwise fun a b => now a ≠ rest → now b ≠ rest

omit [DecidableEq ν] in
theorem Lasting.of_prefix {now : β → ν} {rest : ν} {as bs : List β} (h : Lasting now rest bs) (hp : as <+: bs) :
    Lasting now rest as :=
  List.Pairwise.sublist hp.sublist h

/-- A child that no run of a history had anything to show for is at rest. -/
theorem shown_eq_rest {writes : β → List (κ × ν)} {now : β → ν} {rest : ν} {k : κ} {bs : List β}
    (hsets : ∀ b ∈ bs, Sets writes now rest k b) (hrest : ∀ b ∈ bs, now b = rest) :
    shown writes rest k bs = rest := by
  induction bs using List.reverseRecOn with
  | nil => exact shown_nil writes rest k
  | append_singleton bs b ih =>
    simp only [List.mem_append, List.mem_singleton, or_imp, forall_and, forall_eq] at hsets hrest
    rw [shown_concat bs hsets.2, if_pos hrest.2]
    exact ih hsets.1 hrest.1

/-- In a history where nothing is lost the child shows the last run. -/
theorem shown_of_lasting {writes : β → List (κ × ν)} {now : β → ν} {rest : ν} {k : κ} {bs : List β} {b : β}
    (hsets : ∀ a ∈ bs ++ [b], Sets writes now rest k a) (h : Lasting now rest (bs ++ [b])) :
    shown writes rest k (bs ++ [b]) = now b := by
  have hb : Sets writes now rest k b := hsets b (by simp)
  rw [shown_concat bs hb]
  by_cases hnow : now b = rest
  · rw [if_pos hnow, hnow]
    refine shown_eq_rest (fun a ha => hsets a (List.mem_append_left [b] ha)) fun a ha => ?_
    by_contra hne
    exact (List.pairwise_append.mp h).2.2 a ha b (by simp) hne hnow
  · rw [if_neg hnow]

/-- The child shows the latest run throughout exactly when nothing that was shown is lost. -/
theorem shows_latest_iff {writes : β → List (κ × ν)} {now : β → ν} {rest : ν} {k : κ} {bs : List β}
    (hsets : ∀ b ∈ bs, Sets writes now rest k b) :
    ShowsLatest writes now rest k bs ↔ Lasting now rest bs := by
  constructor
  · intro h
    induction bs using List.reverseRecOn with
    | nil => exact List.Pairwise.nil
    | append_singleton bs b ih =>
      have hearlier : Lasting now rest bs :=
        ih (fun a ha => hsets a (List.mem_append_left [b] ha)) fun cs a hp =>
          h cs a (hp.trans (List.prefix_append bs [b]))
      have hlast : shown writes rest k (bs ++ [b]) = now b := h bs b (List.prefix_refl _)
      rw [shown_concat bs (hsets b (by simp))] at hlast
      refine List.pairwise_append.mpr ⟨hearlier, List.pairwise_singleton _ _, ?_⟩
      intro a ha b' hb' hne hrest
      obtain rfl : b' = b := List.mem_singleton.mp hb'
      rw [if_pos hrest, hrest] at hlast
      -- the run before `b'` still shows something, and that is what `b'` leaves standing
      obtain ⟨cs, c, hbs⟩ := (List.eq_nil_or_concat bs).resolve_left (List.ne_nil_of_mem ha)
      rw [List.concat_eq_append] at hbs
      subst hbs
      have hc : shown writes rest k (cs ++ [c]) = now c := h cs c (List.prefix_append _ _)
      have hcrest : now c = rest := hc.symm.trans hlast
      rcases List.mem_append.mp ha with hcs | hlastmem
      · exact (List.pairwise_append.mp hearlier).2.2 a hcs c (by simp) hne hcrest
      · exact hne ((List.mem_singleton.mp hlastmem) ▸ hcrest)
  · intro h cs b hp
    exact shown_of_lasting (fun a ha => hsets a (hp.subset ha)) (h.of_prefix hp)

/-! ## 3. Runs that leave a child alone -/

omit [DecidableEq ν] in
/-- Runs that leave the child alone do not count. -/
theorem shown_filter {writes : β → List (κ × ν)} {carries : β → Bool} {rest : ν} {k : κ} {bs : List β}
    (hskip : ∀ b ∈ bs, carries b = false → Dict.lastWrite (writes b) k = none) :
    shown writes rest k (bs.filter carries) = shown writes rest k bs := by
  induction bs using List.reverseRecOn with
  | nil => rfl
  | append_singleton bs b ih =>
    have hbs := ih fun a ha => hskip a (List.mem_append_left [b] ha)
    rw [List.filter_append]
    by_cases hb : carries b = true
    · have hone : [b].filter carries = [b] := by simp [hb]
      rw [hone]
      unfold shown at hbs ⊢
      simp only [Dict.written_get?, List.flatMap_append, Dict.lastWrite_append] at hbs ⊢
      cases Dict.lastWrite ([b].flatMap writes) k with
      | some v => rfl
      | none => exact hbs
    · have hnone : [b].filter carries = [] := by simp [hb]
      rw [hnone, List.append_nil, hbs]
      exact (shown_concat_of_none rest bs (hskip b (by simp) (Bool.eq_false_iff.mpr hb))).symm

/-- A prefix of the runs that carry the child is what a prefix of all runs carries, cut after one
that does. -/
theorem prefix_filter_concat {carries : β → Bool} {bs cs : List β} {b : β} :
    cs ++ [b] <+: bs.filter carries ↔ ∃ ds, ds.filter carries = cs ∧ carries b = true ∧ ds ++ [b] <+: bs := by
  constructor
  · intro h
    obtain ⟨l, hl, hcut⟩ := List.prefix_filter_iff.mp h
    obtain ⟨l₁, l₂, rfl, hcs, hb⟩ := List.filter_eq_append_iff.mp hcut.symm
    obtain ⟨l₃, l₄, rfl, hskip, hcarries, -⟩ := List.filter_eq_cons_iff.mp hb
    refine ⟨l₁ ++ l₃, ?_, hcarries, ?_⟩
    · rw [List.filter_append, hcs, List.filter_eq_nil_iff.mpr hskip, List.append_nil]
    · refine List.IsPrefix.trans ⟨l₄, ?_⟩ hl
      simp
  · rintro ⟨ds, rfl, hb, h⟩
    have hfilter := h.filter carries
    rwa [List.filter_append, List.filter_cons_of_pos hb, List.filter_nil] at hfilter

/-- After each run that carries the child it shows that run, exactly when nothing that was shown is
lost among the runs that carry it. -/
theorem shows_carried_iff {writes : β → List (κ × ν)} {now : β → ν} {carries : β → Bool} {rest : ν} {k : κ} {bs : List β}
    (hsets : ∀ b ∈ bs, carries b = true → Sets writes now rest k b)
    (hskip : ∀ b ∈ bs, carries b = false → Dict.lastWrite (writes b) k = none) :
    (∀ cs b, cs ++ [b] <+: bs → carries b = true → shown writes rest k (cs ++ [b]) = now b) ↔
      Lasting now rest (bs.filter carries) := by
  have hcarried : ∀ b ∈ bs.filter carries, Sets writes now rest k b := fun b hb =>
    hsets b (List.mem_of_mem_filter hb) (List.of_mem_filter hb)
  have hshown : ∀ ds b, ds ++ [b] <+: bs → carries b = true →
      shown writes rest k (ds.filter carries ++ [b]) = shown writes rest k (ds ++ [b]) := by
    intro ds b hp hb
    rw [← shown_filter fun a ha => hskip a (hp.subset ha)]
    simp [hb]
  rw [← shows_latest_iff hcarried]
  constructor
  · rintro h cs b hp
    obtain ⟨ds, rfl, hb, hds⟩ := prefix_filter_concat.mp hp
    rw [hshown ds b hds hb]
    exact h ds b hds hb
  · intro h cs b hp hb
    rw [← hshown cs b hp hb]
    exact h _ b (prefix_filter_concat.mpr ⟨cs, rfl, hb, hp⟩)

/-! ## 4. Children that are always set -/

omit [DecidableEq ν] in
/-- A run that sets the child decides what it reads. -/
theorem shown_concat_of_some {writes : β → List (κ × ν)} {k : κ} {b : β} {v : ν} (rest : ν) (bs : List β)
    (h : Dict.lastWrite (writes b) k = some v) : shown writes rest k (bs ++ [b]) = v := by
  unfold shown
  simp [Dict.written_get?, Dict.lastWrite_append, h]

omit [DecidableEq ν] in
/-- Runs that leave the child alone change nothing. -/
theorem shown_append_of_none {writes : β → List (κ × ν)} {k : κ} (rest : ν) (bs : List β) {cs : List β}
    (h : ∀ b ∈ cs, Dict.lastWrite (writes b) k = none) : shown writes rest k (bs ++ cs) = shown writes rest k bs := by
  induction cs using List.reverseRecOn with
  | nil => rw [List.append_nil]
  | append_singleton cs b ih =>
    rw [← List.append_assoc, shown_concat_of_none rest (bs ++ cs) (h b (by simp))]
    exact ih fun a ha => h a (List.mem_append_left [b] ha)

/-! ## 5. One gauge among several -/

section Several

variable {γ ρ : Type} [DecidableEq γ] [DecidableEq ρ]

/-- A write to a child of the gauge. -/
def isOf (gauge : γ) (w : (γ × ρ) × ν) : Bool := decide (w.1.1 = gauge)

omit [DecidableEq ρ] [DecidableEq ν] in
@[simp] theorem isOf_mk (gauge gauge' : γ) (labels : ρ) (value : ν) :
    isOf gauge ((gauge', labels), value) = decide (gauge' = gauge) := rfl

omit [DecidableEq ρ] [DecidableEq ν] in
/-- One write for each element, to another gauge. -/
theorem filter_map_of_ne {α : Type} {gauge : γ} {f : α → (γ × ρ) × ν} (h : ∀ a, (f a).1.1 ≠ gauge) (xs : List α) :
    (xs.map f).filter (isOf gauge) = [] := by
  refine List.filter_eq_nil_iff.mpr fun w hw => ?_
  obtain ⟨a, -, rfl⟩ := List.mem_map.mp hw
  simpa [isOf] using h a

omit [DecidableEq ρ] [DecidableEq ν] in
/-- Some writes for each element, all of them to other gauges. -/
theorem filter_flatMap_of_nil {α : Type} {gauge : γ} {f : α → List ((γ × ρ) × ν)} (h : ∀ a, (f a).filter (isOf gauge) = [])
    (xs : List α) : (xs.flatMap f).filter (isOf gauge) = [] := by
  rw [List.filter_flatMap, List.flatMap_eq_nil_iff]
  exact fun a _ => h a

omit [DecidableEq ν] in
/-- A child is written by the writes to its gauge. -/
theorem lastWrite_filter_isOf (gauge : γ) (labels : ρ) (ws : List ((γ × ρ) × ν)) :
    Dict.lastWrite (ws.filter (isOf gauge)) (gauge, labels) = Dict.lastWrite ws (gauge, labels) := by
  unfold Dict.lastWrite
  rw [List.filter_filter]
  congr 2
  refine List.filter_congr fun w _ => ?_
  by_cases hw : w.1 = (gauge, labels)
  · simp [hw, isOf]
  · simp [hw]

/-- `if value is not None: child.set(value)` -/
def setIfKnown (child : κ) (value : Json) : List (κ × Json) := if value = .null then [] else [(child, value)]

omit [DecidableEq ρ] in
theorem filter_setIfKnown {gauge gauge' : γ} (h : gauge' ≠ gauge) (labels : ρ) (value : Json) :
    (setIfKnown (gauge', labels) value).filter (isOf gauge) = [] := by
  unfold setIfKnown
  split
  · rfl
  · simp [isOf, h]

/-- `for label, value in values.items(): child(label).set(value)` -/
def setEach {α : Type} (child : α → κ) (values : Dict α ν) : List (κ × ν) := values.map fun p => (child p.1, p.2)

omit [DecidableEq ν] in
/-- A mapping sets the child of each of its keys, and no other. -/
theorem lastWrite_setEach {α : Type} [DecidableEq α] {child : α → κ} (hchild : Function.Injective child) {values : Dict α ν}
    (hnodup : (Dict.keys values).Nodup) (a : α) : Dict.lastWrite (setEach child values) (child a) = Dict.get? values a := by
  unfold setEach
  rw [Dict.lastWrite_map, ← Dict.lastWrite_of_nodup hnodup]
  simp only [hchild.eq_iff]
  rfl

omit [DecidableEq ρ] [DecidableEq ν] in
theorem filter_setEach {α : Type} (gauge : γ) (labels : α → ρ) (values : Dict α ν) :
    (setEach (fun a => (gauge, labels a)) values).filter (isOf gauge) = setEach (fun a => (gauge, labels a)) values := by
  refine List.filter_eq_self.mpr fun w hw => ?_
  obtain ⟨p, -, rfl⟩ := List.mem_map.mp hw
  exact decide_eq_true rfl

end Several

end Py.Gauges
