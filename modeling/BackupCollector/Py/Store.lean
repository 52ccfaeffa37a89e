/-
# A store of keyed documents

Writing a document under a key replaces whatever stood there: a run of writes leaves, for each
key, the last document written to it.  `written_get?` says so.

The questions about a store are mostly about a CLASS of documents, those of one backup or of one
job, and a class is a predicate on documents while the store is keyed otherwise.  Two rules
connect the two.

* `written_filter_eq_singleton_iff`: when all writes of a class go to one key, the store holds
  exactly one document of the class just if the last write to that key is of the class.  Writes
  from outside the class may have gone there too; the last one decides.
* `written_filter_of_class`: when the class is exactly what is written to the key, the one
  document is the last one written, without further ado.  This is what deduplication rests on.

Keys are compared with `DecidableEq`.  Nothing is ever deleted from such a store, and a write
cannot fail.
-/
import BackupCollector.Py.Value
import Mathlib.Tactic.Ring

namespace Py

namespace Dict

variable {κ ν : Type} [DecidableEq κ]

/-- The store a run of writes leaves. -/
def written (ws : List (κ × ν)) : Dict κ ν := update [] ws

/-- The last value a run of writes gives a key. -/
def lastWrite (ws : List (κ × ν)) (k : κ) : Option ν :=
  (ws.filter (fun w => decide (w.1 = k))).getLast?.map Prod.snd

theorem lastWrite_cons (w : κ × ν) (ws : List (κ × ν)) (k : κ) :
    lastWrite (w :: ws) k = (lastWrite ws k).or (if w.1 = k then some w.2 else none) := by
  unfold lastWrite
  by_cases h : w.1 = k
  · simp only [List.filter_cons, h, decide_true, if_true, List.getLast?_cons]
    cases (ws.filter (fun w => decide (w.1 = k))).getLast? <;> simp
  · simp [h]

/-- Reading after a run of writes: the last one to the key, else what stood there before. -/
theorem get?_update (d : Dict κ ν) (ws : List (κ × ν)) (k : κ) :
    get? (update d ws) k = (lastWrite ws k).or (get? d k) := by
  induction ws generalizing d with
  | nil => simp [lastWrite]
  | cons w ws ih =>
    rw [update_cons, ih, lastWrite_cons, get?_set]
    by_cases h : w.1 = k
    · simp only [h, if_true]
      cases lastWrite ws k <;> rfl
    · simp only [h, if_false, Option.or_none]

theorem written_get? (ws : List (κ × ν)) (k : κ) : get? (written ws) k = lastWrite ws k := by
  rw [written, get?_update]
  simp

theorem lastWrite_append (ws vs : List (κ × ν)) (k : κ) :
    lastWrite (ws ++ vs) k = (lastWrite vs k).or (lastWrite ws k) := by
  induction ws with
  | nil => simp [lastWrite]
  | cons w ws ih => rw [List.cons_append, lastWrite_cons, lastWrite_cons, ih, Option.or_assoc]

theorem lastWrite_eq_none {ws : List (κ × ν)} {k : κ} (h : ∀ w ∈ ws, w.1 ≠ k) : lastWrite ws k = none := by
  unfold lastWrite
  rw [List.filter_eq_nil_iff.mpr fun w hw => by simp [h w hw]]
  rfl

/-- The last write of a list of items is that of the last item written to the key. -/
theorem lastWrite_map {ι : Type} (xs : List ι) (key : ι → κ) (value : ι → ν) (k : κ) :
    lastWrite (xs.map fun x => (key x, value x)) k = (xs.filter fun x => decide (key x = k)).getLast?.map value := by
  unfold lastWrite
  rw [List.filter_map, List.getLast?_map, Option.map_map]
  rfl

/-- A last write is one of the writes. -/
theorem mem_of_lastWrite {ws : List (κ × ν)} {k : κ} {v : ν} (h : lastWrite ws k = some v) : (k, v) ∈ ws := by
  obtain ⟨w, hlast, hv⟩ := Option.map_eq_some_iff.mp h
  obtain ⟨hw, hk⟩ := List.mem_filter.mp (List.mem_of_getLast? hlast)
  have he : w = (k, v) := Prod.ext (of_decide_eq_true hk) hv
  exact he ▸ hw

/-- When all writes to a key agree, their value is the last one. -/
theorem lastWrite_eq_some {ws : List (κ × ν)} {k : κ} {v : ν} (hmem : (k, v) ∈ ws)
    (h : ∀ w ∈ ws, w.1 = k → w.2 = v) : lastWrite ws k = some v := by
  cases hl : lastWrite ws k with
  | none =>
    have hnil := Option.map_eq_none_iff.mp hl
    rw [List.getLast?_eq_none_iff, List.filter_eq_nil_iff] at hnil
    exact absurd (decide_eq_true rfl) (hnil (k, v) hmem)
  | some u =>
    have hu : u = v := h (k, u) (mem_of_lastWrite hl) rfl
    rw [hu]

theorem lastWrite_of_nodup {d : Dict κ ν} (h : (keys d).Nodup) (k : κ) : lastWrite d k = get? d k := by
  cases hg : get? d k with
  | some v =>
    refine lastWrite_eq_some (mem_of_get? hg) fun w hw hk => ?_
    have hw' : (k, w.2) ∈ d := hk ▸ hw
    rw [get?_of_mem h hw'] at hg
    exact Option.some.inj hg
  | none =>
    refine lastWrite_eq_none fun w hw hk => ?_
    have hw' : (k, w.2) ∈ d := hk ▸ hw
    rw [get?_of_mem h hw'] at hg
    cases hg

theorem nodup_keys_update {d : Dict κ ν} (h : (keys d).Nodup) (ws : List (κ × ν)) :
    (keys (update d ws)).Nodup := by
  induction ws generalizing d with
  | nil => exact h
  | cons w ws ih => exact ih (nodup_keys_set h w.1 w.2)

theorem nodup_keys_written (ws : List (κ × ν)) : (keys (written ws)).Nodup :=
  nodup_keys_update (by simp [keys]) ws

/-- A key stands in the store exactly when some write went to it. -/
theorem mem_keys_written {ws : List (κ × ν)} {k : κ} : k ∈ keys (written ws) ↔ ∃ w ∈ ws, w.1 = k := by
  rw [← get?_isSome_iff, written_get?, lastWrite, Option.isSome_map, List.getLast?_isSome]
  simp

/-- An entry of the store is the last write to its key. -/
theorem mem_written {ws : List (κ × ν)} {k : κ} {v : ν} :
    (k, v) ∈ written ws ↔ lastWrite ws k = some v := by
  rw [← written_get?]
  exact ⟨get?_of_mem (nodup_keys_written ws), mem_of_get?⟩

omit [DecidableEq κ] in
/-- Of distinct keys, those of a class that is about one key are that key only. -/
theorem filter_eq_singleton {d : Dict κ ν} (h : (keys d).Nodup) {k : κ} {v : ν} (hm : (k, v) ∈ d)
    {p : κ × ν → Bool} (hp : p (k, v) = true) (huniq : ∀ e ∈ d, p e = true → e.1 = k) : d.filter p = [(k, v)] := by
  induction d with
  | nil => simp at hm
  | cons e d ih =>
    simp only [keys, List.map_cons, List.nodup_cons] at h
    have hrest : e.1 = k → d.filter p = [] := by
      intro he
      refine List.filter_eq_nil_iff.mpr fun f hf hpf => h.1 ?_
      rw [he, ← huniq f (List.mem_cons_of_mem e hf) hpf]
      exact List.mem_map_of_mem hf
    rcases List.mem_cons.mp hm with he | hm'
    · subst he
      rw [List.filter_cons, if_pos hp, hrest rfl]
    · have hek : e.1 ≠ k := fun he => h.1 (he ▸ List.mem_map.mpr ⟨_, hm', rfl⟩)
      have hpe : ¬ p e = true := fun hpe => hek (huniq e (by simp) hpe)
      rw [List.filter_cons, if_neg hpe]
      exact ih h.2 hm' fun f hf => huniq f (List.mem_cons_of_mem e hf)

/-- Of a filtered dictionary a key has its value, if the entry passes. -/
theorem get?_filter {d : Dict κ ν} (hnodup : (keys d).Nodup) (p : κ × ν → Bool) (k : κ) :
    get? (d.filter p) k = (get? d k).filter fun v => p (k, v) := by
  induction d with
  | nil => rfl
  | cons e d ih =>
    obtain ⟨l, v⟩ := e
    obtain ⟨hfresh, hrest⟩ := List.nodup_cons.mp hnodup
    have hnone : l = k → get? d k = none := by
      intro hl
      rw [← Option.not_isSome_iff_eq_none, get?_isSome_iff, ← hl]
      exact hfresh
    rw [List.filter_cons, get?_cons]
    by_cases hp : p (l, v) = true
    · rw [if_pos hp, get?_cons]
      by_cases hl : l = k
      · subst hl
        simp [Option.filter, hp]
      · rw [if_neg hl, if_neg hl]
        exact ih hrest
    · rw [if_neg hp, ih hrest]
      by_cases hl : l = k
      · subst hl
        simp [Option.filter, hp, hnone rfl]
      · rw [if_neg hl]

theorem mem_of_mem_written {ws : List (κ × ν)} {e : κ × ν} (h : e ∈ written ws) : e ∈ ws :=
  mem_of_lastWrite (mem_written.mp h)

/-- When the writes of a class all go to one key, the store holds one entry of the class exactly
when the last write to the key is of the class. -/
theorem written_filter_eq_singleton_iff {ws : List (κ × ν)} {p : κ × ν → Bool} {k : κ}
    (huniq : ∀ w ∈ ws, p w = true → w.1 = k) {e : κ × ν} :
    (written ws).filter p = [e] ↔ e.1 = k ∧ lastWrite ws k = some e.2 ∧ p e = true := by
  constructor
  · intro h
    obtain ⟨hmem, hpe⟩ := List.mem_filter.mp (h ▸ List.mem_singleton_self e : e ∈ (written ws).filter p)
    have hkey := huniq e (mem_of_mem_written hmem) hpe
    exact ⟨hkey, hkey ▸ mem_written.mp hmem, hpe⟩
  · rintro ⟨rfl, hlast, hpe⟩
    exact filter_eq_singleton (nodup_keys_written ws) (mem_written.mpr hlast) hpe fun e' he' hpe' =>
      huniq e' (mem_of_mem_written he') hpe'

/-- When the writes of a class are exactly the writes to one key, the store holds one entry of
the class, the last one written. -/
theorem written_filter_of_class {ws : List (κ × ν)} {p : κ × ν → Bool} {k : κ}
    (hclass : ∀ w ∈ ws, p w = true ↔ w.1 = k) (hex : ∃ w ∈ ws, p w = true) :
    ∃ v, (ws.filter p).getLast? = some (k, v) ∧ (written ws).filter p = [(k, v)] := by
  have hsame : ws.filter p = ws.filter fun w => decide (w.1 = k) := List.filter_congr fun w hw =>
    Bool.eq_iff_iff.mpr ((hclass w hw).trans decide_eq_true_iff.symm)
  obtain ⟨w, hw, hpw⟩ := hex
  have hne : ws.filter p ≠ [] := List.ne_nil_of_mem (List.mem_filter.mpr ⟨hw, hpw⟩)
  obtain ⟨⟨k', v⟩, hlast⟩ := Option.isSome_iff_exists.mp (List.getLast?_isSome.mpr hne)
  obtain ⟨hmem, hp⟩ := List.mem_filter.mp (List.mem_of_getLast? hlast)
  obtain rfl : k' = k := (hclass _ hmem).mp hp
  refine ⟨v, hlast, (written_filter_eq_singleton_iff fun w hw hp => (hclass w hw).mp hp).mpr ⟨rfl, ?_, hp⟩⟩
  rw [lastWrite, ← hsame, hlast]
  rfl

/-- A store that is only written under one key holds the last value written. -/
theorem written_of_single {ws : List (κ × ν)} {w : κ × ν} (huniq : ∀ x ∈ ws, x.1 = w.1)
    (hlast : ws.getLast? = some w) : written ws = [w] := by
  obtain ⟨v, hv, hstore⟩ := written_filter_of_class (p := fun _ => true) (k := w.1)
    (fun x hx => iff_of_true rfl (huniq x hx)) ⟨w, List.mem_of_getLast? hlast, rfl⟩
  rw [List.filter_true, hlast] at hv
  rw [List.filter_true] at hstore
  rw [hstore, Option.some.inj hv]

/-- Two dictionaries with the same keys in the same order: what one reads, so does the other. -/
theorem get?_of_forall₂ {μ : Type} {R : κ → ν → μ → Prop} {d : Dict κ ν} {e : Dict κ μ}
    (h : List.Forall₂ (fun p q => q.1 = p.1 ∧ R p.1 p.2 q.2) d e) (k : κ) :
    match get? d k with
    | none => get? e k = none
    | some v => ∃ w, get? e k = some w ∧ R k v w := by
  induction h with
  | nil => rfl
  | @cons p q d e hpq _ ih =>
    obtain ⟨l, v⟩ := p
    obtain ⟨l', w⟩ := q
    obtain ⟨hkey, hr⟩ := hpq
    obtain rfl : l' = l := hkey
    by_cases hl : l' = k
    · subst hl
      simpa using hr
    · simpa [hl] using ih

omit [DecidableEq κ] in
theorem keys_of_forall₂ {μ : Type} {R : κ → ν → μ → Prop} {d : Dict κ ν} {e : Dict κ μ}
    (h : List.Forall₂ (fun p q => q.1 = p.1 ∧ R p.1 p.2 q.2) d e) : keys e = keys d := by
  induction h with
  | nil => rfl
  | cons hpq _ ih =>
    unfold keys at ih ⊢
    rw [List.map_cons, List.map_cons, hpq.1, ih]

omit [DecidableEq κ] in
/-- The keys of a dictionary that a loop fills, one entry per pass. -/
theorem keys_of_mapM {α : Type} {f : α → Except Err (κ × ν)} {key : α → κ} (hkey : ∀ a p, f a = .ok p → p.1 = key a)
    {xs : List α} {d : Dict κ ν} (h : xs.mapM f = .ok d) : keys d = xs.map key := by
  replace h := mapM_eq_ok.mp h
  induction h with
  | nil => rfl
  | cons hp _ ih =>
    unfold keys at ih ⊢
    rw [List.map_cons, List.map_cons, hkey _ _ hp, ih]

/-- Of a dictionary whose values are mapped, some of them to nothing, a key has what its value is
mapped to. -/
theorem get?_filterMap {μ : Type} {d : Dict κ ν} (hnodup : (keys d).Nodup) (f : κ → ν → Option μ) (k : κ) :
    get? (d.filterMap fun p => (f p.1 p.2).map fun v => (p.1, v)) k = (get? d k).bind (f k) := by
  induction d with
  | nil => rfl
  | cons e d ih =>
    obtain ⟨l, v⟩ := e
    obtain ⟨hfresh, hrest⟩ := List.nodup_cons.mp hnodup
    have hnone : l = k → get? d k = none := by
      intro hl
      rw [← Option.not_isSome_iff_eq_none, get?_isSome_iff, ← hl]
      exact hfresh
    rw [List.filterMap_cons, get?_cons]
    by_cases hl : l = k
    · subst hl
      cases hv : f l v with
      | none => simp [hv, ih hrest, hnone rfl]
      | some w => simp [hv]
    · cases hv : f l v with
      | none => simp [ih hrest, hl]
      | some w => simp [ih hrest, hl]

omit [DecidableEq κ] in
/-- The keys that are mapped to something. -/
theorem nodup_keys_filterMap {μ : Type} {d : Dict κ ν} (hnodup : (keys d).Nodup) (f : κ → ν → Option μ) :
    (keys (d.filterMap fun p => (f p.1 p.2).map fun v => (p.1, v))).Nodup := by
  refine hnodup.sublist ?_
  induction d with
  | nil => exact List.Sublist.slnil
  | cons e d ih =>
    rw [List.filterMap_cons]
    cases f e.1 e.2 with
    | none => exact (ih (List.nodup_cons.mp hnodup).2).cons e.1
    | some v => exact (ih (List.nodup_cons.mp hnodup).2).cons_cons e.1

/-- The keys of an update are the keys of both. -/
theorem mem_keys_update {d e : Dict κ ν} {k : κ} : k ∈ keys (update d e) ↔ k ∈ keys d ∨ k ∈ keys e := by
  induction e generalizing d with
  | nil => simp [update, keys]
  | cons w e ih =>
    have hcons : update d (w :: e) = update (set d w.1 w.2) e := rfl
    rw [hcons, ih, mem_keys_set]
    simp only [keys, List.map_cons, List.mem_cons]
    tauto

/-- A loop that writes what each pass makes writes all of it, when every pass makes something. -/
theorem foldlM_update {α : Type} {f : α → Except Err (List (κ × ν))} {xs : List α} {d e : Dict κ ν}
    (h : (xs.foldlM (fun d x => do
      let ws ← f x
      return update d ws) d) = .ok e) : ∃ wss, List.Forall₂ (fun x ws => f x = .ok ws) xs wss ∧ e = update d wss.flatten := by
  induction xs generalizing d with
  | nil => exact ⟨[], List.Forall₂.nil, (Except.ok.inj h).symm⟩
  | cons x xs ih =>
    rw [List.foldlM_cons] at h
    obtain ⟨next, hnext, h⟩ := bind_eq_ok.mp h
    obtain ⟨ws, hws, hnext⟩ := bind_eq_ok.mp hnext
    obtain ⟨wss, hwss, rfl⟩ := ih h
    refine ⟨ws :: wss, List.Forall₂.cons hws hwss, ?_⟩
    rw [← Except.ok.inj hnext, List.flatten_cons]
    unfold update
    rw [List.foldl_append]

/-! ## What a dictionary adds up to

Every value is measured by a number.  Setting a key takes the measure of the old value away and
adds that of the new one, and a counter adds up to the number of its elements. -/

section Sums

/-- The sum of the measures of the values. -/
def total (m : ν → Int) (d : Dict κ ν) : Int := ((values d).map m).sum

omit [DecidableEq κ] in
theorem total_cons (m : ν → Int) (p : κ × ν) (d : Dict κ ν) : total m (p :: d) = m p.2 + total m d := rfl

/-- Setting a key changes the sum by the new value's measure minus the old one's. -/
theorem total_set (m : ν → Int) (d : Dict κ ν) (k : κ) (v : ν) :
    total m (set d k v) = total m d - ((get? d k).map m).getD 0 + m v := by
  induction d with
  | nil => simp [set, total, values]
  | cons p d ih =>
    obtain ⟨l, w⟩ := p
    unfold set
    split
    · rename_i hkey
      rw [get?_cons, if_pos hkey, total_cons, total_cons, Option.map_some, Option.getD_some]
      ring
    · rename_i hkey
      rw [get?_cons, if_neg hkey, total_cons, total_cons, ih]
      ring

/-- Changing the value of a key, or a default that measures nothing, changes the sum by the difference. -/
theorem total_modify {m : ν → Int} (d : Dict κ ν) (k : κ) {z : ν} (hz : m z = 0) (f : ν → ν) :
    total m (modify d k z f) = total m d - m ((get? d k).getD z) + m (f ((get? d k).getD z)) := by
  unfold modify
  rw [total_set]
  cases get? d k with
  | none => simp [hz]
  | some v => rfl

theorem total_counter (ks : List κ) : total (fun n : Nat => (n : Int)) (counter ks) = ks.length := by
  induction ks using List.reverseRecOn with
  | nil => rfl
  | append_singleton ks k ih =>
    have hzero : ((0 : Nat) : Int) = 0 := rfl
    rw [counter_concat, total_modify (m := fun n : Nat => (n : Int)) _ _ hzero, ih, List.length_append,
      List.length_singleton]
    push_cast
    ring

end Sums

end Dict

end Py
