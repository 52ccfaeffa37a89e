/-
# The text of a JSON value delimits itself

Where a value ends in a JSON text can be seen without reading the value: outside of strings, at the
nesting depth it began at, by a comma or a closing bracket.  `scan` finds that place, and
`scan_dumps` says it finds it after every value.  So two texts that begin with a value and go on
with a comma or a bracket agree value by value, which is what makes the digest of a document
determine its parts.

The alternative would be a parser and a round trip.  A parser would have to read numbers as the
interpreter writes them, floats included; the scan does not look at numbers at all, only at where
they stop.  What it costs is that a value is determined by its text only where something else says
so: for strings, whose quotation is injective (`quote_injective`), and for lists of them.

The induction is over the value, with `Passes` as its statement: a text that a scan at some depth
goes over and is where it was.  Strings are the delicate part, since a quote or a bracket in one
must not count, and an escape must not end early.

The text is that of `json.dumps` with sorted keys and non-ASCII characters kept.
-/
import BackupCollector.Py.Repr

namespace Py

/-! ## 1. Scanning to the end of a value

A scan has a mode and a depth. -/

/-- Where a scan is: outside of strings, in a string, or after a backslash in one. -/
inductive ScanMode where
  | outside | inside | escaped

def isOpening (c : Chr) : Bool := decide (c = chr '[') || decide (c = chr '\x7b')

def isClosing (c : Chr) : Bool := decide (c = chr ']') || decide (c = chr '\x7d')

/-- What ends a value at its own depth. -/
def isStop (c : Chr) : Bool := isClosing c || decide (c = chr ',')

/-- A text up to the end of the value it is in, and the rest. -/
def scan : Nat → ScanMode → Str → Str × Str
  | _, _, [] => ([], [])
  | d, .outside, c :: s =>
    if d = 0 ∧ isStop c = true then ([], c :: s)
    else
      let rest := if c = chr '"' then scan d .inside s
        else if isOpening c then scan (d + 1) .outside s
        else if isClosing c then scan (d - 1) .outside s
        else scan d .outside s
      (c :: rest.1, rest.2)
  | d, .inside, c :: s =>
    let rest := if c = chr '\\' then scan d .escaped s
      else if c = chr '"' then scan d .outside s
      else scan d .inside s
    (c :: rest.1, rest.2)
  | d, .escaped, c :: s =>
    let rest := scan d .inside s
    (c :: rest.1, rest.2)

/-- A text that a scan at some depth or deeper goes over and is where it was. -/
def Passes (least : Nat) (t : Str) : Prop :=
  ∀ d, least ≤ d → ∀ r, scan d .outside (t ++ r) = (t ++ (scan d .outside r).1, (scan d .outside r).2)

theorem Passes.mono {a b : Nat} (hab : a ≤ b) {t : Str} (h : Passes a t) : Passes b t :=
  fun d hd r => h d (hab.trans hd) r

theorem Passes.append {n : Nat} {t u : Str} (ht : Passes n t) (hu : Passes n u) : Passes n (t ++ u) := by
  intro d hd r
  rw [List.append_assoc, ht d hd, hu d hd]
  simp

theorem Passes.nil (n : Nat) : Passes n [] := fun _ _ _ => rfl

/-- Neither a quote nor a bracket nor a comma. -/
def isPlain (c : Chr) : Bool := !(decide (c = chr '"') || isOpening c || isStop c)

/-- A text without quotes, brackets and commas. -/
def Plain (t : Str) : Prop := ∀ c ∈ t, isPlain c = true

theorem Plain.lit {t : Str} (h : t.all isPlain = true) : Plain t := List.all_eq_true.mp h

theorem Passes.plain {t : Str} (h : Plain t) : Passes 0 t := by
  induction t with
  | nil => exact Passes.nil 0
  | cons c t ih =>
    intro d hd r
    have hc := h c List.mem_cons_self
    have ht := ih (fun x hx => h x (List.mem_cons_of_mem c hx)) d hd r
    simp only [isPlain, isStop, Bool.not_eq_true', Bool.or_eq_false_iff, decide_eq_false_iff_not] at hc
    obtain ⟨⟨hquote, hopen⟩, hclose, hcomma⟩ := hc
    rw [List.cons_append, scan]
    simp [isStop, hquote, hopen, hclose, hcomma, ht]

/-- A comma passes below the outermost depth. -/
theorem Passes.comma : Passes 1 [chr ','] := by
  intro d hd r
  have hd' : ¬ d = 0 := by omega
  have hquote : ¬ chr ',' = chr '"' := by decide
  have hopen : isOpening (chr ',') = false := by decide
  have hclose : isClosing (chr ',') = false := by decide
  rw [List.singleton_append, scan]
  simp [hd', hquote, hopen, hclose]

/-- Brackets around what passes below the outermost depth. -/
theorem Passes.brackets {o c : Chr} (ho : isOpening o = true) (hc : isClosing c = true)
    (hoq : o ≠ chr '"') (hos : isStop o = false) (hcq : c ≠ chr '"') (hco : isOpening c = false) {t : Str}
    (h : Passes 1 t) : Passes 0 (o :: t ++ [c]) := by
  intro d _ r
  have hinner : scan (d + 1) .outside (t ++ c :: r) =
      (t ++ c :: (scan d .outside r).1, (scan d .outside r).2) := by
    rw [h (d + 1) (by omega) (c :: r), scan]
    simp [hcq, hco, hc]
  have htext : o :: t ++ [c] ++ r = o :: (t ++ c :: r) := by simp
  rw [htext, scan]
  simp [hos, hoq, ho, hinner]

/-- What a scan in a string goes over without looking twice. -/
theorem scan_inside {t : Str} (h : ∀ c ∈ t, c ≠ chr '\\' ∧ c ≠ chr '"') (d : Nat) (r : Str) :
    scan d .inside (t ++ r) = (t ++ (scan d .inside r).1, (scan d .inside r).2) := by
  induction t with
  | nil => rfl
  | cons c t ih =>
    obtain ⟨hb, hq⟩ := h c List.mem_cons_self
    rw [List.cons_append, scan]
    simp [hb, hq, ih fun x hx => h x (List.mem_cons_of_mem c hx)]

theorem hexPad_plain (k n : Nat) : ∀ c ∈ hexPad k n, c ≠ chr '\\' ∧ c ≠ chr '"' := by
  have hdigit : ∀ d : Nat, hexChr d ≠ chr '\\' ∧ hexChr d ≠ chr '"' := by
    intro d
    have hd : d % 16 < 16 := Nat.mod_lt d (by omega)
    have hback : (chr '\\').val = 92 := rfl
    have hquote : (chr '"').val = 34 := rfl
    unfold hexChr
    split <;> refine ⟨fun he => ?_, fun he => ?_⟩ <;> have hv := congrArg Fin.val he <;> dsimp only at hv <;> omega
  induction k generalizing n with
  | zero =>
    intro c hc
    cases hc
  | succ k ih =>
    intro c hc
    rcases List.mem_append.mp hc with hc | hc
    · exact ih (n / 16) c hc
    · rw [List.mem_singleton.mp hc]
      exact hdigit n

/-- A scan in a string goes over an escaped character, whatever it is. -/
theorem scan_escapeChr (c : Chr) (d : Nat) (r : Str) :
    scan d .inside (Json.escapeChr c ++ r) =
      (Json.escapeChr c ++ (scan d .inside r).1, (scan d .inside r).2) := by
  have hescape : ∀ x : Chr, ∀ s : Str, scan d .inside (chr '\\' :: x :: s) =
      (chr '\\' :: x :: (scan d .inside s).1, (scan d .inside s).2) := by
    intro x s
    rw [scan]
    simp [scan]
  unfold Json.escapeChr
  split
  · exact hescape (chr '"') r
  split
  · exact hescape (chr '\\') r
  split
  · exact hescape (chr 'b') r
  split
  · exact hescape (chr 't') r
  split
  · exact hescape (chr 'n') r
  split
  · exact hescape (chr 'f') r
  split
  · exact hescape (chr 'r') r
  split
  · have htext : lit "\\u" ++ hexPad 4 c.val ++ r = chr '\\' :: chr 'u' :: (hexPad 4 c.val ++ r) := rfl
    rw [htext, hescape, scan_inside (hexPad_plain 4 c.val)]
    rfl
  · rename_i hq hb _ _ _ _ _ _
    exact scan_inside (fun x hx => by rw [List.mem_singleton.mp hx]; exact ⟨hb, hq⟩) d r

theorem Passes.quote (s : Str) : Passes 0 (Json.quote s) := by
  have hbody : ∀ d r, scan d .inside (s.flatMap Json.escapeChr ++ chr '"' :: r) =
      (s.flatMap Json.escapeChr ++ chr '"' :: (scan d .outside r).1, (scan d .outside r).2) := by
    intro d r
    induction s with
    | nil =>
      have hq : ¬ chr '"' = chr '\\' := by decide
      rw [List.flatMap_nil, List.nil_append, scan]
      simp [hq]
    | cons c s ih => rw [List.flatMap_cons, List.append_assoc, scan_escapeChr, ih, List.append_assoc]
  intro d _ r
  have hstop : isStop (chr '"') = false := by decide
  have htext : Json.quote s ++ r = chr '"' :: (s.flatMap Json.escapeChr ++ chr '"' :: r) := by
    simp [Json.quote]
  rw [htext, scan]
  simp [hstop, hbody, Json.quote]

theorem Passes.join {ts : List Str} (h : ∀ t ∈ ts, Passes 1 t) : Passes 1 (Str.join (lit ", ") ts) := by
  have hsep : Passes 1 (lit ", ") :=
    Passes.comma.append ((Passes.plain (t := [chr ' ']) (Plain.lit (by decide +kernel))).mono (by omega))
  induction ts with
  | nil => exact Passes.nil 1
  | cons t ts ih =>
    have ht := h t List.mem_cons_self
    cases ts with
    | nil => exact ht
    | cons u us => exact (ht.append hsep).append (ih fun x hx => h x (List.mem_cons_of_mem t hx))

/-! ## 2. Numbers and words

Nothing that a number or a word is made of stops a scan. -/

/-- A text of ASCII characters that are no quotes, brackets or commas. -/
def NumberText (t : Str) : Prop := ∀ c ∈ t, isPlain c = true ∧ c.val < 128

theorem NumberText.plain {t : Str} (h : NumberText t) : Plain t := fun c hc => (h c hc).1

theorem NumberText.lit {t : Str} (h : t.all (fun c => isPlain c && decide (c.val < 128)) = true) : NumberText t := by
  intro c hc
  have hall := List.all_eq_true.mp h c hc
  rw [Bool.and_eq_true, decide_eq_true_eq] at hall
  exact hall

theorem NumberText.append {t u : Str} (ht : NumberText t) (hu : NumberText u) : NumberText (t ++ u) :=
  fun c hc => (List.mem_append.mp hc).elim (ht c) (hu c)

theorem NumberText.cons {c : Chr} {t : Str} (hc : isPlain c = true ∧ c.val < 128) (ht : NumberText t) :
    NumberText (c :: t) :=
  fun x hx => (List.mem_cons.mp hx).elim (fun he => he ▸ hc) (ht x)

theorem NumberText.sublist {t u : Str} (hu : NumberText u) (h : t.Sublist u) : NumberText t :=
  fun c hc => hu c (h.subset hc)

theorem NumberText.replicate {c : Chr} (hc : isPlain c = true ∧ c.val < 128) (n : Nat) :
    NumberText (List.replicate n c) :=
  fun _ hx => (List.eq_of_mem_replicate hx).symm ▸ hc

theorem numberText_ofNat (n : Nat) : NumberText (Str.ofNat n) := by
  intro c hc
  obtain ⟨x, hx, rfl⟩ := List.mem_map.mp hc
  have hdigit := Nat.isDigit_of_mem_toDigits (by omega) (by omega) hx
  have hval : 48 ≤ (chr x).val ∧ (chr x).val ≤ 57 := by
    simp only [Char.isDigit, Bool.and_eq_true, decide_eq_true_eq] at hdigit
    exact ⟨UInt32.le_iff_toNat_le.mp hdigit.1, UInt32.le_iff_toNat_le.mp hdigit.2⟩
  have hne : ∀ y : Char, y.toNat < 48 ∨ 57 < y.toNat → chr x ≠ chr y := by
    intro y hy he
    have hv : (chr x).val = y.toNat := congrArg Fin.val he
    omega
  have h₁ := hne '"' (by decide)
  have h₂ := hne '[' (by decide)
  have h₃ := hne '\x7b' (by decide)
  have h₄ := hne ']' (by decide)
  have h₅ := hne '\x7d' (by decide)
  have h₆ := hne ',' (by decide)
  exact ⟨by simp [isPlain, isOpening, isStop, isClosing, h₁, h₂, h₃, h₄, h₅, h₆], by omega⟩

theorem numberText_ofInt (n : Int) : NumberText (Str.ofInt n) := by
  unfold Str.ofInt
  split
  · exact NumberText.cons (by decide +kernel) (numberText_ofNat _)
  · exact numberText_ofNat _

theorem numberText_reprDigits {ds : Str} (hds : NumberText ds) (pt : Int) : NumberText (reprDigits ds pt) := by
  unfold reprDigits
  split
  · split
    · exact ((NumberText.lit (t := lit "0.") (by decide +kernel)).append
        (NumberText.replicate (by decide +kernel) _)).append hds
    · split
      · exact (hds.append (NumberText.replicate (by decide +kernel) _)).append
          (NumberText.lit (t := lit ".0") (by decide +kernel))
      · exact ((hds.sublist (List.take_sublist _ _)).append
          (NumberText.lit (t := lit ".") (by decide +kernel))).append (hds.sublist (List.drop_sublist _ _))
  · have hmant : NumberText (ds.take 1 ++ (if ds.length ≤ 1 then [] else chr '.' :: ds.drop 1)) := by
      refine (hds.sublist (List.take_sublist _ _)).append ?_
      split
      · exact fun c hc => by cases hc
      · exact NumberText.cons (by decide +kernel) (hds.sublist (List.drop_sublist _ _))
    have hmark : NumberText (lit (if pt - 1 < 0 then "e-" else "e+")) := by
      split
      · exact NumberText.lit (t := lit "e-") (by decide +kernel)
      · exact NumberText.lit (t := lit "e+") (by decide +kernel)
    refine (hmant.append hmark).append ?_
    split
    · exact NumberText.cons (by decide +kernel) (numberText_ofNat _)
    · exact numberText_ofNat _

theorem numberText_reprFloat (f : Float) : NumberText (reprFloat f) := by
  unfold reprFloat
  split
  · exact NumberText.lit (t := lit "nan") (by decide +kernel)
  · exact NumberText.lit (t := lit "inf") (by decide +kernel)
  · exact NumberText.lit (t := lit "-inf") (by decide +kernel)
  · exact NumberText.lit (t := lit "0.0") (by decide +kernel)
  · exact NumberText.lit (t := lit "-0.0") (by decide +kernel)
  · extract_lets num den abs
    split
    extract_lets ds ds' body
    have hbody : NumberText body :=
      numberText_reprDigits ((numberText_ofNat _).sublist (List.rdropWhile_prefix _ _).sublist) _
    split
    · exact NumberText.cons (by decide +kernel) hbody
    · exact hbody

theorem numberText_dumpFloat (f : Float) : NumberText (Json.dumpFloat f) := by
  unfold Json.dumpFloat
  split
  · exact NumberText.lit (t := lit "NaN") (by decide +kernel)
  · exact NumberText.lit (t := lit "Infinity") (by decide +kernel)
  · exact NumberText.lit (t := lit "-Infinity") (by decide +kernel)
  · exact numberText_reprFloat f

/-! ## 3. Values

Lists and objects are brackets around values and commas, at one depth more. -/

theorem mem_sortKeys {kvs : List (Str × Str)} {p : Str × Str} : p ∈ Json.sortKeys kvs ↔ p ∈ kvs := by
  unfold Json.sortKeys
  exact List.mem_insertionSort _

mutual

/-- A scan goes over the text of a value, whatever value it is. -/
theorem passes_dumps : ∀ v : Json, Passes 0 (Json.dumps v)
  | .null => Passes.plain (Plain.lit (t := lit "null") (by decide +kernel))
  | .bool true => Passes.plain (Plain.lit (t := lit "true") (by decide +kernel))
  | .bool false => Passes.plain (Plain.lit (t := lit "false") (by decide +kernel))
  | .int n => by
    rw [Json.dumps]
    exact Passes.plain (numberText_ofInt n).plain
  | .float f => by
    rw [Json.dumps]
    exact Passes.plain (numberText_dumpFloat f).plain
  | .str s => by
    rw [Json.dumps]
    exact Passes.quote s
  | .arr xs => by
    have hbody := Passes.join fun t ht => (passes_dumpsList xs t ht).mono (Nat.zero_le 1)
    rw [Json.dumps]
    exact Passes.brackets (o := chr '[') (c := chr ']') rfl rfl (by decide) rfl (by decide) rfl hbody
  | .obj kvs => by
    have hcolon : Passes 0 (lit ": ") := Passes.plain (Plain.lit (by decide +kernel))
    have hbody : Passes 1 (Str.join (lit ", ")
        ((Json.sortKeys (Json.dumpsObj kvs)).map fun p => Json.quote p.1 ++ lit ": " ++ p.2)) := by
      refine Passes.join fun t ht => ?_
      obtain ⟨p, hp, rfl⟩ := List.mem_map.mp ht
      have hvalue := passes_dumpsObj kvs p (mem_sortKeys.mp hp)
      exact (((Passes.quote p.1).append hcolon).append hvalue).mono (Nat.zero_le 1)
    rw [Json.dumps]
    exact Passes.brackets (o := chr '\x7b') (c := chr '\x7d') rfl rfl (by decide) rfl (by decide) rfl hbody

theorem passes_dumpsList : ∀ xs : List Json, ∀ t ∈ Json.dumpsList xs, Passes 0 t
  | [] => by
    intro t ht
    rw [Json.dumpsList] at ht
    cases ht
  | x :: xs => by
    intro t ht
    rw [Json.dumpsList] at ht
    rcases List.mem_cons.mp ht with rfl | ht
    · exact passes_dumps x
    · exact passes_dumpsList xs t ht

theorem passes_dumpsObj : ∀ kvs : List (Str × Json), ∀ p ∈ Json.dumpsObj kvs, Passes 0 p.2
  | [] => by
    intro p hp
    rw [Json.dumpsObj] at hp
    cases hp
  | (k, v) :: kvs => by
    intro p hp
    rw [Json.dumpsObj] at hp
    rcases List.mem_cons.mp hp with rfl | hp
    · exact passes_dumps v
    · exact passes_dumpsObj kvs p hp

end

/-- What may follow a value inside a document: nothing, a comma or a closing bracket. -/
def Stops (r : Str) : Prop := ∀ c, r.head? = some c → isStop c = true

theorem scan_stops {r : Str} (h : Stops r) : scan 0 .outside r = ([], r) := by
  cases r with
  | nil => rfl
  | cons c r =>
    have hc := h c rfl
    rw [scan, if_pos ⟨rfl, hc⟩]

/-- Two texts that begin with a value each and go on with a stop agree in the value and in the
rest. -/
theorem dumps_append_inj {v w : Json} {r s : Str} (hr : Stops r) (hs : Stops s)
    (h : Json.dumps v ++ r = Json.dumps w ++ s) : Json.dumps v = Json.dumps w ∧ r = s := by
  have hv := passes_dumps v 0 (le_refl 0) r
  have hw := passes_dumps w 0 (le_refl 0) s
  rw [scan_stops hr, List.append_nil] at hv
  rw [scan_stops hs, List.append_nil] at hw
  rw [h, hw] at hv
  exact ⟨(congrArg Prod.fst hv).symm, (congrArg Prod.snd hv).symm⟩

/-! ## 4. Strings

A string is its characters one by one, each written as itself or as an escape, and no escape begins
another. -/

/-- The characters that are not written as themselves. -/
def escapedChrs : List Chr := ((List.range 32).map fun n => ⟨n % 32, by omega⟩) ++ [chr '"', chr '\\']

theorem mem_escapedChrs {c : Chr} : c ∈ escapedChrs ↔ c.val < 32 ∨ c = chr '"' ∨ c = chr '\\' := by
  unfold escapedChrs
  rw [List.mem_append, List.mem_map]
  simp only [List.mem_range, List.mem_cons, List.not_mem_nil, or_false]
  refine or_congr_left ⟨?_, fun h => ⟨c.val, h, Fin.ext (Nat.mod_eq_of_lt h)⟩⟩
  rintro ⟨n, hn, rfl⟩
  exact Nat.mod_lt n (by omega)

theorem escapeChr_of_not_mem {c : Chr} (h : c ∉ escapedChrs) : Json.escapeChr c = [c] := by
  rw [mem_escapedChrs] at h
  obtain ⟨hval, hq, hb⟩ : ¬ c.val < 32 ∧ c ≠ chr '"' ∧ c ≠ chr '\\' := by
    refine ⟨fun hc => h (Or.inl hc), fun hc => h (Or.inr (Or.inl hc)), fun hc => h (Or.inr (Or.inr hc))⟩
  unfold Json.escapeChr
  rw [if_neg hq, if_neg hb, if_neg (by omega), if_neg (by omega), if_neg (by omega), if_neg (by omega),
    if_neg (by omega), if_neg hval]

/-- No escape begins another one. -/
theorem escapes_prefix_free : ∀ c ∈ escapedChrs, (Json.escapeChr c).head? = some (chr '\\') ∧
    ∀ d ∈ escapedChrs, Json.escapeChr c <+: Json.escapeChr d → c = d := by
  have hcheck : (escapedChrs.all fun c => decide ((Json.escapeChr c).head? = some (chr '\\')) &&
      escapedChrs.all fun d => !(Json.escapeChr c).isPrefixOf (Json.escapeChr d) || decide (c = d)) = true := by
    decide +kernel
  intro c hc
  have hcall := List.all_eq_true.mp hcheck c hc
  rw [Bool.and_eq_true] at hcall
  refine ⟨of_decide_eq_true hcall.1, fun d hd hprefix => ?_⟩
  have hd' := List.all_eq_true.mp hcall.2 d hd
  rw [List.isPrefixOf_iff_prefix.mpr hprefix] at hd'
  simpa using hd'

theorem escapeChr_append_inj {c d : Chr} {r s : Str} (h : Json.escapeChr c ++ r = Json.escapeChr d ++ s) :
    c = d ∧ r = s := by
  have hback : chr '\\' ∈ escapedChrs := mem_escapedChrs.mpr (Or.inr (Or.inr rfl))
  have hhead : ∀ {x : Chr} {t : Str}, x ∈ escapedChrs → (Json.escapeChr x ++ t).head? = some (chr '\\') := by
    intro x t hx
    rw [List.head?_append, (escapes_prefix_free x hx).1]
    rfl
  by_cases hc : c ∈ escapedChrs
  · by_cases hd : d ∈ escapedChrs
    · have hcd : c = d := by
        rcases List.prefix_or_prefix_of_prefix ⟨r, h⟩ ⟨s, rfl⟩ with hp | hp
        · exact (escapes_prefix_free c hc).2 d hd hp
        · exact ((escapes_prefix_free d hd).2 c hc hp).symm
      subst hcd
      exact ⟨rfl, List.append_cancel_left h⟩
    · have hx := hhead (t := r) hc
      rw [h, escapeChr_of_not_mem hd] at hx
      exact absurd (Option.some.inj hx ▸ hback) hd
  · by_cases hd : d ∈ escapedChrs
    · have hx := hhead (t := s) hd
      rw [← h, escapeChr_of_not_mem hc] at hx
      exact absurd (Option.some.inj hx ▸ hback) hc
    · rw [escapeChr_of_not_mem hc, escapeChr_of_not_mem hd] at h
      exact ⟨(List.cons.inj h).1, (List.cons.inj h).2⟩

theorem escapeChr_ne_nil (c : Chr) : Json.escapeChr c ≠ [] := by
  by_cases hc : c ∈ escapedChrs
  · intro hnil
    have hhead := (escapes_prefix_free c hc).1
    rw [hnil] at hhead
    cases hhead
  · rw [escapeChr_of_not_mem hc]
    simp

/-- A quoted text is the quotation of one text only. -/
theorem quote_injective {s t : Str} (h : Json.quote s = Json.quote t) : s = t := by
  unfold Json.quote at h
  have hbody : s.flatMap Json.escapeChr = t.flatMap Json.escapeChr :=
    List.append_cancel_right (List.cons.inj h).2
  clear h
  induction s generalizing t with
  | nil =>
    cases t with
    | nil => rfl
    | cons d t =>
      rw [List.flatMap_cons, List.flatMap_nil] at hbody
      exact absurd (List.append_eq_nil_iff.mp hbody.symm).1 (escapeChr_ne_nil d)
  | cons c s ih =>
    cases t with
    | nil =>
      rw [List.flatMap_cons, List.flatMap_nil] at hbody
      exact absurd (List.append_eq_nil_iff.mp hbody).1 (escapeChr_ne_nil c)
    | cons d t =>
      rw [List.flatMap_cons, List.flatMap_cons] at hbody
      obtain ⟨rfl, hrest⟩ := escapeChr_append_inj hbody
      rw [ih hrest]

theorem Stops.lit {t : Str} (h : t.head?.any isStop = true) (r : Str) : Stops (t ++ r) := by
  cases t with
  | nil => cases h
  | cons c t =>
    intro x hx
    obtain rfl := Option.some.inj hx
    exact h

theorem dumps_obj (kvs : List (Str × Json)) : Json.dumps (.obj kvs) = lit "\x7b" ++ Str.join (lit ", ")
    ((Json.sortKeys (Json.dumpsObj kvs)).map fun p => Json.quote p.1 ++ lit ": " ++ p.2) ++ lit "\x7d" := by
  rw [Json.dumps]

theorem dumps_str (s : Str) : Json.dumps (.str s) = Json.quote s := by rw [Json.dumps]

theorem quote_append_inj {s t r u : Str} (hr : Stops r) (hu : Stops u)
    (h : Json.quote s ++ r = Json.quote t ++ u) : s = t ∧ r = u := by
  rw [← dumps_str, ← dumps_str] at h
  obtain ⟨hst, hru⟩ := dumps_append_inj hr hu h
  rw [dumps_str, dumps_str] at hst
  exact ⟨quote_injective hst, hru⟩

/-- A list of texts is read back from its text. -/
theorem dumps_texts_injective {xs ys : List Str}
    (h : Json.dumps (.arr (xs.map .str)) = Json.dumps (.arr (ys.map .str))) : xs = ys := by
  have hlist : ∀ zs : List Str, Json.dumpsList (zs.map .str) = zs.map Json.quote := by
    intro zs
    induction zs with
    | nil => rfl
    | cons z zs ih => simp [Json.dumpsList, Json.dumps, ih]
  rw [Json.dumps, Json.dumps, hlist, hlist] at h
  have hbody : Str.join (lit ", ") (xs.map Json.quote) ++ lit "]" = Str.join (lit ", ") (ys.map Json.quote) ++ lit "]" := by
    rw [List.append_assoc, List.append_assoc] at h
    exact List.append_cancel_left h
  clear h
  have hcons : ∀ (z : Str) (zs : List Str), Str.join (lit ", ") ((z :: zs).map Json.quote) ++ lit "]" =
      Json.quote z ++ (if zs = [] then lit "]" else lit ", " ++ (Str.join (lit ", ") (zs.map Json.quote) ++ lit "]")) := by
    intro z zs
    cases zs with
    | nil => rfl
    | cons u us => simp [Str.join]
  have hstop : ∀ zs : List Str,
      Stops (if zs = [] then lit "]" else lit ", " ++ (Str.join (lit ", ") (zs.map Json.quote) ++ lit "]")) := by
    intro zs
    split
    · exact Stops.lit (t := lit "]") rfl []
    · exact Stops.lit rfl _
  induction xs generalizing ys with
  | nil =>
    cases ys with
    | nil => rfl
    | cons y ys =>
      rw [hcons] at hbody
      cases hbody
  | cons x xs ih =>
    cases ys with
    | nil =>
      rw [hcons] at hbody
      cases hbody
    | cons y ys =>
      rw [hcons, hcons] at hbody
      obtain ⟨rfl, hrest⟩ := quote_append_inj (hstop xs) (hstop ys) hbody
      by_cases hx : xs = []
      · by_cases hy : ys = []
        · rw [hx, hy]
        · rw [if_pos hx, if_neg hy] at hrest
          cases hrest
      · by_cases hy : ys = []
        · rw [if_neg hx, if_pos hy] at hrest
          cases hrest
        · rw [if_neg hx, if_neg hy] at hrest
          rw [ih (List.append_cancel_left hrest)]

end Py
