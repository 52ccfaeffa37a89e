/-
# What a name keeps

`normalize_name` cuts one trailing number off a policy or workflow name: a name may carry the
number of an object at its end, which is no part of the relation.  The rule is the regular
expression `SUFFIX`, whose name group stops at a line feed.

The claim that one number is cut needs a form: a name, a colon, whitespace and a number
(`SuffixForm`).  A text has this form in one way only, since neither digits nor whitespace hold a
colon, so "the number" is well defined and "exactly one" says something.  Then two things are
shown.

* The scan of the model, which looks for the last colon, is what the two regular expressions find,
  captured groups included (`fullmatch_suffixPattern`).  The model of the expressions is that of
  `Py/Pattern`.
* The expression cuts exactly that form, except where a line feed stands in the name: `.` does not
  match it, nothing is cut, and the number stays in the name.  `stripsOneSuffix_iff` makes this the
  exact condition.

A name such as `Gold:1: 2` loses its last number and keeps the other.  Nothing is cut off a
protection group.
-/
import BackupCollector.Lookups.Models
import BackupCollector.Py.Pattern

namespace BackupCollector

open Py

/-! ## 1. The form of a suffix

The form, and that it is unique. -/

/-- `text` is a name, a colon, whitespace and a number.  The name may be empty, and may hold colons
and numbers of its own. -/
structure SuffixForm (text name space digits : Str) : Prop where
  text_eq : text = name ++ chr ':' :: (space ++ digits)
  space_ascii : ∀ c ∈ space, Str.isAsciiSpace c = true
  digits_ne : digits ≠ []
  digits_ascii : ∀ c ∈ digits, isAsciiDigit c = true

theorem isAsciiSpace_of_digit {c : Chr} (h : isAsciiDigit c = true) : Str.isAsciiSpace c = false := by
  simp only [isAsciiDigit, Bool.and_eq_true, decide_eq_true_eq] at h
  simp only [Str.isAsciiSpace, List.contains_eq_mem, List.mem_cons, List.not_mem_nil, or_false,
    decide_eq_false_iff_not]
  omega

theorem colon_not_digit : isAsciiDigit (chr ':') = false := by decide

theorem colon_not_space : Str.isAsciiSpace (chr ':') = false := by decide

theorem colon_notMem {space digits : Str} (hs : ∀ c ∈ space, Str.isAsciiSpace c = true)
    (hd : ∀ c ∈ digits, isAsciiDigit c = true) : chr ':' ∉ space ++ digits := by
  intro h
  rcases List.mem_append.mp h with h | h
  · simpa [colon_not_space] using hs _ h
  · simpa [colon_not_digit] using hd _ h

/-! ## 2. The scan for the last colon

The scan is easier to reason about than the expressions, and the documents are proved with it. -/

theorem splitLastColon_append {name tail : Str} (h : chr ':' ∉ tail) :
    splitLastColon (name ++ chr ':' :: tail) = some (name, tail) := by
  have hp : ∀ c ∈ tail.reverse, decide (c ≠ chr ':') = true := by
    intro c hc
    refine decide_eq_true ?_
    rintro rfl
    exact h (List.mem_reverse.mp hc)
  have hrev : (name ++ chr ':' :: tail).reverse = tail.reverse ++ chr ':' :: name.reverse := by simp
  have hmem : (name ++ chr ':' :: tail).contains (chr ':') = true := by simp
  unfold splitLastColon
  rw [if_pos hmem]
  unfold List.rdropWhile List.rtakeWhile
  rw [hrev, List.dropWhile_append_of_pos hp, List.takeWhile_append_of_pos hp]
  simp

theorem exists_last_colon {text : Str} (h : chr ':' ∈ text) :
    ∃ name tail, text = name ++ chr ':' :: tail ∧ chr ':' ∉ tail := by
  obtain ⟨after, before, hrev, hafter⟩ := List.eq_append_cons_of_mem (List.mem_reverse.mpr h)
  refine ⟨before.reverse, after.reverse, ?_, by simpa using hafter⟩
  rw [← List.reverse_reverse text, hrev]
  simp

theorem splitLastColon_eq_some {text name tail : Str} :
    splitLastColon text = some (name, tail) ↔ text = name ++ chr ':' :: tail ∧ chr ':' ∉ tail := by
  constructor
  · intro h
    have hmem : chr ':' ∈ text := by
      by_contra hc
      simp [splitLastColon, hc] at h
    obtain ⟨before, after, rfl, hafter⟩ := exists_last_colon hmem
    rw [splitLastColon_append hafter] at h
    obtain ⟨rfl, rfl⟩ := Prod.mk.inj (Option.some.inj h)
    exact ⟨rfl, hafter⟩
  · rintro ⟨rfl, h⟩
    exact splitLastColon_append h

theorem suffixDigits_eq_some {tail digits : Str} :
    suffixDigits tail = some digits ↔ ∃ space, tail = space ++ digits ∧
      (∀ c ∈ space, Str.isAsciiSpace c = true) ∧ digits ≠ [] ∧ ∀ c ∈ digits, isAsciiDigit c = true := by
  constructor
  · intro h
    obtain ⟨hc, hd⟩ := Option.ite_none_right_eq_some.mp h
    simp only [Bool.and_eq_true, Bool.not_eq_true', List.isEmpty_eq_false_iff, List.all_eq_true] at hc
    rw [← Option.some.inj hd]
    exact ⟨tail.takeWhile Str.isAsciiSpace, List.takeWhile_append_dropWhile.symm,
      fun c hc => List.mem_takeWhile_imp hc, hc.1, hc.2⟩
  · rintro ⟨space, rfl, hs, hne, hd⟩
    have hdrop : (space ++ digits).dropWhile Str.isAsciiSpace = digits := by
      rw [List.dropWhile_append_of_pos hs]
      cases digits with
      | nil => rfl
      | cons c rest => simp [isAsciiSpace_of_digit (hd c (by simp))]
    unfold suffixDigits
    rw [hdrop, if_pos]
    simpa using ⟨hne, hd⟩

/-- What the scan cuts: the form, with a name that is not empty and holds no line feed. -/
theorem matchSuffix_eq_some {text name digits : Str} :
    matchSuffix text = some (name, digits) ↔
      (∃ space, SuffixForm text name space digits) ∧ name ≠ [] ∧ chr '\n' ∉ name := by
  constructor
  · intro h
    unfold matchSuffix at h
    split at h
    · rename_i name' tail hsplit
      split at h
      · rename_i digits' hdigits
        obtain ⟨hc, hm⟩ := Option.ite_none_right_eq_some.mp h
        obtain ⟨rfl, rfl⟩ := Prod.mk.inj (Option.some.inj hm)
        obtain ⟨rfl, -⟩ := splitLastColon_eq_some.mp hsplit
        obtain ⟨space, rfl, hs, hne, hd⟩ := suffixDigits_eq_some.mp hdigits
        simp only [Bool.and_eq_true, Bool.not_eq_true', List.isEmpty_eq_false_iff, List.all_eq_true,
          decide_eq_true_eq] at hc
        exact ⟨⟨space, rfl, hs, hne, hd⟩, hc.1, fun hn => hc.2 _ hn rfl⟩
      · cases h
    · cases h
  · rintro ⟨⟨space, rfl, hs, hne, hd⟩, hname, hline⟩
    have hall : name.all (fun c => decide (c ≠ chr '\n')) = true := by
      refine List.all_eq_true.mpr fun c hc => decide_eq_true ?_
      rintro rfl
      exact hline hc
    have hdigits : suffixDigits (space ++ digits) = some digits :=
      suffixDigits_eq_some.mpr ⟨space, rfl, hs, hne, hd⟩
    simp only [matchSuffix, splitLastColon_append (colon_notMem hs hd), hdigits]
    rw [if_pos]
    simpa [hname] using hall

theorem isBareSuffix_iff {text : Str} :
    isBareSuffix text = true ↔ ∃ space digits, SuffixForm text [] space digits := by
  constructor
  · intro h
    unfold isBareSuffix at h
    split at h
    · rename_i c tail
      simp only [Bool.and_eq_true, decide_eq_true_eq] at h
      obtain ⟨digits, hdigits⟩ := Option.isSome_iff_exists.mp h.2
      obtain ⟨space, rfl, hs, hne, hd⟩ := suffixDigits_eq_some.mp hdigits
      exact ⟨space, digits, by rw [h.1]; rfl, hs, hne, hd⟩
    · cases h
  · rintro ⟨space, digits, rfl, hs, hne, hd⟩
    have hdigits : suffixDigits (space ++ digits) = some digits :=
      suffixDigits_eq_some.mpr ⟨space, rfl, hs, hne, hd⟩
    simp [isBareSuffix, hdigits]

namespace SuffixForm

/-- A text has the form in one way only. -/
theorem unique {text name space digits name' space' digits' : Str} (h : SuffixForm text name space digits)
    (h' : SuffixForm text name' space' digits') : name = name' ∧ digits = digits' := by
  have hsplit : some (name, space ++ digits) = some (name', space' ++ digits') := by
    rw [← splitLastColon_append (colon_notMem h.space_ascii h.digits_ascii), ← h.text_eq, h'.text_eq,
      splitLastColon_append (colon_notMem h'.space_ascii h'.digits_ascii)]
  obtain ⟨hname, htail⟩ := Prod.mk.inj (Option.some.inj hsplit)
  have hdigits : some digits = some digits' := by
    rw [← suffixDigits_eq_some.mpr ⟨space, rfl, h.space_ascii, h.digits_ne, h.digits_ascii⟩, htail,
      suffixDigits_eq_some.mpr ⟨space', rfl, h'.space_ascii, h'.digits_ne, h'.digits_ascii⟩]
  exact ⟨hname, Option.some.inj hdigits⟩

end SuffixForm

/-! ## 3. The regular expressions

The scan is what the expressions of the source find in a stripped text, captured groups
included. -/

/-- `SUFFIX` -/
def suffixPattern : List Item := [
  .openGroup, .many1 fun c => decide (c ≠ chr '\n'), .closeGroup,
  .one (isChr ':'), .many Str.isAsciiSpace,
  .openGroup, .many1 isAsciiDigit, .closeGroup,
  .many Str.isAsciiSpace]

/-- `:\s*[0-9]+` -/
def bareSuffixPattern : List Item := [.one (isChr ':'), .many Str.isAsciiSpace, .many1 isAsciiDigit]

theorem matches_suffixPattern {text : Str} {m : List Str × Str} :
    Matches (suffixPattern ++ [.finish]) none text text m ↔
      ∃ name space digits rest, SuffixForm (name ++ chr ':' :: (space ++ digits)) name space digits ∧
        name ≠ [] ∧ chr '\n' ∉ name ∧ (∀ c ∈ rest, Str.isAsciiSpace c = true) ∧
        text = name ++ chr ':' :: (space ++ digits) ++ rest ∧ m = ([name, digits], []) := by
  constructor
  · intro h
    obtain ⟨name, t1, rfl, hname, hlen, m1, h1, rfl⟩ := matches_chars.mp h
    obtain ⟨c, t2, rfl, hc, h2⟩ := matches_one.mp h1
    obtain ⟨space, t3, rfl, hs, -, h3⟩ := matches_chars.mp h2
    obtain ⟨digits, t4, rfl, hd, hdlen, m2, h4, rfl⟩ := matches_chars.mp h3
    obtain ⟨rest, t5, rfl, hrest, -, hend, rfl⟩ := matches_chars.mp h4
    obtain rfl := List.isEmpty_iff.mp hend
    obtain rfl : c = chr ':' := of_decide_eq_true hc
    refine ⟨name, space, digits, rest, ⟨rfl, hs, ?_, hd⟩, ?_, ?_, hrest, ?_, ?_⟩
    · exact List.length_pos_iff.mp hdlen
    · exact List.length_pos_iff.mp hlen
    · intro hn
      simpa using hname _ hn
    · simp
    · simp
  · rintro ⟨name, space, digits, rest, hform, hname, hline, hrest, rfl, rfl⟩
    refine matches_chars.mpr ⟨name, chr ':' :: (space ++ (digits ++ rest)), by simp, ?_, ?_, ?_⟩
    · intro c hc
      refine decide_eq_true ?_
      rintro rfl
      exact hline hc
    · exact List.length_pos_iff.mpr hname
    refine ⟨([digits], []), ?_, by simp⟩
    refine matches_one.mpr ⟨chr ':', _, rfl, by decide, ?_⟩
    refine matches_chars.mpr ⟨space, _, rfl, hform.space_ascii, Nat.zero_le _, ?_⟩
    refine matches_chars.mpr ⟨digits, rest, rfl, hform.digits_ascii, List.length_pos_iff.mpr hform.digits_ne, ?_⟩
    refine ⟨([], []), ?_, by simp⟩
    refine matches_chars.mpr ⟨rest, [], by simp, hrest, Nat.zero_le _, ?_⟩
    exact ⟨rfl, rfl⟩

/-- A stripped text matches `SUFFIX` where the scan cuts it, and the groups are its two pieces. -/
theorem fullmatch_suffixPattern {text : Str} (ht : ∀ c ∈ text.getLast?, Str.isAsciiSpace c = false) :
    fullmatch suffixPattern text = (matchSuffix text).map fun m => [m.1, m.2] := by
  have hcut : ∀ m, Matches (suffixPattern ++ [.finish]) none text text m →
      ∃ name digits, matchSuffix text = some (name, digits) ∧ m.1 = [name, digits] := by
    intro m hm
    obtain ⟨name, space, digits, rest, hform, hname, hline, hrest, rfl, rfl⟩ := matches_suffixPattern.mp hm
    have hnil : rest = [] := by
      rcases List.eq_nil_or_concat rest with rfl | ⟨init, c, rfl⟩
      · rfl
      · have hlast : (name ++ chr ':' :: (space ++ digits) ++ init.concat c).getLast? = some c := by
          rw [List.concat_eq_append, ← List.append_assoc, List.getLast?_concat]
        rw [hlast] at ht
        have hc := ht c rfl
        rw [hrest c (by simp)] at hc
        cases hc
    subst hnil
    rw [List.append_nil]
    exact ⟨name, digits, matchSuffix_eq_some.mpr ⟨⟨space, hform⟩, hname, hline⟩, rfl⟩
  unfold fullmatch matchStart
  cases hrun : run (suffixPattern ++ [.finish]) none text text with
  | some m =>
    obtain ⟨name, digits, hmatch, hgroups⟩ := hcut m (run_matches hrun)
    simp [hmatch, hgroups]
  | none =>
    have hnone : matchSuffix text = none := by
      by_contra hsome
      obtain ⟨⟨name, digits⟩, hm⟩ := Option.ne_none_iff_exists'.mp hsome
      obtain ⟨⟨space, hform⟩, hname, hline⟩ := matchSuffix_eq_some.mp hm
      have hform' : SuffixForm (name ++ chr ':' :: (space ++ digits)) name space digits := hform.text_eq ▸ hform
      have h := run_isSome (matches_suffixPattern.mpr
        ⟨name, space, digits, [], hform', hname, hline, by simp, by rw [List.append_nil], rfl⟩)
      rw [← hform.text_eq, hrun] at h
      cases h
    simp [hnone]

theorem fullmatch_bareSuffixPattern (text : Str) :
    (fullmatch bareSuffixPattern text).isSome = isBareSuffix text := by
  have hiff : (∃ m, Matches (bareSuffixPattern ++ [.finish]) none text text m) ↔ isBareSuffix text = true := by
    rw [isBareSuffix_iff]
    constructor
    · rintro ⟨m, h⟩
      obtain ⟨c, t1, rfl, hc, h⟩ := matches_one.mp h
      obtain ⟨space, t2, rfl, hs, -, h⟩ := matches_chars.mp h
      obtain ⟨digits, t3, rfl, hd, hlen, hend, -⟩ := matches_chars.mp h
      obtain rfl := List.isEmpty_iff.mp hend
      obtain rfl : c = chr ':' := of_decide_eq_true hc
      exact ⟨space, digits, by simp, hs, List.length_pos_iff.mp hlen, hd⟩
    · rintro ⟨space, digits, rfl, hs, hne, hd⟩
      refine ⟨([], []), matches_one.mpr ⟨chr ':', _, rfl, by decide, ?_⟩⟩
      refine matches_chars.mpr ⟨space, digits, rfl, hs, Nat.zero_le _, ?_⟩
      exact matches_chars.mpr ⟨digits, [], by simp, hd, List.length_pos_iff.mpr hne, rfl, rfl⟩
  rw [Bool.eq_iff_iff, ← hiff]
  unfold fullmatch matchStart
  rw [Option.isSome_map]
  constructor
  · intro h
    obtain ⟨m, hm⟩ := Option.isSome_iff_exists.mp h
    exact ⟨m, run_matches hm⟩
  · rintro ⟨m, hm⟩
    exact run_isSome hm

/-! ## 4. What a name becomes

The stripped text may be refused altogether, when no name is left of it. -/

theorem isSpace_of_asciiSpace {c : Chr} (h : Str.isAsciiSpace c = true) : Str.isSpace c = true := by
  simp only [Str.isAsciiSpace, List.contains_eq_mem, List.mem_cons, List.not_mem_nil, or_false,
    decide_eq_true_eq] at h
  simp only [Str.isSpace, Str.spaces, List.contains_eq_mem, decide_eq_true_eq]
  rcases h with h | h | h | h | h | h <;> rw [h] <;> decide

theorem getLast_strip (s : Str) : ∀ c ∈ (Str.strip s).getLast?, Str.isSpace c = false := by
  intro c hc
  obtain ⟨hne, rfl⟩ := List.mem_getLast?_eq_getLast hc
  have hlast := List.rdropWhile_last_not Str.isSpace (Str.lstrip s) hne
  rw [Bool.not_eq_true] at hlast
  exact hlast

/-- Stripping leaves something of a text that does not begin with whitespace. -/
theorem strip_ne_nil {s : Str} (hne : s ≠ []) (h : ∀ c ∈ s.head?, Str.isSpace c = false) : Str.strip s ≠ [] := by
  intro hnil
  have hall : ∀ c ∈ s, Str.isSpace c = true := by
    rw [Str.strip, Str.lstrip_eq_self_of_head h] at hnil
    exact List.rdropWhile_eq_nil_iff.mp hnil
  obtain ⟨c, rest, rfl⟩ := List.exists_cons_of_ne_nil hne
  have hc := h c rfl
  rw [hall c List.mem_cons_self] at hc
  cases hc

/-- The scan is the regular expression at every text `normalize_name` gives to it. -/
theorem fullmatch_strip (value : Str) :
    fullmatch suffixPattern (Str.strip value) = (matchSuffix (Str.strip value)).map fun m => [m.1, m.2] := by
  refine fullmatch_suffixPattern fun c hc => ?_
  have h := getLast_strip value c hc
  by_contra hs
  rw [isSpace_of_asciiSpace (by simpa using hs)] at h
  cases h

/-- Exactly one trailing number is cut off, and what is left is a name. -/
structure StripsOneSuffix (value : Str) (stripSuffix : Bool) : Prop where
  kept : stripSuffix = false → normalizeName value stripSuffix = .ok ⟨value, Str.strip value, none⟩
  refused : stripSuffix = true → ∀ space digits, SuffixForm (Str.strip value) [] space digits →
    ∃ message, normalizeName value stripSuffix = .error (valueError message)
  cut : stripSuffix = true → ∀ name space digits, SuffixForm (Str.strip value) name space digits → name ≠ [] →
    normalizeName value stripSuffix = .ok ⟨value, Str.strip name, some digits⟩
  whole : stripSuffix = true → (¬ ∃ name space digits, SuffixForm (Str.strip value) name space digits) →
    normalizeName value stripSuffix = .ok ⟨value, Str.strip value, none⟩
  sound : ∀ n, normalizeName value stripSuffix = .ok n →
    n.original = value ∧ n.normalized ≠ [] ∧ Str.strip n.normalized = n.normalized

section Cases

variable {value : Str}

theorem normalizeName_kept (h : Str.strip value ≠ []) :
    normalizeName value false = .ok ⟨value, Str.strip value, none⟩ := by
  simp [normalizeName, h]

theorem normalizeName_refused (h : Str.strip value ≠ []) {space digits : Str}
    (hform : SuffixForm (Str.strip value) [] space digits) :
    normalizeName value true = .error (valueError "empty_name_before_suffix") := by
  have hbare : isBareSuffix (Str.strip value) = true := isBareSuffix_iff.mpr ⟨space, digits, hform⟩
  simp [normalizeName, h, hbare]

/-- No name before the colon: the form with an empty name is the only one. -/
theorem isBareSuffix_eq_false {text name space digits : Str} (hform : SuffixForm text name space digits)
    (hname : name ≠ []) : isBareSuffix text = false := by
  rw [Bool.eq_false_iff]
  intro hbare
  obtain ⟨space', digits', hform'⟩ := isBareSuffix_iff.mp hbare
  exact hname (hform.unique hform').1

theorem SuffixForm.strip_name_ne {name space digits : Str}
    (hform : SuffixForm (Str.strip value) name space digits) (hname : name ≠ []) : Str.strip name ≠ [] := by
  refine strip_ne_nil hname fun c hc => Str.head_strip value c ?_
  rw [hform.text_eq, List.head?_append, Option.mem_def.mp hc]
  rfl

theorem normalizeName_cut (h : Str.strip value ≠ []) {name space digits : Str}
    (hform : SuffixForm (Str.strip value) name space digits) (hname : name ≠ []) (hline : chr '\n' ∉ name) :
    normalizeName value true = .ok ⟨value, Str.strip name, some digits⟩ := by
  have hmatch : matchSuffix (Str.strip value) = some (name, digits) :=
    matchSuffix_eq_some.mpr ⟨⟨space, hform⟩, hname, hline⟩
  simp [normalizeName, h, isBareSuffix_eq_false hform hname, hmatch, hform.strip_name_ne hname]

/-- Nothing is cut where the scan finds nothing. -/
theorem normalizeName_whole (h : Str.strip value ≠ []) (hbare : isBareSuffix (Str.strip value) = false)
    (hmatch : matchSuffix (Str.strip value) = none) :
    normalizeName value true = .ok ⟨value, Str.strip value, none⟩ := by
  simp [normalizeName, h, hbare, hmatch]

/-- A name that is returned is stripped. -/
theorem strip_normalized {stripSuffix : Bool} {n : Name} (h : normalizeName value stripSuffix = .ok n) :
    Str.strip n.normalized = n.normalized := by
  unfold normalizeName at h
  extract_lets text at h
  split at h
  · cases h
  split at h
  · cases h
  split at h
  · extract_lets name at h
    split at h
    · cases h
    · rw [← Except.ok.inj h]
      exact Str.strip_strip _
  · rw [← Except.ok.inj h]
    exact Str.strip_strip value

end Cases

/-- **Exactly one trailing number is cut off a value if and only if no line feed stands in the name
before it**: there the expression finds nothing, and the number stays in the name.  The value is
any text, and the form any way to read a number at its end. -/
theorem stripsOneSuffix_iff (value : Str) (stripSuffix : Bool) (h : Str.strip value ≠ []) :
    StripsOneSuffix value stripSuffix ↔
      (stripSuffix = true → ∀ name space digits, SuffixForm (Str.strip value) name space digits →
        chr '\n' ∉ name) := by
  constructor
  · rintro hclaim rfl name space digits hform hline
    have hname : name ≠ [] := List.ne_nil_of_mem hline
    have hnone : matchSuffix (Str.strip value) = none := by
      by_contra hsome
      obtain ⟨⟨name', digits'⟩, hm⟩ := Option.ne_none_iff_exists'.mp hsome
      obtain ⟨⟨space', hform'⟩, -, hline'⟩ := matchSuffix_eq_some.mp hm
      rw [(hform.unique hform').1] at hline
      exact hline' hline
    have hcut := hclaim.cut rfl name space digits hform hname
    rw [normalizeName_whole h (isBareSuffix_eq_false hform hname) hnone] at hcut
    exact absurd (congrArg Name.suffix (Except.ok.inj hcut)) (Option.some_ne_none digits).symm
  · intro hline
    refine ⟨?_, ?_, ?_, ?_, ?_⟩
    · rintro rfl
      exact normalizeName_kept h
    · rintro rfl space digits hform
      exact ⟨_, normalizeName_refused h hform⟩
    · rintro rfl name space digits hform hname
      exact normalizeName_cut h hform hname (hline rfl name space digits hform)
    · rintro rfl hno
      refine normalizeName_whole h ?_ ?_
      · rw [Bool.eq_false_iff]
        intro hbare
        obtain ⟨space, digits, hform⟩ := isBareSuffix_iff.mp hbare
        exact hno ⟨[], space, digits, hform⟩
      · by_contra hsome
        obtain ⟨⟨name, digits⟩, hm⟩ := Option.ne_none_iff_exists'.mp hsome
        obtain ⟨⟨space, hform⟩, -, -⟩ := matchSuffix_eq_some.mp hm
        exact hno ⟨name, space, digits, hform⟩
    · intro n hn
      exact ⟨(normalizeName_eq_ok hn).1, (normalizeName_eq_ok hn).2, strip_normalized hn⟩

/-- A name with an inner colon loses its number and nothing else. -/
theorem stripsOneSuffix_innerColon :
    Str.strip (lit "POL:ARCHIVE: 123") ≠ [] ∧ StripsOneSuffix (lit "POL:ARCHIVE: 123") true := by
  have hne : Str.strip (lit "POL:ARCHIVE: 123") ≠ [] := by decide +kernel
  refine ⟨hne, (stripsOneSuffix_iff _ true hne).mpr fun _ name space digits hform hline => ?_⟩
  have hmem : chr '\n' ∈ Str.strip (lit "POL:ARCHIVE: 123") := by
    rw [hform.text_eq]
    exact List.mem_append_left _ hline
  exact absurd hmem (by decide +kernel)

/-- A line feed in the name keeps the number in it. -/
theorem not_stripsOneSuffix_lineFeed :
    Str.strip (lit "A\nB: 12") ≠ [] ∧ ¬ StripsOneSuffix (lit "A\nB: 12") true := by
  refine ⟨by decide +kernel, fun hclaim => ?_⟩
  have hform : SuffixForm (Str.strip (lit "A\nB: 12")) (lit "A\nB") (lit " ") (lit "12") :=
    ⟨by decide +kernel, by simp [lit, Str.isAsciiSpace, chr], by decide, by simp [lit, isAsciiDigit, chr]⟩
  have hkept : normalizeName (lit "A\nB: 12") true = .ok ⟨lit "A\nB: 12", lit "A\nB: 12", none⟩ := by
    decide +kernel
  have hcut := hclaim.cut rfl _ _ _ hform (by decide)
  rw [hkept] at hcut
  exact absurd (congrArg Name.suffix (Except.ok.inj hcut)) (Option.some_ne_none _).symm

end BackupCollector
