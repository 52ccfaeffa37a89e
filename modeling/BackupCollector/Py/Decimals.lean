/-
# Which figures are a number

`[\d.]+` accepts any row of digits and points, of any script.  `float` accepts such a row exactly
when it has at most one point and something besides it (`parseFloat_figures`).

This is the gap between an expression that captures and a conversion that follows it: the first is
about characters, the second about the whole text.  Programs that trust the one to imply the other
raise on `1.2.3`.  The condition is decidable on the text, so it can be stated of an input.

Digits of other scripts are figures too, and `float` reads them as their ASCII digits.  That
translation keeps the points and the length, so it is enough to know the ASCII case; no sign,
exponent, underscore or word can be among figures, which is why the other branches of `float` fall
away.
-/
import BackupCollector.Py.Number
import BackupCollector.Py.Pattern

namespace Py

/-- `\d`: a decimal digit of any script.  No space is one. -/
def isDecimal [Unicode] (c : Chr) : Bool := (Unicode.decimal c).isSome && !Str.isSpace c

/-- `[\d.]` -/
def isFigure [Unicode] (c : Chr) : Bool := isDecimal c || isChr '.' c

/-- At most one point, and something besides it.  `1.`, `.5` and `7` are such texts, the point
alone and the empty text are not. -/
def DecimalText (s : Str) : Prop := s.count (chr '.') ≤ 1 ∧ s.count (chr '.') < s.length

instance (s : Str) : Decidable (DecimalText s) := inferInstanceAs (Decidable (_ ∧ _))

/-! ## 1. ASCII figures

A row of ASCII figures is cut at its first point, and what follows may not have another. -/

/-- A digit or a point. -/
def AsciiFigure (c : Chr) : Prop := isAsciiDigit c = true ∨ c = chr '.'

theorem AsciiFigure.ne {c : Chr} (h : AsciiFigure c) {l : Char} (hl : isAsciiDigit (chr l) = false) (hpoint : l ≠ '.') :
    c ≠ chr l := by
  rintro rfl
  rcases h with h | h
  · rw [hl] at h
    cases h
  · exact hpoint (chr_injective h)

theorem AsciiFigure.not_space {c : Chr} (h : AsciiFigure c) : Str.isSpace c = false := by
  rcases h with h | rfl
  · exact Str.isSpace_of_digit h
  · decide

theorem AsciiFigure.lower {c : Chr} (h : AsciiFigure c) : asciiLowerChr c = c := by
  rcases h with h | rfl
  · exact Str.asciiLowerChr_digit h
  · decide

theorem AsciiFigure.eq_point {c : Chr} (h : AsciiFigure c) (hdigit : ¬ isAsciiDigit c = true) : c = chr '.' :=
  h.resolve_left hdigit

theorem count_point_of_digits {t : Str} (h : ∀ c ∈ t, isAsciiDigit c = true) : t.count (chr '.') = 0 := by
  refine List.count_eq_zero.mpr fun hmem => ?_
  have hpoint := h _ hmem
  cases hpoint

/-- No word is made of figures. -/
theorem asciiLower_ne_of_figures {t : Str} (h : ∀ c ∈ t, AsciiFigure c) {s : String} {l : Char} (hl : l ∈ s.toList)
    (hdigit : isAsciiDigit (chr l) = false) (hpoint : l ≠ '.') : asciiLower t ≠ lit s := by
  intro he
  have hsame : asciiLower t = t := (List.map_congr_left fun c hc => (h c hc).lower).trans t.map_id
  have hmem : chr l ∈ t := by
    rw [← hsame, he]
    exact List.mem_map.mpr ⟨l, hl, rfl⟩
  exact (h _ hmem).ne hdigit hpoint rfl

theorem parseExponent_figures {t : Str} (h : ∀ c ∈ t, AsciiFigure c) : (parseExponent t).isSome = t.isEmpty := by
  cases t with
  | nil => rfl
  | cons c t =>
    have hc := h c List.mem_cons_self
    unfold parseExponent
    dsimp only
    rw [if_neg (not_or.mpr ⟨hc.ne (by decide) (by decide), hc.ne (by decide) (by decide)⟩)]
    rfl

/-- Figures are an unsigned number exactly when they are a decimal text. -/
theorem parseUnsigned_isSome {t : Str} (h : ∀ c ∈ t, AsciiFigure c) : (parseUnsigned t).isSome = true ↔ DecimalText t := by
  have hinf : ¬ (asciiLower t = lit "inf" ∨ asciiLower t = lit "infinity") := not_or.mpr
    ⟨asciiLower_ne_of_figures (l := 'i') h (by decide) (by decide) (by decide),
      asciiLower_ne_of_figures (l := 'i') h (by decide) (by decide) (by decide)⟩
  have hnan : ¬ asciiLower t = lit "nan" := asciiLower_ne_of_figures (l := 'n') h (by decide) (by decide) (by decide)
  have hsplit : t.takeWhile isAsciiDigit ++ t.dropWhile isAsciiDigit = t := List.takeWhile_append_dropWhile
  have hwhole : ∀ c ∈ t.takeWhile isAsciiDigit, isAsciiDigit c = true := fun c hc => List.mem_takeWhile_imp hc
  have hrest : ∀ c ∈ t.dropWhile isAsciiDigit, AsciiFigure c := fun c hc => h c (List.dropWhile_subset _ hc)
  have hhead := List.head?_dropWhile_not isAsciiDigit t
  unfold parseUnsigned DecimalText
  rw [if_neg hinf, if_neg hnan]
  generalize t.takeWhile isAsciiDigit = whole at *
  generalize t.dropWhile isAsciiDigit = rest at *
  subst hsplit
  cases rest with
  | nil =>
    -- No point: some digit is needed.
    rw [List.append_nil, count_point_of_digits hwhole]
    cases whole with
    | nil => simp
    | cons c whole => simp [parseExponent]
  | cons c r =>
    obtain rfl : c = chr '.' := (hrest c List.mem_cons_self).eq_point (by simpa using hhead)
    have hr : ∀ c ∈ r, AsciiFigure c := fun c hc => hrest c (List.mem_cons_of_mem _ hc)
    have hjoin : r.takeWhile isAsciiDigit ++ r.dropWhile isAsciiDigit = r := List.takeWhile_append_dropWhile
    have hfrac : ∀ c ∈ r.takeWhile isAsciiDigit, isAsciiDigit c = true := fun c hc => List.mem_takeWhile_imp hc
    have hend : ∀ c ∈ r.dropWhile isAsciiDigit, AsciiFigure c := fun c hc => hr c (List.dropWhile_subset _ hc)
    have hstop := List.head?_dropWhile_not isAsciiDigit r
    simp only [↓reduceIte]
    generalize r.takeWhile isAsciiDigit = frac at *
    generalize r.dropWhile isAsciiDigit = rest at *
    subst hjoin
    rw [List.count_append, List.count_cons_self, List.count_append, count_point_of_digits hwhole,
      count_point_of_digits hfrac]
    cases rest with
    | nil =>
      -- One point: some digit is needed on either side.
      cases whole <;> cases frac <;> simp [parseExponent]
    | cons d rest =>
      -- A second point is no exponent.
      obtain rfl : d = chr '.' := (hend d List.mem_cons_self).eq_point (by simpa using hstop)
      have hnone := parseExponent_figures hend
      rw [List.isEmpty_cons, Option.isSome_eq_false_iff, Option.isNone_iff_eq_none] at hnone
      rw [hnone, List.count_cons_self]
      simp

/-! ## 2. Figures of any script

Digits are translated first, and points stay where they are. -/

variable [Unicode]

theorem toAsciiDigits_figures : ∀ {s : Str}, (∀ c ∈ s, isFigure c = true) →
    ∃ t, toAsciiDigits s = some t ∧ (∀ c ∈ t, AsciiFigure c) ∧ t.count (chr '.') = s.count (chr '.') ∧ t.length = s.length
  | [], _ => ⟨[], rfl, fun _ hc => (nomatch hc), rfl, rfl⟩
  | c :: s, h => by
    obtain ⟨t, ht, hfigures, hcount, hlen⟩ := toAsciiDigits_figures fun d hd => h d (List.mem_cons_of_mem c hd)
    have hc := h c List.mem_cons_self
    -- A point stays itself, a digit becomes its ASCII digit.
    obtain ⟨d, hd, hfigure, hiff⟩ : ∃ d, (if c.val < 128 then some c else if Str.isSpace c then some (chr ' ')
        else (Unicode.decimal c).map Str.digitChr) = some d ∧ AsciiFigure d ∧ (d = chr '.' ↔ c = chr '.') := by
      by_cases hascii : c.val < 128
      · refine ⟨c, if_pos hascii, ?_, Iff.rfl⟩
        rw [isFigure, isDecimal, Unicode.decimal_ascii c hascii, Bool.or_eq_true, Bool.and_eq_true] at hc
        rcases hc with ⟨hdigit, -⟩ | hpoint
        · left
          by_contra hno
          rw [if_neg hno] at hdigit
          cases hdigit
        · exact Or.inr (of_decide_eq_true hpoint)
      · have hpoint : c ≠ chr '.' := by
          rintro rfl
          exact hascii (by decide)
        rw [isFigure, isDecimal, Bool.or_eq_true, Bool.and_eq_true] at hc
        obtain ⟨hdecimal, hspace⟩ := hc.resolve_right fun h => hpoint (of_decide_eq_true h)
        obtain ⟨n, hn⟩ := Option.isSome_iff_exists.mp hdecimal
        refine ⟨Str.digitChr n, ?_, Or.inl (Str.digitChr_ascii n), ?_⟩
        · rw [if_neg hascii, if_neg (by simpa using hspace), hn]
          rfl
        · exact iff_of_false (Str.digitChr_ne n (by decide)) hpoint
    refine ⟨d :: t, ?_, List.forall_mem_cons.mpr ⟨hfigure, hfigures⟩, ?_, ?_⟩
    · rw [toAsciiDigits, hd, ht]
      rfl
    · rw [List.count_cons, List.count_cons, hcount]
      congr 1
      simp only [beq_iff_eq, hiff]
    · rw [List.length_cons, List.length_cons, hlen]

/-- **Figures are a float exactly when they are a decimal text.** -/
theorem parseFloat_figures {s : Str} (h : ∀ c ∈ s, isFigure c = true) : (parseFloat s).isSome = true ↔ DecimalText s := by
  obtain ⟨t, ht, hfigures, hcount, hlen⟩ := toAsciiDigits_figures h
  have hstrip : Str.strip t = t := Str.strip_of_no_space fun c hc => (hfigures c hc).not_space
  have hscore : dropUnderscores none t = some t :=
    dropUnderscores_of_none (by simp) fun c hc => (hfigures c hc).ne (by decide) (by decide)
  have hsign : takeSign t = (false, t) := by
    cases t with
    | nil => rfl
    | cons c t =>
      have hc := hfigures c List.mem_cons_self
      rw [takeSign, if_neg (hc.ne (by decide) (by decide)), if_neg (hc.ne (by decide) (by decide))]
  have hsame : DecimalText s ↔ DecimalText t := by
    unfold DecimalText
    rw [hcount, hlen]
  rw [hsame, ← parseUnsigned_isSome hfigures]
  unfold parseFloat
  rw [ht, Option.bind_eq_bind, Option.bind_some, hstrip, hscore, Option.bind_eq_bind, Option.bind_some, hsign]
  dsimp only
  cases parseUnsigned t with
  | none => simp
  | some f => simp

theorem isSpace_of_figure {c : Chr} (h : isFigure c = true) : Str.isSpace c = false := by
  rw [isFigure, isDecimal, Bool.or_eq_true, Bool.and_eq_true] at h
  rcases h with ⟨-, h⟩ | h
  · simpa using h
  · rw [of_decide_eq_true h]
    decide

end Py
