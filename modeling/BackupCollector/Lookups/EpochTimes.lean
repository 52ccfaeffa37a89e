/-
# Epoch times in the lookup and in the parser

A backup's `saveTime` and `completionTime` may be epoch times.  The parser (and the derived
processor, whose copy is the same) reads a number of at least `1e11` as milliseconds; the lookup,
which checks the same times against the action's window, reads it so from `1e12` on.  And where a
number is no instant at all, each looks at its text once more: the parser takes any ISO date, the
lookup only one with an offset, and only if the number was finite.

The two functions are compared on everything `float` accepts, integers of any size, floats and
texts, with the special values.  That is more than times: a number may be too large for a float,
`inf` is the text of a number, and `20260101` is a number and an ISO date at once.  Each of these
is a case in which the two could differ, and the condition has to say in which they do.

* Between the thresholds the parser divides by 1000 and the lookup does not.  They differ, but for
  one way out (`ReadsAsMilliseconds`).
* Outside of them they divide alike, and the text decides when the number is no instant
  (`ReadsAlike`).

`EpochCondition` is what is left of the input when all of that is taken into account, and
`parseDatetime_eq_apiTimestamp_iff` says that it is exactly what makes the two readings one.
Values that are neither numbers nor numeric texts are not compared.
-/
import BackupCollector.Lookups.Models
import BackupCollector.Py.Epoch
import BackupCollector.Py.NumericDates
import BackupCollector.Py.Sha256

namespace BackupCollector

open Py

section
variable [Unicode]

/-! ## 1. The condition

The condition is on the input alone: which numbers, and which texts. -/

/-- An integer, a float, or the text of one. -/
def isNumeric : Json → Bool
  | .int _ | .float _ => true
  | .str s => (parseFloat s).isSome
  | _ => false

omit [Unicode] in
/-- Milliseconds to the parser and seconds to the lookup. -/
def betweenThresholds (f : Float) : Prop :=
  f.isFinite = true ∧ 100000000000.0 ≤ f.abs ∧ ¬ 1000000000000.0 ≤ f.abs

omit [Unicode] in
/-- A number that is no instant, and whose text is no ISO date either or one that both readers take: with an
offset, in the calendar, and of a finite number. -/
def ReadsAlike (f : Float) (s : Str) : Prop :=
  match fromisoformat (Str.strip s) with
  | none => True
  | some (_, none) => False
  | some (t, some off) => f.isFinite = true ∧ Str.strip s = s ∧ (toUtc t off).isOk = true

omit [Unicode] in
/-- The one way out for a number between the thresholds: no instant as seconds, but a text that is also a
timestamp with an offset, and of the very instant its milliseconds are. -/
def ReadsAsMilliseconds (f : Float) (v : Json) : Prop :=
  (fromTimestamp f).isOk = false ∧
    ∃ s t off, v = .str s ∧ fromisoformat s = some (t, some off) ∧ toUtc t off = fromTimestamp (f / 1000.0)

/-- When the lookup and the parser read a number alike.  It is a condition on the value as it was
sent, before any conversion. -/
def EpochCondition (v : Json) : Prop :=
  ∀ f, toFloat v = some f →
    (betweenThresholds f → ReadsAsMilliseconds f v) ∧
      (¬ betweenThresholds f → (datetimeFromEpoch f).isOk = true ∨ ∀ s, v = .str s → ReadsAlike f s)

/-! ## 2. The two conversions of a number

On numbers the two functions differ in the threshold only. -/

omit [Unicode] in
/-- What `api_timestamp` makes of a number before it looks at the text. -/
def lookupEpoch (f : Float) : Except Err Instant :=
  fromTimestamp (if 1000000000000.0 ≤ f.abs then f / 1000.0 else f)

omit [Unicode] in
/-- Outside the thresholds both divide or neither does. -/
theorem lookupEpoch_eq {f : Float} (hfinite : f.isFinite = true) (h : ¬ betweenThresholds f) :
    lookupEpoch f = datetimeFromEpoch f := by
  unfold lookupEpoch datetimeFromEpoch
  by_cases hhigh : 1000000000000.0 ≤ f.abs
  · rw [if_pos hhigh, if_pos (le_abs_of_le_abs hhigh)]
  · rw [if_neg hhigh, if_neg fun hlow => h ⟨hfinite, hlow, hhigh⟩]

omit [Unicode] in
theorem datetimeFromEpoch_of_not_finite {f : Float} (h : f.isFinite = false) : (datetimeFromEpoch f).isOk = false := by
  have hraises : ∀ g : Float, g.isFinite = false → (fromTimestamp g).isOk = false := by
    intro g hg
    have hint := floatToInt_of_not_finite hg
    unfold fromTimestamp
    cases hw : floatToInt g with
    | error e => rfl
    | ok w =>
      rw [hw] at hint
      cases hint
  unfold datetimeFromEpoch
  split
  · exact hraises _ (isFinite_div_thousand h)
  · exact hraises f h

omit [Unicode] in
theorem between_epochs {f : Float} (h : betweenThresholds f) :
    datetimeFromEpoch f = fromTimestamp (f / 1000.0) ∧ lookupEpoch f = fromTimestamp f := by
  unfold datetimeFromEpoch lookupEpoch
  exact ⟨by rw [if_pos h.2.1], by rw [if_neg h.2.2]⟩

/-- `api_timestamp` of what `float` accepts. -/
theorem apiTimestamp_eq {v : Json} {f : Float} (hv : isNumeric v = true) (hf : toFloat v = some f) :
    apiTimestamp v =
      if f.isFinite then (match lookupEpoch f with
        | .ok t => some t
        | .error _ => timestamp v)
      else none := by
  unfold apiTimestamp lookupEpoch
  cases v with
  | bool b => cases hv
  | _ =>
    dsimp only
    rw [hf]
    dsimp only
    generalize fromTimestamp (if 1000000000000.0 ≤ f.abs then f / 1000.0 else f) = found
    by_cases hfinite : f.isFinite = true
    · cases found <;> rw [if_pos hfinite, if_neg (by rw [hfinite]; decide)]
    · rw [if_neg hfinite, if_pos (by rw [Bool.eq_false_iff.mpr hfinite]; decide)]

/-! ## 3. The two readings of a text

Both readers strip a text and look for a `Z`, each in its own way, and one of them needs an offset. -/

/-- What the parser makes of a text that is no instant as a number. -/
def parserText (s : Str) : Except Err (Option Instant) :=
  match fromisoformat (zuluToOffset (Str.strip s)) with
  | none => .ok none
  | some (t, none) => .ok (some t)
  | some (t, some off) => (toUtc t off).map some

theorem strip_ne_nil_of_number {s : Str} {f : Float} (hf : parseFloat s = some f) : Str.strip s ≠ [] := by
  intro hnil
  have hempty : parseFloat [] = none := rfl
  rw [← parseFloat_strip, hnil, hempty] at hf
  cases hf

/-- `_parse_datetime` of a text that `float` accepts. -/
theorem parseDatetime_text {s : Str} {f : Float} (hf : parseFloat s = some f) :
    parseDatetime (.str s) = match datetimeFromEpoch f with
      | .ok t => .ok (some t)
      | .error _ => parserText s := by
  have hne : (Str.strip s).isEmpty = false := List.isEmpty_eq_false_iff.mpr (strip_ne_nil_of_number hf)
  have hstrip : parseFloat (Str.strip s) = some f := by rw [parseFloat_strip, hf]
  unfold parseDatetime
  simp only [string_str, hne, Bool.false_eq_true, if_false, hstrip, Option.bind_some]
  cases datetimeFromEpoch f <;> rfl

omit [Unicode] in
/-- Without a `Z` there is nothing to spell otherwise. -/
theorem zuluToOffset_of_not_isZulu {s : Str} (h : ∀ c ∈ s, isZulu c = false) : zuluToOffset s = s := by
  unfold zuluToOffset
  refine if_neg ?_
  rintro (hlast | hlast) <;> exact absurd (h _ (List.mem_of_getLast? hlast)) (by decide)

omit [Unicode] in
theorem timestamp_of_not_isZulu {s : Str} (h : ∀ c ∈ s, isZulu c = false) :
    timestamp (.str s) = match fromisoformat s with
      | some (t, some off) => (toUtc t off).toOption
      | _ => none := by
  have hsame : (s.flatMap fun c => if c = chr 'Z' then lit "+00:00" else [c]) = s := by
    have hone : ∀ c ∈ s, (if c = chr 'Z' then lit "+00:00" else [c]) = [c] := by
      intro c hc
      refine if_neg ?_
      rintro rfl
      exact absurd (h _ hc) (by decide)
    rw [List.flatMap_congr hone, List.flatMap_singleton']
  unfold timestamp
  dsimp only
  rcases hparsed : fromisoformat s with _ | ⟨t, _ | off⟩ <;> rw [hsame, hparsed]

/-- Only a timestamp with an offset and without spaces around it counts for the lookup. -/
theorem timestamp_text {s : Str} {f : Float} (hf : parseFloat s = some f) :
    timestamp (.str s) = match fromisoformat (Str.strip s) with
      | some (t, some off) => if Str.strip s = s then (toUtc t off).toOption else none
      | _ => none := by
  rw [timestamp_of_not_isZulu (parseFloat_isZulu hf)]
  by_cases hstrip : Str.strip s = s
  · simp only [hstrip, if_true]
  · have hnone : ∀ t off, fromisoformat s ≠ some (t, some off) :=
      fun t off h => hstrip (strip_of_fromisoformat_offset h)
    have hleft : (match fromisoformat s with
        | some (t, some off) => (toUtc t off).toOption
        | _ => none) = none := by
      rcases hs : fromisoformat s with _ | ⟨t, _ | off⟩
      · rfl
      · rfl
      · exact absurd hs (hnone t off)
    rw [hleft]
    rcases fromisoformat (Str.strip s) with _ | ⟨t, _ | off⟩
    · rfl
    · rfl
    · exact (if_neg hstrip).symm

theorem parserText_eq {s : Str} {f : Float} (hf : parseFloat s = some f) :
    parserText s = match fromisoformat (Str.strip s) with
      | none => .ok none
      | some (t, none) => .ok (some t)
      | some (t, some off) => (toUtc t off).map some := by
  have hstrip : parseFloat (Str.strip s) = some f := by rw [parseFloat_strip, hf]
  unfold parserText
  rw [zuluToOffset_of_not_isZulu (parseFloat_isZulu hstrip)]

/-! ## 4. When they are one

The cases put together, with the two numbers that show the difference. -/

/-- A number that is no text. -/
theorem agree_of_number {v : Json} {f : Float} (hv : isNumeric v = true) (hf : toFloat v = some f)
    (hparse : parseDatetime v = .ok (datetimeFromEpoch f).toOption) (hno : timestamp v = none) (hs : ∀ s, v ≠ .str s) :
    parseDatetime v = .ok (apiTimestamp v) ↔ EpochCondition v := by
  have hcondition : EpochCondition v ↔ ¬ betweenThresholds f := by
    constructor
    · intro h hbetween
      obtain ⟨-, s, t, off, hstr, -⟩ := (h f hf).1 hbetween
      exact hs s hstr
    · intro hbetween g hg
      obtain rfl := Option.some.inj (hf.symm.trans hg)
      exact ⟨fun h => absurd h hbetween, fun _ => Or.inr fun s hstr => absurd hstr (hs s)⟩
  rw [hcondition, hparse, apiTimestamp_eq hv hf, hno]
  constructor
  · intro heq hbetween
    obtain ⟨hmillis, hseconds⟩ := between_epochs hbetween
    obtain ⟨t, ht, hdiffer⟩ := readings_differ hbetween.1 hbetween.2.1 hbetween.2.2
    rw [if_pos hbetween.1, hmillis, hseconds, ht] at heq
    have hsome := Except.ok.inj heq
    cases hu : fromTimestamp f with
    | ok u =>
      rw [hu] at hsome
      exact hdiffer u hu (Option.some.inj hsome).symm
    | error e =>
      rw [hu] at hsome
      cases hsome
  · intro hbetween
    by_cases hfinite : f.isFinite = true
    · rw [if_pos hfinite, lookupEpoch_eq hfinite hbetween]
      cases datetimeFromEpoch f <;> rfl
    · have hraises := datetimeFromEpoch_of_not_finite (Bool.eq_false_iff.mpr hfinite)
      rw [if_neg hfinite]
      cases hd : datetimeFromEpoch f with
      | ok t =>
        rw [hd] at hraises
        cases hraises
      | error e => rfl

/-- Outside the thresholds a text is read alike when its number is an instant, or when its text is. -/
theorem agree_of_text {s : Str} {f : Float} (hf : parseFloat s = some f) (hbetween : ¬ betweenThresholds f) :
    parseDatetime (.str s) = .ok (apiTimestamp (.str s)) ↔ (datetimeFromEpoch f).isOk = true ∨ ReadsAlike f s := by
  have hv : isNumeric (.str s) = true := by
    change (parseFloat s).isSome = true
    rw [hf]
    rfl
  rw [parseDatetime_text hf, apiTimestamp_eq hv hf]
  cases hd : datetimeFromEpoch f with
  | ok t =>
    have hfinite : f.isFinite = true := by
      by_contra hnot
      have hraises := datetimeFromEpoch_of_not_finite (Bool.eq_false_iff.mpr hnot)
      rw [hd] at hraises
      cases hraises
    rw [if_pos hfinite, lookupEpoch_eq hfinite hbetween, hd]
    exact iff_of_true rfl (Or.inl rfl)
  | error e =>
    have hchoice : ((.error e : Except Err Instant).isOk = true ∨ ReadsAlike f s) ↔ ReadsAlike f s :=
      or_iff_right Bool.false_ne_true
    have hlookup : (if f.isFinite then (match lookupEpoch f with
        | .ok t => some t
        | .error _ => timestamp (.str s)) else none) = if f.isFinite then timestamp (.str s) else none := by
      by_cases hfinite : f.isFinite = true
      · rw [if_pos hfinite, if_pos hfinite, lookupEpoch_eq hfinite hbetween, hd]
      · rw [if_neg hfinite, if_neg hfinite]
    rw [hchoice, hlookup]
    dsimp only
    rw [parserText_eq hf, timestamp_text hf]
    unfold ReadsAlike
    rcases fromisoformat (Str.strip s) with _ | ⟨t, _ | off⟩
    · dsimp only
      rw [ite_self]
      exact iff_of_true rfl trivial
    · dsimp only
      rw [ite_self]
      refine iff_of_false (fun heq => ?_) id
      cases Except.ok.inj heq
    · dsimp only
      constructor
      · intro heq
        cases hutc : toUtc t off with
        | error e' =>
          rw [hutc] at heq
          cases heq
        | ok u =>
          rw [hutc] at heq
          have hsome := Except.ok.inj heq
          split at hsome
          · rename_i hfinite
            split at hsome
            · rename_i hstrip
              exact ⟨hfinite, hstrip, rfl⟩
            · cases hsome
          · cases hsome
      · rintro ⟨hfinite, hstrip, hutc⟩
        obtain ⟨u, hu⟩ := ok_of_isOk hutc
        rw [if_pos hfinite, if_pos hstrip, hu]
        rfl

/-- **Epoch times.** The parser and the lookup make the same of a number exactly under the condition: it is not
between their thresholds, and it is an instant or its text is no date to one of them alone. -/
theorem parseDatetime_eq_apiTimestamp_iff {v : Json} (hv : isNumeric v = true) :
    parseDatetime v = .ok (apiTimestamp v) ↔ EpochCondition v := by
  cases v with
  | null => cases hv
  | bool b => cases hv
  | arr xs => cases hv
  | obj kvs => cases hv
  | float f => exact agree_of_number (f := f) rfl rfl rfl rfl fun s h => (nomatch h)
  | int n =>
    cases hn : intToFloat n with
    | ok f =>
      have hto : toFloat (.int n) = some f := by
        change (intToFloat n).toOption = some f
        rw [hn]
        rfl
      have hparse : parseDatetime (.int n) = .ok (datetimeFromEpoch f).toOption := by
        change Except.ok ((intToFloat n).bind datetimeFromEpoch).toOption = _
        rw [hn]
        rfl
      exact agree_of_number rfl hto hparse rfl fun s h => (nomatch h)
    | error e =>
      have hto : toFloat (.int n) = none := by
        change (intToFloat n).toOption = none
        rw [hn]
        rfl
      refine iff_of_true ?_ fun f hf => ?_
      · change Except.ok ((intToFloat n).bind datetimeFromEpoch).toOption = _
        unfold apiTimestamp
        dsimp only
        rw [hto, hn]
        rfl
      · rw [hto] at hf
        cases hf
  | str s =>
    obtain ⟨f, hf⟩ := Option.isSome_iff_exists.mp (show (parseFloat s).isSome = true from hv)
    have hcondition : EpochCondition (.str s) ↔ (betweenThresholds f → ReadsAsMilliseconds f (.str s)) ∧
        (¬ betweenThresholds f → (datetimeFromEpoch f).isOk = true ∨ ReadsAlike f s) := by
      constructor
      · intro h
        refine ⟨(h f hf).1, fun hbetween => ?_⟩
        exact ((h f hf).2 hbetween).imp_right fun halike => halike s rfl
      · intro h g hg
        obtain rfl := Option.some.inj (hf.symm.trans hg)
        refine ⟨h.1, fun hbetween => (h.2 hbetween).imp_right fun halike s' hs' => ?_⟩
        rw [← Json.str.inj hs']
        exact halike
    rw [hcondition]
    by_cases hbetween : betweenThresholds f
    · obtain ⟨hmillis, hseconds⟩ := between_epochs hbetween
      obtain ⟨t, ht, hdiffer⟩ := readings_differ hbetween.1 hbetween.2.1 hbetween.2.2
      rw [parseDatetime_text hf, apiTimestamp_eq hv hf, if_pos hbetween.1, hmillis, hseconds, ht]
      unfold ReadsAsMilliseconds
      rw [ht]
      cases hu : fromTimestamp f with
      | ok u =>
        refine iff_of_false (fun heq => ?_) (fun h => ?_)
        · exact hdiffer u hu (Option.some.inj (Except.ok.inj heq)).symm
        · exact Bool.false_ne_true (h.1 hbetween).1.symm
      | error e =>
        dsimp only
        rw [timestamp_of_not_isZulu (parseFloat_isZulu hf)]
        constructor
        · intro heq
          refine ⟨fun _ => ⟨rfl, ?_⟩, fun hnot => absurd hbetween hnot⟩
          have hsome := Except.ok.inj heq
          rcases hiso : fromisoformat s with _ | ⟨t', _ | off⟩
          · rw [hiso] at hsome
            cases hsome
          · rw [hiso] at hsome
            cases hsome
          · rw [hiso] at hsome
            refine ⟨s, t', off, rfl, hiso, ?_⟩
            cases hutc : toUtc t' off with
            | error e' =>
              dsimp only at hsome
              rw [hutc] at hsome
              cases hsome
            | ok u =>
              dsimp only at hsome
              rw [hutc] at hsome
              rw [Option.some.inj hsome]
        · rintro ⟨h, -⟩
          obtain ⟨-, s', t', off, hs', hiso, hutc⟩ := h hbetween
          rw [← Json.str.inj hs'] at hiso
          rw [hiso]
          dsimp only
          rw [hutc]
          rfl
    · rw [agree_of_text hf hbetween]
      exact ⟨fun h => ⟨fun hb => absurd hb hbetween, fun _ => h⟩, fun h => h.2 hbetween⟩

end

section
attribute [local instance] Unicode.ascii

theorem epochTimes_seconds :
    parseDatetime (.int 1756395600) = .ok (apiTimestamp (.int 1756395600)) ↔ EpochCondition (.int 1756395600) :=
  parseDatetime_eq_apiTimestamp_iff (v := .int 1756395600) rfl

/-- `500000000000` is an instant of 1985 to the parser and none to the lookup; `100000000000` is 1973 to the one
and 5138 to the other. -/
theorem epochTimes_milliseconds :
    (parseDatetime (.int 500000000000) ≠ .ok (apiTimestamp (.int 500000000000))) ∧
      parseDatetime (.int 100000000000) ≠ .ok (apiTimestamp (.int 100000000000)) := by
  refine ⟨?_, ?_⟩ <;> decide +kernel

end

end BackupCollector
