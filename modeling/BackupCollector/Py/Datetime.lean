/-
# The texts of an instant

`strftime` and `isoformat` write an instant as a text, `fromisoformat` and `fromtimestamp` read
one.  `fromisoformat` follows the interpreter's C parser, which accepts more than `isoformat`
writes: week dates, basic formats, any separator, offsets with seconds.  The program hands it
whatever an API sends, so all of that is modelled.

What the program relies on is the round trip: a text `isoformat` wrote reads back as the instant it
was written from (`fromisoformat_isoformat`), and is never taken for a number
(`parseFloat_isoformat`), which matters to readers that try a number first.  Months are compared as
texts, and a month text determines the month (`yearMonth_inj`).

The reader is a chain of cuts, each of which takes some characters and leaves the rest: the date
ends where its format says, a field of the time ends at two digits, an offset begins at its sign.
The round trip is proved along this chain, for texts of the one shape that `isoformat` writes; on
other shapes the reader is only defined.

`fromtimestamp` of a float rounds to the nearest microsecond, halves to even.  How far that is from
the float is in `Py/Epoch`.
-/
import BackupCollector.Py.Calendar

namespace Py

/-! ## 1. Writing

Fields of fixed width, with the exception of the year in `strftime`, which the C library does not
pad. -/

def yearWidth (y : Nat) : Nat := if y < 10 then 1 else if y < 100 then 2 else if y < 1000 then 3 else 4

/-- `strftime("%Y")`: the C library does not pad the year. -/
def yearText (y : Nat) : Str := Str.digitsPad (yearWidth y) y

namespace Instant

/-- `strftime("%Y-%m")` -/
def yearMonth (t : Instant) : Str := yearText t.year ++ lit "-" ++ Str.digitsPad 2 t.month

/-- `strftime("%Y%m%dT%H%M%S.%fZ")` -/
def compact (t : Instant) : Str :=
  yearText t.year ++ Str.digitsPad 2 t.month ++ Str.digitsPad 2 t.day ++ lit "T" ++
    Str.digitsPad 2 t.hour ++ Str.digitsPad 2 t.minute ++ Str.digitsPad 2 t.second ++ lit "." ++
    Str.digitsPad 6 t.micro ++ lit "Z"

/-- The local part of `isoformat()`: the fraction is left out when it is zero. -/
def isoLocal (t : Instant) : Str :=
  Str.digitsPad 4 t.year ++ lit "-" ++ Str.digitsPad 2 t.month ++ lit "-" ++ Str.digitsPad 2 t.day ++
    lit "T" ++ Str.digitsPad 2 t.hour ++ lit ":" ++ Str.digitsPad 2 t.minute ++ lit ":" ++
    Str.digitsPad 2 t.second ++ (if t.micro = 0 then [] else chr '.' :: Str.digitsPad 6 t.micro)

/-- `isoformat()` of a UTC datetime. -/
def isoformat (t : Instant) : Str := t.isoLocal ++ lit "+00:00"

end Instant

/-! ## 2. Reading

Every reader returns what is left of the text, or nothing where the interpreter raises. -/

/-- The next `k` characters as a number, when they are digits. -/
def takeDigits (k : Nat) (s : Str) : Option (Nat × Str) :=
  if (s.take k).length = k ∧ (s.take k).all isAsciiDigit = true then
    some (digitsVal (s.take k), s.drop k)
  else none

/-- Where the date ends: formats differ in their fifth and sixth character. -/
def dateEnd (s : Str) : Option Nat :=
  if s.length = 7 then some 7
  else if s[4]? = some (chr '-') then
    if s[5]? = some (chr 'W') then
      if s.length < 8 then none
      else if s[8]? = some (chr '-') then
        if s.length = 9 then none
        else if (s[10]?).any isAsciiDigit then some 8 else some 10
      else some 8
    else some 10
  else if s[4]? = some (chr 'W') then
    let pos := 7 + ((s.drop 7).takeWhile isAsciiDigit).length
    if pos < 9 then some pos else if pos % 2 = 0 then some 7 else some 8
  else some 8

/-- The day number of an ISO week date. -/
def weekDate (y w d : Nat) : Option Nat :=
  let first := daysBeforeYear y
  let wd := first % 7
  let long : Bool := decide (wd = 3) || (decide (wd = 2) && isLeap y)
  if 1 ≤ y ∧ y ≤ 9999 ∧ 1 ≤ w ∧ (w < 53 ∨ w = 53 ∧ long = true) ∧ 1 ≤ d ∧ d ≤ 7 then
    let monday := if 3 < wd then first + 7 - wd else first - wd
    let n := monday + (w - 1) * 7 + (d - 1)
    if n < maxDays then some n else none
  else none

/-- The date part, as a day number. -/
def parseDate (s : Str) : Option Nat := do
  let (y, s) ← takeDigits 4 s
  let sep : Bool := s.head? = some (chr '-')
  let s := if sep then s.drop 1 else s
  if s.head? = some (chr 'W') then
    let (w, s) ← takeDigits 2 (s.drop 1)
    if s.isEmpty then weekDate y w 1
    else if sep && !(decide (s.head? = some (chr '-'))) then none
    else do
      let (d, _) ← takeDigits 1 (if sep then s.drop 1 else s)
      weekDate y w d
  else do
    let (m, s) ← takeDigits 2 s
    if sep && !(decide (s.head? = some (chr '-'))) then none
    else do
      let (d, _) ← takeDigits 2 (if sep then s.drop 1 else s)
      dayNumber y m d

/-- How the fields of a time end: at the end of the text, with or without characters left
over, or before a fraction. -/
inductive TimeEnd where
  | done (more : Bool)
  | frac (rest : Str)

/-- Hours, minutes and seconds, as many as there are; `more` says whether an offset follows.
Whether the fields are separated is decided after the first one. -/
def timeFields (more : Bool) : Nat → Option Bool → Str → Option (List Nat × TimeEnd)
  | 0, _, s => some ([], .frac s)
  | k + 1, sep?, s =>
    match takeDigits 2 s with
    | none => none
    | some (v, r) =>
      let sep := sep?.getD (decide (r.head? = some (chr ':')))
      match r with
      | [] => some ([v], .done more)
      | [_] => some ([v], .done true)
      | c :: c' :: r' =>
        if sep && decide (c = chr ':') then
          (timeFields more k (some sep) (c' :: r')).map fun p => (v :: p.1, p.2)
        else if c = chr '.' ∨ c = chr ',' then some ([v], .frac (c' :: r'))
        else if sep then none
        else (timeFields more k (some sep) (c :: c' :: r')).map fun p => (v :: p.1, p.2)

/-- A time text: hours, minutes, seconds and microseconds, and whether text is left over. -/
def parseHms (more : Bool) (s : Str) : Option ((Nat × Nat × Nat × Nat) × Bool) :=
  match timeFields more 3 none s with
  | none => none
  | some (vs, .done b) => some ((vs.getD 0 0, vs.getD 1 0, vs.getD 2 0, 0), b)
  | some (vs, .frac r) =>
    let k := min 6 r.length
    match takeDigits k r with
    | none => none
    | some (f, r') =>
      let r'' := r'.dropWhile isAsciiDigit
      some ((vs.getD 0 0, vs.getD 1 0, vs.getD 2 0, f * 10 ^ (6 - k)), !r''.isEmpty || more)

def isOffsetSign (c : Chr) : Bool :=
  decide (c = chr '+') || decide (c = chr '-') || decide (c = chr 'Z')

/-- An offset in microseconds; below a second only `Z` and a zero offset exist. -/
def parseOffset (s : Str) : Option Int :=
  match s with
  | [] => none
  | c :: r =>
    if c = chr 'Z' then if r.isEmpty then some 0 else none
    else match parseHms false r with
      | some ((h, m, sec, us), false) =>
        let secs := h * 3600 + m * 60 + sec
        let off : Int := if secs = 0 then 0 else (secs * 1000000 + us : Nat)
        if off < usPerDay then some (if c = chr '-' then -off else off) else none
      | _ => none

/-- The time part: microseconds of the day, and the offset if one is given. -/
def parseTime (s : Str) : Option (Nat × Option Int) := do
  let t := s.takeWhile (fun c => !isOffsetSign c)
  let z := s.dropWhile (fun c => !isOffsetSign c)
  let ((h, m, sec, us), left) ← parseHms (!z.isEmpty) t
  let off ← (if z.isEmpty then (if left then none else some none) else (parseOffset z).map some)
  if h ≤ 23 ∧ m ≤ 59 ∧ sec ≤ 59 then
    some (((h * 60 + m) * 60 + sec) * 1000000 + us, off)
  else none

/-- `datetime.fromisoformat(s)`: the local time and the offset; `none` is the `ValueError`. -/
def fromisoformat (s : Str) : Option (Instant × Option Int) :=
  if s.length < 7 then none
  else match dateEnd s with
    | none => none
    | some k =>
      match parseDate (s.take k) with
      | none => none
      | some n =>
        match (if s.length ≤ k then some (0, none) else parseTime (s.drop (k + 1))) with
        | none => none
        | some (tod, off) => (Instant.ofUs (n * usPerDay + tod : Nat)).map fun t => (t, off)

/-- `astimezone(timezone.utc)` of a local time with an offset. -/
def toUtc (t : Instant) (off : Int) : Except Err Instant :=
  match Instant.ofUs (t.us - off) with
  | some u => .ok u
  | none => .error ⟨.overflowError, "date value out of range"⟩

/-- `datetime.fromtimestamp(seconds, timezone.utc)`: the fraction is rounded to the nearest
microsecond, halves to even. -/
def fromTimestamp (f : Float) : Except Err Instant := do
  let whole ← floatToInt f
  let us := roundFloat ((f - Float.ofInt whole) * 1000000.0)
  match Instant.ofUs (719162 * usPerDay + whole * 1000000 + us) with
  | some t => .ok t
  | none => .error (valueError "year is out of range")

/-! ## 3. Round trip

From what is written back to the instant. -/

open Str

theorem takeDigits_digitsPad {k n : Nat} (h : n < 10 ^ k) (s : Str) :
    takeDigits k (digitsPad k n ++ s) = some (n, s) := by
  have ht : (digitsPad k n ++ s).take k = digitsPad k n := List.take_left' (digitsPad_length k n)
  have hd : (digitsPad k n ++ s).drop k = s := List.drop_left' (digitsPad_length k n)
  unfold takeDigits
  rw [ht, hd, if_pos ⟨digitsPad_length k n, List.all_eq_true.mpr (digitsPad_digits k n)⟩,
    digitsVal_digitsPad h]

theorem takeDigits_two {n : Nat} (h : n < 100) (s : Str) : takeDigits 2 (digitsPad 2 n ++ s) = some (n, s) :=
  takeDigits_digitsPad (k := 2) h s


/-- One field of a separated time, when another follows. -/
theorem timeFields_colon (more : Bool) {k v w : Nat} (hv : v < 100) {sep : Option Bool}
    (hs : sep.getD true = true) (r : Str) :
    timeFields more (k + 1) sep (digitsPad 2 v ++ chr ':' :: (digitsPad 2 w ++ r))
      = (timeFields more k (some true) (digitsPad 2 w ++ r)).map fun p => (v :: p.1, p.2) := by
  have hw : digitsPad 2 w = [digitChr (w / 10), digitChr w] := rfl
  simp only [timeFields, takeDigits_two hv, hw, List.cons_append, List.head?_cons, hs, decide_true,
    Bool.and_self, if_true]

theorem timeFields_end (more : Bool) {k v : Nat} (hv : v < 100) (sep : Option Bool) :
    timeFields more (k + 1) sep (digitsPad 2 v ++ []) = some ([v], .done more) := by
  simp only [timeFields, takeDigits_two hv]

theorem timeFields_point (more : Bool) {k v : Nat} (hv : v < 100) (c : Chr) (r : Str) :
    timeFields more (k + 1) (some true) (digitsPad 2 v ++ chr '.' :: c :: r)
      = some ([v], .frac (c :: r)) := by
  simp [timeFields, takeDigits_two hv]

/-- The fraction `isoformat` writes. -/
def fracText (us : Nat) : Str := if us = 0 then [] else chr '.' :: digitsPad 6 us

theorem parseHms_clock (more : Bool) {h m s us : Nat} (hh : h < 100) (hm : m < 100) (hs : s < 100)
    (hus : us < 1000000) :
    parseHms more (digitsPad 2 h ++ chr ':' :: (digitsPad 2 m ++ chr ':' :: (digitsPad 2 s ++ fracText us)))
      = some ((h, m, s, us), more) := by
  unfold parseHms
  rw [timeFields_colon more hh rfl, timeFields_colon more hm rfl]
  unfold fracText
  by_cases h0 : us = 0
  · rw [if_pos h0, timeFields_end more hs]
    simp [h0]
  · obtain ⟨c, r, hcr⟩ : ∃ c r, digitsPad 6 us = c :: r := ⟨_, _, rfl⟩
    have h6 := takeDigits_digitsPad (k := 6) (n := us) hus []
    have hlen : (c :: r).length = 6 := by rw [← hcr]; rfl
    rw [List.append_nil, hcr] at h6
    rw [if_neg h0, hcr, timeFields_point more hs]
    simp [hlen, h6]


def clockText (h m s us : Nat) : Str :=
  digitsPad 2 h ++ chr ':' :: (digitsPad 2 m ++ chr ':' :: (digitsPad 2 s ++ fracText us))

theorem isOffsetSign_digit {c : Chr} (h : isAsciiDigit c = true) : isOffsetSign c = false := by
  simp only [isAsciiDigit, Bool.and_eq_true, decide_eq_true_eq] at h
  have h1 : c ≠ chr '+' := by rintro rfl; simp [chr] at h
  have h2 : c ≠ chr '-' := by rintro rfl; simp [chr] at h
  have h3 : c ≠ chr 'Z' := by rintro rfl; simp [chr] at h
  simp [isOffsetSign, h1, h2, h3]

theorem clockText_not_sign (h m s us : Nat) : ∀ c ∈ clockText h m s us, (!isOffsetSign c) = true := by
  have hd : ∀ k n, ∀ c ∈ digitsPad k n, isOffsetSign c = false :=
    fun k n c hc => isOffsetSign_digit (digitsPad_digits k n c hc)
  have hf : ∀ c ∈ fracText us, isOffsetSign c = false := by
    intro c hc
    unfold fracText at hc
    split at hc
    · simp at hc
    · rcases List.mem_cons.mp hc with rfl | hc
      · decide
      · exact hd _ _ c hc
  intro c hc
  simp only [clockText, List.mem_append, List.mem_cons] at hc
  rw [Bool.not_eq_true']
  rcases hc with hc | rfl | hc | rfl | hc | hc
  · exact hd _ _ c hc
  · decide
  · exact hd _ _ c hc
  · decide
  · exact hd _ _ c hc
  · exact hf c hc

theorem parseTime_clock {h m s us : Nat} (hh : h < 24) (hm : m < 60) (hs : s < 60) (hus : us < 1000000) :
    parseTime (clockText h m s us ++ lit "+00:00")
      = some (((h * 60 + m) * 60 + s) * 1000000 + us, some 0) := by
  have ht : (clockText h m s us ++ lit "+00:00").takeWhile (fun c => !isOffsetSign c) = clockText h m s us ++ _ :=
    List.takeWhile_append_of_pos (clockText_not_sign h m s us)
  have hd : (clockText h m s us ++ lit "+00:00").dropWhile (fun c => !isOffsetSign c) = _ :=
    List.dropWhile_append_of_pos (clockText_not_sign h m s us)
  have htz : (lit "+00:00").takeWhile (fun c => !isOffsetSign c) = [] := by decide
  have hdz : (lit "+00:00").dropWhile (fun c => !isOffsetSign c) = lit "+00:00" := by decide
  have hoff : parseOffset (lit "+00:00") = some 0 := by decide
  have hp := parseHms_clock true (show h < 100 by omega) (show m < 100 by omega) (show s < 100 by omega) hus
  have hz : (lit "+00:00").isEmpty = false := by decide
  unfold parseTime
  simp only [ht, hd, htz, hdz, List.append_nil, hz]
  rw [show (!false) = true from rfl, clockText, hp]
  simp only [hoff, Option.bind_eq_bind, Option.bind_some, Option.map_some, Bool.false_eq_true, if_false]
  rw [if_pos (by omega)]

theorem parseDate_dashed {y m d n : Nat} (hy : y < 10000) (hm : m < 100) (hd : d < 100)
    (hn : dayNumber y m d = some n) :
    parseDate (digitsPad 4 y ++ chr '-' :: (digitsPad 2 m ++ chr '-' :: digitsPad 2 d)) = some n := by
  have h4 := takeDigits_digitsPad (k := 4) (n := y) hy (chr '-' :: (digitsPad 2 m ++ chr '-' :: digitsPad 2 d))
  have h2 := takeDigits_two hd []
  have hW : (digitsPad 2 m ++ chr '-' :: digitsPad 2 d).head? ≠ some (chr 'W') := by
    rw [show digitsPad 2 m = [digitChr (m / 10), digitChr m] from rfl]
    simpa using digitChr_ne (m / 10) (c := 'W') (by decide)
  rw [List.append_nil] at h2
  unfold parseDate
  simp only [h4, Option.bind_eq_bind, Option.bind_some, List.head?_cons, decide_true, if_true,
    List.drop_succ_cons, List.drop_zero, if_neg hW, takeDigits_two hm, Bool.not_true, Bool.and_false,
    Bool.false_eq_true, if_false, h2, hn]

namespace Instant

/-- `isoformat()` of a UTC datetime, field by field. -/
theorem isoformat_eq (t : Instant) : t.isoformat =
    (digitsPad 4 t.year ++ chr '-' :: (digitsPad 2 t.month ++ chr '-' :: digitsPad 2 t.day)) ++
      chr 'T' :: (clockText t.hour t.minute t.second t.micro ++ lit "+00:00") := by
  have h1 : lit "-" = [chr '-'] := rfl
  have h2 : lit "T" = [chr 'T'] := rfl
  have h3 : lit ":" = [chr ':'] := rfl
  simp only [isoformat, isoLocal, clockText, fracText, h1, h2, h3, List.append_assoc, List.cons_append,
    List.nil_append]

/-- A text `isoformat` wrote reads back as the instant. -/
theorem fromisoformat_isoformat (t : Instant) : fromisoformat t.isoformat = some (t, some 0) := by
  have hlen : (digitsPad 4 t.year ++ chr '-' :: (digitsPad 2 t.month ++ chr '-' :: digitsPad 2 t.day)).length
      = 10 := by simp
  have h4 : t.isoformat[4]? = some (chr '-') := by
    rw [isoformat_eq]; rfl
  have h5 : t.isoformat[5]? ≠ some (chr 'W') := by
    have : t.isoformat[5]? = some (digitChr (t.month / 10)) := by rw [isoformat_eq]; rfl
    rw [this]
    simpa using digitChr_ne (t.month / 10) (c := 'W') (by decide)
  have hl : 19 < t.isoformat.length := by
    rw [isoformat_eq]; simp [clockText, lit]; omega
  have hd : dateEnd t.isoformat = some 10 := by
    unfold dateEnd
    rw [if_neg (by omega), if_pos h4, if_neg h5]
  have htake : t.isoformat.take 10 =
      digitsPad 4 t.year ++ chr '-' :: (digitsPad 2 t.month ++ chr '-' :: digitsPad 2 t.day) := by
    rw [isoformat_eq]; exact List.take_left' hlen
  have hdrop : t.isoformat.drop 11 = clockText t.hour t.minute t.second t.micro ++ lit "+00:00" := by
    rw [isoformat_eq, List.drop_append, List.drop_eq_nil_of_le (by omega), hlen]
    rfl
  unfold fromisoformat
  rw [if_neg (by omega), hd]
  dsimp only
  rw [htake, parseDate_dashed t.year_lt t.month_lt t.day_lt (dayNumber_civil t.days_lt)]
  dsimp only
  rw [if_neg (by omega), hdrop, parseTime_clock t.hour_lt t.minute_lt t.second_lt t.micro_lt]
  dsimp only
  rw [t.tod_eq, t.us_eq, ofUs_us]
  rfl

/-- An `isoformat` text is made of digits and of the five marks between them. -/
theorem isoformat_all (t : Instant) {p : Chr → Bool} (hd : ∀ c, isAsciiDigit c = true → p c = true)
    (hp : (lit "-T:.+").all p = true) : ∀ c ∈ t.isoformat, p c = true := by
  have hmark : p (chr '-') = true ∧ p (chr 'T') = true ∧ p (chr ':') = true ∧ p (chr '.') = true ∧
      p (chr '+') = true := by simpa [lit] using hp
  obtain ⟨h1, h2, h3, h4, h5⟩ := hmark
  have hdig : ∀ k n, ∀ c ∈ digitsPad k n, p c = true := fun k n c hc => hd c (digitsPad_digits k n c hc)
  have hz : ∀ c ∈ lit "+00:00", p c = true := by
    simp [lit, h3, h5, hd (chr '0') (by decide)]
  have hf : ∀ c ∈ fracText t.micro, p c = true := by
    intro c hc
    unfold fracText at hc
    split at hc
    · simp at hc
    · rcases List.mem_cons.mp hc with rfl | hc
      · exact h4
      · exact hdig _ _ c hc
  intro c hc
  simp only [isoformat_eq, clockText, List.mem_append, List.mem_cons] at hc
  rcases hc with (hc | rfl | hc | rfl | hc) | rfl | ((hc | rfl | hc | rfl | hc | hc) | hc)
  · exact hdig _ _ c hc
  · exact h1
  · exact hdig _ _ c hc
  · exact h1
  · exact hdig _ _ c hc
  · exact h2
  · exact hdig _ _ c hc
  · exact h3
  · exact hdig _ _ c hc
  · exact h3
  · exact hdig _ _ c hc
  · exact hf c hc
  · exact hz c hc

theorem isAscii_isoformat (t : Instant) : isAscii t.isoformat = true := by
  refine List.all_eq_true.mpr (t.isoformat_all ?_ (by decide))
  intro c hc
  simp only [isAsciiDigit, Bool.and_eq_true, decide_eq_true_eq] at hc
  exact decide_eq_true (by omega)

theorem strip_isoformat (t : Instant) : strip t.isoformat = t.isoformat := by
  have h := t.isoformat_all (p := fun c => !isSpace c) (fun c hc => by simp [isSpace_of_digit hc]) (by decide)
  exact strip_of_no_space fun c hc => by simpa using h c hc

/-- An `isoformat` text is no number: four digits and then a dash. -/
theorem parseFloat_isoformat [Unicode] (t : Instant) : parseFloat t.isoformat = none := by
  have h := t.isoformat_all (p := fun c => decide (c ≠ chr '_'))
    (fun c hc => decide_eq_true (by rintro rfl; exact absurd hc (by decide))) (by decide)
  have hd := dropUnderscores_of_none (p := none) (s := t.isoformat) (by simp)
    fun c hc => of_decide_eq_true (h c hc)
  have h4 : digitsPad 4 t.year = [digitChr (t.year / 10 / 10 / 10), digitChr (t.year / 10 / 10),
    digitChr (t.year / 10), digitChr t.year] := rfl
  have hs : takeSign t.isoformat = (false, t.isoformat) := by
    rw [isoformat_eq, h4]
    simp only [List.cons_append, takeSign]
    rw [if_neg (digitChr_ne _ (by decide)), if_neg (digitChr_ne _ (by decide))]
  have hw : t.isoformat.takeWhile isAsciiDigit = digitsPad 4 t.year := by
    rw [isoformat_eq, List.append_assoc, List.takeWhile_append_of_pos (digitsPad_digits _ _)]
    simp [show isAsciiDigit (chr '-') = false from by decide]
  have hr : ∃ r, t.isoformat.dropWhile isAsciiDigit = chr '-' :: r := by
    rw [isoformat_eq, List.append_assoc, List.dropWhile_append_of_pos (digitsPad_digits _ _)]
    simp [show isAsciiDigit (chr '-') = false from by decide]
  obtain ⟨r, hr⟩ := hr
  have hhead : (asciiLower t.isoformat).head? = some (digitChr (t.year / 10 / 10 / 10)) := by
    rw [isoformat_eq, h4]
    simp [asciiLower, asciiLowerChr_digit (digitChr_ascii _)]
  have hname : ∀ (c : Char) (w : Str), isAsciiDigit (chr c) = false →
      asciiLower t.isoformat ≠ chr c :: w := by
    intro c w hc he
    rw [he] at hhead
    exact digitChr_ne _ hc (Option.some.inj hhead).symm
  unfold parseFloat
  simp only [toAsciiDigits_of_ascii t.isAscii_isoformat, strip_isoformat, hd, hs, Option.bind_eq_bind,
    Option.bind_some]
  have h1 : asciiLower t.isoformat ≠ lit "inf" := hname 'i' _ (by decide)
  have h2 : asciiLower t.isoformat ≠ lit "infinity" := hname 'i' _ (by decide)
  have h3 : asciiLower t.isoformat ≠ lit "nan" := hname 'n' _ (by decide)
  unfold parseUnsigned
  rw [if_neg (not_or.mpr ⟨h1, h2⟩), if_neg h3, hw, hr]
  have hdash : parseExponent (chr '-' :: r) = none := rfl
  simp [hdash, digitsPad]

/-- A month text is made of digits and one dash. -/
theorem yearMonth_all (t : Instant) {p : Chr → Bool} (hd : ∀ c, isAsciiDigit c = true → p c = true)
    (hp : p (chr '-') = true) : ∀ c ∈ t.yearMonth, p c = true := by
  intro c hc
  rcases List.mem_append.mp hc with hc | hc
  · rcases List.mem_append.mp hc with hc | hc
    · exact hd c (digitsPad_digits _ _ c hc)
    · rw [List.mem_singleton.mp hc]
      exact hp
  · exact hd c (digitsPad_digits _ _ c hc)

theorem isAscii_yearMonth (t : Instant) : isAscii t.yearMonth = true := by
  refine List.all_eq_true.mpr (t.yearMonth_all ?_ (by decide))
  intro c hc
  simp only [isAsciiDigit, Bool.and_eq_true, decide_eq_true_eq] at hc
  exact decide_eq_true (by omega)

theorem asciiLower_yearMonth (t : Instant) : asciiLower t.yearMonth = t.yearMonth := by
  have h := t.yearMonth_all (p := fun c => decide (asciiLowerChr c = c))
    (fun c hc => decide_eq_true (asciiLowerChr_digit hc)) (by decide)
  exact (List.map_congr_left fun c hc => of_decide_eq_true (h c hc)).trans (List.map_id _)

/-- A month text starts with a digit. -/
theorem yearMonth_head (t : Instant) : ∃ d s, t.yearMonth = d :: s ∧ isAsciiDigit d = true := by
  have hlen : 0 < yearWidth t.year := by
    unfold yearWidth
    split_ifs <;> omega
  have hne : yearText t.year ≠ [] := by
    rw [← List.length_pos_iff, yearText, digitsPad_length]
    exact hlen
  obtain ⟨d, s, hds⟩ := List.exists_cons_of_ne_nil hne
  refine ⟨d, s ++ lit "-" ++ digitsPad 2 t.month, ?_, ?_⟩
  · rw [yearMonth, hds, List.cons_append, List.cons_append]
  · refine digitsPad_digits (yearWidth t.year) t.year d ?_
    have hd : d ∈ yearText t.year := hds ▸ List.mem_cons_self
    exact hd

theorem yearMonth_ne_nil (t : Instant) : t.yearMonth ≠ [] := by
  simp [yearMonth, lit]

theorem year_lt_width (t : Instant) : t.year < 10 ^ yearWidth t.year := by
  have h := t.year_lt
  unfold yearWidth
  split_ifs <;> omega

/-- Two instants have the same month text exactly when they are in the same month. -/
theorem yearMonth_inj {a b : Instant} :
    a.yearMonth = b.yearMonth ↔ a.year = b.year ∧ a.month = b.month := by
  constructor
  · intro h
    have hlen : yearWidth a.year = yearWidth b.year := by
      simpa [yearMonth, yearText, lit] using congrArg List.length h
    obtain ⟨h1, h2⟩ := List.append_inj h (by simp [yearText, hlen])
    obtain ⟨h3, -⟩ := List.append_inj h1 (by simp [yearText, hlen])
    have hy : a.year < 10 ^ yearWidth b.year := hlen ▸ a.year_lt_width
    unfold yearText at h3
    rw [hlen] at h3
    exact ⟨digitsPad_inj _ hy b.year_lt_width h3,
      digitsPad_inj 2 a.month_lt b.month_lt h2⟩
  · rintro ⟨hy, hm⟩
    unfold yearMonth
    rw [hy, hm]

theorem yearWidth_of_ge {y : Nat} (h : 1000 ≤ y) : yearWidth y = 4 := by
  unfold yearWidth
  rw [if_neg (by omega), if_neg (by omega), if_neg (by omega)]

theorem yearMonth_eq {t : Instant} (h : 1000 ≤ t.year) :
    t.yearMonth = digitsPad 4 t.year ++ chr '-' :: digitsPad 2 t.month := by
  unfold yearMonth yearText
  rw [yearWidth_of_ge h]
  simp [lit]

theorem yearMonth_length_lt {t : Instant} (h : t.year < 1000) : t.yearMonth.length < 7 := by
  have hw : yearWidth t.year < 4 := by
    unfold yearWidth
    split_ifs <;> omega
  simp only [yearMonth, yearText, lit, List.length_append, digitsPad_length]
  simp
  omega

end Instant
end Py
