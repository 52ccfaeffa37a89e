/-
# Python strings

A Python `str` is a sequence of code points, surrogates included: `json.loads` turns the escape
`\ud800` into a one-element string that no UTF-8 encoder accepts.  Lean's `Char` leaves the
surrogates out, so a string here is a list of numbers below `0x110000`.

What the interpreter computes from fixed rules (`strip`, `split`, ASCII case) is defined here.
What it reads from the character tables it was built with (`str.lower` outside ASCII, the decimal
digits of other scripts, printability) is the class `Unicode`: a table is data of the interpreter,
and its laws say what every version of it does on ASCII. A theorem that mentions it therefore holds
on any interpreter, and one about ASCII texts needs no table at all.

Literals are written as Lean strings and coerced by `lit`, which is injective; `lit_inj` is the
lemma that decides every dictionary lookup with constant keys, and simp does so without evaluating
a text.

Strings are compared code point by code point, which is not how Lean compares its own.
-/
import Mathlib

namespace Py

/-! ## 1. Code points and literals

Code points are bounded numbers; a literal is coerced where a string is expected. -/

/-- A code point, surrogates included. -/
abbrev Chr := Fin 0x110000

/-- A Python string. -/
abbrev Str := List Chr

/-- The code point of a Lean character. -/
def chr (c : Char) : Chr :=
  ⟨c.toNat, by have h := c.valid; simp only [Char.toNat, UInt32.isValidChar, Nat.isValidChar] at *; omega⟩

/-- The Python string a Lean literal stands for. -/
def lit (s : String) : Str := s.toList.map chr

instance : Coe String Str := ⟨lit⟩

instance lawfulBEqStr : LawfulBEq Str := inferInstance

theorem chr_injective : Function.Injective chr := by
  intro a b h
  have h' : a.toNat = b.toNat := by simpa only [chr, Fin.mk.injEq] using h
  exact Char.toNat_inj.mp h'

@[simp] theorem chr_inj {a b : Char} : chr a = chr b ↔ a = b := chr_injective.eq_iff

theorem lit_injective : Function.Injective lit := by
  intro a b h
  exact String.toList_inj.mp (List.map_injective_iff.mpr chr_injective h)

/-- Two literals are the same Python string exactly when they are the same literal: this is
what decides every dictionary lookup with constant keys. -/
@[simp] theorem lit_inj {a b : String} : lit a = lit b ↔ a = b := lit_injective.eq_iff

/-! ## 2. Case and classes on ASCII

Half of the texts of a program are ASCII, and on these nothing depends on a table. -/

def isAscii (s : Str) : Bool := s.all (fun c => decide (c.val < 128))

def isAsciiDigit (c : Chr) : Bool := decide (48 ≤ c.val) && decide (c.val ≤ 57)

def asciiLowerChr (c : Chr) : Chr :=
  if h : 65 ≤ c.val ∧ c.val ≤ 90 then ⟨c.val + 32, by omega⟩ else c

def asciiUpperChr (c : Chr) : Chr :=
  if h : 97 ≤ c.val ∧ c.val ≤ 122 then ⟨c.val - 32, by omega⟩ else c

/-- ASCII lower case, code point by code point. -/
def asciiLower (s : Str) : Str := s.map asciiLowerChr

/-- ASCII upper case, code point by code point. -/
def asciiUpper (s : Str) : Str := s.map asciiUpperChr

theorem asciiLower_append (a b : Str) : asciiLower (a ++ b) = asciiLower a ++ asciiLower b :=
  List.map_append

theorem isAscii_append (a b : Str) : isAscii (a ++ b) = (isAscii a && isAscii b) :=
  List.all_append

theorem isAscii_upper {s : Str} (h : isAscii s = true) : isAscii (asciiUpper s) = true := by
  simp only [isAscii, asciiUpper, List.all_map, List.all_eq_true, Function.comp_apply,
    decide_eq_true_eq] at *
  intro c hc
  have := h c hc
  unfold asciiUpperChr
  split <;> simp <;> omega

/-! ## 3. The interpreter's character tables

A class and not a constant, since the tables grow with the versions of Unicode. -/

/-- The character database of the interpreter the program runs on.  Every theorem below
holds for every database that agrees with ASCII on ASCII text. -/
class Unicode where
  /-- `str.lower` -/
  lower : Str → Str
  /-- `str.upper` -/
  upper : Str → Str
  /-- the decimal value `int()` and `float()` read off a code point -/
  decimal : Chr → Option Nat
  /-- `str.isdigit`, one code point -/
  isDigit : Chr → Bool
  /-- `str.isprintable`, one code point: decides what `repr` escapes -/
  isPrintable : Chr → Bool
  lower_ascii : ∀ s, isAscii s = true → lower s = asciiLower s
  upper_ascii : ∀ s, isAscii s = true → upper s = asciiUpper s
  decimal_ascii : ∀ c : Chr, c.val < 128 →
    decimal c = if isAsciiDigit c then some (c.val - 48) else none
  isDigit_ascii : ∀ c : Chr, c.val < 128 → isDigit c = isAsciiDigit c
  isPrintable_ascii : ∀ c : Chr, c.val < 128 →
    isPrintable c = (decide (32 ≤ c.val) && decide (c.val < 127))

/-- The database that knows ASCII only; concrete runs on ASCII text use it. -/
@[reducible] def Unicode.ascii : Unicode where
  lower := asciiLower
  upper := asciiUpper
  decimal c := if isAsciiDigit c then some (c.val - 48) else none
  isDigit := isAsciiDigit
  isPrintable c := decide (32 ≤ c.val) && decide (c.val < 127)
  lower_ascii _ _ := rfl
  upper_ascii _ _ := rfl
  decimal_ascii _ _ := rfl
  isDigit_ascii _ _ := rfl
  isPrintable_ascii _ _ := rfl

namespace Str

/-- `str.lower()` -/
def lower [Unicode] (s : Str) : Str := Unicode.lower s

/-- `str.upper()` -/
def upper [Unicode] (s : Str) : Str := Unicode.upper s

theorem lower_of_ascii [Unicode] {s : Str} (h : isAscii s = true) : lower s = asciiLower s :=
  Unicode.lower_ascii s h

theorem upper_of_ascii [Unicode] {s : Str} (h : isAscii s = true) : upper s = asciiUpper s :=
  Unicode.upper_ascii s h

/-! ## 4. Whitespace

Python has two notions of whitespace, that of `str` and that of ASCII patterns.  Stripping is by
the first. -/

/-- The code points `str.isspace` accepts: the bidirectional classes WS, B and S and the
category Zs.  The set has not changed since the interpreter versions the program supports. -/
def spaces : List Nat :=
  [9, 10, 11, 12, 13, 28, 29, 30, 31, 32, 0x85, 0xA0, 0x1680, 0x2000, 0x2001, 0x2002, 0x2003,
   0x2004, 0x2005, 0x2006, 0x2007, 0x2008, 0x2009, 0x200A, 0x2028, 0x2029, 0x202F, 0x205F, 0x3000]

def isSpace (c : Chr) : Bool := spaces.contains c.val

/-- What the ASCII regular expressions call `\s`. -/
def isAsciiSpace (c : Chr) : Bool := [9, 10, 11, 12, 13, 32].contains c.val

def lstrip (s : Str) : Str := s.dropWhile isSpace

def rstrip (s : Str) : Str := s.rdropWhile isSpace

/-- `str.strip()` -/
def strip (s : Str) : Str := rstrip (lstrip s)

/-- Stripping on the right keeps the first character, unless nothing is left. -/
theorem rstrip_eq_nil_or_head {s : Str} : rstrip s = [] ∨ (rstrip s).head? = s.head? := by
  by_cases h : rstrip s = []
  · exact Or.inl h
  · right
    obtain ⟨t, ht⟩ := List.rdropWhile_prefix (p := isSpace) (l := s)
    cases hs : rstrip s with
    | nil => exact absurd hs h
    | cons c r => rw [← ht]; simp only [rstrip] at hs; simp [hs]

theorem lstrip_eq_self_of_head {s : Str} (h : ∀ c ∈ s.head?, isSpace c = false) : lstrip s = s := by
  cases s with
  | nil => rfl
  | cons c r =>
    have hc : isSpace c = false := h c (by simp)
    simp [lstrip, hc]

theorem head_lstrip (s : Str) : ∀ c ∈ (lstrip s).head?, isSpace c = false := by
  intro c hc
  have hne : lstrip s ≠ [] := by intro h; simp [h] at hc
  have h := List.head_dropWhile_not isSpace hne
  rw [List.head?_eq_some_head hne, Option.mem_some_iff] at hc
  rw [← hc]
  exact h

theorem head_strip (s : Str) : ∀ c ∈ (strip s).head?, isSpace c = false := by
  intro c hc
  rcases rstrip_eq_nil_or_head (s := lstrip s) with h | h
  · simp [strip, h] at hc
  · exact head_lstrip s c (by rw [← h]; exact hc)

/-- A stripped string has nothing left to strip. -/
@[simp] theorem strip_strip (s : Str) : strip (strip s) = strip s := by
  have h : lstrip (strip s) = strip s := lstrip_eq_self_of_head (head_strip s)
  calc strip (strip s) = rstrip (strip s) := by rw [strip, h]
    _ = strip s := List.rdropWhile_idempotent isSpace (lstrip s)

/-- A text without spaces has nothing to strip. -/
theorem strip_of_no_space {s : Str} (h : ∀ c ∈ s, isSpace c = false) : strip s = s := by
  have hl : lstrip s = s := lstrip_eq_self_of_head fun c hc => h c (List.mem_of_mem_head? hc)
  rw [strip, hl, rstrip, List.rdropWhile_eq_self_iff]
  intro hne hc
  rw [h _ (List.getLast_mem hne)] at hc
  cases hc

/-! ## 5. Splitting and joining

Splitting by one separator, by line breaks, and into tokens. -/

/-- `str.split(sep)` for a one-character separator. -/
def split (sep : Chr) : Str → List Str
  | [] => [[]]
  | c :: s =>
    if c = sep then [] :: split sep s
    else match split sep s with
      | [] => [[c]]
      | w :: ws => (c :: w) :: ws

/-- `str.split(sep, 1)[0]`: the text before the first separator, or all of it. -/
def splitFirst (sep : Chr) (s : Str) : Str := s.takeWhile (fun c => decide (c ≠ sep))

/-- The code points `str.splitlines` ends a line at. -/
def isLineBreak (c : Chr) : Bool := [10, 11, 12, 13, 28, 29, 30, 0x85, 0x2028, 0x2029].contains c.val

/-- A carriage return before a line feed is part of one line break. -/
def joinLineBreaks : Str → Str
  | [] => []
  | c :: s => if c = chr '\r' ∧ s.head? = some (chr '\n') then joinLineBreaks s else c :: joinLineBreaks s

/-- The lines of a text whose line breaks are single characters. -/
def linesOf : Str → List Str
  | [] => []
  | c :: s =>
    if isLineBreak c then [] :: linesOf s
    else match linesOf s with
      | [] => [[c]]
      | w :: ws => (c :: w) :: ws

/-- `str.splitlines()` -/
def splitlines (s : Str) : List Str := linesOf (joinLineBreaks s)

/-- `sep.join(parts)` -/
def join (sep : Str) : List Str → Str
  | [] => []
  | [w] => w
  | w :: ws => w ++ sep ++ join sep ws

/-- `str.replace(old, new)` for two single characters. -/
def replaceChr (old new : Chr) (s : Str) : Str := s.map (fun c => if c = old then new else c)

/-- `str.rstrip(chars)` for one character. -/
def rstripChr (d : Chr) (s : Str) : Str := s.rdropWhile (fun c => decide (c = d))

/-- Code points compare as numbers, strings lexicographically. -/
def ltb : Str → Str → Bool
  | _, [] => false
  | [], _ :: _ => true
  | a :: s, b :: t => decide (a < b) || (decide (a = b) && ltb s t)

/-! ## 6. Decimal text

Numbers as digits, with and without padding. -/

/-- The code point of a decimal digit. -/
def digitChr (d : Nat) : Chr := ⟨48 + d % 10, by omega⟩

/-- The digits of `n`, the last `k` of them when `n` has more. -/
def digitsPad : Nat → Nat → Str
  | 0, _ => []
  | k + 1, n => digitsPad k (n / 10) ++ [digitChr n]

/-- `str(n)` for a natural number. -/
def ofNat (n : Nat) : Str := (Nat.toDigits 10 n).map chr

/-- `str(n)` for an integer. -/
def ofInt (n : Int) : Str :=
  if n < 0 then chr '-' :: ofNat n.natAbs else ofNat n.natAbs

theorem digitChr_val (d : Nat) : (digitChr d).val = 48 + d % 10 := rfl

theorem digitChr_ascii (d : Nat) : isAsciiDigit (digitChr d) = true := by
  have h := digitChr_val d
  simp only [isAsciiDigit, Bool.and_eq_true, decide_eq_true_eq]
  omega

theorem digitChr_ne (d : Nat) {c : Char} (h : isAsciiDigit (chr c) = false) : digitChr d ≠ chr c := by
  intro he
  rw [← he, digitChr_ascii] at h
  cases h

theorem isSpace_of_digit {c : Chr} (h : isAsciiDigit c = true) : isSpace c = false := by
  simp only [isAsciiDigit, Bool.and_eq_true, decide_eq_true_eq] at h
  simp only [isSpace, spaces, List.contains_eq_mem, List.mem_cons, List.not_mem_nil, or_false,
    decide_eq_false_iff_not]
  omega

theorem asciiLowerChr_digit {c : Chr} (h : isAsciiDigit c = true) : asciiLowerChr c = c := by
  simp only [isAsciiDigit, Bool.and_eq_true, decide_eq_true_eq] at h
  exact dif_neg (by omega)

theorem digitChr_inj {a b : Nat} (h : digitChr a = digitChr b) : a % 10 = b % 10 := by
  have := congrArg Fin.val h
  simp only [digitChr] at this
  omega

@[simp] theorem digitsPad_length : ∀ (k n : Nat), (digitsPad k n).length = k
  | 0, _ => rfl
  | k + 1, n => by simp [digitsPad, digitsPad_length k]

theorem digitsPad_digits : ∀ (k n : Nat), ∀ c ∈ digitsPad k n, isAsciiDigit c = true
  | 0, _ => by simp [digitsPad]
  | k + 1, n => by
    intro c hc
    rcases List.mem_append.mp hc with h | h
    · exact digitsPad_digits k (n / 10) c h
    · rw [List.mem_singleton.mp h]; exact digitChr_ascii n

/-- Padded digits determine the number below `10 ^ k`. -/
theorem digitsPad_inj : ∀ (k : Nat) {a b : Nat}, a < 10 ^ k → b < 10 ^ k →
    digitsPad k a = digitsPad k b → a = b
  | 0, a, b, ha, hb, _ => by simp at ha hb; omega
  | k + 1, a, b, ha, hb, h => by
    have ⟨h1, h2⟩ := List.append_inj h (by simp)
    have hq : a / 10 = b / 10 :=
      digitsPad_inj k (by rw [Nat.pow_succ] at ha; omega) (by rw [Nat.pow_succ] at hb; omega) h1
    have hr := digitChr_inj (List.singleton_inj.mp h2)
    omega

end Str

/-! ## 7. Shell-style tokens

`shlex.shlex(text, posix=True)` with `whitespace_split` set and no comment characters: the reader
walks the text one character at a time and is in one of four states.  It raises on a quotation or
an escape that the text ends in, and emits an empty token only when quotes produced it. -/

namespace Shlex

/-- What `shlex` splits on. -/
def isWhitespace (c : Chr) : Bool := [32, 9, 13, 10].contains c.val

def isQuote (c : Chr) : Bool := decide (c = chr '\'') || decide (c = chr '"')

def isEscape (c : Chr) : Bool := decide (c = chr '\\')

/-- The reader's state: between tokens, inside one, inside a quotation, or after an escape
character, with the quotation to go back to. -/
inductive State where
  | blank
  | word
  | quote (q : Chr)
  | escape (back : Option Chr)
deriving DecidableEq

/-- A token is emitted unless it is empty and no quote was seen. -/
def emit (token : Str) (quoted : Bool) (rest : List Str) : List Str :=
  if token.isEmpty && !quoted then rest else token :: rest

/-- The tokens of the rest of a text, `none` when `shlex` raises `ValueError`. -/
def read (state : State) (token : Str) (quoted : Bool) : Str → Option (List Str)
  | [] =>
    match state with
    | .blank | .word => some (emit token quoted [])
    | .quote _ | .escape _ => none
  | c :: s =>
    match state with
    | .blank =>
      if isWhitespace c then read .blank token quoted s
      else if isEscape c then read (.escape none) token quoted s
      else if isQuote c then read (.quote c) token quoted s
      else read .word [c] quoted s
    | .word =>
      if isWhitespace c then
        if token.isEmpty && !quoted then read .blank token quoted s
        else (read .blank [] false s).map (token :: ·)
      else if isQuote c then read (.quote c) token quoted s
      else if isEscape c then read (.escape none) token quoted s
      else read .word (token ++ [c]) quoted s
    | .quote q =>
      if c = q then read .word token true s
      else if isEscape c && decide (q = chr '"') then read (.escape (some q)) token true s
      else read (.quote q) (token ++ [c]) true s
    | .escape none => read .word (token ++ [c]) quoted s
    | .escape (some q) =>
      -- inside double quotes the escape character stays unless it escapes itself or the quote
      let token := if isEscape c || decide (c = q) then token else token ++ [chr '\\']
      read (.quote q) (token ++ [c]) quoted s

/-- `list(shlex.shlex(text, posix=True))` -/
def tokens (text : Str) : Option (List Str) := read .blank [] false text

end Shlex

end Py
