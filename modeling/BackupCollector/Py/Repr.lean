/-
# `str`, `repr` and the canonical JSON text

`str(v)` of a JSON value is its `repr` except for strings, which are themselves; the program calls
it on whatever an API field holds, so a list in the place of a name becomes the text of a list.
`dumps` is `json.dumps(v, sort_keys=True, ensure_ascii=False)`, and `digest` the SHA-256 of its
UTF-8 bytes.

The hash function itself stays a parameter (`Hashlib`), and every theorem holds for any;
`Py/Sha256` has the real one for concrete runs.  `digest` raises at a lone surrogate, which UTF-8
cannot encode, and at an integer too long to print.

Three texts of a value that differ in what they quote and escape, and one reason to keep them
apart: identities are made from `str`, digests from `dumps`, and errors show a `repr`.  What can be
read back from these texts is in `Py/Dumps` and `Py/Objects`; nothing is proved here.
-/
import BackupCollector.Py.Number

namespace Py

/-! ## 1. `repr`

Quotes and escapes as the interpreter chooses them. -/

def hexChr (d : Nat) : Chr :=
  if h : d % 16 < 10 then ⟨48 + d % 16, by omega⟩ else ⟨87 + d % 16, by omega⟩

/-- The last `k` hexadecimal digits of `n`. -/
def hexPad : Nat → Nat → Str
  | 0, _ => []
  | k + 1, n => hexPad k (n / 16) ++ [hexChr n]

def isSurrogate (c : Chr) : Bool := decide (0xD800 ≤ c.val) && decide (c.val ≤ 0xDFFF)

/-- `s.encode()` succeeds. -/
def encodable (s : Str) : Bool := s.all (fun c => !isSurrogate c)

/-- One code point inside a `repr` quoted with `q`. -/
def reprChr [Unicode] (q c : Chr) : Str :=
  if c = q ∨ c = chr '\\' then [chr '\\', c]
  else if c.val = 9 then lit "\\t"
  else if c.val = 10 then lit "\\n"
  else if c.val = 13 then lit "\\r"
  else if Unicode.isPrintable c then [c]
  else if c.val < 0x100 then lit "\\x" ++ hexPad 2 c.val
  else if c.val < 0x10000 then lit "\\u" ++ hexPad 4 c.val
  else lit "\\U" ++ hexPad 8 c.val

/-- `repr` of a string. -/
def reprStr [Unicode] (s : Str) : Str :=
  let q := if s.contains (chr '\'') && !s.contains (chr '"') then chr '"' else chr '\''
  q :: s.flatMap (reprChr q) ++ [q]

namespace Json

mutual

/-- `repr(v)` -/
def repr [Unicode] : Json → Str
  | .null => lit "None"
  | .bool true => lit "True"
  | .bool false => lit "False"
  | .int n => Str.ofInt n
  | .float f => reprFloat f
  | .str s => reprStr s
  | .arr xs => lit "[" ++ Str.join (lit ", ") (reprList xs) ++ lit "]"
  | .obj kvs => lit "\x7b" ++ Str.join (lit ", ") (reprObj kvs) ++ lit "\x7d"

def reprList [Unicode] : List Json → List Str
  | [] => []
  | x :: xs => repr x :: reprList xs

def reprObj [Unicode] : List (Str × Json) → List Str
  | [] => []
  | (k, v) :: kvs => (reprStr k ++ lit ": " ++ repr v) :: reprObj kvs

end

/-- `str(v)` -/
def toStr [Unicode] : Json → Str
  | .str s => s
  | v => repr v

/-! ## 2. Canonical JSON

Keys in order, separators with their blanks, non-ASCII characters as they are. -/

/-- One code point of a JSON string that keeps non-ASCII text. -/
def escapeChr (c : Chr) : Str :=
  if c = chr '"' then lit "\\\""
  else if c = chr '\\' then lit "\\\\"
  else if c.val = 8 then lit "\\b"
  else if c.val = 9 then lit "\\t"
  else if c.val = 10 then lit "\\n"
  else if c.val = 12 then lit "\\f"
  else if c.val = 13 then lit "\\r"
  else if c.val < 32 then lit "\\u" ++ hexPad 4 c.val
  else [c]

def quote (s : Str) : Str := chr '"' :: s.flatMap escapeChr ++ [chr '"']

/-- A float as `json` writes it. -/
def dumpFloat (f : Float) : Str :=
  match f.toModel.unpack with
  | .notANumber => lit "NaN"
  | .infinity .positive => lit "Infinity"
  | .infinity .negative => lit "-Infinity"
  | _ => reprFloat f

/-- Entries in the order of their keys. -/
def sortKeys (kvs : List (Str × Str)) : List (Str × Str) :=
  kvs.insertionSort (fun a b => Str.ltb b.1 a.1 = false)

mutual

/-- `json.dumps(v, sort_keys=True, ensure_ascii=False)` -/
def dumps : Json → Str
  | .null => lit "null"
  | .bool true => lit "true"
  | .bool false => lit "false"
  | .int n => Str.ofInt n
  | .float f => dumpFloat f
  | .str s => quote s
  | .arr xs => lit "[" ++ Str.join (lit ", ") (dumpsList xs) ++ lit "]"
  | .obj kvs =>
    lit "\x7b" ++ Str.join (lit ", ") ((sortKeys (dumpsObj kvs)).map fun p => quote p.1 ++ lit ": " ++ p.2)
      ++ lit "\x7d"

def dumpsList : List Json → List Str
  | [] => []
  | x :: xs => dumps x :: dumpsList xs

def dumpsObj : List (Str × Json) → List (Str × Str)
  | [] => []
  | (k, v) :: kvs => (k, dumps v) :: dumpsObj kvs

end

mutual

/-- Every integer in a value can be printed: the interpreter refuses those of more than 4300 digits. -/
def printable : Json → Bool
  | .int n => decide ((Str.ofNat n.natAbs).length ≤ 4300)
  | .arr xs => printableList xs
  | .obj kvs => printableObj kvs
  | _ => true

def printableList : List Json → Bool
  | [] => true
  | x :: xs => printable x && printableList xs

def printableObj : List (Str × Json) → Bool
  | [] => true
  | (_, v) :: kvs => printable v && printableObj kvs

end

end Json

/-! ## 3. Hashing

Encoding comes before hashing, and is what can fail. -/

/-- `hashlib`: the hexadecimal SHA-256 of the UTF-8 bytes of a text. -/
class Hashlib where
  sha256 : Str → Str

/-- `hashlib.sha256(text.encode()).hexdigest()` -/
def sha256Hex [Hashlib] (text : Str) : Except Err Str :=
  if encodable text then .ok (Hashlib.sha256 text)
  else .error ⟨.unicodeEncodeError, "surrogates not allowed"⟩

theorem sha256Hex_ok [Hashlib] {text h : Str} (hx : sha256Hex text = .ok h) :
    h = Hashlib.sha256 text := by
  unfold sha256Hex at hx
  split at hx
  · exact (Except.ok.inj hx).symm
  · cases hx

end Py
