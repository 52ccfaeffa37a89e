/-
# SHA-256

The interpreter's `hashlib`: what the class `Hashlib` stands for.  Theorems hold for every hash and
never look into this one; runs on concrete texts use it, so that a hypothesis about the digests of
a run can be discharged by computing them.

The algorithm is the standard one, over words of 32 bits: pad the message to whole blocks, expand
each block to a schedule of 64 words, and run 64 rounds over the eight working words.  It is
written with structural recursion and lists, which is slow and evaluates in the kernel.  The
schedule is kept latest word first, since every new word is made from the last sixteen.

Only the length of a digest is proved, 64 hexadecimal digits, since that is what texts built from
digests rely on.  That the definition is the standard's is checked on its test vector.
-/
import BackupCollector.Py.Repr

namespace Py

namespace Sha256

abbrev Word := BitVec 32

/-- The UTF-8 bytes of a text. -/
def utf8 (s : Str) : List Nat :=
  s.flatMap fun c =>
    let n := c.val
    if n < 0x80 then [n]
    else if n < 0x800 then [0xC0 + n / 64, 0x80 + n % 64]
    else if n < 0x10000 then [0xE0 + n / 4096, 0x80 + n / 64 % 64, 0x80 + n % 64]
    else [0xF0 + n / 262144, 0x80 + n / 4096 % 64, 0x80 + n / 64 % 64, 0x80 + n % 64]

/-- The last `k` bytes of a number, most significant first. -/
def bigEndian : Nat → Nat → List Nat
  | 0, _ => []
  | k + 1, n => bigEndian k (n / 256) ++ [n % 256]

/-- A message padded to whole blocks of 64 bytes. -/
def pad (bytes : List Nat) : List Nat :=
  bytes ++ 0x80 :: List.replicate ((119 - bytes.length % 64) % 64) 0 ++ bigEndian 8 (bytes.length * 8)

/-- Four bytes to a word. -/
def words : List Nat → List Word
  | a :: b :: c :: d :: rest => BitVec.ofNat 32 (((a * 256 + b) * 256 + c) * 256 + d) :: words rest
  | _ => []

def roundConstants : List Word := [
  0x428a2f98, 0x71374491, 0xb5c0fbcf, 0xe9b5dba5, 0x3956c25b, 0x59f111f1, 0x923f82a4, 0xab1c5ed5,
  0xd807aa98, 0x12835b01, 0x243185be, 0x550c7dc3, 0x72be5d74, 0x80deb1fe, 0x9bdc06a7, 0xc19bf174,
  0xe49b69c1, 0xefbe4786, 0x0fc19dc6, 0x240ca1cc, 0x2de92c6f, 0x4a7484aa, 0x5cb0a9dc, 0x76f988da,
  0x983e5152, 0xa831c66d, 0xb00327c8, 0xbf597fc7, 0xc6e00bf3, 0xd5a79147, 0x06ca6351, 0x14292967,
  0x27b70a85, 0x2e1b2138, 0x4d2c6dfc, 0x53380d13, 0x650a7354, 0x766a0abb, 0x81c2c92e, 0x92722c85,
  0xa2bfe8a1, 0xa81a664b, 0xc24b8b70, 0xc76c51a3, 0xd192e819, 0xd6990624, 0xf40e3585, 0x106aa070,
  0x19a4c116, 0x1e376c08, 0x2748774c, 0x34b0bcb5, 0x391c0cb3, 0x4ed8aa4a, 0x5b9cca4f, 0x682e6ff3,
  0x748f82ee, 0x78a5636f, 0x84c87814, 0x8cc70208, 0x90befffa, 0xa4506ceb, 0xbef9a3f7, 0xc67178f2]

/-- The eight working words. -/
structure Digest where
  (a b c d e f g h : Word)

def initial : Digest :=
  ⟨0x6a09e667, 0xbb67ae85, 0x3c6ef372, 0xa54ff53a, 0x510e527f, 0x9b05688c, 0x1f83d9ab, 0x5be0cd19⟩

/-- The message schedule, latest word first, grown by `n` words. -/
def schedule : Nat → List Word → List Word
  | 0, ws => ws
  | n + 1, ws =>
    let w15 := ws.getD 14 0
    let w2 := ws.getD 1 0
    let s0 := w15.rotateRight 7 ^^^ w15.rotateRight 18 ^^^ (w15 >>> 3)
    let s1 := w2.rotateRight 17 ^^^ w2.rotateRight 19 ^^^ (w2 >>> 10)
    schedule n ((ws.getD 15 0 + s0 + ws.getD 6 0 + s1) :: ws)

def round (s : Digest) (kw : Word × Word) : Digest :=
  let s1 := s.e.rotateRight 6 ^^^ s.e.rotateRight 11 ^^^ s.e.rotateRight 25
  let ch := (s.e &&& s.f) ^^^ (~~~s.e &&& s.g)
  let t1 := s.h + s1 + ch + kw.1 + kw.2
  let s0 := s.a.rotateRight 2 ^^^ s.a.rotateRight 13 ^^^ s.a.rotateRight 22
  let maj := (s.a &&& s.b) ^^^ (s.a &&& s.c) ^^^ (s.b &&& s.c)
  ⟨t1 + (s0 + maj), s.a, s.b, s.c, s.d + t1, s.e, s.f, s.g⟩

/-- One block of sixteen words. -/
def block (s : Digest) (ws : List Word) : Digest :=
  let r := (roundConstants.zip (schedule 48 ws.reverse).reverse).foldl round s
  ⟨s.a + r.a, s.b + r.b, s.c + r.c, s.d + r.d, s.e + r.e, s.f + r.f, s.g + r.g, s.h + r.h⟩

/-- Blocks of sixteen words, `n` of them. -/
def blocks : Nat → Digest → List Word → Digest
  | 0, s, _ => s
  | n + 1, s, ws => blocks n (block s (ws.take 16)) (ws.drop 16)

/-- The hexadecimal digest of a text. -/
def hexdigest (text : Str) : Str :=
  let ws := words (pad (utf8 text))
  let s := blocks (ws.length / 16) initial ws
  [s.a, s.b, s.c, s.d, s.e, s.f, s.g, s.h].flatMap fun w => hexPad 8 w.toNat

theorem length_hexPad (k n : Nat) : (hexPad k n).length = k := by
  induction k generalizing n with
  | zero => rfl
  | succ k ih => simp [hexPad, ih]

/-- A digest has sixty-four digits. -/
theorem length_hexdigest (text : Str) : (hexdigest text).length = 64 := by
  simp [hexdigest, length_hexPad]

end Sha256

/-- The hash the interpreter has. -/
@[reducible] def Hashlib.hashlib : Hashlib := ⟨Sha256.hexdigest⟩

example : Sha256.hexdigest "abc" =
    lit "ba7816bf8f01cfea414140de5dae2223b00361a396177a9cb410ff61f20015ad" := by decide +kernel

end Py
