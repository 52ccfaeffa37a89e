/-
# Values that can be hashed

`json.dumps(v).encode()` raises when the value holds a lone surrogate, in a text or in a key, or an
integer too long to print.  Programs that hash what they were sent meet both.  `Json.encodes` asks
the value itself, and `encodes_iff` says that this is what the text of the value comes down to.

The point of asking the value is that it can be taken apart: a list encodes when its elements do,
an object when its keys and values do.  The text cannot, without knowing where things end in it.

Non-ASCII characters other than surrogates are encodable, and are kept as they are in the text;
escapes are made of ASCII. Whether the result fits anywhere is not asked.
-/
import BackupCollector.Py.Dumps

namespace Py

/-! ## 1. Encodable texts

Encoding is a property of each code point. -/

theorem encodable_append {s t : Str} : encodable (s ++ t) = true ↔ encodable s = true ∧ encodable t = true := by
  unfold encodable
  rw [List.all_append, Bool.and_eq_true]

/-- A text is hashed exactly when it can be encoded. -/
theorem sha256Hex_isOk [Hashlib] {text : Str} : (sha256Hex text).isOk = true ↔ encodable text = true := by
  unfold sha256Hex
  cases encodable text <;> simp [Except.isOk, Except.toBool]

theorem NumberText.encodable {t : Str} (h : NumberText t) : encodable t = true := by
  refine List.all_eq_true.mpr fun c hc => ?_
  have hc := (h c hc).2
  have hlow : ¬ 0xD800 ≤ c.val := by omega
  simp [isSurrogate, hlow]

theorem encodable_of_plainChr {c : Chr} (h : c.val < 128) : isSurrogate c = false := by
  have hlow : ¬ 0xD800 ≤ c.val := by omega
  simp [isSurrogate, hlow]

theorem encodable_join {sep : Str} (hsep : encodable sep = true) {ts : List Str} :
    encodable (Str.join sep ts) = true ↔ ∀ t ∈ ts, encodable t = true := by
  induction ts with
  | nil => exact ⟨fun _ t ht => (nomatch ht), fun _ => rfl⟩
  | cons t ts ih =>
    cases ts with
    | nil => simp [Str.join]
    | cons u us =>
      have hjoin : Str.join sep (t :: u :: us) = t ++ sep ++ Str.join sep (u :: us) := rfl
      rw [hjoin, encodable_append, encodable_append, ih, List.forall_mem_cons]
      simp [hsep]

theorem encodable_hexPad (k n : Nat) : encodable (hexPad k n) = true := by
  induction k generalizing n with
  | zero => rfl
  | succ k ih =>
    rw [hexPad, encodable_append]
    refine ⟨ih (n / 16), ?_⟩
    have hlow : (hexChr n).val < 128 := by
      unfold hexChr
      split
      · rename_i h
        dsimp only
        omega
      · dsimp only
        omega
    simp [encodable, encodable_of_plainChr hlow]

/-- An escape of a character is encodable when the character is. -/
theorem encodable_escapeChr (c : Chr) : encodable (Json.escapeChr c) = !isSurrogate c := by
  by_cases hc : c ∈ escapedChrs
  · have hlow : c.val < 128 := by
      rcases mem_escapedChrs.mp hc with h | rfl | rfl
      · omega
      · decide
      · decide
    rw [encodable_of_plainChr hlow]
    unfold Json.escapeChr
    repeat' split
    all_goals first
      | rfl
      | exact encodable_append.mpr ⟨rfl, encodable_hexPad 4 c.val⟩
      | simp [encodable, encodable_of_plainChr hlow]
  · rw [escapeChr_of_not_mem hc]
    simp [encodable]

theorem encodable_quote (s : Str) : encodable (Json.quote s) = encodable s := by
  have hquote : isSurrogate (chr '"') = false := by decide
  have hbody : encodable (s.flatMap Json.escapeChr) = encodable s := by
    induction s with
    | nil => rfl
    | cons c s ih =>
      have hescape := encodable_escapeChr c
      unfold encodable at ih hescape ⊢
      rw [List.flatMap_cons, List.all_append, ih, hescape, List.all_cons]
  unfold Json.quote
  unfold encodable at hbody ⊢
  simp [hquote, hbody]

/-! ## 2. Encodable values

By induction over the value, against the text it is written as. -/

namespace Json

mutual

/-- No lone surrogate in a text or a key, and no integer too long to print. -/
def encodes : Json → Bool
  | .int n => decide ((Str.ofNat n.natAbs).length ≤ 4300)
  | .str s => encodable s
  | .arr xs => encodesList xs
  | .obj kvs => encodesObj kvs
  | _ => true

def encodesList : List Json → Bool
  | [] => true
  | x :: xs => encodes x && encodesList xs

def encodesObj : List (Str × Json) → Bool
  | [] => true
  | (k, v) :: kvs => encodable k && encodes v && encodesObj kvs

end

theorem encodesList_iff {xs : List Json} : encodesList xs = true ↔ ∀ x ∈ xs, encodes x = true := by
  induction xs with
  | nil => simp [encodesList]
  | cons x xs ih => simp [encodesList, ih]

theorem encodesObj_iff {kvs : List (Str × Json)} :
    encodesObj kvs = true ↔ ∀ p ∈ kvs, encodable p.1 = true ∧ encodes p.2 = true := by
  induction kvs with
  | nil => simp [encodesObj]
  | cons p kvs ih =>
    obtain ⟨k, v⟩ := p
    simp [encodesObj, ih]

mutual

/-- A value can be hashed exactly when its integers can be printed and its text encoded. -/
theorem encodes_iff : ∀ v : Json, encodes v = true ↔ printable v = true ∧ encodable (dumps v) = true
  | .null => by decide +kernel
  | .bool true => by decide +kernel
  | .bool false => by decide +kernel
  | .int n => by
    rw [encodes, printable, dumps]
    exact (and_iff_left (numberText_ofInt n).encodable).symm
  | .float f => by
    rw [encodes, printable, dumps]
    · exact (and_iff_right rfl).symm.trans (and_congr_right fun _ => iff_of_true rfl (numberText_dumpFloat f).encodable)
    all_goals intros; contradiction
  | .str s => by
    rw [encodes, printable, dumps, encodable_quote]
    · simp
    all_goals intros; contradiction
  | .arr xs => by
    rw [encodes, printable, dumps, encodable_append, encodable_append, encodable_join (by decide +kernel),
      encodesList_dumps xs]
    have hopen : encodable (lit "[") = true := by decide +kernel
    have hclose : encodable (lit "]") = true := by decide +kernel
    simp [hopen, hclose]
  | .obj kvs => by
    rw [encodes, printable, dumps, encodable_append, encodable_append, encodable_join (by decide +kernel),
      encodesObj_dumps kvs]
    have hopen : encodable (lit "\x7b") = true := by decide +kernel
    have hclose : encodable (lit "\x7d") = true := by decide +kernel
    have hcolon : encodable (lit ": ") = true := by decide +kernel
    have hentries : (∀ t ∈ (sortKeys (dumpsObj kvs)).map fun p => quote p.1 ++ lit ": " ++ p.2, encodable t = true) ↔
        ∀ p ∈ dumpsObj kvs, encodable p.1 = true ∧ encodable p.2 = true := by
      rw [List.forall_mem_map]
      refine forall_congr' fun p => imp_congr mem_sortKeys ?_
      rw [encodable_append, encodable_append, encodable_quote]
      simp [hcolon]
    rw [hentries]
    simp [hopen, hclose]

theorem encodesList_dumps : ∀ xs : List Json, encodesList xs = true ↔
    printableList xs = true ∧ ∀ t ∈ dumpsList xs, encodable t = true
  | [] => by simp [encodesList, printableList, dumpsList]
  | x :: xs => by
    rw [encodesList, printableList, dumpsList, Bool.and_eq_true, Bool.and_eq_true, encodes_iff x,
      encodesList_dumps xs, List.forall_mem_cons]
    tauto

theorem encodesObj_dumps : ∀ kvs : List (Str × Json), encodesObj kvs = true ↔
    printableObj kvs = true ∧ ∀ p ∈ dumpsObj kvs, encodable p.1 = true ∧ encodable p.2 = true
  | [] => by simp [encodesObj, printableObj, dumpsObj]
  | (k, v) :: kvs => by
    rw [encodesObj, printableObj, dumpsObj, Bool.and_eq_true, Bool.and_eq_true, Bool.and_eq_true, encodes_iff v,
      encodesObj_dumps kvs, List.forall_mem_cons]
    tauto

end

end Json

end Py
