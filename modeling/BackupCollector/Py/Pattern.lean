/-
# Regular expressions

The program's regular expressions are sequences: runs of one character class, places in a line, and
groups around such runs.  A run is tried at every length it may have, longest first when it is
greedy, and the first length from which the rest of the pattern matches is taken.  That is what a
backtracking matcher does, so `run` returns the match `re` returns, groups included.

The fragment is small and that is why it is exact.  No alternation between runs, no repetition of a
group, no reference back; what the program writes as an alternation is two patterns tried in turn.
Matching under `re.IGNORECASE` folds the ASCII letters and the four characters that Unicode folds
onto them.

Two kinds of rules are given.

* What a group holds (`run_group`): a group around one run holds characters of the run's class, and
  as many as the run needs, whatever the rest of the pattern does.  It is what a conversion after a
  match relies on.
* What a pattern matches at all (`run_matches`, `run_isSome`): `Matches` has every match, whichever
  length is tried first, and a pattern that allows one match only returns that one.  So greediness
  can be ignored where it does not matter.
-/
import BackupCollector.Py.Str

namespace Py

/-! ## 1. Patterns

A pattern is a list of items; a class is a predicate on code points. -/

/-- One step of a pattern. -/
inductive Item where
  /-- A run of at least `least` and at most `most` characters of one class. -/
  | chars (p : Chr → Bool) (least : Nat) (most : Option Nat) (greedy : Bool)
  /-- `^` under `re.MULTILINE` -/
  | lineStart
  /-- `$` under `re.MULTILINE` -/
  | lineEnd
  /-- `^` without flags -/
  | textStart
  /-- `$` without flags: the end, or the line break that ends the text. -/
  | textEnd
  /-- Where `re.fullmatch` has to arrive: the end itself. -/
  | finish
  | openGroup
  | closeGroup

namespace Item

def one (p : Chr → Bool) : Item := .chars p 1 (some 1) true

/-- `p+` -/
def many1 (p : Chr → Bool) : Item := .chars p 1 none true

/-- `p*` -/
def many (p : Chr → Bool) : Item := .chars p 0 none true

/-- `p?` -/
def opt (p : Chr → Bool) : Item := .chars p 0 (some 1) true

end Item

/-- `re.IGNORECASE` on one character, as far as the ASCII letters go: besides the two cases of a
letter, the dotted and dotless `i`, the long `s` and the Kelvin sign are those letters. -/
def foldCase (c : Chr) : Chr :=
  if c.val = 0x130 ∨ c.val = 0x131 then chr 'i'
  else if c.val = 0x17F then chr 's'
  else if c.val = 0x212A then chr 'k'
  else asciiLowerChr c

/-- A character of a pattern under `re.IGNORECASE`. -/
def sameLetter (l : Char) (c : Chr) : Bool := decide (foldCase c = foldCase (chr l))

/-- A literal text under `re.IGNORECASE`. -/
def letters (s : String) : List Item := s.toList.map fun l => .one (sameLetter l)

/-- A literal character. -/
def isChr (l : Char) (c : Chr) : Bool := decide (c = chr l)

/-! ## 2. Matching

The matcher, and the functions of `re` that are made from it. -/

/-- The lengths a run may have, in the order they are tried. -/
def lengths (least available : Nat) (most : Option Nat) (greedy : Bool) : List Nat :=
  let up := List.range' least ((most.elim available (min available)) + 1 - least)
  if greedy then up.reverse else up

/-- The first match of a pattern at the head of `s`: its groups and what follows it.  `prev` is
the character before `s`, and `mark` is where the open group began. -/
def run : List Item → Option Chr → Str → Str → Option (List Str × Str)
  | [], _, _, s => some ([], s)
  | .chars p least most greedy :: is, prev, mark, s =>
    (lengths least (s.takeWhile p).length most greedy).findSome? fun n =>
      run is ((s.take n).getLast?.or prev) mark (s.drop n)
  | .lineStart :: is, prev, mark, s => if prev.all (isChr '\n') then run is prev mark s else none
  | .lineEnd :: is, prev, mark, s => if s.head?.all (isChr '\n') then run is prev mark s else none
  | .textStart :: is, prev, mark, s => if prev.isNone then run is prev mark s else none
  | .textEnd :: is, prev, mark, s => if s.isEmpty || decide (s = lit "\n") then run is prev mark s else none
  | .finish :: is, prev, mark, s => if s.isEmpty then run is prev mark s else none
  | .openGroup :: is, prev, _, s => run is prev s s
  | .closeGroup :: is, prev, mark, s =>
    (run is prev mark s).map fun m => (mark.take (mark.length - s.length) :: m.1, m.2)

/-- `re.match`: the groups of a match at the start of the text. -/
def matchStart (is : List Item) (s : Str) : Option (List Str) := (run is none s s).map Prod.fst

/-- `re.fullmatch`: the groups of a match of the whole text. -/
def fullmatch (is : List Item) (s : Str) : Option (List Str) := matchStart (is ++ [.finish]) s

/-- `re.search` from a place on: the groups of the leftmost match. -/
def searchFrom (is : List Item) : Option Chr → Str → Option (List Str)
  | prev, [] => (run is prev [] []).map Prod.fst
  | prev, c :: s =>
    match run is prev (c :: s) (c :: s) with
    | some m => some m.1
    | none => searchFrom is (some c) s

/-- `re.search` -/
def search (is : List Item) (s : Str) : Option (List Str) := searchFrom is none s

/-- `re.split` from a place on, for a pattern that matches no empty text: `piece` is what has been
read since the last match, and `skip` of the characters ahead belong to it. -/
def splitFrom (is : List Item) : Option Chr → Str → Nat → Str → List Str
  | _, piece, _, [] => [piece]
  | _, piece, skip + 1, c :: s => splitFrom is (some c) piece skip s
  | prev, piece, 0, c :: s =>
    match run is prev (c :: s) (c :: s) with
    | some (_, rest) => piece :: splitFrom is (some c) [] (s.length - rest.length) s
    | none => splitFrom is (some c) (piece ++ [c]) 0 s

/-- `re.split` -/
def splitPattern (is : List Item) (s : Str) : List Str := splitFrom is none [] 0 s

/-! ## 3. What a group holds

By induction over the pattern, for the group that is open. -/

theorem mem_lengths {n least available : Nat} {most : Option Nat} {greedy : Bool}
    (h : n ∈ lengths least available most greedy) : least ≤ n ∧ n ≤ available := by
  have hbound : (most.elim available (min available)) ≤ available := by
    cases most with
    | none => exact le_refl _
    | some m => exact min_le_left _ _
  have hup : n ∈ List.range' least ((most.elim available (min available)) + 1 - least) := by
    unfold lengths at h
    cases greedy with
    | false => exact h
    | true => exact List.mem_reverse.mp h
  obtain ⟨i, hi, rfl⟩ := List.mem_range'.mp hup
  omega

theorem mem_lengths_of_le {n least available : Nat} {greedy : Bool} (hleast : least ≤ n) (hmost : n ≤ available) :
    n ∈ lengths least available none greedy := by
  have hup : n ∈ List.range' least (available + 1 - least) :=
    List.mem_range'.mpr ⟨n - least, by omega, by omega⟩
  cases greedy with
  | false => exact hup
  | true => exact List.mem_reverse.mpr hup

/-- What a run takes are characters of its class. -/
theorem forall_mem_take {p : Chr → Bool} {n : Nat} {s : Str} (h : n ≤ (s.takeWhile p).length) :
    ∀ c ∈ s.take n, p c = true := by
  intro c hc
  have htake : s.take n = (s.takeWhile p).take n := by
    conv_lhs => rw [← List.takeWhile_append_dropWhile (p := p) (l := s)]
    exact List.take_append_of_le_length h
  rw [htake] at hc
  exact List.mem_takeWhile_imp (List.mem_of_mem_take hc)

/-- A group around one run holds characters of the run's class, and as many as the run needs. -/
theorem run_group {p : Chr → Bool} {least : Nat} {most : Option Nat} {greedy : Bool} {is : List Item}
    {prev : Option Chr} {mark s : Str} {m : List Str × Str}
    (h : run (.openGroup :: .chars p least most greedy :: .closeGroup :: is) prev mark s = some m) :
    ∃ g gs, m.1 = g :: gs ∧ (∀ c ∈ g, p c = true) ∧ least ≤ g.length := by
  simp only [run] at h
  obtain ⟨n, hn, hm⟩ := List.exists_of_findSome?_eq_some h
  obtain ⟨hleast, hmost⟩ := mem_lengths hn
  obtain ⟨m', -, rfl⟩ := Option.map_eq_some_iff.mp hm
  have hle : n ≤ s.length := hmost.trans (List.takeWhile_prefix p).length_le
  have hgroup : s.take (s.length - (s.drop n).length) = s.take n := by
    rw [List.length_drop]
    congr 1
    omega
  refine ⟨_, _, rfl, ?_, ?_⟩
  · rw [hgroup]
    exact forall_mem_take hmost
  · rw [hgroup, List.length_take]
    omega

theorem matchStart_group {p : Chr → Bool} {least : Nat} {most : Option Nat} {greedy : Bool} {is : List Item} {s : Str}
    {groups : List Str}
    (h : matchStart (.openGroup :: .chars p least most greedy :: .closeGroup :: is) s = some groups) :
    ∃ g gs, groups = g :: gs ∧ (∀ c ∈ g, p c = true) ∧ least ≤ g.length := by
  obtain ⟨m, hm, rfl⟩ := Option.map_eq_some_iff.mp h
  exact run_group hm

theorem searchFrom_group {p : Chr → Bool} {least : Nat} {most : Option Nat} {greedy : Bool} {is : List Item} {s : Str}
    {groups : List Str} {prev : Option Chr}
    (h : searchFrom (.openGroup :: .chars p least most greedy :: .closeGroup :: is) prev s = some groups) :
    ∃ g gs, groups = g :: gs ∧ (∀ c ∈ g, p c = true) ∧ least ≤ g.length := by
  induction s generalizing prev with
  | nil =>
    obtain ⟨m, hm, rfl⟩ := Option.map_eq_some_iff.mp h
    exact run_group hm
  | cons c s ih =>
    rw [searchFrom] at h
    split at h
    · rename_i m hm
      rw [← Option.some.inj h]
      exact run_group hm
    · exact ih h

/-! ## 4. Every match

What a pattern allows, whichever length is tried first.  A pattern that allows one match only
returns that one. -/

/-- The matches of a pattern at the head of `s`. -/
def Matches : List Item → Option Chr → Str → Str → List Str × Str → Prop
  | [], _, _, s, m => m = ([], s)
  | .chars p least most greedy :: is, prev, mark, s, m =>
    ∃ n ∈ lengths least (s.takeWhile p).length most greedy,
      Matches is ((s.take n).getLast?.or prev) mark (s.drop n) m
  | .lineStart :: is, prev, mark, s, m => prev.all (isChr '\n') = true ∧ Matches is prev mark s m
  | .lineEnd :: is, prev, mark, s, m => s.head?.all (isChr '\n') = true ∧ Matches is prev mark s m
  | .textStart :: is, prev, mark, s, m => prev.isNone = true ∧ Matches is prev mark s m
  | .textEnd :: is, prev, mark, s, m => (s.isEmpty || decide (s = lit "\n")) = true ∧ Matches is prev mark s m
  | .finish :: is, prev, mark, s, m => s.isEmpty = true ∧ Matches is prev mark s m
  | .openGroup :: is, prev, _, s, m => Matches is prev s s m
  | .closeGroup :: is, prev, mark, s, m =>
    ∃ m', Matches is prev mark s m' ∧ m = (mark.take (mark.length - s.length) :: m'.1, m'.2)

/-- The matcher returns a match. -/
theorem run_matches {is : List Item} {prev : Option Chr} {mark s : Str} {m : List Str × Str}
    (h : run is prev mark s = some m) : Matches is prev mark s m := by
  induction is generalizing prev mark s m with
  | nil => exact (Option.some.inj h).symm
  | cons i is ih =>
    cases i with
    | chars p least most greedy =>
      obtain ⟨n, hn, hm⟩ := List.exists_of_findSome?_eq_some h
      exact ⟨n, hn, ih hm⟩
    | openGroup => exact ih h
    | closeGroup =>
      obtain ⟨m', hm', rfl⟩ := Option.map_eq_some_iff.mp h
      exact ⟨m', ih hm', rfl⟩
    | _ =>
      obtain ⟨hc, hm⟩ := Option.ite_none_right_eq_some.mp h
      exact ⟨hc, ih hm⟩

/-- Where the pattern allows a match, the matcher finds one. -/
theorem run_isSome {is : List Item} {prev : Option Chr} {mark s : Str} {m : List Str × Str}
    (h : Matches is prev mark s m) : (run is prev mark s).isSome = true := by
  induction is generalizing prev mark s m with
  | nil => rfl
  | cons i is ih =>
    cases i with
    | chars p least most greedy =>
      obtain ⟨n, hn, hm⟩ := h
      rw [run, List.findSome?_isSome_iff]
      exact ⟨n, hn, ih hm⟩
    | openGroup => exact ih h
    | closeGroup =>
      obtain ⟨m', hm', -⟩ := h
      rw [run, Option.isSome_map]
      exact ih hm'
    | _ =>
      obtain ⟨hc, hm⟩ := h
      rw [run, if_pos hc]
      exact ih hm

/-- A run of one class with no upper bound, as a piece of the text. -/
theorem matches_chars {p : Chr → Bool} {least : Nat} {greedy : Bool} {is : List Item} {prev : Option Chr}
    {mark s : Str} {m : List Str × Str} :
    Matches (.chars p least none greedy :: is) prev mark s m ↔
      ∃ a b, s = a ++ b ∧ (∀ c ∈ a, p c = true) ∧ least ≤ a.length ∧ Matches is (a.getLast?.or prev) mark b m := by
  constructor
  · rintro ⟨n, hn, hm⟩
    obtain ⟨hleast, hmost⟩ := mem_lengths hn
    have hle : n ≤ s.length := hmost.trans (List.takeWhile_prefix p).length_le
    refine ⟨s.take n, s.drop n, (List.take_append_drop n s).symm, forall_mem_take hmost, ?_, hm⟩
    rw [List.length_take]
    omega
  · rintro ⟨a, b, rfl, ha, hleast, hm⟩
    refine ⟨a.length, ?_, ?_⟩
    · rw [List.takeWhile_append_of_pos ha]
      exact mem_lengths_of_le hleast (by simp)
    · simpa using hm

/-- One character of a class. -/
theorem matches_one {p : Chr → Bool} {is : List Item} {prev : Option Chr} {mark s : Str} {m : List Str × Str} :
    Matches (.one p :: is) prev mark s m ↔
      ∃ c b, s = c :: b ∧ p c = true ∧ Matches is (some c) mark b m := by
  cases s with
  | nil => simp [Item.one, Matches, lengths]
  | cons c b =>
    by_cases hc : p c = true
    · simp [Item.one, Matches, lengths, hc]
    · simp [Item.one, Matches, lengths, hc]

end Py
