/-
# What the fingerprint of an entry can fail on

`add_raw` hashes what an entry says: its id, its two times and the keys and values of its
attributes; and, when the entry has no id, the reference of its hit.  Hashing encodes a text, and
there are values whose text cannot be encoded: a lone surrogate, which JSON can express and UTF-8
cannot, and an integer with more digits than the interpreter prints.  Hashing raises when one of
these occurs in what is hashed, and at nothing else.

The module turns "the fingerprint raises" into a condition on the ENTRY, since that is what
`Quarantine` is about.  The way there is through the extraction: the fields of an item are values
of its entry, read from it or normalized, and each of them can be encoded exactly when what it was
read from can.  Some cannot fail by then.  An action id is made of digits, and the names an entry
spells are among the values of its attributes, so they add no condition of their own.

What a fingerprint covers and what it does not is the point: a surrogate in a field that nothing
hashes does no harm.
-/
import BackupCollector.Lookups.Fingerprints
import BackupCollector.Py.Encoding

namespace BackupCollector

open Py

/-! ## 1. Digests

The digest of a value returns exactly when every text in it can be encoded. -/

theorem encodes_strArray {xs : List Str} : (strArray xs).encodes = true ↔ ∀ t ∈ xs, encodable t = true := by
  unfold strArray
  rw [Json.encodes, Json.encodesList_iff, List.forall_mem_map]
  exact forall₂_congr fun t _ => by rw [Json.encodes]

theorem digest_isOk_iff [Hashlib] {v : Json} : (digest v).isOk = v.encodes := by
  rw [Bool.eq_iff_iff, Json.encodes_iff]
  unfold digest sha256Hex
  cases v.printable with
  | false => simp [Except.isOk, Except.toBool]
  | true => cases h : encodable v.dumps <;> simp [Except.isOk, Except.toBool]

/-- An item is read to its end when its fingerprint, and the reference it needs without a backup
id, can be hashed. -/
theorem Evidence.marks_err_iff [Hashlib] {e : Evidence} : e.marks.err = none ↔
    (fingerprintValue e).encodes = true ∧ (e.backupId = none → (Json.obj e.reference).encodes = true) := by
  rw [← digest_isOk_iff, ← digest_isOk_iff]
  unfold Evidence.marks
  cases digest (fingerprintValue e) with
  | error err => simp [Gen.ofExcept, Gen.raise, Except.isOk, Except.toBool]
  | ok fingerprint =>
    dsimp only [Gen.ofExcept]
    cases e.backupId with
    | some backupId => simp [Except.isOk, Except.toBool]
    | none =>
      dsimp only
      rw [Gen.andThen_of_ok rfl]
      cases digest (.obj e.reference) with
      | error err => simp [Gen.raise, Except.isOk, Except.toBool]
      | ok d => simp [Gen.yield, Except.isOk, Except.toBool]

/-! ## 2. The attributes of an entry

The attributes reach the fingerprint as a dictionary of sets.  What is in the dictionary was in the
entry, and the other way round. -/

/-- A value modified in a dictionary of sets, seen entry by entry. -/
theorem forall_modify {A : Str → Prop} {B : Str → Prop} (d : Dict Str (Finset Str)) (k : Str) (s : Finset Str) :
    (∀ p ∈ Dict.modify d k ∅ (· ∪ s), A p.1 ∧ ∀ t ∈ p.2, B t) ↔
      (∀ p ∈ d, A p.1 ∧ ∀ t ∈ p.2, B t) ∧ A k ∧ ∀ t ∈ s, B t := by
  unfold Dict.modify
  induction d with
  | nil => simp [Dict.set]
  | cons p d ih =>
    obtain ⟨l, v⟩ := p
    by_cases hl : l = k
    · subst hl
      simp only [Dict.set, if_true, Dict.get?_cons, Option.getD_some, List.forall_mem_cons, Finset.mem_union]
      constructor
      · rintro ⟨⟨hk, hv⟩, hd⟩
        exact ⟨⟨⟨hk, fun t ht => hv t (Or.inl ht)⟩, hd⟩, hk, fun t ht => hv t (Or.inr ht)⟩
      · rintro ⟨⟨⟨hk, hv⟩, hd⟩, -, hs⟩
        exact ⟨⟨hk, fun t ht => ht.elim (hv t) (hs t)⟩, hd⟩
    · simp only [Dict.set, hl, if_false, Dict.get?_cons, List.forall_mem_cons]
      simp only [ih, and_assoc]

theorem forall_attributeSets {A : Str → Prop} {B : Str → Prop} (attributes : List Obj) :
    (∀ p ∈ attributeSets attributes, A p.1 ∧ ∀ t ∈ p.2, B t) ↔
      ∀ a ∈ attributes, A (textField a "key") ∧ ∀ t ∈ (nonBlankTexts (Obj.get a "values")).getD [], B t := by
  induction attributes using List.reverseRecOn with
  | nil => simp [attributeSets]
  | append_singleton attributes a ih =>
    have hlast : attributeSets (attributes ++ [a]) = Dict.modify (attributeSets attributes) (textField a "key") ∅
        (· ∪ ((nonBlankTexts (Obj.get a "values")).getD []).toFinset) := by
      unfold attributeSets
      rw [List.foldl_append]
      rfl
    rw [hlast, forall_modify, ih]
    simp only [List.forall_mem_append, List.forall_mem_singleton, List.mem_toFinset]

/-- A well-formed attribute is an object with a text for its key and texts for its values. -/
theorem readAttribute_eq_ok {value : Json} {a : Attribute} (h : readAttribute value = .ok a) :
    ∃ o, value = .obj o ∧ Obj.get o "key" = .str a.key ∧ nonBlankTexts (Obj.get o "values") = some a.values := by
  unfold readAttribute at h
  split at h
  · rename_i o
    split at h
    · rename_i key hkey
      split at h
      · cases h
      · split at h
        · rename_i values hvalues
          obtain rfl := Except.ok.inj h
          exact ⟨o, rfl, hkey, hvalues⟩
        · cases h
    · cases h
  · cases h

/-- Texts read from an array are the whole array. -/
theorem nonBlankTexts_eq_some {v : Json} {texts : List Str} (h : nonBlankTexts v = some texts) : v = strArray texts := by
  cases v with
  | arr xs =>
    unfold nonBlankTexts at h
    dsimp only at h
    split at h
    · cases h
    · rename_i hnot
      obtain rfl := Option.some.inj h
      simp only [Bool.or_eq_true, not_or, decide_eq_true_eq, not_not] at hnot
      have hall : ∀ x ∈ xs, x.asStr?.isSome = true := List.filterMap_length_eq_length.mp hnot.1.2
      unfold strArray
      congr 1
      clear h hnot
      induction xs with
      | nil => rfl
      | cons x xs ih =>
        have hx := hall x List.mem_cons_self
        cases x with
        | str s => simp [Json.asStr?, ← ih fun y hy => hall y (List.mem_cons_of_mem _ hy)]
        | _ => cases hx
  | _ => cases h

/-- What a pass of the attribute loop has read. -/
theorem attributes_read (xs : List Json) (herrors : (xs.foldl AttributeValues.add {}).errors = []) :
    (∀ x ∈ xs, ∃ a, readAttribute x = .ok a) ∧
      ∀ k t, t ∈ (xs.foldl AttributeValues.add {}).get k → ∃ x ∈ xs, ∃ a, readAttribute x = .ok a ∧ t ∈ a.values := by
  induction xs using List.reverseRecOn with
  | nil => exact ⟨fun x hx => (nomatch hx), fun k t ht => (nomatch ht)⟩
  | append_singleton xs x ih =>
    rw [List.foldl_append] at herrors ⊢
    simp only [List.foldl_cons, List.foldl_nil] at herrors ⊢
    unfold AttributeValues.add at herrors ⊢
    cases hx : readAttribute x with
    | error e =>
      rw [hx] at herrors
      simp at herrors
    | ok a =>
      rw [hx] at herrors
      dsimp only at herrors ⊢
      obtain ⟨hread, hvalues⟩ := ih herrors
      refine ⟨fun y hy => ?_, fun k t ht => ?_⟩
      · rcases List.mem_append.mp hy with hy | hy
        · exact hread y hy
        · rw [List.mem_singleton.mp hy]
          exact ⟨a, hx⟩
      · unfold AttributeValues.get at ht
        dsimp only at ht
        rw [Dict.get?_modify] at ht
        have hold : t ∈ (xs.foldl AttributeValues.add {}).get k →
            ∃ y ∈ xs ++ [x], ∃ b, readAttribute y = .ok b ∧ t ∈ b.values := by
          intro h
          obtain ⟨y, hy, hb⟩ := hvalues k t h
          exact ⟨y, List.mem_append_left _ hy, hb⟩
        by_cases hk : a.key = k
        · rw [if_pos hk, Option.getD_some] at ht
          rcases List.mem_append.mp ht with ht | ht
          · exact hold (hk ▸ ht)
          · exact ⟨x, List.mem_append_right _ (List.mem_singleton_self x), a, hx, ht⟩
        · rw [if_neg hk] at ht
          exact hold ht

/-! ## 3. The fingerprint of an entry

The parts of a fingerprint, each traced back to the entry. -/

/-- What the fingerprint of an entry covers. -/
def fingerprinted (b : Obj) : List Json :=
  [Json.ofOption .str (backupIdentity b), Obj.get b "saveTime", Obj.get b "completionTime"] ++
    match Obj.get b "attributes" with
    | .arr xs => (dictItems xs).flatMap fun a => [Obj.get a "key", Obj.get a "values"]
    | _ => []

/-- An item as an entry gave it. -/
structure Evidence.ReadFrom (b reference : Obj) (e : Evidence) : Prop where
  clean : (attributeValues (Obj.get b "attributes")).errors = []
  action : (attributeValues (Obj.get b "attributes")).actionId = some e.actionId
  names : relationNames (attributeValues (Obj.get b "attributes")) = .ok (e.policy, e.workflow, e.group)
  dimensions : ∀ key ∈ requiredNames, (attributeValues (Obj.get b "attributes")).nameErrors key = []
  backupId : e.backupId = backupIdentity b
  attributes : e.attributes = match Obj.get b "attributes" with
    | .arr xs => dictItems xs
    | _ => []
  reference : e.reference = Dict.set reference "backup_id" (Json.ofOption .str (backupIdentity b))
  saveTime : e.saveTime = Obj.get b "saveTime"
  completionTime : e.completionTime = Obj.get b "completionTime"

/-- An entry that names its action, has no error and is named well becomes evidence. -/
def usable (entry : Json) : Bool :=
  match entry with
  | .obj b =>
    let v := attributeValues (Obj.get b "attributes")
    v.actionId.isSome && v.allErrors.isEmpty && (relationNames v).isOk
  | _ => false

theorem mem_extractBackup {entry : Json} {source : Source} {reference : Obj} {observedAt : Option Instant} {e : Evidence}
    (h : e ∈ (extractBackup entry source reference observedAt).evidence) :
    ∃ b, entry = .obj b ∧ e.ReadFrom b reference := by
  cases entry with
  | obj b =>
    refine ⟨b, rfl, ?_⟩
    unfold extractBackup at h
    dsimp only at h
    cases hid : (attributeValues (Obj.get b "attributes")).actionId with
    | none =>
      rw [hid] at h
      cases h
    | some actionId =>
      cases herrors : (attributeValues (Obj.get b "attributes")).allErrors with
      | cons error errors =>
        rw [hid, herrors] at h
        cases h
      | nil =>
        cases hnames : relationNames (attributeValues (Obj.get b "attributes")) with
        | error err =>
          rw [hid, herrors, hnames] at h
          cases h
        | ok names =>
          rw [hid, herrors, hnames] at h
          obtain ⟨policy, workflow, group⟩ := names
          unfold AttributeValues.allErrors at herrors
          obtain ⟨herrors, hdimensions⟩ := List.append_eq_nil_iff.mp herrors
          have hclean := (List.append_eq_nil_iff.mp herrors).1
          obtain rfl := List.mem_singleton.mp h
          exact ⟨hclean, hid, hnames, List.flatMap_eq_nil_iff.mp hdimensions, rfl, rfl, rfl, rfl, rfl⟩
  | _ => cases h

theorem usable_iff {entry : Json} (source : Source) (reference : Obj) (observedAt : Option Instant) :
    usable entry = true ↔ ∃ e, e ∈ (extractBackup entry source reference observedAt).evidence := by
  cases entry with
  | obj b =>
    unfold usable extractBackup
    dsimp only
    cases (attributeValues (Obj.get b "attributes")).actionId with
    | none => simp [Extraction.issue]
    | some actionId =>
      cases (attributeValues (Obj.get b "attributes")).allErrors with
      | cons error errors => simp [Extraction.issue]
      | nil =>
        cases relationNames (attributeValues (Obj.get b "attributes")) with
        | error err => simp [Extraction.issue, Except.isOk, Except.toBool]
        | ok names => simp [Except.isOk, Except.toBool]
  | _ => simp [usable, extractBackup, Extraction.issue]

/-- The fingerprint covers the keys and values of the attributes. -/
theorem encodes_attributes {xs : List Json} (hread : ∀ x ∈ xs, ∃ a, readAttribute x = .ok a) :
    (∀ p ∈ attributeSets (dictItems xs), encodable p.1 = true ∧ ∀ t ∈ p.2, encodable t = true) ↔
      ∀ v ∈ (dictItems xs).flatMap (fun a => [Obj.get a "key", Obj.get a "values"]), v.encodes = true := by
  rw [forall_attributeSets (A := fun k => encodable k = true) (B := fun t => encodable t = true)]
  have heach : ∀ o ∈ dictItems xs, (encodable (textField o "key") = true ∧
      ∀ t ∈ (nonBlankTexts (Obj.get o "values")).getD [], encodable t = true) ↔
      ∀ v ∈ [Obj.get o "key", Obj.get o "values"], v.encodes = true := by
    intro o ho
    obtain ⟨x, hx, hobj⟩ := List.mem_filterMap.mp ho
    obtain ⟨a, ha⟩ := hread x hx
    obtain ⟨o', rfl, hkey, hvalues⟩ := readAttribute_eq_ok ha
    obtain rfl : o' = o := Option.some.inj hobj
    have hkeyText : textField o' "key" = a.key := by
      unfold textField
      rw [hkey]
      rfl
    rw [hkeyText, hvalues, hkey, nonBlankTexts_eq_some hvalues, Option.getD_some]
    simp only [List.forall_mem_cons, List.not_mem_nil, false_imp_iff, implies_true, and_true, encodes_strArray]
    rw [Json.encodes]
  constructor
  · intro h v hv
    obtain ⟨o, ho, hv⟩ := List.mem_flatMap.mp hv
    exact (heach o ho).mp (h o ho) v hv
  · intro h o ho
    exact (heach o ho).mpr fun v hv => h v (List.mem_flatMap.mpr ⟨o, ho, hv⟩)

/-- The names an entry spells are values of its attributes. -/
theorem encodable_first {xs : List Json} (herrors : (xs.foldl AttributeValues.add {}).errors = [])
    (h : ∀ x ∈ xs, ∀ a, readAttribute x = .ok a → ∀ t ∈ a.values, encodable t = true) (key : Str) :
    encodable ((xs.foldl AttributeValues.add {}).first key) = true := by
  unfold AttributeValues.first
  cases hget : (xs.foldl AttributeValues.add {}).get key with
  | nil => rfl
  | cons t ts =>
    have ht : t ∈ (xs.foldl AttributeValues.add {}).get key := by
      rw [hget]
      exact List.mem_cons_self
    obtain ⟨x, hx, a, ha, hta⟩ := (attributes_read xs herrors).2 key t ht
    exact h x hx a ha t hta

theorem encodable_positiveId {value text : Str} (h : positiveIdText value = some text) : encodable text = true := by
  unfold positiveIdText at h
  extract_lets stripped at h
  split at h
  · rename_i hdecimal
    obtain rfl := Option.some.inj h
    refine List.all_eq_true.mpr fun c hc => ?_
    have hall : stripped.all isAsciiDigit = true := by
      generalize stripped = text at hdecimal
      cases text with
      | nil => rfl
      | cons d ds => exact (Bool.and_eq_true _ _ ▸ hdecimal).1
    have hdigit := List.all_eq_true.mp hall c hc
    simp only [isAsciiDigit, Bool.and_eq_true, decide_eq_true_eq] at hdigit
    have hlow : c.val < 128 := by omega
    rw [encodable_of_plainChr hlow]
    rfl
  · cases h

theorem encodable_actionId {v : AttributeValues} {actionId : Str} (h : v.actionId = some actionId) :
    encodable actionId = true := by
  unfold AttributeValues.actionId at h
  obtain ⟨value, -, hvalue⟩ := Option.bind_eq_some_iff.mp h
  exact encodable_positiveId hvalue

theorem relationNames_original {v : AttributeValues} {p w g : Name} (h : relationNames v = .ok (p, w, g)) :
    p.original = v.first "*policy name" ∧ w.original = v.first "*policy workflow name" ∧
      g.original = v.first "group" := by
  unfold relationNames at h
  obtain ⟨p', hp, h⟩ := bind_eq_ok.mp h
  obtain ⟨w', hw, h⟩ := bind_eq_ok.mp h
  obtain ⟨g', hg, h⟩ := bind_eq_ok.mp h
  obtain ⟨rfl, rfl, rfl⟩ : p' = p ∧ w' = w ∧ g' = g := by simpa using Except.ok.inj h
  exact ⟨(normalizeName_eq_ok hp).1, (normalizeName_eq_ok hw).1, (normalizeName_eq_ok hg).1⟩

/-- The fingerprint of an item can be hashed exactly when what its entry says can be. -/
theorem Evidence.ReadFrom.encodes_iff {b reference : Obj} {e : Evidence} (h : e.ReadFrom b reference) :
    (fingerprintValue e).encodes = true ↔ ∀ v ∈ fingerprinted b, v.encodes = true := by
  have hfields : (fingerprintValue e).encodes = true ↔
      (Json.ofOption .str e.backupId).encodes = true ∧ encodable e.actionId = true ∧
        (∀ t ∈ e.originalCandidate, encodable t = true) ∧
        (∀ p ∈ attributeSets e.attributes, encodable p.1 = true ∧ ∀ t ∈ p.2, encodable t = true) ∧
        e.saveTime.encodes = true ∧ e.completionTime.encodes = true := by
    have hkeys : encodable (lit "id") = true ∧ encodable (lit "action") = true ∧ encodable (lit "original") = true ∧
        encodable (lit "attributes") = true ∧ encodable (lit "save_time") = true ∧
        encodable (lit "completion_time") = true := by decide +kernel
    obtain ⟨h₁, h₂, h₃, h₄, h₅, h₆⟩ := hkeys
    have hattributes : (Json.obj ((attributeSets e.attributes).map fun a => (a.1, strArray (sorted a.2)))).encodes = true ↔
        ∀ p ∈ attributeSets e.attributes, encodable p.1 = true ∧ ∀ t ∈ p.2, encodable t = true := by
      rw [Json.encodes, Json.encodesObj_iff, List.forall_mem_map]
      refine forall₂_congr fun p _ => and_congr_right fun _ => ?_
      rw [encodes_strArray]
      exact forall_congr' fun t => imp_congr mem_sorted Iff.rfl
    have haction : (Json.str e.actionId).encodes = encodable e.actionId := by rw [Json.encodes]
    unfold fingerprintValue
    rw [Json.encodes, Json.encodesObj_iff]
    simp only [List.forall_mem_cons, List.not_mem_nil, false_imp_iff, implies_true, and_true, h₁, h₂, h₃, h₄, h₅, h₆,
      true_and, hattributes, encodes_strArray, haction]
  have haction := encodable_actionId h.action
  obtain ⟨hpolicy, hworkflow, hgroup⟩ := relationNames_original h.names
  rw [hfields, h.backupId, h.saveTime, h.completionTime]
  unfold fingerprinted Evidence.originalCandidate
  rw [hpolicy, hworkflow, hgroup, h.attributes]
  have hclean := h.clean
  cases hxs : Obj.get b "attributes" with
  | arr xs =>
    rw [hxs] at hclean
    cases xs with
    | nil => cases hclean
    | cons x xs =>
      have hread := attributes_read (x :: xs) hclean
      simp only [List.forall_mem_append, List.forall_mem_cons, List.not_mem_nil, false_imp_iff, implies_true, and_true,
        ← encodes_attributes hread.1]
      constructor
      · rintro ⟨hid, -, -, hattributes, hsave, hcompletion⟩
        exact ⟨⟨hid, hsave, hcompletion⟩, hattributes⟩
      · rintro ⟨⟨hid, hsave, hcompletion⟩, hattributes⟩
        have hvalues := (encodes_attributes hread.1).mp hattributes
        have hfirst := encodable_first hclean fun y hy a ha t ht => by
          obtain ⟨o, rfl, hkey, htexts⟩ := readAttribute_eq_ok ha
          have ho : o ∈ dictItems (x :: xs) := List.mem_filterMap.mpr ⟨_, hy, rfl⟩
          have hv := hvalues (Obj.get o "values") (List.mem_flatMap.mpr ⟨o, ho, by simp⟩)
          rw [nonBlankTexts_eq_some htexts, encodes_strArray] at hv
          exact hv t ht
        exact ⟨hid, haction, ⟨hfirst _, hfirst _, hfirst _⟩, hattributes, hsave, hcompletion⟩
  | _ =>
    rw [hxs] at hclean
    cases hclean

end BackupCollector
