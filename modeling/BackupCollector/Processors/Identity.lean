/-
# What a derived id tells apart

A record document is identified by its identifying fields joined with colons, without the empty
ones, or by its position when all are empty.  The id decides which document a record overwrites, so
the question is whether two different records can have one id.  They can, in four ways, and
`derived_ids_distinct_iff` says that these are all.

* A position is spelled like a name: a record without any, and one named like the position of the
  first.
* A field stands alone in the place of another, since the empty ones are left out before joining.
* A colon inside the only field of one record is the separator of the other.
* A text stands behind the separator in one record and before it in the other, with a colon on its
  other side.

The theorem is an equivalence over all pairs of a list, so each way of clashing is also a way of
really sharing an id.  Its core is a statement about texts only: when two joined texts are equal
and the parts are not, a colon of one side is the separator of the other (`colon_split`).

Only records of ONE kind are compared; the type of a document stands in its id, before the label.
Jobs and backups are identified by the API and are not covered.
-/
import BackupCollector.Processors.NetworkerDocuments
import BackupCollector.Py.Sha256

namespace BackupCollector

open Py

/-! ## 1. Labels

The part of an id that depends on the record: its parts that are there, or its position. -/

/-- The parts of an identity that are there. -/
def presentParts (identity : List Str) : List Str := identity.filter (!·.isEmpty)

/-- The text that stands for an identity at a position of its list. -/
def label (position : Nat) (identity : List Str) : Str :=
  if (presentParts identity).isEmpty then Str.ofNat position else Str.join ":" (presentParts identity)

/-- How the identity `x` at position `n` and a different identity `y` of the list come to the same
label. -/
inductive Overlaps (n : Nat) (x y : List Str) : Prop where
  /-- The first is empty, and the second is spelled like its position. -/
  | position (hx : presentParts x = []) (hy : Str.join ":" (presentParts y) = Str.ofNat n)
  /-- Both have the same single part, in different places. -/
  | moved (s : Str) (hne : x ≠ y) (hx : presentParts x = [s]) (hy : presentParts y = [s])
  /-- The only part of the first is both parts of the second with the separator. -/
  | absorbed (a b : Str) (hx : presentParts x = [a ++ lit ":" ++ b]) (hy : presentParts y = [a, b])
  /-- A text stands behind the separator in the first and before it in the second. -/
  | shifted (a b c : Str) (hx : presentParts x = [a, c ++ lit ":" ++ b]) (hy : presentParts y = [a ++ lit ":" ++ c, b])

/-- Two identities at their positions clash, in one of the four ways and in either order. -/
def Clash (i : Nat) (x : List Str) (j : Nat) (y : List Str) : Prop := Overlaps i x y ∨ Overlaps j y x

theorem ofNat_ne_nil (n : Nat) : Str.ofNat n ≠ [] := by
  unfold Str.ofNat
  rw [ne_eq, List.map_eq_nil_iff]
  exact Nat.toDigits_ne_nil

theorem ne_nil_of_present {identity : List Str} {s : Str} (h : s ∈ presentParts identity) : s ≠ [] := by
  have hpresent := List.of_mem_filter h
  simpa using hpresent

theorem label_of_present {position : Nat} {identity : List Str} (h : presentParts identity ≠ []) :
    label position identity = Str.join ":" (presentParts identity) :=
  if_neg (by simpa using h)

theorem label_of_empty {position : Nat} {identity : List Str} (h : presentParts identity = []) :
    label position identity = Str.ofNat position :=
  if_pos (by rw [h]; rfl)

/-- An identity of at most two fields has at most two parts. -/
theorem present_cases {identity : List Str} (h : identity.length ≤ 2) :
    presentParts identity = [] ∨ (∃ s, presentParts identity = [s]) ∨ ∃ a b, presentParts identity = [a, b] := by
  have hle : (presentParts identity).length ≤ 2 := (List.length_filter_le _ _).trans h
  match hp : presentParts identity with
  | [] => exact Or.inl rfl
  | [s] => exact Or.inr (Or.inl ⟨s, rfl⟩)
  | [a, b] => exact Or.inr (Or.inr ⟨a, b, rfl⟩)
  | a :: b :: c :: rest =>
    rw [hp] at hle
    simp at hle

/-- What is all there is the identity itself. -/
theorem eq_of_present {identity parts : List Str} (h : presentParts identity = parts)
    (hlen : parts.length = identity.length) : identity = parts := by
  rw [← h] at hlen ⊢
  exact (List.filter_eq_self.mpr (List.length_filter_eq_length_iff.mp hlen)).symm

theorem eq_of_empty {x y : List Str} (hlen : x.length = y.length) (hx : presentParts x = []) (hy : presentParts y = []) :
    x = y := by
  have hall : ∀ z : List Str, presentParts z = [] → z = List.replicate z.length [] := by
    intro z hz
    refine List.eq_replicate_iff.mpr ⟨rfl, fun s hs => ?_⟩
    have hnot := List.filter_eq_nil_iff.mp hz s hs
    simpa using hnot
  rw [hall x hx, hall y hy, hlen]

/-- Two texts split by a colon in two ways: a colon of one side is the separator of the other. -/
theorem colon_split {a b c d : Str} (h : a ++ lit ":" ++ b = c ++ lit ":" ++ d) :
    (a = c ∧ b = d) ∨ (∃ t, c = a ++ lit ":" ++ t ∧ b = t ++ lit ":" ++ d) ∨
      ∃ t, a = c ++ lit ":" ++ t ∧ d = t ++ lit ":" ++ b := by
  have hcolon : lit ":" = [chr ':'] := rfl
  rw [hcolon] at h ⊢
  simp only [List.append_assoc, List.singleton_append] at h ⊢
  rcases List.append_eq_append_iff.mp h with ⟨t, rfl, hb⟩ | ⟨t, rfl, hd⟩
  · cases t with
    | nil =>
      rw [List.nil_append, List.cons.injEq] at hb
      exact Or.inl ⟨(List.append_nil a).symm, hb.2⟩
    | cons e t =>
      rw [List.cons_append, List.cons.injEq] at hb
      obtain ⟨rfl, rfl⟩ := hb
      exact Or.inr (Or.inl ⟨t, rfl, rfl⟩)
  · cases t with
    | nil =>
      rw [List.nil_append, List.cons.injEq] at hd
      exact Or.inl ⟨List.append_nil c, hd.2.symm⟩
    | cons e t =>
      rw [List.cons_append, List.cons.injEq] at hd
      obtain ⟨rfl, rfl⟩ := hd
      exact Or.inr (Or.inr ⟨t, rfl, rfl⟩)

theorem Overlaps.label_eq {i : Nat} {x y : List Str} (h : Overlaps i x y) (j : Nat) : label i x = label j y := by
  cases h with
  | position hx hy =>
    have hne : presentParts y ≠ [] := by
      intro he
      rw [he] at hy
      exact ofNat_ne_nil i hy.symm
    rw [label_of_empty hx, label_of_present hne, hy]
  | moved s _ hx hy => rw [label_of_present (by simp [hx]), label_of_present (by simp [hy]), hx, hy]
  | absorbed a b hx hy =>
    rw [label_of_present (by simp [hx]), label_of_present (by simp [hy]), hx, hy]
    rfl
  | shifted a b c hx hy =>
    rw [label_of_present (by simp [hx]), label_of_present (by simp [hy]), hx, hy]
    simp [Str.join]

/-- Two different identities have the same label exactly when they clash. -/
theorem label_eq_iff {i j : Nat} {x y : List Str} (hlen : x.length = y.length) (htwo : x.length ≤ 2) (hne : x ≠ y) :
    label i x = label j y ↔ Clash i x j y := by
  constructor
  · intro h
    rcases present_cases htwo with hx | ⟨s, hx⟩ | ⟨a, b, hx⟩ <;>
      rcases present_cases (hlen ▸ htwo) with hy | ⟨t, hy⟩ | ⟨c, d, hy⟩
    · exact absurd (eq_of_empty hlen hx hy) hne
    · rw [label_of_empty hx, label_of_present (by simp [hy])] at h
      exact Or.inl (.position hx h.symm)
    · rw [label_of_empty hx, label_of_present (by simp [hy])] at h
      exact Or.inl (.position hx h.symm)
    · rw [label_of_empty hy, label_of_present (by simp [hx])] at h
      exact Or.inr (.position hy h)
    · rw [label_of_present (by simp [hx]), label_of_present (by simp [hy]), hx, hy] at h
      obtain rfl : s = t := h
      exact Or.inl (.moved s hne hx hy)
    · rw [label_of_present (by simp [hx]), label_of_present (by simp [hy]), hx, hy] at h
      obtain rfl : s = c ++ lit ":" ++ d := h
      exact Or.inl (.absorbed c d hx hy)
    · rw [label_of_empty hy, label_of_present (by simp [hx])] at h
      exact Or.inr (.position hy h)
    · rw [label_of_present (by simp [hx]), label_of_present (by simp [hy]), hx, hy] at h
      obtain rfl : a ++ lit ":" ++ b = t := h
      exact Or.inr (.absorbed a b hy hx)
    · rw [label_of_present (by simp [hx]), label_of_present (by simp [hy]), hx, hy] at h
      have hlenx : x.length = 2 := le_antisymm htwo (by
        have hle := List.length_filter_le (fun s : Str => !s.isEmpty) x
        change (presentParts x).length ≤ _ at hle
        rw [hx] at hle
        exact hle)
      rcases colon_split h with ⟨rfl, rfl⟩ | ⟨u, rfl, rfl⟩ | ⟨u, rfl, rfl⟩
      · exact absurd ((eq_of_present hx hlenx.symm).trans (eq_of_present hy (hlen ▸ hlenx.symm)).symm) hne
      · exact Or.inl (.shifted a d u hx hy)
      · exact Or.inr (.shifted c b u hy hx)
  · rintro (h | h)
    · exact h.label_eq j
    · exact (h.label_eq i).symm

theorem Overlaps.ne {n : Nat} {x y : List Str} (h : Overlaps n x y) : x ≠ y := by
  rintro rfl
  cases h with
  | position hx hy =>
    rw [hx] at hy
    exact ofNat_ne_nil n hy.symm
  | moved s hne => exact hne rfl
  | absorbed a b hx hy =>
    rw [hx] at hy
    exact absurd (congrArg List.length hy) (by simp)
  | shifted a b c hx hy =>
    rw [hx] at hy
    have hlen := congrArg List.length (List.cons.inj hy).1
    simp only [List.length_append] at hlen
    have hcolon : (lit ":").length = 1 := rfl
    omega

theorem Clash.ne {i j : Nat} {x y : List Str} (h : Clash i x j y) : x ≠ y := h.elim Overlaps.ne fun h => h.ne.symm

/-! ## 2. Documents

The labels are taken back to the records of a payload and to their documents. -/

section Documents

variable [Unicode]

/-- What identifies a record: its identifying fields, stripped. -/
def RecordSpec.identityOf (spec : RecordSpec) (record : Obj) : List Str :=
  spec.idFields.map fun field => string (Obj.get record field)

/-- The kinds of record that are identified by their names: clients, policies and workflows. -/
def namedSpecs : List RecordSpec := networkerSpecs.tail

theorem recordId_eq_label (spec : RecordSpec) (record : Obj) (position : Nat) :
    recordId record spec.idFields position = label position (spec.identityOf record) := rfl

omit [Unicode] in
theorem label_ne_nil (position : Nat) (identity : List Str) : label position identity ≠ [] := by
  unfold label
  split
  · exact ofNat_ne_nil position
  · intro h
    match hp : presentParts identity with
    | [] => simp_all
    | [s] =>
      rw [hp] at h
      exact ne_nil_of_present (by rw [hp]; exact List.mem_singleton_self s) h
    | a :: b :: rest =>
      rw [hp] at h
      simp [Str.join, lit] at h

/-- The id of the document of a named record. -/
theorem derived_id_recordDocument (rawDocument : Obj) {spec : RecordSpec} (hspec : spec ∈ namedSpecs) (position : Nat)
    (record : Obj) : Obj.get (recordDocument rawDocument "networker" spec position record) "derived_id" =
      .str (Str.join ":" [Json.toStr (Obj.get rawDocument "collector"), spec.documentType,
        label position (spec.identityOf record), month (Obj.get rawDocument "@timestamp")]) := by
  have hjob : ¬ spec.documentType = lit "job" := by
    unfold namedSpecs networkerSpecs at hspec
    simp only [List.tail_cons, List.mem_cons, List.not_mem_nil, or_false] at hspec
    rcases hspec with rfl | rfl | rfl <;> decide
  have hid : (Json.str (recordId record spec.idFields position)).orElse (.str "unknown") =
      .str (recordId record spec.idFields position) := by
    refine if_pos ?_
    rw [recordId_eq_label]
    simpa [Json.truthy] using label_ne_nil position (spec.identityOf record)
  unfold recordDocument
  dsimp only
  rw [if_neg fun h => hjob h.2.1]
  unfold derivedDocument
  dsimp only
  rw [if_pos rfl, get_update_entity _ _ _ (by decide), hid, recordId_eq_label]
  simp [Obj.get_set, Json.toStr]

/-- Documents of one kind have the same id exactly when their records have the same label. -/
theorem derived_id_eq_iff (rawDocument : Obj) {spec : RecordSpec} (hspec : spec ∈ namedSpecs) (p q : Nat × Obj) :
    Obj.get (recordDocument rawDocument "networker" spec p.1 p.2) "derived_id" =
        Obj.get (recordDocument rawDocument "networker" spec q.1 q.2) "derived_id" ↔
      label p.1 (spec.identityOf p.2) = label q.1 (spec.identityOf q.2) := by
  rw [derived_id_recordDocument rawDocument hspec, derived_id_recordDocument rawDocument hspec]
  constructor
  · intro h
    have h := Json.str.inj h
    simp only [Str.join, List.append_assoc] at h
    replace h := List.append_cancel_left (List.append_cancel_left (List.append_cancel_left (List.append_cancel_left h)))
    exact List.append_cancel_right h
  · intro h
    rw [h]

theorem identityOf_length {spec : RecordSpec} (hspec : spec ∈ namedSpecs) (record : Obj) :
    (spec.identityOf record).length ≤ 2 := by
  unfold RecordSpec.identityOf
  rw [List.length_map]
  unfold namedSpecs networkerSpecs at hspec
  simp only [List.tail_cons, List.mem_cons, List.not_mem_nil, or_false] at hspec
  rcases hspec with rfl | rfl | rfl <;> decide

variable [Hashlib]

/-- Every record of the named kinds has its document. -/
theorem recordDocument_mem (rawDocument payload : Obj) {spec : RecordSpec} (hspec : spec ∈ namedSpecs) {p : Nat × Obj}
    (hp : p ∈ indexedRecords payload spec.payloadKey) :
    recordDocument rawDocument "networker" spec p.1 p.2 ∈ (iterNetworkerDocuments rawDocument payload).items := by
  unfold iterNetworkerDocuments
  rw [Gen.andThen_of_ok rfl]
  refine List.mem_append_left _ (List.mem_flatMap.mpr ⟨spec, List.mem_of_mem_tail hspec, ?_⟩)
  exact List.mem_map.mpr ⟨p, hp, rfl⟩

/-- **Records of a named kind that differ in their identifying fields have different documents
exactly when no two of them clash.**  Records that agree in all of them share a document by
design. -/
theorem derived_ids_distinct_iff (rawDocument payload : Obj) :
    (∀ spec ∈ namedSpecs, ∀ p ∈ indexedRecords payload spec.payloadKey, ∀ q ∈ indexedRecords payload spec.payloadKey,
      spec.identityOf p.2 ≠ spec.identityOf q.2 →
      ∃ d ∈ (iterNetworkerDocuments rawDocument payload).items, ∃ e ∈ (iterNetworkerDocuments rawDocument payload).items,
        d = recordDocument rawDocument "networker" spec p.1 p.2 ∧
        e = recordDocument rawDocument "networker" spec q.1 q.2 ∧ Obj.get d "derived_id" ≠ Obj.get e "derived_id") ↔
      ∀ spec ∈ namedSpecs, ∀ p ∈ indexedRecords payload spec.payloadKey,
        ∀ q ∈ indexedRecords payload spec.payloadKey,
        ¬ Clash p.1 (spec.identityOf p.2) q.1 (spec.identityOf q.2) := by
  constructor
  · intro h spec hspec p hp q hq hclash
    obtain ⟨_, -, _, -, rfl, rfl, hids⟩ := h spec hspec p hp q hq hclash.ne
    refine hids ((derived_id_eq_iff rawDocument hspec p q).mpr ?_)
    exact (label_eq_iff (by simp [RecordSpec.identityOf]) (identityOf_length hspec p.2) hclash.ne).mpr hclash
  · intro h spec hspec p hp q hq hne
    refine ⟨_, recordDocument_mem rawDocument payload hspec hp, _, recordDocument_mem rawDocument payload hspec hq, rfl, rfl,
      fun hids => h spec hspec p hp q hq ?_⟩
    exact (label_eq_iff (by simp [RecordSpec.identityOf]) (identityOf_length hspec p.2) hne).mp
      ((derived_id_eq_iff rawDocument hspec p q).mp hids)

end Documents

section OnePayload

attribute [local instance] Unicode.ascii Hashlib.hashlib

/-- Two workflows: `C` of the policy `A:B`, and `B:C` of the policy `A`. -/
def colonPayload : Obj := [("workflows", .arr [
  .obj [("policy_name", .str "A:B"), ("workflow_name", .str "C")],
  .obj [("policy_name", .str "A"), ("workflow_name", .str "B:C")]])]

def colonRaw : Obj := [("collector", .str "networker_core"), ("@timestamp", .str "2026-01-05T00:00:00+00:00")]

/-- The two workflows share one document id. -/
theorem colon_workflows_share : ¬ ∀ spec ∈ namedSpecs, ∀ p ∈ indexedRecords colonPayload spec.payloadKey,
    ∀ q ∈ indexedRecords colonPayload spec.payloadKey, spec.identityOf p.2 ≠ spec.identityOf q.2 →
    ∃ d ∈ (iterNetworkerDocuments colonRaw colonPayload).items, ∃ e ∈ (iterNetworkerDocuments colonRaw colonPayload).items,
      d = recordDocument colonRaw "networker" spec p.1 p.2 ∧ e = recordDocument colonRaw "networker" spec q.1 q.2 ∧
      Obj.get d "derived_id" ≠ Obj.get e "derived_id" := by
  intro h
  obtain ⟨_, -, _, -, rfl, rfl, hids⟩ := h ⟨"workflow", "workflows", ["policy_name", "workflow_name"]⟩ (by simp [namedSpecs, networkerSpecs])
    (0, [("policy_name", .str "A:B"), ("workflow_name", .str "C")]) (by decide +kernel)
    (1, [("policy_name", .str "A"), ("workflow_name", .str "B:C")]) (by decide +kernel) (by decide +kernel)
  exact hids (by decide +kernel)

end OnePayload

end BackupCollector
