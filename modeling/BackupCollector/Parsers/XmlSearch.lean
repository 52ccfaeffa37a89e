/-
# What a search finds in an XML response

Some endpoints of the library answer in XML. `_xml_to_obj` makes a dictionary of an element: it
keeps the only child of a name as it is and collects several into a list, so the SHAPE of a
response depends on how many there are.  `_find_values` looks through both shapes, and the question
is whether the two fit together.

They do.  A search finds the content of every element of the name, at any depth, once and no more
(`findValues_xmlToObj`).  The order is not that of the document, since a child that joins an
earlier one of its name is found with it; so the statement is about multisets, as permutations of
lists.

From this follow the counts: media and tickets are as many as their elements.  Segments are not
counted but added up, each by its size, and an element without children becomes a text and has no
size to give (`slots`).

The induction is over the tree, and within an element over its children, with `mergeChild` as the
step.  What makes it go through is `IsMerged`: the dictionary being built never holds anything but
one content or a list of several.

Attributes and tails of an element are no part of `_xml_to_obj`, and no part of the model.
-/
import BackupCollector.Parsers.I6000Rest

namespace BackupCollector.I6000

open Py

section Search

variable [Unicode]

/-! ## 1. One entry

What a search finds in a dictionary is what it finds in its entries, one after another. -/

/-- What one entry of a dictionary adds to a search. -/
def foundIn (k key : Str) (value : Json) : List Json :=
  (if Str.lower key = Str.lower k then asList value else []) ++ findValues k value

theorem findInEntries_cons (k key : Str) (value : Json) (entries : Obj) :
    findInEntries k ((key, value) :: entries) = foundIn k key value ++ findInEntries k entries := rfl

theorem findInEntries_append (k : Str) (a b : Obj) :
    findInEntries k (a ++ b) = findInEntries k a ++ findInEntries k b := by
  induction a with
  | nil => rfl
  | cons p a ih =>
    obtain ⟨key, value⟩ := p
    rw [List.cons_append, findInEntries_cons, findInEntries_cons, ih, List.append_assoc]

theorem findInItems_append (k : Str) (a b : List Json) :
    findInItems k (a ++ b) = findInItems k a ++ findInItems k b := by
  induction a with
  | nil => rfl
  | cons x a ih => rw [List.cons_append, findInItems, findInItems, ih, List.append_assoc]

/-! ## 2. Merging a child

A first child of a name sets a key, a second makes a list of the two, a further one joins the list.
Each adds its own finds and takes none away. -/

/-- What `_xml_to_obj` builds for an element: a text or a dictionary. -/
def IsContent (value : Json) : Prop := (∃ text, value = .str text) ∨ ∃ entries, value = .obj entries

omit [Unicode] in
theorem content_isContent (element : Element) : IsContent element.content := by
  cases element with
  | mk tag text children =>
    cases children with
    | nil => exact Or.inl ⟨_, rfl⟩
    | cons child children => exact Or.inr ⟨_, rfl⟩

omit [Unicode] in
theorem IsContent.asList_eq {value : Json} (h : IsContent value) : asList value = [value] := by
  rcases h with ⟨text, rfl⟩ | ⟨entries, rfl⟩ <;> rfl

/-- A value of the dictionary being built: one content, or a list of several. -/
def IsMerged (value : Json) : Prop := IsContent value ∨ ∃ values, value = .arr values

/-- A second content of a name joins the first. -/
theorem foundIn_second {first value : Json} (hfirst : IsContent first) (hvalue : IsContent value) (k key : Str) :
    (foundIn k key (.arr [first, value])).Perm (foundIn k key first ++ foundIn k key value) := by
  have hitems : findValues k (.arr [first, value]) = findValues k first ++ findValues k value := by
    simp [findValues, findInItems]
  unfold foundIn
  rw [hitems, hfirst.asList_eq, hvalue.asList_eq]
  split
  · refine List.Perm.cons first ?_
    change (value :: (findValues k first ++ findValues k value)).Perm
      (findValues k first ++ value :: findValues k value)
    exact List.perm_middle.symm
  · exact List.Perm.refl _

/-- A further content of a name joins the list. -/
theorem foundIn_further {values : List Json} {value : Json} (hvalue : IsContent value) (k key : Str) :
    (foundIn k key (.arr (values ++ [value]))).Perm (foundIn k key (.arr values) ++ foundIn k key value) := by
  have hitems : findValues k (.arr (values ++ [value])) = findValues k (.arr values) ++ findValues k value := by
    rw [findValues, findInItems_append]
    simp [findValues, findInItems]
  unfold foundIn
  rw [hitems, hvalue.asList_eq]
  split
  · change (values ++ [value] ++ (findValues k (.arr values) ++ findValues k value)).Perm
      (values ++ findValues k (.arr values) ++ ([value] ++ findValues k value))
    rw [List.append_assoc, List.append_assoc]
    refine List.Perm.append_left values ?_
    change (value :: (findValues k (.arr values) ++ findValues k value)).Perm
      (findValues k (.arr values) ++ value :: findValues k value)
    exact List.perm_middle.symm
  · exact List.Perm.refl _

/-- Setting a key that is there changes what its entry adds. -/
theorem findInEntries_set {data : Obj} {key : Str} {first value : Json} (h : Dict.get? data key = some first) (k : Str)
    {added : List Json} (hperm : (foundIn k key value).Perm (foundIn k key first ++ added)) :
    (findInEntries k (Dict.set data key value)).Perm (findInEntries k data ++ added) := by
  induction data with
  | nil => cases h
  | cons p data ih =>
    obtain ⟨key', value'⟩ := p
    rw [Dict.get?_cons] at h
    unfold Dict.set
    split at h
    · rename_i hkey
      obtain rfl := Option.some.inj h
      rw [if_pos hkey, findInEntries_cons, findInEntries_cons, hkey]
      refine (hperm.append_right (findInEntries k data)).trans ?_
      rw [List.append_assoc, List.append_assoc]
      exact List.perm_append_comm.append_left _
    · rename_i hkey
      rw [if_neg hkey, findInEntries_cons, findInEntries_cons, List.append_assoc]
      exact (ih h).append_left _

omit [Unicode] in
theorem set_of_get?_none {data : Obj} {key : Str} (h : Dict.get? data key = none) (value : Json) :
    Dict.set data key value = data ++ [(key, value)] := by
  induction data with
  | nil => rfl
  | cons p data ih =>
    obtain ⟨key', value'⟩ := p
    rw [Dict.get?_cons] at h
    split at h
    · cases h
    · rename_i hkey
      unfold Dict.set
      rw [if_neg hkey, ih h]
      rfl

/-- One more child adds its own finds. -/
theorem findInEntries_mergeChild {data : Obj} (hdata : ∀ p ∈ data, IsMerged p.2) {value : Json} (hvalue : IsContent value)
    (k key : Str) : (findInEntries k (mergeChild data key value)).Perm (findInEntries k data ++ foundIn k key value) := by
  unfold mergeChild
  split
  · rename_i values h
    exact findInEntries_set h k (foundIn_further hvalue k key)
  · rename_i first hlist h
    have hfirst : IsContent first := by
      rcases hdata _ (Dict.mem_of_get? h) with hcontent | ⟨values, hvalues⟩
      · exact hcontent
      · exact absurd hvalues (hlist values)
    exact findInEntries_set h k (foundIn_second hfirst hvalue k key)
  · rename_i h
    rw [set_of_get?_none h, findInEntries_append, findInEntries_cons]
    simp [findInEntries]

omit [Unicode] in
theorem mergeChild_merged {data : Obj} (hdata : ∀ p ∈ data, IsMerged p.2) {value : Json} (hvalue : IsContent value)
    (key : Str) : ∀ p ∈ mergeChild data key value, IsMerged p.2 := by
  intro p hp
  unfold mergeChild at hp
  split at hp
  · rcases Dict.mem_set hp with hp | rfl
    · exact hdata p hp
    · exact Or.inr ⟨_, rfl⟩
  · rcases Dict.mem_set hp with hp | rfl
    · exact hdata p hp
    · exact Or.inr ⟨_, rfl⟩
  · rcases Dict.mem_set hp with hp | rfl
    · exact hdata p hp
    · exact Or.inl hvalue

/-- All children add their own finds. -/
theorem findInEntries_mergeChildren (k : Str) (children : List Element) {data : Obj} (hdata : ∀ p ∈ data, IsMerged p.2) :
    (findInEntries k (Element.mergeChildren data children)).Perm
      (findInEntries k data ++ children.flatMap fun child => foundIn k child.localName child.content) := by
  induction children generalizing data with
  | nil =>
    rw [Element.mergeChildren, List.flatMap_nil, List.append_nil]
  | cons child children ih =>
    have hchild := content_isContent child
    rw [Element.mergeChildren, List.flatMap_cons, ← List.append_assoc]
    exact (ih (mergeChild_merged hdata hchild _)).trans ((findInEntries_mergeChild hdata hchild k _).append_right _)

/-! ## 3. The tree

The contents of a name, read off the tree, against what the search finds in the dictionary. -/

/-- The contents of the elements of a name. -/
def contentsNamed (k : Str) (elements : List Element) : List Json :=
  (elements.filter fun element => decide (Str.lower element.localName = Str.lower k)).map Element.content

theorem contentsNamed_append (k : Str) (a b : List Element) :
    contentsNamed k (a ++ b) = contentsNamed k a ++ contentsNamed k b := by
  simp [contentsNamed]

mutual

/-- The entry of an element adds the contents of the name in its tree. -/
theorem foundIn_element (k : Str) : ∀ element : Element,
    (foundIn k element.localName element.content).Perm (contentsNamed k element.elements)
  | .mk tag text children => by
    have hchildren : (findValues k (Element.mk tag text children).content).Perm
        (contentsNamed k (Element.allElements children)) := by
      cases children with
      | nil => exact List.Perm.refl _
      | cons child children =>
        have hmerged := findInEntries_mergeChildren k (child :: children) (fun p (hp : p ∈ ([] : Obj)) => (nomatch hp))
        exact hmerged.trans (foundIn_children k (child :: children))
    have hroot : contentsNamed k (Element.mk tag text children).elements =
        (if Str.lower (Element.mk tag text children).localName = Str.lower k then
          [(Element.mk tag text children).content] else []) ++ contentsNamed k (Element.allElements children) := by
      rw [Element.elements, contentsNamed, List.filter_cons]
      split <;> simp_all [contentsNamed]
    unfold foundIn
    rw [hroot, (content_isContent _).asList_eq]
    exact hchildren.append_left _

/-- So do the entries of its children. -/
theorem foundIn_children (k : Str) : ∀ children : List Element,
    (children.flatMap fun child => foundIn k child.localName child.content).Perm
      (contentsNamed k (Element.allElements children))
  | [] => List.Perm.refl _
  | child :: children => by
    rw [List.flatMap_cons, Element.allElements, contentsNamed_append]
    exact (foundIn_element k child).append (foundIn_children k children)

end

/-- **A search finds the content of every element of its name once.** -/
theorem findValues_xmlToObj (k : Str) (element : Element) :
    (findValues k (.obj (xmlToObj element))).Perm (contentsNamed k element.elements) := by
  have hentry : findValues k (.obj (xmlToObj element)) = foundIn k element.localName element.content := by
    rw [findValues, xmlToObj, findInEntries_cons]
    exact List.append_nil _
  rw [hentry]
  exact foundIn_element k element

/-! ## 4. Counting

The three counts the summary takes from a search. -/

/-- The elements of a tree that a search for a name is about. -/
def elementsNamed (k : Str) (element : Element) : List Element :=
  element.elements.filter fun descendant => decide (Str.lower descendant.localName = Str.lower k)

theorem length_findValues (k : Str) (element : Element) :
    (findValues k (.obj (xmlToObj element))).length = (elementsNamed k element).length := by
  rw [(findValues_xmlToObj k element).length_eq, contentsNamed, List.length_map]
  rfl

/-- The media are counted by their elements. -/
theorem mediaCount_eq (element : Element) :
    mediaCount (.obj (xmlToObj element)) = (elementsNamed "media" element).length :=
  length_findValues "media" element

/-- The tickets are counted by their elements, of either name. -/
theorem ticketCount_eq (element : Element) :
    ticketCount (.obj (xmlToObj element)) =
      (elementsNamed "ticket" element).length + (elementsNamed "rasTicket" element).length := by
  rw [ticketCount, tickets, List.length_append, length_findValues, length_findValues]

/-- The slots a segment element stands for: its size, one without a readable size, and none for an
element that has no children and so becomes a text. -/
def slots (segment : Element) : Int :=
  match segment.content with
  | .obj entries => segmentSize entries
  | _ => 0

theorem sum_segmentSize_contents (segments : List Element) :
    ((dictItems (segments.map Element.content)).map segmentSize).sum = (segments.map slots).sum := by
  induction segments with
  | nil => rfl
  | cons segment segments ih =>
    have hhead : ((dictItems [segment.content]).map segmentSize).sum = slots segment := by
      rcases content_isContent segment with ⟨text, h⟩ | ⟨entries, h⟩
      · rw [slots, h]
        rfl
      · simp [slots, h, dictItems, Json.asObj?]
    have happend : dictItems ((segment :: segments).map Element.content) =
        dictItems [segment.content] ++ dictItems (segments.map Element.content) := by
      simp only [dictItems, ← List.filterMap_append]
      rfl
    rw [happend, List.map_append, List.sum_append, hhead, ih, List.map_cons, List.sum_cons]

/-- The slots of a response are those of its segments. -/
theorem segmentSlotCount_eq (element : Element) :
    segmentSlotCount (.obj (xmlToObj element)) = ((elementsNamed "segment" element).map slots).sum := by
  have hperm := ((findValues_xmlToObj "segment" element).filterMap Json.asObj?).map segmentSize
  exact hperm.sum_eq.trans (sum_segmentSize_contents (elementsNamed "segment" element))

/-- **XML responses are searched without loss.**  A search for a name finds the content of every
element of that name once, so the media and tickets are as many as their elements.  Segments count
for the slots they stand for, which may be more or fewer than there are segments. -/
theorem xml_counted_without_loss (element : Element) :
    (∀ k, (findValues k (.obj (xmlToObj element))).Perm ((elementsNamed k element).map Element.content)) ∧
    mediaCount (.obj (xmlToObj element)) = (elementsNamed "media" element).length ∧
    ticketCount (.obj (xmlToObj element)) =
      (elementsNamed "ticket" element).length + (elementsNamed "rasTicket" element).length ∧
    segmentSlotCount (.obj (xmlToObj element)) = ((elementsNamed "segment" element).map slots).sum :=
  ⟨fun k => findValues_xmlToObj k element, mediaCount_eq element, ticketCount_eq element, segmentSlotCount_eq element⟩

end Search

section Example

attribute [local instance] Unicode.ascii

/-- `<segment><size>5</size></segment>` -/
def sizedSegment : Element := .mk "segment" none [.mk "size" (some "5") []]

/-- One segment of five slots: segments are not counted by their elements. -/
theorem segments_not_counted : ¬ ∀ element : Element,
    (∀ k, (findValues k (.obj (xmlToObj element))).Perm ((elementsNamed k element).map Element.content)) ∧
    mediaCount (.obj (xmlToObj element)) = (elementsNamed "media" element).length ∧
    ticketCount (.obj (xmlToObj element)) =
      (elementsNamed "ticket" element).length + (elementsNamed "rasTicket" element).length ∧
    segmentSlotCount (.obj (xmlToObj element)) = (elementsNamed "segment" element).length := by
  intro h
  have hslots : segmentSlotCount (.obj (xmlToObj sizedSegment)) = 5 := by decide +kernel
  have hone : (elementsNamed "segment" sizedSegment).length = 1 := by decide +kernel
  have hcount := (h sizedSegment).2.2.2
  rw [hslots, hone] at hcount
  omega

end Example

end BackupCollector.I6000
