/-
# The rows of a ZFS collection

Which pool and project a response belongs to is not in the response.  The client writes it into
the key it files the response under, `filesystems:<pool>/<project>`, and the parser reads it off
the key again, cutting at the first slash.  Writer and reader live in two modules of the source
and share no code, so whether they agree is a property of the pair.  Two things could go wrong,
and both are decided here.

* The parser raises on a key of a row kind without a slash.  The client builds none, so only a
  CONFIGURED endpoint with such a name, one that was answered, makes it raise: `parse_of_fetch`
  is the equivalence, for every answer of the storage.
* A pool with a slash in its name would be cut in the wrong place.  Where no pool has one, the
  rows are, as a multiset, the items the projects' own requests were answered: `rows_of_fetch`.
  No item is lost, none is reported twice and none is made up.

Two limits of the second result.  A row carries the pool and the project that its ITEM states,
when it states them; the place it was asked for only fills what the item leaves out (`placeOf`).
And a project that a pool's list names twice is asked about once, the keys being the same, so
the projects are counted without repetition.  The order of the rows is not described.
-/
import BackupCollector.Collectors.ZfsFetch

namespace BackupCollector.ZfsRest

open Py

section Rows

variable [Unicode] {fetch : Stage → Str → Json → Except Str Json}

/-! ## 1. The parser returns

A key of the kinds that hold rows is one the inventory made, with its slash, unless it is a
configured name. -/

/-- What a name of a row kind holds was answered by the inventory, or configured. -/
theorem Fetched.of_rowKind {c : CollectorConfig} {collectionClass : Option CollectionClass}
    {payloads pools projectLists inventory : Obj}
    (h : Fetched fetch c collectionClass payloads pools projectLists inventory) {kind suffix : String}
    (hkind : (kind, suffix) ∈ rowKinds) (text : Str) : Dict.get? payloads (lit kind ++ text) =
      (answer fetch .inventory inventory (lit kind ++ text)).or
        (answer fetch .endpoints (configured c collectionClass) (lit kind ++ text)) := by
  have hknown := mem_kinds_of_rowKind hkind
  have hrow : kind ≠ "pool:" ∧ kind ≠ "projects:" := by
    simp only [rowKinds, List.mem_cons, Prod.mk.injEq, List.not_mem_nil, or_false] at hkind
    rcases hkind with ⟨rfl, -⟩ | ⟨rfl, -⟩
    · decide
    · decide
  have hpools : lit kind ++ text ∉ Dict.keys pools := by
    intro hmem
    obtain ⟨rest, hrest⟩ := h.poolKeys _ hmem
    exact hrow.1 (kind_of_key (by decide) hknown hrest).1.symm
  have hlists : lit kind ++ text ∉ Dict.keys projectLists := by
    intro hmem
    obtain ⟨rest, hrest⟩ := h.projectListKeys _ hmem
    exact hrow.2 (kind_of_key (by decide) hknown hrest).1.symm
  rw [h.answers _ (kind_ne_errorsKey hknown text), answer_of_notMem hpools, answer_of_notMem hlists]
  rfl

/-- The inventory's own keys have the slash. -/
theorem Fetched.slash {c : CollectorConfig} {collectionClass : Option CollectionClass}
    {payloads pools projectLists inventory : Obj}
    (h : Fetched fetch c collectionClass payloads pools projectLists inventory) {kind : String} (hkind : kind ∈ kinds)
    {text : Str} (hanswer : (answer fetch .inventory inventory (lit kind ++ text)).isSome = true) :
    Inventoried collectionClass ∧ inventoryEndpoints (projectsOf payloads) = .ok inventory ∧
      ∃ place ∈ projectsOf payloads, text = place.1 ++ lit "/" ++ place.2 := by
  have hasked : (Dict.get? inventory (lit kind ++ text)).isSome = true := by
    unfold answer at hanswer
    cases hget : Dict.get? inventory (lit kind ++ text) with
    | none =>
      rw [hget] at hanswer
      cases hanswer
    | some v => rfl
  rcases h.inventoried with ⟨hclass, hbuilt⟩ | ⟨-, rfl⟩
  · exact ⟨hclass, hbuilt, place_of_inventory hbuilt hkind hasked⟩
  · cases hasked

theorem Fetched.placed_iff {c : CollectorConfig} {collectionClass : Option CollectionClass}
    {payloads pools projectLists inventory : Obj}
    (h : Fetched fetch c collectionClass payloads pools projectLists inventory)
    (hnodup : (Dict.keys (configured c collectionClass)).Nodup) {kind suffix : String} (hkind : (kind, suffix) ∈ rowKinds) :
    (∀ key ∈ Dict.keys payloads, Placed kind key) ↔
      ∀ p ∈ configured c collectionClass, (fetch .endpoints p.1 p.2).isOk = true → Placed kind p.1 := by
  have hknown := mem_kinds_of_rowKind hkind
  constructor
  · intro hplaced p hp hanswered text htext
    have hkey := afterKind_eq_some.mp htext
    refine hplaced p.1 ?_ text htext
    have hget : (answer fetch .endpoints (configured c collectionClass) p.1).isSome = true := by
      rw [answer, Dict.get?_of_mem hnodup hp, Option.bind_some]
      cases hfetch : fetch .endpoints p.1 p.2 with
      | ok payload => rfl
      | error e =>
        rw [hfetch] at hanswered
        cases hanswered
    rw [← Dict.get?_isSome_iff, hkey, h.of_rowKind hkind, ← hkey, Option.isSome_or, hget, Bool.or_true]
  · intro hconfigured key hmem text htext
    have hkey := afterKind_eq_some.mp htext
    rw [← Dict.get?_isSome_iff, hkey, h.of_rowKind hkind, Option.isSome_or, Bool.or_eq_true] at hmem
    rcases hmem with hmem | hmem
    · obtain ⟨-, -, place, -, rfl⟩ := h.slash hknown hmem
      simp [lit]
    · unfold answer at hmem
      cases hget : Dict.get? (configured c collectionClass) (lit kind ++ text) with
      | none =>
        rw [hget] at hmem
        cases hmem
      | some endpoint =>
        rw [hget, Option.bind_some] at hmem
        refine hconfigured _ (Dict.mem_of_get? hget) ?_ text (afterKind_append kind text)
        cases hfetch : fetch .endpoints (lit kind ++ text) endpoint with
        | ok payload => rfl
        | error e =>
          rw [hfetch] at hmem
          cases hmem

/-- The parser returns when every configured endpoint with an answer that is named like a response
of filesystems or volumes has the slash. -/
theorem Fetched.parses_iff {c : CollectorConfig} {collectionClass : Option CollectionClass}
    {payloads pools projectLists inventory : Obj}
    (h : Fetched fetch c collectionClass payloads pools projectLists inventory)
    (hnodup : (Dict.keys (configured c collectionClass)).Nodup) (fallbackName : Str) :
    (parseZfsRestPayload payloads fallbackName).isOk = true ↔
      ∀ p ∈ configured c collectionClass, (fetch .endpoints p.1 p.2).isOk = true →
        Placed "filesystems:" p.1 ∧ Placed "luns:" p.1 := by
  have hfilesystems : ("filesystems:", "/filesystems") ∈ rowKinds := by decide
  have hluns : ("luns:", "/luns") ∈ rowKinds := by decide
  rw [parseZfsRestPayload_isOk, h.placed_iff hnodup hfilesystems, h.placed_iff hnodup hluns]
  constructor
  · rintro ⟨hf, hl⟩ p hp hanswered
    exact ⟨hf p hp hanswered, hl p hp hanswered⟩
  · intro hall
    exact ⟨fun p hp hanswered => (hall p hp hanswered).1, fun p hp hanswered => (hall p hp hanswered).2⟩

/-- **The parser returns on everything a fetch returned**, unless a configured endpoint with an
answer is named like a response of filesystems or volumes and has no slash; then, and only then,
it raises.  Of the configuration only that its endpoint names are distinct is used, which a
mapping's keys are. -/
theorem parse_of_fetch {c : CollectorConfig} {collectionClass : Option CollectionClass} {payloads : Obj}
    (hnodup : (Dict.keys c.endpoints).Nodup) (h : (fetchPayloads fetch c collectionClass).outcome = .ok payloads)
    (fallbackName : Str) :
    (parseZfsRestPayload payloads fallbackName).isOk = true ↔
      ∀ p ∈ configured c collectionClass, (fetch .endpoints p.1 p.2).isOk = true →
        Placed "filesystems:" p.1 ∧ Placed "luns:" p.1 := by
  obtain ⟨pools, projectLists, inventory, hfetched⟩ := fetched_of_fetchPayloads hnodup h
  exact hfetched.parses_iff (configured_nodup hnodup collectionClass) fallbackName

/-! ## 2. Whose rows

The responses of a row kind among the payloads are paired off with the projects that were asked
and answered.  Both lists are free of repetitions, the first because a dictionary's keys are
distinct, the second because the projects are taken without repetition and a key says which
project it is of; so having the same members they are permutations of each other, and the rows,
made of them response by response, are too. -/

/-- What the request about a project was answered. -/
def responseTo (fetch : Stage → Str → Json → Except Str Json) (kind suffix : String) (place : Str × Str) : Option Json :=
  (projectPath place).toOption.bind fun path => (fetch .inventory (placeKey kind place) (.str (path ++ lit suffix))).toOption

/-- The responses of a kind are those of the projects that were answered. -/
theorem Fetched.mem_responsesOf {c : CollectorConfig} {collectionClass : Option CollectionClass}
    {payloads pools projectLists inventory : Obj}
    (h : Fetched fetch c collectionClass payloads pools projectLists inventory) (hclass : Inventoried collectionClass)
    {kind suffix : String} (hkind : (kind, suffix) ∈ rowKinds)
    (hconfigured : ∀ name ∈ Dict.keys (configured c collectionClass), ¬ lit kind <+: name)
    (hslash : ∀ place ∈ projectsOf payloads, chr '/' ∉ place.1) (text : Str) (response : Json) :
    (text, response) ∈ responsesOf kind payloads ↔ ∃ place ∈ projectsOf payloads,
      responseTo fetch kind suffix place = some response ∧ text = place.1 ++ lit "/" ++ place.2 := by
  have hknown := mem_kinds_of_rowKind hkind
  have hget : Dict.get? payloads (lit kind ++ text) = answer fetch .inventory inventory (lit kind ++ text) := by
    have hnone : lit kind ++ text ∉ Dict.keys (configured c collectionClass) := fun hmem =>
      hconfigured _ hmem (List.prefix_append _ _)
    rw [h.of_rowKind hkind, answer_of_notMem hnone, Option.or_none]
  have hasked : ∀ place ∈ projectsOf payloads, inventoryEndpoints (projectsOf payloads) = .ok inventory →
      (answer fetch .inventory inventory (placeKey kind place) = some response ↔
        responseTo fetch kind suffix place = some response) := by
    intro place hplace hbuilt
    obtain ⟨path, hpath, hentry⟩ := inventoryEndpoints_get? hbuilt hslash hkind hplace
    rw [answer, hentry, responseTo, hpath]
    rfl
  rw [ZfsRest.mem_responsesOf]
  constructor
  · intro hmem
    have hresponse := (hget.symm.trans (Dict.get?_of_mem h.nodup hmem))
    obtain ⟨-, hbuilt, place, hplace, rfl⟩ := h.slash hknown (by rw [hresponse]; rfl)
    exact ⟨place, hplace, (hasked place hplace hbuilt).mp hresponse, rfl⟩
  · rintro ⟨place, hplace, hresponse, rfl⟩
    have hbuilt : inventoryEndpoints (projectsOf payloads) = .ok inventory := by
      rcases h.inventoried with ⟨-, hbuilt⟩ | ⟨hother, -⟩
      · exact hbuilt
      · exact absurd hclass hother
    exact Dict.mem_of_get? (hget.trans ((hasked place hplace hbuilt).mpr hresponse))

omit [Unicode] in
/-- The responses of a dictionary are distinct. -/
theorem responsesOf_nodup {payloads : Obj} (hnodup : (Dict.keys payloads).Nodup) (kind : String) :
    (responsesOf kind payloads).Nodup := by
  refine (List.Nodup.of_map Prod.fst hnodup).filterMap fun p p' r hr hr' => ?_
  obtain ⟨text, htext, hpair⟩ := Option.map_eq_some_iff.mp hr
  obtain ⟨text', htext', hpair'⟩ := Option.map_eq_some_iff.mp hr'
  obtain ⟨hsame, hresponse⟩ := Prod.mk.inj (hpair.trans hpair'.symm)
  refine Prod.ext ?_ hresponse
  rw [afterKind_eq_some.mp htext, afterKind_eq_some.mp htext', hsame]

/-- The projects that were answered, once each, by what the inventory's keys say of them. -/
def answeredProjects (fetch : Stage → Str → Json → Except Str Json) (payloads : Obj) (kind suffix : String) : List (Str × Json) :=
  (projectsOf payloads).dedup.filterMap fun place =>
    (responseTo fetch kind suffix place).map fun response => (place.1 ++ lit "/" ++ place.2, response)

theorem answeredProjects_nodup {payloads : Obj} (hslash : ∀ place ∈ projectsOf payloads, chr '/' ∉ place.1)
    (kind suffix : String) : (answeredProjects fetch payloads kind suffix).Nodup := by
  refine List.pairwise_filterMap.mpr ((List.nodup_dedup _).imp_of_mem fun {place place'} hplace hplace' hne r hr r' hr' => ?_)
  rintro rfl
  obtain ⟨response, -, htext⟩ := Option.map_eq_some_iff.mp hr
  obtain ⟨response', -, htext'⟩ := Option.map_eq_some_iff.mp hr'
  exact hne (place_of_key (hslash place (List.mem_dedup.mp hplace)) (hslash place' (List.mem_dedup.mp hplace'))
    (congrArg Prod.fst (htext.trans htext'.symm)))

/-- The rows of a project: the items its request was answered, each with the project's place to
fall back on. -/
def rowsAsked (fetch : Stage → Str → Json → Except Str Json) (kind suffix : String) (itemKey : Str)
    (row : Str × Str → Obj → Obj) (place : Str × Str) : List Obj :=
  (responseTo fetch kind suffix place).elim [] fun response => (items response itemKey).map (row place)

/-- The rows of a kind are the rows of the projects that were asked about, each project once: the
same rows, as often. -/
def RowsOf (fetch : Stage → Str → Json → Except Str Json) (payloads : Obj) (kind suffix : String) (itemKey : Str)
    (row : Str × Str → Obj → Obj) (rows : List Obj) : Prop :=
  rows.Perm ((projectsOf payloads).dedup.flatMap (rowsAsked fetch kind suffix itemKey row))

/-- The rows of a kind are the items the projects' own requests were answered. -/
theorem Fetched.rowsOf {c : CollectorConfig} {collectionClass : Option CollectionClass}
    {payloads pools projectLists inventory : Obj}
    (h : Fetched fetch c collectionClass payloads pools projectLists inventory) (hclass : Inventoried collectionClass)
    {kind suffix : String} (hkind : (kind, suffix) ∈ rowKinds)
    (hconfigured : ∀ name ∈ Dict.keys (configured c collectionClass), ¬ lit kind <+: name)
    (hslash : ∀ place ∈ projectsOf payloads, chr '/' ∉ place.1) {itemKey : Str} {row : Str × Str → Obj → Obj} {rows : List Obj}
    (hrows : placedRows kind itemKey row payloads = .ok rows) : RowsOf fetch payloads kind suffix itemKey row rows := by
  have hresponses : (responsesOf kind payloads).Perm (answeredProjects fetch payloads kind suffix) := by
    refine (List.perm_ext_iff_of_nodup (responsesOf_nodup h.nodup kind) (answeredProjects_nodup hslash kind suffix)).mpr ?_
    rintro ⟨text, response⟩
    rw [h.mem_responsesOf hclass hkind hconfigured hslash, answeredProjects, List.mem_filterMap]
    simp only [List.mem_dedup, Option.map_eq_some_iff, Prod.mk.injEq]
    constructor
    · rintro ⟨place, hplace, hresponse, rfl⟩
      exact ⟨place, hplace, response, hresponse, rfl, rfl⟩
    · rintro ⟨place, hplace, response', hresponse, rfl, rfl⟩
      exact ⟨place, hplace, hresponse, rfl⟩
  have hread : (answeredProjects fetch payloads kind suffix).flatMap (fun r => rowsUnder itemKey row r.1 r.2) =
      (projectsOf payloads).dedup.flatMap (rowsAsked fetch kind suffix itemKey row) := by
    rw [answeredProjects, List.filterMap_eq_flatMap_toList, List.flatMap_assoc]
    refine List.flatMap_congr fun place hplace => ?_
    have hcut := (poolAndProject_iff place.1 place.2).mpr (hslash place (List.mem_dedup.mp hplace))
    rw [rowsAsked]
    cases responseTo fetch kind suffix place with
    | none => rfl
    | some response =>
      rw [Option.map_some, Option.toList_some, List.flatMap_singleton, rowsUnder, hcut]
      rfl
  rw [RowsOf, ← hread, placedRows_eq hrows]
  exact hresponses.flatMap_right _

/-- **The rows are the items that the projects' own requests were answered**, none lost, none
twice and none made up, in a collection that looks into the projects.  Two conditions on names:
no pool has a slash in its name, and no configured endpoint is named like a response of
filesystems or volumes (its items would be rows too).  An item's own pool and project, where it
states them, replace those it was asked for. -/
theorem rows_of_fetch {c : CollectorConfig} {collectionClass : Option CollectionClass} {payloads : Obj}
    (hnodup : (Dict.keys c.endpoints).Nodup) (h : (fetchPayloads fetch c collectionClass).outcome = .ok payloads)
    (hclass : Inventoried collectionClass)
    (hconfigured : ∀ name ∈ Dict.keys (configured c collectionClass),
      ¬ lit "filesystems:" <+: name ∧ ¬ lit "luns:" <+: name)
    (hslash : ∀ place ∈ projectsOf payloads, chr '/' ∉ place.1) (fallbackName : Str) :
    ∃ parsed, parseZfsRestPayload payloads fallbackName = .ok parsed ∧
      RowsOf fetch payloads "filesystems:" "/filesystems" "filesystems"
        (filesystemRow (deviceName payloads fallbackName)) parsed.filesystems ∧
      RowsOf fetch payloads "luns:" "/luns" "luns" (lunRow (deviceName payloads fallbackName)) parsed.luns := by
  obtain ⟨pools, projectLists, inventory, hfetched⟩ := fetched_of_fetchPayloads hnodup h
  have hreturns : (parseZfsRestPayload payloads fallbackName).isOk = true := by
    rw [hfetched.parses_iff (configured_nodup hnodup collectionClass)]
    intro p hp _
    obtain ⟨hfilesystems, hluns⟩ := hconfigured p.1 (List.mem_map_of_mem hp)
    constructor
    · intro text htext
      exact absurd (afterKind_eq_some.mp htext ▸ List.prefix_append _ _) hfilesystems
    · intro text htext
      exact absurd (afterKind_eq_some.mp htext ▸ List.prefix_append _ _) hluns
  obtain ⟨parsed, hparsed⟩ := isOk_iff.mp hreturns
  obtain ⟨hfilesystems, hluns⟩ := parse_eq_ok hparsed
  refine ⟨parsed, hparsed, ?_, ?_⟩
  · exact hfetched.rowsOf hclass (by decide) (fun name hname => (hconfigured name hname).1) hslash hfilesystems
  · exact hfetched.rowsOf hclass (by decide) (fun name hname => (hconfigured name hname).2) hslash hluns

end Rows

section Example

attribute [local instance] Unicode.ascii

/-- A storage with one pool, one project and one filesystem, whose volumes cannot be read. -/
def tankAnswers : Dict Str Json := [
  ("version", .obj [("version", .obj [("os_nodename", .str "zfs-a")])]),
  ("pools", .obj [("pools", .arr [.obj [("name", .str "tank")]])]),
  ("projects:tank", .obj [("projects", .arr [.obj [("name", .str "home")]])]),
  ("filesystems:tank/home", .obj [("filesystems", .arr [.obj [("name", .str "alice")]])])]

/-- What its requests come to. -/
def tankFetch (_ : Stage) (name : Str) (_ : Json) : Except Str Json :=
  (Dict.get? tankAnswers name).elim (.error "HTTPStatusError: 404 Not Found") .ok

/-- Its collector. -/
def tankCore : CollectorConfig where
  name := "zfs"
  type := "ZFS"
  protocol := "rest"
  enabled := true
  baseUrl := some "https://zfs.example:215"
  username := some "monitor"
  password := some "secret"

/-- What a collection of all of it fetches. -/
def tankPayloads : Obj :=
  let failed : Json := .str "HTTPStatusError: 404 Not Found"
  [tankAnswers[0], tankAnswers[1],
   (errorsKey, .obj [("logs", failed), ("alert_logs", failed), ("fault_logs", failed), ("pool:tank", failed),
     ("project:tank/home", failed), ("luns:tank/home", failed)]),
   tankAnswers[2], tankAnswers[3]]

theorem tank_fetched : (fetchPayloads tankFetch tankCore none).outcome = .ok tankPayloads := by decide +kernel

theorem parse_of_fetch_tank : (parseZfsRestPayload tankPayloads "zfs").isOk = true ↔
    ∀ p ∈ configured tankCore none, (tankFetch .endpoints p.1 p.2).isOk = true → Placed "filesystems:" p.1 ∧ Placed "luns:" p.1 :=
  parse_of_fetch (by decide) tank_fetched "zfs"

theorem rows_of_fetch_tank : ∃ parsed, parseZfsRestPayload tankPayloads "zfs" = .ok parsed ∧
    RowsOf tankFetch tankPayloads "filesystems:" "/filesystems" "filesystems" (filesystemRow (deviceName tankPayloads "zfs"))
      parsed.filesystems ∧
    RowsOf tankFetch tankPayloads "luns:" "/luns" "luns" (lunRow (deviceName tankPayloads "zfs")) parsed.luns :=
  rows_of_fetch (by decide) tank_fetched (Or.inl rfl) (by decide +kernel) (by decide +kernel) "zfs"

end Example

end BackupCollector.ZfsRest
