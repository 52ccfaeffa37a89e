/-
# What a ZFS collection fetches

`fetch_payloads` asks in four stages: the endpoints of the class, the details of the pools the
storage named, the lists of the pools' projects, and three things about each project.  What a
stage was told decides what the next one asks for, and all of it ends in one dictionary, so the
dictionary mixes configured names with names the stages built.  This module says what is under
which name when a fetch has returned; it is what both results about the rows and the account of
the requests rest on.

* A name's payload is what the LAST stage that asked for it and was answered got
  (`Fetched.answers`); a failure leaves nothing under the name, and does not take away what an
  earlier stage put there.
* The names a stage builds start with the stage's kind, `pool:`, `projects:`, `project:`,
  `filesystems:` or `luns:`, and no kind is a prefix of another's names (`kind_of_key`).  So two
  stages can only meet where a CONFIGURED endpoint bears such a name.
* The inventory's keys are `<pool>/<project>` behind the kind.  Two projects can share a key only
  through a slash in a pool's name; without one, each project is asked about under its own key
  (`inventoryEndpoints_get?`).

Nothing is assumed of the storage: the answers are any function of the stage, the name and the
endpoint.
-/
import BackupCollector.Parsers.ZfsRest
import BackupCollector.Collectors.Answers
import BackupCollector.Collectors.ClassRequests
import BackupCollector.Core.Loader

namespace BackupCollector.ZfsRest

open Py

/-! ## 1. What a stage answers

`_merge_fetch_result` writes the payloads of a stage over what is there and joins the failures
under their key.  Every name but that key therefore follows one rule: the new answer if there is
one, else what was there. -/

/-- Merging keeps what was there, and takes what was fetched before it. -/
theorem mergeFetchResult_get? {payloads fetched merged : Obj} (hnodup : (Dict.keys fetched).Nodup)
    (h : mergeFetchResult payloads fetched = .ok merged) {k : Str} (hk : k ≠ errorsKey) :
    Dict.get? merged k = (Dict.get? fetched k).or (Dict.get? payloads k) := by
  have hupdate : Dict.get? (Dict.update payloads (fetched.filter fun p => decide (p.1 ≠ errorsKey))) k =
      (Dict.get? fetched k).or (Dict.get? payloads k) := by
    have hfiltered : (Dict.keys (fetched.filter fun p => decide (p.1 ≠ errorsKey))).Nodup :=
      hnodup.sublist (List.filter_sublist.map Prod.fst)
    rw [Dict.get?_update, Dict.lastWrite_of_nodup hfiltered, Dict.get?_filter hnodup]
    cases Dict.get? fetched k with
    | none => rfl
    | some v => simp [Option.filter, hk]
  unfold mergeFetchResult at h
  dsimp only at h
  split at h
  · rw [← Except.ok.inj h]
    exact hupdate
  · split at h
    · rw [← Except.ok.inj h, Dict.get?_set_ne _ _ (Ne.symm hk)]
      exact hupdate
    · rw [← Except.ok.inj h, Dict.get?_set_ne _ _ (Ne.symm hk)]
      exact hupdate
    · cases h

section Stages

variable [Unicode] {fetch : Stage → Str → Json → Except Str Json}

/-- What a stage answers to its endpoints. -/
def answer (fetch : Stage → Str → Json → Except Str Json) (stage : Stage) (endpoints : Obj) (k : Str) : Option Json :=
  (Dict.get? endpoints k).bind fun v => (fetch stage k v).toOption

omit [Unicode] in
/-- After a stage a name has the stage's answer, or what it had before. -/
theorem fetchStage_get? {stage : Stage} {before after : Obj} {built : Except Err Obj}
    (hnodup : ∀ endpoints, built = .ok endpoints → (Dict.keys endpoints).Nodup)
    (h : (fetchStage fetch stage before built).outcome = .ok after) : ∃ endpoints, built = .ok endpoints ∧
      ∀ k, k ≠ errorsKey → Dict.get? after k = (answer fetch stage endpoints k).or (Dict.get? before k) := by
  obtain ⟨endpoints, hbuilt, h⟩ := Requests.outcome_bind.mp h
  obtain ⟨fetched, hfetched, h⟩ := Requests.outcome_bind.mp h
  refine ⟨endpoints, hbuilt, fun k hk => ?_⟩
  have hdistinct := hnodup endpoints hbuilt
  rw [mergeFetchResult_get? (fetchNamed_nodup hdistinct hfetched) h hk, fetchNamed_get? hdistinct hfetched hk]
  rfl

/-! ## 2. The requests of the inventory

Three keys are made of each project.  Where no pool has a slash in its name two projects never
share one, so every project has its own requests. -/

/-- `project_path` -/
def projectPath (place : Str × Str) : Except Err Str := do
  let path ← poolPath place.1
  let quoted ← quote place.2
  return path ++ lit "/projects/" ++ quoted

/-- What is asked about a project. -/
def projectEntries (place : Str × Str) (path : Str) : List (Str × Json) := [
  (placeKey "project:" place, .str path),
  (placeKey "filesystems:" place, .str (path ++ lit "/filesystems")),
  (placeKey "luns:" place, .str (path ++ lit "/luns"))]

omit [Unicode] in
/-- The endpoints of the inventory are the entries of the projects, written one after the other. -/
theorem inventoryEndpoints_written {projects : List (Str × Str)} {endpoints : Obj}
    (h : inventoryEndpoints projects = .ok endpoints) : ∃ entries,
      List.Forall₂ (fun place ws => ∃ path, projectPath place = .ok path ∧ ws = projectEntries place path) projects entries ∧
        endpoints = Dict.written entries.flatten := by
  have hloop : inventoryEndpoints projects = projects.foldlM (fun endpoints place => do
      let ws ← (projectPath place).map (projectEntries place)
      return Dict.update endpoints ws) [] := by
    unfold inventoryEndpoints
    congr 1
    funext endpoints place
    unfold projectPath
    cases poolPath place.1 with
    | error e => rfl
    | ok path =>
      cases quote place.2 with
      | error e => rfl
      | ok quoted => rfl
  rw [hloop] at h
  obtain ⟨entries, hentries, rfl⟩ := Dict.foldlM_update h
  refine ⟨entries, hentries.imp fun place ws hws => ?_, rfl⟩
  obtain ⟨path, hpath, rfl⟩ := map_eq_ok.mp hws
  exact ⟨path, hpath, rfl⟩

omit [Unicode] in
/-- Without slashes in the pools' names a key says which project it is of. -/
theorem place_of_key {place place' : Str × Str} (hslash : chr '/' ∉ place.1) (hslash' : chr '/' ∉ place'.1)
    (h : place.1 ++ lit "/" ++ place.2 = place'.1 ++ lit "/" ++ place'.2) : place = place' := by
  have hplace := (poolAndProject_iff place.1 place.2).mpr hslash
  rw [h, (poolAndProject_iff place'.1 place'.2).mpr hslash'] at hplace
  exact (Except.ok.inj hplace).symm

/-- The kinds of the keys the stages build. -/
def kinds : List String := ["pool:", "projects:", "project:", "filesystems:", "luns:"]

omit [Unicode] in
/-- A key is of one kind only. -/
theorem kind_of_key {kind kind' : String} (hkind : kind ∈ kinds) (hkind' : kind' ∈ kinds) {text text' : Str}
    (h : lit kind ++ text = lit kind' ++ text') : kind = kind' ∧ text = text' := by
  have hnested : ∀ a ∈ kinds, ∀ b ∈ kinds, lit a <+: lit b → a = b := by decide
  have hprefix : lit kind <+: lit kind' ++ text' := h ▸ List.prefix_append _ _
  have hsame : kind = kind' := by
    rcases List.prefix_or_prefix_of_prefix hprefix (List.prefix_append _ _) with hle | hle
    · exact hnested kind hkind kind' hkind' hle
    · exact (hnested kind' hkind' kind hkind hle).symm
  subst hsame
  exact ⟨rfl, List.append_cancel_left h⟩

/-- The two kinds of responses that hold rows, and what their request adds to the project's path. -/
def rowKinds : List (String × String) := [("filesystems:", "/filesystems"), ("luns:", "/luns")]

omit [Unicode] in
theorem mem_kinds_of_rowKind {kind suffix : String} (h : (kind, suffix) ∈ rowKinds) : kind ∈ kinds := by
  simp only [rowKinds, List.mem_cons, Prod.mk.injEq, List.not_mem_nil, or_false] at h
  rcases h with ⟨rfl, -⟩ | ⟨rfl, -⟩
  · decide
  · decide

omit [Unicode] in
/-- An entry under the key of a project is of a project with that key, and asks for its kind. -/
theorem entry_of_key {place place' : Str × Str} {path : Str} {w : Str × Json} {kind suffix : String}
    (hkind : (kind, suffix) ∈ rowKinds) (hw : w ∈ projectEntries place path) (hkey : w.1 = placeKey kind place') :
    place.1 ++ lit "/" ++ place.2 = place'.1 ++ lit "/" ++ place'.2 ∧ w.2 = .str (path ++ lit suffix) := by
  have hknown := mem_kinds_of_rowKind hkind
  simp only [rowKinds, List.mem_cons, Prod.mk.injEq, List.not_mem_nil, or_false] at hkind
  simp only [projectEntries, List.mem_cons, List.not_mem_nil, or_false] at hw
  rcases hw with rfl | rfl | rfl
  · obtain ⟨rfl, -⟩ := kind_of_key (by decide) hknown hkey
    rcases hkind with ⟨h, -⟩ | ⟨h, -⟩
    · exact absurd h (by decide)
    · exact absurd h (by decide)
  · obtain ⟨rfl, htext⟩ := kind_of_key (by decide) hknown hkey
    rcases hkind with ⟨-, rfl⟩ | ⟨h, -⟩
    · exact ⟨htext, rfl⟩
    · exact absurd h (by decide)
  · obtain ⟨rfl, htext⟩ := kind_of_key (by decide) hknown hkey
    rcases hkind with ⟨h, -⟩ | ⟨-, rfl⟩
    · exact absurd h (by decide)
    · exact ⟨htext, rfl⟩

omit [Unicode] in
/-- Where no pool has a slash in its name, the inventory asks about every project, and under its key. -/
theorem inventoryEndpoints_get? {projects : List (Str × Str)} {endpoints : Obj} (h : inventoryEndpoints projects = .ok endpoints)
    (hslash : ∀ place ∈ projects, chr '/' ∉ place.1) {kind suffix : String} (hkind : (kind, suffix) ∈ rowKinds)
    {place : Str × Str} (hplace : place ∈ projects) :
    ∃ path, projectPath place = .ok path ∧ Dict.get? endpoints (placeKey kind place) = some (.str (path ++ lit suffix)) := by
  obtain ⟨entries, hentries, rfl⟩ := inventoryEndpoints_written h
  obtain ⟨ws, hws, path, hpath, rfl⟩ := exists_of_forall₂_left hentries place hplace
  refine ⟨path, hpath, ?_⟩
  rw [Dict.written_get?]
  refine Dict.lastWrite_eq_some (List.mem_flatten.mpr ⟨_, hws, ?_⟩) ?_
  · simp only [rowKinds, List.mem_cons, Prod.mk.injEq, List.not_mem_nil, or_false] at hkind
    rcases hkind with ⟨rfl, rfl⟩ | ⟨rfl, rfl⟩
    · simp [projectEntries]
    · simp [projectEntries]
  · intro w hw hkey
    obtain ⟨ws', hws', hw⟩ := List.mem_flatten.mp hw
    obtain ⟨place', hplace', path', hpath', rfl⟩ := exists_of_forall₂ hentries ws' hws'
    obtain ⟨htext, hvalue⟩ := entry_of_key hkind hw hkey
    obtain rfl := place_of_key (hslash place' hplace') (hslash place hplace) htext
    rw [hvalue, Except.ok.inj (hpath'.symm.trans hpath)]

omit [Unicode] in
/-- A key of a row kind that the inventory asks under is the key of a project. -/
theorem place_of_inventory {projects : List (Str × Str)} {endpoints : Obj} (h : inventoryEndpoints projects = .ok endpoints)
    {kind : String} (hkind : kind ∈ kinds) {text : Str} (hkey : (Dict.get? endpoints (lit kind ++ text)).isSome = true) :
    ∃ place ∈ projects, text = place.1 ++ lit "/" ++ place.2 := by
  obtain ⟨entries, hentries, rfl⟩ := inventoryEndpoints_written h
  rw [Dict.get?_isSome_iff, Dict.mem_keys_written] at hkey
  obtain ⟨w, hw, hkey⟩ := hkey
  obtain ⟨ws, hws, hw⟩ := List.mem_flatten.mp hw
  obtain ⟨place, hplace, path, -, rfl⟩ := exists_of_forall₂ hentries ws hws
  refine ⟨place, hplace, ?_⟩
  simp only [projectEntries, List.mem_cons, List.not_mem_nil, or_false] at hw
  rcases hw with rfl | rfl | rfl
  · exact (kind_of_key (by decide) hkind hkey).2.symm
  · exact (kind_of_key (by decide) hkind hkey).2.symm
  · exact (kind_of_key (by decide) hkind hkey).2.symm

/-! ## 3. A whole fetch

A fetch that returned has run two stages or four.  `Fetched` names what it asked for in the later
ones and says where each payload came from.  The projects are read off the payloads BEFORE the
inventory is asked for; that they can be read off the final payloads as well
(`projectsOf_inventory`) is what lets the results below speak of the payloads alone. -/

/-- The endpoints a collection starts with. -/
def configured (c : CollectorConfig) (collectionClass : Option CollectionClass) : Obj :=
  endpointsForClass (c.endpointsOr defaultEndpoints) collectionClass

/-- The classes that look into the projects. -/
def Inventoried (collectionClass : Option CollectionClass) : Prop := collectionClass = none ∨ collectionClass = some .slow

variable (fetch) in
/-- What a fetch that returned asked for in its later stages, and what a name of its payloads was
answered: the last stage that answered counts. -/
structure Fetched (c : CollectorConfig) (collectionClass : Option CollectionClass) (payloads pools projectLists inventory : Obj) :
    Prop where
  poolKeys : ∀ k ∈ Dict.keys pools, lit "pool:" <+: k
  projectListKeys : ∀ k ∈ Dict.keys projectLists, lit "projects:" <+: k
  inventoried : (Inventoried collectionClass ∧ inventoryEndpoints (projectsOf payloads) = .ok inventory) ∨
    (¬ Inventoried collectionClass ∧ inventory = [])
  answers : ∀ k, k ≠ errorsKey → Dict.get? payloads k = (answer fetch .inventory inventory k).or
    ((answer fetch .projects projectLists k).or
      ((answer fetch .pools pools k).or (answer fetch .endpoints (configured c collectionClass) k)))
  nodup : (Dict.keys payloads).Nodup

omit [Unicode] in
theorem mergeFetchResult_nodup {payloads fetched merged : Obj} (hnodup : (Dict.keys payloads).Nodup)
    (h : mergeFetchResult payloads fetched = .ok merged) : (Dict.keys merged).Nodup := by
  have hupdate := Dict.nodup_keys_update hnodup (fetched.filter fun p => decide (p.1 ≠ errorsKey))
  unfold mergeFetchResult at h
  dsimp only at h
  split at h
  · rw [← Except.ok.inj h]
    exact hupdate
  · split at h
    · rw [← Except.ok.inj h]
      exact Dict.nodup_keys_set hupdate _ _
    · rw [← Except.ok.inj h]
      exact Dict.nodup_keys_set hupdate _ _
    · cases h

omit [Unicode] in
theorem fetchStage_nodup {stage : Stage} {before after : Obj} {built : Except Err Obj} (hnodup : (Dict.keys before).Nodup)
    (h : (fetchStage fetch stage before built).outcome = .ok after) : (Dict.keys after).Nodup := by
  obtain ⟨endpoints, -, h⟩ := Requests.outcome_bind.mp h
  obtain ⟨fetched, -, h⟩ := Requests.outcome_bind.mp h
  exact mergeFetchResult_nodup hnodup h

omit [Unicode] in
/-- What is asked about the pools is a dictionary. -/
theorem endpointsOfPools_nodup {kind suffix : String} {pools : List Str} {endpoints : Obj}
    (h : endpointsOfPools kind suffix pools = .ok endpoints) : (Dict.keys endpoints).Nodup := by
  refine foldlM_invariant (P := fun acc => (Dict.keys acc).Nodup) (fun acc pool acc' hacc hpass => ?_)
    (by simp [Dict.keys]) h
  obtain ⟨path, -, hpass⟩ := bind_eq_ok.mp hpass
  rw [← Except.ok.inj hpass]
  exact Dict.nodup_keys_set hacc _ _

omit [Unicode] in
theorem inventoryEndpoints_nodup {projects : List (Str × Str)} {endpoints : Obj}
    (h : inventoryEndpoints projects = .ok endpoints) : (Dict.keys endpoints).Nodup := by
  obtain ⟨entries, -, rfl⟩ := inventoryEndpoints_written h
  exact Dict.nodup_keys_written _

omit [Unicode] in
/-- No stage asks under the key of the failures. -/
theorem kind_ne_errorsKey {kind : String} (hkind : kind ∈ kinds) (text : Str) : lit kind ++ text ≠ errorsKey := by
  have hnone : ∀ a ∈ kinds, ¬ lit a <+: errorsKey := by decide
  intro h
  exact hnone kind hkind (h ▸ List.prefix_append _ _)

omit [Unicode] in
/-- A name that is not asked for has no answer. -/
theorem answer_of_notMem {stage : Stage} {endpoints : Obj} {k : Str} (h : k ∉ Dict.keys endpoints) :
    answer fetch stage endpoints k = none := by
  rw [← Dict.get?_isSome_iff, Option.not_isSome_iff_eq_none] at h
  rw [answer, h]
  rfl

/-- The projects are read off the pools and the project lists alone. -/
theorem projectsOf_congr {payloads payloads' : Obj} (hpools : Obj.get payloads "pools" = Obj.get payloads' "pools")
    (hlists : ∀ pool, Obj.get payloads (lit "projects:" ++ pool) = Obj.get payloads' (lit "projects:" ++ pool)) :
    projectsOf payloads = projectsOf payloads' := by
  unfold projectsOf poolNames
  simp only [hpools, hlists]

/-- The inventory leaves the projects it was made of as they are. -/
theorem projectsOf_inventory {before after inventory : Obj} (hbuilt : inventoryEndpoints (projectsOf before) = .ok inventory)
    (hget : ∀ k, k ≠ errorsKey → Dict.get? after k = (answer fetch .inventory inventory k).or (Dict.get? before k)) :
    projectsOf after = projectsOf before := by
  have hother : ∀ k, k ≠ errorsKey → k ∉ Dict.keys inventory → Obj.get after k = Obj.get before k := by
    intro k hk hfresh
    rw [Obj.get, hget k hk, answer_of_notMem hfresh]
    rfl
  apply projectsOf_congr
  · refine hother _ (by decide) fun hmem => ?_
    obtain ⟨kind, hkind, hprefix⟩ := inventoryEndpoints_keys hbuilt _ hmem
    have hnone : ∀ a ∈ [lit "project:", lit "filesystems:", lit "luns:"], ¬ a <+: lit "pools" := by decide
    exact hnone kind hkind hprefix
  · intro pool
    refine hother _ (kind_ne_errorsKey (by decide) pool) fun hmem => ?_
    obtain ⟨kind, hkind, text, htext⟩ := inventoryEndpoints_keys hbuilt _ hmem
    have hknown : ∀ a ∈ [lit "project:", lit "filesystems:", lit "luns:"], ∃ b ∈ kinds, a = lit b ∧ b ≠ "projects:" := by
      decide
    obtain ⟨b, hb, rfl, hne⟩ := hknown kind hkind
    exact hne (kind_of_key hb (by decide) htext).1

omit [Unicode] in
theorem configured_nodup {c : CollectorConfig} (hnodup : (Dict.keys c.endpoints).Nodup)
    (collectionClass : Option CollectionClass) : (Dict.keys (configured c collectionClass)).Nodup := by
  have hall : (Dict.keys (c.endpointsOr defaultEndpoints)).Nodup := by
    unfold CollectorConfig.endpointsOr
    split
    · decide
    · exact hnodup
  unfold configured endpointsForClass
  cases collectionClass with
  | none => exact hall
  | some collectionClass => exact hall.sublist (List.filter_sublist.map Prod.fst)

/-- Every fetch that returns is one. -/
theorem fetched_of_fetchPayloads {c : CollectorConfig} {collectionClass : Option CollectionClass} {payloads : Obj}
    (hnodup : (Dict.keys c.endpoints).Nodup) (h : (fetchPayloads fetch c collectionClass).outcome = .ok payloads) :
    ∃ pools projectLists inventory, Fetched fetch c collectionClass payloads pools projectLists inventory := by
  have hconfigured := configured_nodup hnodup collectionClass
  obtain ⟨first, hfirst, h⟩ := Requests.outcome_bind.mp h
  obtain ⟨second, hsecond, h⟩ := Requests.outcome_bind.mp h
  have hfirstKeys : (Dict.keys first).Nodup := fetchNamed_nodup hconfigured hfirst
  have hsecondKeys : (Dict.keys second).Nodup := fetchStage_nodup hfirstKeys hsecond
  obtain ⟨pools, hpools, hsecondGet⟩ := fetchStage_get? (fun _ => endpointsOfPools_nodup) hsecond
  have hsecondAnswers : ∀ k, k ≠ errorsKey → Dict.get? second k =
      (answer fetch .pools pools k).or (answer fetch .endpoints (configured c collectionClass) k) := by
    intro k hk
    rw [hsecondGet k hk, fetchNamed_get? hconfigured hfirst hk]
    rfl
  split at h
  · rename_i hclass
    obtain ⟨third, hthird, hfourth⟩ := Requests.outcome_bind.mp h
    obtain ⟨projectLists, hlists, hthirdGet⟩ := fetchStage_get? (fun _ => endpointsOfPools_nodup) hthird
    obtain ⟨inventory, hinventory, hfourthGet⟩ := fetchStage_get? (fun _ => inventoryEndpoints_nodup) hfourth
    refine ⟨pools, projectLists, inventory, ?_⟩
    exact {
      poolKeys := endpointsOfPools_keys hpools
      projectListKeys := endpointsOfPools_keys hlists
      inventoried := Or.inl ⟨hclass, by rw [projectsOf_inventory hinventory hfourthGet]; exact hinventory⟩
      answers := fun k hk => by rw [hfourthGet k hk, hthirdGet k hk, hsecondAnswers k hk]
      nodup := fetchStage_nodup (fetchStage_nodup hsecondKeys hthird) hfourth }
  · rename_i hclass
    obtain rfl := Except.ok.inj h
    refine ⟨pools, [], [], ?_⟩
    exact {
      poolKeys := endpointsOfPools_keys hpools
      projectListKeys := fun k hk => (List.not_mem_nil hk).elim
      inventoried := Or.inr ⟨hclass, rfl⟩
      answers := hsecondAnswers
      nodup := hsecondKeys }

end Stages

end BackupCollector.ZfsRest
