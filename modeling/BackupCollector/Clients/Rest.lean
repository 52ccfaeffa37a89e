/-
# The REST clients

Three of the collectors read a device over HTTP, and two of them, the i6000's and the ZFS one,
through the client modelled here: `fetch_named` asks for every endpoint of a mapping, whatever
becomes of the others, and tells the answers from the failures, which it leaves under a key of
their own in the same dictionary.  That the failures share the dictionary with the answers is
what the results about these collectors have to be careful with; a name of that key among the
endpoints would hide them.

What a request returns is a parameter of the model, a function of the name and the endpoint: the
HTTP library, the credentials and the network are behind it.  A request that fails is the text of
what it raised.  The order in which the requests are sent is the order of the mapping; they run
concurrently in the program, but none sees another's answer.

The NetWorker client, which repeats its requests, has a module of its own.
-/
import BackupCollector.Parsers.NetworkerRest
import BackupCollector.Core.Config
import BackupCollector.Py.Requests
import BackupCollector.Py.Sha256

namespace BackupCollector

open Py

/-! ## 1. The shared client -/

/-- `ERRORS_KEY` -/
def errorsKey : Str := "_endpoint_errors"

/-- `endpoint_errors` -/
def endpointErrors (payloads : Obj) : Obj := ((Obj.get payloads errorsKey).asObj?).getD []

/-- `config.endpoints or DEFAULT_ENDPOINTS` -/
def CollectorConfig.endpointsOr (c : CollectorConfig) (defaults : Dict Str Str) : Obj :=
  if c.endpoints.isEmpty then defaults.map fun p => (p.1, .str p.2) else c.endpoints

/-- `fetch_named`: `fetch` is what the request for a name and its endpoint returned, or the text
of what it raised.  All of them are asked, whatever becomes of the others. -/
def fetchNamed (fetch : Str → Json → Except Str Json) (endpoints : Obj) : Requests Str Err Obj := do
  let results ← Requests.each (fun p : Str × Json => ⟨[p.1], fetch p.1 p.2⟩) endpoints
  let payloads : Obj := results.filterMap fun r => r.2.toOption.map fun payload => (r.1.1, payload)
  let errors : Obj := results.filterMap fun r => match r.2 with
    | .error text => some (r.1.1, .str text)
    | .ok _ => none
  return if errors.isEmpty then payloads else Dict.set payloads errorsKey (.obj errors)

/-- Exactly the names of the mapping are asked for. -/
theorem log_fetchNamed (fetch : Str → Json → Except Str Json) (endpoints : Obj) :
    (fetchNamed fetch endpoints).log = Dict.keys endpoints := by
  unfold fetchNamed
  rw [Requests.bind_of_ok rfl]
  have hnames : (Requests.each (fun p : Str × Json => (⟨[p.1], fetch p.1 p.2⟩ : Requests Str Str Json)) endpoints :
      Requests Str Err _).log = Dict.keys endpoints := by
    induction endpoints with
    | nil => rfl
    | cons p endpoints ih => exact congrArg (p.1 :: ·) ih
  rw [hnames]
  exact List.append_nil _

/-! ## 2. The i6000 client -/

namespace I6000

/-- `DEFAULT_ENDPOINTS` -/
def defaultEndpoints : Dict Str Str := [
  ("ping", "aml/"),
  ("physical_library", "aml/physicalLibrary"),
  ("status", "aml/physicalLibrary/status"),
  ("drives", "aml/drives"),
  ("media", "aml/media?start=0&length=-1"),
  ("segments_storage_used", "aml/physicalLibrary/segments?type=storage&status=used&start=0&length=-1"),
  ("segments_storage_available", "aml/physicalLibrary/segments?type=storage&status=available&start=0&length=-1"),
  ("towers", "aml/devices/towers"),
  ("ie_stations", "aml/devices/ieStations"),
  ("ras_status", "aml/system/ras"),
  ("ras_tickets", "aml/system/ras/tickets")]

/-- `FAST_ENDPOINTS` -/
def fastEndpoints : List Str :=
  ["ping", "status", "drives", "segments_storage_used", "segments_storage_available", "ras_status", "ras_tickets"]

/-- `SLOW_ENDPOINTS` -/
def slowEndpoints : List Str := ["physical_library", "media", "towers", "ie_stations"]

/-- The endpoint names of a class: every class but `fast` is a slow one. -/
def classEndpoints (collectionClass : CollectionClass) : List Str :=
  if collectionClass = .fast then fastEndpoints else slowEndpoints

/-- `_endpoints_for_class` -/
def endpointsForClass {ν : Type} (endpoints : Dict Str ν) (collectionClass : Option CollectionClass) : Dict Str ν :=
  match collectionClass with
  | none => endpoints
  | some collectionClass => endpoints.filter fun p => decide (p.1 ∈ classEndpoints collectionClass)

/-- `fetch_payloads`: `login` and `logout` are what escapes from the two session requests, which
are made when there are credentials. -/
def fetchPayloads (c : CollectorConfig) (login logout : Except Err Unit) (fetch : Str → Json → Except Str Json)
    (collectionClass : Option CollectionClass) : Requests Str Err Obj := do
  let session := given c.username && given c.password
  Requests.lift (if session then login else .ok ())
  let payloads ← fetchNamed fetch (endpointsForClass (c.endpointsOr defaultEndpoints) collectionClass)
  Requests.lift (if session then logout else .ok ())
  return payloads

end I6000

/-! ## 3. XML

`_xml_to_obj` turns the element tree the standard library parses into dictionaries, merging the
children of one name into a list. -/

/-- `xml.etree.ElementTree.Element`, as far as the client reads it. -/
inductive Element where
  | mk (tag : Str) (text : Option Str) (children : List Element)

namespace Element

/-- `element.tag.rsplit("\x7d", 1)[-1]`: the tag without its namespace. -/
def localName : Element → Str
  | .mk tag _ _ => tag.rtakeWhile fun c => decide (c ≠ chr '\x7d')

end Element

/-- What `_xml_to_obj` does with one more child. -/
def mergeChild (data : Obj) (key : Str) (value : Json) : Obj :=
  match Dict.get? data key with
  | some (.arr values) => Dict.set data key (.arr (values ++ [value]))
  | some first => Dict.set data key (.arr [first, value])
  | none => Dict.set data key value

mutual

/-- The object `_xml_to_obj` builds for the content of an element. -/
def Element.content : Element → Json
  | .mk _ text [] => .str (Str.strip (text.getD []))
  | .mk _ _ (child :: children) => .obj (Element.mergeChildren [] (child :: children))

def Element.mergeChildren (data : Obj) : List Element → Obj
  | [] => data
  | child :: children => Element.mergeChildren (mergeChild data child.localName child.content) children

end

/-- `_xml_to_obj` -/
def xmlToObj (element : Element) : Obj := [(element.localName, element.content)]

mutual

/-- The elements of a tree: the root and everything below it. -/
def Element.elements : Element → List Element
  | .mk tag text children => .mk tag text children :: Element.allElements children

def Element.allElements : List Element → List Element
  | [] => []
  | child :: children => child.elements ++ Element.allElements children

end

namespace ZfsRest

/-! ## 4. The ZFS client: endpoints

A collection asks for the endpoints of its class, then for the details of the pools it was told
of, and for the slow class for the projects of the pools and what is in them.  What a stage was
told decides what the next one asks for. -/

/-- `DEFAULT_ENDPOINTS` -/
def defaultEndpoints : Dict Str Str := [
  ("version", "api/system/v1/version"),
  ("pools", "api/storage/v1/pools"),
  ("logs", "api/log/v1/logs"),
  ("alert_logs", "api/log/v1/logs/alert?limit=100"),
  ("fault_logs", "api/log/v1/logs/fault?limit=100")]

/-- `FAST_ENDPOINTS` -/
def fastEndpoints : List Str := ["version", "pools", "logs", "alert_logs", "fault_logs"]

/-- `SLOW_ENDPOINTS` -/
def slowEndpoints : List Str := ["version", "pools"]

/-- The endpoint names of a class: every class but `fast` is a slow one. -/
def classEndpoints (collectionClass : CollectionClass) : List Str :=
  if collectionClass = .fast then fastEndpoints else slowEndpoints

/-- The endpoints a collection starts with. -/
def endpointsForClass (endpoints : Obj) (collectionClass : Option CollectionClass) : Obj :=
  match collectionClass with
  | none => endpoints
  | some collectionClass => endpoints.filter fun p => decide (p.1 ∈ classEndpoints collectionClass)

/-- A byte `quote` leaves as it is: a letter, a digit or one of `_.-~`. -/
def alwaysSafe (b : Nat) : Bool :=
  decide (48 ≤ b ∧ b ≤ 57) || decide (65 ≤ b ∧ b ≤ 90) || decide (97 ≤ b ∧ b ≤ 122) || decide (b ∈ [95, 46, 45, 126])

/-- `quote(text, safe='')` -/
def quote (text : Str) : Except Err Str :=
  if encodable text then
    .ok ((Sha256.utf8 text).flatMap fun b =>
      if alwaysSafe b then [Fin.ofNat 0x110000 b]
      else chr '%' :: (hexPad 2 b).map fun c => if 97 ≤ c.val then Fin.ofNat 0x110000 (c.val - 32) else c)
  else .error ⟨.unicodeEncodeError, "surrogates not allowed"⟩

section Stages

variable [Unicode]

/-! ## 5. The ZFS client: stages -/

/-- `_pool_names` -/
def poolNames (payloads : Obj) : List Str :=
  ((items (Obj.get payloads "pools") "pools").map fun pool => string (Obj.get pool "name")).filter fun name => !name.isEmpty

/-- `api/storage/v1/pools/<pool>` -/
def poolPath (pool : Str) : Except Err Str := do
  let quoted ← quote pool
  return lit "api/storage/v1/pools/" ++ quoted

/-- One endpoint for each pool, under its path. -/
def endpointsOfPools (kind suffix : String) (pools : List Str) : Except Err Obj :=
  pools.foldlM (fun endpoints pool => do
    let path ← poolPath pool
    return Dict.set endpoints (lit kind ++ pool) (.str (path ++ lit suffix))) []

/-- The endpoints of `_fetch_pool_details`: the pool itself. -/
def poolEndpoints (pools : List Str) : Except Err Obj := endpointsOfPools "pool:" "" pools

/-- The project lists of `_fetch_inventory`. -/
def projectListEndpoints (pools : List Str) : Except Err Obj := endpointsOfPools "projects:" "/projects" pools

/-- The projects the pools were said to have. -/
def projectsOf (payloads : Obj) : List (Str × Str) :=
  (poolNames payloads).flatMap fun pool =>
    (((items (Obj.get payloads (lit "projects:" ++ pool)) "projects").map fun project =>
      string (Obj.get project "name")).filter fun name => !name.isEmpty).map fun project => (pool, project)

/-- The project endpoints of `_fetch_inventory`. -/
def inventoryEndpoints (projects : List (Str × Str)) : Except Err Obj :=
  projects.foldlM (fun endpoints p => do
    let path ← poolPath p.1
    let quoted ← quote p.2
    let projectPath := path ++ lit "/projects/" ++ quoted
    let key := p.1 ++ lit "/" ++ p.2
    let endpoints := Dict.set endpoints (lit "project:" ++ key) (.str projectPath)
    let endpoints := Dict.set endpoints (lit "filesystems:" ++ key) (.str (projectPath ++ lit "/filesystems"))
    return Dict.set endpoints (lit "luns:" ++ key) (.str (projectPath ++ lit "/luns"))) []

/-- `_merge_fetch_result` -/
def mergeFetchResult (payloads fetched : Obj) : Except Err Obj :=
  let newErrors := endpointErrors fetched
  let payloads := Dict.update payloads (fetched.filter fun p => decide (p.1 ≠ errorsKey))
  if newErrors.isEmpty then .ok payloads
  else match Dict.get? payloads errorsKey with
    | none => .ok (Dict.set payloads errorsKey (.obj newErrors))
    | some (.obj errors) => .ok (Dict.set payloads errorsKey (.obj (Dict.update errors newErrors)))
    | some _ => .error ⟨.attributeError, "object has no attribute 'update'"⟩

/-- The four times a collection asks. -/
inductive Stage where
  | endpoints | pools | projects | inventory

variable (fetch : Stage → Str → Json → Except Str Json)

/-- Asks for the endpoints of a stage and merges what comes back. -/
def fetchStage (stage : Stage) (payloads : Obj) (endpoints : Except Err Obj) : Requests Str Err Obj := do
  let endpoints ← Requests.lift endpoints
  let fetched ← fetchNamed (fetch stage) endpoints
  Requests.lift (mergeFetchResult payloads fetched)

/-- `_fetch_pool_details` -/
def fetchPoolDetails (payloads : Obj) : Requests Str Err Obj :=
  fetchStage fetch .pools payloads (poolEndpoints (poolNames payloads))

/-- `_fetch_inventory` -/
def fetchInventory (payloads : Obj) : Requests Str Err Obj := do
  let payloads ← fetchStage fetch .projects payloads (projectListEndpoints (poolNames payloads))
  fetchStage fetch .inventory payloads (inventoryEndpoints (projectsOf payloads))

/-- `fetch_payloads` -/
def fetchPayloads (c : CollectorConfig) (collectionClass : Option CollectionClass) : Requests Str Err Obj := do
  let endpoints := endpointsForClass (c.endpointsOr defaultEndpoints) collectionClass
  let payloads ← fetchNamed (fetch .endpoints) endpoints
  let payloads ← fetchPoolDetails fetch payloads
  if collectionClass = none ∨ collectionClass = some .slow then fetchInventory fetch payloads
  else return payloads

end Stages

end ZfsRest

end BackupCollector
