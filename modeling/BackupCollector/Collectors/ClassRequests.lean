/-
# What a class collection asks for

A REST collector passes the class of a collection on only when it schedules more than one; with one
schedule it collects everything, as it did before there were classes.  So a collection asks for the
endpoints of its class, and with one schedule for the whole endpoint map.  Three collectors do
this, each with its own way to build the map: NetWorker plans its requests, the library filters a
table, and ZFS works in two stages, the second of which is about what the first found.

`class_collection_asks` is about the requests that are MADE, not about those that are planned: the
log of a collection is compared with the endpoints assigned to the class.  For ZFS this takes an
account of the names of the second stage, which are built from pools and projects.

That one schedule means everything has a consequence the names do not suggest: a collector that
schedules jobs only asks for the clients with them (`jobs_only_asks_clients`).

With classes the statement is that nothing else is asked for.  Without them it is that everything
is, where the collection gets to ask at all: the windows of the map are in the calendar, and the
login works.
-/
import BackupCollector.Clients.NetworkerAttempts
import BackupCollector.Clients.Rest
import BackupCollector.Collectors.NetworkerRest

namespace BackupCollector

open Py

/-! ## 1. The NetWorker requests

The attempts of a NetWorker collection are those of its plan, retries included. -/

namespace NetworkerRest

/-- What the collection of a class asks of a NetWorker server. -/
def classRequests (c : CollectorConfig) (transport : Str → Nat → Outcome) (collectionClass : CollectionClass)
    (windowEnd : Instant) : Requests HttpAttempt Err Obj := do
  let schedules ← Requests.lift c.effectiveSchedules
  fetchPayloads c transport (activeClass schedules collectionClass) windowEnd

/-- A collection attempts planned endpoints only. -/
theorem attempts_planned (c : CollectorConfig) (transport : Str → Nat → Outcome)
    (collectionClass : Option CollectionClass) (windowEnd : Instant) :
    ∀ a ∈ (fetchPayloads c transport collectionClass windowEnd).log,
      a.request.endpointName ∈ Dict.keys (plannedEndpoints c collectionClass) := by
  refine Requests.forall_log_bind (Requests.forall_log_lift _) fun windows _ => ?_
  refine Requests.forall_log_bind (Requests.forall_log_lift _) fun plan hplan => ?_
  refine Requests.forall_log_bind (fun a ha => ?_) fun _ _ a ha => (nomatch ha)
  obtain ⟨request, hrequest, ha⟩ := List.mem_flatMap.mp ha
  rw [getJson_request c _ request a ha]
  exact (params_of_mem_plan hplan hrequest).2.1

/-- A collection with a plan attempts every planned endpoint. -/
theorem planned_attempted {c : CollectorConfig} {collectionClass : Option CollectionClass} {windowEnd : Instant}
    (hwindows : (queryWindows c (plannedEndpoints c collectionClass) windowEnd).isOk = true)
    (transport : Str → Nat → Outcome) {name : Str} (hname : name ∈ Dict.keys (plannedEndpoints c collectionClass)) :
    ∃ a ∈ (fetchPayloads c transport collectionClass windowEnd).log, a.request.endpointName = name := by
  obtain ⟨windows, hwindows⟩ := isOk_iff.mp hwindows
  obtain ⟨plan, hbuilt⟩ := isOk_iff.mp (buildRequestPlan_isOk hwindows c.networkerFieldFilter)
  have hplan : requestPlan c collectionClass windowEnd = .ok plan := bind_eq_ok.mpr ⟨windows, hwindows, hbuilt⟩
  obtain ⟨_, -, -, hfetch⟩ := fetchPayloads_of_plan hplan transport
  rw [← requestPlan_names hplan] at hname
  obtain ⟨request, hrequest, rfl⟩ := List.mem_map.mp hname
  obtain ⟨n, hn⟩ := getJson_ends c (transport request.resultName) request
  have hstarted := hn.started
  refine ⟨⟨request, 1, transport request.resultName 1⟩, ?_, (params_of_mem_plan hbuilt hrequest).1.symm⟩
  rw [hfetch]
  refine List.mem_flatMap.mpr ⟨request, hrequest, ?_⟩
  rw [hn.log]
  exact List.mem_map.mpr ⟨1, List.mem_range'_1.mpr ⟨le_rfl, by omega⟩, rfl⟩

theorem planned_of_class (c : CollectorConfig) (collectionClass : CollectionClass) :
    ∀ name ∈ Dict.keys (plannedEndpoints c (some collectionClass)), name ∈ classEndpoints collectionClass := by
  intro name hname
  obtain ⟨p, hp, rfl⟩ := List.mem_map.mp hname
  exact of_decide_eq_true (List.mem_filter.mp hp).2

end NetworkerRest

/-! ## 2. The i6000 requests

The requests of a library are the endpoints of its map, between a login and a logout. -/

namespace I6000

/-- What the collection of a class asks of a library. -/
def classRequests (c : CollectorConfig) (login logout : Except Err Unit) (fetch : Str → Json → Except Str Json)
    (collectionClass : CollectionClass) : Requests Str Err Obj := do
  let schedules ← Requests.lift c.effectiveSchedules
  fetchPayloads c login logout fetch (activeClass schedules collectionClass)

theorem requested_planned (c : CollectorConfig) (login logout : Except Err Unit) (fetch : Str → Json → Except Str Json)
    (collectionClass : Option CollectionClass) : ∀ name ∈ (fetchPayloads c login logout fetch collectionClass).log,
      name ∈ Dict.keys (endpointsForClass (c.endpointsOr defaultEndpoints) collectionClass) := by
  refine Requests.forall_log_bind (Requests.forall_log_lift _) fun _ _ => ?_
  refine Requests.forall_log_bind (fun name hname => ?_) fun _ _ => ?_
  · rwa [log_fetchNamed] at hname
  · exact Requests.forall_log_bind (Requests.forall_log_lift _) fun _ _ name hname => (nomatch hname)

/-- After a login every planned endpoint is asked for. -/
theorem planned_requested (c : CollectorConfig) (logout : Except Err Unit) (fetch : Str → Json → Except Str Json)
    (collectionClass : Option CollectionClass) {name : Str}
    (hname : name ∈ Dict.keys (endpointsForClass (c.endpointsOr defaultEndpoints) collectionClass)) :
    name ∈ (fetchPayloads c (.ok ()) logout fetch collectionClass).log := by
  unfold fetchPayloads
  dsimp only
  have hlogin : (if (given c.username && given c.password) = true then Except.ok () else .ok () : Except Err Unit) = .ok () := by
    split <;> rfl
  rw [hlogin, Requests.lift_ok_bind]
  refine Requests.mem_log_bind ?_ _
  rw [log_fetchNamed]
  exact hname

theorem planned_of_class (endpoints : Obj) (collectionClass : CollectionClass) :
    ∀ name ∈ Dict.keys (endpointsForClass endpoints (some collectionClass)), name ∈ classEndpoints collectionClass := by
  intro name hname
  obtain ⟨p, hp, rfl⟩ := List.mem_map.mp hname
  exact of_decide_eq_true (List.mem_filter.mp hp).2

end I6000

/-! ## 3. The ZFS requests

A stage asks for what it built.  The names of the second stage carry a kind and a place, and the
class is one of kinds. -/

namespace ZfsRest

/-- The endpoint names of a class: its own, the details of pools and, of the slow class, the
inventory of their projects. -/
def Assigned (collectionClass : CollectionClass) (name : Str) : Prop :=
  name ∈ classEndpoints collectionClass ∨ lit "pool:" <+: name ∨
    (collectionClass = .slow ∧ ∃ kind ∈ [lit "projects:", lit "project:", lit "filesystems:", lit "luns:"], kind <+: name)

section Requests

variable [Unicode]

/-- What the collection of a class asks of a storage. -/
def classRequests (c : CollectorConfig) (fetch : Stage → Str → Json → Except Str Json)
    (collectionClass : CollectionClass) : Requests Str Err Obj := do
  let schedules ← Requests.lift c.effectiveSchedules
  fetchPayloads fetch c (activeClass schedules collectionClass)

omit [Unicode] in
/-- The endpoints a stage builds are named by the kinds the stage is about. -/
theorem keys_of_build {α : Type} {P : Str → Prop} {build : Obj → α → Except Err Obj} {xs : List α} {endpoints : Obj}
    (hbuild : ∀ acc x acc', build acc x = .ok acc' → ∀ name ∈ Dict.keys acc', name ∈ Dict.keys acc ∨ P name)
    (h : xs.foldlM build [] = .ok endpoints) : ∀ name ∈ Dict.keys endpoints, P name := by
  refine foldlM_invariant (P := fun acc => ∀ name ∈ Dict.keys acc, P name) (fun acc x acc' hacc hpass name hname => ?_)
    (by simp [Dict.keys]) h
  rcases hbuild acc x acc' hpass name hname with hold | hnew
  · exact hacc name hold
  · exact hnew

omit [Unicode] in
/-- What is asked about the pools is named by its kind. -/
theorem endpointsOfPools_keys {kind suffix : String} {pools : List Str} {endpoints : Obj}
    (h : endpointsOfPools kind suffix pools = .ok endpoints) : ∀ name ∈ Dict.keys endpoints, lit kind <+: name := by
  refine keys_of_build (fun acc pool acc' hpass name hname => ?_) h
  obtain ⟨path, -, hpass⟩ := bind_eq_ok.mp hpass
  rw [← Except.ok.inj hpass, Dict.mem_keys_set] at hname
  rcases hname with rfl | hname
  · exact Or.inr (List.prefix_append _ _)
  · exact Or.inl hname

omit [Unicode] in
theorem inventoryEndpoints_keys {projects : List (Str × Str)} {endpoints : Obj}
    (h : inventoryEndpoints projects = .ok endpoints) : ∀ name ∈ Dict.keys endpoints,
      ∃ kind ∈ [lit "project:", lit "filesystems:", lit "luns:"], kind <+: name := by
  refine keys_of_build (fun acc p acc' hpass name hname => ?_) h
  obtain ⟨path, -, hpass⟩ := bind_eq_ok.mp hpass
  obtain ⟨quoted, -, hpass⟩ := bind_eq_ok.mp hpass
  rw [← Except.ok.inj hpass, Dict.mem_keys_set, Dict.mem_keys_set, Dict.mem_keys_set] at hname
  rcases hname with rfl | rfl | rfl | hname
  · exact Or.inr ⟨lit "luns:", by simp, List.prefix_append _ _⟩
  · exact Or.inr ⟨lit "filesystems:", by simp, List.prefix_append _ _⟩
  · exact Or.inr ⟨lit "project:", by simp, List.prefix_append _ _⟩
  · exact Or.inl hname

omit [Unicode] in
/-- A stage asks for the endpoints it built. -/
theorem fetchStage_log {P : Str → Prop} (fetch : Stage → Str → Json → Except Str Json) (stage : Stage) (payloads : Obj)
    {built : Except Err Obj} (h : ∀ endpoints, built = .ok endpoints → ∀ name ∈ Dict.keys endpoints, P name) :
    ∀ name ∈ (fetchStage fetch stage payloads built).log, P name := by
  refine Requests.forall_log_bind (Requests.forall_log_lift _) fun endpoints hbuilt => ?_
  refine Requests.forall_log_bind (fun name hname => ?_) fun _ _ => Requests.forall_log_lift _
  rw [log_fetchNamed] at hname
  exact h endpoints hbuilt name hname

/-- A class collection asks for what is assigned to its class. -/
theorem requested_assigned (fetch : Stage → Str → Json → Except Str Json) (c : CollectorConfig)
    (collectionClass : CollectionClass) :
    ∀ name ∈ (fetchPayloads fetch c (some collectionClass)).log, Assigned collectionClass name := by
  refine Requests.forall_log_bind (fun name hname => ?_) fun payloads _ => ?_
  · rw [log_fetchNamed] at hname
    obtain ⟨p, hp, rfl⟩ := List.mem_map.mp hname
    exact Or.inl (of_decide_eq_true (List.mem_filter.mp hp).2)
  refine Requests.forall_log_bind ?_ fun payloads _ => ?_
  · exact fetchStage_log fetch .pools payloads fun endpoints hbuilt name hname =>
      Or.inr (Or.inl (endpointsOfPools_keys hbuilt name hname))
  split
  · rename_i hslow
    have hslow : collectionClass = .slow := by simpa using hslow
    refine Requests.forall_log_bind ?_ fun payloads _ => ?_
    · exact fetchStage_log fetch .projects payloads fun endpoints hbuilt name hname =>
        Or.inr (Or.inr ⟨hslow, lit "projects:", by simp, endpointsOfPools_keys hbuilt name hname⟩)
    · refine fetchStage_log fetch .inventory payloads fun endpoints hbuilt name hname => ?_
      obtain ⟨kind, hkind, hprefix⟩ := inventoryEndpoints_keys hbuilt name hname
      exact Or.inr (Or.inr ⟨hslow, kind, List.mem_cons_of_mem _ hkind, hprefix⟩)
  · exact fun name hname => (nomatch hname)

/-- Every planned endpoint is asked for. -/
theorem planned_requested (fetch : Stage → Str → Json → Except Str Json) (c : CollectorConfig)
    (collectionClass : Option CollectionClass) {name : Str}
    (hname : name ∈ Dict.keys (endpointsForClass (c.endpointsOr defaultEndpoints) collectionClass)) :
    name ∈ (fetchPayloads fetch c collectionClass).log := by
  refine Requests.mem_log_bind ?_ _
  rw [log_fetchNamed]
  exact hname

end Requests

end ZfsRest

/-! ## 4. One class, or all of them

The three collectors together, with and without a class. -/

/-- Every request of the three collections of a class is for the class, whatever the responses are
and wherever a collection ends. -/
def AsksForClass [Unicode] (c : CollectorConfig) (collectionClass : CollectionClass) : Prop :=
  (∀ transport windowEnd, ∀ a ∈ (NetworkerRest.classRequests c transport collectionClass windowEnd).log,
    a.request.endpointName ∈ NetworkerRest.classEndpoints collectionClass) ∧
  (∀ login logout fetch, ∀ name ∈ (I6000.classRequests c login logout fetch collectionClass).log,
    name ∈ I6000.classEndpoints collectionClass) ∧
  ∀ fetch, ∀ name ∈ (ZfsRest.classRequests c fetch collectionClass).log, ZfsRest.Assigned collectionClass name

/-- The collections of a class ask for the whole endpoint map, where they get to ask at all: the
windows of the map are in the calendar, and the login works. -/
def AsksForAll [Unicode] (c : CollectorConfig) (collectionClass : CollectionClass) : Prop :=
  (∀ transport windowEnd,
    (NetworkerRest.queryWindows c (c.endpointsOr NetworkerRest.defaultEndpoints) windowEnd).isOk = true →
    ∀ name ∈ Dict.keys (c.endpointsOr NetworkerRest.defaultEndpoints),
      ∃ a ∈ (NetworkerRest.classRequests c transport collectionClass windowEnd).log, a.request.endpointName = name) ∧
  (∀ logout fetch, ∀ name ∈ Dict.keys (c.endpointsOr I6000.defaultEndpoints),
    name ∈ (I6000.classRequests c (.ok ()) logout fetch collectionClass).log) ∧
  ∀ fetch, ∀ name ∈ Dict.keys (c.endpointsOr ZfsRest.defaultEndpoints),
    name ∈ (ZfsRest.classRequests c fetch collectionClass).log

section Switch

variable [Unicode]

/-- **A class collection asks only for its class** when more than one class is scheduled, and for
everything when one is.  Nothing is said of the order of the requests, or of how often one is
repeated. -/
theorem class_collection_asks (c : CollectorConfig) (schedules : CollectionSchedulesConfig)
    (hschedule : c.schedule = .classes schedules) (collectionClass : CollectionClass) :
    (1 < schedules.items.length → AsksForClass c collectionClass) ∧
      (schedules.items.length = 1 → AsksForAll c collectionClass) := by
  have heffective : c.effectiveSchedules = .ok schedules.items := by
    unfold CollectorConfig.effectiveSchedules
    rw [hschedule]
  constructor
  · intro hmany
    have hactive : activeClass schedules.items collectionClass = some collectionClass := if_pos hmany
    refine ⟨fun transport windowEnd a ha => ?_, fun login logout fetch name hname => ?_, fun fetch name hname => ?_⟩
    · unfold NetworkerRest.classRequests at ha
      rw [heffective, Requests.lift_ok_bind, hactive] at ha
      exact NetworkerRest.planned_of_class c collectionClass _ (NetworkerRest.attempts_planned c transport _ windowEnd a ha)
    · unfold I6000.classRequests at hname
      rw [heffective, Requests.lift_ok_bind, hactive] at hname
      exact I6000.planned_of_class _ collectionClass _ (I6000.requested_planned c login logout fetch _ name hname)
    · unfold ZfsRest.classRequests at hname
      rw [heffective, Requests.lift_ok_bind, hactive] at hname
      exact ZfsRest.requested_assigned fetch c collectionClass name hname
  · intro hone
    have hactive : activeClass schedules.items collectionClass = none := if_neg (by omega)
    refine ⟨fun transport windowEnd hwindows name hname => ?_, fun logout fetch name hname => ?_, fun fetch name hname => ?_⟩
    · unfold NetworkerRest.classRequests
      rw [heffective, Requests.lift_ok_bind, hactive]
      exact NetworkerRest.planned_attempted hwindows transport hname
    · unfold I6000.classRequests
      rw [heffective, Requests.lift_ok_bind, hactive]
      exact I6000.planned_requested c logout fetch none hname
    · unfold ZfsRest.classRequests
      rw [heffective, Requests.lift_ok_bind, hactive]
      exact ZfsRest.planned_requested fetch c none hname

end Switch

section Example

attribute [local instance] Unicode.ascii

/-- A NetWorker collector with these schedules. -/
def scheduled (schedules : CollectionSchedulesConfig) : CollectorConfig :=
  { networkerCore with schedule := .classes schedules }

theorem class_collection_asks_jobs :
    AsksForClass (scheduled { jobs := some {}, inventory := some {} }) .jobs ∧ AsksForAll (scheduled { jobs := some {} }) .jobs :=
  ⟨(class_collection_asks (scheduled { jobs := some {}, inventory := some {} }) { jobs := some {}, inventory := some {} }
      rfl .jobs).1 (by decide),
    (class_collection_asks (scheduled { jobs := some {} }) { jobs := some {} } rfl .jobs).2 rfl⟩

/-- A collector that schedules jobs only asks for the clients with them. -/
theorem jobs_only_asks_clients : ¬ ∀ (c : CollectorConfig) (schedules : CollectionSchedulesConfig),
    c.schedule = .classes schedules → ∀ collectionClass ∈ schedules.items.map Prod.fst, AsksForClass c collectionClass := by
  intro h
  have hjobs := (h (scheduled { jobs := some {} }) { jobs := some {} } rfl .jobs (by decide)).1
  have hlog := hjobs (fun _ _ => .success (.obj [])) ⟨63922494600000000, by decide⟩
  revert hlog
  decide +kernel

end Example

end BackupCollector
