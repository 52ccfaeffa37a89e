/-
# The policy gauges of a NetWorker server

Each collection counts its jobs by domain and policy and sets the gauge child of every pair that
occurs.  A child is never set to zero and never removed, so a pair that is absent from a collection
keeps the count of an earlier one: a policy whose failed job has left the query window goes on
failing.  The gauges show the latest collection exactly when no pair that had records ever loses
them (`followsLatest_iff`).

The law is that of `Py/Gauges`, at four gauges and all pairs.  What has to be shown is what a
collection writes to one child.

* `_publish_domain_policy_metric` goes through a nested dictionary, and sets the child of each pair
  once, to its count (`lastWrite_publish`).
* The gauges of different metrics do not touch each other (`lastWrite_publish_ne`), so of all a
  collection publishes a child is set from one summary field.
* A collection of a class that does not publish the gauge leaves it alone (`gaugeWrites_skips`), so
  the histories of the classes are separate.

A collection that failed publishes nothing and is part of no history.  The label of the server is
the configured name, the same in every collection of a collector.
-/
import BackupCollector.Collectors.NetworkerRest
import BackupCollector.Parsers.NestedCounts
import BackupCollector.Py.Gauges

namespace BackupCollector

open Py

section Policies

variable [Unicode]

/-! ## 1. What one collection publishes

The four gauges are one definition with a metric, a class and a summary field; each has its own
name here. -/

/-- The gauges with a policy and a domain label. -/
inductive PolicyGauge where
  | success | failed | running | workflow
deriving DecidableEq

namespace PolicyGauge

def metric : PolicyGauge → Metric
  | .success => .networkerJobSuccessCount
  | .failed => .networkerJobFailedCount
  | .running => .networkerJobRunningCount
  | .workflow => .networkerWorkflowCount

/-- The records a gauge counts. -/
def records (parsed : Parsed) : PolicyGauge → List Obj
  | .success => parsed.jobs.filter (hasStatus "success")
  | .failed => parsed.jobs.filter (hasStatus "failed")
  | .running => parsed.jobs.filter (hasStatus "running")
  | .workflow => parsed.workflows

/-- The classes that publish a gauge. -/
def carried (collectionClass : Option CollectionClass) : PolicyGauge → Bool
  | .workflow => carriesInventory collectionClass
  | _ => carriesJobs collectionClass

/-- The summary field a gauge is published from. -/
def summaryKey : PolicyGauge → Str
  | .success => "job_success_count_by_domain_policy"
  | .failed => "job_failed_count_by_domain_policy"
  | .running => "job_running_count_by_domain_policy"
  | .workflow => "workflow_count_by_domain_policy"

/-- The child of a gauge for a (domain, policy) pair. -/
def child (g : PolicyGauge) (server : Str) (pair : Str × Str) : Child := (g.metric, [server, pair.2, pair.1])

end PolicyGauge

omit [Unicode] in
theorem mem_publishDomainPolicyMetric {metric : Metric} {server : Str} {nested : Dict Str (Dict Str Nat)}
    {w : GaugeWrite} (h : w ∈ publishDomainPolicyMetric metric server (nestedJson nested)) :
    ∃ e ∈ nested, ∃ p ∈ e.2, w = ((metric, [server, p.1, e.1]), (p.2 : Int)) := by
  obtain ⟨d, hd, hw⟩ := List.mem_flatMap.mp h
  obtain ⟨e, he, rfl⟩ := List.mem_map.mp hd
  obtain ⟨q, hq, rfl⟩ := List.mem_map.mp hw
  obtain ⟨p, hp, rfl⟩ := List.mem_map.mp hq
  exact ⟨e, he, p, hp, rfl⟩

omit [Unicode] in
theorem mem_publishDomainPolicyMetric_of {metric : Metric} {server : Str} {nested : Dict Str (Dict Str Nat)}
    {e : Str × Dict Str Nat} (he : e ∈ nested) {p : Str × Nat} (hp : p ∈ e.2) :
    ((metric, [server, p.1, e.1]), (p.2 : Int)) ∈
      publishDomainPolicyMetric metric server (nestedJson nested) := by
  refine List.mem_flatMap.mpr ⟨(e.1, .obj (countsJson e.2)), List.mem_map_of_mem he, ?_⟩
  exact List.mem_map.mpr ⟨(p.1, .int p.2), List.mem_map_of_mem hp, rfl⟩

omit [Unicode] in
/-- Publishing nested counts sets the child of every pair that occurs to its count and touches
no other child. -/
theorem lastWrite_publish (metric : Metric) (server : Str) (pairs : List (Str × Str)) (pair : Str × Str) :
    Dict.lastWrite (publishDomainPolicyMetric metric server (nestedJson (nestedCounts (Dict.counter pairs))))
        (metric, [server, pair.2, pair.1]) =
      if pair ∈ pairs then some ((pairs.countP fun q => decide (q = pair) : Nat) : Int) else none := by
  obtain ⟨⟨hdomains, hpolicies⟩, hget⟩ := nestedCounts_spec (Dict.nodup_keys_counter pairs)
  have hread : ∀ e ∈ nestedCounts (Dict.counter pairs), ∀ p ∈ e.2,
      Dict.get? (Dict.counter pairs) (e.1, p.1) = some p.2 := by
    intro e he p hp
    rw [← hget (e.1, p.1)]
    unfold nestedGet
    dsimp only
    rw [Dict.get?_of_mem hdomains he, Option.bind_some, Dict.get?_of_mem (hpolicies e he) hp]
  have hcount := Dict.get?_counter_countP pairs pair
  by_cases hpair : pair ∈ pairs
  · rw [if_pos hpair] at hcount ⊢
    obtain ⟨policies, hd, hp⟩ := Option.bind_eq_some_iff.mp ((hget pair).trans hcount)
    refine Dict.lastWrite_eq_some ?_ ?_
    · exact mem_publishDomainPolicyMetric_of (Dict.mem_of_get? hd)
        (Dict.mem_of_get? hp)
    · intro w hw hk
      obtain ⟨e, he, p, hp, rfl⟩ := mem_publishDomainPolicyMetric hw
      simp only [Prod.mk.injEq, List.cons.injEq, true_and, and_true] at hk
      have hread' := hread e he p hp
      rw [hk.1, hk.2, hcount] at hread'
      exact congrArg Int.ofNat (Option.some.inj hread').symm
  · rw [if_neg hpair] at hcount ⊢
    refine Dict.lastWrite_eq_none fun w hw hk => ?_
    obtain ⟨e, he, p, hp, rfl⟩ := mem_publishDomainPolicyMetric hw
    simp only [Prod.mk.injEq, List.cons.injEq, true_and, and_true] at hk
    have hread' := hread e he p hp
    rw [hk.1, hk.2, hcount] at hread'
    cases hread'

omit [Unicode] in
/-- Publishing one metric leaves the children of the others alone. -/
theorem lastWrite_publish_ne {metric metric' : Metric} (h : metric ≠ metric') (server : Str) (values : Json)
    (labels : List Str) :
    Dict.lastWrite (publishDomainPolicyMetric metric server values) (metric', labels) = none := by
  refine Dict.lastWrite_eq_none fun w hw hk => h ?_
  unfold publishDomainPolicyMetric at hw
  split at hw
  · obtain ⟨d, -, hw⟩ := List.mem_flatMap.mp hw
    split at hw
    · obtain ⟨p, -, rfl⟩ := List.mem_map.mp hw
      exact congrArg Prod.fst hk
    · simp at hw
  · simp at hw

/-! ## 2. One collection

The summary counts the pairs of the records, so what is written is a count of records of the
payload. -/

namespace PolicyGauge

/-- The (domain, policy) pairs of the records a gauge counts. -/
def pairs (parsed : Parsed) (g : PolicyGauge) : List (Str × Str) := (g.records parsed).map domainPolicyOf

/-- A collection that obtained and parsed its responses, of a class that publishes the gauge. -/
def carries (c : CollectorConfig) (g : PolicyGauge) (x : NetworkerCollection) : Bool :=
  match x.parsed c with
  | .ok (collectionClass, _, _) => g.carried collectionClass
  | .error _ => false

/-- The pairs of the records that a collection counts for a gauge. -/
def pairsOf (c : CollectorConfig) (g : PolicyGauge) (x : NetworkerCollection) : List (Str × Str) :=
  match x.parsed c with
  | .ok (_, _, parsed) => g.pairs parsed
  | .error _ => []

/-- The number of records of a pair. -/
def count (c : CollectorConfig) (g : PolicyGauge) (pair : Str × Str) (x : NetworkerCollection) : Int :=
  ((g.pairsOf c x).countP fun q => decide (q = pair) : Nat)

/-- What the child of a pair reads after a list of collections, `0` before it is first set. -/
def shown (c : CollectorConfig) (g : PolicyGauge) (pair : Str × Str) (xs : List NetworkerCollection) : Int :=
  Gauges.shown (NetworkerCollection.gaugeWrites c) 0 (g.child c.name pair) xs

theorem count_ne_zero {c : CollectorConfig} {g : PolicyGauge} {pair : Str × Str} {x : NetworkerCollection} :
    g.count c pair x ≠ 0 ↔ pair ∈ g.pairsOf c x := by
  rw [count, Ne, Int.natCast_eq_zero, List.countP_eq_zero]
  simp only [decide_eq_true_eq]
  refine ⟨fun h => ?_, fun h hall => hall pair h rfl⟩
  by_contra hmem
  exact h fun q hq heq => hmem (heq ▸ hq)

/-- The summary holds the counts of a gauge's pairs. -/
theorem summary_pairs {raw payloads : Obj} {server : Str} {source : Source} {parsed : Parsed}
    (h : ParsesTo payloads server source parsed) (g : PolicyGauge) :
    Obj.get (collectedSummary raw parsed) g.summaryKey = nestedJson (nestedCounts (Dict.counter (g.pairs parsed))) := by
  have hkey : g.summaryKey ≠ lit "job_count" ∧ g.summaryKey ≠ lit "backup_count" ∧
      g.summaryKey ≠ lit "total_backup_bytes" := by
    cases g <;> simp [summaryKey]
  have hsummary : g.summaryKey ≠ lit "source_networker" ∧ g.summaryKey ≠ lit "client_count_by_domain" ∧
      g.summaryKey ≠ lit "query_window" := by
    cases g <;> simp [summaryKey]
  rw [collectedSummary, get_markFailed hkey, h.get_summary hsummary]
  cases g <;> simp [buildSummary, summaryKey, pairs, records, statusCounts]

end PolicyGauge

/-- The label of the server is the collector's name. -/
theorem summary_server {raw payloads : Obj} {server : Str} {source : Source} {parsed : Parsed}
    (h : ParsesTo payloads server source parsed) : Obj.get (collectedSummary raw parsed) "server" = .str server := by
  rw [collectedSummary, get_markFailed (by simp), h.get_summary (by simp)]
  simp [buildSummary]

omit [Unicode] in
theorem lastWrite_jobGauges (name : Str) (summary : Obj) (g : PolicyGauge) (labels : List Str) :
    Dict.lastWrite (jobGauges.flatMap fun j => publishDomainPolicyMetric j.1 name (Obj.get summary j.2)) (g.metric, labels) =
      if g = .workflow then none
      else Dict.lastWrite (publishDomainPolicyMetric g.metric name (Obj.get summary g.summaryKey)) (g.metric, labels) := by
  simp only [jobGauges, List.flatMap_cons, List.flatMap_nil, List.append_nil, Dict.lastWrite_append]
  cases g <;> simp [PolicyGauge.metric, PolicyGauge.summaryKey, lastWrite_publish_ne]

/-- Of all a collection publishes, a gauge's children are set from its summary field only. -/
theorem lastWrite_publishMetrics {name : Str} {summary : Obj} (collectionClass : Option CollectionClass)
    (hserver : Obj.get summary "server" = .str name) (g : PolicyGauge) (labels : List Str) :
    Dict.lastWrite (publishMetrics name summary collectionClass) (g.metric, labels) =
      if g.carried collectionClass then
        Dict.lastWrite (publishDomainPolicyMetric g.metric name (Obj.get summary g.summaryKey)) (g.metric, labels)
      else none := by
  have hname : (if (Obj.get summary "server").truthy then Json.toStr (Obj.get summary "server") else name) = name := by
    rw [hserver]
    split <;> rfl
  have hparts : ∀ up clients jobs workflows : List GaugeWrite, Dict.lastWrite up (g.metric, labels) = none →
      Dict.lastWrite clients (g.metric, labels) = none →
      Dict.lastWrite (up ++ clients ++ jobs ++ workflows) (g.metric, labels) =
        (Dict.lastWrite workflows (g.metric, labels)).or (Dict.lastWrite jobs (g.metric, labels)) := by
    intro up clients jobs workflows hup hclients
    rw [Dict.lastWrite_append, Dict.lastWrite_append, Dict.lastWrite_append, hup, hclients, Option.or_none, Option.or_none]
  unfold publishMetrics
  dsimp only
  rw [hname]
  refine (hparts _ _ _ _ ?_ ?_).trans ?_
  · refine Dict.lastWrite_eq_none fun w hw hk => ?_
    rw [List.mem_singleton.mp hw] at hk
    cases g <;> cases congrArg Prod.fst hk
  · refine Dict.lastWrite_eq_none fun w hw hk => ?_
    split at hw
    · split at hw
      · obtain ⟨d, -, rfl⟩ := List.mem_map.mp hw
        cases g <;> cases congrArg Prod.fst hk
      · cases hw
    · cases hw
  · have hnil : Dict.lastWrite ([] : List GaugeWrite) (g.metric, labels) = none := rfl
    rw [apply_ite (Dict.lastWrite · (g.metric, labels)), apply_ite (Dict.lastWrite · (g.metric, labels)), hnil,
      lastWrite_jobGauges]
    cases g with
    | workflow =>
      simp only [PolicyGauge.carried, PolicyGauge.metric, PolicyGauge.summaryKey, if_true, ite_self, Option.or_none]
      rfl
    | _ =>
      simp only [PolicyGauge.metric, ne_eq, reduceCtorEq, not_false_eq_true, lastWrite_publish_ne, ite_self, if_false,
        Option.none_or, PolicyGauge.carried]
      rfl

namespace PolicyGauge

variable {c : CollectorConfig} {g : PolicyGauge} {x : NetworkerCollection}

/-- A collection that carries a gauge sets the children of the pairs that occur, to their counts,
and no others. -/
theorem gaugeWrites_sets (hcarries : g.carries c x = true) (pair : Str × Str) :
    Gauges.Sets (NetworkerCollection.gaugeWrites c) (g.count c pair) 0 (g.child c.name pair) x := by
  unfold carries at hcarries
  split at hcarries
  · rename_i collectionClass payloads parsed hparsed
    obtain ⟨schedules, hschedules, hrest⟩ := bind_eq_ok.mp hparsed
    obtain ⟨raw, hraw, hrest⟩ := bind_eq_ok.mp hrest
    obtain ⟨parsed', hparse, hrest⟩ := bind_eq_ok.mp hrest
    obtain ⟨-, rfl, rfl⟩ : _ ∧ raw = payloads ∧ parsed' = parsed := by simpa using Except.ok.inj hrest
    obtain ⟨source, -, hto⟩ := parse_eq_ok hparse
    have hpairs : g.pairsOf c x = g.pairs parsed' := by rw [pairsOf, hparsed]
    have hwrites : x.gaugeWrites c = publishMetrics c.name (collectedSummary raw parsed') collectionClass := by
      rw [NetworkerCollection.gaugeWrites, hparsed]
    unfold Gauges.Sets
    rw [hwrites, child, lastWrite_publishMetrics collectionClass (summary_server hto), if_pos hcarries, summary_pairs hto,
      lastWrite_publish]
    by_cases hmem : pair ∈ g.pairs parsed'
    · rw [if_pos hmem, if_neg (count_ne_zero.mpr (hpairs ▸ hmem)), count, hpairs]
    · have hzero : g.count c pair x = 0 := by
        by_contra hne
        exact hmem (hpairs ▸ count_ne_zero.mp hne)
      rw [if_neg hmem, if_pos hzero]
  · cases hcarries

/-- A collection that does not carry a gauge leaves its children alone. -/
theorem gaugeWrites_skips (hcarries : g.carries c x = false) (pair : Str × Str) :
    Dict.lastWrite (x.gaugeWrites c) (g.child c.name pair) = none := by
  unfold carries at hcarries
  split at hcarries
  · rename_i collectionClass payloads parsed hparsed
    obtain ⟨schedules, hschedules, hrest⟩ := bind_eq_ok.mp hparsed
    obtain ⟨raw, hraw, hrest⟩ := bind_eq_ok.mp hrest
    obtain ⟨parsed', hparse, hrest⟩ := bind_eq_ok.mp hrest
    obtain ⟨-, rfl, rfl⟩ : _ ∧ raw = payloads ∧ parsed' = parsed := by simpa using Except.ok.inj hrest
    obtain ⟨source, -, hto⟩ := parse_eq_ok hparse
    rw [NetworkerCollection.gaugeWrites, hparsed]
    dsimp only
    rw [child, lastWrite_publishMetrics collectionClass (summary_server hto), hcarries]
    rfl
  · rename_i e hparsed
    rw [NetworkerCollection.gaugeWrites, hparsed]
    rfl

/-! ## 3. A history

`FollowsLatest` asks for all pairs of the history at once, also those that only a later collection
or another gauge has seen; the law is for one gauge and one pair. -/

/-- After each collection that carries a gauge, the child of every pair published in the history
is the number of the collection's records with that pair. -/
def FollowsLatest (c : CollectorConfig) (xs : List NetworkerCollection) : Prop :=
  ∀ earlier x, earlier ++ [x] <+: xs → ∀ g : PolicyGauge, g.carries c x = true →
    ∀ pair, (∃ y ∈ xs, ∃ g' : PolicyGauge, g'.carries c y = true ∧ pair ∈ g'.pairsOf c y) →
      g.shown c pair (earlier ++ [x]) = g.count c pair x

/-- **The gauges of a server follow its latest collections exactly when no pair goes away**: one
that a gauge counts in a collection it counts in every later one that carries the gauge.  It is the
records of the GAUGE that must not go away; a policy may have other jobs. -/
theorem followsLatest_iff (c : CollectorConfig) (xs : List NetworkerCollection) :
    FollowsLatest c xs ↔
      ∀ g : PolicyGauge, (xs.filter (g.carries c)).Pairwise fun x y => ∀ pair ∈ g.pairsOf c x, pair ∈ g.pairsOf c y := by
  have hlaw : ∀ (g : PolicyGauge) (pair : Str × Str),
      (∀ earlier x, earlier ++ [x] <+: xs → g.carries c x = true →
        g.shown c pair (earlier ++ [x]) = g.count c pair x) ↔
      (xs.filter (g.carries c)).Pairwise fun x y => pair ∈ g.pairsOf c x → pair ∈ g.pairsOf c y := by
    intro g pair
    have hsets : ∀ x ∈ xs, g.carries c x = true →
        Gauges.Sets (NetworkerCollection.gaugeWrites c) (g.count c pair) 0 (g.child c.name pair) x :=
      fun x _ hx => gaugeWrites_sets hx pair
    have h := Gauges.shows_carried_iff hsets fun x _ hx => gaugeWrites_skips hx pair
    unfold Gauges.Lasting at h
    simp only [count_ne_zero] at h
    exact h
  constructor
  · intro h g
    rw [List.pairwise_iff_getElem]
    intro i j hi hj hij pair hpair
    have hy := List.getElem_mem hi
    have hshows := (hlaw g pair).mp fun earlier x hp hx =>
      h earlier x hp g hx pair ⟨_, List.mem_of_mem_filter hy, g, List.of_mem_filter hy, hpair⟩
    exact List.pairwise_iff_getElem.mp hshows i j hi hj hij hpair
  · intro h earlier x hp g hx pair _
    exact (hlaw g pair).mpr ((h g).imp fun hxy => hxy pair) earlier x hp hx

end PolicyGauge

end Policies

section Example

attribute [local instance] Unicode.ascii

/-- A collection of everything that received the given jobs. -/
def jobCollection (jobs : List Json) : NetworkerCollection where
  collectionClass := .fast
  raw := .ok [("jobs", .obj [("jobs", .arr jobs)])]
  clock := ⟨63922494600000000, by decide⟩
  collectedAt := ⟨63922494600000000, by decide⟩

/-- A failed job of the policy Gold. -/
def failedGold : Json :=
  .obj [("id", .str "1"), ("policyName", .str "Gold"), ("completionStatus", .str "Failed")]

/-- The failed job has left the window, and the gauge of its policy still reads `1`. -/
theorem not_followsLatest_gone : ¬ PolicyGauge.FollowsLatest networkerCore [jobCollection [failedGold], jobCollection []] := by
  have hseen : PolicyGauge.failed.carries networkerCore (jobCollection [failedGold]) = true ∧
      (lit "core", lit "Gold") ∈ PolicyGauge.failed.pairsOf networkerCore (jobCollection [failedGold]) := by decide +kernel
  have hcarries : PolicyGauge.failed.carries networkerCore (jobCollection []) = true := by decide +kernel
  have hshown : PolicyGauge.failed.shown networkerCore ("core", "Gold") [jobCollection [failedGold], jobCollection []] = 1 := by
    decide +kernel
  have hcount : PolicyGauge.failed.count networkerCore ("core", "Gold") (jobCollection []) = 0 := by decide +kernel
  intro h
  have hsame := h [jobCollection [failedGold]] (jobCollection []) (List.prefix_refl _) .failed hcarries ("core", "Gold")
    ⟨jobCollection [failedGold], by simp, .failed, hseen.1, hseen.2⟩
  rw [List.singleton_append, hshown, hcount] at hsame
  cases hsame

end Example

end BackupCollector
