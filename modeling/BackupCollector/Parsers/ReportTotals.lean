/-
# The totals of the summary and the report

The summary counts the jobs twice, by policy and by domain and policy, and the report counts them a
third time in its rows.  The three use different keys and different defaults for a missing name, so
that they agree is not visible in any one of them.  They do agree, for whatever the parser returns
(`totals_agree`).

The argument is one of conservation.  Every record of the report adds to exactly one row, the one
of its key, and leaves every other row and every other field alone; so what the rows of a field add
up to grows by what the record adds, WHATEVER rows there are.  A pass adds the amounts of its
records, and the three passes are independent because they add to different fields.  No row needs
to be found for this, and no key to be known.

That two rows never have one key is a second fact and has a condition: the records must have one
domain.  The parser sees to it, since it sets the configured source on every record before the
report is built.

Not covered: the terabytes and the clients of a row, which are set when the rows are closed and are
not added up.
-/
import BackupCollector.Parsers.NestedCounts
import BackupCollector.Parsers.Totality

namespace BackupCollector

open Py

/-! ## 1. What the passes add

A field is added up over all rows.  `reportRecord` is the only thing a pass does. -/

/-- What the rows add up to in a field. -/
def fieldTotal (f : Str) (rows : Dict (Str × Str × Str) Obj) : Int := Dict.total (fun row => intField row f) rows

theorem intField_set_of_ne (row : Obj) {k f : Str} (v : Json) (h : k ≠ f) : intField (Dict.set row k v) f = intField row f := by
  unfold intField
  rw [Obj.get_set, if_neg h]

/-- The fields that name a row. -/
def namingKeys : List Str := ["security_domain", "policy_name", "workflow_name", "source_networker"]

/-- One record adds its amount. -/
theorem fieldTotal_reportRecord {server : Str} {now : Instant} {count : Obj → Obj → Obj} {amount : Obj → Int} {f : Str}
    (hf : f ∉ namingKeys) (hzero : intField (emptyRow server now) f = 0)
    (hcount : ∀ row r, intField (count row r) f = intField row f + amount r) (rows : Dict (Str × Str × Str) Obj) (r : Obj) :
    fieldTotal f (reportRecord server now count rows r) = fieldTotal f rows + amount r := by
  simp only [namingKeys, List.mem_cons, List.not_mem_nil, or_false, not_or] at hf
  obtain ⟨h1, h2, h3, h4⟩ := hf
  unfold fieldTotal reportRecord
  dsimp only
  rw [Dict.total_modify (m := fun row => intField row f) _ _ hzero]
  simp only [hcount, intField_set_of_ne _ _ (Ne.symm h1), intField_set_of_ne _ _ (Ne.symm h2),
    intField_set_of_ne _ _ (Ne.symm h3), intField_set_of_ne _ _ (Ne.symm h4)]
  ring

/-- A pass adds the amounts of its records. -/
theorem fieldTotal_pass {server : Str} {now : Instant} {count : Obj → Obj → Obj} {amount : Obj → Int} {f : Str}
    (hf : f ∉ namingKeys) (hzero : intField (emptyRow server now) f = 0)
    (hcount : ∀ row r, intField (count row r) f = intField row f + amount r) (records : List Obj)
    (rows : Dict (Str × Str × Str) Obj) :
    fieldTotal f (records.foldl (reportRecord server now count) rows) = fieldTotal f rows + (records.map amount).sum := by
  induction records generalizing rows with
  | nil => exact (Int.add_zero _).symm
  | cons r records ih =>
    rw [List.foldl_cons, ih, fieldTotal_reportRecord hf hzero hcount, List.map_cons, List.sum_cons, Int.add_assoc]

theorem sum_zero (records : List Obj) : (records.map fun _ => (0 : Int)).sum = 0 := by
  induction records with
  | nil => rfl
  | cons r records ih => rw [List.map_cons, List.sum_cons, ih, Int.zero_add]

theorem sum_ones (records : List Obj) : (records.map fun _ => (1 : Int)).sum = records.length := by
  induction records with
  | nil => rfl
  | cons r records ih =>
    rw [List.map_cons, List.sum_cons, ih, List.length_cons]
    push_cast
    ring

theorem sum_indicator (p : Obj → Bool) (records : List Obj) :
    (records.map fun r => if p r = true then (1 : Int) else 0).sum = (records.filter p).length := by
  induction records with
  | nil => rfl
  | cons r records ih =>
    rw [List.map_cons, List.sum_cons, ih, List.filter_cons]
    split
    · rw [List.length_cons]
      push_cast
      ring
    · exact Int.zero_add _

/-! ## 2. The counters of a row

The three statuses that are counted exclude each other, so a job adds one to at most one of three
fields. -/

/-- The statuses that are counted: the name of each, its field in a row, and its fields in the summary. -/
structure CountedStatus where
  status : Str
  rowField : Str
  byPolicy : Str
  byDomainPolicy : Str

def countedStatuses : List CountedStatus := [
  ⟨"success", "job_success_count", "job_success_count_by_policy", "job_success_count_by_domain_policy"⟩,
  ⟨"failed", "job_failed_count", "job_failed_count_by_policy", "job_failed_count_by_domain_policy"⟩,
  ⟨"running", "job_running_count", "job_running_count_by_policy", "job_running_count_by_domain_policy"⟩]

theorem hasStatus_excl {s t : Str} {job : Obj} (hne : s ≠ t) (h : hasStatus s job = true) : hasStatus t job = false := by
  have hs : Obj.get job "status" = .str s := of_decide_eq_true h
  refine decide_eq_false fun ht => hne ?_
  exact Json.str.inj (hs.symm.trans ht)

/-- A job counts for its own status. -/
theorem countJob_counts {s : CountedStatus} (hs : s ∈ countedStatuses) (row job : Obj) :
    intField (countJob row job) s.rowField = intField row s.rowField + if hasStatus s.status job = true then 1 else 0 := by
  simp only [countedStatuses, List.mem_cons, List.not_mem_nil, or_false] at hs
  unfold countJob
  rcases hs with rfl | rfl | rfl
  · by_cases h1 : hasStatus "success" job = true
    · rw [if_pos h1, if_pos h1, intField_addTo_self]
    · rw [if_neg h1, if_neg h1, Int.add_zero]
      split
      · exact intField_addTo_of_ne _ _ (by decide)
      · split
        · exact intField_addTo_of_ne _ _ (by decide)
        · rfl
  · by_cases h1 : hasStatus "success" job = true
    · have h2 := hasStatus_excl (t := lit "failed") (by decide) h1
      rw [if_pos h1, h2, intField_addTo_of_ne _ _ (by decide)]
      exact (Int.add_zero _).symm
    · rw [if_neg h1]
      by_cases h2 : hasStatus "failed" job = true
      · rw [if_pos h2, if_pos h2, intField_addTo_self]
      · rw [if_neg h2, if_neg h2, Int.add_zero]
        split
        · exact intField_addTo_of_ne _ _ (by decide)
        · rfl
  · by_cases h1 : hasStatus "success" job = true
    · have h3 := hasStatus_excl (t := lit "running") (by decide) h1
      rw [if_pos h1, h3, intField_addTo_of_ne _ _ (by decide)]
      exact (Int.add_zero _).symm
    · rw [if_neg h1]
      by_cases h2 : hasStatus "failed" job = true
      · have h3 := hasStatus_excl (t := lit "running") (by decide) h2
        rw [if_pos h2, h3, intField_addTo_of_ne _ _ (by decide)]
        exact (Int.add_zero _).symm
      · rw [if_neg h2]
        by_cases h3 : hasStatus "running" job = true
        · rw [if_pos h3, if_pos h3, intField_addTo_self]
        · rw [if_neg h3, if_neg h3, Int.add_zero]

/-- It leaves the other fields alone. -/
theorem countJob_leaves {f : Str} (hf : f ∉ countedStatuses.map CountedStatus.rowField) (row job : Obj) :
    Obj.get (countJob row job) f = Obj.get row f := by
  simp only [countedStatuses, List.map_cons, List.map_nil, List.mem_cons, List.not_mem_nil, or_false, not_or] at hf
  obtain ⟨h1, h2, h3⟩ := hf
  unfold countJob addTo
  split
  · rw [Obj.get_set, if_neg (Ne.symm h1)]
  · split
    · rw [Obj.get_set, if_neg (Ne.symm h2)]
    · split
      · rw [Obj.get_set, if_neg (Ne.symm h3)]
      · rfl

/-! ## 3. One row a key

A row is found by a key of three texts and carries the same three texts as fields.  That the two
stay together is the invariant of a pass. -/

/-- The domain, the policy and the workflow of a row. -/
def rowKey (row : Obj) : Str × Str × Str :=
  (textField row "security_domain", textField row "policy_name", textField row "workflow_name")

/-- Distinct keys of one domain, and every row is named by its key.  A pass over records of the
domain keeps it, whatever they count. -/
structure Keyed (domain : Str) (rows : Dict (Str × Str × Str) Obj) : Prop where
  nodup : (Dict.keys rows).Nodup
  named : ∀ p ∈ rows, rowKey p.2 = p.1 ∧ p.1.1 = domain

theorem rowKey_congr {row row' : Obj} (h : ∀ k ∈ namingKeys, Obj.get row' k = Obj.get row k) : rowKey row' = rowKey row := by
  unfold rowKey textField
  rw [h (lit "security_domain") (by simp [namingKeys]), h (lit "policy_name") (by simp [namingKeys]),
    h (lit "workflow_name") (by simp [namingKeys])]

theorem Keyed.pass {domain server : Str} {now : Instant} {count : Obj → Obj → Obj}
    (hcount : ∀ row r, ∀ k ∈ namingKeys, Obj.get (count row r) k = Obj.get row k) {records : List Obj}
    (hrecords : ∀ r ∈ records, textField r "security_domain" = domain) {rows : Dict (Str × Str × Str) Obj}
    (h : Keyed domain rows) : Keyed domain (records.foldl (reportRecord server now count) rows) := by
  induction records generalizing rows with
  | nil => exact h
  | cons r records ih =>
    rw [List.forall_mem_cons] at hrecords
    refine ih hrecords.2 ⟨Dict.nodup_keys_set h.nodup _ _, fun p hp => ?_⟩
    rcases Dict.mem_set hp with hp | rfl
    · exact h.named p hp
    · refine ⟨(rowKey_congr (hcount _ r)).trans ?_, hrecords.1⟩
      simp [rowKey, textField, Obj.get_set, Json.asStr?]

/-! ## 4. The report

The report is its rows with a few more fields set, and none of those is added up. -/

/-- The fields the report sets last. -/
def closingKeys : List Str := ["total_backup_tb", "client_count"]

/-- The rows of a report before it closes them: a pass over the workflows, one over the backups and
one over the jobs. -/
def reportRows (server : Str) (now : Instant) (jobs workflows backups : List Obj) : Dict (Str × Str × Str) Obj :=
  jobs.foldl (reportRecord server now countJob)
    (backups.foldl (reportRecord server now fun row b => addTo row "total_backup_bytes" (intField b "size_bytes"))
      (workflows.foldl (reportRecord server now fun row _ => addTo row "workflow_count" 1) []))

/-- The report keeps its rows, but for the fields it sets last. -/
theorem rows_of_report {server : Str} {now : Instant} {jobs clients workflows backups report : List Obj}
    (h : buildMonthlyReport server now jobs clients workflows backups = .ok report) :
    List.Forall₂ (fun row row' : Obj => ∀ k, k ∉ closingKeys → Obj.get row' k = Obj.get row k)
      (Dict.values (reportRows server now jobs workflows backups)) report := by
  refine List.Forall₂.imp (fun row row' hrow k hk => ?_) (mapM_eq_ok.mp h)
  obtain ⟨tb, -, hrow⟩ := bind_eq_ok.mp hrow
  simp only [closingKeys, List.mem_cons, List.not_mem_nil, or_false, not_or] at hk
  rw [← Except.ok.inj hrow, Obj.get_set, if_neg (Ne.symm hk.2), Obj.get_set, if_neg (Ne.symm hk.1)]

/-- What the rows of a report add up to in a field. -/
def rowsTotal (f : Str) (report : List Obj) : Int := (report.map fun row => intField row f).sum

theorem rowsTotal_of_rows {f : Str} (hf : f ∉ closingKeys) {rows report : List Obj}
    (h : List.Forall₂ (fun row row' : Obj => ∀ k, k ∉ closingKeys → Obj.get row' k = Obj.get row k) rows report) :
    rowsTotal f report = (rows.map fun row => intField row f).sum := by
  unfold rowsTotal
  induction h with
  | nil => rfl
  | cons hrow _ ih =>
    rw [List.map_cons, List.map_cons, List.sum_cons, List.sum_cons, ih]
    unfold intField
    rw [hrow f hf]

/-- What a report adds up to in a field: what its three passes add. -/
theorem rowsTotal_report {server : Str} {now : Instant} {jobs clients workflows backups report : List Obj}
    (h : buildMonthlyReport server now jobs clients workflows backups = .ok report) {f : Str}
    (hnaming : f ∉ namingKeys) (hclosing : f ∉ closingKeys) (hzero : intField (emptyRow server now) f = 0)
    {ofJob ofBackup ofWorkflow : Obj → Int}
    (hjob : ∀ row r, intField (countJob row r) f = intField row f + ofJob r)
    (hbackup : ∀ row r : Obj, intField (addTo row "total_backup_bytes" (intField r "size_bytes")) f =
      intField row f + ofBackup r)
    (hworkflow : ∀ row r : Obj, intField (addTo row "workflow_count" 1) f = intField row f + ofWorkflow r) :
    rowsTotal f report = (workflows.map ofWorkflow).sum + (backups.map ofBackup).sum + (jobs.map ofJob).sum := by
  rw [rowsTotal_of_rows hclosing (rows_of_report h)]
  change fieldTotal f (reportRows server now jobs workflows backups) = _
  unfold reportRows
  rw [fieldTotal_pass hnaming hzero hjob, fieldTotal_pass hnaming hzero hbackup, fieldTotal_pass hnaming hzero hworkflow]
  change 0 + _ + _ + _ = _
  rw [Int.zero_add]

/-- The rows are named by their keys, when the records have one domain. -/
theorem reportRows_keyed {domain server : Str} {now : Instant} {jobs workflows backups : List Obj}
    (hjobs : ∀ r ∈ jobs, textField r "security_domain" = domain)
    (hbackups : ∀ r ∈ backups, textField r "security_domain" = domain)
    (hworkflows : ∀ r ∈ workflows, textField r "security_domain" = domain) :
    Keyed domain (reportRows server now jobs workflows backups) := by
  have hadd : ∀ (key : Str) (n : Int), key ∉ namingKeys → ∀ row : Obj, ∀ k ∈ namingKeys,
      Obj.get (addTo row key n) k = Obj.get row k := by
    intro key n hkey row k hk
    unfold addTo
    rw [Obj.get_set, if_neg (fun heq : key = k => hkey (heq ▸ hk))]
  have hempty : Keyed domain [] := ⟨List.nodup_nil, fun p hp => (nomatch hp)⟩
  unfold reportRows
  refine Keyed.pass (fun row r k hk => countJob_leaves (by revert k; decide) row r) hjobs ?_
  refine Keyed.pass (fun row r => hadd "total_backup_bytes" (intField r "size_bytes") (by decide) row) hbackups ?_
  exact hempty.pass (fun row _ => hadd "workflow_count" 1 (by decide) row) hworkflows

/-- No two rows of a report have one key, when the records have one domain. -/
theorem rowKeys_of_report {domain server : Str} {now : Instant} {jobs clients workflows backups report : List Obj}
    (h : buildMonthlyReport server now jobs clients workflows backups = .ok report)
    (hkeyed : Keyed domain (reportRows server now jobs workflows backups)) :
    report.map rowKey = Dict.keys (reportRows server now jobs workflows backups) := by
  have hnamed : (Dict.values (reportRows server now jobs workflows backups)).map rowKey =
      Dict.keys (reportRows server now jobs workflows backups) := by
    unfold Dict.values Dict.keys
    rw [List.map_map]
    exact List.map_congr_left fun p hp => (hkeyed.named p hp).1
  have hsame : ∀ {rows closed : List Obj},
      List.Forall₂ (fun row row' : Obj => ∀ k, k ∉ closingKeys → Obj.get row' k = Obj.get row k) rows closed →
        closed.map rowKey = rows.map rowKey := by
    intro rows closed hrows
    induction hrows with
    | nil => rfl
    | cons hrow _ ih =>
      rw [List.map_cons, List.map_cons, ih, rowKey_congr fun k hk => hrow k (by revert k; decide)]
  rw [← hnamed]
  exact hsame (rows_of_report h)

/-! ## 5. The summary

In the summary each status has two counters, and each of them adds up to the jobs of that status. -/

/-- The sum of the numbers of a dictionary. -/
def valuesTotal : Json → Int
  | .obj d => (d.map fun e => match e.2 with
    | .int n => n
    | _ => 0).sum
  | _ => 0

/-- The sum of the numbers of the dictionaries of a dictionary. -/
def nestedValuesTotal : Json → Int
  | .obj d => (d.map fun e => valuesTotal e.2).sum
  | _ => 0

theorem valuesTotal_countsJson (counts : Dict Str Nat) :
    valuesTotal (.obj (countsJson counts)) = Dict.total (fun n : Nat => (n : Int)) counts := by
  unfold valuesTotal countsJson Dict.total Dict.values
  dsimp only
  rw [List.map_map, List.map_map]
  rfl

theorem nestedValuesTotal_nestedJson (nested : Dict Str (Dict Str Nat)) :
    nestedValuesTotal (nestedJson nested) = nestedTotal nested := by
  unfold nestedValuesTotal nestedJson nestedTotal
  dsimp only
  rw [List.map_map]
  have hcounts : (fun e : Str × Json => valuesTotal e.2) ∘ (fun p : Str × Dict Str Nat => (p.1, Json.obj (countsJson p.2))) =
      fun p => Dict.total (fun n : Nat => (n : Int)) p.2 := funext fun p => valuesTotal_countsJson p.2
  rw [hcounts]
  unfold Dict.total Dict.values
  rw [List.map_map]
  rfl

/-- The jobs of a status, counted by policy and by domain and policy. -/
theorem summary_counts {server : Str} {jobs clients policies workflows backups : List Obj} {s : CountedStatus}
    (hs : s ∈ countedStatuses) :
    valuesTotal (Obj.get (buildSummary server jobs clients policies workflows backups) s.byPolicy) =
        (jobs.filter (hasStatus s.status)).length ∧
      nestedValuesTotal (Obj.get (buildSummary server jobs clients policies workflows backups) s.byDomainPolicy) =
        (jobs.filter (hasStatus s.status)).length := by
  have hpolicy : Obj.get (buildSummary server jobs clients policies workflows backups) s.byPolicy =
      .obj (countsJson (Dict.counter ((jobs.filter (hasStatus s.status)).map policyOf))) := by
    simp only [countedStatuses, List.mem_cons, List.not_mem_nil, or_false] at hs
    rcases hs with rfl | rfl | rfl <;> rfl
  have hdomain : Obj.get (buildSummary server jobs clients policies workflows backups) s.byDomainPolicy =
      nestedJson (nestedCounts (statusCounts s.status jobs)) := by
    simp only [countedStatuses, List.mem_cons, List.not_mem_nil, or_false] at hs
    rcases hs with rfl | rfl | rfl <;> rfl
  rw [hpolicy, hdomain, valuesTotal_countsJson, nestedValuesTotal_nestedJson, Dict.total_counter]
  unfold statusCounts
  rw [nestedTotal_counter]
  simp

/-- The summary and the report count the same: each status three times over, the bytes, and the
workflows; and the report has one row a key. -/
structure TotalsAgree (p : Parsed) : Prop where
  jobs : ∀ s ∈ countedStatuses,
    rowsTotal s.rowField p.monthlyReport = (p.jobs.filter (hasStatus s.status)).length ∧
    valuesTotal (Obj.get p.summary s.byPolicy) = (p.jobs.filter (hasStatus s.status)).length ∧
    nestedValuesTotal (Obj.get p.summary s.byDomainPolicy) = (p.jobs.filter (hasStatus s.status)).length
  bytes : Obj.get p.summary "total_backup_bytes" = .int (rowsTotal "total_backup_bytes" p.monthlyReport)
  workflows : rowsTotal "workflow_count" p.monthlyReport = p.workflows.length ∧
    valuesTotal (Obj.get p.summary "workflow_count_by_policy") = p.workflows.length
  distinct : (p.monthlyReport.map rowKey).Nodup

/-! ## 6. One parse

The classification comes between the response and the report.  It changes neither what a record
counts for nor the row it is counted in. -/

section Agreement

variable [Unicode]

theorem rowsTotal_classified {f : Str} (hf : f ∉ classificationKeys) (source : Source) (report : List Obj) :
    rowsTotal f (report.map (classifyRecord source)) = rowsTotal f report := by
  unfold rowsTotal
  rw [List.map_map]
  refine congrArg List.sum (List.map_congr_left fun row _ => ?_)
  change intField (classifyRecord source row) f = intField row f
  unfold intField
  rw [get_classifyRecord_of_notMem hf]

/-- The classification moves no row to another key. -/
theorem rowKey_classified {source : Source} {row : Obj} (h : (rowKey row).1 = source.name) :
    rowKey (classifyRecord source row) = rowKey row := by
  have hdomain : textField (classifyRecord source row) "security_domain" = textField row "security_domain" := by
    conv_lhs => rw [textField, (classifyRecord_classified source row).security_domain]
    exact h.symm
  have hkept : ∀ k, k ∉ classificationKeys → textField (classifyRecord source row) k = textField row k := by
    intro k hk
    unfold textField
    rw [get_classifyRecord_of_notMem hk]
  unfold rowKey
  rw [hdomain, hkept _ (by decide), hkept _ (by decide)]

theorem textField_classified (source : Source) (record : Obj) :
    textField (classifyRecord source record) "security_domain" = source.name := by
  unfold textField
  rw [(classifyRecord_classified source record).security_domain]
  rfl

/-- **Summary and report totals agree** in whatever the parser returns: the jobs of each status, by
policy, by domain and policy and over the rows of the report; the bytes of the backups; and the
workflows.  And no two rows are of one key.  A parse that raises has no totals to compare. -/
theorem totals_agree {payloads : Obj} {serverName : Str} {sourceNetworker : Json} {now : Instant} {p : Parsed}
    (h : parseNetworkerRestPayload payloads serverName sourceNetworker now = .ok p) : TotalsAgree p := by
  obtain ⟨source, report, hto, hreport, hrows⟩ := report_of_parse h
  have hdomain : ∀ records : List Obj, ∀ r ∈ records.map (classifyRecord source),
      textField r "security_domain" = source.name := by
    intro records r hr
    obtain ⟨record, -, rfl⟩ := List.mem_map.mp hr
    exact textField_classified source record
  constructor
  case jobs =>
    intro s hs
    have hfields : s.rowField ∉ namingKeys ∧ s.rowField ∉ closingKeys ∧ s.rowField ∉ classificationKeys ∧
        intField (emptyRow serverName now) s.rowField = 0 ∧ s.rowField ≠ lit "total_backup_bytes" ∧
        s.rowField ≠ lit "workflow_count" := by
      simp only [countedStatuses, List.mem_cons, List.not_mem_nil, or_false] at hs
      rcases hs with rfl | rfl | rfl <;> exact ⟨by decide, by decide, by decide, rfl, by decide, by decide⟩
    obtain ⟨hnaming, hclosing, hclass, hzero, hbytes, hworkflow⟩ := hfields
    have hkeys : (s.byPolicy ≠ lit "source_networker" ∧ s.byPolicy ≠ lit "client_count_by_domain" ∧
        s.byPolicy ≠ lit "query_window") ∧ s.byDomainPolicy ≠ lit "source_networker" ∧
          s.byDomainPolicy ≠ lit "client_count_by_domain" ∧ s.byDomainPolicy ≠ lit "query_window" := by
      simp only [countedStatuses, List.mem_cons, List.not_mem_nil, or_false] at hs
      rcases hs with rfl | rfl | rfl <;> decide
    have htotal := rowsTotal_report hreport hnaming hclosing hzero (countJob_counts hs)
      (fun row r => (intField_addTo_of_ne row (intField r "size_bytes") (Ne.symm hbytes)).trans (Int.add_zero _).symm)
      (fun row _ => (intField_addTo_of_ne row 1 (Ne.symm hworkflow)).trans (Int.add_zero _).symm)
    refine ⟨?_, ?_⟩
    · rw [hrows, rowsTotal_classified hclass, htotal, sum_zero, sum_zero, sum_indicator, Int.add_zero, Int.zero_add]
    · rw [hto.get_summary hkeys.1, hto.get_summary hkeys.2]
      exact summary_counts hs
  case bytes =>
    have htotal := rowsTotal_report hreport (f := "total_backup_bytes") (by decide) (by decide) rfl
      (fun row r => (by
        unfold intField
        rw [countJob_leaves (by decide)]
        exact (Int.add_zero _).symm))
      (fun row r => intField_addTo_self row "total_backup_bytes" (intField r "size_bytes"))
      (fun row _ => (intField_addTo_of_ne row 1 (by decide)).trans (Int.add_zero _).symm)
    have hsummary : Obj.get p.summary "total_backup_bytes" = .int (p.backups.map (intField · "size_bytes")).sum := by
      rw [hto.get_summary (by decide)]
      rfl
    rw [hsummary, hrows, rowsTotal_classified (by decide), htotal, sum_zero, sum_zero, Int.zero_add, Int.add_zero]
  case workflows =>
    have htotal := rowsTotal_report hreport (f := "workflow_count") (by decide) (by decide) rfl
      (fun row r => (by
        unfold intField
        rw [countJob_leaves (by decide)]
        exact (Int.add_zero _).symm))
      (fun row r => (intField_addTo_of_ne row (intField r "size_bytes") (by decide)).trans (Int.add_zero _).symm)
      (fun row _ => intField_addTo_self row "workflow_count" 1)
    refine ⟨?_, ?_⟩
    · rw [hrows, rowsTotal_classified (by decide), htotal, sum_zero, sum_zero, sum_ones, Int.add_zero, Int.add_zero]
    · have hsummary : Obj.get p.summary "workflow_count_by_policy" =
          .obj (countsJson (Dict.counter (p.workflows.map policyOf))) := by
        rw [hto.get_summary (by decide)]
        rfl
      rw [hsummary, valuesTotal_countsJson, Dict.total_counter, List.length_map]
  case distinct =>
    obtain ⟨jobs, hjobs, -⟩ := hto.jobs
    obtain ⟨backups, hbackups, -⟩ := hto.backups
    have hkeyed : Keyed source.name (reportRows serverName now p.jobs p.workflows p.backups) := by
      refine reportRows_keyed ?_ ?_ ?_
      · rw [hjobs]
        exact hdomain jobs
      · rw [hbackups]
        exact hdomain backups
      · rw [hto.workflows]
        exact hdomain _
    have hkeys := rowKeys_of_report hreport hkeyed
    have hsame : p.monthlyReport.map rowKey = report.map rowKey := by
      rw [hrows, List.map_map]
      refine List.map_congr_left fun row hrow => rowKey_classified ?_
      have hmem : rowKey row ∈ Dict.keys (reportRows serverName now p.jobs p.workflows p.backups) := by
        rw [← hkeys]
        exact List.mem_map_of_mem hrow
      obtain ⟨entry, hentry, heq⟩ := List.mem_map.mp hmem
      rw [← heq]
      exact (hkeyed.named entry hentry).2
    rw [hsame, hkeys]
    exact hkeyed.nodup

end Agreement

section OnePayload

attribute [local instance] Unicode.ascii

/-- A failed job without a policy, two backups of one policy, and a policy with a workflow. -/
def mixedPayload : Obj := [
  ("jobs", .obj [("jobs", .arr [.obj [("id", .str "1"), ("completionStatus", .str "Failed")]])]),
  ("backups", .arr [
    .obj [("id", .str "b1"), ("policyName", .str "Gold"), ("size", .int 5)],
    .obj [("id", .str "b2"), ("policyName", .str "Gold"), ("size", .int 7)]]),
  ("policies", .arr [.obj [("name", .str "Gold"), ("workflows", .arr [.obj [("name", .str "daily")]])]])]

theorem totals_agree_mixed : ∃ p, parseNetworkerRestPayload mixedPayload "nw01" (.str "core") ⟨60000000, by decide⟩ = .ok p ∧
    TotalsAgree p := by
  obtain ⟨p, hp⟩ := ok_of_isOk (x := parseNetworkerRestPayload mixedPayload "nw01" (.str "core") ⟨60000000, by decide⟩)
    (by decide +kernel)
  exact ⟨p, hp, totals_agree hp⟩

end OnePayload

end BackupCollector
