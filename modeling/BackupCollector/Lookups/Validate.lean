/-
# Execution checks

Independently of what the backups say, the copies of the action's job, of its workflow job and of
the save jobs that name it are checked against each other.  A reason BLOCKS a key when the copies
contradict each other, and keeps it PENDING when something is missing; the difference matters,
since what is missing may still come and a contradiction does not go away.

The checks follow the hierarchy of NetWorker jobs: a workflow job with a root of its own, actions
below it, saves below an action.  A save job names its action as parent, and is checked for it; it
is never associated by its client or by its root.  The times have to be nested, an action within
its workflow.

Only copies of the action's own source take part, since everything is looked up under keys that
carry it.  What the checks leave when nothing is wrong is in `Publication`; where a reason comes
from is in `Reasons`; that the order of the copies does not matter is in `Verdicts` and
`Selection`.
-/
import BackupCollector.Lookups.Models

namespace BackupCollector

open Py

variable [Unicode]

/-- `ACTION_TYPE` -/
def actionType : Str := "backup action job"

/-- `TERMINAL` -/
def terminalStatuses : List Str := ["success", "failed", "canceled"]

/-- `Job` -/
structure Job where
  source : Source
  identity : Str
  kind : Str
  parent : Option Str
  root : Option Str
  status : Str
  start : Option Instant
  finish : Option Instant
  observedAt : Option Instant
  reference : Obj

/-- `read_job` -/
def readJob (hit : Json) : Except Err Job := do
  let (document, reference) ← unwrap hit
  let source ← sourceOf document false
  match Obj.get document "payload" with
  | .obj payload =>
    if Obj.get document "document_type" ≠ .str "job-run" then .error (valueError "not_a_job_run")
    else
      match ← positiveId (Obj.get payload "job_id") with
      | none => .error (valueError "invalid_job_id")
      | some identity =>
        match Obj.get payload "type", Obj.get payload "status_normalized" with
        | .str kind, .str status => do
          let parent ← positiveId (Obj.get payload "parent_job_id")
          let root ← positiveId (Obj.get payload "root_parent_job_id")
          return {
            source := source
            identity := identity
            kind := Str.lower (Str.strip kind)
            parent := parent
            root := root
            status := Str.lower (Str.strip status)
            start := timestamp (Obj.get payload "start_time")
            finish := timestamp (Obj.get payload "end_time")
            observedAt := timestamp (Obj.get document "observed_at")
            reference := reference }
        | _, _ => .error (valueError "invalid_job_type_or_status")
  | _ => .error (valueError "not_a_job_run")

omit [Unicode] in
def Job.isTerminal (j : Job) : Bool := decide (j.status ∈ terminalStatuses)

/-! ## 1. Selecting a copy

A job is known through its copies, one for each report of it. -/

/-- More than one distinct value. -/
def disagree {α : Type} [DecidableEq α] (f : Job → α) (jobs : List Job) : Bool :=
  decide (1 < (jobs.map f).dedup.length)

/-- What the copies of one job contradict each other in. -/
def copyConflicts (jobs : List Job) : Finset Str :=
  (if disagree Job.start jobs || disagree Job.kind jobs then {lit "job_id_reuse_or_execution_conflict"} else ∅) ∪
  (if disagree (fun j => (j.parent, j.root)) jobs then {lit "job_hierarchy_conflict"} else ∅) ∪
  (if disagree (fun j => (j.status, j.finish)) (jobs.filter Job.isTerminal) then {lit "terminal_state_conflict"}
    else ∅)

/-- The copies a selection chooses from: a terminal one wins over even a later running one. -/
def selectionPool (jobs : List Job) : List Job :=
  if (jobs.filter Job.isTerminal).isEmpty then jobs else jobs.filter Job.isTerminal

/-- What the pool is ordered by: the observation, then the status. -/
def selectionKey (j : Job) : List Str := [(j.observedAt.map Instant.isoformat).getD [], j.status]

def beforeInstant (a b : Option Instant) : Bool :=
  match a, b with
  | some a, some b => decide (a < b)
  | _, _ => false

/-- The times and the status of a selected copy do not hold together. -/
def invalidTimes (j : Job) : Bool :=
  j.start.isNone || j.observedAt.isNone ||
    !(j.isTerminal || decide (j.status = lit "running") || decide (j.status = lit "unknown")) ||
  (j.finish.isSome && (j.start.isNone || beforeInstant j.finish j.start)) ||
  (j.isTerminal && j.finish.isNone) ||
  beforeInstant j.observedAt j.finish || beforeInstant j.observedAt j.start

/-- `select_job` -/
def selectJob (jobs : List Job) : Option Job × Finset Str :=
  match maxBy selectionKey (selectionPool jobs) with
  | none => (none, {lit "missing_action_job"})
  | some job =>
    (some job, copyConflicts jobs ∪ (if invalidTimes job then {lit "invalid_job_time_or_status"} else ∅))

/-! ## 2. The hierarchy of an action

Each check returns reasons; none of them raises. -/

/-- `validate_save`: diagnostic only, never an association by client or root. -/
def validateSave (save action : Job) : Finset Str :=
  (if save.kind ≠ lit "save job" then {lit "not_a_save_job"} else ∅) ∪
  (if save.source ≠ action.source then {lit "source_mismatch"} else ∅) ∪
  (if save.parent ≠ some action.identity then {lit "save_parent_mismatch"} else ∅) ∪
  (if action.kind ≠ actionType then {lit "target_type_mismatch"} else ∅) ∪
  (if save.root.isSome ∧ action.root.isSome ∧ save.root ≠ action.root then {lit "save_root_conflict"} else ∅) ∪
  (if beforeInstant save.start action.start then {lit "save_time_conflict"} else ∅) ∪
  (if beforeInstant action.finish save.finish then {lit "save_time_conflict"} else ∅)

/-- The jobs of a ledger, by source and id. -/
abbrev JobTable := Dict ActionKey (List Job)

def JobTable.copies (jobs : JobTable) (key : ActionKey) : List Job := (Dict.get? jobs key).getD []

/-- What the workflow of an action contradicts: its own copies, its kind and its times. -/
def workflowConflicts (workflow action : Job) : Finset Str :=
  (if workflow.kind ≠ lit "workflow job" then {lit "workflow_type_mismatch"} else ∅) ∪
  (if beforeInstant action.start workflow.start then {lit "workflow_time_conflict"} else ∅) ∪
  (if beforeInstant workflow.finish action.finish then {lit "workflow_time_conflict"} else ∅)

/-- The workflow check of an action: what blocks it and what is pending. -/
def workflowCheck (action : Job) (jobs : JobTable) : Finset Str × Finset Str :=
  match action.root with
  | none => (∅, {lit "workflow_root_unconfirmed"})
  | some root =>
    match selectJob (jobs.copies (action.source, root)) with
    | (none, _) => (∅, {lit "workflow_job_missing"})
    | (some workflow, conflicts) => (conflicts ∪ workflowConflicts workflow action, ∅)

/-- A copy of a save job that names the action. -/
def Job.isSaveOf (key : ActionKey) (j : Job) : Bool :=
  decide (j.kind = lit "save job") && decide (j.source = key.1) && decide (j.parent = some key.2)

/-- The save check of one job: it takes part when one of its copies names the action. -/
def saveCheck (key : ActionKey) (action : Job) (copies : List Job) : Finset Str :=
  if (copies.filter (Job.isSaveOf key)).isEmpty then ∅
  else match selectJob copies with
    | (some save, conflicts) => conflicts ∪ validateSave save action
    | (none, conflicts) => conflicts

/-- The checks of all save jobs that name the action. -/
def saveChecks (key : ActionKey) (action : Job) (jobs : JobTable) : Finset Str :=
  ((Dict.values jobs).map (saveCheck key action)).foldl (· ∪ ·) ∅

/-- `execution_check`: the action, what blocks it and what is pending. -/
def executionCheck (key : ActionKey) (jobs : JobTable) : Option Job × Finset Str × Finset Str :=
  match selectJob (jobs.copies key) with
  | (none, missing) => (none, ∅, missing)
  | (some action, conflicts) =>
    let workflow := workflowCheck action jobs
    (some action,
      conflicts ∪ (if action.kind ≠ actionType then {lit "target_type_mismatch"} else ∅) ∪ workflow.1 ∪
        saveChecks key action jobs,
      (if action.isTerminal then ∅ else {lit "action_not_terminal"}) ∪ workflow.2)

end BackupCollector
