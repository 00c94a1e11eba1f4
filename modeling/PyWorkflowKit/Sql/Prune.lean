import PyWorkflowKit.Persistence.Retention
import PyWorkflowKit.Sql.Store

/-!
# Pruning the relational store

`prune_runs` of the relational store: the eligibility query, the estimate of a
dry run and the batched deletion.
-/

namespace PyWorkflowKit.Sql

open PyWorkflowKit.Core PyWorkflowKit.Domain PyWorkflowKit.States
open PyWorkflowKit.Persistence

/-- A set of rows of every table. -/
structure RowSelection where
  workflowRun : WorkflowRunRow → Bool
  taskRun : TaskRunRow → Bool
  taskAttempt : TaskAttemptRow → Bool
  externalRef : ExternalRunRefRow → Bool
  transition : StateTransitionRow → Bool
  checkpoint : TaskOutputCheckpointRow → Bool
  manifest : ManifestReferenceRow → Bool

/-- The tables without the selected rows. -/
def SqlState.without (state : SqlState) (selected : RowSelection) : SqlState where
  workflowRuns := state.workflowRuns.filter fun row => !selected.workflowRun row
  taskRuns := state.taskRuns.filter fun row => !selected.taskRun row
  taskAttempts := state.taskAttempts.filter fun row => !selected.taskAttempt row
  externalRefs := state.externalRefs.filter fun row => !selected.externalRef row
  transitions := state.transitions.filter fun row => !selected.transition row
  outputCheckpoints :=
    state.outputCheckpoints.filter fun row => !selected.checkpoint row
  manifests := state.manifests.filter fun row => !selected.manifest row

/-- How many rows of every table are selected. -/
def SqlState.count (state : SqlState) (selected : RowSelection) :
    DeletedRecordsSummary where
  workflowRuns := state.workflowRuns.rows.countP selected.workflowRun
  taskRuns := state.taskRuns.rows.countP selected.taskRun
  taskAttempts := state.taskAttempts.rows.countP selected.taskAttempt
  events := state.transitions.rows.countP selected.transition
  checkpoints := state.outputCheckpoints.rows.countP selected.checkpoint
  externalRefs := state.externalRefs.rows.countP selected.externalRef
  manifests := state.manifests.rows.countP selected.manifest

namespace Store

/-- `row.status in {s.value for s in ...}` for both sets of statuses. -/
def rowPrunes (policy : RetentionPolicy) (status : String) : Bool :=
  (((StrEnum.members : List WorkflowRunStatus).filter
    WorkflowRunStatus.isTerminal).map WorkflowRunStatus.value).contains status &&
    (policy.pruneStates.map WorkflowRunStatus.value).contains status

/-- The decision of the eligibility loop on one row. -/
def rowEligible (policy : RetentionPolicy) (now : DateTime) (row : WorkflowRunRow)
    (rank : Nat) : Except PyError Bool :=
  policy.eligible now (rowPrunes policy row.status)
    (row.status = WorkflowRunStatus.failed.value) row.createdAt rank

/-- `order_by(created_at.desc(), run_id.asc())`. -/
def newestFirst (row : WorkflowRunRow) : Instantᵒᵈ ×ₗ String :=
  toLex (OrderDual.toDual row.createdAt, row.runId)

/-- The distinct selected workflow names, sorted. -/
def workflowNames (policy : RetentionPolicy) (state : SqlState) : List String :=
  sortBy id (((state.workflowRuns.rows.map WorkflowRunRow.workflowName).filter
    policy.selectsName).dedup)

/-- The rows that `prune_runs` of the relational store selects. -/
def eligibleRows (policy : RetentionPolicy) (now : DateTime) (state : SqlState) :
    Except PyError (List WorkflowRunRow) :=
  chooseGrouped (rowEligible policy now) WorkflowRunRow.workflowName newestFirst
    state.workflowRuns.rows (workflowNames policy state)

def taskRunIdsOf (state : SqlState) (runIds : List String) : List String :=
  (state.taskRuns.rows.filter fun row => runIds.contains row.workflowRunId).map
    TaskRunRow.taskRunId

def attemptIdsOf (state : SqlState) (runIds : List String) : List String :=
  (state.taskAttempts.rows.filter fun row =>
    (taskRunIdsOf state runIds).contains row.taskRunId).map TaskAttemptRow.attemptId

/-- The rows that the statements about `runIds` address.  A condition on an
empty list of ids addresses no row. -/
def addressed (state : SqlState) (runIds : List String) : RowSelection :=
  let taskRunIds := taskRunIdsOf state runIds
  let attemptIds := attemptIdsOf state runIds
  { workflowRun := fun row => runIds.contains row.runId
    taskRun := fun row => runIds.contains row.workflowRunId
    taskAttempt := fun row => taskRunIds.contains row.taskRunId
    externalRef := fun row => attemptIds.contains row.attemptId
    transition := fun row =>
      (row.entityType = StateEntityType.workflowRun.value &&
          runIds.contains row.entityId) ||
        (row.entityType = StateEntityType.taskRun.value &&
          taskRunIds.contains row.entityId) ||
        (row.entityType = StateEntityType.taskAttempt.value &&
          attemptIds.contains row.entityId)
    checkpoint := fun row => taskRunIds.contains row.taskRunId
    manifest := fun row => runIds.contains row.workflowRunId }

/-- The summary of a dry run. -/
def estimate (state : SqlState) (runIds : List String) : DeletedRecordsSummary where
  workflowRuns := runIds.length
  taskRuns := (taskRunIdsOf state runIds).length
  taskAttempts := (attemptIdsOf state runIds).length
  events := (state.count (addressed state runIds)).events
  checkpoints := (state.count (addressed state runIds)).checkpoints
  externalRefs := (state.count (addressed state runIds)).externalRefs
  manifests := (state.count (addressed state runIds)).manifests

/-- The deletions of a batch without attempts: the statements from the deletion
of external references on stand under the guard on the attempt ids. -/
def evidenceOnly (selected : RowSelection) : RowSelection where
  workflowRun := fun _ => false
  taskRun := fun _ => false
  taskAttempt := fun _ => false
  externalRef := fun _ => false
  transition := selected.transition
  checkpoint := selected.checkpoint
  manifest := fun _ => false

def addSummary (left right : DeletedRecordsSummary) : DeletedRecordsSummary where
  workflowRuns := left.workflowRuns + right.workflowRuns
  taskRuns := left.taskRuns + right.taskRuns
  taskAttempts := left.taskAttempts + right.taskAttempts
  events := left.events + right.events
  checkpoints := left.checkpoints + right.checkpoints
  externalRefs := left.externalRefs + right.externalRefs
  manifests := left.manifests + right.manifests

/-- The transaction of one batch, with the running summary. -/
def pruneBatch (progress : SqlState × DeletedRecordsSummary) (batch : List String) :
    SqlState × DeletedRecordsSummary :=
  let (state, total) := progress
  let selected := addressed state batch
  if attemptIdsOf state batch = [] then
    (state.without (evidenceOnly selected), total)
  else
    (state.without selected, addSummary total (state.count selected))

/-- `ids[i : i + size] for i in range(0, len(ids), size)`. -/
def batches (size : Nat) (ids : List String) : List (List String) :=
  (List.range' 0 ((ids.length + size - 1) / size) size).map fun start =>
    (ids.drop start).take size

open Action in
/-- `prune_runs`. -/
def pruneRuns (policy : RetentionPolicy) (dryRun : Bool) (batchSize : Int)
    (now : DateTime) : SqlAction PruneReport := do
  require (1 ≤ batchSize) (.valueError "batch_size must be >= 1")
  let state ← get
  let scanned := (workflowNames policy state).length
  let rows ← ofExcept (eligibleRows policy now state)
  let ids := rows.map WorkflowRunRow.runId
  if ids = [] then
    return ⟨dryRun, scanned, 0, .zero⟩
  else if dryRun then
    return ⟨true, scanned, ids.length, estimate state ids⟩
  else do
    let (after, total) :=
      (batches batchSize.toNat ids).foldl pruneBatch (state, .zero)
    modify fun _ => after
    return ⟨false, scanned, ids.length, total⟩

end Store

section Selections

/-- Rows selected by either selection. -/
def RowSelection.or (left right : RowSelection) : RowSelection where
  workflowRun row := left.workflowRun row || right.workflowRun row
  taskRun row := left.taskRun row || right.taskRun row
  taskAttempt row := left.taskAttempt row || right.taskAttempt row
  externalRef row := left.externalRef row || right.externalRef row
  transition row := left.transition row || right.transition row
  checkpoint row := left.checkpoint row || right.checkpoint row
  manifest row := left.manifest row || right.manifest row

@[ext]
theorem SqlState.ext {left right : SqlState}
    (hworkflowRuns : left.workflowRuns.rows = right.workflowRuns.rows)
    (htaskRuns : left.taskRuns.rows = right.taskRuns.rows)
    (htaskAttempts : left.taskAttempts.rows = right.taskAttempts.rows)
    (hexternalRefs : left.externalRefs.rows = right.externalRefs.rows)
    (htransitions : left.transitions.rows = right.transitions.rows)
    (hcheckpoints : left.outputCheckpoints.rows = right.outputCheckpoints.rows)
    (hmanifests : left.manifests.rows = right.manifests.rows) : left = right := by
  cases left
  cases right
  simp only [SqlState.mk.injEq]
  exact ⟨Table.ext hworkflowRuns, Table.ext htaskRuns, Table.ext htaskAttempts,
    Table.ext hexternalRefs, Table.ext htransitions, Table.ext hcheckpoints,
    Table.ext hmanifests⟩

/-- Two selections choose the same rows of a state. -/
structure SameOn (state : SqlState) (left right : RowSelection) : Prop where
  workflowRun : ∀ row ∈ state.workflowRuns.rows,
    left.workflowRun row = right.workflowRun row
  taskRun : ∀ row ∈ state.taskRuns.rows, left.taskRun row = right.taskRun row
  taskAttempt : ∀ row ∈ state.taskAttempts.rows,
    left.taskAttempt row = right.taskAttempt row
  externalRef : ∀ row ∈ state.externalRefs.rows,
    left.externalRef row = right.externalRef row
  transition : ∀ row ∈ state.transitions.rows,
    left.transition row = right.transition row
  checkpoint : ∀ row ∈ state.outputCheckpoints.rows,
    left.checkpoint row = right.checkpoint row
  manifest : ∀ row ∈ state.manifests.rows, left.manifest row = right.manifest row

variable {state : SqlState} {left right : RowSelection}

theorem filter_not_congr {α : Type} {rows : List α} {left right : α → Bool}
    (hsame : ∀ row ∈ rows, left row = right row) :
    (rows.filter fun row => !left row) = rows.filter fun row => !right row :=
  List.filter_congr fun row hrow => by rw [hsame row hrow]

theorem SameOn.without_eq (hsame : SameOn state left right) :
    state.without left = state.without right := by
  apply SqlState.ext
  · exact filter_not_congr hsame.workflowRun
  · exact filter_not_congr hsame.taskRun
  · exact filter_not_congr hsame.taskAttempt
  · exact filter_not_congr hsame.externalRef
  · exact filter_not_congr hsame.transition
  · exact filter_not_congr hsame.checkpoint
  · exact filter_not_congr hsame.manifest

theorem countP_eq_of_same {α : Type} {rows : List α} {left right : α → Bool}
    (hsame : ∀ row ∈ rows, left row = right row) :
    rows.countP left = rows.countP right :=
  List.countP_congr fun row hrow => by rw [hsame row hrow]

theorem SameOn.count_eq (hsame : SameOn state left right) :
    state.count left = state.count right := by
  simp only [SqlState.count, DeletedRecordsSummary.mk.injEq]
  exact ⟨countP_eq_of_same hsame.workflowRun, countP_eq_of_same hsame.taskRun,
    countP_eq_of_same hsame.taskAttempt, countP_eq_of_same hsame.transition,
    countP_eq_of_same hsame.checkpoint, countP_eq_of_same hsame.externalRef,
    countP_eq_of_same hsame.manifest⟩

theorem filter_filter_or {α : Type} (rows : List α) (left right : α → Bool) :
    ((rows.filter fun row => !left row).filter fun row => !right row) =
      rows.filter fun row => !(left row || right row) := by
  rw [List.filter_filter]
  exact List.filter_congr fun row _ => by
    rw [Bool.not_or, Bool.and_comm]

/-- Removing one selection and then another removes both. -/
theorem SqlState.without_without (state : SqlState) (left right : RowSelection) :
    (state.without left).without right = state.without (left.or right) := by
  apply SqlState.ext <;> exact filter_filter_or _ _ _

theorem countP_or {α : Type} (rows : List α) (left right : α → Bool) :
    rows.countP (fun row => left row || right row) =
      rows.countP left + (rows.filter fun row => !left row).countP right := by
  induction rows with
  | nil => rfl
  | cons first rest ih =>
      cases hleft : left first <;> cases hright : right first <;>
        simp [hleft, hright, ih] <;> omega

/-- The rows of two removals in sequence are counted once each. -/
theorem SqlState.count_or (state : SqlState) (left right : RowSelection) :
    state.count (left.or right) =
      Store.addSummary (state.count left) ((state.without left).count right) := by
  simp only [SqlState.count, Store.addSummary, RowSelection.or, SqlState.without,
    Table.rows_filter, DeletedRecordsSummary.mk.injEq]
  exact ⟨countP_or _ _ _, countP_or _ _ _, countP_or _ _ _, countP_or _ _ _,
    countP_or _ _ _, countP_or _ _ _, countP_or _ _ _⟩

end Selections

end PyWorkflowKit.Sql
