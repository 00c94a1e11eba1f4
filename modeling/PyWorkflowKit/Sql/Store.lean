import PyWorkflowKit.Core.Action
import PyWorkflowKit.Persistence.Operations
import PyWorkflowKit.Sql.EntityRows

/-!
# The relational metadata store

The store operations over relational tables.  Every writing operation is one
transaction, and an exception restores the tables.
-/

namespace PyWorkflowKit.Sql

open PyWorkflowKit.Core PyWorkflowKit.Domain PyWorkflowKit.States
open PyWorkflowKit.Persistence

/-- An operation of the relational store. -/
abbrev SqlAction := Action PyError SqlState

namespace Store

open Action

/-- What binding an unrepresentable datetime raises. -/
def bindError : PyError := .statementError "date value out of range"

/-- Bind the timestamp columns of a statement. -/
def bindTimestamps (columns : List (Option Instant)) : SqlAction Unit :=
  require (bindable columns) bindError

theorem run_bindTimestamps_of {columns : List (Option Instant)}
    (hbindable : bindable columns) (state : SqlState) :
    (bindTimestamps columns).run state = (.ok (), state) :=
  run_require_of hbindable _ _

theorem run_bindTimestamps_of_not {columns : List (Option Instant)}
    (hbindable : ¬ bindable columns) (state : SqlState) :
    (bindTimestamps columns).run state = (.error bindError, state) :=
  run_require_of_not hbindable _ _

def insertTransition (entityType : StateEntityType) (entityId : String)
    (fromStatus : Option String) (toStatus : String) (at_ : Instant) :
    SqlAction Unit :=
  modify fun state =>
    { state with
      transitions := state.transitions.set
        ⟨nextRowId (state.transitions.rows.map StateTransitionRow.sequence),
          entityType.value, entityId, fromStatus, toStatus, at_⟩ }

/-- `_append_transition`. -/
def appendTransition (entityType : StateEntityType) (entityId : String)
    (fromStatus : Option String) (toStatus : String)
    (occurredAt : Option Timestamp) : SqlAction Unit :=
  match occurredAt with
  | none =>
      raise (.metadataInvariant "state transition evidence requires occurred_at")
  | some .naive => raise (.statementError "timezone-aware datetime required")
  | some (.aware at_) => do
      bindTimestamps [some at_]
      insertTransition entityType entityId fromStatus toStatus at_

theorem run_appendTransition_of_inUtc (entityType : StateEntityType)
    (entityId : String) (fromStatus : Option String) (toStatus : String)
    {at_ : Instant} (hutc : at_.InUtc) (state : SqlState) :
    (appendTransition entityType entityId fromStatus toStatus
        (some (.aware at_))).run state =
      (insertTransition entityType entityId fromStatus toStatus at_).run state := by
  have hbind : bindable [some at_] := by simpa [bindable] using hutc
  exact run_bind_of_ok (run_bindTimestamps_of hbind state) _

/-- `_require_transition_timestamp`. -/
def requireTransitionTimestamp (changed : Bool) (transitionedAt : Option Timestamp) :
    SqlAction Unit :=
  require (¬ (changed = true ∧ transitionedAt = none))
    (.metadataInvariant "status-changing update requires transitioned_at")

/-- `_workflow_row`. -/
def workflowRow (runId : WorkflowRunId) : SqlAction WorkflowRunRow :=
  readExcept fun state =>
    match state.workflowRuns.find? runId.str with
    | some row => .ok row
    | none => .error (.metadataNotFound "WorkflowRun" runId.str)

/-- `_task_row`. -/
def taskRow (taskRunId : TaskRunId) : SqlAction TaskRunRow :=
  readExcept fun state =>
    match state.taskRuns.find? taskRunId.str with
    | some row => .ok row
    | none => .error (.metadataNotFound "TaskRun" taskRunId.str)

/-- `_attempt_row`. -/
def attemptRow (attemptId : TaskAttemptId) : SqlAction TaskAttemptRow :=
  readExcept fun state =>
    match state.taskAttempts.find? attemptId.str with
    | some row => .ok row
    | none => .error (.metadataNotFound "TaskAttempt" attemptId.str)

/-- `get_workflow_run`. -/
def getWorkflowRun (runId : WorkflowRunId) : SqlAction WorkflowRun := do
  let row ← workflowRow runId
  ofExcept (workflowFromRow row)

/-- `get_task_run`. -/
def getTaskRun (taskRunId : TaskRunId) : SqlAction TaskRun := do
  let row ← taskRow taskRunId
  ofExcept (taskRunFromRow row)

/-- `get_task_attempt`. -/
def getTaskAttempt (attemptId : TaskAttemptId) : SqlAction TaskAttempt := do
  let row ← attemptRow attemptId
  ofExcept (attemptFromRow row)

/-- `create_workflow_run`. -/
def createWorkflowRun (run : WorkflowRun) : SqlAction Unit := transaction do
  require (run.status = .pending)
    (Memory.initialStatusError "WorkflowRun" run.runId.str "PENDING"
      run.status.value)
  let state ← get
  require (state.workflowRuns.contains run.runId.str = false)
    (.duplicateMetadata "WorkflowRun" run.runId.str)
  bindTimestamps (workflowToRow run).timestamps
  modify fun current =>
    { current with workflowRuns := current.workflowRuns.set (workflowToRow run) }
  appendTransition .workflowRun run.runId.str none run.status.value
    (some (.aware run.createdAt))

/-- `update_workflow_run`. -/
def updateWorkflowRun (run : WorkflowRun) (expectedStatus : WorkflowRunStatus)
    (transitionedAt : Option Timestamp) : SqlAction Unit := transaction do
  let row ← workflowRow run.runId
  let current ← ofExcept (workflowFromRow row)
  require (current.status = expectedStatus)
    (.metadataConflict "WorkflowRun" run.runId.str expectedStatus.value
      current.status.value)
  require (current.SameIdentity run)
    (.metadataInvariant "WorkflowRun immutable identity fields changed")
  requireTransitionTimestamp (current.status ≠ run.status) transitionedAt
  bindTimestamps [run.startedAt, run.endedAt]
  require (row.status = expectedStatus.value)
    (.metadataConflict "WorkflowRun" run.runId.str expectedStatus.value row.status)
  modify fun state =>
    { state with
      workflowRuns := state.workflowRuns.set { row with
        status := run.status.value
        startedAt := run.startedAt
        endedAt := run.endedAt
        failureJson := run.failure.map failureToJson } }
  if current.status = run.status then pure ()
  else
    appendTransition .workflowRun run.runId.str (some current.status.value)
      run.status.value transitionedAt

/-- `list_workflow_runs`. -/
def listWorkflowRuns : SqlAction (List WorkflowRun) :=
  readExcept fun state =>
    gather ((sortBy WorkflowRunRow.runId state.workflowRuns.rows).map
      workflowFromRow)

/-- `list_unfinished_workflow_runs`. -/
def listUnfinishedWorkflowRuns : SqlAction (List WorkflowRun) :=
  readExcept fun state =>
    let terminal : List String := ["SUCCEEDED", "FAILED", "CANCELLED", "TIMED_OUT"]
    gather ((sortBy WorkflowRunRow.runId
      (state.workflowRuns.rows.filter fun row => !terminal.contains row.status)).map
      workflowFromRow)

/-- `create_task_run`. -/
def createTaskRun (taskRun : TaskRun) : SqlAction Unit := transaction do
  require (taskRun.status = .pending)
    (Memory.initialStatusError "TaskRun" taskRun.taskRunId.str "PENDING"
      taskRun.status.value)
  let state ← get
  require (state.taskRuns.contains taskRun.taskRunId.str = false)
    (.duplicateMetadata "TaskRun" taskRun.taskRunId.str)
  require (state.workflowRuns.contains taskRun.workflowRunId.str = true)
    (.metadataNotFound "WorkflowRun" taskRun.workflowRunId.str)
  bindTimestamps (taskRunToRow taskRun).timestamps
  modify fun current =>
    { current with taskRuns := current.taskRuns.set (taskRunToRow taskRun) }
  appendTransition .taskRun taskRun.taskRunId.str none taskRun.status.value
    (some (.aware taskRun.createdAt))

/-- `update_task_run`. -/
def updateTaskRun (taskRun : TaskRun) (expectedStatus : TaskRunStatus)
    (transitionedAt : Option Timestamp) : SqlAction Unit := transaction do
  let row ← taskRow taskRun.taskRunId
  let current ← ofExcept (taskRunFromRow row)
  require (current.status = expectedStatus)
    (.metadataConflict "TaskRun" taskRun.taskRunId.str expectedStatus.value
      current.status.value)
  require (current.SameIdentity taskRun)
    (.metadataInvariant "TaskRun immutable identity fields changed")
  requireTransitionTimestamp (current.status ≠ taskRun.status) transitionedAt
  bindTimestamps [taskRun.startedAt, taskRun.endedAt]
  -- A reused task run is stored as a succeeded one.
  let expectedDbStatus := (taskRunColumns expectedStatus none).1
  require (row.status = expectedDbStatus)
    (.metadataConflict "TaskRun" taskRun.taskRunId.str expectedStatus.value
      row.status)
  modify fun state =>
    { state with
      taskRuns := state.taskRuns.set { row with
        status := (taskRunColumns taskRun.status taskRun.failure).1
        startedAt := taskRun.startedAt
        endedAt := taskRun.endedAt
        skipReason := taskRun.skipReason.map SkipReason.value
        blockReason := taskRun.blockReason.map BlockReason.value
        failureJson := (taskRunColumns taskRun.status taskRun.failure).2 } }
  if current.status = taskRun.status then pure ()
  else
    appendTransition .taskRun taskRun.taskRunId.str (some current.status.value)
      taskRun.status.value transitionedAt

/-- `list_task_runs`. -/
def listTaskRuns (workflowRunId : WorkflowRunId) : SqlAction (List TaskRun) :=
  readExcept fun state =>
    gather ((sortBy (fun row => toLex (row.taskKey, row.taskRunId))
      (state.taskRuns.rows.filter fun row =>
        row.workflowRunId = workflowRunId.str)).map taskRunFromRow)

/-- The attempt rows of one task run. -/
def attemptRowsOf (state : SqlState) (taskRunId : String) : List TaskAttemptRow :=
  state.taskAttempts.rows.filter fun row => row.taskRunId = taskRunId

/-- `1 if last_number is None else int(last_number) + 1`. -/
def numberAfter : Option Int → Int
  | none => 1
  | some lastNumber => lastNumber + 1

/-- `append_task_attempt`. -/
def appendTaskAttempt (attempt : TaskAttempt) : SqlAction Unit := transaction do
  require (attempt.status = .pending)
    (Memory.initialStatusError "TaskAttempt" attempt.attemptId.str "PENDING"
      attempt.status.value)
  let state ← get
  require (state.taskAttempts.contains attempt.attemptId.str = false)
    (.duplicateMetadata "TaskAttempt" attempt.attemptId.str)
  require (state.taskRuns.contains attempt.taskRunId.str = true)
    (.metadataNotFound "TaskRun" attempt.taskRunId.str)
  let lastNumber := ((attemptRowsOf state attempt.taskRunId.str).map
    TaskAttemptRow.attemptNumber).max?
  let expectedNumber := numberAfter lastNumber
  require (attempt.attemptNumber = expectedNumber)
    (.metadataInvariant ("TaskAttempt " ++ attempt.attemptId.str ++
      " must use attempt_number " ++ toString expectedNumber ++ ", got " ++
      toString attempt.attemptNumber))
  bindTimestamps (attemptToRow attempt).timestamps
  modify fun current =>
    { current with taskAttempts := current.taskAttempts.set (attemptToRow attempt) }
  appendTransition .taskAttempt attempt.attemptId.str none attempt.status.value
    (some (.aware attempt.createdAt))

/-- `update_task_attempt`. -/
def updateTaskAttempt (attempt : TaskAttempt) (expectedStatus : TaskAttemptStatus)
    (transitionedAt : Option Timestamp) : SqlAction Unit := transaction do
  let row ← attemptRow attempt.attemptId
  let current ← ofExcept (attemptFromRow row)
  require (current.status = expectedStatus)
    (.metadataConflict "TaskAttempt" attempt.attemptId.str expectedStatus.value
      current.status.value)
  require (current.SameIdentity attempt)
    (.metadataInvariant "TaskAttempt immutable identity fields changed")
  requireTransitionTimestamp (current.status ≠ attempt.status) transitionedAt
  bindTimestamps [attempt.startedAt, attempt.endedAt]
  require (row.status = expectedStatus.value)
    (.metadataConflict "TaskAttempt" attempt.attemptId.str expectedStatus.value
      row.status)
  modify fun state =>
    { state with
      taskAttempts := state.taskAttempts.set { row with
        status := attempt.status.value
        startedAt := attempt.startedAt
        endedAt := attempt.endedAt
        failureJson := attempt.failure.map failureToJson } }
  if current.status = attempt.status then pure ()
  else
    appendTransition .taskAttempt attempt.attemptId.str (some current.status.value)
      attempt.status.value transitionedAt

/-- `list_task_attempts`. -/
def listTaskAttempts (taskRunId : TaskRunId) : SqlAction (List TaskAttempt) :=
  readExcept fun state =>
    gather ((sortBy TaskAttemptRow.attemptNumber
      (attemptRowsOf state taskRunId.str)).map attemptFromRow)

/-- `append_external_run_ref`. -/
def appendExternalRunRef (attemptId : TaskAttemptId) (externalRef : ExternalRunRef) :
    SqlAction Unit := transaction do
  let state ← get
  require (state.taskAttempts.contains attemptId.str = true)
    (.metadataNotFound "TaskAttempt" attemptId.str)
  require (¬ ∃ row ∈ state.externalRefs.rows, row.attemptId = attemptId.str ∧
      row.provider = externalRef.provider.value ∧
      row.kind = externalRef.kind.value ∧
      row.externalRunId = externalRef.externalRunId.value)
    (.duplicateMetadata "ExternalRunRef"
      (":".intercalate [attemptId.str, externalRef.provider.value,
        externalRef.kind.value, externalRef.externalRunId.value]))
  modify fun current =>
    { current with
      externalRefs := current.externalRefs.set
        (externalRefToRow
          (nextRowId (current.externalRefs.rows.map ExternalRunRefRow.externalRefPk))
          attemptId externalRef) }

/-- `list_external_run_refs`. -/
def listExternalRunRefs (attemptId : TaskAttemptId) :
    SqlAction (List ExternalRunRef) :=
  readExcept fun state =>
    gather ((sortBy
      (fun row => toLex (row.provider, toLex (row.kind, row.externalRunId)))
      (state.externalRefs.rows.filter fun row => row.attemptId = attemptId.str)).map
      externalRefFromRow)

/-- `list_state_transitions`. -/
def listStateTransitions (entityType : Option StateEntityType)
    (entityId : Option String) : SqlAction (List StateTransitionRecord) := do
  require (∀ wanted ∈ entityId, isBlank wanted = false)
    (.valueError "entity_id must not be empty when provided")
  readExcept fun state =>
    gather ((sortBy StateTransitionRow.sequence
      (state.transitions.rows.filter fun row =>
        (entityType.all fun wanted => row.entityType = wanted.value) &&
          entityId.all fun wanted => row.entityId = wanted)).map transitionFromRow)

/-- One transition row as an event of the given run, when it is one. -/
def eventForRow (state : SqlState) (workflowRunId : WorkflowRunId)
    (isResume : Bool) (row : StateTransitionRow) :
    Except PyError (Option RuntimeEvent) := do
  let entityType ← requireMember row.entityType
  let project (taskRunId : Option TaskRunId) (attemptId : Option TaskAttemptId)
      (taskKey : Option Text) (attemptNumber : Option Int) :
      Except PyError (Option RuntimeEvent) :=
    match runtimeEventTypeForTransition entityType row.fromStatus row.toStatus
        attemptNumber isResume with
    | none => .ok none
    | some eventType => do
        let fromStatus ← optionalText row.fromStatus
        let toStatus ← requireText row.toStatus
        return some {
          sequence := row.sequence
          eventId := workflowRunId.str ++ ":event-" ++ toString row.sequence
          eventType := eventType
          workflowRunId := workflowRunId
          occurredAt := row.occurredAt
          fromStatus := fromStatus
          toStatus := toStatus
          taskRunId := taskRunId
          attemptId := attemptId
          taskKey := taskKey
          attemptNumber := attemptNumber
          payload := .mapping [("entity_id", .str row.entityId),
            ("entity_type", .str entityType.value)] }
  match entityType with
  | .workflowRun =>
      if row.entityId = workflowRunId.str then project none none none none
      else .ok none
  | .taskRun =>
      match state.taskRuns.find? row.entityId with
      | none => .ok none
      | some task =>
          if task.workflowRunId = workflowRunId.str then do
            let taskRunId ← requireText task.taskRunId
            let taskKey ← requireText task.taskKey
            project (some ⟨taskRunId⟩) none (some taskKey) none
          else .ok none
  | .taskAttempt =>
      match state.taskAttempts.find? row.entityId with
      | none => .ok none
      | some attempt =>
          match state.taskRuns.find? attempt.taskRunId with
          | none => .ok none
          | some task =>
              if task.workflowRunId = workflowRunId.str then do
                let taskRunId ← requireText task.taskRunId
                let attemptId ← requireText attempt.attemptId
                let taskKey ← requireText task.taskKey
                project (some ⟨taskRunId⟩) (some ⟨attemptId⟩) (some taskKey)
                  (some attempt.attemptNumber)
              else .ok none

/-- `list_runtime_events`. -/
def listRuntimeEvents (workflowRunId : WorkflowRunId) :
    SqlAction (List RuntimeEvent) := do
  let row ← workflowRow workflowRunId
  let isResume := (getKey row.correlationJson "resume_of_run_id").any truthy
  readExcept fun state =>
    (gather ((sortBy StateTransitionRow.sequence state.transitions.rows).map
      (eventForRow state workflowRunId isResume))).map List.reduceOption

/-- `set_task_output_checkpoint`. -/
def setTaskOutputCheckpoint (checkpoint : TaskOutputCheckpoint) : SqlAction Unit :=
  transaction do
  let row ← taskRow checkpoint.taskRunId
  require (row.status = TaskRunStatus.succeeded.value ∨
      row.status = TaskRunStatus.reused.value)
    (.metadataInvariant
      "TaskOutputCheckpoint requires a SUCCEEDED or REUSED TaskRun")
  let state ← get
  match state.outputCheckpoints.find? checkpoint.taskRunId.str with
  | some existing => do
      let current ← ofExcept (outputCheckpointFromRow existing)
      require (current = checkpoint)
        (.metadataConflict "TaskOutputCheckpoint" checkpoint.taskRunId.str
          "unchanged or absent" "different persisted checkpoint")
  | none => do
      bindTimestamps [some checkpoint.recordedAt]
      modify fun current =>
        { current with
          outputCheckpoints :=
            current.outputCheckpoints.set (outputCheckpointToRow checkpoint) }

/-- `get_task_output_checkpoint`. -/
def getTaskOutputCheckpoint (taskRunId : TaskRunId) :
    SqlAction TaskOutputCheckpoint :=
  readExcept fun state =>
    match state.outputCheckpoints.find? taskRunId.str with
    | some row => outputCheckpointFromRow row
    | none => .error (.metadataNotFound "TaskOutputCheckpoint" taskRunId.str)

/-- `set_manifest_reference`. -/
def setManifestReference (runId : WorkflowRunId) (reference : ManifestReference) :
    SqlAction Unit := transaction do
  let state ← get
  require (state.workflowRuns.contains runId.str = true)
    (.metadataNotFound "WorkflowRun" runId.str)
  match state.manifests.find? runId.str with
  | some existing => do
      let current ← ofExcept (manifestFromRow existing)
      require (current = reference)
        (.metadataConflict "ManifestReference" runId.str "unchanged or absent"
          "different persisted reference")
  | none =>
      modify fun current =>
        { current with
          manifests := current.manifests.set (manifestToRow runId reference) }

/-- `get_manifest_reference`. -/
def getManifestReference (runId : WorkflowRunId) : SqlAction ManifestReference :=
  readExcept fun state =>
    match state.manifests.find? runId.str with
    | some row => manifestFromRow row
    | none => .error (.metadataNotFound "ManifestReference" runId.str)

/-- One operation on the relational store. -/
def perform : StoreOp → SqlAction StoreValue
  | .createWorkflowRun run => do
      createWorkflowRun run
      return .none
  | .getWorkflowRun runId => do return .workflowRun (← getWorkflowRun runId)
  | .updateWorkflowRun run expectedStatus transitionedAt => do
      updateWorkflowRun run expectedStatus transitionedAt
      return .none
  | .listWorkflowRuns => do return .workflowRuns (← listWorkflowRuns)
  | .listUnfinishedWorkflowRuns => do
      return .workflowRuns (← listUnfinishedWorkflowRuns)
  | .createTaskRun taskRun => do
      createTaskRun taskRun
      return .none
  | .getTaskRun taskRunId => do return .taskRun (← getTaskRun taskRunId)
  | .updateTaskRun taskRun expectedStatus transitionedAt => do
      updateTaskRun taskRun expectedStatus transitionedAt
      return .none
  | .listTaskRuns workflowRunId => do return .taskRuns (← listTaskRuns workflowRunId)
  | .appendTaskAttempt attempt => do
      appendTaskAttempt attempt
      return .none
  | .getTaskAttempt attemptId => do
      return .taskAttempt (← getTaskAttempt attemptId)
  | .updateTaskAttempt attempt expectedStatus transitionedAt => do
      updateTaskAttempt attempt expectedStatus transitionedAt
      return .none
  | .listTaskAttempts taskRunId => do
      return .taskAttempts (← listTaskAttempts taskRunId)
  | .appendExternalRunRef attemptId externalRef => do
      appendExternalRunRef attemptId externalRef
      return .none
  | .listExternalRunRefs attemptId => do
      return .externalRunRefs (← listExternalRunRefs attemptId)
  | .listStateTransitions entityType entityId => do
      return .stateTransitions (← listStateTransitions entityType entityId)
  | .listRuntimeEvents workflowRunId => do
      return .runtimeEvents (← listRuntimeEvents workflowRunId)
  | .setTaskOutputCheckpoint checkpoint => do
      setTaskOutputCheckpoint checkpoint
      return .none
  | .getTaskOutputCheckpoint taskRunId => do
      return .taskOutputCheckpoint (← getTaskOutputCheckpoint taskRunId)
  | .setManifestReference runId reference => do
      setManifestReference runId reference
      return .none
  | .getManifestReference runId => do
      return .manifestReference (← getManifestReference runId)

end Store

end PyWorkflowKit.Sql
