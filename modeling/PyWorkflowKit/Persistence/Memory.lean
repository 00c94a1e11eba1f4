import PyWorkflowKit.Core.Action
import PyWorkflowKit.Core.Table
import PyWorkflowKit.Persistence.Contracts

/-!
# The in-memory metadata store

The reference store: dictionaries of entities and records, with explicit
checks before every write.
-/

namespace PyWorkflowKit.Persistence

open PyWorkflowKit.Core PyWorkflowKit.Domain PyWorkflowKit.States

/-- A datetime argument, which may lack a time zone. -/
inductive Timestamp where
  | aware (at_ : Instant)
  | naive
deriving DecidableEq

/-- The identity of an external reference within its attempt. -/
def externalRefKey (row : TaskAttemptId × ExternalRunRef) :
    TaskAttemptId × Text × Text × Text :=
  (row.1, row.2.provider, row.2.kind, row.2.externalRunId)

/-- `_MemoryState`. -/
structure MemoryState where
  workflowRuns : Table WorkflowRun.runId
  taskRuns : Table TaskRun.taskRunId
  taskAttempts : Table TaskAttempt.attemptId
  externalRefs : Table externalRefKey
  transitions : List StateTransitionRecord
  outputCheckpoints : Table TaskOutputCheckpoint.taskRunId
  manifests : Table (Prod.fst : WorkflowRunId × ManifestReference → WorkflowRunId)
  nextTransitionSequence : Nat
  sequencePositive : 1 ≤ nextTransitionSequence

namespace MemoryState

def empty : MemoryState where
  workflowRuns := .empty
  taskRuns := .empty
  taskAttempts := .empty
  externalRefs := .empty
  transitions := []
  outputCheckpoints := .empty
  manifests := .empty
  nextTransitionSequence := 1
  sequencePositive := Nat.one_pos

def withWorkflowRun (state : MemoryState) (run : WorkflowRun) : MemoryState :=
  { state with workflowRuns := state.workflowRuns.set run }

def withTaskRun (state : MemoryState) (taskRun : TaskRun) : MemoryState :=
  { state with taskRuns := state.taskRuns.set taskRun }

def withTaskAttempt (state : MemoryState) (attempt : TaskAttempt) : MemoryState :=
  { state with taskAttempts := state.taskAttempts.set attempt }

def withTransition (state : MemoryState) (entityType : StateEntityType)
    (entityId : Text) (fromStatus : Option Text) (toStatus : Text)
    (occurredAt : Instant) : MemoryState :=
  { state with
    transitions := state.transitions ++
      [⟨state.nextTransitionSequence, entityType, entityId, fromStatus, toStatus,
        occurredAt, state.sequencePositive⟩]
    nextTransitionSequence := state.nextTransitionSequence + 1
    sequencePositive := Nat.le_add_left 1 _ }

/-- `list_workflow_runs`. -/
def listWorkflowRuns (state : MemoryState) : List WorkflowRun :=
  sortBy (fun run => run.runId.str) state.workflowRuns.rows

/-- `list_unfinished_workflow_runs`. -/
def listUnfinishedWorkflowRuns (state : MemoryState) : List WorkflowRun :=
  sortBy (fun run => run.runId.str)
    (state.workflowRuns.rows.filter fun run => !run.status.isTerminal)

/-- `list_task_runs`. -/
def listTaskRuns (state : MemoryState) (workflowRunId : WorkflowRunId) :
    List TaskRun :=
  sortBy (fun taskRun => toLex (taskRun.taskKey.value, taskRun.taskRunId.str))
    (state.taskRuns.rows.filter fun taskRun => taskRun.workflowRunId = workflowRunId)

/-- The attempts of one task run, in the order they were appended. -/
def attemptsOf (state : MemoryState) (taskRunId : TaskRunId) : List TaskAttempt :=
  state.taskAttempts.rows.filter fun attempt => attempt.taskRunId = taskRunId

/-- `list_task_attempts`. -/
def listTaskAttempts (state : MemoryState) (taskRunId : TaskRunId) :
    List TaskAttempt :=
  sortBy TaskAttempt.attemptNumber (state.attemptsOf taskRunId)

/-- `list_external_run_refs`. -/
def listExternalRunRefs (state : MemoryState) (attemptId : TaskAttemptId) :
    List ExternalRunRef :=
  sortBy
    (fun ref => toLex (ref.provider.value,
      toLex (ref.kind.value, ref.externalRunId.value)))
    ((state.externalRefs.rows.filter fun row => row.1 = attemptId).map Prod.snd)

/-- `_event_for_transition`. -/
def eventForTransition (state : MemoryState) (record : StateTransitionRecord) :
    Option RuntimeEvent :=
  let project (workflowRunId : WorkflowRunId) (taskRunId : Option TaskRunId)
      (attemptId : Option TaskAttemptId) (taskKey : Option Text)
      (attemptNumber : Option Int) (isResume : Bool) : Option RuntimeEvent :=
    (runtimeEventTypeForTransition record.entityType
      (record.fromStatus.map Text.value) record.toStatus.value attemptNumber
      isResume).map fun eventType => {
        sequence := record.sequence
        eventId := workflowRunId.str ++ ":event-" ++ toString record.sequence
        eventType := eventType
        workflowRunId := workflowRunId
        occurredAt := record.occurredAt
        fromStatus := record.fromStatus
        toStatus := record.toStatus
        taskRunId := taskRunId
        attemptId := attemptId
        taskKey := taskKey
        attemptNumber := attemptNumber
        payload := .mapping [("entity_id", .str record.entityId.value),
          ("entity_type", .str record.entityType.value)] }
  match record.entityType with
  | .workflowRun =>
      (state.workflowRuns.find? ⟨record.entityId⟩).bind fun run =>
        project run.runId none none none none run.resumeOfRunId.isSome
  | .taskRun =>
      (state.taskRuns.find? ⟨record.entityId⟩).bind fun taskRun =>
        project taskRun.workflowRunId (some taskRun.taskRunId) none
          (some taskRun.taskKey) none false
  | .taskAttempt =>
      (state.taskAttempts.find? ⟨record.entityId⟩).bind fun attempt =>
        (state.taskRuns.find? attempt.taskRunId).bind fun taskRun =>
          project taskRun.workflowRunId (some taskRun.taskRunId)
            (some attempt.attemptId) (some taskRun.taskKey)
            (some attempt.attemptNumber) false

end MemoryState

/-- An operation of the in-memory store. -/
abbrev MemoryAction := Action PyError MemoryState

namespace Memory

open Action

/-- `_append_transition`. -/
def appendTransition (entityType : StateEntityType) (entityId : Text)
    (fromStatus : Option Text) (toStatus : Text) (occurredAt : Option Timestamp) :
    MemoryAction Unit :=
  match occurredAt with
  | none =>
      raise (.metadataInvariant "state transition evidence requires occurred_at")
  | some .naive => raise (.valueError "occurred_at must be timezone-aware")
  | some (.aware at_) =>
      modify fun state =>
        state.withTransition entityType entityId fromStatus toStatus at_

/-- `_require_transition_timestamp`. -/
def requireTransitionTimestamp (changed : Bool) (transitionedAt : Option Timestamp) :
    MemoryAction Unit :=
  require (¬ (changed = true ∧ transitionedAt = none))
    (.metadataInvariant "status-changing update requires transitioned_at")

/-- The error of `_require_initial_status`. -/
def initialStatusError (entityType entityId expected actual : String) : PyError :=
  .metadataInvariant ("new " ++ entityType ++ " " ++ entityId ++
    " must begin in " ++ expected ++ "; got " ++ actual)

/-- `_workflow`, which also serves `get_workflow_run`. -/
def getWorkflowRun (runId : WorkflowRunId) : MemoryAction WorkflowRun :=
  readExcept fun state =>
    match state.workflowRuns.find? runId with
    | some run => .ok run
    | none => .error (.metadataNotFound "WorkflowRun" runId.str)

/-- `_task`, which also serves `get_task_run`. -/
def getTaskRun (taskRunId : TaskRunId) : MemoryAction TaskRun :=
  readExcept fun state =>
    match state.taskRuns.find? taskRunId with
    | some taskRun => .ok taskRun
    | none => .error (.metadataNotFound "TaskRun" taskRunId.str)

/-- `_attempt`, which also serves `get_task_attempt`. -/
def getTaskAttempt (attemptId : TaskAttemptId) : MemoryAction TaskAttempt :=
  readExcept fun state =>
    match state.taskAttempts.find? attemptId with
    | some attempt => .ok attempt
    | none => .error (.metadataNotFound "TaskAttempt" attemptId.str)

/-- `create_workflow_run`. -/
def createWorkflowRun (run : WorkflowRun) : MemoryAction Unit := do
  require (run.status = .pending)
    (initialStatusError "WorkflowRun" run.runId.str "PENDING" run.status.value)
  let state ← get
  require (state.workflowRuns.find? run.runId = none)
    (.duplicateMetadata "WorkflowRun" run.runId.str)
  modify fun current => current.withWorkflowRun run
  appendTransition .workflowRun run.runId.value none run.status.text
    (some (.aware run.createdAt))

/-- `update_workflow_run`. -/
def updateWorkflowRun (run : WorkflowRun) (expectedStatus : WorkflowRunStatus)
    (transitionedAt : Option Timestamp) : MemoryAction Unit := do
  let current ← getWorkflowRun run.runId
  require (current.status = expectedStatus)
    (.metadataConflict "WorkflowRun" run.runId.str expectedStatus.value
      current.status.value)
  require (current.SameIdentity run)
    (.metadataInvariant "WorkflowRun immutable identity fields changed")
  requireTransitionTimestamp (current.status ≠ run.status) transitionedAt
  modify fun state => state.withWorkflowRun run
  if current.status = run.status then pure ()
  else
    appendTransition .workflowRun run.runId.value (some current.status.text)
      run.status.text transitionedAt

/-- `create_task_run`. -/
def createTaskRun (taskRun : TaskRun) : MemoryAction Unit := do
  require (taskRun.status = .pending)
    (initialStatusError "TaskRun" taskRun.taskRunId.str "PENDING"
      taskRun.status.value)
  let state ← get
  require (state.taskRuns.find? taskRun.taskRunId = none)
    (.duplicateMetadata "TaskRun" taskRun.taskRunId.str)
  require (state.workflowRuns.find? taskRun.workflowRunId ≠ none)
    (.metadataNotFound "WorkflowRun" taskRun.workflowRunId.str)
  modify fun current => current.withTaskRun taskRun
  appendTransition .taskRun taskRun.taskRunId.value none taskRun.status.text
    (some (.aware taskRun.createdAt))

/-- `update_task_run`. -/
def updateTaskRun (taskRun : TaskRun) (expectedStatus : TaskRunStatus)
    (transitionedAt : Option Timestamp) : MemoryAction Unit := do
  let current ← getTaskRun taskRun.taskRunId
  require (current.status = expectedStatus)
    (.metadataConflict "TaskRun" taskRun.taskRunId.str expectedStatus.value
      current.status.value)
  require (current.SameIdentity taskRun)
    (.metadataInvariant "TaskRun immutable identity fields changed")
  requireTransitionTimestamp (current.status ≠ taskRun.status) transitionedAt
  modify fun state => state.withTaskRun taskRun
  if current.status = taskRun.status then pure ()
  else
    appendTransition .taskRun taskRun.taskRunId.value (some current.status.text)
      taskRun.status.text transitionedAt

/-- `append_task_attempt`. -/
def appendTaskAttempt (attempt : TaskAttempt) : MemoryAction Unit := do
  require (attempt.status = .pending)
    (initialStatusError "TaskAttempt" attempt.attemptId.str "PENDING"
      attempt.status.value)
  let state ← get
  require (state.taskAttempts.find? attempt.attemptId = none)
    (.duplicateMetadata "TaskAttempt" attempt.attemptId.str)
  require (state.taskRuns.find? attempt.taskRunId ≠ none)
    (.metadataNotFound "TaskRun" attempt.taskRunId.str)
  let expectedNumber : Int := (state.attemptsOf attempt.taskRunId).length + 1
  require (attempt.attemptNumber = expectedNumber)
    (.metadataInvariant ("TaskAttempt " ++ attempt.attemptId.str ++
      " must use attempt_number " ++ toString expectedNumber ++ ", got " ++
      toString attempt.attemptNumber))
  modify fun current => current.withTaskAttempt attempt
  appendTransition .taskAttempt attempt.attemptId.value none attempt.status.text
    (some (.aware attempt.createdAt))

/-- `update_task_attempt`. -/
def updateTaskAttempt (attempt : TaskAttempt) (expectedStatus : TaskAttemptStatus)
    (transitionedAt : Option Timestamp) : MemoryAction Unit := do
  let current ← getTaskAttempt attempt.attemptId
  require (current.status = expectedStatus)
    (.metadataConflict "TaskAttempt" attempt.attemptId.str expectedStatus.value
      current.status.value)
  require (current.SameIdentity attempt)
    (.metadataInvariant "TaskAttempt immutable identity fields changed")
  requireTransitionTimestamp (current.status ≠ attempt.status) transitionedAt
  modify fun state => state.withTaskAttempt attempt
  if current.status = attempt.status then pure ()
  else
    appendTransition .taskAttempt attempt.attemptId.value
      (some current.status.text) attempt.status.text transitionedAt

/-- `append_external_run_ref`. -/
def appendExternalRunRef (attemptId : TaskAttemptId) (externalRef : ExternalRunRef) :
    MemoryAction Unit := do
  let state ← get
  require (state.taskAttempts.find? attemptId ≠ none)
    (.metadataNotFound "TaskAttempt" attemptId.str)
  require (state.externalRefs.find? (externalRefKey (attemptId, externalRef)) = none)
    (.duplicateMetadata "ExternalRunRef"
      (":".intercalate [attemptId.str, externalRef.provider.value,
        externalRef.kind.value, externalRef.externalRunId.value]))
  modify fun current =>
    { current with externalRefs := current.externalRefs.set (attemptId, externalRef) }

/-- `list_state_transitions`. -/
def listStateTransitions (entityType : Option StateEntityType)
    (entityId : Option String) : MemoryAction (List StateTransitionRecord) := do
  let state ← get
  let ofType := state.transitions.filter fun record =>
    entityType.all fun wanted => record.entityType = wanted
  match entityId with
  | none => pure ofType
  | some wanted => do
      require (isBlank wanted = false)
        (.valueError "entity_id must not be empty when provided")
      pure (ofType.filter fun record => record.entityId.value = wanted)

/-- `list_runtime_events`. -/
def listRuntimeEvents (workflowRunId : WorkflowRunId) :
    MemoryAction (List RuntimeEvent) := do
  let state ← get
  require (state.workflowRuns.find? workflowRunId ≠ none)
    (.metadataNotFound "WorkflowRun" workflowRunId.str)
  pure ((state.transitions.filterMap state.eventForTransition).filter
    fun event => event.workflowRunId = workflowRunId)

/-- `set_task_output_checkpoint`. -/
def setTaskOutputCheckpoint (checkpoint : TaskOutputCheckpoint) :
    MemoryAction Unit := do
  let taskRun ← getTaskRun checkpoint.taskRunId
  require (taskRun.status = .succeeded ∨ taskRun.status = .reused)
    (.metadataInvariant
      "TaskOutputCheckpoint requires a SUCCEEDED or REUSED TaskRun")
  let state ← get
  require (∀ existing ∈ state.outputCheckpoints.find? checkpoint.taskRunId,
      existing = checkpoint)
    (.metadataConflict "TaskOutputCheckpoint" checkpoint.taskRunId.str
      "unchanged or absent" "different persisted checkpoint")
  modify fun current =>
    { current with
      outputCheckpoints := current.outputCheckpoints.set checkpoint }

/-- `get_task_output_checkpoint`. -/
def getTaskOutputCheckpoint (taskRunId : TaskRunId) :
    MemoryAction TaskOutputCheckpoint :=
  readExcept fun state =>
    match state.outputCheckpoints.find? taskRunId with
    | some checkpoint => .ok checkpoint
    | none => .error (.metadataNotFound "TaskOutputCheckpoint" taskRunId.str)

/-- `set_manifest_reference`. -/
def setManifestReference (runId : WorkflowRunId) (reference : ManifestReference) :
    MemoryAction Unit := do
  let state ← get
  require (state.workflowRuns.find? runId ≠ none)
    (.metadataNotFound "WorkflowRun" runId.str)
  require (∀ existing ∈ state.manifests.find? runId, existing.2 = reference)
    (.metadataConflict "ManifestReference" runId.str "unchanged or absent"
      "different persisted reference")
  modify fun current =>
    { current with manifests := current.manifests.set (runId, reference) }

/-- `get_manifest_reference`. -/
def getManifestReference (runId : WorkflowRunId) : MemoryAction ManifestReference :=
  readExcept fun state =>
    match state.manifests.find? runId with
    | some row => .ok row.2
    | none => .error (.metadataNotFound "ManifestReference" runId.str)

end Memory

end PyWorkflowKit.Persistence
