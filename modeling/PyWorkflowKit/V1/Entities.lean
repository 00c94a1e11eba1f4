import PyWorkflowKit.Core.StrEnum
import PyWorkflowKit.Core.Table
import PyWorkflowKit.Domain.Json
import PyWorkflowKit.Domain.Values

/-!
# Runtime entities of version 1

Workflow runs, task runs, attempts and events as the first generation of the runtime
keeps them.  Each entity carries the proof that its status agrees with its timestamps.
-/

namespace PyWorkflowKit.V1

open PyWorkflowKit.Core PyWorkflowKit.Domain

inductive WorkflowRunStatus where
  | pending
  | running
  | succeeded
  | failed
  | cancelled
deriving DecidableEq, Repr

def WorkflowRunStatus.value : WorkflowRunStatus → String
  | pending => "PENDING"
  | running => "RUNNING"
  | succeeded => "SUCCEEDED"
  | failed => "FAILED"
  | cancelled => "CANCELLED"

instance : StrEnum WorkflowRunStatus where
  members := [.pending, .running, .succeeded, .failed, .cancelled]
  value := WorkflowRunStatus.value
  find_value member := by cases member <;> decide

/-- `WORKFLOW_TERMINAL_STATUSES`. -/
def WorkflowRunStatus.isTerminal : WorkflowRunStatus → Bool
  | pending | running => false
  | succeeded | failed | cancelled => true

inductive TaskRunStatus where
  | pending
  | ready
  | running
  | succeeded
  | failed
  | skipped
  | cancelled
deriving DecidableEq, Repr

def TaskRunStatus.value : TaskRunStatus → String
  | pending => "PENDING"
  | ready => "READY"
  | running => "RUNNING"
  | succeeded => "SUCCEEDED"
  | failed => "FAILED"
  | skipped => "SKIPPED"
  | cancelled => "CANCELLED"

instance : StrEnum TaskRunStatus where
  members := [.pending, .ready, .running, .succeeded, .failed, .skipped, .cancelled]
  value := TaskRunStatus.value
  find_value member := by cases member <;> decide

/-- `TASK_TERMINAL_STATUSES`. -/
def TaskRunStatus.isTerminal : TaskRunStatus → Bool
  | pending | ready | running => false
  | succeeded | failed | skipped | cancelled => true

inductive TaskAttemptStatus where
  | running
  | succeeded
  | failed
  | cancelled
deriving DecidableEq, Repr

def TaskAttemptStatus.value : TaskAttemptStatus → String
  | running => "RUNNING"
  | succeeded => "SUCCEEDED"
  | failed => "FAILED"
  | cancelled => "CANCELLED"

instance : StrEnum TaskAttemptStatus where
  members := [.running, .succeeded, .failed, .cancelled]
  value := TaskAttemptStatus.value
  find_value member := by cases member <;> decide

/-- `ATTEMPT_TERMINAL_STATUSES`. -/
def TaskAttemptStatus.isTerminal : TaskAttemptStatus → Bool
  | running => false
  | succeeded | failed | cancelled => true

inductive SkipReason where
  | conditionFalse
  | dependencyFailed
  | failFastAbort
  | branchNotSelected
deriving DecidableEq, Repr

def SkipReason.value : SkipReason → String
  | conditionFalse => "CONDITION_FALSE"
  | dependencyFailed => "DEPENDENCY_FAILED"
  | failFastAbort => "FAIL_FAST_ABORT"
  | branchNotSelected => "BRANCH_NOT_SELECTED"

instance : StrEnum SkipReason where
  members := [.conditionFalse, .dependencyFailed, .failFastAbort, .branchNotSelected]
  value := SkipReason.value
  find_value member := by cases member <;> decide

inductive RuntimeEventType where
  | workflowStarted
  | workflowSucceeded
  | workflowFailed
  | workflowCancelled
  | taskReady
  | taskStarted
  | taskRetrying
  | taskSucceeded
  | taskFailed
  | taskSkipped
deriving DecidableEq, Repr

def RuntimeEventType.value : RuntimeEventType → String
  | workflowStarted => "WORKFLOW_STARTED"
  | workflowSucceeded => "WORKFLOW_SUCCEEDED"
  | workflowFailed => "WORKFLOW_FAILED"
  | workflowCancelled => "WORKFLOW_CANCELLED"
  | taskReady => "TASK_READY"
  | taskStarted => "TASK_STARTED"
  | taskRetrying => "TASK_RETRYING"
  | taskSucceeded => "TASK_SUCCEEDED"
  | taskFailed => "TASK_FAILED"
  | taskSkipped => "TASK_SKIPPED"

/-- The terminal event types of a workflow. -/
def RuntimeEventType.endsWorkflow : RuntimeEventType → Bool
  | workflowSucceeded | workflowFailed | workflowCancelled => true
  | _ => false

abbrev TaskId := Text
abbrev WorkflowId := Text
abbrev RuntimeEventId := Text
abbrev ArtifactId := Text
abbrev ExternalRunRefId := Text

/-- A mapping of names to Python objects. -/
abbrev Objects := List (String × PyValue)

/-- What the `WorkflowRun` constructor accepts about status and timestamps. -/
def WorkflowRunStatus.Fits (status : WorkflowRunStatus) (startedAt finishedAt : Option DateTime) :
    Prop :=
  match status with
  | .pending => startedAt = none ∧ finishedAt = none
  | .running => finishedAt = none
  | .succeeded | .failed | .cancelled => finishedAt ≠ none

theorem WorkflowRunStatus.fits_pending : WorkflowRunStatus.pending.Fits none none :=
  ⟨rfl, rfl⟩

/-- Runtime state for one workflow execution. -/
structure WorkflowRun where
  runId : WorkflowRunId
  workflowId : WorkflowId
  workflowVersion : Text
  status : WorkflowRunStatus
  parameters : Objects
  createdAt : Option DateTime
  startedAt : Option DateTime
  finishedAt : Option DateTime
  fits : status.Fits startedAt finishedAt

/-- What the `TaskRun` constructor accepts about status, reason and timestamps. -/
def TaskRunStatus.Fits (status : TaskRunStatus) (skipReason : Option SkipReason)
    (finishedAt : Option DateTime) : Prop :=
  (skipReason ≠ none ↔ status = .skipped) ∧ (finishedAt ≠ none ↔ status.isTerminal = true)

/-- Runtime state for one task inside a workflow run. -/
structure TaskRun where
  taskRunId : TaskRunId
  runId : WorkflowRunId
  taskId : TaskId
  status : TaskRunStatus
  skipReason : Option SkipReason
  createdAt : Option DateTime
  startedAt : Option DateTime
  finishedAt : Option DateTime
  fits : status.Fits skipReason finishedAt

/-- What the `TaskAttempt` constructor accepts about status and timestamps. -/
def TaskAttemptStatus.Fits (status : TaskAttemptStatus)
    (finishedAt retryEligibleAt : Option DateTime) : Prop :=
  (finishedAt ≠ none ↔ status ≠ .running) ∧
    ∀ eligible ∈ retryEligibleAt, status = .failed ∧
      ∀ finished ∈ finishedAt, finished.instant ≤ eligible.instant

theorem TaskAttemptStatus.fits_running : TaskAttemptStatus.running.Fits none none := by
  simp [TaskAttemptStatus.Fits]

/-- Runtime state for one physical attempt of a task run. -/
structure TaskAttempt where
  attemptId : TaskAttemptId
  taskRunId : TaskRunId
  attemptNumber : Nat
  status : TaskAttemptStatus
  startedAt : Option DateTime
  finishedAt : Option DateTime
  errorType : Option String
  errorMessage : Option String
  errorCategory : Option String
  retryEligibleAt : Option DateTime
  errorMetadata : Objects
  positive : 1 ≤ attemptNumber
  fits : status.Fits finishedAt retryEligibleAt

/-- Immutable fact emitted by the workflow runtime. -/
structure RuntimeEvent where
  eventId : RuntimeEventId
  eventType : RuntimeEventType
  runId : WorkflowRunId
  occurredAt : DateTime
  eventSequence : Option Nat
  taskRunId : Option TaskRunId
  taskId : Option TaskId
  attemptNumber : Option Nat
  payload : Objects
  sequencePositive : ∀ sequence ∈ eventSequence, 1 ≤ sequence
  attemptPositive : ∀ number ∈ attemptNumber, 1 ≤ number

/-- Lightweight pointer to an artifact produced by a task. -/
structure ArtifactReference where
  artifactId : ArtifactId
  name : Text
  uri : Text
  mediaType : Option Text
  checksum : Option Text
  sizeBytes : Option Nat
  metadata : Objects

/-- Correlation reference to an execution owned by an external runtime. -/
structure ExternalRunRef where
  externalRefId : ExternalRunRefId
  provider : Text
  externalRunId : Text
  uri : Option Text
  metadata : Objects

/-- An exception of the workload: `TaskExecutionError` or another `ExecutorError`. -/
inductive ExecutorError where
  | taskExecution (errorType errorMessage errorCategory : String)
  | other (typeName message : String)
deriving DecidableEq, Repr

/-- Why a run cannot be resumed. -/
inductive ResumeReason where
  | identityMismatch
  | notRunning (status : WorkflowRunStatus)
  | foreignReport
  | manualAction
  | stillRunning
  | taskRunSet
  | nonResumable (taskId : String) (status : TaskRunStatus)
  | missingEligibility (taskId : String)
  | notEligible (taskId eligibleAt : String)
  | notReady (taskId : String)
  | readyDependency (taskId dependencyId : String) (status : Option TaskRunStatus)
  | dependencyStatus (dependencyId taskId : String) (status : TaskRunStatus)
  | missingCheckpoint (dependencyId : String)
  | exhausted
  | conflictingOutcomes
  | disposition (value : String)
  | unknownTaskRun (taskRunId : String)
  | reconciledStatus (taskRunId : String) (status : TaskRunStatus)
  | runningAttempts (taskRunId : String)
  | attemptMismatch (taskRunId : String)
  | missingFinish
deriving DecidableEq, Repr

/-- The `reason` of a `ResumeError`. -/
def ResumeReason.text : ResumeReason → String
  | identityMismatch => "workflow identity/version does not match persisted run"
  | notRunning status => "persisted workflow status is " ++ status.value ++ ", expected RUNNING"
  | foreignReport => "reconciliation report belongs to another workflow run"
  | manualAction => "reconciliation requires manual action"
  | stillRunning => "external work is still running"
  | taskRunSet => "persisted TaskRun set does not match workflow definition"
  | nonResumable taskId status =>
      "task '" ++ taskId ++ "' remains in non-resumable status " ++ status.value
  | missingEligibility taskId => "task '" ++ taskId ++ "' retry wait is missing retry_eligible_at"
  | notEligible taskId eligibleAt =>
      "task '" ++ taskId ++ "' retry is not eligible until " ++ eligibleAt
  | notReady taskId => "task '" ++ taskId ++ "' is not runtime-ready during resume"
  | readyDependency taskId dependencyId status =>
      "READY task '" ++ taskId ++ "' has dependency '" ++ dependencyId ++ "' in status " ++
        (status.map TaskRunStatus.value).getD "missing"
  | dependencyStatus dependencyId taskId status =>
      "dependency '" ++ dependencyId ++ "' for task '" ++ taskId ++ "' is " ++ status.value ++
        ", expected SUCCEEDED"
  | missingCheckpoint dependencyId =>
      "dependency '" ++ dependencyId ++ "' has no durable output checkpoint"
  | exhausted => "resume exhausted execution plan before all tasks succeeded"
  | conflictingOutcomes =>
      "reconciliation contains conflicting FAILED and CANCELLED outcomes"
  | disposition value => "reconciliation disposition " ++ value ++ " is not resumable"
  | unknownTaskRun taskRunId =>
      "reconciliation references unknown TaskRun '" ++ taskRunId ++ "'"
  | reconciledStatus taskRunId status =>
      "reconciliation TaskRun '" ++ taskRunId ++ "' is " ++ status.value ++ ", expected RUNNING"
  | runningAttempts taskRunId =>
      "TaskRun '" ++ taskRunId ++ "' must have exactly one RUNNING attempt for reconciliation"
  | attemptMismatch taskRunId =>
      "reconciliation attempt identity mismatch for '" ++ taskRunId ++ "'"
  | missingFinish => "reconciled failure is missing finished_at"

/-- The exceptions of the first generation, with the data their constructors take. -/
inductive Error where
  | valueError (message : String)
  | keyError (key : String)
  | overflowError (message : String)
  | unitOfWorkState (reason : String)
  | duplicateMetadata (entityType entityId : String)
  | metadataNotFound (entityType entityId : String)
  | invalidEventSequence (runId : String) (previousSequence : Nat)
      (actualSequence : Option Nat)
  | serialization (path valueType reason : String)
  | invalidStateTransition (entityType entityId currentStatus targetStatus : String)
  | terminalState (entityType entityId currentStatus targetStatus : String)
  | runtimeInvariant (reason : String)
  | capacityConfiguration (reason : String)
  | capacityInvariant (reason : String)
  | capacityRelease (reason : String)
  | unknownDependency (taskId dependencyId : String)
  | cycleDetected (taskIds : List String)
  | planningInvariant (reason : String)
  | resume (runId : String) (reason : ResumeReason)
  | executorNotFound (executorKey : String)
  | invalidHandler (taskId reason : String)
  | handlerNotFound (handlerRef : String)
  | timeoutCapability (taskId requestedMode executorKey supportedMode : String)
  | invalidParameters (reason : String)
  | executor (raised : ExecutorError)
  | raised (typeName : String)
  | keyboardInterrupt
deriving DecidableEq, Repr

end PyWorkflowKit.V1
