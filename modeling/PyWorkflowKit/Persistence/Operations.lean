import PyWorkflowKit.Persistence.Memory

/-!
# Histories of store operations

The operations of a metadata store as data, the values they return and what a
client observes of a whole sequence of them.
-/

namespace PyWorkflowKit.Persistence

open PyWorkflowKit.Core PyWorkflowKit.Domain PyWorkflowKit.States

/-- The operations of the `MetadataStore` protocol, except `prune_runs`. -/
inductive StoreOp where
  | createWorkflowRun (run : WorkflowRun)
  | getWorkflowRun (runId : WorkflowRunId)
  | updateWorkflowRun (run : WorkflowRun) (expectedStatus : WorkflowRunStatus)
      (transitionedAt : Option Timestamp)
  | listWorkflowRuns
  | listUnfinishedWorkflowRuns
  | createTaskRun (taskRun : TaskRun)
  | getTaskRun (taskRunId : TaskRunId)
  | updateTaskRun (taskRun : TaskRun) (expectedStatus : TaskRunStatus)
      (transitionedAt : Option Timestamp)
  | listTaskRuns (workflowRunId : WorkflowRunId)
  | appendTaskAttempt (attempt : TaskAttempt)
  | getTaskAttempt (attemptId : TaskAttemptId)
  | updateTaskAttempt (attempt : TaskAttempt) (expectedStatus : TaskAttemptStatus)
      (transitionedAt : Option Timestamp)
  | listTaskAttempts (taskRunId : TaskRunId)
  | appendExternalRunRef (attemptId : TaskAttemptId) (externalRef : ExternalRunRef)
  | listExternalRunRefs (attemptId : TaskAttemptId)
  | listStateTransitions (entityType : Option StateEntityType)
      (entityId : Option String)
  | listRuntimeEvents (workflowRunId : WorkflowRunId)
  | setTaskOutputCheckpoint (checkpoint : TaskOutputCheckpoint)
  | getTaskOutputCheckpoint (taskRunId : TaskRunId)
  | setManifestReference (runId : WorkflowRunId) (reference : ManifestReference)
  | getManifestReference (runId : WorkflowRunId)

/-- What an operation returns. -/
inductive StoreValue where
  | none
  | workflowRun (value : WorkflowRun)
  | workflowRuns (values : List WorkflowRun)
  | taskRun (value : TaskRun)
  | taskRuns (values : List TaskRun)
  | taskAttempt (value : TaskAttempt)
  | taskAttempts (values : List TaskAttempt)
  | externalRunRefs (values : List ExternalRunRef)
  | stateTransitions (values : List StateTransitionRecord)
  | runtimeEvents (values : List RuntimeEvent)
  | taskOutputCheckpoint (value : TaskOutputCheckpoint)
  | manifestReference (value : ManifestReference)
deriving DecidableEq

/-- What a client sees of a sequence of operations: every returned value, and
the class of every raised error. -/
def outcomes {σ : Type} (perform : StoreOp → Action PyError σ StoreValue) :
    σ → List StoreOp → List (Except ErrorClass StoreValue)
  | _, [] => []
  | state, op :: rest =>
      ((perform op).run state).1.mapError PyError.errorClass ::
        outcomes perform ((perform op).run state).2 rest

/-- One operation on the in-memory store. -/
def Memory.perform : StoreOp → MemoryAction StoreValue
  | .createWorkflowRun run => do
      createWorkflowRun run
      return .none
  | .getWorkflowRun runId => do return .workflowRun (← getWorkflowRun runId)
  | .updateWorkflowRun run expectedStatus transitionedAt => do
      updateWorkflowRun run expectedStatus transitionedAt
      return .none
  | .listWorkflowRuns => do
      return .workflowRuns (← Action.read MemoryState.listWorkflowRuns)
  | .listUnfinishedWorkflowRuns => do
      return .workflowRuns (← Action.read MemoryState.listUnfinishedWorkflowRuns)
  | .createTaskRun taskRun => do
      createTaskRun taskRun
      return .none
  | .getTaskRun taskRunId => do return .taskRun (← getTaskRun taskRunId)
  | .updateTaskRun taskRun expectedStatus transitionedAt => do
      updateTaskRun taskRun expectedStatus transitionedAt
      return .none
  | .listTaskRuns workflowRunId => do
      return .taskRuns (← Action.read (MemoryState.listTaskRuns · workflowRunId))
  | .appendTaskAttempt attempt => do
      appendTaskAttempt attempt
      return .none
  | .getTaskAttempt attemptId => do
      return .taskAttempt (← getTaskAttempt attemptId)
  | .updateTaskAttempt attempt expectedStatus transitionedAt => do
      updateTaskAttempt attempt expectedStatus transitionedAt
      return .none
  | .listTaskAttempts taskRunId => do
      return .taskAttempts (← Action.read (MemoryState.listTaskAttempts · taskRunId))
  | .appendExternalRunRef attemptId externalRef => do
      appendExternalRunRef attemptId externalRef
      return .none
  | .listExternalRunRefs attemptId => do
      return .externalRunRefs
        (← Action.read (MemoryState.listExternalRunRefs · attemptId))
  | .listStateTransitions entityType entityId => do
      return .stateTransitions (← listStateTransitions entityType entityId)
  | .listRuntimeEvents workflowRunId => do
      return .runtimeEvents (← listRuntimeEvents workflowRunId)
  | .setTaskOutputCheckpoint checkpoint => do
      setTaskOutputCheckpoint checkpoint
      return .none
  | .getTaskOutputCheckpoint taskRunId => do
      return .taskOutputCheckpoint (← getTaskOutputCheckpoint taskRunId)
  | .setManifestReference runId reference => do
      setManifestReference runId reference
      return .none
  | .getManifestReference runId => do
      return .manifestReference (← getManifestReference runId)

/-- The transition time is absent or timezone-aware. -/
def TimezoneAware (transitionedAt : Option Timestamp) : Prop :=
  transitionedAt ≠ some .naive

/-- A correlation without W3C trace headers and baggage. -/
def PlainCorrelation (correlation : CorrelationContext) : Prop :=
  correlation.traceparent = none ∧ correlation.tracestate = none ∧
    correlation.baggage = .empty

/-- The operation keeps to the terms of use at a state: plain correlations,
timezone-aware transition times, and no update of `resume_of_run_id`. -/
def StoreOp.Admissible (state : MemoryState) : StoreOp → Prop
  | .createWorkflowRun run => PlainCorrelation run.correlation
  | .updateWorkflowRun run _ transitionedAt =>
      PlainCorrelation run.correlation ∧ TimezoneAware transitionedAt ∧
        ∀ current ∈ state.workflowRuns.find? run.runId,
          run.resumeOfRunId = current.resumeOfRunId
  | .updateTaskRun _ _ transitionedAt => TimezoneAware transitionedAt
  | .updateTaskAttempt _ _ transitionedAt => TimezoneAware transitionedAt
  | _ => True

/-- Every operation of a sequence is admissible when its turn comes. -/
def AdmissibleHistory : MemoryState → List StoreOp → Prop
  | _, [] => True
  | state, op :: rest =>
      op.Admissible state ∧
        AdmissibleHistory ((Memory.perform op).run state).2 rest

/-- The instant of a timezone-aware transition time. -/
def Timestamp.instants : Option Timestamp → List Instant
  | some (.aware at_) => [at_]
  | some .naive => []
  | none => []

/-- The datetimes that an operation hands to the store to be written. -/
def StoreOp.instants : StoreOp → List Instant
  | .createWorkflowRun run =>
      run.createdAt :: (run.startedAt.toList ++ run.endedAt.toList)
  | .updateWorkflowRun run _ transitionedAt =>
      run.startedAt.toList ++ run.endedAt.toList ++
        Timestamp.instants transitionedAt
  | .createTaskRun taskRun =>
      taskRun.createdAt :: (taskRun.startedAt.toList ++ taskRun.endedAt.toList)
  | .updateTaskRun taskRun _ transitionedAt =>
      taskRun.startedAt.toList ++ taskRun.endedAt.toList ++
        Timestamp.instants transitionedAt
  | .appendTaskAttempt attempt =>
      attempt.createdAt :: (attempt.startedAt.toList ++ attempt.endedAt.toList)
  | .updateTaskAttempt attempt _ transitionedAt =>
      attempt.startedAt.toList ++ attempt.endedAt.toList ++
        Timestamp.instants transitionedAt
  | .setTaskOutputCheckpoint checkpoint => [checkpoint.recordedAt]
  | _ => []

end PyWorkflowKit.Persistence
