import PyWorkflowKit.Authoring.Definitions
import PyWorkflowKit.Domain.Json

/-!
# Executor contracts

What the runtime asks of an executor and what it gets back, and the registry
that resolves executors by key.
-/

namespace PyWorkflowKit.Executors

open PyWorkflowKit.Core PyWorkflowKit.Domain PyWorkflowKit.Authoring

inductive CancellationCapability where
  | unsupported
  | bestEffort
  | confirmed
deriving DecidableEq, Repr

inductive CancellationStatus where
  | requested
  | confirmed
  | unsupported
  | unconfirmed
  | alreadyTerminal
deriving DecidableEq, Repr

/-- The part of an executor's descriptor that the runtime reads. -/
structure ExecutorDescriptor where
  executorId : Text
  supportedWorkloadKinds : List Text
  performsImplicitWorkloadRetry : Bool
  supportsExecutionTimeout : Bool
  cancellationCapability : CancellationCapability
deriving DecidableEq

/-- A registered executor; `cancellable` says that it has a `cancel` method. -/
structure Executor where
  descriptor : ExecutorDescriptor
  cancellable : Bool
deriving DecidableEq

def Executor.executorId (executor : Executor) : Text := executor.descriptor.executorId

abbrev ExecutorRegistry := Table Executor.executorId

/-- `ExecutorRegistry.resolve`. -/
def ExecutorRegistry.resolve (registry : ExecutorRegistry) (executorKey : Text) :
    Except PyError Executor :=
  match registry.find? executorKey with
  | some executor => .ok executor
  | none => .error (.executorNotFound executorKey.value)

/-- Read-only context passed to workload callables. -/
structure TaskExecutionContext where
  workflowRunId : WorkflowRunId
  taskRunId : TaskRunId
  attemptId : TaskAttemptId
  attemptNumber : Int
  correlation : CorrelationContext
  dependencyOutputs : List (Text × PyValue)
  workloadParameters : Pairs

/-- One executor request for exactly one attempt. -/
structure TaskExecutionRequest where
  taskKey : Text
  workload : Workload
  executorKey : Text
  context : TaskExecutionContext
  deadlineAt : Option Instant

/-- Normalized outcome of one executor invocation. -/
structure TaskExecutionResult where
  output : PyValue
  failure : Option FailureEvidence
  diagnostics : List Diagnostic
  externalRuns : List ExternalRunRef

def TaskExecutionResult.succeeded (result : TaskExecutionResult) : Bool :=
  result.failure.isNone

/-- What a call of `executor.execute` comes to. -/
inductive Execution where
  | returned (result : TaskExecutionResult)
  | raised (typeName message : String)
  | foreign

/-- Cancellation command for one concrete attempt. -/
structure TaskCancellationRequest where
  workflowRunId : WorkflowRunId
  taskRunId : TaskRunId
  attemptId : TaskAttemptId
  taskKey : Text
  requestedAt : Instant
  reason : Text
deriving DecidableEq

/-- Executor-owned cancellation acknowledgement, as far as the runtime reads it. -/
structure TaskCancellationResult where
  status : CancellationStatus
  reason : Text
  externalRuns : List ExternalRunRef
deriving DecidableEq

end PyWorkflowKit.Executors
