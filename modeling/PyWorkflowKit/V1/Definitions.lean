import PyWorkflowKit.Domain.Number
import PyWorkflowKit.Policies.Retry
import PyWorkflowKit.V1.Entities

/-!
# Workflow definitions of version 1

Immutable workflow and task definitions, what an executor can do, and what it is
called with and gives back.
-/

namespace PyWorkflowKit.V1

open PyWorkflowKit.Domain PyWorkflowKit.Policies

inductive TimeoutMode where
  | none
  | soft
  | hard
deriving DecidableEq, Repr

def TimeoutMode.value : TimeoutMode → String
  | none => "NONE"
  | soft => "SOFT"
  | hard => "HARD"

inductive TimeoutCapability where
  | none
  | soft
  | hard
deriving DecidableEq, Repr

def TimeoutCapability.value : TimeoutCapability → String
  | none => "none"
  | soft => "soft"
  | hard => "hard"

inductive CancellationCapability where
  | none
  | cooperative
  | hard
deriving DecidableEq, Repr

/-- A task without a timeout has a mode that says so. -/
theorem TimeoutMode.timed_none :
    TimeoutMode.none = .none ↔ (Option.none : Option Seconds) = .none :=
  iff_of_true rfl rfl

theorem TimeoutMode.positive_none :
    ∀ seconds ∈ (Option.none : Option Seconds), 0 < seconds.value.rat := by
  simp

/-- Retry semantics for a task definition; the first attempt counts. -/
structure RetryPolicy where
  maxAttempts : Nat
  backoffStrategy : BackoffStrategy
  delaySeconds : Seconds
  maxDelaySeconds : Option Seconds
  retryableErrorCategories : List String
  positive : 1 ≤ maxAttempts

/-- `RetryPolicy()`. -/
def RetryPolicy.default : RetryPolicy where
  maxAttempts := 1
  backoffStrategy := .none
  delaySeconds := .zero
  maxDelaySeconds := none
  retryableErrorCategories := []
  positive := Nat.one_pos

/-- Static definition of one workflow task. -/
structure TaskDefinition where
  taskId : TaskId
  handlerRef : Option Text
  dependsOn : List TaskId
  retryPolicy : RetryPolicy
  executorKey : Text
  timeoutSeconds : Option Seconds
  timeoutMode : TimeoutMode
  positiveTimeout : ∀ seconds ∈ timeoutSeconds, 0 < seconds.value.rat
  timed : timeoutMode = .none ↔ timeoutSeconds = none
  distinct : dependsOn.Nodup
  irreflexive : taskId ∉ dependsOn

/-- Declaration of an input parameter. -/
structure WorkflowParameter where
  name : Text
  required : Bool
  default : PyValue

/-- Immutable static definition of a workflow. -/
structure WorkflowDefinition where
  workflowId : WorkflowId
  version : Text
  tasks : List TaskDefinition
  parameters : List WorkflowParameter
  nonempty : tasks ≠ []
  distinct : (tasks.map TaskDefinition.taskId).Nodup
  distinctParameters : (parameters.map WorkflowParameter.name).Nodup

/-- The definition of a task. -/
def WorkflowDefinition.task? (workflow : WorkflowDefinition) (taskId : TaskId) :
    Option TaskDefinition :=
  workflow.tasks.find? fun task => task.taskId = taskId

/-- Result of a task handler. -/
structure TaskResult where
  output : PyValue
  artifacts : List ArtifactReference
  externalRefs : List ExternalRunRef

/-- Execution context passed to a task handler. -/
structure RunContext where
  workflowRunId : WorkflowRunId
  taskRunId : TaskRunId
  attemptId : TaskAttemptId
  taskId : TaskId
  attemptNumber : Nat
  workflowParameters : Objects
  dependencyOutputs : List (TaskId × PyValue)

/-- What becomes of a call of `Executor.execute`. -/
inductive Execution where
  | returned (result : TaskResult)
  | failed (error : ExecutorError)
  | raised (typeName : String)

/-- An executor and the handlers and limits that a runner works with. -/
structure RunnerSettings where
  executorKey : Text
  timeout : TimeoutCapability
  cancellation : CancellationCapability
  hasTerminate : Bool
  hasCancel : Bool
  maxConcurrency : Nat
  handlerRefs : List Text
  globalLimit : Option Int
  executorLimit : Option Int
  floatText : PyFloat → String
  positive : 1 ≤ maxConcurrency

end PyWorkflowKit.V1
