import PyWorkflowKit.Domain.Json
import PyWorkflowKit.Executors.Contracts
import PyWorkflowKit.States.Status

/-!
# Results

The projections that the runtime hands to its callers.
-/

namespace PyWorkflowKit.Runtime

open PyWorkflowKit.Core PyWorkflowKit.Domain PyWorkflowKit.States
open PyWorkflowKit.Executors

/-- Read-only summary of one task run. -/
structure TaskOutcome where
  taskKey : Text
  taskRunId : TaskRunId
  status : TaskRunStatus
  attemptIds : List TaskAttemptId
  output : PyValue
  failure : Option FailureEvidence

/-- Result of `run` and `resume_run`. -/
structure WorkflowResult where
  runId : WorkflowRunId
  status : WorkflowRunStatus
  taskOutcomes : List TaskOutcome
  diagnostics : List Diagnostic
  correlation : CorrelationContext
  failure : Option FailureEvidence
  concluded : status.isTerminal = true ∨ status = .unknownOutcome
  distinct : (taskOutcomes.map TaskOutcome.taskKey).Nodup

/-- The checks of the `WorkflowResult` constructor. -/
def WorkflowResult.new (runId : WorkflowRunId) (status : WorkflowRunStatus)
    (taskOutcomes : List TaskOutcome) (diagnostics : List Diagnostic)
    (correlation : CorrelationContext) (failure : Option FailureEvidence) :
    Except PyError WorkflowResult :=
  if hconcluded : ¬ (status.isTerminal = true ∨ status = .unknownOutcome) then
    .error (.valueError
      "WorkflowResult requires a terminal or UNKNOWN_OUTCOME WorkflowRun status")
  else if hdistinct : ¬ (taskOutcomes.map TaskOutcome.taskKey).Nodup then
    .error (.valueError "task_outcomes must contain unique task keys")
  else
    .ok {
      runId := runId
      status := status
      taskOutcomes := taskOutcomes
      diagnostics := diagnostics
      correlation := correlation
      failure := failure
      concluded := not_not.mp hconcluded
      distinct := not_not.mp hdistinct }

/-- Result of a cancellation command. -/
structure CancellationResult where
  status : CancellationStatus
  workflowRunId : WorkflowRunId
  taskRunId : Option TaskRunId
  attemptId : Option TaskAttemptId
  reason : Text
deriving DecidableEq

end PyWorkflowKit.Runtime
