import PyWorkflowKit.Core.StrEnum
import PyWorkflowKit.Domain.Values
import Mathlib.Data.String.Basic

/-!
# Runtime state vocabulary

The statuses of workflow runs, task runs and task attempts, and which of them
are terminal.
-/

namespace PyWorkflowKit.States

open PyWorkflowKit.Core PyWorkflowKit.Domain

inductive WorkflowRunStatus where
  | pending
  | running
  | succeeded
  | failed
  | cancellationRequested
  | cancelled
  | timedOut
  | unknownOutcome
deriving DecidableEq, Repr

def WorkflowRunStatus.value : WorkflowRunStatus → String
  | pending => "PENDING"
  | running => "RUNNING"
  | succeeded => "SUCCEEDED"
  | failed => "FAILED"
  | cancellationRequested => "CANCELLATION_REQUESTED"
  | cancelled => "CANCELLED"
  | timedOut => "TIMED_OUT"
  | unknownOutcome => "UNKNOWN_OUTCOME"

instance : StrEnum WorkflowRunStatus where
  members := [.pending, .running, .succeeded, .failed, .cancellationRequested,
    .cancelled, .timedOut, .unknownOutcome]
  value := WorkflowRunStatus.value
  find_value member := by cases member <;> decide

inductive TaskRunStatus where
  | pending
  | ready
  | running
  | succeeded
  | failed
  | skipped
  | cancelled
  | timedOut
  | blocked
  | unknownOutcome
  | reused
deriving DecidableEq, Repr

def TaskRunStatus.value : TaskRunStatus → String
  | pending => "PENDING"
  | ready => "READY"
  | running => "RUNNING"
  | succeeded => "SUCCEEDED"
  | failed => "FAILED"
  | skipped => "SKIPPED"
  | cancelled => "CANCELLED"
  | timedOut => "TIMED_OUT"
  | blocked => "BLOCKED"
  | unknownOutcome => "UNKNOWN_OUTCOME"
  | reused => "REUSED"

instance : StrEnum TaskRunStatus where
  members := [.pending, .ready, .running, .succeeded, .failed, .skipped,
    .cancelled, .timedOut, .blocked, .unknownOutcome, .reused]
  value := TaskRunStatus.value
  find_value member := by cases member <;> decide

inductive TaskAttemptStatus where
  | pending
  | starting
  | running
  | succeeded
  | failed
  | timedOut
  | cancellationRequested
  | cancelled
  | cancellationUnconfirmed
  | unknownOutcome
  | requiresReconciliation
deriving DecidableEq, Repr

def TaskAttemptStatus.value : TaskAttemptStatus → String
  | pending => "PENDING"
  | starting => "STARTING"
  | running => "RUNNING"
  | succeeded => "SUCCEEDED"
  | failed => "FAILED"
  | timedOut => "TIMED_OUT"
  | cancellationRequested => "CANCELLATION_REQUESTED"
  | cancelled => "CANCELLED"
  | cancellationUnconfirmed => "CANCELLATION_UNCONFIRMED"
  | unknownOutcome => "UNKNOWN_OUTCOME"
  | requiresReconciliation => "REQUIRES_RECONCILIATION"

instance : StrEnum TaskAttemptStatus where
  members := [.pending, .starting, .running, .succeeded, .failed, .timedOut,
    .cancellationRequested, .cancelled, .cancellationUnconfirmed,
    .unknownOutcome, .requiresReconciliation]
  value := TaskAttemptStatus.value
  find_value member := by cases member <;> decide

inductive SkipReason where
  | conditionFalse
  | dependencyFailed
  | failFastAbort
  | branchNotSelected
  | triggerRuleUnsatisfied
  | upstreamSkipped
deriving DecidableEq, Repr

def SkipReason.value : SkipReason → String
  | conditionFalse => "CONDITION_FALSE"
  | dependencyFailed => "DEPENDENCY_FAILED"
  | failFastAbort => "FAIL_FAST_ABORT"
  | branchNotSelected => "BRANCH_NOT_SELECTED"
  | triggerRuleUnsatisfied => "TRIGGER_RULE_UNSATISFIED"
  | upstreamSkipped => "UPSTREAM_SKIPPED"

instance : StrEnum SkipReason where
  members := [.conditionFalse, .dependencyFailed, .failFastAbort,
    .branchNotSelected, .triggerRuleUnsatisfied, .upstreamSkipped]
  value := SkipReason.value
  find_value member := by cases member <;> decide

inductive BlockReason where
  | upstreamFailed
  | upstreamUnknown
  | missingInput
  | policy
  | cancellation
deriving DecidableEq, Repr

def BlockReason.value : BlockReason → String
  | upstreamFailed => "UPSTREAM_FAILED"
  | upstreamUnknown => "UPSTREAM_UNKNOWN"
  | missingInput => "MISSING_INPUT"
  | policy => "POLICY"
  | cancellation => "CANCELLATION"

instance : StrEnum BlockReason where
  members := [.upstreamFailed, .upstreamUnknown, .missingInput, .policy,
    .cancellation]
  value := BlockReason.value
  find_value member := by cases member <;> decide

/-- `WORKFLOW_TERMINAL_STATUSES`. -/
def WorkflowRunStatus.isTerminal : WorkflowRunStatus → Bool
  | succeeded | failed | cancelled | timedOut => true
  | pending | running | cancellationRequested | unknownOutcome => false

/-- `TASK_RUN_TERMINAL_STATUSES`. -/
def TaskRunStatus.isTerminal : TaskRunStatus → Bool
  | succeeded | failed | skipped | cancelled | timedOut | reused => true
  | pending | ready | running | blocked | unknownOutcome => false

/-- `TASK_ATTEMPT_TERMINAL_STATUSES`. -/
def TaskAttemptStatus.isTerminal : TaskAttemptStatus → Bool
  | succeeded | failed | timedOut | cancelled => true
  | pending | starting | running | cancellationRequested
  | cancellationUnconfirmed | unknownOutcome | requiresReconciliation => false

def WorkflowRunStatus.text (status : WorkflowRunStatus) : Text :=
  ⟨status.value, by cases status <;> decide⟩

def TaskRunStatus.text (status : TaskRunStatus) : Text :=
  ⟨status.value, by cases status <;> decide⟩

def TaskAttemptStatus.text (status : TaskAttemptStatus) : Text :=
  ⟨status.value, by cases status <;> decide⟩

end PyWorkflowKit.States
