import PyWorkflowKit.Domain.Errors
import PyWorkflowKit.Domain.Evidence
import PyWorkflowKit.States.Status

/-!
# Runtime entities

Workflow runs, task runs and task attempts.  Each entity carries the proof that
its status agrees with its timestamps and reasons, which is what the
constructor of the source checks.
-/

namespace PyWorkflowKit.States

open PyWorkflowKit.Domain

/-- What the `WorkflowRun` constructor rejects about status and timestamps. -/
def workflowRunViolation (status : WorkflowRunStatus)
    (startedAt endedAt : Option Instant) : Option String :=
  match status with
  | .pending =>
      if startedAt.isSome || endedAt.isSome then
        some "PENDING WorkflowRun cannot have runtime timestamps"
      else none
  | .running | .cancellationRequested | .unknownOutcome =>
      if endedAt.isSome then
        some (status.value ++ " WorkflowRun cannot have ended_at")
      else none
  | .succeeded | .failed | .cancelled | .timedOut =>
      if endedAt.isNone then some "terminal WorkflowRun must have ended_at"
      else none

/-- One execution instance of a workflow. -/
structure WorkflowRun where
  runId : WorkflowRunId
  workflowName : Text
  workflowVersion : Text
  definitionFingerprint : Text
  planFingerprint : Text
  correlation : CorrelationContext
  createdAt : Instant
  status : WorkflowRunStatus
  startedAt : Option Instant
  endedAt : Option Instant
  failure : Option FailureEvidence
  resumeOfRunId : Option Text
  valid : workflowRunViolation status startedAt endedAt = none
deriving DecidableEq

/-- What the `TaskRun` constructor rejects about status, reasons and
timestamps. -/
def taskRunViolation (status : TaskRunStatus) (endedAt : Option Instant)
    (skipReason : Option SkipReason) (blockReason : Option BlockReason) :
    Option String :=
  if status = .skipped ∧ skipReason.isNone then
    some "SKIPPED TaskRun requires skip_reason"
  else if status ≠ .skipped ∧ skipReason.isSome then
    some "skip_reason is only valid for SKIPPED TaskRun"
  else if status = .blocked ∧ blockReason.isNone then
    some "BLOCKED TaskRun requires block_reason"
  else if status ≠ .blocked ∧ blockReason.isSome then
    some "block_reason is only valid for BLOCKED TaskRun"
  else if status.isTerminal then
    if endedAt.isNone then some "terminal TaskRun must have ended_at" else none
  else if endedAt.isSome then
    some (status.value ++ " TaskRun cannot have ended_at")
  else none

/-- Logical execution of one task inside one workflow run. -/
structure TaskRun where
  taskRunId : TaskRunId
  workflowRunId : WorkflowRunId
  taskKey : Text
  createdAt : Instant
  status : TaskRunStatus
  startedAt : Option Instant
  endedAt : Option Instant
  skipReason : Option SkipReason
  blockReason : Option BlockReason
  failure : Option FailureEvidence
  valid : taskRunViolation status endedAt skipReason blockReason = none
deriving DecidableEq

/-- What the `TaskAttempt` constructor rejects about number, status and
timestamps. -/
def taskAttemptViolation (attemptNumber : Int) (status : TaskAttemptStatus)
    (endedAt : Option Instant) : Option String :=
  if attemptNumber < 1 then
    some "attempt_number must be greater than or equal to 1"
  else if status.isTerminal then
    if endedAt.isNone then some "terminal TaskAttempt must have ended_at"
    else none
  else if endedAt.isSome then
    some (status.value ++ " TaskAttempt cannot have ended_at")
  else none

/-- One concrete attempt of a task run. -/
structure TaskAttempt where
  attemptId : TaskAttemptId
  taskRunId : TaskRunId
  attemptNumber : Int
  createdAt : Instant
  status : TaskAttemptStatus
  startedAt : Option Instant
  endedAt : Option Instant
  failure : Option FailureEvidence
  valid : taskAttemptViolation attemptNumber status endedAt = none
deriving DecidableEq

/-- A newly created workflow run. -/
def WorkflowRun.new (runId : WorkflowRunId)
    (workflowName workflowVersion definitionFingerprint planFingerprint : Text)
    (correlation : CorrelationContext) (createdAt : Instant)
    (resumeOfRunId : Option Text) : WorkflowRun where
  runId := runId
  workflowName := workflowName
  workflowVersion := workflowVersion
  definitionFingerprint := definitionFingerprint
  planFingerprint := planFingerprint
  correlation := correlation
  createdAt := createdAt
  status := .pending
  startedAt := none
  endedAt := none
  failure := none
  resumeOfRunId := resumeOfRunId
  valid := rfl

/-- A newly created task run. -/
def TaskRun.new (taskRunId : TaskRunId) (workflowRunId : WorkflowRunId)
    (taskKey : Text) (createdAt : Instant) : TaskRun where
  taskRunId := taskRunId
  workflowRunId := workflowRunId
  taskKey := taskKey
  createdAt := createdAt
  status := .pending
  startedAt := none
  endedAt := none
  skipReason := none
  blockReason := none
  failure := none
  valid := rfl

/-- A newly created attempt; its number is checked by the constructor. -/
def TaskAttempt.new (attemptId : TaskAttemptId) (taskRunId : TaskRunId)
    (attemptNumber : Nat) (hpositive : 1 ≤ attemptNumber) (createdAt : Instant) :
    TaskAttempt where
  attemptId := attemptId
  taskRunId := taskRunId
  attemptNumber := attemptNumber
  createdAt := createdAt
  status := .pending
  startedAt := none
  endedAt := none
  failure := none
  valid := by
    have hnumber : ¬ (attemptNumber : Int) < 1 := by omega
    simp [taskAttemptViolation, hnumber, TaskAttemptStatus.isTerminal]

/-- `_require_workflow_identity` accepts the replacement. -/
def WorkflowRun.SameIdentity (current candidate : WorkflowRun) : Prop :=
  current.runId = candidate.runId ∧
    current.workflowName = candidate.workflowName ∧
    current.workflowVersion = candidate.workflowVersion ∧
    current.definitionFingerprint = candidate.definitionFingerprint ∧
    current.planFingerprint = candidate.planFingerprint ∧
    current.correlation = candidate.correlation ∧
    current.createdAt = candidate.createdAt

instance (current candidate : WorkflowRun) :
    Decidable (current.SameIdentity candidate) := by
  unfold WorkflowRun.SameIdentity
  infer_instance

/-- `_require_task_run_identity` accepts the replacement. -/
def TaskRun.SameIdentity (current candidate : TaskRun) : Prop :=
  current.taskRunId = candidate.taskRunId ∧
    current.workflowRunId = candidate.workflowRunId ∧
    current.taskKey = candidate.taskKey ∧
    current.createdAt = candidate.createdAt

instance (current candidate : TaskRun) :
    Decidable (current.SameIdentity candidate) := by
  unfold TaskRun.SameIdentity
  infer_instance

/-- `_require_attempt_identity` accepts the replacement. -/
def TaskAttempt.SameIdentity (current candidate : TaskAttempt) : Prop :=
  current.attemptId = candidate.attemptId ∧
    current.taskRunId = candidate.taskRunId ∧
    current.attemptNumber = candidate.attemptNumber ∧
    current.createdAt = candidate.createdAt

instance (current candidate : TaskAttempt) :
    Decidable (current.SameIdentity candidate) := by
  unfold TaskAttempt.SameIdentity
  infer_instance

theorem WorkflowRun.sameIdentity_refl (run : WorkflowRun) : run.SameIdentity run :=
  ⟨rfl, rfl, rfl, rfl, rfl, rfl, rfl⟩

theorem TaskRun.sameIdentity_refl (taskRun : TaskRun) : taskRun.SameIdentity taskRun :=
  ⟨rfl, rfl, rfl, rfl⟩

theorem TaskAttempt.sameIdentity_refl (attempt : TaskAttempt) : attempt.SameIdentity attempt :=
  ⟨rfl, rfl, rfl, rfl⟩

theorem workflowRunViolation_eq_none_iff (status : WorkflowRunStatus)
    (startedAt endedAt : Option Instant) :
    workflowRunViolation status startedAt endedAt = none ↔
      (status = .pending → startedAt = none) ∧
        (endedAt.isSome = true ↔ status.isTerminal = true) := by
  cases status <;> cases startedAt <;> cases endedAt <;>
    simp [workflowRunViolation, WorkflowRunStatus.isTerminal]

theorem taskRunViolation_eq_none_iff (status : TaskRunStatus)
    (endedAt : Option Instant) (skipReason : Option SkipReason)
    (blockReason : Option BlockReason) :
    taskRunViolation status endedAt skipReason blockReason = none ↔
      (skipReason.isSome = true ↔ status = .skipped) ∧
        (blockReason.isSome = true ↔ status = .blocked) ∧
        (endedAt.isSome = true ↔ status.isTerminal = true) := by
  cases status <;> cases endedAt <;> cases skipReason <;> cases blockReason <;>
    simp [taskRunViolation, TaskRunStatus.isTerminal]

theorem taskAttemptViolation_eq_none_iff (attemptNumber : Int)
    (status : TaskAttemptStatus) (endedAt : Option Instant) :
    taskAttemptViolation attemptNumber status endedAt = none ↔
      1 ≤ attemptNumber ∧ (endedAt.isSome = true ↔ status.isTerminal = true) := by
  unfold taskAttemptViolation
  by_cases hnumber : attemptNumber < 1
  · have hnot : ¬ 1 ≤ attemptNumber := by omega
    simp [hnumber, hnot]
  · have hone : 1 ≤ attemptNumber := by omega
    cases status <;> cases endedAt <;>
      simp [hnumber, hone, TaskAttemptStatus.isTerminal]

end PyWorkflowKit.States
