import PyWorkflowKit.Runtime.Services

/-!
# Recovery inspection

The classification of durable runtime evidence, which reads the store only.
-/

namespace PyWorkflowKit.Diagnostics

open PyWorkflowKit.Core PyWorkflowKit.Domain PyWorkflowKit.States
open PyWorkflowKit.Persistence PyWorkflowKit.Runtime

inductive RecoveryDisposition where
  | noAction
  | ready
  | requiresReconciliation
  | manualRequired
deriving DecidableEq, Repr

/-- Recovery evidence for one persisted task run. -/
structure TaskRecoveryAssessment where
  taskRunId : TaskRunId
  taskKey : Text
  taskStatus : TaskRunStatus
  latestAttemptId : Option TaskAttemptId
  latestAttemptStatus : Option TaskAttemptStatus
  externalRunRefCount : Nat
  disposition : RecoveryDisposition
  reasons : List String
deriving DecidableEq

/-- Recovery assessment of one workflow run. -/
structure RecoveryAssessment where
  workflowRunId : WorkflowRunId
  workflowStatus : WorkflowRunStatus
  taskAssessments : List TaskRecoveryAssessment
  disposition : RecoveryDisposition
  reasons : List String
deriving DecidableEq

/-- The end of `_assess_task`, on what it has read. -/
def classifyTask (taskRun : TaskRun) (latest : Option TaskAttempt)
    (refs : List ExternalRunRef) : TaskRecoveryAssessment :=
  let assessment (refCount : Nat) (disposition : RecoveryDisposition)
      (reason : String) : TaskRecoveryAssessment := {
    taskRunId := taskRun.taskRunId
    taskKey := taskRun.taskKey
    taskStatus := taskRun.status
    latestAttemptId := latest.map TaskAttempt.attemptId
    latestAttemptStatus := latest.map TaskAttempt.status
    externalRunRefCount := refCount
    disposition := disposition
    reasons := [reason] }
  if taskRun.status.isTerminal then assessment 0 .noAction "task_is_terminal"
  else
    match latest with
    | none => assessment 0 .ready "task_has_not_started_an_attempt"
    | some attempt =>
        if attempt.status.isTerminal then
          assessment refs.length .requiresReconciliation
            "task_state_lags_terminal_attempt_evidence"
        else if refs ≠ [] then
          assessment refs.length .requiresReconciliation
            "non_terminal_attempt_has_external_execution_evidence"
        else if attempt.status ∈ [.pending, .starting, .running, .cancellationRequested,
            .cancellationUnconfirmed, .unknownOutcome, .requiresReconciliation] then
          assessment 0 .manualRequired
            "non_terminal_attempt_has_no_external_reconciliation_evidence"
        else
          assessment refs.length .manualRequired
            "persisted_task_state_is_not_recoverable_automatically"

@[simp]
theorem taskRunId_classifyTask (taskRun : TaskRun) (latest : Option TaskAttempt)
    (refs : List ExternalRunRef) :
    (classifyTask taskRun latest refs).taskRunId = taskRun.taskRunId := by
  unfold classifyTask
  cases latest with
  | none => split <;> rfl
  | some attempt =>
      split
      · rfl
      simp only
      split
      · rfl
      split
      · rfl
      split <;> rfl

/-- `_assess_task`. -/
def assessTask (taskRunId : TaskRunId) : Procedure TaskRecoveryAssessment := do
  let taskRun ← onStore (Memory.getTaskRun taskRunId)
  let attempts ← query fun state => state.listTaskAttempts taskRunId
  let latest := attempts.getLast?
  match latest with
  | none => pure (classifyTask taskRun none [])
  | some attempt =>
      if taskRun.status.isTerminal then pure (classifyTask taskRun latest [])
      else do
        let refs ← query fun state => state.listExternalRunRefs attempt.attemptId
        pure (classifyTask taskRun latest refs)

/-- The disposition of a run, from those of its tasks. -/
def classifyRun (run : WorkflowRun) (tasks : List TaskRecoveryAssessment) :
    RecoveryAssessment :=
  let (disposition, reason) :=
    if run.status.isTerminal then (RecoveryDisposition.noAction, "workflow_is_terminal")
    else if tasks.any fun item => item.disposition = .manualRequired then
      (.manualRequired, "at_least_one_task_requires_manual_recovery")
    else if tasks.any fun item => item.disposition = .requiresReconciliation then
      (.requiresReconciliation, "at_least_one_task_requires_reconciliation")
    else (.ready, "durable_state_has_no_ambiguous_active_attempt")
  ⟨run.runId, run.status, tasks, disposition, [reason]⟩

/-- `RecoveryInspector.assess`. -/
def assess (workflowRunId : WorkflowRunId) : Procedure RecoveryAssessment := do
  let run ← onStore (Memory.getWorkflowRun workflowRunId)
  let taskRuns ← query fun state => state.listTaskRuns workflowRunId
  let tasks ← Program.mapEach taskRuns fun taskRun => assessTask taskRun.taskRunId
  pure (classifyRun run tasks)

end PyWorkflowKit.Diagnostics
