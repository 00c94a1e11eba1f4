import PyWorkflowKit.Diagnostics.Recovery

/-!
# Reconciliation

The service that settles persisted ambiguity from durable evidence and from the
answers of external-run verifiers.
-/

namespace PyWorkflowKit.Runtime

open PyWorkflowKit.Core PyWorkflowKit.Domain PyWorkflowKit.States
open PyWorkflowKit.Persistence PyWorkflowKit.Diagnostics

inductive ReconciliationDisposition where
  | noAction
  | resolvedSucceeded
  | resolvedFailed
  | resolvedCancelled
  | resolvedTimedOut
  | stillRunning
  | manualRequired
deriving DecidableEq, Repr

/-- Normalized provider observation. -/
structure ExternalRunObservation where
  provider : Text
  kind : Text
  externalRunId : Text
  status : ExternalRunStatus
  reason : Option String
deriving DecidableEq

/-- Reconciliation result for one task run. -/
structure TaskReconciliation where
  taskRunId : TaskRunId
  taskKey : Text
  attemptId : Option TaskAttemptId
  disposition : ReconciliationDisposition
  observations : List ExternalRunObservation
  reasons : List String
deriving DecidableEq

/-- Result of one reconciliation pass. -/
structure ReconciliationReport where
  workflowRunId : WorkflowRunId
  workflowStatusBefore : WorkflowRunStatus
  workflowStatusAfter : WorkflowRunStatus
  assessment : RecoveryAssessment
  taskReconciliations : List TaskReconciliation
deriving DecidableEq

/-- What `_observe` makes of the verifier's answer. -/
def observation (externalRef : ExternalRunRef) (verification : Verification) :
    ExternalRunObservation :=
  let observed (status : ExternalRunStatus) (reason : Option String) :
      ExternalRunObservation := {
    provider := externalRef.provider
    kind := externalRef.kind
    externalRunId := externalRef.externalRunId
    status := status
    reason := reason }
  match verification with
  | .unregistered => observed .unknown (some "verifier_not_registered")
  | .raised typeName => observed .unknown (some ("verification_failed:" ++ typeName))
  | .invalid => observed .unknown (some "verifier_returned_invalid_status")
  | .returned status => observed status none

/-- `_observe`. -/
def observe (attemptId : TaskAttemptId) (externalRef : ExternalRunRef) :
    Procedure ExternalRunObservation := do
  let verification ← Program.ask (Service.verify attemptId externalRef)
  pure (observation externalRef verification)

/-- The mapping of `_repair_task_from_terminal_attempt`. -/
def repairTarget : TaskAttemptStatus → Option (TaskRunStatus × ReconciliationDisposition)
  | .succeeded => some (.succeeded, .resolvedSucceeded)
  | .failed => some (.failed, .resolvedFailed)
  | .cancelled => some (.cancelled, .resolvedCancelled)
  | .timedOut => some (.timedOut, .resolvedTimedOut)
  | _ => none

/-- `_repair_task_from_terminal_attempt`. -/
def repairTaskFromTerminalAttempt (taskRun : TaskRun) (attempt : TaskAttempt) :
    Procedure ReconciliationDisposition := do
  match repairTarget attempt.status with
  | none => .raise (.keyError attempt.status.value)
  | some (taskStatus, disposition) => do
      let _ ← transitionTask taskRun taskStatus none attempt.failure
      pure disposition

/-- `_resolve_attempt_and_task`. -/
def resolveAttemptAndTask (taskRun : TaskRun) (attempt : TaskAttempt)
    (attemptStatus : TaskAttemptStatus) (taskStatus : TaskRunStatus)
    (failure : Option FailureEvidence) : Procedure Unit := do
  if attempt.status ≠ attemptStatus then
    let _ ← transitionAttempt attempt attemptStatus failure
  let taskRun ← onStore (Memory.getTaskRun taskRun.taskRunId)
  if taskRun.status ≠ taskStatus then
    let _ ← transitionTask taskRun taskStatus none failure

/-- `_reconciled_failure`. -/
def reconciledFailure (taskRun : TaskRun) (attempt : TaskAttempt)
    (externalRef : ExternalRunRef) (cancelled : Bool) : Procedure FailureEvidence := do
  let run ← onStore (Memory.getWorkflowRun taskRun.workflowRunId)
  let at_ ← now
  pure {
    errorCode :=
      if cancelled then .lit "PWK-RECONCILED-EXTERNAL-CANCELLED"
      else .lit "PWK-RECONCILED-EXTERNAL-FAILED"
    category := if cancelled then .cancelled else .externalProvider
    retryability := if cancelled then .nonRetryable else .unknown
    uncertainty := .known
    correlationId := run.correlation.correlationId
    sourceFramework := .lit "pyworkflowkit"
    workflowRunId := some run.runId.value
    taskRunId := some taskRun.taskRunId.value
    taskAttemptId := some attempt.attemptId.value
    externalRun := some externalRef
    sourceComponent := some (.lit "workflow_runtime.reconciliation")
    providerCode := none
    messageSummary :=
      some (if cancelled then
        .lit "external execution cancellation confirmed during reconciliation"
      else .lit "external execution failure confirmed during reconciliation")
    occurredAt := at_.instant
    details := [("provider_status_source", "reconciliation_verifier")]
    contractVersion := .lit "1" }

/-- The part of `_reconcile_task` that follows the observations. -/
def applyObservations (taskRun : TaskRun) (attempt : TaskAttempt)
    (externalRef : ExternalRunRef) (observations : List ExternalRunObservation) :
    Procedure (ReconciliationDisposition × String) := do
  let statuses := (observations.map ExternalRunObservation.status).dedup
  if .unknown ∈ statuses ∨ .notFound ∈ statuses then
    pure (.manualRequired, "external_status_is_not_conclusive")
  else
    match statuses with
    | [.running] => pure (.stillRunning, "external_execution_is_still_running")
    | [.succeeded] => do
        resolveAttemptAndTask taskRun attempt .succeeded .succeeded none
        pure (.resolvedSucceeded, "provider_truth_applied_to_same_task_attempt")
    | [.failed] => do
        let failure ← reconciledFailure taskRun attempt externalRef false
        resolveAttemptAndTask taskRun attempt .failed .failed (some failure)
        pure (.resolvedFailed, "provider_truth_applied_to_same_task_attempt")
    | [.cancelled] => do
        let failure ← reconciledFailure taskRun attempt externalRef true
        resolveAttemptAndTask taskRun attempt .cancelled .cancelled (some failure)
        pure (.resolvedCancelled, "provider_truth_applied_to_same_task_attempt")
    | _ => pure (.manualRequired, "conflicting_external_statuses")

/-- `_reconcile_task`. -/
def reconcileTask (taskRunId : TaskRunId) : Procedure TaskReconciliation := do
  let taskRun ← onStore (Memory.getTaskRun taskRunId)
  let attempts ← query fun state => state.listTaskAttempts taskRunId
  match attempts.getLast? with
  | none =>
      pure ⟨taskRun.taskRunId, taskRun.taskKey, none, .noAction, [],
        ["task_has_not_started_an_attempt"]⟩
  | some attempt =>
      if attempt.status.isTerminal then do
        let disposition ← repairTaskFromTerminalAttempt taskRun attempt
        pure ⟨taskRun.taskRunId, taskRun.taskKey, some attempt.attemptId, disposition,
          [], ["terminal_attempt_is_durable_authority"]⟩
      else do
        let refs ← query fun state => state.listExternalRunRefs attempt.attemptId
        match refs with
        | [] =>
            pure ⟨taskRun.taskRunId, taskRun.taskKey, some attempt.attemptId,
              .manualRequired, [], ["no_external_reconciliation_evidence"]⟩
        | externalRef :: _ => do
            let observations ← Program.mapEach refs (observe attempt.attemptId)
            let (disposition, reason) ←
              applyObservations taskRun attempt externalRef observations
            pure ⟨taskRun.taskRunId, taskRun.taskKey, some attempt.attemptId,
              disposition, observations, [reason]⟩

/-- `_first_task_failure`. -/
def firstTaskFailure (taskRuns : List TaskRun) : Option FailureEvidence :=
  taskRuns.findSome? TaskRun.failure

/-- The status that the cascade of `_reconcile_workflow` asks for, from the
statuses of the run and of its tasks. -/
def workflowVerdict (status : WorkflowRunStatus) (statuses : List TaskRunStatus) :
    Option WorkflowRunStatus :=
  if .unknownOutcome ∈ statuses then none
  else if .failed ∈ statuses then some .failed
  else if .timedOut ∈ statuses then some .timedOut
  else if .cancelled ∈ statuses then some .cancelled
  else if statuses ≠ [] ∧ ∀ taskStatus ∈ statuses, taskStatus.isTerminal = true then
    some .succeeded
  else if status = .unknownOutcome then some .running
  else none

/-- `_reconcile_workflow`. -/
def reconcileWorkflow (workflowRunId : WorkflowRunId) : Procedure Unit := do
  let run ← onStore (Memory.getWorkflowRun workflowRunId)
  if run.status.isTerminal then pure ()
  else do
    let taskRuns ← query fun state => state.listTaskRuns workflowRunId
    match workflowVerdict run.status (taskRuns.map TaskRun.status) with
    | none => pure ()
    | some target => do
        -- the two branches that do not come from a failed task pass no failure
        let failure :=
          if target = .succeeded ∨ target = .running then none
          else firstTaskFailure taskRuns
        let _ ← transitionWorkflow run target failure

/-- A task was left for a later pass or for a person. -/
def TaskReconciliation.unresolved (item : TaskReconciliation) : Bool :=
  item.disposition = .stillRunning || item.disposition = .manualRequired

/-- `ReconciliationService.reconcile`. -/
def reconcile (workflowRunId : WorkflowRunId) : Procedure ReconciliationReport := do
  let assessment ← assess workflowRunId
  let runBefore ← onStore (Memory.getWorkflowRun workflowRunId)
  if runBefore.status.isTerminal then
    pure ⟨workflowRunId, runBefore.status, runBefore.status, assessment, []⟩
  else do
    let taskRuns ← query fun state => state.listTaskRuns workflowRunId
    let open_ := taskRuns.filter fun taskRun => !taskRun.status.isTerminal
    let reconciliations ← Program.mapEach open_ fun taskRun =>
      reconcileTask taskRun.taskRunId
    if reconciliations.any TaskReconciliation.unresolved then pure ()
    else reconcileWorkflow workflowRunId
    let runAfter ← onStore (Memory.getWorkflowRun workflowRunId)
    pure ⟨workflowRunId, runBefore.status, runAfter.status, assessment, reconciliations⟩

end PyWorkflowKit.Runtime
