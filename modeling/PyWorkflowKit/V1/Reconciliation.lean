import PyWorkflowKit.V1.Recovery
import PyWorkflowKit.V1.Resume

/-!
# Reconciliation of a stale run

`ReconciliationService` asks the verifiers of external runs about the task runs of a stale run
whose completion is ambiguous, and writes nothing.
-/

namespace PyWorkflowKit.V1

open PyWorkflowKit.Core PyWorkflowKit.Domain

/-- Normalized status of an external run. -/
inductive ExternalRunStatus where
  | running
  | succeeded
  | failed
  | cancelled
  | notFound
  | unknown
deriving DecidableEq, Repr

def ExternalRunStatus.value : ExternalRunStatus → String
  | running => "running"
  | succeeded => "succeeded"
  | failed => "failed"
  | cancelled => "cancelled"
  | notFound => "not_found"
  | unknown => "unknown"

def RecoveryLiveness.value : RecoveryLiveness → String
  | terminal => "terminal"
  | active => "active"
  | staleCandidate => "stale_candidate"
  | unknown => "unknown"

/-- What calling a verifier comes to. -/
inductive Verification where
  | returned (status : ExternalRunStatus)
  | raised (typeName : String)
  | invalid

/-- `ExternalRunVerifier`. -/
structure ExternalRunVerifier where
  provider : Text
  verify : ExternalRunRef → Verification

/-- `ExternalRunVerifierRegistry`. -/
abbrev VerifierRegistry := Table ExternalRunVerifier.provider

/-- What reconciliation raises. -/
inductive ReconciliationFailure where
  | metadata (error : Error)
  | reconciliation (runId reason : String)
  | duplicateVerifier (provider : String)

/-- `ExternalRunVerifierRegistry.register`. -/
def VerifierRegistry.register (registry : VerifierRegistry) (verifier : ExternalRunVerifier) :
    Except ReconciliationFailure VerifierRegistry :=
  if registry.contains verifier.provider then
    .error (.duplicateVerifier verifier.provider.value)
  else .ok (registry.set verifier)

/-- Normalized evidence obtained from one reference. -/
structure ExternalRunObservation where
  externalRefId : String
  provider : String
  externalRunId : String
  status : ExternalRunStatus
  reason : Option String

/-- `TaskReconciliation` with the evidence for it. -/
structure ReconciledTask extends TaskReconciliation where
  taskId : String
  observations : List ExternalRunObservation
  reasons : List String

/-- `ReconciliationReport` with the evidence for it. -/
structure Reconciliation where
  runId : String
  tasks : List ReconciledTask

/-- The report that `resume` is given. -/
def Reconciliation.report (reconciliation : Reconciliation) : ReconciliationReport :=
  ⟨reconciliation.runId, reconciliation.tasks.map ReconciledTask.toTaskReconciliation⟩

/-- `_verify_ref`. -/
def verifyRef (registry : VerifierRegistry) (externalRef : ExternalRunRef) :
    ExternalRunObservation :=
  let observed (status : ExternalRunStatus) (reason : Option String) : ExternalRunObservation :=
    ⟨externalRef.externalRefId.value, externalRef.provider.value,
      externalRef.externalRunId.value, status, reason⟩
  match registry.find? externalRef.provider with
  | none => observed .unknown (some "verifier_not_registered")
  | some verifier =>
      match verifier.verify externalRef with
      | .raised typeName => observed .unknown (some ("verification_failed:" ++ typeName))
      | .invalid => observed .unknown (some "verifier_returned_invalid_status")
      | .returned status => observed status none

/-- The disposition that a status gives, if it gives one. -/
def ExternalRunStatus.disposition : ExternalRunStatus → Option ReconciliationDisposition
  | succeeded => some .confirmedSucceeded
  | failed => some .confirmedFailed
  | cancelled => some .confirmedCancelled
  | running => some .stillRunning
  | notFound | unknown => none

def ExternalRunStatus.inconclusive : ExternalRunStatus → Bool
  | unknown | notFound => true
  | _ => false

/-- `_reconcile_task`. -/
def reconcileTask (registry : VerifierRegistry) (taskRun : TaskRun)
    (runningAttemptIds : List String) (externalRefs : List ExternalRunRef) : ReconciledTask :=
  let observations := externalRefs.map (verifyRef registry)
  let reported (disposition : ReconciliationDisposition) (reason : String) : ReconciledTask :=
    ⟨⟨taskRun.taskRunId.str, disposition, runningAttemptIds⟩, taskRun.taskId.value, observations,
      [reason]⟩
  if observations.isEmpty then
    reported .manualRequired "local_running_work_has_no_external_reconciliation_evidence"
  else
    let statuses := (observations.map ExternalRunObservation.status).dedup
    if statuses.any ExternalRunStatus.inconclusive then
      reported .manualRequired "external_status_is_not_conclusive"
    else
      match statuses with
      | [status] =>
          match status.disposition with
          | none => reported .manualRequired "external_status_is_not_conclusive"
          | some disposition => reported disposition ("external_status_" ++ status.value)
      | _ => reported .manualRequired "conflicting_external_statuses"

/-- The attempts of a task run that are RUNNING. -/
def MemoryState.runningAttempts (store : MemoryState) (taskRunId : TaskRunId) :
    List TaskAttempt :=
  (store.listTaskAttempts taskRunId).filter fun attempt => attempt.status = .running

/-- The classification of a task run, unless there is nothing to reconcile about it. -/
def reportTask (registry : VerifierRegistry) (store : MemoryState) (taskRun : TaskRun) :
    Option ReconciledTask :=
  if taskRun.status.isTerminal then none
  else
    let attempts := store.listTaskAttempts taskRun.taskRunId
    let runningAttemptIds :=
      (store.runningAttempts taskRun.taskRunId).map fun attempt => attempt.attemptId.str
    let externalRefs := store.listExternalRunRefs taskRun.taskRunId
    if taskRun.status = .running ∧ runningAttemptIds = [] ∧
        (pendingRetryAttempt attempts).isSome ∧ externalRefs.isEmpty then none
    else if taskRun.status ≠ .running ∧ externalRefs.isEmpty then none
    else some (reconcileTask registry taskRun runningAttemptIds externalRefs)

/-- `ReconciliationService.reconcile` at one moment, with `stale_after` in microseconds. -/
def reconcile (registry : VerifierRegistry) (store : MemoryState) (observedAt : DateTime)
    (staleAfter : Int) (runId : WorkflowRunId) : Except ReconciliationFailure Reconciliation :=
  match assess store observedAt staleAfter runId with
  | .error error => .error (.metadata error)
  | .ok assessment =>
      if assessment.liveness ≠ .staleCandidate then
        .error (.reconciliation runId.str
          ("run liveness is " ++ assessment.liveness.value ++ ", not stale_candidate"))
      else
        .ok ⟨runId.str, (sortBy (fun taskRun => taskRun.taskId.value)
          (store.listTaskRuns runId)).filterMap (reportTask registry store)⟩

end PyWorkflowKit.V1
