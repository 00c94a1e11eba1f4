import PyWorkflowKit.V1.Services

/-!
# Recovery diagnostics

The classification of a persisted run by its evidence: whether it looks alive and
whether it could be resumed.
-/

namespace PyWorkflowKit.V1

open PyWorkflowKit.Core PyWorkflowKit.Domain

inductive RecoveryLiveness where
  | terminal
  | active
  | staleCandidate
  | unknown
deriving DecidableEq, Repr

inductive ResumeEligibility where
  | notEligible
  | eligible
  | requiresReconciliation
deriving DecidableEq, Repr

/-- Stable task-run identity that workloads may use for deduplication. -/
structure TaskIdempotencyMetadata where
  taskId : String
  taskRunId : String
  idempotencyKey : String
  attemptCount : Nat

/-- Recovery assessment built from persisted evidence. -/
structure RecoveryAssessment where
  run : WorkflowRun
  observedAt : DateTime
  lastEvidenceAt : Option Instant
  liveness : RecoveryLiveness
  resumeEligibility : ResumeEligibility
  runningTaskRunIds : List String
  runningAttemptIds : List String
  retryWaitingTaskRunIds : List String
  nextRetryEligibleAt : Option Instant
  externalRunRefCount : Nat
  unresolvedExternalRunRefCount : Nat
  idempotency : List TaskIdempotencyMetadata
  reasons : List String

/-- The task runs that wait for a retry, with the attempts that carry its schedule. -/
def retryWaiting (store : MemoryState) (taskRuns : List TaskRun) :
    List (TaskRun × TaskAttempt) :=
  taskRuns.filterMap fun taskRun =>
    if taskRun.status = .running then
      (pendingRetryAttempt (store.listTaskAttempts taskRun.taskRunId)).map fun attempt =>
        (taskRun, attempt)
    else none

/-- `_latest_evidence_at`. -/
def latestEvidenceAt (store : MemoryState) (run : WorkflowRun) : Option Instant :=
  let taskRuns := store.listTaskRuns run.runId
  let attempts := taskRuns.flatMap fun taskRun => store.listTaskAttempts taskRun.taskRunId
  let timestamps :=
    [run.createdAt, run.startedAt, run.finishedAt] ++ taskRuns.map TaskRun.createdAt ++
      taskRuns.map TaskRun.startedAt ++ taskRuns.map TaskRun.finishedAt ++
      attempts.map TaskAttempt.startedAt ++ attempts.map TaskAttempt.finishedAt ++
      (store.listEvents run.runId).map fun event => some event.occurredAt
  ((timestamps.filterMap id).map DateTime.instant).max?

/-- `_classify_liveness`, with its reason. -/
def classifyLiveness (run : WorkflowRun) (observedAt : Instant) (staleAfter : Int)
    (latestEvidence nextRetryEligibleAt : Option Instant) : RecoveryLiveness × String :=
  if run.status.isTerminal then (.terminal, "workflow_is_terminal")
  else if ∃ eligibleAt ∈ nextRetryEligibleAt, observedAt < eligibleAt then
    (.active, "retry_wait_not_yet_eligible")
  else
    match latestEvidence with
    | none => (.unknown, "missing_timestamp_evidence")
    | some latest =>
        let effective :=
          match nextRetryEligibleAt with
          | some eligibleAt => max latest eligibleAt
          | none => latest
        let age := observedAt.micros - effective.micros
        if age < 0 then (.unknown, "latest_evidence_is_in_the_future")
        else if staleAfter ≤ age then
          (.staleCandidate, "evidence_older_than_stale_threshold")
        else (.active, "recent_runtime_evidence")

/-- `_classify_resume_eligibility`, with its reasons. -/
def classifyResumeEligibility (liveness : RecoveryLiveness)
    (runningTaskRunIds runningAttemptIds : List String)
    (unresolvedExternalRunRefCount : Nat) : ResumeEligibility × List String :=
  if liveness ≠ .staleCandidate then (.notEligible, ["run_is_not_a_stale_candidate"])
  else
    let reasons :=
      (if runningTaskRunIds ≠ [] then ["running_task_requires_reconciliation"] else []) ++
        (if runningAttemptIds ≠ [] then ["running_attempt_requires_reconciliation"] else []) ++
        (if unresolvedExternalRunRefCount ≠ 0 then ["external_work_requires_reconciliation"]
          else [])
    if reasons ≠ [] then (.requiresReconciliation, reasons)
    else (.eligible, ["no_ambiguous_running_or_external_work"])

/-- `RecoveryInspector.assess` at one moment, with `stale_after` in microseconds. -/
def assess (store : MemoryState) (observedAt : DateTime) (staleAfter : Int)
    (runId : WorkflowRunId) : Except Error RecoveryAssessment := do
  let run ← store.getWorkflowRun runId
  let taskRuns := store.listTaskRuns runId
  let attempts := taskRuns.flatMap fun taskRun => store.listTaskAttempts taskRun.taskRunId
  let waiting := retryWaiting store taskRuns
  let nextRetryEligibleAt :=
    ((waiting.filterMap fun entry => entry.2.retryEligibleAt).map DateTime.instant).min?
  let runningTaskRunIds := sortBy id ((taskRuns.filter fun taskRun =>
    taskRun.status = .running &&
      waiting.all fun entry => entry.1.taskRunId ≠ taskRun.taskRunId).map fun taskRun =>
        taskRun.taskRunId.str)
  let runningAttemptIds := sortBy id ((attempts.filter fun attempt =>
    attempt.status = .running).map fun attempt => attempt.attemptId.str)
  let refCount (counted : List TaskRun) : Nat :=
    (counted.map fun taskRun => (store.listExternalRunRefs taskRun.taskRunId).length).sum
  let unresolved := refCount (taskRuns.filter fun taskRun => ¬ taskRun.status.isTerminal)
  let latestEvidence := latestEvidenceAt store run
  let (liveness, reason) :=
    classifyLiveness run observedAt.instant staleAfter latestEvidence nextRetryEligibleAt
  let (eligibility, reasons) :=
    classifyResumeEligibility liveness runningTaskRunIds runningAttemptIds unresolved
  .ok {
    run := run
    observedAt := observedAt
    lastEvidenceAt := latestEvidence
    liveness := liveness
    resumeEligibility := eligibility
    runningTaskRunIds := runningTaskRunIds
    runningAttemptIds := runningAttemptIds
    retryWaitingTaskRunIds := sortBy id (waiting.map fun entry => entry.1.taskRunId.str)
    nextRetryEligibleAt := nextRetryEligibleAt
    externalRunRefCount := refCount taskRuns
    unresolvedExternalRunRefCount := unresolved
    idempotency := (sortBy (fun taskRun => taskRun.taskId.value) taskRuns).map fun taskRun =>
      ⟨taskRun.taskId.value, taskRun.taskRunId.str, taskRun.taskRunId.str,
        (store.listTaskAttempts taskRun.taskRunId).length⟩
    reasons := reason :: reasons }

end PyWorkflowKit.V1
