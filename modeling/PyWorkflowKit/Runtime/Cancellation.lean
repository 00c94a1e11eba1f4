import PyWorkflowKit.Runtime.Workflow

/-!
# Cancellation commands

Cancelling one task run, and cancelling a workflow run task by task.
-/

namespace PyWorkflowKit.Runtime

open PyWorkflowKit.Core PyWorkflowKit.Domain PyWorkflowKit.States
open PyWorkflowKit.Persistence PyWorkflowKit.Executors

/-- The statuses for which `cancel` answers that the run is terminal. -/
def workflowFinished (status : WorkflowRunStatus) : Bool :=
  status = .succeeded || status = .failed || status = .cancelled || status = .timedOut

/-- The statuses for which `cancel_task` answers that the task is terminal. -/
def taskFinished (status : TaskRunStatus) : Bool :=
  status = .succeeded || status = .failed || status = .skipped || status = .cancelled ||
    status = .timedOut

/-- The statuses for which `cancel_task` answers that the attempt is terminal. -/
def attemptFinished (status : TaskAttemptStatus) : Bool :=
  status = .succeeded || status = .failed || status = .timedOut || status = .cancelled

/-- An answer of `cancel_task`. -/
def taskAnswer (taskRun : TaskRun) (status : CancellationStatus)
    (attemptId : Option TaskAttemptId) (reason : Text) : CancellationResult :=
  ⟨status, taskRun.workflowRunId, some taskRun.taskRunId, attemptId, reason⟩

/-- An answer of `cancel`. -/
def runAnswer (runId : WorkflowRunId) (status : CancellationStatus) (reason : Text) :
    CancellationResult :=
  ⟨status, runId, none, none, reason⟩

/-- What `cancel_task` makes of the executor's acknowledgement. -/
def applyAcknowledgement (taskRun : TaskRun) (attempt : TaskAttempt)
    (status : CancellationStatus) : Procedure Unit :=
  match status with
  | .confirmed => do
      let _ ← transitionAttempt attempt .cancelled none
      let _ ← transitionTask taskRun .cancelled none none
      pure ()
  | .unconfirmed => do
      let _ ← transitionAttempt attempt .cancellationUnconfirmed none
      let _ ← transitionTask taskRun .unknownOutcome none none
      pure ()
  | .unsupported | .alreadyTerminal => do
      let _ ← transitionAttempt attempt .running none
      pure ()
  | .requested => pure ()

/-- The cancellation of an attempt that a request is active for. -/
def cancelActive (executors : ExecutorRegistry) (taskRun : TaskRun)
    (attemptId : TaskAttemptId) (request : TaskExecutionRequest) :
    Procedure CancellationResult := do
  let executor ← .ofExcept (executors.resolve request.executorKey)
  if executor.descriptor.cancellationCapability = .unsupported ∨ ¬ executor.cancellable then
    let attempt ← onStore (Memory.getTaskAttempt attemptId)
    let _ ← transitionAttempt attempt .running none
    pure (taskAnswer taskRun .unsupported (some attemptId)
      (.lit "executor_cancellation_unsupported"))
  else
    let at_ ← now
    let acknowledged ← Program.ask (Service.cancel request.executorKey {
      workflowRunId := taskRun.workflowRunId
      taskRunId := taskRun.taskRunId
      attemptId := attemptId
      taskKey := taskRun.taskKey
      requestedAt := at_.instant
      reason := .lit "requested_by_runtime" })
    let attempt ← onStore (Memory.getTaskAttempt attemptId)
    let current ← onStore (Memory.getTaskRun taskRun.taskRunId)
    appendExternalRunRefs attemptId acknowledged.externalRuns
    applyAcknowledgement current attempt acknowledged.status
    pure (taskAnswer taskRun acknowledged.status (some attemptId) acknowledged.reason)

/-- The cancellation of the latest attempt of a task run. -/
def cancelAttempt (executors : ExecutorRegistry) (taskRun : TaskRun)
    (attempt : TaskAttempt) : Procedure CancellationResult := do
  if attemptFinished attempt.status then
    pure (taskAnswer taskRun .alreadyTerminal (some attempt.attemptId)
      (.lit "task_attempt_already_terminal"))
  else
    if attempt.status ≠ .cancellationRequested then
      let _ ← transitionAttempt attempt .cancellationRequested none
    match ← .step id fun world =>
        .done (.ok (world.workers.active attempt.attemptId)) with
    | none => do
        let attempt ← onStore (Memory.getTaskAttempt attempt.attemptId)
        let _ ← transitionAttempt attempt .cancellationUnconfirmed none
        let current ← onStore (Memory.getTaskRun taskRun.taskRunId)
        let _ ← transitionTask current .unknownOutcome none none
        pure (taskAnswer taskRun .unconfirmed (some attempt.attemptId)
          (.lit "active_execution_handle_not_available"))
    | some request => cancelActive executors taskRun attempt.attemptId request

/-- `cancel_task`. -/
def WorkflowRuntime.cancelTask (runtime : WorkflowRuntime) (taskRunId : TaskRunId) :
    Procedure CancellationResult := do
  let taskRun ← onStore (Memory.getTaskRun taskRunId)
  if taskFinished taskRun.status then
    pure (taskAnswer taskRun .alreadyTerminal none (.lit "task_run_already_terminal"))
  else if notStarted taskRun.status then do
    let _ ← transitionTask taskRun .cancelled none none
    pure (taskAnswer taskRun .confirmed none (.lit "task_never_started_and_is_cancelled"))
  else if taskRun.status = .unknownOutcome then
    pure (taskAnswer taskRun .unconfirmed none (.lit "task_outcome_already_unknown"))
  else do
    let attempts ← query fun store => store.listTaskAttempts taskRunId
    match attempts.getLast? with
    | none =>
        pure (taskAnswer taskRun .unconfirmed none
          (.lit "running_task_has_no_persisted_attempt"))
    | some attempt => cancelAttempt runtime.executors taskRun attempt

/-- What `cancel` does about one task run; a task that it passes over adds nothing. -/
def WorkflowRuntime.cancelOne (runtime : WorkflowRuntime) (taskRun : TaskRun) :
    Procedure (List CancellationStatus) :=
  if notStarted taskRun.status then do
    let _ ← transitionTask taskRun .cancelled none none
    pure [.confirmed]
  else if taskRun.status = .running then do
    let answer ← runtime.cancelTask taskRun.taskRunId
    pure [answer.status]
  else if taskRun.status = .unknownOutcome then pure [.unconfirmed]
  else pure []

/-- What `cancel` answers after the task runs have been cancelled. -/
def concludeCancel (runId : WorkflowRunId) (statuses : List CancellationStatus) :
    Procedure CancellationResult := do
  let run ← onStore (Memory.getWorkflowRun runId)
  if .unconfirmed ∈ statuses then
    if run.status = .cancellationRequested then
      let _ ← transitionWorkflow run .unknownOutcome none
    pure (runAnswer runId .unconfirmed (.lit "at_least_one_task_cancellation_unconfirmed"))
  else if .requested ∈ statuses then
    pure (runAnswer runId .requested (.lit "cancellation_requested_but_not_confirmed"))
  else if .unsupported ∈ statuses then
    pure (runAnswer runId .unsupported
      (.lit "executor_does_not_support_active_task_cancellation"))
  else
    if run.status = .cancellationRequested then
      let _ ← transitionWorkflow run .cancelled none
    pure (runAnswer runId .confirmed (.lit "workflow_cancellation_confirmed"))

/-- `cancel`. -/
def WorkflowRuntime.cancel (runtime : WorkflowRuntime) (runId : WorkflowRunId) :
    Procedure CancellationResult := do
  let run ← onStore (Memory.getWorkflowRun runId)
  if workflowFinished run.status then
    pure (runAnswer runId .alreadyTerminal (.lit "workflow_already_terminal"))
  else if run.status = .unknownOutcome then
    pure (runAnswer runId .unconfirmed (.lit "workflow_outcome_already_unknown"))
  else
    if run.status ≠ .cancellationRequested then
      let _ ← transitionWorkflow run .cancellationRequested none
    let taskRuns ← query fun store => store.listTaskRuns runId
    let statuses ← Program.mapEach taskRuns runtime.cancelOne
    concludeCancel runId statuses.flatten

end PyWorkflowKit.Runtime
