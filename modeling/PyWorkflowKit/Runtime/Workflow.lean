import PyWorkflowKit.Policies.Retry
import PyWorkflowKit.Runtime.Attempts
import PyWorkflowKit.Runtime.Readiness
import PyWorkflowKit.Runtime.Results
import PyWorkflowKit.Runtime.Resume

/-!
# The workflow runtime

The synchronous runtime: running a plan, resuming an earlier run, and the loop
over the tasks of a plan and their attempts.
-/

namespace PyWorkflowKit.Runtime

open PyWorkflowKit.Core PyWorkflowKit.Domain PyWorkflowKit.States
open PyWorkflowKit.Persistence PyWorkflowKit.Executors PyWorkflowKit.Authoring
open PyWorkflowKit.Planning PyWorkflowKit.Policies

/-- What a runtime is composed of, besides its services. -/
structure WorkflowRuntime where
  executors : ExecutorRegistry
  definitionFingerprint : WorkflowDefinition → Text
  planFingerprint : ExecutionPlan → Text

/-- What can be run: a definition or a compiled plan. -/
inductive Submission where
  | definition (workflow : WorkflowDefinition)
  | plan (plan : ExecutionPlan)

section Values

/-- `_bind_workflow_correlation`. -/
def bindWorkflowCorrelation (correlation : CorrelationContext) (runId : WorkflowRunId) :
    CorrelationContext :=
  { correlation with
    workflowRunId := some runId.value
    taskRunId := none
    taskAttemptId := none }

/-- `_bind_task_correlation`. -/
def bindTaskCorrelation (correlation : CorrelationContext) (taskRun : TaskRun)
    (attemptId : TaskAttemptId) : CorrelationContext :=
  { correlation with
    taskRunId := some taskRun.taskRunId.value
    taskAttemptId := some attemptId.value }

/-- `_workload_parameters`. -/
def workloadParameters (entry : TaskPlanEntry) : Pairs :=
  match entry.task.workload with
  | .registered workload => workload.parameters
  | .localCallable _ _ => []
  | .descriptor _ => []

/-- `_diagnostic`. -/
def diagnostic (code summary : Text) (run : WorkflowRun) (taskRun : TaskRun)
    (attemptId : Option TaskAttemptId) (severity : DiagnosticSeverity) (details : Pairs) :
    Diagnostic where
  code := code
  severity := severity
  summary := summary
  details := details
  workflowRunId := some run.runId.value
  taskRunId := some taskRun.taskRunId.value
  taskAttemptId := attemptId.map TaskAttemptId.value
  correlationId := some run.correlation.correlationId
  sourceComponent := some (.lit "workflow_runtime")
  decisionContext := none
  relatedPolicy := none
  sourceFramework := .lit "pyworkflowkit"

/-- `_retry_diagnostic`. -/
def retryDiagnostic (evaluation : RetryEvaluation) (run : WorkflowRun) (taskRun : TaskRun)
    (attemptId : TaskAttemptId) : Diagnostic :=
  let severity : DiagnosticSeverity :=
    if evaluation.decision = .reconcile ∨ evaluation.decision = .doNotRetry then .warning
    else .info
  let remaining : Pairs :=
    match evaluation.budgetRemainingSeconds with
    | none => []
    | some seconds => [("budget_remaining_seconds", formatSeconds seconds)]
  diagnostic (.lit "PWK-RETRY-DECISION")
    (.lit "RetryPolicy evaluated structured FailureEvidence") run taskRun (some attemptId)
    severity
    ([("decision", evaluation.decision.value), ("reason", evaluation.reason.value),
      ("attempt_number", toString evaluation.attemptNumber),
      ("max_attempts", toString evaluation.maxAttempts),
      ("delay_seconds", formatSeconds evaluation.delaySeconds),
      ("failure_category", evaluation.failureCategory.value),
      ("retryability", evaluation.retryability.value),
      ("uncertainty", evaluation.uncertainty.value)] ++ remaining)

/-- The diagnostic of a scheduled retry. -/
def retryScheduledDiagnostic (evaluation : RetryEvaluation) (run : WorkflowRun)
    (taskRun : TaskRun) (attempt : TaskAttempt) : Diagnostic :=
  diagnostic (.lit "PWK-RETRY-SCHEDULED") (.lit "new TaskAttempt scheduled by RetryPolicy")
    run taskRun (some attempt.attemptId) .info
    [("attempt_number", toString attempt.attemptNumber),
      ("next_attempt_number", toString (attempt.attemptNumber + 1)),
      ("delay_seconds", formatSeconds evaluation.delaySeconds),
      ("reason", evaluation.reason.value)]

/-- The diagnostic of a failed task. -/
def taskFailedDiagnostic (entry : TaskPlanEntry) (failure : FailureEvidence)
    (evaluation : RetryEvaluation) (run : WorkflowRun) (taskRun : TaskRun)
    (attemptId : TaskAttemptId) : Diagnostic :=
  diagnostic (.lit "PWK-RUNTIME-TASK-FAILED") (.lit "task execution failed") run taskRun
    (some attemptId) .error
    [("task_key", entry.key.value), ("error_code", failure.errorCode.value),
      ("retry_decision", evaluation.decision.value),
      ("retry_reason", evaluation.reason.value)]

/-- The diagnostic of a task that its trigger rule skips. -/
def triggerSkipDiagnostic (entry : TaskPlanEntry) (run : WorkflowRun) (taskRun : TaskRun) :
    Diagnostic :=
  diagnostic (.lit "PWK-RUNTIME-TRIGGER-SKIP")
    (.lit "task skipped because its trigger rule was not satisfied") run taskRun none .info
    [("task_key", entry.key.value), ("trigger_rule", entry.triggerRule.value)]

/-- The diagnostic of a reused task. -/
def reusedDiagnostic (entry : TaskPlanEntry) (originalRunId : WorkflowRunId)
    (checkpoint : TaskOutputCheckpoint) (run : WorkflowRun) (taskRun : TaskRun) :
    Diagnostic :=
  diagnostic (.lit "PWK-TASK-REUSED")
    ⟨"task " ++ PyError.quoted entry.key.value ++ " reused from checkpoint of run " ++
      originalRunId.str, by
        simp only [isBlank, String.toList_append, List.all_append]
        rfl⟩
    run taskRun none .info
    [("task_key", entry.key.value), ("original_run_id", originalRunId.str),
      ("checkpoint_checksum", checkpoint.digest)]

/-- The diagnostic of an output that is not portable. -/
def nonportableDiagnostic (run : WorkflowRun) (taskRun : TaskRun)
    (attemptId : TaskAttemptId) (error : PyError) : Diagnostic :=
  diagnostic (.lit "PWK-OUTPUT-NONPORTABLE")
    (.lit "task output is process-local and was not checkpointed durably") run taskRun
    (some attemptId) .warning
    [("reason",
      match error with
      | .typeError _ => "TypeError"
      | _ => "ValueError")]

/-- The evidence of an exception that an executor raised. -/
def raisedEvidence (request : TaskExecutionRequest) (typeName messageSummary : Text)
    (occurredAt : Instant) : FailureEvidence where
  errorCode := typeName
  category := .internal
  retryability := .nonRetryable
  uncertainty := .known
  correlationId := request.context.correlation.correlationId
  sourceFramework := .lit "pyworkflowkit"
  workflowRunId := some request.context.workflowRunId.value
  taskRunId := some request.context.taskRunId.value
  taskAttemptId := some request.context.attemptId.value
  externalRun := none
  sourceComponent := some (.lit "workflow_runtime.executor")
  providerCode := none
  messageSummary := some messageSummary
  occurredAt := occurredAt
  details := []
  contractVersion := .lit "1"

/-- The status of an attempt that ends with a known failure. -/
def attemptTerminalStatus (failure : FailureEvidence) : TaskAttemptStatus :=
  match failure.category with
  | .timeout => .timedOut
  | .cancelled => .cancelled
  | _ => .failed

/-- The status of a task that ends with a known failure. -/
def taskTerminalStatus (failure : FailureEvidence) : TaskRunStatus :=
  match failure.category with
  | .timeout => .timedOut
  | .cancelled => .cancelled
  | _ => .failed

/-- The status of a run that ends with a known failure. -/
def workflowTerminalStatus (failure : FailureEvidence) : WorkflowRunStatus :=
  match failure.category with
  | .timeout => .timedOut
  | .cancelled => .cancelled
  | _ => .failed

/-- The error of a task that is reached before its dependencies have ended. -/
def notReadyError (key : Text) : PyError :=
  .runtimeInvariant
    ("task " ++ PyError.quoted key.value ++ " is not ready in topological execution order")

end Values

section Preflight

/-- What `_preflight` rejects about one entry. -/
def preflightEntry (executors : ExecutorRegistry) (entry : TaskPlanEntry) :
    Except PyError Unit := do
  let requirement := entry.executorRequirement
  let executor ← executors.resolve requirement.executorKey
  let descriptor := executor.descriptor
  if requirement.workloadKind ∉ descriptor.supportedWorkloadKinds then
    .error (.runtimeInvariant
      ("executor " ++ PyError.quoted descriptor.executorId.value ++
        " does not support workload kind " ++ PyError.quoted requirement.workloadKind.value))
  else if 1 < entry.retryPolicy.maxAttempts ∧ descriptor.performsImplicitWorkloadRetry then
    .error (.runtimeInvariant
      ("task " ++ PyError.quoted entry.key.value ++
        " requests workflow retry while executor " ++
        PyError.quoted descriptor.executorId.value ++ " declares implicit workload retry"))
  else if entry.timeoutPolicy.executionTimeout ≠ none ∧
      ¬ descriptor.supportsExecutionTimeout then
    .error (.runtimeInvariant
      ("task " ++ PyError.quoted entry.key.value ++
        " requests execution_timeout but executor " ++
        PyError.quoted descriptor.executorId.value ++
        " does not support execution deadlines"))
  else .ok ()

namespace WorkflowRuntime

/-- `_compile`. -/
def compile (runtime : WorkflowRuntime) : Submission → Except PyError ExecutionPlan
  | .definition workflow => Planning.compile runtime.definitionFingerprint workflow
  | .plan plan => .ok plan

/-- `_preflight`. -/
def preflight (runtime : WorkflowRuntime) (plan : ExecutionPlan) : Except PyError Unit := do
  let _ ← gather (plan.tasks.map (preflightEntry runtime.executors))
  .ok ()

end WorkflowRuntime

end Preflight

section Services

/-- `SystemRetryJitterSource.full_jitter`. -/
def fullJitter (upperBoundSeconds : PyFloat) : Procedure PyFloat :=
  match floatViolation "upper_bound_seconds" upperBoundSeconds with
  | some error => .raise error
  | none =>
      if upperBoundSeconds = .finite 0 then pure (.finite 0)
      else Program.ask (Service.uniform upperBoundSeconds)

/-- `_execution_deadline`. -/
def executionDeadline (entry : TaskPlanEntry) : Procedure (Option Instant) :=
  match entry.timeoutPolicy.executionTimeout with
  | none => pure none
  | some timeout => do
      let at_ ← now
      let delta ← .ofExcept (timedeltaSeconds timeout)
      match at_.add? delta with
      | none => .raise (.overflowError "date value out of range")
      | some deadline => pure (some deadline.instant)

/-- `_task_elapsed_seconds`. -/
def taskElapsedSeconds (taskRun : TaskRun) : Procedure PyFloat :=
  match taskRun.startedAt with
  | none => .raise (.runtimeInvariant "RUNNING TaskRun is missing started_at")
  | some startedAt => do
      let at_ ← now
      pure (totalSeconds (at_.instant.micros - startedAt.micros)).atLeastZero

/-- `_remember_active_request`. -/
def rememberActiveRequest (request : TaskExecutionRequest) : Procedure Unit :=
  .step (fun world =>
    { world with workers := { world.workers with
        active := Function.update world.workers.active request.context.attemptId
          (some request) } })
    fun _ => .done (.ok ())

/-- `_forget_active_request`. -/
def forgetActiveRequest (attemptId : TaskAttemptId) : Procedure Unit :=
  .step (fun world =>
    { world with workers := { world.workers with
        active := Function.update world.workers.active attemptId none } })
    fun _ => .done (.ok ())

/-- The loop of `_append_external_run_refs`. -/
def appendRefs (attemptId : TaskAttemptId) :
    List ExternalRunRef → List (Text × Text × Text) → Procedure Unit
  | [], _ => pure ()
  | externalRef :: rest, existing =>
      let key := (externalRef.provider, externalRef.kind, externalRef.externalRunId)
      if key ∈ existing then appendRefs attemptId rest existing
      else do
        onStore (Memory.appendExternalRunRef attemptId externalRef)
        appendRefs attemptId rest (key :: existing)

/-- `_append_external_run_refs`. -/
def appendExternalRunRefs (attemptId : TaskAttemptId)
    (externalRefs : List ExternalRunRef) : Procedure Unit := do
  let stored ← query fun store => store.listExternalRunRefs attemptId
  appendRefs attemptId externalRefs
    (stored.map fun ref => (ref.provider, ref.kind, ref.externalRunId))

/-- `_persist_external_run_refs`. -/
def persistExternalRunRefs (attemptId : TaskAttemptId) (result : TaskExecutionResult) :
    Procedure Unit :=
  appendExternalRunRefs attemptId
    (result.externalRuns ++ (result.failure.bind FailureEvidence.externalRun).toList)

/-- A task that has not started can be cancelled by the runtime alone. -/
def notStarted (status : TaskRunStatus) : Bool :=
  status = .pending || status = .ready || status = .blocked

/-- `_cancel_not_started_tasks`. -/
def cancelNotStartedTasks (runId : WorkflowRunId) : Procedure Unit := do
  let taskRuns ← query fun store => store.listTaskRuns runId
  .forEach taskRuns fun taskRun =>
    if notStarted taskRun.status then do
      let _ ← transitionTask taskRun .cancelled none none
      pure ()
    else pure ()

/-- `_persist_output_checkpoint`; the portable value is normalised once more by the
constructor of the checkpoint. -/
def persistOutputCheckpoint (taskRun : TaskRun) (output : PyValue) (run : WorkflowRun)
    (attemptId : TaskAttemptId) : Procedure (Option Diagnostic) :=
  match normalizeJsonValue ("task[" ++ taskRun.taskKey.value ++ "].output") output with
  | .error error => pure (some (nonportableDiagnostic run taskRun attemptId error))
  | .ok json => do
      match ← Program.ask Service.now with
      | none =>
          pure (some (nonportableDiagnostic run taskRun attemptId
            (.valueError "clock.now() must return a timezone-aware datetime")))
      | some at_ =>
          match TaskOutputCheckpoint.new taskRun.taskRunId json.object at_.instant "" with
          | .error error => pure (some (nonportableDiagnostic run taskRun attemptId error))
          | .ok checkpoint => do
              onStore (Memory.setTaskOutputCheckpoint checkpoint)
              pure none

/-- `_execute`; what it raises is a value here, because the caller forgets the active
request before it lets an exception pass. -/
def executeRequest (executors : ExecutorRegistry) (request : TaskExecutionRequest) :
    Procedure (Except PyError TaskExecutionResult) :=
  match executors.resolve request.executorKey with
  | .error error => pure (.error error)
  | .ok _ => do
      match ← Program.ask (Service.execute request) with
      | .returned result => pure (.ok result)
      | .foreign =>
          pure (.error (.runtimeInvariant
            "executor returned a value that is not TaskExecutionResult"))
      | .raised typeName message => do
          let occurredAt ← Program.ask Service.utcNow
          let summary := if message = "" then typeName else message
          match Text.ofString? typeName, Text.ofString? summary with
          | none, _ => pure (.error (.valueError "error_code must not be empty"))
          | some _, none =>
              pure (.error (.valueError
                "message_summary must be a non-empty string when provided"))
          | some code, some text =>
              pure (.ok {
                output := .none
                failure := some (raisedEvidence request code text occurredAt.instant)
                diagnostics := []
                externalRuns := [] })

end Services

section Loop

/-- The local variables of `_execute_plan_tasks` that outlive one task. -/
structure PlanProgress where
  run : WorkflowRun
  outputs : Outputs
  diagnostics : List Diagnostic

def PlanProgress.note (progress : PlanProgress) (diagnostics : List Diagnostic) :
    PlanProgress :=
  { progress with diagnostics := progress.diagnostics ++ diagnostics }

/-- How the attempts of a task end. -/
inductive TaskEnd where
  | succeeded (progress : PlanProgress)
  | failed (progress : PlanProgress) (failure : FailureEvidence)
  | returned (result : WorkflowResult)

/-- `_build_result`. -/
def buildResult (runId : WorkflowRunId) (outputs : Outputs)
    (diagnostics : List Diagnostic) : Procedure WorkflowResult := do
  let run ← onStore (Memory.getWorkflowRun runId)
  let taskRuns ← query fun store => store.listTaskRuns runId
  let outcomes ← Program.mapEach taskRuns fun taskRun => do
    let attempts ← query fun store => store.listTaskAttempts taskRun.taskRunId
    pure {
      taskKey := taskRun.taskKey
      taskRunId := taskRun.taskRunId
      status := taskRun.status
      attemptIds := attempts.map TaskAttempt.attemptId
      output := ((outputs.find? taskRun.taskKey).map Prod.snd).getD .none
      failure := taskRun.failure }
  .ofExcept (WorkflowResult.new run.runId run.status outcomes diagnostics run.correlation
    run.failure)

/-- The request of one attempt. -/
def executionRequest (entry : TaskPlanEntry) (runId : WorkflowRunId)
    (correlation : CorrelationContext) (outputs : Outputs) (taskRun : TaskRun)
    (attempt : TaskAttempt) (deadlineAt : Option Instant) : TaskExecutionRequest where
  taskKey := entry.key
  workload := entry.task.workload
  executorKey := entry.executorRequirement.executorKey
  context := {
    workflowRunId := runId
    taskRunId := taskRun.taskRunId
    attemptId := attempt.attemptId
    attemptNumber := attempt.attemptNumber
    correlation := bindTaskCorrelation correlation taskRun attempt.attemptId
    dependencyOutputs := entry.dependencies.filterMap fun key => outputs.find? key
    workloadParameters := workloadParameters entry }
  deadlineAt := deadlineAt

/-- The attempt was cancelled while it was executing. -/
def concludeCancelled (runId : WorkflowRunId) (progress : PlanProgress)
    (taskRun : TaskRun) : Procedure WorkflowResult := do
  if taskRun.status ≠ .cancelled then
    let _ ← transitionTask taskRun .cancelled none none
  cancelNotStartedTasks runId
  if progress.run.status = .running ∨ progress.run.status = .cancellationRequested then
    let _ ← transitionWorkflow progress.run .cancelled none
  buildResult runId progress.outputs progress.diagnostics

/-- The attempt succeeded. -/
def concludeSucceeded (entry : TaskPlanEntry) (runId : WorkflowRunId)
    (progress : PlanProgress) (taskRun : TaskRun) (attempt : TaskAttempt)
    (output : PyValue) : Procedure TaskEnd := do
  let attempt ← transitionAttempt attempt .succeeded none
  let taskRun ← transitionTask taskRun .succeeded none none
  let outputs := progress.outputs.set (entry.key, output)
  let noted ← persistOutputCheckpoint taskRun output progress.run attempt.attemptId
  let diagnostics := progress.diagnostics ++ noted.toList
  let run ← onStore (Memory.getWorkflowRun runId)
  if run.status = .cancellationRequested then
    cancelNotStartedTasks runId
    let _ ← transitionWorkflow run .cancelled none
    let result ← buildResult runId outputs diagnostics
    pure (.returned result)
  else pure (.succeeded ⟨run, outputs, diagnostics⟩)

/-- The attempt ended without saying whether its work is done. -/
def concludeUncertain (runId : WorkflowRunId) (progress : PlanProgress) (taskRun : TaskRun)
    (attempt : TaskAttempt) (failure : FailureEvidence) (decision : RetryDecision) :
    Procedure WorkflowResult := do
  let status : TaskAttemptStatus :=
    if decision = .reconcile then .requiresReconciliation else .unknownOutcome
  let _ ← transitionAttempt attempt status (some failure)
  let _ ← transitionTask taskRun .unknownOutcome none (some failure)
  let _ ← transitionWorkflow progress.run .unknownOutcome (some failure)
  buildResult runId progress.outputs progress.diagnostics

/-- One round of the attempt loop ends the task or schedules a new attempt. -/
inductive AttemptEnd where
  | ended (taskEnd : TaskEnd)
  | retry (progress : PlanProgress) (taskRun : TaskRun)

/-- The attempt failed: retry, give up, or report that the outcome is open. -/
def concludeFailed (entry : TaskPlanEntry) (runId : WorkflowRunId)
    (progress : PlanProgress) (taskRun : TaskRun) (attempt : TaskAttempt)
    (failure : FailureEvidence) : Procedure AttemptEnd := do
  let elapsedSeconds ← taskElapsedSeconds taskRun
  let evaluation ← evaluate fullJitter entry.retryPolicy failure attempt.attemptNumber
    elapsedSeconds
  let progress := progress.note
    [retryDiagnostic evaluation progress.run taskRun attempt.attemptId]
  if evaluation.decision = .reconcile ∨ evaluation.decision = .escalate then
    let result ← concludeUncertain runId progress taskRun attempt failure
      evaluation.decision
    pure (.ended (.returned result))
  else
    let attempt ← transitionAttempt attempt (attemptTerminalStatus failure) (some failure)
    if evaluation.decision = .retry then
      let progress := progress.note
        [retryScheduledDiagnostic evaluation progress.run taskRun attempt]
      if evaluation.delaySeconds.truthy then
        Program.ask (Service.wait runId evaluation.delaySeconds)
      pure (.retry progress taskRun)
    else
      let taskRun ← transitionTask taskRun (taskTerminalStatus failure) none (some failure)
      let progress := progress.note
        [taskFailedDiagnostic entry failure evaluation progress.run taskRun
          attempt.attemptId]
      pure (.ended (.failed progress failure))

/-- Append the next attempt and start it. -/
def startAttempt (taskRun : TaskRun) : Procedure TaskAttempt := do
  let existing ← query fun store => store.listTaskAttempts taskRun.taskRunId
  let attemptId ← Program.ask Service.newTaskAttemptId
  let at_ ← now
  let attempt ← .ofExcept (nextTaskAttempt taskRun existing attemptId at_.instant)
  onStore (Memory.appendTaskAttempt attempt)
  let attempt ← transitionAttempt attempt .starting none
  transitionAttempt attempt .running none

/-- The body of the attempt loop. -/
def attemptRound (runtime : WorkflowRuntime) (entry : TaskPlanEntry) (runId : WorkflowRunId)
    (correlation : CorrelationContext) (progress : PlanProgress) (taskRun : TaskRun) :
    Procedure AttemptEnd := do
  let attempt ← startAttempt taskRun
  let deadlineAt ← executionDeadline entry
  let request := executionRequest entry runId correlation progress.outputs taskRun attempt
    deadlineAt
  rememberActiveRequest request
  let executed ← executeRequest runtime.executors request
  forgetActiveRequest attempt.attemptId
  let result ← .ofExcept executed
  let attempt ← onStore (Memory.getTaskAttempt attempt.attemptId)
  let taskRun ← onStore (Memory.getTaskRun taskRun.taskRunId)
  let run ← onStore (Memory.getWorkflowRun runId)
  let progress := { progress with run := run }.note result.diagnostics
  persistExternalRunRefs attempt.attemptId result
  if attempt.status = .cancelled then
    let result ← concludeCancelled runId progress taskRun
    pure (.ended (.returned result))
  else
    match result.failure with
    | none => do
        let taskEnd ← concludeSucceeded entry runId progress taskRun attempt result.output
        pure (.ended taskEnd)
    | some failure => concludeFailed entry runId progress taskRun attempt failure

/-- The attempt loop.  A retry needs an attempt number below the maximum, so the
rounds never run out. -/
def attemptLoop (runtime : WorkflowRuntime) (entry : TaskPlanEntry) (runId : WorkflowRunId)
    (correlation : CorrelationContext) : Nat → PlanProgress → TaskRun → Procedure TaskEnd
  | 0, _, _ => .raise (.runtimeInvariant "attempts exhausted")
  | rounds + 1, progress, taskRun => do
      match ← attemptRound runtime entry runId correlation progress taskRun with
      | .ended taskEnd => pure taskEnd
      | .retry progress taskRun =>
          attemptLoop runtime entry runId correlation rounds progress taskRun

/-- `_apply_fail_fast`. -/
def applyFailFast (run : WorkflowRun) (plan : ExecutionPlan) (failedEntry : TaskPlanEntry) :
    Procedure Unit := do
  let descendants ← .ofExcept (descendantsOf failedEntry.key plan.tasks)
  .forEach plan.tasks fun entry =>
    if entry.position ≤ failedEntry.position then pure ()
    else do
      let taskRuns ← query fun store => store.listTaskRuns run.runId
      match taskRuns.find? fun taskRun => taskRun.taskKey = entry.key with
      | none => .raise .stopIteration
      | some listed => do
          let taskRun ← onStore (Memory.getTaskRun listed.taskRunId)
          if taskRun.status = .pending ∨ taskRun.status = .ready then do
            let reason : SkipReason :=
              if entry.key ∈ descendants then .dependencyFailed else .failFastAbort
            let _ ← transitionTask taskRun .skipped (some reason) none
            pure ()
          else pure ()

/-- `_assert_terminal_task_runs`. -/
def assertTerminalTaskRuns (runId : WorkflowRunId) : Procedure Unit := do
  let taskRuns ← query fun store => store.listTaskRuns runId
  let statuses := taskRuns.map TaskRun.status
  .require (¬ (statuses = [] ∨ statuses.any fun status => !status.isTerminal))
    (.runtimeInvariant "workflow exhausted execution plan with non-terminal TaskRuns")
  .require (¬ statuses.any fun status => status = .failed || status = .timedOut)
    (.runtimeInvariant "workflow success path contains failed TaskRuns")

/-- How one task of the plan ends. -/
inductive EntryEnd where
  | next (progress : PlanProgress)
  | failed (progress : PlanProgress) (failure : FailureEvidence)
  | returned (result : WorkflowResult)

/-- The body of the plan loop for a task that is not reused. -/
def executeEntry (runtime : WorkflowRuntime) (runId : WorkflowRunId)
    (correlation : CorrelationContext) (entry : TaskPlanEntry) (progress : PlanProgress) :
    Procedure EntryEnd := do
  Program.ask (Service.turn runId)
  let taskRuns ← query fun store => store.listTaskRuns runId
  let persistedRuns : TaskRunsByKey := .ofList taskRuns
  match persistedRuns.find? entry.key with
  | none => .raise (.keyError entry.key.value)
  | some current => do
      let readiness ← .ofExcept (evaluateReadiness entry fun key =>
        (persistedRuns.find? key).map TaskRun.status)
      match readiness.skipReason with
      | some reason => do
          let current ← transitionTask current .skipped (some reason) none
          pure (.next (progress.note [triggerSkipDiagnostic entry progress.run current]))
      | none =>
          if ¬ readiness.ready then .raise (notReadyError entry.key)
          else do
            let current ← transitionTask current .ready none none
            let current ← transitionTask current .running none none
            match ← attemptLoop runtime entry runId correlation
                entry.retryPolicy.maxAttempts progress current with
            | .succeeded progress => pure (.next progress)
            | .failed progress failure => pure (.failed progress failure)
            | .returned result => pure (.returned result)

/-- The plan loop and what follows it. -/
def executeEntries (runtime : WorkflowRuntime) (plan : ExecutionPlan)
    (runId : WorkflowRunId) (correlation : CorrelationContext) (reusedKeys : List Text) :
    List TaskPlanEntry → PlanProgress → Procedure WorkflowResult
  | [], progress => do
      assertTerminalTaskRuns runId
      let _ ← transitionWorkflow progress.run .succeeded none
      buildResult runId progress.outputs progress.diagnostics
  | entry :: rest, progress =>
      if entry.key ∈ reusedKeys then
        executeEntries runtime plan runId correlation reusedKeys rest progress
      else do
        match ← executeEntry runtime runId correlation entry progress with
        | .next progress =>
            executeEntries runtime plan runId correlation reusedKeys rest progress
        | .returned result => pure result
        | .failed progress failure => do
            match plan.failurePolicy with
            | .failFast => do
                applyFailFast progress.run plan entry
                let _ ← transitionWorkflow progress.run (workflowTerminalStatus failure)
                  (some failure)
                buildResult runId progress.outputs progress.diagnostics

/-- `_execute_plan_tasks`. -/
def executePlanTasks (runtime : WorkflowRuntime) (run : WorkflowRun) (plan : ExecutionPlan)
    (correlation : CorrelationContext) (outputs : Outputs) (reusedKeys : List Text)
    (diagnostics : List Diagnostic) : Procedure WorkflowResult :=
  executeEntries runtime plan run.runId correlation reusedKeys plan.tasks
    ⟨run, outputs, diagnostics⟩

end Loop

section Commands

/-- The correlation of a run that is given none. -/
def givenCorrelation (correlation : Option CorrelationContext)
    (fallback : CorrelationId → CorrelationContext) : Procedure CorrelationContext :=
  match correlation with
  | some given => pure given
  | none => do
      let correlationId ← Program.ask Service.newCorrelationId
      pure (fallback correlationId)

/-- The run record that `run` and `resume_run` create. -/
def newRun (runtime : WorkflowRuntime) (plan : ExecutionPlan) (runId : WorkflowRunId)
    (correlation : CorrelationContext) (createdAt : Instant)
    (resumeOfRunId : Option Text) : WorkflowRun :=
  WorkflowRun.new runId plan.workflowName plan.workflowVersion plan.definitionFingerprint
    (runtime.planFingerprint plan) correlation createdAt resumeOfRunId

/-- Create the task run of one entry. -/
def createTask (runId : WorkflowRunId) (createdAt : Instant) (entry : TaskPlanEntry) :
    Procedure TaskRun := do
  let taskRunId ← Program.ask Service.newTaskRunId
  let taskRun := TaskRun.new taskRunId runId entry.key createdAt
  onStore (Memory.createTaskRun taskRun)
  pure taskRun

/-- `WorkflowRuntime.run`; the telemetry bridge adds no trace context. -/
def WorkflowRuntime.run (runtime : WorkflowRuntime) (workflow : Submission)
    (correlation : Option CorrelationContext) : Procedure WorkflowResult := do
  let plan ← .ofExcept (runtime.compile workflow)
  .ofExcept (runtime.preflight plan)
  let runId ← Program.ask Service.newWorkflowRunId
  let given ← givenCorrelation correlation CorrelationContext.new
  let bound := bindWorkflowCorrelation given runId
  let at_ ← now
  let run := newRun runtime plan runId bound at_.instant none
  onStore (Memory.createWorkflowRun run)
  .forEach plan.tasks fun entry => do
    let _ ← createTask runId at_.instant entry
    pure ()
  let run ← transitionWorkflow run .running none
  executePlanTasks runtime run plan bound .empty [] plan.diagnostics

/-- Create the task run of a reused entry with its copied checkpoint. -/
def reuseTask (run : WorkflowRun) (originalRunId : WorkflowRunId) (createdAt : Instant)
    (classification : TaskResumeClassification) (entry : TaskPlanEntry) :
    Procedure (List Diagnostic) := do
  let taskRun ← createTask run.runId createdAt entry
  let taskRun ← transitionTask taskRun .reused none none
  match classification.reusedCheckpoints.find? entry.key with
  | none => .raise (.keyError entry.key.value)
  | some (_, cachedCheckpoint) => do
      let newCheckpoint ← .ofExcept (TaskOutputCheckpoint.new taskRun.taskRunId
        cachedCheckpoint.output.object createdAt "")
      onStore (Memory.setTaskOutputCheckpoint newCheckpoint)
      pure [reusedDiagnostic entry originalRunId cachedCheckpoint run taskRun]

/-- The body of the loop that creates the task runs of a resumed run. -/
def resumeTask (run : WorkflowRun) (originalRunId : WorkflowRunId) (createdAt : Instant)
    (classification : TaskResumeClassification) (entry : TaskPlanEntry) :
    Procedure (List Diagnostic) :=
  if entry.key ∈ classification.reusedKeys then
    reuseTask run originalRunId createdAt classification entry
  else do
    let _ ← createTask run.runId createdAt entry
    pure []

/-- The statuses of a run that can be resumed. -/
def resumable (status : WorkflowRunStatus) : Bool :=
  status = .failed || status = .cancelled || status = .timedOut

/-- The correlation of a resumed run that is given none. -/
def resumedCorrelation (originalRunId : WorkflowRunId) (correlationId : CorrelationId) :
    CorrelationContext :=
  { CorrelationContext.new correlationId with
    causationId := some originalRunId.value
    parentExecutionId := some originalRunId.value }

/-- `WorkflowRuntime.resume_run`. -/
def WorkflowRuntime.resumeRun (runtime : WorkflowRuntime) (originalRunId : WorkflowRunId)
    (workflow : Submission) (correlation : Option CorrelationContext)
    (forceRecomputeTasks : List Text) : Procedure WorkflowResult := do
  match ← query fun store => store.workflowRuns.find? originalRunId with
  | none => .raise (.workflowNotFound originalRunId.str)
  | some parentRun => do
      .require (resumable parentRun.status)
        (.invalidRunStateForResume originalRunId.str parentRun.status.value)
      let plan ← .ofExcept (runtime.compile workflow)
      .ofExcept (runtime.preflight plan)
      .require (plan.definitionFingerprint = parentRun.definitionFingerprint)
        (.graphTopologyMismatch originalRunId.str parentRun.definitionFingerprint.value
          plan.definitionFingerprint.value)
      let parentTaskRuns ← query fun store => store.listTaskRuns originalRunId
      let classification ← classifyTasksForResume plan (.ofList parentTaskRuns)
        forceRecomputeTasks
      let runId ← Program.ask Service.newWorkflowRunId
      let given ← givenCorrelation correlation (resumedCorrelation originalRunId)
      let bound := bindWorkflowCorrelation given runId
      let at_ ← now
      let run := newRun runtime plan runId bound at_.instant (some originalRunId.value)
      onStore (Memory.createWorkflowRun run)
      let noted ← Program.mapEach plan.tasks
        (resumeTask run originalRunId at_.instant classification)
      let run ← transitionWorkflow run .running none
      executePlanTasks runtime run plan bound classification.initialOutputs
        classification.reusedKeys (plan.diagnostics ++ noted.flatten)

end Commands

end PyWorkflowKit.Runtime
