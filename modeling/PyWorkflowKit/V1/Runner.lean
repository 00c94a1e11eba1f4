import PyWorkflowKit.Domain.IsoFormat
import PyWorkflowKit.V1.Services

/-!
# The sequential runner

`Runner.run` executes the tasks of a workflow one after the other.  Every persistent
change is one unit of work.
-/

namespace PyWorkflowKit.V1

open PyWorkflowKit.Core PyWorkflowKit.Domain
open PyWorkflowKit.Planning (DependencyGraph)

/-- `_resolve_parameters`. -/
def resolveParameters (workflow : WorkflowDefinition) (supplied : Objects) :
    Except Error Objects :=
  let declared := workflow.parameters.map fun parameter => parameter.name.value
  let unknown := sortBy id ((supplied.map Prod.fst).dedup.filter fun name => name ∉ declared)
  if unknown ≠ [] then
    .error (.invalidParameters
      ("unknown workflow parameters: " ++ ", ".intercalate unknown))
  else
    workflow.parameters.mapM fun parameter =>
      match supplied.lookup parameter.name.value with
      | some value => .ok (parameter.name.value, value)
      | none =>
          if parameter.required then
            .error (.invalidParameters
              ("required workflow parameter '" ++ parameter.name.value ++ "' is missing"))
          else .ok (parameter.name.value, parameter.default)

/-- The check of one task in `_preflight_handlers`. -/
def preflightHandler (settings : RunnerSettings) (purpose : String) (task : TaskDefinition) :
    Except Error Unit :=
  if task.executorKey ≠ settings.executorKey then
    .error (.executorNotFound task.executorKey.value)
  else
    match task.handlerRef with
    | none =>
        .error (.invalidHandler task.taskId.value ("handler_ref is required for Runner " ++ purpose))
    | some handlerRef =>
        if handlerRef ∈ settings.handlerRefs then .ok ()
        else .error (.handlerNotFound handlerRef.value)

/-- The check of one task in `_validate_timeout_capabilities`. -/
def validateTimeoutCapability (settings : RunnerSettings) (task : TaskDefinition) :
    Except Error Unit :=
  match task.timeoutMode, settings.timeout with
  | .none, _ | .soft, .soft | .soft, .hard | .hard, .hard => .ok ()
  | requested, supported =>
      .error (.timeoutCapability task.taskId.value requested.value settings.executorKey.value
        supported.value)

/-- `_preflight_handlers` and `_validate_timeout_capabilities` of some tasks. -/
def preflight (settings : RunnerSettings) (purpose : String) (tasks : List TaskDefinition) :
    Except Error Unit := do
  tasks.forM (preflightHandler settings purpose)
  tasks.forM (validateTimeoutCapability settings)

/-- `_create_task_runs`. -/
def createTaskRuns (runId : WorkflowRunId) (createdAt : DateTime) (planTaskIds : List TaskId) :
    Procedure (List TaskRun) :=
  Program.mapEach planTaskIds fun taskId => do
    let taskRunId ← Program.ask (Service.newTaskRunId runId taskId)
    pure {
      taskRunId := taskRunId
      runId := runId
      taskId := taskId
      status := .pending
      skipReason := none
      createdAt := some createdAt
      startedAt := none
      finishedAt := none
      fits := by simp [TaskRunStatus.Fits, TaskRunStatus.isTerminal] }

/-- The checkpoint that a success leaves; an output that is not portable leaves none. -/
def checkpointCalls (taskRunId : TaskRunId) (output : PyValue) : List WriteCall :=
  match portableJsonValue ("task_result." ++ taskRunId.str ++ ".output") output with
  | .ok normalized => [.addTaskOutputCheckpoint taskRunId normalized]
  | .error _ => []

/-- `_persist_execution_success`. -/
def persistExecutionSuccess (taskRun : TaskRun) (attempt : TaskAttempt) (result : TaskResult)
    (event : RuntimeEvent) : Procedure TaskRun := do
  let succeededAttempt ← .ofExcept (attempt.succeed event.occurredAt)
  let succeededRun ← .ofExcept (taskRun.succeed event.occurredAt)
  commit ([.saveTaskAttempt succeededAttempt, .saveTaskRun succeededRun, .addEvent event] ++
    checkpointCalls taskRun.taskRunId result.output ++
    result.artifacts.map (.addArtifact taskRun.taskRunId) ++
    result.externalRefs.map (.addExternalRunRef taskRun.taskRunId))
  pure succeededRun

/-- The task runs that the skip decisions name, skipped. -/
def skipTaskRuns (taskRuns : TaskRuns) (at_ : DateTime) :
    List TaskSkipDecision → Except Error (List (TaskRun × SkipReason))
  | [] => .ok []
  | decision :: rest =>
      match taskRuns.find? decision.taskId with
      | none => .error (.keyError decision.taskId.value)
      | some taskRun => do
          let skipped ← taskRun.skip decision.reason at_
          let others ← skipTaskRuns taskRuns at_ rest
          .ok ((skipped, decision.reason) :: others)

/-- The events of skipped tasks, after the event numbered `last`. -/
def createSkipEvents (runId : WorkflowRunId) (at_ : DateTime) (payload : SkipReason → Objects) :
    Nat → List (TaskRun × SkipReason) → Procedure (List RuntimeEvent)
  | _, [] => pure []
  | last, (taskRun, reason) :: rest => do
      let event ← createTaskEvent runId last .taskSkipped at_ taskRun none (payload reason)
      let others ← createSkipEvents runId at_ payload (last + 1) rest
      pure (event :: others)

/-- What a terminal failure has changed, and the number of the last event. -/
structure TerminalFailure where
  run : WorkflowRun
  taskRuns : List TaskRun
  last : Nat

/-- `_persist_terminal_failure`. -/
def persistTerminalFailure (run : WorkflowRun) (taskRun : TaskRun) (attempt : TaskAttempt)
    (graph : DependencyGraph) (planTaskIds : List TaskId) (taskRuns : TaskRuns)
    (errorType errorCategory : String) (last : Nat) : Procedure TerminalFailure := do
  match attempt.finishedAt with
  | none => .raise (.runtimeInvariant "terminal failure requires a finished TaskAttempt")
  | some finishedAt => do
      let failedTask ← .ofExcept (taskRun.fail finishedAt)
      let skipped ← .ofExcept (skipTaskRuns taskRuns finishedAt
        (planFailFast taskRun.taskId graph taskRuns planTaskIds))
      let failedRun ← .ofExcept (run.fail finishedAt)
      let taskFailed ← createTaskEvent run.runId last .taskFailed finishedAt taskRun
        (some attempt)
        [("error_type", .str errorType), ("error_category", .str errorCategory)]
      let taskSkipped ← createSkipEvents run.runId finishedAt
        (fun reason => [("reason", .str reason.value),
          ("failed_task_id", .str taskRun.taskId.value)])
        (last + 1) skipped
      let workflowFailed ← createWorkflowEvent run.runId (last + 1 + skipped.length)
        .workflowFailed finishedAt [("failed_task_id", .str taskRun.taskId.value)]
      commit ([.saveTaskAttempt attempt, .saveTaskRun failedTask] ++
        (skipped.map fun entry => .saveTaskRun entry.1) ++
        [.saveWorkflowRun failedRun, .addEvent taskFailed] ++
        taskSkipped.map .addEvent ++ [.addEvent workflowFailed])
      pure ⟨failedRun, failedTask :: skipped.map Prod.fst, last + 2 + skipped.length⟩

/-- `RuntimeEventType.TASK_RETRYING` with its payload. -/
def createRetryEvent (settings : RunnerSettings) (runId : WorkflowRunId) (last : Nat)
    (failedAt eligibleAt : DateTime) (taskRun : TaskRun) (attempt : TaskAttempt)
    (decision : RetryDecision) (errorType errorCategory : String) (timeout : Objects) :
    Procedure RuntimeEvent :=
  createTaskEvent runId last .taskRetrying failedAt taskRun (some attempt)
    ([("error_type", .str errorType), ("error_category", .str errorCategory)] ++ timeout ++
      [("delay_seconds",
          .float (settings.floatText decision.delaySeconds) decision.delaySeconds.isFinite),
        ("retry_eligible_at", .str eligibleAt.isoformat),
        ("next_attempt_number", .int decision.nextAttemptNumber)])

/-- What a task is executed with. -/
structure Dispatch where
  settings : RunnerSettings
  run : WorkflowRun
  graph : DependencyGraph
  planTaskIds : List TaskId
  parameters : Objects

/-- The result of a task that succeeded, its task run, and the last event number. -/
structure Finished where
  result : TaskResult
  taskRun : TaskRun
  last : Nat

/-- `_execute_with_retry`; `rounds` bounds the attempts that are left. -/
def executeWithRetry (dispatch : Dispatch) (task : TaskDefinition) (taskRun : TaskRun)
    (taskRuns : TaskRuns) (dependencyOutputs : List (TaskId × PyValue)) :
    Nat → TaskAttempt → Nat → Procedure Finished
  | 0, _, _ => .raise (.runtimeInvariant "attempts exhausted")
  | rounds + 1, attempt, last => do
      let run := dispatch.run
      let execution ← Program.ask (Service.execute task {
        workflowRunId := run.runId
        taskRunId := taskRun.taskRunId
        attemptId := attempt.attemptId
        taskId := taskRun.taskId
        attemptNumber := attempt.attemptNumber
        workflowParameters := dispatch.parameters
        dependencyOutputs := dependencyOutputs })
      match execution with
      | .raised typeName => .raise (.raised typeName)
      | .returned result => do
          let finishedAt ← now
          let event ← createTaskEvent run.runId last .taskSucceeded finishedAt taskRun
            (some attempt) []
          let succeeded ← persistExecutionSuccess taskRun attempt result event
          pure ⟨result, succeeded, last + 1⟩
      | .failed error => do
          let failedAt ← now
          let (errorType, errorMessage, errorCategory) := normalizeExecutorError error
          let failed ← .ofExcept (attempt.fail failedAt errorType errorMessage errorCategory)
          match ← .ofExcept (decideRetry task.retryPolicy attempt.attemptNumber error) with
          | some decision => do
              let eligibleAt ← .ofExcept (retryEligibleAt failedAt decision)
              let scheduled ← .ofExcept (failed.scheduleRetry eligibleAt)
              let event ← createRetryEvent dispatch.settings run.runId last failedAt eligibleAt
                taskRun attempt decision errorType errorCategory []
              commit [.saveTaskAttempt scheduled, .addEvent event]
              if decision.delaySeconds.exceeds (.finite 0) then
                Program.ask (Service.sleep decision.delaySeconds)
              let startedAt ← now
              let next ← newAttempt taskRun decision.nextAttemptNumber
                decision.positive startedAt
              commit [.addTaskAttempt next]
              executeWithRetry dispatch task taskRun taskRuns dependencyOutputs rounds next
                (last + 1)
          | none => do
              let _ ← persistTerminalFailure run taskRun failed dispatch.graph
                dispatch.planTaskIds taskRuns errorType errorCategory last
              .raise (.executor error)

/-- A new attempt of a task, which is started unless it waits for a retry. -/
def startTask (runId : WorkflowRunId) (taskRun : TaskRun) (waits : Bool)
    (attemptNumber : Nat) (hpositive : 1 ≤ attemptNumber) (payload : Objects) (last : Nat) :
    Procedure (TaskRun × TaskAttempt) := do
  let startedAt ← now
  let started ← if waits then pure taskRun else .ofExcept (taskRun.start startedAt)
  let attempt ← newAttempt taskRun attemptNumber hpositive startedAt
  let event ← createTaskEvent runId last .taskStarted startedAt taskRun (some attempt) payload
  commit [.saveTaskRun started, .addTaskAttempt attempt, .addEvent event]
  pure (started, attempt)

/-- The transition to READY with its event. -/
def readyTask (runId : WorkflowRunId) (taskRun : TaskRun) (payload : Objects) (last : Nat) :
    Procedure TaskRun := do
  let readyAt ← now
  let ready ← .ofExcept taskRun.markReady
  let event ← createTaskEvent runId last .taskReady readyAt taskRun none payload
  commit [.saveTaskRun ready, .addEvent event]
  pure ready

/-- The outputs of the upstream tasks. -/
def dependencyOutputs (outputs : List (TaskId × PyValue)) (upstream : List TaskId) :
    Except Error (List (TaskId × PyValue)) :=
  upstream.mapM fun taskId =>
    match outputs.lookup taskId with
    | some output => .ok (taskId, output)
    | none => .error (.keyError taskId.value)

/-- What `Runner.run` knows between two tasks. -/
structure Progress where
  taskRuns : TaskRuns
  outputs : List (TaskId × PyValue)
  last : Nat

/-- The loop body of `Runner.run`. -/
def runTask (dispatch : Dispatch) (workflow : WorkflowDefinition) (taskId : TaskId)
    (progress : Progress) : Procedure Progress := do
  match progress.taskRuns.find? taskId, workflow.task? taskId with
  | some taskRun, some task => do
      let persisted ← query fun store => .ok (loadTaskRuns dispatch.run.runId store)
      match persisted.find? taskId with
      | none => .raise (.keyError taskId.value)
      | some persistedRun => do
          let ready ← .ofExcept (isReady persistedRun dispatch.graph persisted)
          .require (ready = true)
            (.runtimeInvariant ("planned task '" ++ taskId.value ++ "' is not runtime-ready"))
          let ready ← readyTask dispatch.run.runId taskRun [] progress.last
          let (started, attempt) ← startTask dispatch.run.runId ready false 1 Nat.one_pos []
            (progress.last + 1)
          let inputs ← .ofExcept
            (dependencyOutputs progress.outputs (dispatch.graph.dependencies taskId))
          let finished ← executeWithRetry dispatch task started
            (progress.taskRuns.set started) inputs task.retryPolicy.maxAttempts attempt
            (progress.last + 2)
          pure {
            taskRuns := progress.taskRuns.set finished.taskRun
            outputs := progress.outputs ++ [(taskId, finished.result.output)]
            last := finished.last }
  | _, _ => .raise (.keyError taskId.value)

/-- The loop of `Runner.run`. -/
def runTasks (dispatch : Dispatch) (workflow : WorkflowDefinition) :
    List TaskId → Progress → Procedure Progress
  | [], progress => pure progress
  | taskId :: rest, progress => do
      let next ← runTask dispatch workflow taskId progress
      runTasks dispatch workflow rest next

/-- The new run and its task runs, persisted and started. -/
def beginRun (workflow : WorkflowDefinition) (planTaskIds : List TaskId)
    (parameters : Objects) : Procedure (WorkflowRun × List TaskRun) := do
  let runId ← Program.ask Service.newWorkflowRunId
  let createdAt ← now
  let run : WorkflowRun := {
    runId := runId
    workflowId := workflow.workflowId
    workflowVersion := workflow.version
    status := .pending
    parameters := parameters
    createdAt := some createdAt
    startedAt := none
    finishedAt := none
    fits := WorkflowRunStatus.fits_pending }
  let tasksCreatedAt ← now
  let taskRuns ← createTaskRuns runId tasksCreatedAt planTaskIds
  commit (.addWorkflowRun run :: taskRuns.map .addTaskRun)
  let startedAt ← now
  let started ← .ofExcept (run.start startedAt)
  let event ← createWorkflowEvent runId 0 .workflowStarted startedAt []
  commit [.saveWorkflowRun started, .addEvent event]
  pure (started, taskRuns)

/-- The success of a workflow run. -/
def succeedRun (run : WorkflowRun) (payload : Objects) (last : Nat) : Procedure WorkflowRun := do
  let finishedAt ← now
  let succeeded ← .ofExcept (run.succeed finishedAt)
  let event ← createWorkflowEvent run.runId last .workflowSucceeded finishedAt payload
  commit [.saveWorkflowRun succeeded, .addEvent event]
  query fun store => store.getWorkflowRun run.runId

/-- Every task run has succeeded. -/
def allSucceeded (taskRuns : TaskRuns) : Bool :=
  taskRuns.rows.all fun taskRun => taskRun.status = .succeeded

/-- `Runner.run`. -/
def Runner.run (settings : RunnerSettings) (workflow : WorkflowDefinition)
    (supplied : Objects) : Procedure WorkflowRun := do
  let planTaskIds ← .ofExcept (plan workflow)
  let parameters ← .ofExcept (resolveParameters workflow supplied)
  .ofExcept (preflight settings "execution" workflow.tasks)
  let (run, taskRuns) ← beginRun workflow planTaskIds parameters
  let dispatch : Dispatch :=
    ⟨settings, run, buildDependencyGraph workflow, planTaskIds, parameters⟩
  let progress ← runTasks dispatch workflow planTaskIds ⟨Table.ofList taskRuns, [], 1⟩
  .require (allSucceeded progress.taskRuns = true)
    (.runtimeInvariant "workflow exhausted its plan before all tasks succeeded")
  succeedRun run [] progress.last

end PyWorkflowKit.V1
