import PyWorkflowKit.V1.Capacity
import PyWorkflowKit.V1.Runner

/-!
# The concurrent runner

`ConcurrentRunner.run` keeps several attempts active at once.  One coordinator makes
every change of state; completions, timeouts, due retries and a cancellation request
reach it between two rounds of its loop.
-/

namespace PyWorkflowKit.V1

open PyWorkflowKit.Core PyWorkflowKit.Domain
open PyWorkflowKit.Planning (DependencyGraph)

/-- `_ActiveExecution`. -/
structure ActiveExecution where
  taskId : TaskId
  attempt : TaskAttempt
  lease : CapacityLease
  handle : ExecutionHandle
  deadline : Option PyFloat
  timedOut : Bool

/-- `_PendingRetry`. -/
structure PendingRetry where
  taskId : TaskId
  nextAttemptNumber : Nat
  eligibleAt : DateTime
  eligibleMonotonic : PyFloat
  positive : 1 ≤ nextAttemptNumber

def ActiveExecution.handleId (execution : ActiveExecution) : Text := execution.handle.handleId

/-- What the coordinator knows between two rounds of its loop. -/
structure Coordinator where
  run : WorkflowRun
  taskRuns : TaskRuns
  outputs : List (TaskId × PyValue)
  active : Table ActiveExecution.handleId
  pendingRetries : Table PendingRetry.taskId
  capacity : CapacityManager
  workflowFailed : Bool
  last : Nat

/-- What one round of the loop comes to. -/
inductive Round where
  | continued (coordinator : Coordinator)
  | returned (run : WorkflowRun)
  | interrupted (coordinator : Coordinator)

namespace Coordinator

/-- `active.pop`. -/
def dropActive (coordinator : Coordinator) (handleId : Text) : Coordinator :=
  { coordinator with
    active := coordinator.active.filter fun execution => execution.handleId ≠ handleId }

/-- `del pending_retries[...]`. -/
def dropPending (coordinator : Coordinator) (taskId : TaskId) : Coordinator :=
  { coordinator with
    pendingRetries := coordinator.pendingRetries.filter fun pending => pending.taskId ≠ taskId }

/-- The task run of an active execution. -/
def taskRun (coordinator : Coordinator) (taskId : TaskId) : Except Error TaskRun :=
  match coordinator.taskRuns.find? taskId with
  | some taskRun => .ok taskRun
  | none => .error (.keyError taskId.value)

/-- A task run that was changed. -/
def setTaskRun (coordinator : Coordinator) (taskRun : TaskRun) : Coordinator :=
  { coordinator with taskRuns := coordinator.taskRuns.set taskRun }

end Coordinator

/-- `_mark_new_ready_tasks`, for the tasks that were found ready. -/
def markReadyTasks : List TaskRun → Coordinator → Procedure Coordinator
  | [], coordinator => pure coordinator
  | taskRun :: rest, coordinator => do
      let ready ← readyTask coordinator.run.runId taskRun [] coordinator.last
      markReadyTasks rest { coordinator.setTaskRun ready with last := coordinator.last + 1 }

/-- `_mark_new_ready_tasks`. -/
def markNewReadyTasks (dispatch : Dispatch) (coordinator : Coordinator) :
    Procedure Coordinator := do
  let ready ← .ofExcept (findReady dispatch.graph coordinator.taskRuns)
  markReadyTasks ready coordinator

/-- `_submit_attempt`. -/
def submitAttempt (dispatch : Dispatch) (task : TaskDefinition) (taskRun : TaskRun)
    (attempt : TaskAttempt) (lease : CapacityLease) (coordinator : Coordinator) :
    Procedure Coordinator := do
  let inputs ← .ofExcept
    (dependencyOutputs coordinator.outputs (dispatch.graph.dependencies taskRun.taskId))
  let submitted ← Program.ask (Service.submit task {
    workflowRunId := coordinator.run.runId
    taskRunId := taskRun.taskRunId
    attemptId := attempt.attemptId
    taskId := taskRun.taskId
    attemptNumber := attempt.attemptNumber
    workflowParameters := dispatch.parameters
    dependencyOutputs := inputs })
  let handle ← .ofExcept submitted
  .require (coordinator.active.contains handle.handleId = false)
    (.runtimeInvariant
      ("execution handle '" ++ handle.handleId.value ++ "' was dispatched twice"))
  let deadline ←
    match task.timeoutSeconds with
    | none => pure none
    | some seconds => do
        let at_ ← Program.ask Service.monotonic
        pure (some (at_.add seconds.asFloat))
  pure { coordinator with
    active := coordinator.active.set {
      taskId := taskRun.taskId
      attempt := attempt
      lease := lease
      handle := handle
      deadline := deadline
      timedOut := false } }

/-- A new attempt under an identity that already holds a slot. -/
def attemptOf (attemptId : TaskAttemptId) (taskRun : TaskRun) (attemptNumber : Nat)
    (hpositive : 1 ≤ attemptNumber) (startedAt : DateTime) : TaskAttempt where
  attemptId := attemptId
  taskRunId := taskRun.taskRunId
  attemptNumber := attemptNumber
  status := .running
  startedAt := some startedAt
  finishedAt := none
  errorType := none
  errorMessage := none
  errorCategory := none
  retryEligibleAt := none
  errorMetadata := []
  positive := hpositive
  fits := TaskAttemptStatus.fits_running

/-- The dispatch of one READY task in `_dispatch_ready_tasks`. -/
def dispatchReadyTask (dispatch : Dispatch) (workflow : WorkflowDefinition) (taskId : TaskId)
    (coordinator : Coordinator) : Procedure Coordinator := do
  match coordinator.taskRuns.find? taskId, workflow.task? taskId with
  | some taskRun, some task => do
      let attemptId ← Program.ask (Service.newTaskAttemptId taskRun.taskRunId 1)
      match ← .ofExcept
          (coordinator.capacity.tryAcquire dispatch.settings.executorKey attemptId) with
      | none => pure coordinator
      | some (lease, capacity) => do
          let startedAt ← now
          let started ← .ofExcept (taskRun.start startedAt)
          let attempt := attemptOf attemptId taskRun 1 Nat.one_pos startedAt
          let event ← createTaskEvent coordinator.run.runId coordinator.last .taskStarted
            startedAt taskRun (some attempt) []
          commit [.saveTaskRun started, .addTaskAttempt attempt, .addEvent event]
          submitAttempt dispatch task started attempt lease
            { coordinator.setTaskRun started with
              capacity := capacity
              last := coordinator.last + 1 }
  | _, _ => .raise (.keyError taskId.value)

/-- The loop of `_dispatch_ready_tasks`. -/
def dispatchReadyFrom (dispatch : Dispatch) (workflow : WorkflowDefinition) :
    List TaskId → Coordinator → Procedure Coordinator
  | [], coordinator => pure coordinator
  | taskId :: rest, coordinator => do
      if ← Program.ask Service.isRequested then pure coordinator
      else
        let next ← dispatchReadyTask dispatch workflow taskId coordinator
        dispatchReadyFrom dispatch workflow rest next

/-- `_dispatch_ready_tasks`. -/
def dispatchReadyTasks (dispatch : Dispatch) (workflow : WorkflowDefinition)
    (coordinator : Coordinator) : Procedure Coordinator :=
  dispatchReadyFrom dispatch workflow
    (sortBy Text.value ((coordinator.taskRuns.rows.filter fun taskRun =>
      taskRun.status = .ready).map TaskRun.taskId))
    coordinator

/-- The dispatch of one due retry in `_dispatch_pending_retries`. -/
def dispatchRetry (dispatch : Dispatch) (workflow : WorkflowDefinition)
    (activeTaskIds : List TaskId) (taskId : TaskId) (coordinator : Coordinator) :
    Procedure Coordinator := do
  if taskId ∈ activeTaskIds then pure coordinator
  else
    match coordinator.taskRuns.find? taskId, coordinator.pendingRetries.find? taskId,
        workflow.task? taskId with
    | some taskRun, some pending, some task => do
        let at_ ← Program.ask Service.monotonic
        if pending.eligibleMonotonic.exceeds at_ then pure coordinator
        else
          let attemptId ← Program.ask
            (Service.newTaskAttemptId taskRun.taskRunId pending.nextAttemptNumber)
          match ← .ofExcept
              (coordinator.capacity.tryAcquire dispatch.settings.executorKey attemptId) with
          | none => pure coordinator
          | some (lease, capacity) => do
              let startedAt ← now
              let attempt := attemptOf attemptId taskRun pending.nextAttemptNumber
                pending.positive startedAt
              commit [.addTaskAttempt attempt]
              submitAttempt dispatch task taskRun attempt lease
                { coordinator.dropPending taskId with capacity := capacity }
    | _, _, _ => .raise (.keyError taskId.value)

/-- The loop of `_dispatch_pending_retries`. -/
def dispatchRetriesFrom (dispatch : Dispatch) (workflow : WorkflowDefinition)
    (activeTaskIds : List TaskId) : List TaskId → Coordinator → Procedure Coordinator
  | [], coordinator => pure coordinator
  | taskId :: rest, coordinator => do
      if ← Program.ask Service.isRequested then pure coordinator
      else
        let next ← dispatchRetry dispatch workflow activeTaskIds taskId coordinator
        dispatchRetriesFrom dispatch workflow activeTaskIds rest next

/-- `_dispatch_pending_retries`. -/
def dispatchPendingRetries (dispatch : Dispatch) (workflow : WorkflowDefinition)
    (coordinator : Coordinator) : Procedure Coordinator :=
  dispatchRetriesFrom dispatch workflow
    (coordinator.active.rows.map ActiveExecution.taskId)
    (sortBy Text.value (coordinator.pendingRetries.rows.map PendingRetry.taskId))
    coordinator

/-- `_persist_running_sibling_failure`. -/
def persistSiblingFailure (taskRun : TaskRun) (attempt : TaskAttempt) (event : RuntimeEvent) :
    Procedure TaskRun := do
  match attempt.finishedAt with
  | none =>
      .raise (.runtimeInvariant "running sibling failure requires a finished TaskAttempt")
  | some finishedAt => do
      let failed ← .ofExcept (taskRun.fail finishedAt)
      commit [.saveTaskAttempt attempt, .saveTaskRun failed, .addEvent event]
      pure failed

/-- A scheduled retry: the attempt, its event and the pending entry. -/
def scheduleRetry (dispatch : Dispatch) (taskRun : TaskRun) (failed : TaskAttempt)
    (failedAt : DateTime) (decision : RetryDecision) (errorType errorCategory : String)
    (timeout : Objects) (coordinator : Coordinator) : Procedure Coordinator := do
  let eligibleAt ← .ofExcept (retryEligibleAt failedAt decision)
  let scheduled ← .ofExcept (failed.scheduleRetry eligibleAt)
  let event ← createRetryEvent dispatch.settings coordinator.run.runId coordinator.last failedAt
    eligibleAt taskRun failed decision errorType errorCategory timeout
  commit [.saveTaskAttempt scheduled, .addEvent event]
  let at_ ← Program.ask Service.monotonic
  pure { coordinator with
    pendingRetries := coordinator.pendingRetries.set {
      taskId := taskRun.taskId
      nextAttemptNumber := decision.nextAttemptNumber
      eligibleAt := eligibleAt
      eligibleMonotonic := at_.add decision.delaySeconds
      positive := decision.positive }
    last := coordinator.last + 1 }

/-- A terminal failure of the workflow, in memory as it was persisted. -/
def failWorkflow (dispatch : Dispatch) (taskRun : TaskRun) (failed : TaskAttempt)
    (errorType errorCategory : String) (coordinator : Coordinator) : Procedure Coordinator := do
  let failure ← persistTerminalFailure coordinator.run taskRun failed dispatch.graph
    dispatch.planTaskIds coordinator.taskRuns errorType errorCategory coordinator.last
  pure { coordinator with
    run := failure.run
    taskRuns := failure.taskRuns.foldl Table.set coordinator.taskRuns
    workflowFailed := true
    last := failure.last }

/-- A failed attempt: a retry, the failure of a sibling, or the end of the workflow. -/
def failAttempt (dispatch : Dispatch) (task : TaskDefinition) (taskRun : TaskRun)
    (attempt : TaskAttempt) (error : ExecutorError) (timeout : Objects)
    (coordinator : Coordinator) : Procedure (Coordinator × TaskAttempt) := do
  let failedAt ← now
  let (errorType, errorMessage, errorCategory) := normalizeExecutorError error
  let failed ← .ofExcept (attempt.fail failedAt errorType errorMessage errorCategory)
  let decision ← .ofExcept (decideRetry task.retryPolicy attempt.attemptNumber error)
  match decision, coordinator.workflowFailed with
  | some decision, false => do
      let next ← scheduleRetry dispatch taskRun failed failedAt decision errorType
        errorCategory timeout coordinator
      pure (next, failed)
  | _, true => do
      let event ← createTaskEvent coordinator.run.runId coordinator.last .taskFailed failedAt
        taskRun (some attempt)
        ([("error_type", .str errorType), ("error_category", .str errorCategory)] ++ timeout)
      let failedRun ← persistSiblingFailure taskRun failed event
      pure ({ coordinator.setTaskRun failedRun with last := coordinator.last + 1 }, failed)
  | none, false => do
      let next ← failWorkflow dispatch taskRun failed errorType errorCategory coordinator
      pure (next, failed)

/-- A Python number as text and as an object. -/
def numberText (settings : RunnerSettings) : Number → String
  | .int value => toString value
  | .float value => settings.floatText (.finite value)

def numberValue (settings : RunnerSettings) : Number → PyValue
  | .int value => .int value
  | .float value => .float (settings.floatText (.finite value)) true

/-- `ExecutionTimeoutError`. -/
def timeoutError (settings : RunnerSettings) (task : TaskDefinition) (seconds : Seconds) :
    ExecutorError :=
  .taskExecution "ExecutionTimeoutError"
    ("execution exceeded " ++ numberText settings seconds.value ++ " seconds under " ++
      task.timeoutMode.value ++ " timeout semantics")
    "timeout"

/-- `_hard_terminator`. -/
def hardTerminator (settings : RunnerSettings) : Except Error Unit :=
  if settings.hasTerminate then .ok ()
  else
    .error (.runtimeInvariant ("executor '" ++ settings.executorKey.value ++
      "' declares hard termination semantics but does not implement terminate(handle)"))

/-- `_cooperative_canceller`. -/
def cooperativeCanceller (settings : RunnerSettings) : Except Error Unit :=
  if settings.hasCancel then .ok ()
  else
    .error (.runtimeInvariant ("executor '" ++ settings.executorKey.value ++
      "' declares cooperative cancellation but does not implement cancel(handle)"))

/-- The execution has a deadline that has passed, and has not been timed out. -/
def ActiveExecution.due (execution : ActiveExecution) (at_ : PyFloat) : Bool :=
  !execution.timedOut &&
    match execution.deadline with
    | none => false
    | some deadline => !deadline.exceeds at_

/-- One execution in `_expire_due_timeouts`. -/
def expireTimeout (dispatch : Dispatch) (workflow : WorkflowDefinition) (at_ : PyFloat)
    (handleId : Text) (coordinator : Coordinator) : Procedure Coordinator := do
  match coordinator.active.find? handleId with
  | none => .raise (.keyError handleId.value)
  | some execution =>
      if execution.due at_ = false then pure coordinator
      else
        match workflow.task? execution.taskId with
        | none => .raise (.keyError execution.taskId.value)
        | some task =>
            match task.timeoutSeconds with
            | none =>
                .raise (.runtimeInvariant ("task '" ++ execution.taskId.value ++
                  "' reached timeout without timeout_seconds"))
            | some seconds => do
                if task.timeoutMode = .hard then do
                  .ofExcept (hardTerminator dispatch.settings)
                  let terminated ← Program.ask (Service.terminate execution.handle)
                  let _ ← .ofExcept terminated
                let taskRun ← .ofExcept (coordinator.taskRun execution.taskId)
                let (next, failed) ← failAttempt dispatch task taskRun execution.attempt
                  (timeoutError dispatch.settings task seconds)
                  [("timeout_mode", .str task.timeoutMode.value),
                    ("timeout_seconds", numberValue dispatch.settings seconds.value)]
                  coordinator
                pure { next with
                  active := next.active.set
                    { execution with attempt := failed, timedOut := true } }

/-- `_expire_due_timeouts`, from some handle on. -/
def expireTimeoutsFrom (dispatch : Dispatch) (workflow : WorkflowDefinition) (at_ : PyFloat) :
    List Text → Coordinator → Procedure Coordinator
  | [], coordinator => pure coordinator
  | handleId :: rest, coordinator => do
      let next ← expireTimeout dispatch workflow at_ handleId coordinator
      expireTimeoutsFrom dispatch workflow at_ rest next

/-- `_expire_due_timeouts`. -/
def expireDueTimeouts (dispatch : Dispatch) (workflow : WorkflowDefinition)
    (coordinator : Coordinator) : Procedure Coordinator := do
  let at_ ← Program.ask Service.monotonic
  expireTimeoutsFrom dispatch workflow at_
    (sortBy Text.value (coordinator.active.rows.map ActiveExecution.handleId)) coordinator

/-- A success that a completion brings. -/
def applySuccess (taskRun : TaskRun) (execution : ActiveExecution) (result : TaskResult)
    (coordinator : Coordinator) : Procedure Coordinator := do
  let finishedAt ← now
  let event ← createTaskEvent coordinator.run.runId coordinator.last .taskSucceeded finishedAt
    taskRun (some execution.attempt) []
  let succeeded ← persistExecutionSuccess taskRun execution.attempt result event
  pure { coordinator.setTaskRun succeeded with last := coordinator.last + 1 }

/-- `_apply_completion`. -/
def applyCompletion (dispatch : Dispatch) (workflow : WorkflowDefinition)
    (execution : ActiveExecution) (completion : AttemptCompletion) (coordinator : Coordinator) :
    Procedure Coordinator := do
  .require (completion.handle = execution.handle)
    (.runtimeInvariant "completion handle does not match active execution identity")
  let taskRun ← .ofExcept (coordinator.taskRun execution.taskId)
  match completion.outcome with
  | .ok result => do
      let next ← applySuccess taskRun execution result coordinator
      pure { next with outputs := next.outputs ++ [(execution.taskId, result.output)] }
  | .error error =>
      match workflow.task? execution.taskId with
      | none => .raise (.keyError execution.taskId.value)
      | some task => do
          let (next, _) ← failAttempt dispatch task taskRun execution.attempt error [] coordinator
          pure next

/-- `_apply_cancellation_completion`. -/
def applyCancellationCompletion (execution : ActiveExecution) (completion : AttemptCompletion)
    (coordinator : Coordinator) : Procedure Coordinator := do
  .require (completion.handle = execution.handle)
    (.runtimeInvariant "cancellation completion handle does not match active execution")
  let taskRun ← .ofExcept (coordinator.taskRun execution.taskId)
  match completion.outcome with
  | .ok result => applySuccess taskRun execution result coordinator
  | .error error => do
      let failedAt ← now
      let (errorType, errorMessage, errorCategory) := normalizeExecutorError error
      let failed ← .ofExcept
        (execution.attempt.fail failedAt errorType errorMessage errorCategory)
      let event ← createTaskEvent coordinator.run.runId coordinator.last .taskFailed failedAt
        taskRun (some execution.attempt)
        [("error_type", .str errorType), ("error_category", .str errorCategory),
          ("during_cancellation", .bool true)]
      let failedRun ← persistSiblingFailure taskRun failed event
      pure { coordinator.setTaskRun failedRun with last := coordinator.last + 1 }

/-- `_apply_executor_cancellation_completion`. -/
def applyExecutorCancellation (execution : ActiveExecution) (completion : AttemptCompletion)
    (coordinator : Coordinator) : Procedure Coordinator := do
  .require (completion.handle = execution.handle)
    (.runtimeInvariant
      "executor-cancellation completion handle does not match active execution")
  let taskRun ← .ofExcept (coordinator.taskRun execution.taskId)
  let cancelledAt ← now
  let cancelledAttempt ← .ofExcept (execution.attempt.cancel cancelledAt)
  let cancelledRun ← .ofExcept (taskRun.cancel cancelledAt)
  commit [.saveTaskAttempt cancelledAttempt, .saveTaskRun cancelledRun]
  pure (coordinator.setTaskRun cancelledRun)

/-- The execution that a completion belongs to, with its slot released. -/
def releaseCompleted (owner : String) (completion : AttemptCompletion)
    (coordinator : Coordinator) : Except Error (ActiveExecution × Coordinator) :=
  match coordinator.active.find? completion.handle.handleId with
  | none =>
      .error (.runtimeInvariant ("received completion for an execution handle not owned by " ++
        owner ++ ": '" ++ completion.handle.handleId.value ++ "'"))
  | some execution =>
      (coordinator.capacity.release execution.lease).map fun capacity =>
        (execution,
          { coordinator.dropActive completion.handle.handleId with capacity := capacity })

/-- The tasks that a cancellation sweeps. -/
def Coordinator.sweeps (coordinator : Coordinator) (taskRun : TaskRun) : Bool :=
  taskRun.status.undispatched ||
    (taskRun.status = .running && coordinator.pendingRetries.contains taskRun.taskId &&
      coordinator.active.rows.all fun execution =>
        execution.timedOut || execution.taskId ≠ taskRun.taskId)

/-- The task runs that a cancellation sweeps, cancelled one by one. -/
def sweepTaskRuns (coordinator : Coordinator) : List TaskRun → Procedure (List TaskRun)
  | [] => pure []
  | taskRun :: rest =>
      if coordinator.sweeps taskRun then do
        let at_ ← now
        let cancelled ← .ofExcept (taskRun.cancel at_)
        let others ← sweepTaskRuns coordinator rest
        pure (cancelled :: others)
      else sweepTaskRuns coordinator rest

/-- The handles that the executor has cancelled on request. -/
def stopExecutions (stop : ExecutionHandle → Procedure (Except Error Bool)) :
    List ActiveExecution → Procedure (List Text)
  | [] => pure []
  | execution :: rest => do
      let answer ← stop execution.handle
      let stopped ← .ofExcept answer
      let others ← stopExecutions stop rest
      pure (if stopped && !execution.timedOut then execution.handleId :: others else others)

/-- The cancellation of active executions in `_finish_cancellation`. -/
def cancelExecutions (dispatch : Dispatch) (coordinator : Coordinator) :
    Procedure (List Text) :=
  match dispatch.settings.cancellation with
  | .none => pure []
  | .hard => do
      .ofExcept (hardTerminator dispatch.settings)
      stopExecutions (fun handle => Program.ask (Service.terminate handle))
        coordinator.active.rows
  | .cooperative => do
      .ofExcept (cooperativeCanceller dispatch.settings)
      stopExecutions (fun handle => Program.ask (Service.cancel handle))
        coordinator.active.rows

/-- The `while active` loop of `_finish_cancellation`; a `KeyboardInterrupt` while it waits
leaves the coordinator as it is then. -/
def drainCancelled (cancelledHandleIds : List Text) :
    Nat → Coordinator → Procedure (Bool × Coordinator)
  | 0, coordinator => pure (true, coordinator)
  | rounds + 1, coordinator =>
      if coordinator.active.rows = [] then pure (true, coordinator)
      else do
        match ← Program.ask (Service.fetch none) with
        | .interrupted => pure (false, coordinator)
        | .empty => .raise (.raised "Empty")
        | .completed completion => do
            let (execution, released) ←
              .ofExcept (releaseCompleted "cancelling run" completion coordinator)
            if execution.timedOut then drainCancelled cancelledHandleIds rounds released
            else if execution.handleId ∈ cancelledHandleIds then do
              let next ← applyExecutorCancellation execution completion released
              drainCancelled cancelledHandleIds rounds next
            else do
              let next ← applyCancellationCompletion execution completion released
              drainCancelled cancelledHandleIds rounds next

/-- `_finish_cancellation`. -/
def finishCancellation (dispatch : Dispatch) (coordinator : Coordinator) : Procedure Round := do
  let reason ← Program.ask Service.requestReason
  let cancelled ← sweepTaskRuns coordinator coordinator.taskRuns.rows
  let swept := { coordinator with
    taskRuns := cancelled.foldl Table.set coordinator.taskRuns
    pendingRetries := .empty }
  if cancelled ≠ [] then commit (cancelled.map .saveTaskRun)
  let cancelledHandleIds ← cancelExecutions dispatch swept
  let (drained, rest) ← drainCancelled cancelledHandleIds swept.active.rows.length swept
  if drained = false then pure (.interrupted rest)
  else
    let unexpected := rest.taskRuns.rows.filter fun taskRun => taskRun.status = .running
    .require (unexpected = [])
      (.runtimeInvariant ("cancellation drained workers but RUNNING tasks remain: " ++
        ", ".intercalate (unexpected.map fun taskRun => taskRun.taskId.value)))
    let finishedAt ← now
    let cancelledRun ← .ofExcept (rest.run.cancel finishedAt)
    let event ← createWorkflowEvent rest.run.runId rest.last .workflowCancelled finishedAt
      [("reason", .str (reason.getD "requested")),
        ("cancelled_undispatched_tasks", .int cancelled.length)]
    commit [.saveWorkflowRun cancelledRun, .addEvent event]
    let persisted ← query fun store => store.getWorkflowRun rest.run.runId
    pure (.returned persisted)

/-- `_drain_terminal_workflow_attempts`. -/
def drainTerminal : Nat → Coordinator → Procedure Coordinator
  | 0, coordinator => pure coordinator
  | rounds + 1, coordinator =>
      if coordinator.active.rows = [] then pure coordinator
      else do
        match ← Program.ask (Service.fetch none) with
        | .interrupted => .raise .keyboardInterrupt
        | .empty => .raise (.raised "Empty")
        | .completed completion => do
            let (execution, released) ←
              .ofExcept (releaseCompleted "terminal run" completion coordinator)
            if execution.timedOut then drainTerminal rounds released
            else do
              let next ← applyCancellationCompletion execution completion released
              drainTerminal rounds next

/-- `_completion_wait_timeout` with the poll interval of the loop. -/
def waitTimeout (settings : RunnerSettings) (coordinator : Coordinator) :
    Procedure (Option PyFloat) := do
  let polls := coordinator.pendingRetries.rows ≠ [] ∨ settings.cancellation ≠ .none
  let poll : Option PyFloat := if polls then some (PyFloat.ofRat (5 / 100)) else none
  let deadlines :=
    ((coordinator.active.rows.filter fun execution => !execution.timedOut).filterMap
        ActiveExecution.deadline) ++
      coordinator.pendingRetries.rows.map PendingRetry.eligibleMonotonic
  match deadlines with
  | [] => pure poll
  | first :: rest => do
      let at_ ← Program.ask Service.monotonic
      let remaining :=
        match rest.foldl PyFloat.min first, at_ with
        | .finite deadline, .finite reading => (PyFloat.ofRat (deadline - reading)).atLeastZero
        | .finite _, .infinite => .finite 0
        | .infinite, _ => .infinite
      pure (some ((poll.map remaining.min).getD remaining))

/-- The end of a workflow in which nothing is active and nothing waits. -/
def concludeRun (coordinator : Coordinator) : Procedure WorkflowRun := do
  if coordinator.workflowFailed then
    query fun store => store.getWorkflowRun coordinator.run.runId
  else if coordinator.taskRuns.rows.all fun taskRun => taskRun.status.isTerminal then do
    .require (coordinator.taskRuns.rows.all (fun taskRun => taskRun.status ≠ .failed) = true)
      (.runtimeInvariant "failed TaskRun exists without failed workflow state")
    succeedRun coordinator.run [] coordinator.last
  else
    .raise (.runtimeInvariant
      "concurrent runner made no progress with non-terminal tasks remaining")

/-- What follows a wait for a completion. -/
def afterFetch (dispatch : Dispatch) (workflow : WorkflowDefinition) (coordinator : Coordinator)
    (fetched : Fetched) : Procedure Round := do
  match fetched with
  | .interrupted => pure (.interrupted coordinator)
  | .empty => do
      let next ← expireDueTimeouts dispatch workflow coordinator
      pure (.continued next)
  | .completed completion => do
      let (execution, released) ←
        .ofExcept (releaseCompleted "this run" completion coordinator)
      if execution.timedOut then pure (.continued released)
      else
        let requested ← Program.ask Service.isRequested
        if requested = true ∧ released.workflowFailed = false then do
          let next ← applyCancellationCompletion execution completion released
          pure (.continued next)
        else do
          let next ← applyCompletion dispatch workflow execution completion released
          pure (.continued next)

/-- The dispatches of one round: new READY tasks, due retries, READY tasks. -/
def dispatchRound (dispatch : Dispatch) (workflow : WorkflowDefinition)
    (coordinator : Coordinator) : Procedure Coordinator := do
  let marked ←
    if coordinator.workflowFailed then pure coordinator
    else markNewReadyTasks dispatch coordinator
  let retried ← dispatchPendingRetries dispatch workflow marked
  if coordinator.workflowFailed then pure retried
  else dispatchReadyTasks dispatch workflow retried

/-- One round of the `while True` loop of `ConcurrentRunner.run`. -/
def coordinate (dispatch : Dispatch) (workflow : WorkflowDefinition) (coordinator : Coordinator) :
    Procedure Round := do
  let requested ← Program.ask Service.isRequested
  if requested = true ∧ coordinator.workflowFailed = false then
    finishCancellation dispatch coordinator
  else do
    let dispatched ← dispatchRound dispatch workflow coordinator
    let requested ← Program.ask Service.isRequested
    if requested = true ∧ coordinator.workflowFailed = false then
      pure (.continued dispatched)
    else if dispatched.active.rows ≠ [] ∨ dispatched.pendingRetries.rows ≠ [] then do
      let timeout ← waitTimeout dispatch.settings dispatched
      let fetched ← Program.ask (Service.fetch timeout)
      afterFetch dispatch workflow dispatched fetched
    else do
      let persisted ← concludeRun dispatched
      pure (.returned persisted)

/-- The handler of a `KeyboardInterrupt` in `ConcurrentRunner.run`. -/
def handleInterrupt (dispatch : Dispatch) (coordinator : Coordinator) :
    Procedure WorkflowRun := do
  if coordinator.workflowFailed then do
    let _ ← drainTerminal coordinator.active.rows.length coordinator
    query fun store => store.getWorkflowRun coordinator.run.runId
  else do
    Program.ask (Service.request "keyboard_interrupt")
    match ← finishCancellation dispatch coordinator with
    | .returned run => pure run
    | .interrupted _ | .continued _ => .raise .keyboardInterrupt

/-- Some rounds of the loop; `none` where it is still going. -/
def coordinateFrom (dispatch : Dispatch) (workflow : WorkflowDefinition) :
    Nat → Coordinator → Procedure (Option WorkflowRun)
  | 0, _ => pure none
  | rounds + 1, coordinator => do
      match ← coordinate dispatch workflow coordinator with
      | .continued next => coordinateFrom dispatch workflow rounds next
      | .returned run => pure (some run)
      | .interrupted stopped => do
          let run ← handleInterrupt dispatch stopped
          pure (some run)

/-- `ConcurrentRunner.run`, followed for some rounds of its loop. -/
def ConcurrentRunner.run (settings : RunnerSettings) (workflow : WorkflowDefinition)
    (supplied : Objects) (rounds : Nat) : Procedure (Option WorkflowRun) := do
  let pending ← Program.ask Service.pendingCompletions
  .require (pending = 0)
    (.runtimeInvariant "Executor completion queue must be empty before a workflow run")
  let planTaskIds ← .ofExcept (plan workflow)
  let parameters ← .ofExcept (resolveParameters workflow supplied)
  .ofExcept (preflight settings "execution" workflow.tasks)
  let (run, taskRuns) ← beginRun workflow planTaskIds parameters
  let dispatch : Dispatch :=
    ⟨settings, run, buildDependencyGraph workflow, planTaskIds, parameters⟩
  let capacity ← .ofExcept (CapacityManager.new settings)
  coordinateFrom dispatch workflow rounds {
    run := run
    taskRuns := Table.ofList taskRuns
    outputs := []
    active := .empty
    pendingRetries := .empty
    capacity := capacity
    workflowFailed := false
    last := 1 }

end PyWorkflowKit.V1
