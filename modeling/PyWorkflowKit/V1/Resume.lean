import PyWorkflowKit.V1.Runner

/-!
# Resuming a run

`Runner.resume` applies a reconciliation report to a stale run and executes what is left
of its plan.
-/

namespace PyWorkflowKit.V1

open PyWorkflowKit.Core PyWorkflowKit.Domain
open PyWorkflowKit.Planning (DependencyGraph)

inductive ReconciliationDisposition where
  | confirmedSucceeded
  | confirmedFailed
  | confirmedCancelled
  | stillRunning
  | manualRequired
deriving DecidableEq, Repr

def ReconciliationDisposition.value : ReconciliationDisposition → String
  | confirmedSucceeded => "confirmed_succeeded"
  | confirmedFailed => "confirmed_failed"
  | confirmedCancelled => "confirmed_cancelled"
  | stillRunning => "still_running"
  | manualRequired => "manual_required"

/-- The classification of one task run. -/
structure TaskReconciliation where
  taskRunId : String
  disposition : ReconciliationDisposition
  runningAttemptIds : List String
deriving DecidableEq

/-- The reconciliation of one stale run. -/
structure ReconciliationReport where
  runId : String
  taskReconciliations : List TaskReconciliation

namespace ReconciliationReport

variable (report : ReconciliationReport)

/-- Some item of the report has the disposition. -/
def has (disposition : ReconciliationDisposition) : Bool :=
  report.taskReconciliations.any fun item => item.disposition = disposition

/-- `has_still_running`. -/
def hasStillRunning : Bool := report.has .stillRunning

/-- `requires_manual_action`. -/
def requiresManualAction : Bool := report.has .manualRequired

end ReconciliationReport

/-- The checks of `resume` on the persisted run, up to its parameters. -/
def checkResume (workflow : WorkflowDefinition) (runId : WorkflowRunId)
    (report : ReconciliationReport) (run : WorkflowRun) : Except Error Unit :=
  let refuse (reason : ResumeReason) : Except Error Unit := .error (.resume runId.str reason)
  if run.workflowId ≠ workflow.workflowId ∨ run.workflowVersion ≠ workflow.version then
    refuse .identityMismatch
  else if run.status ≠ .running then refuse (.notRunning run.status)
  else if report.runId ≠ runId.str then refuse .foreignReport
  else if report.requiresManualAction then refuse .manualAction
  else if report.hasStillRunning then refuse .stillRunning
  else .ok ()

/-- The greatest sequence number of the persisted events. -/
def lastSequence (store : MemoryState) (runId : WorkflowRunId) : Nat :=
  ((store.listEvents runId).map fun event => event.eventSequence.getD 0).foldr max 0

/-- What applying a report has changed in memory, before it is persisted. -/
structure Reconciling where
  taskRuns : TaskRuns
  attempts : List TaskAttempt
  changed : List TaskRun
  events : List RuntimeEvent
  firstFailed : Option TaskRun
  last : Nat

/-- The task run and the running attempt that an item of the report is about. -/
def reconciledAttempt (runId : WorkflowRunId) (taskRuns : TaskRuns) (store : MemoryState)
    (item : TaskReconciliation) : Except Error (TaskRun × TaskAttempt) :=
  let refuse (reason : ResumeReason) : Except Error (TaskRun × TaskAttempt) :=
    .error (.resume runId.str reason)
  match taskRuns.rows.reverse.find? fun taskRun => taskRun.taskRunId.str = item.taskRunId with
  | none => refuse (.unknownTaskRun item.taskRunId)
  | some taskRun =>
      if taskRun.status ≠ .running then
        refuse (.reconciledStatus item.taskRunId taskRun.status)
      else
        match (store.listTaskAttempts taskRun.taskRunId).filter
            fun attempt => attempt.status = .running with
        | [attempt] =>
            if item.runningAttemptIds ≠ [attempt.attemptId.str] then
              refuse (.attemptMismatch item.taskRunId)
            else .ok (taskRun, attempt)
        | _ => refuse (.runningAttempts item.taskRunId)

/-- The payload of the event of a reconciled task. -/
def reconciliationPayload (disposition : ReconciliationDisposition) : Objects :=
  [("recovery", .str "reconciliation"), ("disposition", .str disposition.value)]

/-- One item of the report. -/
def reconcileItem (runId : WorkflowRunId) (item : TaskReconciliation) (state : Reconciling) :
    Procedure Reconciling := do
  match item.disposition with
  | .stillRunning | .manualRequired =>
      .raise (.resume runId.str (.disposition item.disposition.value))
  | .confirmedSucceeded => do
      let (taskRun, attempt) ←
        query fun store => reconciledAttempt runId state.taskRuns store item
      let at_ ← now
      let succeededAttempt ← .ofExcept (attempt.succeed at_)
      let succeeded ← .ofExcept (taskRun.succeed at_)
      let event ← createTaskEvent runId state.last .taskSucceeded at_ taskRun (some attempt)
        (reconciliationPayload item.disposition)
      pure { state with
        taskRuns := state.taskRuns.set succeeded
        attempts := state.attempts ++ [succeededAttempt]
        changed := state.changed ++ [succeeded]
        events := state.events ++ [event]
        last := state.last + 1 }
  | .confirmedFailed => do
      let (taskRun, attempt) ←
        query fun store => reconciledAttempt runId state.taskRuns store item
      let at_ ← now
      let failedAttempt ← .ofExcept (attempt.fail at_ "ExternalReconciliationFailure"
        "external workload was confirmed failed during recovery" "reconciliation")
      let failed ← .ofExcept (taskRun.fail at_)
      let event ← createTaskEvent runId state.last .taskFailed at_ taskRun (some attempt)
        (reconciliationPayload item.disposition ++
          [("error_type", .str "ExternalReconciliationFailure"),
            ("error_category", .str "reconciliation")])
      pure {
        taskRuns := state.taskRuns.set failed
        attempts := state.attempts ++ [failedAttempt]
        changed := state.changed ++ [failed]
        events := state.events ++ [event]
        firstFailed := state.firstFailed.or (some failed)
        last := state.last + 1 }
  | .confirmedCancelled => do
      let (taskRun, attempt) ←
        query fun store => reconciledAttempt runId state.taskRuns store item
      let at_ ← now
      let cancelledAttempt ← .ofExcept (attempt.cancel at_)
      let cancelled ← .ofExcept (taskRun.cancel at_)
      pure { state with
        taskRuns := state.taskRuns.set cancelled
        attempts := state.attempts ++ [cancelledAttempt]
        changed := state.changed ++ [cancelled] }

/-- The items of the report in order. -/
def reconcileItems (runId : WorkflowRunId) :
    List TaskReconciliation → Reconciling → Procedure Reconciling
  | [], state => pure state
  | item :: rest, state => do
      let next ← reconcileItem runId item state
      reconcileItems runId rest next

/-- `_persist_reconciliation_changes`. -/
def persistReconciliation (run : Option WorkflowRun) (state : Reconciling) : Procedure Unit :=
  commit (state.attempts.map .saveTaskAttempt ++
    (Table.ofList state.changed : Table TaskRun.taskRunId).rows.map .saveTaskRun ++
    (run.toList.map .saveWorkflowRun) ++ state.events.map .addEvent)

/-- The end of a run of which the report confirms a failure. -/
def failReconciled (run : WorkflowRun) (graph : DependencyGraph) (planTaskIds : List TaskId)
    (failed : TaskRun) (state : Reconciling) : Procedure Unit := do
  match failed.finishedAt with
  | none => .raise (.resume run.runId.str .missingFinish)
  | some finishedAt => do
      let skipped ← .ofExcept (skipTaskRuns state.taskRuns finishedAt
        (planFailFast failed.taskId graph state.taskRuns planTaskIds))
      let events ← createSkipEvents run.runId finishedAt
        (fun reason => [("recovery", .str "reconciliation"), ("reason", .str reason.value),
          ("failed_task_id", .str failed.taskId.value)])
        state.last skipped
      let failedRun ← .ofExcept (run.fail finishedAt)
      let workflowFailed ← createWorkflowEvent run.runId (state.last + skipped.length)
        .workflowFailed finishedAt
        [("recovery", .str "reconciliation"), ("failed_task_id", .str failed.taskId.value)]
      persistReconciliation (some failedRun) { state with
        changed := state.changed ++ skipped.map Prod.fst
        events := state.events ++ events ++ [workflowFailed] }

/-- The task runs that a cancellation sweeps, cancelled. -/
def cancelUndispatched (at_ : DateTime) : List TaskRun → Except Error (List TaskRun)
  | [] => .ok []
  | taskRun :: rest =>
      if taskRun.status.undispatched then do
        let cancelled ← taskRun.cancel at_
        let others ← cancelUndispatched at_ rest
        .ok (cancelled :: others)
      else cancelUndispatched at_ rest

/-- The end of a run of which the report confirms a cancellation. -/
def cancelReconciled (run : WorkflowRun) (state : Reconciling) : Procedure Unit := do
  let finishedAt ← now
  let cancelled ← .ofExcept (cancelUndispatched finishedAt state.taskRuns.rows)
  let cancelledRun ← .ofExcept (run.cancel finishedAt)
  let event ← createWorkflowEvent run.runId state.last .workflowCancelled finishedAt
    [("recovery", .str "reconciliation")]
  persistReconciliation (some cancelledRun) { state with
    changed := state.changed ++ cancelled
    events := state.events ++ [event] }

/-- `_apply_resume_reconciliation`: the number of the last event, or `none` where the
report ends the run. -/
def applyReconciliation (run : WorkflowRun) (report : ReconciliationReport)
    (graph : DependencyGraph) (planTaskIds : List TaskId) (taskRuns : TaskRuns) (last : Nat) :
    Procedure (Option Nat) := do
  if report.taskReconciliations = [] then pure (some last)
  else
    .require (¬ (report.has .confirmedFailed = true ∧ report.has .confirmedCancelled = true))
      (.resume run.runId.str .conflictingOutcomes)
    let state ← reconcileItems run.runId report.taskReconciliations
      ⟨taskRuns, [], [], [], none, last⟩
    match state.firstFailed with
    | some failed => do
        failReconciled run graph planTaskIds failed state
        pure none
    | none =>
        if report.has .confirmedCancelled then do
          cancelReconciled run state
          pure none
        else do
          persistReconciliation none state
          pure (some state.last)

/-- The retry that a running task run waits for. -/
def scheduledRetry (store : MemoryState) (taskRun : TaskRun) : Option TaskAttempt :=
  if taskRun.status = .running then
    pendingRetryAttempt (store.listTaskAttempts taskRun.taskRunId)
  else none

/-- The task run is left to execute. -/
def executable (store : MemoryState) (taskRun : TaskRun) : Bool :=
  taskRun.status.undispatched || (scheduledRetry store taskRun).isSome

/-- `_validate_ready_task_dependencies_for_resume`. -/
def validateReadyDependencies (runId : WorkflowRunId) (taskId : TaskId) (taskRuns : TaskRuns) :
    List TaskId → Except Error Unit
  | [] => .ok ()
  | upstreamTaskId :: rest =>
      let refuse (status : Option TaskRunStatus) : Except Error Unit :=
        .error (.resume runId.str (.readyDependency taskId.value upstreamTaskId.value status))
      match taskRuns.find? upstreamTaskId with
      | none => refuse none
      | some upstreamRun =>
          if upstreamRun.status = .succeeded then
            validateReadyDependencies runId taskId taskRuns rest
          else refuse (some upstreamRun.status)

/-- `_dependency_outputs_for_resume`. -/
def dependencyOutputsForResume (runId : WorkflowRunId) (taskId : TaskId) (taskRuns : TaskRuns)
    (outputs : List (TaskId × PyValue)) (store : MemoryState) :
    List TaskId → Except Error (List (TaskId × PyValue))
  | [] => .ok []
  | upstreamTaskId :: rest => do
      let output ←
        match outputs.lookup upstreamTaskId with
        | some output => Except.ok output
        | none =>
            match taskRuns.find? upstreamTaskId with
            | none => .error (.keyError upstreamTaskId.value)
            | some upstreamRun =>
                if upstreamRun.status ≠ .succeeded then
                  .error (.resume runId.str
                    (.dependencyStatus upstreamTaskId.value taskId.value upstreamRun.status))
                else
                  match store.getTaskOutputCheckpoint upstreamRun.taskRunId with
                  | .ok output => .ok output
                  | .error _ =>
                      .error (.resume runId.str (.missingCheckpoint upstreamTaskId.value))
      let others ← dependencyOutputsForResume runId taskId taskRuns outputs store rest
      .ok ((upstreamTaskId, output) :: others)

/-- The checks of `resume` on a task run before it is executed, all but its inputs. -/
def admitTask (runId : WorkflowRunId) (graph : DependencyGraph) (taskRuns : TaskRuns)
    (taskRun : TaskRun) (retry : Option TaskAttempt) : Procedure Unit := do
  let taskId := taskRun.taskId
  match retry with
  | some scheduled =>
      match scheduled.retryEligibleAt with
      | none => .raise (.resume runId.str (.missingEligibility taskId.value))
      | some eligibleAt => do
          let at_ ← now
          .require (¬ at_.instant < eligibleAt.instant)
            (.resume runId.str (.notEligible taskId.value eligibleAt.isoformat))
  | none =>
      match taskRun.status with
      | .pending => do
          let ready ← .ofExcept (isReady taskRun graph taskRuns)
          .require (ready = true) (.resume runId.str (.notReady taskId.value))
      | .ready =>
          .ofExcept (validateReadyDependencies runId taskId taskRuns (graph.dependencies taskId))
      | status => .raise (.resume runId.str (.nonResumable taskId.value status))

/-- What `Runner.resume` knows between two tasks. -/
structure Resumed where
  outputs : List (TaskId × PyValue)
  last : Nat

/-- The payload of the events of a resumed task. -/
def resumePayload : Objects := [("recovery", .str "resume")]

/-- The number of the next attempt. -/
def nextAttemptNumber (attempts : List TaskAttempt) : Nat :=
  (attempts.map TaskAttempt.attemptNumber).foldr max 0 + 1

/-- The loop body of `Runner.resume`. -/
def resumeTask (dispatch : Dispatch) (workflow : WorkflowDefinition) (taskId : TaskId)
    (resumed : Resumed) : Procedure Resumed := do
  let runId := dispatch.run.runId
  let taskRuns ← query fun store => .ok (loadTaskRuns runId store)
  match taskRuns.find? taskId, workflow.task? taskId with
  | some taskRun, some task => do
      if taskRun.status = .succeeded then pure resumed
      else
        let attempts ← query fun store => .ok (store.listTaskAttempts taskRun.taskRunId)
        let retry ← query fun store => .ok (scheduledRetry store taskRun)
        admitTask runId dispatch.graph taskRuns taskRun retry
        let inputs ← query fun store => dependencyOutputsForResume runId taskId taskRuns
          resumed.outputs store (dispatch.graph.dependencies taskId)
        let (ready, last) ←
          if taskRun.status = .pending then do
            let ready ← readyTask runId taskRun resumePayload resumed.last
            pure (ready, resumed.last + 1)
          else pure (taskRun, resumed.last)
        let (started, attempt) ← startTask runId ready retry.isSome (nextAttemptNumber attempts)
          (Nat.le_add_left 1 _) resumePayload last
        let reloaded ← query fun store => .ok (loadTaskRuns runId store)
        let finished ← executeWithRetry dispatch task started reloaded inputs
          task.retryPolicy.maxAttempts attempt (last + 1)
        pure ⟨resumed.outputs ++ [(taskId, finished.result.output)], finished.last⟩
  | _, _ => .raise (.keyError taskId.value)

/-- The loop of `Runner.resume`. -/
def resumeTasks (dispatch : Dispatch) (workflow : WorkflowDefinition) :
    List TaskId → Resumed → Procedure Resumed
  | [], resumed => pure resumed
  | taskId :: rest, resumed => do
      let next ← resumeTask dispatch workflow taskId resumed
      resumeTasks dispatch workflow rest next

/-- The tasks that `resume` is left to execute, in the order of the workflow. -/
def executionTasks (workflow : WorkflowDefinition) (runId : WorkflowRunId)
    (store : MemoryState) : List TaskDefinition :=
  workflow.tasks.filter fun task =>
    ((loadTaskRuns runId store).find? task.taskId).any (executable store)

/-- `set(task_runs_by_task_id) == set(plan.task_ids)`. -/
def SameTasks (taskRuns : TaskRuns) (planTaskIds : List TaskId) : Prop :=
  (∀ taskId ∈ planTaskIds, taskId ∈ taskRuns.rows.map TaskRun.taskId) ∧
    ∀ taskId ∈ taskRuns.rows.map TaskRun.taskId, taskId ∈ planTaskIds

instance (taskRuns : TaskRuns) (planTaskIds : List TaskId) :
    Decidable (SameTasks taskRuns planTaskIds) := by
  unfold SameTasks
  infer_instance

/-- `Runner.resume` after the report is applied. -/
def resumeLoop (settings : RunnerSettings) (workflow : WorkflowDefinition) (run : WorkflowRun)
    (planTaskIds : List TaskId) (parameters : Objects) (last : Nat) : Procedure WorkflowRun := do
  let runId := run.runId
  query fun store => preflight settings "resume" (executionTasks workflow runId store)
  let dispatch : Dispatch :=
    ⟨settings, run, buildDependencyGraph workflow, planTaskIds, parameters⟩
  let resumed ← resumeTasks dispatch workflow planTaskIds ⟨[], last⟩
  let final ← query fun store => .ok (loadTaskRuns runId store)
  .require (allSucceeded final = true) (.resume runId.str .exhausted)
  succeedRun run resumePayload resumed.last

/-- `Runner.resume`. -/
def Runner.resume (settings : RunnerSettings) (workflow : WorkflowDefinition)
    (runId : WorkflowRunId) (report : ReconciliationReport) : Procedure WorkflowRun := do
  let planTaskIds ← .ofExcept (plan workflow)
  let run ← query fun store => store.getWorkflowRun runId
  .ofExcept (checkResume workflow runId report run)
  let parameters ← .ofExcept (resolveParameters workflow run.parameters)
  let taskRuns ← query fun store => .ok (loadTaskRuns runId store)
  .require (SameTasks taskRuns planTaskIds)
    (.resume runId.str .taskRunSet)
  let last ← query fun store => .ok (lastSequence store runId)
  match ← applyReconciliation run report (buildDependencyGraph workflow) planTaskIds taskRuns
    last with
  | none => query fun store => store.getWorkflowRun runId
  | some last => resumeLoop settings workflow run planTaskIds parameters last

end PyWorkflowKit.V1
