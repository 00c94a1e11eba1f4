import PyWorkflowKit.V1.ConcurrentBookkeeping

/-!
# Balanced telemetry

The events of a run of either runner, as a projector sees them: it keeps the start of a task
run exactly where the run has cancelled a task run that was RUNNING, or has left one RUNNING.
-/

namespace PyWorkflowKit.V1

open PyWorkflowKit.Core PyWorkflowKit.Domain

/-- A run of one of the runners in surroundings that leave the new run alone, with its steps. -/
inductive RunnerRuns (runId : WorkflowRunId) (start : World) (steps : List (World × World))
    (after : World) : Prop
  | sequential (settings : RunnerSettings) (workflow : WorkflowDefinition) (supplied : Objects)
      (result : Except Error WorkflowRun) :
      (Runner.run settings workflow supplied).RunsThrough (apart runId) start steps result after →
        RunnerRuns runId start steps after
  | concurrent (settings : RunnerSettings) (workflow : WorkflowDefinition) (supplied : Objects)
      (rounds : Nat) (result : Except Error (Option WorkflowRun)) :
      (ConcurrentRunner.run settings workflow supplied rounds).RunsThrough (apart runId) start
        steps result after →
        RunnerRuns runId start steps after

theorem RunnerRuns.standing {runId : WorkflowRunId} {start after : World}
    {steps : List (World × World)} (hruns : RunnerRuns runId start steps after)
    (hunbegun : Unbegun runId start.store) : Standing runId steps after := by
  cases hruns with
  | sequential settings workflow supplied result hthrough =>
      exact standing_of_runs (keeps_run settings workflow supplied hunbegun) hthrough hunbegun
  | concurrent settings workflow supplied rounds result hthrough =>
      exact standing_of_runs (keeps_concurrentRun settings workflow supplied rounds hunbegun)
        hthrough hunbegun

section Fixtures

theorem localRange_openingTime :
    (0 : Int) ≤ 63902606400000000 ∧ (63902606400000000 : Int) ≤ maxMicros := by
  decide

def openingTime : DateTime :=
  ⟨63902606400000000, 0, localRange_openingTime, DateTime.offsetRange_zero⟩

theorem not_mem_extraction : (.lit "extract" : TaskId) ∉ ([] : List TaskId) :=
  List.not_mem_nil

/-- A workflow of one task. -/
def extraction : WorkflowDefinition where
  workflowId := .lit "daily"
  version := .lit "1"
  tasks := [{
    taskId := .lit "extract"
    handlerRef := some (.lit "handlers.extract")
    dependsOn := []
    retryPolicy := .default
    executorKey := .lit "thread_pool"
    timeoutSeconds := none
    timeoutMode := .none
    positiveTimeout := TimeoutMode.positive_none
    timed := TimeoutMode.timed_none
    distinct := List.nodup_nil
    irreflexive := not_mem_extraction }]
  parameters := []
  nonempty := by simp
  distinct := List.nodup_singleton _
  distinctParameters := List.nodup_nil

/-- An executor that can cancel what it executes. -/
def cancellable : RunnerSettings where
  executorKey := .lit "thread_pool"
  timeout := .none
  cancellation := .cooperative
  hasTerminate := false
  hasCancel := true
  maxConcurrency := 1
  handlerRefs := [.lit "handlers.extract"]
  globalLimit := none
  executorLimit := none
  floatText := fun _ => "0.0"
  positive := Nat.one_pos

def dailyRunId : WorkflowRunId := ⟨.lit "run-1"⟩

def extractAttemptId : TaskAttemptId := ⟨.lit "attempt-1"⟩

def extractHandle : ExecutionHandle :=
  ⟨.lit "handle-1", extractAttemptId, .lit "thread_pool"⟩

/-- The identities of the events of a run. -/
def eventIds : List RuntimeEventId :=
  [.lit "event-1", .lit "event-2", .lit "event-3",
    .lit "event-4", .lit "event-5"]

/-- Services whose executor succeeds, and whose concurrent executor cancels the attempt that a
cancellation finds active. -/
def cancelling (world : World) (service : Service) : World × Service.Answer service :=
  match service with
  | .now => (world, openingTime)
  | .sleep _ => (world, ())
  | .newWorkflowRunId => (world, dailyRunId)
  | .newTaskRunId _ _ => (world, ⟨.lit "task-run-1"⟩)
  | .newTaskAttemptId _ _ => (world, extractAttemptId)
  | .newRuntimeEventId _ eventSequence =>
      (world, eventIds.getD (eventSequence - 1) (.lit "event"))
  | .execute _ _ => (world, .returned ⟨.none, [], []⟩)
  | .submit _ _ =>
      ({ world with pool := { world.pool with submitted := some extractHandle } },
        .ok extractHandle)
  | .terminate _ => (world, .ok false)
  | .cancel _ => (world, .ok true)
  | .fetch _ =>
      (world, .completed ⟨extractHandle, .error (.taskExecution "Cancelled" "" "cancelled")⟩)
  | .pendingCompletions => (world, 0)
  | .monotonic => (world, .finite 0)
  | .isRequested => (world, world.pool.submitted.isSome)
  | .request _ => (world, ())
  | .requestReason => (world, some "stop")

theorem cancelling_allowed (world : World) (service : Service) :
    (apart dailyRunId).drift (some service) world (cancelling world service).1 ∧
      (apart dailyRunId).allows (cancelling world service).1 service
        (cancelling world service).2 := by
  cases service <;> exact ⟨SameRun.refl _ _, by trivial⟩

theorem unbegun_empty (runId : WorkflowRunId) : Unbegun runId MemoryState.empty :=
  ⟨rfl, fun _ => rfl, rfl⟩

/-- A concurrent run that is cancelled while its task is RUNNING. -/
def cancelledRun : Procedure (Option WorkflowRun) :=
  ConcurrentRunner.run cancellable extraction [] 3

/-- A sequential run whose task succeeds. -/
def succeededRun : Procedure WorkflowRun := Runner.run cancellable extraction []

theorem runs_cancelledRun :
    RunnerRuns dailyRunId (World.fresh .empty)
      (cancelledRun.performed cancelling (World.fresh .empty))
      (cancelledRun.perform cancelling (World.fresh .empty)).2 :=
  .concurrent cancellable extraction [] 3 _
    (Program.runsThrough_perform (fun _ => SameRun.refl _ _) cancelling_allowed _ _)

theorem runs_succeededRun :
    RunnerRuns dailyRunId (World.fresh .empty)
      (succeededRun.performed cancelling (World.fresh .empty))
      (succeededRun.perform cancelling (World.fresh .empty)).2 :=
  .sequential cancellable extraction [] _
    (Program.runsThrough_perform (fun _ => SameRun.refl _ _) cancelling_allowed _ _)

/-- A projector that has seen nothing. -/
theorem unaware_empty (runId : WorkflowRunId) (taskRunIds : List TaskRunId) :
    RuntimeTelemetryProjector.empty.Unaware runId taskRunIds :=
  ⟨rfl, fun _ _ => rfl⟩

theorem taskStatus_of_rows {runId : WorkflowRunId} {store : MemoryState} {status : TaskRunStatus}
    (hrows : (store.taskRuns.rows.all fun taskRun => taskRun.status ≠ status) = true)
    (taskRunId : TaskRunId) : store.taskStatus runId taskRunId ≠ some status := by
  intro hstatus
  obtain ⟨taskRun, hfound, hsame⟩ := Option.map_eq_some_iff.mp hstatus
  have hmem := Table.mem_of_find? (Option.filter_eq_some_iff.mp hfound).1
  have hne := List.all_eq_true.mp hrows taskRun hmem
  simp [hsame] at hne

end Fixtures

end PyWorkflowKit.V1
