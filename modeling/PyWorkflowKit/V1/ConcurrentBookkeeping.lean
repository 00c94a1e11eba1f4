import PyWorkflowKit.V1.Bookkeeping
import PyWorkflowKit.V1.ConcurrentRunner

/-!
# The concurrent runner keeps to the ledger

Every change of state that the coordinator of `ConcurrentRunner.run` makes is a move of what
the store holds of the run.
-/

namespace PyWorkflowKit.V1

open PyWorkflowKit.Core PyWorkflowKit.Domain
open PyWorkflowKit.Planning (DependencyGraph)

/-- What the coordinator knows is what the store holds. -/
abbrev Coordinator.Known (runId : WorkflowRunId) (coordinator : Coordinator) (world : World) :
    Prop :=
  Knows runId coordinator.run coordinator.taskRuns world

variable {runId : WorkflowRunId} {coordinator : Coordinator} {dispatch : Dispatch}
  {world : World}

section Dispatches

/-- The tasks found ready are known task runs of distinct tasks of the graph. -/
theorem findReadyFrom_eq_ok {graph : DependencyGraph} {taskRuns : TaskRuns}
    {taskIds : List TaskId} {ready : List TaskRun}
    (hready : findReadyFrom graph taskRuns taskIds = .ok ready) :
    (ready.map TaskRun.taskId).Sublist taskIds ∧ ∀ taskRun ∈ ready, taskRun ∈ taskRuns.rows := by
  induction taskIds generalizing ready with
  | nil =>
      cases hready
      exact ⟨.slnil, by simp⟩
  | cons taskId rest ih =>
      rw [findReadyFrom] at hready
      cases hfound : taskRuns.find? taskId with
      | none =>
          rw [hfound] at hready
          cases hready
      | some taskRun =>
          rw [hfound] at hready
          obtain ⟨isReady, _, hready⟩ := bind_eq_ok hready
          obtain ⟨others, hothers, hready⟩ := bind_eq_ok hready
          obtain ⟨hmem, hkey⟩ := (taskRuns.find?_eq_some_iff _ _).mp hfound
          obtain ⟨hsublist, hknown⟩ := ih hothers
          cases isReady with
          | false =>
              cases hready
              exact ⟨hsublist.cons _, hknown⟩
          | true =>
              cases hready
              constructor
              · rw [if_pos rfl, List.map_cons, hkey]
                exact hsublist.cons_cons _
              · intro other hother
                rcases List.mem_cons.mp hother with rfl | hlater
                · exact hmem
                · exact hknown other hlater

theorem keeps_markReadyTasks (ready : List TaskRun)
    (hmem : ∀ taskRun ∈ ready, taskRun ∈ coordinator.taskRuns.rows)
    (hnodup : (ready.map TaskRun.taskId).Nodup) (hknown : coordinator.Known runId world) :
    Keeps runId (fun next after => next.Known runId after) (markReadyTasks ready coordinator)
      world := by
  induction ready generalizing coordinator world with
  | nil => exact Keeps.pure hknown
  | cons taskRun rest ih =>
      obtain ⟨habsent, hrest⟩ := List.nodup_cons.mp hnodup
      apply (keeps_readyTask hknown (hmem taskRun List.mem_cons_self) (by simp [Plain])
        coordinator.last).bind
      rintro moved world ⟨hsame, hknown⟩
      refine ih (fun other hother => ?_) hrest hknown
      change other ∈ (coordinator.taskRuns.set moved).rows
      rw [Table.mem_set, hsame.taskId]
      exact Or.inr ⟨hmem other (List.mem_cons_of_mem _ hother),
        fun heq => habsent (heq ▸ List.mem_map_of_mem hother)⟩

theorem keeps_markNewReadyTasks (hgraph : dispatch.graph.taskKeys.Nodup)
    (hknown : coordinator.Known runId world) :
    Keeps runId (fun next after => next.Known runId after)
      (markNewReadyTasks dispatch coordinator) world := by
  apply keeps_ofExcept_bind
  intro ready hready
  obtain ⟨hsublist, hmem⟩ := findReadyFrom_eq_ok hready
  exact keeps_markReadyTasks ready hmem (hgraph.sublist hsublist) hknown

/-- A submission changes nothing that is stored. -/
theorem keeps_submitAttempt (task : TaskDefinition) (taskRun : TaskRun) (attempt : TaskAttempt)
    (lease : CapacityLease) (hknown : coordinator.Known runId world) :
    Keeps runId (fun next after => next.Known runId after)
      (submitAttempt dispatch task taskRun attempt lease coordinator) world := by
  apply keeps_ofExcept_bind
  intro inputs _
  apply keeps_ask_bind hknown
  intro submitted world hknown
  apply keeps_ofExcept_bind
  intro handle _
  apply keeps_require_bind
  intro _
  cases task.timeoutSeconds with
  | none => exact Keeps.pure hknown
  | some seconds =>
      apply keeps_ask_bind hknown
      intro at_ world hknown
      exact Keeps.pure hknown

theorem keeps_dispatchReadyTask (workflow : WorkflowDefinition) (taskId : TaskId)
    (hknown : coordinator.Known runId world) :
    Keeps runId (fun next after => next.Known runId after)
      (dispatchReadyTask dispatch workflow taskId coordinator) world := by
  rw [dispatchReadyTask]
  cases hfound : coordinator.taskRuns.find? taskId with
  | none => exact Keeps.raise _
  | some taskRun =>
      cases workflow.task? taskId with
      | none => exact Keeps.raise _
      | some task =>
          have hmem := Table.mem_of_find? hfound
          apply keeps_ask_bind hknown
          intro attemptId world hknown
          apply keeps_ofExcept_bind
          intro acquired _
          cases acquired with
          | none => exact Keeps.pure hknown
          | some acquired =>
              obtain ⟨lease, capacity⟩ := acquired
              apply keeps_ask_bind hknown
              intro startedAt world hknown
              apply keeps_ofExcept_bind
              intro started hstarted
              apply (keeps_createTaskEvent .taskStarted hknown coordinator.last
                startedAt taskRun _ (by simp [Plain])).bind
              rintro event world ⟨htells, hknown⟩
              apply (keeps_commit_started hknown hmem hstarted htells _).bind
              intro _ world hknown
              exact keeps_submitAttempt task started _ lease hknown

theorem keeps_dispatchReadyFrom (workflow : WorkflowDefinition) (taskIds : List TaskId)
    (hknown : coordinator.Known runId world) :
    Keeps runId (fun next after => next.Known runId after)
      (dispatchReadyFrom dispatch workflow taskIds coordinator) world := by
  induction taskIds generalizing coordinator world with
  | nil => exact Keeps.pure hknown
  | cons taskId rest ih =>
      apply keeps_ask_bind hknown
      intro requested world hknown
      cases requested with
      | true => exact Keeps.pure hknown
      | false =>
          apply (keeps_dispatchReadyTask workflow taskId hknown).bind
          intro next world hknown
          exact ih hknown

theorem keeps_dispatchRetry (workflow : WorkflowDefinition) (activeTaskIds : List TaskId)
    (taskId : TaskId) (hknown : coordinator.Known runId world) :
    Keeps runId (fun next after => next.Known runId after)
      (dispatchRetry dispatch workflow activeTaskIds taskId coordinator) world := by
  rw [dispatchRetry]
  split
  · exact Keeps.pure hknown
  · cases coordinator.taskRuns.find? taskId with
    | none => exact Keeps.raise _
    | some taskRun =>
        cases coordinator.pendingRetries.find? taskId with
        | none => exact Keeps.raise _
        | some pending =>
            cases workflow.task? taskId with
            | none => exact Keeps.raise _
            | some task =>
                apply keeps_ask_bind hknown
                intro at_ world hknown
                split
                · exact Keeps.pure hknown
                · apply keeps_ask_bind hknown
                  intro attemptId world hknown
                  apply keeps_ofExcept_bind
                  intro acquired _
                  cases acquired with
                  | none => exact Keeps.pure hknown
                  | some acquired =>
                      obtain ⟨lease, capacity⟩ := acquired
                      apply keeps_ask_bind hknown
                      intro startedAt world hknown
                      apply (keeps_commit_attempt hknown _).bind
                      intro _ world hknown
                      exact keeps_submitAttempt task taskRun _ lease hknown

theorem keeps_dispatchRetriesFrom (workflow : WorkflowDefinition) (activeTaskIds : List TaskId)
    (taskIds : List TaskId) (hknown : coordinator.Known runId world) :
    Keeps runId (fun next after => next.Known runId after)
      (dispatchRetriesFrom dispatch workflow activeTaskIds taskIds coordinator) world := by
  induction taskIds generalizing coordinator world with
  | nil => exact Keeps.pure hknown
  | cons taskId rest ih =>
      apply keeps_ask_bind hknown
      intro requested world hknown
      cases requested with
      | true => exact Keeps.pure hknown
      | false =>
          apply (keeps_dispatchRetry workflow activeTaskIds taskId hknown).bind
          intro next world hknown
          exact ih hknown

theorem keeps_dispatchRound (hgraph : dispatch.graph.taskKeys.Nodup)
    (workflow : WorkflowDefinition) (hknown : coordinator.Known runId world) :
    Keeps runId (fun next after => next.Known runId after)
      (dispatchRound dispatch workflow coordinator) world := by
  rw [dispatchRound]
  cases coordinator.workflowFailed with
  | true =>
      apply (keeps_dispatchRetriesFrom workflow _ _ hknown).bind
      intro retried world hknown
      exact Keeps.pure hknown
  | false =>
      apply (keeps_markNewReadyTasks hgraph hknown).bind
      intro marked world hknown
      apply (keeps_dispatchRetriesFrom workflow _ _ hknown).bind
      intro retried world hknown
      exact keeps_dispatchReadyFrom workflow _ hknown

end Dispatches

section Completions

variable {taskRun : TaskRun}

theorem Coordinator.mem_of_taskRun {taskId : TaskId}
    (hfound : coordinator.taskRun taskId = .ok taskRun) : taskRun ∈ coordinator.taskRuns.rows := by
  unfold Coordinator.taskRun at hfound
  split at hfound
  · next known hknown =>
    cases hfound
    exact Table.mem_of_find? hknown
  · cases hfound

theorem releaseCompleted_eq_ok {owner : String} {completion : AttemptCompletion}
    {execution : ActiveExecution} {released : Coordinator}
    (hreleased : releaseCompleted owner completion coordinator = .ok (execution, released)) :
    released.run = coordinator.run ∧ released.taskRuns = coordinator.taskRuns := by
  unfold releaseCompleted at hreleased
  split at hreleased
  · cases hreleased
  · next known _ =>
    cases hcapacity : coordinator.capacity.release known.lease with
    | error error =>
        rw [hcapacity] at hreleased
        cases hreleased
    | ok capacity =>
        rw [hcapacity] at hreleased
        cases hreleased
        exact ⟨rfl, rfl⟩

theorem known_released {owner : String} {completion : AttemptCompletion}
    {execution : ActiveExecution} {released : Coordinator}
    (hknown : coordinator.Known runId world)
    (hreleased : releaseCompleted owner completion coordinator = .ok (execution, released)) :
    released.Known runId world := by
  obtain ⟨hrun, htaskRuns⟩ := releaseCompleted_eq_ok hreleased
  rw [Coordinator.Known, hrun, htaskRuns]
  exact hknown

/-- The failure of a task while the workflow goes on or has failed already. -/
theorem keeps_persistSiblingFailure {run : WorkflowRun} {taskRuns : TaskRuns}
    {attempt : TaskAttempt} {event : RuntimeEvent} (hknows : Knows runId run taskRuns world)
    (hmem : taskRun ∈ taskRuns.rows) (htells : TellsTask runId .taskFailed taskRun event) :
    Keeps runId (fun failed after => Knows runId run (taskRuns.set failed) after)
      (persistSiblingFailure taskRun attempt event) world := by
  rw [persistSiblingFailure]
  cases attempt.finishedAt with
  | none => exact Keeps.raise _
  | some finishedAt =>
      apply keeps_ofExcept_bind
      intro failed hfailed
      obtain ⟨hsame, hrunning, hstatus⟩ := TaskRun.finish_eq_ok hfailed
      have hcommit := keeps_commit_task
        [.saveTaskAttempt attempt, .saveTaskRun failed, .addEvent event] hknows hmem
        hsame rfl rfl (by simpa [WriteCall.event?] using htells.concerns rfl)
        (by
          rw [hrunning, hstatus]
          simp only [List.filterMap_cons, WriteCall.event?, List.filterMap_nil,
            htells.eventType]
          exact .failed)
      apply hcommit.bind
      intro _ world hknows
      exact Keeps.pure hknows

theorem keeps_scheduleRetry (hknown : coordinator.Known runId world) (failed : TaskAttempt)
    (failedAt : DateTime) (decision : RetryDecision) (errorType errorCategory : String)
    {timeout : Objects} (hplain : Plain timeout) :
    Keeps runId (fun next after => next.Known runId after)
      (scheduleRetry dispatch taskRun failed failedAt decision errorType errorCategory timeout
        coordinator) world := by
  apply keeps_ofExcept_bind
  intro eligibleAt _
  apply keeps_ofExcept_bind
  intro scheduled _
  apply (keeps_createRetryEvent hknown dispatch.settings coordinator.last failedAt eligibleAt
    failed decision errorType errorCategory hplain).bind
  rintro event world ⟨htells, hknown⟩
  apply (keeps_commit_retry hknown htells).bind
  intro _ world hknown
  apply keeps_ask_bind hknown
  intro at_ world hknown
  exact Keeps.pure hknown

theorem keeps_failWorkflow (hplan : dispatch.planTaskIds.Nodup)
    (hmem : taskRun ∈ coordinator.taskRuns.rows) (hknown : coordinator.Known runId world)
    (failed : TaskAttempt) (errorType errorCategory : String) :
    Keeps runId (fun next after => next.Known runId after)
      (failWorkflow dispatch taskRun failed errorType errorCategory coordinator) world := by
  apply (keeps_persistTerminalFailure hknown hmem hplan failed dispatch.graph errorType
    errorCategory coordinator.last).bind
  intro failure world hknows
  exact Keeps.pure hknows

theorem keeps_failAttempt (hplan : dispatch.planTaskIds.Nodup)
    (hmem : taskRun ∈ coordinator.taskRuns.rows) (hknown : coordinator.Known runId world)
    (task : TaskDefinition) (attempt : TaskAttempt) (error : ExecutorError) {timeout : Objects}
    (hplain : Plain timeout) :
    Keeps runId (fun next after => next.1.Known runId after)
      (failAttempt dispatch task taskRun attempt error timeout coordinator) world := by
  apply keeps_ask_bind hknown
  intro failedAt world hknown
  apply keeps_ofExcept_bind
  intro failed _
  apply keeps_ofExcept_bind
  intro decision _
  cases hworkflow : coordinator.workflowFailed with
  | false =>
      cases decision with
      | some decision =>
          apply (keeps_scheduleRetry hknown failed failedAt decision _ _ hplain).bind
          intro next world hknown
          exact Keeps.pure hknown
      | none =>
          apply (keeps_failWorkflow hplan hmem hknown failed _ _).bind
          intro next world hknown
          exact Keeps.pure hknown
  | true =>
      have hpayload : Plain ([("error_type", .str (normalizeExecutorError error).1),
          ("error_category", .str (normalizeExecutorError error).2.2)] ++ timeout) := by
        intro member hmember
        rcases List.mem_append.mp hmember with herror | htimeout
        · simp only [List.mem_cons, List.not_mem_nil, or_false] at herror
          rcases herror with rfl | rfl <;> trivial
        · exact hplain member htimeout
      have hrest : Keeps runId (fun next after => next.1.Known runId after) (do
          let event ← createTaskEvent coordinator.run.runId coordinator.last .taskFailed failedAt
            taskRun (some attempt) ([("error_type", .str (normalizeExecutorError error).1),
              ("error_category", .str (normalizeExecutorError error).2.2)] ++ timeout)
          let failedRun ← persistSiblingFailure taskRun failed event
          pure ({ coordinator.setTaskRun failedRun with last := coordinator.last + 1 }, failed))
          world := by
        apply (keeps_createTaskEvent .taskFailed hknown coordinator.last failedAt
          taskRun (some attempt) hpayload).bind
        rintro event world ⟨htells, hknown⟩
        apply (keeps_persistSiblingFailure hknown hmem htells).bind
        intro failedRun world hknown
        exact Keeps.pure hknown
      cases decision with
      | some decision => exact hrest
      | none => exact hrest

theorem keeps_expireTimeout (hplan : dispatch.planTaskIds.Nodup) (workflow : WorkflowDefinition)
    (at_ : PyFloat) (handleId : Text) (hknown : coordinator.Known runId world) :
    Keeps runId (fun next after => next.Known runId after)
      (expireTimeout dispatch workflow at_ handleId coordinator) world := by
  rw [expireTimeout]
  cases coordinator.active.find? handleId with
  | none => exact Keeps.raise _
  | some execution =>
      simp only
      split
      · exact Keeps.pure hknown
      · cases workflow.task? execution.taskId with
        | none => exact Keeps.raise _
        | some task =>
            cases hseconds : task.timeoutSeconds with
            | none =>
                simp only [hseconds]
                exact Keeps.raise _
            | some seconds =>
                simp only [hseconds]
                have hplain : Plain [("timeout_mode", .str task.timeoutMode.value),
                    ("timeout_seconds", numberValue dispatch.settings seconds.value)] := by
                  intro member hmember
                  simp only [List.mem_cons, List.not_mem_nil, or_false] at hmember
                  rcases hmember with rfl | rfl
                  · trivial
                  · cases seconds.value <;> trivial
                split
                · apply keeps_ofExcept_bind
                  intro _ _
                  apply keeps_ask_bind hknown
                  intro terminated world hknown
                  apply keeps_ofExcept_bind
                  intro _ _
                  apply keeps_ofExcept_bind
                  intro taskRun hfound
                  apply (keeps_failAttempt hplan (Coordinator.mem_of_taskRun hfound) hknown task
                    execution.attempt _ hplain).bind
                  intro next world hknown
                  exact Keeps.pure hknown
                · apply keeps_ofExcept_bind
                  intro taskRun hfound
                  apply (keeps_failAttempt hplan (Coordinator.mem_of_taskRun hfound) hknown task
                    execution.attempt _ hplain).bind
                  intro next world hknown
                  exact Keeps.pure hknown

theorem keeps_expireTimeoutsFrom (hplan : dispatch.planTaskIds.Nodup)
    (workflow : WorkflowDefinition) (at_ : PyFloat) (handleIds : List Text)
    (hknown : coordinator.Known runId world) :
    Keeps runId (fun next after => next.Known runId after)
      (expireTimeoutsFrom dispatch workflow at_ handleIds coordinator) world := by
  induction handleIds generalizing coordinator world with
  | nil => exact Keeps.pure hknown
  | cons handleId rest ih =>
      apply (keeps_expireTimeout hplan workflow at_ handleId hknown).bind
      intro next world hknown
      exact ih hknown

theorem keeps_applySuccess (hmem : taskRun ∈ coordinator.taskRuns.rows)
    (hknown : coordinator.Known runId world) (execution : ActiveExecution) (result : TaskResult) :
    Keeps runId (fun next after => next.Known runId after)
      (applySuccess taskRun execution result coordinator) world := by
  apply keeps_ask_bind hknown
  intro finishedAt world hknown
  apply (keeps_createTaskEvent .taskSucceeded hknown coordinator.last finishedAt
    taskRun (some execution.attempt) (by simp [Plain])).bind
  rintro event world ⟨htells, hknown⟩
  apply (keeps_persistExecutionSuccess hknown hmem htells).bind
  rintro succeeded world ⟨-, hknown⟩
  exact Keeps.pure hknown

theorem keeps_applyCompletion (hplan : dispatch.planTaskIds.Nodup)
    (workflow : WorkflowDefinition) (execution : ActiveExecution)
    (completion : AttemptCompletion) (hknown : coordinator.Known runId world) :
    Keeps runId (fun next after => next.Known runId after)
      (applyCompletion dispatch workflow execution completion coordinator) world := by
  apply keeps_require_bind
  intro _
  apply keeps_ofExcept_bind
  intro taskRun hfound
  have hmem := Coordinator.mem_of_taskRun hfound
  cases completion.outcome with
  | ok result =>
      apply (keeps_applySuccess hmem hknown execution result).bind
      intro next world hknown
      exact Keeps.pure hknown
  | error error =>
      cases workflow.task? execution.taskId with
      | none => exact Keeps.raise _
      | some task =>
          apply (keeps_failAttempt hplan hmem hknown task execution.attempt error
            (by simp [Plain])).bind
          intro next world hknown
          exact Keeps.pure hknown

theorem keeps_applyCancellationCompletion (execution : ActiveExecution)
    (completion : AttemptCompletion) (hknown : coordinator.Known runId world) :
    Keeps runId (fun next after => next.Known runId after)
      (applyCancellationCompletion execution completion coordinator) world := by
  apply keeps_require_bind
  intro _
  apply keeps_ofExcept_bind
  intro taskRun hfound
  have hmem := Coordinator.mem_of_taskRun hfound
  cases completion.outcome with
  | ok result => exact keeps_applySuccess hmem hknown execution result
  | error error =>
      apply keeps_ask_bind hknown
      intro failedAt world hknown
      apply keeps_ofExcept_bind
      intro failed _
      apply (keeps_createTaskEvent .taskFailed hknown coordinator.last failedAt
        taskRun (some execution.attempt) (by simp [Plain, TextKeys])).bind
      rintro event world ⟨htells, hknown⟩
      apply (keeps_persistSiblingFailure hknown hmem htells).bind
      intro failedRun world hknown
      exact Keeps.pure hknown

/-- A cancelled execution cancels its task run, and posts nothing. -/
theorem keeps_applyExecutorCancellation (execution : ActiveExecution)
    (completion : AttemptCompletion) (hknown : coordinator.Known runId world) :
    Keeps runId (fun next after => next.Known runId after)
      (applyExecutorCancellation execution completion coordinator) world := by
  apply keeps_require_bind
  intro _
  apply keeps_ofExcept_bind
  intro taskRun hfound
  have hmem := Coordinator.mem_of_taskRun hfound
  apply keeps_ask_bind hknown
  intro cancelledAt world hknown
  apply keeps_ofExcept_bind
  intro cancelledAttempt _
  apply keeps_ofExcept_bind
  intro cancelledRun hcancelled
  have hcommit := keeps_commit_task
    [.saveTaskAttempt cancelledAttempt, .saveTaskRun cancelledRun] hknown hmem
    (TaskRun.cancel_eq_ok hcancelled).1 rfl rfl (by simp [WriteCall.event?])
    (TaskRun.cancel_move hcancelled)
  apply hcommit.bind
  intro _ world hknown
  exact Keeps.pure hknown

end Completions

section Cancellation

/-- The swept task runs are known ones, cancelled. -/
structure Swept (taskRuns cancelled : List TaskRun) : Prop where
  tasks : (cancelled.map TaskRun.taskId).Sublist (taskRuns.map TaskRun.taskId)
  moved : ∀ moved ∈ cancelled, ∃ known ∈ taskRuns, known.Same moved ∧
    TaskMove (some known.status) [] (some moved.status)

theorem keeps_sweepTaskRuns (taskRuns : List TaskRun) (hknown : coordinator.Known runId world) :
    Keeps runId (fun cancelled after => Swept taskRuns cancelled ∧ coordinator.Known runId after)
      (sweepTaskRuns coordinator taskRuns) world := by
  induction taskRuns generalizing world with
  | nil => exact Keeps.pure ⟨⟨.slnil, by simp⟩, hknown⟩
  | cons taskRun rest ih =>
      have hlater : ∀ cancelled : List TaskRun, Swept rest cancelled →
          ∀ moved ∈ cancelled, ∃ known ∈ taskRun :: rest, known.Same moved ∧
            TaskMove (some known.status) [] (some moved.status) := by
        intro cancelled hswept moved hmoved
        obtain ⟨known, hmem, hthis⟩ := hswept.moved moved hmoved
        exact ⟨known, List.mem_cons_of_mem _ hmem, hthis⟩
      rw [sweepTaskRuns]
      split
      · apply keeps_ask_bind hknown
        intro at_ world hknown
        apply keeps_ofExcept_bind
        intro cancelled hcancelled
        obtain ⟨hsame, -⟩ := TaskRun.cancel_eq_ok hcancelled
        apply (ih hknown).bind
        rintro others world ⟨hswept, hknown⟩
        apply Keeps.pure
        refine ⟨⟨?_, fun moved hmoved => ?_⟩, hknown⟩
        · rw [List.map_cons, List.map_cons, hsame.taskId]
          exact hswept.tasks.cons_cons _
        · rcases List.mem_cons.mp hmoved with rfl | hothers
          · exact ⟨taskRun, List.mem_cons_self, hsame, TaskRun.cancel_move hcancelled⟩
          · exact hlater others hswept moved hothers
      · apply (ih hknown).mono
        rintro cancelled after ⟨hswept, hknown⟩
        exact ⟨⟨hswept.tasks.cons _, hlater cancelled hswept⟩, hknown⟩

/-- The swept task runs are cancelled in one unit of work, which posts nothing. -/
theorem keeps_commit_swept {run : WorkflowRun} {taskRuns : TaskRuns} {cancelled : List TaskRun}
    (hknows : Knows runId run taskRuns world) (hswept : Swept taskRuns.rows cancelled) :
    Keeps runId (fun _ after => Knows runId run (cancelled.foldl Table.set taskRuns) after)
      (commit (cancelled.map .saveTaskRun)) world := by
  apply keeps_commit
  intro drifted after hdrift hwritten
  have hmirrors := hknows.drift hdrift
  have hsettles := settles_of_unitOfWork hwritten
  have hruns : (cancelled.map WriteCall.saveTaskRun).filterMap WriteCall.workflowRun? = [] := by
    simp [WriteCall.workflowRun?, List.filterMap_map, Function.comp_def]
  have hsaved : (cancelled.map WriteCall.saveTaskRun).filterMap WriteCall.taskRun? =
      cancelled := by
    simp [WriteCall.taskRun?, List.filterMap_map, Function.comp_def]
  have hevents : (cancelled.map WriteCall.saveTaskRun).filterMap WriteCall.event? = [] := by
    simp [WriteCall.event?, List.filterMap_map, Function.comp_def]
  have hnodup : (cancelled.map TaskRun.taskId).Nodup := taskRuns.nodup.sublist hswept.tasks
  have hreplaces : ∀ moved ∈ cancelled, Replaces taskRuns moved := by
    intro moved hmoved
    obtain ⟨known, hmem, hsame, -⟩ := hswept.moved moved hmoved
    exact ⟨known, hmem, hsame⟩
  have hkept := hmirrors.save hsettles (hmirrors.run_of_nil hsettles hruns)
  rw [hsaved] at hkept
  refine ⟨⟨_, hsettles.posts ?_ ?_ ?_ ?_ ?_ ?_⟩, hkept hreplaces hnodup⟩
  · simp [hevents]
  · apply hsettles.runMove_of_nil hruns
    simp [hevents]
  · rw [hsaved]
    exact hmirrors.nodup_taskRunIds hreplaces hnodup
  · rw [hsaved]
    intro moved hmoved
    obtain ⟨known, hmem, hsame, -⟩ := hswept.moved moved hmoved
    rw [hsame.runId, hmirrors.runId_of_mem hmem]
  · rw [hsaved, hevents]
    intro moved hmoved
    obtain ⟨known, hmem, hsame, hmove⟩ := hswept.moved moved hmoved
    rw [MemoryState.taskStatus, hsame.taskRunId, hmirrors.rows known hmem]
    exact hmove
  · simp [hevents]

theorem keeps_stopExecutions {stop : ExecutionHandle → Procedure (Except Error Bool)}
    (hstop : ∀ (handle : ExecutionHandle) (world : World), coordinator.Known runId world →
      Keeps runId (fun _ after => coordinator.Known runId after) (stop handle) world)
    (executions : List ActiveExecution) (hknown : coordinator.Known runId world) :
    Keeps runId (fun _ after => coordinator.Known runId after)
      (stopExecutions stop executions) world := by
  induction executions generalizing world with
  | nil => exact Keeps.pure hknown
  | cons execution rest ih =>
      apply (hstop execution.handle world hknown).bind
      intro answer world hknown
      apply keeps_ofExcept_bind
      intro stopped _
      apply (ih hknown).bind
      intro others world hknown
      exact Keeps.pure hknown

theorem keeps_cancelExecutions (hknown : coordinator.Known runId world) :
    Keeps runId (fun _ after => coordinator.Known runId after)
      (cancelExecutions dispatch coordinator) world := by
  have hask : ∀ (service : Service) (world : World), coordinator.Known runId world →
      Keeps runId (fun _ after => coordinator.Known runId after) (Program.ask service) world :=
    fun service world hknown => ⟨trivial, fun drifted hdrift _ _ => hknown.drift hdrift⟩
  rw [cancelExecutions]
  cases dispatch.settings.cancellation with
  | none => exact Keeps.pure hknown
  | hard =>
      apply keeps_ofExcept_bind
      intro _ _
      exact keeps_stopExecutions (fun handle world => hask (.terminate handle) world) _ hknown
  | cooperative =>
      apply keeps_ofExcept_bind
      intro _ _
      exact keeps_stopExecutions (fun handle world => hask (.cancel handle) world) _ hknown

theorem keeps_drainCancelled (cancelledHandleIds : List Text) (rounds : Nat)
    (hknown : coordinator.Known runId world) :
    Keeps runId (fun drained after => drained.2.Known runId after)
      (drainCancelled cancelledHandleIds rounds coordinator) world := by
  induction rounds generalizing coordinator world with
  | zero => exact Keeps.pure hknown
  | succ rounds ih =>
      rw [drainCancelled]
      split
      · exact Keeps.pure hknown
      · apply keeps_ask_bind hknown
        intro fetched world hknown
        cases fetched with
        | interrupted => exact Keeps.pure hknown
        | empty => exact Keeps.raise _
        | completed completion =>
            apply keeps_ofExcept_bind
            rintro ⟨execution, released⟩ hreleased
            have hknown := known_released hknown hreleased
            simp only
            split
            · exact ih hknown
            · split
              · apply (keeps_applyExecutorCancellation execution completion hknown).bind
                intro next world hknown
                exact ih hknown
              · apply (keeps_applyCancellationCompletion execution completion hknown).bind
                intro next world hknown
                exact ih hknown

theorem keeps_drainTerminal (rounds : Nat) (hknown : coordinator.Known runId world) :
    Keeps runId (fun drained after => drained.Known runId after)
      (drainTerminal rounds coordinator) world := by
  induction rounds generalizing coordinator world with
  | zero => exact Keeps.pure hknown
  | succ rounds ih =>
      rw [drainTerminal]
      split
      · exact Keeps.pure hknown
      · apply keeps_ask_bind hknown
        intro fetched world hknown
        cases fetched with
        | interrupted => exact Keeps.raise _
        | empty => exact Keeps.raise _
        | completed completion =>
            apply keeps_ofExcept_bind
            rintro ⟨execution, released⟩ hreleased
            have hknown := known_released hknown hreleased
            simp only
            split
            · exact ih hknown
            · apply (keeps_applyCancellationCompletion execution completion hknown).bind
              intro next world hknown
              exact ih hknown

/-- What a round leaves to go on with is known. -/
def Round.Known (runId : WorkflowRunId) (round : Round) (world : World) : Prop :=
  match round with
  | .continued coordinator | .interrupted coordinator => coordinator.Known runId world
  | .returned _ => True

theorem keeps_commit_cancelled {run cancelled : WorkflowRun} {taskRuns : TaskRuns}
    {at_ : DateTime} {event : RuntimeEvent} (hknows : Knows runId run taskRuns world)
    (hcancelled : run.cancel at_ = .ok cancelled)
    (htells : TellsRun runId .workflowCancelled event) :
    Keeps runId (fun _ after => Knows runId cancelled taskRuns after)
      (commit [.saveWorkflowRun cancelled, .addEvent event]) world := by
  obtain ⟨hsame, hrunning, hstatus⟩ := WorkflowRun.finish_eq_ok hcancelled
  apply keeps_commit_run hknows hsame htells.toLegible htells.taskRunId
  rw [htells.eventType, hrunning, hstatus]
  exact .ended rfl

/-- A unit of work that is made under a condition, and then the rest. -/
theorem keeps_commit_if {α : Type} {condition : Prop} [Decidable condition]
    {calls : List WriteCall} {next : Unit → Procedure α} {middle : World → Prop}
    {good : α → World → Prop} (hcommit : Keeps runId (fun _ => middle) (commit calls) world)
    (hskip : ¬condition → middle world)
    (hnext : ∀ after, middle after → Keeps runId good (next ()) after) :
    Keeps runId good (if condition then commit calls >>= next else next ()) world := by
  split
  · exact hcommit.bind fun _ after hmiddle => hnext after hmiddle
  · next hfalse => exact hnext world (hskip hfalse)

/-- The workflow ends CANCELLED, or a second interrupt leaves it as it is then. -/
theorem keeps_finishCancellation (hknown : coordinator.Known runId world) :
    Keeps runId (fun round after => round.Known runId after)
      (finishCancellation dispatch coordinator) world := by
  apply keeps_ask_bind hknown
  intro reason world hknown
  apply (keeps_sweepTaskRuns coordinator.taskRuns.rows hknown).bind
  rintro cancelled world ⟨hswept, hknown⟩
  refine keeps_commit_if (keeps_commit_swept hknown hswept) (fun hnone => ?_) ?_
  · rw [not_not.mp hnone]
    exact hknown
  intro world hknows
  let swept : Coordinator := { coordinator with
    taskRuns := cancelled.foldl Table.set coordinator.taskRuns
    pendingRetries := .empty }
  have hsweptKnown : swept.Known runId world := hknows
  apply (keeps_cancelExecutions hsweptKnown).bind
  intro cancelledHandleIds world hknown
  apply (keeps_drainCancelled cancelledHandleIds swept.active.rows.length hknown).bind
  rintro ⟨drained, rest⟩ world hknown
  cases drained with
  | false => exact Keeps.pure hknown
  | true =>
      apply keeps_require_bind
      intro _
      apply keeps_ask_bind hknown
      intro finishedAt world hknown
      apply keeps_ofExcept_bind
      intro cancelledRun hcancelled
      apply (keeps_createWorkflowEvent .workflowCancelled hknown rest.last
        finishedAt (by simp [Plain, TextKeys])).bind
      rintro event world ⟨htells, hknown⟩
      apply (keeps_commit_cancelled hknown hcancelled htells).bind
      intro _ world _
      apply Keeps.through (fun _ _ => True)
      · exact keeps_query fun _ _ _ _ => trivial
      · intro persisted world _
        exact Keeps.pure trivial

end Cancellation

section Rounds

theorem keeps_waitTimeout (settings : RunnerSettings) (hknown : coordinator.Known runId world) :
    Keeps runId (fun _ after => coordinator.Known runId after)
      (waitTimeout settings coordinator) world := by
  rw [waitTimeout]
  split
  · exact Keeps.pure hknown
  · apply keeps_ask_bind hknown
    intro at_ world hknown
    exact Keeps.pure hknown

theorem keeps_afterFetch (hplan : dispatch.planTaskIds.Nodup) (workflow : WorkflowDefinition)
    (fetched : Fetched) (hknown : coordinator.Known runId world) :
    Keeps runId (fun round after => round.Known runId after)
      (afterFetch dispatch workflow coordinator fetched) world := by
  cases fetched with
  | interrupted => exact Keeps.pure hknown
  | empty =>
      rw [afterFetch]
      apply Keeps.through (fun next after => next.Known runId after)
      · apply keeps_ask_bind hknown
        intro at_ world hknown
        exact keeps_expireTimeoutsFrom hplan workflow at_ _ hknown
      · intro next world hknown
        exact Keeps.pure hknown
  | completed completion =>
      rw [afterFetch]
      apply keeps_ofExcept_bind
      rintro ⟨execution, released⟩ hreleased
      have hknown := known_released hknown hreleased
      simp only
      split
      · exact Keeps.pure hknown
      · apply keeps_ask_bind hknown
        intro requested world hknown
        split
        · apply (keeps_applyCancellationCompletion execution completion hknown).bind
          intro next world hknown
          exact Keeps.pure hknown
        · apply (keeps_applyCompletion hplan workflow execution completion hknown).bind
          intro next world hknown
          exact Keeps.pure hknown

theorem keeps_concludeRun (hknown : coordinator.Known runId world) :
    Keeps runId (fun _ _ => True) (concludeRun coordinator) world := by
  rw [concludeRun]
  split
  · exact keeps_query fun _ _ _ _ => trivial
  · split
    · apply keeps_require_bind
      intro _
      exact keeps_succeedRun hknown (by simp [Plain]) coordinator.last
    · exact Keeps.raise _

/-- What one round keeps. -/
theorem keeps_coordinate (hplan : dispatch.planTaskIds.Nodup)
    (hgraph : dispatch.graph.taskKeys.Nodup) (workflow : WorkflowDefinition)
    (hknown : coordinator.Known runId world) :
    Keeps runId (fun round after => round.Known runId after)
      (coordinate dispatch workflow coordinator) world := by
  apply keeps_ask_bind hknown
  intro requested world hknown
  split
  · exact keeps_finishCancellation hknown
  · apply (keeps_dispatchRound hgraph workflow hknown).bind
    intro dispatched world hknown
    apply keeps_ask_bind hknown
    intro requested world hknown
    split
    · exact Keeps.pure hknown
    · split
      · apply (keeps_waitTimeout dispatch.settings hknown).bind
        intro timeout world hknown
        apply keeps_ask_bind hknown
        intro fetched world hknown
        exact keeps_afterFetch hplan workflow fetched hknown
      · apply (keeps_concludeRun hknown).bind
        intro persisted world _
        exact Keeps.pure trivial

theorem keeps_handleInterrupt (hknown : coordinator.Known runId world) :
    Keeps runId (fun _ _ => True) (handleInterrupt dispatch coordinator) world := by
  rw [handleInterrupt]
  split
  · apply (keeps_drainTerminal coordinator.active.rows.length hknown).bind
    intro drained world _
    exact keeps_query fun _ _ _ _ => trivial
  · apply keeps_ask_bind hknown
    intro _ world hknown
    apply (keeps_finishCancellation hknown).bind
    intro round world _
    cases round with
    | returned run => exact Keeps.pure trivial
    | continued next => exact Keeps.raise _
    | interrupted next => exact Keeps.raise _

/-- What any number of rounds keeps. -/
theorem keeps_coordinateFrom (hplan : dispatch.planTaskIds.Nodup)
    (hgraph : dispatch.graph.taskKeys.Nodup) (workflow : WorkflowDefinition) (rounds : Nat)
    (hknown : coordinator.Known runId world) :
    Keeps runId (fun _ _ => True) (coordinateFrom dispatch workflow rounds coordinator)
      world := by
  induction rounds generalizing coordinator world with
  | zero => exact Keeps.pure trivial
  | succ rounds ih =>
      apply (keeps_coordinate hplan hgraph workflow hknown).bind
      intro round world hknown
      cases round with
      | continued next => exact ih hknown
      | returned run => exact Keeps.pure trivial
      | interrupted stopped =>
          apply (keeps_handleInterrupt hknown).bind
          intro run world _
          exact Keeps.pure trivial

/-- The concurrent runner keeps to the ledger. -/
theorem keeps_concurrentRun (settings : RunnerSettings) (workflow : WorkflowDefinition)
    (supplied : Objects) (rounds : Nat) (hunbegun : Unbegun runId world.store) :
    Keeps runId (fun _ _ => True) (ConcurrentRunner.run settings workflow supplied rounds)
      world := by
  apply keeps_ask_bind_of_unbegun hunbegun
  intro pending world _ hunbegun
  apply keeps_require_bind
  intro _
  apply keeps_ofExcept_bind
  intro planTaskIds hplanned
  obtain ⟨_, _, hbuilt⟩ := bind_eq_ok hplanned
  have hplan := (ordered_of_buildPlan hbuilt).distinct
  have hgraph := (simple_buildDependencyGraph workflow).keys
  apply keeps_ofExcept_bind
  intro parameters _
  apply keeps_ofExcept_bind
  intro _ _
  apply (keeps_beginRun hunbegun workflow hplan parameters).bind
  rintro ⟨run, taskRuns⟩ world hknows
  apply keeps_ofExcept_bind
  intro capacity _
  exact keeps_coordinateFrom hplan hgraph workflow rounds hknows

end Rounds

end PyWorkflowKit.V1
