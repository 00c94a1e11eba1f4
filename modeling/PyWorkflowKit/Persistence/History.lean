import PyWorkflowKit.Persistence.Operations
import PyWorkflowKit.Persistence.Retention
import PyWorkflowKit.Persistence.Writes

/-!
# Histories of the in-memory store

Every operation of the store, pruning included, is one write or nothing.
-/

namespace PyWorkflowKit.Persistence

open PyWorkflowKit.Core PyWorkflowKit.Domain PyWorkflowKit.States

/-- An operation of the store or a pruning of its runs. -/
inductive StoreCommand where
  | operation (op : StoreOp)
  | prune (policy : RetentionPolicy) (dryRun : Bool) (batchSize : Int) (now : DateTime)

/-- The state that a command leaves, whether it returns or raises. -/
def StoreCommand.after (state : MemoryState) : StoreCommand → MemoryState
  | operation op => ((Memory.perform op).run state).2
  | prune policy dryRun batchSize now =>
      ((Memory.pruneRuns policy dryRun batchSize now).run state).2

/-- The command carries no transition time without time zone. -/
def StoreCommand.Aware : StoreCommand → Prop
  | operation (.updateWorkflowRun _ _ transitionedAt) => TimezoneAware transitionedAt
  | operation (.updateTaskRun _ _ transitionedAt) => TimezoneAware transitionedAt
  | operation (.updateTaskAttempt _ _ transitionedAt) => TimezoneAware transitionedAt
  | _ => True

/-- The state that a history of commands leaves. -/
def afterHistory (state : MemoryState) (history : List StoreCommand) : MemoryState :=
  history.foldl StoreCommand.after state

/-- What a command may write. -/
inductive Write (state : MemoryState) : MemoryState → Prop
  | workflowRunCreated {run : WorkflowRun} (hstatus : run.status = .pending)
      (habsent : state.workflowRuns.find? run.runId = none) :
      Write state (state.addWorkflowRun run)
  | workflowRunUpdated {current run : WorkflowRun} (at_ : Instant)
      (hfound : state.workflowRuns.find? run.runId = some current)
      (hidentity : current.SameIdentity run) :
      Write state (state.afterWorkflowRun current.status run at_)
  | taskRunCreated {taskRun : TaskRun} (hstatus : taskRun.status = .pending)
      (habsent : state.taskRuns.find? taskRun.taskRunId = none)
      (hparent : state.workflowRuns.find? taskRun.workflowRunId ≠ none) :
      Write state (state.addTaskRun taskRun)
  | taskRunUpdated {current taskRun : TaskRun} (at_ : Instant)
      (hfound : state.taskRuns.find? taskRun.taskRunId = some current)
      (hidentity : current.SameIdentity taskRun) :
      Write state (state.afterTaskRun current.status taskRun at_)
  | taskAttemptAppended {attempt : TaskAttempt} (hstatus : attempt.status = .pending)
      (habsent : state.taskAttempts.find? attempt.attemptId = none)
      (hparent : state.taskRuns.find? attempt.taskRunId ≠ none)
      (hnumber : attempt.attemptNumber = (state.attemptsOf attempt.taskRunId).length + 1) :
      Write state (state.addTaskAttempt attempt)
  | taskAttemptUpdated {current attempt : TaskAttempt} (at_ : Instant)
      (hfound : state.taskAttempts.find? attempt.attemptId = some current)
      (hidentity : current.SameIdentity attempt) :
      Write state (state.afterTaskAttempt current.status attempt at_)
  | externalRefAppended {attemptId : TaskAttemptId} {externalRef : ExternalRunRef}
      (hparent : state.taskAttempts.find? attemptId ≠ none) :
      Write state (state.addExternalRef attemptId externalRef)
  | checkpointSet {checkpoint : TaskOutputCheckpoint} {taskRun : TaskRun}
      (hparent : state.taskRuns.find? checkpoint.taskRunId = some taskRun)
      (hstatus : taskRun.status = .succeeded ∨ taskRun.status = .reused)
      (hsame : ∀ existing ∈ state.outputCheckpoints.find? checkpoint.taskRunId,
        existing = checkpoint) :
      Write state (state.addCheckpoint checkpoint)
  | manifestSet {runId : WorkflowRunId} {reference : ManifestReference}
      (hparent : state.workflowRuns.find? runId ≠ none) :
      Write state (state.addManifest runId reference)
  | pruned (runIds : List WorkflowRunId) :
      Write state (Memory.removeTargets state (Memory.targets state runIds))

section Commands

variable {state : MemoryState}

/-- An operation whose value is converted leaves the state of the operation. -/
theorem snd_run_bind_pure {α β : Type} (action : MemoryAction α) (f : α → β) :
    ((do return f (← action) : MemoryAction β).run state).2 = (action.run state).2 := by
  change ((action >>= fun value => pure (f value)).run state).2 = _
  rw [Action.run_bind]
  cases (action.run state) with
  | mk result after => cases result <;> rfl

/-- An action that writes at most once. -/
def WritesOnce {α : Type} (action : MemoryAction α) (state : MemoryState) : Prop :=
  (action.run state).2 = state ∨ Write state (action.run state).2

theorem WritesOnce.converted {α β : Type} {action : MemoryAction α}
    (haction : WritesOnce action state) (f : α → β) :
    WritesOnce (do return f (← action)) state := by
  unfold WritesOnce
  rw [snd_run_bind_pure]
  exact haction

theorem writesOnce_of_ok {α : Type} {action : MemoryAction α} {value : α}
    {after : MemoryState} (hrun : action.run state = (.ok value, after))
    (hwrite : Write state after) : WritesOnce action state := by
  right
  rw [hrun]
  exact hwrite

theorem writesOnce_of_error {α : Type} {action : MemoryAction α}
    (hrun : ∃ error, action.run state = (.error error, state)) :
    WritesOnce action state := by
  left
  obtain ⟨error, herror⟩ := hrun
  rw [herror]

theorem snd_run_listStateTransitions (entityType : Option StateEntityType)
    (entityId : Option String) :
    ((Memory.listStateTransitions entityType entityId).run state).2 = state := by
  unfold Memory.listStateTransitions
  rw [Action.run_bind_of_ok (Action.run_get _)]
  cases entityId with
  | none => rfl
  | some wanted =>
      simp only
      by_cases hblank : isBlank wanted = false
      · rw [Action.run_bind_of_ok (Action.run_require_of hblank _ _)]
        rfl
      · rw [Action.run_bind_of_error (Action.run_require_of_not hblank _ _)]

theorem snd_run_listRuntimeEvents (workflowRunId : WorkflowRunId) :
    ((Memory.listRuntimeEvents workflowRunId).run state).2 = state := by
  unfold Memory.listRuntimeEvents
  rw [Action.run_bind_of_ok (Action.run_get _)]
  by_cases hpresent : state.workflowRuns.find? workflowRunId ≠ none
  · rw [Action.run_bind_of_ok (Action.run_require_of hpresent _ _)]
    rfl
  · rw [Action.run_bind_of_error (Action.run_require_of_not hpresent _ _)]

/-- An operation with an aware transition time writes at most once. -/
theorem writesOnce_perform (op : StoreOp) (haware : (StoreCommand.operation op).Aware) :
    WritesOnce (Memory.perform op) state := by
  cases op with
  | createWorkflowRun run =>
      refine WritesOnce.converted ?_ fun _ => StoreValue.none
      rcases Memory.createWorkflowRun_cases run state with
        ⟨hstatus, habsent, hrun⟩ | herror
      · exact writesOnce_of_ok hrun (.workflowRunCreated hstatus habsent)
      · exact writesOnce_of_error herror
  | updateWorkflowRun run expected transitionedAt =>
      refine WritesOnce.converted ?_ fun _ => StoreValue.none
      rcases Memory.updateWorkflowRun_cases run expected haware state with
        ⟨current, at_, hfound, rfl, hidentity, hrun⟩ | herror
      · exact writesOnce_of_ok hrun (.workflowRunUpdated at_ hfound hidentity)
      · exact writesOnce_of_error herror
  | createTaskRun taskRun =>
      refine WritesOnce.converted ?_ fun _ => StoreValue.none
      rcases Memory.createTaskRun_cases taskRun state with
        ⟨hstatus, habsent, hparent, hrun⟩ | herror
      · exact writesOnce_of_ok hrun (.taskRunCreated hstatus habsent hparent)
      · exact writesOnce_of_error herror
  | updateTaskRun taskRun expected transitionedAt =>
      refine WritesOnce.converted ?_ fun _ => StoreValue.none
      rcases Memory.updateTaskRun_cases taskRun expected haware state with
        ⟨current, at_, hfound, rfl, hidentity, hrun⟩ | herror
      · exact writesOnce_of_ok hrun (.taskRunUpdated at_ hfound hidentity)
      · exact writesOnce_of_error herror
  | appendTaskAttempt attempt =>
      refine WritesOnce.converted ?_ fun _ => StoreValue.none
      rcases Memory.appendTaskAttempt_cases attempt state with
        ⟨hstatus, habsent, hparent, hnumber, hrun⟩ | herror
      · exact writesOnce_of_ok hrun
          (.taskAttemptAppended hstatus habsent hparent hnumber)
      · exact writesOnce_of_error herror
  | updateTaskAttempt attempt expected transitionedAt =>
      refine WritesOnce.converted ?_ fun _ => StoreValue.none
      rcases Memory.updateTaskAttempt_cases attempt expected haware state with
        ⟨current, at_, hfound, rfl, hidentity, hrun⟩ | herror
      · exact writesOnce_of_ok hrun (.taskAttemptUpdated at_ hfound hidentity)
      · exact writesOnce_of_error herror
  | appendExternalRunRef attemptId externalRef =>
      refine WritesOnce.converted ?_ fun _ => StoreValue.none
      rcases Memory.appendExternalRunRef_cases attemptId externalRef state with
        ⟨hparent, -, hrun⟩ | herror
      · exact writesOnce_of_ok hrun (.externalRefAppended hparent)
      · exact writesOnce_of_error herror
  | setTaskOutputCheckpoint checkpoint =>
      refine WritesOnce.converted ?_ fun _ => StoreValue.none
      rcases Memory.setTaskOutputCheckpoint_cases checkpoint state with
        ⟨taskRun, hparent, hstatus, hsame, hrun⟩ | herror
      · exact writesOnce_of_ok hrun (.checkpointSet hparent hstatus hsame)
      · exact writesOnce_of_error herror
  | setManifestReference runId reference =>
      refine WritesOnce.converted ?_ fun _ => StoreValue.none
      rcases Memory.setManifestReference_cases runId reference state with
        ⟨hparent, hrun⟩ | herror
      · exact writesOnce_of_ok hrun (.manifestSet hparent)
      · exact writesOnce_of_error herror
  | listStateTransitions entityType entityId =>
      exact WritesOnce.converted (Or.inl (snd_run_listStateTransitions _ _)) _
  | listRuntimeEvents workflowRunId =>
      exact WritesOnce.converted (Or.inl (snd_run_listRuntimeEvents _)) _
  | getWorkflowRun runId => exact WritesOnce.converted (Or.inl rfl) _
  | listWorkflowRuns => exact WritesOnce.converted (Or.inl rfl) _
  | listUnfinishedWorkflowRuns => exact WritesOnce.converted (Or.inl rfl) _
  | getTaskRun taskRunId => exact WritesOnce.converted (Or.inl rfl) _
  | listTaskRuns workflowRunId => exact WritesOnce.converted (Or.inl rfl) _
  | getTaskAttempt attemptId => exact WritesOnce.converted (Or.inl rfl) _
  | listTaskAttempts taskRunId => exact WritesOnce.converted (Or.inl rfl) _
  | listExternalRunRefs attemptId => exact WritesOnce.converted (Or.inl rfl) _
  | getTaskOutputCheckpoint taskRunId => exact WritesOnce.converted (Or.inl rfl) _
  | getManifestReference runId => exact WritesOnce.converted (Or.inl rfl) _

theorem writesOnce_pruneRuns (policy : RetentionPolicy) (dryRun : Bool) (batchSize : Int)
    (now : DateTime) : WritesOnce (Memory.pruneRuns policy dryRun batchSize now) state := by
  unfold WritesOnce Memory.pruneRuns
  by_cases hbatch : 1 ≤ batchSize
  · rw [Action.run_bind_of_ok (Action.run_require_of hbatch _ _),
      Action.run_bind_of_ok (Action.run_get _)]
    cases heligible : Memory.eligibleRuns policy now state with
    | error error =>
        left
        rfl
    | ok eligible =>
        cases dryRun with
        | true =>
            left
            rfl
        | false =>
            right
            exact .pruned (eligible.map WorkflowRun.runId)
  · rw [Action.run_bind_of_error (Action.run_require_of_not hbatch _ _)]
    left
    rfl

/-- A command with an aware transition time writes at most once. -/
theorem StoreCommand.after_cases (command : StoreCommand) (haware : command.Aware) :
    command.after state = state ∨ Write state (command.after state) := by
  cases command with
  | operation op => exact writesOnce_perform op haware
  | prune policy dryRun batchSize now =>
      exact writesOnce_pruneRuns policy dryRun batchSize now

end Commands

end PyWorkflowKit.Persistence
