import PyWorkflowKit.Runtime.Cancellation
import PyWorkflowKit.Runtime.Outcomes

/-!
# Rows that have ended

Cancellation leaves terminal rows as they are, and says of a terminal row that it is one
unless it is of a task run that was reused.
-/

namespace PyWorkflowKit.Runtime

open PyWorkflowKit.Core PyWorkflowKit.Domain PyWorkflowKit.States
open PyWorkflowKit.Persistence PyWorkflowKit.Executors Program

section Transitions

/-- No transition leaves a terminal status. -/
theorem isTerminal_of_mem_workflowTransitions {status target : WorkflowRunStatus}
    (hallowed : target ∈ workflowTransitions status) : status.isTerminal = false := by
  cases status <;> first | rfl | cases hallowed

theorem isTerminal_of_mem_taskRunTransitions {status target : TaskRunStatus}
    (hallowed : target ∈ taskRunTransitions status) : status.isTerminal = false := by
  cases status <;> first | rfl | cases hallowed

theorem isTerminal_of_mem_taskAttemptTransitions {status target : TaskAttemptStatus}
    (hallowed : target ∈ taskAttemptTransitions status) : status.isTerminal = false := by
  cases status <;> first | rfl | cases hallowed

end Transitions

/-- The terminal rows of the store stay as they are. -/
structure EndsKept (before after : MemoryState) : Prop where
  workflowRuns : before.workflowRuns.Keeps (fun run => run.status.isTerminal)
    after.workflowRuns
  taskRuns : before.taskRuns.Keeps (fun taskRun => taskRun.status.isTerminal) after.taskRuns
  taskAttempts : before.taskAttempts.Keeps (fun attempt => attempt.status.isTerminal)
    after.taskAttempts

theorem EndsKept.refl (store : MemoryState) : EndsKept store store where
  workflowRuns := .refl _
  taskRuns := .refl _
  taskAttempts := .refl _

theorem EndsKept.trans {first second third : MemoryState} (hfirst : EndsKept first second)
    (hsecond : EndsKept second third) : EndsKept first third where
  workflowRuns := hfirst.workflowRuns.trans hsecond.workflowRuns
  taskRuns := hfirst.taskRuns.trans hsecond.taskRuns
  taskAttempts := hfirst.taskAttempts.trans hsecond.taskAttempts

section Updates

variable (store : MemoryState)

/-- An update that expects a row not to have ended leaves those that have. -/
theorem endsKept_updateWorkflowRun {run : WorkflowRun} {expected : WorkflowRunStatus}
    (hopen : expected.isTerminal = false) (at_ : Instant) :
    EndsKept store ((Memory.updateWorkflowRun run expected (some (.aware at_))).run store).2 := by
  have haware : some (Timestamp.aware at_) ≠ some .naive := by simp
  rcases Memory.updateWorkflowRun_cases run expected haware store with
    ⟨current, noted, hfound, hstatus, -, hrun⟩ | ⟨error, hrun⟩
  · rw [hrun]
    refine ⟨?_, ?_, ?_⟩
    · rw [MemoryState.workflowRuns_afterWorkflowRun]
      apply Table.Keeps.set
      intro stored hstored
      rw [hfound] at hstored
      rw [← Option.some.inj hstored, hstatus]
      exact hopen
    · rw [MemoryState.taskRuns_afterWorkflowRun]
      exact .refl _
    · rw [MemoryState.taskAttempts_afterWorkflowRun]
      exact .refl _
  · rw [hrun]
    exact .refl store

theorem endsKept_updateTaskRun {taskRun : TaskRun} {expected : TaskRunStatus}
    (hopen : expected.isTerminal = false) (at_ : Instant) :
    EndsKept store ((Memory.updateTaskRun taskRun expected (some (.aware at_))).run store).2 := by
  have haware : some (Timestamp.aware at_) ≠ some .naive := by simp
  rcases Memory.updateTaskRun_cases taskRun expected haware store with
    ⟨current, noted, hfound, hstatus, -, hrun⟩ | ⟨error, hrun⟩
  · rw [hrun]
    refine ⟨?_, ?_, ?_⟩
    · rw [MemoryState.workflowRuns_afterTaskRun]
      exact .refl _
    · rw [MemoryState.taskRuns_afterTaskRun]
      apply Table.Keeps.set
      intro stored hstored
      rw [hfound] at hstored
      rw [← Option.some.inj hstored, hstatus]
      exact hopen
    · rw [MemoryState.taskAttempts_afterTaskRun]
      exact .refl _
  · rw [hrun]
    exact .refl store

theorem endsKept_updateTaskAttempt {attempt : TaskAttempt} {expected : TaskAttemptStatus}
    (hopen : expected.isTerminal = false) (at_ : Instant) :
    EndsKept store
      ((Memory.updateTaskAttempt attempt expected (some (.aware at_))).run store).2 := by
  have haware : some (Timestamp.aware at_) ≠ some .naive := by simp
  rcases Memory.updateTaskAttempt_cases attempt expected haware store with
    ⟨current, noted, hfound, hstatus, -, hrun⟩ | ⟨error, hrun⟩
  · rw [hrun]
    refine ⟨?_, ?_, ?_⟩
    · rw [MemoryState.workflowRuns_afterTaskAttempt]
      exact .refl _
    · rw [MemoryState.taskRuns_afterTaskAttempt]
      exact .refl _
    · rw [MemoryState.taskAttempts_afterTaskAttempt]
      apply Table.Keeps.set
      intro stored hstored
      rw [hfound] at hstored
      rw [← Option.some.inj hstored, hstatus]
      exact hopen
  · rw [hrun]
    exact .refl store

theorem endsKept_appendExternalRunRef (attemptId : TaskAttemptId)
    (externalRef : ExternalRunRef) :
    EndsKept store ((Memory.appendExternalRunRef attemptId externalRef).run store).2 := by
  rcases Memory.appendExternalRunRef_cases attemptId externalRef store with
    ⟨-, -, hrun⟩ | ⟨error, hrun⟩
  · rw [hrun]
    exact ⟨.refl _, .refl _, .refl _⟩
  · rw [hrun]
    exact .refl store

end Updates

section Surroundings

/-- Others leave terminal rows, and the attempts of reused task runs, as they are. -/
structure Alongside (before after : World) : Prop where
  ended : EndsKept before.store after.store
  reused : ∀ taskRunId taskRun, before.store.taskRuns.find? taskRunId = some taskRun →
    taskRun.status = .reused →
    after.store.listTaskAttempts taskRunId = before.store.listTaskAttempts taskRunId

theorem Alongside.refl (world : World) : Alongside world world :=
  ⟨.refl _, fun _ _ _ _ => rfl⟩

/-- Runs go on and services answer anything. -/
def alongside : Surroundings Service Service.Answer World where
  drift _ := Alongside
  allows _ _ _ := True

def sparing : Contract Service Service.Answer World where
  toSurroundings := alongside
  guarantee before after := EndsKept before.store after.store
  enters _ _ := True

/-- No step of the procedure changes a terminal row. -/
def Spares {α : Type} (procedure : Procedure α) : Prop :=
  ∀ world, procedure.Meets sparing (fun _ _ => True) world

variable {α β : Type}

theorem spares_done (result : Except PyError α) : Spares (.done result) :=
  fun _ => trivial

theorem spares_pure (value : α) : Spares (pure value) := spares_done _

theorem Spares.bind {first : Procedure α} {next : α → Procedure β} (hfirst : Spares first)
    (hnext : ∀ value, Spares (next value)) : Spares (first >>= next) :=
  fun world => (hfirst world).bind (fun value after _ => hnext value after)
    fun _ _ _ => trivial

theorem spares_ask (service : Service) : Spares (Program.ask service) :=
  fun _ => ⟨trivial, fun _ _ _ _ => trivial⟩

theorem spares_onStore {action : MemoryAction α}
    (hkept : ∀ store, EndsKept store (action.run store).2) : Spares (onStore action) := by
  intro world
  unfold onStore
  rw [meets_atomic]
  exact fun drifted _ => ⟨hkept drifted.store, trivial⟩

theorem spares_query (read : MemoryState → α) : Spares (query read) := by
  apply spares_onStore
  intro store
  rw [Action.run_read]
  exact .refl store

theorem spares_getWorkflowRun (runId : WorkflowRunId) :
    Spares (onStore (Memory.getWorkflowRun runId)) := by
  apply spares_onStore
  intro store
  rcases Memory.getWorkflowRun_cases runId store with ⟨_, -, hrun⟩ | ⟨-, hrun⟩ <;>
    (rw [hrun]; exact .refl store)

theorem spares_getTaskRun (taskRunId : TaskRunId) :
    Spares (onStore (Memory.getTaskRun taskRunId)) := by
  apply spares_onStore
  intro store
  rcases Memory.getTaskRun_cases taskRunId store with ⟨_, -, hrun⟩ | ⟨-, hrun⟩ <;>
    (rw [hrun]; exact .refl store)

theorem spares_getTaskAttempt (attemptId : TaskAttemptId) :
    Spares (onStore (Memory.getTaskAttempt attemptId)) := by
  apply spares_onStore
  intro store
  rcases Memory.getTaskAttempt_cases attemptId store with ⟨_, -, hrun⟩ | ⟨-, hrun⟩ <;>
    (rw [hrun]; exact .refl store)

theorem spares_mapEach {ι : Type} {body : ι → Procedure α} (hbody : ∀ item, Spares (body item))
    (items : List ι) : Spares (Program.mapEach items body) := by
  induction items with
  | nil => exact spares_done _
  | cons item rest ih =>
      exact (hbody item).bind fun _ => ih.bind fun _ => spares_pure _

theorem spares_now : Spares now := by
  apply (spares_ask Service.now).bind
  intro reading
  cases reading with
  | none => exact spares_done _
  | some at_ => exact spares_pure at_

/-- A transition starts from a status that has not ended. -/
theorem spares_transitionWorkflow (run : WorkflowRun) (target : WorkflowRunStatus)
    (failure : Option FailureEvidence) : Spares (transitionWorkflow run target failure) := by
  apply spares_now.bind
  intro at_
  cases hnext : run.transition target at_.instant failure with
  | error error => exact spares_done _
  | ok next =>
      have hopen : run.status.isTerminal = false :=
        isTerminal_of_mem_workflowTransitions (WorkflowRun.of_transition hnext).1
      exact (spares_onStore fun store => endsKept_updateWorkflowRun store hopen _).bind
        fun _ => spares_pure next

theorem spares_transitionTask (taskRun : TaskRun) (target : TaskRunStatus)
    (skipReason : Option SkipReason) (failure : Option FailureEvidence) :
    Spares (transitionTask taskRun target skipReason failure) := by
  apply spares_now.bind
  intro at_
  cases hnext : taskRun.transition target at_.instant skipReason none failure with
  | error error => exact spares_done _
  | ok next =>
      have hopen : taskRun.status.isTerminal = false :=
        isTerminal_of_mem_taskRunTransitions (TaskRun.of_transition hnext).1
      exact (spares_onStore fun store => endsKept_updateTaskRun store hopen _).bind
        fun _ => spares_pure next

theorem spares_transitionAttempt (attempt : TaskAttempt) (target : TaskAttemptStatus)
    (failure : Option FailureEvidence) : Spares (transitionAttempt attempt target failure) := by
  apply spares_now.bind
  intro at_
  cases hnext : attempt.transition target at_.instant failure with
  | error error => exact spares_done _
  | ok next =>
      have hopen : attempt.status.isTerminal = false :=
        isTerminal_of_mem_taskAttemptTransitions (TaskAttempt.of_transition hnext).1
      exact (spares_onStore fun store => endsKept_updateTaskAttempt store hopen _).bind
        fun _ => spares_pure next

theorem spares_appendExternalRunRefs (attemptId : TaskAttemptId)
    (externalRefs : List ExternalRunRef) :
    Spares (appendExternalRunRefs attemptId externalRefs) := by
  apply (spares_query _).bind
  intro stored
  generalize stored.map (fun ref => (ref.provider, ref.kind, ref.externalRunId)) = existing
  induction externalRefs generalizing existing with
  | nil => exact spares_pure ()
  | cons externalRef rest ih =>
      unfold appendRefs
      dsimp only
      split
      · exact ih existing
      · exact (spares_onStore fun store =>
          endsKept_appendExternalRunRef store attemptId externalRef).bind fun _ => ih _

end Surroundings

section Commands

variable (runtime : WorkflowRuntime)

theorem spares_applyAcknowledgement (taskRun : TaskRun) (attempt : TaskAttempt)
    (status : CancellationStatus) : Spares (applyAcknowledgement taskRun attempt status) := by
  cases status with
  | requested => exact spares_pure ()
  | confirmed | unconfirmed =>
      exact (spares_transitionAttempt _ _ _).bind fun _ =>
        (spares_transitionTask _ _ _ _).bind fun _ => spares_pure ()
  | unsupported | alreadyTerminal =>
      exact (spares_transitionAttempt _ _ _).bind fun _ => spares_pure ()

theorem spares_cancelActive (executors : ExecutorRegistry) (taskRun : TaskRun)
    (attemptId : TaskAttemptId) (request : TaskExecutionRequest) :
    Spares (cancelActive executors taskRun attemptId request) := by
  unfold cancelActive
  apply (spares_done _).bind
  intro executor
  split
  · exact (spares_getTaskAttempt _).bind fun _ =>
      (spares_transitionAttempt _ _ _).bind fun _ => spares_pure _
  · exact spares_now.bind fun _ => (spares_ask _).bind fun _ =>
      (spares_getTaskAttempt _).bind fun _ => (spares_getTaskRun _).bind fun _ =>
        (spares_appendExternalRunRefs _ _).bind fun _ =>
          (spares_applyAcknowledgement _ _ _).bind fun _ => spares_pure _

/-- Reading which request is active. -/
theorem spares_active (attemptId : TaskAttemptId) :
    Spares (.step id fun world =>
      .done (.ok (world.workers.active attemptId)) : Procedure _) :=
  fun _ drifted _ => ⟨.refl drifted.store, trivial⟩

theorem spares_cancelAttempt (executors : ExecutorRegistry) (taskRun : TaskRun)
    (attempt : TaskAttempt) : Spares (cancelAttempt executors taskRun attempt) := by
  -- an attempt without an active request: its outcome stays unknown
  have hunheld := (spares_getTaskAttempt attempt.attemptId).bind fun current =>
    (spares_transitionAttempt current .cancellationUnconfirmed none).bind fun _ =>
      (spares_getTaskRun taskRun.taskRunId).bind fun stored =>
        (spares_transitionTask stored .unknownOutcome none none).bind fun _ =>
          spares_pure (taskAnswer taskRun .unconfirmed (some current.attemptId)
            (.lit "active_execution_handle_not_available"))
  unfold cancelAttempt
  split
  · exact spares_pure _
  · split
    · apply (spares_transitionAttempt _ _ _).bind
      intro _
      apply (spares_active _).bind
      intro active
      cases active with
      | none => exact hunheld
      | some request => exact spares_cancelActive _ _ _ _
    · apply (spares_active _).bind
      intro active
      cases active with
      | none => exact hunheld
      | some request => exact spares_cancelActive _ _ _ _

theorem spares_cancelTask (taskRunId : TaskRunId) : Spares (runtime.cancelTask taskRunId) := by
  apply (spares_getTaskRun taskRunId).bind
  intro taskRun
  split
  · exact spares_pure _
  split
  · exact (spares_transitionTask _ _ _ _).bind fun _ => spares_pure _
  split
  · exact spares_pure _
  · apply (spares_query _).bind
    intro attempts
    split
    · exact spares_pure _
    · exact spares_cancelAttempt _ _ _

theorem spares_cancelOne (taskRun : TaskRun) : Spares (runtime.cancelOne taskRun) := by
  unfold WorkflowRuntime.cancelOne
  split
  · exact (spares_transitionTask _ _ _ _).bind fun _ => spares_pure _
  split
  · exact (spares_cancelTask runtime _).bind fun _ => spares_pure _
  split
  · exact spares_pure _
  · exact spares_pure _

theorem spares_concludeCancel (runId : WorkflowRunId) (statuses : List CancellationStatus) :
    Spares (concludeCancel runId statuses) := by
  apply (spares_getWorkflowRun runId).bind
  intro run
  split
  · split
    · exact (spares_transitionWorkflow _ _ _).bind fun _ => spares_pure _
    · exact spares_pure _
  split
  · exact spares_pure _
  split
  · exact spares_pure _
  · split
    · exact (spares_transitionWorkflow _ _ _).bind fun _ => spares_pure _
    · exact spares_pure _

theorem spares_cancel (runId : WorkflowRunId) : Spares (runtime.cancel runId) := by
  have hrest : Spares (do
      let taskRuns ← query fun store => store.listTaskRuns runId
      let statuses ← Program.mapEach taskRuns runtime.cancelOne
      concludeCancel runId statuses.flatten) :=
    (spares_query _).bind fun taskRuns =>
      (spares_mapEach (spares_cancelOne runtime) taskRuns).bind fun _ =>
        spares_concludeCancel runId _
  apply (spares_getWorkflowRun runId).bind
  intro run
  split
  · exact spares_pure _
  split
  · exact spares_pure _
  split
  · exact (spares_transitionWorkflow _ _ _).bind fun _ => hrest
  · exact hrest

end Commands

/-- A call of `cancel` or of `cancel_task`. -/
inductive CancelCommand where
  | cancel (runId : WorkflowRunId)
  | cancelTask (taskRunId : TaskRunId)
deriving DecidableEq

namespace CancelCommand

def procedure (runtime : WorkflowRuntime) : CancelCommand → Procedure CancellationResult
  | cancel runId => runtime.cancel runId
  | cancelTask taskRunId => runtime.cancelTask taskRunId

/-- The row that the command is about is terminal. -/
def Ended (store : MemoryState) : CancelCommand → Prop
  | cancel runId => ∃ run, store.workflowRuns.find? runId = some run ∧
      run.status.isTerminal = true
  | cancelTask taskRunId => ∃ taskRun, store.taskRuns.find? taskRunId = some taskRun ∧
      taskRun.status.isTerminal = true

/-- The command is about a task run that was reused, and that has no latest attempt which
could be found terminal in its place. -/
def Reused (store : MemoryState) : CancelCommand → Prop
  | cancel _ => False
  | cancelTask taskRunId => ∃ taskRun, store.taskRuns.find? taskRunId = some taskRun ∧
      taskRun.status = .reused ∧
      ∀ attempt ∈ (store.listTaskAttempts taskRunId).getLast?,
        attempt.status.isTerminal = false

end CancelCommand

/-- The answer that there is nothing left to cancel. -/
def AlreadyTerminal (result : Except PyError CancellationResult) : Prop :=
  ∃ answer, result = .ok answer ∧ answer.status = .alreadyTerminal

/-- However the call goes, it leaves terminal rows as they are, and it answers so if it is
about one. -/
structure Absorbs (runtime : WorkflowRuntime) (command : CancelCommand) (before : World) :
    Prop where
  kept : ∀ result after, (command.procedure runtime).Runs alongside before result after →
    EndsKept before.store after.store
  answered : command.Ended before.store → ∀ result after,
    (command.procedure runtime).Runs alongside before result after → AlreadyTerminal result

section Answers

variable {runtime : WorkflowRuntime} {command : CancelCommand} {before after : World}
  {result : Except PyError CancellationResult}

theorem spares_procedure (runtime : WorkflowRuntime) (command : CancelCommand) :
    Spares (command.procedure runtime) := by
  cases command with
  | cancel runId => exact spares_cancel runtime runId
  | cancelTask taskRunId => exact spares_cancelTask runtime taskRunId

theorem endsKept_of_runs
    (hruns : (command.procedure runtime).Runs alongside before result after) :
    EndsKept before.store after.store := by
  let kept (first second : World) : Prop := EndsKept first.store second.store
  change kept before after
  apply (spares_procedure runtime command before).kept _ _ _ _ _ hruns.reaches
  · exact fun world => .refl world.store
  · exact fun _ _ _ => EndsKept.trans
  · exact fun _ _ hdrift => Alongside.ended hdrift
  · exact fun _ _ _ _ hdrift => Alongside.ended hdrift
  · exact fun _ _ hkept => hkept

theorem workflowFinished_eq (status : WorkflowRunStatus) :
    workflowFinished status = status.isTerminal := by
  cases status <;> rfl

theorem taskFinished_eq {status : TaskRunStatus} (hreused : status ≠ .reused) :
    taskFinished status = status.isTerminal := by
  cases status <;> first | rfl | exact absurd rfl hreused

theorem attemptFinished_eq (status : TaskAttemptStatus) :
    attemptFinished status = status.isTerminal := by
  cases status <;> rfl

/-- A terminal row is read as it was. -/
theorem meets_getWorkflowRun_of_ended {runId : WorkflowRunId} {run : WorkflowRun}
    (hfound : before.store.workflowRuns.find? runId = some run)
    (hended : run.status.isTerminal = true) :
    (onStore (Memory.getWorkflowRun runId)).Meets sparing (fun result _ => result = .ok run)
      before := by
  unfold onStore
  rw [meets_atomic]
  intro drifted hdrift
  simp only [Memory.run_getWorkflowRun (hdrift.ended.workflowRuns runId run hfound hended)]
  exact ⟨.refl _, trivial⟩

theorem meets_getTaskRun_of_ended {taskRunId : TaskRunId} {taskRun : TaskRun}
    (hfound : before.store.taskRuns.find? taskRunId = some taskRun)
    (hended : taskRun.status.isTerminal = true) :
    (onStore (Memory.getTaskRun taskRunId)).Meets sparing
      (fun result after => result = .ok taskRun ∧ Alongside before after) before := by
  unfold onStore
  rw [meets_atomic]
  intro drifted hdrift
  simp only [Memory.run_getTaskRun (hdrift.ended.taskRuns taskRunId taskRun hfound hended)]
  exact ⟨.refl _, trivial, hdrift⟩

theorem meets_cancel_of_ended {runId : WorkflowRunId} {run : WorkflowRun}
    (hfound : before.store.workflowRuns.find? runId = some run)
    (hended : run.status.isTerminal = true) :
    (runtime.cancel runId).Meets sparing (fun result _ => AlreadyTerminal result) before := by
  apply (meets_getWorkflowRun_of_ended hfound hended).bind
  · intro value after hvalue
    cases hvalue
    rw [if_pos (by rw [workflowFinished_eq, hended])]
    exact ⟨_, rfl, rfl⟩
  · intro error after herror
    cases herror

/-- A terminal task run that was not reused, or whose latest attempt is terminal. -/
theorem meets_cancelTask_of_ended {taskRunId : TaskRunId} {taskRun : TaskRun}
    (hfound : before.store.taskRuns.find? taskRunId = some taskRun)
    (hended : taskRun.status.isTerminal = true)
    (hattempt : taskRun.status = .reused → ∃ attempt,
      (before.store.listTaskAttempts taskRunId).getLast? = some attempt ∧
        attempt.status.isTerminal = true) :
    (runtime.cancelTask taskRunId).Meets sparing (fun result _ => AlreadyTerminal result)
      before := by
  apply (meets_getTaskRun_of_ended hfound hended).bind
  · rintro value world ⟨hvalue, hworld⟩
    cases hvalue
    by_cases hreused : taskRun.status = .reused
    · obtain ⟨attempt, hlast, hterminal⟩ := hattempt hreused
      simp only [hreused, taskFinished, notStarted]
      have hquery : (query fun store => store.listTaskAttempts taskRunId).Meets sparing
          (fun result _ => result = .ok (before.store.listTaskAttempts taskRunId)) world := by
        unfold query onStore
        rw [meets_atomic]
        intro drifted hdrift
        simp only [Action.run_read]
        refine ⟨.refl _, ?_⟩
        have hstored := hworld.ended.taskRuns taskRunId taskRun hfound hended
        exact congrArg Except.ok ((hdrift.reused taskRunId taskRun hstored hreused).trans
          (hworld.reused taskRunId taskRun hfound hreused))
      apply hquery.bind
      · intro attempts after hattempts
        cases hattempts
        simp only [hlast, cancelAttempt, attemptFinished_eq, hterminal, if_true]
        exact ⟨_, rfl, rfl⟩
      · intro error after herror
        cases herror
    · rw [if_pos (by rw [taskFinished_eq hreused, hended])]
      exact ⟨_, rfl, rfl⟩
  · rintro error world ⟨herror, -⟩
    cases herror

/-- The call answers as it should unless it is about a reused task run. -/
theorem answered_of_not_reused (hreused : ¬command.Reused before.store)
    (hended : command.Ended before.store)
    (hruns : (command.procedure runtime).Runs alongside before result after) :
    AlreadyTerminal result := by
  cases command with
  | cancel runId =>
      obtain ⟨run, hfound, hterminal⟩ := hended
      exact (meets_cancel_of_ended hfound hterminal).of_runs hruns
  | cancelTask taskRunId =>
      obtain ⟨taskRun, hfound, hterminal⟩ := hended
      apply (meets_cancelTask_of_ended hfound hterminal ?_).of_runs hruns
      intro hstatus
      by_contra hnone
      apply hreused
      refine ⟨taskRun, hfound, hstatus, fun attempt hattempt => ?_⟩
      by_contra hterminal
      exact hnone ⟨attempt, hattempt, by simpa using hterminal⟩

end Answers

section Failures

/-- Nobody else does anything, and the clock does not know its time zone. -/
def naively : Contract Service Service.Answer World where
  drift _ before after := after = before
  allows _ service answer :=
    match service, answer with
    | .now, reading => reading = none
    | _, _ => True
  guarantee _ _ := True
  enters _ _ := True

/-- The procedure raises when nobody knows the time. -/
def Fails {α : Type} (procedure : Procedure α) : Prop :=
  ∀ world, procedure.Meets naively (fun result _ => ∃ error, result = .error error) world

variable {α β : Type}

theorem fails_error (error : PyError) : Fails (.done (.error error) : Procedure α) :=
  fun _ => ⟨error, rfl⟩

theorem Fails.bind {first : Procedure α} (hfirst : Fails first) (next : α → Procedure β) :
    Fails (first >>= next) := by
  intro world
  apply (hfirst world).bind
  · rintro value after ⟨error, herror⟩
    cases herror
  · exact fun error after _ => ⟨error, rfl⟩

theorem meets_naively (procedure : Procedure α) (world : World) :
    procedure.Meets naively (fun _ _ => True) world := by
  induction procedure generalizing world with
  | done result => trivial
  | step update next ih => exact fun drifted _ => ⟨trivial, ih drifted _⟩
  | call service next ih => exact ⟨trivial, fun drifted _ answer _ => ih answer drifted⟩

/-- What comes after a procedure fails. -/
theorem fails_after (first : Procedure α) {next : α → Procedure β}
    (hnext : ∀ value, Fails (next value)) : Fails (first >>= next) := by
  intro world
  apply (meets_naively first world).bind
  · exact fun value after _ => hnext value after
  · exact fun error after _ => ⟨error, rfl⟩

theorem fails_now : Fails now := by
  intro world
  refine ⟨trivial, fun drifted _ answer hanswer => ?_⟩
  have hnaive : answer = none := hanswer
  subst hnaive
  exact ⟨_, rfl⟩

theorem fails_transitionAttempt (attempt : TaskAttempt) (target : TaskAttemptStatus)
    (failure : Option FailureEvidence) : Fails (transitionAttempt attempt target failure) :=
  fails_now.bind _

/-- No attempt that is not terminal can be cancelled without a clock. -/
theorem fails_cancelAttempt (executors : ExecutorRegistry) (taskRun : TaskRun)
    {attempt : TaskAttempt} (hopen : attempt.status.isTerminal = false) :
    Fails (cancelAttempt executors taskRun attempt) := by
  unfold cancelAttempt
  rw [if_neg (by rw [attemptFinished_eq, hopen]; decide)]
  split
  · exact (fails_transitionAttempt _ _ _).bind _
  · apply fails_after
    intro active
    cases active with
    | none => exact fails_after _ fun _ => (fails_transitionAttempt _ _ _).bind _
    | some request =>
        apply fails_after
        intro executor
        split
        · exact fails_after _ fun _ => (fails_transitionAttempt _ _ _).bind _
        · exact fails_now.bind _

/-- Nothing is answered about a reused task run that would say it is terminal. -/
theorem meets_cancelTask_of_reused {runtime : WorkflowRuntime} {taskRunId : TaskRunId}
    {before : World} (hreused : (CancelCommand.cancelTask taskRunId).Reused before.store) :
    (runtime.cancelTask taskRunId).Meets naively (fun result _ => ¬AlreadyTerminal result)
      before := by
  obtain ⟨taskRun, hfound, hstatus, hattempts⟩ := hreused
  have hcalm : Undisturbed naively :=
    ⟨fun _ _ hdrift => Eq.symm hdrift, fun _ _ hdrift => Eq.symm hdrift, fun _ => trivial,
      fun _ => trivial⟩
  have hraises : ∀ {answer : Except PyError CancellationResult},
      (∃ error, answer = .error error) → ¬AlreadyTerminal answer := by
    rintro _ ⟨error, rfl⟩ ⟨answer, hanswer, -⟩
    cases hanswer
  unfold WorkflowRuntime.cancelTask
  rw [meets_bind]
  apply meets_read hcalm (Memory.run_getTaskRun hfound)
  simp only [hands_ok, hstatus, taskFinished, notStarted]
  change Meets naively _ (query _ >>= _) before
  rw [meets_bind]
  apply meets_query hcalm
  rw [hands_ok]
  cases hlast : (before.store.listTaskAttempts taskRunId).getLast? with
  | none =>
      rintro ⟨answer, hanswer, hterminal⟩
      cases hanswer
      cases hterminal
  | some attempt =>
      have hopen := hattempts attempt hlast
      exact (fails_cancelAttempt runtime.executors taskRun hopen before).mono
        fun _ _ => hraises

/-- A call about a reused task run can end without saying that the task run is terminal. -/
theorem not_answered_of_reused {runtime : WorkflowRuntime} {command : CancelCommand}
    {before : World} (hreused : command.Reused before.store) :
    command.Ended before.store ∧ ∃ result after,
      (command.procedure runtime).Runs alongside before result after ∧
        ¬AlreadyTerminal result := by
  cases command with
  | cancel runId => exact hreused.elim
  | cancelTask taskRunId =>
      constructor
      · obtain ⟨taskRun, hfound, hstatus, -⟩ := hreused
        exact ⟨taskRun, hfound, by rw [hstatus]; rfl⟩
      · have hanswers : ∀ world service, ∃ answer, naively.allows world service answer := by
          intro world service
          cases service with
          | now => exact ⟨none, rfl⟩
          | _ => exact ⟨(answering ⟨.lit "run-1"⟩ extractRaises world _).2, trivial⟩
        have hquiet : ∀ moment world, naively.drift moment world world := fun _ _ => rfl
        obtain ⟨result, after, hruns⟩ :=
          exists_runs hquiet hanswers (runtime.cancelTask taskRunId) before
        refine ⟨result, after, hruns.mono ?_ fun _ _ _ _ => trivial,
          (meets_cancelTask_of_reused hreused).of_runs hruns⟩
        intro moment world drifted hdrift
        have hsame : drifted = world := hdrift
        rw [hsame]
        exact .refl world

end Failures

section Sequences

/-- Calls one after the other, each with the state it was made in. -/
inductive Cancellations (runtime : WorkflowRuntime) : World → List (World × CancelCommand) →
    World → Prop
  | done (world : World) : Cancellations runtime world [] world
  | call {world before after last : World} {command : CancelCommand}
      {result : Except PyError CancellationResult} {rest : List (World × CancelCommand)} :
      Alongside world before →
        (command.procedure runtime).Runs alongside before result after →
        Cancellations runtime after rest last →
        Cancellations runtime world ((before, command) :: rest) last

variable {runtime : WorkflowRuntime}

theorem Cancellations.endsKept {start last : World} {calls : List (World × CancelCommand)}
    (hcalls : Cancellations runtime start calls last) : EndsKept start.store last.store := by
  induction hcalls with
  | done world => exact .refl _
  | call hdrift hruns _ ih => exact (hdrift.ended.trans (endsKept_of_runs hruns)).trans ih

theorem absorbs_iff (command : CancelCommand) (before : World) :
    Absorbs runtime command before ↔ ¬command.Reused before.store := by
  constructor
  · intro habsorbs hreused
    obtain ⟨hended, result, after, hruns, hopen⟩ := not_answered_of_reused hreused
    exact hopen (habsorbs.answered hended result after hruns)
  · intro hreused
    exact ⟨fun _ _ => endsKept_of_runs,
      fun hended _ _ => answered_of_not_reused hreused hended⟩

/-- `cancel` passes over terminal task runs. -/
theorem cancelOne_of_ended {taskRun : TaskRun} (hended : taskRun.status.isTerminal = true) :
    runtime.cancelOne taskRun = pure [] := by
  have hstatuses : notStarted taskRun.status = false ∧ taskRun.status ≠ .running ∧
      taskRun.status ≠ .unknownOutcome := by
    revert hended
    cases taskRun.status <;> decide
  unfold WorkflowRuntime.cancelOne
  rw [if_neg (by simp [hstatuses.1]), if_neg hstatuses.2.1, if_neg hstatuses.2.2]

/-- In every sequence of calls terminal rows stay as they are; a call absorbs unless it is
about a reused task run; and no terminal task run makes the cancellation of its run
unconfirmed. -/
theorem cancellation_absorbs_iff {start last : World} {calls : List (World × CancelCommand)}
    (hcalls : Cancellations runtime start calls last) :
    EndsKept start.store last.store ∧
      ((∀ call ∈ calls, Absorbs runtime call.2 call.1) ↔
        ∀ call ∈ calls, ¬call.2.Reused call.1.store) ∧
      ∀ taskRun : TaskRun, taskRun.status.isTerminal = true →
        runtime.cancelOne taskRun = pure [] := by
  refine ⟨hcalls.endsKept, forall_congr' fun call => imp_congr_right fun _ =>
    absorbs_iff call.2 call.1, ?_⟩
  exact fun taskRun => cancelOne_of_ended

end Sequences

section Orders

/-- `load` raises an exception. -/
def loadRaises (request : TaskExecutionRequest) : Execution :=
  if request.taskKey = .lit "load" then .raised "ValueError" "no such table"
  else .returned ⟨.none, none, [], []⟩

/-- The orders failed at `load`. -/
def failedWorld : World :=
  ((ordersRuntime.run (.definition ordersWorkflow) none).perform
    (answering ⟨.lit "run-1"⟩ loadRaises) emptyWorld).2

/-- They were resumed and failed again. -/
def resumedWorld : World :=
  ((ordersRuntime.resumeRun ⟨.lit "run-1"⟩ (.definition ordersWorkflow) none []).perform
    (answering ⟨.lit "run-2"⟩ loadRaises) failedWorld).2

/-- The task run of `extract` in the resumed run. -/
def reusedExtract : TaskRunId := ⟨.lit "####"⟩

/-- A call that nobody interferes with. -/
def calledAlone (command : CancelCommand) (world : World) :
    Except PyError CancellationResult × World :=
  (command.procedure ordersRuntime).drive
    (fun world service => (answering ⟨.lit "run-2"⟩ loadRaises world service).2) world

theorem runs_calledAlone (command : CancelCommand) (world : World) :
    (command.procedure ordersRuntime).Runs alongside world (calledAlone command world).1
      (calledAlone command world).2 :=
  runs_drive (fun _ => Alongside.refl) (fun _ _ => trivial) _ world

theorem cancellations_orders :
    Cancellations ordersRuntime resumedWorld
      [(resumedWorld, .cancel ⟨.lit "run-2"⟩),
        ((calledAlone (.cancel ⟨.lit "run-2"⟩) resumedWorld).2, .cancelTask reusedExtract)]
      (calledAlone (.cancelTask reusedExtract)
        (calledAlone (.cancel ⟨.lit "run-2"⟩) resumedWorld).2).2 :=
  .call (.refl _) (runs_calledAlone _ _) <| .call (.refl _) (runs_calledAlone _ _) <| .done _

theorem cancellation_absorbs_orders :
    EndsKept resumedWorld.store (calledAlone (.cancelTask reusedExtract)
        (calledAlone (.cancel ⟨.lit "run-2"⟩) resumedWorld).2).2.store ∧
      ((∀ call ∈ [(resumedWorld, CancelCommand.cancel ⟨.lit "run-2"⟩),
          ((calledAlone (.cancel ⟨.lit "run-2"⟩) resumedWorld).2, .cancelTask reusedExtract)],
          Absorbs ordersRuntime call.2 call.1) ↔
        ∀ call ∈ [(resumedWorld, CancelCommand.cancel ⟨.lit "run-2"⟩),
          ((calledAlone (.cancel ⟨.lit "run-2"⟩) resumedWorld).2, .cancelTask reusedExtract)],
          ¬call.2.Reused call.1.store) ∧
      ∀ taskRun : TaskRun, taskRun.status.isTerminal = true →
        ordersRuntime.cancelOne taskRun = pure [] :=
  cancellation_absorbs_iff cancellations_orders

/-- `cancel_task` cannot tell what became of a task run that was reused. -/
theorem reused_unconfirmed :
    ((calledAlone (.cancelTask reusedExtract) resumedWorld).1.toOption.map fun answer =>
        (answer.status, answer.reason.value)) =
      some (.unconfirmed, "running_task_has_no_persisted_attempt") ∧
    ¬∀ (runtime : WorkflowRuntime) (start last : World)
      (calls : List (World × CancelCommand)), Cancellations runtime start calls last →
      ∀ call ∈ calls, Absorbs runtime call.2 call.1 := by
  have hanswer : ((calledAlone (.cancelTask reusedExtract) resumedWorld).1.toOption.map
      fun answer => (answer.status, answer.reason.value)) =
      some (.unconfirmed, "running_task_has_no_persisted_attempt") := by decide +kernel
  refine ⟨hanswer, fun hall => ?_⟩
  have habsorbs : Absorbs ordersRuntime (.cancelTask reusedExtract) resumedWorld :=
    hall ordersRuntime resumedWorld _ [(resumedWorld, .cancelTask reusedExtract)]
      (.call (.refl _) (runs_calledAlone _ _) (.done _)) _ List.mem_cons_self
  have hended : (CancelCommand.cancelTask reusedExtract).Ended resumedWorld.store := by
    have hstatus : ((resumedWorld.store.taskRuns.find? reusedExtract).map fun taskRun =>
        taskRun.status.isTerminal) = some true := by decide +kernel
    exact Option.map_eq_some_iff.mp hstatus
  obtain ⟨answer, hresult, hterminal⟩ :=
    habsorbs.answered hended _ _ (runs_calledAlone _ resumedWorld)
  rw [hresult] at hanswer
  have hstatus : some answer.status = some .unconfirmed :=
    congrArg (Option.map Prod.fst) hanswer
  rw [hterminal] at hstatus
  cases hstatus

end Orders

end PyWorkflowKit.Runtime
