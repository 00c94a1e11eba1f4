import PyWorkflowKit.States.Entities

/-!
# State machines

The three transition tables and the transition functions that enforce them.
-/

namespace PyWorkflowKit.States

open PyWorkflowKit.Domain

/-- `_WORKFLOW_TRANSITIONS`. -/
def workflowTransitions : WorkflowRunStatus → List WorkflowRunStatus
  | .pending => [.running, .cancellationRequested]
  | .running =>
      [.succeeded, .failed, .cancellationRequested, .timedOut, .unknownOutcome]
  | .cancellationRequested => [.running, .cancelled, .unknownOutcome]
  | .unknownOutcome => [.running, .succeeded, .failed, .cancelled, .timedOut]
  | .succeeded | .failed | .cancelled | .timedOut => []

/-- `_TASK_RUN_TRANSITIONS`. -/
def taskRunTransitions : TaskRunStatus → List TaskRunStatus
  | .pending => [.ready, .skipped, .blocked, .cancelled, .reused]
  | .ready => [.running, .skipped, .blocked, .cancelled]
  | .blocked => [.ready, .skipped, .cancelled]
  | .running => [.succeeded, .failed, .cancelled, .timedOut, .unknownOutcome]
  | .unknownOutcome => [.running, .succeeded, .failed, .cancelled, .timedOut]
  | .succeeded | .failed | .skipped | .cancelled | .timedOut | .reused => []

/-- `_TASK_ATTEMPT_TRANSITIONS`. -/
def taskAttemptTransitions : TaskAttemptStatus → List TaskAttemptStatus
  | .pending => [.starting, .cancellationRequested, .cancelled]
  | .starting => [.running, .failed, .cancellationRequested, .unknownOutcome]
  | .running =>
      [.succeeded, .failed, .timedOut, .cancellationRequested, .unknownOutcome,
        .requiresReconciliation]
  | .cancellationRequested =>
      [.running, .cancelled, .cancellationUnconfirmed, .succeeded, .failed,
        .unknownOutcome]
  | .cancellationUnconfirmed =>
      [.requiresReconciliation, .cancelled, .succeeded, .failed, .unknownOutcome]
  | .unknownOutcome => [.requiresReconciliation, .succeeded, .failed, .cancelled]
  | .requiresReconciliation =>
      [.running, .succeeded, .failed, .cancelled, .unknownOutcome]
  | .succeeded | .failed | .timedOut | .cancelled => []

/-- `_reject`. -/
def reject (entityType entityId currentStatus targetStatus : String)
    (terminal : Bool) : PyError :=
  if terminal then
    .terminalState entityType entityId currentStatus targetStatus
  else
    .invalidStateTransition entityType entityId currentStatus targetStatus

/-- Nothing becomes pending again, so `_apply_status` keeps the entity valid. -/
theorem ne_pending_of_mem_workflowTransitions {status target : WorkflowRunStatus}
    (hallowed : target ∈ workflowTransitions status) : target ≠ .pending := by
  cases status <;> cases target <;> simp [workflowTransitions] at hallowed ⊢

/-- `WorkflowRunStateMachine.transition`. -/
def WorkflowRun.transition (run : WorkflowRun) (target : WorkflowRunStatus)
    (at_ : Instant) (failure : Option FailureEvidence) :
    Except PyError WorkflowRun :=
  if hallowed : target ∈ workflowTransitions run.status then
    .ok { run with
      status := target
      startedAt :=
        if target = .running ∧ run.startedAt = none then some at_ else run.startedAt
      endedAt := if target.isTerminal then some at_ else none
      failure := failure
      valid := by
        rw [workflowRunViolation_eq_none_iff]
        refine ⟨fun hpending =>
          absurd hpending (ne_pending_of_mem_workflowTransitions hallowed), ?_⟩
        split <;> simp_all }
  else
    .error (reject "WorkflowRun" run.runId.str run.status.value target.value
      run.status.isTerminal)

/-- `TaskRunStateMachine.transition`. -/
def TaskRun.transition (taskRun : TaskRun) (target : TaskRunStatus)
    (at_ : Instant) (skipReason : Option SkipReason)
    (blockReason : Option BlockReason) (failure : Option FailureEvidence) :
    Except PyError TaskRun :=
  if target ∈ taskRunTransitions taskRun.status then
    if hskipped : target = .skipped ∧ skipReason.isNone then
      .error (.valueError "SKIPPED transition requires skip_reason")
    else if hskip : target ≠ .skipped ∧ skipReason.isSome then
      .error (.valueError "skip_reason is only valid for SKIPPED")
    else if hblocked : target = .blocked ∧ blockReason.isNone then
      .error (.valueError "BLOCKED transition requires block_reason")
    else if hblock : target ≠ .blocked ∧ blockReason.isSome then
      .error (.valueError "block_reason is only valid for BLOCKED")
    else
      .ok { taskRun with
        status := target
        startedAt :=
          if (target = .running ∨ target = .reused) ∧ taskRun.startedAt = none then
            some at_
          else taskRun.startedAt
        endedAt := if target.isTerminal then some at_ else none
        skipReason := skipReason
        blockReason := blockReason
        failure := failure
        valid := by
          rw [taskRunViolation_eq_none_iff]
          refine ⟨?_, ?_, ?_⟩
          · cases skipReason <;> simp_all
          · cases blockReason <;> simp_all
          · split <;> simp_all }
  else
    .error (reject "TaskRun" taskRun.taskRunId.str taskRun.status.value
      target.value taskRun.status.isTerminal)

/-- `TaskAttemptStateMachine.transition`. -/
def TaskAttempt.transition (attempt : TaskAttempt) (target : TaskAttemptStatus)
    (at_ : Instant) (failure : Option FailureEvidence) :
    Except PyError TaskAttempt :=
  if target ∈ taskAttemptTransitions attempt.status then
    .ok { attempt with
      status := target
      startedAt :=
        if (target = .starting ∨ target = .running) ∧ attempt.startedAt = none then
          some at_
        else attempt.startedAt
      endedAt := if target.isTerminal then some at_ else none
      failure := failure
      valid := by
        rw [taskAttemptViolation_eq_none_iff]
        refine ⟨((taskAttemptViolation_eq_none_iff _ _ _).mp attempt.valid).1, ?_⟩
        split <;> simp_all }
  else
    .error (reject "TaskAttempt" attempt.attemptId.str attempt.status.value
      target.value attempt.status.isTerminal)

section Outcomes

theorem WorkflowRun.transition_of_mem (run : WorkflowRun)
    {target : WorkflowRunStatus} (at_ : Instant) (failure : Option FailureEvidence)
    (hallowed : target ∈ workflowTransitions run.status) :
    ∃ next, run.transition target at_ failure = .ok next := by
  simp [WorkflowRun.transition, hallowed]

/-- A successful workflow transition follows the table and changes the status,
the timestamps and the failure only. -/
theorem WorkflowRun.of_transition {run next : WorkflowRun}
    {target : WorkflowRunStatus} {at_ : Instant} {failure : Option FailureEvidence}
    (hnext : run.transition target at_ failure = .ok next) :
    target ∈ workflowTransitions run.status ∧ next.status = target ∧
      next.failure = failure ∧ run.SameIdentity next ∧
      next.resumeOfRunId = run.resumeOfRunId := by
  unfold WorkflowRun.transition at hnext
  split at hnext
  · next hallowed =>
    cases hnext
    exact ⟨hallowed, rfl, rfl, ⟨rfl, rfl, rfl, rfl, rfl, rfl, rfl⟩, rfl⟩
  · cases hnext

/-- A rejected workflow transition is the machine's own error. -/
theorem WorkflowRun.transition_eq_error {run : WorkflowRun}
    {target : WorkflowRunStatus} {at_ : Instant} {failure : Option FailureEvidence}
    {error : PyError} (herror : run.transition target at_ failure = .error error) :
    target ∉ workflowTransitions run.status ∧ error.isStateMachineError = true := by
  unfold WorkflowRun.transition at herror
  split at herror
  · cases herror
  · next hallowed =>
    cases herror
    refine ⟨hallowed, ?_⟩
    unfold reject
    split <;> rfl

theorem TaskRun.transition_of_mem (taskRun : TaskRun) {target : TaskRunStatus}
    (at_ : Instant) {skipReason : Option SkipReason}
    {blockReason : Option BlockReason} (failure : Option FailureEvidence)
    (hallowed : target ∈ taskRunTransitions taskRun.status)
    (hskip : skipReason.isSome = true ↔ target = .skipped)
    (hblock : blockReason.isSome = true ↔ target = .blocked) :
    ∃ next, taskRun.transition target at_ skipReason blockReason failure =
      .ok next := by
  unfold TaskRun.transition
  rw [if_pos hallowed, dif_neg, dif_neg, dif_neg, dif_neg]
  · exact ⟨_, rfl⟩
  · rintro ⟨hne, hsome⟩
    exact hne (hblock.mp hsome)
  · rintro ⟨heq, hnone⟩
    simp at hnone
    simpa [hnone] using hblock.mpr heq
  · rintro ⟨hne, hsome⟩
    exact hne (hskip.mp hsome)
  · rintro ⟨heq, hnone⟩
    simp at hnone
    simpa [hnone] using hskip.mpr heq

/-- A successful task transition follows the table and changes the status, the
timestamps, the reasons and the failure only. -/
theorem TaskRun.of_transition {taskRun next : TaskRun} {target : TaskRunStatus}
    {at_ : Instant} {skipReason : Option SkipReason}
    {blockReason : Option BlockReason} {failure : Option FailureEvidence}
    (hnext : taskRun.transition target at_ skipReason blockReason failure =
      .ok next) :
    target ∈ taskRunTransitions taskRun.status ∧ next.status = target ∧
      next.failure = failure ∧ taskRun.SameIdentity next ∧
      (target = .running → next.startedAt.isSome = true) := by
  unfold TaskRun.transition at hnext
  split at hnext
  · next hallowed =>
    split at hnext
    · cases hnext
    split at hnext
    · cases hnext
    split at hnext
    · cases hnext
    split at hnext
    · cases hnext
    cases hnext
    refine ⟨hallowed, rfl, rfl, ⟨rfl, rfl, rfl, rfl⟩, ?_⟩
    intro hrunning
    cases hstarted : taskRun.startedAt <;> simp [hrunning]
  · cases hnext

/-- What a task becomes by a transition. -/
structure TaskRun.Became (taskRun next : TaskRun) (target : TaskRunStatus)
    (skipReason : Option SkipReason) (failure : Option FailureEvidence) : Prop where
  identity : taskRun.SameIdentity next
  status : next.status = target
  skipReason : next.skipReason = skipReason
  failure : next.failure = failure
  started : target = .running → next.startedAt.isSome = true

theorem TaskRun.became_of_transition {taskRun next : TaskRun} {target : TaskRunStatus}
    {at_ : Instant} {skipReason : Option SkipReason} {blockReason : Option BlockReason}
    {failure : Option FailureEvidence}
    (hnext : taskRun.transition target at_ skipReason blockReason failure = .ok next) :
    taskRun.Became next target skipReason failure := by
  obtain ⟨-, hstatus, hfailure, hidentity, hstarted⟩ := TaskRun.of_transition hnext
  refine ⟨hidentity, hstatus, ?_, hfailure, hstarted⟩
  unfold TaskRun.transition at hnext
  split at hnext
  · split at hnext
    · cases hnext
    split at hnext
    · cases hnext
    split at hnext
    · cases hnext
    split at hnext
    · cases hnext
    cases hnext
    rfl
  · cases hnext

/-- A task transition with the reasons its target needs is rejected by the
table only. -/
theorem TaskRun.transition_eq_error {taskRun : TaskRun} {target : TaskRunStatus}
    {at_ : Instant} {skipReason : Option SkipReason} {blockReason : Option BlockReason}
    {failure : Option FailureEvidence} {error : PyError}
    (hskip : skipReason.isSome = true ↔ target = .skipped)
    (hblock : blockReason.isSome = true ↔ target = .blocked)
    (herror : taskRun.transition target at_ skipReason blockReason failure =
      .error error) :
    target ∉ taskRunTransitions taskRun.status ∧ error.isStateMachineError = true := by
  by_cases hallowed : target ∈ taskRunTransitions taskRun.status
  · obtain ⟨next, hnext⟩ :=
      TaskRun.transition_of_mem taskRun at_ failure hallowed hskip hblock
    rw [hnext] at herror
    cases herror
  · unfold TaskRun.transition at herror
    rw [if_neg hallowed] at herror
    cases herror
    refine ⟨hallowed, ?_⟩
    unfold reject
    split <;> rfl

theorem TaskAttempt.transition_of_mem (attempt : TaskAttempt)
    {target : TaskAttemptStatus} (at_ : Instant) (failure : Option FailureEvidence)
    (hallowed : target ∈ taskAttemptTransitions attempt.status) :
    ∃ next, attempt.transition target at_ failure = .ok next := by
  simp [TaskAttempt.transition, hallowed]

/-- A successful attempt transition follows the table and changes the status,
the timestamps and the failure only. -/
theorem TaskAttempt.of_transition {attempt next : TaskAttempt}
    {target : TaskAttemptStatus} {at_ : Instant} {failure : Option FailureEvidence}
    (hnext : attempt.transition target at_ failure = .ok next) :
    target ∈ taskAttemptTransitions attempt.status ∧ next.status = target ∧
      next.failure = failure ∧ attempt.SameIdentity next := by
  unfold TaskAttempt.transition at hnext
  split at hnext
  · next hallowed =>
    cases hnext
    exact ⟨hallowed, rfl, rfl, ⟨rfl, rfl, rfl, rfl⟩⟩
  · cases hnext

theorem TaskAttempt.transition_eq_error {attempt : TaskAttempt}
    {target : TaskAttemptStatus} {at_ : Instant} {failure : Option FailureEvidence}
    {error : PyError}
    (herror : attempt.transition target at_ failure = .error error) :
    target ∉ taskAttemptTransitions attempt.status ∧
      error.isStateMachineError = true := by
  unfold TaskAttempt.transition at herror
  split at herror
  · cases herror
  · next hallowed =>
    cases herror
    refine ⟨hallowed, ?_⟩
    unfold reject
    split <;> rfl

end Outcomes

end PyWorkflowKit.States
