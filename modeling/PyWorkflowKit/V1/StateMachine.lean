import PyWorkflowKit.V1.Definitions

/-!
# State transitions and retry decisions of version 1

The transitions of runs, task runs and attempts, and the retry engine.
-/

namespace PyWorkflowKit.V1

open PyWorkflowKit.Domain PyWorkflowKit.Policies

/-- `_raise_invalid_transition`. -/
def invalidTransition (entityType entityId currentStatus targetStatus : String)
    (isTerminal : Bool) : Error :=
  if isTerminal then .terminalState entityType entityId currentStatus targetStatus
  else .invalidStateTransition entityType entityId currentStatus targetStatus

namespace WorkflowRun

variable (run : WorkflowRun)

/-- `_raise_invalid_transition` of a workflow run. -/
def illegal (target : WorkflowRunStatus) : Error :=
  invalidTransition "WorkflowRun" run.runId.str run.status.value target.value
    run.status.isTerminal

/-- `start_workflow`. -/
def start (at_ : DateTime) : Except Error WorkflowRun :=
  if run.status = .pending then
    .ok { run with
      status := .running
      startedAt := some at_
      finishedAt := none
      fits := rfl }
  else .error (run.illegal .running)

/-- `_finish_workflow` with a terminal target. -/
def finish (target : WorkflowRunStatus) (hterminal : target.isTerminal = true)
    (at_ : DateTime) : Except Error WorkflowRun :=
  if run.status = .running then
    .ok { run with
      status := target
      finishedAt := some at_
      fits := by cases target <;> simp_all [WorkflowRunStatus.Fits, WorkflowRunStatus.isTerminal] }
  else .error (run.illegal target)

/-- `succeed_workflow`. -/
def succeed (at_ : DateTime) : Except Error WorkflowRun := run.finish .succeeded rfl at_

/-- `fail_workflow`. -/
def fail (at_ : DateTime) : Except Error WorkflowRun := run.finish .failed rfl at_

/-- `cancel_workflow`. -/
def cancel (at_ : DateTime) : Except Error WorkflowRun := run.finish .cancelled rfl at_

end WorkflowRun

namespace TaskRun

variable (taskRun : TaskRun)

/-- `_raise_invalid_transition` of a task run. -/
def illegal (target : TaskRunStatus) : Error :=
  invalidTransition "TaskRun" taskRun.taskRunId.str taskRun.status.value target.value
    taskRun.status.isTerminal

/-- `mark_task_ready`. -/
def markReady : Except Error TaskRun :=
  if hpending : taskRun.status = .pending then
    .ok { taskRun with
      status := .ready
      fits := by
        have hfits := taskRun.fits
        rw [hpending] at hfits
        simpa [TaskRunStatus.Fits, TaskRunStatus.isTerminal] using hfits }
  else .error (taskRun.illegal .ready)

/-- `start_task`. -/
def start (at_ : DateTime) : Except Error TaskRun :=
  if taskRun.status = .ready then
    .ok { taskRun with
      status := .running
      skipReason := none
      startedAt := some at_
      finishedAt := none
      fits := by simp [TaskRunStatus.Fits, TaskRunStatus.isTerminal] }
  else .error (taskRun.illegal .running)

/-- `_finish_task`. -/
def finish (target : TaskRunStatus) (hterminal : target.isTerminal = true)
    (hskipped : target ≠ .skipped) (at_ : DateTime) : Except Error TaskRun :=
  if taskRun.status = .running then
    .ok { taskRun with
      status := target
      skipReason := none
      finishedAt := some at_
      fits := by simp [TaskRunStatus.Fits, hterminal, hskipped] }
  else .error (taskRun.illegal target)

/-- `succeed_task`. -/
def succeed (at_ : DateTime) : Except Error TaskRun :=
  taskRun.finish .succeeded rfl (by decide) at_

/-- `fail_task`. -/
def fail (at_ : DateTime) : Except Error TaskRun := taskRun.finish .failed rfl (by decide) at_

/-- `skip_task`. -/
def skip (reason : SkipReason) (at_ : DateTime) : Except Error TaskRun :=
  if taskRun.status = .pending ∨ taskRun.status = .ready then
    .ok { taskRun with
      status := .skipped
      skipReason := some reason
      finishedAt := some at_
      fits := by simp [TaskRunStatus.Fits, TaskRunStatus.isTerminal] }
  else .error (taskRun.illegal .skipped)

/-- `cancel_task`. -/
def cancel (at_ : DateTime) : Except Error TaskRun :=
  if taskRun.status = .pending ∨ taskRun.status = .ready ∨ taskRun.status = .running then
    .ok { taskRun with
      status := .cancelled
      skipReason := none
      finishedAt := some at_
      fits := by simp [TaskRunStatus.Fits, TaskRunStatus.isTerminal] }
  else .error (taskRun.illegal .cancelled)

end TaskRun

namespace TaskAttempt

variable (attempt : TaskAttempt)

/-- `_raise_invalid_transition` of an attempt. -/
def illegal (targetStatus : String) : Error :=
  invalidTransition "TaskAttempt" attempt.attemptId.str attempt.status.value targetStatus
    attempt.status.isTerminal

/-- `succeed_attempt`. -/
def succeed (at_ : DateTime) : Except Error TaskAttempt :=
  if attempt.status = .running then
    .ok { attempt with
      status := .succeeded
      finishedAt := some at_
      errorType := none
      errorMessage := none
      errorCategory := none
      retryEligibleAt := none
      errorMetadata := []
      fits := by simp [TaskAttemptStatus.Fits] }
  else .error (attempt.illegal "SUCCEEDED")

/-- `fail_attempt` without error metadata. -/
def fail (at_ : DateTime) (errorType errorMessage errorCategory : String) :
    Except Error TaskAttempt :=
  if isBlank errorType then .error (.valueError "error_type must not be empty.")
  else if isBlank errorMessage then .error (.valueError "error_message must not be empty.")
  else if isBlank errorCategory then
    .error (.valueError "error_category must not be empty when provided.")
  else if attempt.status = .running then
    .ok { attempt with
      status := .failed
      finishedAt := some at_
      errorType := some errorType
      errorMessage := some errorMessage
      errorCategory := some errorCategory
      retryEligibleAt := none
      errorMetadata := []
      fits := by simp [TaskAttemptStatus.Fits] }
  else .error (attempt.illegal "FAILED")

/-- `schedule_retry`. -/
def scheduleRetry (eligibleAt : DateTime) : Except Error TaskAttempt :=
  if hfailed : attempt.status = .failed then
    match hfinished : attempt.finishedAt with
    | none =>
        .error (.valueError
          "FAILED TaskAttempt must have finished_at before retry scheduling.")
    | some finished =>
        if hearly : eligibleAt.instant < finished.instant then
          .error (.valueError "eligible_at cannot be earlier than attempt.finished_at.")
        else
          .ok { attempt with
            retryEligibleAt := some eligibleAt
            fits := by
              refine ⟨attempt.fits.1, fun eligible heligible => ⟨hfailed, ?_⟩⟩
              cases heligible
              intro other hother
              rw [hfinished] at hother
              cases hother
              exact not_lt.mp hearly }
  else
    .error (.invalidStateTransition "TaskAttempt" attempt.attemptId.str attempt.status.value
      "RETRY_WAIT")

/-- `cancel_attempt`. -/
def cancel (at_ : DateTime) : Except Error TaskAttempt :=
  if attempt.status = .running then
    .ok { attempt with
      status := .cancelled
      finishedAt := some at_
      retryEligibleAt := none
      fits := by simp [TaskAttemptStatus.Fits] }
  else .error (attempt.illegal "CANCELLED")

end TaskAttempt

/-- `_normalize_executor_error`: type, message and category. -/
def normalizeExecutorError : ExecutorError → String × String × String
  | .taskExecution errorType errorMessage errorCategory =>
      (errorType, if errorMessage = "" then errorType else errorMessage, errorCategory)
  | .other typeName message => (typeName, if message = "" then typeName else message, typeName)

/-- The decision for a retry. -/
structure RetryDecision where
  delaySeconds : PyFloat
  nextAttemptNumber : Nat
  later : 2 ≤ nextAttemptNumber

theorem RetryDecision.positive (decision : RetryDecision) : 1 ≤ decision.nextAttemptNumber :=
  Nat.le_of_succ_le decision.later

/-- A delay that is an integer or a float, which may be infinite. -/
inductive Delay where
  | number (value : Number)
  | infinite

/-- `self.delay_seconds * factor`. -/
def scaledDelay (delay : Number) (factor : ℤ) : Except Error Delay :=
  match delay with
  | .int seconds => .ok (.number (.int (seconds * factor)))
  | .float seconds =>
      match (Number.int factor).toFloat with
      | .error _ => .error (.overflowError "int too large to convert to float")
      | .ok factor =>
          match (PyFloat.finite seconds).mul factor with
          | .finite product => .ok (.number (.float product))
          | .infinite => .ok .infinite

/-- `min(delay, longest)`. -/
def Delay.bounded (delay : Delay) (longest : Option Seconds) : Delay :=
  match longest with
  | none => delay
  | some longest =>
      match delay with
      | .infinite => .number longest.value
      | .number value => if longest.value.rat < value.rat then .number longest.value else delay

/-- `float(delay)`. -/
def Delay.toFloat : Delay → Except Error PyFloat
  | .infinite => .ok .infinite
  | .number value =>
      match value.toFloat with
      | .error _ => .error (.overflowError "int too large to convert to float")
      | .ok converted => .ok converted

/-- `_backoff_delay`. -/
def backoffDelay (policy : RetryPolicy) (failedAttemptNumber : Nat) : Except Error PyFloat := do
  let delay ←
    match policy.backoffStrategy with
    | .none => .ok (Delay.number (.float 0))
    | .fixed => .ok (Delay.number policy.delaySeconds.value)
    | .linear => scaledDelay policy.delaySeconds.value failedAttemptNumber
    | .exponential => scaledDelay policy.delaySeconds.value (2 ^ (failedAttemptNumber - 1))
  (delay.bounded policy.maxDelaySeconds).toFloat

/-- `RetryDecision` for a retry; a delay is not negative. -/
def RetryDecision.new (delaySeconds : PyFloat) (nextAttemptNumber : Nat) :
    Except Error RetryDecision :=
  if hlater : 2 ≤ nextAttemptNumber then .ok ⟨delaySeconds, nextAttemptNumber, hlater⟩
  else
    .error (.valueError
      "retry decision requires next_attempt_number greater than or equal to 2")

/-- `RetryEngine.decide`; `none` is the decision against a retry. -/
def decideRetry (policy : RetryPolicy) (attemptNumber : Nat) (error : ExecutorError) :
    Except Error (Option RetryDecision) :=
  if policy.maxAttempts ≤ attemptNumber then .ok none
  else
    match error with
    | .other _ _ => .ok none
    | .taskExecution _ _ errorCategory =>
        if policy.retryableErrorCategories ≠ [] ∧
            errorCategory ∉ policy.retryableErrorCategories then .ok none
        else do
          let delaySeconds ← backoffDelay policy attemptNumber
          let decision ← RetryDecision.new delaySeconds (attemptNumber + 1)
          .ok (some decision)

/-- `retry_eligible_at`. -/
def retryEligibleAt (failedAt : DateTime) (decision : RetryDecision) : Except Error DateTime :=
  match decision.delaySeconds with
  | .infinite => .error (.overflowError "cannot convert float infinity to integer")
  | .finite seconds =>
      match timedeltaSeconds (.float seconds) with
      | .error _ => .error (.overflowError "days must have magnitude <= 999999999")
      | .ok micros =>
          match failedAt.add? micros with
          | none => .error (.overflowError "date value out of range")
          | some eligibleAt => .ok eligibleAt

/-- The attempt with the greatest number, the first of them if there are several. -/
def latestAttempt : List TaskAttempt → Option TaskAttempt
  | [] => none
  | attempt :: rest =>
      match latestAttempt rest with
      | none => some attempt
      | some later =>
          if attempt.attemptNumber < later.attemptNumber then some later else some attempt

/-- `pending_retry_attempt`. -/
def pendingRetryAttempt (attempts : List TaskAttempt) : Option TaskAttempt :=
  match latestAttempt attempts with
  | none => none
  | some latest =>
      if latest.status = .failed ∧ latest.retryEligibleAt.isSome then some latest else none

end PyWorkflowKit.V1
