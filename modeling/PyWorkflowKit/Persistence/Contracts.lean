import PyWorkflowKit.Domain.Json
import PyWorkflowKit.States.Entities

/-!
# Persistence contracts

The records a metadata store keeps next to the runtime entities: transition
evidence, manifest references, output checkpoints and the runtime events
projected from transitions.
-/

namespace PyWorkflowKit.Persistence

open PyWorkflowKit.Core PyWorkflowKit.Domain PyWorkflowKit.States

inductive StateEntityType where
  | workflowRun
  | taskRun
  | taskAttempt
deriving DecidableEq, Repr

def StateEntityType.value : StateEntityType → String
  | workflowRun => "workflow_run"
  | taskRun => "task_run"
  | taskAttempt => "task_attempt"

instance : StrEnum StateEntityType where
  members := [.workflowRun, .taskRun, .taskAttempt]
  value := StateEntityType.value
  find_value member := by cases member <;> decide

/-- Append-only evidence that one persisted status changed. -/
structure StateTransitionRecord where
  sequence : Nat
  entityType : StateEntityType
  entityId : Text
  fromStatus : Option Text
  toStatus : Text
  occurredAt : Instant
  positive : 1 ≤ sequence

theorem StateTransitionRecord.eq_iff (left right : StateTransitionRecord) :
    left = right ↔ (left.sequence, left.entityType, left.entityId, left.fromStatus,
      left.toStatus, left.occurredAt) = (right.sequence, right.entityType, right.entityId,
        right.fromStatus, right.toStatus, right.occurredAt) := by
  cases left
  cases right
  simp

instance : DecidableEq StateTransitionRecord := fun left right =>
  decidable_of_iff _ (left.eq_iff right).symm

structure ManifestReference where
  locator : Text
  schemaVersion : Text
  digest : Option Text
deriving DecidableEq

/-- Durable output evidence of one successful task run. -/
structure TaskOutputCheckpoint where
  taskRunId : TaskRunId
  output : JsonValue
  recordedAt : Instant
  digest : String
  sorted : output.Sorted
  digestMatches : digest = canonicalJsonDigest output

namespace TaskOutputCheckpoint

theorem ext_iff' (left right : TaskOutputCheckpoint) :
    left = right ↔ left.taskRunId = right.taskRunId ∧
      left.output = right.output ∧ left.recordedAt = right.recordedAt := by
  constructor
  · rintro rfl
    exact ⟨rfl, rfl, rfl⟩
  · intro hfields
    obtain ⟨leftId, leftOutput, leftAt, leftDigest, leftSorted, hleft⟩ := left
    obtain ⟨rightId, rightOutput, rightAt, rightDigest, rightSorted, hright⟩ := right
    obtain ⟨rfl, rfl, rfl⟩ := hfields
    subst hleft
    subst hright
    rfl

instance : DecidableEq TaskOutputCheckpoint := fun left right =>
  decidable_of_iff _ (ext_iff' left right).symm

/-- The constructor: the output is normalised, and a digest that is given must
be the canonical one. -/
def new (taskRunId : TaskRunId) (output : PyValue) (recordedAt : Instant)
    (digest : String) : Except PyError TaskOutputCheckpoint :=
  match hnormalize : normalizeJsonValue "output" output with
  | .error error => .error error
  | .ok normalized =>
      if digest ≠ "" ∧ digest ≠ canonicalJsonDigest normalized then
        .error (.valueError "digest does not match canonical output JSON")
      else
        .ok {
          taskRunId := taskRunId
          output := normalized
          recordedAt := recordedAt
          digest := canonicalJsonDigest normalized
          sorted := sorted_of_normalize "output" output hnormalize
          digestMatches := rfl }

/-- What a new checkpoint holds. -/
theorem new_eq_ok {taskRunId : TaskRunId} {output : PyValue} {recordedAt : Instant}
    {digest : String} {checkpoint : TaskOutputCheckpoint}
    (hnew : new taskRunId output recordedAt digest = .ok checkpoint) :
    checkpoint.taskRunId = taskRunId ∧
      normalizeJsonValue "output" output = .ok checkpoint.output := by
  unfold new at hnew
  split at hnew
  · cases hnew
  · next normalized hnormalize =>
    split at hnew
    · cases hnew
    · cases hnew
      exact ⟨rfl, hnormalize⟩

/-- A value read back from a checkpoint is normalised already. -/
theorem output_of_new_object {taskRunId : TaskRunId} {json : JsonValue} (hsorted : json.Sorted)
    {recordedAt : Instant} {digest : String} {checkpoint : TaskOutputCheckpoint}
    (hnew : new taskRunId json.object recordedAt digest = .ok checkpoint) :
    checkpoint.output = json := by
  have hnormalize := (new_eq_ok hnew).2
  rw [normalize_object "output" hsorted] at hnormalize
  exact (Except.ok.inj hnormalize).symm

/-- A checkpoint can be copied, with its output and digest, for another task. -/
theorem exists_copy (checkpoint : TaskOutputCheckpoint) (taskRunId : TaskRunId)
    (recordedAt : Instant) : ∃ copied,
      new taskRunId checkpoint.output.object recordedAt "" = .ok copied ∧
        copied.taskRunId = taskRunId ∧ copied.output = checkpoint.output ∧
        copied.digest = checkpoint.digest := by
  have hnormalize := normalize_object "output" checkpoint.sorted
  unfold new
  split
  · next error herror =>
    rw [hnormalize] at herror
    cases herror
  · next normalized hok =>
    rw [hnormalize] at hok
    cases hok
    rw [if_neg (by simp)]
    exact ⟨_, rfl, rfl, rfl, checkpoint.digestMatches.symm⟩

/-- A checkpoint survives the way through plain JSON. -/
theorem new_plain (checkpoint : TaskOutputCheckpoint) :
    new checkpoint.taskRunId (plainJsonValue checkpoint.output)
      checkpoint.recordedAt checkpoint.digest = .ok checkpoint := by
  have hnormalize := normalize_plain "output" checkpoint.output checkpoint.sorted
  unfold new
  split
  · next error herror =>
    rw [hnormalize] at herror
    cases herror
  · next normalized hok =>
    rw [hnormalize] at hok
    cases hok
    rw [if_neg (by simp [checkpoint.digestMatches])]
    congr 1
    rw [ext_iff']
    exact ⟨rfl, rfl, rfl⟩

end TaskOutputCheckpoint

inductive RuntimeEventType where
  | workflowStarted
  | workflowResumed
  | workflowSucceeded
  | workflowFailed
  | workflowCancellationRequested
  | workflowCancelled
  | workflowTimedOut
  | workflowUnknownOutcome
  | taskReady
  | taskStarted
  | taskResumed
  | taskRetrying
  | taskSucceeded
  | taskFailed
  | taskSkipped
  | taskCancelled
  | taskTimedOut
  | taskBlocked
  | taskUnknownOutcome
deriving DecidableEq, Repr

/-- `_WORKFLOW_EVENT_BY_STATUS`. -/
def workflowEventByStatus (status : String) : Option RuntimeEventType :=
  if status = "SUCCEEDED" then some .workflowSucceeded
  else if status = "FAILED" then some .workflowFailed
  else if status = "CANCELLATION_REQUESTED" then some .workflowCancellationRequested
  else if status = "CANCELLED" then some .workflowCancelled
  else if status = "TIMED_OUT" then some .workflowTimedOut
  else if status = "UNKNOWN_OUTCOME" then some .workflowUnknownOutcome
  else none

/-- `_TASK_EVENT_BY_STATUS`. -/
def taskEventByStatus (status : String) : Option RuntimeEventType :=
  if status = "READY" then some .taskReady
  else if status = "SUCCEEDED" then some .taskSucceeded
  else if status = "FAILED" then some .taskFailed
  else if status = "SKIPPED" then some .taskSkipped
  else if status = "CANCELLED" then some .taskCancelled
  else if status = "TIMED_OUT" then some .taskTimedOut
  else if status = "BLOCKED" then some .taskBlocked
  else if status = "UNKNOWN_OUTCOME" then some .taskUnknownOutcome
  else if status = "REUSED" then some .taskResumed
  else none

/-- `runtime_event_type_for_transition`. -/
def runtimeEventTypeForTransition (entityType : StateEntityType)
    (fromStatus : Option String) (toStatus : String) (attemptNumber : Option Int)
    (isResume : Bool) : Option RuntimeEventType :=
  match entityType with
  | .workflowRun =>
      if fromStatus = none then none
      else if toStatus = "RUNNING" then
        if fromStatus = some "PENDING" ∧ isResume = false then some .workflowStarted
        else some .workflowResumed
      else workflowEventByStatus toStatus
  | .taskRun =>
      if fromStatus = none then none
      else if toStatus = "RUNNING" then
        if fromStatus = some "READY" then some .taskStarted else some .taskResumed
      else taskEventByStatus toStatus
  | .taskAttempt =>
      match attemptNumber with
      | none => none
      | some number =>
          if fromStatus = none ∧ toStatus = "PENDING" ∧ number > 1 then
            some .taskRetrying
          else none

/-- Immutable runtime event projected from transition evidence. -/
structure RuntimeEvent where
  sequence : Nat
  eventId : String
  eventType : RuntimeEventType
  workflowRunId : WorkflowRunId
  occurredAt : Instant
  fromStatus : Option Text
  toStatus : Text
  taskRunId : Option TaskRunId
  attemptId : Option TaskAttemptId
  taskKey : Option Text
  attemptNumber : Option Int
  payload : JsonValue
deriving DecidableEq

end PyWorkflowKit.Persistence
