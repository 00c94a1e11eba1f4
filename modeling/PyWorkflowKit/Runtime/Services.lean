import PyWorkflowKit.Core.Program
import PyWorkflowKit.Executors.Contracts
import PyWorkflowKit.Persistence.Memory
import PyWorkflowKit.States.Machine
import Mathlib.Logic.Function.Basic

/-!
# Runtime services

The services that runtime code calls, the state it shares with other callers,
and the store operations as atomic steps.
-/

namespace PyWorkflowKit.Runtime

open PyWorkflowKit.Core PyWorkflowKit.Domain PyWorkflowKit.States
open PyWorkflowKit.Persistence PyWorkflowKit.Executors

inductive ExternalRunStatus where
  | running
  | succeeded
  | failed
  | cancelled
  | notFound
  | unknown
deriving DecidableEq, Repr

/-- What asking for the verifier of a provider and calling it comes to. -/
inductive Verification where
  | unregistered
  | returned (status : ExternalRunStatus)
  | raised (typeName : String)
  | invalid
deriving DecidableEq, Repr

/-- A call that leaves the runtime.  `turn` marks the moment at which the plan
loop of a run takes its next task; `verify` and `wait` name on whose behalf they
are made. -/
inductive Service where
  | now
  | utcNow
  | newWorkflowRunId
  | newTaskRunId
  | newTaskAttemptId
  | newCorrelationId
  | uniform (upper : PyFloat)
  | turn (runId : WorkflowRunId)
  | execute (request : TaskExecutionRequest)
  | cancel (executorKey : Text) (request : TaskCancellationRequest)
  | wait (runId : WorkflowRunId) (seconds : PyFloat)
  | verify (attemptId : TaskAttemptId) (externalRef : ExternalRunRef)

/-- The answers of the services; a clock reading without time zone is `none`. -/
@[reducible]
def Service.Answer : Service → Type
  | now => Option DateTime
  | utcNow => DateTime
  | newWorkflowRunId => WorkflowRunId
  | newTaskRunId => TaskRunId
  | newTaskAttemptId => TaskAttemptId
  | newCorrelationId => CorrelationId
  | uniform _ => PyFloat
  | turn _ => Unit
  | execute _ => Execution
  | cancel _ _ => TaskCancellationResult
  | wait _ _ => Unit
  | verify _ _ => Verification

/-- The active requests of the runtime, and the calls that executors have answered
or are about to answer. -/
structure Workers where
  active : TaskAttemptId → Option TaskExecutionRequest
  executions : List (TaskExecutionRequest × Execution)

/-- The metadata store and what happens around it. -/
@[ext]
structure World where
  store : MemoryState
  workers : Workers

/-- A program of the runtime. -/
abbrev Procedure := Program Service Service.Answer PyError World

/-- A store operation, which holds the lock of the store. -/
def onStore {α : Type} (action : MemoryAction α) : Procedure α :=
  .atomic ⟨fun world =>
    ((action.run world.store).1, { world with store := (action.run world.store).2 })⟩

/-- A query of the store. -/
def query {α : Type} (read : MemoryState → α) : Procedure α := onStore (Action.read read)

/-- `_now`. -/
def now : Procedure DateTime := do
  match ← Program.ask Service.now with
  | some at_ => pure at_
  | none =>
      .raise (.valueError "clock.now() must return a timezone-aware datetime")

/-- `_transition_workflow`. -/
def transitionWorkflow (run : WorkflowRun) (target : WorkflowRunStatus)
    (failure : Option FailureEvidence) : Procedure WorkflowRun := do
  let at_ ← now
  let next ← .ofExcept (run.transition target at_.instant failure)
  onStore (Memory.updateWorkflowRun next run.status (some (.aware at_.instant)))
  pure next

/-- `_transition_task`. -/
def transitionTask (taskRun : TaskRun) (target : TaskRunStatus)
    (skipReason : Option SkipReason) (failure : Option FailureEvidence) :
    Procedure TaskRun := do
  let at_ ← now
  let next ← .ofExcept
    (taskRun.transition target at_.instant skipReason none failure)
  onStore (Memory.updateTaskRun next taskRun.status (some (.aware at_.instant)))
  pure next

/-- `_transition_attempt`. -/
def transitionAttempt (attempt : TaskAttempt) (target : TaskAttemptStatus)
    (failure : Option FailureEvidence) : Procedure TaskAttempt := do
  let at_ ← now
  let next ← .ofExcept (attempt.transition target at_.instant failure)
  onStore (Memory.updateTaskAttempt next attempt.status (some (.aware at_.instant)))
  pure next

end PyWorkflowKit.Runtime
