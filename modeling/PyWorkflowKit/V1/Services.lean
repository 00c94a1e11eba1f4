import PyWorkflowKit.Core.Program
import PyWorkflowKit.V1.Memory
import PyWorkflowKit.V1.Planning
import PyWorkflowKit.V1.StateMachine

/-!
# Services of the runners

The services that the runners call, the metadata store they write to, and how they make
identities and events.
-/

namespace PyWorkflowKit.V1

open PyWorkflowKit.Core PyWorkflowKit.Domain

/-- Identity of one submitted task attempt. -/
structure ExecutionHandle where
  handleId : Text
  attemptId : TaskAttemptId
  executorKey : Text
deriving DecidableEq

/-- Terminal outcome of a worker: exactly one of a result and an error. -/
structure AttemptCompletion where
  handle : ExecutionHandle
  outcome : Except ExecutorError TaskResult

/-- What waiting for a completion comes to. -/
inductive Fetched where
  | completed (completion : AttemptCompletion)
  | empty
  | interrupted

/-- A call that leaves a runner. -/
inductive Service where
  | now
  | sleep (seconds : PyFloat)
  | newWorkflowRunId
  | newTaskRunId (runId : WorkflowRunId) (taskId : TaskId)
  | newTaskAttemptId (taskRunId : TaskRunId) (attemptNumber : Nat)
  | newRuntimeEventId (runId : WorkflowRunId) (eventSequence : Nat)
  | execute (task : TaskDefinition) (context : RunContext)
  | submit (task : TaskDefinition) (context : RunContext)
  | terminate (handle : ExecutionHandle)
  | cancel (handle : ExecutionHandle)
  | fetch (timeout : Option PyFloat)
  | pendingCompletions
  | monotonic
  | isRequested
  | request (reason : String)
  | requestReason

@[reducible]
def Service.Answer : Service → Type
  | now => DateTime
  | sleep _ => Unit
  | newWorkflowRunId => WorkflowRunId
  | newTaskRunId _ _ => TaskRunId
  | newTaskAttemptId _ _ => TaskAttemptId
  | newRuntimeEventId _ _ => RuntimeEventId
  | execute _ _ => Execution
  | submit _ _ => Except Error ExecutionHandle
  | terminate _ => Except Error Bool
  | cancel _ => Except Error Bool
  | fetch _ => Fetched
  | pendingCompletions => Nat
  | monotonic => PyFloat
  | isRequested => Bool
  | request _ => Unit
  | requestReason => Option String

/-- The workers of a concurrent executor and the cancellation signal: executions that
have not completed, completions that wait in the queue, and the last answer to a wait. -/
structure Pool where
  inFlight : List (ExecutionHandle × RunContext)
  queue : List AttemptCompletion
  fetched : Fetched
  submitted : Option ExecutionHandle
  request : Option String

/-- The metadata store, the contexts that the executor was called with, and the workers. -/
structure World where
  store : MemoryState
  executions : List RunContext
  pool : Pool

/-- Nothing has been executed yet. -/
def World.fresh (store : MemoryState) : World :=
  ⟨store, [], ⟨[], [], .empty, none, none⟩⟩

/-- A program of the runners. -/
abbrev Procedure := Program Service Service.Answer Error World

def now : Procedure DateTime := Program.ask Service.now

/-- A query of the store. -/
def query {α : Type} (read : MemoryState → Except Error α) : Procedure α :=
  .atomic ⟨fun world => (read world.store, world)⟩

/-- The writes of one unit of work, all of them or none. -/
def commit (calls : List WriteCall) : Procedure Unit :=
  .atomic ⟨fun world =>
    match world.store.unitOfWork calls with
    | .error error => (.error error, world)
    | .ok store => (.ok (), { world with store := store })⟩

/-- `RuntimeEventFactory.create` of a workflow event, after the event numbered `last`. -/
def createWorkflowEvent (runId : WorkflowRunId) (last : Nat) (eventType : RuntimeEventType)
    (occurredAt : DateTime) (payload : Objects) : Procedure RuntimeEvent := do
  let eventId ← Program.ask (Service.newRuntimeEventId runId (last + 1))
  pure {
    eventId := eventId
    eventType := eventType
    runId := runId
    occurredAt := occurredAt
    eventSequence := some (last + 1)
    taskRunId := none
    taskId := none
    attemptNumber := none
    payload := payload
    sequencePositive := by simp
    attemptPositive := by simp }

/-- `RuntimeEventFactory.create` of a task event, after the event numbered `last`. -/
def createTaskEvent (runId : WorkflowRunId) (last : Nat) (eventType : RuntimeEventType)
    (occurredAt : DateTime) (taskRun : TaskRun) (attempt : Option TaskAttempt)
    (payload : Objects) : Procedure RuntimeEvent := do
  let eventId ← Program.ask (Service.newRuntimeEventId runId (last + 1))
  pure {
    eventId := eventId
    eventType := eventType
    runId := runId
    occurredAt := occurredAt
    eventSequence := some (last + 1)
    taskRunId := some taskRun.taskRunId
    taskId := some taskRun.taskId
    attemptNumber := attempt.map TaskAttempt.attemptNumber
    payload := payload
    sequencePositive := by simp
    attemptPositive := by
      intro number hnumber
      obtain ⟨attempt, _, rfl⟩ := Option.map_eq_some_iff.mp hnumber
      exact attempt.positive }

/-- `_new_attempt`. -/
def newAttempt (taskRun : TaskRun) (attemptNumber : Nat) (hpositive : 1 ≤ attemptNumber)
    (startedAt : DateTime) : Procedure TaskAttempt := do
  let attemptId ← Program.ask (Service.newTaskAttemptId taskRun.taskRunId attemptNumber)
  pure {
    attemptId := attemptId
    taskRunId := taskRun.taskRunId
    attemptNumber := attemptNumber
    status := .running
    startedAt := some startedAt
    finishedAt := none
    errorType := none
    errorMessage := none
    errorCategory := none
    retryEligibleAt := none
    errorMetadata := []
    positive := hpositive
    fits := TaskAttemptStatus.fits_running }

/-- `_load_task_runs_by_task_id`. -/
def loadTaskRuns (runId : WorkflowRunId) (store : MemoryState) : TaskRuns :=
  Table.ofList (store.listTaskRuns runId)

end PyWorkflowKit.V1
