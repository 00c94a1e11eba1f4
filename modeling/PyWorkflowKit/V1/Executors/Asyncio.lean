import PyWorkflowKit.V1.Executors.Common

/-!
# The asyncio executor

`AsyncExecutor` of the concurrent runner: client threads that submit, cancel and shut down,
and the thread of the event loop, as a system of steps that any of them may take next.
-/

namespace PyWorkflowKit.V1.Executors

open PyWorkflowKit.Core PyWorkflowKit.Domain

/-- `threading.Event` of a submitted attempt. -/
structure DoneEvent where
  handleId : Text
  isSet : Bool

/-- `asyncio.Task` of an attempt, with whether it is done. -/
structure AsyncTask where
  handle : ExecutionHandle
  done : Bool
deriving DecidableEq

def AsyncTask.handleId (task : AsyncTask) : Text := task.handle.handleId

/-- A callback that waits for the event loop. -/
inductive Callback where
  | scheduleTask (handle : ExecutionHandle)
  | publishCompletion (handle : ExecutionHandle) (settled : Settled)
  | requestCancellation (handle : ExecutionHandle) (ticket : Nat)
  | stop

/-- What is left of a call that has left its critical section. -/
inductive Chore where
  | setDone (handleId : Text)
  | put (completion : AttemptCompletion)
  | stopLoop

/-- The event loop: callbacks of the current iteration and of the next one, what is left of
the current callback, and whether the loop stops or has been closed. -/
structure EventLoop where
  batch : List Callback
  ready : List Callback
  chores : List Chore
  stopping : Bool
  closed : Bool

/-- A call of a client thread between two of its critical sections. -/
inductive PendingCall where
  /-- `submit`, before `call_soon_threadsafe`. -/
  | scheduling (handle : ExecutionHandle)
  /-- `submit` on a closed loop, inside `_publish_scheduling_failure`. -/
  | failing (handle : ExecutionHandle) (chores : List Chore)
  /-- `cancel`, before `call_soon_threadsafe`; `shutdown` goes on with the other handles. -/
  | requesting (handle : ExecutionHandle) (others : Option (List ExecutionHandle))
  /-- `cancel`, in `acknowledged.wait()`. -/
  | acknowledging (ticket : Nat) (others : Option (List ExecutionHandle))
  /-- `shutdown(wait=True)`, waiting for the events of the active handles. -/
  | awaiting (handles : List ExecutionHandle)
  /-- `shutdown`, before `_request_loop_stop`. -/
  | stopping (joins : Bool)
  /-- `shutdown(wait=True)`, in `_loop_thread.join()`. -/
  | joining
  /-- `shutdown(wait=False)`, cancelling the active handles. -/
  | sweeping (handles : List ExecutionHandle)

structure AsyncExecutor where
  maxConcurrency : Nat
  activeHandles : Handles
  asyncTasks : Table AsyncTask.handleId
  doneEvents : Table DoneEvent.handleId
  handles : Handles
  completedHandleIds : List Text
  pendingCancellations : List Text
  submittedAttemptIds : List TaskAttemptId
  shutdown : Bool
  stopWhenIdle : Bool
  loop : EventLoop
  completionQueue : List AttemptCompletion
  /-- The completions that were taken from the queue. -/
  received : List AttemptCompletion
  calls : List PendingCall
  /-- The cancellation requests that the loop has answered. -/
  acknowledged : List (Nat × Bool)
  tickets : Nat
  answers : List Answer

/-- What happens next. -/
inductive AsyncEvent where
  /-- `submit`; a handler whose signature does not fit comes with the reason. -/
  | submit (task : TaskDefinition) (context : RunContext) (unfit : Option String)
  | cancel (handle : ExecutionHandle)
  | shutdown (wait : Bool)
  /-- A pending call goes on. -/
  | proceed (index : Nat)
  /-- The loop thread goes on; creating a task may raise. -/
  | turn (failure : Option Raised)
  /-- A task of the loop ends. -/
  | settle (handle : ExecutionHandle) (settled : Settled)
  /-- `CompletionQueue.get_nowait`. -/
  | get

namespace AsyncExecutor

/-- `AsyncExecutor.key`. -/
def key : Text := .lit "async"

def new (maxConcurrency : Nat) : AsyncExecutor where
  maxConcurrency := maxConcurrency
  activeHandles := .empty
  asyncTasks := .empty
  doneEvents := .empty
  handles := .empty
  completedHandleIds := []
  pendingCancellations := []
  submittedAttemptIds := []
  shutdown := false
  stopWhenIdle := false
  loop := ⟨[], [], [], false, false⟩
  completionQueue := []
  received := []
  calls := []
  acknowledged := []
  tickets := 0
  answers := []

variable (executor : AsyncExecutor)

def answer (reply : Answer) : AsyncExecutor :=
  { executor with answers := executor.answers ++ [reply] }

/-- A call goes on as others, or ends. -/
def goOn (index : Nat) (others : List PendingCall) : AsyncExecutor :=
  { executor with calls := splice executor.calls index others }

def enter (call : PendingCall) : AsyncExecutor :=
  { executor with calls := executor.calls ++ [call] }

/-- `call_soon_threadsafe` on a loop that is open. -/
def callSoon (callback : Callback) : AsyncExecutor :=
  { executor with loop := { executor.loop with ready := executor.loop.ready ++ [callback] } }

/-- `submit`, up to the end of its critical section. -/
def submit (task : TaskDefinition) (context : RunContext) (unfit : Option String) :
    AsyncExecutor :=
  match unfit with
  | some reason => executor.answer (.refused (invalidHandlerError task.taskId reason))
  | none =>
      if task.executorKey ≠ key then
        executor.answer (.refused
          (invalidHandlerError task.taskId (executorMismatch task.executorKey key)))
      else if executor.shutdown then executor.answer (.refused (shutdownError key))
      else if context.attemptId ∈ executor.submittedAttemptIds then
        executor.answer (.refused (duplicateError key context.attemptId))
      else if executor.maxConcurrency ≤ executor.activeHandles.rows.length then
        executor.answer (.refused (workerError key "AsyncCapacityExceeded"
          ("active async capacity " ++ toString executor.maxConcurrency ++
            " is already saturated")))
      else
        let handle := handleFor key context.attemptId
        { executor with
          submittedAttemptIds := executor.submittedAttemptIds ++ [context.attemptId]
          handles := executor.handles.set handle
          activeHandles := executor.activeHandles.set handle
          doneEvents := executor.doneEvents.set ⟨handle.handleId, false⟩
          calls := executor.calls ++ [.scheduling handle] }

/-- `_finish_handle`: its critical section, and what is left to do after it. -/
def finishHandle (handle : ExecutionHandle) (completion : AttemptCompletion) :
    AsyncExecutor × List Chore :=
  let active := executor.activeHandles.filter fun row => row.handleId ≠ handle.handleId
  ({ executor with
      asyncTasks := executor.asyncTasks.filter fun row => row.handleId ≠ handle.handleId
      activeHandles := active
      pendingCancellations :=
        executor.pendingCancellations.filter fun handleId => handleId ≠ handle.handleId
      completedHandleIds := executor.completedHandleIds ++ [handle.handleId] },
    (executor.doneEvents.find? handle.handleId).toList.map (fun event => .setDone event.handleId) ++
      [.put completion] ++ if executor.stopWhenIdle ∧ active.rows = [] then [.stopLoop] else [])

/-- A step of what follows the critical section of `_finish_handle`. -/
def perform : Chore → AsyncExecutor
  | .setDone handleId => { executor with doneEvents := executor.doneEvents.set ⟨handleId, true⟩ }
  | .put completion =>
      { executor with completionQueue := executor.completionQueue ++ [completion] }
  | .stopLoop => { executor with loop := { executor.loop with stopping := true } }

/-- `_publish_completion`: the completion of a task that is done. -/
def completionOf (handle : ExecutionHandle) : Settled → AttemptCompletion
  | .returned result => ⟨handle, .ok result⟩
  | .cancelled => ⟨handle, .error (workerError key "CancelledError" "async task was cancelled")⟩
  | .executorError error => ⟨handle, .error error⟩
  | .raised raised => ⟨handle, .error (raised.workerError key)⟩

/-- What the loop thread does with what is left after a critical section. -/
def onLoop (left : AsyncExecutor × List Chore) : AsyncExecutor :=
  { left.1 with loop := { left.1.loop with chores := left.2 } }

/-- `_schedule_task`. A task that is no longer active is cancelled and not watched. -/
def scheduleTask (handle : ExecutionHandle) (failure : Option Raised) : AsyncExecutor :=
  match failure with
  | some raised =>
      onLoop (executor.finishHandle handle ⟨handle, .error (raised.workerError key)⟩)
  | none =>
      if executor.activeHandles.contains handle.handleId then
        { executor with asyncTasks := executor.asyncTasks.set ⟨handle, false⟩ }
      else executor

/-- `request_cancellation`: whether the task was asked to stop. -/
def cancellationOutcome (handle : ExecutionHandle) : Bool :=
  if handle.handleId ∈ executor.completedHandleIds ∨
      executor.activeHandles.contains handle.handleId = false then false
  else
    match executor.asyncTasks.find? handle.handleId with
    | none => true
    | some task => !task.done

def requestCancellation (handle : ExecutionHandle) (ticket : Nat) : AsyncExecutor :=
  { executor with
    pendingCancellations :=
      if executor.cancellationOutcome handle = true ∧
          executor.asyncTasks.find? handle.handleId = none then
        executor.pendingCancellations ++ [handle.handleId]
      else executor.pendingCancellations
    acknowledged := executor.acknowledged ++ [(ticket, executor.cancellationOutcome handle)] }

/-- A callback on the loop thread. -/
def runCallback (failure : Option Raised) : Callback → AsyncExecutor
  | .scheduleTask handle => executor.scheduleTask handle failure
  | .publishCompletion handle settled =>
      onLoop (executor.finishHandle handle (completionOf handle settled))
  | .requestCancellation handle ticket => executor.requestCancellation handle ticket
  | .stop => { executor with loop := { executor.loop with stopping := true } }

/-- The thread of the loop goes on: with what is left of a callback, the next callback, the
next iteration, or the end of `run_forever`. -/
def turn (failure : Option Raised) : Option AsyncExecutor :=
  let loop := executor.loop
  if loop.closed then none
  else
    match loop.chores, loop.batch with
    | chore :: rest, _ => some ({ executor with loop := { loop with chores := rest } }.perform chore)
    | [], callback :: rest =>
        some ({ executor with loop := { loop with batch := rest } }.runCallback failure callback)
    | [], [] =>
        if loop.stopping then some { executor with loop := { loop with closed := true } }
        else if loop.ready = [] then none
        else some { executor with loop := { loop with batch := loop.ready, ready := [] } }

/-- A task of the loop ends: its callback waits for the loop. -/
def settle (handle : ExecutionHandle) (settled : Settled) : Option AsyncExecutor :=
  if executor.asyncTasks.find? handle.handleId = some ⟨handle, false⟩ ∧
      executor.loop.closed = false then
    some ({ executor with asyncTasks := executor.asyncTasks.set ⟨handle, true⟩ }.callSoon
      (.publishCompletion handle settled))
  else none

/-- The critical section of `cancel`: the answer, or the call that goes on. -/
def cancel (handle : ExecutionHandle) (others : Option (List ExecutionHandle)) :
    Answer ⊕ PendingCall :=
  if executor.handles.find? handle.handleId ≠ some handle then
    .inl (.refused (handleNotFoundError key handle.handleId))
  else if handle.handleId ∈ executor.completedHandleIds then .inl (.cancelled false)
  else .inr (.requesting handle others)

/-- A cancellation has come to an end: the client is answered, or `shutdown` goes on. -/
def endCancel (index : Nat) (reply : Answer) : Option (List ExecutionHandle) → AsyncExecutor
  | none => (executor.goOn index []).answer reply
  | some others => executor.goOn index [.sweeping others]

/-- The critical section of `shutdown`. -/
def beginShutdown (wait : Bool) : AsyncExecutor :=
  { executor with shutdown := true }.enter
    (if wait then .awaiting executor.activeHandles.rows
      else .sweeping executor.activeHandles.rows)

/-- A pending call goes on, unless it has to wait. -/
def proceed (index : Nat) : PendingCall → Option AsyncExecutor
  | .scheduling handle =>
      if executor.loop.closed then
        let left := executor.finishHandle handle
          ⟨handle, .error (Raised.workerError key ⟨"RuntimeError", "Event loop is closed"⟩)⟩
        some (left.1.goOn index [.failing handle left.2])
      else some (((executor.callSoon (.scheduleTask handle)).goOn index []).answer
        (.submitted handle))
  | .failing handle [] => some ((executor.goOn index []).answer (.submitted handle))
  | .failing handle (chore :: rest) =>
      some ((executor.goOn index [.failing handle rest]).perform chore)
  | .requesting handle others =>
      if executor.loop.closed then
        some (executor.endCancel index
          (.refused (workerError key "RuntimeError" "Event loop is closed")) others)
      else
        some ({ executor with tickets := executor.tickets + 1 }.callSoon
          (.requestCancellation handle executor.tickets) |>.goOn index
            [.acknowledging executor.tickets others])
  | .acknowledging ticket others =>
      (executor.acknowledged.lookup ticket).map fun outcome =>
        executor.endCancel index (.cancelled outcome) others
  | .awaiting [] => some (executor.goOn index [.stopping true])
  | .awaiting (handle :: others) =>
      if (executor.doneEvents.find? handle.handleId).any DoneEvent.isSet then
        some (executor.goOn index [.awaiting others])
      else none
  | .stopping joins =>
      let asked := if executor.loop.closed then executor else executor.callSoon .stop
      if joins then some (asked.goOn index [.joining])
      else some ((asked.goOn index []).answer .shutDown)
  | .joining =>
      if executor.loop.closed then some ((executor.goOn index []).answer .shutDown) else none
  | .sweeping [] =>
      let marked := { executor with stopWhenIdle := true }
      if executor.activeHandles.rows = [] then some (marked.goOn index [.stopping false])
      else some ((marked.goOn index []).answer .shutDown)
  | .sweeping (handle :: others) =>
      some (match executor.cancel handle (some others) with
        | .inl _ => executor.goOn index [.sweeping others]
        | .inr call => executor.goOn index [call])

/-- `wait`: whether the attempt has ended, for a handle that the executor has made. -/
def wait (handle : ExecutionHandle) : Except ExecutorError Bool :=
  if executor.handles.find? handle.handleId ≠ some handle then
    .error (handleNotFoundError key handle.handleId)
  else
    .ok (decide (handle.handleId ∈ executor.completedHandleIds) ||
      (executor.doneEvents.find? handle.handleId).any DoneEvent.isSet)

/-- `CompletionQueue.get_nowait`. -/
def get : Option AsyncExecutor :=
  match executor.completionQueue with
  | [] => none
  | completion :: rest =>
      some { executor with
        completionQueue := rest
        received := executor.received ++ [completion] }

def step : AsyncEvent → Option AsyncExecutor
  | .submit task context unfit => some (executor.submit task context unfit)
  | .cancel handle =>
      some (match executor.cancel handle none with
        | .inl reply => executor.answer reply
        | .inr call => executor.enter call)
  | .shutdown wait => some (executor.beginShutdown wait)
  | .proceed index => executor.calls[index]?.bind (executor.proceed index)
  | .turn failure => executor.turn failure
  | .settle handle settled => executor.settle handle settled
  | .get => executor.get

/-- The executor under any calls of any number of threads, interleaved in any way. -/
def system (maxConcurrency : Nat) : System AsyncExecutor AsyncEvent where
  start := new maxConcurrency
  step := step

end AsyncExecutor

end PyWorkflowKit.V1.Executors
