import PyWorkflowKit.V1.Executors.Books

/-!
# The process executor

`ProcessExecutor` of the concurrent runner: a child process and a watcher thread for each
attempt, and the threads that submit, terminate and shut down, as a system of steps in any order.
-/

namespace PyWorkflowKit.V1.Executors

open PyWorkflowKit.Core PyWorkflowKit.Domain

/-- Which error a child process reports. -/
inductive ErrorKind where
  | task
  | serialization
  | worker

/-- `_WorkerMessage`: a result, or an `_ErrorSnapshot`. -/
inductive WorkerMessage where
  | result (result : TaskResult)
  | error (kind : ErrorKind) (errorType errorMessage : String) (errorCategory : Option String)

/-- `str(exc) or type(exc).__name__`. -/
def Raised.text (raised : Raised) : String :=
  if raised.message = "" then raised.typeName else raised.message

/-- `_worker_main`: the message about how the handler ended; a result may fail to be pickled. -/
def workerMain (unpicklable : Option Raised) : Settled → WorkerMessage
  | .returned result =>
      match unpicklable with
      | some raised => .error .serialization raised.typeName raised.text none
      | none => .result result
  | .executorError (.taskExecution errorType errorMessage errorCategory) =>
      .error .task errorType errorMessage (some errorCategory)
  | .executorError (.other typeName message) =>
      .error .worker typeName (Raised.text ⟨typeName, message⟩) none
  | .cancelled => .error .worker "CancelledError" (Raised.text ⟨"CancelledError", ""⟩) none
  | .raised raised => .error .worker raised.typeName raised.text none

/-- `ExecutorSerializationError`. -/
def serializationError (executorKey : Text) (objectName errorType errorMessage : String) :
    ExecutorError :=
  .other "ExecutorSerializationError"
    ("Executor '" ++ executorKey.value ++ "' cannot serialize " ++ objectName ++ ": " ++
      errorType ++ ": " ++ errorMessage)

/-- `error_category or error_type`. -/
def categoryOr (errorType : String) : Option String → String
  | some category => if category = "" then errorType else category
  | none => errorType

/-- What a child process is doing. -/
inductive ChildState where
  | working
  /-- It has closed its end of the pipe. -/
  | closed
  | exited

/-- How far the watcher of a child process has come. -/
inductive Watcher where
  | receiving
  | joining (completion : AttemptCompletion)
  | putting (completion : AttemptCompletion)
  | ended

/-- `_ActiveProcess`, with the message in its pipe. -/
structure ChildProcess where
  handle : ExecutionHandle
  state : ChildState
  sent : Option WorkerMessage
  watcher : Watcher

def ChildProcess.handleId (child : ChildProcess) : Text := child.handle.handleId

def ChildProcess.isAlive (child : ChildProcess) : Bool :=
  match child.state with
  | .exited => false
  | _ => true

def ChildProcess.watched (child : ChildProcess) : Bool :=
  match child.watcher with
  | .ended => false
  | _ => true

/-- A call of `shutdown`: the attempts that it found active, and those whose process or
watcher it has not joined yet. -/
structure PendingShutdown where
  active : List ExecutionHandle
  processes : List ExecutionHandle
  watchers : List ExecutionHandle

structure ProcessExecutor where
  maxWorkers : Nat
  children : Table ChildProcess.handleId
  books : Books
  shutdowns : List PendingShutdown
  answers : List Answer

/-- What happens next. -/
inductive ProcessEvent where
  /-- `submit`, with what `_validate_submission` raises. -/
  | submit (context : RunContext) (unfit : Option ExecutorError)
  /-- The child process sends its message. -/
  | send (handle : ExecutionHandle) (settled : Settled) (unpicklable : Option Raised)
  | close (handle : ExecutionHandle)
  | exit (handle : ExecutionHandle)
  /-- The watcher receives; `recv` may raise, and the child may end without a message. -/
  | receive (handle : ExecutionHandle) (failure : Option Raised) (exitCode : String)
  /-- The watcher joins the process and goes through its critical section. -/
  | join (handle : ExecutionHandle)
  | put (handle : ExecutionHandle)
  | terminate (handle : ExecutionHandle)
  | shutdown (wait : Bool)
  /-- A pending `shutdown` goes on. -/
  | proceed (index : Nat)
  | get

namespace ProcessExecutor

/-- `ProcessExecutor.key`. -/
def key : Text := .lit "process"

def new (maxWorkers : Nat) : ProcessExecutor := ⟨maxWorkers, .empty, .empty, [], []⟩

variable (executor : ProcessExecutor)

def answer (reply : Answer) : ProcessExecutor :=
  { executor with answers := executor.answers ++ [reply] }

def setChild (child : ChildProcess) : ProcessExecutor :=
  { executor with children := executor.children.set child }

def submit (context : RunContext) (unfit : Option ExecutorError) : ProcessExecutor :=
  match unfit with
  | some error => executor.answer (.refused error)
  | none =>
      if executor.books.shutdown then executor.answer (.refused (shutdownError key))
      else if context.attemptId ∈ executor.books.submittedAttemptIds then
        executor.answer (.refused (duplicateError key context.attemptId))
      else if executor.maxWorkers ≤ executor.books.activeHandles.rows.length then
        executor.answer (.refused (workerError key "ProcessCapacityExceeded"
          ("active process capacity " ++ toString executor.maxWorkers ++
            " is already saturated")))
      else
        let handle := handleFor key context.attemptId
        answer { executor with
          children := executor.children.set ⟨handle, .working, none, .receiving⟩
          books := executor.books.enter handle } (.submitted handle)

/-- `_completion_from_message`. -/
def completionFromMessage (handle : ExecutionHandle) : WorkerMessage → AttemptCompletion
  | .result result => ⟨handle, .ok result⟩
  | .error .task errorType errorMessage errorCategory =>
      ⟨handle, .error (.taskExecution errorType errorMessage
        (categoryOr errorType errorCategory))⟩
  | .error .serialization errorType errorMessage _ =>
      ⟨handle, .error (serializationError key "task result" errorType errorMessage)⟩
  | .error .worker errorType errorMessage _ =>
      ⟨handle, .error (workerError key errorType errorMessage)⟩

def exitedWithoutResult (exitCode : String) : ExecutorError :=
  workerError key "ProcessExitedWithoutResult" ("child process exited with code " ++ exitCode)

def send (handle : ExecutionHandle) (settled : Settled) (unpicklable : Option Raised) :
    Option ProcessExecutor :=
  match executor.children.find? handle.handleId with
  | some ⟨handle, .working, none, watcher⟩ =>
      some (executor.setChild
        ⟨handle, .working, some (workerMain unpicklable settled), watcher⟩)
  | _ => none

def close (handle : ExecutionHandle) : Option ProcessExecutor :=
  match executor.children.find? handle.handleId with
  | some ⟨handle, .working, sent, watcher⟩ =>
      some (executor.setChild ⟨handle, .closed, sent, watcher⟩)
  | _ => none

def exit (handle : ExecutionHandle) : Option ProcessExecutor :=
  match executor.children.find? handle.handleId with
  | some ⟨_, .exited, _, _⟩ => none
  | some ⟨handle, _, sent, watcher⟩ =>
      some (executor.setChild ⟨handle, .exited, sent, watcher⟩)
  | none => none

/-- `receive_connection.recv()` and the completion made of it, if it does not have to wait. -/
def received (handle : ExecutionHandle) (state : ChildState) (sent : Option WorkerMessage)
    (failure : Option Raised) (exitCode : String) : Option AttemptCompletion :=
  match failure, sent, state with
  | some raised, _, _ => some ⟨handle, .error (raised.workerError key)⟩
  | none, some message, _ => some (completionFromMessage handle message)
  | none, none, .working => none
  | none, none, _ => some ⟨handle, .error (exitedWithoutResult exitCode)⟩

def receive (handle : ExecutionHandle) (failure : Option Raised) (exitCode : String) :
    Option ProcessExecutor :=
  match executor.children.find? handle.handleId with
  | some ⟨handle, state, sent, .receiving⟩ =>
      (received handle state sent failure exitCode).map fun completion =>
        executor.setChild ⟨handle, state, sent, .joining completion⟩
  | _ => none

/-- The end of `_watch_process`, before the completion is put. -/
def join (handle : ExecutionHandle) : Option ProcessExecutor :=
  match executor.children.find? handle.handleId with
  | some ⟨handle, .exited, sent, .joining completion⟩ =>
      some { executor.setChild ⟨handle, .exited, sent, .putting completion⟩ with
        books := executor.books.complete handle }
  | _ => none

def put (handle : ExecutionHandle) : Option ProcessExecutor :=
  match executor.children.find? handle.handleId with
  | some ⟨handle, state, sent, .putting completion⟩ =>
      some { executor.setChild ⟨handle, state, sent, .ended⟩ with
        books := executor.books.put completion }
  | _ => none

/-- `_terminate_process`: the process is dead afterwards. -/
def terminateProcess (handle : ExecutionHandle) : ProcessExecutor :=
  match executor.children.find? handle.handleId with
  | some child => executor.setChild { child with state := .exited }
  | none => executor

/-- `_process_for_wait`: the process of a handle, unless its attempt has ended. -/
def processForWait (handle : ExecutionHandle) : Except ExecutorError (Option ChildProcess) :=
  if executor.books.handles.find? handle.handleId ≠ some handle then
    .error (handleNotFoundError key handle.handleId)
  else if handle.handleId ∈ executor.books.completedHandleIds then .ok none
  else if executor.books.activeHandles.contains handle.handleId then
    .ok (executor.children.find? handle.handleId)
  else .error (handleNotFoundError key handle.handleId)

def terminate (handle : ExecutionHandle) : ProcessExecutor :=
  match executor.processForWait handle with
  | .error error => executor.answer (.refused error)
  | .ok none => executor.answer (.terminated false)
  | .ok (some child) =>
      if child.isAlive then (executor.terminateProcess child.handle).answer (.terminated true)
      else executor.answer (.terminated false)

/-- `wait`: whether the process of a handle has ended. -/
def wait (handle : ExecutionHandle) : Except ExecutorError Bool :=
  (executor.processForWait handle).map fun child => child.all fun child => !child.isAlive

/-- The critical section of `shutdown`. -/
def beginShutdown (wait : Bool) : ProcessExecutor :=
  let active := executor.books.activeHandles.rows
  let stopped := if wait then executor
    else active.foldl (fun executor handle => executor.terminateProcess handle) executor
  { stopped with
    books := { stopped.books with shutdown := true }
    shutdowns := stopped.shutdowns ++ [⟨active, active, active⟩] }

/-- A pending `shutdown` joins the next process, then the next watcher, then returns. -/
def proceed (index : Nat) : PendingShutdown → Option ProcessExecutor
  | ⟨active, handle :: others, watchers⟩ =>
      if (executor.children.find? handle.handleId).any (fun child => !child.isAlive) then
        some { executor with
          shutdowns := splice executor.shutdowns index [⟨active, others, watchers⟩] }
      else none
  | ⟨active, [], handle :: others⟩ =>
      if (executor.children.find? handle.handleId).any (fun child => !child.watched) then
        some { executor with
          shutdowns := splice executor.shutdowns index [⟨active, [], others⟩] }
      else none
  | ⟨_, [], []⟩ =>
      some (answer { executor with shutdowns := splice executor.shutdowns index [] } .shutDown)

def step : ProcessEvent → Option ProcessExecutor
  | .submit context unfit => some (executor.submit context unfit)
  | .send handle settled unpicklable => executor.send handle settled unpicklable
  | .close handle => executor.close handle
  | .exit handle => executor.exit handle
  | .receive handle failure exitCode => executor.receive handle failure exitCode
  | .join handle => executor.join handle
  | .put handle => executor.put handle
  | .terminate handle => some (executor.terminate handle)
  | .shutdown wait => some (executor.beginShutdown wait)
  | .proceed index => executor.shutdowns[index]?.bind (executor.proceed index)
  | .get => executor.books.get.map fun books => { executor with books := books }

/-- The executor under any calls of any number of threads, interleaved in any way. -/
def system (maxWorkers : Nat) : System ProcessExecutor ProcessEvent where
  start := new maxWorkers
  step := step

end ProcessExecutor

end PyWorkflowKit.V1.Executors
