import PyWorkflowKit.V1.Executors.Books

/-!
# The thread executor

`ThreadExecutor` of the concurrent runner: the threads that submit, the workers of the pool,
and the lock between them, as a system of steps in any order.
-/

namespace PyWorkflowKit.V1.Executors

open PyWorkflowKit.Core PyWorkflowKit.Domain

/-- How far the work on an attempt has come. -/
inductive Stage where
  | pending
  | running
  /-- The future is done before its callback was added. -/
  | finished (completion : AttemptCompletion)
  /-- A worker is in `_publish_completion`, before its critical section. -/
  | publishing (completion : AttemptCompletion)
  /-- A worker is about to put the completion. -/
  | putting (completion : AttemptCompletion)
  | delivered

/-- A future of the pool. -/
structure PoolFuture where
  handle : ExecutionHandle
  stage : Stage

def PoolFuture.handleId (future : PoolFuture) : Text := future.handle.handleId

structure ThreadExecutor where
  maxWorkers : Nat
  /-- The futures of the pool, in the order of their submission. -/
  pool : Table PoolFuture.handleId
  books : Books
  /-- The submission that holds the lock, before it adds the callback of its future. -/
  registering : Option ExecutionHandle
  /-- The calls of `shutdown(wait=True)` that wait for the pool. -/
  joining : Nat
  answers : List Answer

/-- What happens next. -/
inductive ThreadEvent where
  | submit (context : RunContext)
  /-- The submission that holds the lock goes on. -/
  | register
  /-- A worker takes the next work item. -/
  | take
  /-- A handler ends. -/
  | finish (handle : ExecutionHandle) (settled : Settled)
  /-- A worker goes through the critical section of `_publish_completion`. -/
  | publish (handle : ExecutionHandle)
  | put (handle : ExecutionHandle)
  | shutdown (wait : Bool)
  /-- The workers have ended, and `shutdown(wait=True)` returns. -/
  | joined
  /-- `CompletionQueue.get_nowait`. -/
  | get

/-- Whether the future is done. -/
def Stage.done : Stage → Bool
  | .pending => false
  | .running => false
  | _ => true

/-- Whether a worker is at it. -/
def Stage.busy : Stage → Bool
  | .running => true
  | .publishing _ => true
  | .putting _ => true
  | _ => false

namespace ThreadExecutor

/-- `ThreadExecutor.key`. -/
def key : Text := .lit "thread"

def new (maxWorkers : Nat) : ThreadExecutor := ⟨maxWorkers, .empty, .empty, none, 0, []⟩

variable (executor : ThreadExecutor)

def answer (reply : Answer) : ThreadExecutor :=
  { executor with answers := executor.answers ++ [reply] }

def setStage (handle : ExecutionHandle) (stage : Stage) : ThreadExecutor :=
  { executor with pool := executor.pool.set ⟨handle, stage⟩ }

def busyWorkers : Nat := executor.pool.rows.countP fun future => future.stage.busy

/-- `submit`, up to the callback of its future, with the lock in its hands. -/
def submit (context : RunContext) : Option ThreadExecutor :=
  if executor.registering.isSome then none
  else if executor.books.shutdown then some (executor.answer (.refused (shutdownError key)))
  else if context.attemptId ∈ executor.books.submittedAttemptIds then
    some (executor.answer (.refused (duplicateError key context.attemptId)))
  else
    let handle := handleFor key context.attemptId
    some { executor with
      pool := executor.pool.set ⟨handle, .pending⟩
      books := executor.books.enter handle
      registering := some handle }

/-- `_publish_completion`: the completion of a future. -/
def completionOf (handle : ExecutionHandle) : Settled → AttemptCompletion
  | .returned result => ⟨handle, .ok result⟩
  | .executorError error => ⟨handle, .error error⟩
  | .cancelled => ⟨handle, .error (Raised.workerError key ⟨"CancelledError", ""⟩)⟩
  | .raised raised => ⟨handle, .error (raised.workerError key)⟩

/-- `add_done_callback`: the callback of a future that is done already runs at once. -/
def register : Option ThreadExecutor :=
  executor.registering.bind fun handle =>
    (executor.pool.find? handle.handleId).map fun future =>
      match future.stage with
      | .finished completion =>
          answer { executor.setStage handle .delivered with
            registering := none
            books := (executor.books.complete handle).put completion } (.submitted handle)
      | _ => answer { executor with registering := none } (.submitted handle)

/-- An idle worker, or a new one, takes the first work item that waits. -/
def take : Option ThreadExecutor :=
  if executor.busyWorkers < executor.maxWorkers then
    (executor.pool.rows.find? fun future => future.stage matches .pending).map fun future =>
      executor.setStage future.handle .running
  else none

def finish (handle : ExecutionHandle) (settled : Settled) : Option ThreadExecutor :=
  match executor.pool.find? handle.handleId with
  | some ⟨handle, .running⟩ =>
      some (executor.setStage handle
        (if executor.registering = some handle then .finished (completionOf handle settled)
          else .publishing (completionOf handle settled)))
  | _ => none

def publish (handle : ExecutionHandle) : Option ThreadExecutor :=
  if executor.registering.isSome then none
  else
    match executor.pool.find? handle.handleId with
    | some ⟨handle, .publishing completion⟩ =>
        some { executor.setStage handle (.putting completion) with
          books := executor.books.complete handle }
    | _ => none

def put (handle : ExecutionHandle) : Option ThreadExecutor :=
  match executor.pool.find? handle.handleId with
  | some ⟨handle, .putting completion⟩ =>
      some { executor.setStage handle .delivered with books := executor.books.put completion }
  | _ => none

/-- `shutdown`, up to the end of the workers. -/
def beginShutdown (wait : Bool) : Option ThreadExecutor :=
  if executor.registering.isSome then none
  else
    let stopped := { executor with books := { executor.books with shutdown := true } }
    if wait then some { stopped with joining := executor.joining + 1 }
    else some (stopped.answer .shutDown)

/-- The workers end when no work item is left. -/
def joined : Option ThreadExecutor :=
  if 0 < executor.joining ∧ executor.busyWorkers = 0 ∧
      executor.pool.rows.all (fun future => future.stage.done) = true then
    some ({ executor with joining := executor.joining - 1 }.answer .shutDown)
  else none

/-- `wait`: whether the future of a handle is done. -/
def wait (handle : ExecutionHandle) : Except ExecutorError Bool :=
  if executor.books.handles.find? handle.handleId ≠ some handle then
    .error (handleNotFoundError key handle.handleId)
  else if handle.handleId ∈ executor.books.completedHandleIds then .ok true
  else if executor.books.activeHandles.contains handle.handleId then
    .ok ((executor.pool.find? handle.handleId).any fun future => future.stage.done)
  else .error (handleNotFoundError key handle.handleId)

def step : ThreadEvent → Option ThreadExecutor
  | .submit context => executor.submit context
  | .register => executor.register
  | .take => executor.take
  | .finish handle settled => executor.finish handle settled
  | .publish handle => executor.publish handle
  | .put handle => executor.put handle
  | .shutdown wait => executor.beginShutdown wait
  | .joined => executor.joined
  | .get => executor.books.get.map fun books => { executor with books := books }

/-- The executor under any calls of any number of threads, interleaved in any way. -/
def system (maxWorkers : Nat) : System ThreadExecutor ThreadEvent where
  start := new maxWorkers
  step := step

end ThreadExecutor

end PyWorkflowKit.V1.Executors
