import Mathlib.Data.List.Count
import PyWorkflowKit.Core.Delivery
import PyWorkflowKit.V1.Services

/-!
# Submission and completion

What the executors of the concurrent runner share: handles, the errors of a refused call, the
completion of an attempt and the queue that transfers it.
-/

namespace PyWorkflowKit.V1.Executors

open PyWorkflowKit.Core PyWorkflowKit.Domain

theorem isBlank_append {left right : String} (hleft : isBlank left = false) :
    isBlank (left ++ right) = false := by
  rw [isBlank, String.toList_append, List.all_append]
  rw [isBlank] at hleft
  rw [hleft, Bool.false_and]

/-- The handle of an attempt: `f"{key}:{attempt_id}"` identifies it. -/
def handleFor (executorKey : Text) (attemptId : TaskAttemptId) : ExecutionHandle where
  handleId := ⟨executorKey.value ++ (":" ++ attemptId.str), isBlank_append executorKey.notBlank⟩
  attemptId := attemptId
  executorKey := executorKey

theorem handleFor_injective {executorKey : Text} {left right : TaskAttemptId}
    (hid : (handleFor executorKey left).handleId = (handleFor executorKey right).handleId) :
    left = right := by
  apply TaskAttemptId.str_injective
  have htext := congrArg Text.value hid
  simp only [handleFor, String.append_right_inj] at htext
  exact htext

/-- `ExecutorShutdownError`. -/
def shutdownError (executorKey : Text) : ExecutorError :=
  .other "ExecutorShutdownError"
    ("Executor '" ++ executorKey.value ++ "' is shut down and cannot accept new work.")

/-- `DuplicateExecutionSubmissionError`. -/
def duplicateError (executorKey : Text) (attemptId : TaskAttemptId) : ExecutorError :=
  .other "DuplicateExecutionSubmissionError"
    ("Executor '" ++ executorKey.value ++ "' already received task attempt '" ++
      attemptId.str ++ "'.")

/-- `ExecutionHandleNotFoundError`. -/
def handleNotFoundError (executorKey handleId : Text) : ExecutorError :=
  .other "ExecutionHandleNotFoundError"
    ("Executor '" ++ executorKey.value ++ "' does not know execution handle '" ++
      handleId.value ++ "'.")

/-- `ExecutorWorkerError`. -/
def workerError (executorKey : Text) (errorType errorMessage : String) : ExecutorError :=
  .other "ExecutorWorkerError"
    ("Executor '" ++ executorKey.value ++ "' worker failed with " ++ errorType ++ ": " ++
      errorMessage)

/-- `InvalidHandlerError`. -/
def invalidHandlerError (taskId : TaskId) (reason : String) : ExecutorError :=
  .other "InvalidHandlerError"
    ("Handler for task '" ++ taskId.value ++ "' is invalid: " ++ reason ++ ".")

/-- A task that asks for another executor. -/
def executorMismatch (requested executorKey : Text) : String :=
  "task requests executor '" ++ requested.value ++ "', but executor key is '" ++
    executorKey.value ++ "'"

/-- An exception: the name of its class and `str` of it. -/
structure Raised where
  typeName : String
  message : String

/-- The worker error about an exception, whose message is its type name where it has none. -/
def Raised.workerError (executorKey : Text) (raised : Raised) : ExecutorError :=
  Executors.workerError executorKey raised.typeName
    (if raised.message = "" then raised.typeName else raised.message)

/-- How the execution of a handler ends. -/
inductive Settled where
  | returned (result : TaskResult)
  | executorError (error : ExecutorError)
  | cancelled
  | raised (raised : Raised)

/-- What a call of a client comes to. -/
inductive Answer where
  | submitted (handle : ExecutionHandle)
  | cancelled (requested : Bool)
  | terminated (stopped : Bool)
  | shutDown
  | refused (error : ExecutorError)

/-- Handles are told apart by their identities. -/
abbrev Handles := Table ExecutionHandle.handleId

section Lists

variable {α β : Type} [DecidableEq β]

/-- The entries at a position replaced by others. -/
def splice (entries : List α) (index : Nat) (others : List α) : List α :=
  entries.take index ++ others ++ entries.drop (index + 1)

theorem eq_splice {entries : List α} {index : Nat} {entry : α}
    (hentry : entries[index]? = some entry) : entries = splice entries index [entry] := by
  obtain ⟨hlength, rfl⟩ := List.getElem?_eq_some_iff.mp hentry
  rw [splice, List.append_assoc, List.singleton_append, List.cons_getElem_drop_succ,
    List.take_append_drop]

/-- Counting what the entries hold, before and after a replacement. -/
theorem count_splice (holds : α → List β) {entries : List α} {index : Nat} {entry : α}
    (hentry : entries[index]? = some entry) (others : List α) (wanted : β) :
    ((splice entries index others).flatMap holds).count wanted + (holds entry).count wanted =
      (entries.flatMap holds).count wanted + (others.flatMap holds).count wanted := by
  conv_rhs => rw [eq_splice hentry]
  simp only [splice, List.flatMap_append, List.count_append, List.flatMap_singleton]
  omega

theorem mem_splice {entries others : List α} {index : Nat} {entry : α}
    (hmem : entry ∈ splice entries index others) : entry ∈ entries ∨ entry ∈ others := by
  rw [splice, List.mem_append, List.mem_append] at hmem
  rcases hmem with (hbefore | hnew) | hafter
  · exact Or.inl (List.mem_of_mem_take hbefore)
  · exact Or.inr hnew
  · exact Or.inl (List.mem_of_mem_drop hafter)

end Lists

/-- Removing a handle leaves every other one. -/
theorem count_remove (handles : Handles) {handle : ExecutionHandle}
    (hmem : handle ∈ handles.rows) (wanted : ExecutionHandle) :
    (handles.filter fun row => row.handleId ≠ handle.handleId).rows.count wanted +
      [handle].count wanted = handles.rows.count wanted := by
  rw [(handles.perm_cons_filter hmem).count_eq]
  simp only [List.count_cons, List.count_nil, Nat.zero_add, Table.rows_filter]

theorem not_mem_extracting : (.lit "extract" : TaskId) ∉ ([] : List TaskId) :=
  List.not_mem_nil

/-- A task for an executor. -/
def extracting (executorKey : Text) : TaskDefinition where
  taskId := .lit "extract"
  handlerRef := some (.lit "handlers.extract")
  dependsOn := []
  retryPolicy := .default
  executorKey := executorKey
  timeoutSeconds := none
  timeoutMode := .none
  positiveTimeout := TimeoutMode.positive_none
  timed := TimeoutMode.timed_none
  distinct := List.nodup_nil
  irreflexive := not_mem_extracting

/-- The first attempt of the task. -/
def extractContext : RunContext where
  workflowRunId := ⟨.lit "run-1"⟩
  taskRunId := ⟨.lit "task-run-1"⟩
  attemptId := ⟨.lit "attempt-1"⟩
  taskId := .lit "extract"
  attemptNumber := 1
  workflowParameters := []
  dependencyOutputs := []

def extracted : TaskResult := ⟨.none, [], []⟩

end PyWorkflowKit.V1.Executors
