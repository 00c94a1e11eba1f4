import PyWorkflowKit.V1.Entities

/-!
# The memory store of version 1

The metadata store that keeps its tables in memory, and the writes of its units of work.
-/

namespace PyWorkflowKit.V1

open PyWorkflowKit.Core PyWorkflowKit.Domain

mutual

/-- `_portable_json_value`. -/
def portableJsonValue (path : String) : PyValue → Except Error PyValue
  | .none => .ok .none
  | .str value => .ok (.str value)
  | .bool value => .ok (.bool value)
  | .int value => .ok (.int value)
  | .float repr finite =>
      if finite then .ok (.float repr true)
      else
        .error (.serialization path "float"
          "non-finite floating-point values are not portable JSON")
  | .enum value => portableJsonValue path value
  | .dict members =>
      (((sortBy Prod.fst (portableMembers path members)).map Prod.snd).mapM id).map
        fun normalized => .dict (dictOf normalized |>.map fun member =>
          (.str member.1, member.2))
  | .list items => ((portableItems path 0 items).mapM id).map .list
  | .tuple items => ((portableItems path 0 items).mapM id).map .list
  | .other typeName =>
      .error (.serialization path typeName "value is not representable as portable JSON")

/-- The portable form of every item, not yet collected. -/
def portableItems (path : String) (index : Nat) : List PyValue → List (Except Error PyValue)
  | [] => []
  | item :: rest =>
      portableJsonValue (path ++ "[" ++ toString index ++ "]") item ::
        portableItems path (index + 1) rest

/-- The portable form of every member under the text its key sorts by. -/
def portableMembers (path : String) :
    List (PyKey × PyValue) → List (String × Except Error (String × PyValue))
  | [] => []
  | (key, value) :: rest =>
      (key.text,
        match key with
        | .str name =>
            (portableJsonValue (path ++ "." ++ name) value).map fun normalized =>
              (name, normalized)
        | .other typeName =>
            .error (.serialization path ("mapping-key:" ++ typeName)
              "portable JSON object keys must be strings")) ::
        portableMembers path rest

end

/-- The owner of an output, an artifact or an external reference, and the thing owned. -/
structure Owned (α : Type) where
  taskRunId : TaskRunId
  value : α

/-- `_MemoryState`. -/
structure MemoryState where
  workflowRuns : Table WorkflowRun.runId
  taskRuns : Table TaskRun.taskRunId
  taskAttempts : Table TaskAttempt.attemptId
  events : Table RuntimeEvent.eventId
  taskOutputs : Table (Owned.taskRunId : Owned PyValue → TaskRunId)
  artifacts : Table fun owned : Owned ArtifactReference => owned.value.artifactId
  externalRefs : Table fun owned : Owned ExternalRunRef => owned.value.externalRefId

namespace MemoryState

def empty : MemoryState :=
  ⟨.empty, .empty, .empty, .empty, .empty, .empty, .empty⟩

variable (state : MemoryState)

def addWorkflowRun (run : WorkflowRun) : Except Error MemoryState :=
  if state.workflowRuns.contains run.runId then
    .error (.duplicateMetadata "WorkflowRun" run.runId.str)
  else .ok { state with workflowRuns := state.workflowRuns.set run }

def saveWorkflowRun (run : WorkflowRun) : Except Error MemoryState :=
  if state.workflowRuns.contains run.runId then
    .ok { state with workflowRuns := state.workflowRuns.set run }
  else .error (.metadataNotFound "WorkflowRun" run.runId.str)

def addTaskRun (taskRun : TaskRun) : Except Error MemoryState :=
  if state.taskRuns.contains taskRun.taskRunId then
    .error (.duplicateMetadata "TaskRun" taskRun.taskRunId.str)
  else if state.workflowRuns.contains taskRun.runId then
    .ok { state with taskRuns := state.taskRuns.set taskRun }
  else .error (.metadataNotFound "WorkflowRun" taskRun.runId.str)

def saveTaskRun (taskRun : TaskRun) : Except Error MemoryState :=
  if state.taskRuns.contains taskRun.taskRunId then
    .ok { state with taskRuns := state.taskRuns.set taskRun }
  else .error (.metadataNotFound "TaskRun" taskRun.taskRunId.str)

/-- Another attempt of the task run has the number. -/
def numberTaken (attempt : TaskAttempt) : Bool :=
  state.taskAttempts.rows.any fun existing =>
    existing.taskRunId = attempt.taskRunId && existing.attemptNumber = attempt.attemptNumber

def addTaskAttempt (attempt : TaskAttempt) : Except Error MemoryState :=
  if state.taskAttempts.contains attempt.attemptId then
    .error (.duplicateMetadata "TaskAttempt" attempt.attemptId.str)
  else if ¬ state.taskRuns.contains attempt.taskRunId then
    .error (.metadataNotFound "TaskRun" attempt.taskRunId.str)
  else if state.numberTaken attempt then
    .error (.duplicateMetadata "TaskAttemptNumber"
      (attempt.taskRunId.str ++ ":" ++ toString attempt.attemptNumber))
  else .ok { state with taskAttempts := state.taskAttempts.set attempt }

def saveTaskAttempt (attempt : TaskAttempt) : Except Error MemoryState :=
  if state.taskAttempts.contains attempt.attemptId then
    .ok { state with taskAttempts := state.taskAttempts.set attempt }
  else .error (.metadataNotFound "TaskAttempt" attempt.attemptId.str)

/-- The sequence numbers of the events of a run. -/
def sequences (runId : WorkflowRunId) : List Nat :=
  (state.events.rows.filter fun event => event.runId = runId).filterMap
    RuntimeEvent.eventSequence

def addEvent (event : RuntimeEvent) : Except Error MemoryState :=
  if state.events.contains event.eventId then
    .error (.duplicateMetadata "RuntimeEvent" event.eventId.value)
  else if ¬ state.workflowRuns.contains event.runId then
    .error (.metadataNotFound "WorkflowRun" event.runId.str)
  else
    let previousSequence := (state.sequences event.runId).foldr max 0
    if ∃ sequence ∈ event.eventSequence, previousSequence < sequence then
      .ok { state with events := state.events.set event }
    else
      .error (.invalidEventSequence event.runId.str previousSequence event.eventSequence)

def addTaskOutputCheckpoint (taskRunId : TaskRunId) (output : PyValue) :
    Except Error MemoryState :=
  if ¬ state.taskRuns.contains taskRunId then
    .error (.metadataNotFound "TaskRun" taskRunId.str)
  else if state.taskOutputs.contains taskRunId then
    .error (.duplicateMetadata "TaskOutputCheckpoint" taskRunId.str)
  else
    (portableJsonValue ("task_output_checkpoint." ++ taskRunId.str) output).map fun normalized =>
      { state with taskOutputs := state.taskOutputs.set ⟨taskRunId, normalized⟩ }

def addArtifact (taskRunId : TaskRunId) (artifact : ArtifactReference) :
    Except Error MemoryState :=
  if ¬ state.taskRuns.contains taskRunId then
    .error (.metadataNotFound "TaskRun" taskRunId.str)
  else if state.artifacts.contains artifact.artifactId then
    .error (.duplicateMetadata "Artifact" artifact.artifactId.value)
  else .ok { state with artifacts := state.artifacts.set ⟨taskRunId, artifact⟩ }

def addExternalRunRef (taskRunId : TaskRunId) (externalRef : ExternalRunRef) :
    Except Error MemoryState :=
  if ¬ state.taskRuns.contains taskRunId then
    .error (.metadataNotFound "TaskRun" taskRunId.str)
  else if state.externalRefs.contains externalRef.externalRefId then
    .error (.duplicateMetadata "ExternalRunRef" externalRef.externalRefId.value)
  else .ok { state with externalRefs := state.externalRefs.set ⟨taskRunId, externalRef⟩ }

section Queries

/-- `get_workflow_run`. -/
def getWorkflowRun (runId : WorkflowRunId) : Except Error WorkflowRun :=
  match state.workflowRuns.find? runId with
  | some run => .ok run
  | none => .error (.metadataNotFound "WorkflowRun" runId.str)

/-- `list_task_runs`. -/
def listTaskRuns (runId : WorkflowRunId) : List TaskRun :=
  sortBy (fun taskRun => taskRun.taskId.value)
    (state.taskRuns.rows.filter fun taskRun => taskRun.runId = runId)

/-- `list_task_attempts`. -/
def listTaskAttempts (taskRunId : TaskRunId) : List TaskAttempt :=
  sortBy TaskAttempt.attemptNumber
    (state.taskAttempts.rows.filter fun attempt => attempt.taskRunId = taskRunId)

/-- `list_events`. -/
def listEvents (runId : WorkflowRunId) : List RuntimeEvent :=
  sortBy (fun event => toLex (event.eventSequence.getD (2 ^ 63 - 1), event.eventId.value))
    (state.events.rows.filter fun event => event.runId = runId)

/-- `get_task_output_checkpoint`. -/
def getTaskOutputCheckpoint (taskRunId : TaskRunId) : Except Error PyValue :=
  match state.taskOutputs.find? taskRunId with
  | some output => .ok output.value
  | none => .error (.metadataNotFound "TaskOutputCheckpoint" taskRunId.str)

/-- `list_external_run_refs`. -/
def listExternalRunRefs (taskRunId : TaskRunId) : List ExternalRunRef :=
  sortBy (fun externalRef => externalRef.externalRefId.value)
    ((state.externalRefs.rows.filter fun owned => owned.taskRunId = taskRunId).map Owned.value)

end Queries

end MemoryState

/-- The write calls of a unit of work. -/
inductive WriteCall where
  | addWorkflowRun (run : WorkflowRun)
  | saveWorkflowRun (run : WorkflowRun)
  | addTaskRun (taskRun : TaskRun)
  | saveTaskRun (taskRun : TaskRun)
  | addTaskAttempt (attempt : TaskAttempt)
  | saveTaskAttempt (attempt : TaskAttempt)
  | addEvent (event : RuntimeEvent)
  | addTaskOutputCheckpoint (taskRunId : TaskRunId) (output : PyValue)
  | addArtifact (taskRunId : TaskRunId) (artifact : ArtifactReference)
  | addExternalRunRef (taskRunId : TaskRunId) (externalRef : ExternalRunRef)

/-- The staged state that a write call leaves. -/
def MemoryState.write (call : WriteCall) (state : MemoryState) : Except Error MemoryState :=
  match call with
  | .addWorkflowRun run => state.addWorkflowRun run
  | .saveWorkflowRun run => state.saveWorkflowRun run
  | .addTaskRun taskRun => state.addTaskRun taskRun
  | .saveTaskRun taskRun => state.saveTaskRun taskRun
  | .addTaskAttempt attempt => state.addTaskAttempt attempt
  | .saveTaskAttempt attempt => state.saveTaskAttempt attempt
  | .addEvent event => state.addEvent event
  | .addTaskOutputCheckpoint taskRunId output => state.addTaskOutputCheckpoint taskRunId output
  | .addArtifact taskRunId artifact => state.addArtifact taskRunId artifact
  | .addExternalRunRef taskRunId externalRef => state.addExternalRunRef taskRunId externalRef

/-- `MemoryUnitOfWork`: its staged state while it is active. -/
abbrev MemoryUnitOfWork := Option MemoryState

namespace MemoryUnitOfWork

/-- `__enter__`. -/
def enter (unit : MemoryUnitOfWork) (store : MemoryState) : Except Error MemoryUnitOfWork :=
  match unit with
  | some _ => .error (.unitOfWorkState "unit of work is already active")
  | none => .ok (some store)

/-- A write call on the staged state. -/
def write (unit : MemoryUnitOfWork) (call : WriteCall) : Except Error MemoryUnitOfWork :=
  match unit with
  | none => .error (.unitOfWorkState "unit of work must be entered before use")
  | some state => (state.write call).map some

/-- `commit`: the state the store gets, and the unit of work afterwards. -/
def commit (unit : MemoryUnitOfWork) : Except Error (MemoryState × MemoryUnitOfWork) :=
  match unit with
  | none => .error (.unitOfWorkState "unit of work must be entered before use")
  | some state => .ok (state, none)

/-- `rollback`. -/
def rollback (unit : MemoryUnitOfWork) : Except Error MemoryUnitOfWork :=
  match unit with
  | none => .error (.unitOfWorkState "unit of work is not active")
  | some _ => .ok none

/-- `__exit__`: a unit of work that is still active rolls back. -/
def exit (_ : MemoryUnitOfWork) : MemoryUnitOfWork := none

end MemoryUnitOfWork

/-- The writes of one `with` block that ends in a commit. -/
def MemoryState.unitOfWork (calls : List WriteCall) (store : MemoryState) :
    Except Error MemoryState := do
  let entered ← MemoryUnitOfWork.enter none store
  let written ← calls.foldlM MemoryUnitOfWork.write entered
  let (committed, _) ← written.commit
  .ok committed

end PyWorkflowKit.V1
