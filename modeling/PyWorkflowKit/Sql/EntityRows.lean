import PyWorkflowKit.Sql.Mapping

/-!
# Entity rows

Runtime entities and records as relational rows.  A row is read back through
the checks of the entity's constructor.
-/

namespace PyWorkflowKit.Sql

open PyWorkflowKit.Core PyWorkflowKit.Domain PyWorkflowKit.States
open PyWorkflowKit.Persistence

/-- The correlation column, which also holds the resumed run's origin. -/
def workflowCorrelationJson (value : WorkflowRun) : JsonDict :=
  correlationToJson value.correlation ++
    match value.resumeOfRunId with
    | some original => [("resume_of_run_id", .str original.value)]
    | none => []

/-- `workflow_to_row`. -/
def workflowToRow (value : WorkflowRun) : WorkflowRunRow where
  runId := value.runId.str
  workflowName := value.workflowName.value
  workflowVersion := value.workflowVersion.value
  definitionFingerprint := value.definitionFingerprint.value
  planFingerprint := value.planFingerprint.value
  correlationJson := workflowCorrelationJson value
  status := value.status.value
  createdAt := value.createdAt
  startedAt := value.startedAt
  endedAt := value.endedAt
  failureJson := value.failure.map failureToJson

/-- `workflow_from_row`. -/
def workflowFromRow (value : WorkflowRunRow) : Except PyError WorkflowRun := do
  let runId ← requireText value.runId
  let correlation ← correlationFromJson value.correlationJson
  let status ← requireMember value.status
  let failure ← optionalFailureFromJson value.failureJson
  let workflowName ← requireText value.workflowName
  let workflowVersion ← requireText value.workflowVersion
  let definitionFingerprint ← requireText value.definitionFingerprint
  let planFingerprint ← requireText value.planFingerprint
  let resumeOfRunId ← optionalTextAt value.correlationJson "resume_of_run_id"
  if h : workflowRunViolation status value.startedAt value.endedAt = none then
    return {
      runId := ⟨runId⟩
      workflowName := workflowName
      workflowVersion := workflowVersion
      definitionFingerprint := definitionFingerprint
      planFingerprint := planFingerprint
      correlation := correlation
      createdAt := value.createdAt
      status := status
      startedAt := value.startedAt
      endedAt := value.endedAt
      failure := failure
      resumeOfRunId := resumeOfRunId
      valid := h }
  else .error (.valueError "persisted WorkflowRun is inconsistent")

/-- `bool(value)`. -/
def truthy : JsonDoc → Bool
  | .null => false
  | .bool value => value
  | .str value => value ≠ ""
  | .dateTime _ => true
  | .list items => !items.isEmpty
  | .dict members => !members.isEmpty

/-- The status and failure columns of a task run; reuse is stored as success
with a marker. -/
def taskRunColumns (status : TaskRunStatus) (failure : Option FailureEvidence) :
    String × Option JsonDict :=
  if status = .reused then
    (TaskRunStatus.succeeded.value,
      some ((failure.map failureToJson).getD [] ++ [("__reused__", .bool true)]))
  else (status.value, failure.map failureToJson)

/-- `task_run_to_row`. -/
def taskRunToRow (value : TaskRun) : TaskRunRow where
  taskRunId := value.taskRunId.str
  workflowRunId := value.workflowRunId.str
  taskKey := value.taskKey.value
  status := (taskRunColumns value.status value.failure).1
  createdAt := value.createdAt
  startedAt := value.startedAt
  endedAt := value.endedAt
  skipReason := value.skipReason.map SkipReason.value
  blockReason := value.blockReason.map BlockReason.value
  failureJson := (taskRunColumns value.status value.failure).2

/-- The status and failure that the columns of a task run stand for. -/
def taskRunFromColumns (statusColumn : String) (failureJson : Option JsonDict) :
    Except PyError (TaskRunStatus × Option FailureEvidence) := do
  let status ← requireMember statusColumn
  match failureJson with
  | some document =>
      if (getKey document "__reused__").any truthy then do
        let cleaned := document.filter fun member => member.1 ≠ "__reused__"
        let failure ← optionalFailureFromJson
          (if cleaned.isEmpty then none else some cleaned)
        return (.reused, failure)
      else do
        let failure ← optionalFailureFromJson (some document)
        return (status, failure)
  | none => return (status, none)

/-- `Enum(value) if value is not None else None`. -/
def optionalMember {α : Type} [StrEnum α] :
    Option String → Except PyError (Option α)
  | none => .ok none
  | some value => (requireMember value).map some

/-- `task_run_from_row`. -/
def taskRunFromRow (value : TaskRunRow) : Except PyError TaskRun := do
  let columns ← taskRunFromColumns value.status value.failureJson
  let taskRunId ← requireText value.taskRunId
  let workflowRunId ← requireText value.workflowRunId
  let skipReason ← optionalMember value.skipReason
  let blockReason ← optionalMember value.blockReason
  let taskKey ← requireText value.taskKey
  if h : taskRunViolation columns.1 value.endedAt skipReason blockReason = none then
    return {
      taskRunId := ⟨taskRunId⟩
      workflowRunId := ⟨workflowRunId⟩
      taskKey := taskKey
      createdAt := value.createdAt
      status := columns.1
      startedAt := value.startedAt
      endedAt := value.endedAt
      skipReason := skipReason
      blockReason := blockReason
      failure := columns.2
      valid := h }
  else .error (.valueError "persisted TaskRun is inconsistent")

/-- `attempt_to_row`. -/
def attemptToRow (value : TaskAttempt) : TaskAttemptRow where
  attemptId := value.attemptId.str
  taskRunId := value.taskRunId.str
  attemptNumber := value.attemptNumber
  status := value.status.value
  createdAt := value.createdAt
  startedAt := value.startedAt
  endedAt := value.endedAt
  failureJson := value.failure.map failureToJson

/-- `attempt_from_row`. -/
def attemptFromRow (value : TaskAttemptRow) : Except PyError TaskAttempt := do
  let attemptId ← requireText value.attemptId
  let taskRunId ← requireText value.taskRunId
  let status ← requireMember value.status
  let failure ← optionalFailureFromJson value.failureJson
  if h : taskAttemptViolation value.attemptNumber status value.endedAt = none then
    return {
      attemptId := ⟨attemptId⟩
      taskRunId := ⟨taskRunId⟩
      attemptNumber := value.attemptNumber
      createdAt := value.createdAt
      status := status
      startedAt := value.startedAt
      endedAt := value.endedAt
      failure := failure
      valid := h }
  else .error (.valueError "persisted TaskAttempt is inconsistent")

/-- `external_ref_to_row`. -/
def externalRefToRow (externalRefPk : Nat) (attemptId : TaskAttemptId)
    (value : ExternalRunRef) : ExternalRunRefRow where
  externalRefPk := externalRefPk
  attemptId := attemptId.str
  provider := value.provider.value
  kind := value.kind.value
  externalRunId := value.externalRunId.value
  statusHint := value.statusHint.map Text.value
  statusLocator := value.statusLocator.map Text.value
  correlationId := value.correlationId.map CorrelationId.str
  causationId := value.causationId.map Text.value
  metadataJson := pairsToJson value.metadata
  nameSpace := value.nameSpace.value
  contractVersion := value.contractVersion.value

/-- `external_ref_from_row`. -/
def externalRefFromRow (value : ExternalRunRefRow) : Except PyError ExternalRunRef := do
  let provider ← requireText value.provider
  let externalRunId ← requireText value.externalRunId
  let kind ← requireText value.kind
  let statusHint ← optionalText value.statusHint
  let statusLocator ← optionalText value.statusLocator
  let correlationId ← optionalText value.correlationId
  let causationId ← optionalText value.causationId
  let metadata ← pairsFromJson (some value.metadataJson)
  let nameSpace ← requireText value.nameSpace
  let contractVersion ← requireText value.contractVersion
  return {
    provider := provider
    externalRunId := externalRunId
    kind := kind
    statusHint := statusHint
    statusLocator := statusLocator
    correlationId := correlationId.map CorrelationId.mk
    causationId := causationId
    metadata := metadata
    nameSpace := nameSpace
    contractVersion := contractVersion }

/-- The row that `_append_transition` inserts. -/
def transitionToRow (value : StateTransitionRecord) : StateTransitionRow where
  sequence := value.sequence
  entityType := value.entityType.value
  entityId := value.entityId.value
  fromStatus := value.fromStatus.map Text.value
  toStatus := value.toStatus.value
  occurredAt := value.occurredAt

/-- `transition_from_row`. -/
def transitionFromRow (value : StateTransitionRow) :
    Except PyError StateTransitionRecord := do
  let entityType ← requireMember value.entityType
  let entityId ← requireText value.entityId
  let fromStatus ← optionalText value.fromStatus
  let toStatus ← requireText value.toStatus
  if h : 1 ≤ value.sequence then
    return ⟨value.sequence, entityType, entityId, fromStatus, toStatus,
      value.occurredAt, h⟩
  else .error (.valueError "sequence must be greater than or equal to 1")

/-- `output_checkpoint_to_row`. -/
def outputCheckpointToRow (value : TaskOutputCheckpoint) :
    TaskOutputCheckpointRow where
  taskRunId := value.taskRunId.str
  outputJson := plainJsonValue value.output
  recordedAt := value.recordedAt
  digest := value.digest

/-- `output_checkpoint_from_row`. -/
def outputCheckpointFromRow (value : TaskOutputCheckpointRow) :
    Except PyError TaskOutputCheckpoint := do
  let taskRunId ← requireText value.taskRunId
  TaskOutputCheckpoint.new ⟨taskRunId⟩ value.outputJson value.recordedAt value.digest

/-- The row that `set_manifest_reference` inserts. -/
def manifestToRow (runId : WorkflowRunId) (value : ManifestReference) :
    ManifestReferenceRow where
  workflowRunId := runId.str
  locator := value.locator.value
  schemaVersion := value.schemaVersion.value
  digest := value.digest.map Text.value

/-- `manifest_from_row`. -/
def manifestFromRow (value : ManifestReferenceRow) :
    Except PyError ManifestReference := do
  let locator ← requireText value.locator
  let schemaVersion ← requireText value.schemaVersion
  let digest ← optionalText value.digest
  return ⟨locator, schemaVersion, digest⟩

section RowRoundTrips

theorem requireMember_workflowStatus (status : WorkflowRunStatus) :
    requireMember status.value = .ok status :=
  requireMember_value (α := WorkflowRunStatus) status

theorem requireMember_taskStatus (status : TaskRunStatus) :
    requireMember status.value = .ok status :=
  requireMember_value (α := TaskRunStatus) status

theorem requireMember_attemptStatus (status : TaskAttemptStatus) :
    requireMember status.value = .ok status :=
  requireMember_value (α := TaskAttemptStatus) status

theorem optionalMember_skipReason (reason : Option SkipReason) :
    optionalMember (reason.map SkipReason.value) = .ok reason := by
  cases reason with
  | none => rfl
  | some value =>
      have hmember := requireMember_value (α := SkipReason) value
      exact congrArg (Except.map some) hmember

theorem optionalMember_blockReason (reason : Option BlockReason) :
    optionalMember (reason.map BlockReason.value) = .ok reason := by
  cases reason with
  | none => rfl
  | some value =>
      have hmember := requireMember_value (α := BlockReason) value
      exact congrArg (Except.map some) hmember

/-- What the relational store keeps of a correlation context. -/
def storedCorrelation (value : CorrelationContext) : CorrelationContext :=
  { value with traceparent := none, tracestate := none, baggage := .empty }

theorem getKey_append_of_some {document extra : JsonDict} {key : String}
    {doc : JsonDoc} (hget : getKey document key = some doc) :
    getKey (document ++ extra) key = some doc := by
  induction document with
  | nil => simp [getKey] at hget
  | cons first rest ih =>
      obtain ⟨firstKey, firstDoc⟩ := first
      rw [List.cons_append, getKey_cons]
      rw [getKey_cons] at hget
      split at hget
      · next hkey => rw [if_pos hkey]; exact hget
      · next hkey => rw [if_neg hkey]; exact ih hget

/-- A workflow run comes back from its row with the stored correlation. -/
theorem workflowFromRow_workflowToRow (value : WorkflowRun) :
    workflowFromRow (workflowToRow value) =
      .ok { value with correlation := storedCorrelation value.correlation } := by
  have hcorrelation : correlationFromJson (workflowCorrelationJson value) =
      .ok (storedCorrelation value.correlation) :=
    correlationFromJson_of_getKey value.correlation
      fun _ _ hget => getKey_append_of_some hget
  have hresume : optionalTextAt (workflowCorrelationJson value)
      "resume_of_run_id" = .ok value.resumeOfRunId := by
    cases hvalue : value.resumeOfRunId with
    | none =>
        simp [workflowCorrelationJson, hvalue, optionalTextAt, optionalString,
          correlationToJson, getKey, optionalText, bind, Except.bind]
    | some original =>
        exact optionalTextAt_of_getKey (by
          simp [workflowCorrelationJson, hvalue, correlationToJson, stringDoc])
  have hid : requireText value.runId.str = .ok value.runId.value :=
    requireText_value value.runId.value
  have hstatus := requireMember_workflowStatus value.status
  have hfailure := optionalFailureFromJson_map value.failure
  simp only [workflowFromRow, workflowToRow, hid, hcorrelation, hresume, hstatus,
    hfailure, requireText_value, bind, Except.bind]
  exact dif_pos value.valid

theorem getKey_failureToJson_reused (failure : FailureEvidence) :
    getKey (failureToJson failure) "__reused__" = none := by
  simp [failureToJson, getKey]

/-- Status and failure come back from the columns of a task run. -/
theorem taskRunFromColumns_taskRunColumns (status : TaskRunStatus)
    (failure : Option FailureEvidence) :
    taskRunFromColumns (taskRunColumns status failure).1
      (taskRunColumns status failure).2 = .ok (status, failure) := by
  have hstatus := requireMember_taskStatus status
  have hsucceeded := requireMember_taskStatus .succeeded
  by_cases hreused : status = .reused
  · subst hreused
    cases failure with
    | none =>
        simp [taskRunColumns, taskRunFromColumns, hsucceeded, truthy, bind,
          Except.bind, optionalFailureFromJson, pure, Except.pure]
    | some evidence =>
        have hreusedKey : getKey (failureToJson evidence ++
            [("__reused__", .bool true)]) "__reused__" = some (.bool true) := by
          simp [failureToJson]
        have hcleaned : (failureToJson evidence ++
            [("__reused__", JsonDoc.bool true)]).filter
            (fun member => decide (member.1 ≠ "__reused__")) =
            failureToJson evidence := by
          simp [failureToJson]
        have hround := failureFromJson_failureToJson evidence
        have hnonempty : (failureToJson evidence).isEmpty = false := rfl
        simp only [taskRunColumns, taskRunFromColumns, if_true, Option.map_some,
          Option.getD_some, hsucceeded, hreusedKey, hcleaned, hnonempty, bind,
          Except.bind, Option.any_some, truthy, optionalFailureFromJson, hround,
          Except.map, Bool.false_eq_true, if_false]
        rfl
  · cases failure with
    | none =>
        simp [taskRunColumns, taskRunFromColumns, hreused, hstatus, bind,
          Except.bind, pure, Except.pure]
    | some evidence =>
        have hround := failureFromJson_failureToJson evidence
        simp only [taskRunColumns, taskRunFromColumns, if_neg hreused,
          Option.map_some, hstatus, getKey_failureToJson_reused, bind, Except.bind,
          Option.any_none, optionalFailureFromJson, hround, Except.map,
          Bool.false_eq_true, if_false]
        rfl

/-- A task run comes back from its row, in every status. -/
theorem taskRunFromRow_taskRunToRow (value : TaskRun) :
    taskRunFromRow (taskRunToRow value) = .ok value := by
  have hcolumns := taskRunFromColumns_taskRunColumns value.status value.failure
  have hskip := optionalMember_skipReason value.skipReason
  have hblock := optionalMember_blockReason value.blockReason
  have hid : requireText value.taskRunId.str = .ok value.taskRunId.value :=
    requireText_value value.taskRunId.value
  have hrun : requireText value.workflowRunId.str = .ok value.workflowRunId.value :=
    requireText_value value.workflowRunId.value
  simp only [taskRunFromRow, taskRunToRow, hcolumns, hid, hrun, hskip, hblock,
    requireText_value, bind, Except.bind]
  exact dif_pos value.valid

/-- An attempt comes back from its row. -/
theorem attemptFromRow_attemptToRow (value : TaskAttempt) :
    attemptFromRow (attemptToRow value) = .ok value := by
  have hid : requireText value.attemptId.str = .ok value.attemptId.value :=
    requireText_value value.attemptId.value
  have htask : requireText value.taskRunId.str = .ok value.taskRunId.value :=
    requireText_value value.taskRunId.value
  have hstatus := requireMember_attemptStatus value.status
  have hfailure := optionalFailureFromJson_map value.failure
  simp only [attemptFromRow, attemptToRow, hid, htask, hstatus, hfailure, bind,
    Except.bind]
  exact dif_pos value.valid

/-- An external reference comes back from its row. -/
theorem externalRefFromRow_externalRefToRow (externalRefPk : Nat)
    (attemptId : TaskAttemptId) (value : ExternalRunRef) :
    externalRefFromRow (externalRefToRow externalRefPk attemptId value) =
      .ok value := by
  have hcorrelation : optionalText (value.correlationId.map CorrelationId.str) =
      .ok (value.correlationId.map CorrelationId.value) := by
    rw [← optionalText_map_value]
    congr 1
    cases value.correlationId <;> rfl
  simp only [externalRefFromRow, externalRefToRow, requireText_value,
    optionalText_map_value, hcorrelation, pairsFromJson_pairsToJson, bind,
    Except.bind]
  cases value with
  | mk provider run kind hint locator correlation causation metadata nameSpace
      version =>
    cases correlation <;> rfl

/-- A transition record comes back from its row. -/
theorem transitionFromRow_transitionToRow (value : StateTransitionRecord) :
    transitionFromRow (transitionToRow value) = .ok value := by
  have htype := requireMember_value (α := StateEntityType) value.entityType
  have htype' : requireMember value.entityType.value = .ok value.entityType := htype
  simp only [transitionFromRow, transitionToRow, htype', requireText_value,
    optionalText_map_value, bind, Except.bind]
  exact dif_pos value.positive

/-- An output checkpoint comes back from its row. -/
theorem outputCheckpointFromRow_outputCheckpointToRow (value : TaskOutputCheckpoint) :
    outputCheckpointFromRow (outputCheckpointToRow value) = .ok value := by
  have hid : requireText value.taskRunId.str = .ok value.taskRunId.value :=
    requireText_value value.taskRunId.value
  simp only [outputCheckpointFromRow, outputCheckpointToRow, hid, bind, Except.bind]
  exact TaskOutputCheckpoint.new_plain value

/-- A manifest reference comes back from its row. -/
theorem manifestFromRow_manifestToRow (runId : WorkflowRunId)
    (value : ManifestReference) :
    manifestFromRow (manifestToRow runId value) = .ok value := by
  simp only [manifestFromRow, manifestToRow, requireText_value,
    optionalText_map_value, bind, Except.bind]
  rfl

end RowRoundTrips

end PyWorkflowKit.Sql
