import PyWorkflowKit.Serialization.Schemas

/-!
# Boundary values and their schemas

The boundary values, and the two mappings between a value and its schema.
-/

namespace PyWorkflowKit.Serialization

open PyWorkflowKit.Core PyWorkflowKit.Domain

structure WorkflowExecutionReference where
  workflowRunId : WorkflowRunId
  workflowDefinitionId : Text
  status : Option Text
  startedAt : Option DateTime
  owner : Text
  nameSpace : Text
  contractVersion : Text
deriving DecidableEq

/-- A failure with the reading of its datetime, of which the equality of
failures only sees the instant. -/
structure DatedFailure where
  evidence : FailureEvidence
  occurredAt : DateTime
  denotes : occurredAt.instant = evidence.occurredAt
deriving DecidableEq

/-- A value of one of the five boundary types. -/
inductive BoundaryValue where
  | correlationContext (value : CorrelationContext)
  | workflowExecutionReference (value : WorkflowExecutionReference)
  | externalRunRef (value : ExternalRunRef)
  | failureEvidence (value : DatedFailure)
  | diagnostic (value : Diagnostic)
deriving DecidableEq

/-- The first of a list of keys that stands before in it. -/
def firstRepeated : List String → List String → Option String
  | _, [] => none
  | seen, key :: rest => if key ∈ seen then some key else firstRepeated (key :: seen) rest

/-- `_pairs_to_dict`. -/
def pairsToDict (values : Pairs) (fieldName : String) : Except WireError Baggage :=
  match firstRepeated [] (values.map Prod.fst) with
  | some key =>
      .error (.valueError (fieldName ++ " contains duplicate key " ++ PyError.quoted key))
  | none => .ok (pairsDict values)

/-- `_format_required_wire_datetime`. -/
def formatRequiredWireDatetime (value : DateTime) : Except WireError String :=
  match value.toUtc? with
  | none => .error (.overflowError "date value out of range")
  | some normalized =>
      let rendered := normalized.isoformat.toList
      if rendered.drop (rendered.length - 6) = "+00:00".toList then
        .ok (String.ofList (rendered.take (rendered.length - 6) ++ ['Z']))
      else .ok normalized.isoformat

/-- `_format_wire_datetime`. -/
def formatWireDatetime : Option DateTime → Except WireError (Option String)
  | none => .ok none
  | some value => (formatRequiredWireDatetime value).map some

/-- The datetime field of a schema under construction is validated. -/
def constructedTime (readers : Readers) (field value : String) : Except WireError String :=
  match checkedTime readers field value with
  | .ok value => .ok value
  | .error error => .error (.validation error)

/-- `_external_run_ref_schema`. -/
def externalRunRefSchema (value : ExternalRunRef) : Except WireError ExternalRunRefSchema := do
  return {
    provider := value.provider
    externalRunId := value.externalRunId
    kind := value.kind
    statusHint := value.statusHint
    statusLocator := value.statusLocator
    correlationId := value.correlationId.map CorrelationId.value
    causationId := value.causationId
    metadata := ← pairsToDict value.metadata "metadata"
    nameSpace := value.nameSpace
    contractVersion := value.contractVersion }

/-- `_external_run_ref_value`. -/
def externalRunRefValue (schema : ExternalRunRefSchema) : ExternalRunRef where
  provider := schema.provider
  externalRunId := schema.externalRunId
  kind := schema.kind
  statusHint := schema.statusHint
  statusLocator := schema.statusLocator
  correlationId := schema.correlationId.map CorrelationId.mk
  causationId := schema.causationId
  metadata := schema.metadata.members
  nameSpace := schema.nameSpace
  contractVersion := schema.contractVersion

/-- `schema_for_value` on a correlation context. -/
def correlationContextSchema (value : CorrelationContext) : CorrelationContextSchema where
  correlationId := value.correlationId.value
  causationId := value.causationId
  parentExecutionId := value.parentExecutionId
  workflowRunId := value.workflowRunId
  taskRunId := value.taskRunId
  taskAttemptId := value.taskAttemptId
  ingestionRunId := value.ingestionRunId
  transformationExecutionId := value.transformationExecutionId
  traceId := value.traceId
  spanId := value.spanId
  traceparent := value.traceparent
  tracestate := value.tracestate
  baggage := if value.baggage.members = [] then none else some value.baggage

/-- `schema_for_value` on an execution reference. -/
def workflowExecutionReferenceSchema (readers : Readers) (value : WorkflowExecutionReference) :
    Except WireError WorkflowExecutionReferenceSchema := do
  let startedAt ← formatWireDatetime value.startedAt
  return {
    workflowRunId := value.workflowRunId.value
    workflowDefinitionId := value.workflowDefinitionId
    status := value.status
    startedAt := ← startedAt.mapM (constructedTime readers "started_at")
    owner := value.owner
    nameSpace := value.nameSpace
    contractVersion := value.contractVersion }

/-- `schema_for_value` on a failure. -/
def failureEvidenceSchema (readers : Readers) (value : DatedFailure) :
    Except WireError FailureEvidenceSchema := do
  let externalRun ← value.evidence.externalRun.mapM externalRunRefSchema
  let occurredAt ← formatRequiredWireDatetime value.occurredAt
  let details ← pairsToDict value.evidence.details "details"
  return {
    errorCode := value.evidence.errorCode
    category := value.evidence.category
    retryability := value.evidence.retryability
    uncertainty := value.evidence.uncertainty
    correlationId := value.evidence.correlationId.value
    sourceFramework := value.evidence.sourceFramework
    workflowRunId := value.evidence.workflowRunId
    taskRunId := value.evidence.taskRunId
    taskAttemptId := value.evidence.taskAttemptId
    externalRun := externalRun
    sourceComponent := value.evidence.sourceComponent
    providerCode := value.evidence.providerCode
    messageSummary := value.evidence.messageSummary
    occurredAt := ← constructedTime readers "occurred_at" occurredAt
    details := details
    contractVersion := value.evidence.contractVersion }

/-- `schema_for_value` on a diagnostic. -/
def diagnosticSchema (value : Diagnostic) : Except WireError DiagnosticSchema := do
  return {
    code := value.code
    severity := value.severity
    summary := value.summary
    details := ← pairsToDict value.details "details"
    workflowRunId := value.workflowRunId
    taskRunId := value.taskRunId
    taskAttemptId := value.taskAttemptId
    correlationId := value.correlationId.map CorrelationId.value
    sourceComponent := value.sourceComponent
    decisionContext := value.decisionContext
    relatedPolicy := value.relatedPolicy
    sourceFramework := value.sourceFramework }

/-- `schema_for_value`. -/
def schemaForValue (readers : Readers) : BoundaryValue → Except WireError BoundarySchema
  | .correlationContext value => .ok (.correlationContext (correlationContextSchema value))
  | .workflowExecutionReference value =>
      (workflowExecutionReferenceSchema readers value).map .workflowExecutionReference
  | .externalRunRef value => (externalRunRefSchema value).map .externalRunRef
  | .failureEvidence value => (failureEvidenceSchema readers value).map .failureEvidence
  | .diagnostic value => (diagnosticSchema value).map .diagnostic

/-- `value_from_schema`. -/
def valueFromSchema (readers : Readers) : BoundarySchema → Except WireError BoundaryValue
  | .correlationContext schema =>
      .ok (.correlationContext {
        correlationId := ⟨schema.correlationId⟩
        causationId := schema.causationId
        parentExecutionId := schema.parentExecutionId
        workflowRunId := schema.workflowRunId
        taskRunId := schema.taskRunId
        taskAttemptId := schema.taskAttemptId
        ingestionRunId := schema.ingestionRunId
        transformationExecutionId := schema.transformationExecutionId
        traceId := schema.traceId
        spanId := schema.spanId
        traceparent := schema.traceparent
        tracestate := schema.tracestate
        baggage := schema.baggage.getD .empty })
  | .workflowExecutionReference schema => do
      let startedAt ← schema.startedAt.mapM (parseWireDatetime readers "started_at")
      return .workflowExecutionReference {
        workflowRunId := ⟨schema.workflowRunId⟩
        workflowDefinitionId := schema.workflowDefinitionId
        status := schema.status
        startedAt := startedAt
        owner := schema.owner
        nameSpace := schema.nameSpace
        contractVersion := schema.contractVersion }
  | .externalRunRef schema => .ok (.externalRunRef (externalRunRefValue schema))
  | .failureEvidence schema => do
      let occurredAt ← parseWireDatetime readers "occurred_at" schema.occurredAt
      return .failureEvidence {
        evidence := {
          errorCode := schema.errorCode
          category := schema.category
          retryability := schema.retryability
          uncertainty := schema.uncertainty
          correlationId := ⟨schema.correlationId⟩
          sourceFramework := schema.sourceFramework
          workflowRunId := schema.workflowRunId
          taskRunId := schema.taskRunId
          taskAttemptId := schema.taskAttemptId
          externalRun := schema.externalRun.map externalRunRefValue
          sourceComponent := schema.sourceComponent
          providerCode := schema.providerCode
          messageSummary := schema.messageSummary
          occurredAt := occurredAt.instant
          details := schema.details.members
          contractVersion := schema.contractVersion }
        occurredAt := occurredAt
        denotes := rfl }
  | .diagnostic schema =>
      .ok (.diagnostic {
        code := schema.code
        severity := schema.severity
        summary := schema.summary
        details := schema.details.members
        workflowRunId := schema.workflowRunId
        taskRunId := schema.taskRunId
        taskAttemptId := schema.taskAttemptId
        correlationId := schema.correlationId.map CorrelationId.mk
        sourceComponent := schema.sourceComponent
        decisionContext := schema.decisionContext
        relatedPolicy := schema.relatedPolicy
        sourceFramework := schema.sourceFramework })

end PyWorkflowKit.Serialization
