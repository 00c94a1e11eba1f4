import PyWorkflowKit.Domain.Evidence
import PyWorkflowKit.Domain.JsonReader

/-!
# Boundary schemas

The five boundary schemas and the envelope: what a schema instance holds, what
it dumps and what it validates.  A member that is absent is `none` in a dump.
-/

namespace PyWorkflowKit.Serialization

open PyWorkflowKit.Core PyWorkflowKit.Domain

/-- What the validation of a schema reports: a field and the reason. -/
structure ValidationError where
  field : String
  reason : String
deriving DecidableEq

def ValidationError.text (error : ValidationError) : String :=
  error.field ++ ": " ++ error.reason

/-- The exceptions of the codec. -/
inductive WireError where
  | wireContract (message : String)
  | validation (error : ValidationError)
  | valueError (message : String)
  | overflowError (message : String)
  | raisedByUpcaster (message : String)
deriving DecidableEq

/-- What the standard library makes of the texts that its own writers do not
produce. -/
structure Readers where
  otherDateTimes : String → Option Moment
  otherJson : String → Except WireError JsonValue

/-- The members of a JSON object. -/
abbrev Body := List (String × JsonValue)

/-- The dictionary that a sequence of pairs leaves. -/
def pairsDict (pairs : Pairs) : Baggage where
  members := sortBy Prod.fst (dictOf pairs)
  sorted := sortBy_pairwise_lt Prod.fst (by
    have hnodup : ∀ (rest rows : Pairs), (rows.map Prod.fst).Nodup →
        ((rest.foldl (assignRow Prod.fst) rows).map Prod.fst).Nodup := by
      intro rest
      induction rest with
      | nil => exact fun rows hrows => hrows
      | cons row rest ih => exact fun rows hrows => ih _ (nodup_map_key_assignRow _ row hrows)
    exact hnodup pairs [] List.nodup_nil)

/-- A dictionary of strings as a JSON object. -/
def dictJson (dict : Baggage) : JsonValue :=
  .mapping (dict.members.map fun member => (member.1, .str member.2))

def textJson (text : Text) : JsonValue := .str text.value

section Fields

variable (body : Body) (field message : String)

/-- A required text field that must not be blank. -/
def requiredText : Except ValidationError Text :=
  match body.lookup field with
  | none => .error ⟨field, "Field required"⟩
  | some (.str value) =>
      match Text.ofString? value with
      | some text => .ok text
      | none => .error ⟨field, "Value error, " ++ message⟩
  | some _ => .error ⟨field, "Input should be a valid string"⟩

/-- An optional text field that must not be blank. -/
def optionalText : Except ValidationError (Option Text) :=
  match body.lookup field with
  | none => .ok none
  | some .null => .ok none
  | some _ => (requiredText body field message).map some

/-- A text field with a default. -/
def defaultText (default : Text) : Except ValidationError Text :=
  match body.lookup field with
  | none => .ok default
  | some _ => requiredText body field message

/-- The pairs of an object whose values are strings. -/
def stringPairs : Body → Option Pairs
  | [] => some []
  | (key, .str value) :: rest => (stringPairs rest).map ((key, value) :: ·)
  | _ :: _ => none

/-- A field `dict[str, str]` without default. -/
def requiredDict : Except ValidationError Baggage :=
  match body.lookup field with
  | none => .error ⟨field, "Field required"⟩
  | some (.mapping members) =>
      match stringPairs members with
      | some pairs => .ok (pairsDict pairs)
      | none => .error ⟨field, "Input should be a valid string"⟩
  | some _ => .error ⟨field, "Input should be a valid dictionary"⟩

/-- A field `dict[str, str]` that is empty by default. -/
def defaultDict : Except ValidationError Baggage :=
  match body.lookup field with
  | none => .ok .empty
  | some _ => requiredDict body field

/-- A field `dict[str, str] | None`. -/
def optionalDict : Except ValidationError (Option Baggage) :=
  match body.lookup field with
  | none => .ok none
  | some .null => .ok none
  | some _ => (requiredDict body field).map some

/-- `_validate_enum_value`. -/
def enumField (α : Type) [StrEnum α] : Except ValidationError α :=
  match body.lookup field with
  | none => .error ⟨field, "Field required"⟩
  | some (.str value) =>
      match StrEnum.parse? value with
      | some member => .ok member
      | none =>
          .error ⟨field, "Value error, " ++ field ++ " must be one of [" ++
            ", ".intercalate ((sortBy id (StrEnum.members.map
              (StrEnum.value : α → String))).map PyError.quoted) ++ "]"⟩
  | some _ => .error ⟨field, "Input should be a valid string"⟩

/-- `extra="forbid"`. -/
def forbidExtra (fields : List String) : Except ValidationError Unit :=
  match body.find? fun member => member.1 ∉ fields with
  | none => .ok ()
  | some (key, _) => .error ⟨key, "Extra inputs are not permitted"⟩

end Fields

/-- `_parse_wire_datetime`. -/
def parseWireDatetime (readers : Readers) (fieldName value : String) :
    Except WireError DateTime :=
  if isBlank value then
    .error (.valueError (fieldName ++ " must be a non-empty ISO-8601 string"))
  else
    let normalized :=
      if value.toList.getLast? = some 'Z' then
        String.ofList (value.toList.dropLast ++ "+00:00".toList)
      else value
    match fromisoformat readers.otherDateTimes normalized with
    | none => .error (.valueError (fieldName ++ " must be valid ISO-8601"))
    | some .naive => .error (.valueError (fieldName ++ " must be timezone-aware"))
    | some (.aware at_) => .ok at_

/-- The field validator of a wire datetime. -/
def checkedTime (readers : Readers) (field value : String) :
    Except ValidationError String :=
  match parseWireDatetime readers field value with
  | .ok _ => .ok value
  | .error (.valueError message) => .error ⟨field, "Value error, " ++ message⟩
  | .error _ => .error ⟨field, "Value error"⟩

/-- A required wire datetime. -/
def requiredTime (readers : Readers) (body : Body) (field : String) :
    Except ValidationError String :=
  match body.lookup field with
  | none => .error ⟨field, "Field required"⟩
  | some (.str value) => checkedTime readers field value
  | some _ => .error ⟨field, "Input should be a valid string"⟩

/-- An optional wire datetime. -/
def optionalTime (readers : Readers) (body : Body) (field : String) :
    Except ValidationError (Option String) :=
  match body.lookup field with
  | none => .ok none
  | some .null => .ok none
  | some _ => (requiredTime readers body field).map some

structure CorrelationContextSchema where
  correlationId : Text
  causationId : Option Text
  parentExecutionId : Option Text
  workflowRunId : Option Text
  taskRunId : Option Text
  taskAttemptId : Option Text
  ingestionRunId : Option Text
  transformationExecutionId : Option Text
  traceId : Option Text
  spanId : Option Text
  traceparent : Option Text
  tracestate : Option Text
  baggage : Option Baggage

structure WorkflowExecutionReferenceSchema where
  workflowRunId : Text
  workflowDefinitionId : Text
  status : Option Text
  startedAt : Option String
  owner : Text
  nameSpace : Text
  contractVersion : Text

structure ExternalRunRefSchema where
  provider : Text
  externalRunId : Text
  kind : Text
  statusHint : Option Text
  statusLocator : Option Text
  correlationId : Option Text
  causationId : Option Text
  metadata : Baggage
  nameSpace : Text
  contractVersion : Text

structure FailureEvidenceSchema where
  errorCode : Text
  category : FailureCategory
  retryability : Retryability
  uncertainty : OutcomeUncertainty
  correlationId : Text
  sourceFramework : Text
  workflowRunId : Option Text
  taskRunId : Option Text
  taskAttemptId : Option Text
  externalRun : Option ExternalRunRefSchema
  sourceComponent : Option Text
  providerCode : Option Text
  messageSummary : Option Text
  occurredAt : String
  details : Baggage
  contractVersion : Text

structure DiagnosticSchema where
  code : Text
  severity : DiagnosticSeverity
  summary : Text
  details : Baggage
  workflowRunId : Option Text
  taskRunId : Option Text
  taskAttemptId : Option Text
  correlationId : Option Text
  sourceComponent : Option Text
  decisionContext : Option Text
  relatedPolicy : Option Text
  sourceFramework : Text

/-- An instance of one of the boundary schemas. -/
inductive BoundarySchema where
  | correlationContext (schema : CorrelationContextSchema)
  | workflowExecutionReference (schema : WorkflowExecutionReferenceSchema)
  | externalRunRef (schema : ExternalRunRefSchema)
  | failureEvidence (schema : FailureEvidenceSchema)
  | diagnostic (schema : DiagnosticSchema)

/-- The members of a model in the order of its fields; `None` is `none`. -/
abbrev Dump := List (String × Option JsonValue)

/-- `exclude_none=True`. -/
def Dump.present (dump : Dump) : Body :=
  dump.filterMap fun member => member.2.map fun value => (member.1, value)

namespace CorrelationContextSchema

def dump (schema : CorrelationContextSchema) : Dump :=
  [("correlation_id", some (textJson schema.correlationId)),
    ("causation_id", schema.causationId.map textJson),
    ("parent_execution_id", schema.parentExecutionId.map textJson),
    ("workflow_run_id", schema.workflowRunId.map textJson),
    ("task_run_id", schema.taskRunId.map textJson),
    ("task_attempt_id", schema.taskAttemptId.map textJson),
    ("ingestion_run_id", schema.ingestionRunId.map textJson),
    ("transformation_execution_id", schema.transformationExecutionId.map textJson),
    ("trace_id", schema.traceId.map textJson),
    ("span_id", schema.spanId.map textJson),
    ("traceparent", schema.traceparent.map textJson),
    ("tracestate", schema.tracestate.map textJson),
    ("baggage", schema.baggage.map dictJson)]

def fields : List String :=
  ["correlation_id", "causation_id", "parent_execution_id", "workflow_run_id", "task_run_id",
    "task_attempt_id", "ingestion_run_id", "transformation_execution_id", "trace_id",
    "span_id", "traceparent", "tracestate", "baggage"]

def blank : String := "correlation context text fields must not be blank"

def validate (body : Body) : Except ValidationError CorrelationContextSchema := do
  forbidExtra body fields
  return {
    correlationId := ← requiredText body "correlation_id" blank
    causationId := ← optionalText body "causation_id" blank
    parentExecutionId := ← optionalText body "parent_execution_id" blank
    workflowRunId := ← optionalText body "workflow_run_id" blank
    taskRunId := ← optionalText body "task_run_id" blank
    taskAttemptId := ← optionalText body "task_attempt_id" blank
    ingestionRunId := ← optionalText body "ingestion_run_id" blank
    transformationExecutionId := ← optionalText body "transformation_execution_id" blank
    traceId := ← optionalText body "trace_id" blank
    spanId := ← optionalText body "span_id" blank
    traceparent := ← optionalText body "traceparent" blank
    tracestate := ← optionalText body "tracestate" blank
    baggage := ← optionalDict body "baggage" }

end CorrelationContextSchema

namespace WorkflowExecutionReferenceSchema

def dump (schema : WorkflowExecutionReferenceSchema) : Dump :=
  [("workflow_run_id", some (textJson schema.workflowRunId)),
    ("workflow_definition_id", some (textJson schema.workflowDefinitionId)),
    ("status", schema.status.map textJson),
    ("started_at", schema.startedAt.map JsonValue.str),
    ("owner", some (textJson schema.owner)),
    ("namespace", some (textJson schema.nameSpace)),
    ("contract_version", some (textJson schema.contractVersion))]

def fields : List String :=
  ["workflow_run_id", "workflow_definition_id", "status", "started_at", "owner", "namespace",
    "contract_version"]

def blank : String := "workflow execution reference text fields must not be blank"

def validate (readers : Readers) (body : Body) :
    Except ValidationError WorkflowExecutionReferenceSchema := do
  forbidExtra body fields
  return {
    workflowRunId := ← requiredText body "workflow_run_id" blank
    workflowDefinitionId := ← requiredText body "workflow_definition_id" blank
    status := ← optionalText body "status" blank
    startedAt := ← optionalTime readers body "started_at"
    owner := ← defaultText body "owner" blank (.lit "pyworkflowkit")
    nameSpace := ← defaultText body "namespace" blank
      (.lit "pyworkflowkit.workflow_execution")
    contractVersion := ← defaultText body "contract_version" blank (.lit "1") }

end WorkflowExecutionReferenceSchema

namespace ExternalRunRefSchema

def dump (schema : ExternalRunRefSchema) : Dump :=
  [("provider", some (textJson schema.provider)),
    ("external_run_id", some (textJson schema.externalRunId)),
    ("kind", some (textJson schema.kind)),
    ("status_hint", schema.statusHint.map textJson),
    ("status_locator", schema.statusLocator.map textJson),
    ("correlation_id", schema.correlationId.map textJson),
    ("causation_id", schema.causationId.map textJson),
    ("metadata", some (dictJson schema.metadata)),
    ("namespace", some (textJson schema.nameSpace)),
    ("contract_version", some (textJson schema.contractVersion))]

def fields : List String :=
  ["provider", "external_run_id", "kind", "status_hint", "status_locator", "correlation_id",
    "causation_id", "metadata", "namespace", "contract_version"]

def blank : String := "external run reference text fields must not be blank"

def validate (body : Body) : Except ValidationError ExternalRunRefSchema := do
  forbidExtra body fields
  return {
    provider := ← requiredText body "provider" blank
    externalRunId := ← requiredText body "external_run_id" blank
    kind := ← requiredText body "kind" blank
    statusHint := ← optionalText body "status_hint" blank
    statusLocator := ← optionalText body "status_locator" blank
    correlationId := ← optionalText body "correlation_id" blank
    causationId := ← optionalText body "causation_id" blank
    metadata := ← defaultDict body "metadata"
    nameSpace := ← defaultText body "namespace" blank (.lit "pyworkflowkit.external_run")
    contractVersion := ← defaultText body "contract_version" blank (.lit "1") }

end ExternalRunRefSchema

/-- A field `ExternalRunRefSchema | None`. -/
def optionalExternalRun (body : Body) (field : String) :
    Except ValidationError (Option ExternalRunRefSchema) :=
  match body.lookup field with
  | none => .ok none
  | some .null => .ok none
  | some (.mapping members) =>
      match ExternalRunRefSchema.validate members with
      | .ok schema => .ok (some schema)
      | .error error => .error ⟨field ++ "." ++ error.field, error.reason⟩
  | some _ => .error ⟨field, "Input should be a valid dictionary"⟩

namespace FailureEvidenceSchema

def dump (schema : FailureEvidenceSchema) : Dump :=
  [("error_code", some (textJson schema.errorCode)),
    ("category", some (.str (StrEnum.value schema.category))),
    ("retryability", some (.str (StrEnum.value schema.retryability))),
    ("uncertainty", some (.str (StrEnum.value schema.uncertainty))),
    ("correlation_id", some (textJson schema.correlationId)),
    ("source_framework", some (textJson schema.sourceFramework)),
    ("workflow_run_id", schema.workflowRunId.map textJson),
    ("task_run_id", schema.taskRunId.map textJson),
    ("task_attempt_id", schema.taskAttemptId.map textJson),
    ("external_run", schema.externalRun.map fun run => .mapping run.dump.present),
    ("source_component", schema.sourceComponent.map textJson),
    ("provider_code", schema.providerCode.map textJson),
    ("message_summary", schema.messageSummary.map textJson),
    ("occurred_at", some (.str schema.occurredAt)),
    ("details", some (dictJson schema.details)),
    ("contract_version", some (textJson schema.contractVersion))]

def fields : List String :=
  ["error_code", "category", "retryability", "uncertainty", "correlation_id",
    "source_framework", "workflow_run_id", "task_run_id", "task_attempt_id", "external_run",
    "source_component", "provider_code", "message_summary", "occurred_at", "details",
    "contract_version"]

def blank : String := "failure evidence text fields must not be blank"

def validate (readers : Readers) (body : Body) :
    Except ValidationError FailureEvidenceSchema := do
  forbidExtra body fields
  return {
    errorCode := ← requiredText body "error_code" blank
    category := ← enumField body "category" FailureCategory
    retryability := ← enumField body "retryability" Retryability
    uncertainty := ← enumField body "uncertainty" OutcomeUncertainty
    correlationId := ← requiredText body "correlation_id" blank
    sourceFramework := ← defaultText body "source_framework" blank (.lit "pyworkflowkit")
    workflowRunId := ← optionalText body "workflow_run_id" blank
    taskRunId := ← optionalText body "task_run_id" blank
    taskAttemptId := ← optionalText body "task_attempt_id" blank
    externalRun := ← optionalExternalRun body "external_run"
    sourceComponent := ← optionalText body "source_component" blank
    providerCode := ← optionalText body "provider_code" blank
    messageSummary := ← optionalText body "message_summary" blank
    occurredAt := ← requiredTime readers body "occurred_at"
    details := ← defaultDict body "details"
    contractVersion := ← defaultText body "contract_version" blank (.lit "1") }

end FailureEvidenceSchema

namespace DiagnosticSchema

def dump (schema : DiagnosticSchema) : Dump :=
  [("code", some (textJson schema.code)),
    ("severity", some (.str (StrEnum.value schema.severity))),
    ("summary", some (textJson schema.summary)),
    ("details", some (dictJson schema.details)),
    ("workflow_run_id", schema.workflowRunId.map textJson),
    ("task_run_id", schema.taskRunId.map textJson),
    ("task_attempt_id", schema.taskAttemptId.map textJson),
    ("correlation_id", schema.correlationId.map textJson),
    ("source_component", schema.sourceComponent.map textJson),
    ("decision_context", schema.decisionContext.map textJson),
    ("related_policy", schema.relatedPolicy.map textJson),
    ("source_framework", some (textJson schema.sourceFramework))]

def fields : List String :=
  ["code", "severity", "summary", "details", "workflow_run_id", "task_run_id",
    "task_attempt_id", "correlation_id", "source_component", "decision_context",
    "related_policy", "source_framework"]

def blank : String := "diagnostic text fields must not be blank"

def validate (body : Body) : Except ValidationError DiagnosticSchema := do
  forbidExtra body fields
  return {
    code := ← requiredText body "code" blank
    severity := ← enumField body "severity" DiagnosticSeverity
    summary := ← requiredText body "summary" blank
    details := ← defaultDict body "details"
    workflowRunId := ← optionalText body "workflow_run_id" blank
    taskRunId := ← optionalText body "task_run_id" blank
    taskAttemptId := ← optionalText body "task_attempt_id" blank
    correlationId := ← optionalText body "correlation_id" blank
    sourceComponent := ← optionalText body "source_component" blank
    decisionContext := ← optionalText body "decision_context" blank
    relatedPolicy := ← optionalText body "related_policy" blank
    sourceFramework := ← defaultText body "source_framework" blank (.lit "pyworkflowkit") }

end DiagnosticSchema

/-- `schema.model_dump(mode="json", exclude_none=True)`. -/
def BoundarySchema.body : BoundarySchema → Body
  | .correlationContext schema => schema.dump.present
  | .workflowExecutionReference schema => schema.dump.present
  | .externalRunRef schema => schema.dump.present
  | .failureEvidence schema => schema.dump.present
  | .diagnostic schema => schema.dump.present

/-- The envelope of one boundary contract. -/
structure WireEnvelope where
  contract : Text
  contractVersion : Text
  payload : Body

namespace WireEnvelope

def json (envelope : WireEnvelope) : JsonValue :=
  .mapping [("contract", textJson envelope.contract),
    ("contract_version", textJson envelope.contractVersion),
    ("payload", .mapping envelope.payload)]

def blank : String := "wire envelope text fields must not be blank"

def validate : JsonValue → Except ValidationError WireEnvelope
  | .mapping body => do
      forbidExtra body ["contract", "contract_version", "payload"]
      let contract ← requiredText body "contract" blank
      let contractVersion ← requiredText body "contract_version" blank
      match body.lookup "payload" with
      | none => .error ⟨"payload", "Field required"⟩
      | some (.mapping payload) => .ok ⟨contract, contractVersion, payload⟩
      | some _ => .error ⟨"payload", "Input should be a valid dictionary"⟩
  | _ => .error ⟨"", "Input should be a valid dictionary or instance of WireEnvelopeSchema"⟩

end WireEnvelope

end PyWorkflowKit.Serialization
